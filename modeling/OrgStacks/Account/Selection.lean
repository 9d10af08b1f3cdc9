import OrgStacks.Account
import OrgStacks.Pattern.Reader

/-!
# Selecting accounts

A token is a keyword, a service principal (anything with a point), the sign-in provider of the
parent, or a pattern that is matched from the start of every id and every name. Services and the
provider select no account. `all` and `children` replace what the tokens before them selected.
`Registry.selection` says the same without an accumulator.
-/

set_option autoImplicit false

namespace OrgStacks

inductive Keyword where
  | all | parent | children
deriving DecidableEq, Inhabited

namespace Keyword

def name : Keyword → String
  | all => "all"
  | parent => "parent"
  | children => "children"

def ofName? (text : String) : Option Keyword :=
  [all, parent, children].find? fun k => k.name == text

end Keyword

inductive Token where
  | keyword (k : Keyword)
  | service (text : String)
  | saml (text : String)
  | pattern (text : String)
deriving DecidableEq, Inhabited

def Token.classify (r : Registry) (text : String) : Token :=
  match Keyword.ofName? text with
  | some k => .keyword k
  | none =>
    if text.toList.contains '.' then .service text
    else if r.samlProvider = some text then .saml text
    else .pattern text

namespace Registry

/-- The expression of a token: the token stands inside a group at the start of the text. -/
def patternText (token : String) : String := "^(?:" ++ token ++ ")"

/-- The accounts whose id or name matches, at least one. -/
def matching (r : Registry) (token : String) : Except Problem NameSet :=
  match Pattern.read? (patternText token) with
  | none => .error (.invalidPattern token "not a regular expression within the limits")
  | some re =>
    match r.toList.filter fun a => re.foundIn a.id || re.foundIn a.name with
    | [] => .error (.unresolvedPattern token)
    | found => .ok (.ofList (found.map Account.name))

def selectStep (r : Registry) (selected : NameSet) (text : String) : Except Problem NameSet :=
  match Token.classify r text with
  | .keyword .all => .ok r.all
  | .keyword .children => .ok r.children
  | .keyword .parent => .ok (selected.insert r.parent.name)
  | .service _ => .ok selected
  | .saml _ => .ok selected
  | .pattern token => (r.matching token).map selected.union

def select (r : Registry) (tokens : List String) : Except Problem NameSet :=
  tokens.foldlM r.selectStep .empty

def selectOne (r : Registry) (token : String) : Except Problem NameSet := r.select [token]

/-- What a single token selects by itself. -/
def selectedBy (r : Registry) (text : String) : Except Problem NameSet :=
  match Token.classify r text with
  | .keyword .all => .ok r.all
  | .keyword .children => .ok r.children
  | .keyword .parent => .ok (NameSet.empty.insert r.parent.name)
  | .service _ => .ok .empty
  | .saml _ => .ok .empty
  | .pattern token => r.matching token

/-- Whether a token discards what the tokens before it selected. -/
def replaces (text : String) : Bool := text == "all" || text == "children"

/-- The tokens from the last replacing one onward; all of them when there is none. -/
def fromLastReplacing (tokens : List String) : List String :=
  match (tokens.reverse.span fun t => !replaces t) with
  | (after, last :: _) => last :: after.reverse
  | (after, []) => after.reverse

/-- The first failure of any token, and otherwise the union of what the tokens from the last
replacing one onward select. -/
def selection (r : Registry) (tokens : List String) : Except Problem NameSet := do
  let _ ← tokens.mapM r.selectedBy
  let sets ← (fromLastReplacing tokens).mapM r.selectedBy
  return sets.foldl NameSet.union .empty

end Registry

end OrgStacks
