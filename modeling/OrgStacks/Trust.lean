import OrgStacks.Account.Selection
import OrgStacks.Policy.Document

/-!
# Who may assume a role

A trust token names one account, the sign-in provider of the parent, or a service principal; an
account comes first. The document lists account and service statements before those of the provider,
each in the order of the tokens.
-/

set_option autoImplicit false

namespace OrgStacks

inductive Trust where
  | account (name : String)
  | saml (provider : String)
  | service (principal : String)
deriving DecidableEq, Inhabited

namespace Trust

def isSaml : Trust → Bool
  | saml _ => true
  | _ => false

/-- Two or more parts of letters, digits, hyphens and underscores with points between them. -/
def isServicePrincipal (text : String) : Bool :=
  let parts := Text.splitOnChar '.' text.toList
  2 ≤ parts.length && parts.all fun part =>
    !part.isEmpty && part.all fun c => c.isAlphanum || c == '_' || c == '-'

end Trust

namespace Registry

/-- The single account that a token selects; otherwise the provider, then a service principal. -/
def trust (r : Registry) (token : String) : Except Problem Trust := do
  let selected ← match r.selectOne token with
    | .ok accounts => .ok accounts.toList
    | .error (.unresolvedPattern _) => .ok []
    | .error e => .error e
  match selected with
  | [account] => .ok (.account account)
  | _ =>
    if r.samlProvider = some token then .ok (.saml token)
    else if Trust.isServicePrincipal token then .ok (.service token)
    else match selected with
      | [] => .error (.unknownTrust token)
      | _ => .error (.ambiguousTrust token selected)

def samlProviderArn (r : Registry) (provider : String) : String :=
  "arn:aws:iam::" ++ r.parent.id ++ ":saml-provider/" ++ provider

def trustStatement (r : Registry) : Trust → Except Problem Statement
  | .account name => (r.account name).map fun a => .trust (.aws a.rootArn)
  | .saml provider => .ok (.samlTrust (r.samlProviderArn provider))
  | .service principal => .ok (.trust (.service principal))

def trustDocument (r : Registry) (tokens : List String) : Except Problem PolicyDocument := do
  let granted ← tokens.mapM fun token => do
    let t ← r.trust token
    let s ← r.trustStatement t
    return (t, s)
  let direct := granted.filter fun g => !g.1.isSaml
  let federated := granted.filter fun g => g.1.isSaml
  return { statements := (direct ++ federated).map Prod.snd }

end Registry

end OrgStacks
