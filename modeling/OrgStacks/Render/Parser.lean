import OrgStacks.Render.Expression
import OrgStacks.Render.Token

/-!
# Reading policy texts

From the weakest to the strongest, operators are: conditions, `or`, `and`, `not`, comparisons, sums,
`~`, products, powers, signs, and what follows a value (parts, calls, filters, tests). The first
argument of each function bounds the depth of the calls.
-/

set_option autoImplicit false

namespace OrgStacks.Render.Parser

/-- An expression that was read, and the tokens after it. -/
abbrev Step := Option (Expr × List Token)

abbrev Arguments := List (Option String × Expr)

def skip? (text : String) : List Token → Option (List Token)
  | t :: rest => if t.isMark text then some rest else none
  | [] => none

def skipName? (text : String) : List Token → Option (List Token)
  | t :: rest => if t.isName text then some rest else none
  | [] => none

def constant? : String → Option Value
  | "true" | "True" => some (.bool true)
  | "false" | "False" => some (.bool false)
  | "none" | "None" => some .none
  | _ => none

/-- Names that an assignment cannot set. -/
def isReserved (name : String) : Bool :=
  ["true", "True", "false", "False", "none", "None", "loop", "self"].contains name

def sumOperator? : Token → Option Operator
  | .mark "+" => some .add
  | .mark "-" => some .sub
  | _ => none

def productOperator? : Token → Option Operator
  | .mark "*" => some .mul
  | .mark "/" => some .div
  | .mark "//" => some .floorDiv
  | .mark "%" => some .rem
  | _ => none

def comparison? : Token → Option Operator
  | .mark "==" => some .eq
  | .mark "!=" => some .ne
  | .mark "<" => some .lt
  | .mark "<=" => some .le
  | .mark ">" => some .gt
  | .mark ">=" => some .ge
  | .name "in" => some .isIn
  | _ => none

/-- Whether a token can start the argument of a test that has no parentheses. -/
def startsArgument : Token → Bool
  | .name n => n ∉ ["and", "or", "else", "is", "if", "in", "not"]
  | .str _ | .int _ | .float _ => true
  | .mark m => ["+", "-", "[", "\x7b"].contains m
  | _ => false

mutual

def expr : Nat → List Token → Step
  | 0, _ => none
  | fuel + 1, ts => do
    let (e, ts) ← disjunction fuel ts
    conditions fuel e ts

def conditions : Nat → Expr → List Token → Step
  | 0, _, _ => none
  | fuel + 1, e, ts =>
    match skipName? "if" ts with
    | none => some (e, ts)
    | some ts => do
      let (condition, ts) ← disjunction fuel ts
      match skipName? "else" ts with
      | some ts =>
        let (otherwise, ts) ← expr fuel ts
        conditions fuel (.choice condition e (some otherwise)) ts
      | none => conditions fuel (.choice condition e none) ts

def disjunction : Nat → List Token → Step
  | 0, _ => none
  | fuel + 1, ts => do
    let (e, ts) ← conjunction fuel ts
    disjunctionRest fuel e ts

def disjunctionRest : Nat → Expr → List Token → Step
  | 0, _, _ => none
  | fuel + 1, e, ts =>
    match skipName? "or" ts with
    | none => some (e, ts)
    | some ts => do
      let (right, ts) ← conjunction fuel ts
      disjunctionRest fuel (.either e right) ts

def conjunction : Nat → List Token → Step
  | 0, _ => none
  | fuel + 1, ts => do
    let (e, ts) ← negation fuel ts
    conjunctionRest fuel e ts

def conjunctionRest : Nat → Expr → List Token → Step
  | 0, _, _ => none
  | fuel + 1, e, ts =>
    match skipName? "and" ts with
    | none => some (e, ts)
    | some ts => do
      let (right, ts) ← negation fuel ts
      conjunctionRest fuel (.both e right) ts

def negation : Nat → List Token → Step
  | 0, _ => none
  | fuel + 1, ts =>
    match skipName? "not" ts with
    | some ts => do
      let (e, ts) ← negation fuel ts
      return (.not e, ts)
    | none => do
      let (e, ts) ← sum fuel ts
      comparisons fuel e ts

def comparisons : Nat → Expr → List Token → Step
  | 0, _, _ => none
  | fuel + 1, e, ts =>
    match ts with
    | .name "not" :: rest => do
      let rest ← skipName? "in" rest
      let (right, rest) ← sum fuel rest
      comparisons fuel (.not (.binary .isIn e right)) rest
    | t :: rest =>
      match comparison? t with
      | some op => do
        let (right, rest) ← sum fuel rest
        comparisons fuel (.binary op e right) rest
      | none => some (e, ts)
    | [] => some (e, ts)

def sum : Nat → List Token → Step
  | 0, _ => none
  | fuel + 1, ts => do
    let (e, ts) ← joined fuel ts
    sumRest fuel e ts

def sumRest : Nat → Expr → List Token → Step
  | 0, _, _ => none
  | fuel + 1, e, ts =>
    match ts with
    | t :: rest =>
      match sumOperator? t with
      | some op => do
        let (right, rest) ← joined fuel rest
        sumRest fuel (.binary op e right) rest
      | none => some (e, ts)
    | [] => some (e, ts)

def joined : Nat → List Token → Step
  | 0, _ => none
  | fuel + 1, ts => do
    let (e, ts) ← product fuel ts
    joinedRest fuel e ts

def joinedRest : Nat → Expr → List Token → Step
  | 0, _, _ => none
  | fuel + 1, e, ts =>
    match skip? "~" ts with
    | none => some (e, ts)
    | some ts => do
      let (right, ts) ← product fuel ts
      joinedRest fuel (.binary .concat e right) ts

def product : Nat → List Token → Step
  | 0, _ => none
  | fuel + 1, ts => do
    let (e, ts) ← power fuel ts
    productRest fuel e ts

def productRest : Nat → Expr → List Token → Step
  | 0, _, _ => none
  | fuel + 1, e, ts =>
    match ts with
    | t :: rest =>
      match productOperator? t with
      | some op => do
        let (right, rest) ← power fuel rest
        productRest fuel (.binary op e right) rest
      | none => some (e, ts)
    | [] => some (e, ts)

def power : Nat → List Token → Step
  | 0, _ => none
  | fuel + 1, ts => do
    let (e, ts) ← unary fuel ts
    powerRest fuel e ts

def powerRest : Nat → Expr → List Token → Step
  | 0, _, _ => none
  | fuel + 1, e, ts =>
    match skip? "**" ts with
    | none => some (e, ts)
    | some ts => do
      let (right, ts) ← unary fuel ts
      powerRest fuel (.binary .pow e right) ts

def unary : Nat → List Token → Step
  | 0, _ => none
  | fuel + 1, ts => do
    let (e, ts) ← signed fuel ts
    let (e, ts) ← trailers fuel e ts
    filters fuel e ts

def signed : Nat → List Token → Step
  | 0, _ => none
  | fuel + 1, ts =>
    match skip? "-" ts with
    | some ts => do
      let (e, ts) ← signed fuel ts
      return (.neg e, ts)
    | none => primary fuel ts

def primary : Nat → List Token → Step
  | 0, _ => none
  | fuel + 1, ts =>
    match ts with
    | .name n :: rest => some (((constant? n).map .const).getD (.var n), rest)
    | .str s :: rest => some (.const (.str s), rest)
    | .int n :: rest => some (.const (.int n), rest)
    | .float x :: rest => some (.const (.float x), rest)
    | .mark "(" :: .mark ")" :: rest => some (.list [], rest)
    | .mark "(" :: rest => do
      let (e, rest) ← expr fuel rest
      match skip? "," rest with
      | none => return (e, ← skip? ")" rest)
      | some rest =>
        let (items, rest) ← itemsUpTo fuel ")" rest
        return (.list (e :: items), rest)
    | .mark "[" :: rest => do
      let (items, rest) ← itemsUpTo fuel "]" rest
      return (.list items, rest)
    | .mark "\x7b" :: rest => do
      let (pairs, rest) ← pairsUpTo fuel rest
      return (.map pairs, rest)
    | _ => none

/-- Values between commas up to a closing mark; a comma may stand before the mark. -/
def itemsUpTo : Nat → String → List Token → Option (List Expr × List Token)
  | 0, _, _ => none
  | fuel + 1, close, ts =>
    match skip? close ts with
    | some ts => some ([], ts)
    | none => do
      let (e, ts) ← expr fuel ts
      match skip? "," ts with
      | some ts =>
        let (items, ts) ← itemsUpTo fuel close ts
        return (e :: items, ts)
      | none => return ([e], ← skip? close ts)

def pairsUpTo : Nat → List Token → Option (List (Expr × Expr) × List Token)
  | 0, _ => none
  | fuel + 1, ts =>
    match skip? "\x7d" ts with
    | some ts => some ([], ts)
    | none => do
      let (key, ts) ← expr fuel ts
      let (value, ts) ← expr fuel (← skip? ":" ts)
      match skip? "," ts with
      | some ts =>
        let (pairs, ts) ← pairsUpTo fuel ts
        return ((key, value) :: pairs, ts)
      | none => return ([(key, value)], ← skip? "\x7d" ts)

def trailers : Nat → Expr → List Token → Step
  | 0, _, _ => none
  | fuel + 1, e, ts =>
    match ts with
    | .mark "." :: .name n :: rest => trailers fuel (.attr e n) rest
    | .mark "." :: _ => none
    | .mark "[" :: rest => do
      let (e, rest) ← subscript fuel e rest
      trailers fuel e rest
    | .mark "(" :: rest => do
      let (args, rest) ← arguments fuel rest
      trailers fuel (.call e args) rest
    | _ => some (e, ts)

def subscript : Nat → Expr → List Token → Step
  | 0, _, _ => none
  | fuel + 1, e, ts => do
    let (start, ts) ← optionalPart fuel ts
    match skip? ":" ts with
    | none => return (.item e (← start), ← skip? "]" ts)
    | some ts =>
      let (stop, ts) ← optionalPart fuel ts
      let (step, ts) ← match skip? ":" ts with
        | some ts => optionalPart fuel ts
        | none => some (none, ts)
      return (.slice e start stop step, ← skip? "]" ts)

def optionalPart : Nat → List Token → Option (Option Expr × List Token)
  | 0, _ => none
  | fuel + 1, ts =>
    if (skip? ":" ts).isSome || (skip? "]" ts).isSome then some (none, ts)
    else do
      let (e, ts) ← expr fuel ts
      return (some e, ts)

/-- The arguments of a call, of which those with a name come last. -/
def arguments : Nat → List Token → Option (Arguments × List Token)
  | 0, _ => none
  | fuel + 1, ts =>
    match skip? ")" ts with
    | some ts => some ([], ts)
    | none => do
      let (arg, ts) ← match ts with
        | .name n :: .mark "=" :: rest => do
          let (e, rest) ← expr fuel rest
          some ((some n, e), rest)
        | _ => do
          let (e, rest) ← expr fuel ts
          some (((none : Option String), e), rest)
      let (args, ts) ← match skip? "," ts with
        | some ts => arguments fuel ts
        | none => do pure ([], ← skip? ")" ts)
      if arg.1.isSome && args.any (·.1.isNone) then none
      return (arg :: args, ts)

def optionalArguments : Nat → List Token → Option (Arguments × List Token)
  | 0, _ => none
  | fuel + 1, ts =>
    match skip? "(" ts with
    | some ts => arguments fuel ts
    | none => some ([], ts)

def filters : Nat → Expr → List Token → Step
  | 0, _, _ => none
  | fuel + 1, e, ts =>
    match ts with
    | .mark "|" :: .name n :: rest => do
      let (args, rest) ← optionalArguments fuel rest
      filters fuel (.filter n (some e) args) rest
    | .mark "|" :: _ => none
    | .name "is" :: rest => do
      let (negated, rest) := match skipName? "not" rest with
        | some rest => (true, rest)
        | none => (false, rest)
      match rest with
      | .name n :: rest =>
        let (args, rest) ← match rest with
          | .mark "(" :: rest => arguments fuel rest
          | t :: _ =>
            if startsArgument t then do
              let (arg, rest) ← signed fuel rest
              let (arg, rest) ← trailers fuel arg rest
              some ([((none : Option String), arg)], rest)
            else some ([], rest)
          | [] => some ([], rest)
        let test := Expr.test n e args
        filters fuel (if negated then .not test else test) rest
      | _ => none
    | _ => some (e, ts)

end

def plainExpr (fuel : Nat) (ts : List Token) : Step := disjunction fuel ts

mutual

/-- A name, a part of a name space, or several targets between commas. -/
def target : Nat → List Token → Option (Target × List Token)
  | 0, _ => none
  | fuel + 1, ts => do
    let (first, ts) ← oneTarget fuel ts
    match skip? "," ts with
    | none => return (first, ts)
    | some _ =>
      let (rest, ts) ← moreTargets fuel ts
      return (.tuple (first :: rest), ts)

def oneTarget : Nat → List Token → Option (Target × List Token)
  | 0, _ => none
  | fuel + 1, ts =>
    match ts with
    | .mark "(" :: rest => do
      let (t, rest) ← target fuel rest
      return (t, ← skip? ")" rest)
    | .name n :: rest => if isReserved n then none else targetParts fuel (.var n) rest
    | _ => none

def targetParts : Nat → Expr → List Token → Option (Target × List Token)
  | 0, _, _ => none
  | fuel + 1, e, ts =>
    match ts with
    | .mark "." :: .name n :: rest =>
      match rest with
      | .mark "." :: _ => targetParts fuel (.attr e n) rest
      | _ => some (.attr e n, rest)
    | _ => match e with
      | .var n => some (.name n, ts)
      | _ => none

def moreTargets : Nat → List Token → Option (List Target × List Token)
  | 0, _ => none
  | fuel + 1, ts =>
    match skip? "," ts with
    | none => some ([], ts)
    | some ts =>
      match ts with
      | .name "in" :: _ | .mark "=" :: _ | .mark ")" :: _ => some ([], ts)
      | _ => do
        let (t, ts) ← oneTarget fuel ts
        let (rest, ts) ← moreTargets fuel ts
        return (t :: rest, ts)

end

def assignments : Nat → List Token → Option (List (Target × Expr) × List Token)
  | 0, _ => none
  | fuel + 1, ts =>
    match ts with
    | .statementEnd :: _ => some ([], ts)
    | _ => do
      let (t, ts) ← oneTarget fuel ts
      let (e, ts) ← expr fuel (← skip? "=" ts)
      match skip? "," ts with
      | some ts =>
        let (rest, ts) ← assignments fuel ts
        return ((t, e) :: rest, ts)
      | none => return ([(t, e)], ts)

/-- The parameters of a macro up to the closing parenthesis. After one with a default value all have
one. -/
def parameters : Nat → Bool → List Token → Option (List (String × Option Expr) × List Token)
  | 0, _, _ => none
  | fuel + 1, defaults, ts =>
    match skip? ")" ts with
    | some ts => some ([], ts)
    | none =>
      match ts with
      | .name n :: rest => do
        if isReserved n then none
        let (value, rest) ← match skip? "=" rest with
          | some rest => do
            let (e, rest) ← expr fuel rest
            some (some e, rest)
          | none => if defaults then none else some (none, rest)
        let (more, rest) ← match skip? "," rest with
          | some rest => parameters fuel value.isSome rest
          | none => do pure ([], ← skip? ")" rest)
        return ((n, value) :: more, rest)
      | _ => none

def blockFilters : Nat → Option Expr → List Token → Step
  | 0, _, _ => none
  | fuel + 1, e, ts =>
    match ts with
    | .name n :: rest => do
      let (args, rest) ← optionalArguments fuel rest
      let f := Expr.filter n e args
      match skip? "|" rest with
      | some rest => blockFilters fuel (some f) rest
      | none => return (f, rest)
    | _ => none

def close? : List Token → Option (List Token)
  | .statementEnd :: rest => some rest
  | _ => none

/-- The end of a block, which may repeat its name. -/
def closeNamed? (name : String) (ts : List Token) : Option (List Token) :=
  match ts with
  | .name n :: rest => if n = name then close? rest else none
  | _ => close? ts

mutual

/-- Statements up to one that starts with one of the words, which is left with its word. -/
def body : Nat → List String → List Token → Option (List Statement × List Token)
  | 0, _, _ => none
  | fuel + 1, ends, ts =>
    match ts with
    | [] => if ends.isEmpty then some ([], []) else none
    | .data text :: rest => do
      let (statements, rest) ← body fuel ends rest
      return (.data text :: statements, rest)
    | .expressionStart :: rest => do
      let (e, rest) ← expr fuel rest
      match rest with
      | .expressionEnd :: rest =>
        let (statements, rest) ← body fuel ends rest
        return (.emit e :: statements, rest)
      | _ => none
    | .statementStart :: .name word :: rest =>
      if ends.contains word then some ([], .name word :: rest)
      else do
        let (s, rest) ← statement fuel word rest
        let (statements, rest) ← body fuel ends rest
        return (s ++ statements, rest)
    | _ => none

def statement : Nat → String → List Token → Option (List Statement × List Token)
  | 0, _, _ => none
  | fuel + 1, word, ts =>
    match word with
    | "if" => branch fuel ts
    | "for" => do
      let (t, ts) ← target fuel ts
      let (collection, ts) ← plainExpr fuel (← skipName? "in" ts)
      let (condition, ts) ← match skipName? "if" ts with
        | some ts => do
          let (e, ts) ← expr fuel ts
          some (some e, ts)
        | none => some (none, ts)
      let ts := (skipName? "recursive" ts).getD ts
      let (inside, ts) ← body fuel ["endfor", "else"] (← close? ts)
      let (otherwise, ts) ← match skipName? "else" ts with
        | some ts => body fuel ["endfor"] (← close? ts)
        | none => some ([], ts)
      return ([.loop t collection condition inside otherwise], ← close? (ts.drop 1))
    | "set" => do
      let (t, ts) ← target fuel ts
      match skip? "=" ts with
      | some ts =>
        let (e, ts) ← expr fuel ts
        return ([.assign t e], ← close? ts)
      | none =>
        let (filter, ts) ← match skip? "|" ts with
          | some ts => do
            let (f, ts) ← blockFilters fuel none ts
            some (some f, ts)
          | none => some (none, ts)
        let (inside, ts) ← body fuel ["endset"] (← close? ts)
        return ([.capture t filter inside], ← close? (ts.drop 1))
    | "with" => do
      let (as, ts) ← assignments fuel ts
      let (inside, ts) ← body fuel ["endwith"] (← close? ts)
      return ([.scoped as inside], ← close? (ts.drop 1))
    | "filter" => do
      let (f, ts) ← blockFilters fuel none ts
      let (inside, ts) ← body fuel ["endfilter"] (← close? ts)
      return ([.filtered f inside], ← close? (ts.drop 1))
    | "macro" => match ts with
      | .name n :: .mark "(" :: ts => do
        let (ps, ts) ← parameters fuel false ts
        let (inside, ts) ← body fuel ["endmacro"] (← close? ts)
        return ([.define n ps inside], ← closeNamed? n (ts.drop 1))
      | _ => none
    | "block" => match ts with
      | .name n :: ts => do
        let (inside, ts) ← body fuel ["endblock"] (← close? ts)
        return ([.scoped [] inside], ← closeNamed? n (ts.drop 1))
      | _ => none
    | "autoescape" => do
      let (e, ts) ← expr fuel ts
      let (inside, ts) ← body fuel ["endautoescape"] (← close? ts)
      match e with
      | .const (.bool false) | .const .none =>
        return ([.scoped [] inside], ← close? (ts.drop 1))
      | _ => none
    | "do" => do
      let (e, ts) ← expr fuel ts
      match e with
      | .call .. => return ([.perform e], ← close? ts)
      | _ => none
    | "include" => do
      let (_, ts) ← expr fuel ts
      match skipName? "ignore" ts with
      | some ts => return ([.other true], ← close? (← skipName? "missing" ts))
      | none => return ([.other false], ← close? ts)
    | "extends" => do
      let (_, ts) ← expr fuel ts
      return ([.other false], ← close? ts)
    | _ => none

def branch : Nat → List Token → Option (List Statement × List Token)
  | 0, _ => none
  | fuel + 1, ts => do
    let (condition, ts) ← expr fuel ts
    let (inside, ts) ← body fuel ["elif", "else", "endif"] (← close? ts)
    match ts with
    | .name "elif" :: ts =>
      let (otherwise, ts) ← branch fuel ts
      return ([.branch condition inside otherwise], ts)
    | .name "else" :: ts =>
      let (otherwise, ts) ← body fuel ["endif"] (← close? ts)
      return ([.branch condition inside otherwise], ← close? (ts.drop 1))
    | ts => return ([.branch condition inside []], ← close? (ts.drop 1))

end

/-- The statements of a policy text. -/
def read? (text : String) : Option (List Statement) := do
  let tokens ← Token.ofText? text
  let (statements, _) ← body (32 * tokens.length + 64) [] tokens
  return statements

end OrgStacks.Render.Parser
