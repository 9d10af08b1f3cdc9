import OrgStacks.Render.Operator
import OrgStacks.Text.Case

/-!
# Filters and tests of policy texts

A filter changes a value and a test asks a question about it. Texts are compared without regard to
case where nothing else is said. Except for `default` and for tests, a value has to be there.
-/

set_option autoImplicit false

namespace OrgStacks.Render

structure Arguments where
  values : List Value := []
  named : List (String × Value) := []

namespace Arguments

/-- Fails when an argument has a name that is not among those given. -/
def allow (a : Arguments) (names : List String) : Result Unit :=
  if a.named.all fun n => names.contains n.1 then .ok () else .error "unknown named argument"

def named? (a : Arguments) (name : String) : Option Value :=
  (a.named.find? fun n => n.1 == name).map (·.2)

def flag (a : Arguments) (name : String) : Result Bool :=
  match a.named? name with
  | some v => v.isTrue
  | none => .ok false

end Arguments

namespace Filter

def wrongArguments {α : Type} : Result α := .error "wrong arguments"

def folded : Value → Value
  | .str s => .str (Text.lower s)
  | v => v

def pathOf (path : String) (v : Value) : Value :=
  ((Text.splitOnChar '.' path.toList).map String.ofList).foldl (fun v name =>
    let key := if Text.isDigits name then .int (Decimal.natOfDigits name.toList) else .str name
    (v.item? key).getD (.undefined false)) v

def sortBy (key : Value → Value) (items : List Value) : List Value :=
  items.mergeSort fun a b => Value.order (key a) (key b) != .gt

def sortKey (a : Arguments) : Result (Value → Value) := do
  let caseful ← a.flag "case_sensitive"
  let part ← match a.named? "attribute" with
    | some (.str path) => .ok (pathOf path)
    | some .none | none => .ok id
    | some _ => wrongArguments
  return fun v => if caseful then part v else folded (part v)

def sorted (a : Arguments) (items : List Value) : Result (List Value) := do
  a.allow ["case_sensitive", "attribute", "reverse"]
  let items := sortBy (← sortKey a) items
  return if ← a.flag "reverse" then items.reverse else items

def unique (key : Value → Value) (items : List Value) : List Value :=
  (items.foldl (fun (kept : List Value) v =>
    if kept.any fun k => Value.same (key k) (key v) then kept else v :: kept) []).reverse

/-- The texts of the items with a text between them, which is left out while nothing was written. -/
def joined (between : String) (items : List Value) : String :=
  items.foldl (fun text v => text ++ (if text.isEmpty then "" else between) ++ v.text) ""

def replaceAll (old new : List Char) : Nat → List Char → List Char
  | 0, cs => cs
  | fuel + 1, cs =>
    match Text.splitFirst? old cs with
    | none => cs
    | some (before, rest) => before ++ new ++ replaceAll old new fuel rest

/-- A text with every occurrence of another replaced; an empty one occurs around each character. -/
def replace (text old new : String) : String :=
  if old.isEmpty then
    new ++ String.join (text.toList.map fun c => String.singleton c ++ new)
  else String.ofList (replaceAll old.toList new.toList (text.length + 1) text.toList)

def trimChars (text chars : String) : String :=
  let drop := List.dropWhile fun c => chars.toList.contains c
  String.ofList (drop (drop text.toList).reverse).reverse

def splitAll (sep : List Char) : Nat → List Char → List (List Char)
  | 0, cs => [cs]
  | fuel + 1, cs =>
    match Text.splitFirst? sep cs with
    | none => [cs]
    | some (before, rest) => before :: splitAll sep fuel rest

def escapeMarkup (text : String) : String :=
  String.join <| text.toList.map fun c =>
    if c = '&' then "&amp;" else if c = '<' then "&lt;" else if c = '>' then "&gt;"
    else if c = '"' then "&quot;" else if c = '\'' then "&#x27;" else if c = '/' then "&#x2f;"
    else String.singleton c

def title (text : String) : String :=
  let step (state : String × Bool) (c : Char) : String × Bool :=
    if Text.isSpace c || (c.toNat < 0x80 && 0x20 < c.toNat && !c.isAlphanum) then
      (state.1.push c, true)
    else if state.2 then (state.1 ++ Text.upper (String.singleton c), false)
    else (state.1 ++ Text.lower (String.singleton c), false)
  (text.toList.foldl step ("", true)).1

def toInt (v : Value) : Result Value :=
  match v with
  | .float x =>
    if Decimal.isFinite x && x.abs < 1.0e18 then
      .ok (.int (if x < 0.0 then -((-x).toUInt64.toNat : Int) else x.toUInt64.toNat))
    else .error "the value is no whole number"
  | .str s =>
    let (negative, digits) := match s.toList with
      | '-' :: cs => (true, cs)
      | '+' :: cs => (false, cs)
      | cs => (false, cs)
    let size : Int := Decimal.natOfDigits digits
    if digits.isEmpty || !digits.all Char.isDigit then .error "the text is no whole number"
    else Operator.inRange (if negative then -size else size)
  | v => match v.whole? with
    | some n => .ok (.int n)
    | none => .error "the value is no whole number"

def toFloat (v : Value) : Result Value :=
  match v.fraction? with
  | some x => .ok (.float x)
  | none => .error "the value is no number"

def round (x : Float) (places : Int) : Float :=
  let scale := Float.pow 10.0 (Float.ofInt places)
  (x * scale).round / scale

def pairList (pairs : List (Value × Value)) : List Value :=
  pairs.map fun p => .list [p.1, p.2]

def dictSort (a : Arguments) (pairs : List (Value × Value)) : Result Value := do
  a.allow ["by", "case_sensitive", "reverse"]
  let caseful ← a.flag "case_sensitive"
  let byValue ← match a.named? "by" with
    | some (.str "value") => .ok true
    | some (.str "key") | none => .ok false
    | some _ => wrongArguments
  let key (p : Value × Value) : Value :=
    let v := if byValue then p.2 else p.1
    if caseful then v else folded v
  let pairs := pairs.mergeSort fun p q => Value.order (key p) (key q) != .gt
  return .list (pairList (if ← a.flag "reverse" then pairs.reverse else pairs))

def plain? (name : String) (v : Value) : Option (Result Value) :=
  match name with
  | "upper" => some (.ok (.str (Text.upper v.text)))
  | "lower" => some (.ok (.str (Text.lower v.text)))
  | "title" => some (.ok (.str (title v.text)))
  | "capitalize" => some (.ok (.str (Text.capitalize v.text)))
  | "length" | "count" => some (v.length.map fun n => .int n)
  | "items" => some (match v with
    | .map pairs => .ok (.list (pairList pairs))
    | _ => .error "the value has no pairs")
  | "list" => some (v.items.map .list)
  | "first" => some (match v with
    | .none => .error "the value has no first item"
    | v => v.items.map fun items => items.head?.getD (.undefined false))
  | "last" => some (match v with
    | .none => .error "the value has no last item"
    | v => v.items.map fun items => items.getLast?.getD (.undefined false))
  | "reverse" => some (match v with
    | .none => .ok .none
    | .str s => .ok (.str (String.ofList s.toList.reverse))
    | v => v.items.map fun items => .list items.reverse)
  | "min" => some (v.items.map fun items => (sortBy id items).head?.getD (.undefined false))
  | "max" => some (v.items.map fun items => (sortBy id items).getLast?.getD (.undefined false))
  | "sum" => some (do (← v.items).foldlM (Operator.arithmetic .add) (.int 0))
  | "abs" => some (match v with
    | .int n => Operator.inRange n.natAbs
    | .float x => .ok (.float x.abs)
    | _ => .error "the value is no number")
  | "int" => some (toInt v)
  | "float" => some (toFloat v)
  | "bool" => some (v.isTrue.map .bool)
  | "string" => some (.ok (.str v.text))
  | "safe" => some (.ok v)
  | "escape" | "e" => some (.ok (.str (escapeMarkup v.text)))
  | "lines" => some (.ok (.list ((Text.splitOnChar '\n' v.text.toList).map fun l =>
    .str (String.ofList (if l.getLast? = some '\r' then l.dropLast else l)))))
  | _ => none

def withArguments (name : String) (v : Value) (a : Arguments) : Result Value :=
  match name, a.values with
  | "trim", [] => do a.allow []; return .str (String.ofList (Text.trim v.text.toList))
  | "trim", [chars] => do a.allow []; return .str (trimChars v.text (← chars.defined).text)
  | "replace", [old, new] => do
    a.allow []
    return .str (replace v.text (← old.defined).text (← new.defined).text)
  | "join", [] => do a.allow []; return .str (joined "" (← v.items))
  | "join", [between] => do a.allow []; return .str (joined (← between.defined).text (← v.items))
  | "sort", [] => do return .list (← sorted a (← v.items))
  | "unique", [] => do
    a.allow ["case_sensitive", "attribute"]
    return .list (unique (← sortKey a) (← v.items))
  | "dictsort", [] => match v with
    | .map pairs => dictSort a pairs
    | _ => .error "the value has no pairs"
  | "split", [] => do
    a.allow []
    return .list ((Text.words v.text.toList).map fun w => .str (String.ofList w))
  | "split", [sep] => do
    a.allow []
    let text := v.text.toList
    return .list ((splitAll (← sep.defined).text.toList (text.length + 1) text).map fun w =>
      .str (String.ofList w))
  | "round", places => do
    a.allow ["precision"]
    let places ← match places ++ (a.named? "precision").toList with
      | [] => .ok 0
      | [.int n] => .ok n
      | _ => wrongArguments
    match v with
    | .int n => return .int n
    | .float x => return .float (round x places)
    | _ => .error "the value is no number"
  | "attr", [key] => .ok ((v.item? key).getD (.undefined false))
  | _, _ => .error "unknown filter or wrong arguments"

def basic (name : String) (v : Value) (a : Arguments) : Result Value :=
  match name, a.values with
  | "default", [] | "d", [] => do
    a.allow []
    return if v.isUndefined then .str "" else v
  | "default", [other] | "d", [other] => do
    a.allow []
    return if v.isUndefined then other else v
  | "default", [other, lax] | "d", [other, lax] => do
    a.allow []
    if v.isUndefined then return other
    else if ← lax.isTrue then return if ← v.isTrue then v else other
    else return v
  | name, values => do
    let v ← v.defined
    match plain? name v with
    | some r => if values.isEmpty && a.named.isEmpty then r else wrongArguments
    | none => withArguments name v a

end Filter

namespace Test

def compare? (name : String) (v w : Value) : Option (Result Bool) :=
  let ordered (p : Ordering → Bool) : Option (Result Bool) := some (.ok (p (Value.order v w)))
  match name with
  | "eq" | "equalto" => some (.ok (Value.same v w))
  | "ne" => some (.ok !(Value.same v w))
  | "lt" | "lessthan" => ordered (· == .lt)
  | "le" => ordered (· != .gt)
  | "gt" | "greaterthan" => ordered (· == .gt)
  | "ge" => ordered (· != .lt)
  | "in" => some (Value.holds w v)
  | "startingwith" => some (.ok (Text.startsWith w.text v.text))
  | "endingwith" => some (.ok (Text.endsWith w.text v.text))
  | "divisibleby" => some (match v.whole?, w.whole? with
    | some a, some b => .ok (b ≠ 0 && a % b = 0)
    | _, _ => .ok false)
  | _ => none

def plain? (name : String) (v : Value) : Option Bool :=
  match name with
  | "defined" => some !v.isUndefined
  | "undefined" => some v.isUndefined
  | "none" => some (match v with | .none => true | _ => false)
  | "true" => some (match v with | .bool b => b | _ => false)
  | "false" => some (match v with | .bool b => !b | _ => false)
  | "boolean" => some (match v with | .bool _ => true | _ => false)
  | "number" => some (match v with | .int _ | .float _ => true | _ => false)
  | "integer" | "int" => some (match v with | .int _ => true | _ => false)
  | "float" => some (match v with | .float _ => true | _ => false)
  | "string" => some (match v with | .str _ => true | _ => false)
  | "sequence" => some (match v with | .list _ => true | _ => false)
  | "iterable" => some (match v.items with | .ok _ => true | .error _ => false)
  | "mapping" => some (match v with | .map _ | .spaceAt _ => true | _ => false)
  | "odd" => some (v.whole?.any (· % 2 = 1))
  | "even" => some (v.whole?.any (· % 2 = 0))
  | "safe" | "escaped" => some false
  | "lower" => some (match v with | .str s => Text.lower s == s | _ => false)
  | "upper" => some (match v with | .str s => Text.upper s == s | _ => false)
  | _ => none

def apply (name : String) (v : Value) (a : Arguments) : Result Bool := do
  a.allow []
  match a.values with
  | [] => match plain? name v with
    | some b => .ok b
    | none => .error "unknown test or wrong arguments"
  | [w] => match compare? name v w with
    | some r => r
    | none => .error "unknown test or wrong arguments"
  | _ => .error "unknown test or wrong arguments"

end Test

namespace Filter

def selected (keep : Bool) (part : Value → Value) (values : List Value) (items : List Value) :
    Result (List Value) :=
  items.filterM fun v => do
    let passes ← match values with
      | [] => (part v).isTrue
      | .str test :: rest => Test.apply test (part v) { values := rest }
      | _ => wrongArguments
    return passes == keep

def mapped (a : Arguments) (items : List Value) : Result (List Value) :=
  match a.named? "attribute", a.values with
  | some (.str path), [] => do
    a.allow ["attribute", "default"]
    let missing := (a.named? "default").getD (.undefined false)
    return items.map fun v => match pathOf path v with
      | .undefined _ => missing
      | part => part
  | none, .str filter :: rest => items.mapM fun v => basic filter v { a with values := rest }
  | _, _ => wrongArguments

/-- A filter by its name, of which some apply another filter or a test to every item. -/
def apply (name : String) (v : Value) (a : Arguments) : Result Value :=
  match name, a.values with
  | "map", _ => do return .list (← mapped a (← v.defined >>= Value.items))
  | "select", values => do
    a.allow []
    return .list (← selected true id values (← v.defined >>= Value.items))
  | "reject", values => do
    a.allow []
    return .list (← selected false id values (← v.defined >>= Value.items))
  | "selectattr", .str path :: values => do
    a.allow []
    return .list (← selected true (pathOf path) values (← v.defined >>= Value.items))
  | "rejectattr", .str path :: values => do
    a.allow []
    return .list (← selected false (pathOf path) values (← v.defined >>= Value.items))
  | _, _ => basic name v a

end Filter

end OrgStacks.Render
