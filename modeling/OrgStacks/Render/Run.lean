import OrgStacks.Render.Filter
import OrgStacks.Render.Parser

/-!
# Running policy texts

Names are looked up from the innermost block outward. A loop, a `with` block and a macro have names
of their own; a branch has not. A macro sees the blocks around its definition. Showing, testing or
taking apart a value that is not there fails.
-/

set_option autoImplicit false

namespace OrgStacks.Render

abbrev Frame := List (String × Value)

structure Macro where
  parameters : List (String × Option Expr)
  body : List Statement
  /-- The number of blocks around the definition. -/
  depth : Nat

/-- What statements change: the names, innermost block first, name spaces, macros, and the number of
macros that are being called. -/
structure Scope where
  frames : List Frame
  spaces : Array (List (Value × Value)) := #[]
  macros : Array Macro := #[]
  calls : Nat := 0

abbrev Run := StateT Scope (Except String)

namespace Scope

def lookup? (s : Scope) (name : String) : Option Value :=
  s.frames.findSome? fun frame => (frame.find? fun n => n.1 == name).map (·.2)

/-- A name of the block that a loop makes: the values that it was last asked about. -/
def askedName : String := "loop.changed"

/-- Whether values differ from those that the innermost loop was asked about before, and the scope
that remembers them. -/
def changed (s : Scope) (values : List Value) : Bool × Scope :=
  let isOfLoop (frame : Frame) : Bool := frame.any fun n => n.1 == "loop"
  let inner := s.frames.takeWhile fun frame => !isOfLoop frame
  match s.frames.drop inner.length with
  | [] => (true, s)
  | frame :: outer =>
    let asked : Value := .list values
    let same := (frame.find? fun n => n.1 == askedName).any fun n => Value.same asked n.2
    (!same, { s with frames := inner ++ ((askedName, asked) :: frame) :: outer })

def set (s : Scope) (name : String) (value : Value) : Scope :=
  match s.frames with
  | frame :: frames => { s with frames := ((name, value) :: frame) :: frames }
  | [] => { s with frames := [[(name, value)]] }

end Scope

def setPair (key value : Value) : List (Value × Value) → List (Value × Value)
  | [] => [(key, value)]
  | p :: ps => if Value.same key p.1 then (key, value) :: ps else p :: setPair key value ps

def inBlock {α : Type} (frame : Frame) (run : Run α) : Run α := do
  modify fun s => { s with frames := frame :: s.frames }
  let a ← run
  modify fun s => { s with frames := s.frames.drop 1 }
  return a

/-- A part that is not there is only missed when it is used. -/
def part (v key : Value) : Run Value := do
  let v ← v.defined
  match v with
  | .spaceAt i =>
    let pairs := ((← get).spaces[i]?).getD []
    return (Value.lookup? key pairs).getD (.undefined false)
  | v => return (v.item? key).getD (.undefined false)

def range (start stop step : Int) : Result Value :=
  if step = 0 then .error "the step of a range cannot be zero"
  else
    let count := (if 0 < step then (stop - start + step - 1) / step
      else (start - stop - step - 1) / (-step)).toNat
    if count > 100000 then .error "the range is too long"
    else .ok (.list ((List.range count).map fun (i : Nat) => .int (start + step * i)))

def wholes (values : List Value) : Result (List Int) :=
  values.mapM fun v => match v.whole? with
    | some n => .ok n
    | none => .error "a range needs whole numbers"

def callNamed (name : String) (a : Arguments) : Run Value := do
  match name with
  | "range" =>
    a.allow []
    match ← wholes a.values with
    | [stop] => range 0 stop 1
    | [start, stop] => range start stop 1
    | [start, stop, step] => range start stop step
    | _ => throw "wrong arguments"
  | "dict" | "namespace" =>
    let start ← match a.values with
      | [] => pure []
      | [.map pairs] => pure pairs
      | _ => throw "wrong arguments"
    let pairs := a.named.foldl (fun ps n => setPair (.str n.1) n.2 ps) start
    if name = "dict" then return .map pairs
    let s ← get
    set { s with spaces := s.spaces.push pairs }
    return .spaceAt s.spaces.size
  | _ => throw "unknown function"

/-- The items between two ends, by steps; an end counts from the end of the items when negative. -/
def sliceOf {α : Type} (items : List α) (start stop : Option Int) (step : Nat) : List α :=
  let size : Int := items.length
  let place (n : Int) : Nat := (if n < 0 then max 0 (size + n) else n).toNat
  let first := (start.map place).getD 0
  let chosen := (items.take ((stop.map place).getD items.length)).drop first
  (chosen.zipIdx.filter fun p => p.2 % step = 0).map (·.1)

/-- The items from a start down to a stop, which is left out; without it, down to the first. -/
def sliceBackOf {α : Type} (items : List α) (start stop : Option Int) (step : Nat) : List α :=
  let size : Int := items.length
  let place (n : Int) : Int := if n < 0 then max 0 (size + n) else n
  let first := min (size - 1) ((start.map place).getD (size - 1))
  let last := (stop.map place).getD (-1)
  let chosen := ((items.take (first + 1).toNat).drop (last + 1).toNat).reverse
  (chosen.zipIdx.filter fun p => p.2 % step = 0).map (·.1)

def slice (v : Value) (start stop step : Value) : Result Value := do
  let bound : Value → Result (Option Int)
    | .none => .ok none
    | w => match w.whole? with
      | some n => .ok (some n)
      | none => .error "the end of a slice is no whole number"
  let start ← bound start
  let stop ← bound stop
  let step ← bound step
  let step := step.getD 1
  if step = 0 then .error "cannot slice by a step of zero"
  let part {α : Type} (items : List α) : List α :=
    if 0 < step then sliceOf items start stop step.toNat
    else sliceBackOf items start stop (-step).toNat
  match v with
  | .str s => return .str (String.ofList (part s.toList))
  | .list items => return .list (part items)
  | .none => return .list []
  | _ => .error "the value cannot be sliced"

/-- How many macros may call one another. -/
def maxCalls : Nat := 80

/-- The arguments of a macro under its parameters; a parameter without an argument is not there. -/
def bindParameters (parameters : List String) (a : Arguments) : Result Frame := do
  if a.values.length > parameters.length then .error "too many arguments"
  let given := parameters.zip a.values
  if a.named.any fun n => !parameters.contains n.1 || given.any fun g => g.1 == n.1 then
    .error "an argument is unknown or given twice"
  return parameters.map fun p =>
    (p, (((given ++ a.named).find? fun g => g.1 == p).map (·.2)).getD (.undefined false))

mutual

def eval : Nat → Expr → Run Value
  | 0, _ => throw "too deep"
  | fuel + 1, e =>
    match e with
    | .const v => return v
    | .var name => return ((← get).lookup? name).getD (.undefined false)
    | .list items => return .list (← items.mapM (eval fuel))
    | .map pairs => return .map (← pairs.foldlM (fun read p => do
        let key ← eval fuel p.1
        return setPair key (← eval fuel p.2) read) [])
    | .not e => return .bool !(← (← eval fuel e).isTrue)
    | .neg e => do Operator.negate (← eval fuel e)
    | .both a b => do
      let v ← eval fuel a
      if ← v.isTrue then eval fuel b else return v
    | .either a b => do
      let v ← eval fuel a
      if ← v.isTrue then return v else eval fuel b
    | .binary op a b => do
      let v ← eval fuel a
      op.apply v (← eval fuel b)
    | .choice condition value otherwise => do
      if ← (← eval fuel condition).isTrue then eval fuel value
      else match otherwise with
        | some e => eval fuel e
        | none => return .undefined true
    | .attr e name => do part (← eval fuel e) (.str name)
    | .item e key => do
      let v ← eval fuel e
      part v (← eval fuel key)
    | .slice e start stop step => do
      let v ← eval fuel e
      let start ← evalOptional fuel start
      let stop ← evalOptional fuel stop
      slice (← v.defined) start stop (← evalOptional fuel step)
    | .call f args => call fuel f args
    | .filter name (some e) args => do
      let v ← eval fuel e
      Filter.apply name v (← evalArguments fuel args)
    | .filter _ none _ => throw "a filter without a value"
    | .test name e args => do
      let v ← eval fuel e
      return .bool (← Test.apply name v (← evalArguments fuel args))

def evalOptional : Nat → Option Expr → Run Value
  | fuel + 1, some e => eval fuel e
  | _, none => return .none
  | 0, some _ => throw "too deep"

def evalArguments : Nat → List (Option String × Expr) → Run Arguments
  | 0, _ => throw "too deep"
  | fuel + 1, args =>
    args.foldlM (fun (a : Arguments) arg => do
      let v ← eval fuel arg.2
      return match arg.1 with
        | some name => { a with named := a.named ++ [(name, v)] }
        | none => { a with values := a.values ++ [v] }) {}

/-- A call of a macro, of a function, or of what a loop offers. -/
def call : Nat → Expr → List (Option String × Expr) → Run Value
  | 0, _, _ => throw "too deep"
  | fuel + 1, f, args =>
    match f with
    | .attr e "cycle" => do
      let v ← eval fuel e
      let a ← evalArguments fuel args
      match v with
      | .loop _ index =>
        if a.values.isEmpty then throw "wrong arguments"
        else return (a.values[index % a.values.length]?).getD .none
      | _ => throw "the value has no such function"
    | .attr e "changed" => do
      let v ← eval fuel e
      let a ← evalArguments fuel args
      match v with
      | .loop .. => do
        let (changed, s) := (← get).changed a.values
        set s
        return .bool changed
      | _ => throw "the value has no such function"
    | .var name => do
      let a ← evalArguments fuel args
      match (← get).lookup? name with
      | some (.macroAt i _) => callMacro fuel i a
      | some _ => throw "the value cannot be called"
      | none => callNamed name a
    | f => do
      match ← eval fuel f with
      | .macroAt i _ => do callMacro fuel i (← evalArguments fuel args)
      | _ => throw "the value cannot be called"

def callMacro : Nat → Nat → Arguments → Run Value
  | 0, _, _ => throw "too deep"
  | fuel + 1, i, a => do
    let s ← get
    match s.macros[i]? with
    | none => throw "unknown macro"
    | some m =>
      if s.calls ≥ maxCalls then throw "macros call one another too often"
      let frame ← bindParameters (m.parameters.map (·.1)) a
      let around := s.frames.drop (s.frames.length - m.depth)
      set { s with frames := frame :: around, calls := s.calls + 1 }
      m.parameters.forM fun p => do
        match p.2, (← get).lookup? p.1 with
        | some e, some (.undefined _) => do
          let v ← eval fuel e
          modify fun s => s.set p.1 v
        | _, _ => pure ()
      let text ← runAll fuel m.body
      modify fun after => { after with frames := s.frames, calls := s.calls }
      return .str text

def assign : Nat → Target → Value → Run Unit
  | 0, _, _ => throw "too deep"
  | fuel + 1, target, v =>
    match target with
    | .name name => modify fun s => s.set name v
    | .attr e name => do
      match ← eval fuel e with
      | .spaceAt i => modify fun s =>
        { s with spaces := s.spaces.modify i (setPair (.str name) v) }
      | _ => throw "only a name space can be changed"
    | .tuple targets => do
      let items ← (← v.defined).items
      if items.length ≠ targets.length then throw "the value has a different number of parts"
      (targets.zip items).forM fun p => assign fuel p.1 p.2

def evalFilter : Nat → Expr → String → Run Value
  | fuel + 1, .filter name none args, text => do
    Filter.apply name (.str text) (← evalArguments fuel args)
  | fuel + 1, .filter name (some e) args, text => do
    let v ← evalFilter fuel e text
    Filter.apply name v (← evalArguments fuel args)
  | _, _, _ => throw "not a filter"

def shown : Nat → Value → Run String
  | _, .undefined false => throw "undefined value"
  | _, v => return v.text

def runAll : Nat → List Statement → Run String
  | 0, _ => throw "too deep"
  | fuel + 1, statements => statements.foldlM (fun text s => return text ++ (← run fuel s)) ""

def run : Nat → Statement → Run String
  | 0, _ => throw "too deep"
  | fuel + 1, s =>
    match s with
    | .data text => return text
    | .emit e => do shown fuel (← eval fuel e)
    | .branch condition body otherwise => do
      if ← (← eval fuel condition).isTrue then runAll fuel body else runAll fuel otherwise
    | .loop target collection condition body otherwise => do
      let items ← (← (← eval fuel collection).defined).items
      let items ← match condition with
        | none => pure items
        | some e => inBlock [] (items.filterM fun v => do
          assign fuel target v
          (← eval fuel e).isTrue)
      if items.isEmpty then runAll fuel otherwise
      else inBlock [] (items.zipIdx.foldlM (fun text item => do
        modify fun s => s.set "loop" (.loop items item.2)
        assign fuel target item.1
        return text ++ (← runAll fuel body)) "")
    | .assign target e => do
      assign fuel target (← eval fuel e)
      return ""
    | .capture target filter body => do
      let text ← runAll fuel body
      let v ← match filter with
        | some f => evalFilter fuel f text
        | none => pure (.str text)
      assign fuel target v
      return ""
    | .scoped assignments body => inBlock [] do
      assignments.forM fun a => do assign fuel a.1 (← eval fuel a.2)
      runAll fuel body
    | .filtered filter body => do
      let text ← runAll fuel body
      shown fuel (← evalFilter fuel filter text)
    | .define name parameters body => do
      let s ← get
      set { s with macros := s.macros.push ⟨parameters, body, s.frames.length⟩ }
      modify fun after => after.set name (.macroAt s.macros.size name)
      return ""
    | .perform e => do
      let _ ← eval fuel e
      return ""
    | .other mayBeMissing => if mayBeMissing then return "" else throw "there is no other text"

end

/-- The text that a policy text gives with the names of a context. -/
def renderText (text : String) (context : Frame) : Except String String :=
  match Parser.read? text with
  | none => .error "the text cannot be read"
  | some statements =>
    (runAll (1000 * (text.length + 10)) statements |>.run { frames := [context] }).map (·.1)

end OrgStacks.Render
