import OrgStacks.Render.Operator

/-!
# Expressions and statements of policy texts
-/

set_option autoImplicit false

namespace OrgStacks.Render

inductive Expr where
  | const (v : Value)
  | var (name : String)
  | list (items : List Expr)
  | map (pairs : List (Expr × Expr))
  | not (e : Expr)
  | neg (e : Expr)
  | both (a b : Expr)
  | either (a b : Expr)
  | binary (op : Operator) (a b : Expr)
  /-- The value in front, when the condition holds. -/
  | choice (condition value : Expr) (otherwise : Option Expr)
  | attr (e : Expr) (name : String)
  | item (e key : Expr)
  | slice (e : Expr) (start stop step : Option Expr)
  | call (f : Expr) (args : List (Option String × Expr))
  /-- Without a value in front, a filter applies to the contents of a block. -/
  | filter (name : String) (e : Option Expr) (args : List (Option String × Expr))
  | test (name : String) (e : Expr) (args : List (Option String × Expr))
deriving Inhabited

inductive Target where
  | name (text : String)
  | attr (e : Expr) (name : String)
  | tuple (targets : List Target)
deriving Inhabited

inductive Statement where
  | data (text : String)
  | emit (e : Expr)
  | branch (condition : Expr) (body otherwise : List Statement)
  | loop (target : Target) (collection : Expr) (condition : Option Expr)
      (body otherwise : List Statement)
  | assign (target : Target) (e : Expr)
  | capture (target : Target) (filter : Option Expr) (body : List Statement)
  | scoped (assignments : List (Target × Expr)) (body : List Statement)
  | filtered (filter : Expr) (body : List Statement)
  | define (name : String) (parameters : List (String × Option Expr)) (body : List Statement)
  | perform (e : Expr)
  /-- Another text, of which there is none; it may be allowed to be missing. -/
  | other (mayBeMissing : Bool)
deriving Inhabited

end OrgStacks.Render
