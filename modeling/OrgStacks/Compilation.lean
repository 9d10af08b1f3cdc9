import OrgStacks.Build
import OrgStacks.Validation

/-!
# Compiling a configuration

The registry is made and the whole configuration is checked before anything is built; then every
kind of entity is built in turn. Nothing comes out when anything fails.
-/

set_option autoImplicit false

namespace OrgStacks

structure Compilation where
  registry : Registry
  templates : TemplateSet

namespace Compilation

def buildKinds (s : BuildScope) (set : TemplateSet) : List EntityKind → Except Problem TemplateSet
  | [] => .ok set
  | kind :: kinds =>
    match s.build set kind with
    | (_, some e) => .error e
    | (set, none) => buildKinds s set kinds

def lift {α : Type} : Except Problem α → Except CompileError α := Except.mapError .problem

end Compilation

open Compilation (lift buildKinds)

/-- One template per account, stamped with a version. -/
def Config.compile (c : Config) (source : PolicySource) (version : String) :
    Except CompileError Compilation := do
  let registry ← lift c.registry
  c.validate registry
  let placements ← lift (Placements.ofPolicies registry c.policies).complete
  let s : BuildScope := ⟨c, registry, placements, source⟩
  let templates ← lift (buildKinds s (.ofRegistry registry version) EntityKind.all)
  return ⟨registry, templates⟩

end OrgStacks
