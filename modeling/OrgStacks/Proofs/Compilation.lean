import OrgStacks.Compilation
import OrgStacks.Proofs.Building
import OrgStacks.Proofs.Validation

/-!
# Compilation as one run

Compiling an accepted configuration is one run over the steps of all kinds, from empty templates
(`Config.compile_of_validate`). `Config.Compiled` is what a successful compilation leaves behind.
-/

namespace OrgStacks
set_option autoImplicit false

namespace Placements

theorem get?_ofPolicies (r : Registry) (policies : NameMap PolicyConfig) (name : String) :
    (ofPolicies r policies).get? name = (policies.get? name).map fun p =>
      (r.select (Entity.context p)).map fun accounts => ⟨p.inline, accounts⟩ :=
  NameMap.get?_map policies _ name

theorem mem_problems {ps : Placements} {e : Problem} :
    e ∈ ps.problems ↔ ∃ name, ps.get? name = some (.error e) := by
  simp only [problems, List.mem_filterMap, NameMap.mem_values_iff]
  constructor
  · rintro ⟨value, ⟨name, hname⟩, hvalue⟩
    cases value with
    | error p =>
      cases hvalue
      exact ⟨name, hname⟩
    | ok placement => cases hvalue
  · rintro ⟨name, hname⟩
    exact ⟨.error e, ⟨name, hname⟩, rfl⟩

theorem complete_ofPolicies {r : Registry} {policies : NameMap PolicyConfig}
    (h : ∀ name p, policies.get? name = some p → ∀ e, r.select (Entity.context p) ≠ .error e) :
    (ofPolicies r policies).complete = .ok (ofPolicies r policies) := by
  have hnone : (ofPolicies r policies).problems = [] := by
    refine List.eq_nil_iff_forall_not_mem.mpr fun e he => ?_
    obtain ⟨name, hname⟩ := mem_problems.mp he
    rw [get?_ofPolicies] at hname
    obtain ⟨p, hp, hplace⟩ := Option.map_eq_some_iff.mp hname
    exact h name p hp e (map_eq_error_iff.mp hplace)
  unfold complete
  rw [hnone]

end Placements

namespace Compilation

theorem lift_eq_ok_iff {α : Type} {x : Except Problem α} {a : α} :
    lift x = .ok a ↔ x = .ok a := by
  cases x <;> simp [lift, Except.mapError]

/-- Building kind after kind is one run over the steps of all of them. -/
theorem buildKinds_eq (s : BuildScope) (set : TemplateSet) (kinds : List EntityKind) :
    buildKinds s set kinds =
      match set.run (kinds.flatMap s.steps) with
      | (set', none) => .ok set'
      | (_, some e) => .error e := by
  induction kinds generalizing set with
  | nil => rfl
  | cons kind kinds ih =>
    rw [List.flatMap_cons, TemplateSet.run_append]
    unfold buildKinds BuildScope.build
    cases set.run (s.steps kind) with
    | mk set' stop =>
      cases stop with
      | none => exact ih set'
      | some e => rfl

end Compilation

namespace Config

open Compilation (lift lift_eq_ok_iff buildKinds buildKinds_eq)

theorem select_of_validate {c : Config} {r : Registry} (hv : c.validate r = .ok ())
    {name : String} {p : PolicyConfig} (hp : c.policies.get? name = some p) (e : Problem) :
    r.select (Entity.context p) ≠ .error e := by
  intro he
  have hfound : e ∈ (Scope.of c r).policyFindings name p :=
    Scope.mem_policyFindings.mpr (Or.inl he)
  exact validate_eq_ok_iff.mp hv e (Scope.mem_findings_of_policy hp hfound)

theorem compile_of_validate {c : Config} {r : Registry} (hr : c.registry = .ok r)
    (hv : c.validate r = .ok ()) (source : PolicySource) (version : String) :
    c.compile source version =
      match (TemplateSet.ofRegistry r version).run (BuildScope.of c r source).allKinds with
      | (set, none) => .ok ⟨r, set⟩
      | (_, some e) => .error (.problem e) := by
  have hcomplete : (Placements.ofPolicies r c.policies).complete =
      .ok (Placements.ofPolicies r c.policies) :=
    Placements.complete_ofPolicies fun name p hp e => select_of_validate hv hp e
  unfold compile
  rw [hr, lift_eq_ok_iff.mpr rfl]
  change (c.validate r >>= fun _ => _) = _
  rw [hv]
  change (lift (Placements.ofPolicies r c.policies).complete >>= fun _ => _) = _
  rw [hcomplete, lift_eq_ok_iff.mpr rfl]
  change (lift (buildKinds (BuildScope.of c r source) (.ofRegistry r version) EntityKind.all) >>=
    fun templates => pure (⟨r, templates⟩ : Compilation)) = _
  rw [buildKinds_eq]
  unfold BuildScope.allKinds
  cases (TemplateSet.ofRegistry r version).run
    (EntityKind.all.flatMap (BuildScope.of c r source).steps) with
  | mk set stop => cases stop <;> rfl

/-- What a successful compilation leaves behind. -/
structure Compiled (c : Config) (source : PolicySource) (version : String) (r : Registry)
    (set : TemplateSet) : Prop where
  registry : c.registry = .ok r
  valid : c.validate r = .ok ()
  run : (TemplateSet.ofRegistry r version).run (BuildScope.of c r source).allKinds = (set, none)

theorem compiled_of_compile {c : Config} {source : PolicySource} {version : String}
    {done : Compilation} (h : c.compile source version = .ok done) :
    c.Compiled source version done.registry done.templates := by
  have hparts := h
  unfold compile at hparts
  obtain ⟨r, hr, hparts⟩ := bind_eq_ok_iff.mp hparts
  rw [lift_eq_ok_iff] at hr
  obtain ⟨⟨⟩, hv, _⟩ := bind_eq_ok_iff.mp hparts
  rw [compile_of_validate hr hv] at h
  split at h
  · cases h
    exact ⟨hr, hv, by assumption⟩
  · cases h

namespace Compiled
variable {c : Config} {source : PolicySource} {version : String} {r : Registry} {set : TemplateSet}

theorem sound (h : c.Compiled source version r set) : r.Sound := registry_sound h.registry

theorem get? (h : c.Compiled source version r set) {a : Account} (ha : a ∈ r.toList) :
    set.get? a.name = some ((Template.ofAccount a version).insertAll
      ((BuildScope.of c r source).allKinds.resourcesFor a.name)) :=
  TemplateSet.get?_of_run h.sound h.run ha

theorem distinct (h : c.Compiled source version r set) {a : Account} (ha : a ∈ r.toList) :
    (((BuildScope.of c r source).allKinds.resourcesFor a.name).map Resource.logicalId).Nodup := by
  obtain ⟨t, ht, _⟩ := TemplateSet.covers_ofRegistry h.sound version a ha
  exact (TemplateSet.run_distinct h.run ht).1

theorem no_error (h : c.Compiled source version r set) (e : Problem) :
    .error e ∉ (BuildScope.of c r source).allKinds :=
  TemplateSet.no_error_of_run h.run e

theorem mem_allKinds_of_placed {α : Type} [Entity α] (h : c.Compiled source version r set)
    {a : Account} (ha : a ∈ r.toList) (kind : EntityKind) {steps : Account → String → α → Steps}
    {entities : NameMap α}
    (hsteps : (BuildScope.of c r source).steps kind =
      (BuildScope.of c r source).allSteps steps entities)
    {name : String} {entity : α} (hget : entities.get? name = some entity)
    (hplaced : r.places entity a.name = true) {x : Except Problem Resource}
    (hx : x ∈ steps a name entity) : x ∈ (BuildScope.of c r source).allKinds := by
  apply BuildScope.mem_allKinds.mpr
  refine ⟨kind, ?_⟩
  rw [hsteps]
  exact (BuildScope.mem_allSteps h.sound).mpr ⟨name, entity, hget, Or.inr ⟨a, ha, hplaced, hx⟩⟩

end Compiled

end Config

end OrgStacks
