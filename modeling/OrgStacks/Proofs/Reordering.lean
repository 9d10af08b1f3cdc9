import OrgStacks.Proofs.Compilation
import OrgStacks.Proofs.Listing

/-!
# Emitting in any order

A resource is refused for the ids that are taken in its account and for nothing else, and two
resources that both find their ids free leave the same templates in either order. So a run that
nothing stops may be reordered, `TemplateSet.run_perm`, and with it the kinds that are built.
-/

namespace OrgStacks
set_option autoImplicit false

/-- Neither takes an id that the other needs. -/
structure Resource.Apart (r q : Resource) : Prop where
  logicalId : r.logicalId ≠ q.logicalId
  outputs : ∀ o ∈ r.outputs, ∀ p ∈ q.outputs, o.logicalId ≠ p.logicalId

theorem Resource.Apart.symm {r q : Resource} (h : r.Apart q) : q.Apart r :=
  ⟨h.logicalId.symm, fun p hp o ho => (h.outputs o ho p hp).symm⟩

namespace Template

theorem get?_withOutputs_congr {outputs : List Output} {m m' : NameMap Json} {key : String}
    (h : m.get? key = m'.get? key) :
    (withOutputs m outputs).get? key = (withOutputs m' outputs).get? key := by
  induction outputs generalizing m m' with
  | nil => exact h
  | cons o outputs ih =>
    apply ih
    rw [NameMap.get?_insert, NameMap.get?_insert, h]

theorem withOutputs_comm {os ps : List Output} {m : NameMap Json}
    (h : ∀ o ∈ os, ∀ p ∈ ps, o.logicalId ≠ p.logicalId) :
    withOutputs (withOutputs m os) ps = withOutputs (withOutputs m ps) os := by
  refine NameMap.ext_get? fun key => ?_
  by_cases hkey : ∃ o ∈ os, o.logicalId = key
  · obtain ⟨o, ho, rfl⟩ := hkey
    have hps : ∀ p ∈ ps, p.logicalId ≠ o.logicalId := fun p hp => (h o ho p hp).symm
    rw [get?_withOutputs_of_ne hps]
    exact get?_withOutputs_congr (get?_withOutputs_of_ne hps).symm
  · have hos : ∀ o ∈ os, o.logicalId ≠ key := fun o ho heq => hkey ⟨o, ho, heq⟩
    rw [get?_withOutputs_of_ne hos]
    exact get?_withOutputs_congr (get?_withOutputs_of_ne hos)

theorem insert_comm {t : Template} {r q : Resource} (h : r.Apart q) :
    (t.insert r).insert q = (t.insert q).insert r := by
  have hresources := NameMap.insert_comm t.resources r.toJson q.toJson h.logicalId
  have houtputs := withOutputs_comm (m := t.outputs) h.outputs
  unfold withOutputs at houtputs
  unfold insert
  rw [hresources, houtputs]

/-- A resource that is put in takes its own ids and frees none. -/
theorem clash?_insert_eq_none_iff {t : Template} {r q : Resource} :
    (t.insert r).clash? q = none ↔ t.clash? q = none ∧ r.Apart q := by
  have hid : (t.insert r).resources.contains q.logicalId = false ↔
      r.logicalId ≠ q.logicalId ∧ t.resources.contains q.logicalId = false := by
    rw [← Bool.not_eq_true, insert, NameMap.contains_insert, not_or, Bool.not_eq_true]
  have hout (p : Output) : (t.insert r).outputs.contains p.logicalId = false ↔
      (∀ o ∈ r.outputs, o.logicalId ≠ p.logicalId) ∧
        t.outputs.contains p.logicalId = false := by
    rw [← Bool.not_eq_true, insert, contains_insert_outputs, not_or, Bool.not_eq_true]
    simp only [not_exists, not_and, ne_eq]
  rw [clash?_eq_none_iff, clash?_eq_none_iff, hid]
  simp only [hout]
  constructor
  · rintro ⟨⟨hne, hfree⟩, hall⟩
    exact ⟨⟨hfree, fun p hp => (hall p hp).2⟩, hne, fun o ho p hp => (hall p hp).1 o ho⟩
  · rintro ⟨⟨hfree, hfreeOut⟩, hne, hapart⟩
    exact ⟨⟨hne, hfree⟩, fun p hp => ⟨fun o ho => hapart o ho p hp, hfreeOut p hp⟩⟩

end Template

namespace TemplateSet
variable {s s' : TemplateSet}

theorem run_cons_of_free {r : Resource} {t : Template} (ht : s.get? r.account = some t)
    (hfree : t.clash? r = none) (steps : Steps) :
    s.run (.ok r :: steps) =
      ({ s with templates := s.templates.insert r.account (t.insert r) } : TemplateSet).run
        steps := by
  simp only [run, emit, ht, Template.add, hfree, Except.map]

theorem run_swap {x y : Except Problem Resource} {steps : Steps}
    (h : s.run (x :: y :: steps) = (s', none)) : s.run (y :: x :: steps) = (s', none) := by
  obtain ⟨r, t, rfl, ht, hr, h⟩ := run_cons_ok h
  obtain ⟨q, u, rfl, hu, hq, h⟩ := run_cons_ok h
  unfold get? at hu
  rw [NameMap.get?_insert] at hu
  by_cases hsame : r.account = q.account
  · rw [if_pos hsame] at hu
    obtain rfl := Option.some.inj hu
    obtain ⟨hq, hapart⟩ := Template.clash?_insert_eq_none_iff.mp hq
    have hr' : (t.insert q).clash? r = none :=
      Template.clash?_insert_eq_none_iff.mpr ⟨hr, hapart.symm⟩
    rw [run_cons_of_free (hsame ▸ ht) hq,
      run_cons_of_free (t := t.insert q) (by simp [get?, NameMap.get?_insert, hsame]) hr']
    simp only [hsame, NameMap.insert_insert] at h ⊢
    rw [← Template.insert_comm hapart]
    exact h
  · rw [if_neg hsame] at hu
    rw [run_cons_of_free hu hq,
      run_cons_of_free (t := t) (by simpa [get?, NameMap.get?_insert, Ne.symm hsame] using ht) hr]
    simp only [NameMap.insert_comm _ _ _ hsame] at h ⊢
    exact h

theorem run_of_perm {xs ys : Steps} (hp : xs.Perm ys) (h : s.run xs = (s', none)) :
    s.run ys = (s', none) := by
  induction hp generalizing s with
  | nil => exact h
  | cons x _ ih =>
    obtain ⟨r, t, rfl, ht, hfree, h⟩ := run_cons_ok h
    rw [run_cons_of_free ht hfree]
    exact ih h
  | swap x y steps => exact run_swap h
  | trans _ _ ih ih' => exact ih' (ih h)

/-- A run that nothing stops leaves the same templates in any order. -/
theorem run_perm {xs ys : Steps} (hp : xs.Perm ys) :
    s.run xs = (s', none) ↔ s.run ys = (s', none) :=
  ⟨run_of_perm hp, run_of_perm hp.symm⟩

end TemplateSet

theorem Compilation.buildKinds_eq_ok_iff {s : BuildScope} {set set' : TemplateSet}
    {kinds : List EntityKind} :
    buildKinds s set kinds = .ok set' ↔ set.run (kinds.flatMap s.steps) = (set', none) := by
  rw [buildKinds_eq]
  cases set.run (kinds.flatMap s.steps) with
  | mk u stop => cases stop <;> simp

/-- The kinds may be built in any order: all of them are built in one order exactly when they are
in the other, and the templates are the same. The same holds of any resources that are emitted one
after the other. -/
theorem built_in_any_order (s : BuildScope) (set : TemplateSet) :
    (∀ kinds kinds' : List EntityKind, kinds.Perm kinds' → ∀ set',
      Compilation.buildKinds s set kinds = .ok set' ↔
        Compilation.buildKinds s set kinds' = .ok set') ∧
    ∀ rs rs' : List Resource, rs.Perm rs' → ∀ set',
      set.run (rs.map .ok) = (set', none) ↔ set.run (rs'.map .ok) = (set', none) := by
  constructor
  · intro kinds kinds' hp set'
    rw [Compilation.buildKinds_eq_ok_iff, Compilation.buildKinds_eq_ok_iff]
    exact TemplateSet.run_perm (hp.flatMap_right s.steps)
  · intro rs rs' hp set'
    exact TemplateSet.run_perm (hp.map Except.ok)

/-- Trails first and policies last gives what compiling gives. -/
theorem orgOfLogs_reversed :
    ∃ r set, orgOfLogs.registry = .ok r ∧ orgOfLogs.compile textOfLogs "1" = .ok ⟨r, set⟩ ∧
      EntityKind.all.reverse.Perm EntityKind.all ∧
      Compilation.buildKinds (.of orgOfLogs r textOfLogs) (.ofRegistry r "1")
        EntityKind.all.reverse = .ok set := by
  have hperm : EntityKind.all.reverse.Perm EntityKind.all := List.reverse_perm _
  refine ⟨_, _, rfl, rfl, hperm, ?_⟩
  exact ((built_in_any_order _ _).1 _ _ hperm _).mpr rfl

end OrgStacks
