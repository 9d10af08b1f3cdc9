import OrgStacks.Build
import OrgStacks.Proofs.NameMap
import OrgStacks.Proofs.Registry

/-!
# Emitting resources

`TemplateSet.run_get?` says what a run that nothing stops leaves in each template: the resources
made for that account, put in one after the other. By `run_distinct` no two of them share a logical
id, and by `run_failed` a run that is stopped has emitted all before the step that stopped it.
-/

namespace OrgStacks
set_option autoImplicit false

namespace Steps

/-- The resources that the steps emit when nothing stops them. -/
def resources (steps : Steps) : List Resource := steps.filterMap Except.toOption

def resourcesFor (account : String) (steps : Steps) : List Resource :=
  steps.resources.filter fun r => r.account == account

theorem mem_resources {steps : Steps} {r : Resource} : r ∈ steps.resources ↔ .ok r ∈ steps := by
  simp only [resources, List.mem_filterMap]
  constructor
  · rintro ⟨x, hx, hr⟩
    cases x with
    | error e => simp [Except.toOption] at hr
    | ok y =>
      simp only [Except.toOption, Option.some.injEq] at hr
      exact hr ▸ hx
  · intro h
    exact ⟨.ok r, h, rfl⟩

theorem mem_resourcesFor {account : String} {steps : Steps} {r : Resource} :
    r ∈ steps.resourcesFor account ↔ .ok r ∈ steps ∧ r.account = account := by
  simp [resourcesFor, mem_resources]

theorem resources_append (xs ys : Steps) :
    resources (xs ++ ys) = resources xs ++ resources ys := List.filterMap_append

theorem resourcesFor_append (account : String) (xs ys : Steps) :
    resourcesFor account (xs ++ ys) = resourcesFor account xs ++ resourcesFor account ys := by
  simp [resourcesFor, resources_append]

theorem resourcesFor_cons_ok (account : String) (r : Resource) (steps : Steps) :
    resourcesFor account (.ok r :: steps) =
      if r.account = account then r :: steps.resourcesFor account
      else steps.resourcesFor account := by
  by_cases h : r.account = account <;> simp [resourcesFor, resources, Except.toOption, h]

end Steps

namespace Template

def insertAll (t : Template) (rs : List Resource) : Template := rs.foldl insert t

theorem clash?_eq_none_iff {t : Template} {r : Resource} :
    t.clash? r = none ↔ t.resources.contains r.logicalId = false ∧
      ∀ o ∈ r.outputs, t.outputs.contains o.logicalId = false := by
  unfold clash?
  split <;> simp [*]

theorem clash?_eq_some {t : Template} {r : Resource} {id : String} (h : t.clash? r = some id) :
    (t.resources.contains r.logicalId = true ∧ id = r.logicalId) ∨
    (t.resources.contains r.logicalId = false ∧
      ∃ o ∈ r.outputs, t.outputs.contains o.logicalId = true ∧ id = o.logicalId) := by
  unfold clash? at h
  split at h
  · cases h
    exact Or.inl ⟨by assumption, rfl⟩
  · rename_i hfree
    obtain ⟨o, ho, rfl⟩ := Option.map_eq_some_iff.mp h
    have htaken := List.find?_some ho
    exact Or.inr ⟨Bool.not_eq_true _ ▸ hfree, o, List.mem_of_find?_eq_some ho, htaken, rfl⟩

theorem contains_resources_insertAll {t : Template} {rs : List Resource} {id : String} :
    (t.insertAll rs).resources.contains id = true ↔
      (∃ r ∈ rs, r.logicalId = id) ∨ t.resources.contains id = true := by
  induction rs generalizing t with
  | nil => simp [insertAll]
  | cons r rs ih =>
    have h := ih (t := t.insert r)
    simp only [insertAll, List.foldl_cons, insert, NameMap.contains_insert] at h ⊢
    rw [h]
    simp [or_assoc, or_left_comm]

theorem get?_resources_insertAll {t : Template} {rs : List Resource} {id : String} {value : Json}
    (h : (t.insertAll rs).resources.get? id = some value) :
    (∃ r ∈ rs, r.logicalId = id ∧ r.toJson = value) ∨ t.resources.get? id = some value := by
  induction rs generalizing t with
  | nil => exact Or.inr h
  | cons r rs ih =>
    rcases ih h with ⟨x, hx, hxv⟩ | h
    · exact Or.inl ⟨x, List.mem_cons_of_mem r hx, hxv⟩
    · simp only [insert, NameMap.get?_insert] at h
      split at h
      · cases h
        exact Or.inl ⟨r, List.mem_cons_self, by assumption, rfl⟩
      · exact Or.inr h

theorem resources_insertAll (t : Template) (rs : List Resource) : (t.insertAll rs).resources =
    rs.foldl (fun m r => m.insert r.logicalId r.toJson) t.resources := by
  induction rs generalizing t with
  | nil => rfl
  | cons r rs ih => exact ih (t.insert r)

/-- Resources under new and distinct ids are added, and nothing else changes. -/
theorem resources_insertAll_perm {t : Template} {rs : List Resource}
    (hdistinct : (rs.map Resource.logicalId).Nodup)
    (hnew : ∀ r ∈ rs, t.resources.contains r.logicalId = false) :
    (t.insertAll rs).resources.entries.Perm
      (rs.map (fun r => (r.logicalId, r.toJson)) ++ t.resources.entries) := by
  rw [resources_insertAll]
  exact NameMap.entries_foldl_insert_perm hdistinct hnew

def withOutputs (m : NameMap Json) (outputs : List Output) : NameMap Json :=
  outputs.foldl (fun m o => m.insert o.logicalId o.toJson) m

theorem get?_withOutputs_of_ne {outputs : List Output} {m : NameMap Json} {key : String}
    (h : ∀ o ∈ outputs, o.logicalId ≠ key) : (withOutputs m outputs).get? key = m.get? key := by
  induction outputs generalizing m with
  | nil => rfl
  | cons o outputs ih =>
    have hrest := ih (m := m.insert o.logicalId o.toJson) fun p hp => h p (List.mem_cons_of_mem o hp)
    rw [NameMap.get?_insert, if_neg (h o List.mem_cons_self)] at hrest
    exact hrest

theorem contains_insert_outputs {outputs : List Output} {m : NameMap Json} {key : String} :
    (outputs.foldl (fun m o => m.insert o.logicalId o.toJson) m).contains key = true ↔
      (∃ o ∈ outputs, o.logicalId = key) ∨ m.contains key = true := by
  induction outputs generalizing m with
  | nil => simp
  | cons o outputs ih =>
    simp only [List.foldl_cons, ih, NameMap.contains_insert]
    simp [or_assoc, or_left_comm]

theorem get?_insert_outputs {outputs : List Output} {m : NameMap Json} {key : String}
    {value : Json}
    (h : (outputs.foldl (fun m o => m.insert o.logicalId o.toJson) m).get? key = some value) :
    (∃ o ∈ outputs, o.logicalId = key ∧ o.toJson = value) ∨ m.get? key = some value := by
  induction outputs generalizing m with
  | nil => exact Or.inr h
  | cons o outputs ih =>
    rcases ih h with ⟨x, hx, hxv⟩ | h
    · exact Or.inl ⟨x, List.mem_cons_of_mem o hx, hxv⟩
    · rw [NameMap.get?_insert] at h
      split at h
      · cases h
        exact Or.inl ⟨o, List.mem_cons_self, by assumption, rfl⟩
      · exact Or.inr h

theorem contains_outputs_insertAll {t : Template} {rs : List Resource} {key : String} :
    (t.insertAll rs).outputs.contains key = true ↔
      (∃ r ∈ rs, ∃ o ∈ r.outputs, o.logicalId = key) ∨ t.outputs.contains key = true := by
  induction rs generalizing t with
  | nil => simp [insertAll]
  | cons r rs ih =>
    have h := ih (t := t.insert r)
    simp only [insertAll, List.foldl_cons, insert, contains_insert_outputs] at h ⊢
    rw [h]
    simp [or_assoc, or_left_comm]

theorem get?_outputs_insertAll {t : Template} {rs : List Resource} {key : String} {value : Json}
    (h : (t.insertAll rs).outputs.get? key = some value) :
    (∃ r ∈ rs, ∃ o ∈ r.outputs, o.logicalId = key ∧ o.toJson = value) ∨
      t.outputs.get? key = some value := by
  induction rs generalizing t with
  | nil => exact Or.inr h
  | cons r rs ih =>
    rcases ih h with ⟨x, hx, hxv⟩ | h
    · exact Or.inl ⟨x, List.mem_cons_of_mem r hx, hxv⟩
    · rcases get?_insert_outputs h with ho | h
      · exact Or.inl ⟨r, List.mem_cons_self, ho⟩
      · exact Or.inr h

@[simp] theorem account_insertAll (t : Template) (rs : List Resource) :
    (t.insertAll rs).account = t.account := by
  induction rs generalizing t with
  | nil => rfl
  | cons r rs ih => exact ih (t.insert r)

end Template

namespace TemplateSet

theorem emit_eq_ok {s s' : TemplateSet} {r : Resource} {handle : Handle}
    (h : s.emit r = .ok (s', handle)) :
    ∃ t, s.get? r.account = some t ∧ t.clash? r = none ∧
      s' = { s with templates := s.templates.insert r.account (t.insert r) } := by
  unfold emit at h
  split at h
  · cases h
  · rename_i t ht
    obtain ⟨t', ht', heq⟩ := map_eq_ok_iff.mp h
    unfold Template.add at ht'
    split at ht'
    · cases ht'
    · cases ht'
      cases heq
      exact ⟨t, ht, by assumption, rfl⟩

theorem emit_eq_error {s : TemplateSet} {r : Resource} {e : Problem} (h : s.emit r = .error e) :
    (s.get? r.account = none ∧ e = .unknownAccount r.account) ∨
    ∃ t id, s.get? r.account = some t ∧ t.clash? r = some id ∧
      e = .duplicateResource t.account id := by
  unfold emit at h
  split at h
  · cases h
    exact Or.inl ⟨by assumption, rfl⟩
  · rename_i t ht
    have hadd := map_eq_error_iff.mp h
    unfold Template.add at hadd
    split at hadd
    · rename_i id hid
      cases hadd
      exact Or.inr ⟨t, id, ht, hid, rfl⟩
    · cases hadd

theorem run_cons_ok {s s' : TemplateSet} {x : Except Problem Resource} {steps : Steps}
    (h : s.run (x :: steps) = (s', none)) :
    ∃ r t, x = .ok r ∧ s.get? r.account = some t ∧ t.clash? r = none ∧
      ({ s with templates := s.templates.insert r.account (t.insert r) } : TemplateSet).run steps =
        (s', none) := by
  cases x with
  | error e => cases h
  | ok r =>
    simp only [run] at h
    split at h
    · cases h
    · rename_i u handle hemit
      obtain ⟨t, ht, hclash, rfl⟩ := emit_eq_ok hemit
      exact ⟨r, t, rfl, ht, hclash, h⟩

theorem run_append (s : TemplateSet) (xs ys : Steps) :
    s.run (xs ++ ys) =
      match s.run xs with
      | (s', none) => s'.run ys
      | (s', some e) => (s', some e) := by
  induction xs generalizing s with
  | nil => rfl
  | cons x xs ih =>
    cases x with
    | error e => rfl
    | ok r =>
      simp only [List.cons_append, run]
      split
      · rfl
      · exact ih _

theorem no_error_of_run {s s' : TemplateSet} {steps : Steps} (h : s.run steps = (s', none))
    (e : Problem) : .error e ∉ steps := by
  induction steps generalizing s with
  | nil => simp
  | cons x steps ih =>
    obtain ⟨r, t, rfl, _, _, h⟩ := run_cons_ok h
    simpa using ih h

theorem run_get? {s s' : TemplateSet} {steps : Steps} (h : s.run steps = (s', none))
    (name : String) :
    s'.get? name = (s.get? name).map fun t => t.insertAll (steps.resourcesFor name) := by
  induction steps generalizing s with
  | nil =>
    cases h
    simp [Steps.resourcesFor, Steps.resources, Template.insertAll]
  | cons x steps ih =>
    obtain ⟨r, t, rfl, ht, _, h⟩ := run_cons_ok h
    rw [ih h, Steps.resourcesFor_cons_ok]
    unfold get? at ht ⊢
    rw [NameMap.get?_insert]
    by_cases hn : r.account = name
    · subst hn
      simp [ht, Template.insertAll]
    · simp [hn]

theorem run_keys {s s' : TemplateSet} {steps : Steps} (h : s.run steps = (s', none)) :
    s'.templates.keys = s.templates.keys := by
  refine NameMap.keys_eq_of_contains fun name => ?_
  have hget := run_get? h name
  unfold get? at hget
  unfold NameMap.contains
  rw [hget, Option.isSome_map]

theorem run_distinct {s s' : TemplateSet} {steps : Steps} (h : s.run steps = (s', none))
    {name : String} {t : Template} (ht : s.get? name = some t) :
    ((steps.resourcesFor name).map Resource.logicalId).Nodup ∧
      ∀ r ∈ steps.resourcesFor name, t.resources.contains r.logicalId = false := by
  -- The later ids are new to the template that the first step leaves, so they are not its id.
  induction steps generalizing s t with
  | nil => simp [Steps.resourcesFor, Steps.resources]
  | cons x steps ih =>
    obtain ⟨r, u, rfl, hu, hclash, h⟩ := run_cons_ok h
    have hstep := @ih _ h
    rw [Steps.resourcesFor_cons_ok]
    unfold get? at ht hu hstep
    simp only [NameMap.get?_insert] at hstep
    by_cases hn : r.account = name
    · subst hn
      obtain rfl : u = t := Option.some.inj (hu.symm.trans ht)
      obtain ⟨hnodup, hnew⟩ := hstep (if_pos rfl)
      have hrest : ∀ x ∈ Steps.resourcesFor r.account steps,
          r.logicalId ≠ x.logicalId ∧ u.resources.contains x.logicalId = false := by
        intro x hx
        have hx' := hnew x hx
        rw [← Bool.not_eq_true, Template.insert, NameMap.contains_insert, not_or,
          Bool.not_eq_true] at hx'
        exact hx'
      simp only [if_true, List.map_cons, List.nodup_cons, List.mem_cons, forall_eq_or_imp]
      refine ⟨⟨?_, hnodup⟩, (Template.clash?_eq_none_iff.mp hclash).1, fun x hx => (hrest x hx).2⟩
      intro hmem
      obtain ⟨x, hx, heq⟩ := List.mem_map.mp hmem
      exact (hrest x hx).1 heq.symm
    · rw [if_neg hn] at hstep ⊢
      exact hstep ht

theorem run_failed {s s' : TemplateSet} {steps : Steps} {e : Problem}
    (h : s.run steps = (s', some e)) :
    ∃ before x after, steps = before ++ x :: after ∧ s.run before = (s', none) ∧
      (x = .error e ∨ ∃ r, x = .ok r ∧ s'.emit r = .error e) := by
  induction steps generalizing s with
  | nil => cases h
  | cons x steps ih =>
    cases x with
    | error e' =>
      cases h
      exact ⟨[], .error e, steps, rfl, rfl, Or.inl rfl⟩
    | ok r =>
      simp only [run] at h
      split at h
      · rename_i e' hemit
        cases h
        exact ⟨[], .ok r, steps, rfl, rfl, Or.inr ⟨r, rfl, hemit⟩⟩
      · rename_i u handle hemit
        obtain ⟨before, x, after, rfl, hrun, hx⟩ := ih h
        refine ⟨.ok r :: before, x, after, rfl, ?_, hx⟩
        simp only [run, hemit]
        exact hrun

theorem get?_ofRegistry {r : Registry} {name : String} {a : Account}
    (h : r.accounts.get? name = some a) (version : String) :
    (ofRegistry r version).get? name = some (.ofAccount a version) := by
  unfold get? ofRegistry
  rw [NameMap.get?_map, h]
  rfl

/-- Every account has a template under its name. -/
def Covers (s : TemplateSet) (r : Registry) : Prop :=
  ∀ a ∈ r.toList, ∃ t, s.get? a.name = some t ∧ t.account = a.name

theorem covers_ofRegistry {r : Registry} (hr : r.Sound) (version : String) :
    (ofRegistry r version).Covers r := by
  intro a ha
  exact ⟨.ofAccount a version, get?_ofRegistry (hr.mem_toList_iff.mp ha) version, rfl⟩

theorem get?_of_run {r : Registry} (hr : r.Sound) {version : String} {steps : Steps}
    {s : TemplateSet} (h : (ofRegistry r version).run steps = (s, none)) {a : Account}
    (ha : a ∈ r.toList) :
    s.get? a.name =
      some ((Template.ofAccount a version).insertAll (steps.resourcesFor a.name)) := by
  rw [run_get? h, get?_ofRegistry (hr.mem_toList_iff.mp ha) version]
  rfl

theorem Covers.run_ok {s s' : TemplateSet} {r : Registry} (hs : s.Covers r) {steps : Steps}
    (h : s.run steps = (s', none)) : s'.Covers r := by
  intro a ha
  obtain ⟨t, ht, hname⟩ := hs a ha
  refine ⟨t.insertAll (steps.resourcesFor a.name), ?_, by simpa using hname⟩
  rw [run_get? h, ht]
  rfl

/-- Also what is left by a run that was stopped has a template for every account. -/
theorem Covers.run {s : TemplateSet} {r : Registry} (hs : s.Covers r) (steps : Steps) :
    (s.run steps).1.Covers r := by
  cases h : s.run steps with
  | mk s' stop =>
    cases stop with
    | none => exact hs.run_ok h
    | some e =>
      obtain ⟨before, _, _, _, hbefore, _⟩ := run_failed h
      exact hs.run_ok hbefore

end TemplateSet

end OrgStacks
