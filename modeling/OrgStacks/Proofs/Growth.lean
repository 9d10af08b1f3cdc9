import Mathlib.Algebra.GroupWithZero.Nat
import Mathlib.Data.List.Perm.Basic
import OrgStacks.Proofs.Emission

/-!
# Runs that go on after a refusal

Here resources are emitted in place, into a store that keeps what was written when a step fails.
Nothing is written before all ids are checked, so a refused resource leaves the store as it was,
`TemplateSet.attempt_eq`. A resource that is taken is added, and nothing that was there changes,
`TemplateSet.Gains`. By `emitAll_only_adds` the same holds of a whole run, whatever is refused on
the way.
-/

namespace OrgStacks
set_option autoImplicit false

namespace NameMap
universe u
variable {α : Type u}

/-- The entries of a map that differs from another under one name at most. -/
theorem entries_perm_of_get? {m m' : NameMap α} {name : String} {value : α}
    (h : m'.get? name = some value)
    (hother : ∀ other, name ≠ other → m'.get? other = m.get? other) :
    m'.entries.Perm ((name, value) :: m.entries.filter fun e => e.1 != name) := by
  have hnodup : ((name, value) :: m.entries.filter fun e => e.1 != name).Nodup :=
    List.nodup_cons.mpr ⟨by simp, m.keys_nodup.of_map.filter _⟩
  apply (List.perm_ext_iff_of_nodup m'.keys_nodup.of_map hnodup).mpr
  rintro ⟨other, v⟩
  simp only [List.mem_cons, List.mem_filter, mem_entries_iff, Prod.mk.injEq, bne_iff_ne]
  by_cases hname : name = other
  · subst hname
    simp [h, eq_comm]
  · simp [hother other hname, Ne.symm hname]

end NameMap

namespace Template

/-- The template gets a resource under a free id, and its outputs; what is there stays. -/
structure Gains (t : Template) (x : Resource) (t' : Template) : Prop where
  account : t'.account = t.account
  description : t'.description = t.description
  free : t.resources.contains x.logicalId = false
  resources : t'.resources = t.resources.insert x.logicalId x.toJson
  kept : ∀ key value, t.outputs.get? key = some value → t'.outputs.get? key = some value
  added : ∀ key, t'.outputs.contains key = true ↔
    (∃ o ∈ x.outputs, o.logicalId = key) ∨ t.outputs.contains key = true

theorem gains_insert {t : Template} {x : Resource} (h : t.clash? x = none) :
    t.Gains x (t.insert x) := by
  obtain ⟨hfree, houtputs⟩ := clash?_eq_none_iff.mp h
  constructor
  case account => rfl
  case description => rfl
  case free => exact hfree
  case resources => rfl
  case kept =>
    intro key value hvalue
    have hne : ∀ o ∈ x.outputs, o.logicalId ≠ key := by
      rintro o ho rfl
      have hcontains := NameMap.contains_iff.mpr ⟨value, hvalue⟩
      rw [houtputs o ho] at hcontains
      cases hcontains
    exact (get?_withOutputs_of_ne hne).trans hvalue
  case added =>
    intro key
    exact contains_insert_outputs

theorem Gains.resourceCount {t t' : Template} {x : Resource} (h : t.Gains x t') :
    t'.resourceCount = t.resourceCount + 1 := by
  unfold Template.resourceCount NameMap.size
  rw [h.resources]
  exact (NameMap.entries_insert_perm x.toJson h.free).length_eq

/-- Whatever the first template holds, the second holds too. -/
structure Within (t t' : Template) : Prop where
  account : t'.account = t.account
  description : t'.description = t.description
  resources : ∀ id value, t.resources.get? id = some value → t'.resources.get? id = some value
  outputs : ∀ key value, t.outputs.get? key = some value → t'.outputs.get? key = some value

theorem Within.refl (t : Template) : t.Within t :=
  ⟨rfl, rfl, fun _ _ h => h, fun _ _ h => h⟩

theorem Within.trans {t u v : Template} (h : t.Within u) (h' : u.Within v) : t.Within v :=
  ⟨h'.account.trans h.account, h'.description.trans h.description,
    fun id value hv => h'.resources id value (h.resources id value hv),
    fun key value hv => h'.outputs key value (h.outputs key value hv)⟩

theorem Gains.within {t t' : Template} {x : Resource} (h : t.Gains x t') : t.Within t' := by
  refine ⟨h.account, h.description, fun id value hv => ?_, h.kept⟩
  have hne : x.logicalId ≠ id := by
    rintro rfl
    have hcontains := NameMap.contains_iff.mpr ⟨value, hv⟩
    rw [h.free] at hcontains
    cases hcontains
  rw [h.resources, NameMap.get?_insert, if_neg hne]
  exact hv

end Template

namespace TemplateSet

def change (s : TemplateSet) (account : String) (f : Template → Template) : TemplateSet :=
  match s.get? account with
  | some t => { s with templates := s.templates.insert account (f t) }
  | none => s

/-- Checks the ids, and then writes the outputs one by one and the resource after them. -/
def emitInPlace (x : Resource) : ExceptT Problem (StateM TemplateSet) Handle := do
  match (← get).get? x.account with
  | none => throw (.unknownAccount x.account)
  | some t =>
    match t.clash? x with
    | some id => throw (.duplicateResource t.account id)
    | none =>
      x.outputs.forM fun o => modify (·.change x.account fun t =>
        { t with outputs := t.outputs.insert o.logicalId o.toJson })
      modify (·.change x.account fun t =>
        { t with resources := t.resources.insert x.logicalId x.toJson })
      return ⟨x.account, x.logicalId⟩

def attempt (s : TemplateSet) (x : Resource) : Except Problem Handle × TemplateSet :=
  (emitInPlace x).run.run s

section InPlace
variable {α β : Type} {s : TemplateSet}

theorem run_bind_of_ok {first : ExceptT Problem (StateM TemplateSet) α} {s' : TemplateSet} {a : α}
    (h : first.run.run s = (.ok a, s')) (next : α → ExceptT Problem (StateM TemplateSet) β) :
    (first >>= next).run.run s = (next a).run.run s' := by
  change (ExceptT.bindCont next (first.run.run s).1).run (first.run.run s).2 = _
  rw [h]
  rfl

theorem run_forM_modify (l : List α) (f : α → TemplateSet → TemplateSet) :
    (l.forM fun a => modify (f a) : ExceptT Problem (StateM TemplateSet) PUnit).run.run s =
      (.ok ⟨⟩, l.foldl (fun s a => f a s) s) := by
  induction l generalizing s with
  | nil => rfl
  | cons a l ih => exact ih

theorem change_of_get? {account : String} {t : Template} (h : s.get? account = some t)
    (f : Template → Template) :
    s.change account f = { s with templates := s.templates.insert account (f t) } := by
  simp [change, h]

theorem change_change (account : String) (f g : Template → Template) :
    (s.change account f).change account g = s.change account fun t => g (f t) := by
  cases h : s.get? account with
  | none => simp [change, h]
  | some t =>
    have hf : (s.change account f).get? account = some (f t) := by
      simp [change_of_get? h, get?, NameMap.get?_insert]
    rw [change_of_get? hf, change_of_get? h, change_of_get? h, NameMap.insert_insert]

theorem change_foldl_change (account : String) (f : α → Template → Template)
    (g : Template → Template) (l : List α) :
    (l.foldl (fun s a => s.change account (f a)) s).change account g =
      s.change account fun t => g (l.foldl (fun t a => f a t) t) := by
  induction l generalizing s with
  | nil => rfl
  | cons a l ih =>
    rw [List.foldl_cons, ih, change_change]
    rfl

theorem foldl_insert_output (t : Template) (outputs : List Output) :
    outputs.foldl (fun t o => { t with outputs := t.outputs.insert o.logicalId o.toJson }) t =
      { t with outputs := Template.withOutputs t.outputs outputs } := by
  induction outputs generalizing t with
  | nil => rfl
  | cons o outputs ih => exact ih _

end InPlace

/-- Emitting in place does what emitting does, and a refused resource leaves no trace. -/
theorem attempt_eq (s : TemplateSet) (x : Resource) :
    s.attempt x = match s.emit x with
      | .ok (s', handle) => (.ok handle, s')
      | .error e => (.error e, s) := by
  have hget : (get : ExceptT Problem (StateM TemplateSet) TemplateSet).run.run s = (.ok s, s) := rfl
  unfold attempt emitInPlace emit Template.add
  rw [run_bind_of_ok hget]
  cases ht : s.get? x.account with
  | none => rfl
  | some t =>
    cases hclash : t.clash? x with
    | some id =>
      simp only [hclash]
      rfl
    | none =>
      simp only [hclash]
      rw [run_bind_of_ok (run_forM_modify _ _)]
      -- All of the writes go to the template that was checked.
      change (Except.ok _, change _ _ _) = _
      rw [change_foldl_change, change_of_get? ht, foldl_insert_output]
      rfl

/-- One account gets a resource, and the others stay as they are. -/
structure Gains (s : TemplateSet) (x : Resource) (s' : TemplateSet) : Prop where
  version : s'.version = s.version
  template : ∃ t t', s.get? x.account = some t ∧ s'.get? x.account = some t' ∧ t.Gains x t'
  others : ∀ name, name ≠ x.account → s'.get? name = s.get? name

theorem gains_of_emit {s s' : TemplateSet} {x : Resource} {handle : Handle}
    (h : s.emit x = .ok (s', handle)) : s.Gains x s' := by
  obtain ⟨t, ht, hclash, rfl⟩ := emit_eq_ok h
  refine ⟨rfl, ⟨t, t.insert x, ht, ?_, Template.gains_insert hclash⟩, fun name hname => ?_⟩
  · simp [get?, NameMap.get?_insert]
  · simp [get?, NameMap.get?_insert, hname.symm]

theorem Gains.contains_eq {s s' : TemplateSet} {x : Resource} (h : s.Gains x s') (name : String) :
    s'.templates.contains name = s.templates.contains name := by
  have hothers := h.others
  obtain ⟨t, t', ht, ht', _⟩ := h.template
  unfold get? at ht ht' hothers
  by_cases hname : name = x.account
  · subst hname
    rw [NameMap.contains, NameMap.contains, ht, ht']
    rfl
  · rw [NameMap.contains, NameMap.contains, hothers name hname]

theorem resourceCount_eq_sum (s : TemplateSet) :
    s.resourceCount = (s.templates.entries.map fun e => e.2.resourceCount).sum := by
  unfold TemplateSet.resourceCount NameMap.values
  rw [List.sum_eq_foldr, List.foldr_map, List.foldr_map]

theorem resourceCount_ofRegistry (r : Registry) (version : String) :
    (ofRegistry r version).resourceCount = 0 := by
  rw [resourceCount_eq_sum]
  apply List.sum_eq_zero_iff_forall_eq_nat.mpr
  intro n hn
  obtain ⟨⟨name, t⟩, ht, rfl⟩ := List.mem_map.mp hn
  obtain ⟨a, _, heq⟩ := List.mem_map.mp ht
  obtain ⟨_, rfl⟩ := Prod.mk.inj heq
  rfl

theorem Gains.resourceCount {s s' : TemplateSet} {x : Resource} (h : s.Gains x s') :
    s'.resourceCount = s.resourceCount + 1 := by
  obtain ⟨t, t', ht, ht', hgains⟩ := h.template
  have hothers : ∀ other, x.account ≠ other → s'.templates.get? other = s.templates.get? other :=
    fun other hne => h.others other hne.symm
  have hbefore := (NameMap.entries_perm_of_get? ht fun _ _ => rfl).map fun e => e.2.resourceCount
  have hafter := (NameMap.entries_perm_of_get? ht' hothers).map fun e => e.2.resourceCount
  rw [resourceCount_eq_sum, resourceCount_eq_sum, hbefore.sum_nat, hafter.sum_nat, List.map_cons,
    List.map_cons, List.sum_cons, List.sum_cons, hgains.resourceCount]
  dsimp only
  omega

structure Within (s s' : TemplateSet) : Prop where
  keys : s'.templates.keys = s.templates.keys
  templates : ∀ name t, s.get? name = some t → ∃ t', s'.get? name = some t' ∧ t.Within t'

theorem Within.refl (s : TemplateSet) : s.Within s :=
  ⟨rfl, fun _ t ht => ⟨t, ht, .refl t⟩⟩

theorem Within.trans {s u v : TemplateSet} (h : s.Within u) (h' : u.Within v) : s.Within v := by
  refine ⟨h'.keys.trans h.keys, fun name t ht => ?_⟩
  obtain ⟨t', ht', hwithin⟩ := h.templates name t ht
  obtain ⟨t'', ht'', hwithin'⟩ := h'.templates name t' ht'
  exact ⟨t'', ht'', hwithin.trans hwithin'⟩

theorem Gains.within {s s' : TemplateSet} {x : Resource} (h : s.Gains x s') : s.Within s' := by
  refine ⟨NameMap.keys_eq_of_contains h.contains_eq, fun name t ht => ?_⟩
  by_cases hname : name = x.account
  · subst hname
    obtain ⟨u, u', hu, hu', hgains⟩ := h.template
    obtain rfl : u = t := Option.some.inj (hu.symm.trans ht)
    exact ⟨u', hu', hgains.within⟩
  · exact ⟨t, (h.others name hname).trans ht, .refl t⟩

/-- Emits resources one after the other, whatever comes of each. -/
def emitAll (s : TemplateSet) : List Resource → TemplateSet × List (Except Problem Handle)
  | [] => (s, [])
  | x :: rs =>
    let (outcome, s) := s.attempt x
    let (s, outcomes) := s.emitAll rs
    (s, outcome :: outcomes)

theorem handle_of_emit {s s' : TemplateSet} {x : Resource} {handle : Handle}
    (h : s.emit x = .ok (s', handle)) : handle = ⟨x.account, x.logicalId⟩ := by
  unfold emit at h
  split at h
  · cases h
  · obtain ⟨t, _, heq⟩ := map_eq_ok_iff.mp h
    cases heq
    rfl

theorem attempt_cases (s : TemplateSet) (x : Resource) :
    (∃ e, s.attempt x = (.error e, s)) ∨
      ∃ handle s', s.attempt x = (.ok handle, s') ∧ s.Gains x s' := by
  rw [attempt_eq]
  cases h : s.emit x with
  | error e => exact Or.inl ⟨e, rfl⟩
  | ok result => exact Or.inr ⟨result.2, result.1, rfl, gains_of_emit h⟩

theorem emitAll_cons (s : TemplateSet) (x : Resource) (rs : List Resource) :
    s.emitAll (x :: rs) =
      (((s.attempt x).2.emitAll rs).1, (s.attempt x).1 :: ((s.attempt x).2.emitAll rs).2) := rfl

theorem length_emitAll (s : TemplateSet) (rs : List Resource) :
    (s.emitAll rs).2.length = rs.length := by
  induction rs generalizing s with
  | nil => rfl
  | cons x rs ih => rw [emitAll_cons, List.length_cons, List.length_cons, ih]

theorem within_emitAll (s : TemplateSet) (rs : List Resource) : s.Within (s.emitAll rs).1 := by
  induction rs generalizing s with
  | nil => exact .refl s
  | cons x rs ih =>
    rw [emitAll_cons]
    rcases s.attempt_cases x with ⟨e, h⟩ | ⟨handle, s', h, hgains⟩
    · rw [h]
      exact ih s
    · rw [h]
      exact hgains.within.trans (ih s')

theorem resourceCount_emitAll (s : TemplateSet) (rs : List Resource) :
    (s.emitAll rs).1.resourceCount =
      s.resourceCount + (s.emitAll rs).2.countP Except.isOk := by
  induction rs generalizing s with
  | nil => rfl
  | cons x rs ih =>
    rw [emitAll_cons]
    rcases s.attempt_cases x with ⟨e, h⟩ | ⟨handle, s', h, hgains⟩
    · rw [h, ih, List.countP_cons_of_neg (by simp [Except.isOk, Except.toBool])]
    · rw [h, ih, List.countP_cons_of_pos rfl, hgains.resourceCount]
      omega

theorem stored_emitAll (s : TemplateSet) {rs : List Resource} {x : Resource} {handle : Handle}
    (hx : (x, .ok handle) ∈ rs.zip (s.emitAll rs).2) :
    ∃ t, (s.emitAll rs).1.get? x.account = some t ∧
      t.resources.get? x.logicalId = some x.toJson := by
  induction rs generalizing s with
  | nil => cases hx
  | cons y rs ih =>
    rw [emitAll_cons] at hx ⊢
    rcases List.mem_cons.mp hx with heq | hx
    · obtain ⟨rfl, hok⟩ := Prod.mk.inj heq
      rcases s.attempt_cases x with ⟨e, h⟩ | ⟨handle', s', h, hgains⟩
      · rw [h] at hok
        cases hok
      · -- It is stored here, and whatever comes after leaves it there.
        obtain ⟨t, t', _, ht', htemplate⟩ := hgains.template
        obtain ⟨u, hu, hwithin⟩ := (within_emitAll s' rs).templates _ t' ht'
        refine ⟨u, by rw [h]; exact hu, hwithin.resources _ _ ?_⟩
        rw [htemplate.resources, NameMap.get?_insert, if_pos rfl]
    · exact ih _ hx

end TemplateSet

/-- Emitting in place does what emitting does. A refused resource leaves the whole store as it was,
and one that is taken is added to its account under a free id, with nothing else changed. So
however many resources were emitted, and whatever was refused, each account has its one template
with the version that it began with, and the templates hold just the resources that were taken. -/
theorem emitAll_only_adds (r : Registry) (version : String) (rs : List Resource) :
    (∀ (s : TemplateSet) (x : Resource), match s.attempt x with
      | (.error e, s') => s.emit x = .error e ∧ s' = s
      | (.ok handle, s') => s.emit x = .ok (s', handle) ∧ handle = ⟨x.account, x.logicalId⟩ ∧
          s.Gains x s') ∧
    let (set, outcomes) := (TemplateSet.ofRegistry r version).emitAll rs
    set.templates.keys = r.accounts.keys ∧
    outcomes.length = rs.length ∧
    set.resourceCount = outcomes.countP Except.isOk ∧
    (∀ x handle, (x, .ok handle) ∈ rs.zip outcomes → ∃ t, set.get? x.account = some t ∧
      t.resources.get? x.logicalId = some x.toJson) ∧
    ∀ name a, r.accounts.get? name = some a → ∃ t, set.get? name = some t ∧
      (Template.ofAccount a version).Within t ∧
      t.outputs.get? "TemplateBuild" = some (Template.buildOutput version).toJson := by
  constructor
  · intro s x
    rw [TemplateSet.attempt_eq]
    cases h : s.emit x with
    | error e => exact ⟨rfl, rfl⟩
    | ok result =>
      exact ⟨rfl, TemplateSet.handle_of_emit h, TemplateSet.gains_of_emit h⟩
  · have hwithin := (TemplateSet.ofRegistry r version).within_emitAll rs
    refine ⟨?_, ?_, ?_, ?_, ?_⟩
    · rw [hwithin.keys]
      exact NameMap.keys_map _ _
    · exact TemplateSet.length_emitAll _ rs
    · rw [TemplateSet.resourceCount_emitAll, TemplateSet.resourceCount_ofRegistry, Nat.zero_add]
    · intro x handle hx
      exact TemplateSet.stored_emitAll _ hx
    · intro name a ha
      obtain ⟨t, ht, htwithin⟩ :=
        hwithin.templates name _ (TemplateSet.get?_ofRegistry ha version)
      exact ⟨t, ht, htwithin, htwithin.outputs _ _ rfl⟩

end OrgStacks
