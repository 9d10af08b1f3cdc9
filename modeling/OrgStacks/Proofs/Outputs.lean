import Mathlib.Algebra.Order.BigOperators.Group.List
import Mathlib.Algebra.Order.Group.Nat
import OrgStacks.Proofs.Growth

/-!
# The outputs of a run

Emitting checks the outputs of a resource against those that are there, and not against each other.
So a run keeps, for every resource that is taken, the last output under each id
(`Template.Takes.outputs_perm`). Nothing else is lost: there is one output for each that was given
exactly when no resource that is taken names an id twice.
-/

namespace OrgStacks
set_option autoImplicit false

namespace Output

def entry (o : Output) : String × Json := (o.logicalId, o.toJson)

def lastUnderId : List Output → List Output
  | [] => []
  | o :: os =>
    if os.any (fun p => p.logicalId = o.logicalId) then lastUnderId os else o :: lastUnderId os

theorem lastUnderId_sublist (os : List Output) : (lastUnderId os).Sublist os := by
  induction os with
  | nil => exact .refl _
  | cons o os ih =>
    rw [lastUnderId]
    split
    · exact ih.cons o
    · exact ih.cons_cons o

theorem nodup_lastUnderId (os : List Output) : ((lastUnderId os).map logicalId).Nodup := by
  induction os with
  | nil => exact .nil
  | cons o os ih =>
    rw [lastUnderId]
    split
    · exact ih
    · next hlast =>
      refine List.nodup_cons.mpr ⟨fun hmem => hlast ?_, ih⟩
      obtain ⟨p, hp, hid⟩ := List.mem_map.mp hmem
      rw [List.any_eq_true]
      exact ⟨p, (lastUnderId_sublist os).mem hp, by simpa using hid⟩

theorem lastUnderId_eq_self_iff {os : List Output} :
    lastUnderId os = os ↔ (os.map logicalId).Nodup := by
  constructor
  · intro h
    rw [← h]
    exact nodup_lastUnderId os
  · intro h
    induction os with
    | nil => rfl
    | cons o os ih =>
      rw [List.map_cons, List.nodup_cons] at h
      have hlast : ¬ os.any (fun p => p.logicalId = o.logicalId) = true := by
        rw [List.any_eq_true]
        rintro ⟨p, hp, hid⟩
        exact h.1 (List.mem_map.mpr ⟨p, hp, by simpa using hid⟩)
      rw [lastUnderId, if_neg hlast, ih h.2]

theorem length_lastUnderId_eq_iff {os : List Output} :
    (lastUnderId os).length = os.length ↔ (os.map logicalId).Nodup := by
  rw [← lastUnderId_eq_self_iff]
  exact ⟨(lastUnderId_sublist os).eq_of_length, congrArg List.length⟩

end Output

namespace Template

/-- A later output of the same id takes the place of what was there. -/
theorem withOutputs_insert {os : List Output} {m : NameMap Json} {key : String}
    (h : ∃ o ∈ os, o.logicalId = key) (value : Json) :
    withOutputs (m.insert key value) os = withOutputs m os := by
  induction os generalizing m with
  | nil => simp at h
  | cons o os ih =>
    change withOutputs ((m.insert key value).insert o.logicalId o.toJson) os =
      withOutputs (m.insert o.logicalId o.toJson) os
    by_cases hkey : key = o.logicalId
    · rw [hkey, NameMap.insert_insert]
    · rw [NameMap.insert_comm m value o.toJson hkey]
      apply ih
      obtain ⟨p, hp, hpkey⟩ := h
      rcases List.mem_cons.mp hp with rfl | hp
      · exact absurd hpkey.symm hkey
      · exact ⟨p, hp, hpkey⟩

theorem withOutputs_lastUnderId (m : NameMap Json) (os : List Output) :
    withOutputs m (Output.lastUnderId os) = withOutputs m os := by
  induction os generalizing m with
  | nil => rfl
  | cons o os ih =>
    rw [Output.lastUnderId]
    split
    · next hlater =>
      obtain ⟨p, hp, hid⟩ := List.any_eq_true.mp hlater
      rw [ih]
      exact (withOutputs_insert ⟨p, hp, by simpa using hid⟩ o.toJson).symm
    · exact ih _

theorem outputs_insert_perm {t : Template} {x : Resource} (h : t.clash? x = none) :
    (t.insert x).outputs.entries.Perm
      ((Output.lastUnderId x.outputs).map Output.entry ++ t.outputs.entries) := by
  have houtputs : (t.insert x).outputs = withOutputs t.outputs (Output.lastUnderId x.outputs) :=
    (withOutputs_lastUnderId t.outputs x.outputs).symm
  rw [houtputs]
  apply NameMap.entries_foldl_insert_perm (Output.nodup_lastUnderId x.outputs)
  intro o ho
  exact (clash?_eq_none_iff.mp h).2 o ((Output.lastUnderId_sublist _).mem ho)

/-- The template becomes another by taking these resources, none of which clashes. -/
inductive Takes : Template → List Resource → Template → Prop where
  | nil {t : Template} : t.Takes [] t
  | cons {t t' : Template} {x : Resource} {xs : List Resource} :
      t.clash? x = none → (t.insert x).Takes xs t' → t.Takes (x :: xs) t'

namespace Takes
variable {t t' : Template} {xs : List Resource}

theorem eq_insertAll (h : t.Takes xs t') : t' = t.insertAll xs := by
  induction h with
  | nil => rfl
  | cons _ _ ih => exact ih

theorem outputs_perm (h : t.Takes xs t') : t'.outputs.entries.Perm
    ((xs.flatMap fun x => Output.lastUnderId x.outputs).map Output.entry ++ t.outputs.entries) := by
  induction h with
  | nil => exact .refl _
  | @cons t t' x xs hclash _ ih =>
    rw [List.flatMap_cons, List.map_append, List.append_assoc]
    -- What the later resources add stands after what this one adds.
    refine (ih.trans ((outputs_insert_perm hclash).append_left _)).trans ?_
    exact List.perm_append_comm_assoc _ _ _

end Takes

end Template

namespace Resource

/-- The resources of an account that were taken, among all that were emitted. -/
def taken (account : String) (emitted : List (Resource × Except Problem Handle)) : List Resource :=
  (emitted.filter fun e => e.1.account = account && e.2.isOk).map (·.1)

/-- The resource, or one of its outputs, has an id that is in use once these are taken. -/
def Clashes (x : Resource) (taken : List Resource) : Prop :=
  (∃ y ∈ taken, y.logicalId = x.logicalId) ∨
    ∃ o ∈ x.outputs, o.logicalId = "TemplateBuild" ∨
      ∃ y ∈ taken, ∃ p ∈ y.outputs, p.logicalId = o.logicalId

theorem taken_cons (account : String) (x : Resource) (outcome : Except Problem Handle)
    (emitted : List (Resource × Except Problem Handle)) :
    taken account ((x, outcome) :: emitted) =
      if x.account = account ∧ outcome.isOk = true then x :: taken account emitted
      else taken account emitted := by
  by_cases hname : x.account = account <;> cases hok : outcome.isOk <;> simp [taken, hname, hok]

end Resource

namespace TemplateSet
variable {s : TemplateSet} {t : Template}

theorem attempt_of_clash {x : Resource} {id : String} (h : s.get? x.account = some t)
    (hclash : t.clash? x = some id) :
    s.attempt x = (.error (.duplicateResource t.account id), s) := by
  rw [attempt_eq, emit, h]
  simp only [Template.add, hclash]
  rfl

theorem attempt_of_free {x : Resource} (h : s.get? x.account = some t)
    (hclash : t.clash? x = none) :
    s.attempt x = (.ok ⟨x.account, x.logicalId⟩,
      { s with templates := s.templates.insert x.account (t.insert x) }) := by
  rw [attempt_eq, emit, h]
  simp only [Template.add, hclash]
  rfl

theorem get?_attempt_of_ne {x : Resource} {name : String} (h : x.account ≠ name) :
    (s.attempt x).2.get? name = s.get? name := by
  rcases s.attempt_cases x with ⟨e, hattempt⟩ | ⟨handle, s', hattempt, hgains⟩
  · rw [hattempt]
  · rw [hattempt]
    exact hgains.others name h.symm

/-- A run leaves in each template the resources of its account that were taken, in their order. -/
theorem takes_emitAll {name : String} (rs : List Resource) (h : s.get? name = some t) :
    ∃ t', (s.emitAll rs).1.get? name = some t' ∧
      t.Takes (Resource.taken name (rs.zip (s.emitAll rs).2)) t' := by
  induction rs generalizing s t with
  | nil => exact ⟨t, h, .nil⟩
  | cons x rs ih =>
    rw [emitAll_cons, List.zip_cons_cons, Resource.taken_cons]
    by_cases hname : x.account = name
    · subst hname
      cases hclash : t.clash? x with
      | some id =>
        rw [attempt_of_clash h hclash, if_neg (by simp [Except.isOk, Except.toBool])]
        exact ih h
      | none =>
        rw [attempt_of_free h hclash, if_pos ⟨rfl, rfl⟩]
        have hget : ({ s with templates := s.templates.insert x.account (t.insert x) } :
            TemplateSet).get? x.account = some (t.insert x) := by
          simp [get?, NameMap.get?_insert]
        obtain ⟨t', ht', htakes⟩ := ih hget
        exact ⟨t', ht', .cons hclash htakes⟩
    · rw [if_neg fun hboth => hname hboth.1]
      exact ih ((get?_attempt_of_ne hname).trans h)

end TemplateSet

theorem sum_eq_sum_iff_of_le {α : Type} {f g : α → Nat} {l : List α} (hle : ∀ x ∈ l, f x ≤ g x) :
    (l.map f).sum = (l.map g).sum ↔ ∀ x ∈ l, f x = g x := by
  induction l with
  | nil => simp
  | cons x l ih =>
    have hrest := ih fun y hy => hle y (List.mem_cons_of_mem x hy)
    have hsum := List.sum_le_sum fun y hy => hle y (List.mem_cons_of_mem x hy)
    have hx := hle x List.mem_cons_self
    rw [List.map_cons, List.map_cons, List.sum_cons, List.sum_cons, List.forall_mem_cons, ← hrest]
    omega

theorem Template.Takes.size_outputs_eq_iff {t t' : Template} {xs : List Resource}
    (h : t.Takes xs t') :
    t'.outputs.size = t.outputs.size + (xs.map fun x => x.outputs.length).sum ↔
      ∀ x ∈ xs, (x.outputs.map Output.logicalId).Nodup := by
  have hsize : t'.outputs.size =
      t.outputs.size + (xs.map fun x => (Output.lastUnderId x.outputs).length).sum := by
    unfold NameMap.size
    rw [h.outputs_perm.length_eq, List.length_append, List.length_map, List.length_flatMap,
      Nat.add_comm]
  rw [hsize, Nat.add_left_cancel_iff,
    sum_eq_sum_iff_of_le fun x _ => (Output.lastUnderId_sublist x.outputs).length_le]
  simp only [Output.length_lastUnderId_eq_iff]

/-- The ids in use are those of the resources that were taken and of their outputs, and that of the
build version. -/
theorem Template.Takes.clash?_eq_none_iff {a : Account} {version : String} {t : Template}
    {xs : List Resource} (h : (Template.ofAccount a version).Takes xs t) {x : Resource} :
    t.clash? x = none ↔ ¬ x.Clashes xs := by
  rw [h.eq_insertAll, Template.clash?_eq_none_iff, Resource.Clashes, not_or]
  simp only [← Bool.not_eq_true, Template.contains_resources_insertAll,
    Template.contains_outputs_insertAll, Template.ofAccount, NameMap.contains_insert,
    NameMap.contains_empty, Bool.false_eq_true, or_false, not_exists, not_and, not_or,
    @eq_comm _ "TemplateBuild", and_comm]

/-- Whatever is emitted, and whatever of it is refused, the outputs of an account are the build
version and, for each resource that was taken, the last output under each of its ids. So their number
is one more than that of all outputs given exactly when no such resource names an id twice, and then
each output is there. A further resource is refused as a duplicate exactly when its id is that of a
resource that was taken, or an output has the id of one that is there. -/
theorem outputs_of_taken (r : Registry) (version : String) (rs : List Resource) :
    let (set, outcomes) := (TemplateSet.ofRegistry r version).emitAll rs
    ∀ name a, r.accounts.get? name = some a →
      let taken := Resource.taken name (rs.zip outcomes)
      (∃ t, set.get? name = some t ∧
        t.outputs.entries.Perm ((Template.buildOutput version ::
          taken.flatMap fun x => Output.lastUnderId x.outputs).map Output.entry) ∧
        (t.outputs.size = 1 + (taken.map fun x => x.outputs.length).sum ↔
          ∀ x ∈ taken, (x.outputs.map Output.logicalId).Nodup) ∧
        ((∀ x ∈ taken, (x.outputs.map Output.logicalId).Nodup) → t.outputs.entries.Perm
          ((Template.buildOutput version :: taken.flatMap Resource.outputs).map Output.entry))) ∧
      ∀ x, x.account = name →
        (x.Clashes taken → ∃ id, set.attempt x = (.error (.duplicateResource a.name id), set)) ∧
        (¬ x.Clashes taken → (set.attempt x).1 = .ok ⟨name, x.logicalId⟩) := by
  intro name a ha taken
  have hstart := TemplateSet.get?_ofRegistry ha version
  obtain ⟨t, ht, htakes⟩ := TemplateSet.takes_emitAll rs hstart
  have hperm : t.outputs.entries.Perm ((Template.buildOutput version ::
      taken.flatMap fun x => Output.lastUnderId x.outputs).map Output.entry) :=
    htakes.outputs_perm.trans (List.perm_append_singleton _ _)
  constructor
  · refine ⟨t, ht, hperm, htakes.size_outputs_eq_iff, ?_⟩
    intro hdistinct
    have hlast : (taken.flatMap fun x => Output.lastUnderId x.outputs) =
        taken.flatMap Resource.outputs :=
      List.flatMap_congr fun x hx => Output.lastUnderId_eq_self_iff.mpr (hdistinct x hx)
    rwa [hlast] at hperm
  · rintro x rfl
    have haccount : t.account = a.name := by
      rw [htakes.eq_insertAll, Template.account_insertAll]
      rfl
    constructor
    · intro hclashes
      cases hclash : t.clash? x with
      | none => exact absurd hclashes (htakes.clash?_eq_none_iff.mp hclash)
      | some id => exact ⟨id, haccount ▸ TemplateSet.attempt_of_clash ht hclash⟩
    · intro hfree
      rw [TemplateSet.attempt_of_free ht (htakes.clash?_eq_none_iff.mpr hfree)]

def loneRegistry : Registry :=
  let root : Account := { name := "root", id := "1", isParent := true }
  ⟨.ofList [("root", root)], .ofList [("1", "root")], root⟩

def outputOf (id description : String) : Output := ⟨id, description, .str description⟩

def resourceWithOutputs (id : String) (outputs : List Output) : Resource where
  account := "root"
  logicalId := id
  kind := .role
  outputs := outputs

/-- Two resources with outputs of their own, and what is left of them in the one account. -/
def ownOutputs : TemplateSet × List (Except Problem Handle) :=
  (TemplateSet.ofRegistry loneRegistry "1").emitAll
    [resourceWithOutputs "AdminRole" [outputOf "AdminArn" "arn", outputOf "AdminName" "name"],
      resourceWithOutputs "AuditRole" [outputOf "AuditArn" "arn"]]

/-- All three outputs are there, and a third resource with one of their ids is refused. -/
theorem ownOutputs_kept :
    (∃ t, ownOutputs.1.get? "root" = some t ∧ t.outputs.size = 4) ∧
      ∃ id, ownOutputs.1.attempt (resourceWithOutputs "OtherRole" [outputOf "AuditArn" "again"]) =
        (.error (.duplicateResource "root" id), ownOutputs.1) := by
  obtain ⟨⟨t, ht, _, hsize, _⟩, hrefuse⟩ :=
    outputs_of_taken loneRegistry "1" _ "root" loneRegistry.parent rfl
  constructor
  · refine ⟨t, ht, ?_⟩
    rw [hsize.mpr (by decide +kernel)]
    decide +kernel
  · refine (hrefuse _ rfl).1 ?_
    unfold Resource.Clashes
    decide +kernel

/-- Two outputs of one resource under the same id: the resource is taken, and only one of them is
there beside the build version. -/
theorem repeated_output_lost :
    let (set, outcomes) := (TemplateSet.ofRegistry loneRegistry "1").emitAll
      [resourceWithOutputs "AdminRole" [outputOf "AdminArn" "first", outputOf "AdminArn" "second"]]
    outcomes.map Except.isOk = [true] ∧
      (set.get? "root").map (fun t => t.outputs.keys) = some ["AdminArn", "TemplateBuild"] := by
  decide +kernel

end OrgStacks
