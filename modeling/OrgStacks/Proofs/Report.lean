import OrgStacks.Proofs.NameMap
import OrgStacks.Validation

/-!
# The report of the checks

Checking an entity adds its findings to the report, and the places of the buckets are all that one
kind leaves to another. So the report lists the findings of all kinds in order, each where it was
first found, `Config.Scope.problems_report`.
-/

namespace OrgStacks.Config
set_option autoImplicit false

theorem foldl_addNew (found ps : List Problem) :
    ps.foldl addNew found = found ++ (ps.removeAll found).eraseDups := by
  induction ps generalizing found with
  | nil => simp [List.removeAll]
  | cons p ps ih =>
    rw [List.foldl_cons, ih]
    unfold addNew
    by_cases hp : p ∈ found
    · simp [hp, List.removeAll]
    · have hlater : ps.removeAll (found ++ [p]) =
          (ps.removeAll found).filter fun q => !q == p := by
        simp only [List.removeAll, List.filter_filter]
        refine List.filter_congr fun q _ => ?_
        by_cases hq : q = p <;> simp [hq]
      have hfirst : (p :: ps).removeAll found = p :: ps.removeAll found := by
        simp [List.removeAll, hp]
      rw [if_neg hp, hlater, hfirst, List.eraseDups_cons, List.append_assoc]
      rfl

theorem withoutRepetition_eq_eraseDups (ps : List Problem) :
    withoutRepetition ps = ps.eraseDups := by
  have hremove : ps.removeAll [] = ps := by simp [List.removeAll]
  unfold withoutRepetition
  rw [foldl_addNew, hremove, List.nil_append]

namespace Report
variable {k : Report}

@[simp] theorem addAll_nil (k : Report) : k.addAll [] = k := rfl

theorem addAll_append (k : Report) (ps qs : List Problem) :
    k.addAll (ps ++ qs) = (k.addAll ps).addAll qs := List.foldl_append

theorem note_eq_addAll {α : Type} (k : Report) (x : Except Problem α) :
    k.note x = k.addAll (problemOf x) := by
  cases x <;> rfl

@[simp] theorem problems_addAll (k : Report) (ps : List Problem) :
    (k.addAll ps).problems = ps.foldl addNew k.problems := by
  induction ps generalizing k with
  | nil => rfl
  | cons p ps ih => exact ih (k.add p)

@[simp] theorem buckets_addAll (k : Report) (ps : List Problem) :
    (k.addAll ps).buckets = k.buckets := by
  induction ps generalizing k with
  | nil => rfl
  | cons p ps ih => exact ih (k.add p)

theorem foldl_note {α β : Type} (f : α → Except Problem β) (l : List α) (k : Report) :
    l.foldl (fun k a => k.note (f a)) k = k.addAll (l.flatMap fun a => problemOf (f a)) := by
  induction l generalizing k with
  | nil => rfl
  | cons a l ih => rw [List.foldl_cons, ih, List.flatMap_cons, addAll_append, note_eq_addAll]

end Report

namespace Scope
variable {s : Scope} {k : Report} {name : String}

theorem checkReferences_eq (references : List String) (accounts : NameSet) :
    s.checkReferences k references name accounts =
      k.addAll (s.badReferences references accounts name) := by
  have hloop {α : Type} (f : α → List Problem) (l : List α) (found : List Problem) :
      l.foldl (fun found a => found ++ f a) found = found ++ l.flatMap f := by
    induction l generalizing found with
    | nil => simp
    | cons a l ih => rw [List.foldl_cons, ih, List.flatMap_cons, List.append_assoc]
  unfold checkReferences badReferences
  simp only [hloop, List.nil_append]

theorem checkPlace_references {α : Type} [Entity α] (entity : α) (references : List String) :
    s.checkPlace k entity (s.checkReferences k references name) =
      k.addAll (s.placedFindings entity references name) := by
  unfold checkPlace placedFindings
  split
  · rfl
  · exact checkReferences_eq references _

theorem checkPolicy_eq (p : PolicyConfig) :
    s.checkPolicy k name p = k.addAll (s.policyFindings name p) := by
  unfold checkPolicy policyFindings
  rw [Report.addAll_append, Report.note_eq_addAll]
  dsimp only
  split
  · rfl
  · exact Report.note_eq_addAll _ _
  · rfl

theorem checkRole_eq (r : RoleConfig) :
    s.checkRole k name r = k.addAll (s.roleFindings name r) := by
  unfold checkRole roleFindings
  rw [Report.addAll_append, Report.foldl_note]
  exact checkPlace_references r _

theorem checkGroup_eq (g : GroupConfig) :
    s.checkGroup k name g = k.addAll (s.groupFindings name g) := by
  unfold checkGroup groupFindings
  rw [Report.addAll_append]
  dsimp only
  rw [checkPlace_references]
  congr 1
  split
  · split <;> rfl
  · rfl

theorem checkUser_eq (u : UserConfig) :
    s.checkUser k name u = k.addAll (s.userFindings name u) := checkPlace_references u _

theorem problems_checkBucket (b : BucketConfig) :
    (s.checkBucket k name b).problems = (k.addAll (s.bucketFindings name b)).problems := by
  unfold checkBucket checkPlace bucketFindings
  cases s.accountsOf b <;> rfl

theorem get?_buckets_checkBucket (b : BucketConfig) (key : String) :
    (s.checkBucket k name b).buckets.get? key =
      if name = key then (s.accountsOf b).toOption.or (k.buckets.get? key)
      else k.buckets.get? key := by
  unfold checkBucket checkPlace
  cases s.accountsOf b with
  | error e => simp [Report.add, Except.toOption]
  | ok accounts => simp [NameMap.get?_insert, Except.toOption]

theorem checkTrail_eq (hk : ∀ bucket, k.buckets.get? bucket = s.bucketAccounts? bucket)
    (t : TrailConfig) : s.checkTrail k name t = k.addAll (s.trailFindings name t) := by
  unfold checkTrail checkPlace trailFindings
  split
  · rfl
  · split
    · rfl
    · rw [hk]
      split <;> rfl

/-- Where the buckets go may be relied on all along, since no finding changes it. -/
theorem checkAll_eq_of_buckets {α : Type} {check : Report → String → α → Report}
    {find : String → α → List Problem} {m : NameMap α} {k : Report}
    (h : ∀ k' name entity, k'.buckets = k.buckets →
      check k' name entity = k'.addAll (find name entity)) :
    checkAll check k m = k.addAll (entityFindings find m) := by
  unfold checkAll entityFindings
  generalize m.entries = entries
  induction entries generalizing k with
  | nil => rfl
  | cons e entries ih =>
    rw [List.foldl_cons, List.flatMap_cons, Report.addAll_append, h k e.1 e.2 rfl]
    refine ih fun k' name entity hk => h k' name entity ?_
    rw [hk, Report.buckets_addAll]

theorem checkAll_eq {α : Type} {check : Report → String → α → Report}
    {find : String → α → List Problem}
    (h : ∀ k name entity, check k name entity = k.addAll (find name entity)) (m : NameMap α)
    (k : Report) : checkAll check k m = k.addAll (entityFindings find m) :=
  checkAll_eq_of_buckets fun k' name entity _ => h k' name entity

theorem problems_checkAll_buckets (m : NameMap BucketConfig) :
    (checkAll s.checkBucket k m).problems =
      (k.addAll (entityFindings s.bucketFindings m)).problems := by
  unfold checkAll entityFindings
  generalize m.entries = entries
  induction entries generalizing k with
  | nil => rfl
  | cons e entries ih =>
    rw [List.foldl_cons, List.flatMap_cons, Report.addAll_append, ih, Report.problems_addAll,
      problems_checkBucket, Report.problems_addAll (k.addAll _)]

/-- After the buckets the report says where each of them goes. -/
theorem get?_buckets_checkAll (m : NameMap BucketConfig) (key : String) :
    (checkAll s.checkBucket k m).buckets.get? key =
      ((m.get? key).bind fun b => (s.accountsOf b).toOption).or (k.buckets.get? key) := by
  obtain ⟨entries, hordered⟩ := m
  unfold checkAll NameMap.get?
  dsimp only
  induction entries generalizing k with
  | nil => rfl
  | cons e entries ih =>
    obtain ⟨n, b⟩ := e
    obtain ⟨hfirst, hrest⟩ := List.pairwise_cons.mp hordered
    have hstep := @get?_buckets_checkBucket s k n b key
    unfold NameMap.get? at hstep
    rw [List.foldl_cons, ih hrest, hstep]
    by_cases hn : n = key
    · subst hn
      rw [valueOf?_eq_none_of_lt hfirst]
      simp [valueOf?]
    · simp [valueOf?, hn]

/-- The kinds before the buckets only add their findings. -/
theorem check_before_buckets (s : Scope) :
    [EntityKind.policy, .role, .group, .user].foldl s.check {} =
      ({} : Report).addAll (entityFindings s.policyFindings s.config.policies ++
        entityFindings s.roleFindings s.config.roles ++
        entityFindings s.groupFindings s.config.groups ++
        entityFindings s.userFindings s.config.users) := by
  have hpolicies := checkAll_eq fun k name p => @checkPolicy_eq s k name p
  have hroles := checkAll_eq fun k name r => @checkRole_eq s k name r
  have hgroups := checkAll_eq fun k name g => @checkGroup_eq s k name g
  have husers := checkAll_eq fun k name u => @checkUser_eq s k name u
  simp only [List.foldl_cons, List.foldl_nil, check, Report.addAll_append]
  rw [hpolicies, hroles, hgroups, husers]

/-- The report lists the findings of the kinds in their order, each where it was first found. -/
theorem problems_report (s : Scope) : s.report.problems = withoutRepetition s.findings := by
  have hbefore := check_before_buckets s
  have hreport : s.report = [EntityKind.bucket, .trail].foldl s.check
      ([EntityKind.policy, .role, .group, .user].foldl s.check {}) := rfl
  rw [hbefore] at hreport
  generalize hfirst : ({} : Report).addAll _ = k at hreport
  have hplaces : ∀ bucket, (checkAll s.checkBucket k s.config.buckets).buckets.get? bucket =
      s.bucketAccounts? bucket := by
    intro bucket
    rw [get?_buckets_checkAll, ← hfirst, Report.buckets_addAll]
    exact Option.or_none
  have htrails : s.report = (checkAll s.checkBucket k s.config.buckets).addAll
      (entityFindings s.trailFindings s.config.trails) := by
    rw [hreport]
    refine checkAll_eq_of_buckets fun k' name t hk => checkTrail_eq (fun bucket => ?_) t
    rw [hk]
    exact hplaces bucket
  rw [htrails, Report.problems_addAll, problems_checkAll_buckets, ← hfirst,
    ← Report.addAll_append, ← Report.problems_addAll, ← Report.addAll_append]
  exact Report.problems_addAll {} s.findings

end Scope

theorem validate_eq (c : Config) (r : Registry) :
    c.validate r = CompileError.collect (withoutRepetition (Scope.of c r).findings) := by
  unfold validate
  rw [Scope.problems_report]

end OrgStacks.Config
