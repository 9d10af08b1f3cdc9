import OrgStacks.Proofs.Registry
import OrgStacks.Proofs.Report

/-!
# What the checks find

The problems that a check reports are its findings, each once, so a configuration is accepted
exactly when there are none. The other statements say for each kind of entity what is found.
-/

namespace OrgStacks.Config
set_option autoImplicit false

def reported (c : Config) (r : Registry) : List Problem :=
  match c.validate r with
  | .ok () => []
  | .error e => e.problems

theorem mem_addNew {found : List Problem} {p q : Problem} :
    q ∈ addNew found p ↔ q ∈ found ∨ q = p := by
  unfold addNew
  split
  · constructor
    · exact Or.inl
    · rintro (h | rfl)
      · exact h
      · assumption
  · simp

theorem mem_withoutRepetition {ps : List Problem} {q : Problem} :
    q ∈ withoutRepetition ps ↔ q ∈ ps := by
  have h : ∀ found, q ∈ ps.foldl addNew found ↔ q ∈ found ∨ q ∈ ps := by
    induction ps with
    | nil => simp
    | cons p ps ih =>
      intro found
      rw [List.foldl_cons, ih, mem_addNew, List.mem_cons, or_assoc]
  simpa [withoutRepetition] using h []

theorem problemsOf_map_problem (ps : List Problem) :
    CompileError.problemsOf (ps.map .problem) = ps := by
  induction ps with
  | nil => rfl
  | cons p ps ih => simp [CompileError.problemsOf, CompileError.problems, ih]

theorem reported_eq (c : Config) (r : Registry) :
    c.reported r = withoutRepetition (Scope.of c r).findings := by
  unfold reported
  rw [validate_eq]
  generalize withoutRepetition (Scope.of c r).findings = ps
  match ps with
  | [] => rfl
  | [p] => rfl
  | p :: q :: ps => exact problemsOf_map_problem (p :: q :: ps)

@[simp] theorem mem_reported {c : Config} {r : Registry} {e : Problem} :
    e ∈ c.reported r ↔ e ∈ (Scope.of c r).findings := by
  rw [reported_eq, mem_withoutRepetition]

theorem validate_eq_ok_iff {c : Config} {r : Registry} :
    c.validate r = .ok () ↔ ∀ e, e ∉ (Scope.of c r).findings := by
  have hmem (e : Problem) :
      e ∈ withoutRepetition (Scope.of c r).findings ↔ e ∈ (Scope.of c r).findings :=
    mem_withoutRepetition
  rw [validate_eq]
  generalize withoutRepetition (Scope.of c r).findings = ps at hmem ⊢
  simp only [← hmem]
  match ps with
  | [] => simp [CompileError.collect]
  | [p] => simp [CompileError.collect]
  | p :: q :: ps =>
    simp only [CompileError.collect, reduceCtorEq, false_iff, not_forall, not_not]
    exact ⟨p, List.mem_cons_self⟩

/-- Which of the two shapes an error has is up to the number of problems. -/
theorem collect_cases (ps : List Problem) :
    (CompileError.collect ps = .ok () ↔ ps = []) ∧
    (∀ p, CompileError.collect ps = .error (.problem p) ↔ ps = [p]) ∧
    ∀ errors, CompileError.collect ps = .error (.invalid errors) ↔
      2 ≤ ps.length ∧ errors = ps.map .problem := by
  match ps with
  | [] => simp [CompileError.collect]
  | [p] => simp [CompileError.collect]
  | p :: q :: ps => simp [CompileError.collect, eq_comm]

namespace Scope

theorem mem_entityFindings {α : Type} {find : String → α → List Problem} {m : NameMap α}
    {e : Problem} :
    e ∈ entityFindings find m ↔
      ∃ name entity, m.get? name = some entity ∧ e ∈ find name entity := by
  simp only [entityFindings, List.mem_flatMap, Prod.exists, NameMap.mem_entries_iff]

variable {s : Scope} {e : Problem}

theorem mem_findings :
    e ∈ s.findings ↔
      e ∈ entityFindings s.policyFindings s.config.policies ∨
      e ∈ entityFindings s.roleFindings s.config.roles ∨
      e ∈ entityFindings s.groupFindings s.config.groups ∨
      e ∈ entityFindings s.userFindings s.config.users ∨
      e ∈ entityFindings s.bucketFindings s.config.buckets ∨
      e ∈ entityFindings s.trailFindings s.config.trails := by
  simp only [findings, List.mem_append, or_assoc]

section Kinds
variable {name : String}

theorem mem_findings_of_policy {p : PolicyConfig} (hp : s.config.policies.get? name = some p)
    (h : e ∈ s.policyFindings name p) : e ∈ s.findings :=
  mem_findings.mpr (Or.inl (mem_entityFindings.mpr ⟨name, p, hp, h⟩))

theorem mem_findings_of_role {r : RoleConfig} (hr : s.config.roles.get? name = some r)
    (h : e ∈ s.roleFindings name r) : e ∈ s.findings :=
  mem_findings.mpr (Or.inr (Or.inl (mem_entityFindings.mpr ⟨name, r, hr, h⟩)))

theorem mem_findings_of_group {g : GroupConfig} (hg : s.config.groups.get? name = some g)
    (h : e ∈ s.groupFindings name g) : e ∈ s.findings :=
  mem_findings.mpr (Or.inr (Or.inr (Or.inl (mem_entityFindings.mpr ⟨name, g, hg, h⟩))))

theorem mem_findings_of_user {u : UserConfig} (hu : s.config.users.get? name = some u)
    (h : e ∈ s.userFindings name u) : e ∈ s.findings :=
  mem_findings.mpr (Or.inr (Or.inr (Or.inr (Or.inl (mem_entityFindings.mpr ⟨name, u, hu, h⟩)))))

theorem mem_findings_of_bucket {b : BucketConfig} (hb : s.config.buckets.get? name = some b)
    (h : e ∈ s.bucketFindings name b) : e ∈ s.findings :=
  mem_findings.mpr (Or.inr (Or.inr (Or.inr (Or.inr (Or.inl
    (mem_entityFindings.mpr ⟨name, b, hb, h⟩))))))

theorem mem_findings_of_trail {t : TrailConfig} (ht : s.config.trails.get? name = some t)
    (h : e ∈ s.trailFindings name t) : e ∈ s.findings :=
  mem_findings.mpr (Or.inr (Or.inr (Or.inr (Or.inr (Or.inr
    (mem_entityFindings.mpr ⟨name, t, ht, h⟩))))))

end Kinds

theorem mem_placedFindings {α : Type} [Entity α] {entity : α} {references : List String}
    {name : String} :
    e ∈ s.placedFindings entity references name ↔
      s.registry.select (Entity.context entity) = .error e ∨
      ∃ account, s.registry.places entity account = true ∧
        ∃ reference ∈ references, s.placements.resolve reference account name = .error e := by
  unfold placedFindings accountsOf
  split
  · rename_i p hp
    simp [hp, Registry.places, eq_comm]
  · rename_i accounts haccounts
    simp [haccounts, Registry.places_of_select haccounts, badReferences]

theorem mem_policyFindings {name : String} {p : PolicyConfig} :
    e ∈ s.policyFindings name p ↔
      s.registry.select (Entity.context p) = .error e ∨ p.body name = .error e ∨
      ∃ a, p.body name = .ok (.assume a) ∧ s.registry.select a.accounts = .error e := by
  unfold policyFindings
  rw [List.mem_append, mem_problemOf]
  refine or_congr Iff.rfl ?_
  cases p.body name with
  | error p => simp [eq_comm]
  | ok body => cases body <;> simp

theorem mem_roleFindings {name : String} {r : RoleConfig} :
    e ∈ s.roleFindings name r ↔
      (∃ token ∈ r.trusts, s.registry.trust token = .error e) ∨
      e ∈ s.placedFindings r r.managedPolicies name := by
  simp [roleFindings]

theorem mem_groupFindings_of_placed {name : String} {g : GroupConfig}
    (h : e ∈ s.placedFindings g g.managedPolicies name) : e ∈ s.groupFindings name g :=
  List.mem_append_right _ h

theorem mem_trailFindings_of_select {name : String} {t : TrailConfig}
    (h : s.registry.select (Entity.context t) = .error e) : e ∈ s.trailFindings name t := by
  unfold trailFindings accountsOf
  rw [h]
  exact List.mem_singleton.mpr rfl

end Scope

/-- The check reports what there is to find in the order of the kinds and names, each problem where
it is first found: nothing is wrong when there are no findings, and otherwise the problem itself is
the error when there is only one, and the list of all of them when there are more. -/
theorem validate_reports_findings (c : Config) (r : Registry) :
    (c.validate r = .ok () ↔ (Scope.of c r).findings = []) ∧
    c.reported r = (Scope.of c r).findings.eraseDups ∧
    (∀ p, c.validate r = .error (.problem p) ↔ (Scope.of c r).findings.eraseDups = [p]) ∧
    ∀ errors, c.validate r = .error (.invalid errors) ↔
      2 ≤ (Scope.of c r).findings.eraseDups.length ∧
        errors = (Scope.of c r).findings.eraseDups.map .problem := by
  have hreported := reported_eq c r
  rw [withoutRepetition_eq_eraseDups] at hreported
  rw [validate_eq, withoutRepetition_eq_eraseDups]
  obtain ⟨hok, hone, hmany⟩ := collect_cases (Scope.of c r).findings.eraseDups
  refine ⟨hok.trans ?_, hreported, hone, hmany⟩
  simp only [List.eq_nil_iff_forall_not_mem, List.mem_eraseDups]

end OrgStacks.Config
