import OrgStacks.Proofs.References
import OrgStacks.Proofs.Resource
import OrgStacks.Proofs.TrustDocument

/-!
# The checks foresee what building trips over

Whatever kinds are built and in whatever order, each problem that stops the building is one that
only building can find, `PolicySource.BuildProblem`, or was reported by the check of the
configuration. A group with inline policies is built under the names of the groups that it stands
for, so there the reported problem names the group instead, `Config.Foreseen`.
-/

namespace OrgStacks
set_option autoImplicit false

def Problem.forEntity (entity : String) : Problem → Problem
  | undeclaredPolicy policy _ => .undeclaredPolicy policy entity
  | inlineReference policy _ => .inlineReference policy entity
  | policyNotInAccount policy account _ => .policyNotInAccount policy account entity
  | p => p

/-- The problems that only building can find: a policy text that the source does not give, that
cannot be filled in or is not JSON, and a resource under an id that is taken. -/
inductive PolicySource.BuildProblem (source : PolicySource) : Problem → Prop where
  | unread {path : String} {e : Problem} : source.read path = .error e → BuildProblem source e
  | unrendered (path reason : String) : BuildProblem source (.policyFileRender path reason)
  | notJson (path reason : String) : BuildProblem source (.policyFileJson path reason)
  | taken (account logicalId : String) :
      BuildProblem source (.duplicateResource account logicalId)

/-- A problem that the check reports, up to the name of an expanded group. -/
inductive Config.Foreseen (c : Config) (r : Registry) : Problem → Prop where
  | reported {e : Problem} : e ∈ c.reported r → Foreseen c r e
  | expanded {name : String} {g : GroupConfig} {roles : List String} {child : Account}
      {role : String} {e : Problem} :
      c.groups.get? name = some g → g.inlinePolicies = some roles →
      child ∈ r.childAccounts → role ∈ roles →
      e.forEntity (BuildScope.expandedName child role) = e → e.forEntity name ∈ c.reported r →
      Foreseen c r e

/-- The policy files that a configuration needs in an account. -/
inductive Config.UsesFile (c : Config) (r : Registry) (a : Account) : PolicyFile → Prop where
  | policy {name : String} {p : PolicyConfig} {file : PolicyFile} :
      c.policies.get? name = some p → r.places p a.name = true → p.body name = .ok (.file file) →
      UsesFile c r a file
  | bucketPolicy {name : String} {b : BucketConfig} {p : BucketPolicyConfig} :
      c.buckets.get? name = some b → r.places b a.name = true → b.bucketPolicy = some p →
      UsesFile c r a p.file

def Config.FileProblem (c : Config) (r : Registry) (source : PolicySource) (e : Problem) : Prop :=
  ∃ a ∈ r.toList, ∃ file, c.UsesFile r a file ∧ file.document source c a r.parent = .error e

/-- What stopped each of several kinds, built one after the other whatever stopped those before. -/
def BuildScope.outcomes (s : BuildScope) (set : TemplateSet) :
    List EntityKind → List (Option Problem)
  | [] => []
  | kind :: kinds => (s.build set kind).2 :: s.outcomes (s.build set kind).1 kinds

theorem Config.not_foreseen_of_validate {c : Config} {r : Registry} (hv : c.validate r = .ok ())
    (e : Problem) : ¬ c.Foreseen r e := by
  have hnone := validate_eq_ok_iff.mp hv
  rintro (h | ⟨_, _, _, _, _, h⟩)
  · exact hnone _ (mem_reported.mp h)
  · exact hnone _ (mem_reported.mp h)

theorem PolicyFile.document_error {file : PolicyFile} {source : PolicySource} {c : Config}
    {account parent : Account} {e : Problem}
    (h : file.document source c account parent = .error e) : source.BuildProblem e := by
  unfold document at h
  rcases bind_eq_error_iff.mp h with hread | ⟨text, _, h⟩
  · exact .unread hread
  · split at h
    · cases h
      exact .unrendered _ _
    · split at h
      · cases h
      · cases h
        exact .notJson _ _

namespace Placements

/-- A reference fails alike for every entity, but for the name of the entity. -/
theorem resolve_error_forEntity {r : Registry} {policies : NameMap PolicyConfig}
    {reference account entity : String} {e : Problem}
    (h : (ofPolicies r policies).resolve reference account entity = .error e) (other : String) :
    e.forEntity entity = e ∧
      (ofPolicies r policies).resolve reference account other = .error (e.forEntity other) := by
  cases resolve_eq_iff.mp h with
  | undeclared hname hp => exact ⟨rfl, (Answers.undeclared hname hp).resolve_eq⟩
  | unplaced hname hp hselect =>
    have hother : (ofPolicies r policies).resolve reference account other = .error e :=
      (Answers.unplaced hname hp hselect).resolve_eq
    -- The problem of a policy's own accounts names a token, not an entity.
    obtain ⟨token, rfl | ⟨reason, rfl⟩⟩ := Registry.select_error hselect
    · exact ⟨rfl, hother⟩
    · exact ⟨rfl, hother⟩
  | inline hname hp hselect hinline =>
    exact ⟨rfl, (Answers.inline hname hp hselect hinline).resolve_eq⟩
  | elsewhere hname hp hselect hinline haccount =>
    exact ⟨rfl, (Answers.elsewhere hname hp hselect hinline haccount).resolve_eq⟩

end Placements

namespace BuildScope

theorem managedPolicies_error {s : BuildScope} {references : List String} {a : Account}
    {entity : String} {e : Problem} (h : s.managedPolicies references a entity = .error e) :
    ∃ reference ∈ references, s.placements.resolve reference a.name entity = .error e :=
  exists_of_mapM_eq_error (map_eq_error_iff.mp h)

/-- The accounts of a document are registered, so only their selection can fail. -/
theorem assumeDocument_error {s : BuildScope} (hr : s.registry.Sound) {assume : AssumeConfig}
    {e : Problem} (h : s.assumeDocument assume = .error e) :
    s.registry.select assume.accounts = .error e := by
  unfold assumeDocument at h
  rcases bind_eq_error_iff.mp h with h | ⟨names, hnames, h⟩
  · exact h
  · rcases bind_eq_error_iff.mp h with h | ⟨accounts, _, h⟩
    · obtain ⟨name, hname, h⟩ := exists_of_mapM_eq_error h
      obtain ⟨a, ha⟩ := hr.knows_select hnames name (NameSet.mem_toList.mp hname)
      rw [Registry.account_eq_ok_iff.mpr ha] at h
      cases h
    · cases h

section Steps
variable {c : Config} {r : Registry} {source : PolicySource} {e : Problem}

theorem foreseen_of_mem_findings (h : e ∈ (Config.Scope.of c r).findings) : c.Foreseen r e :=
  .reported (Config.mem_reported.mpr h)

theorem mem_placedFindings_of_managedPolicies {α : Type} [Entity α] {entity : α}
    {references : List String} {a : Account} {name : String}
    (hplaced : r.places entity a.name = true)
    (h : (of c r source).managedPolicies references a name = .error e) :
    e ∈ (Config.Scope.of c r).placedFindings entity references name := by
  obtain ⟨reference, hreference, hfail⟩ := managedPolicies_error h
  exact Config.Scope.mem_placedFindings.mpr
    (Or.inr ⟨a.name, hplaced, reference, hreference, hfail⟩)

theorem policy_problem_foreseen (hr : r.Sound) (h : .error e ∈ (of c r source).steps .policy) :
    c.FileProblem r source e ∨ c.Foreseen r e := by
  obtain ⟨name, p, hp, hcase⟩ := (mem_allSteps hr).mp h
  have found (he : e ∈ (Config.Scope.of c r).policyFindings name p) : c.Foreseen r e :=
    foreseen_of_mem_findings (Config.Scope.mem_findings_of_policy hp he)
  rcases hcase with ⟨_, hselect, heq⟩ | ⟨a, ha, hplaced, h⟩
  · cases heq
    exact Or.inr (found (Config.Scope.mem_policyFindings.mpr (Or.inl hselect)))
  · rcases error_mem_policySteps.mp h with hbody | ⟨file, hbody, hdoc⟩ | ⟨assume, hbody, hdoc⟩
    · exact Or.inr (found (Config.Scope.mem_policyFindings.mpr (Or.inr (Or.inl hbody))))
    · exact Or.inl ⟨a, ha, file, .policy hp hplaced hbody, hdoc⟩
    · have hselect := assumeDocument_error hr hdoc
      exact Or.inr (found
        (Config.Scope.mem_policyFindings.mpr (Or.inr (Or.inr ⟨assume, hbody, hselect⟩))))

theorem role_problem_foreseen (hr : r.Sound) (h : .error e ∈ (of c r source).steps .role) :
    c.Foreseen r e := by
  obtain ⟨name, role, hrole, hcase⟩ := (mem_allSteps hr).mp h
  apply foreseen_of_mem_findings
  apply Config.Scope.mem_findings_of_role hrole
  apply Config.Scope.mem_roleFindings.mpr
  rcases hcase with ⟨_, hselect, heq⟩ | ⟨a, _, hplaced, h⟩
  · cases heq
    exact Or.inr (Config.Scope.mem_placedFindings.mpr (Or.inl hselect))
  · rcases error_mem_roleSteps.mp h with htrust | ⟨_, _, hpolicies⟩
    · exact Or.inl (hr.trustDocument_error htrust)
    · exact Or.inr (mem_placedFindings_of_managedPolicies hplaced hpolicies)

theorem group_problem_foreseen (hr : r.Sound) (h : .error e ∈ (of c r source).steps .group) :
    c.Foreseen r e := by
  obtain ⟨name, g, hg, hcase⟩ := (mem_allSteps hr).mp h
  have found {p : Problem}
      (hp : p ∈ (Config.Scope.of c r).placedFindings g g.managedPolicies name) :
      p ∈ (Config.Scope.of c r).findings :=
    Config.Scope.mem_findings_of_group hg (Config.Scope.mem_groupFindings_of_placed hp)
  rcases hcase with ⟨_, hselect, heq⟩ | ⟨a, _, hplaced, h⟩
  · cases heq
    exact foreseen_of_mem_findings (found (Config.Scope.mem_placedFindings.mpr (Or.inl hselect)))
  · rcases error_mem_groupSteps.mp h with ⟨_, hpolicies⟩ | ⟨roles, hinline, child, hchild, role,
      hrole, hpolicies⟩
    · exact foreseen_of_mem_findings
        (found (mem_placedFindings_of_managedPolicies hplaced hpolicies))
    · -- The check resolves the same references under the name of the group.
      obtain ⟨reference, hreference, hfail⟩ := managedPolicies_error hpolicies
      obtain ⟨hself, hother⟩ := Placements.resolve_error_forEntity hfail name
      refine .expanded hg hinline hchild hrole hself (Config.mem_reported.mpr (found ?_))
      exact Config.Scope.mem_placedFindings.mpr
        (Or.inr ⟨a.name, hplaced, reference, hreference, hother⟩)

theorem user_problem_foreseen (hr : r.Sound) (h : .error e ∈ (of c r source).steps .user) :
    c.Foreseen r e := by
  obtain ⟨name, u, hu, hcase⟩ := (mem_allSteps hr).mp h
  apply foreseen_of_mem_findings
  apply Config.Scope.mem_findings_of_user hu
  rcases hcase with ⟨_, hselect, heq⟩ | ⟨a, _, hplaced, h⟩
  · cases heq
    exact Config.Scope.mem_placedFindings.mpr (Or.inl hselect)
  · exact mem_placedFindings_of_managedPolicies hplaced (error_mem_userSteps.mp h)

theorem bucket_problem_foreseen (hr : r.Sound) (h : .error e ∈ (of c r source).steps .bucket) :
    c.FileProblem r source e ∨ c.Foreseen r e := by
  obtain ⟨name, b, hb, ⟨_, hselect, heq⟩ | ⟨a, ha, hplaced, h⟩⟩ := (mem_allSteps hr).mp h
  · cases heq
    exact Or.inr (foreseen_of_mem_findings
      (Config.Scope.mem_findings_of_bucket hb (mem_problemOf.mpr hselect)))
  · obtain ⟨p, hp, hdoc⟩ := error_mem_bucketSteps.mp h
    exact Or.inl ⟨a, ha, p.file, .bucketPolicy hb hplaced hp, hdoc⟩

theorem trail_problem_foreseen (hr : r.Sound) (h : .error e ∈ (of c r source).steps .trail) :
    c.Foreseen r e := by
  obtain ⟨name, t, ht, ⟨_, hselect, heq⟩ | ⟨a, _, _, h⟩⟩ := (mem_allSteps hr).mp h
  · cases heq
    exact foreseen_of_mem_findings (Config.Scope.mem_findings_of_trail ht
      (Config.Scope.mem_trailFindings_of_select hselect))
  · exact absurd h error_not_mem_trailSteps

theorem step_problem_foreseen (hr : r.Sound) {kind : EntityKind}
    (h : .error e ∈ (of c r source).steps kind) :
    c.FileProblem r source e ∨ c.Foreseen r e := by
  cases kind with
  | policy => exact policy_problem_foreseen hr h
  | role => exact Or.inr (role_problem_foreseen hr h)
  | group => exact Or.inr (group_problem_foreseen hr h)
  | user => exact Or.inr (user_problem_foreseen hr h)
  | bucket => exact bucket_problem_foreseen hr h
  | trail => exact Or.inr (trail_problem_foreseen hr h)

/-- A resource that building makes is only ever refused because an id is taken. -/
theorem Makes.emit_error {s : BuildScope} {a : Account} {x : Resource} (hx : s.Makes a x)
    (ha : a ∈ r.toList) {set : TemplateSet} (hset : set.Covers r) (h : set.emit x = .error e) :
    ∃ id, e = .duplicateResource a.name id := by
  obtain ⟨t, ht, hname⟩ := hset a ha
  rcases TemplateSet.emit_eq_error h with ⟨hnone, _⟩ | ⟨u, id, hu, _, rfl⟩
  · rw [hx.account_eq, ht] at hnone
    cases hnone
  · rw [hx.account_eq, ht] at hu
    cases hu
    exact ⟨id, by rw [hname]⟩

theorem run_problem_foreseen (hr : r.Sound) {steps : Steps}
    (hsteps : ∀ x ∈ steps, ∃ kind, x ∈ (of c r source).steps kind) {set set' : TemplateSet}
    (hset : set.Covers r) (h : set.run steps = (set', some e)) :
    source.BuildProblem e ∨ c.Foreseen r e := by
  obtain ⟨before, x, after, rfl, hbefore, hx⟩ := TemplateSet.run_failed h
  obtain ⟨kind, hkind⟩ := hsteps x (List.mem_append_right _ List.mem_cons_self)
  rcases hx with rfl | ⟨y, rfl, hemit⟩
  · refine (step_problem_foreseen hr hkind).imp_left ?_
    rintro ⟨a, _, file, _, hdoc⟩
    exact PolicyFile.document_error hdoc
  · obtain ⟨a, ha, hmakes⟩ := makes_of_mem hr hkind
    obtain ⟨id, rfl⟩ := hmakes.emit_error ha (hset.run_ok hbefore) hemit
    exact Or.inl (.taken _ _)

/-- Nothing that a kind leaves behind, stopped or not, makes a later kind fail otherwise. -/
theorem outcomes_foreseen (hr : r.Sound) {set : TemplateSet} (hset : set.Covers r)
    {kinds : List EntityKind} (h : some e ∈ (of c r source).outcomes set kinds) :
    source.BuildProblem e ∨ c.Foreseen r e := by
  induction kinds generalizing set with
  | nil => cases h
  | cons kind kinds ih =>
    rcases List.mem_cons.mp h with hkind | h
    · exact run_problem_foreseen hr (fun x hx => ⟨kind, hx⟩) hset (Prod.ext rfl hkind.symm)
    · exact ih (hset.run _) h

end Steps

end BuildScope

namespace PolicySource

/-- The kinds of the problems that only building can find. -/
def buildKinds : List String :=
  ["PolicyFileRead", "PolicyFileRender", "PolicyFileJson", "DuplicateResource"]

/-- Where the source has no text for a path, it says that the file was not read. -/
def ReportsUnread (source : PolicySource) : Prop :=
  ∀ path e, source.read path = .error e → e.kind = "PolicyFileRead"

theorem BuildProblem.kind_mem {source : PolicySource} (hsource : source.ReportsUnread) {e : Problem}
    (h : source.BuildProblem e) : e.kind ∈ buildKinds := by
  cases h with
  | unread hread =>
    rw [hsource _ _ hread]
    decide
  | unrendered => simp [Problem.kind, buildKinds]
  | notJson => simp [Problem.kind, buildKinds]
  | taken => simp [Problem.kind, buildKinds]

theorem reportsUnread_ofTexts (texts : NameMap String) : (ofTexts texts).ReportsUnread := by
  intro path e h
  unfold ofTexts at h
  dsimp only at h
  split at h <;> cases h
  rfl

theorem reportsUnread_ofDirectory (files : FileSource) (root : FilePath) :
    (ofDirectory files root).ReportsUnread := by
  intro path e h
  unfold ofDirectory at h
  dsimp only at h
  cases hread : files.read (root.join path) with
  | error p =>
    rw [hread] at h
    cases h
    rfl
  | ok text =>
    rw [hread] at h
    cases h

end PolicySource

open PolicySource (buildKinds ofTexts ofDirectory)

/-- What stops the building of any kinds in any order, one after the other, is a problem that only
building can find or was foreseen by the check; so a configuration that the check accepts only
ever fails to compile for the former. A source that reports its files as unread, as texts at hand
and a directory do, leaves only problems of four kinds. -/
theorem building_problems_foreseen {c : Config} {r : Registry} (hr : c.registry = .ok r)
    (source : PolicySource) (version : String) :
    (∀ kinds e,
      some e ∈ (BuildScope.of c r source).outcomes (.ofRegistry r version) kinds →
        source.BuildProblem e ∨ c.Foreseen r e) ∧
    (c.validate r = .ok () →
      (∀ kinds e,
        some e ∈ (BuildScope.of c r source).outcomes (.ofRegistry r version) kinds →
          source.BuildProblem e) ∧
      ∀ failure, c.compile source version = .error failure →
        ∃ e, failure = .problem e ∧ source.BuildProblem e) ∧
    (source.ReportsUnread →
      (∀ kinds e,
        some e ∈ (BuildScope.of c r source).outcomes (.ofRegistry r version) kinds →
          e.kind ∈ buildKinds ∨ c.Foreseen r e) ∧
      (c.validate r = .ok () → ∀ failure, c.compile source version = .error failure →
        ∃ e, failure = .problem e ∧ e.kind ∈ buildKinds)) ∧
    (∀ texts, (ofTexts texts).ReportsUnread) ∧
    ∀ files root, (ofDirectory files root).ReportsUnread := by
  have hsound := Config.registry_sound hr
  have hcovers := TemplateSet.covers_ofRegistry hsound version
  have hbuild {kinds : List EntityKind} {e : Problem}
      (h : some e ∈ (BuildScope.of c r source).outcomes (.ofRegistry r version) kinds) :
      source.BuildProblem e ∨ c.Foreseen r e := BuildScope.outcomes_foreseen hsound hcovers h
  have hcompile (hv : c.validate r = .ok ()) {failure : CompileError}
      (h : c.compile source version = .error failure) :
      ∃ e, failure = .problem e ∧ source.BuildProblem e := by
    rw [Config.compile_of_validate hr hv] at h
    split at h
    · cases h
    · next e hrun =>
      cases h
      have hforeseen := BuildScope.run_problem_foreseen hsound
        (fun x hx => BuildScope.mem_allKinds.mp hx) hcovers hrun
      exact ⟨e, rfl, hforeseen.resolve_right (Config.not_foreseen_of_validate hv e)⟩
  refine ⟨fun _ _ => hbuild, fun hv => ⟨fun _ e h => ?_, fun _ => hcompile hv⟩,
    fun hsource => ⟨fun _ _ h => ?_, fun hv failure h => ?_⟩, PolicySource.reportsUnread_ofTexts,
    PolicySource.reportsUnread_ofDirectory⟩
  · exact (hbuild h).resolve_right (Config.not_foreseen_of_validate hv e)
  · exact (hbuild h).imp_left (PolicySource.BuildProblem.kind_mem hsource)
  · obtain ⟨e, rfl, he⟩ := hcompile hv h
    exact ⟨e, rfl, he.kind_mem hsource⟩

/-- A parent, a child, and a group of inline policies that refers to a policy that is not there. -/
def orgOfOps : Config where
  accounts := (NameMap.empty.insert "root" { id := "1", parent := true }).insert "dev" { id := "2" }
  groups := NameMap.empty.insert "ops"
    { inAccounts := some ["parent"], managedPolicies := ["missing"],
      inlinePolicies := some ["admin"] }

theorem undeclared_in_expanded_group_foreseen :
    ∃ r, orgOfOps.registry = .ok r ∧
      orgOfOps.Foreseen r (.undeclaredPolicy "missing" "2-admin") := by
  refine ⟨_, rfl, ?_⟩
  obtain ⟨_, _, hkinds, htexts, _⟩ :=
    building_problems_foreseen (c := orgOfOps) rfl (ofTexts .empty) "1"
  have h := (hkinds (htexts _)).1 [.group] (.undeclaredPolicy "missing" "2-admin")
    (List.mem_cons.mpr (Or.inl rfl))
  exact h.resolve_left (by decide)

/-- One account with a policy from a file. -/
def orgOfFile : Config where
  accounts := NameMap.empty.insert "root" { id := "1", parent := true }
  policies := NameMap.empty.insert "logs" { policyFile := some "logs.json" }

def lostSource : PolicySource := ⟨fun _ => .error (.io "connection lost")⟩

/-- The problem of such a source is passed on as it is. -/
theorem lost_source_unforeseen :
    ∃ r, orgOfFile.registry = .ok r ∧ orgOfFile.validate r = .ok () ∧
      orgOfFile.compile lostSource "1" = .error (.problem (.io "connection lost")) ∧
      (Problem.io "connection lost").kind ∉ buildKinds ∧
      ¬ orgOfFile.Foreseen r (.io "connection lost") := by
  have hvalid : ∃ r, orgOfFile.registry = .ok r ∧ orgOfFile.validate r = .ok () := ⟨_, rfl, rfl⟩
  obtain ⟨r, hr, hv⟩ := hvalid
  exact ⟨r, hr, hv, rfl, by decide, Config.not_foreseen_of_validate hv _⟩

end OrgStacks
