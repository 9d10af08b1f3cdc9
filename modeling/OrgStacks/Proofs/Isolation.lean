import OrgStacks.Proofs.Foresight
import OrgStacks.Proofs.Linkage

/-!
# What an account has no part in

A template depends on the entities that go into its account and on no others. Building looks further
in two places, for references to policies and for the bucket of a trail; what it finds there is in
the account, or the configuration would not have been accepted. So by `compile_isolates` an account
keeps its template when entities of other accounts come, go or change.
-/

namespace OrgStacks
set_option autoImplicit false

namespace Config

/-- Under every name both sections have the same entity, or none that goes into the account. -/
def SectionAgrees {α : Type} [Entity α] (r : Registry) (account : String) (m m' : NameMap α) :
    Prop :=
  ∀ name, m.get? name = m'.get? name ∨
    (∀ entity, m.get? name = some entity → r.places entity account = false) ∧
      ∀ entity, m'.get? name = some entity → r.places entity account = false

/-- Two configurations that differ only in entities that do not go into an account. -/
structure AgreesFor (c c' : Config) (r : Registry) (account : String) : Prop where
  accounts : c.accounts = c'.accounts
  global : c.global = c'.global
  policies : SectionAgrees r account c.policies c'.policies
  roles : SectionAgrees r account c.roles c'.roles
  groups : SectionAgrees r account c.groups c'.groups
  users : SectionAgrees r account c.users c'.users
  buckets : SectionAgrees r account c.buckets c'.buckets
  trails : SectionAgrees r account c.trails c'.trails

namespace SectionAgrees
variable {α : Type} [Entity α] {r : Registry} {account : String} {m m' : NameMap α}

theorem refl (r : Registry) (account : String) (m : NameMap α) : SectionAgrees r account m m :=
  fun _ => Or.inl rfl

theorem insert {name : String} {entity : α} (hplaced : r.places entity account = false)
    (hnew : m.get? name = none) : SectionAgrees r account m (m.insert name entity) := by
  intro other
  rw [NameMap.get?_insert]
  split
  · rename_i hname
    subst hname
    rw [hnew]
    refine Or.inr ⟨nofun, fun other h => ?_⟩
    cases h
    exact hplaced
  · exact Or.inl rfl

theorem symm (h : SectionAgrees r account m m') : SectionAgrees r account m' m :=
  fun name => (h name).imp Eq.symm And.symm

theorem get? (h : SectionAgrees r account m m') {name : String} {entity : α}
    (hget : m.get? name = some entity) (hplaced : r.places entity account = true) :
    m'.get? name = some entity := by
  rcases h name with heq | ⟨hnone, _⟩
  · exact heq ▸ hget
  · rw [hnone entity hget] at hplaced
    cases hplaced

theorem mem_placed (h : SectionAgrees r account m m') {e : String × α}
    (he : e ∈ placed r account m) : e ∈ placed r account m' := by
  obtain ⟨hget, hplaced⟩ := Config.mem_placed.mp he
  exact Config.mem_placed.mpr ⟨h.get? hget hplaced, hplaced⟩

theorem placed_eq (h : SectionAgrees r account m m') :
    placed r account m = placed r account m' := by
  have hordered (m : NameMap α) : Ordered (placed r account m) := m.ordered.filter _
  exact (hordered m).ext_mem (hordered m') fun _ _ => ⟨h.mem_placed, h.symm.mem_placed⟩

end SectionAgrees

theorem AgreesFor.symm {c c' : Config} {r : Registry} {account : String}
    (h : c.AgreesFor c' r account) : c'.AgreesFor c r account :=
  ⟨h.accounts.symm, h.global.symm, h.policies.symm, h.roles.symm, h.groups.symm, h.users.symm,
    h.buckets.symm, h.trails.symm⟩

end Config

/-- What a reference stands for when nothing is wrong with it. -/
def ManagedPolicy.ofText (reference : String) : ManagedPolicy :=
  if Text.startsWith "arn:aws" reference then .literal reference
  else match Text.stripPrefix? importLead reference with
    | some key => .imported key
    | none => .localRef reference

theorem Placements.resolve_eq_ofText {ps : Placements} {reference account entity : String}
    {m : ManagedPolicy} (h : ps.resolve reference account entity = .ok m) :
    m = .ofText reference := by
  unfold resolve at h
  unfold ManagedPolicy.ofText
  split at h
  · rename_i harn
    cases h
    rw [if_pos harn]
  · rename_i harn
    rw [if_neg harn]
    cases himport : Text.stripPrefix? importLead reference with
    | some key =>
      rw [himport] at h
      cases h
      rfl
    | none =>
      rw [himport] at h
      dsimp only at h ⊢
      split at h
      · cases h
      · cases h
      · split at h
        · cases h
        · split at h
          · cases h
            rfl
          · cases h

theorem Placements.resolveAll_congr {ps ps' : Placements} {references : List String}
    {account entity : String} {resolved resolved' : List ManagedPolicy}
    (h : ps.resolveAll references account entity = .ok resolved)
    (h' : ps'.resolveAll references account entity = .ok resolved') :
    ps.resolveAll references account entity = ps'.resolveAll references account entity := by
  apply mapM_congr
  intro reference hreference
  obtain ⟨m, _, hm⟩ := exists_of_mapM_eq_ok h hreference
  obtain ⟨m', _, hm'⟩ := exists_of_mapM_eq_ok h' hreference
  rw [hm, hm', resolve_eq_ofText hm, resolve_eq_ofText hm']

namespace BuildScope

section Steps
variable {s s' : BuildScope} {a : Account} {name : String}

theorem managedPolicies_congr {references : List String} {entity : String}
    (hok : ∀ e, s.managedPolicies references a entity ≠ .error e)
    (hok' : ∀ e, s'.managedPolicies references a entity ≠ .error e) :
    s.managedPolicies references a entity = s'.managedPolicies references a entity := by
  unfold managedPolicies at hok hok' ⊢
  cases h : s.placements.resolveAll references a.name entity with
  | error e => exact absurd (map_eq_error_iff.mpr h) (hok e)
  | ok resolved =>
    cases h' : s'.placements.resolveAll references a.name entity with
    | error e => exact absurd (map_eq_error_iff.mpr h') (hok' e)
    | ok resolved' => rw [← h, ← h', Placements.resolveAll_congr h h']

theorem policySteps_congr (hglobal : s.config.global = s'.config.global)
    (hregistry : s.registry = s'.registry) {p : PolicyConfig}
    (hdocument : ∀ file, p.body name = .ok (.file file) →
      s.document file a = s'.document file a) :
    s.policySteps a name p = s'.policySteps a name p := by
  have hresource : s.policyResource a name p = s'.policyResource a name p := by
    funext document
    simp only [policyResource, names, withOutput, hglobal]
  unfold policySteps
  cases hbody : p.body name with
  | error e => rfl
  | ok body =>
    cases body with
    | inline => rfl
    | file file =>
      simp only [given]
      rw [hdocument file hbody, hresource]
    | assume assume =>
      simp only [given, assumeDocument]
      rw [hregistry, hresource]

theorem roleSteps_congr (hglobal : s.config.global = s'.config.global)
    (hregistry : s.registry = s'.registry) {r : RoleConfig}
    (hok : ∀ e, .error e ∉ s.roleSteps a name r) (hok' : ∀ e, .error e ∉ s'.roleSteps a name r) :
    s.roleSteps a name r = s'.roleSteps a name r := by
  have hresource : s.roleResource a name r = s'.roleResource a name r := by
    funext trust policies
    simp only [roleResource, names, withOutput, hglobal]
  have hprofile : s.profileResource a name r = s'.profileResource a name r := by
    simp only [profileResource, names, withOutput, hglobal]
  simp only [error_mem_roleSteps, not_or, not_exists, not_and] at hok hok'
  unfold roleSteps
  rw [← hregistry]
  cases htrust : s.registry.trustDocument r.trusts with
  | error e => rfl
  | ok trust =>
    have hpolicies := managedPolicies_congr (fun e => (hok e).2 trust htrust)
      fun e => (hok' e).2 trust (hregistry ▸ htrust)
    simp only [given]
    rw [hpolicies, hresource, hprofile]

theorem groupSteps_congr (hglobal : s.config.global = s'.config.global)
    (hregistry : s.registry = s'.registry) {g : GroupConfig}
    (hok : ∀ e, .error e ∉ s.groupSteps a name g) (hok' : ∀ e, .error e ∉ s'.groupSteps a name g) :
    s.groupSteps a name g = s'.groupSteps a name g := by
  have hresource (n : String) : s.groupResource a n g = s'.groupResource a n g := by
    funext inline policies
    simp only [groupResource, names, withOutput, hglobal]
  simp only [error_mem_groupSteps, not_or, not_exists, not_and] at hok hok'
  unfold groupSteps groupStep
  rw [← hregistry]
  cases hinline : g.inlinePolicies with
  | none =>
    have hpolicies := managedPolicies_congr (fun e => (hok e).1 hinline)
      fun e => (hok' e).1 hinline
    dsimp only
    rw [hpolicies, hresource]
  | some roles =>
    dsimp only
    apply List.flatMap_congr
    intro child hchild
    apply List.map_congr_left
    intro role hrole
    have hpolicies := managedPolicies_congr
      (fun e => (hok e).2 roles hinline child hchild role hrole)
      fun e => (hok' e).2 roles hinline child (hregistry ▸ hchild) role hrole
    rw [hpolicies, hresource]

theorem userSteps_congr (hglobal : s.config.global = s'.config.global) {u : UserConfig}
    (hok : ∀ e, .error e ∉ s.userSteps a name u) (hok' : ∀ e, .error e ∉ s'.userSteps a name u) :
    s.userSteps a name u = s'.userSteps a name u := by
  have hresource : s.userResource a name u = s'.userResource a name u := by
    funext policies
    simp only [userResource, names, withOutput, hglobal]
  simp only [error_mem_userSteps] at hok hok'
  unfold userSteps
  rw [managedPolicies_congr hok hok', hresource]

theorem bucketSteps_congr (hglobal : s.config.global = s'.config.global) {b : BucketConfig}
    (hdocument : ∀ p, b.bucketPolicy = some p → s.document p.file a = s'.document p.file a) :
    s.bucketSteps a name b = s'.bucketSteps a name b := by
  have hresource : s.bucketResource a name b = s'.bucketResource a name b := by
    simp only [bucketResource, names, withOutput, hglobal]
  unfold bucketSteps
  rw [hresource]
  cases hpolicy : b.bucketPolicy with
  | none => rfl
  | some p =>
    dsimp only
    rw [hdocument p hpolicy]

theorem trailSteps_congr (hglobal : s.config.global = s'.config.global) {t : TrailConfig}
    (hbucket : ∀ bucket, t.bucket = some bucket →
      s.config.buckets.contains bucket = s'.config.buckets.contains bucket) :
    s.trailSteps a name t = s'.trailSteps a name t := by
  simp only [trailSteps, trailResource, names, withOutput, hglobal]
  cases hb : t.bucket with
  | none => rfl
  | some bucket =>
    simp only [Option.bind_eq_bind, Option.bind_some]
    rw [hbucket bucket hb]

end Steps

section Kinds
variable {s s' : BuildScope} {a : Account}

theorem resourcesFor_allSteps_congr {α : Type} [Entity α] (hr : s.registry.Sound)
    (hregistry : s.registry = s'.registry) (ha : a ∈ s.registry.toList)
    {steps steps' : Account → String → α → Steps} {m m' : NameMap α}
    (hlocal : Local steps) (hlocal' : Local steps')
    (hok : ∀ e, .error e ∉ s.allSteps steps m) (hok' : ∀ e, .error e ∉ s'.allSteps steps' m')
    (hagree : Config.SectionAgrees s.registry a.name m m')
    (hsteps : ∀ name entity, m.get? name = some entity → m'.get? name = some entity →
      s.registry.places entity a.name = true → (∀ e, .error e ∉ steps a name entity) →
      (∀ e, .error e ∉ steps' a name entity) → steps a name entity = steps' a name entity) :
    (s.allSteps steps m).resourcesFor a.name = (s'.allSteps steps' m').resourcesFor a.name := by
  have hr' : s'.registry.Sound := hregistry ▸ hr
  have ha' : a ∈ s'.registry.toList := hregistry ▸ ha
  rw [resourcesFor_allSteps hr hlocal hok ha, resourcesFor_allSteps hr' hlocal' hok' ha',
    ← hregistry, ← hagree.placed_eq]
  apply List.flatMap_congr
  rintro ⟨name, entity⟩ hentry
  obtain ⟨hget, hplaced⟩ := Config.mem_placed.mp hentry
  have hget' := hagree.get? hget hplaced
  congr 1
  apply hsteps name entity hget hget' hplaced
  · intro e he
    exact hok e ((mem_allSteps hr).mpr ⟨name, entity, hget, Or.inr ⟨a, ha, hplaced, he⟩⟩)
  · intro e he
    exact hok' e ((mem_allSteps hr').mpr
      ⟨name, entity, hget', Or.inr ⟨a, ha', hregistry ▸ hplaced, he⟩⟩)

theorem resourcesFor_allKinds_congr (hr : s.registry.Sound) (hregistry : s.registry = s'.registry)
    (ha : a ∈ s.registry.toList) (hagree : s.config.AgreesFor s'.config s.registry a.name)
    (hok : ∀ e, .error e ∉ s.allKinds) (hok' : ∀ e, .error e ∉ s'.allKinds)
    (hdocument : ∀ file, s.config.UsesFile s.registry a file →
      s.document file a = s'.document file a)
    (hbucket : ∀ name t bucket, s.config.trails.get? name = some t →
      s'.config.trails.get? name = some t → s.registry.places t a.name = true →
      t.bucket = some bucket →
      s.config.buckets.contains bucket = s'.config.buckets.contains bucket) :
    s.allKinds.resourcesFor a.name = s'.allKinds.resourcesFor a.name := by
  have hkind (kind : EntityKind) (e : Problem) : .error e ∉ s.steps kind :=
    fun he => hok e (mem_allKinds.mpr ⟨kind, he⟩)
  have hkind' (kind : EntityKind) (e : Problem) : .error e ∉ s'.steps kind :=
    fun he => hok' e (mem_allKinds.mpr ⟨kind, he⟩)
  unfold allKinds
  rw [Steps.resourcesFor_flatMap, Steps.resourcesFor_flatMap]
  apply List.flatMap_congr
  intro kind _
  cases kind with
  | policy =>
    refine resourcesFor_allSteps_congr hr hregistry ha local_policySteps local_policySteps
      (hkind .policy) (hkind' .policy) hagree.policies ?_
    intro name p hget _ hplaced _ _
    exact policySteps_congr hagree.global hregistry
      fun file hbody => hdocument file (.policy hget hplaced hbody)
  | role =>
    refine resourcesFor_allSteps_congr hr hregistry ha local_roleSteps local_roleSteps
      (hkind .role) (hkind' .role) hagree.roles ?_
    intro name r _ _ _ he he'
    exact roleSteps_congr hagree.global hregistry he he'
  | group =>
    refine resourcesFor_allSteps_congr hr hregistry ha local_groupSteps local_groupSteps
      (hkind .group) (hkind' .group) hagree.groups ?_
    intro name g _ _ _ he he'
    exact groupSteps_congr hagree.global hregistry he he'
  | user =>
    refine resourcesFor_allSteps_congr hr hregistry ha local_userSteps local_userSteps
      (hkind .user) (hkind' .user) hagree.users ?_
    intro name u _ _ _ he he'
    exact userSteps_congr hagree.global he he'
  | bucket =>
    refine resourcesFor_allSteps_congr hr hregistry ha local_bucketSteps local_bucketSteps
      (hkind .bucket) (hkind' .bucket) hagree.buckets ?_
    intro name b hget _ hplaced _ _
    exact bucketSteps_congr hagree.global
      fun p hp => hdocument p.file (.bucketPolicy hget hplaced hp)
  | trail =>
    refine resourcesFor_allSteps_congr hr hregistry ha local_trailSteps local_trailSteps
      (hkind .trail) (hkind' .trail) hagree.trails ?_
    intro name t hget hget' hplaced _ _
    exact trailSteps_congr hagree.global
      fun bucket hb => hbucket name t bucket hget hget' hplaced hb

end Kinds

end BuildScope

/-- A bucket that a trail of the account is on is configured on the other side too. -/
theorem Config.AgreesFor.contains_bucket {c c' : Config} {r : Registry} {account : String}
    (hagree : c.AgreesFor c' r account) (hv : c.validate r = .ok ()) {name bucket : String}
    {t : TrailConfig} (ht : c.trails.get? name = some t) (hplaced : r.places t account = true)
    (hbucket : t.bucket = some bucket) (hcontains : c.buckets.contains bucket = true) :
    c'.buckets.contains bucket = true := by
  obtain ⟨b, hb⟩ := NameMap.contains_iff.mp hcontains
  have hbplaced := bucket_placed_of_validate hv ht hplaced hbucket hb
  exact NameMap.contains_iff.mpr ⟨b, hagree.buckets.get? hb hbplaced⟩

/-- Two configurations with the same accounts and settings that differ only in entities of other
accounts, however many and of whatever kinds, give an account the same template, as long as the
policy files that are used in it have the same documents under both. -/
theorem compile_isolates {c c' : Config} {source : PolicySource} {version : String}
    {done done' : Compilation} (h : c.compile source version = .ok done)
    (h' : c'.compile source version = .ok done') {a : Account} (ha : a ∈ done.registry.toList)
    (hagree : c.AgreesFor c' done.registry a.name)
    (hfiles : ∀ file, c.UsesFile done.registry a file →
      file.document source c a done.registry.parent =
        file.document source c' a done.registry.parent) :
    ∃ t, done.templates.get? a.name = some t ∧ done'.templates.get? a.name = some t := by
  have hdone := Config.compiled_of_compile h
  have hdone' := Config.compiled_of_compile h'
  have hregistry : done'.registry = done.registry := by
    have heq : c.registry = c'.registry := by unfold Config.registry; rw [hagree.accounts]
    exact Except.ok.inj (hdone'.registry.symm.trans (heq.symm.trans hdone.registry))
  rw [hregistry] at hdone'
  have hresources : (BuildScope.of c done.registry source).allKinds.resourcesFor a.name =
      (BuildScope.of c' done.registry source).allKinds.resourcesFor a.name := by
    -- A trail looks at all buckets, but an accepted one is on a bucket of the account.
    refine @BuildScope.resourcesFor_allKinds_congr (.of c done.registry source)
      (.of c' done.registry source) a hdone.sound rfl ha hagree hdone.no_error hdone'.no_error
      hfiles ?_
    intro name t bucket ht ht' hplaced hbucket
    exact Bool.eq_iff_iff.mpr ⟨hagree.contains_bucket hdone.valid ht hplaced hbucket,
      hagree.symm.contains_bucket hdone'.valid ht' hplaced hbucket⟩
  refine ⟨_, hdone.get? ha, ?_⟩
  rw [hdone'.get? ha, hresources]

theorem orgOfLogs_document (c : Config) {r : Registry} {a : Account} {file : PolicyFile}
    (huse : orgOfLogs.UsesFile r a file) :
    file.document textOfLogs orgOfLogs a r.parent = file.document textOfLogs c a r.parent := by
  cases huse with
  | @policy name p _ hp _ hbody =>
    obtain ⟨_, rfl⟩ : name = "read-only" ∧ p = { assume := some ⟨["children"], ["admin"]⟩ } := by
      simpa [orgOfLogs, NameMap.get?_insert, eq_comm] using hp
    cases hbody
  | @bucketPolicy name b p hb _ hp =>
    obtain ⟨_, rfl⟩ : name = "logs" ∧ b =
        { inAccounts := some ["all"], bucketPolicy := some ⟨"logs.json", none⟩ } := by
      simpa [orgOfLogs, NameMap.get?_insert, eq_comm] using hb
    cases hp
    rfl

def amy : UserConfig := { inAccounts := some ["children"] }

def orgOfLogsAndAmy : Config := { orgOfLogs with users := NameMap.empty.insert "amy" amy }

theorem orgOfLogs_isolated :
    ∃ done done' t, orgOfLogs.compile textOfLogs "1" = .ok done ∧
      orgOfLogsAndAmy.compile textOfLogs "1" = .ok done' ∧
      done.templates.get? "root" = some t ∧ done'.templates.get? "root" = some t := by
  obtain ⟨done, done', hdone, hdone', hroot, hamy⟩ :
      ∃ done done', orgOfLogs.compile textOfLogs "1" = .ok done ∧
        orgOfLogsAndAmy.compile textOfLogs "1" = .ok done' ∧
        ⟨"root", "1", true, none⟩ ∈ done.registry.toList ∧
        done.registry.places amy "root" = false := ⟨_, _, rfl, rfl, by decide, rfl⟩
  have hagree : orgOfLogs.AgreesFor orgOfLogsAndAmy done.registry "root" := by
    constructor
    case users => exact .insert hamy rfl
    all_goals first | rfl | exact .refl _ _ _
  obtain ⟨t, ht, ht'⟩ := compile_isolates hdone hdone' hroot hagree
    fun file huse => orgOfLogs_document orgOfLogsAndAmy huse
  exact ⟨done, done', t, hdone, hdone', ht, ht'⟩

end OrgStacks
