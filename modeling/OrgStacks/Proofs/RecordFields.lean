import OrgStacks.Proofs.Replacement
import OrgStacks.Proofs.RoundTrip

/-!
# The fields of the records

A configuration is made up of twelve kinds of records. `RecordKind.fields` lists what may stand in
each of them and what the value of each field stands for. A mapping is read as a record exactly when
its keys keep to the list, `Strict`, and the value of every member can be read.
-/

namespace OrgStacks.Config
set_option autoImplicit false

inductive RecordKind where
  | document | global | names | account | policy | assume | role | group | user | bucket
  | bucketPolicy | trail

/-- What a value stands for: a record, records by name, variables of a policy file, or something
that no record is in. -/
inductive Shape where
  | plain
  | vars
  | record (k : RecordKind)
  | named (k : RecordKind)

structure Label where
  name : String
  aliases : List String := []
  required : Bool := false

structure Field extends Label where
  shape : Shape := .plain

namespace RecordKind

def fields : RecordKind → List Field
  | document => [
    { name := "global", shape := .record .global },
    { name := "accounts", required := true, shape := .named .account },
    { name := "policies", shape := .named .policy },
    { name := "roles", shape := .named .role },
    { name := "groups", shape := .named .group },
    { name := "users", shape := .named .user },
    { name := "buckets", shape := .named .bucket },
    { name := "trails", aliases := ["cloudtrail"], shape := .named .trail }]
  | global => [{ name := "names", shape := .record .names }, { name := "template_outputs" }]
  | names => [{ name := "policies" }, { name := "roles" }, { name := "users" },
    { name := "groups" }, { name := "buckets" }, { name := "trails", aliases := ["cloudtrail"] }]
  | account => [{ name := "id", required := true }, { name := "parent" },
    { name := "saml_provider", aliases := ["samlProvider"] }]
  | policy => [{ name := "in_accounts" }, { name := "description" }, { name := "inline" },
    { name := "policy_file" }, { name := "template_vars", shape := .vars },
    { name := "assume", shape := .record .assume }, { name := "groups" }, { name := "users" },
    { name := "roles" }, { name := "retain_on_delete" }]
  | assume => [{ name := "accounts", required := true }, { name := "roles", required := true }]
  | role => [{ name := "in_accounts" }, { name := "trusts", required := true },
    { name := "managed_policies" }, { name := "retain_on_delete" }]
  | group => [{ name := "in_accounts" }, { name := "managed_policies" },
    { name := "inline_policies" }, { name := "retain_on_delete" }]
  | user => [{ name := "in_accounts" }, { name := "groups" }, { name := "managed_policies" },
    { name := "password" }, { name := "retain_on_delete" }]
  | bucket => [{ name := "in_accounts" },
    { name := "bucket_policy", shape := .record .bucketPolicy }, { name := "retain_on_delete" }]
  | bucketPolicy => [{ name := "policy_file", required := true },
    { name := "template_vars", shape := .vars }]
  | trail => [{ name := "in_accounts" }, { name := "bucket" }, { name := "logging" },
    { name := "multiregion" }, { name := "global_events", aliases := ["GlobalEvents"] },
    { name := "retain_on_delete" }]

def labels (k : RecordKind) : List Label := k.fields.map (·.toLabel)

end RecordKind

def Label.Named (l : Label) (key : Yaml) : Prop :=
  ∃ name ∈ l.name :: l.aliases, untag key = .str name

/-- Every key is a name of a field, no field is given twice, and none that is required is
missing. -/
structure Strict (labels : List Label) (keys : List Yaml) : Prop where
  known : ∀ key ∈ keys, ∃ l ∈ labels, l.Named key
  once : keys.Pairwise fun key key' => ∀ l ∈ labels, ¬ (l.Named key ∧ l.Named key')
  required : ∀ l ∈ labels, l.required = true → ∃ key ∈ keys, l.Named key

theorem Strict.not_named {labels : List Label} {left right : List Yaml} {key key' : Yaml}
    {l : Label} (h : Strict labels (left ++ key :: right)) (hl : l ∈ labels) (hkey : l.Named key)
    (hkey' : key' ∈ left ++ right) : ¬ l.Named key' := by
  intro hnamed
  have honce := h.once
  rw [List.pairwise_append, List.pairwise_cons] at honce
  rcases List.mem_append.mp hkey' with hmem | hmem
  · exact honce.2.2 key' hmem key List.mem_cons_self l hl ⟨hnamed, hkey⟩
  · exact honce.2.1.1 key' hmem l hl ⟨hkey, hnamed⟩

theorem Strict.eq_of_named {labels : List Label} {pairs : List (Yaml × Yaml)}
    {pair pair' : Yaml × Yaml} {l : Label} (h : Strict labels (pairs.map (·.1))) (hl : l ∈ labels)
    (hpair : pair ∈ pairs) (hpair' : pair' ∈ pairs) (hkey : l.Named pair.1)
    (hkey' : l.Named pair'.1) : pair' = pair := by
  obtain ⟨left, right, rfl⟩ := List.append_of_mem hpair
  rw [List.map_append, List.map_cons] at h
  rw [List.mem_append, List.mem_cons, or_left_comm, ← List.mem_append] at hpair'
  refine hpair'.resolve_right fun hmem => h.not_named hl hkey ?_ hkey'
  rw [← List.map_append]
  exact List.mem_map_of_mem hmem

theorem readText_eq_ok_iff {v : Yaml} {s : String} : readText v = .ok s ↔ untag v = .str s := by
  unfold readText
  split
  · next heq => simp [heq]
  · next hne =>
    constructor
    · exact nofun
    · exact fun heq => absurd heq (hne s)

theorem exists_mapM_readEntry_iff {α : Type} {read : Reader α} {pairs : List (Yaml × Yaml)} :
    (∃ entries, pairs.mapM (readEntry read) = .ok entries) ↔
      ∀ pair ∈ pairs, ∃ name, untag pair.1 = .str name ∧ ∃ r, read pair.2 = .ok r := by
  rw [exists_mapM_eq_ok_iff]
  simp [readEntry, bind_eq_ok_iff, readText_eq_ok_iff, pure, Except.pure]

namespace Member

variable {α : Type} {p : Place} {members : List (Member α)} {m : Member α}

def label (m : Member α) : Label := ⟨m.name, m.aliases, m.required⟩

@[simp] theorem label_required : m.label.required = m.required := rfl

/-- The value can be read as the member, whatever was read before. -/
def Accepts (m : Member α) (y : Yaml) : Prop := ∀ a, ∃ b, m.read a y = .ok b

/-- Whether a value can be read does not depend on what was read before. -/
def Uniform (m : Member α) : Prop := ∀ {a b y}, m.read a y = .ok b → m.Accepts y

theorem label_named_iff {key : Yaml} :
    m.label.Named key ↔ ∃ name ∈ m.names, untag key = .str name := by
  simp only [Label.Named, label, mem_names]

theorem eq_of_named (h : Regular p members) {m' : Member α} (hm : m ∈ members)
    (hm' : m' ∈ members) {key : Yaml} (hkey : m.label.Named key) (hkey' : m'.label.Named key) :
    m = m' := by
  obtain ⟨name, hname, hstr⟩ := label_named_iff.mp hkey
  obtain ⟨name', hname', hstr'⟩ := label_named_iff.mp hkey'
  obtain rfl := Yaml.str.inj (hstr.symm.trans hstr')
  exact h.eq_of_mem_names hm hm' hname hname'

theorem step_eq_ok_iff (h : Regular p members) {a b : α} {seen seen' : List String}
    {pair : Yaml × Yaml} : step members (a, seen) pair = .ok (b, seen') ↔
      ∃ m ∈ members, m.label.Named pair.1 ∧ m.name ∉ seen ∧ m.read a pair.2 = .ok b ∧
        seen' = m.name :: seen := by
  simp only [step, bind_eq_ok_iff, readText_eq_ok_iff]
  constructor
  · rintro ⟨name, hname, hstep⟩
    split at hstep
    · cases hstep
    · next m hm =>
      have hnames : name ∈ m.names := by simpa using List.find?_some hm
      split at hstep
      · cases hstep
      · next hseen =>
        obtain ⟨b, hb, heq⟩ := bind_eq_ok_iff.mp hstep
        cases heq
        exact ⟨m, List.mem_of_find?_eq_some hm, label_named_iff.mpr ⟨name, hnames, hname⟩,
          by simpa using hseen, hb, rfl⟩
  · rintro ⟨m, hm, hnamed, hseen, hb, rfl⟩
    obtain ⟨name, hnames, hname⟩ := label_named_iff.mp hnamed
    refine ⟨name, hname, ?_⟩
    rw [h.find?_eq_some hm ((h.mem_names_iff hm).mp hnames)]
    simp [hseen, hb, ok_bind, pure, Except.pure]

theorem mem_seen_iff (h : Regular p members) {pairs : List (Yaml × Yaml)} {a b : α}
    {seen seen' : List String} (hsteps : pairs.foldlM (step members) (a, seen) = .ok (b, seen'))
    (hm : m ∈ members) : m.name ∈ seen' ↔ m.name ∈ seen ∨ ∃ pair ∈ pairs, m.label.Named pair.1 := by
  induction pairs generalizing a seen with
  | nil =>
    cases hsteps
    simp
  | cons pair pairs ih =>
    rw [List.foldlM_cons] at hsteps
    obtain ⟨⟨c, seen₁⟩, hstep, hsteps⟩ := bind_eq_ok_iff.mp hsteps
    obtain ⟨m', hm', hnamed, _, _, rfl⟩ := (step_eq_ok_iff h).mp hstep
    have hself : m.name = m'.name ↔ m.label.Named pair.1 := by
      constructor
      · intro hname
        rwa [List.inj_on_of_nodup_map h.names_nodup hm hm' hname]
      · intro hnamed'
        rw [eq_of_named h hm hm' hnamed' hnamed]
    rw [ih hsteps, List.mem_cons, List.exists_mem_cons_iff, hself, or_assoc, or_left_comm]

/-- Members are read one after the other exactly when each is known, can be read, and is given once
and not before. -/
theorem exists_foldlM_step_iff (h : Regular p members) (huniform : ∀ m ∈ members, m.Uniform)
    {pairs : List (Yaml × Yaml)} {a : α} {seen : List String} :
    (∃ state, pairs.foldlM (step members) (a, seen) = .ok state) ↔
      (∀ pair ∈ pairs, ∃ m ∈ members,
        m.label.Named pair.1 ∧ m.name ∉ seen ∧ m.Accepts pair.2) ∧
      pairs.Pairwise fun pair pair' =>
        ∀ m ∈ members, ¬ (m.label.Named pair.1 ∧ m.label.Named pair'.1) := by
  induction pairs generalizing a seen with
  | nil => simp [pure, Except.pure]
  | cons pair pairs ih =>
    rw [List.foldlM_cons, List.forall_mem_cons, List.pairwise_cons]
    constructor
    · rintro ⟨state, hsteps⟩
      obtain ⟨⟨c, seen₁⟩, hstep, hsteps⟩ := bind_eq_ok_iff.mp hsteps
      obtain ⟨m, hm, hnamed, hseen, hread, rfl⟩ := (step_eq_ok_iff h).mp hstep
      obtain ⟨hrest, honce⟩ := ih.mp ⟨state, hsteps⟩
      -- The member was given by now, so what comes after it is another one.
      refine ⟨⟨⟨m, hm, hnamed, hseen, huniform m hm hread⟩, fun pair' hpair' => ?_⟩, ?_, honce⟩
      · obtain ⟨m', hm', hnamed', hseen', haccepts⟩ := hrest pair' hpair'
        exact ⟨m', hm', hnamed', fun hmem => hseen' (List.mem_cons_of_mem _ hmem), haccepts⟩
      · rintro pair' hpair' m' hm' ⟨hboth, hnamed'⟩
        obtain rfl := eq_of_named h hm' hm hboth hnamed
        obtain ⟨m₂, hm₂, hnamed₂, hseen₂, _⟩ := hrest pair' hpair'
        obtain rfl := eq_of_named h hm₂ hm hnamed₂ hnamed'
        exact hseen₂ List.mem_cons_self
    · rintro ⟨⟨⟨m, hm, hnamed, hseen, haccepts⟩, hrest⟩, hfirst, honce⟩
      obtain ⟨b, hb⟩ := haccepts a
      have hstep : step members (a, seen) pair = .ok (b, m.name :: seen) :=
        (step_eq_ok_iff h).mpr ⟨m, hm, hnamed, hseen, hb, rfl⟩
      rw [hstep, ok_bind]
      refine ih.mpr ⟨fun pair' hpair' => ?_, honce⟩
      obtain ⟨m', hm', hnamed', hseen', haccepts'⟩ := hrest pair' hpair'
      refine ⟨m', hm', hnamed', fun hmem => ?_, haccepts'⟩
      rcases List.mem_cons.mp hmem with hname | hmem
      · obtain rfl := List.inj_on_of_nodup_map h.names_nodup hm' hm hname
        exact hfirst pair' hpair' m' hm ⟨hnamed, hnamed'⟩
      · exact hseen' hmem

theorem readRecord_eq_ok_iff {start r : α} {y : Yaml} : readRecord members start y = .ok r ↔
    ∃ pairs, readPairs y = .ok pairs ∧ ∃ seen,
      pairs.foldlM (step members) (start, []) = .ok (r, seen) ∧
      ∀ m ∈ members, m.required = true → m.name ∈ seen := by
  have hmissing : ∀ seen : List String,
      (members.find? fun m => m.required && !seen.contains m.name) = none ↔
        ∀ m ∈ members, m.required = true → m.name ∈ seen := by
    intro seen
    simp [List.find?_eq_none]
  simp only [readRecord, bind_eq_ok_iff, Prod.exists, ← hmissing]
  refine exists_congr fun pairs => and_congr_right fun _ => ?_
  constructor
  · rintro ⟨a, seen, hsteps, hend⟩
    split at hend
    · cases hend
    · next hnone =>
      cases hend
      exact ⟨seen, hsteps, hnone⟩
  · rintro ⟨seen, hsteps, hnone⟩
    exact ⟨r, seen, hsteps, by rw [hnone]; rfl⟩

theorem strict_labels_iff {pairs : List (Yaml × Yaml)} :
    Strict (members.map label) (pairs.map (·.1)) ↔
      (∀ pair ∈ pairs, ∃ m ∈ members, m.label.Named pair.1) ∧
      (pairs.Pairwise fun pair pair' =>
        ∀ m ∈ members, ¬ (m.label.Named pair.1 ∧ m.label.Named pair'.1)) ∧
      ∀ m ∈ members, m.required = true → ∃ pair ∈ pairs, m.label.Named pair.1 := by
  constructor
  · intro h
    refine ⟨by simpa using h.known, ?_, by simpa using h.required⟩
    exact (List.pairwise_map.mp h.once).imp fun hboth => by simpa using hboth
  · rintro ⟨hknown, honce, hrequired⟩
    refine ⟨by simpa using hknown, ?_, by simpa using hrequired⟩
    exact List.pairwise_map.mpr (honce.imp fun hboth => by simpa using hboth)

/-- A value is read as a record exactly when it is a mapping whose keys keep to the members and
whose values can be read. -/
theorem exists_readRecord_iff (h : Regular p members) (huniform : ∀ m ∈ members, m.Uniform)
    {start : α} {y : Yaml} : (∃ r, readRecord members start y = .ok r) ↔
      ∃ pairs, readPairs y = .ok pairs ∧ Strict (members.map label) (pairs.map (·.1)) ∧
        ∀ pair ∈ pairs, ∀ m ∈ members, m.label.Named pair.1 → m.Accepts pair.2 := by
  simp only [readRecord_eq_ok_iff, strict_labels_iff]
  rw [exists_comm]
  refine exists_congr fun pairs => ?_
  rw [exists_and_left]
  refine and_congr_right fun _ => ?_
  constructor
  · rintro ⟨r, seen, hsteps, hrequired⟩
    obtain ⟨hknown, honce⟩ := (exists_foldlM_step_iff h huniform).mp ⟨_, hsteps⟩
    refine ⟨⟨fun pair hpair => ?_, honce, fun m hm hreq => ?_⟩, fun pair hpair m hm hnamed => ?_⟩
    · obtain ⟨m, hm, hnamed, _⟩ := hknown pair hpair
      exact ⟨m, hm, hnamed⟩
    · have hseen := (mem_seen_iff h hsteps hm).mp (hrequired m hm hreq)
      exact hseen.resolve_left List.not_mem_nil
    · obtain ⟨m', hm', hnamed', _, haccepts⟩ := hknown pair hpair
      rwa [eq_of_named h hm hm' hnamed hnamed']
  · rintro ⟨⟨hknown, honce, hrequired⟩, haccepts⟩
    have hgiven : ∃ state, pairs.foldlM (step members) (start, []) = .ok state := by
      refine (exists_foldlM_step_iff h huniform).mpr ⟨fun pair hpair => ?_, honce⟩
      obtain ⟨m, hm, hnamed⟩ := hknown pair hpair
      exact ⟨m, hm, hnamed, List.not_mem_nil, haccepts pair hpair m hm hnamed⟩
    obtain ⟨⟨r, seen⟩, hsteps⟩ := hgiven
    exact ⟨r, seen, hsteps, fun m hm hreq =>
      (mem_seen_iff h hsteps hm).mpr (.inr (hrequired m hm hreq))⟩

end Member

namespace RecordKind

def Record : RecordKind → Type
  | document => Config
  | global => GlobalConfig
  | names => NameSettings
  | account => AccountConfig
  | policy => PolicyConfig
  | assume => AssumeConfig
  | role => RoleConfig
  | group => GroupConfig
  | user => UserConfig
  | bucket => BucketConfig
  | bucketPolicy => BucketPolicyConfig
  | trail => TrailConfig

def members : (k : RecordKind) → List (Member k.Record)
  | document => Config.members
  | global => GlobalConfig.members
  | names => NameSettings.members
  | account => AccountConfig.members
  | policy => PolicyConfig.members
  | assume => AssumeConfig.members
  | role => RoleConfig.members
  | group => GroupConfig.members
  | user => UserConfig.members
  | bucket => BucketConfig.members
  | bucketPolicy => BucketPolicyConfig.members
  | trail => TrailConfig.members

def read : (k : RecordKind) → Reader k.Record
  | document => Config.read
  | global => GlobalConfig.read
  | names => NameSettings.read
  | account => AccountConfig.read
  | policy => PolicyConfig.read
  | assume => AssumeConfig.read
  | role => RoleConfig.read
  | group => GroupConfig.read
  | user => UserConfig.read
  | bucket => BucketConfig.read
  | bucketPolicy => BucketPolicyConfig.read
  | trail => TrailConfig.read

end RecordKind

def Shape.Reads : Shape → Yaml → Prop
  | plain, _ => True
  | vars, y => ∃ r, readOptional readJson y = .ok r
  | record k, y => ∃ r, readOptional k.read y = .ok r
  | named k, y => ∃ r, readNames k.read y = .ok r

/-- The field is the member, and its value can be read when it can as what it stands for. -/
structure Field.Describes {α : Type} (f : Field) (m : Member α) : Prop where
  label : m.label = f.toLabel
  uniform : m.Uniform
  reads : ∀ {a b y}, m.read a y = .ok b → f.shape.Reads y
  accepts : f.shape ≠ .plain → ∀ y, f.shape.Reads y → m.Accepts y

namespace Field.Describes

variable {α β : Type} {name : String} {read : Reader β} {set : α → β → α} {required : Bool}
  {aliases : List String} {shape : Shape}

theorem of (hreads : ∀ y x, read y = .ok x → shape.Reads y)
    (haccepts : shape ≠ .plain → ∀ y, shape.Reads y → ∃ x, read y = .ok x) :
    Describes ⟨⟨name, aliases, required⟩, shape⟩ (.of name read set required aliases) where
  label := rfl
  uniform := by
    intro a b y hy a'
    obtain ⟨x, hx, _⟩ := map_eq_ok_iff.mp hy
    exact ⟨set a' x, map_eq_ok_iff.mpr ⟨x, hx, rfl⟩⟩
  reads := by
    intro a b y hy
    obtain ⟨x, hx, _⟩ := map_eq_ok_iff.mp hy
    exact hreads y x hx
  accepts := by
    intro hshape y hy a
    obtain ⟨x, hx⟩ := haccepts hshape y hy
    exact ⟨set a x, map_eq_ok_iff.mpr ⟨x, hx, rfl⟩⟩

theorem plain :
    Describes ⟨⟨name, aliases, required⟩, .plain⟩ (.of name read set required aliases) :=
  of (fun _ _ _ => trivial) fun h => absurd rfl h

theorem optionalRecord {k : RecordKind} {set : α → Option k.Record → α} :
    Describes ⟨⟨name, aliases, required⟩, .record k⟩
      (.of name (readOptional k.read) set required aliases) :=
  of (fun _ x hx => ⟨x, hx⟩) fun _ _ hy => hy

theorem record {k : RecordKind} {set : α → k.Record → α} (hnull : ∃ x, k.read .null = .ok x) :
    Describes ⟨⟨name, aliases, required⟩, .record k⟩ (.of name k.read set required aliases) := by
  have hsame : ∀ y, (∃ x, readOptional k.read y = .ok x) ↔ ∃ x, k.read y = .ok x := by
    intro y
    cases y with
    | null => exact iff_of_true ⟨none, rfl⟩ hnull
    | _ => simp [readOptional, map_eq_ok_iff]
  exact of (fun y x hx => (hsame y).mpr ⟨x, hx⟩) fun _ y hy => (hsame y).mp hy

theorem named {k : RecordKind} {set : α → NameMap k.Record → α} :
    Describes ⟨⟨name, aliases, required⟩, .named k⟩
      (.of name (readNames k.read) set required aliases) :=
  of (fun _ x hx => ⟨x, hx⟩) fun _ _ hy => hy

theorem vars {set : α → Option Json → α} :
    Describes ⟨⟨name, aliases, required⟩, .vars⟩
      (.of name (readOptional readJson) set required aliases) :=
  of (fun _ x hx => ⟨x, hx⟩) fun _ _ hy => hy

end Field.Describes

namespace RecordKind

theorem describes (k : RecordKind) : List.Forall₂ Field.Describes k.fields k.members := by
  cases k with
  | document =>
    exact .cons (.record (k := .global) ⟨_, rfl⟩) <| .cons (.named (k := .account)) <|
      .cons (.named (k := .policy)) <| .cons (.named (k := .role)) <|
      .cons (.named (k := .group)) <| .cons (.named (k := .user)) <|
      .cons (.named (k := .bucket)) <| .cons (.named (k := .trail)) .nil
  | global => exact .cons (.record (k := .names) ⟨_, rfl⟩) <| .cons .plain .nil
  | policy =>
    exact .cons .plain <| .cons .plain <| .cons .plain <| .cons .plain <| .cons .vars <|
      .cons (.optionalRecord (k := .assume)) <| .cons .plain <| .cons .plain <| .cons .plain <|
      .cons .plain .nil
  | bucket =>
    exact .cons .plain <| .cons (.optionalRecord (k := .bucketPolicy)) <| .cons .plain .nil
  | bucketPolicy => exact .cons .plain <| .cons .vars .nil
  | _ => repeat' first | exact .nil | refine .cons .plain ?_

def place : RecordKind → Place
  | document => .config
  | global => .global
  | names => .names
  | account => .account
  | trail => .trail
  | _ => .other

theorem regular (k : RecordKind) : Member.Regular k.place k.members := by
  cases k with
  | document => exact Config.regular
  | global => exact GlobalConfig.regular
  | names => exact NameSettings.regular
  | account => exact AccountConfig.regular
  | policy => exact PolicyConfig.regular
  | assume => exact AssumeConfig.regular
  | role => exact RoleConfig.regular
  | group => exact GroupConfig.regular
  | user => exact UserConfig.regular
  | bucket => exact BucketConfig.regular
  | bucketPolicy => exact BucketPolicyConfig.regular
  | trail => exact TrailConfig.regular

theorem exists_member {k : RecordKind} {f : Field} (hf : f ∈ k.fields) :
    ∃ m ∈ k.members, f.Describes m :=
  exists_right_of_forall₂ k.describes hf

theorem uniform {k : RecordKind} : ∀ m ∈ k.members, m.Uniform := by
  intro m hm
  obtain ⟨f, _, hdescribes⟩ := exists_left_of_forall₂ k.describes hm
  exact hdescribes.uniform

/-- A value is read as a record of the kind exactly when it is a mapping that keeps to the fields
and whose values can be read. -/
theorem exists_read_iff {k : RecordKind} {y : Yaml} : (∃ r, k.read y = .ok r) ↔
    ∃ pairs, readPairs y = .ok pairs ∧ Strict k.labels (pairs.map (·.1)) ∧
      ∀ pair ∈ pairs, ∀ m ∈ k.members, m.label.Named pair.1 → m.Accepts pair.2 := by
  have hread : ∃ start, k.read = Member.readRecord k.members start := by
    cases k <;> exact ⟨_, rfl⟩
  have hlabels : k.members.map Member.label = k.labels := by
    cases k <;> rfl
  obtain ⟨start, hread⟩ := hread
  rw [hread, ← hlabels]
  exact Member.exists_readRecord_iff k.regular uniform

theorem eq_of_named {k : RecordKind} {f f' : Field} (hf : f ∈ k.fields) (hf' : f' ∈ k.fields)
    {key : Yaml} (hkey : f.Named key) (hkey' : f'.Named key) : f = f' := by
  have hdistinct : (k.fields.flatMap fun f => f.name :: f.aliases).Nodup := by
    cases k <;> decide
  obtain ⟨name, hname, hstr⟩ := hkey
  obtain ⟨name', hname', hstr'⟩ := hkey'
  obtain rfl := Yaml.str.inj (hstr.symm.trans hstr')
  exact Member.eq_of_mem_flatMap hdistinct hf hf' hname hname'

end RecordKind

namespace Shape

variable {k : RecordKind} {pairs : List (Yaml × Yaml)} {f : Field} {key x : Yaml}

theorem reads_map_iff : (record k).Reads (.map pairs) ↔ ∃ r, k.read (.map pairs) = .ok r := by
  simp [Reads, readOptional, map_eq_ok_iff]

theorem reads_record_iff : (record k).Reads (.map pairs) ↔ Strict k.labels (pairs.map (·.1)) ∧
    ∀ pair ∈ pairs, ∀ m ∈ k.members, m.label.Named pair.1 → m.Accepts pair.2 := by
  rw [reads_map_iff, RecordKind.exists_read_iff]
  simp [readPairs, untag]

theorem reads_named_iff : (named k).Reads (.map pairs) ↔
    ∀ pair ∈ pairs, ∃ name, untag pair.1 = .str name ∧ ∃ r, k.read pair.2 = .ok r := by
  rw [← exists_mapM_readEntry_iff]
  simp [Reads, readNames_map, map_eq_ok_iff]

theorem reads_vars_iff {y : Yaml} : vars.Reads y ↔ ∃ j, readJson y = .ok j := by
  cases y with
  | null => exact iff_of_true ⟨none, rfl⟩ ⟨.null, rfl⟩
  | _ => simp [Reads, readOptional, map_eq_ok_iff]

theorem reads_vars_seq_iff {items : List Yaml} :
    vars.Reads (.seq items) ↔ ∀ item ∈ items, vars.Reads item := by
  simp only [reads_vars_iff, readJson, map_eq_ok_iff, readJsonItems_eq_mapM,
    ← exists_mapM_eq_ok_iff]
  simp

theorem reads_vars_map_iff : vars.Reads (.map pairs) ↔
    ∀ pair ∈ pairs, ∃ name, untag pair.1 = .str name ∧ vars.Reads pair.2 := by
  simp only [reads_vars_iff, readJson, map_eq_ok_iff, readJsonMembers_eq_mapM,
    ← exists_mapM_readEntry_iff]
  simp

theorem reads_vars_child {y : Yaml} (h : vars.Reads y) (hx : x ∈ y.children) : vars.Reads x := by
  cases y with
  | seq items => exact reads_vars_seq_iff.mp h x hx
  | map pairs =>
    obtain ⟨pair, hpair, rfl⟩ := List.mem_map.mp hx
    obtain ⟨_, _, hreads⟩ := reads_vars_map_iff.mp h pair hpair
    exact hreads
  | _ => cases hx

theorem reads_member (h : (record k).Reads (.map pairs)) (hx : (key, x) ∈ pairs)
    (hf : f ∈ k.fields) (hkey : f.Named key) : f.shape.Reads x := by
  obtain ⟨m, hm, hdescribes⟩ := RecordKind.exists_member hf
  obtain ⟨r, _⟩ := reads_map_iff.mp h
  obtain ⟨_, haccepts⟩ := reads_record_iff.mp h
  obtain ⟨b, hb⟩ := haccepts _ hx m hm (hdescribes.label ▸ hkey) r
  exact hdescribes.reads hb

theorem reads_of_read {y : Yaml} {r : k.Record} (h : k.read y = .ok r) : (record k).Reads y := by
  cases y with
  | null => exact ⟨none, rfl⟩
  | _ => exact ⟨some r, map_eq_ok_iff.mpr ⟨r, h, rfl⟩⟩

theorem exists_read_of_reads {y : Yaml} (h : (record k).Reads y) (hy : y ≠ .null) :
    ∃ r, k.read y = .ok r := by
  obtain ⟨r, hr⟩ := h
  unfold readOptional at hr
  split at hr
  · contradiction
  · obtain ⟨x, hx, _⟩ := map_eq_ok_iff.mp hr
    exact ⟨x, hx⟩

theorem reads_entry (h : (named k).Reads (.map pairs)) (hx : (key, x) ∈ pairs) :
    (record k).Reads x := by
  obtain ⟨_, _, r, hr⟩ := reads_named_iff.mp h _ hx
  exact reads_of_read hr

end Shape

end OrgStacks.Config
