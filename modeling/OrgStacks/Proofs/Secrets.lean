import OrgStacks.Proofs.Inclusion

/-!
# The nearest secrets win

Each directory around a document may have a file of secrets. A key is looked up in the nearest file
that defines it, whatever the other files define, and in every file that is included on the way as
in the document. A file that cannot be used makes the whole fail, the nearest one first, even when
nothing is asked of it.
-/

namespace OrgStacks
set_option autoImplicit false

namespace Yaml

theorem same_str_iff {key : String} {x : Yaml} : same (.str key) x = true ↔ x = .str key := by
  cases x with
  | str s =>
    simp only [same, beq_iff_eq, str.injEq]
    exact eq_comm
  | _ => simp [same]

theorem valueAt?_nil (key : Yaml) : valueAt? key [] = none := rfl

theorem valueAt?_cons (key : Yaml) (p : Yaml × Yaml) (pairs : List (Yaml × Yaml)) :
    valueAt? key (p :: pairs) = if same key p.1 then some p.2 else valueAt? key pairs := by
  rw [valueAt?, List.find?_cons]
  cases same key p.1 <;> rfl

theorem valueAt?_append (key : Yaml) (pairs more : List (Yaml × Yaml)) :
    valueAt? key (pairs ++ more) = (valueAt? key pairs).or (valueAt? key more) := by
  induction pairs with
  | nil => rfl
  | cons p pairs ih =>
    rw [List.cons_append, valueAt?_cons, valueAt?_cons, ih]
    split <;> rfl

theorem valueAt?_isSome (key : Yaml) (pairs : List (Yaml × Yaml)) :
    (valueAt? key pairs).isSome = pairs.any fun p => same key p.1 := by
  rw [valueAt?, Option.isSome_map, List.isSome_find?]

end Yaml

namespace Substitution

variable {files : FileSource} {dir : FilePath} {key : String}

/-- A text is looked up in what was known before, and then in what is added. -/
theorem valueAt?_addSecrets (key : String) (secrets more : List (Yaml × Yaml)) :
    Yaml.valueAt? (.str key) (addSecrets secrets more) =
      (Yaml.valueAt? (.str key) secrets).or (Yaml.valueAt? (.str key) more) := by
  unfold addSecrets
  induction more generalizing secrets with
  | nil => simp [Yaml.valueAt?_nil]
  | cons e more ih =>
    rw [List.foldl_cons, ih, Yaml.valueAt?_cons]
    split
    · next hknown =>
      -- An entry that is not added was known, so it is found before.
      split
      · next hkey =>
        rw [Yaml.same_str_iff.mp hkey, ← Yaml.valueAt?_isSome] at hknown
        obtain ⟨value, hvalue⟩ := Option.isSome_iff_exists.mp hknown
        simp [hvalue]
      · rfl
    · rw [Yaml.valueAt?_append, Yaml.valueAt?_cons, Yaml.valueAt?_nil, Option.or_assoc]
      split <;> simp

theorem secretsOf_eq (files : FileSource) (dirs : List FilePath) :
    secretsOf files dirs =
      (dirs.mapM (secretsIn files)).map fun secrets => secrets.foldr addSecrets [] := by
  induction dirs with
  | nil => rfl
  | cons dir dirs ih =>
    rw [secretsOf, ih, List.mapM_cons]
    cases secretsIn files dir with
    | error e => rfl
    | ok near => cases dirs.mapM (secretsIn files) <;> rfl

structure Defines (files : FileSource) (dir : FilePath) (key : String) (value : Yaml) : Prop where
  isFile : files.isFile (dir.join secretsFile) = true
  entry : ∃ entries, readYaml files (dir.join secretsFile) = .ok (.map entries) ∧
    Yaml.valueAt? (.str key) entries = some value

structure Unusable (files : FileSource) (dir : FilePath) (e : Problem) : Prop where
  isFile : files.isFile (dir.join secretsFile) = true
  reason : readYaml files (dir.join secretsFile) = .error e ∨
    ∃ content, readYaml files (dir.join secretsFile) = .ok content ∧
      (∀ entries, content ≠ .map entries) ∧
      e = .parse ((dir.join secretsFile).text ++ " must be a mapping of secret names to values")

theorem secretsIn_eq (files : FileSource) (dir : FilePath) : secretsIn files dir =
    if files.isFile (dir.join secretsFile) then
      match readYaml files (dir.join secretsFile) with
      | .error e => .error e
      | .ok (.map entries) => .ok entries
      | .ok _ => .error (.parse
        ((dir.join secretsFile).text ++ " must be a mapping of secret names to values"))
    else .ok [] :=
  rfl

theorem secretsIn_eq_error_iff {e : Problem} :
    secretsIn files dir = .error e ↔ Unusable files dir e := by
  rw [secretsIn_eq]
  constructor
  · intro h
    split at h
    · next hfile =>
      refine ⟨hfile, ?_⟩
      split at h
      · next e' he =>
        cases h
        exact .inl he
      · cases h
      · next content hmap hcontent =>
        cases h
        exact .inr ⟨content, hcontent, hmap, rfl⟩
    · cases h
  · rintro ⟨hfile, hread | ⟨content, hread, hmap, rfl⟩⟩
    · simp [hfile, hread]
    · simp only [hfile, if_true, hread]

theorem defines_iff {entries : List (Yaml × Yaml)} (h : secretsIn files dir = .ok entries)
    {value : Yaml} :
    Defines files dir key value ↔ Yaml.valueAt? (.str key) entries = some value := by
  rw [secretsIn_eq] at h
  split at h
  · next hfile =>
    split at h
    · cases h
    · next entries' hread =>
      cases h
      constructor
      · rintro ⟨_, entries', hread', hvalue⟩
        rw [hread] at hread'
        cases hread'
        exact hvalue
      · exact fun hvalue => ⟨hfile, entries, hread, hvalue⟩
    · cases h
  · next hfile =>
    cases h
    simp only [Yaml.valueAt?_nil, reduceCtorEq, iff_false]
    exact fun hdefines => hfile hdefines.isFile

/-- The first of the directories that defines the key gives it the value. -/
def NearestDefines (files : FileSource) (dirs : List FilePath) (key : String) (value : Yaml) :
    Prop :=
  ∃ near dir far, dirs = near ++ dir :: far ∧ (∀ d ∈ near, ∀ y, ¬ Defines files d key y) ∧
    Defines files dir key value

theorem nearestDefines_cons {dirs : List FilePath} {value : Yaml} :
    NearestDefines files (dir :: dirs) key value ↔
      Defines files dir key value ∨
        (∀ y, ¬ Defines files dir key y) ∧ NearestDefines files dirs key value := by
  constructor
  · rintro ⟨near, d, far, hdirs, hnear, hdefines⟩
    cases near with
    | nil =>
      cases hdirs
      exact .inl hdefines
    | cons n near =>
      cases hdirs
      rw [List.forall_mem_cons] at hnear
      exact .inr ⟨hnear.1, near, d, far, rfl, hnear.2, hdefines⟩
  · rintro (hdefines | ⟨hnone, near, d, far, rfl, hnear, hdefines⟩)
    · exact ⟨[], dir, dirs, rfl, fun _ => nofun, hdefines⟩
    · exact ⟨dir :: near, d, far, rfl, List.forall_mem_cons.mpr ⟨hnone, hnear⟩, hdefines⟩

theorem not_nearestDefines_iff {dirs : List FilePath} :
    (∀ value, ¬ NearestDefines files dirs key value) ↔
      ∀ d ∈ dirs, ∀ y, ¬ Defines files d key y := by
  induction dirs with
  | nil => simp [NearestDefines]
  | cons dir dirs ih =>
    rw [List.forall_mem_cons, ← ih]
    simp only [nearestDefines_cons, not_or, not_and, forall_and]
    exact and_congr_right fun hnone => ⟨fun h y => h y hnone, fun h y _ => h y⟩

theorem valueAt?_secretsOf {dirs : List FilePath} {secrets : List (Yaml × Yaml)}
    (h : secretsOf files dirs = .ok secrets) {value : Yaml} :
    Yaml.valueAt? (.str key) secrets = some value ↔ NearestDefines files dirs key value := by
  induction dirs generalizing secrets with
  | nil =>
    cases h
    simp [Yaml.valueAt?_nil, NearestDefines]
  | cons dir dirs ih =>
    obtain ⟨near, hnear, h⟩ := bind_eq_ok_iff.mp h
    obtain ⟨distant, hdistant, h⟩ := bind_eq_ok_iff.mp h
    cases h
    have hnone : (∀ y, ¬ Defines files dir key y) ↔ Yaml.valueAt? (.str key) near = none := by
      simp only [defines_iff hnear, Option.eq_none_iff_forall_ne_some]
    rw [nearestDefines_cons, defines_iff hnear, hnone, ← ih hdistant, valueAt?_addSecrets,
      Option.or_eq_some_iff]

theorem ofDirectory_eq_ok {environment : NameMap String} {s : Substitution}
    (h : ofDirectory files dir environment = .ok s) :
    secretsOf files dir.ancestors = .ok s.secrets := by
  obtain ⟨secrets, hsecrets, h⟩ := bind_eq_ok_iff.mp h
  cases h
  exact hsecrets

theorem ofDirectory_eq_error_iff {environment : NameMap String} {e : Problem} :
    ofDirectory files dir environment = .error e ↔
      ∃ near d far, dir.ancestors = near ++ d :: far ∧
        (∀ n ∈ near, ∀ e', ¬ Unusable files n e') ∧ Unusable files d e := by
  have hsecrets : ofDirectory files dir environment = .error e ↔
      secretsOf files dir.ancestors = .error e := by
    rw [ofDirectory, bind_eq_error_iff]
    exact or_iff_left fun ⟨_, _, h⟩ => nomatch h
  rw [hsecrets, secretsOf_eq, map_eq_error_iff, mapM_eq_error_iff]
  simp only [secretsIn_eq_error_iff, ← failure?_eq_none_iff, Option.eq_none_iff_forall_ne_some,
    ne_eq, failure?_eq_some_iff]

theorem apply_secret (s : Substitution) (key : String) :
    s.apply (.tagged "secret" (.str key)) = s.secretValue key := by
  rw [apply_eq, replaceTagged, replacement_eq]
  rfl

theorem secretValue_eq_ok_iff {s : Substitution} {value : Yaml} :
    s.secretValue key = .ok value ↔ Yaml.valueAt? (.str key) s.secrets = some value := by
  unfold secretValue
  split <;> simp_all

theorem secretValue_eq_error_iff {s : Substitution} :
    s.secretValue key = .error (.undefinedSecret key) ↔
      Yaml.valueAt? (.str key) s.secrets = none := by
  unfold secretValue
  split <;> simp_all

/-- A directory that does not define the key answers as the one around it. -/
theorem nearestDefines_ancestors {d : FilePath} (hparent : dir.parent = some d)
    (hnone : ∀ y, ¬ Defines files dir key y) {value : Yaml} :
    NearestDefines files dir.ancestors key value ↔ NearestDefines files d.ancestors key value := by
  rw [FilePath.ancestors_eq dir, hparent, nearestDefines_cons]
  simp [hnone]

/-- Looking for secrets fails with the nearest file that cannot be used. Otherwise every key has
the value of the nearest file that defines it, in the document and in every included file, and is
undefined when there is none. A file has no part in the keys that it does not define. -/
theorem nearest_secrets_win (files : FileSource) (dir : FilePath) (environment : NameMap String) :
    (∀ e, ofDirectory files dir environment = .error e ↔
      ∃ near d far, dir.ancestors = near ++ d :: far ∧
        (∀ n ∈ near, ∀ e', ¬ Unusable files n e') ∧ Unusable files d e) ∧
    ∀ s, ofDirectory files dir environment = .ok s → ∀ v s₁ x, Inside s v s₁ x → ∀ key,
      (∀ value, s₁.apply (.tagged "secret" (.str key)) = .ok value ↔
        NearestDefines files dir.ancestors key value) ∧
      (s₁.apply (.tagged "secret" (.str key)) = .error (.undefinedSecret key) ↔
        ∀ d ∈ dir.ancestors, ∀ y, ¬ Defines files d key y) ∧
      ∀ d s', dir.parent = some d → (∀ y, ¬ Defines files dir key y) →
        ofDirectory files d environment = .ok s' →
        s₁.apply (.tagged "secret" (.str key)) = s'.apply (.tagged "secret" (.str key)) := by
  refine ⟨fun e => ofDirectory_eq_error_iff, fun s hs v s₁ x hx key => ?_⟩
  have hsecrets := ofDirectory_eq_ok hs
  rw [← hx.same.2.1] at hsecrets
  refine ⟨fun value => ?_, ?_, fun d s' hparent hnone hs' => ?_⟩
  · rw [apply_secret, secretValue_eq_ok_iff, valueAt?_secretsOf hsecrets]
  · rw [apply_secret, secretValue_eq_error_iff, ← not_nearestDefines_iff]
    simp only [← valueAt?_secretsOf hsecrets, Option.eq_none_iff_forall_ne_some, ne_eq]
  · have hvalue : Yaml.valueAt? (.str key) s₁.secrets = Yaml.valueAt? (.str key) s'.secrets := by
      apply Option.ext
      intro value
      rw [valueAt?_secretsOf hsecrets, valueAt?_secretsOf (ofDirectory_eq_ok hs'),
        nearestDefines_ancestors hparent hnone]
    rw [apply_secret, apply_secret, secretValue, secretValue, hvalue]

/-- Secrets of a directory, of the one around it, and of one beside it, where a file asks for a key
of its own directory. -/
def pinTree : FileTree :=
  ((((FileTree.add {} ["conf", "secrets.yaml"] "pin: near\n").add
    ["secrets.yaml"] "pin: far\nkey: outer\n").add
    ["parts", "secrets.yaml"] "key: beside\n").add
    ["parts", "user.yaml"] "!secret key\n")

def userDocument : Yaml := .tagged "include" (.str "../parts/user.yaml")

def textAt? (key : String) : Yaml → Option String
  | .map entries => match Yaml.valueAt? (.str key) entries with
    | some (.str text) => some text
    | _ => none
  | _ => none

theorem defines_of_textAt? {text : String} (hfile : files.isFile (dir.join secretsFile) = true)
    (h : (readYaml files (dir.join secretsFile)).toOption.bind (textAt? key) = some text) :
    Defines files dir key (.str text) := by
  obtain ⟨content, hread, hcontent⟩ := exists_of_toOption_bind h
  unfold textAt? at hcontent
  split at hcontent
  · next entries =>
    split at hcontent
    · next hvalue =>
      cases hcontent
      exact ⟨hfile, entries, hread, hvalue⟩
    · cases hcontent
  · cases hcontent

theorem ancestors_conf : (FilePath.mk "conf").ancestors = [⟨"conf"⟩, ⟨""⟩] := by decide

theorem ofDirectory_pinTree : ∃ secrets, ofDirectory pinTree.source ⟨"conf"⟩ .empty =
    .ok { files := pinTree.source, base := some ⟨"conf"⟩, secrets } := by
  have h : (failure? (secretsOf pinTree.source [⟨"conf"⟩, ⟨""⟩])).isNone = true := by
    decide +kernel
  obtain ⟨secrets, hsecrets⟩ := failure?_eq_none_iff.mp (Option.isNone_iff_eq_none.mp h)
  refine ⟨secrets, ?_⟩
  rw [ofDirectory, ancestors_conf, hsecrets]
  rfl

theorem read_userFile : readYaml pinTree.source ⟨"conf/../parts/user.yaml"⟩ =
    .ok (.tagged "secret" (.str "key")) := by
  have h : (readYaml pinTree.source ⟨"conf/../parts/user.yaml"⟩).toOption.bind taggedText? =
      some ("secret", "key") := by
    decide +kernel
  obtain ⟨content, hread, hcontent⟩ := exists_of_toOption_bind h
  rw [hread, eq_of_taggedText? hcontent]

/-- The included file has the secrets of the document, not those of its own directory. -/
theorem key_from_above : ∃ s, ofDirectory pinTree.source ⟨"conf"⟩ .empty = .ok s ∧
    Inside s userDocument (s.inFile ⟨"conf/../parts/user.yaml"⟩) (.tagged "secret" (.str "key")) ∧
    (s.inFile ⟨"conf/../parts/user.yaml"⟩).apply (.tagged "secret" (.str "key")) =
      .ok (.str "outer") ∧
    s.apply (.tagged "secret" (.str "pin")) = .ok (.str "near") := by
  obtain ⟨secrets, hs⟩ := ofDirectory_pinTree
  have hopens : Opens { files := pinTree.source, base := some ⟨"conf"⟩, secrets } userDocument
      ⟨"conf/../parts/user.yaml"⟩ (.tagged "secret" (.str "key")) :=
    ⟨⟨_, List.mem_singleton_self _, rfl⟩, rfl, read_userFile⟩
  have hpin : Defines pinTree.source ⟨"conf"⟩ "pin" (.str "near") :=
    defines_of_textAt? (by decide +kernel) (by decide +kernel)
  have hkey : Defines pinTree.source ⟨""⟩ "key" (.str "outer") :=
    defines_of_textAt? (by decide +kernel) (by decide +kernel)
  have hnone : ∀ y, ¬ Defines pinTree.source ⟨"conf"⟩ "key" y := by
    have h : (secretsIn pinTree.source ⟨"conf"⟩).toOption.map
        (fun entries => (Yaml.valueAt? (.str "key") entries).isNone) = some true := by
      decide +kernel
    cases hin : secretsIn pinTree.source ⟨"conf"⟩ with
    | error e => simp [hin, Except.toOption] at h
    | ok entries =>
      intro y hy
      have hsome := (defines_iff hin).mp hy
      simp [hin, Except.toOption, hsome] at h
  have hwin := (nearest_secrets_win pinTree.source ⟨"conf"⟩ .empty).2 _ hs userDocument
  refine ⟨_, hs, .file .document hopens, ?_, ?_⟩
  · refine ((hwin _ _ (.file .document hopens) "key").1 _).mpr ?_
    rw [ancestors_conf]
    exact ⟨[⟨"conf"⟩], ⟨""⟩, [], rfl, List.forall_mem_singleton.mpr hnone, hkey⟩
  · refine ((hwin _ _ .document "pin").1 _).mpr ?_
    rw [ancestors_conf]
    exact ⟨[], ⟨"conf"⟩, [⟨""⟩], rfl, List.forall_mem_nil _, hpin⟩

end Substitution

end OrgStacks
