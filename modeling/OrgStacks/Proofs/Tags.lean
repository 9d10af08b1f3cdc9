import OrgStacks.Config.Substitution
import OrgStacks.Proofs.FilePath
import OrgStacks.Proofs.Outcome

/-!
# What replacing tags leaves in a document

`Yaml.tags` lists the tagged values that are replaced, in the order of the document. A document
fails with the first of them that fails. When all are replaced, a tag is left in the result exactly
where something was copied into it as it is: the keys of mappings, of the document and of the files
that it includes, and the values of secrets. So a result has no tags when those have none.
-/

namespace OrgStacks
set_option autoImplicit false

namespace Yaml

/-- Induction over a document, where the parts of a list or mapping are its members. -/
@[elab_as_elim]
theorem inductionOn {P : Yaml → Prop} (v : Yaml) (null : P .null) (bool : ∀ b, P (.bool b))
    (int : ∀ n, P (.int n)) (float : ∀ x, P (.float x)) (str : ∀ s, P (.str s))
    (seq : ∀ items, (∀ x ∈ items, P x) → P (.seq items))
    (map : ∀ pairs, (∀ p ∈ pairs, P p.2) → P (.map pairs))
    (tagged : ∀ tag x, P x → P (.tagged tag x)) : P v := by
  refine Yaml.rec (motive_1 := P) (motive_2 := fun items => ∀ x ∈ items, P x)
    (motive_3 := fun pairs => ∀ p ∈ pairs, P p.2) (motive_4 := fun p => P p.2)
    null bool int float str seq map tagged ?_ ?_ ?_ ?_ ?_ v
  · simp
  · intro x items hx hitems y hy
    rcases List.mem_cons.mp hy with rfl | hy
    · exact hx
    · exact hitems y hy
  · simp
  · intro p pairs hp hpairs q hq
    rcases List.mem_cons.mp hq with rfl | hq
    · exact hp
    · exact hpairs q hq
  · intro _ _ _ hvalue
    exact hvalue

mutual

/-- The tagged values that are no part of a key or of another tagged value. -/
def tags : Yaml → List (String × Yaml)
  | .tagged tag v => [(tag, v)]
  | .seq items => tagsInItems items
  | .map pairs => tagsInPairs pairs
  | _ => []

def tagsInItems : List Yaml → List (String × Yaml)
  | [] => []
  | item :: items => tags item ++ tagsInItems items

def tagsInPairs : List (Yaml × Yaml) → List (String × Yaml)
  | [] => []
  | (_, value) :: pairs => tags value ++ tagsInPairs pairs

end

mutual

def keys : Yaml → List Yaml
  | .seq items => keysInItems items
  | .map pairs => keysInPairs pairs
  | _ => []

def keysInItems : List Yaml → List Yaml
  | [] => []
  | item :: items => keys item ++ keysInItems items

def keysInPairs : List (Yaml × Yaml) → List Yaml
  | [] => []
  | (key, value) :: pairs => key :: (keys value ++ keysInPairs pairs)

end

theorem tags_seq (items : List Yaml) : (Yaml.seq items).tags = items.flatMap tags := by
  rw [tags]
  induction items with
  | nil => rfl
  | cons item items ih => rw [tagsInItems, ih, List.flatMap_cons]

theorem tags_map (pairs : List (Yaml × Yaml)) :
    (Yaml.map pairs).tags = pairs.flatMap fun p => p.2.tags := by
  rw [tags]
  induction pairs with
  | nil => rfl
  | cons p pairs ih => rw [tagsInPairs, ih, List.flatMap_cons]

theorem mem_keys_seq {items : List Yaml} {k : Yaml} :
    k ∈ (Yaml.seq items).keys ↔ ∃ item ∈ items, k ∈ item.keys := by
  rw [keys]
  induction items with
  | nil => simp [keysInItems]
  | cons item items ih => simp [keysInItems, ih]

theorem mem_keys_map {pairs : List (Yaml × Yaml)} {k : Yaml} :
    k ∈ (Yaml.map pairs).keys ↔ ∃ p ∈ pairs, k = p.1 ∨ k ∈ p.2.keys := by
  rw [keys]
  induction pairs with
  | nil => simp [keysInPairs]
  | cons p pairs ih => simp [keysInPairs, ih, or_assoc]

inductive Part (x : Yaml) : Yaml → Prop
  | whole : Part x x
  | item {items : List Yaml} {v : Yaml} (hv : v ∈ items) (hx : Part x v) : Part x (.seq items)
  | key {pairs : List (Yaml × Yaml)} {p : Yaml × Yaml} (hp : p ∈ pairs) (hx : Part x p.1) :
    Part x (.map pairs)
  | value {pairs : List (Yaml × Yaml)} {p : Yaml × Yaml} (hp : p ∈ pairs) (hx : Part x p.2) :
    Part x (.map pairs)
  | argument {tag : String} {v : Yaml} (hx : Part x v) : Part x (.tagged tag v)

def TagFree (v : Yaml) : Prop := ∀ tag x, ¬ Part (.tagged tag x) v

section Parts
variable {tag : String} {x : Yaml}

theorem part_tagged_seq {items : List Yaml} :
    Part (.tagged tag x) (.seq items) ↔ ∃ v ∈ items, Part (.tagged tag x) v := by
  constructor
  · rintro (_ | ⟨hv, hx⟩)
    exact ⟨_, hv, hx⟩
  · rintro ⟨_, hv, hx⟩
    exact .item hv hx

theorem part_tagged_map {pairs : List (Yaml × Yaml)} :
    Part (.tagged tag x) (.map pairs) ↔
      ∃ p ∈ pairs, Part (.tagged tag x) p.1 ∨ Part (.tagged tag x) p.2 := by
  constructor
  · rintro (_ | _ | ⟨hp, hx⟩ | ⟨hp, hx⟩)
    · exact ⟨_, hp, .inl hx⟩
    · exact ⟨_, hp, .inr hx⟩
  · rintro ⟨_, hp, hx | hx⟩
    · exact .key hp hx
    · exact .value hp hx

@[simp] theorem not_part_tagged_str {s : String} : ¬ Part (.tagged tag x) (.str s) := nofun

end Parts

end Yaml

namespace Substitution
open Yaml (Part TagFree)

section Replacing
variable {f : String → Yaml → Except Problem Yaml}

theorem replaceInItems_eq_mapM (items : List Yaml) :
    replaceInItems f items = items.mapM (replaceTagged f) := by
  induction items with
  | nil => rfl
  | cons item items ih => rw [replaceInItems, ih, List.mapM_cons]

theorem replaceInPairs_eq_mapM (pairs : List (Yaml × Yaml)) :
    replaceInPairs f pairs =
      pairs.mapM fun p => (replaceTagged f p.2).map fun value => (p.1, value) := by
  induction pairs with
  | nil => rfl
  | cons p pairs ih =>
    rw [replaceInPairs, ih, List.mapM_cons]
    cases replaceTagged f p.2 <;> rfl

theorem failure?_replaceTagged (v : Yaml) :
    failure? (replaceTagged f v) = v.tags.findSome? fun t => failure? (f t.1 t.2) := by
  induction v using Yaml.inductionOn with
  | tagged tag x =>
    rw [replaceTagged, Yaml.tags, List.findSome?_singleton]
  | seq items ih =>
    rw [replaceTagged, failure?_map, replaceInItems_eq_mapM, failure?_mapM, Yaml.tags_seq]
    exact findSome?_flatMap ih
  | map pairs ih =>
    rw [replaceTagged, failure?_map, replaceInPairs_eq_mapM, failure?_mapM, Yaml.tags_map]
    apply findSome?_flatMap
    intro p hp
    rw [failure?_map, ih p hp]
  | _ => simp [replaceTagged, Yaml.tags, failure?]

theorem replaceTagged_eq_error_iff {v : Yaml} {e : Problem} :
    replaceTagged f v = .error e ↔ ∃ before t after, v.tags = before ++ t :: after ∧
      (∀ b ∈ before, ∃ y, f b.1 b.2 = .ok y) ∧ f t.1 t.2 = .error e := by
  rw [← failure?_eq_some_iff, failure?_replaceTagged, List.findSome?_eq_some_iff]
  simp only [failure?_eq_some_iff, failure?_eq_none_iff, and_comm]

theorem replaceTagged_congr {g : String → Yaml → Except Problem Yaml} {v : Yaml}
    (h : ∀ t ∈ v.tags, f t.1 t.2 = g t.1 t.2) : replaceTagged f v = replaceTagged g v := by
  induction v using Yaml.inductionOn with
  | tagged tag x => exact h (tag, x) List.mem_cons_self
  | seq items ih =>
    simp only [Yaml.tags_seq, List.mem_flatMap] at h
    have hitems : items.mapM (replaceTagged f) = items.mapM (replaceTagged g) :=
      mapM_congr fun item hitem => ih item hitem fun t ht => h t ⟨item, hitem, ht⟩
    simp only [replaceTagged, replaceInItems_eq_mapM, hitems]
  | map pairs ih =>
    simp only [Yaml.tags_map, List.mem_flatMap] at h
    have hvalue : ∀ p ∈ pairs, replaceTagged f p.2 = replaceTagged g p.2 :=
      fun p hp => ih p hp fun t ht => h t ⟨p, hp, ht⟩
    simp only [replaceTagged, replaceInPairs_eq_mapM]
    rw [mapM_congr fun p hp => by rw [hvalue p hp]]
  | _ => simp [replaceTagged]

/-- The tagged value is in a key, or in the replacement of a tag. -/
def Leaves (f : String → Yaml → Except Problem Yaml) (tag : String) (x v : Yaml) : Prop :=
  (∃ k ∈ v.keys, Part (.tagged tag x) k) ∨
    ∃ t ∈ v.tags, ∃ y, f t.1 t.2 = .ok y ∧ Part (.tagged tag x) y

theorem leaves_seq {items : List Yaml} {tag : String} {x : Yaml} :
    Leaves f tag x (.seq items) ↔ ∃ item ∈ items, Leaves f tag x item := by
  simp only [Leaves, Yaml.mem_keys_seq, Yaml.tags_seq, List.mem_flatMap]
  constructor
  · rintro (⟨k, ⟨item, hitem, hk⟩, hx⟩ | ⟨t, ⟨item, hitem, ht⟩, hx⟩)
    · exact ⟨item, hitem, .inl ⟨k, hk, hx⟩⟩
    · exact ⟨item, hitem, .inr ⟨t, ht, hx⟩⟩
  · rintro ⟨item, hitem, ⟨k, hk, hx⟩ | ⟨t, ht, hx⟩⟩
    · exact .inl ⟨k, ⟨item, hitem, hk⟩, hx⟩
    · exact .inr ⟨t, ⟨item, hitem, ht⟩, hx⟩

theorem leaves_map {pairs : List (Yaml × Yaml)} {tag : String} {x : Yaml} :
    Leaves f tag x (.map pairs) ↔
      ∃ p ∈ pairs, Part (.tagged tag x) p.1 ∨ Leaves f tag x p.2 := by
  simp only [Leaves, Yaml.mem_keys_map, Yaml.tags_map, List.mem_flatMap]
  constructor
  · rintro (⟨k, ⟨p, hp, rfl | hk⟩, hx⟩ | ⟨t, ⟨p, hp, ht⟩, hx⟩)
    · exact ⟨p, hp, .inl hx⟩
    · exact ⟨p, hp, .inr (.inl ⟨k, hk, hx⟩)⟩
    · exact ⟨p, hp, .inr (.inr ⟨t, ht, hx⟩)⟩
  · rintro ⟨p, hp, hx | ⟨k, hk, hx⟩ | ⟨t, ht, hx⟩⟩
    · exact .inl ⟨p.1, ⟨p, hp, .inl rfl⟩, hx⟩
    · exact .inl ⟨k, ⟨p, hp, .inr hk⟩, hx⟩
    · exact .inr ⟨t, ⟨p, hp, ht⟩, hx⟩

/-- The tags of a result are those of the keys and those of the replacements. -/
theorem part_replaceTagged {v w : Yaml} (h : replaceTagged f v = .ok w) {tag : String} {x : Yaml} :
    Part (.tagged tag x) w ↔ Leaves f tag x v := by
  induction v using Yaml.inductionOn generalizing w with
  | tagged tag' x' =>
    simp only [replaceTagged] at h
    simp [Leaves, Yaml.tags, Yaml.keys, h]
  | seq items ih =>
    simp only [replaceTagged, replaceInItems_eq_mapM] at h
    obtain ⟨ws, hws, rfl⟩ := map_eq_ok_iff.mp h
    rw [Yaml.part_tagged_seq, exists_mem_mapM_iff hws, leaves_seq]
    apply exists_congr
    intro item
    apply and_congr_right
    intro hitem
    obtain ⟨y, _, hy⟩ := exists_of_mapM_eq_ok hws hitem
    simp [hy, ih item hitem hy]
  | map pairs ih =>
    simp only [replaceTagged, replaceInPairs_eq_mapM] at h
    obtain ⟨ws, hws, rfl⟩ := map_eq_ok_iff.mp h
    rw [Yaml.part_tagged_map, exists_mem_mapM_iff hws, leaves_map]
    apply exists_congr
    intro p
    apply and_congr_right
    intro hp
    obtain ⟨_, _, hq⟩ := exists_of_mapM_eq_ok hws hp
    obtain ⟨y, hy, rfl⟩ := map_eq_ok_iff.mp hq
    simp [hq, ih p hp hy]
  | _ =>
    simp only [replaceTagged, Except.ok.injEq] at h
    subst w
    simp only [Leaves, Yaml.tags, Yaml.keys, List.not_mem_nil, false_and, exists_const, or_self,
      iff_false]
    exact nofun

theorem exists_replacement_of_mem_tags {v w : Yaml} (h : replaceTagged f v = .ok w)
    {t : String × Yaml} (ht : t ∈ v.tags) : ∃ y, f t.1 t.2 = .ok y := by
  have hv : failure? (replaceTagged f v) = none := by simp [h]
  rw [failure?_replaceTagged, List.findSome?_eq_none_iff] at hv
  exact failure?_eq_none_iff.mp (hv t ht)

end Replacing

def tagName (tag : String) : String := String.ofList (tag.toList.dropWhile (· = '!'))

def includedPath? (base : Option FilePath) (tag : String) (value : Yaml) : Option FilePath :=
  if tagName tag = "include" then base.bind fun dir => (argument? value).map dir.join else none

def secret? (secrets : List (Yaml × Yaml)) (tag : String) (value : Yaml) : Option Yaml :=
  if tagName tag = "secret" then
    (argument? value).bind fun key => Yaml.valueAt? (.str key) secrets
  else none

def inFile (s : Substitution) (path : FilePath) : Substitution :=
  { s with base := path.parent, including := s.including ++ [path] }

section Replacement
variable {s : Substitution} {next : Substitution → Yaml → Except Problem Yaml}
variable {tag : String} {value : Yaml}

theorem replacement_eq : s.replacement next tag value =
    match argument? value with
    | none => .error (.parse ("tag !" ++ tagName tag ++ " takes a single scalar argument"))
    | some argument =>
      if tagName tag = "env_var" then s.variableValue argument
      else if tagName tag = "secret" then s.secretValue argument
      else if tagName tag = "include" then s.included next argument
      else .error (.parse ("unsupported tag !" ++ tagName tag)) :=
  rfl

theorem includedPath?_eq_some_iff {base : Option FilePath} {path : FilePath} :
    includedPath? base tag value = some path ↔ tagName tag = "include" ∧
      ∃ dir, base = some dir ∧ ∃ file, argument? value = some file ∧ dir.join file = path := by
  simp only [includedPath?, Option.ite_none_right_eq_some, Option.bind_eq_some_iff,
    Option.map_eq_some_iff]

theorem replacement_of_path {path : FilePath} (h : includedPath? s.base tag value = some path) :
    s.replacement next tag value =
      if s.including.any path.same then .error (.parse (path.text ++ " includes itself"))
      else readYaml s.files path >>= next (s.inFile path) := by
  obtain ⟨hname, dir, hdir, file, hfile, rfl⟩ := includedPath?_eq_some_iff.mp h
  simp [replacement_eq, hname, hfile, included, hdir, inFile]

/-- A tag that asks for no file is replaced without regard to files. -/
theorem replacement_congr_of_no_path {s' : Substitution}
    {next' : Substitution → Yaml → Except Problem Yaml} (hbase : s'.base = s.base)
    (hsecrets : s'.secrets = s.secrets) (henvironment : s'.environment = s.environment)
    (h : includedPath? s.base tag value = none) :
    s.replacement next tag value = s'.replacement next' tag value := by
  rw [replacement_eq, replacement_eq]
  cases hargument : argument? value with
  | none => rfl
  | some file =>
    by_cases hname : tagName tag = "include"
    · cases hdir : s.base with
      | none => simp [hname, included, hbase, hdir]
      | some dir => simp [includedPath?, hname, hdir, hargument] at h
    · simp [hname, variableValue, secretValue, hsecrets, henvironment]

theorem replacement_of_no_path {next' : Substitution → Yaml → Except Problem Yaml}
    (h : includedPath? s.base tag value = none) :
    s.replacement next tag value = s.replacement next' tag value :=
  replacement_congr_of_no_path rfl rfl rfl h

theorem replacement_of_secret {y : Yaml} (h : secret? s.secrets tag value = some y) :
    s.replacement next tag value = .ok y := by
  simp only [secret?, Option.ite_none_right_eq_some, Option.bind_eq_some_iff] at h
  obtain ⟨hname, key, hkey, hy⟩ := h
  simp [replacement_eq, hname, hkey, secretValue, hy]

theorem variableValue_eq_ok_iff {argument : String} {y : Yaml} :
    s.variableValue argument = .ok y ↔ ∃ name rest,
      (Text.words argument.toList).map String.ofList = name :: rest ∧
      ((∃ value, s.environment.get? name = some value ∧ y = .str value) ∨
        s.environment.get? name = none ∧ rest ≠ [] ∧ y = .str (Text.joinWith " " rest)) := by
  unfold variableValue
  split
  · next hwords => simp [hwords]
  · next name rest hwords =>
    rw [hwords]
    constructor
    · intro h
      refine ⟨name, rest, rfl, ?_⟩
      split at h
      · next value hvalue => exact .inl ⟨value, hvalue, (Except.ok.inj h).symm⟩
      · next hunset =>
        split_ifs at h with hrest
        exact .inr ⟨hunset, by simpa using hrest, (Except.ok.inj h).symm⟩
    · rintro ⟨_, _, ⟨⟩, ⟨value, hvalue, rfl⟩ | ⟨hunset, hrest, rfl⟩⟩
      · rw [hvalue]
      · simp [hunset, hrest]

/-- A tag that asks for a file has a directory to look in. -/
theorem included_ne_ok {argument : String} {y : Yaml} (hname : tagName tag = "include")
    (hargument : argument? value = some argument) (h : includedPath? s.base tag value = none) :
    s.included next argument ≠ .ok y := by
  cases hbase : s.base with
  | none => simp [included, hbase]
  | some dir => simp [includedPath?, hname, hbase, hargument] at h

theorem replacement_eq_ok {y : Yaml} (hpath : includedPath? s.base tag value = none)
    (h : s.replacement next tag value = .ok y) :
    secret? s.secrets tag value = some y ∨ ∃ text, y = .str text := by
  rw [replacement_eq] at h
  split at h
  · cases h
  · next argument hargument =>
    split_ifs at h with henv hsecret hinclude
    · right
      obtain ⟨_, _, _, ⟨text, _, rfl⟩ | ⟨_, _, rfl⟩⟩ := variableValue_eq_ok_iff.mp h <;>
        exact ⟨_, rfl⟩
    · left
      unfold secretValue at h
      split at h
      · next value hvalue =>
        cases h
        simp [secret?, hsecret, hargument, hvalue]
      · cases h
    · exact absurd h (included_ne_ok hinclude hargument hpath)

end Replacement

/-- What the result takes over as it is, from the document or from a file that it includes. -/
inductive Copies : Substitution → Yaml → Yaml → Prop
  | key {s : Substitution} {v k : Yaml} (hk : k ∈ v.keys) : Copies s v k
  | secret {s : Substitution} {v y : Yaml} {t : String × Yaml} (ht : t ∈ v.tags)
      (hy : secret? s.secrets t.1 t.2 = some y) : Copies s v y
  | included {s : Substitution} {v content y : Yaml} {t : String × Yaml} {path : FilePath}
      (ht : t ∈ v.tags) (hpath : includedPath? s.base t.1 t.2 = some path)
      (hread : readYaml s.files path = .ok content) (hy : Copies (s.inFile path) content y) :
      Copies s v y

theorem part_applyWithin {n : Nat} {s : Substitution} {v w : Yaml}
    (h : applyWithin n s v = .ok w) {tag : String} {x : Yaml} :
    Part (.tagged tag x) w ↔ ∃ y, Copies s v y ∧ Part (.tagged tag x) y := by
  induction n generalizing s v w with
  | zero => cases h
  | succ n ih =>
    rw [part_replaceTagged h]
    constructor
    · rintro (⟨k, hk, hx⟩ | ⟨t, ht, y, hy, hx⟩)
      · exact ⟨k, .key hk, hx⟩
      · cases hpath : includedPath? s.base t.1 t.2 with
        | none =>
          rcases replacement_eq_ok hpath hy with hsecret | ⟨text, rfl⟩
          · exact ⟨y, .secret ht hsecret, hx⟩
          · exact absurd hx Yaml.not_part_tagged_str
        | some path =>
          rw [replacement_of_path hpath] at hy
          split at hy
          · cases hy
          · obtain ⟨content, hread, hcontent⟩ := bind_eq_ok_iff.mp hy
            obtain ⟨z, hz, hxz⟩ := (ih hcontent).mp hx
            exact ⟨z, .included ht hpath hread hz, hxz⟩
    · rintro ⟨y, hy, hx⟩
      cases hy with
      | key hk => exact .inl ⟨y, hk, hx⟩
      | @secret _ _ _ t ht hsecret => exact .inr ⟨t, ht, y, replacement_of_secret hsecret, hx⟩
      | @included _ _ content _ t path ht hpath hread hy =>
        obtain ⟨z, hz⟩ := exists_replacement_of_mem_tags h ht
        have hincluded := hz
        rw [replacement_of_path hpath] at hincluded
        split at hincluded
        · cases hincluded
        · rw [hread] at hincluded
          exact .inr ⟨t, ht, z, hz, (ih hincluded).mpr ⟨y, hy, hx⟩⟩

theorem exists_apply_eq :
    ∃ n, ∀ s v, apply s v = replaceTagged (s.replacement (applyWithin n)) v := by
  obtain ⟨n, hn⟩ := Nat.exists_eq_add_one.mpr FilePath.readableBound_pos
  refine ⟨n, fun s v => ?_⟩
  rw [apply, hn, applyWithin]

/-- A tag is left in the result exactly where it was copied, and there is none when no key and no
secret that was copied has one. -/
theorem apply_leaves_copied_tags {s : Substitution} {v w : Yaml} (h : s.apply v = .ok w) :
    (∀ tag x, Part (.tagged tag x) w ↔ ∃ y, Copies s v y ∧ Part (.tagged tag x) y) ∧
      (w.TagFree ↔ ∀ y, Copies s v y → y.TagFree) := by
  have hpart : ∀ tag x, Part (.tagged tag x) w ↔ ∃ y, Copies s v y ∧ Part (.tagged tag x) y :=
    fun _ _ => part_applyWithin h
  refine ⟨hpart, ?_⟩
  constructor
  · intro hw y hy tag x hx
    exact hw tag x ((hpart tag x).mpr ⟨y, hy, hx⟩)
  · intro hcopies tag x hx
    obtain ⟨y, hy, hxy⟩ := (hpart tag x).mp hx
    exact hcopies y hy tag x hxy

/-- A password that is the name of a variable by mistake. -/
def variableAsSecret : Substitution :=
  { secrets := [(.str "amy", .tagged "env_var" (.str "AMY"))] }

def passwordOfAmy (value : Yaml) : Yaml := .map [(.str "password", value)]

theorem password_keeps_tag :
    ∃ w, variableAsSecret.apply (passwordOfAmy (.tagged "secret" (.str "amy"))) = .ok w ∧
      Part (.tagged "env_var" (.str "AMY")) w := by
  obtain ⟨n, hn⟩ := exists_apply_eq
  have hw : variableAsSecret.apply (passwordOfAmy (.tagged "secret" (.str "amy"))) =
      .ok (passwordOfAmy (.tagged "env_var" (.str "AMY"))) := by
    rw [hn]
    rfl
  refine ⟨_, hw, ((apply_leaves_copied_tags hw).1 _ _).mpr ⟨_, ?_, .whole⟩⟩
  exact Copies.secret (t := ("secret", .str "amy")) List.mem_cons_self rfl

/-- No tag of a key is looked at, known or not. -/
theorem tagged_key_stays :
    ∃ s v w, apply s v = .ok w ∧ ¬ w.TagFree := by
  obtain ⟨n, hn⟩ := exists_apply_eq
  refine ⟨{}, .map [(.tagged "vault" (.str "amy"), .map [])], _, hn _ _, fun hfree => ?_⟩
  exact hfree "vault" (.str "amy") (.key List.mem_cons_self .whole)

end Substitution

end OrgStacks
