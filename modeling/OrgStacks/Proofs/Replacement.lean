import OrgStacks.Proofs.Secrets

/-!
# Only tagged values are replaced

A position in a document is a list of indices; what is below a tag has no position. Where a value is
not tagged the result has a value of the same form at the position, and where it is tagged the
result has what the tag means. `Substitution.Means` says what that is: a variable or the words after
its name, a secret, or a file with its own tags replaced. Every other tag fails, and a document
fails as the first of its tags that does.
-/

namespace OrgStacks
set_option autoImplicit false

namespace Yaml

def children : Yaml → List Yaml
  | .seq items => items
  | .map pairs => pairs.map (·.2)
  | _ => []

def isTagged : Yaml → Bool
  | .tagged .. => true
  | _ => false

def at? (v : Yaml) : List Nat → Option Yaml
  | [] => some v
  | i :: path => v.children[i]?.bind fun child => child.at? path

theorem at?_cons_eq_some_iff {v x : Yaml} {i : Nat} {path : List Nat} :
    v.at? (i :: path) = some x ↔ ∃ child, v.children[i]? = some child ∧ child.at? path = some x :=
  Option.bind_eq_some_iff

theorem tags_eq_flatMap {v : Yaml} (h : v.isTagged = false) : v.tags = v.children.flatMap tags := by
  cases v with
  | seq items => exact tags_seq items
  | map pairs => rw [tags_map, children, List.flatMap_map]
  | tagged tag x => cases h
  | _ => rfl

theorem isTagged_eq_false_of_child {v child : Yaml} (h : child ∈ v.children) :
    v.isTagged = false := by
  cases v with
  | tagged => cases h
  | _ => rfl

@[elab_as_elim]
theorem childInduction {P : Yaml → Prop} (v : Yaml) (tagged : ∀ tag x, P (.tagged tag x))
    (untagged : ∀ v, v.isTagged = false → (∀ child ∈ v.children, P child) → P v) : P v := by
  induction v using Yaml.inductionOn with
  | tagged tag x => exact tagged tag x
  | seq items ih => exact untagged _ rfl ih
  | map pairs ih => exact untagged _ rfl (List.forall_mem_map.mpr ih)
  | _ => exact untagged _ rfl (List.forall_mem_nil _)

/-- The tags of a document are those at its positions. -/
theorem mem_tags_iff {v : Yaml} {tag : String} {x : Yaml} :
    (tag, x) ∈ v.tags ↔ ∃ path, v.at? path = some (.tagged tag x) := by
  induction v using childInduction with
  | tagged tag' x' =>
    constructor
    · intro h
      obtain ⟨rfl, rfl⟩ := Prod.mk.inj (List.mem_singleton.mp h)
      exact ⟨[], rfl⟩
    · rintro ⟨_ | ⟨i, path⟩, hpath⟩
      · cases hpath
        exact List.mem_singleton_self _
      · cases hpath
  | untagged v hv ih =>
    rw [tags_eq_flatMap hv, List.mem_flatMap]
    constructor
    · rintro ⟨child, hchild, hx⟩
      obtain ⟨i, hi⟩ := List.mem_iff_getElem?.mp hchild
      obtain ⟨path, hpath⟩ := (ih child hchild).mp hx
      exact ⟨i :: path, at?_cons_eq_some_iff.mpr ⟨child, hi, hpath⟩⟩
    · rintro ⟨_ | ⟨i, path⟩, hpath⟩
      · cases hpath
        cases hv
      · obtain ⟨child, hi, hchild⟩ := at?_cons_eq_some_iff.mp hpath
        have hmem := List.mem_of_getElem? hi
        exact ⟨child, hmem, (ih child hmem).mpr ⟨path, hchild⟩⟩

theorem forall₂_pairs_iff {R : Yaml → Yaml → Prop} {pairs pairs' : List (Yaml × Yaml)} :
    List.Forall₂ (fun p p' => p'.1 = p.1 ∧ R p.2 p'.2) pairs pairs' ↔
      pairs'.map (·.1) = pairs.map (·.1) ∧
        List.Forall₂ R (pairs.map (·.2)) (pairs'.map (·.2)) := by
  induction pairs generalizing pairs' with
  | nil => cases pairs' <;> simp
  | cons p pairs ih =>
    cases pairs' with
    | nil => simp
    | cons p' pairs' =>
      simp only [List.map_cons, List.forall₂_cons, List.cons.injEq, ih]
      tauto

/-- A list with as many members, a mapping with the same keys in the same order, or else the same
value. -/
inductive SameForm : Yaml → Yaml → Prop
  | seq {items items' : List Yaml} (h : items'.length = items.length) :
    SameForm (.seq items) (.seq items')
  | map {pairs pairs' : List (Yaml × Yaml)} (h : pairs'.map (·.1) = pairs.map (·.1)) :
    SameForm (.map pairs) (.map pairs')
  | null : SameForm .null .null
  | bool {b : Bool} : SameForm (.bool b) (.bool b)
  | int {n : Int} : SameForm (.int n) (.int n)
  | float {x : Float} : SameForm (.float x) (.float x)
  | str {s : String} : SameForm (.str s) (.str s)

theorem SameForm.length_children {v w : Yaml} (h : SameForm v w) :
    v.children.length = w.children.length := by
  cases h with
  | seq h => exact h.symm
  | map h => simpa [children] using (congrArg List.length h).symm
  | _ => rfl

theorem SameForm.of_untagged {v : Yaml} (h : v.isTagged = false) : SameForm v v := by
  cases v with
  | tagged => cases h
  | seq => exact .seq rfl
  | map => exact .map rfl
  | _ => constructor

/-- At every position there is a value of the same form, or where a tagged value stood one that it
means. -/
def Replaced (Means : String → Yaml → Yaml → Prop) (v w : Yaml) : Prop :=
  ∀ path x, v.at? path = some x → ∃ y, w.at? path = some y ∧
    (∀ tag a, x = .tagged tag a → Means tag a y) ∧ (x.isTagged = false → SameForm x y)

section Replaced
variable {Means : String → Yaml → Yaml → Prop} {v w : Yaml}

theorem replaced_tagged_iff {tag : String} {a : Yaml} :
    Replaced Means (.tagged tag a) w ↔ Means tag a w := by
  constructor
  · intro h
    obtain ⟨y, hy, hmeans, _⟩ := h [] _ rfl
    cases hy
    exact hmeans tag a rfl
  · rintro h (_ | ⟨i, path⟩) x hx
    · cases hx
      refine ⟨w, rfl, ?_, nofun⟩
      rintro _ _ ⟨⟩
      exact h
    · cases hx

theorem replaced_iff (hv : v.isTagged = false) : Replaced Means v w ↔
    SameForm v w ∧ List.Forall₂ (Replaced Means) v.children w.children := by
  constructor
  · intro h
    obtain ⟨_, ⟨⟩, _, hform⟩ := h [] v rfl
    refine ⟨hform hv, List.forall₂_iff_get.mpr ⟨(hform hv).length_children, ?_⟩⟩
    intro i hi hi' path x hx
    obtain ⟨y, hy, hxy⟩ := h (i :: path) x
      (at?_cons_eq_some_iff.mpr ⟨_, List.getElem?_eq_getElem hi, hx⟩)
    obtain ⟨child, hchild, hy⟩ := at?_cons_eq_some_iff.mp hy
    rw [List.getElem?_eq_getElem hi', Option.some.injEq] at hchild
    subst hchild
    exact ⟨y, hy, hxy⟩
  · rintro ⟨hform, hchildren⟩ (_ | ⟨i, path⟩) x hx
    · cases hx
      refine ⟨w, rfl, ?_, fun _ => hform⟩
      rintro tag a rfl
      cases hv
    · obtain ⟨child, hchild, hx⟩ := at?_cons_eq_some_iff.mp hx
      obtain ⟨hi, rfl⟩ := List.getElem?_eq_some_iff.mp hchild
      obtain ⟨hlength, hget⟩ := List.forall₂_iff_get.mp hchildren
      obtain ⟨y, hy, hxy⟩ := hget i hi (hlength ▸ hi) path x hx
      exact ⟨y, at?_cons_eq_some_iff.mpr
        ⟨_, List.getElem?_eq_getElem (hlength ▸ hi), hy⟩, hxy⟩

theorem replaced_self (h : v.tags = []) : Replaced Means v v := by
  intro path x hx
  refine ⟨x, hx, ?_, SameForm.of_untagged⟩
  rintro tag a rfl
  have htag := mem_tags_iff.mpr ⟨path, hx⟩
  rw [h] at htag
  cases htag

end Replaced

end Yaml

namespace Substitution
open Yaml (SameForm Replaced)

section Replacing
variable {f : String → Yaml → Except Problem Yaml} {v w : Yaml}

theorem replaceInPairs_eq_ok_iff {pairs pairs' : List (Yaml × Yaml)} :
    replaceInPairs f pairs = .ok pairs' ↔
      List.Forall₂ (fun p p' => p'.1 = p.1 ∧ replaceTagged f p.2 = .ok p'.2) pairs pairs' := by
  rw [replaceInPairs_eq_mapM, mapM_eq_ok_iff]
  refine forall₂_congr fun p _ p' => ?_
  rw [map_eq_ok_iff]
  constructor
  · rintro ⟨value, hvalue, rfl⟩
    exact ⟨rfl, hvalue⟩
  · rintro ⟨hkey, hvalue⟩
    exact ⟨p'.2, hvalue, Prod.ext hkey.symm rfl⟩

/-- A value that is not tagged keeps its form, and its children are replaced one by one. -/
theorem replaceTagged_eq_ok_iff_of_untagged (hv : v.isTagged = false) :
    replaceTagged f v = .ok w ↔ SameForm v w ∧
      List.Forall₂ (fun x y => replaceTagged f x = .ok y) v.children w.children := by
  cases v with
  | tagged tag x => cases hv
  | seq items =>
    rw [replaceTagged, replaceInItems_eq_mapM, map_eq_ok_iff]
    simp only [mapM_eq_ok_iff]
    constructor
    · rintro ⟨items', hitems, rfl⟩
      exact ⟨.seq hitems.length_eq.symm, hitems⟩
    · rintro ⟨⟨_⟩, hitems⟩
      exact ⟨_, hitems, rfl⟩
  | map pairs =>
    rw [replaceTagged, map_eq_ok_iff]
    simp only [replaceInPairs_eq_ok_iff,
      Yaml.forall₂_pairs_iff (R := fun x y => replaceTagged f x = .ok y)]
    constructor
    · rintro ⟨pairs', ⟨hkeys, hvalues⟩, rfl⟩
      exact ⟨.map hkeys, hvalues⟩
    · rintro ⟨hform, hvalues⟩
      cases hform with
      | map hkeys => exact ⟨_, ⟨hkeys, hvalues⟩, rfl⟩
  | _ =>
    rw [replaceTagged, Except.ok.injEq]
    constructor
    · rintro rfl
      exact ⟨by constructor, .nil⟩
    · rintro ⟨⟨⟩, _⟩
      rfl

/-- A result is exactly what has each tagged value replaced. -/
theorem replaceTagged_eq_ok_iff :
    replaceTagged f v = .ok w ↔ Replaced (fun tag x y => f tag x = .ok y) v w := by
  induction v using Yaml.childInduction generalizing w with
  | tagged tag x => rw [replaceTagged, Yaml.replaced_tagged_iff]
  | untagged v hv ih =>
    rw [replaceTagged_eq_ok_iff_of_untagged hv, Yaml.replaced_iff hv]
    exact and_congr_right fun _ => forall₂_congr fun child hchild y => ih child hchild

end Replacing

/-- What a tagged value means where tags refer to `s`. -/
inductive Means (s : Substitution) (tag : String) (x : Yaml) : Yaml → Prop
  | variable {argument name value : String} {rest : List String} (htag : tagName tag = "env_var")
    (hargument : argument? x = some argument)
    (hwords : (Text.words argument.toList).map String.ofList = name :: rest)
    (hset : s.environment.get? name = some value) : Means s tag x (.str value)
  | words {argument name : String} {rest : List String} (htag : tagName tag = "env_var")
    (hargument : argument? x = some argument)
    (hwords : (Text.words argument.toList).map String.ofList = name :: rest)
    (hunset : s.environment.get? name = none) (hrest : rest ≠ []) :
    Means s tag x (.str (Text.joinWith " " rest))
  | secret {key : String} {value : Yaml} (htag : tagName tag = "secret")
    (hargument : argument? x = some key)
    (hvalue : Yaml.valueAt? (.str key) s.secrets = some value) : Means s tag x value
  | file {path : FilePath} {content y : Yaml}
    (hpath : includedPath? s.base tag x = some path)
    (hfresh : s.including.any path.same = false)
    (hread : readYaml s.files path = .ok content)
    (hcontent : (s.inFile path).apply content = .ok y) : Means s tag x y

section Means
variable {s : Substitution} {tag : String} {x y : Yaml}

theorem replacement_eq_ok_iff : s.replacement apply tag x = .ok y ↔ s.Means tag x y := by
  constructor
  · intro h
    cases hpath : includedPath? s.base tag x with
    | some path =>
      rw [replacement_of_path hpath] at h
      split at h
      · cases h
      · next hfresh =>
        obtain ⟨content, hread, hcontent⟩ := bind_eq_ok_iff.mp h
        exact .file hpath (Bool.eq_false_iff.mpr hfresh) hread hcontent
    | none =>
      rw [replacement_eq] at h
      split at h
      · cases h
      · next argument hargument =>
        split_ifs at h with hvariable hsecret hinclude
        · obtain ⟨name, rest, hwords, ⟨value, hset, rfl⟩ | ⟨hunset, hrest, rfl⟩⟩ :=
            variableValue_eq_ok_iff.mp h
          · exact .variable hvariable hargument hwords hset
          · exact .words hvariable hargument hwords hunset hrest
        · exact .secret hsecret hargument (secretValue_eq_ok_iff.mp h)
        · exact absurd h (included_ne_ok hinclude hargument hpath)
  · intro h
    cases h with
    | «variable» htag hargument hwords hset =>
      simp only [replacement_eq, hargument, htag, if_true]
      exact variableValue_eq_ok_iff.mpr ⟨_, _, hwords, .inl ⟨_, hset, rfl⟩⟩
    | words htag hargument hwords hunset hrest =>
      simp only [replacement_eq, hargument, htag, if_true]
      exact variableValue_eq_ok_iff.mpr ⟨_, _, hwords, .inr ⟨hunset, hrest, rfl⟩⟩
    | secret htag hargument hvalue =>
      apply replacement_of_secret
      simp [secret?, htag, hargument, hvalue]
    | file hpath hfresh hread hcontent =>
      rw [replacement_of_path hpath, hfresh, hread, if_neg Bool.false_ne_true, ok_bind]
      exact hcontent

theorem apply_seq_eq_ok_iff {items : List Yaml} {w : Yaml} : s.apply (.seq items) = .ok w ↔
    ∃ items', w = .seq items' ∧ List.Forall₂ (fun x y => s.apply x = .ok y) items items' := by
  rw [apply_eq, replaceTagged, map_eq_ok_iff]
  simp only [replaceInItems_eq_mapM, mapM_eq_ok_iff, apply_eq]
  exact exists_congr fun items' => by rw [and_comm, eq_comm]

theorem apply_map_eq_ok_iff {pairs : List (Yaml × Yaml)} {w : Yaml} :
    s.apply (.map pairs) = .ok w ↔ ∃ pairs', w = .map pairs' ∧
      List.Forall₂ (fun p p' => p'.1 = p.1 ∧ s.apply p.2 = .ok p'.2) pairs pairs' := by
  rw [apply_eq, replaceTagged, map_eq_ok_iff]
  simp only [replaceInPairs_eq_ok_iff, apply_eq]
  exact exists_congr fun pairs' => by rw [and_comm, eq_comm]

theorem apply_tagged : s.apply (.tagged tag x) = s.replacement apply tag x := by
  rw [apply_eq, replaceTagged]

end Means

/-- The tag is none of the three, and none of them with further exclamation marks before it, which
do not count. -/
def Unsupported (tag : String) : Prop :=
  tag ∉ ["env_var", "secret", "include"] ∧ tag.toList.head? ≠ some '!'

theorem tagName_of_head? {tag : String} (h : tag.toList.head? ≠ some '!') : tagName tag = tag := by
  rw [tagName]
  cases htag : tag.toList with
  | nil => rw [← String.ofList_toList (s := tag), htag, List.dropWhile_nil]
  | cons c cs =>
    have hc : c ≠ '!' := by
      rintro rfl
      exact h (by rw [htag, List.head?_cons])
    rw [List.dropWhile_cons_of_neg (by simpa using hc), ← htag, String.ofList_toList]

theorem exists_parse_of_refused {s : Substitution} {tag : String} {x : Yaml}
    (h : Unsupported tag ∨ argument? x = none) :
    ∃ m, s.apply (.tagged tag x) = .error (.parse m) := by
  rw [apply_tagged, replacement_eq]
  cases hargument : argument? x with
  | none => exact ⟨_, rfl⟩
  | some argument =>
    rcases h with ⟨hnot, hmark⟩ | hnone
    · simp only [List.mem_cons, List.not_mem_nil, or_false, not_or] at hnot
      simp [tagName_of_head? hmark, hnot]
    · rw [hargument] at hnone
      cases hnone

theorem apply_eq_ok_iff {s : Substitution} {v w : Yaml} :
    s.apply v = .ok w ↔ Replaced s.Means v w := by
  rw [apply_eq, replaceTagged_eq_ok_iff]
  simp only [replacement_eq_ok_iff]

theorem apply_eq_self {s : Substitution} {v : Yaml} (h : v.tags = []) : s.apply v = .ok v :=
  apply_eq_ok_iff.mpr (Yaml.replaced_self h)

/-- A document without tags is left as it is, and every other has its tagged values replaced by what
they mean and nothing else. It fails with the first of its tags that does, wherever the fault lies. A
tag of another name or on a value with parts fails. -/
theorem apply_replaces_tagged (s : Substitution) (v : Yaml) :
    (v.tags = [] → s.apply v = .ok v) ∧
    (∀ w, s.apply v = .ok w ↔ Replaced s.Means v w) ∧
    (∀ e, s.apply v = .error e ↔ ∃ before t after, v.tags = before ++ t :: after ∧
      (∀ b ∈ before, ∃ y, s.Means b.1 b.2 y) ∧ s.apply (.tagged t.1 t.2) = .error e) ∧
    (∀ e, s.apply v = .error e ↔ ∃ s' t, FailsAt s v s' t e) ∧
    (∀ tag x, Unsupported tag ∨ argument? x = none →
      (∃ m, s.apply (.tagged tag x) = .error (.parse m)) ∧
      ∀ path, v.at? path = some (.tagged tag x) → ∃ e, s.apply v = .error e) := by
  refine ⟨fun htags => apply_eq_ok_iff.mpr (Yaml.replaced_self htags), fun w => apply_eq_ok_iff,
    fun e => ?_, fun e => apply_eq_error_iff,
    fun tag x hrefused => ⟨exists_parse_of_refused hrefused, fun path hpath => ?_⟩⟩
  · simp only [apply_tagged, ← replacement_eq_ok_iff]
    rw [apply_eq, replaceTagged_eq_error_iff]
  · cases h : s.apply v with
    | error e => exact ⟨e, rfl⟩
    | ok w =>
      obtain ⟨m, hm⟩ := exists_parse_of_refused (s := s) hrefused
      obtain ⟨y, _, hmeans, _⟩ := apply_eq_ok_iff.mp h path _ hpath
      rw [apply_tagged, replacement_eq_ok_iff.mpr (hmeans tag x rfl)] at hm
      cases hm

def variablesDocument (tag : String) : Yaml := .map [
  (.str "id", .tagged "env_var" (.str "ID 999")),
  (.str "names", .seq [.int 1, .tagged "env_var" (.str "NAMES amy  and bob")]),
  (.str "last", .tagged tag (.str "ID"))]

def emptyVariable : Substitution := { environment := .ofList [("ID", "")] }

theorem variables_are_replaced :
    (∃ w, emptyVariable.apply (variablesDocument "env_var") = .ok w ∧
      w.at? [0] = some (.str "") ∧ w.at? [1, 1] = some (.str "amy and bob") ∧
      emptyVariable.Means "env_var" (.str "NAMES amy  and bob") (.str "amy and bob")) ∧
    ∃ e, emptyVariable.apply (variablesDocument "vault") = .error e := by
  obtain ⟨n, hn⟩ := exists_apply_eq
  have hw : emptyVariable.apply (variablesDocument "env_var") = .ok (.map [
      (.str "id", .str ""), (.str "names", .seq [.int 1, .str "amy and bob"]),
      (.str "last", .str "")]) := by
    rw [hn]
    rfl
  refine ⟨⟨_, hw, rfl, rfl, ?_⟩, ?_⟩
  · obtain ⟨y, hy, hmeans, _⟩ := ((apply_replaces_tagged _ _).2.1 _).mp hw [1, 1] _ rfl
    cases hy
    exact hmeans _ _ rfl
  · have hvault : Unsupported "vault" := ⟨by decide, by decide⟩
    exact ((apply_replaces_tagged _ _).2.2.2.2 "vault" _ (.inl hvault)).2 [2] rfl

end Substitution

namespace Yaml

mutual

/-- Whether two values are equal, where there are no floats in them. -/
def agrees : Yaml → Yaml → Bool
  | .null, .null => true
  | .bool a, .bool b => a == b
  | .int a, .int b => a == b
  | .str a, .str b => a == b
  | .seq as, .seq bs => itemsAgree as bs
  | .map as, .map bs => pairsAgree as bs
  | .tagged t a, .tagged u b => t == u && agrees a b
  | _, _ => false

def itemsAgree : List Yaml → List Yaml → Bool
  | [], [] => true
  | a :: as, b :: bs => agrees a b && itemsAgree as bs
  | _, _ => false

def pairsAgree : List (Yaml × Yaml) → List (Yaml × Yaml) → Bool
  | [], [] => true
  | (k, a) :: as, (l, b) :: bs => agrees k l && agrees a b && pairsAgree as bs
  | _, _ => false

end

mutual

theorem eq_of_agrees {v w : Yaml} (h : v.agrees w = true) : v = w := by
  unfold agrees at h
  split at h
  case h_1 => rfl
  case h_2 | h_3 | h_4 => rw [eq_of_beq h]
  case h_5 => rw [eq_of_itemsAgree h]
  case h_6 => rw [eq_of_pairsAgree h]
  case h_7 =>
    rw [Bool.and_eq_true] at h
    rw [eq_of_beq h.1, eq_of_agrees h.2]
  case h_8 => cases h

theorem eq_of_itemsAgree {as bs : List Yaml} (h : itemsAgree as bs = true) : as = bs := by
  unfold itemsAgree at h
  split at h
  · rfl
  · rw [Bool.and_eq_true] at h
    rw [eq_of_agrees h.1, eq_of_itemsAgree h.2]
  · cases h

theorem eq_of_pairsAgree {as bs : List (Yaml × Yaml)} (h : pairsAgree as bs = true) :
    as = bs := by
  unfold pairsAgree at h
  split at h
  · rfl
  · simp only [Bool.and_eq_true] at h
    rw [eq_of_agrees h.1.1, eq_of_agrees h.1.2, eq_of_pairsAgree h.2]
  · cases h

end

theorem eq_ok_of_agrees {ε : Type} {r : Except ε Yaml} {v : Yaml}
    (h : r.toOption.any v.agrees = true) : r = .ok v := by
  cases r with
  | error e => cases h
  | ok w => rw [eq_of_agrees h]

end Yaml

namespace Substitution

/-- A tag with further exclamation marks is none of the three and is replaced as if it were. -/
theorem marked_tag_is_replaced :
    ∃ s v w, Yaml.parse "v: !<!!!env_var> A\n" = .ok v ∧
      v.at? [0] = some (.tagged "!!env_var" (.str "A")) ∧
      "!!env_var" ∉ ["env_var", "secret", "include"] ∧ apply s v = .ok w ∧
      w.at? [0] = some (.str "1") := by
  have hparse : Yaml.parse "v: !<!!!env_var> A\n" =
      .ok (.map [(.str "v", .tagged "!!env_var" (.str "A"))]) :=
    Yaml.eq_ok_of_agrees (by decide +kernel)
  obtain ⟨n, hn⟩ := exists_apply_eq
  exact ⟨{ environment := .ofList [("A", "1")] }, _, _, hparse, rfl, by decide, hn _ _, rfl⟩

end Substitution

end OrgStacks
