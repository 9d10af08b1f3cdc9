import OrgStacks.Proofs.RecordFields
import OrgStacks.Proofs.Replacement

/-!
# Misspelt members are refused

A record stands somewhere in a document, or in a file that is included where it stands. `Edits` is
one change at such a place. A member that no field of the record is named by, a field that is given
a second time and a required one that is taken away make a document that was accepted fail, but the
variables of a policy file may change.
-/

namespace OrgStacks
set_option autoImplicit false

namespace Config

namespace RecordKind

/-- A change of a record that breaks its rule, with the values that are added. -/
inductive Spoils (k : RecordKind) : List Yaml → List (Yaml × Yaml) → List (Yaml × Yaml) → Prop
  | unknown {left right : List (Yaml × Yaml)} {key x : Yaml}
    (hkey : ∀ f ∈ k.fields, ¬ f.Named key) :
    Spoils k [x] (left ++ right) (left ++ (key, x) :: right)
  | twice {left right : List (Yaml × Yaml)} {key x : Yaml} {f : Field} (hf : f ∈ k.fields)
    (hgiven : ∃ pair ∈ left ++ right, f.Named pair.1) (hkey : f.Named key) :
    Spoils k [x] (left ++ right) (left ++ (key, x) :: right)
  | missing {left right : List (Yaml × Yaml)} {key x : Yaml} {f : Field} (hf : f ∈ k.fields)
    (hrequired : f.required = true) (hkey : f.Named key) :
    Spoils k [] (left ++ (key, x) :: right) (left ++ right)

variable {k : RecordKind} {added : List Yaml} {pairs pairs' : List (Yaml × Yaml)}

theorem Spoils.not_strict (h : k.Spoils added pairs pairs')
    (hstrict : Strict k.labels (pairs.map (·.1))) : ¬ Strict k.labels (pairs'.map (·.1)) := by
  intro hstrict'
  cases h with
  | @unknown left right key x hkey =>
    obtain ⟨l, hl, hnamed⟩ := hstrict'.known key (by simp)
    obtain ⟨f, hf, rfl⟩ := List.mem_map.mp hl
    exact hkey f hf hnamed
  | @twice left right key x f hf hgiven hkey =>
    obtain ⟨pair, hpair, hnamed⟩ := hgiven
    rw [List.map_append, List.map_cons] at hstrict'
    refine hstrict'.not_named (List.mem_map_of_mem hf) hkey ?_ hnamed
    rw [← List.map_append]
    exact List.mem_map_of_mem hpair
  | @missing left right key x f hf hrequired hkey =>
    obtain ⟨key', hkey', hnamed⟩ := hstrict'.required _ (List.mem_map_of_mem hf) hrequired
    rw [List.map_append, List.map_cons] at hstrict
    rw [List.map_append] at hkey'
    exact hstrict.not_named (List.mem_map_of_mem hf) hkey hkey' hnamed

theorem Spoils.tags (h : k.Spoils added pairs pairs') :
    ∃ before after, (Yaml.map pairs').tags = before ++ added.flatMap Yaml.tags ++ after ∧
      ∀ t ∈ before ++ after, t ∈ (Yaml.map pairs).tags := by
  cases h with
  | @unknown left right | @twice left right | @missing left right =>
    refine ⟨(Yaml.map left).tags, (Yaml.map right).tags, by simp [Yaml.tags_map], ?_⟩
    intro t ht
    simp only [Yaml.tags_map, List.flatMap_append, List.flatMap_cons, List.mem_append] at ht ⊢
    tauto

end RecordKind

/-- One change of the document, in a record or in what is in its place. -/
inductive Edits (Change : Shape → Yaml → Yaml → Prop) : Shape → Yaml → Yaml → Prop
  | here {sh : Shape} {x x' : Yaml} (h : Change sh x x') : Edits Change sh x x'
  | member {k : RecordKind} {left right : List (Yaml × Yaml)} {key x x' : Yaml} {f : Field}
    (hf : f ∈ k.fields) (hkey : f.Named key) (h : Edits Change f.shape x x') :
    Edits Change (.record k) (.map (left ++ (key, x) :: right))
      (.map (left ++ (key, x') :: right))
  | entry {k : RecordKind} {left right : List (Yaml × Yaml)} {key x x' : Yaml}
    (h : Edits Change (.record k) x x') :
    Edits Change (.named k) (.map (left ++ (key, x) :: right)) (.map (left ++ (key, x') :: right))

inductive Spoilt (added : List Yaml) : Shape → Yaml → Yaml → Prop
  | record {k : RecordKind} {pairs pairs' : List (Yaml × Yaml)} (h : k.Spoils added pairs pairs') :
    Spoilt added (.record k) (.map pairs) (.map pairs')

end Config

open Config (Shape RecordKind Field Edits Spoilt Strict)
open Relation (ReflTransGen TransGen)

namespace Substitution

/-- A part of the document, or of a file that is included in its place, with what it stands for. -/
inductive Stands : Substitution → Shape → Yaml → Substitution → Shape → Yaml → Prop
  | self {s : Substitution} {sh : Shape} {v : Yaml} : Stands s sh v s sh v
  | member {s s₁ : Substitution} {k : RecordKind} {sh₁ : Shape} {pairs : List (Yaml × Yaml)}
    {key x y : Yaml} {f : Field} (hx : (key, x) ∈ pairs) (hf : f ∈ k.fields) (hkey : f.Named key)
    (h : Stands s f.shape x s₁ sh₁ y) : Stands s (.record k) (.map pairs) s₁ sh₁ y
  | entry {s s₁ : Substitution} {k : RecordKind} {sh₁ : Shape} {pairs : List (Yaml × Yaml)}
    {key x y : Yaml} (hx : (key, x) ∈ pairs) (h : Stands s (.record k) x s₁ sh₁ y) :
    Stands s (.named k) (.map pairs) s₁ sh₁ y
  | part {s s₁ : Substitution} {sh sh₁ : Shape} {v x y : Yaml} (hsh : sh = .plain ∨ sh = .vars)
    (hx : x ∈ v.children) (h : Stands s sh x s₁ sh₁ y) : Stands s sh v s₁ sh₁ y
  | file {s s₁ : Substitution} {sh sh₁ : Shape} {tag : String} {a content y : Yaml}
    {path : FilePath} (hpath : includedPath? s.base tag a = some path)
    (hread : readYaml s.files path = .ok content)
    (h : Stands (s.inFile path) sh content s₁ sh₁ y) : Stands s sh (.tagged tag a) s₁ sh₁ y

theorem exists_apply_child {s : Substitution} {v w x : Yaml} (h : s.apply v = .ok w)
    (hx : x ∈ v.children) : ∃ y ∈ w.children, s.apply x = .ok y := by
  rw [apply_eq, replaceTagged_eq_ok_iff_of_untagged (Yaml.isTagged_eq_false_of_child hx)] at h
  simp only [apply_eq]
  exact exists_right_of_forall₂ h.2 hx

theorem tags_subset_of_child {v x : Yaml} (hx : x ∈ v.children) : x.tags ⊆ v.tags := by
  intro t ht
  rw [Yaml.tags_eq_flatMap (Yaml.isTagged_eq_false_of_child hx), List.mem_flatMap]
  exact ⟨x, hx, ht⟩

theorem apply_tagged_of_opens {s : Substitution} {tag : String} {v a content : Yaml}
    {path : FilePath} (hpath : includedPath? s.base tag a = some path)
    (hopens : s.Opens v path content) :
    s.apply (.tagged tag a) = (s.inFile path).apply content := by
  rw [apply_tagged, replacement_of_path hpath, hopens.fresh, hopens.read,
    if_neg Bool.false_ne_true, ok_bind]

theorem apply_tagged_of_path {s : Substitution} {tag : String} {a w : Yaml} {path : FilePath}
    (hpath : includedPath? s.base tag a = some path) (h : s.apply (.tagged tag a) = .ok w) :
    ∃ content, s.Opens (.tagged tag a) path content ∧ (s.inFile path).apply content = .ok w := by
  rw [apply_tagged, replacement_of_path hpath] at h
  split at h
  · cases h
  · next hfresh =>
    obtain ⟨content, hread, hcontent⟩ := bind_eq_ok_iff.mp h
    exact ⟨content, ⟨⟨_, List.mem_singleton_self _, hpath⟩, Bool.eq_false_iff.mpr hfresh, hread⟩,
      hcontent⟩

namespace Stands

variable {s s₁ s₂ : Substitution} {sh sh₁ sh₂ : Shape} {v w x y : Yaml}

theorem trans (h : Stands s sh v s₁ sh₁ x) (h' : Stands s₁ sh₁ x s₂ sh₂ y) :
    Stands s sh v s₂ sh₂ y := by
  induction h with
  | self => exact h'
  | member hx hf hkey _ ih => exact .member hx hf hkey (ih h')
  | entry hx _ ih => exact .entry hx (ih h')
  | part hsh hx _ ih => exact .part hsh hx (ih h')
  | file hpath hread _ ih => exact .file hpath hread (ih h')

theorem files_eq (h : Stands s sh v s₁ sh₁ x) : s₁.files = s.files := by
  induction h with
  | self => rfl
  | member _ _ _ _ ih | entry _ _ ih | part _ _ _ ih | file _ _ _ ih => exact ih

/-- Where a document can be read, so can all its parts. -/
theorem reads (h : Stands s sh v s₁ sh₁ x) (hw : s.apply v = .ok w) (hreads : sh.Reads w) :
    ∃ y, s₁.apply x = .ok y ∧ sh₁.Reads y := by
  induction h generalizing w with
  | self => exact ⟨w, hw, hreads⟩
  | member hx hf hkey _ ih =>
    obtain ⟨pairs', rfl, hpairs⟩ := apply_map_eq_ok_iff.mp hw
    obtain ⟨⟨key', x'⟩, hx', rfl, hvalue⟩ := exists_right_of_forall₂ hpairs hx
    exact ih hvalue (Shape.reads_member hreads hx' hf hkey)
  | entry hx _ ih =>
    obtain ⟨pairs', rfl, hpairs⟩ := apply_map_eq_ok_iff.mp hw
    obtain ⟨⟨key', x'⟩, hx', rfl, hvalue⟩ := exists_right_of_forall₂ hpairs hx
    exact ih hvalue (Shape.reads_entry hreads hx')
  | part hsh hx _ ih =>
    obtain ⟨y, hy, hvalue⟩ := exists_apply_child hw hx
    refine ih hvalue ?_
    rcases hsh with rfl | rfl
    · trivial
    · exact Shape.reads_vars_child hreads hy
  | file hpath hread _ ih =>
    obtain ⟨content, hopens, hcontent⟩ := apply_tagged_of_path hpath hw
    obtain rfl := Except.ok.inj (hread.symm.trans hopens.read)
    exact ih hcontent hreads

theorem strict {k : RecordKind} {pairs : List (Yaml × Yaml)}
    (h : Stands s sh v s₁ (.record k) (.map pairs)) (hw : s.apply v = .ok w)
    (hreads : sh.Reads w) : Strict k.labels (pairs.map (·.1)) := by
  obtain ⟨y, hy, hread⟩ := h.reads hw hreads
  obtain ⟨pairs', rfl, hpairs⟩ := apply_map_eq_ok_iff.mp hy
  rw [← (Yaml.forall₂_pairs_iff (R := fun x y => s₁.apply x = .ok y).mp hpairs).1]
  exact (Shape.reads_record_iff.mp hread).1

/-- What a part asks for is led to by what the document asks for. -/
theorem asks {path : FilePath} (h : Stands s sh v s₁ sh₁ x) (hasks : Asks s₁.base x path) :
    ∃ q, Asks s.base v q ∧ ReflTransGen (Leads s.files) q.resolved path.resolved := by
  induction h with
  | self => exact ⟨path, hasks, .refl⟩
  | member hx _ _ _ ih | entry hx _ ih =>
    obtain ⟨q, ⟨t, ht, hq⟩, hleads⟩ := ih hasks
    exact ⟨q, ⟨t, tags_subset_of_child (List.mem_map_of_mem hx) ht, hq⟩, hleads⟩
  | part _ hx _ ih =>
    obtain ⟨q, ⟨t, ht, hq⟩, hleads⟩ := ih hasks
    exact ⟨q, ⟨t, tags_subset_of_child hx ht, hq⟩, hleads⟩
  | @file s s₁ sh sh₁ tag a content y file hpath hread _ ih =>
    obtain ⟨q, hq, hleads⟩ := ih hasks
    exact ⟨file, ⟨_, List.mem_singleton_self _, hpath⟩,
      hleads.head ⟨file, content, q, rfl, hread, hq, rfl⟩⟩

end Stands

theorem exists_spot {Change : Shape → Yaml → Yaml → Prop} {sh : Shape} {v v' : Yaml}
    (h : Edits Change sh v v') : ∃ sh₁ x x', Change sh₁ x x' ∧ (∀ s, Stands s sh v s sh₁ x) ∧
      (∀ s, Stands s sh v' s sh₁ x') ∧ ∃ before after,
        v.tags = before ++ x.tags ++ after ∧ v'.tags = before ++ x'.tags ++ after := by
  induction h with
  | @here sh x x' h => exact ⟨sh, x, x', h, fun _ => .self, fun _ => .self, [], [], by simp⟩
  | @member k left right key x x' f hf hkey _ ih =>
    obtain ⟨sh₁, y, y', hchange, hstands, hstands', before, after, htags, htags'⟩ := ih
    have hmem : ∀ z, (key, z) ∈ left ++ (key, z) :: right :=
      fun z => List.mem_append_right left List.mem_cons_self
    refine ⟨sh₁, y, y', hchange, fun s => .member (hmem x) hf hkey (hstands s),
      fun s => .member (hmem x') hf hkey (hstands' s),
      (Yaml.map left).tags ++ before, after ++ (Yaml.map right).tags, ?_⟩
    simp [Yaml.tags_map, htags, htags']
  | @entry k left right key x x' _ ih =>
    obtain ⟨sh₁, y, y', hchange, hstands, hstands', before, after, htags, htags'⟩ := ih
    have hmem : ∀ z, (key, z) ∈ left ++ (key, z) :: right :=
      fun z => List.mem_append_right left List.mem_cons_self
    refine ⟨sh₁, y, y', hchange, fun s => .entry (hmem x) (hstands s),
      fun s => .entry (hmem x') (hstands' s),
      (Yaml.map left).tags ++ before, after ++ (Yaml.map right).tags, ?_⟩
    simp [Yaml.tags_map, htags, htags']

theorem exists_spoilt {added : List Yaml} {sh : Shape} {v v' : Yaml}
    (h : Edits (Spoilt added) sh v v') : ∃ k pairs pairs', k.Spoils added pairs pairs' ∧
      (∀ s, Stands s sh v s (.record k) (.map pairs)) ∧
      (∀ s, Stands s sh v' s (.record k) (.map pairs')) ∧
      ∃ before after, v'.tags = before ++ added.flatMap Yaml.tags ++ after ∧
        ∀ t ∈ before ++ after, t ∈ v.tags := by
  obtain ⟨_, _, _, ⟨hspoils⟩, hstands, hstands', before, after, htags, htags'⟩ := exists_spot h
  obtain ⟨before', after', hadded, hold⟩ := hspoils.tags
  refine ⟨_, _, _, hspoils, hstands, hstands', before ++ before', after' ++ after, ?_, ?_⟩
  · simp [htags', hadded]
  · intro t ht
    have hmem := hold t
    rw [htags]
    simp only [List.mem_append] at ht hmem ⊢
    tauto

theorem exists_of_replaceTagged_eq_error {f : String → Yaml → Except Problem Yaml} {v : Yaml}
    {before after : List (String × Yaml)} {added : List Yaml} {e : Problem}
    (htags : v.tags = before ++ added.flatMap Yaml.tags ++ after)
    (h : replaceTagged f v = .error e) :
    (∃ t ∈ before ++ after, f t.1 t.2 = .error e) ∨
      ∃ x ∈ added, replaceTagged f x = .error e := by
  have hadded := findSome?_flatMap (l := added) fun x _ => failure?_replaceTagged (f := f) x
  rw [← failure?_eq_some_iff, failure?_replaceTagged, htags, List.findSome?_append,
    List.findSome?_append, ← hadded, Option.or_eq_some_iff, Option.or_eq_some_iff] at h
  simp only [List.mem_append, ← failure?_eq_some_iff]
  rcases h with (hbefore | ⟨_, hvalue⟩) | ⟨_, hafter⟩
  · obtain ⟨t, ht, hfails⟩ := List.exists_of_findSome?_eq_some hbefore
    exact .inl ⟨t, .inl ht, hfails⟩
  · obtain ⟨x, hx, hfails⟩ := List.exists_of_findSome?_eq_some hvalue
    exact .inr ⟨x, hx, hfails⟩
  · obtain ⟨t, ht, hfails⟩ := List.exists_of_findSome?_eq_some hafter
    exact .inl ⟨t, .inr ht, hfails⟩

section Reading
variable {s : Substitution} {v w : Yaml}

theorem ofYaml_of_error {e : Problem} (h : s.apply v = .error e) :
    Config.ofYaml s v = .error e := by
  rw [Config.ofYaml, h, error_bind]

theorem exists_read_of_ofYaml {c : Config} (h : Config.ofYaml s v = .ok c) :
    ∃ w, s.apply v = .ok w ∧ Config.read w = .ok c ∧ c.accounts.isEmpty = false := by
  obtain ⟨w, hw, h⟩ := bind_eq_ok_iff.mp h
  split at h
  · cases h
  · next c' hread =>
    split at h
    · cases h
    · next hsome =>
      cases h
      exact ⟨w, hw, hread, Bool.eq_false_iff.mpr hsome⟩

theorem ofYaml_of_not_reads (hw : s.apply v = .ok w)
    (hreads : ¬ (Shape.record .document).Reads w) :
    ∃ m, Config.ofYaml s v = .error (.parse m) := by
  cases hread : Config.read w with
  | error reason => exact ⟨reason, by simp only [Config.ofYaml, hw, ok_bind, hread]⟩
  | ok c => exact absurd (Shape.reads_of_read (k := .document) hread) hreads

theorem refused_of_stands {s₁ : Substitution} {k : RecordKind} {pairs : List (Yaml × Yaml)}
    (hw : s.apply v = .ok w) (h : Stands s (.record .document) v s₁ (.record k) (.map pairs))
    (hstrict : ¬ Strict k.labels (pairs.map (·.1))) :
    ∃ m, Config.ofYaml s v = .error (.parse m) :=
  ofYaml_of_not_reads hw fun hreads => hstrict (h.strict hw hreads)

theorem refused_of_spoilt {c : Config} (h : Config.ofYaml s v = .ok c) {added : List Yaml}
    {v' : Yaml} (hedit : Edits (Spoilt added) (.record .document) v v') :
    (∃ m, Config.ofYaml s v' = .error (.parse m)) ∨
      ∃ x ∈ added, ∃ e, s.apply x = .error e ∧ Config.ofYaml s v' = .error e := by
  obtain ⟨w, hw, hread, _⟩ := exists_read_of_ofYaml h
  obtain ⟨k, pairs, pairs', hspoils, hstands, hstands', before, after, htags, hold⟩ :=
    exists_spoilt hedit
  cases hw' : s.apply v' with
  | ok w' =>
    have hstrict := (hstands s).strict hw (Shape.reads_of_read (k := .document) hread)
    exact .inl (refused_of_stands hw' (hstands' s) (hspoils.not_strict hstrict))
  | error e =>
    right
    rw [apply_eq] at hw hw'
    rcases exists_of_replaceTagged_eq_error htags hw' with ⟨t, ht, hfails⟩ | ⟨x, hx, hfails⟩
    · obtain ⟨y, hy⟩ := exists_replacement_of_mem_tags hw (hold t ht)
      rw [hfails] at hy
      cases hy
    · rw [← apply_eq] at hw' hfails
      exact ⟨x, hx, e, hfails, ofYaml_of_error hw'⟩

end Reading

end Substitution

def FileSource.rewrite (source : FileSource) (place : List FilePath.Component) (text : String) :
    FileSource where
  lookUp p := (source.lookUp p).map fun old => if p.resolved = place then text else old

theorem FileSource.read_rewrite (source : FileSource) (place : List FilePath.Component)
    (text : String) (p : FilePath) : (source.rewrite place text).read p =
      (source.read p).map fun old => if p.resolved = place then text else old := by
  unfold FileSource.read
  split <;> rfl

namespace Substitution

def rewrite (s : Substitution) (place : List FilePath.Component) (text : String) : Substitution :=
  { s with files := s.files.rewrite place text }

section Rewriting
variable {files : FileSource} {s : Substitution} {v : Yaml} {path : FilePath}
variable {place : List FilePath.Component} {text : String} {content content' : Yaml}

theorem readYaml_rewrite_of_ne (h : path.resolved ≠ place) :
    readYaml (files.rewrite place text) path = readYaml files path := by
  rw [readYaml, readYaml, FileSource.read_rewrite]
  simp only [h, if_false]
  cases files.read path <;> rfl

theorem readYaml_rewrite (h : readYaml files path = .ok content)
    (htext : Yaml.parse text = .ok content') :
    readYaml (files.rewrite path.resolved text) path = .ok content' := by
  obtain ⟨old, hold, _⟩ := exists_text_of_readYaml h
  rw [readYaml, FileSource.read_rewrite, hold]
  simp only [Except.map, if_true, htext]

/-- What asks for a file stands where it stood when the file is changed, since no file that leads to
it is changed. -/
theorem Stands.rewrite {s₁ : Substitution} {sh sh₁ : Shape} {w x : Yaml}
    (h : Stands s sh v s₁ sh₁ x) (hfiles : s.files.Lexical) (hw : s.apply v = .ok w)
    (hasks : Asks s₁.base x path) (text : String) :
    Stands (s.rewrite path.resolved text) sh v (s₁.rewrite path.resolved text) sh₁ x := by
  induction h generalizing w with
  | self => exact .self
  | member hx hf hkey _ ih =>
    obtain ⟨pairs', rfl, hpairs⟩ := apply_map_eq_ok_iff.mp hw
    obtain ⟨_, _, _, hvalue⟩ := exists_right_of_forall₂ hpairs hx
    exact .member hx hf hkey (ih hfiles hvalue hasks)
  | entry hx _ ih =>
    obtain ⟨pairs', rfl, hpairs⟩ := apply_map_eq_ok_iff.mp hw
    obtain ⟨_, _, _, hvalue⟩ := exists_right_of_forall₂ hpairs hx
    exact .entry hx (ih hfiles hvalue hasks)
  | part hsh hx _ ih =>
    obtain ⟨_, _, hvalue⟩ := exists_apply_child hw hx
    exact .part hsh hx (ih hfiles hvalue hasks)
  | @file s s₁ sh sh₁ tag a content y file hpath hread hstands ih =>
    obtain ⟨content', hopens, hcontent⟩ := apply_tagged_of_path hpath hw
    obtain rfl := Except.ok.inj (hread.symm.trans hopens.read)
    refine .file hpath ?_ (ih hfiles hcontent hasks)
    refine (readYaml_rewrite_of_ne fun hsame => ?_).trans hread
    -- The file would lead to itself, and then tags would not have been replaced.
    obtain ⟨q, hq, hleads⟩ := hstands.asks hasks
    have hcircle : TransGen (Leads s.files) file.resolved path.resolved :=
      .head' ⟨file, content, q, rfl, hread, hq, rfl⟩ hleads
    rw [← hsame] at hcircle
    exact not_transGen_self (acc_of_apply s _ hfiles _ hw file hopens.asked) hcircle

end Rewriting

theorem Inside.trans {s s₁ s₂ : Substitution} {v x y : Yaml} (h : Inside s v s₁ x)
    (h' : Inside s₁ x s₂ y) : Inside s v s₂ y := by
  induction h' with
  | document => exact h
  | file _ hopens ih => exact .file ih hopens

section Changed
variable {P : List FilePath.Component} {text : String} {content content' : Yaml}
variable {added : List Yaml} {before after : List (String × Yaml)}
variable (htext : Yaml.parse text = .ok content')
variable (htags : content'.tags = before ++ added.flatMap Yaml.tags ++ after)
variable (hold : ∀ t ∈ before ++ after, t ∈ content.tags)

theorem apply_tagged_rewrite {s : Substitution} {tag : String} {a : Yaml}
    (hpath : includedPath? s.base tag a = none) :
    (s.rewrite P text).apply (.tagged tag a) = s.apply (.tagged tag a) := by
  rw [apply_tagged, apply_tagged]
  exact replacement_congr_of_no_path rfl rfl rfl hpath

include htext in
theorem exists_opens_rewrite {s : Substitution} {v' : Yaml} {tag : String} {a c : Yaml}
    {path : FilePath} (hplace : ∀ p c, p.resolved = P → readYaml s.files p = .ok c → c = content)
    (ht : (tag, a) ∈ v'.tags) (hpath : includedPath? s.base tag a = some path)
    (hopens : s.Opens (.tagged tag a) path c) :
    ∃ c', (s.rewrite P text).Opens v' path c' ∧
      (s.rewrite P text).apply (.tagged tag a) = ((s.inFile path).rewrite P text).apply c' ∧
      (c' = c ∨ path.resolved = P ∧ c = content ∧ c' = content') := by
  obtain ⟨c', hread, hchange⟩ : ∃ c', readYaml (s.files.rewrite P text) path = .ok c' ∧
      (c' = c ∨ path.resolved = P ∧ c = content ∧ c' = content') := by
    by_cases hsame : path.resolved = P
    · subst hsame
      exact ⟨content', readYaml_rewrite hopens.read htext,
        .inr ⟨rfl, hplace path c rfl hopens.read, rfl⟩⟩
    · exact ⟨c, (readYaml_rewrite_of_ne hsame).trans hopens.read, .inl rfl⟩
  have hopens' : (s.rewrite P text).Opens v' path c' := ⟨⟨_, ht, hpath⟩, hopens.fresh, hread⟩
  exact ⟨c', hopens', apply_tagged_of_opens (s := s.rewrite P text) hpath hopens', hchange⟩

include htags hold in
/-- A failing document fails with a tag that it had before or with a value that is added. -/
theorem exists_failing {f : String → Yaml → Except Problem Yaml} {v v' : Yaml} {e : Problem}
    (hchange : v' = v ∨ v = content ∧ v' = content') (h : replaceTagged f v' = .error e) :
    (∃ t ∈ v'.tags, t ∈ v.tags ∧ f t.1 t.2 = .error e) ∨
      v' = content' ∧ ∃ x ∈ added, replaceTagged f x = .error e := by
  rcases hchange with rfl | ⟨rfl, rfl⟩
  · obtain ⟨_, t, _, htags', _, ht⟩ := replaceTagged_eq_error_iff.mp h
    exact .inl ⟨t, by simp [htags'], by simp [htags'], ht⟩
  · rcases exists_of_replaceTagged_eq_error htags h with ⟨t, ht, hfails⟩ | hadded
    · refine .inl ⟨t, ?_, hold t ht, hfails⟩
      rw [htags]
      simp only [List.mem_append] at ht ⊢
      tauto
    · exact .inr ⟨rfl, hadded⟩

include htext htags hold in
/-- When a file is changed so that its tags are those of some values and others that it had, a
document whose tags were replaced fails only with one of the values. -/
theorem exists_of_rewrite_error {s s' : Substitution} {v v' w : Yaml} {e : Problem}
    (hs : s' = s.rewrite P text)
    (hplace : ∀ p c, p.resolved = P → readYaml s.files p = .ok c → c = content)
    (hchange : v' = v ∨ v = content ∧ v' = content') (hw : s.apply v = .ok w)
    (he : s'.apply v' = .error e) :
    ∃ s₁, Inside s' v' s₁ content' ∧ ∃ x ∈ added, s₁.apply x = .error e := by
  induction s', v' using opensInduction generalizing s v w e with
  | step s' v' ih =>
    subst hs
    rw [apply_eq] at he hw
    rcases exists_failing htags hold hchange he with ⟨t, ht', ht, hfails⟩ | ⟨rfl, x, hx, hfails⟩
    · obtain ⟨y, hy⟩ := exists_replacement_of_mem_tags hw ht
      rw [← apply_tagged] at hy hfails
      cases hpath : includedPath? s.base t.1 t.2 with
      | none =>
        rw [apply_tagged_rewrite hpath, hy] at hfails
        cases hfails
      | some path =>
        -- The file that the tag asks for fails as it is now, but did not before.
        obtain ⟨c, hopens, hc⟩ := apply_tagged_of_path hpath hy
        obtain ⟨c', hopens', happly, hchange'⟩ :=
          exists_opens_rewrite htext hplace ht' hpath hopens
        obtain ⟨s₁, hinside, hadded⟩ := ih path c' hopens' (s := s.inFile path) rfl hplace
          (hchange'.imp_right And.right) hc (happly ▸ hfails)
        exact ⟨s₁, (Inside.document.file hopens').trans hinside, hadded⟩
    · rw [← apply_eq] at hfails
      exact ⟨_, .document, x, hx, hfails⟩

end Changed

theorem refused_of_spoilt_file {s s₁ : Substitution} {v : Yaml} {c : Config}
    (h : Config.ofYaml s v = .ok c) (hfiles : s.files.Lexical) {sh : Shape} {tag : String}
    {a : Yaml} {path : FilePath} {content content' : Yaml} {text : String} {added : List Yaml}
    (hstands : Stands s (.record .document) v s₁ sh (.tagged tag a))
    (hpath : includedPath? s₁.base tag a = some path)
    (hread : readYaml s.files path = .ok content) (htext : Yaml.parse text = .ok content')
    (hedit : Edits (Spoilt added) sh content content') :
    (∃ m, Config.ofYaml (s.rewrite path.resolved text) v = .error (.parse m)) ∨
      ∃ s₂, Inside (s.rewrite path.resolved text) v s₂ content' ∧ ∃ x ∈ added, ∃ e,
        s₂.apply x = .error e ∧ Config.ofYaml (s.rewrite path.resolved text) v = .error e := by
  obtain ⟨w, hw, hreads, _⟩ := exists_read_of_ofYaml h
  obtain ⟨k, pairs, pairs', hspoils, hrecord, hrecord', before, after, htags, hold⟩ :=
    exists_spoilt hedit
  have hread₁ : readYaml s₁.files path = .ok content := hstands.files_eq ▸ hread
  cases hw' : (s.rewrite path.resolved text).apply v with
  | ok w' =>
    have hstrict := (hstands.trans (.file hpath hread₁ (hrecord _))).strict hw
      (Shape.reads_of_read (k := .document) hreads)
    have hasks : Asks s₁.base (.tagged tag a) path := ⟨_, List.mem_singleton_self _, hpath⟩
    have hstands' := (hstands.rewrite hfiles hw hasks text).trans
      (.file hpath (readYaml_rewrite hread₁ htext) (hrecord' _))
    exact .inl (refused_of_stands hw' hstands' (hspoils.not_strict hstrict))
  | error e =>
    right
    obtain ⟨s₂, hinside, x, hx, hfails⟩ := exists_of_rewrite_error htext htags hold rfl
      (fun p c hp hc => content_eq_of_resolved hfiles hp hc hread) (.inl rfl) hw hw'
    exact ⟨s₂, hinside, x, hx, e, hfails, ofYaml_of_error hw'⟩

end Substitution

end OrgStacks
