import Mathlib.Logic.Relation
import OrgStacks.Proofs.FileTree
import OrgStacks.Proofs.Tags

/-!
# Files that include one another

Paths are compared as they are spelled when a file is about to be included. No path is read twice on
the way to another and there are only so many paths, so replacing tags comes to an end. Where files
include one another in a circle it ends in a failure, but not always at a path that was met before:
paths may also grow until one is too long to be read. Without a circle no file is refused because it
includes itself.

`FailsAt` says which tag a document fails at: the first one in the order of the document, looked for
in a file where that file is included.
-/

namespace OrgStacks
set_option autoImplicit false

namespace Substitution
open FilePath (readableBound)
open Relation (ReflTransGen TransGen)

variable {s : Substitution} {v : Yaml} {path : FilePath} {content : Yaml}

def Asks (base : Option FilePath) (v : Yaml) (path : FilePath) : Prop :=
  ∃ t ∈ v.tags, includedPath? base t.1 t.2 = some path

/-- The document asks for a file that is not being included and has a content. -/
structure Opens (s : Substitution) (v : Yaml) (path : FilePath) (content : Yaml) : Prop where
  asked : Asks s.base v path
  fresh : s.including.any path.same = false
  read : readYaml s.files path = .ok content

/-- The substitution applies to the value: to the document, or to the content of a file that is
included on the way. -/
inductive Inside (s : Substitution) (v : Yaml) : Substitution → Yaml → Prop
  | document : Inside s v s v
  | file {s₁ : Substitution} {x content : Yaml} {path : FilePath} (hx : Inside s v s₁ x)
      (hopens : s₁.Opens x path content) : Inside s v (s₁.inFile path) content

/-- Included files have the secrets and the variables of the document. -/
theorem Inside.same {s₁ : Substitution} {x : Yaml} (h : Inside s v s₁ x) :
    s₁.files = s.files ∧ s₁.secrets = s.secrets ∧ s₁.environment = s.environment := by
  induction h with
  | document => exact ⟨rfl, rfl, rfl⟩
  | file _ _ ih => exact ih

theorem exists_text_of_readYaml {files : FileSource} (h : readYaml files path = .ok content) :
    ∃ text, files.read path = .ok text ∧ Yaml.parse text = .ok content := by
  unfold readYaml at h
  split at h
  · cases h
  · next text htext =>
    split at h
    · cases h
    · next value hvalue =>
      cases h
      exact ⟨text, htext, hvalue⟩

theorem Opens.isTooLong_eq_false (h : s.Opens v path content) : path.isTooLong = false := by
  obtain ⟨text, htext, _⟩ := exists_text_of_readYaml h.read
  unfold FileSource.read at htext
  split_ifs at htext with hlong
  exact Bool.eq_false_iff.mpr hlong

theorem readYaml_of_isTooLong {files : FileSource} (h : path.isTooLong = true) :
    readYaml files path =
      .error (.io ("failed to read " ++ path.text ++ ": File name too long (os error 36)")) := by
  simp only [readYaml, FileSource.read, h, if_true, String.append_assoc]
  rfl

theorem same_self (p : FilePath) : p.same p = true := decide_eq_true rfl

/-- Induction into included files, with a bound on how deep they may lie. -/
theorem inclusion_induction {P : Nat → Substitution → Yaml → Prop}
    (step : ∀ n s v, (∀ path content, s.Opens v path content → P n (s.inFile path) content) →
      P (n + 1) s v) (s : Substitution) (v : Yaml) : P readableBound s v := by
  -- The paths that were added on the way differ from one another and from those before.
  suffices hadded : ∀ n (old added : List FilePath) s v, s.including = old ++ added →
      added.Nodup → (∀ p ∈ added, p.isTooLong = false) → readableBound ≤ added.length + n →
      P n s v from
    hadded readableBound s.including [] s v (List.append_nil _).symm List.nodup_nil (by simp)
      (Nat.le_add_left _ _)
  intro n
  induction n with
  | zero =>
    intro old added s v _ hnodup hshort hbound
    exact absurd hbound (Nat.not_le.mpr (FilePath.length_lt_readableBound hnodup hshort))
  | succ n ih =>
    intro old added s v hincluding hnodup hshort hbound
    apply step
    intro path content hopens
    apply ih old (added ++ [path])
    · rw [inFile, hincluding, List.append_assoc]
    · rw [List.nodup_append_comm, List.singleton_append, List.nodup_cons]
      refine ⟨fun hpath => ?_, hnodup⟩
      have hsame : s.including.any path.same = true :=
        List.any_eq_true.mpr ⟨path, by simp [hincluding, hpath], same_self path⟩
      rw [hopens.fresh] at hsame
      cases hsame
    · intro p hp
      rcases List.mem_append.mp hp with hp | hp
      · exact hshort p hp
      · obtain rfl := List.mem_singleton.mp hp
        exact hopens.isTooLong_eq_false
    · rw [List.length_append, List.length_singleton]
      omega

@[elab_as_elim]
theorem opensInduction {P : Substitution → Yaml → Prop} (s : Substitution) (v : Yaml)
    (step : ∀ s v, (∀ path content, s.Opens v path content → P (s.inFile path) content) → P s v) :
    P s v :=
  inclusion_induction (P := fun _ s v => P s v) (fun _ => step) s v

theorem replaceTagged_replacement_congr {next next' : Substitution → Yaml → Except Problem Yaml}
    (h : ∀ path content, s.Opens v path content →
      next (s.inFile path) content = next' (s.inFile path) content) :
    replaceTagged (s.replacement next) v = replaceTagged (s.replacement next') v := by
  apply replaceTagged_congr
  intro t ht
  cases hpath : includedPath? s.base t.1 t.2 with
  | none => exact replacement_of_no_path hpath
  | some path =>
    rw [replacement_of_path hpath, replacement_of_path hpath]
    split
    · rfl
    · next hfresh =>
      cases hread : readYaml s.files path with
      | error e => rfl
      | ok content => exact h path content ⟨⟨t, ht, hpath⟩, Bool.eq_false_iff.mpr hfresh, hread⟩

theorem applyWithin_eq_apply {n : Nat} (hn : readableBound ≤ n) (s : Substitution) (v : Yaml) :
    applyWithin n s v = s.apply v := by
  suffices hsettled : ∀ m, readableBound ≤ m →
      applyWithin m s v = applyWithin readableBound s v from
    hsettled n hn
  refine inclusion_induction (P := fun n s v => ∀ m, n ≤ m → applyWithin m s v = applyWithin n s v)
    ?_ s v
  intro n s v ih m hm
  obtain ⟨m, rfl⟩ := Nat.exists_eq_add_of_le' hm
  exact replaceTagged_replacement_congr fun path content hopens =>
    ih path content hopens _ (Nat.le_add_left n m)

/-- Every file that is included has its own tags replaced, however deep it lies. -/
theorem apply_eq (s : Substitution) (v : Yaml) :
    s.apply v = replaceTagged (s.replacement apply) v := by
  have hdeeper := applyWithin_eq_apply (Nat.le_succ readableBound) s v
  have happly : apply = applyWithin readableBound := by
    funext s v
    rw [apply]
  generalize readableBound = n at hdeeper happly
  rw [← hdeeper, happly]
  rfl

/-- What is wrong with a tag apart from the tags of the file that it asks for. -/
def fault? (s : Substitution) (t : String × Yaml) : Option Problem :=
  failure? (s.replacement (fun _ _ => .ok .null) t.1 t.2)

/-- The document fails at a tag of it, or of a file that is included, since all before are replaced
and this one is at fault. The tag is given with the substitution that it stands in. -/
inductive FailsAt : Substitution → Yaml → Substitution → String × Yaml → Problem → Prop
  | here {s : Substitution} {v : Yaml} {before after : List (String × Yaml)} {t : String × Yaml}
      {e : Problem} (htags : v.tags = before ++ t :: after)
      (hbefore : ∀ b ∈ before, ∃ y, s.replacement apply b.1 b.2 = .ok y)
      (hfault : s.fault? t = some e) : FailsAt s v s t e
  | inside {s s' : Substitution} {v content : Yaml} {before after : List (String × Yaml)}
      {t t' : String × Yaml} {path : FilePath} {e : Problem}
      (htags : v.tags = before ++ t :: after)
      (hbefore : ∀ b ∈ before, ∃ y, s.replacement apply b.1 b.2 = .ok y)
      (hpath : includedPath? s.base t.1 t.2 = some path)
      (hopens : s.Opens v path content) (hcontent : FailsAt (s.inFile path) content s' t' e) :
      FailsAt s v s' t' e

/-- A tag that is not at fault and is not replaced asks for a file whose tags are not. -/
theorem replacement_eq_error_iff {t : String × Yaml} {e : Problem} :
    s.replacement apply t.1 t.2 = .error e ↔ s.fault? t = some e ∨
      ∃ path content, includedPath? s.base t.1 t.2 = some path ∧
        s.including.any path.same = false ∧ readYaml s.files path = .ok content ∧
        apply (s.inFile path) content = .error e := by
  rw [fault?, failure?_eq_some_iff]
  cases hpath : includedPath? s.base t.1 t.2 with
  | none =>
    have hsame : s.replacement apply t.1 t.2 = s.replacement (fun _ _ => .ok .null) t.1 t.2 :=
      replacement_of_no_path hpath
    simp [hsame]
  | some path =>
    rw [replacement_of_path hpath, replacement_of_path hpath]
    cases hself : s.including.any path.same with
    | true => simp [hself, -List.any_eq_false]
    | false =>
      cases hread : readYaml s.files path <;>
        simp [hself, hread, bind, Except.bind, -List.any_eq_false]

theorem exists_failsAt (s : Substitution) (v : Yaml) :
    ∀ e, s.apply v = .error e → ∃ s' t, FailsAt s v s' t e := by
  refine inclusion_induction
    (P := fun _ s v => ∀ e, s.apply v = .error e → ∃ s' t, FailsAt s v s' t e) ?_ s v
  intro _ s v ih e h
  rw [apply_eq] at h
  obtain ⟨before, t, after, htags, hbefore, ht⟩ := replaceTagged_eq_error_iff.mp h
  rcases replacement_eq_error_iff.mp ht with
    hfault | ⟨path, content, hpath, hfresh, hread, hcontent⟩
  · exact ⟨s, t, .here htags hbefore hfault⟩
  · have hopens : s.Opens v path content := ⟨⟨t, by simp [htags], hpath⟩, hfresh, hread⟩
    obtain ⟨s', t', hfails⟩ := ih path content hopens e hcontent
    exact ⟨s', t', .inside htags hbefore hpath hopens hfails⟩

theorem FailsAt.apply_eq_error {s' : Substitution} {t : String × Yaml} {e : Problem}
    (h : FailsAt s v s' t e) : s.apply v = .error e := by
  induction h with
  | here htags hbefore hfault =>
    rw [apply_eq]
    exact replaceTagged_eq_error_iff.mpr
      ⟨_, _, _, htags, hbefore, replacement_eq_error_iff.mpr (.inl hfault)⟩
  | inside htags hbefore hpath hopens _ ih =>
    rw [apply_eq]
    exact replaceTagged_eq_error_iff.mpr ⟨_, _, _, htags, hbefore, replacement_eq_error_iff.mpr
      (.inr ⟨_, _, hpath, hopens.fresh, hopens.read, ih⟩)⟩

theorem apply_eq_error_iff {e : Problem} :
    s.apply v = .error e ↔ ∃ s' t, FailsAt s v s' t e := by
  constructor
  · exact exists_failsAt s v e
  · rintro ⟨s', t, h⟩
    exact h.apply_eq_error

theorem fault?_of_path {t : String × Yaml} {e : Problem} (h : s.fault? t = some e)
    (hpath : includedPath? s.base t.1 t.2 = some path) :
    s.including.any path.same = true ∧ e = .parse (path.text ++ " includes itself") ∨
      readYaml s.files path = .error e := by
  rw [fault?, failure?_eq_some_iff, replacement_of_path hpath] at h
  split at h
  · next hself =>
    cases h
    exact .inl ⟨hself, rfl⟩
  · right
    rcases bind_eq_error_iff.mp h with h | ⟨_, _, h⟩
    · exact h
    · cases h

theorem FailsAt.fault {s' : Substitution} {t : String × Yaml} {e : Problem}
    (h : FailsAt s v s' t e) : s'.fault? t = some e := by
  induction h with
  | here _ _ hfault => exact hfault
  | inside _ _ _ _ _ ih => exact ih

def Leads (files : FileSource) (P Q : List FilePath.Component) : Prop :=
  ∃ p content q, p.resolved = P ∧ readYaml files p = .ok content ∧ Asks p.parent content q ∧
    q.resolved = Q

/-- The document leads to a file that leads back to itself, however it is spelled. -/
def Cyclic (s : Substitution) (v : Yaml) : Prop :=
  ∃ path, Asks s.base v path ∧ ∃ P, ReflTransGen (Leads s.files) path.resolved P ∧
    TransGen (Leads s.files) P P

theorem not_transGen_self {α : Type} {r : α → α → Prop} {a : α} (ha : Acc (fun b a => r a b) a) :
    ¬ TransGen r a a := by
  induction ha with
  | intro a _ ih =>
    intro h
    obtain ⟨b, hab, hba⟩ := TransGen.head'_iff.mp h
    exact ih b hab (TransGen.tail' hba hab)

theorem acc_of_reflTransGen {α : Type} {r : α → α → Prop} {a b : α}
    (ha : Acc (fun b a => r a b) a) (hab : ReflTransGen r a b) : Acc (fun b a => r a b) b := by
  induction hab with
  | refl => exact ha
  | tail _ hbc ih => exact ih.inv hbc

section Lexical
variable (hfiles : s.files.Lexical)
include hfiles

theorem content_eq_of_resolved {p : FilePath} {content' : Yaml} (hsame : p.resolved = path.resolved)
    (hp : readYaml s.files p = .ok content') (hpath : readYaml s.files path = .ok content) :
    content' = content := by
  obtain ⟨text, htext, hparse⟩ := exists_text_of_readYaml hp
  obtain ⟨text', htext', hparse'⟩ := exists_text_of_readYaml hpath
  obtain rfl := hfiles.same_text hsame htext htext'
  exact Except.ok.inj (hparse.symm.trans hparse')

theorem exists_asks_of_resolved {p : FilePath} {content' : Yaml}
    (hsame : p.resolved = path.resolved) (hp : readYaml s.files p = .ok content')
    (hpath : readYaml s.files path = .ok content) {q : FilePath} (hq : Asks p.parent content' q) :
    ∃ q', Asks path.parent content q' ∧ q'.resolved = q.resolved := by
  obtain rfl := content_eq_of_resolved hfiles hsame hp hpath
  obtain ⟨text, htext, _⟩ := exists_text_of_readYaml hp
  obtain ⟨text', htext', _⟩ := exists_text_of_readYaml hpath
  obtain ⟨d, name, hd, hdp⟩ := FilePath.exists_directory (hfiles.named htext)
  obtain ⟨d', name', hd', hdpath⟩ := FilePath.exists_directory (hfiles.named htext')
  have hdirs : d.resolved = d'.resolved := by
    rw [hdp, hdpath] at hsame
    exact (List.append_inj' hsame rfl).1
  obtain ⟨t, ht, hasked⟩ := hq
  obtain ⟨hname, dir, hdir, file, hfile, rfl⟩ := includedPath?_eq_some_iff.mp hasked
  obtain rfl : d = dir := Option.some.inj (hd.symm.trans hdir)
  refine ⟨d'.join file, ⟨t, ht, ?_⟩, FilePath.resolved_join hdirs.symm file⟩
  exact includedPath?_eq_some_iff.mpr ⟨hname, d', hd', file, hfile, rfl⟩

end Lexical

/-- Nothing leads on for ever from the files of a document whose tags are replaced. -/
theorem acc_of_apply (s : Substitution) (v : Yaml) : s.files.Lexical → ∀ w, s.apply v = .ok w →
    ∀ path, Asks s.base v path → Acc (fun Q P => Leads s.files P Q) path.resolved := by
  refine inclusion_induction (P := fun _ s v => s.files.Lexical → ∀ w, s.apply v = .ok w →
    ∀ path, Asks s.base v path → Acc (fun Q P => Leads s.files P Q) path.resolved) ?_ s v
  intro _ s v ih hfiles w h path hasks
  have hpath := hasks
  obtain ⟨t, ht, hasked⟩ := hasks
  rw [apply_eq] at h
  obtain ⟨y, hy⟩ := exists_replacement_of_mem_tags h ht
  rw [replacement_of_path hasked] at hy
  split at hy
  · cases hy
  next hfresh =>
  obtain ⟨content, hread, hcontent⟩ := bind_eq_ok_iff.mp hy
  have hnext := ih path content ⟨hpath, Bool.eq_false_iff.mpr hfresh, hread⟩ hfiles y hcontent
  constructor
  -- The place may be led on from under another spelling, which asks for the same places.
  rintro Q ⟨p, content', q, hsame, hp, hq, rfl⟩
  obtain ⟨q', hq', hplace⟩ := exists_asks_of_resolved hfiles hsame hp hread hq
  exact hplace ▸ hnext q' hq'

theorem exists_error_of_cyclic (hfiles : s.files.Lexical) (hcyclic : s.Cyclic v) :
    ∃ e, s.apply v = .error e := by
  cases h : s.apply v with
  | error e => exact ⟨e, rfl⟩
  | ok w =>
    obtain ⟨path, hasks, P, hreach, hcircle⟩ := hcyclic
    have hacc := acc_of_apply s v hfiles w h path hasks
    exact absurd hcircle (not_transGen_self (acc_of_reflTransGen hacc hreach))

/-- How a document that is come to stands to the first one: each file that is being included leads
to whatever it asks for. -/
structure Reached (first : Substitution) (document : Yaml) (s : Substitution) (v : Yaml) :
    Prop where
  files : s.files = first.files
  asked : ∀ path, Asks s.base v path → ∃ p, Asks first.base document p ∧
    ReflTransGen (Leads first.files) p.resolved path.resolved
  chain : ∀ p ∈ s.including, ∀ path, Asks s.base v path →
    TransGen (Leads first.files) p.resolved path.resolved

namespace Reached
variable {first : Substitution} {document : Yaml}

theorem start (h : first.including = []) : Reached first document first document := by
  constructor
  · rfl
  · exact fun path hpath => ⟨path, hpath, .refl⟩
  · simp [h]

theorem inside (h : Reached first document s v) (hopens : s.Opens v path content) :
    Reached first document (s.inFile path) content := by
  have hleads : ∀ q, Asks (s.inFile path).base content q →
      Leads first.files path.resolved q.resolved := by
    intro q hq
    exact ⟨path, content, q, rfl, h.files ▸ hopens.read, hq, rfl⟩
  constructor
  · exact h.files
  · intro q hq
    obtain ⟨p, hp, hreach⟩ := h.asked path hopens.asked
    exact ⟨p, hp, hreach.tail (hleads q hq)⟩
  · intro p hp q hq
    rcases List.mem_append.mp hp with hp | hp
    · exact (h.chain p hp path hopens.asked).tail (hleads q hq)
    · obtain rfl := List.mem_singleton.mp hp
      exact .single (hleads q hq)

theorem exists_of_failsAt {s' : Substitution} {t : String × Yaml} {e : Problem}
    (h : Reached first document s v) (hfails : FailsAt s v s' t e) :
    ∃ v', Reached first document s' v' ∧ t ∈ v'.tags := by
  induction hfails with
  | @here s v before after t e htags => exact ⟨v, h, by simp [htags]⟩
  | inside _ _ _ hopens _ ih => exact ih (h.inside hopens)

/-- A file that is being included when it is asked for lies on a circle. -/
theorem cyclic (h : Reached first document s v) (hasks : Asks s.base v path)
    (hself : s.including.any path.same = true) : first.Cyclic document := by
  obtain ⟨p, hp, hsame⟩ := List.any_eq_true.mp hself
  have hplace := FilePath.resolved_eq_of_same hsame
  obtain ⟨q, hq, hreach⟩ := h.asked path hasks
  refine ⟨q, hq, path.resolved, hreach, ?_⟩
  have hchain := h.chain p hp path hasks
  rwa [← hplace] at hchain

end Reached

/-- Replacing tags comes to an end: it goes into files without a bound on how deep they lie, and
fails at the first tag that is at fault. When files include one another in a circle it fails; a tag
it fails at that asks for a file does so because the path was met before, or cannot be read. Without
a circle no path that it fails at was met before. -/
theorem apply_finds_circles (hfirst : s.including = []) (hfiles : s.files.Lexical) :
    s.apply v = replaceTagged (s.replacement apply) v ∧
      (∀ e, s.apply v = .error e ↔ ∃ s' t, FailsAt s v s' t e) ∧
      (s.Cyclic v → ∃ s' t e, s.apply v = .error e ∧ FailsAt s v s' t e ∧
        ∀ path, includedPath? s'.base t.1 t.2 = some path →
          s'.including.any path.same = true ∧ e = .parse (path.text ++ " includes itself") ∨
            readYaml s'.files path = .error e) ∧
      (¬ s.Cyclic v → ∀ s' t e, FailsAt s v s' t e →
        ∀ path, includedPath? s'.base t.1 t.2 = some path →
          s'.including.any path.same = false) := by
  refine ⟨apply_eq s v, fun e => apply_eq_error_iff, ?_, ?_⟩
  · intro hcyclic
    obtain ⟨e, he⟩ := exists_error_of_cyclic hfiles hcyclic
    obtain ⟨s', t, hfails⟩ := apply_eq_error_iff.mp he
    exact ⟨s', t, e, he, hfails, fun path hpath => fault?_of_path hfails.fault hpath⟩
  · intro hacyclic s' t e hfails path hpath
    obtain ⟨v', hreached, ht⟩ := (Reached.start hfirst).exists_of_failsAt hfails
    apply Bool.eq_false_iff.mpr
    intro hself
    exact hacyclic (hreached.cyclic ⟨t, ht, hpath⟩ hself)

def sharedDir : String := "configuration-of-every-account-and-everything-it-shares"

def sharedFile : String := "../" ++ sharedDir ++ "/a.yaml"

def sharedText : String := "!include " ++ sharedFile ++ "\n"

/-- The only file includes itself by way of the directory above. Each turn of the circle adds one
step up and the directory's name to the path, until the path is too long to be read. -/
def sharedTree : FileTree := FileTree.add {} [sharedDir, "a.yaml"] sharedText

def sharedDocument : Yaml := .tagged "include" (.str sharedFile)

def taggedText? : Yaml → Option (String × String)
  | .tagged tag (.str text) => some (tag, text)
  | _ => none

theorem eq_of_taggedText? {tag text : String} (h : taggedText? v = some (tag, text)) :
    v = .tagged tag (.str text) := by
  unfold taggedText? at h
  split at h <;> simp_all

theorem parse_sharedText : Yaml.parse sharedText = .ok sharedDocument := by
  have h : (Yaml.parse sharedText).toOption.bind taggedText? = some ("include", sharedFile) := by
    decide +kernel
  obtain ⟨v, hparse, hv⟩ := exists_of_toOption_bind h
  rw [hparse, eq_of_taggedText? hv, sharedDocument]

def spelledDir : Nat → String
  | 0 => sharedDir
  | n + 1 => spelledDir n ++ "/../" ++ sharedDir

def spelledFile (n : Nat) : FilePath := ⟨spelledDir n ++ "/" ++ "a.yaml"⟩

def afterTurns (n : Nat) : Substitution :=
  { files := sharedTree.source
    base := some ⟨spelledDir n⟩
    including := (List.range n).map fun i => spelledFile (i + 1) }

theorem sharedDir_reverse : ∃ cs, sharedDir.toList.reverse = 's' :: cs := ⟨_, rfl⟩

theorem spelledDir_reverse (n : Nat) : ∃ cs, (spelledDir n).toList.reverse = 's' :: cs := by
  obtain ⟨cs, hcs⟩ := sharedDir_reverse
  cases n with
  | zero => exact ⟨cs, hcs⟩
  | succ n =>
    rw [spelledDir, String.toList_append, List.reverse_append, hcs]
    exact ⟨_, rfl⟩

theorem parent_spelledFile (n : Nat) : (spelledFile n).parent = some ⟨spelledDir n⟩ := by
  obtain ⟨cs, hcs⟩ := spelledDir_reverse n
  have hname : "a.yaml".toList.reverse = 'l' :: "a.yam".toList.reverse := rfl
  exact FilePath.parent_append hcs (by decide) hname (by decide) (by decide)

theorem includedPath?_shared (n : Nat) :
    includedPath? (some ⟨spelledDir n⟩) "include" (.str sharedFile) =
      some (spelledFile (n + 1)) := by
  obtain ⟨cs, hcs⟩ := spelledDir_reverse n
  refine includedPath?_eq_some_iff.mpr ⟨rfl, _, rfl, sharedFile, rfl, ?_⟩
  rw [FilePath.join_of_name hcs (by decide) (by decide)]
  simp only [spelledFile, spelledDir, sharedFile, String.append_assoc]
  rfl

theorem parts_spelledDir (n : Nat) : (FilePath.mk (spelledDir (n + 1))).parts =
    (FilePath.mk (spelledDir n)).parts ++ ["..", sharedDir] := by
  have htext : spelledDir (n + 1) = spelledDir n ++ "/" ++ ("../" ++ sharedDir) := by
    simp only [spelledDir, String.append_assoc]
    rfl
  rw [htext, FilePath.parts_append]
  rfl

theorem parts_spelledFile (n : Nat) :
    (spelledFile n).parts = (FilePath.mk (spelledDir n)).parts ++ ["a.yaml"] := by
  rw [spelledFile, FilePath.parts_append]
  rfl

/-- The directory is come to under all its spellings, whatever is done with links. -/
theorem walkTo_spelledDir {jump : FileTree.Names → List String → Except FileError FileTree.Names}
    (n : Nat) (rest : List String) :
    sharedTree.walkTo true jump [] ((FilePath.mk (spelledDir n)).parts ++ rest) =
      sharedTree.walkTo true jump [sharedDir] rest := by
  induction n generalizing rest with
  | zero => rfl
  | succ n ih =>
    rw [parts_spelledDir, List.append_assoc, ih]
    rfl

theorem head?_spelledDir (n : Nat) : (spelledDir n).toList.head? = some 'c' := by
  induction n with
  | zero => rfl
  | succ n ih =>
    rw [spelledDir, String.toList_append, String.toList_append, List.append_assoc,
      List.head?_append, ih]
    rfl

theorem nul_not_mem_spelledDir (n : Nat) : '\x00' ∉ (spelledDir n).toList := by
  have hdir : '\x00' ∉ sharedDir.toList := by decide
  induction n with
  | zero => exact hdir
  | succ n ih =>
    have hup : '\x00' ∉ "/../".toList := by decide
    simp only [spelledDir, String.toList_append, List.mem_append, not_or]
    exact ⟨⟨ih, hup⟩, hdir⟩

theorem isAbsolute_spelledFile (n : Nat) : (spelledFile n).isAbsolute = false := by
  simp [FilePath.isAbsolute, spelledFile, head?_spelledDir]

theorem locate_spelledFile {n : Nat} (h : (spelledFile n).isTooLong = false) :
    sharedTree.locate (spelledFile n) = .ok [sharedDir, "a.yaml"] := by
  have hname : '\x00' ∉ "/".toList ++ "a.yaml".toList := by decide
  have hnul : '\x00' ∉ (spelledFile n).text.toList := by
    rw [spelledFile, String.toList_append, String.toList_append, List.append_assoc,
      List.mem_append, not_or]
    exact ⟨nul_not_mem_spelledDir n, hname⟩
  have hempty : (spelledFile n).text ≠ "" := by
    intro hempty
    have hhead : (spelledFile n).text.toList.head? = some 'c' := by
      simp [spelledFile, head?_spelledDir]
    simp [hempty] at hhead
  have hparts : sharedTree.parts (spelledFile n) = (spelledFile n).parts := by
    rw [FileTree.parts, FilePath.join]
    simp [sharedTree, FileTree.add, FileTree.addDirectories]
  have hrefusal : FileTree.refusal? (spelledFile n) = none := by
    simp [FileTree.refusal?, hnul, hempty, h]
  rw [FileTree.locate, hrefusal, hparts, parts_spelledFile]
  exact walkTo_spelledDir n ["a.yaml"]

theorem read_spelledFile {n : Nat} (h : (spelledFile n).isTooLong = false) :
    readYaml sharedTree.source (spelledFile n) = .ok sharedDocument := by
  have hread : sharedTree.source.read (spelledFile n) = .ok sharedText := by
    simp only [FileSource.read, h, FileTree.source, FileTree.readFile, locate_spelledFile h]
    rfl
  simp only [readYaml, hread, parse_sharedText]

theorem count_up_spelledFile (n : Nat) : (spelledFile n).components.count .up = n := by
  have hdir : ((FilePath.mk (spelledDir n)).parts.filterMap FilePath.component?).count .up = n := by
    induction n with
    | zero => rfl
    | succ n ih =>
      rw [parts_spelledDir, List.filterMap_append, List.count_append, ih]
      rfl
  rw [FilePath.components_eq, List.count_append, FilePath.names_eq, parts_spelledFile,
    List.filterMap_append, List.count_append, hdir,
    List.count_eq_zero_of_not_mem (FilePath.up_not_mem_start _), Nat.zero_add]
  rfl

theorem not_same_spelledFile {i n : Nat} (h : i < n) :
    (spelledFile n).same (spelledFile i) = false := by
  rw [FilePath.same, decide_eq_false_iff_not]
  intro hsame
  have hcount := count_up_spelledFile n
  rw [hsame, count_up_spelledFile] at hcount
  omega

theorem inFile_afterTurns (n : Nat) :
    (afterTurns n).inFile (spelledFile (n + 1)) = afterTurns (n + 1) := by
  simp [inFile, afterTurns, parent_spelledFile, List.range_succ]

theorem isTooLong_spelledFile {n : Nat} (h : FilePath.maxBytes ≤ n) :
    (spelledFile n).isTooLong = true := by
  have hdir : n ≤ (spelledDir n).utf8ByteSize := by
    clear h
    induction n with
    | zero => exact Nat.zero_le _
    | succ n ih =>
      have hup : "/../".utf8ByteSize = 4 := rfl
      rw [spelledDir, String.utf8ByteSize_append, String.utf8ByteSize_append, hup]
      omega
  rw [FilePath.isTooLong, decide_eq_true_eq, spelledFile, String.utf8ByteSize_append,
    String.utf8ByteSize_append]
  omega

/-- The file has not been met under the next spelling, so it is read once more. -/
theorem apply_afterTurns (n : Nat) : (afterTurns n).apply sharedDocument =
    readYaml sharedTree.source (spelledFile (n + 1)) >>= apply (afterTurns (n + 1)) := by
  have hfresh : (afterTurns n).including.any (spelledFile (n + 1)).same = false := by
    rw [List.any_eq_false]
    intro p hp
    obtain ⟨i, hi, rfl⟩ := List.mem_map.mp hp
    rw [not_same_spelledFile (Nat.succ_lt_succ (List.mem_range.mp hi))]
    exact Bool.false_ne_true
  rw [apply_eq, sharedDocument, replaceTagged, replacement_of_path (includedPath?_shared n), hfresh,
    inFile_afterTurns]
  rfl

theorem exists_apply_afterTurns (n : Nat) :
    ∃ p : FilePath, (afterTurns n).apply sharedDocument =
      .error (.io ("failed to read " ++ p.text ++ ": File name too long (os error 36)")) := by
  suffices hturns : ∀ k n, FilePath.maxBytes ≤ n + k → ∃ p : FilePath,
      (afterTurns n).apply sharedDocument =
        .error (.io ("failed to read " ++ p.text ++ ": File name too long (os error 36)")) from
    hturns FilePath.maxBytes n (Nat.le_add_left _ _)
  intro k
  induction k with
  | zero =>
    intro n hn
    have hlong := isTooLong_spelledFile (n := n + 1) (Nat.le_succ_of_le hn)
    refine ⟨spelledFile (n + 1), ?_⟩
    rw [apply_afterTurns, readYaml_of_isTooLong hlong, error_bind]
  | succ k ih =>
    intro n hn
    rw [apply_afterTurns]
    cases hlong : (spelledFile (n + 1)).isTooLong with
    | true =>
      refine ⟨spelledFile (n + 1), ?_⟩
      rw [readYaml_of_isTooLong hlong, error_bind]
    | false =>
      rw [read_spelledFile hlong, ok_bind]
      exact ih (n + 1) (by omega)

theorem resolved_spelledFile (n : Nat) :
    (spelledFile n).resolved = [.name sharedDir, .name "a.yaml"] := by
  have hdir : ((FilePath.mk (spelledDir n)).parts.filterMap FilePath.component?).foldl
      FilePath.follow [] = [.name sharedDir] := by
    induction n with
    | zero => rfl
    | succ n ih =>
      rw [parts_spelledDir, List.filterMap_append, List.foldl_append, ih]
      rfl
  rw [FilePath.resolved_eq, isAbsolute_spelledFile, FilePath.names_eq, parts_spelledFile,
    List.filterMap_append, List.foldl_append]
  simp only [Bool.false_eq_true, if_false, hdir]
  rfl

theorem cyclic_afterTurns : (afterTurns 0).Cyclic sharedDocument := by
  have hasks : ∀ n, Asks (some ⟨spelledDir n⟩) sharedDocument (spelledFile (n + 1)) :=
    fun n => ⟨("include", .str sharedFile), List.mem_cons_self, includedPath?_shared n⟩
  have hread : readYaml sharedTree.source (spelledFile 1) = .ok sharedDocument :=
    read_spelledFile (by decide +kernel)
  refine ⟨spelledFile 1, hasks 0, _, .refl, .single ?_⟩
  refine ⟨spelledFile 1, sharedDocument, spelledFile 2, rfl, hread,
    parent_spelledFile 1 ▸ hasks 1, ?_⟩
  rw [resolved_spelledFile, resolved_spelledFile]

theorem afterTurns_fails : ∃ s' t e, (afterTurns 0).apply sharedDocument = .error e ∧
    FailsAt (afterTurns 0) sharedDocument s' t e ∧ ∀ path, includedPath? s'.base t.1 t.2 = some path →
      s'.including.any path.same = true ∧ e = .parse (path.text ++ " includes itself") ∨
        readYaml s'.files path = .error e :=
  (apply_finds_circles (s := afterTurns 0) rfl (sharedTree.source_lexical rfl)).2.2.1 cyclic_afterTurns

/-- No path is met twice on this circle, so the file is not found to include itself. -/
theorem circle_ends_in_long_path : (afterTurns 0).including = [] ∧
    (afterTurns 0).Cyclic sharedDocument ∧
    ∃ p : FilePath, (afterTurns 0).apply sharedDocument =
      .error (.io ("failed to read " ++ p.text ++ ": File name too long (os error 36)")) :=
  ⟨rfl, cyclic_afterTurns, exists_apply_afterTurns 0⟩

end Substitution

end OrgStacks
