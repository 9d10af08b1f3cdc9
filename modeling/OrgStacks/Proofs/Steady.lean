import Mathlib.Data.List.TakeDrop
import Mathlib.Data.List.TakeWhile
import Mathlib.Tactic.ByContra
import OrgStacks.Pattern.Reader

/-!
# Reading on past the end of a text

What a reader makes of a text does not change when a closing parenthesis follows the text, except
where the reader goes past the parenthesis. It does so where it stopped in the middle of something
at the end of the text, and where a comment runs on.
-/

namespace OrgStacks.Pattern
set_option autoImplicit false

variable {α β : Type} {cs v : List Char} {C : Prop}

/-- A comment may begin in a text only if nothing stands behind the parenthesis; `C` says whether
comments are possible at all. -/
def Fits (C : Prop) (cs v : List Char) : Prop := C → '#' ∈ cs → v = []

/-- What was read from a text, and what was read from it with a parenthesis and `v` behind it: the
same up to the same place, or the second is past the parenthesis. -/
def Agree (C : Prop) (cs v : List Char) (short long : Option (α × List Char)) : Prop :=
  (∃ x rest, rest <:+ cs ∧ short = some (x, rest) ∧ long = some (x, rest ++ ')' :: v)) ∨
  ((short = none ∨ (C ∧ '#' ∈ cs)) ∧ ∀ x rest, long = some (x, rest) → rest <:+ v)

/-- What is left is the end of what was there. -/
def Shrinks (R : List Char → Option (α × List Char)) : Prop :=
  ∀ cs x rest, R cs = some (x, rest) → rest <:+ cs

structure Steady (C : Prop) (R : List Char → Option (α × List Char)) : Prop where
  shrinks : Shrinks R
  agree : ∀ cs v, Fits C cs v → Agree C cs v (R cs) (R (cs ++ ')' :: v))

theorem Fits.suffix {rest : List Char} (h : Fits C cs v) (hrest : rest <:+ cs) : Fits C rest v :=
  fun hC hmem => h hC (hrest.subset hmem)

namespace Agree
variable {short long : Option (α × List Char)}

theorem of_suffix {rest : List Char} (h : Agree C rest v short long) (hrest : rest <:+ cs) :
    Agree C cs v short long := by
  rcases h with ⟨x, rest', hrest', hshort, hlong⟩ | ⟨hshort, hlong⟩
  · exact .inl ⟨x, rest', hrest'.trans hrest, hshort, hlong⟩
  · exact .inr ⟨hshort.imp_right fun h => ⟨h.1, hrest.subset h.2⟩, hlong⟩

theorem failed : Agree C cs v (none : Option (α × List Char)) none :=
  .inr ⟨.inl rfl, by intro x rest h; cases h⟩

theorem kept (x : α) : Agree C cs v (some (x, cs)) (some (x, cs ++ ')' :: v)) :=
  .inl ⟨x, cs, List.suffix_rfl, rfl, rfl⟩

theorem bind {k k' : α → List Char → Option (β × List Char)} (h : Agree C cs v short long)
    (hk' : ∀ x, Shrinks (k' x))
    (hk : ∀ x rest, rest <:+ cs → Agree C rest v (k x rest) (k' x (rest ++ ')' :: v))) :
    Agree C cs v (short.bind fun (x, rest) => k x rest) (long.bind fun (x, rest) => k' x rest) := by
  rcases h with ⟨x, rest, hrest, rfl, rfl⟩ | ⟨hshort, hlong⟩
  · exact (hk x rest hrest).of_suffix hrest
  · refine .inr ⟨hshort.imp_left ?_, ?_⟩
    · rintro rfl
      rfl
    · intro y rest h
      obtain ⟨⟨x, middle⟩, hx, hy⟩ := Option.bind_eq_some_iff.mp h
      exact (hk' x _ _ _ hy).trans (hlong x middle hx)

theorem map (h : Agree C cs v short long) (g : α → β) :
    Agree C cs v (short.map fun (x, rest) => (g x, rest))
      (long.map fun (x, rest) => (g x, rest)) := by
  rcases h with ⟨x, rest, hrest, rfl, rfl⟩ | ⟨hshort, hlong⟩
  · exact .inl ⟨g x, rest, hrest, rfl, rfl⟩
  · refine .inr ⟨hshort.imp_left ?_, ?_⟩
    · rintro rfl
      rfl
    · intro y rest h
      obtain ⟨p, hp, hy⟩ := Option.map_eq_some_iff.mp h
      cases hy
      exact hlong p.1 p.2 hp

end Agree

section Readers
variable {R S : List Char → Option (α × List Char)}

theorem Shrinks.bind {K : α → List Char → Option (β × List Char)} (hR : Shrinks R)
    (hK : ∀ x, Shrinks (K x)) : Shrinks fun cs => (R cs).bind fun (x, rest) => K x rest := by
  intro cs y rest h
  obtain ⟨⟨x, middle⟩, hx, hy⟩ := Option.bind_eq_some_iff.mp h
  exact (hK x _ _ _ hy).trans (hR _ _ _ hx)

theorem Steady.bind {K : α → List Char → Option (β × List Char)} (hR : Steady C R)
    (hK : ∀ x, Steady C (K x)) : Steady C fun cs => (R cs).bind fun (x, rest) => K x rest where
  shrinks := hR.shrinks.bind fun x => (hK x).shrinks
  agree cs v hfits := (hR.agree cs v hfits).bind (fun x => (hK x).shrinks)
    fun x rest hrest => (hK x).agree rest v (hfits.suffix hrest)

theorem steady_none : Steady C fun _ => (none : Option (α × List Char)) where
  shrinks := by
    intro cs x rest h
    cases h
  agree cs v _ := .failed

theorem steady_some (x : α) : Steady C fun cs => some (x, cs) where
  shrinks := by
    intro cs y rest h
    cases h
    exact List.suffix_rfl
  agree cs v _ := .kept x

theorem steady_option_bind (y? : Option β) {K : β → List Char → Option (α × List Char)}
    (hK : ∀ y, Steady C (K y)) : Steady C fun cs => y?.bind fun y => K y cs := by
  cases y? with
  | none => exact steady_none
  | some y => exact hK y

theorem steady_option_map (y? : Option β) (g : β → α) :
    Steady C fun cs => y?.map fun y => (g y, cs) := by
  cases y? with
  | none => exact steady_none
  | some y => exact steady_some (g y)

theorem Steady.map (hR : Steady C R) (g : α → β) :
    Steady C fun cs => (R cs).map fun (x, rest) => (g x, rest) where
  shrinks := by
    intro cs y rest h
    obtain ⟨p, hp, hy⟩ := Option.map_eq_some_iff.mp h
    cases hy
    exact hR.shrinks _ _ _ hp
  agree cs v hfits := (hR.agree cs v hfits).map g

theorem steady_cons {K : Char → List Char → Option (α × List Char)} (hK : ∀ c, Steady C (K c)) :
    Steady C fun cs => match cs with
      | [] => none
      | c :: rest => K c rest where
  shrinks := by
    intro cs x rest h
    cases cs with
    | nil => cases h
    | cons c cs => exact ((hK c).shrinks _ _ _ h).trans (List.suffix_cons c cs)
  agree := by
    intro cs v hfits
    cases cs with
    | nil => exact .inr ⟨.inl rfl, (hK ')').shrinks v⟩
    | cons c cs =>
      have htail : cs <:+ c :: cs := List.suffix_cons c cs
      exact ((hK c).agree cs v (hfits.suffix htail)).of_suffix htail

theorem Steady.ite (p : Prop) [Decidable p] (hR : Steady C R) (hS : Steady C S) :
    Steady C fun cs => if p then R cs else S cs := by
  by_cases h : p
  · simpa only [if_pos h] using hR
  · simpa only [if_neg h] using hS

theorem prefix_append_iff {ds : List Char} (hds : ')' ∉ ds) :
    ds <+: cs ++ ')' :: v ↔ ds <+: cs := by
  constructor
  · intro h
    rcases List.prefix_or_prefix_of_prefix h (List.prefix_append cs _) with h' | ⟨t, rfl⟩
    · exact h'
    · rw [List.prefix_append_right_inj] at h
      cases t with
      | nil => simp
      | cons c t =>
        obtain ⟨rfl, _⟩ := List.cons_prefix_cons.mp h
        simp at hds
  · intro h
    exact h.trans (List.prefix_append cs _)

theorem not_begins_append {d : Char} (hd : d ≠ ')') (h : ¬ ∃ rest, cs = d :: rest) :
    ¬ ∃ rest, cs ++ ')' :: v = d :: rest := by
  rintro ⟨rest, hrest⟩
  cases cs with
  | nil => exact hd (List.cons.inj hrest).1.symm
  | cons c cs =>
    obtain ⟨rfl, _⟩ := List.cons.inj hrest
    exact h ⟨cs, rfl⟩

theorem Steady.prefixed (ds : List Char) (hds : ')' ∉ ds) (hR : Steady C R) (hS : Steady C S) :
    Steady C fun cs => if ds <+: cs then R (cs.drop ds.length) else S cs where
  shrinks := by
    intro cs x rest h
    dsimp only at h
    split at h
    · exact (hR.shrinks _ _ _ h).trans (List.drop_suffix _ _)
    · exact hS.shrinks _ _ _ h
  agree := by
    intro cs v hfits
    simp only [prefix_append_iff hds]
    by_cases h : ds <+: cs
    · obtain ⟨cs, rfl⟩ := h
      have htail : cs <:+ ds ++ cs := List.suffix_append ds cs
      simp only [List.prefix_append, if_true, List.append_assoc, List.drop_left]
      exact (hR.agree cs v (hfits.suffix htail)).of_suffix htail
    · simp only [if_neg h]
      exact hS.agree cs v hfits

def until? (d : Char) (cs : List Char) : Option (List Char × List Char) :=
  match cs.span (· ≠ d) with
  | (inside, _ :: rest) => some (inside, rest)
  | (_, []) => none

theorem until?_cons (d c : Char) (cs : List Char) :
    until? d (c :: cs) =
      if c = d then some ([], cs)
      else (until? d cs).map fun (inside, rest) => (c :: inside, rest) := by
  simp only [until?, List.span_eq_takeWhile_dropWhile, List.takeWhile_cons, List.dropWhile_cons]
  by_cases h : c = d
  · simp [h]
  · simp only [ne_eq, h, not_false_eq_true, decide_true, if_true, if_false]
    cases cs.dropWhile fun x => decide (¬x = d) <;> rfl

theorem steady_until (d : Char) : Steady C (until? d) := by
  have hshrinks : Shrinks (until? d) := by
    intro cs
    induction cs with
    | nil =>
      intro x rest h
      cases h
    | cons c cs ih =>
      intro x rest h
      have htail : cs <:+ c :: cs := List.suffix_cons c cs
      rw [until?_cons] at h
      split at h
      · cases h
        exact htail
      · obtain ⟨p, hp, hx⟩ := Option.map_eq_some_iff.mp h
        cases hx
        exact (ih _ _ hp).trans htail
  refine ⟨hshrinks, ?_⟩
  intro cs v hfits
  clear hfits
  induction cs with
  | nil =>
    refine .inr ⟨.inl rfl, ?_⟩
    intro x rest h
    rw [List.nil_append, until?_cons] at h
    split at h
    · cases h
      exact List.suffix_rfl
    · obtain ⟨p, hp, hx⟩ := Option.map_eq_some_iff.mp h
      cases hx
      exact hshrinks _ _ _ hp
  | cons c cs ih =>
    have htail : cs <:+ c :: cs := List.suffix_cons c cs
    rw [List.cons_append, until?_cons, until?_cons]
    split
    · exact (Agree.kept []).of_suffix htail
    · exact (ih.map fun inside => c :: inside).of_suffix htail

theorem steady_span (d : Char) {K : List Char → List Char → Option (α × List Char)}
    (hK : ∀ inside, Steady C (K inside)) :
    Steady C fun cs => match cs.span (· ≠ d) with
      | (inside, _ :: rest) => K inside rest
      | (_, []) => none := by
  convert (steady_until d).bind hK with cs
  unfold until?
  rcases cs.span (· ≠ d) with ⟨inside, _ | ⟨c, rest⟩⟩ <;> rfl

/-- Characters of a kind that a parenthesis is not of. -/
theorem steady_takeWhile {p : Char → Bool} (hp : p ')' = false) :
    Steady C fun cs => some (cs.takeWhile p, cs.drop (cs.takeWhile p).length) where
  shrinks := by
    intro cs x rest h
    cases h
    exact List.drop_suffix _ _
  agree := by
    intro cs v hfits
    refine .inl ⟨_, _, List.drop_suffix _ _, rfl, ?_⟩
    have htake : (cs ++ ')' :: v).takeWhile p = cs.takeWhile p := by
      clear hfits
      induction cs with
      | nil => simp [hp]
      | cons c cs ih => simp only [List.cons_append, List.takeWhile_cons, ih]
    have hlength : (cs.takeWhile p).length ≤ cs.length := (List.takeWhile_prefix p).length_le
    rw [htake, List.drop_append_of_le_length hlength]

theorem steady_brace {K : List Char → Option (α × List Char)} (hK : Steady C K) :
    Steady C fun cs => match cs with
      | '\x7d' :: rest => K rest
      | _ => none := by
  convert hK.prefixed ['\x7d'] (by simp) steady_none with cs
  split
  · simp
  · next h =>
    rw [if_neg]
    rintro ⟨rest, rfl⟩
    exact h rest rfl

end Readers

theorem skipBlanks_suffix (comment : Bool) (cs : List Char) : skipBlanks comment cs <:+ cs := by
  induction cs generalizing comment with
  | nil => simp [skipBlanks]
  | cons c cs ih =>
    have htail : cs <:+ c :: cs := List.suffix_cons c cs
    cases comment with
    | true => exact (ih _).trans htail
    | false =>
      rw [skipBlanks]
      split
      · exact (ih _).trans htail
      · split
        · exact (ih _).trans htail
        · exact List.suffix_rfl

theorem skipBlanks_head {comment : Bool} {c : Char} {rest : List Char}
    (h : skipBlanks comment cs = c :: rest) : c ≠ '#' ∧ Text.isSpace c = false := by
  induction cs generalizing comment with
  | nil => simp [skipBlanks] at h
  | cons d cs ih =>
    cases comment with
    | true => exact ih h
    | false =>
      rw [skipBlanks] at h
      split at h
      · exact ih h
      · next hhash =>
        split at h
        · exact ih h
        · next hspace =>
          obtain ⟨rfl, rfl⟩ := List.cons.inj h
          exact ⟨hhash, by simpa using hspace⟩

/-- Blanks end before the parenthesis; a comment goes past it. -/
theorem skipBlanks_append (comment : Bool) (cs v : List Char) :
    skipBlanks comment (cs ++ ')' :: v) = skipBlanks comment cs ++ ')' :: v ∨
      ((comment = true ∨ '#' ∈ cs) ∧ skipBlanks comment cs = [] ∧
        skipBlanks comment (cs ++ ')' :: v) <:+ v) := by
  induction cs generalizing comment with
  | nil =>
    cases comment with
    | true => exact .inr ⟨.inl rfl, rfl, skipBlanks_suffix _ v⟩
    | false => exact .inl rfl
  | cons c cs ih =>
    cases comment with
    | true =>
      rcases ih (c ≠ '\n') with h | ⟨_, hshort, hlong⟩
      · exact .inl h
      · exact .inr ⟨.inl rfl, hshort, hlong⟩
    | false =>
      simp only [List.cons_append, skipBlanks]
      split
      · next hc =>
        rcases ih true with h | ⟨_, hshort, hlong⟩
        · exact .inl h
        · exact .inr ⟨.inr (by simp [hc]), hshort, hlong⟩
      · split
        · rcases ih false with h | ⟨hcomment, hshort, hlong⟩
          · exact .inl h
          · refine .inr ⟨.inr ?_, hshort, hlong⟩
            exact List.mem_cons_of_mem c (by simpa using hcomment)
        · exact .inl rfl

namespace Flags
variable (f : Flags)

@[simp] theorem skip_nil : f.skip [] = [] := by
  unfold skip
  split <;> rfl

theorem skip_suffix (cs : List Char) : f.skip cs <:+ cs := by
  unfold skip
  split
  · exact skipBlanks_suffix false cs
  · exact List.suffix_rfl

theorem skip_append (cs v : List Char) :
    f.skip (cs ++ ')' :: v) = f.skip cs ++ ')' :: v ∨
      ((f.spaced = true ∧ '#' ∈ cs) ∧ f.skip cs = [] ∧ f.skip (cs ++ ')' :: v) <:+ v) := by
  unfold skip
  split
  · next hspaced => simpa [hspaced] using skipBlanks_append false cs v
  · exact .inl rfl

/-- What stands before the parenthesis is skipped to the same place without it. -/
theorem skip_before {before rest : List Char}
    (h : f.skip (before ++ ')' :: v) = rest ++ ')' :: v)
    (hclean : ¬ (f.spaced = true ∧ '#' ∈ before)) : f.skip before = rest := by
  rcases f.skip_append before v with hsame | ⟨hcomment, _⟩
  · exact List.append_cancel_right (hsame.symm.trans h)
  · exact absurd hcomment hclean

theorem steady_skip : Steady f.spaced fun cs => some ((), f.skip cs) where
  shrinks := by
    intro cs x rest h
    cases h
    exact f.skip_suffix cs
  agree := by
    intro cs v _
    rcases f.skip_append cs v with h | ⟨hcomment, _, hlong⟩
    · exact .inl ⟨(), f.skip cs, f.skip_suffix cs, rfl, by rw [h]⟩
    · refine .inr ⟨.inr hcomment, ?_⟩
      intro x rest h
      cases h
      exact hlong

theorem skip_steady {R : List Char → Option (α × List Char)} (hR : Steady f.spaced R) :
    Steady f.spaced fun cs => R (f.skip cs) :=
  f.steady_skip.bind fun _ => hR

theorem takeSpaced_suffix (p : Char → Bool) (comment : Bool) (cs : List Char) :
    (f.takeSpaced p comment cs).2 <:+ cs := by
  induction cs generalizing comment with
  | nil => simp [takeSpaced]
  | cons c cs ih =>
    have htail : cs <:+ c :: cs := List.suffix_cons c cs
    cases comment with
    | true => exact (ih _).trans htail
    | false =>
      rw [takeSpaced]
      split_ifs
      · exact (ih _).trans htail
      · exact (ih _).trans htail
      · exact (ih _).trans htail
      · exact List.suffix_rfl

theorem takeSpaced_close {p : Char → Bool} (hp : p ')' = false) (v : List Char) :
    f.takeSpaced p false (')' :: v) = ([], ')' :: v) := by
  have hspace : Text.isSpace ')' = false := rfl
  simp [takeSpaced, hspace, hp]

/-- What is taken ends before the parenthesis, unless a comment goes past it or it is of the kind. -/
theorem takeSpaced_append (p : Char → Bool) (comment : Bool) (cs v : List Char) :
    (∃ taken rest, f.takeSpaced p comment cs = (taken, rest) ∧
      f.takeSpaced p comment (cs ++ ')' :: v) = (taken, rest ++ ')' :: v)) ∨
    ((comment = true ∨ (f.spaced = true ∧ '#' ∈ cs) ∨ p ')' = true) ∧
      (f.takeSpaced p comment cs).2 = [] ∧ (f.takeSpaced p comment (cs ++ ')' :: v)).2 <:+ v) := by
  induction cs generalizing comment with
  | nil =>
    cases comment with
    | true => exact .inr ⟨.inl rfl, rfl, f.takeSpaced_suffix p _ v⟩
    | false =>
      cases hp : p ')' with
      | true =>
        have hspace : Text.isSpace ')' = false := rfl
        refine .inr ⟨.inr (.inr rfl), rfl, ?_⟩
        simpa [takeSpaced, hspace, hp] using f.takeSpaced_suffix p false v
      | false => exact .inl ⟨[], [], rfl, f.takeSpaced_close hp v⟩
  | cons c cs ih =>
    cases comment with
    | true =>
      rcases ih (c ≠ '\n') with h | ⟨_, hshort, hlong⟩
      · exact .inl h
      · exact .inr ⟨.inl rfl, hshort, hlong⟩
    | false =>
      simp only [List.cons_append, takeSpaced]
      have hmore (hwhy : false = true ∨ (f.spaced = true ∧ '#' ∈ cs) ∨ p ')' = true) :
          (f.spaced = true ∧ '#' ∈ c :: cs) ∨ p ')' = true :=
        (hwhy.resolve_left Bool.false_ne_true).imp_left
          (And.imp_right (List.mem_cons_of_mem c))
      split_ifs with hhash hblank hkind
      · rw [Bool.and_eq_true, decide_eq_true_eq] at hhash
        rcases ih true with h | ⟨_, hshort, hlong⟩
        · exact .inl h
        · exact .inr ⟨.inr (.inl ⟨hhash.1, by simp [hhash.2]⟩), hshort, hlong⟩
      · rcases ih false with h | ⟨hwhy, hshort, hlong⟩
        · exact .inl h
        · exact .inr ⟨.inr (hmore hwhy), hshort, hlong⟩
      · rcases ih false with ⟨taken, rest, hshort, hlong⟩ | ⟨hwhy, hshort, hlong⟩
        · exact .inl ⟨c :: taken, rest, by rw [hshort], by rw [hlong]⟩
        · exact .inr ⟨.inr (hmore hwhy), hshort, hlong⟩
      · exact .inl ⟨[], c :: cs, rfl, rfl⟩

theorem steady_takeSpaced {p : Char → Bool} (hp : p ')' = false) :
    Steady f.spaced fun cs => some (f.takeSpaced p false cs) where
  shrinks := by
    intro cs x rest h
    have hrest := f.takeSpaced_suffix p false cs
    rwa [Option.some.inj h] at hrest
  agree := by
    intro cs v _
    have hsuffix := f.takeSpaced_suffix p false cs
    rcases f.takeSpaced_append p false cs v with ⟨taken, rest, hshort, hlong⟩ | ⟨hwhy, _, hlong⟩
    · rw [hshort] at hsuffix
      exact .inl ⟨taken, rest, hsuffix, by rw [hshort], by rw [hlong]⟩
    · refine .inr ⟨.inr (by simpa [hp] using hwhy), fun x rest h => ?_⟩
      rwa [Option.some.inj h] at hlong

theorem steady_braced {p : Char → Bool} {K : List Char → List Char → Option (α × List Char)}
    (hK : ∀ inside, Steady f.spaced (K inside)) :
    Steady f.spaced fun cs => match (f.takeSpaced p false cs).2 with
      | '\x7d' :: rest => K (f.takeSpaced p false cs).1 rest
      | _ => none := by
  have hnext (inside : List Char) := steady_brace (hK inside)
  constructor
  · intro cs x rest h
    exact ((hnext _).shrinks _ _ _ h).trans (f.takeSpaced_suffix p false cs)
  · intro cs v hfits
    have hsuffix := f.takeSpaced_suffix p false cs
    rcases f.takeSpaced_append p false cs v with ⟨taken, rest, hshort, hlong⟩ | ⟨_, hshort, hlong⟩
    · rw [hshort] at hsuffix
      simp only [hshort, hlong]
      exact ((hnext taken).agree rest v (hfits.suffix hsuffix)).of_suffix hsuffix
    · refine .inr ⟨.inl ?_, fun x rest h => ((hnext _).shrinks _ _ _ h).trans hlong⟩
      simp only [hshort]

variable {f}

theorem skip_visible {c : Char} (hhash : c ≠ '#') (hspace : Text.isSpace c = false)
    (rest : List Char) : f.skip (c :: rest) = c :: rest := by
  unfold skip
  split
  · rw [skipBlanks, if_neg hhash, if_neg (by simp [hspace])]
  · rfl

theorem skip_head {c : Char} {rest : List Char} (h : f.skip cs = c :: rest) (rest' : List Char) :
    f.skip (c :: rest') = c :: rest' := by
  unfold skip at h
  split at h
  · obtain ⟨hhash, hspace⟩ := skipBlanks_head h
    exact skip_visible hhash hspace rest'
  · next hspaced => rw [skip, if_neg hspaced]

theorem skip_skip (cs : List Char) : f.skip (f.skip cs) = f.skip cs := by
  cases h : f.skip cs with
  | nil => exact f.skip_nil
  | cons c rest => exact skip_head h rest

theorem steady_of_head {R : List Char → Option (α × List Char)} (hnil : R [] = none)
    (hskip : ∀ cs, R cs = R (f.skip cs))
    (hhead : ∀ c, (∀ rest, f.skip (c :: rest) = c :: rest) →
      Steady f.spaced fun rest => R (c :: rest)) : Steady f.spaced R := by
  classical
  have hK (c : Char) : Steady f.spaced fun rest =>
      if ∀ rest, f.skip (c :: rest) = c :: rest then R (c :: rest) else none := by
    by_cases hc : ∀ rest, f.skip (c :: rest) = c :: rest
    · simpa only [if_pos hc] using hhead c hc
    · simpa only [if_neg hc] using steady_none
  convert f.skip_steady (steady_cons hK) with cs
  rw [hskip cs]
  cases h : f.skip cs with
  | nil => exact hnil
  | cons c rest =>
    dsimp only
    rw [if_pos (skip_head h)]

end Flags

end OrgStacks.Pattern
