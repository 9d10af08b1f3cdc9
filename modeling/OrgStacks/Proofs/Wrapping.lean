import OrgStacks.Proofs.Matching
import OrgStacks.Proofs.Pieces

/-!
# A pattern inside a group

Reading a text as the content of a group takes the same steps as reading it alone, with the group's
frame below the stack. The two come apart where a comment takes in the parenthesis that closes the
group, and where a parenthesis of the text closes the group before its time.
-/

namespace OrgStacks.Pattern
set_option autoImplicit false

variable {cs v : List Char}

def GroupFrame.closing (outer : GroupFrame) (p : Piece) : Piece :=
  alternatives (sequence ({ regex := if outer.captures then .capture p.regex else p.regex
                            depth := p.depth + 1 } :: outer.pieces) :: outer.branches)

namespace Reading
variable (s : Reading) (outer : GroupFrame)

def within : Reading := { s with stack := s.stack ++ [outer] }

def nest (p? : Option (Reading × List Char)) : Option (Reading × List Char) :=
  p?.map fun (s, rest) => (s.within outer, rest)

theorem named_within : (s.within outer).named cs = nest outer (s.named cs) := by
  unfold named nest
  rcases readGroupName cs with _ | ⟨name, rest⟩
  · rfl
  · simp only [Option.bind_some]
    by_cases h : s.names.contains name = true
    · rw [if_pos h]
      exact if_pos h
    · rw [if_neg h]
      exact if_neg h

theorem flagged_within : (s.within outer).flagged cs = nest outer (s.flagged cs) := by
  unfold flagged nest
  have hflags : (s.within outer).flags = s.flags := rfl
  rw [hflags]
  rcases readFlagSet s.flags true [] cs with _ | ⟨⟨inner, seen, closing⟩, rest⟩
  · rfl
  · simp only [Option.bind_some]
    split
    · rfl
    · split <;> rfl

theorem group_within : (s.within outer).group cs = nest outer (s.group cs) := by
  simp only [group, named_within, flagged_within]
  repeat' split
  all_goals rfl

theorem repeated_within (least : Nat) (most : Option Nat) :
    (s.within outer).repeated least most = (s.repeated least most).map (·.within outer) := by
  unfold repeated
  have hpieces : (s.within outer).pieces = s.pieces := rfl
  rw [hpieces]
  cases repeatLast least most s.pieces <;> rfl

theorem closed?_within (h : s.stack ≠ []) :
    (s.within outer).closed? = s.closed?.map (·.within outer) := by
  obtain ⟨frame, stack, hstack⟩ := List.exists_cons_of_ne_nil h
  simp only [closed?, within, hstack, List.cons_append]
  rfl

theorem advance_within {c : Char} (h : ¬ (c = ')' ∧ s.stack = [])) :
    (s.within outer).advance c cs = nest outer (s.advance c cs) := by
  have hflags : (s.within outer).flags = s.flags := rfl
  unfold advance
  rw [hflags]
  split
  · exact s.group_within outer
  split
  · next hclose =>
    rw [closed?_within s outer fun hstack => h ⟨hclose, hstack⟩]
    cases s.closed? <;> rfl
  split
  · rfl
  simp only [repeated_within]
  split
  · cases s.repeated 0 (some 1) <;> rfl
  split
  · cases s.repeated 0 none <;> rfl
  split
  · cases s.repeated 1 none <;> rfl
  split
  · rcases (readCounts s.flags cs).map paired with _ | ⟨⟨least, most⟩, rest⟩
    · rfl
    · simp only [Option.bind_some]
      cases s.repeated least most <;> rfl
  · rcases readPrimitive s.flags (c :: cs) with _ | ⟨p, rest⟩ <;> rfl

theorem nest_bind (p? : Option (Reading × List Char)) (n : Nat) :
    (nest outer p?).bind (fun (s, rest) => s.read n rest) =
      p?.bind fun (s, rest) => (s.within outer).read n rest := by
  cases p? <;> rfl

theorem read_nil (n : Nat) : s.read (n + 1) [] = s.finish := by
  rw [read_succ, Flags.skip_nil]

theorem read_within_nil (n : Nat) : (s.within outer).read n [] = none := by
  cases n with
  | zero => rfl
  | succ n =>
    rw [read_nil]
    simp [finish, within]

theorem read_within_close {n : Nat} (hstack : s.stack = []) :
    ((s.within outer).advance ')' []).bind (fun (s, rest) => s.read (n + 1) rest) =
      some (outer.closing s.body) := by
  have hclosed : (s.within outer).closed? = some ⟨[], s.names, outer.flags,
      { regex := if outer.captures then .capture s.body.regex else s.body.regex
        depth := s.body.depth + 1 } :: outer.pieces, outer.branches⟩ := by
    simp only [closed?, within, hstack, List.nil_append]
    rfl
  have hadvance : (s.within outer).advance ')' [] =
      (s.within outer).closed?.map fun s => (s, []) := rfl
  rw [hadvance, hclosed]
  simp only [Option.map_some, Option.bind_some, read_nil]
  rfl

theorem advance_brace (h : s.flags.skip cs = [] ∨ s.flags.skip cs = ')' :: v) :
    s.advance '\x7b' cs = none := by
  have hdecimal : readDecimal s.flags (s.flags.skip cs) = none := by
    rcases h with h | h <;> rw [h]
    · rfl
    · have hclose := s.flags.takeSpaced_close (p := Char.isDigit) rfl v
      have hspace : (')' :: v).dropWhile Text.isSpace = ')' :: v := rfl
      simp only [readDecimal, hspace, hclose, List.isEmpty_nil, if_true]
  have hcounts : readCounts s.flags cs = none := by
    unfold readCounts
    rw [hdecimal]
    rfl
  change ((readCounts s.flags cs).map paired).bind _ = none
  rw [hcounts]
  rfl

theorem read_brace {n : Nat} (h : s.flags.skip cs = [] ∨ s.flags.skip cs = ')' :: v) :
    s.read n ('\x7b' :: cs) = none := by
  cases n with
  | zero => rfl
  | succ n =>
    have hbrace : s.flags.skip ('\x7b' :: cs) = '\x7b' :: cs :=
      Flags.skip_visible (by decide) rfl cs
    rw [read_succ, hbrace]
    simp only [s.advance_brace h, Option.bind_none]

/-- A word boundary with an open brace and blanks is not read where the text ends. With the
parenthesis behind it the boundary is read, and the brace is not read after it. -/
theorem advance_cut (hfits : Fits s.flags.spaced cs v) (hcut : CutEdge s.flags cs) :
    s.advance '\\' cs = none ∧ ∀ next rest, s.advance '\\' (cs ++ ')' :: v) = some (next, rest) →
      next.flags = s.flags ∧ ∃ blanks, s.flags.skip blanks = [] ∧ cs = 'b' :: '\x7b' :: blanks ∧
        rest = '\x7b' :: blanks ++ ')' :: v ∧ s.flags.skip (blanks ++ ')' :: v) = ')' :: v := by
  obtain ⟨blanks, rfl, hblanks⟩ := hcut
  have hsuffix : blanks <:+ 'b' :: '\x7b' :: blanks :=
    (List.suffix_cons _ blanks).trans (List.suffix_cons _ _)
  obtain ⟨hshort, hlong⟩ := readWordEdge_open (hfits.suffix hsuffix) hblanks
  have hedge (cs : List Char) : s.advance '\\' ('b' :: cs) =
      ((readWordEdge s.flags cs).bind fun read =>
        (escapePiece? s.flags read.1).map fun p => (p, read.2)).map
          fun read => (s.push read.1, read.2) := by
    rw [advance_escape, readPrimitive_escape]
    rfl
  refine ⟨by rw [hedge, hshort]; rfl, ?_⟩
  intro next rest h
  rw [List.cons_append, hedge] at h
  obtain ⟨⟨p, middle⟩, hp, hnext⟩ := Option.map_eq_some_iff.mp h
  obtain ⟨⟨e, tail⟩, he, hpiece⟩ := Option.bind_eq_some_iff.mp hp
  obtain ⟨rfl, rfl, hskip⟩ := hlong e tail he
  cases hpiece
  cases hnext
  exact ⟨rfl, blanks, hblanks, rfl, rfl, hskip⟩

/-- Blanks and comments are not skipped, now or in an outer group. -/
structure Plain : Prop where
  flags : s.flags.spaced = false
  stack : ∀ frame ∈ s.stack, frame.flags.spaced = false

/-- No comment begins in the text: there is no sign for one, or nothing that turns comments on. -/
def CommentFree (cs : List Char) : Prop :=
  '#' ∉ cs ∨ (s.Plain ∧ ('?' ∉ cs ∨ 'x' ∉ cs))

variable {s}

theorem CommentFree.no_comment (h : s.CommentFree cs) : ¬ (s.flags.spaced = true ∧ '#' ∈ cs) := by
  rintro ⟨hspaced, hmem⟩
  rcases h with h | ⟨hplain, _⟩
  · exact h hmem
  · rw [hplain.flags] at hspaced
    cases hspaced

theorem set_spaced {f f' : Flags} {c : Char} {on : Bool} (h : f.set c on = some f') (hc : c ≠ 'x') :
    f'.spaced = f.spaced := by
  unfold Flags.set at h
  split at h
  all_goals first | cases h; rfl | exact absurd rfl hc | cases h

theorem readFlagSet_spaced {f : Flags} {on : Bool} {seen : List Char}
    {p : Flags × List Char × Char} {rest : List Char}
    (h : readFlagSet f on seen cs = some (p, rest)) (hx : 'x' ∉ cs) : p.1.spaced = f.spaced := by
  induction cs generalizing f on seen with
  | nil => cases h
  | cons c cs ih =>
    simp only [List.mem_cons, not_or] at hx
    rw [readFlagSet_cons] at h
    split at h
    · split at h
      · cases h
      · cases h
        rfl
    split at h
    · cases h
    split at h
    · exact ih h hx.2
    · obtain ⟨f', hf', h⟩ := Option.bind_eq_some_iff.mp h
      rw [ih h hx.2, set_spaced hf' (Ne.symm hx.1)]

theorem Plain.opened (hs : s.Plain) {inner : Flags} (hinner : inner.spaced = false)
    (captures : Bool) (names : List (List Char)) : (s.opened inner captures names).Plain :=
  ⟨hinner, List.forall_mem_cons.mpr ⟨hs.flags, hs.stack⟩⟩

theorem Plain.named (hs : s.Plain) {next : Reading} {rest : List Char}
    (h : s.named cs = some (next, rest)) : next.Plain := by
  obtain ⟨⟨name, tail⟩, _, h⟩ := Option.bind_eq_some_iff.mp h
  dsimp only at h
  split at h
  · cases h
  · cases h
    exact hs.opened hs.flags _ _

theorem Plain.flagged (hs : s.Plain) {next : Reading} {rest : List Char}
    (h : s.flagged cs = some (next, rest)) (hx : 'x' ∉ cs) : next.Plain := by
  obtain ⟨⟨⟨inner, seen, closing⟩, tail⟩, hset, h⟩ := Option.bind_eq_some_iff.mp h
  have hinner : inner.spaced = false := (readFlagSet_spaced hset hx).trans hs.flags
  dsimp only at h
  split at h
  · cases h
    exact hs.opened hinner _ _
  split at h
  · cases h
  · cases h
    exact ⟨hinner, hs.stack⟩

theorem Plain.group (hs : s.Plain) {next : Reading} {rest : List Char}
    (h : s.group cs = some (next, rest)) (hflags : '?' ∉ cs ∨ 'x' ∉ cs) : next.Plain := by
  unfold Reading.group at h
  iterate 4
    split at h
    · cases h
  split at h
  · exact hs.named h
  split at h
  · exact hs.named h
  split at h
  · next hquestion =>
    obtain ⟨tail, rfl⟩ := hquestion
    refine hs.flagged h ?_
    simpa using hflags
  · cases h
    exact hs.opened hs.flags _ _

theorem Plain.repeated (hs : s.Plain) {least : Nat} {most : Option Nat} {next : Reading}
    (h : s.repeated least most = some next) : next.Plain := by
  obtain ⟨pieces, _, rfl⟩ := Option.map_eq_some_iff.mp h
  exact ⟨hs.flags, hs.stack⟩

theorem Plain.closed (hs : s.Plain) {next : Reading} (h : s.closed? = some next) : next.Plain := by
  unfold closed? at h
  split at h
  · cases h
  · next frame stack hstack =>
    cases h
    have hall := hs.stack
    rw [hstack] at hall
    exact ⟨(List.forall_mem_cons.mp hall).1, (List.forall_mem_cons.mp hall).2⟩

theorem Plain.advance (hs : s.Plain) {c : Char} {next : Reading} {rest : List Char}
    (h : s.advance c cs = some (next, rest)) (hflags : '?' ∉ cs ∨ 'x' ∉ cs) : next.Plain := by
  have hskip : s.flags.skip cs = cs := by
    rw [Flags.skip, hs.flags, if_neg (by simp)]
  unfold Reading.advance at h
  split at h
  · rw [hskip] at h
    exact hs.group h hflags
  split at h
  · obtain ⟨next, hnext, h⟩ := Option.map_eq_some_iff.mp h
    cases h
    exact hs.closed hnext
  split at h
  · cases h
    exact ⟨hs.flags, hs.stack⟩
  iterate 3
    split at h
    · obtain ⟨next, hnext, h⟩ := Option.map_eq_some_iff.mp h
      cases h
      exact hs.repeated hnext
  split at h
  · obtain ⟨⟨counts, tail⟩, _, h⟩ := Option.bind_eq_some_iff.mp h
    obtain ⟨next, hnext, h⟩ := Option.map_eq_some_iff.mp h
    cases h
    exact hs.repeated hnext
  · obtain ⟨⟨p, tail⟩, _, h⟩ := Option.map_eq_some_iff.mp h
    cases h
    exact ⟨hs.flags, hs.stack⟩

theorem CommentFree.advance {c : Char} {next : Reading} {rest ds : List Char}
    (h : s.CommentFree ds) (hcs : cs ⊆ ds) (hnext : s.advance c cs = some (next, rest)) :
    next.CommentFree rest := by
  have hrest : rest ⊆ ds := fun _ hd => hcs ((s.advance_shrinks c _ _ _ hnext).subset hd)
  rcases h with h | ⟨hplain, hflags⟩
  · exact .inl fun hmem => h (hrest hmem)
  · refine .inr ⟨hplain.advance hnext ?_, ?_⟩
    · exact hflags.imp (fun h hmem => h (hcs hmem)) fun h hmem => h (hcs hmem)
    · exact hflags.imp (fun h hmem => h (hrest hmem)) fun h hmem => h (hrest hmem)

variable (s)

/-- A text that is read as far as a parenthesis that it does not open is well formed up to there. -/
theorem read_before {n : Nat} {c : Char} {next : Reading} {w u : List Char}
    (hclean : ¬ (s.flags.spaced = true ∧ '#' ∈ w ++ u))
    (h : s.advance c (w ++ u ++ ')' :: v) = some (next, u ++ ')' :: v))
    (hread : (next.read n u).isSome) : s.advance c (w ++ u) = some (next, u) := by
  have hfits : Fits s.flags.spaced (w ++ u) v := fun hspaced hmem =>
    absurd ⟨hspaced, hmem⟩ hclean
  by_cases hcut : c = '\\' ∧ CutEdge s.flags (w ++ u)
  · obtain ⟨rfl, hcut⟩ := hcut
    obtain ⟨hflags, blanks, hblanks, _, hrest, _⟩ := (s.advance_cut hfits hcut).2 _ _ h
    obtain rfl : u = '\x7b' :: blanks := List.append_cancel_right hrest
    rw [next.read_brace (v := v) (.inl (hflags ▸ hblanks))] at hread
    cases hread
  · have hagree := s.advance_agree hfits (c := c) fun hc hcs => hcut ⟨hc, hcs⟩
    rcases hagree with ⟨next', rest, _, hshort, hlong⟩ | ⟨_, hlong⟩
    · rw [h] at hlong
      obtain ⟨rfl, hrest⟩ := Prod.mk.inj (Option.some.inj hlong)
      rw [hshort, List.append_cancel_right hrest]
    · have hlength := (hlong _ _ h).length_le
      simp at hlength
      omega

theorem read_before_of_skip {n : Nat} {c : Char} {next : Reading} {rest u : List Char}
    (hskip : s.flags.skip cs = c :: rest) (h : s.advance c rest = some (next, u ++ ')' :: v))
    (hclean : s.CommentFree cs) (hread : (next.read n u).isSome) :
    ∃ before, cs = before ++ ')' :: v ∧ (s.read (n + 1) before).isSome := by
  obtain ⟨blanks, hblanks⟩ := hskip ▸ s.flags.skip_suffix cs
  obtain ⟨w, rfl⟩ := s.advance_shrinks c _ _ _ h
  have htext : cs = (blanks ++ c :: (w ++ u)) ++ ')' :: v := by simp [← hblanks]
  have hno {ds : List Char} (hds : ds ⊆ cs) : ¬ (s.flags.spaced = true ∧ '#' ∈ ds) :=
    fun hcomment => hclean.no_comment ⟨hcomment.1, hds hcomment.2⟩
  have hbefore : s.flags.skip (blanks ++ c :: (w ++ u)) = c :: (w ++ u) := by
    refine Flags.skip_before (v := v) _ ?_ (hno ?_)
    · rw [← htext, hskip]
      simp
    · rw [htext]
      exact List.subset_append_left _ _
  have hstep : s.advance c (w ++ u) = some (next, u) := by
    refine s.read_before (hno ?_) (by simpa using h) hread
    rw [htext]
    intro d hd
    simp only [List.mem_append, List.mem_cons]
    exact .inl (.inr (.inr (List.mem_append.mp hd)))
  refine ⟨_, htext, ?_⟩
  rw [read_succ, hbefore]
  simpa only [hstep, Option.bind_some] using hread

/-- What stands before a parenthesis that closes the group itself is well formed. -/
theorem read_before_close {n : Nat} {rest : List Char} (hskip : s.flags.skip cs = ')' :: rest)
    (hstack : s.stack = []) (hclean : s.CommentFree cs) :
    ∃ before, cs = before ++ ')' :: rest ∧ (s.read (n + 1) before).isSome := by
  obtain ⟨before, hbefore⟩ := hskip ▸ s.flags.skip_suffix cs
  have hblank : s.flags.skip before = [] := by
    refine Flags.skip_before (v := rest) _ (by rw [hbefore, hskip]; rfl) fun h => ?_
    exact hclean.no_comment ⟨h.1, hbefore ▸ List.mem_append_left _ h.2⟩
  refine ⟨before, hbefore.symm, ?_⟩
  rw [read_succ, hblank]
  simp [finish, hstack]

theorem read_within_cut {m : Nat} (hcut : CutEdge s.flags cs) :
    (s.advance '\\' (cs ++ [')'])).bind
      (fun (s, rest) => (s.within outer).read m rest) = none := by
  have hfits : Fits s.flags.spaced cs [] := fun _ _ => rfl
  refine Option.bind_eq_none_iff.mpr ?_
  rintro ⟨next, tail⟩ hnext
  obtain ⟨hflags, blanks, _, _, rfl, hparen⟩ := (s.advance_cut hfits hcut).2 next tail hnext
  exact (next.within outer).read_brace (.inr (hflags ▸ hparen))

/-- The text has ended, and the group ends with it or a group inside it is still open. -/
theorem read_within_end {m : Nat} (hm : 0 < m) :
    (∃ p, s.finish = some p ∧ ((s.within outer).advance ')' []).bind
      (fun (s, rest) => s.read m rest) = some (outer.closing p)) ∨
    (((s.within outer).advance ')' []).bind (fun (s, rest) => s.read m rest) = none ∧
      s.finish = none) := by
  obtain ⟨m, rfl⟩ : ∃ k, m = k + 1 := ⟨m - 1, by omega⟩
  by_cases hstack : s.stack = []
  · exact .inl ⟨s.body, by simp [finish, hstack], s.read_within_close outer hstack⟩
  · have hnext : ¬ (')' = ')' ∧ s.stack = []) := fun h => hstack h.2
    have hadvance : s.advance ')' [] = s.closed?.map fun s => (s, []) := rfl
    refine .inr ⟨?_, by simp [finish, hstack]⟩
    rw [s.advance_within outer hnext, nest_bind, hadvance]
    cases s.closed? with
    | none => rfl
    | some next => exact next.read_within_nil outer (m + 1)

/-- What a text is read as alone, and as the content of a group that ends with it. Both are well
formed; or the group is not, nor is the text unless a comment begins in it; or the text is not, and
closes the group before its end. -/
def Compares (n : Nat) (cs : List Char) (alone inside : Option Piece) : Prop :=
  (∃ p, alone = some p ∧ inside = some (outer.closing p)) ∨
  (inside = none ∧ (alone = none ∨ ¬ s.CommentFree cs)) ∨
  (alone = none ∧ (s.CommentFree cs →
    ∃ before after, cs = before ++ ')' :: after ∧ (s.read n before).isSome))

/-- A parenthesis of the text closes the group. -/
theorem compares_close {n : Nat} {rest : List Char} {inside : Option Piece}
    (hskip : s.flags.skip cs = ')' :: rest) (hstack : s.stack = []) :
    s.Compares outer (n + 1) cs
      ((s.advance ')' rest).bind fun (s, rest) => s.read n rest) inside := by
  have hclosed : s.advance ')' rest = none := by simp [advance, closed?, hstack]
  refine .inr (.inr ⟨by simp only [hclosed, Option.bind_none], fun hclean => ?_⟩)
  obtain ⟨before, hbefore⟩ := s.read_before_close hskip hstack hclean
  exact ⟨before, rest, hbefore⟩

/-- One step is taken alike, and then the rest is compared. -/
theorem compares_step {n : Nat} {c : Char} {next : Reading} {rest rest' : List Char}
    {inside : Option Piece} (hskip : s.flags.skip cs = c :: rest) (hrest : rest ⊆ cs)
    (hstep : s.advance c rest = some (next, rest'))
    (h : next.Compares outer n rest' (next.read n rest') inside) :
    s.Compares outer (n + 1) cs (next.read n rest') inside := by
  have hnext (hclean : s.CommentFree cs) : next.CommentFree rest' := hclean.advance hrest hstep
  rcases h with h | ⟨hnone, h⟩ | ⟨hnone, h⟩
  · exact .inl h
  · exact .inr (.inl ⟨hnone, h.imp_right fun h hclean => h (hnext hclean)⟩)
  · refine .inr (.inr ⟨hnone, fun hclean => ?_⟩)
    obtain ⟨before, after, rfl, hread⟩ := h (hnext hclean)
    obtain ⟨before', hbefore', hread'⟩ := s.read_before_of_skip hskip hstep hclean hread
    exact ⟨before', after, hbefore', hread'⟩

/-- The step goes past the parenthesis that closes the group. -/
theorem compares_past {n m k : Nat} {c : Char} {rest : List Char}
    (hshort : s.advance c rest = none ∨ ¬ s.CommentFree cs)
    (hlong : ∀ next tail, s.advance c (rest ++ [')']) = some (next, tail) → tail = []) :
    s.Compares outer k cs ((s.advance c rest).bind fun (s, rest) => s.read n rest)
      ((s.advance c (rest ++ [')'])).bind fun (s, rest) => (s.within outer).read m rest) := by
  refine .inr (.inl ⟨?_, hshort.imp_left fun h => by rw [h, Option.bind_none]⟩)
  refine Option.bind_eq_none_iff.mpr ?_
  rintro ⟨next, tail⟩ hnext
  rw [hlong next tail hnext]
  exact next.read_within_nil outer m

variable {s outer}

theorem not_commentFree {ds : List Char} (h : s.flags.spaced = true ∧ '#' ∈ ds) (hds : ds ⊆ cs) :
    ¬ s.CommentFree cs :=
  fun hclean => hclean.no_comment ⟨h.1, hds h.2⟩

theorem read_within {n m : Nat} (hn : cs.length < n) (hm : cs.length + 1 < m) :
    s.Compares outer n cs (s.read n cs) ((s.within outer).read m (cs ++ [')'])) := by
  induction n generalizing m s cs with
  | zero => omega
  | succ n ih =>
    obtain ⟨m, rfl⟩ : ∃ k, m = k + 1 := ⟨m - 1, by omega⟩
    have hflags : (s.within outer).flags = s.flags := rfl
    have hfits (cs : List Char) : Fits s.flags.spaced cs [] := fun _ _ => rfl
    rw [read_succ, read_succ, hflags]
    rcases s.flags.skip_append cs [] with hsame | ⟨hswallowed, _, hlong⟩
    · rw [hsame]
      cases hskip : s.flags.skip cs with
      | nil =>
        rcases s.read_within_end outer (by omega : 0 < m) with h | ⟨hlong, hshort⟩
        · exact .inl h
        · exact .inr (.inl ⟨hlong, .inl hshort⟩)
      | cons c rest =>
        have hskipped : c :: rest <:+ cs := hskip ▸ s.flags.skip_suffix cs
        have hrest : rest <:+ cs := (List.suffix_cons c rest).trans hskipped
        by_cases hend : c = ')' ∧ s.stack = []
        · obtain ⟨rfl, hstack⟩ := hend
          exact s.compares_close outer hskip hstack
        simp only [List.cons_append, s.advance_within outer hend, nest_bind]
        by_cases hcut : c = '\\' ∧ CutEdge s.flags rest
        · obtain ⟨rfl, hcut⟩ := hcut
          obtain ⟨hshort, _⟩ := s.advance_cut (hfits rest) hcut
          exact .inr (.inl ⟨s.read_within_cut outer hcut, .inl (by rw [hshort, Option.bind_none])⟩)
        have hagree := s.advance_agree (hfits rest) (c := c) fun hc hcs => hcut ⟨hc, hcs⟩
        rcases hagree with ⟨next, rest', hrest', hshort, hlong⟩ | ⟨hshort, hlong⟩
        · have hlength := hrest'.length_le
          have hlength' : rest.length < cs.length := hskipped.length_le
          rw [hshort, hlong]
          simp only [Option.bind_some]
          exact s.compares_step outer hskip hrest.subset hshort (ih (by omega) (by omega))
        · exact s.compares_past outer (hshort.imp_right (not_commentFree · hrest.subset))
            fun next tail hnext => List.suffix_nil.mp (hlong next tail hnext)
    · -- A comment has taken in the parenthesis.
      refine .inr (.inl ⟨?_, .inr (not_commentFree hswallowed (List.Subset.refl cs))⟩)
      rw [List.suffix_nil.mp hlong]
      simp [finish, within]

end Reading

end OrgStacks.Pattern
