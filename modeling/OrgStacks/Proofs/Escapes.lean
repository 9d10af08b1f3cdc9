import OrgStacks.Proofs.Steady

/-!
# Escapes with a parenthesis behind them

Escapes are read the same whether or not a closing parenthesis follows the text. There is one
exception: a word boundary with an open brace and only blanks behind it is not well formed where the
text ends, and stands for itself where something else follows.
-/

namespace OrgStacks.Pattern
set_option autoImplicit false

variable {α β : Type} {cs v : List Char}

def paired {γ : Type} (p : α × β × γ) : (α × β) × γ := ((p.1, p.2.1), p.2.2)

section Escapes
variable (f : Flags)

theorem steady_hexDigits (n : Nat) : Steady f.spaced (hexDigits f n) := by
  induction n with
  | zero => exact steady_some []
  | succ n ih =>
    have hrest : Steady f.spaced fun cs => hexDigits f n (if n = 0 then cs else f.skip cs) := by
      by_cases h : n = 0
      · simpa only [if_pos h] using ih
      · simpa only [if_neg h] using f.skip_steady ih
    have hdigit (c : Char) : Steady f.spaced fun cs =>
        if isHexDigit c then
          (hexDigits f n (if n = 0 then cs else f.skip cs)).map fun p => (c :: p.1, p.2)
        else none :=
      (hrest.map fun ds => c :: ds).ite _ steady_none
    convert steady_cons hdigit with cs
    cases cs <;> rfl

theorem steady_hexBraced : Steady f.spaced (hexBraced f) := by
  have hdigits (digits : List Char) : Steady f.spaced fun rest =>
      if digits.all isHexDigit && !digits.isEmpty then some (digits, rest) else none :=
    (steady_some digits).ite _ steady_none
  exact f.steady_braced hdigits

theorem steady_codePoint (c? : Option Char) (asByte : Bool) :
    Steady f.spaced fun cs => c?.bind fun c => some ((c, asByte), f.skip cs) :=
  steady_option_bind c? fun c => f.steady_skip.map fun _ => (c, asByte)

theorem readHex_eq (count : Nat) (cs : List Char) :
    (readHex f count cs).map paired =
      if ['\x7b'] <+: f.skip cs then
        (hexBraced f ((f.skip cs).drop 1)).bind fun (ds, rest) =>
          (charOf? (CharSet.hexValue ds)).bind fun c => some ((c, false), f.skip rest)
      else
        (hexDigits f count (f.skip cs)).bind fun (ds, rest) =>
          (charOf? (CharSet.hexValue ds)).bind fun c =>
            some ((c, decide (count = 2)), f.skip rest) := by
  unfold readHex
  split
  · next rest h =>
    simp only [h, List.prefix_cons_inj, List.nil_prefix, if_true, List.drop_succ_cons,
      List.drop_zero]
    rcases hexBraced f rest with _ | ⟨ds, rest⟩
    · rfl
    · cases h : charOf? (CharSet.hexValue ds) <;> simp [h, paired]
  · next h =>
    have hno : ¬ ['\x7b'] <+: f.skip cs := by
      rintro ⟨rest, hrest⟩
      exact h rest hrest.symm
    rw [if_neg hno]
    rcases hexDigits f count (f.skip cs) with _ | ⟨ds, rest⟩
    · rfl
    · cases h : charOf? (CharSet.hexValue ds) <;> simp [h, paired]

theorem steady_readHex (count : Nat) :
    Steady f.spaced fun cs => (readHex f count cs).map paired := by
  rw [funext (readHex_eq f count)]
  have hbraced := (steady_hexBraced f).bind fun ds =>
    steady_codePoint f (charOf? (CharSet.hexValue ds)) false
  have hplain := (steady_hexDigits f count).bind fun ds =>
    steady_codePoint f (charOf? (CharSet.hexValue ds)) (decide (count = 2))
  exact f.skip_steady (hbraced.prefixed ['\x7b'] (by simp) hplain)

theorem steady_readProperty : Steady f.spaced (readProperty f) := by
  refine Flags.steady_of_head (f := f) (by simp [readProperty]) ?_ ?_
  · intro cs
    unfold readProperty
    rw [Flags.skip_skip]
  · intro c hc
    by_cases hbrace : c = '\x7b'
    · subst hbrace
      simp only [readProperty, hc]
      exact f.steady_braced fun name => steady_option_map (propertySpelled? name) id
    by_cases hslash : c = '\\'
    · subst hslash
      simp only [readProperty, hc]
      exact steady_none
    · simp only [readProperty, hc]
      cases propertyNamed? [c] with
      | none => exact steady_none
      | some s => exact f.steady_skip.map fun _ => s

theorem readEscape_steady {c : Char} (hc : c ≠ 'b') :
    Steady f.spaced fun cs => readEscape f (c :: cs) := by
  have hhex (n : Nat) (escape : Char → Bool → Escape) : Steady f.spaced fun cs =>
      (readHex f n cs).map fun read => (escape read.1 read.2.1, read.2.2) := by
    have h := (steady_readHex f n).map fun p => escape p.1 p.2
    simp only [Option.map_map] at h
    exact h
  have hproperty (negated : Bool) : Steady f.spaced (readEscape.property f negated) := by
    unfold readEscape.property
    have hset (chars : CharSet) : Steady f.spaced fun cs =>
        (f.foldNegate negated chars).bind fun set => some (Escape.chars set, cs) :=
      steady_option_bind _ fun _ => steady_some _
    exact steady_none.ite _ ((steady_readProperty f).bind hset)
  by_cases hx : c = 'x'
  · subst hx
    exact hhex 2 fun c asByte => .char c asByte
  by_cases hu : c = 'u'
  · subst hu
    exact hhex 4 fun c _ => .char c false
  by_cases hU : c = 'U'
  · subst hU
    exact hhex 8 fun c _ => .char c false
  by_cases hp : c = 'p'
  · subst hp
    exact hproperty false
  by_cases hP : c = 'P'
  · subst hP
    exact hproperty true
  by_cases hletter : c ∈ ['a', 'f', 't', 'n', 'r', 'v', 'A', 'z', 'B', '<', '>']
  · simp only [List.mem_cons, List.not_mem_nil, or_false] at hletter
    rcases hletter with rfl | rfl | rfl | rfl | rfl | rfl | rfl | rfl | rfl | rfl | rfl <;>
      exact steady_some _
  · simp only [List.mem_cons, List.not_mem_nil, or_false, not_or] at hletter
    obtain ⟨h1, h2, h3, h4, h5, h6, h7, h8, h9, h10, h11⟩ := hletter
    simp only [readEscape]
    cases letterClass? c with
    | some k => exact steady_option_map _ _
    | none => exact (steady_some _).ite _ steady_none

def edgeNamed? (cs : List Char) : Option (Escape × List Char) :=
  let (name, rest) := f.takeSpaced (fun c => c.isAlpha || c == '-') false cs
  match rest with
  | '\x7d' :: rest =>
    match String.ofList name with
    | "start" => some (f.wordAssertion .start, rest)
    | "end" => some (f.wordAssertion .stop, rest)
    | "start-half" => some (f.wordAssertion .startHalf, rest)
    | "end-half" => some (f.wordAssertion .stopHalf, rest)
    | _ => none
  | _ => none

theorem steady_edgeNamed : Steady f.spaced (edgeNamed? f) := by
  have hname (name : List Char) : Steady f.spaced fun rest =>
      match String.ofList name with
      | "start" => some (f.wordAssertion .start, rest)
      | "end" => some (f.wordAssertion .stop, rest)
      | "start-half" => some (f.wordAssertion .startHalf, rest)
      | "end-half" => some (f.wordAssertion .stopHalf, rest)
      | _ => none := by
    split
    · exact steady_some _
    · exact steady_some _
    · exact steady_some _
    · exact steady_some _
    · exact steady_none
  exact f.steady_braced hname

variable {f}

theorem readWordEdge_brace (rest : List Char) : readWordEdge f ('\x7b' :: rest) =
    match f.skip rest with
    | [] => none
    | first :: more =>
      if first.isAlpha || first == '-' then edgeNamed? f (first :: more)
      else some (f.wordAssertion .boundary, '\x7b' :: rest) := rfl

theorem readWordEdge_plain (h : ¬ ∃ rest, cs = '\x7b' :: rest) :
    readWordEdge f cs = some (f.wordAssertion .boundary, cs) := by
  unfold readWordEdge
  split
  · next rest => exact absurd ⟨rest, rfl⟩ h
  · rfl

theorem readWordEdge_shrinks : Shrinks (readWordEdge f) := by
  intro cs x rest h
  by_cases hbrace : ∃ rest, cs = '\x7b' :: rest
  · obtain ⟨inside, rfl⟩ := hbrace
    rw [readWordEdge_brace] at h
    split at h
    · cases h
    · next first more hskip =>
      split at h
      · have hinside : first :: more <:+ inside := hskip ▸ f.skip_suffix inside
        exact (((steady_edgeNamed f).shrinks _ _ _ h).trans hinside).trans (List.suffix_cons _ _)
      · cases h
        exact List.suffix_rfl
  · rw [readWordEdge_plain hbrace] at h
    cases h
    exact List.suffix_rfl

/-- A word boundary is read without looking at what follows it, unless a brace and nothing but
blanks follow. -/
theorem readWordEdge_agree (hfits : Fits f.spaced cs v)
    (hcs : ∀ blanks, cs = '\x7b' :: blanks → f.skip blanks ≠ []) :
    Agree f.spaced cs v (readWordEdge f cs) (readWordEdge f (cs ++ ')' :: v)) := by
  by_cases hbrace : ∃ rest, cs = '\x7b' :: rest
  · obtain ⟨rest, rfl⟩ := hbrace
    have hskip : f.skip (rest ++ ')' :: v) = f.skip rest ++ ')' :: v := by
      rcases f.skip_append rest v with h | ⟨_, h, _⟩
      · exact h
      · exact absurd h (hcs rest rfl)
    simp only [List.cons_append, readWordEdge_brace, hskip]
    cases hrest : f.skip rest with
    | nil => exact absurd hrest (hcs rest rfl)
    | cons first more =>
      simp only [List.cons_append]
      split
      · have hsuffix : first :: more <:+ '\x7b' :: rest :=
          hrest ▸ (f.skip_suffix rest).trans (List.suffix_cons _ rest)
        exact ((steady_edgeNamed f).agree _ v (hfits.suffix hsuffix)).of_suffix hsuffix
      · exact .kept _
  · rw [readWordEdge_plain hbrace,
      readWordEdge_plain (not_begins_append (by decide) hbrace)]
    exact .kept _

/-- A brace after a word boundary that the text ends with is read only if something follows. -/
theorem readWordEdge_open {blanks : List Char} (hfits : Fits f.spaced blanks v)
    (hblanks : f.skip blanks = []) :
    readWordEdge f ('\x7b' :: blanks) = none ∧
      ∀ x rest, readWordEdge f ('\x7b' :: blanks ++ ')' :: v) = some (x, rest) →
        x = f.wordAssertion .boundary ∧ rest = '\x7b' :: blanks ++ ')' :: v ∧
          f.skip (blanks ++ ')' :: v) = ')' :: v := by
  refine ⟨by simp only [readWordEdge_brace, hblanks], ?_⟩
  intro x rest h
  rw [List.cons_append, readWordEdge_brace] at h
  rcases f.skip_append blanks v with hskip | ⟨hcomment, _, hlong⟩
  · rw [hblanks, List.nil_append] at hskip
    simp only [hskip] at h
    rw [if_neg (by decide)] at h
    cases h
    exact ⟨rfl, rfl, hskip⟩
  · obtain rfl : v = [] := hfits hcomment.1 hcomment.2
    simp only [List.suffix_nil.mp hlong] at h
    cases h

/-- After a backslash: a word boundary with an open brace, and the text ends. -/
def CutEdge (f : Flags) (cs : List Char) : Prop :=
  ∃ blanks, cs = 'b' :: '\x7b' :: blanks ∧ f.skip blanks = []

theorem readEscape_shrinks : Shrinks (readEscape f) := by
  intro cs x rest h
  cases cs with
  | nil => cases h
  | cons c cs =>
    have htail : cs <:+ c :: cs := List.suffix_cons c cs
    by_cases hc : c = 'b'
    · subst hc
      exact (readWordEdge_shrinks _ _ _ h).trans htail
    · exact ((readEscape_steady f hc).shrinks _ _ _ h).trans htail

theorem readEscape_agree (hfits : Fits f.spaced cs v) (hcs : ¬ CutEdge f cs) :
    Agree f.spaced cs v (readEscape f cs) (readEscape f (cs ++ ')' :: v)) := by
  cases cs with
  | nil => exact .inr ⟨.inl rfl, (readEscape_steady f (by decide)).shrinks v⟩
  | cons c cs =>
    have htail : cs <:+ c :: cs := List.suffix_cons c cs
    by_cases hc : c = 'b'
    · subst hc
      have h := readWordEdge_agree (hfits.suffix htail) (f := f) (by
        rintro blanks rfl hblanks
        exact hcs ⟨blanks, rfl, hblanks⟩)
      exact h.of_suffix htail
    · exact ((readEscape_steady f hc).agree cs v (hfits.suffix htail)).of_suffix htail

end Escapes

end OrgStacks.Pattern
