import OrgStacks.Proofs.Anchoring

/-!
# Texts that stand for themselves

A token of ordinary characters is a pattern that matches that token and nothing else, so behind the
start of a text it finds the texts that begin with it.
-/

namespace OrgStacks.Pattern
set_option autoImplicit false

/-- The characters that a pattern does not read as themselves. -/
def special : List Char := "\\.+*?()|[\x7b^$".toList

def IsLiteral (token : String) : Prop := ∀ c ∈ token.toList, c ∉ special

instance (token : String) : Decidable (IsLiteral token) :=
  List.decidableBAll (· ∉ special) token.toList

def charPiece (c : Char) : Piece := { regex := .chars (.singleton c) }

def literal : List Char → Regex
  | [] => .empty
  | [c] => .chars (.singleton c)
  | c :: d :: cs => .seq (.chars (.singleton c)) (literal (d :: cs))

variable {token : String} {cs : List Char}

theorem advance_literal {s : Reading} {c : Char} (hflags : s.flags = {}) (hc : c ∉ special)
    (rest : List Char) : s.advance c rest = some (s.push (charPiece c), rest) := by
  have hne {d : Char} (hd : d ∈ special) : c ≠ d := fun h => hc (h ▸ hd)
  have hprimitive : readPrimitive {} (c :: rest) = some (charPiece c, rest) := by
    obtain ⟨hescape, hclass, hpoint, hstart, hend⟩ :
        c ≠ '\\' ∧ c ≠ '[' ∧ c ≠ '.' ∧ c ≠ '^' ∧ c ≠ '$' := by
      refine ⟨?_, ?_, ?_, ?_, ?_⟩ <;> exact hne (by decide)
    simp only [readPrimitive]
    rfl
  unfold Reading.advance
  rw [if_neg (hne (by decide)), if_neg (hne (by decide)), if_neg (hne (by decide)),
    if_neg (hne (by decide)), if_neg (hne (by decide)), if_neg (hne (by decide)),
    if_neg (hne (by decide)), hflags, hprimitive]
  rfl

theorem read_literal {s : Reading} (hflags : s.flags = {}) (hstack : s.stack = [])
    (hcs : ∀ c ∈ cs, c ∉ special) {n : Nat} (hn : cs.length < n) :
    s.read n cs =
      some { s with pieces := (cs.map charPiece).reverse ++ s.pieces : Reading }.body := by
  induction cs generalizing s n with
  | nil =>
    obtain ⟨n, rfl⟩ : ∃ m, n = m + 1 := ⟨n - 1, by omega⟩
    have hskip : s.flags.skip [] = [] := by
      rw [hflags]
      rfl
    rw [Reading.read_succ, hskip]
    dsimp only
    rw [Reading.finish, hstack]
    rfl
  | cons c cs ih =>
    obtain ⟨n, rfl⟩ : ∃ m, n = m + 1 := ⟨n - 1, by omega⟩
    obtain ⟨hc, hcs⟩ := List.forall_mem_cons.mp hcs
    have hskip : s.flags.skip (c :: cs) = c :: cs := by
      rw [hflags]
      rfl
    rw [Reading.read_succ, hskip]
    dsimp only
    rw [advance_literal hflags hc, Option.bind_some]
    dsimp only
    rw [@ih (s.push (charPiece c)) hflags hstack hcs n (Nat.lt_of_succ_lt_succ hn)]
    simp [Reading.push]

theorem sequence_depth {ps : List Piece} (h : ∀ p ∈ ps, p.depth = 0) : (sequence ps).depth ≤ 1 := by
  have hfold : ps.foldl (fun d q => max d q.depth) 0 = 0 := by
    induction ps with
    | nil => rfl
    | cons p ps ih =>
      obtain ⟨hp, hps⟩ := List.forall_mem_cons.mp h
      rw [List.foldl_cons, hp]
      exact ih hps
  rcases ps with _ | ⟨p, _ | ⟨q, ps⟩⟩
  · exact Nat.zero_le 1
  · exact (h p List.mem_cons_self).trans_le (Nat.zero_le 1)
  · change (p :: q :: ps).foldl (fun d q => max d q.depth) 0 + 1 ≤ 1
    rw [hfold]

theorem sequence_regex (cs : List Char) :
    (sequence (cs.map charPiece).reverse).regex = literal cs := by
  rcases List.eq_nil_or_concat cs with rfl | ⟨before, last, rfl⟩
  · rfl
  · have hsequence (ps : List Piece) (p : Piece) :
        (sequence (p :: ps)).regex = ps.foldl (fun r q => .seq q.regex r) p.regex := by
      cases ps <;> rfl
    rw [List.concat_eq_append, List.map_append, List.reverse_append]
    change (sequence (charPiece last :: (before.map charPiece).reverse)).regex = _
    rw [hsequence, List.foldl_reverse]
    induction before with
    | nil => rfl
    | cons c before ih =>
      rw [List.map_cons, List.foldr_cons, ih]
      cases before <;> rfl

theorem piece?_literal (h : IsLiteral token) :
    ∃ p, piece? token = some p ∧ p.regex = literal token.toList ∧ p.depth ≤ 1 := by
  refine ⟨sequence (token.toList.map charPiece).reverse, ?_, sequence_regex _, ?_⟩
  · rw [piece?, read_literal rfl rfl h (Nat.lt_succ_self _)]
    simp [Reading.start, Reading.body, alternatives]
  · refine sequence_depth fun p hp => ?_
    obtain ⟨c, _, rfl⟩ := List.mem_map.mp (List.mem_reverse.mp hp)
    rfl

/-- Only the size can keep such a token from being a pattern. -/
theorem read?_patternText_literal (h : IsLiteral token) {re : Regex} :
    read? (Registry.patternText token) = some re ↔
      stateBytes + (literal token.toList).programSize ≤ sizeLimit ∧
        re = .seq (.assert .textStart) (literal token.toList) := by
  obtain ⟨p, hp, hregex, hdepth⟩ := piece?_literal h
  have hclean : NoComment token := .inr (.inl fun hmem => h '?' hmem (by decide))
  have hanchored : piece? (Registry.patternText token) = some p.anchored := by
    rcases piece?_patternText_cases token with ⟨q, hq, hanchored⟩ | ⟨_, hq | hcomment⟩ | ⟨hq, _⟩
    · obtain rfl : p = q := Option.some.inj (hp.symm.trans hq)
      exact hanchored
    · cases hp.symm.trans hq
    · exact absurd hclean hcomment
    · cases hp.symm.trans hq
  have hfits : p.anchored.Acceptable ↔
      stateBytes + (literal token.toList).programSize ≤ sizeLimit := by
    unfold Piece.Acceptable
    rw [p.anchored_depth, p.anchored_programSize, hregex]
    exact and_iff_right (show p.depth + 2 ≤ 250 by omega)
  rw [read?_eq_some_iff, hanchored]
  simp only [Option.some.injEq, exists_eq_left', hfits, p.anchored_regex, hregex]
  exact and_congr_right' eq_comm

theorem holdsAt_singleton {text : Array Char} {c : Char} {i : Nat} :
    (CharSet.singleton c).holdsAt text i = true ↔ text[i]? = some c := by
  unfold CharSet.holdsAt
  cases text[i]? with
  | none => simp
  | some d => simp [CharSet.contains_singleton, Char.toNat_inj]

theorem matches_literal_iff {text : Array Char} {i j : Nat} :
    Regex.Matches text (literal cs) i j ↔ cs <+: text.toList.drop i ∧ j = i + cs.length := by
  have hhead (c : Char) (i : Nat) : text[i]? = some c ↔ [c] <+: text.toList.drop i := by
    rw [List.singleton_prefix_iff_head?_eq_some, List.head?_drop, Array.getElem?_toList]
  induction cs using literal.induct generalizing i with
  | case1 =>
    constructor
    · intro h
      cases h
      exact ⟨List.nil_prefix, rfl⟩
    · rintro ⟨_, h⟩
      obtain rfl : j = i := h
      exact .empty j
  | case2 c =>
    constructor
    · intro h
      cases h with
      | chars h => exact ⟨(hhead c i).mp (holdsAt_singleton.mp h), rfl⟩
    · rintro ⟨h, rfl⟩
      exact .chars (holdsAt_singleton.mpr ((hhead c i).mpr h))
  | case3 c d cs ih =>
    have hcons : c :: d :: cs <+: text.toList.drop i ↔
        text[i]? = some c ∧ d :: cs <+: text.toList.drop (i + 1) := by
      rw [hhead, ← List.tail_drop]
      cases text.toList.drop i with
      | nil => simp
      | cons e rest => simp [List.cons_prefix_cons]
    rw [hcons]
    constructor
    · intro h
      cases h with
      | seq hc hrest =>
        cases hc with
        | chars hc =>
          obtain ⟨hbegins, rfl⟩ := ih.mp hrest
          exact ⟨⟨holdsAt_singleton.mp hc, hbegins⟩, by simp only [List.length_cons]; omega⟩
    · rintro ⟨⟨hc, hrest⟩, rfl⟩
      refine .seq (.chars (holdsAt_singleton.mpr hc)) (ih.mpr ⟨hrest, ?_⟩)
      simp only [List.length_cons]
      omega

theorem foundIn_literal_iff (text : String) :
    (Regex.seq (.assert .textStart) (literal cs)).foundIn text = true ↔ cs <+: text.toList := by
  have hproper : (literal cs).Proper := by
    induction cs using literal.induct with
    | case1 => trivial
    | case2 => trivial
    | case3 _ _ _ ih => exact ⟨trivial, ih⟩
  rw [Regex.foundIn_textStart_iff hproper]
  simp [matches_literal_iff]

theorem machineSize_literal (hne : cs ≠ []) (hascii : ∀ c ∈ cs, c.toNat < 0x80) :
    (literal cs).machineSize = stateBytes * cs.length := by
  have hchar {c : Char} (hc : c.toNat < 0x80) :
      (Regex.chars (.singleton c)).machineSize = stateBytes := by
    simp [Regex.machineSize, charsMachineSize, CharSet.singleton, CharSet.range, utf8Bytes, hc]
  induction cs using literal.induct with
  | case1 => exact absurd rfl hne
  | case2 c => exact (hchar (hascii c List.mem_cons_self)).trans (Nat.mul_one _).symm
  | case3 c d cs ih =>
    obtain ⟨hc, hrest⟩ := List.forall_mem_cons.mp hascii
    rw [literal, Regex.machineSize, hchar hc, ih (List.cons_ne_nil d cs) hrest]
    simp only [List.length_cons, Nat.mul_add]
    omega

end OrgStacks.Pattern
