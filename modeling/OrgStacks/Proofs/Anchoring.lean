import OrgStacks.Proofs.TrustDocument
import OrgStacks.Proofs.Wrapping

/-!
# Tokens as patterns

A token is matched with `^(?:` before it and `)` behind it. Where the token by itself is a pattern,
this finds the accounts whose id or name it matches from the first character on, or is refused as a
whole. Where the token is no pattern by itself it is refused, unless a comment or a parenthesis of
the token plays into the text around it.
-/

namespace OrgStacks
set_option autoImplicit false

namespace Pattern

/-- What a text is read as, whatever its nesting and size. -/
def piece? (text : String) : Option Piece :=
  Reading.start.read (text.toList.length + 1) text.toList

def Piece.Acceptable (p : Piece) : Prop := p.depth ≤ nestLimit ∧ p.regex.programSize ≤ sizeLimit

theorem read?_eq_some_iff {text : String} {re : Regex} :
    read? text = some re ↔ ∃ p, piece? text = some p ∧ p.Acceptable ∧ p.regex = re := by
  have hread : read? text = (piece? text).bind fun p =>
      if p.depth ≤ nestLimit ∧ p.regex.programSize ≤ sizeLimit then some p.regex else none := rfl
  rw [hread, Option.bind_eq_some_iff]
  constructor
  · rintro ⟨p, hp, h⟩
    split at h
    · next hfits => exact ⟨p, hp, hfits, Option.some.inj h⟩
    · cases h
  · rintro ⟨p, hp, hfits, rfl⟩
    exact ⟨p, hp, if_pos hfits⟩

theorem piece?_proper {text : String} {p : Piece} (h : piece? text = some p) : p.regex.Proper :=
  Reading.Proper.read ⟨by simp [Reading.start], by simp [Reading.start], by simp [Reading.start]⟩ h

def startGroup : GroupFrame := ⟨[{ regex := .assert .textStart }], [], {}, false⟩

def Piece.anchored (p : Piece) : Piece := startGroup.closing p

theorem Piece.anchored_regex (p : Piece) : p.anchored.regex = .seq (.assert .textStart) p.regex :=
  rfl

theorem Piece.anchored_depth (p : Piece) : p.anchored.depth = p.depth + 2 := by
  change max (max 0 (p.depth + 1)) 0 + 1 = p.depth + 2
  omega

theorem Piece.anchored_programSize (p : Piece) :
    p.anchored.regex.programSize = stateBytes + p.regex.programSize :=
  Nat.add_assoc _ _ _

theorem piece?_patternText (token : String) : piece? (Registry.patternText token) =
    (Reading.start.within startGroup).read (token.toList.length + 4) (token.toList ++ [')']) := by
  have htext : (Registry.patternText token).toList = "^(?:".toList ++ (token.toList ++ [')']) := by
    unfold Registry.patternText
    rw [String.toList_append, String.toList_append, List.append_assoc]
    rfl
  have hlength :
      (Registry.patternText token).toList.length + 1 = token.toList.length + 4 + 1 + 1 := by
    rw [htext]
    simp
  let caret : Reading := Reading.start.push { regex := .assert .textStart }
  have hcaret (rest : List Char) : Reading.start.advance '^' rest = some (caret, rest) := rfl
  have hgroup (rest : List Char) : caret.advance '(' ('?' :: ':' :: rest) =
      some (Reading.start.within startGroup, rest) := rfl
  rw [piece?, hlength, htext, Reading.read_succ]
  change (Reading.start.advance '^' ('(' :: '?' :: ':' :: (token.toList ++ [')']))).bind _ = _
  rw [hcaret, Option.bind_some]
  change caret.read (token.toList.length + 4 + 1) ('(' :: '?' :: ':' :: (token.toList ++ [')'])) = _
  rw [caret.read_succ]
  change (caret.advance '(' ('?' :: ':' :: (token.toList ++ [')']))).bind _ = _
  rw [hgroup]
  rfl

/-- No comment begins in a token: some sign that a comment takes is missing. -/
def NoComment (token : String) : Prop :=
  '#' ∉ token.toList ∨ '?' ∉ token.toList ∨ 'x' ∉ token.toList

theorem NoComment.start {token : String} (h : NoComment token) :
    Reading.start.CommentFree token.toList :=
  h.imp_right fun h => ⟨⟨rfl, by simp [Reading.start]⟩, h⟩

/-- A token and the pattern made of it: both are well formed, or the token only is and a comment
takes in the closing parenthesis, or the token closes the group before its end. -/
theorem piece?_patternText_cases (token : String) :
    (∃ p, piece? token = some p ∧ piece? (Registry.patternText token) = some p.anchored) ∨
    (piece? (Registry.patternText token) = none ∧ (piece? token = none ∨ ¬ NoComment token)) ∨
    (piece? token = none ∧ (NoComment token → ∃ before after : String,
      token = before ++ ")" ++ after ∧ ∃ p, piece? before = some p)) := by
  rw [piece?_patternText]
  have hcases := @Reading.read_within token.toList Reading.start startGroup
    (token.toList.length + 1) (token.toList.length + 4) (by omega) (by omega)
  rcases hcases with h | ⟨hnone, h⟩ | ⟨hnone, h⟩
  · exact .inl h
  · exact .inr (.inl ⟨hnone, h.imp_right fun h hclean => h hclean.start⟩)
  · refine .inr (.inr ⟨hnone, fun hclean => ?_⟩)
    obtain ⟨before, after, htoken, hread⟩ := h hclean.start
    refine ⟨String.ofList before, String.ofList after, ?_, ?_⟩
    · rw [← String.toList_inj, htoken]
      simp
    · have hlength : before.length < token.toList.length := by
        rw [htoken]
        simp
      rw [Reading.start.read_fuel (m := before.length + 1) (by omega) (by omega)] at hread
      unfold piece?
      rw [String.toList_ofList]
      exact Option.isSome_iff_exists.mp hread

/-- Where the text around a token does not play into it: no comment takes in the closing
parenthesis, no parenthesis of the token comes first, and the limits have room for the group. -/
structure StandsAlone (token : String) : Prop where
  no_comment : NoComment token
  no_early_close : ∀ before after, token = before ++ ")" ++ after → piece? before = none
  room : ∀ p, piece? token = some p → p.Acceptable →
    p.depth + 2 ≤ nestLimit ∧ p.regex.programSize + stateBytes ≤ sizeLimit

theorem acceptable_of_anchored {p : Piece} (h : p.anchored.Acceptable) : p.Acceptable := by
  unfold Piece.Acceptable at h ⊢
  rw [p.anchored_depth, p.anchored_programSize] at h
  omega

theorem read?_patternText_eq {token : String} {re anchored : Regex} (h : read? token = some re)
    (hanchored : read? (Registry.patternText token) = some anchored) :
    re.Proper ∧ anchored = .seq (.assert .textStart) re := by
  obtain ⟨p, hp, _, rfl⟩ := read?_eq_some_iff.mp h
  obtain ⟨q, hq, _, rfl⟩ := read?_eq_some_iff.mp hanchored
  refine ⟨piece?_proper hp, ?_⟩
  rcases piece?_patternText_cases token with ⟨p', hp', hq'⟩ | ⟨hnone, _⟩ | ⟨hnone, _⟩
  · obtain rfl : p = p' := Option.some.inj (hp.symm.trans hp')
    obtain rfl : q = p.anchored := Option.some.inj (hq.symm.trans hq')
    rfl
  · cases hnone.symm.trans hq
  · cases hnone.symm.trans hp

theorem StandsAlone.read?_iff {token : String} (h : StandsAlone token) :
    read? (Registry.patternText token) = none ↔ read? token = none := by
  simp only [Option.eq_none_iff_forall_ne_some, ne_eq, read?_eq_some_iff]
  rcases piece?_patternText_cases token with ⟨p, hp, hanchored⟩ | ⟨hlong, hshort⟩ | ⟨hshort, hclose⟩
  · constructor
    · rintro hlong re ⟨p', hp', hfits, rfl⟩
      obtain rfl : p = p' := Option.some.inj (hp.symm.trans hp')
      refine hlong _ ⟨p.anchored, hanchored, ?_, rfl⟩
      obtain ⟨hdepth, hsize⟩ := h.room p hp hfits
      refine ⟨by rwa [p.anchored_depth], ?_⟩
      rw [p.anchored_programSize]
      omega
    · rintro hshort re ⟨q, hq, hfits, rfl⟩
      obtain rfl : p.anchored = q := Option.some.inj (hanchored.symm.trans hq)
      exact hshort _ ⟨p, hp, acceptable_of_anchored hfits, rfl⟩
  · have hnone : piece? token = none := hshort.resolve_right fun hcomment => hcomment h.no_comment
    simp [hlong, hnone]
  · obtain ⟨before, after, rfl, p, hp⟩ := hclose h.no_comment
    rw [h.no_early_close before after rfl] at hp
    cases hp

def Regex.MatchesStart (re : Regex) (text : String) : Prop :=
  ∃ j, re.Matches text.toList.toArray 0 j

end Pattern

def Account.StartsWith (a : Account) (re : Pattern.Regex) : Prop :=
  re.MatchesStart a.id ∨ re.MatchesStart a.name

namespace Registry
variable {r : Registry} {token : String}

def Refuses (r : Registry) (token : String) : Prop :=
  ∃ reason, r.selectOne token = .error (.invalidPattern token reason)

theorem refuses_iff (h : Token.classify r token = .pattern token) :
    r.Refuses token ↔ Pattern.read? (patternText token) = none := by
  constructor
  · rintro ⟨reason, hreason⟩
    rw [selectOne_eq_selectedBy, selectedBy_eq_error_iff, tokenProblem?, h] at hreason
    dsimp only at hreason
    split at hreason
    · assumption
    · split at hreason <;> cases hreason
  · intro hnone
    exact ⟨_, IsInvalidPattern.selectOne_eq ⟨h, hnone⟩⟩

theorem found_iff {re anchored : Pattern.Regex} (hre : Pattern.read? token = some re)
    (hanchored : Pattern.read? (patternText token) = some anchored) {a : Account} :
    (anchored.foundIn a.id = true ∨ anchored.foundIn a.name = true) ↔ a.StartsWith re := by
  obtain ⟨hproper, rfl⟩ := Pattern.read?_patternText_eq hre hanchored
  rw [Pattern.Regex.foundIn_textStart_iff hproper, Pattern.Regex.foundIn_textStart_iff hproper]
  rfl

theorem selectOne_pattern {re : Pattern.Regex} (h : Token.classify r token = .pattern token)
    (hre : Pattern.read? token = some re) (haccepted : ¬ r.Refuses token) :
    ((∃ a ∈ r.toList, a.StartsWith re) → ∃ s, r.selectOne token = .ok s ∧
      ∀ name, name ∈ s ↔ ∃ a ∈ r.toList, a.StartsWith re ∧ a.name = name) ∧
    ((∀ a ∈ r.toList, ¬ a.StartsWith re) →
      r.selectOne token = .error (.unresolvedPattern token)) := by
  obtain ⟨anchored, hanchored⟩ : ∃ anchored, Pattern.read? (patternText token) = some anchored :=
    Option.ne_none_iff_exists'.mp fun hnone => haccepted ((refuses_iff h).mpr hnone)
  have hfound {a : Account} := found_iff (a := a) hre hanchored
  constructor
  · rintro ⟨a, ha, hstarts⟩
    have hnone : r.tokenProblem? token = none := by
      simp only [tokenProblem?, h, hanchored]
      exact if_pos ⟨a, ha, hfound.mpr hstarts⟩
    obtain ⟨s, hs⟩ := tokenProblem?_eq_none_iff.mp hnone
    refine ⟨s, (selectOne_eq_selectedBy r token).trans hs, fun name => ?_⟩
    rw [selectedBy, h] at hs
    rw [mem_matching hs]
    simp only [hanchored, Option.some.injEq, exists_eq_left', hfound]
  · intro hno
    rw [selectOne_eq_selectedBy, selectedBy_eq_error_iff]
    simp only [tokenProblem?, h, hanchored]
    refine if_neg ?_
    rintro ⟨a, ha, hfoundIn⟩
    exact hno a ha (hfound.mp hfoundIn)

end Registry

/-- A token that reaches the patterns is refused exactly when it is no pattern by itself, unless
the text around it plays into it. When it is a pattern and is not refused, it selects the accounts
whose id or name it matches from the first character on, and it fails when there is none. -/
theorem patterns_match_from_start {r : Registry} {token : String}
    (h : Token.classify r token = .pattern token) :
    (Pattern.StandsAlone token → (r.Refuses token ↔ Pattern.read? token = none)) ∧
    (∀ re, Pattern.read? token = some re → ¬ r.Refuses token →
      ((∃ a ∈ r.toList, a.StartsWith re) → ∃ s, r.selectOne token = .ok s ∧
        ∀ name, name ∈ s ↔ ∃ a ∈ r.toList, a.StartsWith re ∧ a.name = name) ∧
      ((∀ a ∈ r.toList, ¬ a.StartsWith re) →
        r.selectOne token = .error (.unresolvedPattern token))) ∧
    (Pattern.StandsAlone token → ∀ s, r.selectOne token = .ok s → ∀ name ∈ s,
      ∃ re, Pattern.read? token = some re ∧ ∃ a ∈ r.toList, a.StartsWith re ∧ a.name = name) := by
  have hrefuses (halone : Pattern.StandsAlone token) :
      r.Refuses token ↔ Pattern.read? token = none :=
    (Registry.refuses_iff h).trans halone.read?_iff
  refine ⟨hrefuses, fun re hre haccepted => Registry.selectOne_pattern h hre haccepted, ?_⟩
  intro halone s hs name hname
  have haccepted : ¬ r.Refuses token := by
    rintro ⟨reason, hreason⟩
    cases hs.symm.trans hreason
  obtain ⟨re, hre⟩ : ∃ re, Pattern.read? token = some re :=
    Option.ne_none_iff_exists'.mp fun hnone => haccepted ((hrefuses halone).mpr hnone)
  obtain ⟨hsome, hnone⟩ := Registry.selectOne_pattern h hre haccepted
  by_cases hany : ∃ a ∈ r.toList, a.StartsWith re
  · obtain ⟨s', hs', hmem⟩ := hsome hany
    obtain rfl : s = s' := Except.ok.inj (hs.symm.trans hs')
    exact ⟨re, hre, (hmem name).mp hname⟩
  · cases hs.symm.trans (hnone fun a ha hstarts => hany ⟨a, ha, hstarts⟩)

theorem standsAlone_choice : Pattern.StandsAlone "dev|pr" := by
  have hread : ∃ p, Pattern.piece? "dev|pr" = some p ∧ p.depth + 2 ≤ Pattern.nestLimit ∧
      p.regex.programSize + Pattern.stateBytes ≤ Pattern.sizeLimit :=
    ⟨_, rfl, by decide +kernel, by decide +kernel⟩
  constructor
  case no_comment => exact .inl (by decide)
  case no_early_close =>
    intro before after htoken
    have hmem : ')' ∈ "dev|pr".toList := by simp [htoken]
    exact absurd hmem (by decide)
  case room =>
    intro p hp _
    obtain ⟨p', hp', hroom⟩ := hread
    obtain rfl : p = p' := Option.some.inj (hp.symm.trans hp')
    exact hroom

theorem choice_selects_dev_and_prod :
    ∃ r s re, Registry.ofAccounts threeAccounts = .ok r ∧ Pattern.StandsAlone "dev|pr" ∧
      ¬ r.Refuses "dev|pr" ∧ Pattern.read? "dev|pr" = some re ∧ r.selectOne "dev|pr" = .ok s ∧
      (∀ name, name ∈ s ↔ ∃ a ∈ r.toList, a.StartsWith re ∧ a.name = name) ∧
      "dev" ∈ s ∧ "prod" ∈ s ∧ "root" ∉ s := by
  obtain ⟨r, hr, s, hs, htoken, hdev, hprod, hroot⟩ :
      ∃ r, Registry.ofAccounts threeAccounts = .ok r ∧ ∃ s, r.selectOne "dev|pr" = .ok s ∧
        Token.classify r "dev|pr" = .pattern "dev|pr" ∧ "dev" ∈ s ∧ "prod" ∈ s ∧ "root" ∉ s :=
    ⟨_, rfl, _, rfl, rfl, by decide +kernel, by decide +kernel, by decide +kernel⟩
  obtain ⟨_, hselects, hstarts⟩ := patterns_match_from_start htoken
  have haccepted : ¬ r.Refuses "dev|pr" := by
    rintro ⟨reason, hreason⟩
    cases hs.symm.trans hreason
  obtain ⟨re, hre, a, ha, ha', _⟩ := hstarts standsAlone_choice s hs "prod" hprod
  obtain ⟨s', hs', hmem⟩ := (hselects re hre haccepted).1 ⟨a, ha, ha'⟩
  obtain rfl : s = s' := Except.ok.inj (hs.symm.trans hs')
  exact ⟨r, s, re, hr, standsAlone_choice, haccepted, hre, hs, hmem, hdev, hprod, hroot⟩

/-- A parenthesis of the token closes the group around it, and what follows is found in the middle
of a name. -/
theorem early_close_selects_prod :
    ∃ r s, Registry.ofAccounts threeAccounts = .ok r ∧
      Token.classify r "dev)|(?:rod" = .pattern "dev)|(?:rod" ∧
      Pattern.read? "dev)|(?:rod" = none ∧ r.selectOne "dev)|(?:rod" = .ok s ∧ "prod" ∈ s := by
  refine ⟨_, _, rfl, rfl, ?_, rfl, ?_⟩
  · decide +kernel
  · decide +kernel

end OrgStacks
