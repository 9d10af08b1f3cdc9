import OrgStacks.Proofs.Brackets
import OrgStacks.Proofs.Matching

/-!
# Patterns, piece by piece

`Reading` is what the reading of a pattern carries along, and `Reading.advance` reads one piece.
Each piece is read the same whether or not a closing parenthesis follows the text.
-/

namespace OrgStacks.Pattern
set_option autoImplicit false

variable {α β : Type} {cs v : List Char} {f : Flags} {C : Prop}

theorem drop_length_takeWhile (p : Char → Bool) (cs : List Char) :
    cs.drop (cs.takeWhile p).length = cs.dropWhile p := by
  induction cs with
  | nil => rfl
  | cons c cs ih =>
    by_cases h : p c = true
    · simpa [h] using ih
    · simp [h]

theorem steady_dropWhile {p : Char → Bool} (hp : p ')' = false) :
    Steady C fun cs => some ((), cs.dropWhile p) := by
  have h := (steady_takeWhile (C := C) hp).map fun _ => ()
  simp only [drop_length_takeWhile] at h
  exact h

theorem steady_readDecimal : Steady f.spaced (readDecimal f) := by
  have hspaces : Steady f.spaced fun cs => some ((), cs.dropWhile Text.isSpace) :=
    steady_dropWhile rfl
  have hnumber (digits : List Char) : Steady f.spaced fun cs =>
      if digits.isEmpty then none
      else
        let n := digits.foldl (fun n c => n * 10 + (c.toNat - '0'.toNat)) 0
        if n < Nat.pow 2 32 then some (n, cs.dropWhile Text.isSpace) else none :=
    steady_none.ite _ ((hspaces.map fun _ => _).ite _ steady_none)
  exact hspaces.bind fun _ => (f.steady_takeSpaced rfl).bind hnumber

def readMost (f : Flags) (least : Nat) (cs : List Char) :
    Option ((Nat × Option Nat) × List Char) :=
  if ['\x7d'] <+: cs then some ((least, none), cs.drop 1)
  else (readDecimal f cs).bind fun (most, rest) =>
    match rest with
    | '\x7d' :: rest => if least ≤ most then some ((least, some most), rest) else none
    | _ => none

def readUpper (f : Flags) (least : Nat) (cs : List Char) :
    Option ((Nat × Option Nat) × List Char) :=
  match cs with
  | [] => none
  | c :: rest =>
    if c = '\x7d' then some ((least, some least), rest)
    else if c = ',' then readMost f least (f.skip rest)
    else none

theorem steady_readUpper (least : Nat) : Steady f.spaced (readUpper f least) := by
  have hmost : Steady f.spaced (readMost f least) := by
    have hbound (most : Nat) : Steady f.spaced fun cs =>
        if least ≤ most then some ((least, some most), cs) else none :=
      (steady_some _).ite _ steady_none
    have hdecimal := (steady_readDecimal (f := f)).bind fun most => steady_brace (hbound most)
    exact (steady_some (least, (none : Option Nat))).prefixed ['\x7d'] (by simp) hdecimal
  have hnext (c : Char) : Steady f.spaced fun cs =>
      if c = '\x7d' then some ((least, some least), cs)
      else if c = ',' then readMost f least (f.skip cs)
      else none :=
    (steady_some _).ite _ ((f.skip_steady hmost).ite _ steady_none)
  exact steady_cons hnext

theorem readCounts_eq (cs : List Char) : (readCounts f cs).map paired =
    (readDecimal f (f.skip cs)).bind fun (least, rest) => readUpper f least rest := by
  unfold readCounts
  rcases readDecimal f (f.skip cs) with _ | ⟨least, _ | ⟨c, rest⟩⟩
  · rfl
  · rfl
  by_cases hclose : c = '\x7d'
  · subst hclose
    rfl
  by_cases hcomma : c = ','
  · subst hcomma
    simp only [Option.bind_eq_bind, Option.bind_some, readUpper, if_neg hclose, if_true]
    unfold readMost
    split
    · next more hmore =>
      rw [hmore, if_pos (by simp)]
      rfl
    · next hopen =>
      rw [if_neg]
      · rcases readDecimal f (f.skip rest) with _ | ⟨most, rest'⟩
        · rfl
        · by_cases hbrace : ∃ more, rest' = '\x7d' :: more
          · obtain ⟨more, rfl⟩ := hbrace
            simp only [Option.bind_some]
            split <;> rfl
          · -- With this at hand both sides are known to take the last case.
            have hother (more : List Char) : rest' = '\x7d' :: more → False :=
              fun h => hbrace ⟨more, h⟩
            simp only [Option.bind_some, Option.map_none]
      · rintro ⟨more, hmore⟩
        exact hopen more hmore.symm
  · simp only [Option.bind_eq_bind, Option.bind_some, readUpper, if_neg hclose, if_neg hcomma]
    split
    · next h => exact absurd (List.cons.inj h).1 hclose
    · next h => exact absurd (List.cons.inj h).1 hcomma
    · rfl

theorem steady_readCounts : Steady f.spaced fun cs => (readCounts f cs).map paired := by
  rw [funext readCounts_eq]
  exact f.skip_steady (steady_readDecimal.bind steady_readUpper)

def readFlagSet (f : Flags) (on : Bool) (seen cs : List Char) :
    Option ((Flags × List Char × Char) × List Char) :=
  (readFlags f on seen cs).map fun (f, seen, closing, rest) => ((f, seen, closing), rest)

theorem readFlagSet_cons (on : Bool) (seen : List Char) (c : Char) (cs : List Char) :
    readFlagSet f on seen (c :: cs) =
      if c = ':' ∨ c = ')' then
        if seen.head? = some '-' then none else some ((f, seen, c), cs)
      else if seen.contains c then none
      else if c = '-' then readFlagSet f false (c :: seen) cs
      else (f.set c on).bind fun f => readFlagSet f on (c :: seen) cs := by
  unfold readFlagSet
  rw [readFlags]
  by_cases hclosing : c = ':' ∨ c = ')'
  · rw [if_pos hclosing, if_pos hclosing]
    split <;> rfl
  rw [if_neg hclosing, if_neg hclosing]
  by_cases hseen : seen.contains c = true
  · rw [if_pos hseen, if_pos hseen]
    rfl
  rw [if_neg hseen, if_neg hseen]
  by_cases hminus : c = '-'
  · rw [if_pos hminus, if_pos hminus]
  rw [if_neg hminus, if_neg hminus]
  cases f.set c on <;> rfl

theorem readFlagSet_shrinks (on : Bool) (seen : List Char) : Shrinks (readFlagSet f on seen) := by
  intro cs
  induction cs generalizing on f seen with
  | nil =>
    intro x rest h
    cases h
  | cons c cs ih =>
    have htail : cs <:+ c :: cs := List.suffix_cons c cs
    intro x rest h
    rw [readFlagSet_cons] at h
    split at h
    · split at h
      · cases h
      · cases h
        exact htail
    split at h
    · cases h
    split at h
    · exact (ih _ _ _ _ h).trans htail
    · obtain ⟨f', _, h⟩ := Option.bind_eq_some_iff.mp h
      exact (ih _ _ _ _ h).trans htail

theorem steady_readFlagSet (on : Bool) (seen : List Char) : Steady C (readFlagSet f on seen) := by
  refine ⟨readFlagSet_shrinks on seen, ?_⟩
  intro cs v hfits
  clear hfits
  induction cs generalizing on f seen with
  | nil =>
    refine .inr ⟨.inl rfl, ?_⟩
    intro x rest h
    rw [List.nil_append, readFlagSet_cons, if_pos (.inr rfl)] at h
    split at h
    · cases h
    · cases h
      exact List.suffix_rfl
  | cons c cs ih =>
    have htail : cs <:+ c :: cs := List.suffix_cons c cs
    rw [List.cons_append, readFlagSet_cons, readFlagSet_cons]
    refine Agree.of_suffix ?_ htail
    split
    · split
      · exact .failed
      · exact .kept _
    split
    · exact .failed
    split
    · exact ih _ _
    · cases f.set c on with
      | none => exact .failed
      | some f' => exact ih _ _

theorem steady_readGroupName : Steady f.spaced readGroupName := by
  unfold readGroupName
  refine steady_span _ fun name => ?_
  cases name with
  | nil => exact steady_none
  | cons first more => exact (steady_some _).ite _ steady_none

theorem steady_dropLazy : Steady C fun cs => some ((), dropLazy cs) := by
  convert (steady_some ()).prefixed ['?'] (by simp) (steady_some ()) with cs
  by_cases h : ['?'] <+: cs
  · obtain ⟨rest, rfl⟩ := h
    rfl
  · rw [if_neg h]
    cases cs with
    | nil => rfl
    | cons c rest =>
      have hc : c ≠ '?' := by
        rintro rfl
        simp at h
      unfold dropLazy
      split
      · next heq => exact absurd (List.cons.inj heq).1 hc
      · rfl

def escapePiece? (f : Flags) : Escape → Option Piece
  | .char c asByte =>
    if asByte && !f.unicode && 0x7F < c.toNat then none else some { regex := f.charRegex c }
  | .chars set => some { regex := .chars set }
  | .assertion a => some { regex := .assert a }

theorem readPrimitive_escape (cs : List Char) : readPrimitive f ('\\' :: cs) =
    (readEscape f cs).bind fun (escape, rest) =>
      (escapePiece? f escape).map fun p => (p, rest) := by
  rw [readPrimitive]
  rcases readEscape f cs with _ | ⟨_ | _ | _, rest⟩
  · rfl
  · simp only [Option.bind_eq_bind, Option.bind_some, escapePiece?]
    split <;> rfl
  · rfl
  · rfl

theorem readPrimitive_class (cs : List Char) : readPrimitive f ('[' :: cs) =
    (openItems f cs).bind fun ((negated, items), rest) =>
      (readClass f (rest.length + 1) [.opened {} negated] items rest).map fun (part, rest) =>
        ({ regex := .chars part.chars, depth := part.depth }, rest) := by
  have h := @openBracket_bind _ cs f (fun negated items rest =>
    (readClass f (rest.length + 1) [.opened {} negated] items rest).map fun (part, rest) =>
      (({ regex := .chars part.chars, depth := part.depth } : Piece), rest)) (by simp)
  rw [← h, readPrimitive]
  rcases openBracket f cs with _ | ⟨negated, items, rest⟩
  · rfl
  · simp only [Option.bind_eq_bind, Option.bind_some]
    rcases readClass f (rest.length + 1) [.opened {} negated] items rest with _ | ⟨part, rest⟩
    · rfl
    · rfl

theorem readPrimitive_steady {c : Char} (hc : c ≠ '\\') :
    Steady f.spaced fun cs => readPrimitive f (c :: cs) := by
  by_cases hclass : c = '['
  · subst hclass
    rw [funext readPrimitive_class]
    have hpart (negated : Bool) (items : ClassItems) := (steady_readClass (f := f)
      [.opened {} negated] items).map fun part =>
        ({ regex := .chars part.chars, depth := part.depth } : Piece)
    exact steady_openItems.bind fun p => hpart p.1 p.2
  by_cases hdot : c = '.'
  · subst hdot
    exact steady_option_map _ _
  by_cases hstart : c = '^'
  · subst hstart
    exact steady_some _
  by_cases hend : c = '$'
  · subst hend
    exact steady_some _
  · simp only [readPrimitive]
    exact steady_some _

/-- A single piece, unless it is a word boundary that is cut off. -/
theorem readPrimitive_shrinks (c : Char) : Shrinks fun cs => readPrimitive f (c :: cs) := by
  by_cases hc : c = '\\'
  · subst hc
    rw [funext readPrimitive_escape]
    have hpiece (e : Escape) := steady_option_map (C := f.spaced) (escapePiece? f e) fun p => p
    exact readEscape_shrinks.bind fun e => (hpiece e).shrinks
  · exact (readPrimitive_steady hc).shrinks

theorem readPrimitive_agree {c : Char} (hfits : Fits f.spaced cs v)
    (hcs : c = '\\' → ¬ CutEdge f cs) :
    Agree f.spaced cs v (readPrimitive f (c :: cs)) (readPrimitive f (c :: (cs ++ ')' :: v))) := by
  by_cases hc : c = '\\'
  · subst hc
    rw [readPrimitive_escape, readPrimitive_escape]
    have hpiece (e : Escape) := steady_option_map (C := f.spaced) (escapePiece? f e) fun p => p
    exact (readEscape_agree hfits (hcs rfl)).bind (fun e => (hpiece e).shrinks)
      fun e rest hrest => (hpiece e).agree rest v (hfits.suffix hrest)
  · exact (readPrimitive_steady hc).agree cs v hfits

/-- What the reading of a pattern carries along. -/
structure Reading where
  stack : List GroupFrame
  names : List (List Char)
  flags : Flags
  pieces : List Piece
  branches : List Piece

namespace Reading
variable (s : Reading)

def start : Reading := ⟨[], [], {}, [], []⟩

/-- What has been read of the group or the pattern so far. -/
def body : Piece := alternatives (sequence s.pieces :: s.branches)

def finish : Option Piece := if s.stack.isEmpty then some s.body else none

def push (p : Piece) : Reading := { s with pieces := p :: s.pieces }

def opened (inner : Flags) (captures : Bool) (names : List (List Char)) : Reading :=
  ⟨⟨s.pieces, s.branches, s.flags, captures⟩ :: s.stack, names, inner, [], []⟩

def closed? : Option Reading :=
  match s.stack with
  | [] => none
  | frame :: stack =>
    let regex := if frame.captures then .capture s.body.regex else s.body.regex
    some ⟨stack, s.names, frame.flags, { regex, depth := s.body.depth + 1 } :: frame.pieces,
      frame.branches⟩

def named (cs : List Char) : Option (Reading × List Char) :=
  (readGroupName cs).bind fun (name, rest) =>
    if s.names.contains name then none else some (s.opened s.flags true (name :: s.names), rest)

/-- A group with flags, or flags for the rest of the group. -/
def flagged (cs : List Char) : Option (Reading × List Char) :=
  (readFlagSet s.flags true [] cs).bind fun ((inner, seen, closing), rest) =>
    if closing = ':' then some (s.opened inner false s.names, rest)
    else if seen.isEmpty then none
    else some (({ s with flags := inner } : Reading).push { repeatable := false }, rest)

def group (cs : List Char) : Option (Reading × List Char) :=
  if ['?', '='] <+: cs then none
  else if ['?', '!'] <+: cs then none
  else if ['?', '<', '='] <+: cs then none
  else if ['?', '<', '!'] <+: cs then none
  else if ['?', 'P', '<'] <+: cs then s.named (cs.drop 3)
  else if ['?', '<'] <+: cs then s.named (cs.drop 2)
  else if ['?'] <+: cs then s.flagged (cs.drop 1)
  else some (s.opened s.flags true s.names, cs)

def repeated (least : Nat) (most : Option Nat) : Option Reading :=
  (repeatLast least most s.pieces).map fun pieces => { s with pieces }

def advance (c : Char) (cs : List Char) : Option (Reading × List Char) :=
  if c = '(' then s.group (s.flags.skip cs)
  else if c = ')' then s.closed?.map fun s => (s, cs)
  else if c = '|' then
    some ({ s with pieces := [], branches := sequence s.pieces :: s.branches }, cs)
  else if c = '?' then (s.repeated 0 (some 1)).map fun s => (s, dropLazy cs)
  else if c = '*' then (s.repeated 0 none).map fun s => (s, dropLazy cs)
  else if c = '+' then (s.repeated 1 none).map fun s => (s, dropLazy cs)
  else if c = '\x7b' then
    ((readCounts s.flags cs).map paired).bind fun (counts, rest) =>
      (s.repeated counts.1 counts.2).map fun next => (next, dropLazy (s.flags.skip rest))
  else (readPrimitive s.flags (c :: cs)).map fun (p, rest) => (s.push p, rest)

theorem group_steady : Steady s.flags.spaced s.group := by
  have hnamed : Steady s.flags.spaced s.named := by
    have hfresh (name : List Char) : Steady s.flags.spaced fun cs =>
        if s.names.contains name then none
        else some (s.opened s.flags true (name :: s.names), cs) :=
      steady_none.ite _ (steady_some _)
    exact steady_readGroupName.bind hfresh
  have hflagged : Steady s.flags.spaced s.flagged := by
    have hset (p : Flags × List Char × Char) : Steady s.flags.spaced fun cs =>
        if p.2.2 = ':' then some (s.opened p.1 false s.names, cs)
        else if p.2.1.isEmpty then none
        else some (({ s with flags := p.1 } : Reading).push { repeatable := false }, cs) :=
      (steady_some _).ite _ (steady_none.ite _ (steady_some _))
    exact (steady_readFlagSet true []).bind hset
  exact steady_none.prefixed ['?', '='] (by simp) <|
    steady_none.prefixed ['?', '!'] (by simp) <|
    steady_none.prefixed ['?', '<', '='] (by simp) <|
    steady_none.prefixed ['?', '<', '!'] (by simp) <|
    hnamed.prefixed ['?', 'P', '<'] (by simp) <|
    hnamed.prefixed ['?', '<'] (by simp) <|
    hflagged.prefixed ['?'] (by simp) (steady_some _)

theorem steady_repetition (s? : Option Reading) :
    Steady C fun cs => s?.map fun s => (s, dropLazy cs) := by
  cases s? with
  | none => exact steady_none
  | some s => exact steady_dropLazy.map fun _ => s

theorem advance_steady {c : Char} (hc : c ≠ '\\') : Steady s.flags.spaced (s.advance c) := by
  have hprimitive := (readPrimitive_steady (f := s.flags) hc).map s.push
  have hcounts := (steady_readCounts (f := s.flags)).bind fun p =>
    s.flags.skip_steady (steady_repetition (s.repeated p.1 p.2))
  exact (s.flags.skip_steady s.group_steady).ite (c = '(') <|
    (steady_option_map s.closed? _).ite (c = ')') <|
    (steady_some _).ite (c = '|') <|
    (steady_repetition _).ite (c = '?') <|
    (steady_repetition _).ite (c = '*') <|
    (steady_repetition _).ite (c = '+') <|
    hcounts.ite (c = '\x7b') hprimitive

theorem advance_escape (cs : List Char) : s.advance '\\' cs =
    (readPrimitive s.flags ('\\' :: cs)).map fun (p, rest) => (s.push p, rest) := rfl

theorem advance_shrinks (c : Char) : Shrinks (s.advance c) := by
  by_cases hc : c = '\\'
  · subst hc
    intro cs x rest h
    rw [advance_escape] at h
    obtain ⟨p, hp, hx⟩ := Option.map_eq_some_iff.mp h
    cases hx
    exact readPrimitive_shrinks _ _ _ _ hp
  · exact (s.advance_steady hc).shrinks

theorem advance_agree {c : Char} (hfits : Fits s.flags.spaced cs v)
    (hcs : c = '\\' → ¬ CutEdge s.flags cs) :
    Agree s.flags.spaced cs v (s.advance c cs) (s.advance c (cs ++ ')' :: v)) := by
  by_cases hc : c = '\\'
  · subst hc
    rw [advance_escape, advance_escape]
    exact (readPrimitive_agree hfits hcs).map s.push
  · exact (s.advance_steady hc).agree cs v hfits

/-- Reads pieces until the text ends. -/
def read (n : Nat) (cs : List Char) : Option Piece :=
  readPieces n s.stack s.names s.flags s.pieces s.branches cs

theorem named_bind (n : Nat) (cs : List Char) :
    (s.named cs).bind (fun (s, rest) => s.read n rest) =
      (readGroupName cs).bind fun (name, rest) =>
        if s.names.contains name then none
        else (s.opened s.flags true (name :: s.names)).read n rest := by
  unfold named
  rcases readGroupName cs with _ | ⟨name, rest⟩
  · rfl
  · simp only [Option.bind_some]
    split <;> rfl

theorem flagged_bind (n : Nat) (cs : List Char) :
    (s.flagged cs).bind (fun (s, rest) => s.read n rest) =
      (readFlags s.flags true [] cs).bind fun (inner, seen, closing, rest) =>
        if closing = ':' then (s.opened inner false s.names).read n rest
        else if seen.isEmpty then none
        else (({ s with flags := inner } : Reading).push { repeatable := false }).read n rest := by
  unfold flagged readFlagSet
  rcases readFlags s.flags true [] cs with _ | ⟨inner, seen, closing, rest⟩
  · rfl
  · simp only [Option.map_some, Option.bind_some]
    split
    · rfl
    · split <;> rfl

theorem group_bind (n : Nat) (cs : List Char) :
    (s.group cs).bind (fun (s, rest) => s.read n rest) =
      match cs with
      | '?' :: '=' :: _ | '?' :: '!' :: _ | '?' :: '<' :: '=' :: _ | '?' :: '<' :: '!' :: _ => none
      | '?' :: 'P' :: '<' :: rest => (s.named rest).bind fun (s, rest) => s.read n rest
      | '?' :: '<' :: rest => (s.named rest).bind fun (s, rest) => s.read n rest
      | '?' :: rest => (s.flagged rest).bind fun (s, rest) => s.read n rest
      | rest => (s.opened s.flags true s.names).read n rest := by
  have hno (ds : List Char) (h : ∀ rest, cs = ds ++ rest → False) : ¬ ds <+: cs := by
    rintro ⟨rest, rfl⟩
    exact h rest rfl
  split
  · rfl
  · rfl
  · rfl
  · rfl
  · rfl
  · next rest h₁ h₂ =>
    unfold group
    rw [if_neg (hno _ (by simp)), if_neg (hno _ (by simp)), if_neg (hno _ (by simpa using h₁)),
      if_neg (hno _ (by simpa using h₂)), if_neg (hno _ (by simp)), if_pos (by simp)]
    rfl
  · next rest h₁ h₂ h₃ h₄ h₅ h₆ =>
    unfold group
    rw [if_neg (hno _ (by simpa using h₁)), if_neg (hno _ (by simpa using h₂)),
      if_neg (hno _ (by simpa using h₃)), if_neg (hno _ (by simpa using h₄)),
      if_neg (hno _ (by simpa using h₅)), if_neg (hno _ (by simpa using h₆)), if_pos (by simp)]
    rfl
  · next h₁ h₂ h₃ h₄ h₅ h₆ h₇ =>
    unfold group
    rw [if_neg (hno _ h₁), if_neg (hno _ h₂), if_neg (hno _ h₃), if_neg (hno _ h₄),
      if_neg (hno _ h₅), if_neg (hno _ h₆), if_neg (hno _ h₇)]
    rfl

theorem repeated_bind (n least : Nat) (most : Option Nat) (cs : List Char) :
    ((s.repeated least most).map fun next => (next, cs)).bind
      (fun (s, rest) => s.read n rest) =
    (repeatLast least most s.pieces).bind fun pieces =>
      readPieces n s.stack s.names s.flags pieces s.branches cs := by
  unfold repeated
  cases repeatLast least most s.pieces <;> rfl

theorem read_succ (n : Nat) (cs : List Char) : s.read (n + 1) cs =
    match s.flags.skip cs with
    | [] => s.finish
    | c :: rest => (s.advance c rest).bind fun (s, rest) => s.read n rest := by
  rw [read, readPieces.eq_def]
  dsimp only
  cases s.flags.skip cs with
  | nil =>
    unfold finish
    cases s.stack <;> rfl
  | cons c rest =>
    by_cases hopen : c = '('
    · subst hopen
      simp only [advance, if_true]
      rw [group_bind]
      simp only [named_bind, flagged_bind]
      rfl
    by_cases hclose : c = ')'
    · subst hclose
      have h : s.advance ')' rest = s.closed?.map fun s => (s, rest) := rfl
      simp only [h, closed?]
      cases s.stack <;> rfl
    by_cases hbar : c = '|'
    · subst hbar
      rfl
    by_cases hquestion : c = '?'
    · subst hquestion
      exact (repeated_bind s n 0 (some 1) (dropLazy rest)).symm
    by_cases hstar : c = '*'
    · subst hstar
      exact (repeated_bind s n 0 none (dropLazy rest)).symm
    by_cases hplus : c = '+'
    · subst hplus
      exact (repeated_bind s n 1 none (dropLazy rest)).symm
    by_cases hbrace : c = '\x7b'
    · subst hbrace
      have h : s.advance '\x7b' rest = ((readCounts s.flags rest).map paired).bind
          fun (counts, rest) => (s.repeated counts.1 counts.2).map
            fun next => (next, dropLazy (s.flags.skip rest)) := rfl
      simp only [h]
      rcases readCounts s.flags rest with _ | ⟨least, most, rest⟩
      · rfl
      · exact (repeated_bind s n least most _).symm
    · simp only [advance, if_neg hopen, if_neg hclose, if_neg hbar, if_neg hquestion, if_neg hstar,
        if_neg hplus, if_neg hbrace]
      rcases readPrimitive s.flags (c :: rest) with _ | ⟨p, rest⟩ <;> rfl

/-- Allowances beyond the length of the text make no difference. -/
theorem read_fuel {n m : Nat} (hn : cs.length < n) (hm : cs.length < m) :
    s.read n cs = s.read m cs := by
  induction n generalizing s m cs with
  | zero => omega
  | succ n ih =>
    obtain ⟨m, rfl⟩ : ∃ k, m = k + 1 := ⟨m - 1, by omega⟩
    have hlength := (s.flags.skip_suffix cs).length_le
    rw [read_succ, read_succ]
    cases hskip : s.flags.skip cs with
    | nil => rfl
    | cons c rest =>
      rw [hskip, List.length_cons] at hlength
      refine Option.bind_congr ?_
      rintro ⟨next, rest'⟩ hnext
      have hrest := (s.advance_shrinks c _ _ _ hnext).length_le
      exact ih next (by omega) (by omega)

end Reading

theorem foldl_proper {join : Regex → Regex → Regex}
    (hjoin : ∀ q r : Regex, q.Proper → r.Proper → (join q r).Proper) {r : Regex} {ps : List Piece}
    (hr : r.Proper) (h : ∀ p ∈ ps, p.regex.Proper) :
    (ps.foldl (fun r p => join p.regex r) r).Proper := by
  induction ps generalizing r with
  | nil => exact hr
  | cons p ps ih =>
    obtain ⟨hp, hps⟩ := List.forall_mem_cons.mp h
    exact ih (hjoin _ _ hp hr) hps

theorem sequence_proper {ps : List Piece} (h : ∀ p ∈ ps, p.regex.Proper) :
    (sequence ps).regex.Proper := by
  rcases ps with _ | ⟨p, _ | ⟨q, ps⟩⟩
  · trivial
  · exact h p List.mem_cons_self
  · obtain ⟨hp, hps⟩ := List.forall_mem_cons.mp h
    exact @foldl_proper .seq (fun _ _ hq hr => ⟨hq, hr⟩) _ _ hp hps

theorem alternatives_proper {ps : List Piece} (h : ∀ p ∈ ps, p.regex.Proper) :
    (alternatives ps).regex.Proper := by
  rcases ps with _ | ⟨p, _ | ⟨q, ps⟩⟩
  · trivial
  · exact h p List.mem_cons_self
  · obtain ⟨hp, hps⟩ := List.forall_mem_cons.mp h
    exact @foldl_proper .alt (fun _ _ hq hr => ⟨hq, hr⟩) _ _ hp hps

theorem readUpper_bounds {low : Nat} {counts : Nat × Option Nat} {rest : List Char}
    (h : readUpper f low cs = some (counts, rest)) : ∀ n ∈ counts.2, counts.1 ≤ n := by
  unfold readUpper at h
  split at h
  · cases h
  · next c tail =>
    split at h
    · cases h
      simp
    split at h
    · unfold readMost at h
      split at h
      · cases h
        simp
      · obtain ⟨⟨most, tail⟩, _, h⟩ := Option.bind_eq_some_iff.mp h
        dsimp only at h
        split at h
        · split at h
          · cases h
            simpa
          · cases h
        · cases h
    · cases h

theorem readCounts_bounds {counts : Nat × Option Nat} {rest : List Char}
    (h : (readCounts f cs).map paired = some (counts, rest)) : ∀ n ∈ counts.2, counts.1 ≤ n := by
  rw [readCounts_eq] at h
  obtain ⟨⟨low, tail⟩, _, h⟩ := Option.bind_eq_some_iff.mp h
  exact readUpper_bounds h

theorem escapePiece?_proper {e : Escape} {p : Piece} (h : escapePiece? f e = some p) :
    p.regex.Proper := by
  unfold escapePiece? at h
  split at h
  · split at h
    · cases h
    · cases h
      trivial
  · cases h
    trivial
  · cases h
    trivial

theorem dot?_proper {r : Regex} (h : f.dot? = some r) : r.Proper := by
  unfold Flags.dot? at h
  split at h
  · cases h
  split at h
  · cases h
    trivial
  split at h
  · cases h
    trivial
  · cases h
    trivial

theorem readPrimitive_proper {c : Char} {p : Piece} {rest : List Char}
    (h : readPrimitive f (c :: cs) = some (p, rest)) : p.regex.Proper := by
  by_cases hescape : c = '\\'
  · subst hescape
    rw [readPrimitive_escape] at h
    obtain ⟨⟨e, tail⟩, _, h⟩ := Option.bind_eq_some_iff.mp h
    obtain ⟨p, hp, h⟩ := Option.map_eq_some_iff.mp h
    cases h
    exact escapePiece?_proper hp
  by_cases hclass : c = '['
  · subst hclass
    rw [readPrimitive_class] at h
    obtain ⟨_, _, h⟩ := Option.bind_eq_some_iff.mp h
    obtain ⟨_, _, h⟩ := Option.map_eq_some_iff.mp h
    cases h
    trivial
  by_cases hdot : c = '.'
  · subst hdot
    obtain ⟨r, hr, h⟩ := Option.map_eq_some_iff.mp h
    cases h
    exact dot?_proper hr
  by_cases hstart : c = '^'
  · subst hstart
    cases h
    trivial
  by_cases hend : c = '$'
  · subst hend
    cases h
    trivial
  · simp only [readPrimitive] at h
    cases h
    trivial

namespace Reading
variable {s : Reading}

/-- Every repetition that has been read has room for its least number of rounds. -/
structure Proper (s : Reading) : Prop where
  pieces : ∀ p ∈ s.pieces, p.regex.Proper
  branches : ∀ p ∈ s.branches, p.regex.Proper
  stack : ∀ frame ∈ s.stack, (∀ p ∈ frame.pieces, p.regex.Proper) ∧
    ∀ p ∈ frame.branches, p.regex.Proper

theorem Proper.body (hs : s.Proper) : s.body.regex.Proper := by
  refine alternatives_proper fun p hp => ?_
  rcases List.mem_cons.mp hp with rfl | hp
  · exact sequence_proper hs.pieces
  · exact hs.branches p hp

theorem Proper.push (hs : s.Proper) {p : Piece} (hp : p.regex.Proper) : (s.push p).Proper :=
  ⟨List.forall_mem_cons.mpr ⟨hp, hs.pieces⟩, hs.branches, hs.stack⟩

theorem Proper.opened (hs : s.Proper) (inner : Flags) (captures : Bool)
    (names : List (List Char)) : (s.opened inner captures names).Proper :=
  ⟨by simp [Reading.opened], by simp [Reading.opened],
    List.forall_mem_cons.mpr ⟨⟨hs.pieces, hs.branches⟩, hs.stack⟩⟩

theorem Proper.closed (hs : s.Proper) {next : Reading} (h : s.closed? = some next) :
    next.Proper := by
  unfold closed? at h
  split at h
  · cases h
  · next frame stack hstack =>
    cases h
    have hframe := hs.stack frame (hstack ▸ List.mem_cons_self)
    refine ⟨List.forall_mem_cons.mpr ⟨?_, hframe.1⟩, hframe.2, fun outer houter =>
      hs.stack outer (hstack ▸ List.mem_cons_of_mem _ houter)⟩
    dsimp only
    split
    · exact hs.body
    · exact hs.body

theorem Proper.repeated (hs : s.Proper) {least : Nat} {most : Option Nat}
    (hbounds : ∀ n ∈ most, least ≤ n) {next : Reading} (h : s.repeated least most = some next) :
    next.Proper := by
  obtain ⟨pieces, hpieces, rfl⟩ := Option.map_eq_some_iff.mp h
  unfold repeatLast at hpieces
  split at hpieces
  · next p ps hlast =>
    obtain ⟨hp, hps⟩ := List.forall_mem_cons.mp (hlast ▸ hs.pieces)
    split at hpieces
    · cases hpieces
      exact ⟨List.forall_mem_cons.mpr ⟨⟨hp, hbounds⟩, hps⟩, hs.branches, hs.stack⟩
    · cases hpieces
  · cases hpieces

theorem Proper.named (hs : s.Proper) {next : Reading} {rest : List Char}
    (h : s.named cs = some (next, rest)) : next.Proper := by
  obtain ⟨⟨name, tail⟩, _, h⟩ := Option.bind_eq_some_iff.mp h
  dsimp only at h
  split at h
  · cases h
  · cases h
    exact hs.opened _ _ _

theorem Proper.flagged (hs : s.Proper) {next : Reading} {rest : List Char}
    (h : s.flagged cs = some (next, rest)) : next.Proper := by
  obtain ⟨⟨⟨inner, seen, closing⟩, tail⟩, _, h⟩ := Option.bind_eq_some_iff.mp h
  dsimp only at h
  split at h
  · cases h
    exact hs.opened _ _ _
  split at h
  · cases h
  · cases h
    have hflags : ({ s with flags := inner } : Reading).Proper := ⟨hs.pieces, hs.branches, hs.stack⟩
    exact hflags.push trivial

theorem Proper.group (hs : s.Proper) {next : Reading} {rest : List Char}
    (h : s.group cs = some (next, rest)) : next.Proper := by
  unfold Reading.group at h
  iterate 4
    split at h
    · cases h
  split at h
  · exact hs.named h
  split at h
  · exact hs.named h
  split at h
  · exact hs.flagged h
  · cases h
    exact hs.opened _ _ _

theorem Proper.advance (hs : s.Proper) {c : Char} {next : Reading} {rest : List Char}
    (h : s.advance c cs = some (next, rest)) : next.Proper := by
  unfold Reading.advance at h
  split at h
  · exact hs.group h
  split at h
  · obtain ⟨next, hnext, h⟩ := Option.map_eq_some_iff.mp h
    cases h
    exact hs.closed hnext
  split at h
  · cases h
    exact ⟨by simp, List.forall_mem_cons.mpr ⟨sequence_proper hs.pieces, hs.branches⟩, hs.stack⟩
  split at h
  · obtain ⟨next, hnext, h⟩ := Option.map_eq_some_iff.mp h
    cases h
    exact hs.repeated (by simp) hnext
  split at h
  · obtain ⟨next, hnext, h⟩ := Option.map_eq_some_iff.mp h
    cases h
    exact hs.repeated (by simp) hnext
  split at h
  · obtain ⟨next, hnext, h⟩ := Option.map_eq_some_iff.mp h
    cases h
    exact hs.repeated (by simp) hnext
  split at h
  · obtain ⟨⟨counts, tail⟩, hcounts, h⟩ := Option.bind_eq_some_iff.mp h
    obtain ⟨next, hnext, h⟩ := Option.map_eq_some_iff.mp h
    cases h
    exact hs.repeated (readCounts_bounds hcounts) hnext
  · obtain ⟨⟨p, tail⟩, hp, h⟩ := Option.map_eq_some_iff.mp h
    cases h
    exact hs.push (readPrimitive_proper hp)

theorem Proper.read (hs : s.Proper) {n : Nat} {p : Piece} (h : s.read n cs = some p) :
    p.regex.Proper := by
  induction n generalizing s cs with
  | zero => cases h
  | succ n ih =>
    rw [read_succ] at h
    split at h
    · unfold finish at h
      split at h
      · cases h
        exact hs.body
      · cases h
    · obtain ⟨⟨next, rest⟩, hnext, hread⟩ := Option.bind_eq_some_iff.mp h
      exact ih (hs.advance hnext) hread

end Reading

end OrgStacks.Pattern
