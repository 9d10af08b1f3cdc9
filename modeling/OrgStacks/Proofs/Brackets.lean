import OrgStacks.Proofs.Escapes

/-!
# Bracketed classes with a parenthesis behind them

A bracketed class is read item by item. Every item is read the same whether or not a closing
parenthesis follows the text, and so is the class, by induction on the items.
-/

namespace OrgStacks.Pattern
set_option autoImplicit false

variable {α β : Type} {cs v : List Char}

section Classes
variable {f : Flags}

theorem hyphens_dash (n : Nat) (items : ClassItems) (rest : List Char) :
    openBracket.hyphens f (n + 1) items ('-' :: rest) =
      openBracket.hyphens f n (items.add { chars := .singleton '-' }) (f.skip rest) := rfl

theorem hyphens_other (n : Nat) (items : ClassItems) (h : ¬ ∃ rest, cs = '-' :: rest) :
    openBracket.hyphens f n items cs = (items, cs) := by
  unfold openBracket.hyphens
  split
  · next rest => exact absurd ⟨rest, rfl⟩ h
  · rfl

theorem hyphens_suffix (n : Nat) (items : ClassItems) (cs : List Char) :
    (openBracket.hyphens f n items cs).2 <:+ cs := by
  induction n generalizing items cs with
  | zero => exact List.suffix_rfl
  | succ n ih =>
    by_cases hdash : ∃ rest, cs = '-' :: rest
    · obtain ⟨rest, rfl⟩ := hdash
      exact ((ih _ _).trans (f.skip_suffix rest)).trans (List.suffix_cons _ rest)
    · simp [hyphens_other _ _ hdash]

theorem hyphens_agree {n m : Nat} (items : ClassItems) (hn : cs.length ≤ n)
    (hm : (cs ++ ')' :: v).length ≤ m) :
    Agree f.spaced cs v (some (openBracket.hyphens f n items cs))
      (some (openBracket.hyphens f m items (cs ++ ')' :: v))) := by
  induction n generalizing m items cs with
  | zero =>
    obtain rfl : cs = [] := List.length_eq_zero_iff.mp (by omega)
    rw [hyphens_other _ _ (by simp), hyphens_other _ _ (by simp)]
    exact .kept items
  | succ n ih =>
    by_cases hdash : ∃ rest, cs = '-' :: rest
    · obtain ⟨rest, rfl⟩ := hdash
      have htail : rest <:+ '-' :: rest := List.suffix_cons _ rest
      have hlength : (f.skip rest).length ≤ rest.length := (f.skip_suffix rest).length_le
      cases m with
      | zero => simp at hm
      | succ m =>
        rw [List.cons_append, hyphens_dash, hyphens_dash]
        simp only [List.length_cons, List.cons_append, List.length_append] at hn hm
        rcases f.skip_append rest v with hskip | ⟨hcomment, _, hlong⟩
        · rw [hskip]
          have h := ih (m := m) (items.add { chars := .singleton '-' })
            (by omega : (f.skip rest).length ≤ n) (by simp; omega)
          exact (h.of_suffix (f.skip_suffix rest)).of_suffix htail
        · refine .inr ⟨.inr ⟨hcomment.1, htail.subset hcomment.2⟩, ?_⟩
          intro x tail h
          have htail := hyphens_suffix (f := f) m (items.add { chars := .singleton '-' })
            (f.skip (rest ++ ')' :: v))
          rw [Option.some.inj h] at htail
          exact htail.trans hlong
    · rw [hyphens_other _ _ hdash, hyphens_other _ _ (not_begins_append (by decide) hdash)]
      exact .kept items

theorem steady_hyphens (items : ClassItems) :
    Steady f.spaced fun cs => some (openBracket.hyphens f cs.length items cs) where
  shrinks := by
    intro cs x rest h
    have hsuffix := hyphens_suffix (f := f) cs.length items cs
    rwa [Option.some.inj h] at hsuffix
  agree _ _ _ := hyphens_agree items (Nat.le_refl _) (Nat.le_refl _)

def readNegation (f : Flags) (cs : List Char) : Option (Bool × List Char) :=
  if ['^'] <+: cs then some (true, f.skip (cs.drop 1)) else some (false, cs)

/-- A closing bracket that comes first and so stands for itself. -/
def readFirstBracket (f : Flags) (items : ClassItems) (cs : List Char) :
    Option (ClassItems × List Char) :=
  if items.count = 0 then
    if [']'] <+: cs then some (items.add { chars := .singleton ']' }, f.skip (cs.drop 1))
    else some (items, cs)
  else some (items, cs)

/-- As `openBracket`, where the text may also end: reading the items then fails. -/
def openItems (f : Flags) (cs : List Char) : Option ((Bool × ClassItems) × List Char) :=
  (readNegation f (f.skip cs)).bind fun (negated, cs) =>
    (some (openBracket.hyphens f cs.length {} cs)).bind fun (items, cs) =>
      (readFirstBracket f items cs).map fun (items, cs) => ((negated, items), cs)

theorem steady_openItems : Steady f.spaced (openItems f) := by
  have hnegation : Steady f.spaced (readNegation f) :=
    (f.steady_skip.map fun _ => true).prefixed ['^'] (by simp) (steady_some false)
  have hfirst (items : ClassItems) : Steady f.spaced (readFirstBracket f items) := by
    have hbracket := f.steady_skip.map fun _ => items.add { chars := .singleton ']' }
    exact (hbracket.prefixed [']'] (by simp) (steady_some items)).ite _ (steady_some items)
  exact (f.skip_steady hnegation).bind fun negated => (steady_hyphens {}).bind fun items =>
    (hfirst items).map fun items => (negated, items)

def bracketItems (f : Flags) (negated : Bool) (cs : List Char) :
    Option (Bool × ClassItems × List Char) :=
  let (items, cs) := openBracket.hyphens f cs.length {} cs
  match cs with
  | [] => none
  | ']' :: rest =>
    if items.count = 0 then some (negated, items.add { chars := .singleton ']' }, f.skip rest)
    else some (negated, items, cs)
  | _ => some (negated, items, cs)

section Bind
variable {k : Bool → ClassItems → List Char → Option β}
  (hk : ∀ negated items, k negated items [] = none)
include hk

theorem bracketItems_bind (negated : Bool) (cs : List Char) :
    ((bracketItems f negated cs).bind fun (negated, items, rest) => k negated items rest) =
      ((some (openBracket.hyphens f cs.length {} cs)).bind fun (items, cs) =>
        (readFirstBracket f items cs).map fun (items, cs) => ((negated, items), cs)).bind
          fun ((negated, items), rest) => k negated items rest := by
  unfold bracketItems
  rcases openBracket.hyphens f cs.length {} cs with ⟨items, _ | ⟨c, rest⟩⟩
  · simp [readFirstBracket, hk]
  · by_cases hc : c = ']'
    · subst hc
      by_cases hcount : items.count = 0 <;> simp [readFirstBracket, hcount]
    · have hno : ¬ [']'] <+: c :: rest := by simp [Ne.symm hc]
      have hfirst : readFirstBracket f items (c :: rest) = some (items, c :: rest) := by
        simp only [readFirstBracket, if_neg hno, ite_self]
      simp only [Option.bind_some, hfirst]
      split
      · next h => cases h
      · next h => exact absurd (List.cons.inj h).1 hc
      · rfl

theorem openBracket_bind :
    ((openBracket f cs).bind fun (negated, items, rest) => k negated items rest) =
      (openItems f cs).bind fun ((negated, items), rest) => k negated items rest := by
  unfold openBracket openItems readNegation
  cases hskip : f.skip cs with
  | nil => exact bracketItems_bind (f := f) hk false []
  | cons c rest =>
    by_cases hc : c = '^'
    · subst hc
      exact bracketItems_bind hk true (f.skip rest)
    · have hno : ¬ ['^'] <+: c :: rest := by simp [Ne.symm hc]
      rw [if_neg hno]
      split
      · next h => cases h
      · next h => exact absurd (List.cons.inj h).1 hc
      · exact bracketItems_bind hk false (c :: rest)

end Bind

theorem not_mem_posixTable : ∀ p ∈ posixTable, ')' ∉ p.1.toList := by
  decide

theorem posixClass?_eq_none {name : List Char} (h : ')' ∈ name) :
    posixClass? (String.ofList name) = none := by
  rw [posixClass?, Option.map_eq_none_iff, List.lookup_eq_none_iff]
  intro p hp
  rw [bne_iff_ne]
  intro hname
  apply not_mem_posixTable p hp
  rw [← hname, String.toList_ofList]
  exact h

theorem span_append {d : Char} {before : List Char} (hd : d ∉ before) (rest : List Char) :
    (before ++ d :: rest).span (· ≠ d) = (before, d :: rest) := by
  have hall : ∀ c ∈ before, decide (c ≠ d) = true := by
    intro c hc
    exact decide_eq_true (ne_of_mem_of_not_mem hc hd)
  simp only [List.span_eq_takeWhile_dropWhile, List.takeWhile_append_of_pos hall,
    List.dropWhile_append_of_pos hall, List.takeWhile_cons, List.dropWhile_cons, ne_eq,
    not_true_eq_false, decide_false, Bool.false_eq_true, if_false, List.append_nil]

theorem span_of_not_mem {d : Char} (hd : d ∉ cs) : cs.span (· ≠ d) = (cs, []) := by
  have hall : ∀ c ∈ cs, decide (c ≠ d) = true := by
    intro c hc
    exact decide_eq_true (ne_of_mem_of_not_mem hc hd)
  simp only [List.span_eq_takeWhile_dropWhile, List.takeWhile_eq_self_iff.mpr hall,
    List.dropWhile_eq_nil_iff.mpr hall]

def posixNamed? (f : Flags) (negated : Bool) (cs : List Char) :
    Option (Option CharSet × List Char) :=
  match cs.span (· ≠ ':') with
  | (name, ':' :: ']' :: rest) =>
    (posixClass? (String.ofList name)).map fun s => (f.foldNegate negated s, rest)
  | _ => none

theorem posixNamed?_append (negated : Bool) (cs v : List Char) :
    posixNamed? f negated (cs ++ ')' :: v) =
      (posixNamed? f negated cs).map fun (chars?, rest) => (chars?, rest ++ ')' :: v) := by
  unfold posixNamed?
  by_cases hcolon : ':' ∈ cs
  · obtain ⟨name, rest, rfl, hname⟩ := List.eq_append_cons_of_mem hcolon
    rw [List.append_assoc, List.cons_append, span_append hname, span_append hname]
    cases rest with
    | nil => rfl
    | cons c rest =>
      by_cases hc : c = ']'
      · subst hc
        simp only [List.cons_append, Option.map_map]
        rfl
      · have hno (rest : List Char) : (match (name, ':' :: c :: rest) with
          | (name, ':' :: ']' :: rest) =>
            (posixClass? (String.ofList name)).map fun s => (f.foldNegate negated s, rest)
          | _ => none) = none := by
          split
          · next h => simp [hc] at h
          · rfl
        rw [List.cons_append, hno, hno, Option.map_none]
  · rw [span_of_not_mem hcolon, Option.map_none]
    by_cases hv : ':' ∈ v
    · obtain ⟨name, rest, rfl, hname⟩ := List.eq_append_cons_of_mem hv
      have hbefore : ':' ∉ cs ++ ')' :: name := by simp [hcolon, hname]
      rw [← List.cons_append, ← List.append_assoc, span_append hbefore]
      split
      · next h =>
        obtain ⟨rfl, _⟩ := Prod.mk.inj h
        rw [posixClass?_eq_none (by simp), Option.map_none]
      · rfl
    · rw [span_of_not_mem (by simp [hcolon, hv])]

theorem readPosix_colon (cs : List Char) : readPosix f (':' :: cs) =
    if ['^'] <+: cs then posixNamed? f true (cs.drop 1) else posixNamed? f false cs := by
  cases cs with
  | nil => rfl
  | cons c cs =>
    by_cases hc : c = '^'
    · subst hc
      rfl
    · have hno : ¬ ['^'] <+: c :: cs := by simp [Ne.symm hc]
      rw [if_neg hno, readPosix]
      · rfl
      · intro more h
        exact hc (List.cons.inj h).1

theorem readPosix_other (h : ¬ ∃ rest, cs = ':' :: rest) : readPosix f cs = none := by
  unfold readPosix
  split
  · next rest => exact absurd ⟨rest, rfl⟩ h
  · rfl

/-- A POSIX class is told from a nested class by what stands before a parenthesis. -/
theorem readPosix_append (cs v : List Char) :
    readPosix f (cs ++ ')' :: v) =
      (readPosix f cs).map fun (chars?, rest) => (chars?, rest ++ ')' :: v) := by
  by_cases hcolon : ∃ rest, cs = ':' :: rest
  · obtain ⟨rest, rfl⟩ := hcolon
    rw [List.cons_append, readPosix_colon, readPosix_colon]
    by_cases h : ['^'] <+: rest
    · obtain ⟨rest, rfl⟩ := h
      exact posixNamed?_append true rest v
    · rw [if_neg h, if_neg (by rwa [prefix_append_iff (by simp)])]
      exact posixNamed?_append false rest v
  · rw [readPosix_other hcolon, readPosix_other (not_begins_append (by decide) hcolon)]
    rfl

theorem readPosix_shrinks : Shrinks (readPosix f) := by
  have hnamed (negated : Bool) : Shrinks (posixNamed? f negated) := by
    intro cs x rest h
    unfold posixNamed? at h
    split at h
    · next name rest' hspan =>
      obtain ⟨s, _, hs⟩ := Option.map_eq_some_iff.mp h
      cases hs
      have hdrop : cs.dropWhile (· ≠ ':') = ':' :: ']' :: rest := by
        rw [List.span_eq_takeWhile_dropWhile] at hspan
        exact (Prod.mk.inj hspan).2
      have htail : ':' :: ']' :: rest <:+ cs := hdrop ▸ List.dropWhile_suffix _
      exact ((List.suffix_cons _ rest).trans (List.suffix_cons _ _)).trans htail
    · cases h
  intro cs x rest h
  by_cases hcolon : ∃ rest, cs = ':' :: rest
  · obtain ⟨cs, rfl⟩ := hcolon
    have htail : cs <:+ ':' :: cs := List.suffix_cons _ cs
    rw [readPosix_colon] at h
    split at h
    · exact ((hnamed _ _ _ _ h).trans (List.drop_suffix 1 cs)).trans htail
    · exact (hnamed _ _ _ _ h).trans htail
  · rw [readPosix_other hcolon] at h
    cases h

theorem readPosix_steady {K : Option CharSet → List Char → Option (β × List Char)}
    {R : List Char → Option (β × List Char)} (hK : ∀ chars?, Steady f.spaced (K chars?))
    (hR : Steady f.spaced R) :
    Steady f.spaced fun cs => match readPosix f cs with
      | some (chars?, rest) => K chars? rest
      | none => R cs where
  shrinks := by
    intro cs x rest h
    dsimp only at h
    split at h
    · next chars? middle hposix =>
      exact ((hK chars?).shrinks _ _ _ h).trans (readPosix_shrinks _ _ _ hposix)
    · exact hR.shrinks _ _ _ h
  agree := by
    intro cs v hfits
    rw [readPosix_append]
    cases hposix : readPosix f cs with
    | none => exact hR.agree cs v hfits
    | some p =>
      have hrest : p.2 <:+ cs := readPosix_shrinks _ _ _ hposix
      exact ((hK p.1).agree p.2 v (hfits.suffix hrest)).of_suffix hrest

/-- Reads an item and goes on, where nothing goes on after a boundary with a brace behind it. -/
theorem readClassItem_bind_steady (c : Char) {K : Escape → List Char → Option (β × List Char)}
    (hK : ∀ e, Steady f.spaced (K e)) (hedge : ∀ a rest, K (.assertion a) ('\x7b' :: rest) = none) :
    Steady f.spaced fun cs => (readClassItem f (c :: cs)).bind fun (e, rest) => K e rest := by
  by_cases hc : c = '\\'
  · subst hc
    refine ⟨readEscape_shrinks.bind fun e => (hK e).shrinks, ?_⟩
    intro cs v hfits
    by_cases hcut : CutEdge f cs
    · obtain ⟨blanks, rfl, hblanks⟩ := hcut
      have hsuffix : blanks <:+ 'b' :: '\x7b' :: blanks :=
        (List.suffix_cons _ blanks).trans (List.suffix_cons _ _)
      obtain ⟨hshort, hlong⟩ := readWordEdge_open (hfits.suffix hsuffix) hblanks
      refine .inr ⟨.inl ?_, ?_⟩
      · change (readWordEdge f ('\x7b' :: blanks)).bind _ = none
        rw [hshort, Option.bind_none]
      · intro y rest h
        obtain ⟨⟨e, middle⟩, he, hy⟩ := Option.bind_eq_some_iff.mp h
        obtain ⟨rfl, rfl, _⟩ := hlong e middle he
        cases (hedge _ _).symm.trans hy
    · exact (readEscape_agree hfits hcut).bind (fun e => (hK e).shrinks)
        fun e rest hrest => (hK e).agree rest v (hfits.suffix hrest)
  · simp only [readClassItem]
    exact hK _

def rangeFollows (f : Flags) (cs : List Char) : Bool :=
  match cs with
  | '-' :: more =>
    match f.skip more with
    | ']' :: _ | '-' :: _ => false
    | _ => true
  | _ => false

def readBound (f : Flags) (first : Escape) (cs : List Char) : Option (CharSet × List Char) :=
  (readClassItem f cs).bind fun (last, rest) =>
    match first, last with
    | .char a _, .char b _ =>
      (f.classChar? a).bind fun _ => (f.classChar? b).bind fun _ =>
        if a ≤ b then some (.range a.toNat b.toNat, rest) else none
    | _, _ => none

def singleItem? (f : Flags) : Escape → Option CharSet
  | .char c _ => f.classChar? c
  | .chars s => some s
  | .assertion _ => none

theorem readClassRange_eq (cs : List Char) : readClassRange f cs =
    (readClassItem f cs).bind fun (first, rest) =>
      if rangeFollows f (f.skip rest) then readBound f first (f.skip ((f.skip rest).drop 1))
      else (singleItem? f first).map fun s => (s, f.skip rest) := by
  unfold readClassRange
  rcases readClassItem f cs with _ | ⟨first, rest⟩
  · rfl
  · cases first <;> rfl

theorem rangeFollows_other (h : ¬ ∃ more, cs = '-' :: more) : rangeFollows f cs = false := by
  unfold rangeFollows
  split
  · next more => exact absurd ⟨more, rfl⟩ h
  · rfl

theorem rangeFollows_append (hfits : Fits f.spaced cs v) :
    rangeFollows f (cs ++ ')' :: v) = rangeFollows f cs := by
  by_cases hdash : ∃ more, cs = '-' :: more
  · obtain ⟨more, rfl⟩ := hdash
    have htail : more <:+ '-' :: more := List.suffix_cons _ more
    rw [List.cons_append]
    unfold rangeFollows
    rcases f.skip_append more v with h | ⟨hcomment, hshort, hlong⟩
    · simp only [h]
      cases f.skip more with
      | nil => rfl
      | cons c rest =>
        by_cases hbracket : c = ']'
        · subst hbracket
          rfl
        by_cases hhyphen : c = '-'
        · subst hhyphen
          rfl
        · have hranges (rest : List Char) :
              (match c :: rest with
              | ']' :: _ | '-' :: _ => false
              | _ => true) = true := by
            split
            · next h => exact absurd (List.cons.inj h).1 hbracket
            · next h => exact absurd (List.cons.inj h).1 hhyphen
            · rfl
          exact (hranges _).trans (hranges rest).symm
    · obtain rfl : v = [] := hfits hcomment.1 (htail.subset hcomment.2)
      simp only [hshort, List.suffix_nil.mp hlong]
  · rw [rangeFollows_other hdash, rangeFollows_other (not_begins_append (by decide) hdash)]

theorem readClassRange_steady (c : Char) :
    Steady f.spaced fun cs => readClassRange f (c :: cs) := by
  have hbounds (first last : Escape) : Steady f.spaced fun cs =>
      match first, last with
      | .char a _, .char b _ =>
        (f.classChar? a).bind fun _ => (f.classChar? b).bind fun _ =>
          if a ≤ b then some (CharSet.range a.toNat b.toNat, cs) else none
      | _, _ => none := by
    split
    · exact steady_option_bind _ fun _ => steady_option_bind _ fun _ =>
        (steady_some _).ite _ steady_none
    · exact steady_none
  have hbound (first : Escape) : Steady f.spaced (readBound f first) := by
    convert steady_cons fun c => readClassItem_bind_steady (f := f) c (hbounds first) ?_ with cs
    · cases cs <;> rfl
    · intro a rest
      cases first <;> rfl
  have hrest (first : Escape) : Steady f.spaced fun cs =>
      if rangeFollows f cs then readBound f first (f.skip (cs.drop 1))
      else (singleItem? f first).map fun s => (s, cs) := by
    have hsingle := steady_option_map (C := f.spaced) (singleItem? f first) fun s => s
    have hrange := f.skip_steady (hbound first)
    refine ⟨?_, ?_⟩
    · intro cs x rest h
      dsimp only at h
      split at h
      · exact (hrange.shrinks _ _ _ h).trans (List.drop_suffix 1 cs)
      · exact hsingle.shrinks _ _ _ h
    · intro cs v hfits
      rw [rangeFollows_append hfits]
      split
      · next hfollows =>
        obtain ⟨more, rfl⟩ : ∃ more, cs = '-' :: more := by
          by_contra hother
          rw [rangeFollows_other hother] at hfollows
          cases hfollows
        have htail : more <:+ '-' :: more := List.suffix_cons _ more
        exact (hrange.agree more v (hfits.suffix htail)).of_suffix htail
      · exact hsingle.agree cs v hfits
  rw [funext fun cs => readClassRange_eq (c :: cs)]
  refine readClassItem_bind_steady c (fun first => f.skip_steady (hrest first)) ?_
  intro a rest
  have hskip : f.skip ('\x7b' :: rest) = '\x7b' :: rest := Flags.skip_visible (by decide) rfl rest
  simp only [hskip]
  rfl

def classOp? (c : Char) : Option ClassOp :=
  if c = '&' then some .inter
  else if c = '-' then some .diff
  else if c = '~' then some .symmDiff
  else none

/-- What the next item of a class leads to: the class as a whole, or what is open after it. -/
def classTurn (f : Flags) (stack : List ClassFrame) (items : ClassItems) (c : Char)
    (cs : List Char) : Option ((ClassPart ⊕ List ClassFrame × ClassItems) × List Char) :=
  if c = '[' then
    match readPosix f cs with
    | some (chars?, rest) => chars?.map fun chars => (.inr (stack, items.add { chars }), rest)
    | none => (openItems f cs).map fun ((negated, inner), rest) =>
        (.inr (.opened items negated :: stack, inner), rest)
  else if c = ']' then
    match f.applyOperator items.part stack with
    | (part, .opened before negated :: stack) =>
      (f.foldNegate negated part.chars).bind fun chars =>
        let closed : ClassPart := ⟨chars, part.depth + 1⟩
        some (if stack.isEmpty then .inl closed else .inr (stack, before.add closed), cs)
    | _ => none
  else
    let item := (readClassRange f (c :: cs)).map fun (chars, rest) =>
      (.inr (stack, items.add { chars }), rest)
    match classOp? c with
    | some op =>
      if [c] <+: cs then
        let (left, stack) := f.applyOperator items.part stack
        some (.inr (.operator op left :: stack, {}), cs.drop 1)
      else item
    | none => item

theorem classTurn_steady (stack : List ClassFrame) (items : ClassItems) (c : Char) :
    Steady f.spaced (classTurn f stack items c) := by
  have hitem := (readClassRange_steady (f := f) c).map fun chars =>
    (Sum.inr (stack, items.add { chars }) : ClassPart ⊕ List ClassFrame × ClassItems)
  unfold classTurn
  refine .ite _ ?_ (.ite _ ?_ ?_)
  · have hopened := (steady_openItems (f := f)).map fun (negated, inner) =>
      (Sum.inr (.opened items negated :: stack, inner) : ClassPart ⊕ List ClassFrame × ClassItems)
    exact readPosix_steady (fun chars? => steady_option_map chars? _) hopened
  · split
    · exact steady_option_bind _ fun _ => steady_some _
    · exact steady_none
  · split
    · next op hop =>
      have hparen : ')' ∉ [c] := by
        simp only [List.mem_singleton]
        rintro rfl
        cases hop
      exact (steady_some _).prefixed [c] hparen hitem
    · exact hitem

@[simp] theorem readClass_nil (n : Nat) (stack : List ClassFrame) (items : ClassItems) :
    readClass f n stack items [] = none := by
  cases n with
  | zero => rfl
  | succ n => simp [readClass]

def readOn (f : Flags) (n : Nat) (next : ClassPart ⊕ List ClassFrame × ClassItems)
    (cs : List Char) : Option (ClassPart × List Char) :=
  match next with
  | .inl part => some (part, cs)
  | .inr (stack, items) => readClass f n stack items cs

theorem classOp?_cases {c : Char} {op : ClassOp} (h : classOp? c = some op) :
    c = '&' ∨ c = '-' ∨ c = '~' := by
  unfold classOp? at h
  split_ifs at h with hand hhyphen htilde
  · exact .inl hand
  · exact .inr (.inl hhyphen)
  · exact .inr (.inr htilde)

theorem readClass_opening (n : Nat) (stack : List ClassFrame) (items : ClassItems)
    {cs rest : List Char} (h : f.skip cs = '[' :: rest) : readClass f (n + 1) stack items cs =
      (classTurn f stack items '[' rest).bind fun (next, rest) => readOn f n next rest := by
  rw [readClass, h]
  simp only [classTurn, if_true]
  rcases readPosix f rest with _ | ⟨chars?, rest⟩
  · have hbind := @openBracket_bind _ rest f
      (fun negated inner rest => readClass f n (.opened items negated :: stack) inner rest) (by simp)
    simp only [Option.bind_map]
    exact hbind
  · cases chars? <;> rfl

theorem readClass_closing (n : Nat) (stack : List ClassFrame) (items : ClassItems)
    {cs rest : List Char} (h : f.skip cs = ']' :: rest) : readClass f (n + 1) stack items cs =
      (classTurn f stack items ']' rest).bind fun (next, rest) => readOn f n next rest := by
  rw [readClass, h]
  simp only [classTurn, if_neg (show ¬ ']' = '[' by decide), if_true]
  rcases f.applyOperator items.part stack with ⟨part, _ | ⟨_ | _, stack⟩⟩
  · rfl
  · next before negated =>
    simp only [Option.bind_assoc, Option.bind_some]
    cases f.foldNegate negated part.chars with
    | none => rfl
    | some chars => cases stack <;> rfl
  · rfl

theorem readClass_inner (n : Nat) (stack : List ClassFrame) (items : ClassItems) {c : Char}
    {cs rest : List Char} (h : f.skip cs = c :: rest) (hopen : c ≠ '[') (hclose : c ≠ ']') :
    readClass f (n + 1) stack items cs =
      (classTurn f stack items c rest).bind fun (next, rest) => readOn f n next rest := by
  have hitem : ((readClassRange f (c :: rest)).map fun (chars, rest) =>
      ((.inr (stack, items.add { chars }), rest) :
        (ClassPart ⊕ List ClassFrame × ClassItems) × List Char)).bind
      (fun (next, rest) => readOn f n next rest) =
      (readClassRange f (c :: rest)).bind fun (chars, rest) =>
        readClass f n stack (items.add { chars }) rest := by
    simp only [Option.bind_map]
    rfl
  rw [readClass, h]
  simp only [classTurn, if_neg hopen, if_neg hclose]
  split
  · next heq => cases heq
  · next heq => exact absurd (List.cons.inj heq).1 hopen
  · next heq => exact absurd (List.cons.inj heq).1 hclose
  · next heq =>
    obtain ⟨rfl, rfl⟩ := List.cons.inj heq
    rfl
  · next heq =>
    obtain ⟨rfl, rfl⟩ := List.cons.inj heq
    rfl
  · next heq =>
    obtain ⟨rfl, rfl⟩ := List.cons.inj heq
    rfl
  · next hand hhyphen htilde heq =>
    obtain ⟨rfl, rfl⟩ := List.cons.inj heq
    have hsingle (op : ClassOp) (hop : classOp? c = some op) : ¬ [c] <+: rest := by
      rintro ⟨more, rfl⟩
      rcases classOp?_cases hop with rfl | rfl | rfl
      · exact hand more rfl rfl
      · exact hhyphen more rfl rfl
      · exact htilde more rfl rfl
    cases hop : classOp? c with
    | none => exact hitem.symm
    | some op =>
      simp only [if_neg (hsingle op hop)]
      exact hitem.symm

theorem readClass_succ (n : Nat) (stack : List ClassFrame) (items : ClassItems) (cs : List Char) :
    readClass f (n + 1) stack items cs =
      match f.skip cs with
      | [] => none
      | c :: rest =>
        (classTurn f stack items c rest).bind fun (next, rest) => readOn f n next rest := by
  cases hskip : f.skip cs with
  | nil => rw [readClass, hskip]
  | cons c rest =>
    by_cases hopen : c = '['
    · subst hopen
      exact readClass_opening n stack items hskip
    by_cases hclose : c = ']'
    · subst hclose
      exact readClass_closing n stack items hskip
    · exact readClass_inner n stack items hskip hopen hclose

theorem readClass_shrinks (n : Nat) (stack : List ClassFrame) (items : ClassItems) :
    Shrinks (readClass f n stack items) := by
  induction n generalizing stack items with
  | zero =>
    intro cs x rest h
    cases h
  | succ n ih =>
    intro cs x rest h
    rw [readClass_succ] at h
    split at h
    · cases h
    · next c tail hskip =>
      have htail : tail <:+ cs := (List.suffix_cons c tail).trans (hskip ▸ f.skip_suffix cs)
      obtain ⟨⟨next, middle⟩, hturn, hrest⟩ := Option.bind_eq_some_iff.mp h
      have hmiddle := (classTurn_steady stack items c).shrinks _ _ _ hturn
      cases next with
      | inl part =>
        cases hrest
        exact hmiddle.trans htail
      | inr state => exact ((ih _ _ _ _ _ hrest).trans hmiddle).trans htail

theorem readClass_agree {n m : Nat} (stack : List ClassFrame) (items : ClassItems)
    (hfits : Fits f.spaced cs v) (hn : cs.length < n) (hm : (cs ++ ')' :: v).length < m) :
    Agree f.spaced cs v (readClass f n stack items cs)
      (readClass f m stack items (cs ++ ')' :: v)) := by
  induction n generalizing m stack items cs with
  | zero => omega
  | succ n ih =>
    cases m with
    | zero => omega
    | succ m =>
      have hnext (next : ClassPart ⊕ List ClassFrame × ClassItems) : Shrinks (readOn f m next) := by
        cases next with
        | inl part => exact (steady_some (C := f.spaced) part).shrinks
        | inr state => exact readClass_shrinks m _ _
      have hturn (c : Char) : Shrinks fun cs =>
          (classTurn f stack items c cs).bind fun (next, rest) => readOn f m next rest :=
        (classTurn_steady stack items c).shrinks.bind hnext
      rw [readClass_succ, readClass_succ]
      rcases f.skip_append cs v with hsame | ⟨hcomment, _, hlong⟩
      · rw [hsame]
        cases hskip : f.skip cs with
        | nil => exact .inr ⟨.inl rfl, hturn ')' v⟩
        | cons c rest =>
          have hrest : rest <:+ cs := (List.suffix_cons c rest).trans (hskip ▸ f.skip_suffix cs)
          have hlength : rest.length < cs.length := by
            have h := (f.skip_suffix cs).length_le
            rw [hskip, List.length_cons] at h
            exact h
          have hagree := (classTurn_steady (f := f) stack items c).agree rest v (hfits.suffix hrest)
          have hk (next : ClassPart ⊕ List ClassFrame × ClassItems) (rest' : List Char)
              (hrest' : rest' <:+ rest) :
              Agree f.spaced rest' v (readOn f n next rest')
                (readOn f m next (rest' ++ ')' :: v)) := by
            cases next with
            | inl part => exact .kept part
            | inr state =>
              have hrest'' := hrest'.length_le
              simp only [List.length_append, List.length_cons] at hm
              refine ih _ _ (hfits.suffix (hrest'.trans hrest)) (by omega) ?_
              rw [List.length_append, List.length_cons]
              omega
          exact (hagree.bind hnext hk).of_suffix hrest
      · refine .inr ⟨.inr hcomment, ?_⟩
        intro x rest h
        split at h
        · cases h
        · next c tail hskip =>
          have htail : tail <:+ v := (List.suffix_cons c tail).trans (hskip ▸ hlong)
          exact (hturn c _ _ _ h).trans htail

theorem steady_readClass (stack : List ClassFrame) (items : ClassItems) :
    Steady f.spaced fun cs => readClass f (cs.length + 1) stack items cs where
  shrinks _ _ _ h := readClass_shrinks _ stack items _ _ _ h
  agree _ _ hfits := readClass_agree stack items hfits (Nat.lt_succ_self _) (Nat.lt_succ_self _)

end Classes
end OrgStacks.Pattern
