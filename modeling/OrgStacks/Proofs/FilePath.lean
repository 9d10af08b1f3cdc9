import Mathlib.Data.List.Nodup
import Mathlib.Data.List.TakeWhile
import Mathlib.Data.Nat.Digits.Lemmas
import OrgStacks.FileTree

/-!
# Where paths lead

Two paths may be spelled differently and lead to the same place. `FilePath.resolved` is where a path
leads once its points are resolved by name alone, without regard to what is there. The directory of
a path that ends in a name, and what is joined to a directory, are found from the places alone.

Fewer than `FilePath.readableBound` paths are short enough to be read.
-/

namespace OrgStacks
set_option autoImplicit false

namespace Text

theorem splitOnChar_ne_nil (sep : Char) (cs : List Char) : splitOnChar sep cs ≠ [] := by
  cases cs with
  | nil => simp [splitOnChar]
  | cons c cs =>
    rw [splitOnChar]
    split
    · simp
    · split <;> simp

theorem splitOnChar_append (sep : Char) (as bs : List Char) :
    splitOnChar sep (as ++ sep :: bs) = splitOnChar sep as ++ splitOnChar sep bs := by
  induction as with
  | nil => simp [splitOnChar]
  | cons a as ih =>
    rw [List.cons_append, splitOnChar, splitOnChar, ih]
    split
    · rfl
    · cases h : splitOnChar sep as with
      | nil => exact absurd h (splitOnChar_ne_nil sep as)
      | cons part parts => rfl

theorem splitOnChar_eq_singleton {sep : Char} {cs : List Char} (h : sep ∉ cs) :
    splitOnChar sep cs = [cs] := by
  induction cs with
  | nil => rfl
  | cons c cs ih =>
    rw [List.mem_cons, not_or] at h
    rw [splitOnChar, if_neg (Ne.symm h.1), ih h.2]

theorem endsWith_iff {tail text : String} :
    endsWith tail text = true ↔ ∃ rest, text.toList = rest ++ tail.toList := by
  rw [endsWith, Option.isSome_iff_exists]
  constructor
  · rintro ⟨rest, h⟩
    refine ⟨rest.reverse, ?_⟩
    rw [← List.reverse_inj, dropPrefix?_eq_some_iff.mp h, List.reverse_append, List.reverse_reverse]
  · rintro ⟨rest, h⟩
    refine ⟨rest.reverse, dropPrefix?_eq_some_iff.mpr ?_⟩
    rw [h, List.reverse_append]

end Text

namespace FilePath

def namesIn (cs : List Char) : List Component :=
  ((Text.splitOnChar '/' cs).map String.ofList).filterMap component?

def names (p : FilePath) : List Component := namesIn p.text.toList

theorem names_eq (p : FilePath) : p.names = p.parts.filterMap component? := rfl

@[simp] theorem namesIn_nil : namesIn [] = [] := by decide

@[simp] theorem namesIn_point : namesIn ['.'] = [] := by decide

@[simp] theorem namesIn_slash : namesIn ['/'] = [] := by decide

theorem namesIn_append (as bs : List Char) :
    namesIn (as ++ '/' :: bs) = namesIn as ++ namesIn bs := by
  rw [namesIn, Text.splitOnChar_append, List.map_append, List.filterMap_append]
  rfl

theorem parts_append (d file : String) : (FilePath.mk (d ++ "/" ++ file)).parts =
    (FilePath.mk d).parts ++ (FilePath.mk file).parts := by
  have htext : (d ++ "/" ++ file).toList = d.toList ++ '/' :: file.toList := by simp
  rw [parts, htext, Text.splitOnChar_append, List.map_append]
  rfl

theorem namesIn_of_not_mem {cs : List Char} (h : '/' ∉ cs) :
    namesIn cs = (component? (String.ofList cs)).toList := by
  rw [namesIn, Text.splitOnChar_eq_singleton h]
  cases hc : component? (String.ofList cs) <;> simp [hc]

theorem component?_ne_root (text : String) : component? text ≠ some .root := by
  unfold component?
  split <;> simp

theorem component?_eq_none_iff {text : String} :
    component? text = none ↔ text = "" ∨ text = "." := by
  unfold component?
  split <;> simp_all

/-- Two reversed texts have the same names, and both start with a slash or neither does. -/
structure SamePlace (r s : List Char) : Prop where
  names : namesIn r.reverse = namesIn s.reverse
  absolute : r.getLast? = some '/' ↔ s.getLast? = some '/'

namespace SamePlace
variable {r s t : List Char}

theorem refl (r : List Char) : SamePlace r r := ⟨rfl, Iff.rfl⟩

theorem trans (hrs : SamePlace r s) (hst : SamePlace s t) : SamePlace r t :=
  ⟨hrs.names.trans hst.names, hrs.absolute.trans hst.absolute⟩

theorem cons_slash (hr : r ≠ []) : SamePlace r ('/' :: r) := by
  constructor
  · simp [namesIn_append]
  · rw [List.getLast?_cons_of_ne_nil hr]

theorem cons_point (r : List Char) : SamePlace ('/' :: r) ('.' :: '/' :: r) := by
  constructor
  · simp [namesIn_append]
  · rw [List.getLast?_cons_of_ne_nil (List.cons_ne_nil _ _)]

end SamePlace

theorem dropSlashes_of_head_ne {c : Char} {r : List Char} (h : c ≠ '/') :
    dropSlashes (c :: r) = c :: r := by
  simp [dropSlashes, h]

theorem dropSlashes_cons_slash {r : List Char} (hr : r ≠ []) :
    dropSlashes ('/' :: r) = dropSlashes r := by
  simp [dropSlashes, hr]

/-- Only slashes are dropped; one of them stays when there is nothing else. -/
theorem dropSlashes_spec (r : List Char) :
    (dropSlashes r).length ≤ r.length ∧ SamePlace (dropSlashes r) r ∧
      (dropSlashes r = [] ∨ dropSlashes r = ['/'] ∨ (dropSlashes r).head? ≠ some '/') := by
  induction r with
  | nil => exact ⟨Nat.le_refl _, .refl _, .inl rfl⟩
  | cons c r ih =>
    by_cases hc : c = '/'
    · subst c
      by_cases hr : r = []
      · subst r
        exact ⟨Nat.le_refl _, .refl _, .inr (.inl rfl)⟩
      · obtain ⟨hlength, hsame, hhead⟩ := ih
        rw [dropSlashes_cons_slash hr]
        exact ⟨Nat.le_succ_of_le hlength, hsame.trans (.cons_slash hr), hhead⟩
    · rw [dropSlashes_of_head_ne hc]
      exact ⟨Nat.le_refl _, .refl _, .inr (.inr (by simpa using hc))⟩

/-- Nothing is left to drop from the end of a reversed text. -/
def Trimmed (r : List Char) : Prop :=
  r = [] ∨ r = ['/'] ∨ r.head? ≠ some '/' ∧ ∀ rest, r ≠ '.' :: '/' :: rest

theorem dropNothing_spec {n : Nat} {r : List Char} (hn : r.length ≤ n) :
    (dropNothing n r).length ≤ r.length ∧ SamePlace (dropNothing n r) r ∧
      Trimmed (dropNothing n r) := by
  induction n generalizing r with
  | zero =>
    obtain rfl := List.length_eq_zero_iff.mp (Nat.le_zero.mp hn)
    exact ⟨Nat.le_refl _, .refl _, .inl rfl⟩
  | succ n ih =>
    obtain ⟨hlength, hsame, hhead⟩ := dropSlashes_spec r
    rw [dropNothing]
    split
    · next rest hrest =>
      rw [hrest] at hlength hsame
      rw [List.length_cons] at hlength
      obtain ⟨hrestlength, hrestsame, htrimmed⟩ := ih (r := '/' :: rest) (by omega)
      exact ⟨by omega, hrestsame.trans (.trans (.cons_point rest) hsame), htrimmed⟩
    · next hnot =>
      refine ⟨hlength, hsame, ?_⟩
      rcases hhead with h | h | h
      · exact .inl h
      · exact .inr (.inl h)
      · exact .inr (.inr ⟨h, hnot⟩)

theorem exists_last_of_trimmed {name rest : List Char} (hr : Trimmed (name ++ '/' :: rest))
    (hnames : namesIn (name ++ '/' :: rest).reverse ≠ []) :
    ∃ c, component? (String.ofList name.reverse) = some c := by
  apply Option.ne_none_iff_exists'.mp
  intro h
  have hcases : name = [] ∨ name = ['.'] := by
    simpa [← String.toList_inj] using component?_eq_none_iff.mp h
  -- An empty last name or a point would have been dropped.
  rcases hcases with rfl | rfl
  · rcases hr with hr | hr | ⟨hfirst, _⟩
    · simp at hr
    · obtain rfl : rest = [] := by simpa using hr
      exact hnames (by simp)
    · simp at hfirst
  · rcases hr with hr | hr | ⟨_, hpoint⟩
    · simp at hr
    · simp at hr
    · exact hpoint rest rfl

theorem namesIn_of_trimmed {r : List Char} (hr : Trimmed r) (hnames : namesIn r.reverse ≠ []) :
    ∃ c, namesIn r.reverse = namesIn (r.dropWhile (· ≠ '/')).reverse ++ [c] ∧
      ((r.dropWhile (· ≠ '/')).getLast? = some '/' ↔ r.getLast? = some '/') := by
  have hsplit : r.takeWhile (· ≠ '/') ++ r.dropWhile (· ≠ '/') = r :=
    List.takeWhile_append_dropWhile
  have hname : '/' ∉ r.takeWhile (· ≠ '/') := fun h => by simpa using List.mem_takeWhile_imp h
  generalize r.takeWhile (· ≠ '/') = name at hsplit hname
  have hhead := List.head?_dropWhile_not (fun c : Char => decide (c ≠ '/')) r
  generalize r.dropWhile (· ≠ '/') = rest at hsplit hhead
  subst r
  cases rest with
  | nil =>
    -- The whole text is one name, so the directory is empty.
    rw [List.append_nil] at hnames ⊢
    rw [namesIn_of_not_mem (by simpa using hname)] at hnames ⊢
    obtain ⟨c, hc⟩ : ∃ c, component? (String.ofList name.reverse) = some c := by
      apply Option.ne_none_iff_exists'.mp
      intro h
      exact hnames (by rw [h]; rfl)
    refine ⟨c, by simp [hc], ?_⟩
    simp only [List.getLast?_nil, reduceCtorEq, false_iff]
    exact fun h => hname (List.mem_of_getLast? h)
  | cons d rest =>
    obtain rfl : d = '/' := by simpa using hhead
    obtain ⟨c, hc⟩ := exists_last_of_trimmed hr hnames
    refine ⟨c, ?_, by simp⟩
    have hlast : namesIn name.reverse = [c] := by
      rw [namesIn_of_not_mem (by simpa using hname), hc]
      rfl
    simp only [List.reverse_append, List.reverse_cons, List.append_assoc, List.singleton_append,
      namesIn_append, namesIn_nil, hlast, List.append_nil]

theorem root_not_mem_names (p : FilePath) : Component.root ∉ p.names := by
  intro h
  obtain ⟨text, _, htext⟩ := List.mem_filterMap.mp h
  exact component?_ne_root text htext

/-- The marks of a path before its names: its root, or the point that it starts with. -/
def start (p : FilePath) : List Component :=
  if p.isAbsolute then [.root] else if p.parts.head? = some "." then [.here] else []

theorem components_eq (p : FilePath) : p.components = p.start ++ p.names := rfl

theorem up_not_mem_start (p : FilePath) : Component.up ∉ p.start := by
  unfold start
  split
  · simp
  · split <;> simp

theorem parent_eq {p : FilePath} (hp : p.names ≠ []) :
    p.parent = some ⟨String.ofList (dropNothing p.text.length
      ((dropNothing p.text.length p.text.toList.reverse).dropWhile (· ≠ '/'))).reverse⟩ := by
  have hlast : p.components.getLast? = some (p.names.getLast hp) := by
    rw [components_eq, List.getLast?_append_of_ne_nil _ hp, List.getLast?_eq_some_getLast hp]
  have hroot : p.names.getLast hp ≠ .root := by
    intro h
    exact root_not_mem_names p (h ▸ List.getLast_mem hp)
  unfold parent
  simp only [hlast]

/-- The parent of a path with names has all of them but the last. -/
theorem exists_parent {p : FilePath} (hp : p.names ≠ []) :
    ∃ d c, p.parent = some d ∧ p.names = d.names ++ [c] ∧ d.isAbsolute = p.isAbsolute := by
  have hlength : p.text.toList.reverse.length ≤ p.text.length := by
    rw [List.length_reverse, String.length_toList]
  obtain ⟨hshort, hsame, htrimmed⟩ := dropNothing_spec hlength
  have hparent := parent_eq hp
  generalize dropNothing p.text.length p.text.toList.reverse = r at hparent hshort hsame htrimmed
  have hnames : namesIn r.reverse = p.names := by
    rw [hsame.names, List.reverse_reverse, names]
  obtain ⟨c, hc, habsolute⟩ := namesIn_of_trimmed htrimmed (hnames ▸ hp)
  have hrest : (r.dropWhile (· ≠ '/')).length ≤ p.text.length :=
    (List.length_dropWhile_le _ _).trans (hshort.trans hlength)
  obtain ⟨_, hdir, _⟩ := dropNothing_spec hrest
  refine ⟨_, c, hparent, ?_, ?_⟩
  · rw [← hnames, hc, names, String.toList_ofList, hdir.names]
  · simp only [isAbsolute, String.toList_ofList, List.head?_reverse, List.getLast?_reverse,
      hdir.absolute, habsolute, hsame.absolute]

theorem dropNothing_of_head_ne {c : Char} (hslash : c ≠ '/') (hpoint : c ≠ '.') (n : Nat)
    (r : List Char) : dropNothing n (c :: r) = c :: r := by
  cases n with
  | zero => rfl
  | succ n =>
    rw [dropNothing, dropSlashes_of_head_ne hslash]
    split
    · next heq =>
      injection heq with hc
      exact absurd hc hpoint
    · rfl

theorem parent_append {d name : String} {a b : Char} {as bs : List Char}
    (hd : d.toList.reverse = a :: as) (ha : a ≠ '/' ∧ a ≠ '.')
    (hname : name.toList.reverse = b :: bs) (hb : b ≠ '.') (hplain : '/' ∉ name.toList) :
    (FilePath.mk (d ++ "/" ++ name)).parent = some ⟨d⟩ := by
  have htext : (d ++ "/" ++ name).toList = d.toList ++ '/' :: name.toList := by simp
  have hcomponent : component? name ≠ none := by
    intro h
    rcases component?_eq_none_iff.mp h with rfl | rfl
    · simp at hname
    · simp only [String.reduceToList, List.reverse_singleton, List.cons.injEq] at hname
      exact hb hname.1.symm
  have hnames : (FilePath.mk (d ++ "/" ++ name)).names ≠ [] := by
    rw [names, htext, namesIn_append, namesIn_of_not_mem hplain, String.ofList_toList]
    intro h
    cases hc : component? name with
    | none => exact hcomponent hc
    | some c => simp [hc] at h
  have hbslash : b ≠ '/' := by
    rintro rfl
    exact hplain (List.mem_reverse.mp (hname ▸ List.mem_cons_self))
  have hreverse : (d ++ "/" ++ name).toList.reverse = b :: (bs ++ '/' :: a :: as) := by
    rw [htext, List.reverse_append, List.reverse_cons, hname, hd]
    simp
  have hdrop : (b :: (bs ++ '/' :: a :: as)).dropWhile (· ≠ '/') = '/' :: a :: as := by
    rw [← List.cons_append, ← hname, List.dropWhile_append_of_pos]
    · simp
    · intro c hc
      rw [List.mem_reverse] at hc
      simpa using ne_of_mem_of_not_mem hc hplain
  obtain ⟨n, hn⟩ : ∃ n, (d ++ "/" ++ name).length = n + 1 := by
    rw [← String.length_toList, htext, List.length_append, List.length_cons, ← Nat.add_assoc]
    exact ⟨_, rfl⟩
  have hdir : dropNothing (n + 1) ('/' :: a :: as) = a :: as := by
    rw [dropNothing, dropSlashes_cons_slash (List.cons_ne_nil _ _), dropSlashes_of_head_ne ha.1]
    split
    · next heq =>
      injection heq with hc
      exact absurd hc ha.2
    · rfl
  rw [parent_eq hnames, hreverse, dropNothing_of_head_ne hbslash hb, hdrop, hn, hdir, ← hd,
    List.reverse_reverse, String.ofList_toList]

theorem length_dropWhile_lt_of_trimmed {r : List Char} (hr : Trimmed r) (hempty : r ≠ [])
    (hslash : r ≠ ['/']) : (r.dropWhile (· ≠ '/')).length < r.length := by
  rcases hr with rfl | rfl | ⟨hhead, _⟩
  · contradiction
  · contradiction
  · cases r with
    | nil => contradiction
    | cons c r =>
      have hc : c ≠ '/' := by simpa using hhead
      simpa [hc, Nat.lt_succ_iff] using List.length_dropWhile_le (· ≠ '/') r

/-- A path without names and a root is the root. -/
theorem parent_eq_none_of_root {p : FilePath} (hnames : p.names = []) (hroot : p.isAbsolute = true) :
    p.parent = none := by
  have hcomponents : p.components = [.root] := by simp [components_eq, hnames, start, hroot]
  simp [parent, hcomponents]

theorem length_parent_lt {p d : FilePath} (h : p.parent = some d) : d.text.length < p.text.length := by
  have hlength : p.text.toList.reverse.length = p.text.length := by
    rw [List.length_reverse, String.length_toList]
  obtain ⟨hshort, hsame, htrimmed⟩ := dropNothing_spec (Nat.le_of_eq hlength)
  have hroot : dropNothing p.text.length p.text.toList.reverse ≠ ['/'] := by
    intro hr
    rw [hr] at hsame
    have hnames : p.names = [] := by simpa [names] using hsame.names.symm
    have habsolute : p.isAbsolute = true := by
      simpa [isAbsolute, List.getLast?_reverse] using hsame.absolute
    rw [parent_eq_none_of_root hnames habsolute] at h
    cases h
  unfold parent at h
  split at h
  · cases h
  · cases h
  · next hlast =>
    cases h
    generalize dropNothing p.text.length p.text.toList.reverse = r at hshort htrimmed hroot
    have hrest : (r.dropWhile (· ≠ '/')).length ≤ p.text.length :=
      (List.length_dropWhile_le _ _).trans (hshort.trans (Nat.le_of_eq hlength))
    obtain ⟨hdir, _, _⟩ := dropNothing_spec hrest
    rw [← String.length_toList, String.toList_ofList, List.length_reverse]
    by_cases hempty : r = []
    · -- A path with a component is not empty.
      subst r
      simp only [List.dropWhile_nil, List.length_nil] at hdir
      refine Nat.lt_of_le_of_lt hdir (Nat.pos_of_ne_zero fun hzero => ?_)
      obtain rfl : p = ⟨""⟩ := congrArg mk (String.length_eq_zero_iff.mp hzero)
      have hnone : (FilePath.mk "").components = [] := by decide
      rw [hnone] at hlast
      cases hlast
    · have hless := length_dropWhile_lt_of_trimmed htrimmed hempty hroot
      omega

theorem ancestorsUpTo_eq {n m : Nat} {p : FilePath} (hn : p.text.length < n)
    (hm : p.text.length < m) : ancestorsUpTo n p = ancestorsUpTo m p := by
  induction n generalizing m p with
  | zero => exact absurd hn (Nat.not_lt_zero _)
  | succ n ih =>
    obtain ⟨m, rfl⟩ := Nat.exists_eq_add_one.mpr (Nat.zero_lt_of_lt hm)
    rw [ancestorsUpTo, ancestorsUpTo]
    cases hd : p.parent with
    | none => rfl
    | some d =>
      have hlt := length_parent_lt hd
      simp only [ih (m := m) (p := d) (by omega) (by omega)]

/-- No ancestor is left out. -/
theorem ancestors_eq (p : FilePath) : p.ancestors = p :: match p.parent with
    | some d => d.ancestors
    | none => [] := by
  rw [ancestors, ancestorsUpTo]
  cases hd : p.parent with
  | none => rfl
  | some d =>
    have hlt := length_parent_lt hd
    simp only [ancestors, ancestorsUpTo_eq (n := p.text.length + 1) (m := d.text.length + 2)
      (p := d) (by omega) (by omega)]

/-- One more component after a place. Nothing is known of what is above a relative place. -/
def follow (place : List Component) : Component → List Component
  | .root => [.root]
  | .here => place
  | .up =>
    match place.getLast? with
    | some .root => place
    | some (.name _) => place.dropLast
    | _ => place ++ [.up]
  | .name text => place ++ [.name text]

/-- Where a path leads when its points are resolved. -/
def resolved (p : FilePath) : List Component := p.components.foldl follow []

theorem resolved_eq_of_same {p q : FilePath} (h : p.same q = true) : p.resolved = q.resolved := by
  rw [same, decide_eq_true_eq] at h
  rw [resolved, resolved, h]

theorem resolved_eq (p : FilePath) :
    p.resolved = p.names.foldl follow (if p.isAbsolute then [.root] else []) := by
  rw [resolved, components_eq, List.foldl_append, start]
  split
  · rfl
  · split <;> rfl

/-- A path that ends in a name is that name in the directory of the path. -/
theorem exists_directory {p : FilePath} (hp : p.fileName?.isSome = true) :
    ∃ d text, p.parent = some d ∧ p.resolved = d.resolved ++ [.name text] := by
  obtain ⟨text, htext⟩ : ∃ text, p.components.getLast? = some (.name text) := by
    unfold fileName? at hp
    split at hp
    · next text htext => exact ⟨text, htext⟩
    · contradiction
  have hnames : p.names ≠ [] := by
    intro h
    rw [components_eq, h, List.append_nil, start] at htext
    split at htext
    · simp at htext
    · split at htext <;> simp at htext
  obtain ⟨d, c, hparent, hsplit, habsolute⟩ := exists_parent hnames
  obtain rfl : c = .name text := by
    rw [components_eq, hsplit, ← List.append_assoc, List.getLast?_concat] at htext
    exact Option.some.inj htext
  refine ⟨d, text, hparent, ?_⟩
  rw [resolved_eq, resolved_eq d, hsplit, List.foldl_append, habsolute]
  rfl

theorem names_join {d : FilePath} {file : String} (hfile : (FilePath.mk file).isAbsolute = false) :
    (d.join file).names = d.names ++ (FilePath.mk file).names ∧
      (d.join file).isAbsolute = d.isAbsolute := by
  rw [isAbsolute, decide_eq_false_iff_not] at hfile
  unfold join
  split_ifs with hempty hslash
  · have htext : d.text = "" := by simpa [hfile] using hempty
    simp [names, isAbsolute, htext, hfile]
  · obtain ⟨rest, hrest⟩ := Text.endsWith_iff.mp hslash
    have htext : d.text.toList = rest ++ ['/'] := hrest
    simp only [names, isAbsolute, String.toList_append, htext, List.append_assoc,
      List.singleton_append, namesIn_append, namesIn_nil, List.append_nil]
    cases rest <;> simp
  · have htext : d.text.toList ≠ [] := by
      intro h
      exact hempty (by simp [String.toList_eq_nil_iff.mp h])
    have hslash : "/".toList = ['/'] := rfl
    simp only [names, isAbsolute, String.toList_append, hslash, List.append_assoc,
      List.singleton_append, namesIn_append, true_and]
    rw [List.head?_append_of_ne_nil _ htext]

theorem join_of_name {d file : String} {a : Char} {as : List Char}
    (hd : d.toList.reverse = a :: as) (ha : a ≠ '/')
    (hfile : (FilePath.mk file).isAbsolute = false) :
    (FilePath.mk d).join file = ⟨d ++ "/" ++ file⟩ := by
  rw [isAbsolute, decide_eq_false_iff_not] at hfile
  unfold join
  split_ifs with hempty hslash
  · have htext : d = "" := by simpa [hfile] using hempty
    simp [htext] at hd
  · obtain ⟨rest, hrest⟩ := Text.endsWith_iff.mp hslash
    have htext : d.toList = rest ++ ['/'] := hrest
    rw [htext, List.reverse_append] at hd
    exact absurd (List.cons.inj hd).1 ha.symm
  · rfl

theorem resolved_join {d d' : FilePath} (h : d.resolved = d'.resolved) (file : String) :
    (d.join file).resolved = (d'.join file).resolved := by
  cases hfile : (FilePath.mk file).isAbsolute with
  | true => simp_all [isAbsolute, join]
  | false =>
    obtain ⟨hnames, habsolute⟩ := names_join (d := d) hfile
    obtain ⟨hnames', habsolute'⟩ := names_join (d := d') hfile
    rw [resolved_eq, hnames, habsolute, List.foldl_append, ← resolved_eq, h, resolved_eq d',
      ← List.foldl_append, ← hnames', ← habsolute', ← resolved_eq]

theorem readableBound_eq : readableBound = Nat.pow 256 maxBytes := by
  delta readableBound
  with_reducible rfl

theorem readableBound_pos : 0 < readableBound := by
  rw [readableBound_eq]
  generalize maxBytes = n
  exact Nat.pow_pos (Nat.zero_lt_succ 255)

/-- The bytes of a path as the digits of a number, with one more before them. -/
def code (p : FilePath) : Nat :=
  Nat.ofDigits 256 (p.text.toByteArray.data.toList.map UInt8.toNat ++ [1])

theorem digit_lt {p : FilePath} {n : Nat}
    (hn : n ∈ p.text.toByteArray.data.toList.map UInt8.toNat ++ [1]) : n < 256 := by
  rcases List.mem_append.mp hn with hn | hn
  · obtain ⟨byte, _, rfl⟩ := List.mem_map.mp hn
    exact UInt8.toNat_lt byte
  · obtain rfl := List.mem_singleton.mp hn
    decide

theorem digits_code (p : FilePath) :
    Nat.digits 256 p.code = p.text.toByteArray.data.toList.map UInt8.toNat ++ [1] := by
  apply Nat.digits_ofDigits
  · decide
  · exact fun n hn => digit_lt hn
  · simp

theorem code_injective : Function.Injective code := by
  intro p q h
  have hdigits := congrArg (Nat.digits 256) h
  rw [digits_code, digits_code, List.append_cancel_right_eq] at hdigits
  have hbytes := (List.map_injective_iff.mpr fun _ _ => UInt8.toNat_inj.mp) hdigits
  have htext : p.text = q.text :=
    String.toByteArray_inj.mp (ByteArray.ext (Array.toList_inj.mp hbytes))
  cases p
  cases q
  cases htext
  rfl

theorem code_lt {p : FilePath} (h : p.isTooLong = false) : p.code < readableBound := by
  have hsize : p.text.utf8ByteSize + 1 ≤ maxBytes := by
    rw [isTooLong, decide_eq_false_iff_not] at h
    omega
  have hcode := Nat.ofDigits_lt_base_pow_length (by decide) fun n hn => digit_lt (p := p) hn
  simp only [List.length_append, List.length_map, Array.length_toList, ByteArray.size_data,
    String.size_toByteArray, List.length_singleton] at hcode
  rw [readableBound_eq]
  generalize maxBytes = n at hsize
  exact hcode.trans_le (Nat.pow_le_pow_right (by decide) hsize)

theorem code_pos (p : FilePath) : 0 < p.code := by
  apply Nat.pos_of_ne_zero
  intro h
  have hdigits := digits_code p
  simp [h] at hdigits

/-- Paths that can be read and are told apart are fewer than the bound. -/
theorem length_lt_readableBound {paths : List FilePath} (hnodup : paths.Nodup)
    (hshort : ∀ p ∈ paths, p.isTooLong = false) : paths.length < readableBound := by
  have hcodes : (0 :: paths.map code).Nodup := by
    refine List.nodup_cons.mpr ⟨?_, hnodup.map code_injective⟩
    intro h
    obtain ⟨p, _, hp⟩ := List.mem_map.mp h
    exact (code_pos p).ne' hp
  have hsubset : 0 :: paths.map code ⊆ List.range readableBound := by
    intro n hn
    rw [List.mem_range]
    rcases List.mem_cons.mp hn with rfl | hn
    · exact readableBound_pos
    · obtain ⟨p, hp, rfl⟩ := List.mem_map.mp hn
      exact code_lt (hshort p hp)
  simpa using hcodes.length_le_of_subset hsubset

end FilePath

end OrgStacks
