import Mathlib.Data.List.Nodup
import Mathlib.Data.List.Sort
import OrgStacks.NameMap

/-!
# Entries, lookups and members

The entries of a map and its lookups say the same; an insertion under a new name adds one entry
and moves none. A set lists each of its members once.
-/

namespace OrgStacks
set_option autoImplicit false

universe u
variable {α β : Type u}

theorem Ordered.ne_of_mem {x : String × α} {entries : List (String × α)}
    (h : Ordered (x :: entries)) {e : String × α} (he : e ∈ entries) : x.1 ≠ e.1 := by
  intro heq
  have hlt := (List.pairwise_cons.mp h).1 e he
  rw [heq] at hlt
  exact String.lt_irrefl _ hlt

theorem Ordered.mem_iff_valueOf? {entries : List (String × α)} (h : Ordered entries)
    (name : String) (value : α) :
    (name, value) ∈ entries ↔ valueOf? name entries = some value := by
  induction entries with
  | nil => simp [valueOf?]
  | cons x entries ih =>
    obtain ⟨n, v⟩ := x
    by_cases hn : n = name
    · subst n
      have hnot : (name, value) ∉ entries := fun hm => h.ne_of_mem hm rfl
      simp [valueOf?, hnot, eq_comm]
    · simp [valueOf?, hn, Ne.symm hn, ih (List.pairwise_cons.mp h).2]

theorem Ordered.ext_mem {a b : List (String × α)} (ha : Ordered a) (hb : Ordered b)
    (h : ∀ name value, (name, value) ∈ a ↔ (name, value) ∈ b) : a = b := by
  apply ha.ext_valueOf? hb
  intro name
  apply Option.ext
  intro value
  rw [← ha.mem_iff_valueOf?, ← hb.mem_iff_valueOf?]
  exact h name value

@[simp] theorem insertEntry_nil (name : String) (value : α) :
    insertEntry name value [] = [(name, value)] := rfl

theorem insertEntry_of_lt {name n : String} (h : name < n) (value v : α)
    (rest : List (String × α)) :
    insertEntry name value ((n, v) :: rest) = (name, value) :: (n, v) :: rest := by
  rw [insertEntry, if_pos h]

theorem insertEntry_of_gt {name n : String} (h : n < name) (value v : α)
    (rest : List (String × α)) :
    insertEntry name value ((n, v) :: rest) = (n, v) :: insertEntry name value rest := by
  have hnot : ¬ name < n := fun hlt => String.lt_irrefl n (String.lt_trans h hlt)
  rw [insertEntry, if_neg hnot, if_pos h]

theorem insertEntry_perm {name : String} (value : α) {entries : List (String × α)}
    (h : ∀ e ∈ entries, e.1 ≠ name) :
    (insertEntry name value entries).Perm ((name, value) :: entries) := by
  induction entries with
  | nil => exact .refl _
  | cons x entries ih =>
    obtain ⟨n, v⟩ := x
    have hn : n ≠ name := h (n, v) List.mem_cons_self
    simp only [insertEntry]
    split
    · exact .refl _
    · split
      · exact ((ih fun e he => h e (List.mem_cons_of_mem _ he)).cons (n, v)).trans (.swap _ _ _)
      · rename_i hlt hlt'
        exact absurd (eq_of_not_lt hlt' hlt) hn

namespace NameMap

theorem mem_entries_iff {m : NameMap α} {name : String} {value : α} :
    (name, value) ∈ m.entries ↔ m.get? name = some value :=
  m.ordered.mem_iff_valueOf? name value

theorem contains_iff {m : NameMap α} {name : String} :
    m.contains name = true ↔ ∃ value, m.get? name = some value :=
  Option.isSome_iff_exists

@[simp] theorem contains_empty (name : String) : (empty : NameMap α).contains name = false := rfl

theorem contains_insert {m : NameMap α} {name key : String} {value : α} :
    (m.insert name value).contains key = true ↔ name = key ∨ m.contains key = true := by
  simp only [contains, get?_insert]
  split <;> simp [*]

theorem mem_keys_iff {m : NameMap α} {name : String} :
    name ∈ m.keys ↔ m.contains name = true := by
  simp only [keys, List.mem_map, contains_iff, ← mem_entries_iff, Prod.exists, exists_and_right,
    exists_eq_right]

theorem entries_eq_filterMap (m : NameMap α) :
    m.entries = m.keys.filterMap fun name => (m.get? name).map fun value => (name, value) := by
  rw [keys, List.filterMap_map]
  conv_lhs => rw [← List.filterMap_some (l := m.entries)]
  apply List.filterMap_congr
  intro e he
  simp [mem_entries_iff.mp he]

theorem mem_values_iff {m : NameMap α} {value : α} :
    value ∈ m.values ↔ ∃ name, m.get? name = some value := by
  simp only [values, List.mem_map, ← mem_entries_iff, Prod.exists, exists_eq_right]

theorem keys_nodup (m : NameMap α) : m.keys.Nodup := by
  refine List.pairwise_map.mpr (m.ordered.imp ?_)
  intro a b hlt heq
  rw [heq] at hlt
  exact String.lt_irrefl _ hlt

/-- The keys, where each value tells the one it is kept under. -/
theorem keys_eq_map_values {m : NameMap α} {f : α → String}
    (h : ∀ name value, m.get? name = some value → f value = name) : m.keys = m.values.map f := by
  unfold values keys
  rw [List.map_map]
  apply List.map_congr_left
  intro e he
  exact (h e.1 e.2 (mem_entries_iff.mp he)).symm

theorem values_nodup {m : NameMap α} {f : α → String}
    (h : ∀ name value, m.get? name = some value → f value = name) : m.values.Nodup := by
  have hkeys := m.keys_nodup
  rw [keys_eq_map_values h] at hkeys
  exact hkeys.of_map

@[simp] theorem keys_map (m : NameMap α) (f : String → α → β) : (m.map f).keys = m.keys := by
  simp [keys, map]

theorem get?_map (m : NameMap α) (f : String → α → β) (name : String) :
    (m.map f).get? name = (m.get? name).map (f name) := by
  have h : ∀ entries : List (String × α), valueOf? name (entries.map fun e => (e.1, f e.1 e.2)) =
      (valueOf? name entries).map (f name) := by
    intro entries
    induction entries with
    | nil => rfl
    | cons x entries ih =>
      by_cases hx : x.1 = name
      · simp [valueOf?, hx]
      · simp [valueOf?, hx, ih]
  exact h m.entries

theorem keys_eq_of_contains {m : NameMap α} {m' : NameMap β}
    (h : ∀ name, m.contains name = m'.contains name) : m.keys = m'.keys := by
  rw [← m.keys_map fun _ _ => PUnit.unit.{u + 1}, ← m'.keys_map fun _ _ => PUnit.unit.{u + 1}]
  refine congrArg keys (ext_get? fun name => ?_)
  have hname := h name
  simp only [contains] at hname
  rw [get?_map, get?_map]
  cases hm : m.get? name <;> cases hm' : m'.get? name <;> simp_all

theorem insert_comm (m : NameMap α) {name name' : String} (value value' : α)
    (h : name ≠ name') :
    (m.insert name value).insert name' value' = (m.insert name' value').insert name value := by
  refine ext_get? fun key => ?_
  simp only [get?_insert]
  by_cases hk : name = key
  · subst hk
    simp [Ne.symm h]
  · simp [hk]

theorem insert_insert (m : NameMap α) (name : String) (value value' : α) :
    (m.insert name value).insert name value' = m.insert name value' := by
  refine ext_get? fun key => ?_
  simp only [get?_insert]
  split <;> rfl

theorem entries_insert_perm {m : NameMap α} {name : String} (value : α)
    (h : m.contains name = false) :
    (m.insert name value).entries.Perm ((name, value) :: m.entries) := by
  refine insertEntry_perm value fun e he heq => ?_
  have hk : name ∈ m.keys := List.mem_map.mpr ⟨e, he, heq⟩
  rw [mem_keys_iff, h] at hk
  contradiction

theorem entries_foldl_insert_perm {γ : Type} {name : γ → String} {value : γ → α} {l : List γ}
    {m : NameMap α} (hdistinct : (l.map name).Nodup)
    (hnew : ∀ c ∈ l, m.contains (name c) = false) :
    (l.foldl (fun m c => m.insert (name c) (value c)) m).entries.Perm
      (l.map (fun c => (name c, value c)) ++ m.entries) := by
  induction l generalizing m with
  | nil => exact .refl _
  | cons c l ih =>
    rw [List.map_cons, List.nodup_cons] at hdistinct
    have hrest : ∀ d ∈ l, (m.insert (name c) (value c)).contains (name d) = false := by
      intro d hd
      have hne : name c ≠ name d := fun heq => hdistinct.1 (heq ▸ List.mem_map.mpr ⟨d, hd, rfl⟩)
      rw [← Bool.not_eq_true, contains_insert, not_or, Bool.not_eq_true]
      exact ⟨hne, hnew d (List.mem_cons_of_mem c hd)⟩
    have hinsert := entries_insert_perm (value c) (hnew c List.mem_cons_self)
    exact (ih hdistinct.2 hrest).trans ((hinsert.append_left _).trans List.perm_middle)

theorem entries_ofList_perm {α : Type} {entries : List (String × α)}
    (h : (entries.map (·.1)).Nodup) :
    (ofList entries).entries.Perm entries := by
  have hinserts : (ofList entries).entries.Perm (entries.map (fun e => (e.1, e.2)) ++ []) :=
    entries_foldl_insert_perm h fun _ _ => contains_empty _
  simpa using hinserts

theorem isEmpty_ofList (entries : List (String × α)) :
    (ofList entries).isEmpty = entries.isEmpty := by
  rcases List.eq_nil_or_concat' entries with rfl | ⟨before, e, rfl⟩
  · rfl
  · have hmem : e ∈ (ofList (before ++ [e])).entries := by
      rw [mem_entries_iff, ofList, List.foldl_append]
      simp [get?_insert]
    rw [isEmpty, List.isEmpty_eq_false_iff.mpr (List.ne_nil_of_mem hmem),
      List.isEmpty_eq_false_iff.mpr (by simp)]

theorem mem_of_mem_ofList {entries : List (String × α)} {e : String × α}
    (h : e ∈ (ofList entries).entries) : e ∈ entries := by
  have hfold : ∀ m : NameMap α, e ∈ (entries.foldl (fun m e => m.insert e.1 e.2) m).entries →
      e ∈ entries ∨ e ∈ m.entries := by
    clear h
    induction entries with
    | nil => exact fun _ => Or.inr
    | cons x entries ih =>
      intro m hm
      rcases ih _ hm with h | h
      · exact Or.inl (List.mem_cons_of_mem x h)
      · rcases mem_insertEntry h with rfl | h
        · exact Or.inl List.mem_cons_self
        · exact Or.inr h
  exact (hfold empty h).resolve_right List.not_mem_nil

end NameMap

namespace NameSet

@[simp] theorem mem_toList {s : NameSet} {name : String} : name ∈ s.toList ↔ name ∈ s :=
  NameMap.mem_keys_iff

theorem toList_nodup (s : NameSet) : s.toList.Nodup := s.members.keys_nodup

theorem toList_ordered (s : NameSet) : s.toList.Pairwise (· < ·) :=
  List.pairwise_map.mpr s.members.ordered

theorem eq_toList_of_mem {s : NameSet} {names : List String} (hnames : names.Pairwise (· < ·))
    (h : ∀ name, name ∈ s ↔ name ∈ names) : names = s.toList :=
  hnames.eq_of_mem_iff s.toList_ordered fun name => by rw [mem_toList, h]

theorem mem_foldl_insert {names : List String} {s : NameSet} {name : String} :
    name ∈ names.foldl insert s ↔ name ∈ names ∨ name ∈ s := by
  induction names generalizing s with
  | nil => simp
  | cons n names ih =>
    simp only [List.foldl_cons, ih, mem_insert, List.mem_cons]
    tauto

@[simp] theorem mem_ofList {names : List String} {name : String} :
    name ∈ ofList names ↔ name ∈ names := by
  simp [ofList, mem_foldl_insert]

@[simp] theorem mem_union {s t : NameSet} {name : String} :
    name ∈ s.union t ↔ name ∈ s ∨ name ∈ t := by
  simp only [union, mem_foldl_insert, mem_toList]
  exact Or.comm

theorem mem_foldl_union {sets : List NameSet} {s : NameSet} {name : String} :
    name ∈ sets.foldl union s ↔ name ∈ s ∨ ∃ t ∈ sets, name ∈ t := by
  induction sets generalizing s with
  | nil => simp
  | cons t sets ih =>
    simp only [List.foldl_cons, ih, mem_union, List.mem_cons, exists_eq_or_imp]
    tauto

theorem mem_diff {s t : NameSet} {name : String} :
    name ∈ s.diff t ↔ name ∈ s ∧ name ∉ t := by
  simp [diff, mem_def]

end NameSet

end OrgStacks
