/-!
# Finite maps and sets keyed by names

Both are lists in increasing order of name, by code point, without repetition; the order is part of
the type. `NameMap.get?_insert` and `NameSet.mem_insert` say what an insertion changes, and
`NameMap.ext_get?` and `NameSet.ext_mem` that lookups decide equality.
-/

set_option autoImplicit false

namespace OrgStacks

universe u
variable {α β : Type u}

def Ordered (entries : List (String × α)) : Prop :=
  entries.Pairwise fun a b => a.1 < b.1

/-- The entry goes before the first larger name and replaces an equal one. -/
def insertEntry (name : String) (value : α) : List (String × α) → List (String × α)
  | [] => [(name, value)]
  | (n, v) :: rest =>
    if name < n then (name, value) :: (n, v) :: rest
    else if n < name then (n, v) :: insertEntry name value rest
    else (name, value) :: rest

def valueOf? (name : String) : List (String × α) → Option α
  | [] => none
  | (n, v) :: rest => if n = name then some v else valueOf? name rest

theorem eq_of_not_lt {a b : String} (h : ¬ a < b) (h' : ¬ b < a) : a = b :=
  String.le_antisymm (String.not_lt.mp h') (String.not_lt.mp h)

theorem mem_insertEntry {name : String} {value : α} {entries : List (String × α)}
    {e : String × α} (h : e ∈ insertEntry name value entries) :
    e = (name, value) ∨ e ∈ entries := by
  induction entries with
  | nil => simpa [insertEntry] using h
  | cons head rest ih =>
    obtain ⟨n, v⟩ := head
    simp only [insertEntry] at h
    split at h
    · simpa using h
    · split at h
      · rcases List.mem_cons.mp h with rfl | h
        · simp
        · rcases ih h with rfl | h <;> simp [*]
      · rcases List.mem_cons.mp h with rfl | h <;> simp [*]

theorem Ordered.insertEntry {name : String} {value : α} {entries : List (String × α)}
    (h : Ordered entries) : Ordered (insertEntry name value entries) := by
  induction entries with
  | nil => simp [Ordered, OrgStacks.insertEntry]
  | cons head rest ih =>
    obtain ⟨n, v⟩ := head
    have hrest := List.pairwise_cons.mp h
    simp only [OrgStacks.insertEntry]
    split
    case isTrue hlt =>
      refine List.pairwise_cons.mpr ⟨fun e he => ?_, h⟩
      rcases List.mem_cons.mp he with rfl | he
      · exact hlt
      · exact String.lt_trans hlt (hrest.1 e he)
    case isFalse hnl =>
      split
      case isTrue hlt =>
        refine List.pairwise_cons.mpr ⟨fun e he => ?_, ih hrest.2⟩
        rcases mem_insertEntry he with rfl | he
        · exact hlt
        · exact hrest.1 e he
      case isFalse hnl' =>
        cases eq_of_not_lt hnl hnl'
        exact List.pairwise_cons.mpr ⟨fun e he => hrest.1 e he, hrest.2⟩

theorem valueOf?_insertEntry (name key : String) (value : α) (entries : List (String × α)) :
    valueOf? key (insertEntry name value entries) =
      if name = key then some value else valueOf? key entries := by
  induction entries with
  | nil => simp [insertEntry, valueOf?]
  | cons head rest ih =>
    obtain ⟨n, v⟩ := head
    simp only [insertEntry]
    split
    · simp [valueOf?]
    · split
      case isTrue hlt =>
        by_cases hn : n = key
        · subst hn
          have : name ≠ n := fun h => String.lt_irrefl n (h ▸ hlt)
          simp [valueOf?, this]
        · simp [valueOf?, hn, ih]
      case isFalse h h' =>
        cases eq_of_not_lt h h'
        by_cases hn : name = key <;> simp [valueOf?, hn]

theorem valueOf?_eq_none_of_lt {key : String} {entries : List (String × α)}
    (h : ∀ e ∈ entries, key < e.1) : valueOf? key entries = none := by
  induction entries with
  | nil => rfl
  | cons head rest ih =>
    have hne : head.1 ≠ key := fun he => by
      have := h head (by simp)
      rw [he] at this
      exact String.lt_irrefl key this
    simp [valueOf?, hne, ih fun e he => h e (by simp [he])]

theorem Ordered.ext_valueOf? {a b : List (String × α)} (ha : Ordered a) (hb : Ordered b)
    (h : ∀ key, valueOf? key a = valueOf? key b) : a = b := by
  induction a generalizing b with
  | nil =>
    cases b with
    | nil => rfl
    | cons head rest => simpa [valueOf?] using h head.1
  | cons x xs ih =>
    cases b with
    | nil => simpa [valueOf?] using h x.1
    | cons y ys =>
      have hx := List.pairwise_cons.mp ha
      have hy := List.pairwise_cons.mp hb
      have absent {key : String} {z : String × α} {zs : List (String × α)} (hlt : key < z.1)
          (hz : ∀ e ∈ zs, z.1 < e.1) : valueOf? key (z :: zs) = none :=
        valueOf?_eq_none_of_lt fun e he => by
          rcases List.mem_cons.mp he with rfl | he
          · exact hlt
          · exact String.lt_trans hlt (hz e he)
      have key_eq : x.1 = y.1 := by
        refine eq_of_not_lt (fun hlt => ?_) (fun hlt => ?_)
        · have := h x.1
          rw [absent hlt hy.1] at this
          simp [valueOf?] at this
        · have := h y.1
          rw [absent hlt hx.1] at this
          simp [valueOf?] at this
      have value_eq : x.2 = y.2 := by simpa [valueOf?, key_eq] using h x.1
      have tail_eq : xs = ys := by
        refine ih hx.2 hy.2 fun key => ?_
        by_cases hk : x.1 = key
        · subst hk
          rw [valueOf?_eq_none_of_lt hx.1,
            valueOf?_eq_none_of_lt fun e he => key_eq ▸ hy.1 e he]
        · have hk' : y.1 ≠ key := key_eq ▸ hk
          simpa [valueOf?, hk, hk'] using h key
      rw [Prod.ext key_eq value_eq, tail_eq]

/-- A finite map from names, iterated in name order. -/
structure NameMap (α : Type u) where
  entries : List (String × α)
  ordered : Ordered entries

namespace NameMap

def empty : NameMap α := ⟨[], List.Pairwise.nil⟩

instance : Inhabited (NameMap α) := ⟨empty⟩

def get? (m : NameMap α) (name : String) : Option α := valueOf? name m.entries

def contains (m : NameMap α) (name : String) : Bool := (m.get? name).isSome

def insert (m : NameMap α) (name : String) (value : α) : NameMap α :=
  ⟨insertEntry name value m.entries, m.ordered.insertEntry⟩

def keys (m : NameMap α) : List String := m.entries.map (·.1)

def values (m : NameMap α) : List α := m.entries.map (·.2)

def size (m : NameMap α) : Nat := m.entries.length

def isEmpty (m : NameMap α) : Bool := m.entries.isEmpty

/-- Later entries replace earlier ones of the same name. -/
def ofList (entries : List (String × α)) : NameMap α :=
  entries.foldl (fun m e => m.insert e.1 e.2) empty

def map (f : String → α → β) (m : NameMap α) : NameMap β where
  entries := m.entries.map fun e => (e.1, f e.1 e.2)
  ordered := by
    simpa only [Ordered, List.pairwise_map] using m.ordered

@[simp] theorem get?_empty (name : String) : (empty : NameMap α).get? name = none := rfl

theorem get?_insert (m : NameMap α) (name key : String) (value : α) :
    (m.insert name value).get? key = if name = key then some value else m.get? key :=
  valueOf?_insertEntry name key value m.entries

@[ext] theorem ext_entries {m m' : NameMap α} (h : m.entries = m'.entries) : m = m' := by
  cases m
  cases m'
  cases h
  rfl

theorem ext_get? {m m' : NameMap α} (h : ∀ name, m.get? name = m'.get? name) : m = m' :=
  ext_entries (m.ordered.ext_valueOf? m'.ordered h)

end NameMap

structure NameSet where
  members : NameMap Unit

namespace NameSet

def empty : NameSet := ⟨.empty⟩

instance : Inhabited NameSet := ⟨empty⟩

def toList (s : NameSet) : List String := s.members.keys

def contains (s : NameSet) (name : String) : Bool := s.members.contains name

instance : Membership String NameSet := ⟨fun s name => s.contains name = true⟩

instance (name : String) (s : NameSet) : Decidable (name ∈ s) :=
  inferInstanceAs (Decidable (s.contains name = true))

def insert (s : NameSet) (name : String) : NameSet := ⟨s.members.insert name ()⟩

def ofList (names : List String) : NameSet := names.foldl insert empty

def union (s t : NameSet) : NameSet := t.toList.foldl insert s

def size (s : NameSet) : Nat := s.members.size

def isEmpty (s : NameSet) : Bool := s.members.isEmpty

def diff (s t : NameSet) : List String := s.toList.filter (! t.contains ·)

theorem mem_def {name : String} {s : NameSet} : name ∈ s ↔ s.contains name = true := Iff.rfl

@[simp] theorem not_mem_empty (name : String) : name ∉ empty := by
  simp [mem_def, contains, empty, NameMap.contains]

theorem mem_insert {s : NameSet} {name other : String} :
    other ∈ s.insert name ↔ other = name ∨ other ∈ s := by
  simp only [mem_def, contains, insert, NameMap.contains, NameMap.get?_insert]
  by_cases h : name = other
  · simp [h]
  · simp [h, Ne.symm h]

theorem ext_mem {s t : NameSet} (h : ∀ name, name ∈ s ↔ name ∈ t) : s = t := by
  obtain ⟨s⟩ := s
  obtain ⟨t⟩ := t
  congr 1
  refine NameMap.ext_get? fun name => ?_
  have := h name
  simp only [mem_def, contains, NameMap.contains] at this
  cases hs : s.get? name <;> cases ht : t.get? name <;> simp_all

end NameSet

end OrgStacks
