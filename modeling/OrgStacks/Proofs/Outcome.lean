import Mathlib.Data.List.Forall2
import OrgStacks.Validation

/-!
# Computations that may fail

What a success or a failure of a sequence, of a list of computations or of a fold says about its
parts. Everything here is about `Except` alone.
-/

namespace OrgStacks
set_option autoImplicit false

variable {ε α β σ : Type}

theorem ok_bind (a : α) (f : α → Except ε β) : (Except.ok a >>= f) = f a := rfl

theorem error_bind (e : ε) (f : α → Except ε β) : (Except.error e >>= f) = .error e := rfl

theorem bind_eq_ok_iff {x : Except ε α} {f : α → Except ε β} {b : β} :
    (x >>= f) = .ok b ↔ ∃ a, x = .ok a ∧ f a = .ok b := by
  cases x <;> simp [bind, Except.bind]

theorem bind_eq_error_iff {x : Except ε α} {f : α → Except ε β} {e : ε} :
    (x >>= f) = .error e ↔ x = .error e ∨ ∃ a, x = .ok a ∧ f a = .error e := by
  cases x <;> simp [bind, Except.bind]

theorem map_eq_ok_iff {x : Except ε α} {f : α → β} {b : β} :
    x.map f = .ok b ↔ ∃ a, x = .ok a ∧ f a = b := by
  cases x <;> simp [Except.map]

@[simp] theorem map_eq_error_iff {x : Except ε α} {f : α → β} {e : ε} :
    x.map f = .error e ↔ x = .error e := by
  cases x <;> simp [Except.map]

@[simp] theorem error_eq_map_iff {x : Except ε α} {f : α → β} {e : ε} :
    .error e = x.map f ↔ x = .error e := by
  rw [eq_comm, map_eq_error_iff]

@[simp] theorem mem_problemOf {x : Except Problem α} {e : Problem} :
    e ∈ problemOf x ↔ x = .error e := by
  cases x <;> simp [problemOf, eq_comm]

theorem exists_of_toOption_bind {x : Except ε α} {f : α → Option β} {b : β}
    (h : x.toOption.bind f = some b) : ∃ a, x = .ok a ∧ f a = some b := by
  cases x with
  | error e => cases h
  | ok a => exact ⟨a, rfl, h⟩

def failure? : Except ε α → Option ε
  | .error e => some e
  | .ok _ => none

@[simp] theorem failure?_eq_some_iff {x : Except ε α} {e : ε} :
    failure? x = some e ↔ x = .error e := by
  cases x <;> simp [failure?]

@[simp] theorem failure?_eq_none_iff {x : Except ε α} :
    failure? x = none ↔ ∃ a, x = .ok a := by
  cases x <;> simp [failure?]

@[simp] theorem failure?_map {x : Except ε α} {f : α → β} : failure? (x.map f) = failure? x := by
  cases x <;> rfl

theorem failure?_mapM {f : α → Except ε β} {l : List α} :
    failure? (l.mapM f) = l.findSome? fun a => failure? (f a) := by
  induction l with
  | nil => rfl
  | cons a l ih =>
    rw [List.mapM_cons, List.findSome?_cons, ← ih]
    cases f a with
    | error e => rfl
    | ok b => cases l.mapM f <;> rfl

theorem findSome?_flatMap {γ : Type} {p : α → Option γ} {q : β → Option γ} {g : α → List β}
    {l : List α} (h : ∀ a ∈ l, p a = (g a).findSome? q) :
    l.findSome? p = (l.flatMap g).findSome? q := by
  induction l with
  | nil => rfl
  | cons a l ih =>
    have hrest := ih fun b hb => h b (List.mem_cons_of_mem a hb)
    rw [List.flatMap_cons, List.findSome?_append, List.findSome?_cons, ← h a List.mem_cons_self,
      ← hrest]
    cases p a <;> rfl

theorem mapM_eq_error_iff {f : α → Except ε β} {l : List α} {e : ε} :
    l.mapM f = .error e ↔ ∃ before a after, l = before ++ a :: after ∧
      (∀ b ∈ before, ∃ y, f b = .ok y) ∧ f a = .error e := by
  rw [← failure?_eq_some_iff, failure?_mapM, List.findSome?_eq_some_iff]
  simp only [failure?_eq_some_iff, failure?_eq_none_iff, and_comm]

theorem exists_of_mapM_eq_error {f : α → Except ε β} {l : List α} {e : ε}
    (h : l.mapM f = .error e) : ∃ a ∈ l, f a = .error e := by
  obtain ⟨before, a, after, rfl, _, ha⟩ := mapM_eq_error_iff.mp h
  exact ⟨a, by simp, ha⟩

theorem forall₂_of_mapM_eq_ok {f : α → Except ε β} {l : List α} {bs : List β}
    (h : l.mapM f = .ok bs) : List.Forall₂ (fun a b => f a = .ok b) l bs := by
  induction l generalizing bs with
  | nil =>
    simp only [List.mapM_nil, pure, Except.pure, Except.ok.injEq] at h
    subst bs
    exact .nil
  | cons a l ih =>
    rw [List.mapM_cons] at h
    obtain ⟨b, hb, h⟩ := bind_eq_ok_iff.mp h
    obtain ⟨cs, hcs, h⟩ := bind_eq_ok_iff.mp h
    simp only [pure, Except.pure, Except.ok.injEq] at h
    subst bs
    exact .cons hb (ih hcs)

theorem mapM_eq_ok_iff {f : α → Except ε β} {l : List α} {bs : List β} :
    l.mapM f = .ok bs ↔ List.Forall₂ (fun a b => f a = .ok b) l bs := by
  constructor
  · exact forall₂_of_mapM_eq_ok
  · intro h
    induction h with
    | nil => rfl
    | cons hab _ ih =>
      rw [List.mapM_cons, hab, ih]
      rfl

theorem forall₂_congr {R S : α → β → Prop} {l : List α} {bs : List β}
    (h : ∀ a ∈ l, ∀ b, R a b ↔ S a b) : List.Forall₂ R l bs ↔ List.Forall₂ S l bs := by
  induction l generalizing bs with
  | nil => rw [List.forall₂_nil_left_iff, List.forall₂_nil_left_iff]
  | cons a l ih =>
    obtain ⟨ha, hl⟩ := List.forall_mem_cons.mp h
    cases bs with
    | nil => simp
    | cons b bs => rw [List.forall₂_cons, List.forall₂_cons, ha b, ih hl]

theorem exists_of_forall₂_append {R : α → β → Prop} {l m : List α} {bs : List β}
    (h : List.Forall₂ R (l ++ m) bs) :
    ∃ cs ds, List.Forall₂ R l cs ∧ List.Forall₂ R m ds ∧ bs = cs ++ ds := by
  have htake := List.forall₂_take l.length h
  have hdrop := List.forall₂_drop l.length h
  rw [List.take_left] at htake
  rw [List.drop_left] at hdrop
  exact ⟨_, _, htake, hdrop, (List.take_append_drop _ _).symm⟩

theorem exists_of_forall₂_middle {R : α → β → Prop} {l m : List α} {a : α} {bs : List β}
    (h : List.Forall₂ R (l ++ a :: m) bs) :
    ∃ cs b ds, List.Forall₂ R l cs ∧ R a b ∧ List.Forall₂ R m ds ∧ bs = cs ++ b :: ds := by
  obtain ⟨cs, _, hcs, hrest, rfl⟩ := exists_of_forall₂_append h
  obtain ⟨b, ds, hab, hds, rfl⟩ := List.forall₂_cons_left_iff.mp hrest
  exact ⟨cs, b, ds, hcs, hab, hds, rfl⟩

theorem forall₂_middle {R : α → β → Prop} {l m : List α} {a : α} {cs ds : List β} {b : β}
    (hl : List.Forall₂ R l cs) (ha : R a b) (hm : List.Forall₂ R m ds) :
    List.Forall₂ R (l ++ a :: m) (cs ++ b :: ds) :=
  List.rel_append hl (.cons ha hm)

theorem forall₂_replace {R : α → α → Prop} {l m : List α} {a b : α} (hrefl : ∀ c, R c c)
    (h : R a b) : List.Forall₂ R (l ++ a :: m) (l ++ b :: m) :=
  forall₂_middle (List.forall₂_same.mpr fun c _ => hrefl c) h
    (List.forall₂_same.mpr fun c _ => hrefl c)

theorem exists_forall₂_both {γ : Type} {R : α → γ → Prop} {S : β → γ → Prop} {l : List α}
    {m : List β} (h : List.Forall₂ (fun a b => ∃ c, R a c ∧ S b c) l m) :
    ∃ n, List.Forall₂ R l n ∧ List.Forall₂ S m n := by
  induction h with
  | nil => exact ⟨[], .nil, .nil⟩
  | cons hab _ ih =>
    obtain ⟨c, ha, hb⟩ := hab
    obtain ⟨n, hl, hm⟩ := ih
    exact ⟨c :: n, .cons ha hl, .cons hb hm⟩

theorem forall₂_mem {R : α → β → Prop} {l : List α} {bs : List β} (h : List.Forall₂ R l bs) :
    List.Forall₂ (fun a b => a ∈ l ∧ R a b) l bs :=
  (List.forall₂_and_left l bs).mpr ⟨fun _ ha => ha, h⟩

theorem exists_left_of_forall₂ {R : α → β → Prop} {l : List α} {bs : List β}
    (h : List.Forall₂ R l bs) {b : β} (hb : b ∈ bs) : ∃ a ∈ l, R a b := by
  induction h with
  | nil => simp at hb
  | @cons a c l cs hac _ ih =>
    rcases List.mem_cons.mp hb with rfl | hb
    · exact ⟨a, List.mem_cons_self, hac⟩
    · obtain ⟨x, hx, hxb⟩ := ih hb
      exact ⟨x, List.mem_cons_of_mem a hx, hxb⟩

theorem exists_right_of_forall₂ {R : α → β → Prop} {l : List α} {bs : List β}
    (h : List.Forall₂ R l bs) {a : α} (ha : a ∈ l) : ∃ b ∈ bs, R a b :=
  exists_left_of_forall₂ h.flip ha

theorem exists_of_mem_mapM {f : α → Except ε β} {l : List α} {bs : List β}
    (h : l.mapM f = .ok bs) {b : β} (hb : b ∈ bs) : ∃ a ∈ l, f a = .ok b :=
  exists_left_of_forall₂ (forall₂_of_mapM_eq_ok h) hb

theorem exists_of_mapM_eq_ok {f : α → Except ε β} {l : List α} {bs : List β}
    (h : l.mapM f = .ok bs) {a : α} (ha : a ∈ l) : ∃ b ∈ bs, f a = .ok b :=
  exists_right_of_forall₂ (forall₂_of_mapM_eq_ok h) ha

theorem exists_mem_mapM_iff {f : α → Except ε β} {l : List α} {bs : List β}
    (h : l.mapM f = .ok bs) {P : β → Prop} :
    (∃ b ∈ bs, P b) ↔ ∃ a ∈ l, ∃ b, f a = .ok b ∧ P b := by
  constructor
  · rintro ⟨b, hb, hP⟩
    obtain ⟨a, ha, hab⟩ := exists_of_mem_mapM h hb
    exact ⟨a, ha, b, hab, hP⟩
  · rintro ⟨a, ha, b, hab, hP⟩
    obtain ⟨b', hb', hab'⟩ := exists_of_mapM_eq_ok h ha
    obtain rfl : b = b' := Except.ok.inj (hab.symm.trans hab')
    exact ⟨b, hb', hP⟩

theorem mapM_congr {f g : α → Except ε β} {l : List α} (h : ∀ a ∈ l, f a = g a) :
    l.mapM f = l.mapM g := by
  induction l with
  | nil => rfl
  | cons a l ih =>
    rw [List.mapM_cons, List.mapM_cons, h a List.mem_cons_self,
      ih fun b hb => h b (List.mem_cons_of_mem a hb)]

theorem exists_mapM_eq_ok_iff {f : α → Except ε β} {l : List α} :
    (∃ bs, l.mapM f = .ok bs) ↔ ∀ a ∈ l, ∃ b, f a = .ok b := by
  constructor
  · rintro ⟨bs, h⟩ a ha
    obtain ⟨b, _, hb⟩ := exists_of_mapM_eq_ok h ha
    exact ⟨b, hb⟩
  · intro h
    cases hl : l.mapM f with
    | ok bs => exact ⟨bs, rfl⟩
    | error e =>
      obtain ⟨a, ha, hae⟩ := exists_of_mapM_eq_error hl
      obtain ⟨b, hb⟩ := h a ha
      rw [hae] at hb
      cases hb

theorem foldlM_preserves {f : σ → α → Except ε σ} (P : σ → Prop)
    (step : ∀ s a t, P s → f s a = .ok t → P t) {l : List α} {s t : σ} (hs : P s)
    (h : l.foldlM f s = .ok t) : P t := by
  induction l generalizing s with
  | nil =>
    simp only [List.foldlM_nil, pure, Except.pure, Except.ok.injEq] at h
    exact h ▸ hs
  | cons a l ih =>
    rw [List.foldlM_cons] at h
    obtain ⟨u, hu, h⟩ := bind_eq_ok_iff.mp h
    exact ih (step s a u hs hu) h

theorem exists_of_foldlM_eq_error {f : σ → α → Except ε σ} {l : List α} {s : σ} {e : ε}
    (h : l.foldlM f s = .error e) : ∃ t, ∃ a ∈ l, f t a = .error e := by
  induction l generalizing s with
  | nil => simp [pure, Except.pure] at h
  | cons a l ih =>
    rw [List.foldlM_cons] at h
    rcases bind_eq_error_iff.mp h with ha | ⟨u, _, h⟩
    · exact ⟨s, a, List.mem_cons_self, ha⟩
    · obtain ⟨t, x, hx, hxe⟩ := ih h
      exact ⟨t, x, List.mem_cons_of_mem a hx, hxe⟩

end OrgStacks
