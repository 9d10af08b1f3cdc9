import Mathlib.Tactic.ByContra
import OrgStacks.Pattern.Regex

/-!
# The ends of matches

`Regex.reach` finds exactly the positions where a match from one of the given positions ends. An
unbounded repetition needs no more rounds than the text has positions, because a match never ends
before it begins: rounds that stay in place can be left out.
-/

namespace OrgStacks.Pattern
set_option autoImplicit false

def Steps (R : Nat → Nat → Prop) : Nat → Nat → Nat → Prop
  | 0, i, j => i = j
  | n + 1, i, j => ∃ m, R i m ∧ Steps R n m j

variable {R : Nat → Nat → Prop} {f : List Nat → List Nat} {i j n : Nat} {ps : List Nat}

theorem steps_add {k : Nat} : Steps R (n + k) i j ↔ ∃ m, Steps R n i m ∧ Steps R k m j := by
  induction n generalizing i with
  | zero => simp [Steps]
  | succ n ih =>
    rw [Nat.add_right_comm]
    simp only [Steps, ih]
    constructor
    · rintro ⟨a, ha, m, hm, hj⟩
      exact ⟨m, ⟨a, ha, hm⟩, hj⟩
    · rintro ⟨m, ⟨a, ha, hm⟩, hj⟩
      exact ⟨a, ha, m, hm, hj⟩

/-- Steps that stay in place can be left out, and then each of them moves on towards the end. -/
theorem Steps.shorten {size : Nat} (hR : ∀ i j, R i j → i ≤ j ∧ j ≤ max i size)
    (h : Steps R n i j) : i ≤ j ∧ j ≤ max i size ∧ ∃ k, k ≤ j - i ∧ Steps R k i j := by
  induction n generalizing i with
  | zero =>
    obtain rfl : i = j := h
    exact ⟨Nat.le_refl i, Nat.le_max_left i size, 0, Nat.zero_le _, rfl⟩
  | succ n ih =>
    obtain ⟨m, hm, hrest⟩ := h
    obtain ⟨him, hmsize⟩ := hR i m hm
    obtain ⟨hmj, hjsize, k, hkj, hk⟩ := ih hrest
    refine ⟨by omega, by omega, ?_⟩
    by_cases hstay : i = m
    · subst hstay
      exact ⟨k, hkj, hk⟩
    · exact ⟨k + 1, by omega, m, hm, hk⟩

theorem mem_applyTimes (hf : ∀ ps j, j ∈ f ps ↔ ∃ i ∈ ps, R i j) :
    j ∈ applyTimes f n ps ↔ ∃ i ∈ ps, Steps R n i j := by
  induction n generalizing ps with
  | zero => simp [applyTimes, Steps]
  | succ n ih =>
    cases ps with
    | nil => simp [applyTimes]
    | cons p ps =>
      rw [applyTimes, ih]
      simp only [hf, Steps]
      constructor
      · rintro ⟨m, ⟨i, hi, him⟩, hmj⟩
        exact ⟨i, hi, m, him, hmj⟩
      · rintro ⟨i, hi, m, him, hmj⟩
        exact ⟨m, ⟨i, hi, him⟩, hmj⟩

/-- Positions that no step leaves are all there is to reach. -/
theorem mem_of_steps (hf : ∀ ps j, j ∈ f ps ↔ ∃ i ∈ ps, R i j) (hclosed : ∀ j ∈ f ps, j ∈ ps)
    (hi : i ∈ ps) (h : Steps R n i j) : j ∈ ps := by
  induction n generalizing i with
  | zero => exact h ▸ hi
  | succ n ih =>
    obtain ⟨m, hm, hrest⟩ := h
    have hmem : m ∈ ps := hclosed m ((hf ps m).mpr ⟨i, hi, hm⟩)
    exact ih hmem hrest

theorem mem_applyUpTo (hf : ∀ ps j, j ∈ f ps ↔ ∃ i ∈ ps, R i j) :
    j ∈ applyUpTo f n ps ↔ ∃ i ∈ ps, ∃ k, k ≤ n ∧ Steps R k i j := by
  induction n generalizing ps with
  | zero => simp [applyUpTo, Steps]
  | succ n ih =>
    rw [applyUpTo]
    split
    · next hnew =>
      have hclosed : ∀ j ∈ f ps, j ∈ ps := by
        intro j hj
        by_contra hnot
        have hmem : j ∈ (f ps).filter (! ps.contains ·) := by simp [hj, hnot]
        rw [hnew] at hmem
        simp at hmem
      constructor
      · intro hj
        exact ⟨j, hj, 0, Nat.zero_le _, rfl⟩
      · rintro ⟨i, hi, k, _, hk⟩
        exact mem_of_steps hf hclosed hi hk
    · next q qs hnew =>
      have hmore (m : Nat) : m ∈ ps ++ (q :: qs).eraseDups ↔ m ∈ ps ∨ m ∈ f ps := by
        rw [List.mem_append, List.mem_eraseDups, ← hnew, List.mem_filter]
        by_cases hm : m ∈ ps <;> simp [hm]
      rw [ih]
      simp only [hmore]
      constructor
      · rintro ⟨m, hm | hm, k, hk, hsteps⟩
        · exact ⟨m, hm, k, by omega, hsteps⟩
        · obtain ⟨i, hi, him⟩ := (hf ps m).mp hm
          exact ⟨i, hi, k + 1, by omega, m, him, hsteps⟩
      · rintro ⟨i, hi, k, hk, hsteps⟩
        cases k with
        | zero => exact ⟨i, .inl hi, 0, Nat.zero_le _, hsteps⟩
        | succ k =>
          obtain ⟨m, him, hrest⟩ := hsteps
          exact ⟨m, .inr ((hf ps m).mpr ⟨i, hi, him⟩), k, by omega, hrest⟩

namespace Regex
variable {text : Array Char} {r : Regex}

/-- Every counted repetition has room for the least number of rounds. -/
def Proper : Regex → Prop
  | .seq r s => r.Proper ∧ s.Proper
  | .alt r s => r.Proper ∧ s.Proper
  | .repeated r least most => r.Proper ∧ ∀ n ∈ most, least ≤ n
  | .capture r => r.Proper
  | _ => True

theorem Matches.bounds (h : Matches text r i j) : i ≤ j ∧ j ≤ max i text.size := by
  induction h with
  | empty i => omega
  | @chars set i h =>
    have hlt : i < text.size := by
      unfold CharSet.holdsAt at h
      split at h
      · next c hc => exact (Array.getElem?_eq_some_iff.mp hc).1
      · cases h
    omega
  | assert _ => omega
  | seq _ _ ih ih' => omega
  | left _ ih => exact ih
  | right _ ih => exact ih
  | stop => omega
  | again _ _ _ ih ih' => omega
  | capture _ ih => exact ih

/-- A repetition is a number of rounds within its bounds. -/
theorem matches_repeated_iff {least : Nat} {most : Option Nat} :
    Matches text (.repeated r least most) i j ↔
      ∃ k, least ≤ k ∧ (∀ n ∈ most, k ≤ n) ∧ Steps (Matches text r) k i j := by
  constructor
  · intro h
    generalize hrep : Regex.repeated r least most = rep at h
    induction h generalizing least most with
    | stop =>
      cases hrep
      exact ⟨0, Nat.le_refl 0, by simp, rfl⟩
    | again room h _ _ ih =>
      cases hrep
      obtain ⟨k, hleast, hmost, hsteps⟩ := ih rfl
      refine ⟨k + 1, by omega, ?_, _, h, hsteps⟩
      rintro n rfl
      have hk := hmost (n - 1) rfl
      have hn : n ≠ 0 := by
        rintro rfl
        exact room rfl
      omega
    | empty | chars | assert | seq | left | right | capture => cases hrep
  · rintro ⟨k, hleast, hmost, hsteps⟩
    induction k generalizing i least most with
    | zero =>
      obtain rfl : i = j := hsteps
      obtain rfl : least = 0 := by omega
      exact .stop
    | succ k ih =>
      obtain ⟨m, hm, hrest⟩ := hsteps
      refine .again ?_ hm (ih (by omega) ?_ hrest)
      · rintro rfl
        exact absurd (hmost 0 rfl) (by omega)
      · intro n hn
        obtain ⟨n', rfl, rfl⟩ := Option.map_eq_some_iff.mp hn
        have hk := hmost n' rfl
        omega

/-- Rounds that are found one by one are found together. -/
theorem mem_reach_repeated_iff {least : Nat} {most : Option Nat}
    (hround : ∀ ps j, j ∈ r.reach text ps ↔ ∃ i ∈ ps, Matches text r i j)
    (hbounds : ∀ n ∈ most, least ≤ n) {ps : List Nat} :
    j ∈ (Regex.repeated r least most).reach text ps ↔
      ∃ i ∈ ps, Matches text (.repeated r least most) i j := by
  simp only [matches_repeated_iff]
  cases most with
  | none =>
    rw [reach, mem_applyUpTo hround]
    simp only [mem_applyTimes hround]
    constructor
    · rintro ⟨m, ⟨i, hi, hleast⟩, k, _, hmore⟩
      exact ⟨i, hi, least + k, by omega, by simp, steps_add.mpr ⟨m, hleast, hmore⟩⟩
    · rintro ⟨i, hi, k, hk, _, hsteps⟩
      obtain ⟨more, rfl⟩ := Nat.exists_eq_add_of_le hk
      obtain ⟨m, hleast, hmore⟩ := steps_add.mp hsteps
      obtain ⟨_, hj, short, hshort, hmore'⟩ := hmore.shorten fun _ _ h => h.bounds
      exact ⟨m, ⟨i, hi, hleast⟩, short, by omega, hmore'⟩
  | some most =>
    have hmost : least ≤ most := hbounds most rfl
    rw [reach, mem_applyUpTo hround]
    simp only [mem_applyTimes hround]
    constructor
    · rintro ⟨m, ⟨i, hi, hleast⟩, k, hk, hmore⟩
      refine ⟨i, hi, least + k, by omega, ?_, steps_add.mpr ⟨m, hleast, hmore⟩⟩
      intro n hn
      obtain rfl : most = n := Option.some.inj hn
      omega
    · rintro ⟨i, hi, k, hk, hroom, hsteps⟩
      have hk' : k ≤ most := hroom most rfl
      obtain ⟨more, rfl⟩ := Nat.exists_eq_add_of_le hk
      obtain ⟨m, hleast, hmore⟩ := steps_add.mp hsteps
      exact ⟨m, ⟨i, hi, hleast⟩, more, by omega, hmore⟩

/-- The machine finds the end of every match and nothing else. -/
theorem mem_reach_iff (hr : r.Proper) {ps : List Nat} :
    j ∈ r.reach text ps ↔ ∃ i ∈ ps, Matches text r i j := by
  induction r generalizing ps j with
  | empty =>
    constructor
    · intro h
      exact ⟨j, h, .empty j⟩
    · rintro ⟨_, hi, h⟩
      cases h
      exact hi
  | chars set =>
    simp only [reach, List.mem_map, List.mem_filter]
    constructor
    · rintro ⟨i, ⟨hi, h⟩, rfl⟩
      exact ⟨i, hi, .chars h⟩
    · rintro ⟨i, hi, h⟩
      cases h with
      | chars h => exact ⟨i, ⟨hi, h⟩, rfl⟩
  | assert a =>
    simp only [reach, List.mem_filter]
    constructor
    · rintro ⟨hj, h⟩
      exact ⟨j, hj, .assert h⟩
    · rintro ⟨_, hi, h⟩
      cases h with
      | assert h => exact ⟨hi, h⟩
  | seq r s ihr ihs =>
    rw [reach, ihs hr.2]
    constructor
    · rintro ⟨m, hm, h'⟩
      obtain ⟨i, hi, h⟩ := (ihr hr.1).mp hm
      exact ⟨i, hi, .seq h h'⟩
    · rintro ⟨i, hi, h⟩
      cases h with
      | seq h h' => exact ⟨_, (ihr hr.1).mpr ⟨i, hi, h⟩, h'⟩
  | alt r s ihr ihs =>
    have hmerge : j ∈ merge (r.reach text ps) (s.reach text ps) ↔
        j ∈ r.reach text ps ∨ j ∈ s.reach text ps := by
      by_cases h : j ∈ r.reach text ps <;> simp [merge, h]
    rw [reach, hmerge, ihr hr.1, ihs hr.2]
    constructor
    · rintro (⟨i, hi, h⟩ | ⟨i, hi, h⟩)
      · exact ⟨i, hi, .left h⟩
      · exact ⟨i, hi, .right h⟩
    · rintro ⟨i, hi, h⟩
      cases h with
      | left h => exact .inl ⟨i, hi, h⟩
      | right h => exact .inr ⟨i, hi, h⟩
  | repeated r least most ih => exact mem_reach_repeated_iff (fun ps j => ih hr.1) hr.2
  | capture r ih =>
    rw [reach, ih hr]
    constructor
    · rintro ⟨i, hi, h⟩
      exact ⟨i, hi, .capture h⟩
    · rintro ⟨i, hi, h⟩
      cases h with
      | capture h => exact ⟨i, hi, h⟩

/-- An expression that has to match at the start of a text is found where it matches from the first
character on. -/
theorem foundIn_textStart_iff (hr : r.Proper) {text : String} :
    (Regex.seq (.assert .textStart) r).foundIn text = true ↔
      ∃ j, Matches text.toList.toArray r 0 j := by
  have hproper : (Regex.seq (.assert .textStart) r).Proper := ⟨trivial, hr⟩
  have hfound (s : Regex) : s.foundIn text = true ↔
      ∃ j, j ∈ s.reach text.toList.toArray (List.range (text.toList.toArray.size + 1)) := by
    simp only [foundIn, Bool.not_eq_true', List.isEmpty_eq_false_iff_exists_mem]
  rw [hfound]
  simp only [mem_reach_iff hproper]
  constructor
  · rintro ⟨j, i, _, h⟩
    cases h with
    | seq hstart h =>
      cases hstart with
      | assert hstart =>
        obtain rfl : i = 0 := by simpa [Assertion.holds] using hstart
        exact ⟨j, h⟩
  · rintro ⟨j, h⟩
    exact ⟨j, 0, by simp, .seq (.assert rfl) h⟩

end Regex

end OrgStacks.Pattern
