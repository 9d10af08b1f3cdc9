import Mathlib.Data.List.Basic
import OrgStacks.Proofs.Registry

/-!
# The ids of accounts

Taking an account in keeps the owners of the ids in step with the accounts, so an id belongs to one
account only. An id is a string of digits, and what stands after it can be told apart from it: the
ARN of a role, or the name of an expanded group, gives back the account and the role.
-/

namespace OrgStacks
set_option autoImplicit false

namespace Text

theorem isDigit_of_mem {id : String} (h : isDigits id = true) {c : Char} (hc : c ∈ id.toList) :
    c.isDigit = true := by
  unfold isDigits at h
  rw [Bool.and_eq_true, List.all_eq_true] at h
  exact h.2 c hc

theorem not_mem_of_isDigits {id : String} (h : isDigits id = true) {c : Char}
    (hc : c.isDigit = false) : c ∉ id.toList := by
  intro hmem
  rw [isDigit_of_mem h hmem] at hc
  cases hc

theorem takeWhile_isDigit_append {id : String} (h : isDigits id = true) {c : Char}
    (hc : c.isDigit = false) (cs : List Char) :
    (id.toList ++ c :: cs).takeWhile Char.isDigit = id.toList := by
  rw [List.takeWhile_append_of_pos fun d hd => isDigit_of_mem h hd]
  simp [hc]

theorem append_inj_of_isDigits {id id' sep rest rest' : String} (h : isDigits id = true)
    (h' : isDigits id' = true) (hsep : ∃ c cs, sep.toList = c :: cs ∧ c.isDigit = false)
    (heq : id ++ sep ++ rest = id' ++ sep ++ rest') : id = id' ∧ rest = rest' := by
  obtain ⟨c, cs, hsep, hc⟩ := hsep
  have hlists := congrArg String.toList heq
  simp only [String.toList_append, hsep, List.append_assoc, List.cons_append] at hlists
  have hid : id.toList = id'.toList := by
    have hdigits := congrArg (List.takeWhile Char.isDigit) hlists
    rwa [takeWhile_isDigit_append h hc, takeWhile_isDigit_append h' hc] at hdigits
  rw [hid, List.append_cancel_left_eq, List.cons.injEq, List.append_cancel_left_eq] at hlists
  exact ⟨String.toList_inj.mp hid, String.toList_inj.mp hlists.2⟩

end Text

namespace Registry

/-- Ids are digit strings, and each is owned by the account that has it. -/
structure Intake.Indexed (taken : Intake) : Prop where
  digits : ∀ {name : String} {a : Account}, taken.accounts.get? name = some a →
    Text.isDigits a.id = true
  owner_iff : ∀ {id name : String}, taken.owners.get? id = some name ↔
    ∃ a, taken.accounts.get? name = some a ∧ a.id = id

theorem Intake.indexed_empty : ({} : Intake).Indexed := by
  constructor
  case digits =>
    intro name a ha
    cases ha
  case owner_iff =>
    intro id name
    simp

theorem Intake.Indexed.add {taken taken' : Intake} {a : Account} (h : taken.Indexed)
    (ha : taken.add a = .ok taken') : taken'.Indexed := by
  obtain ⟨hdigits, hname, hid, rfl⟩ := Intake.add_eq_ok ha
  constructor
  case digits =>
    intro name b hb
    rw [NameMap.get?_insert] at hb
    split at hb
    · cases hb
      exact hdigits
    · exact h.digits hb
  case owner_iff =>
    intro id name
    simp only [NameMap.get?_insert]
    by_cases hsame : a.name = name
    · subst hsame
      rw [if_pos rfl]
      by_cases hid' : a.id = id
      · simp [hid']
      · rw [if_neg hid', h.owner_iff, hname]
        simp [hid']
    · rw [if_neg hsame]
      by_cases hid' : a.id = id
      · -- No account taken before has the id, so only the new one is its owner.
        have hfree : ¬ ∃ b, taken.accounts.get? name = some b ∧ b.id = a.id := by
          rw [← h.owner_iff, hid]
          simp
        subst hid'
        rw [if_pos rfl]
        simpa [hsame] using hfree
      · rw [if_neg hid', h.owner_iff]

/-- The owners of the ids are the accounts that have them, and no account but the parent is marked
as one. -/
structure Indexed (r : Registry) : Prop where
  digits : ∀ {a : Account}, a ∈ r.toList → Text.isDigits a.id = true
  owner_iff : ∀ {id name : String}, r.owners.get? id = some name ↔
    ∃ a, r.get? name = some a ∧ a.id = id
  parent_iff : ∀ {a : Account}, a ∈ r.toList → (a.isParent = true ↔ a = r.parent)

theorem indexed_of_ofAccounts {accounts : List Account} {r : Registry}
    (h : ofAccounts accounts = .ok r) : r.Indexed := by
  obtain ⟨taken, htaken, hparents, haccounts, howners⟩ := exists_intake h
  have hindexed : taken.Indexed :=
    foldlM_preserves Intake.Indexed (fun _ _ _ hs ha => hs.add ha) Intake.indexed_empty htaken
  have hlist : r.toList = taken.accounts.values := congrArg NameMap.values haccounts
  constructor
  case digits =>
    intro a ha
    rw [hlist] at ha
    obtain ⟨name, hname⟩ := NameMap.mem_values_iff.mp ha
    exact hindexed.digits hname
  case owner_iff =>
    intro id name
    unfold get?
    rw [howners, haccounts]
    exact hindexed.owner_iff
  case parent_iff =>
    intro a ha
    rw [hlist] at ha
    have hmem : a ∈ taken.accounts.values.filter Account.isParent ↔ a = r.parent := by
      rw [hparents, List.mem_singleton]
    rw [List.mem_filter] at hmem
    constructor
    · intro hmarked
      exact hmem.mp ⟨ha, hmarked⟩
    · intro heq
      exact (hmem.mpr heq).2

variable {r : Registry} {a b : Account}

theorem Indexed.eq_of_id (h : r.Indexed) (hr : r.Sound) (ha : a ∈ r.toList) (hb : b ∈ r.toList)
    (hid : a.id = b.id) : a = b := by
  rw [hr.mem_toList_iff] at ha hb
  have hown : r.owners.get? a.id = some a.name := h.owner_iff.mpr ⟨a, ha, rfl⟩
  have hown' : r.owners.get? a.id = some b.name := h.owner_iff.mpr ⟨b, hb, hid.symm⟩
  rw [hown, Option.some.injEq] at hown'
  rw [hown', hb, Option.some.injEq] at ha
  exact ha.symm

theorem Indexed.mem_childAccounts_iff (h : r.Indexed) :
    a ∈ r.childAccounts ↔ a ∈ r.toList ∧ a ≠ r.parent := by
  unfold childAccounts
  rw [List.mem_filter]
  refine and_congr_right fun ha => ?_
  rw [Ne, ← h.parent_iff ha]
  simp

end Registry

end OrgStacks
