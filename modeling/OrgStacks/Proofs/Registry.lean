import OrgStacks.Account.Selection
import OrgStacks.Config.Basic
import OrgStacks.Proofs.NameMap
import OrgStacks.Proofs.Outcome

/-!
# Registered accounts and their selection

A registry made from a list of accounts keeps each under its own name, and its parent is one of
them. So whatever tokens select, and wherever an entity goes, there is an account; a selection only
ever fails because of a pattern.
-/

namespace OrgStacks
set_option autoImplicit false

namespace Registry

/-- Accounts are kept under their own names, and the parent is one of them. -/
structure Sound (r : Registry) : Prop where
  name_eq : ∀ {name : String} {a : Account}, r.get? name = some a → a.name = name
  parent_known : r.get? r.parent.name = some r.parent

theorem Intake.add_eq_ok {taken taken' : Intake} {a : Account} (h : taken.add a = .ok taken') :
    Text.isDigits a.id = true ∧ taken.accounts.get? a.name = none ∧
      taken.owners.get? a.id = none ∧
      taken' = ⟨taken.accounts.insert a.name a, taken.owners.insert a.id a.name⟩ := by
  unfold Intake.add at h
  split at h
  · cases h
  · rename_i hdigits
    split at h
    · cases h
    · rename_i hname
      split at h
      · cases h
      · rename_i hid
        cases h
        exact ⟨by simpa using hdigits, by simpa [NameMap.contains] using hname, hid, rfl⟩

theorem exists_intake {accounts : List Account} {r : Registry} (h : ofAccounts accounts = .ok r) :
    ∃ taken : Intake, accounts.foldlM Intake.add {} = .ok taken ∧
      taken.accounts.values.filter Account.isParent = [r.parent] ∧
      r.accounts = taken.accounts ∧ r.owners = taken.owners := by
  unfold ofAccounts at h
  obtain ⟨taken, htaken, h⟩ := bind_eq_ok_iff.mp h
  split at h
  · cases h
  · rename_i parent hparent
    cases h
    exact ⟨taken, htaken, hparent, rfl, rfl⟩
  · cases h

def Intake.Named (taken : Intake) : Prop :=
  ∀ name a, taken.accounts.get? name = some a → a.name = name

theorem Intake.Named.add {taken taken' : Intake} {a : Account} (h : taken.Named)
    (ha : taken.add a = .ok taken') : taken'.Named := by
  obtain ⟨_, _, _, rfl⟩ := Intake.add_eq_ok ha
  intro name b hb
  simp only [NameMap.get?_insert] at hb
  split at hb
  · cases hb
    assumption
  · exact h name b hb

theorem sound_of_ofAccounts {accounts : List Account} {r : Registry}
    (h : ofAccounts accounts = .ok r) : r.Sound := by
  obtain ⟨taken, htaken, hparent, haccounts, _⟩ := exists_intake h
  have hnamed : taken.Named :=
    foldlM_preserves Intake.Named (fun _ _ _ hs ha => hs.add ha) (fun _ _ hn => by cases hn) htaken
  have hmem : r.parent ∈ taken.accounts.values.filter Account.isParent := by simp [hparent]
  obtain ⟨name, hname⟩ := NameMap.mem_values_iff.mp (List.mem_filter.mp hmem).1
  constructor
  case name_eq =>
    intro name a ha
    unfold get? at ha
    rw [haccounts] at ha
    exact hnamed name a ha
  case parent_known =>
    unfold get?
    rw [haccounts, hnamed name r.parent hname]
    exact hname

theorem account_eq_ok_iff {r : Registry} {name : String} {a : Account} :
    r.account name = .ok a ↔ r.get? name = some a := by
  unfold account
  cases r.get? name <;> simp

theorem Sound.mem_toList_iff {r : Registry} (hr : r.Sound) {a : Account} :
    a ∈ r.toList ↔ r.get? a.name = some a := by
  refine ⟨fun ha => ?_, fun ha => NameMap.mem_values_iff.mpr ⟨a.name, ha⟩⟩
  obtain ⟨name, hname⟩ := NameMap.mem_values_iff.mp ha
  exact (hr.name_eq hname).symm ▸ hname

theorem Sound.eq_of_name_eq {r : Registry} (hr : r.Sound) {a b : Account} (ha : a ∈ r.toList)
    (hb : b ∈ r.toList) (h : a.name = b.name) : a = b := by
  have hget := hr.mem_toList_iff.mp hb
  rw [← h, hr.mem_toList_iff.mp ha] at hget
  exact Option.some.inj hget

theorem Sound.keys_eq {r : Registry} (hr : r.Sound) :
    r.accounts.keys = r.toList.map Account.name :=
  NameMap.keys_eq_map_values fun _ _ => hr.name_eq

theorem Sound.toList_nodup {r : Registry} (hr : r.Sound) : r.toList.Nodup :=
  NameMap.values_nodup fun _ _ => hr.name_eq

theorem Sound.parent_mem {r : Registry} (hr : r.Sound) : r.parent ∈ r.toList :=
  hr.mem_toList_iff.mpr hr.parent_known

def Knows (r : Registry) (s : NameSet) : Prop := ∀ name ∈ s, ∃ a, r.get? name = some a

theorem knows_all (r : Registry) : r.Knows r.all := by
  intro name h
  exact NameMap.contains_iff.mp (NameMap.mem_keys_iff.mp (NameSet.mem_ofList.mp h))

theorem knows_children (r : Registry) : r.Knows r.children := by
  intro name h
  have hkey := (List.mem_filter.mp (NameSet.mem_ofList.mp h)).1
  exact NameMap.contains_iff.mp (NameMap.mem_keys_iff.mp hkey)

theorem Sound.knows_matching {r : Registry} (hr : r.Sound) {token : String} {found : NameSet}
    (h : r.matching token = .ok found) : r.Knows found := by
  unfold matching at h
  split at h
  · cases h
  · split at h
    · cases h
    · cases h
      intro name hname
      obtain ⟨a, ha, rfl⟩ := List.mem_map.mp (NameSet.mem_ofList.mp hname)
      exact ⟨a, hr.mem_toList_iff.mp (List.mem_filter.mp ha).1⟩

theorem matching_error {r : Registry} {token : String} {e : Problem}
    (h : r.matching token = .error e) :
    e = .unresolvedPattern token ∨ ∃ reason, e = .invalidPattern token reason := by
  unfold matching at h
  split at h
  · cases h
    exact Or.inr ⟨_, rfl⟩
  · split at h
    · cases h
      exact Or.inl rfl
    · cases h

theorem Sound.knows_selectStep {r : Registry} (hr : r.Sound) {selected s : NameSet}
    {text : String} (hs : r.Knows selected) (h : r.selectStep selected text = .ok s) :
    r.Knows s := by
  unfold selectStep at h
  split at h
  · cases h
    exact r.knows_all
  · cases h
    exact r.knows_children
  · cases h
    intro name hname
    rcases NameSet.mem_insert.mp hname with rfl | hname
    · exact ⟨_, hr.parent_known⟩
    · exact hs name hname
  · cases h
    exact hs
  · cases h
    exact hs
  · obtain ⟨found, hfound, rfl⟩ := map_eq_ok_iff.mp h
    intro name hname
    rcases NameSet.mem_union.mp hname with hname | hname
    · exact hs name hname
    · exact hr.knows_matching hfound name hname

theorem Sound.knows_select {r : Registry} (hr : r.Sound) {tokens : List String} {s : NameSet}
    (h : r.select tokens = .ok s) : r.Knows s :=
  foldlM_preserves r.Knows (fun _ _ _ hs ht => hr.knows_selectStep hs ht)
    (fun name hname => absurd hname (NameSet.not_mem_empty name)) h

/-- A selection fails because of a pattern and for no other reason. -/
theorem select_error {r : Registry} {tokens : List String} {e : Problem}
    (h : r.select tokens = .error e) :
    ∃ token, e = .unresolvedPattern token ∨ ∃ reason, e = .invalidPattern token reason := by
  obtain ⟨selected, text, _, h⟩ := exists_of_foldlM_eq_error h
  unfold selectStep at h
  split at h
  · cases h
  · cases h
  · cases h
  · cases h
  · cases h
  · exact ⟨_, matching_error (map_eq_error_iff.mp h)⟩

/-- Whether an entity goes into the account of this name. -/
def places {α : Type} [Entity α] (r : Registry) (entity : α) (account : String) : Bool :=
  match r.select (Entity.context entity) with
  | .ok accounts => accounts.contains account
  | .error _ => false

section Places
variable {α : Type} [Entity α] {r : Registry} {entity : α} {name : String}

theorem places_iff : r.places entity name = true ↔
    ∃ accounts, r.select (Entity.context entity) = .ok accounts ∧ name ∈ accounts := by
  unfold places
  split
  · rename_i accounts h
    simp [h, NameSet.mem_def]
  · rename_i e h
    simp [h]

theorem places_of_select {accounts : NameSet}
    (h : r.select (Entity.context entity) = .ok accounts) :
    r.places entity name = true ↔ name ∈ accounts := by
  simp [places_iff, h]

theorem Sound.exists_account_of_places (hr : r.Sound) (h : r.places entity name = true) :
    ∃ a ∈ r.toList, a.name = name ∧ r.account name = .ok a := by
  obtain ⟨accounts, hselect, hname⟩ := places_iff.mp h
  obtain ⟨a, ha⟩ := hr.knows_select hselect name hname
  have heq := hr.name_eq ha
  exact ⟨a, hr.mem_toList_iff.mpr (heq.symm ▸ ha), heq, account_eq_ok_iff.mpr ha⟩

end Places

end Registry

theorem Config.registry_sound {c : Config} {r : Registry} (h : c.registry = .ok r) : r.Sound :=
  Registry.sound_of_ofAccounts h

end OrgStacks
