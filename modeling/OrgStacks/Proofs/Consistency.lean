import OrgStacks.Proofs.Identity

/-!
# Accounts that go together

A registry is made from accounts exactly when their ids are digit strings, no two share a name or an
id, and one of them is the parent. `Registry.Refused` says which problem is reported otherwise: that
of the first account that does not go with those before it, and the count of the parents when there
is none. What is made holds the given accounts and no others, in whatever order they came.
-/

namespace OrgStacks
set_option autoImplicit false

namespace Registry

/-- Ids of digits, and no two accounts that share a name or an id. -/
structure Distinct (accounts : List Account) : Prop where
  digits : ∀ a ∈ accounts, Text.isDigits a.id = true
  names : (accounts.map Account.name).Nodup
  ids : (accounts.map Account.id).Nodup

/-- One of the accounts, and no other, is the parent. -/
structure Consistent (accounts : List Account) : Prop where
  distinct : Distinct accounts
  parent : accounts.countP Account.isParent = 1

/-- What is wrong with an account after those before it: its id, or else its name, or else the owner
of its id. -/
inductive Offence (before : List Account) (a : Account) : Problem → Prop
  | invalidId (hid : Text.isDigits a.id = false) : Offence before a (.invalidId a.name a.id)
  | duplicateName (hid : Text.isDigits a.id = true) (hname : a.name ∈ before.map Account.name) :
      Offence before a (.duplicateName a.name)
  | duplicateId {owner : Account} (hid : Text.isDigits a.id = true)
      (hname : a.name ∉ before.map Account.name) (howner : owner ∈ before)
      (hsame : owner.id = a.id) : Offence before a (.duplicateId a.id owner.name a.name)

/-- Why no registry is made from the accounts: the first offence, or the number of parents, whose
names are told in order. -/
inductive Refused (accounts : List Account) : Problem → Prop
  | offence {before after : List Account} {a : Account} {p : Problem}
      (hsplit : accounts = before ++ a :: after) (hbefore : Distinct before)
      (h : Offence before a p) : Refused accounts p
  | missing (h : Distinct accounts) (hnone : accounts.countP Account.isParent = 0) :
      Refused accounts .missingParent
  | several {names : List String} (h : Distinct accounts)
      (hmany : 2 ≤ accounts.countP Account.isParent) (hsorted : names.Pairwise (· < ·))
      (hnames : ∀ name, name ∈ names ↔ ∃ a ∈ accounts, a.isParent = true ∧ a.name = name) :
      Refused accounts (.multipleParents names)

variable {accounts before after : List Account} {a : Account} {p : Problem}

theorem Distinct.of_perm {accounts' : List Account} (h : Distinct accounts)
    (hperm : accounts.Perm accounts') : Distinct accounts' where
  digits := fun a ha => h.digits a (hperm.mem_iff.mpr ha)
  names := (hperm.map Account.name).nodup_iff.mp h.names
  ids := (hperm.map Account.id).nodup_iff.mp h.ids

theorem Distinct.nil : Distinct [] where
  digits := List.forall_mem_nil _
  names := List.nodup_nil
  ids := List.nodup_nil

theorem distinct_concat_iff : Distinct (before ++ [a]) ↔ Distinct before ∧
    Text.isDigits a.id = true ∧ a.name ∉ before.map Account.name ∧
      a.id ∉ before.map Account.id := by
  constructor
  · rintro ⟨hdigits, hnames, hids⟩
    rw [List.map_append, List.nodup_append_comm] at hnames hids
    rw [List.forall_mem_append] at hdigits
    obtain ⟨hname, hnames⟩ := List.nodup_cons.mp hnames
    obtain ⟨hid, hids⟩ := List.nodup_cons.mp hids
    exact ⟨⟨hdigits.1, hnames, hids⟩, hdigits.2 a (List.mem_singleton_self a), hname, hid⟩
  · rintro ⟨⟨hdigits, hnames, hids⟩, hdigit, hname, hid⟩
    constructor
    case digits => exact List.forall_mem_append.mpr ⟨hdigits, by simpa using hdigit⟩
    case names =>
      rw [List.map_append, List.nodup_append_comm]
      exact List.nodup_cons.mpr ⟨hname, hnames⟩
    case ids =>
      rw [List.map_append, List.nodup_append_comm]
      exact List.nodup_cons.mpr ⟨hid, hids⟩

theorem Distinct.of_append (h : Distinct (before ++ after)) : Distinct before := by
  obtain ⟨hdigits, hnames, hids⟩ := h
  rw [List.map_append] at hnames hids
  exact ⟨(List.forall_mem_append.mp hdigits).1, hnames.of_append_left, hids.of_append_left⟩

theorem Offence.not_distinct (h : Offence before a p) : ¬ Distinct (before ++ a :: after) := by
  intro hdistinct
  rw [← List.singleton_append, ← List.append_assoc] at hdistinct
  obtain ⟨_, hdigits, hname, hid⟩ := distinct_concat_iff.mp hdistinct.of_append
  cases h with
  | invalidId hno => simp [hno] at hdigits
  | duplicateName _ hmem => exact hname hmem
  | duplicateId _ _ howner hsame => exact hid (List.mem_map.mpr ⟨_, howner, hsame⟩)

theorem Offence.unique {q : Problem} (hbefore : Distinct before) (hp : Offence before a p)
    (hq : Offence before a q) : p = q := by
  cases hp with
  | invalidId hno =>
    cases hq with
    | invalidId => rfl
    | duplicateName hid => simp [hno] at hid
    | duplicateId hid => simp [hno] at hid
  | duplicateName hid hname =>
    cases hq with
    | invalidId hno => simp [hno] at hid
    | duplicateName => rfl
    | duplicateId _ hnew => exact absurd hname hnew
  | duplicateId hid hnew howner hsame =>
    cases hq with
    | invalidId hno => simp [hno] at hid
    | duplicateName _ hname => exact absurd hname hnew
    | duplicateId _ _ howner' hsame' =>
      rw [List.inj_on_of_nodup_map hbefore.ids howner howner' (hsame.trans hsame'.symm)]

/-- Nothing goes wrong after the first offence. -/
theorem Offence.isPrefix {before' after' : List Account} {a' : Account} (h : Offence before a p)
    (hbefore' : Distinct before') (heq : before ++ a :: after = before' ++ a' :: after') :
    before' <+: before := by
  rcases List.append_eq_append_iff.mp heq with ⟨rest, rfl, hrest⟩ | ⟨rest, rfl, _⟩
  · cases rest with
    | nil => simp
    | cons b rest =>
      obtain ⟨rfl, _⟩ := List.cons.inj hrest
      exact absurd hbefore' h.not_distinct
  · exact List.prefix_append before' rest

/-- What has been taken in is what was given. -/
structure Intake.Holds (taken : Intake) (accounts : List Account) : Prop where
  account_iff : ∀ {name : String} {a : Account},
    taken.accounts.get? name = some a ↔ a ∈ accounts ∧ a.name = name
  indexed : taken.Indexed

theorem Intake.holds_empty : ({} : Intake).Holds [] where
  account_iff := by simp
  indexed := Intake.indexed_empty

namespace Intake.Holds
variable {taken taken' : Intake}

theorem contains_iff (h : taken.Holds before) {name : String} :
    taken.accounts.contains name = true ↔ name ∈ before.map Account.name := by
  rw [NameMap.contains_iff, List.mem_map]
  exact exists_congr fun a => h.account_iff

theorem owner_iff (h : taken.Holds before) {id name : String} :
    taken.owners.get? id = some name ↔ ∃ a ∈ before, a.id = id ∧ a.name = name := by
  rw [h.indexed.owner_iff]
  refine exists_congr fun a => ?_
  rw [h.account_iff, and_right_comm, and_assoc]

theorem offence_of_add (h : taken.Holds before) (ha : taken.add a = .error p) :
    Offence before a p := by
  unfold Intake.add at ha
  split at ha
  · next hid =>
    cases ha
    exact .invalidId hid
  · next hid =>
    rw [Bool.not_eq_false] at hid
    split at ha
    · next hname =>
      cases ha
      exact .duplicateName hid (h.contains_iff.mp hname)
    · next hname =>
      rw [h.contains_iff] at hname
      split at ha
      · next hfirst =>
        cases ha
        obtain ⟨owner, howner, hsame, rfl⟩ := h.owner_iff.mp hfirst
        exact .duplicateId hid hname howner hsame
      · cases ha

theorem add (h : taken.Holds before) (hbefore : Distinct before) (ha : taken.add a = .ok taken') :
    Distinct (before ++ [a]) ∧ taken'.Holds (before ++ [a]) := by
  have hindexed := h.indexed.add ha
  obtain ⟨hdigits, hname, hid, rfl⟩ := Intake.add_eq_ok ha
  have hnew : ∀ b ∈ before, b.name ≠ a.name := by
    intro b hb heq
    have hfound := h.account_iff.mpr ⟨hb, heq⟩
    rw [hname] at hfound
    cases hfound
  have hfree : ∀ b ∈ before, b.id ≠ a.id := by
    intro b hb heq
    have hfound := h.owner_iff.mpr ⟨b, hb, heq, rfl⟩
    rw [hid] at hfound
    cases hfound
  refine ⟨distinct_concat_iff.mpr ⟨hbefore, hdigits, ?_, ?_⟩, ?_⟩
  · simpa using hnew
  · simpa using hfree
  · constructor
    case indexed => exact hindexed
    case account_iff =>
      intro name b
      rw [NameMap.get?_insert, List.mem_append, List.mem_singleton]
      by_cases hsame : a.name = name
      · subst hsame
        rw [if_pos rfl, Option.some.injEq]
        constructor
        · rintro rfl
          exact ⟨.inr rfl, rfl⟩
        · rintro ⟨hb | rfl, hbname⟩
          · exact absurd hbname (hnew b hb)
          · rfl
      · rw [if_neg hsame, h.account_iff]
        constructor
        · rintro ⟨hb, rfl⟩
          exact ⟨.inl hb, rfl⟩
        · rintro ⟨hb | rfl, rfl⟩
          · exact ⟨hb, rfl⟩
          · exact absurd rfl hsame

theorem foldlM_add {l : List Account} (h : taken.Holds before) (hbefore : Distinct before)
    (hl : l.foldlM Intake.add taken = .ok taken') :
    Distinct (before ++ l) ∧ taken'.Holds (before ++ l) := by
  induction l generalizing taken before with
  | nil =>
    simp only [List.foldlM_nil, pure, Except.pure, Except.ok.injEq] at hl
    subst taken'
    rw [List.append_nil]
    exact ⟨hbefore, h⟩
  | cons a l ih =>
    rw [List.foldlM_cons] at hl
    obtain ⟨next, hnext, hl⟩ := bind_eq_ok_iff.mp hl
    obtain ⟨hdistinct, hholds⟩ := h.add hbefore hnext
    rw [← List.singleton_append, ← List.append_assoc]
    exact ih hholds hdistinct hl

theorem offence_of_foldlM {l : List Account} (h : taken.Holds before) (hbefore : Distinct before)
    (hl : l.foldlM Intake.add taken = .error p) : ∃ front a after, l = front ++ a :: after ∧
      Distinct (before ++ front) ∧ Offence (before ++ front) a p := by
  induction l generalizing taken before with
  | nil => cases hl
  | cons a l ih =>
    rw [List.foldlM_cons] at hl
    rcases bind_eq_error_iff.mp hl with ha | ⟨next, hnext, hl⟩
    · refine ⟨[], a, l, rfl, ?_⟩
      rw [List.append_nil]
      exact ⟨hbefore, h.offence_of_add ha⟩
    · obtain ⟨hdistinct, hholds⟩ := h.add hbefore hnext
      obtain ⟨front, b, after, rfl, hfront, hoffence⟩ := ih hholds hdistinct hl
      rw [List.append_assoc] at hfront hoffence
      exact ⟨a :: front, b, after, rfl, hfront, hoffence⟩

/-- The accounts are the given ones, in name order. -/
theorem values_perm (h : taken.Holds accounts) (hdistinct : Distinct accounts) :
    taken.accounts.values.Perm accounts ∧
      (taken.accounts.values.map Account.name).Pairwise (· < ·) := by
  have hnamed (name : String) (a : Account) (ha : taken.accounts.get? name = some a) :
      a.name = name := (h.account_iff.mp ha).2
  have hordered : (taken.accounts.values.map Account.name).Pairwise (· < ·) := by
    rw [← NameMap.keys_eq_map_values hnamed]
    exact List.pairwise_map.mpr taken.accounts.ordered
  have hnodup := NameMap.values_nodup hnamed
  refine ⟨(List.perm_ext_iff_of_nodup hnodup hdistinct.names.of_map).mpr fun a => ?_, hordered⟩
  rw [NameMap.mem_values_iff]
  constructor
  · rintro ⟨name, ha⟩
    exact (h.account_iff.mp ha).1
  · intro ha
    exact ⟨a.name, h.account_iff.mpr ⟨ha, rfl⟩⟩

theorem length_parents (h : taken.Holds accounts) (hdistinct : Distinct accounts) :
    (taken.accounts.values.filter Account.isParent).length =
      accounts.countP Account.isParent := by
  rw [← List.countP_eq_length_filter, (h.values_perm hdistinct).1.countP_eq]

end Intake.Holds

theorem Refused.not_consistent (h : Refused accounts p) : ¬ Consistent accounts := by
  intro hconsistent
  cases h with
  | offence hsplit _ hoffence => exact hoffence.not_distinct (hsplit ▸ hconsistent.distinct)
  | missing _ hnone =>
    have hone := hconsistent.parent
    omega
  | several _ hmany =>
    have hone := hconsistent.parent
    omega

/-- There is one reason only. -/
theorem Refused.unique {q : Problem} (hp : Refused accounts p) (hq : Refused accounts q) :
    p = q := by
  cases hp with
  | offence hsplit hbefore hoffence =>
    cases hq with
    | offence hsplit' hbefore' hoffence' =>
      -- Neither of two first offences comes before the other.
      have hsame := hsplit.symm.trans hsplit'
      have hprefix := hoffence.isPrefix hbefore' hsame
      have hprefix' := hoffence'.isPrefix hbefore hsame.symm
      obtain rfl := hprefix'.eq_of_length_le hprefix.length_le
      obtain ⟨rfl, _⟩ := List.cons.inj (List.append_cancel_left hsame)
      exact hoffence.unique hbefore hoffence'
    | missing h => exact absurd (hsplit ▸ h) hoffence.not_distinct
    | several h => exact absurd (hsplit ▸ h) hoffence.not_distinct
  | missing h hnone =>
    cases hq with
    | offence hsplit _ hoffence => exact absurd (hsplit ▸ h) hoffence.not_distinct
    | missing => rfl
    | several _ hmany => omega
  | several h hmany hsorted hnames =>
    cases hq with
    | offence hsplit _ hoffence => exact absurd (hsplit ▸ h) hoffence.not_distinct
    | missing _ hnone => omega
    | several _ _ hsorted' hnames' =>
      rw [hsorted.eq_of_mem_iff hsorted' fun name => by rw [hnames, hnames']]

theorem refused_of_ofAccounts (h : ofAccounts accounts = .error p) : Refused accounts p := by
  unfold ofAccounts at h
  rcases bind_eq_error_iff.mp h with htaken | ⟨taken, htaken, h⟩
  · obtain ⟨before, a, after, hsplit, hbefore, hoffence⟩ :=
      Intake.holds_empty.offence_of_foldlM .nil htaken
    exact .offence hsplit hbefore hoffence
  · obtain ⟨hdistinct, hholds⟩ := Intake.holds_empty.foldlM_add .nil htaken
    rw [List.nil_append] at hdistinct hholds
    obtain ⟨hperm, hordered⟩ := hholds.values_perm hdistinct
    have hlength := hholds.length_parents hdistinct
    split at h
    · next hparents =>
      cases h
      rw [hparents] at hlength
      exact .missing hdistinct hlength.symm
    · cases h
    · next parents hnone hone =>
      cases h
      refine .several hdistinct ?_ ?_ fun name => ?_
      · rw [← hlength]
        match h : taken.accounts.values.filter Account.isParent with
        | [] => exact absurd h hnone
        | [parent] => exact absurd h (hone parent)
        | _ :: _ :: _ => simp
      · rw [List.pairwise_map] at hordered ⊢
        exact hordered.filter _
      · simp only [List.mem_map, List.mem_filter, hperm.mem_iff, and_assoc]

structure Indexes (r : Registry) (accounts : List Account) : Prop where
  listed : r.toList.Perm accounts ∧ (r.toList.map Account.name).Pairwise (· < ·)
  get?_iff : ∀ name a, r.get? name = some a ↔ a ∈ accounts ∧ a.name = name
  nameOfId_iff : ∀ id name, r.nameOfId id = .ok name ↔ ∃ a ∈ accounts, a.id = id ∧ a.name = name
  idOfName_iff : ∀ id name, r.idOfName name = .ok id ↔ ∃ a ∈ accounts, a.id = id ∧ a.name = name
  parent_mem : r.parent ∈ accounts
  parent_iff : ∀ a ∈ accounts, a.isParent = true ↔ a = r.parent
  isParent_eq : ∀ a ∈ accounts, r.isParent a.name = a.isParent
  mem_all_iff : ∀ name, name ∈ r.all ↔ ∃ a ∈ accounts, a.name = name
  mem_children_iff : ∀ name, name ∈ r.children ↔ name ∈ r.all ∧ name ≠ r.parent.name

theorem nameOfId_eq_ok_iff {r : Registry} {id name : String} :
    r.nameOfId id = .ok name ↔ r.owners.get? id = some name := by
  unfold nameOfId
  cases r.owners.get? id <;> simp

theorem idOfName_eq_ok_iff {r : Registry} {id name : String} :
    r.idOfName name = .ok id ↔ ∃ a, r.get? name = some a ∧ a.id = id := by
  rw [idOfName, map_eq_ok_iff]
  simp only [account_eq_ok_iff]

theorem consistent_of_ofAccounts {r : Registry} (h : ofAccounts accounts = .ok r) :
    Consistent accounts ∧ r.Indexes accounts := by
  obtain ⟨taken, htaken, hparents, haccounts, howners⟩ := exists_intake h
  obtain ⟨hdistinct, hholds⟩ := Intake.holds_empty.foldlM_add .nil htaken
  rw [List.nil_append] at hdistinct hholds
  have hlength := hholds.length_parents hdistinct
  rw [hparents, List.length_singleton] at hlength
  refine ⟨⟨hdistinct, hlength.symm⟩, ?_⟩
  have hr := sound_of_ofAccounts h
  have hindexed := indexed_of_ofAccounts h
  have hlisted := hholds.values_perm hdistinct
  rw [← haccounts] at hlisted
  have hmem {a : Account} : a ∈ r.toList ↔ a ∈ accounts := hlisted.1.mem_iff
  have hget (name : String) (a : Account) : r.get? name = some a ↔ a ∈ accounts ∧ a.name = name := by
    rw [get?, haccounts]
    exact hholds.account_iff
  have hall (name : String) : name ∈ r.all ↔ ∃ a ∈ accounts, a.name = name := by
    rw [all, NameSet.mem_ofList, hr.keys_eq, List.mem_map]
    simp only [hmem]
  constructor
  case listed => exact hlisted
  case get?_iff => exact hget
  case nameOfId_iff =>
    intro id name
    rw [nameOfId_eq_ok_iff, howners]
    exact hholds.owner_iff
  case idOfName_iff =>
    intro id name
    rw [idOfName_eq_ok_iff]
    refine exists_congr fun a => ?_
    rw [hget, and_right_comm, and_assoc]
  case parent_mem => exact hmem.mp hr.parent_mem
  case parent_iff =>
    intro a ha
    exact hindexed.parent_iff (hmem.mpr ha)
  case isParent_eq =>
    intro a ha
    have ha := hmem.mpr ha
    rw [Bool.eq_iff_iff, isParent, beq_iff_eq, hindexed.parent_iff ha]
    constructor
    · intro hname
      exact hr.eq_of_name_eq ha hr.parent_mem hname.symm
    · rintro rfl
      rfl
  case mem_all_iff => exact hall
  case mem_children_iff =>
    intro name
    simp only [children, all, NameSet.mem_ofList, List.mem_filter, bne_iff_ne]

theorem exists_ofAccounts_iff : (∃ r, ofAccounts accounts = .ok r) ↔ Consistent accounts := by
  constructor
  · rintro ⟨r, h⟩
    exact (consistent_of_ofAccounts h).1
  · intro hconsistent
    cases h : ofAccounts accounts with
    | ok r => exact ⟨r, rfl⟩
    | error p => exact absurd hconsistent (refused_of_ofAccounts h).not_consistent

theorem ofAccounts_eq_error_iff : ofAccounts accounts = .error p ↔ Refused accounts p := by
  refine ⟨refused_of_ofAccounts, fun h => ?_⟩
  cases hresult : ofAccounts accounts with
  | ok r => exact absurd (consistent_of_ofAccounts hresult).1 h.not_consistent
  | error q => rw [h.unique (refused_of_ofAccounts hresult)]

theorem Indexes.unique {r r' : Registry} (h : r.Indexes accounts) (h' : r'.Indexes accounts) :
    r = r' := by
  have haccounts : r.accounts = r'.accounts := by
    refine NameMap.ext_get? fun name => Option.ext fun a => ?_
    exact (h.get?_iff name a).trans (h'.get?_iff name a).symm
  have howners : r.owners = r'.owners := by
    refine NameMap.ext_get? fun id => Option.ext fun name => ?_
    rw [← nameOfId_eq_ok_iff, ← nameOfId_eq_ok_iff, h.nameOfId_iff, h'.nameOfId_iff]
  have hparent : r.parent = r'.parent := by
    rw [← h'.parent_iff _ h.parent_mem, h.parent_iff _ h.parent_mem]
  cases r
  cases r'
  congr

theorem Indexes.of_perm {r : Registry} {accounts' : List Account} (h : r.Indexes accounts)
    (hperm : accounts.Perm accounts') : r.Indexes accounts' where
  listed := ⟨h.listed.1.trans hperm, h.listed.2⟩
  get?_iff := by simpa only [hperm.mem_iff] using h.get?_iff
  nameOfId_iff := by simpa only [hperm.mem_iff] using h.nameOfId_iff
  idOfName_iff := by simpa only [hperm.mem_iff] using h.idOfName_iff
  parent_mem := hperm.mem_iff.mp h.parent_mem
  parent_iff := by simpa only [hperm.mem_iff] using h.parent_iff
  isParent_eq := by simpa only [hperm.mem_iff] using h.isParent_eq
  mem_all_iff := by simpa only [hperm.mem_iff] using h.mem_all_iff
  mem_children_iff := h.mem_children_iff

theorem ofAccounts_eq_of_perm {r : Registry} {accounts' : List Account}
    (h : ofAccounts accounts = .ok r) (hperm : accounts.Perm accounts') :
    ofAccounts accounts' = .ok r := by
  obtain ⟨⟨hdistinct, hparent⟩, hindexes⟩ := consistent_of_ofAccounts h
  rw [hperm.countP_eq] at hparent
  -- What is said of the two registries does not mention the order, and tells them whole.
  obtain ⟨r', h'⟩ := exists_ofAccounts_iff.mpr ⟨hdistinct.of_perm hperm, hparent⟩
  rw [h', (hindexes.of_perm hperm).unique (consistent_of_ofAccounts h').2]

end Registry

/-- A registry is made exactly from consistent accounts, and otherwise the one reason why not is
reported. It holds the accounts as they were given, leads from ids to names and back, and is the
same for them in every order. -/
theorem registry_of_consistent_accounts (accounts : List Account) :
    ((∃ r, Registry.ofAccounts accounts = .ok r) ↔ Registry.Consistent accounts) ∧
    (∀ p, Registry.ofAccounts accounts = .error p ↔ Registry.Refused accounts p) ∧
    ∀ r, Registry.ofAccounts accounts = .ok r → r.Indexes accounts ∧
      (∀ id name, r.nameOfId id = .ok name ↔ r.idOfName name = .ok id) ∧
      r.get? r.parent.name = some r.parent ∧
      ∀ accounts', accounts.Perm accounts' → Registry.ofAccounts accounts' = .ok r := by
  refine ⟨Registry.exists_ofAccounts_iff, fun p => Registry.ofAccounts_eq_error_iff,
    fun r hr => ?_⟩
  have hindexes := (Registry.consistent_of_ofAccounts hr).2
  refine ⟨hindexes, fun id name => ?_, ?_, fun accounts' => Registry.ofAccounts_eq_of_perm hr⟩
  · rw [hindexes.nameOfId_iff, hindexes.idOfName_iff]
  · exact (hindexes.get?_iff _ _).mpr ⟨hindexes.parent_mem, rfl⟩

/-- The parent comes first, out of name order. -/
def parentFirst : List Account :=
  [{ name := "root", id := "1", isParent := true }, { name := "dev", id := "2" }]

/-- The two make a registry in both orders, and a third with the id of the second is refused. -/
theorem parentFirst_makes_registry :
    ∃ r, Registry.ofAccounts parentFirst = .ok r ∧ r.Indexes parentFirst ∧
      Registry.ofAccounts parentFirst.reverse = .ok r ∧
      Registry.Refused (parentFirst ++ [{ name := "ops", id := "2" }])
        (.duplicateId "2" "dev" "ops") := by
  obtain ⟨hmade, _, hindexed⟩ := registry_of_consistent_accounts parentFirst
  obtain ⟨r, hr⟩ := hmade.mpr ⟨⟨by decide, by decide, by decide⟩, by decide⟩
  obtain ⟨hindexes, _, _, hperm⟩ := hindexed r hr
  have hrefused := (registry_of_consistent_accounts (parentFirst ++ [{ name := "ops", id := "2" }])).2.1
  exact ⟨r, hr, hindexes, hperm _ (List.reverse_perm _).symm, (hrefused _).mp rfl⟩

end OrgStacks
