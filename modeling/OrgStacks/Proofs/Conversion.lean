import OrgStacks.Proofs.Consistency

/-!
# From names to ids and back

A digit string is converted as an id and any other text as a name. Ids are digit strings, so an id
always gives its name. A name of digits is taken for an id: it gives back the id of its account only
where the account with that id is named by the id of the first. `Registry.LeadsBack` says so, and it
decides for which values a second conversion undoes the first.
-/

namespace OrgStacks
set_option autoImplicit false

namespace Registry

/-- The name of the account is no digit string, or it is the id of an account that has the id of
this one for a name. -/
def LeadsBack (r : Registry) (a : Account) : Prop :=
  Text.isDigits a.name = true → ∃ b ∈ r.toList, b.id = a.name ∧ b.name = a.id

namespace Indexes
variable {r : Registry} {accounts : List Account} {a : Account} {v w : String}

theorem digits (h : r.Indexes accounts) (hdistinct : Distinct accounts) (ha : a ∈ r.toList) :
    Text.isDigits a.id = true :=
  hdistinct.digits a (h.listed.1.mem_iff.mp ha)

theorem convert_digits (h : r.Indexes accounts) (hv : Text.isDigits v = true) :
    r.convert v = .ok w ↔ ∃ a ∈ r.toList, a.id = v ∧ a.name = w := by
  rw [convert, if_pos hv, h.nameOfId_iff]
  simp only [h.listed.1.mem_iff]

theorem convert_name (h : r.Indexes accounts) (hv : Text.isDigits v = false) :
    r.convert v = .ok w ↔ ∃ a ∈ r.toList, a.name = v ∧ a.id = w := by
  rw [convert, hv, if_neg Bool.false_ne_true, h.idOfName_iff]
  simp only [h.listed.1.mem_iff, and_comm]

/-- A name is converted to the id of its account exactly when it leads back there. -/
theorem convert_name_eq_iff (h : r.Indexes accounts) (ha : a ∈ r.toList) :
    r.convert a.name = .ok a.id ↔ r.LeadsBack a := by
  cases hname : Text.isDigits a.name with
  | true => simp [LeadsBack, hname, h.convert_digits hname]
  | false =>
    rw [h.convert_name hname]
    simp only [LeadsBack, hname, Bool.false_eq_true, false_implies, iff_true]
    exact ⟨a, ha, rfl, rfl⟩

theorem convert_twice_iff (h : r.Indexes accounts) (hdistinct : Distinct accounts)
    (hvw : r.convert v = .ok w) :
    r.convert w = .ok v ↔ ∀ a ∈ r.toList, a.id = v → r.LeadsBack a := by
  cases hv : Text.isDigits v with
  | true =>
    obtain ⟨a, ha, rfl, rfl⟩ := (h.convert_digits hv).mp hvw
    rw [h.convert_name_eq_iff ha]
    constructor
    · intro hback b hb hid
      -- The id belongs to one account only.
      have hsame : b = a := List.inj_on_of_nodup_map hdistinct.ids (h.listed.1.mem_iff.mp hb)
        (h.listed.1.mem_iff.mp ha) hid
      exact hsame ▸ hback
    · intro hback
      exact hback a ha rfl
  | false =>
    obtain ⟨a, ha, rfl, rfl⟩ := (h.convert_name hv).mp hvw
    have hid := h.digits hdistinct ha
    constructor
    · intro _ b hb hname
      rw [← hname, h.digits hdistinct hb] at hv
      cases hv
    · intro _
      exact (h.convert_digits hid).mpr ⟨a, ha, rfl, rfl⟩

end Indexes

end Registry

/-- The id of an account is converted to its name, and the name to the id exactly when it leads back
there. A second conversion gives back the first value exactly when that is no id or the name of its
account leads back; so it always does where no name is a digit string. -/
theorem convert_there_and_back {accounts : List Account} {r : Registry}
    (h : Registry.ofAccounts accounts = .ok r) :
    (∀ a ∈ r.toList, r.convert a.id = .ok a.name ∧
      (r.convert a.name = .ok a.id ↔ r.LeadsBack a)) ∧
    (∀ v w, r.convert v = .ok w →
      (r.convert w = .ok v ↔ ∀ a ∈ r.toList, a.id = v → r.LeadsBack a)) ∧
    ((∀ a ∈ r.toList, Text.isDigits a.name = false) → ∀ a ∈ r.toList, r.LeadsBack a) := by
  obtain ⟨hconsistent, hindexes⟩ := Registry.consistent_of_ofAccounts h
  refine ⟨fun a ha => ⟨?_, hindexes.convert_name_eq_iff ha⟩,
    fun v w => hindexes.convert_twice_iff hconsistent.distinct, fun hnames a ha hdigits => ?_⟩
  · have hid := hindexes.digits hconsistent.distinct ha
    exact (hindexes.convert_digits hid).mpr ⟨a, ha, rfl, rfl⟩
  · rw [hnames a ha] at hdigits
    cases hdigits

/-- Two accounts named by the ids of each other, and one named by the id of a third. -/
def crossed : List Account :=
  [{ name := "2", id := "1", isParent := true }, { name := "1", id := "2" },
    { name := "3", id := "4" }, { name := "dev", id := "3" }]

theorem crossed_lead_back :
    ∃ r, Registry.ofAccounts crossed = .ok r ∧
      r.LeadsBack { name := "2", id := "1", isParent := true } ∧
      r.convert "1" = .ok "2" ∧ r.convert "2" = .ok "1" ∧
      r.convert "dev" = .ok "3" ∧ r.convert "3" = .ok "dev" := by
  obtain ⟨r, hr, htwo, hone, hdev, hids⟩ : ∃ r, Registry.ofAccounts crossed = .ok r ∧
      { name := "2", id := "1", isParent := true } ∈ r.toList ∧
      { name := "1", id := "2" } ∈ r.toList ∧ { name := "dev", id := "3" } ∈ r.toList ∧
      ∀ a ∈ r.toList, a.id ≠ "dev" :=
    ⟨_, rfl, by decide, by decide, by decide, by decide⟩
  obtain ⟨heach, htwice, _⟩ := convert_there_and_back hr
  have hback : r.LeadsBack { name := "2", id := "1", isParent := true } :=
    fun _ => ⟨_, hone, rfl, rfl⟩
  have hname : r.convert "dev" = .ok "3" := (heach _ hdev).2.mpr fun hdigits => by cases hdigits
  exact ⟨r, hr, hback, (heach _ htwo).1, (heach _ htwo).2.mpr hback, hname,
    (htwice _ _ hname).mpr fun a ha hid => absurd hid (hids a ha)⟩

/-- The name of the third account is the id of the fourth, and gives the name of that. -/
theorem digit_name_taken_for_id : ∃ r a, Registry.ofAccounts crossed = .ok r ∧ a ∈ r.toList ∧
    r.convert a.id = .ok a.name ∧ r.convert a.name = .ok "dev" ∧
      r.convert a.name ≠ .ok a.id := by
  refine ⟨_, { name := "3", id := "4" }, rfl, by decide, rfl, rfl, fun h => ?_⟩
  have hsame : "dev" = "4" := Except.ok.inj h
  exact absurd hsame (by decide)

end OrgStacks
