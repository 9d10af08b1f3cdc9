import OrgStacks.Proofs.Identity
import OrgStacks.Proofs.Literals

/-!
# Naming one account

The id and the name of an account are tokens like any other, read as keywords and patterns. An id
finds whatever begins with it, so it stands for its account exactly when nothing else does. A name
stands for its account unless a keyword, a point, the sign-in provider or a pattern gives it another
meaning.
-/

namespace OrgStacks
set_option autoImplicit false

def Account.BeginsWith (a : Account) (text : String) : Prop :=
  text.toList <+: a.id.toList ∨ text.toList <+: a.name.toList

namespace Registry
variable {r : Registry} {token : String} {a b : Account}

theorem classify_of_point (h : '.' ∈ token.toList) : Token.classify r token = .service token := by
  unfold Token.classify
  split
  · next k hk =>
    have hname := List.find?_some hk
    rw [← beq_iff_eq.mp hname] at h
    exact absurd h (by cases k <;> decide)
  · exact if_pos (List.contains_iff_mem.mpr h)

theorem classify_eq_service {text : String} (h : Token.classify r token = .service text) :
    '.' ∈ token.toList := by
  unfold Token.classify at h
  split at h
  · cases h
  · split at h
    · next hpoint => simpa using hpoint
    · split at h <;> cases h

theorem classify_eq_saml {text : String} (h : Token.classify r token = .saml text) :
    r.samlProvider = some token := by
  unfold Token.classify at h
  split at h
  · cases h
  · split at h
    · cases h
    · split at h
      · assumption
      · cases h

theorem exists_selectOne_iff : (∃ s, r.selectOne token = .ok s) ↔ r.tokenProblem? token = none := by
  rw [selectOne_eq_selectedBy, tokenProblem?_eq_none_iff]

/-- A pattern fails unless it picks an account; other tokens do not fail. -/
theorem tokenProblem?_eq_none_of_picks (ha : a ∈ r.toList) (h : r.Picks token a) :
    r.tokenProblem? token = none := by
  unfold Picks at h
  unfold tokenProblem?
  split
  · next text htoken =>
    rw [htoken] at h
    obtain ⟨re, hread, hfound⟩ := h
    simp only [hread]
    exact if_pos ⟨a, ha, hfound⟩
  · rfl

theorem Sound.mem_selectOne (hr : r.Sound) {s : NameSet} (hs : r.selectOne token = .ok s)
    (ha : a ∈ r.toList) : a.name ∈ s ↔ r.Picks token a := by
  rw [selectOne_eq_selectedBy] at hs
  rw [hr.mem_selectedBy hs]
  constructor
  · rintro ⟨b, hb, hpicks, hname⟩
    exact hr.eq_of_name_eq hb ha hname ▸ hpicks
  · intro hpicks
    exact ⟨a, ha, hpicks, rfl⟩

theorem Sound.selectsOnly_iff (hr : r.Sound) (ha : a ∈ r.toList) :
    r.SelectsOnly token a.name ↔ ∀ b ∈ r.toList, r.Picks token b ↔ b = a := by
  constructor
  · rintro ⟨s, hs, hmem⟩ b hb
    rw [← hr.mem_selectOne hs hb, hmem]
    exact ⟨hr.eq_of_name_eq hb ha, congrArg Account.name⟩
  · intro hpicks
    obtain ⟨s, hs⟩ :=
      exists_selectOne_iff.mpr (tokenProblem?_eq_none_of_picks ha ((hpicks a ha).mpr rfl))
    refine ⟨s, hs, fun other => ?_⟩
    rw [selectOne_eq_selectedBy] at hs
    rw [hr.mem_selectedBy hs]
    constructor
    · rintro ⟨b, hb, hb', rfl⟩
      rw [(hpicks b hb).mp hb']
    · rintro rfl
      exact ⟨a, ha, (hpicks a ha).mpr rfl, rfl⟩

theorem selectOne_eq_singleton_iff {name : String} :
    r.selectOne token = .ok (.ofList [name]) ↔ r.SelectsOnly token name := by
  constructor
  · intro h
    exact ⟨_, h, fun other => by simp⟩
  · rintro ⟨s, hs, hmem⟩
    have hset : s = NameSet.ofList [name] := NameSet.ext_mem fun other => by simp [hmem]
    rw [hs, hset]

theorem trust_eq_account_iff {name : String} :
    r.trust token = .ok (.account name) ↔ r.SelectsOnly token name := by
  rw [trust_eq_iff]
  constructor
  · intro h
    cases h with
    | account h => exact h
  · exact .account

theorem picks_literal (h : Token.classify r token = .pattern token)
    (hliteral : Pattern.IsLiteral token) : r.Picks token b ↔
      Pattern.stateBytes + (Pattern.literal token.toList).programSize ≤ Pattern.sizeLimit ∧
        b.BeginsWith token := by
  unfold Picks
  rw [h]
  dsimp only
  constructor
  · rintro ⟨re, hread, hfound⟩
    obtain ⟨hsize, rfl⟩ := (Pattern.read?_patternText_literal hliteral).mp hread
    rw [Pattern.foundIn_literal_iff, Pattern.foundIn_literal_iff] at hfound
    exact ⟨hsize, hfound⟩
  · rintro ⟨hsize, hbegins⟩
    refine ⟨_, (Pattern.read?_patternText_literal hliteral).mpr ⟨hsize, rfl⟩, ?_⟩
    rw [Pattern.foundIn_literal_iff, Pattern.foundIn_literal_iff]
    exact hbegins

section Digits
variable {id : String} (hid : Text.isDigits id = true)
include hid

theorem isLiteral_id : Pattern.IsLiteral id := by
  intro c hc hspecial
  have hnone : Pattern.special.all (fun d => !d.isDigit) = true := by decide
  have hother := List.all_eq_true.mp hnone c hspecial
  rw [Text.isDigit_of_mem hid hc] at hother
  cases hother

theorem programSize_id :
    Pattern.stateBytes + (Pattern.literal id.toList).programSize =
      Pattern.stateBytes * (id.length + 5) := by
  have hne : id.toList ≠ [] := by
    intro hnil
    obtain rfl : id = "" := String.toList_inj.mp hnil
    exact absurd hid (by decide)
  have hascii : ∀ c ∈ id.toList, c.toNat < 0x80 := by
    intro c hc
    have hdigit := Text.isDigit_of_mem hid hc
    simp only [Char.isDigit, Bool.and_eq_true, decide_eq_true_eq] at hdigit
    have hle : c.toNat ≤ '9'.toNat := hdigit.2
    exact hle.trans_lt (by decide)
  rw [Pattern.Regex.programSize, Pattern.machineSize_literal hne hascii, String.length_toList,
    Nat.mul_add]
  omega

/-- The provider is told from a pattern; nothing else is digits. -/
theorem classify_id : Token.classify r id =
    if r.samlProvider = some id then .saml id else .pattern id := by
  have hkeyword : Keyword.ofName? id = none := by
    refine List.find?_eq_none.mpr fun k _ hk => ?_
    rw [← beq_iff_eq.mp hk] at hid
    exact absurd hid (by cases k <;> decide)
  have hpoint : id.toList.contains '.' = false := by
    refine Bool.eq_false_iff.mpr fun hmem => ?_
    exact absurd (Text.isDigit_of_mem hid (List.contains_iff_mem.mp hmem)) (by decide)
  simp only [Token.classify, hkeyword, hpoint]
  rfl

theorem picks_id : r.Picks id b ↔ r.samlProvider ≠ some id ∧
    Pattern.stateBytes * (id.length + 5) ≤ Pattern.sizeLimit ∧ b.BeginsWith id := by
  by_cases hprovider : r.samlProvider = some id
  · have hclassify : Token.classify r id = .saml id := (classify_id hid).trans (if_pos hprovider)
    simp [Picks, hclassify, hprovider]
  · have hclassify : Token.classify r id = .pattern id :=
      (classify_id hid).trans (if_neg hprovider)
    rw [picks_literal hclassify (isLiteral_id hid), programSize_id hid]
    exact (and_iff_right hprovider).symm

end Digits

/-- The id of an account tells it from all others: the provider has another name, nothing of another
account begins with it, and it is short enough for a pattern. -/
structure TellsId (r : Registry) (a : Account) : Prop where
  no_provider : r.samlProvider ≠ some a.id
  alone : ∀ b ∈ r.toList, b.BeginsWith a.id → b = a
  fits : Pattern.stateBytes * (a.id.length + 5) ≤ Pattern.sizeLimit

theorem tellsId_iff (hr : r.Sound) (hindexed : r.Indexed) (ha : a ∈ r.toList) :
    r.SelectsOnly a.id a.name ↔ r.TellsId a := by
  have hpicks {b : Account} := picks_id (r := r) (b := b) (hindexed.digits ha)
  have hself : a.BeginsWith a.id := .inl List.prefix_rfl
  rw [hr.selectsOnly_iff ha]
  constructor
  · intro h
    obtain ⟨hprovider, hfits, _⟩ := hpicks.mp ((h a ha).mpr rfl)
    refine ⟨hprovider, fun b hb hbegins => ?_, hfits⟩
    exact (h b hb).mp (hpicks.mpr ⟨hprovider, hfits, hbegins⟩)
  · intro h b hb
    rw [hpicks]
    constructor
    · rintro ⟨_, _, hbegins⟩
      exact h.alone b hb hbegins
    · rintro rfl
      exact ⟨h.no_provider, h.fits, hself⟩

theorem tellsId_of_length (hr : r.Sound) (hindexed : r.Indexed) (ha : a ∈ r.toList)
    (hlength : ∀ b ∈ r.toList, b.id.length = a.id.length)
    (hnames : ∀ b ∈ r.toList, b ≠ a → ¬ a.id.toList <+: b.name.toList)
    (hprovider : r.samlProvider ≠ some a.id)
    (hfits : Pattern.stateBytes * (a.id.length + 5) ≤ Pattern.sizeLimit) : r.TellsId a := by
  refine ⟨hprovider, fun b hb hbegins => ?_, hfits⟩
  by_contra hne
  rcases hbegins with hid | hname
  · have hsame : a.id.toList.length = b.id.toList.length := by
      rw [String.length_toList, String.length_toList, hlength b hb]
    have heq : a.id = b.id := String.toList_inj.mp (hid.eq_of_length hsame)
    exact hne (hindexed.eq_of_id hr ha hb heq).symm
  · exact hnames b hb hne hname

/-- The name of an account means that account or nothing. A keyword means it too, the name is no
service and is not the provider's unless it is a keyword that selects the account alone, and as a
pattern it finds the account whenever it finds any. -/
structure NamesItself (r : Registry) (a : Account) : Prop where
  parent : a.name = "parent" → a = r.parent
  children : a.name = "children" → a ≠ r.parent
  no_point : '.' ∉ a.name.toList
  provider : r.samlProvider = some a.name → r.SelectsOnly a.name a.name
  pattern : Token.classify r a.name = .pattern a.name →
    ∀ re, Pattern.read? (patternText a.name) = some re →
      (∃ b ∈ r.toList, re.foundIn b.id = true ∨ re.foundIn b.name = true) →
        re.foundIn a.id = true ∨ re.foundIn a.name = true

theorem Sound.name_mem_iff (hr : r.Sound) (ha : a ∈ r.toList) :
    (∀ s, r.selectOne a.name = .ok s → a.name ∈ s) ↔
      (r.tokenProblem? a.name = none → r.Picks a.name a) := by
  constructor
  · intro h hnone
    obtain ⟨s, hs⟩ := exists_selectOne_iff.mpr hnone
    exact (hr.mem_selectOne hs ha).mp (h s hs)
  · intro h s hs
    exact (hr.mem_selectOne hs ha).mpr (h (exists_selectOne_iff.mp ⟨s, hs⟩))

theorem Sound.namesItself_of (hr : r.Sound) (ha : a ∈ r.toList)
    (hselect : ∀ s, r.selectOne a.name = .ok s → a.name ∈ s)
    (htrust : ∀ t, r.trust a.name = .ok t → t = .account a.name) : r.NamesItself a := by
  have hpicks := (hr.name_mem_iff ha).mp hselect
  have hkeyword {k : Keyword} (hk : a.name = k.name) :
      Token.classify r a.name = .keyword k ∧ r.Picks a.name a := by
    have hclassify : Token.classify r a.name = .keyword k := classify_eq_keyword_iff.mpr hk
    exact ⟨hclassify, hpicks (by simp [tokenProblem?, hclassify])⟩
  constructor
  case parent =>
    intro hname
    obtain ⟨hclassify, hpicked⟩ := hkeyword (k := .parent) hname
    simpa [Picks, hclassify] using hpicked
  case children =>
    rintro hname rfl
    obtain ⟨hclassify, hpicked⟩ := hkeyword (k := .children) hname
    simp [Picks, hclassify] at hpicked
  case no_point =>
    intro hpoint
    have hclassify := classify_of_point (r := r) hpoint
    have hpicked := hpicks (by simp [tokenProblem?, hclassify])
    simp [Picks, hclassify] at hpicked
  case provider =>
    intro hprovider
    cases htoken : r.trust a.name with
    | ok t =>
      rw [htrust t htoken] at htoken
      exact trust_eq_account_iff.mp htoken
    | error e =>
      cases trust_eq_iff.mp htoken with
      | ambiguous hno => exact absurd hprovider hno
      | invalid hinvalid => exact absurd hprovider (classify_eq_pattern hinvalid.1).2.2
      | unknown _ hno => exact absurd hprovider hno
  case pattern =>
    intro hclassify re hread hany
    have hnone : r.tokenProblem? a.name = none := by
      simp only [tokenProblem?, hclassify, hread]
      exact if_pos hany
    have hpicked := hpicks hnone
    simpa [Picks, hclassify, hread] using hpicked

theorem Sound.picks_of_namesItself (hr : r.Sound) (ha : a ∈ r.toList) (h : r.NamesItself a)
    (hnone : r.tokenProblem? a.name = none) : r.Picks a.name a := by
  cases hclassify : Token.classify r a.name with
  | keyword k =>
    have hname : a.name = k.name := classify_eq_keyword_iff.mp hclassify
    unfold Picks
    rw [hclassify]
    cases k with
    | all => trivial
    | parent => exact h.parent hname
    | children =>
      intro hparent
      exact h.children hname (hr.eq_of_name_eq ha hr.parent_mem hparent)
  | service text => exact absurd (classify_eq_service hclassify) h.no_point
  | saml text =>
    have honly := h.provider (classify_eq_saml hclassify)
    exact ((hr.selectsOnly_iff ha).mp honly a ha).mpr rfl
  | pattern text =>
    obtain ⟨rfl, _, _⟩ := classify_eq_pattern hclassify
    unfold Picks
    rw [hclassify]
    dsimp only
    unfold tokenProblem? at hnone
    rw [hclassify] at hnone
    dsimp only at hnone
    split at hnone
    · cases hnone
    · next re hread =>
      split at hnone
      · next hany => exact ⟨re, hread, h.pattern hclassify re hread hany⟩
      · cases hnone

theorem Sound.namesItself_iff (hr : r.Sound) (ha : a ∈ r.toList) :
    ((∀ s, r.selectOne a.name = .ok s → a.name ∈ s) ∧
      ∀ t, r.trust a.name = .ok t → t = .account a.name) ↔ r.NamesItself a := by
  constructor
  · rintro ⟨hselect, htrust⟩
    exact hr.namesItself_of ha hselect htrust
  · intro h
    have hselect := (hr.name_mem_iff ha).mpr (hr.picks_of_namesItself ha h)
    refine ⟨hselect, fun t ht => ?_⟩
    cases trust_eq_iff.mp ht with
    | @account name hname =>
      obtain ⟨s, hs, hmem⟩ := hname
      rw [(hmem a.name).mp (hselect s hs)]
    | saml hno hprovider => exact absurd (h.provider hprovider) (hno a.name)
    | service _ _ hshape => exact absurd hshape.point_mem h.no_point

theorem namesItself_of_literal (hliteral : Pattern.IsLiteral a.name)
    (hkeyword : ∀ k : Keyword, a.name ≠ k.name) (hprovider : r.samlProvider ≠ some a.name) :
    r.NamesItself a := by
  constructor
  case parent =>
    intro hname
    exact absurd hname (hkeyword .parent)
  case children =>
    intro hname
    exact absurd hname (hkeyword .children)
  case no_point =>
    intro hpoint
    exact hliteral '.' hpoint (by decide)
  case provider =>
    intro h
    exact absurd h hprovider
  case pattern =>
    intro _ re hread _
    obtain ⟨_, rfl⟩ := (Pattern.read?_patternText_literal hliteral).mp hread
    exact .inr ((Pattern.foundIn_literal_iff a.name).mpr List.prefix_rfl)

end Registry

/-- The id of an account selects that account alone, and is trusted as that account, exactly when
nothing else begins with it. So it is with ids of one length that begin no name. -/
theorem id_stands_for_account {accounts : List Account} {r : Registry}
    (h : Registry.ofAccounts accounts = .ok r) {a : Account} (ha : a ∈ r.toList) :
    (r.selectOne a.id = .ok (.ofList [a.name]) ↔ r.TellsId a) ∧
    (r.trust a.id = .ok (.account a.name) ↔ r.TellsId a) ∧
    ((∀ b ∈ r.toList, b.id.length = a.id.length) →
      (∀ b ∈ r.toList, b ≠ a → ¬ a.id.toList <+: b.name.toList) →
      r.samlProvider ≠ some a.id →
      Pattern.stateBytes * (a.id.length + 5) ≤ Pattern.sizeLimit → r.TellsId a) := by
  have hr := Registry.sound_of_ofAccounts h
  have hindexed := Registry.indexed_of_ofAccounts h
  have htells := Registry.tellsId_iff hr hindexed ha
  exact ⟨Registry.selectOne_eq_singleton_iff.trans htells,
    Registry.trust_eq_account_iff.trans htells, Registry.tellsId_of_length hr hindexed ha⟩

theorem id_stands_for_dev :
    ∃ r, Registry.ofAccounts threeAccounts = .ok r ∧
      { name := "dev", id := "2" } ∈ r.toList ∧ r.TellsId { name := "dev", id := "2" } ∧
      r.trust "2" = .ok (.account "dev") := by
  obtain ⟨r, hr, ha, hlength, hnames, hprovider⟩ :
      ∃ r, Registry.ofAccounts threeAccounts = .ok r ∧ { name := "dev", id := "2" } ∈ r.toList ∧
        (∀ b ∈ r.toList, b.id.length = 1) ∧ (∀ b ∈ r.toList, ¬ ['2'] <+: b.name.toList) ∧
        r.samlProvider ≠ some "2" :=
    ⟨_, rfl, by decide, by decide, by decide, by decide⟩
  obtain ⟨_, htrusts, hone⟩ := id_stands_for_account hr ha
  have htells := hone hlength (fun b hb _ => hnames b hb) hprovider (by decide)
  exact ⟨r, hr, ha, htells, htrusts.mpr htells⟩

/-- The id of the parent begins the id of another account. -/
theorem id_selects_two_accounts :
    ∃ r a, Registry.ofAccounts
        [{ name := "root", id := "1", isParent := true }, { name := "dev", id := "12" }] = .ok r ∧
      a ∈ r.toList ∧ a.name = "root" ∧ r.selectOne a.id = .ok (.ofList ["dev", "root"]) ∧
      r.trust a.id = .error (.ambiguousTrust "1" ["dev", "root"]) :=
  ⟨_, { name := "root", id := "1", isParent := true }, rfl, by decide, rfl, rfl, rfl⟩

/-- The name of an account selects that account if it selects anything, and is trusted as that
account or not at all, exactly when it has no other meaning. A name of ordinary characters that is
no keyword and not the provider's never has one. -/
theorem name_stands_for_account {accounts : List Account} {r : Registry}
    (h : Registry.ofAccounts accounts = .ok r) {a : Account} (ha : a ∈ r.toList) :
    (((∀ s, r.selectOne a.name = .ok s → a.name ∈ s) ∧
      ∀ t, r.trust a.name = .ok t → t = .account a.name) ↔ r.NamesItself a) ∧
    (Pattern.IsLiteral a.name → (∀ k : Keyword, a.name ≠ k.name) →
      r.samlProvider ≠ some a.name → r.NamesItself a) :=
  ⟨(Registry.sound_of_ofAccounts h).namesItself_iff ha, Registry.namesItself_of_literal⟩

theorem name_stands_for_dev :
    ∃ r, Registry.ofAccounts threeAccounts = .ok r ∧
      { name := "dev", id := "2" } ∈ r.toList ∧ r.NamesItself { name := "dev", id := "2" } ∧
      ∀ s, r.selectOne "dev" = .ok s → "dev" ∈ s := by
  obtain ⟨r, hr, ha, hprovider⟩ : ∃ r, Registry.ofAccounts threeAccounts = .ok r ∧
      { name := "dev", id := "2" } ∈ r.toList ∧ r.samlProvider ≠ some "dev" :=
    ⟨_, rfl, by decide, by decide⟩
  obtain ⟨hiff, hliteral⟩ := name_stands_for_account hr ha
  have hkeyword (k : Keyword) : "dev" ≠ k.name := by cases k <;> decide
  have hnames := hliteral (by decide) hkeyword hprovider
  exact ⟨r, hr, ha, hnames, (hiff.mpr hnames).1⟩

/-- A keyword, a point, the provider and a repetition, each in the name of an account. -/
def captured : List Account :=
  [{ name := "root", id := "1", isParent := true, samlProvider := some "idp" },
    { name := "parent", id := "2" }, { name := "prod.eu", id := "3" }, { name := "idp", id := "4" },
    { name := "a+b", id := "5" }, { name := "aab", id := "6" }]

theorem names_mean_something_else :
    ∃ r, Registry.ofAccounts captured = .ok r ∧ (∀ a ∈ captured, a ∈ r.toList) ∧
      r.selectOne "parent" = .ok (.ofList ["root"]) ∧
      r.trust "prod.eu" = .ok (.service "prod.eu") ∧ r.trust "idp" = .ok (.saml "idp") ∧
      r.trust "a+b" = .ok (.account "aab") := by
  refine ⟨_, rfl, ?_, rfl, ?_, ?_, ?_⟩
  · decide +kernel
  · decide +kernel
  · decide +kernel
  · decide +kernel

end OrgStacks
