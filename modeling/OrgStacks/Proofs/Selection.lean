import Mathlib.Data.List.Induction
import Mathlib.Data.List.TakeDrop
import OrgStacks.Proofs.Registry

/-!
# The accounts that tokens select

A list of tokens fails with the problem of its first failing token, also where a later `all` or
`children` would have discarded what that token selects. Otherwise it selects what its tokens from
the last such keyword onward select together. Nothing here looks into the patterns.
-/

namespace OrgStacks
set_option autoImplicit false

namespace Registry

variable {r : Registry} {text : String}

/-- What is wrong with a token by itself; only a pattern can be wrong. -/
def tokenProblem? (r : Registry) (text : String) : Option Problem :=
  match Token.classify r text with
  | .pattern token =>
    match Pattern.read? (patternText token) with
    | none => some (.invalidPattern token "not a regular expression within the limits")
    | some re =>
      if ∃ a ∈ r.toList, re.foundIn a.id = true ∨ re.foundIn a.name = true then none
      else some (.unresolvedPattern token)
  | _ => none

def Picks (r : Registry) (text : String) (a : Account) : Prop :=
  match Token.classify r text with
  | .keyword .all => True
  | .keyword .children => a.name ≠ r.parent.name
  | .keyword .parent => a = r.parent
  | .service _ => False
  | .saml _ => False
  | .pattern token => ∃ re, Pattern.read? (patternText token) = some re ∧
      (re.foundIn a.id = true ∨ re.foundIn a.name = true)

def IsMarker (r : Registry) (text : String) : Prop :=
  Token.classify r text = .service text ∨ Token.classify r text = .saml text

theorem selectedBy_eq_error_iff {e : Problem} :
    r.selectedBy text = .error e ↔ r.tokenProblem? text = some e := by
  unfold selectedBy tokenProblem?
  split
  case h_6 token htoken =>
    simp only [htoken]
    unfold matching
    cases hread : Pattern.read? (patternText token) with
    | none => simp
    | some re =>
      dsimp only
      split
      · rename_i hnone
        rw [List.filter_eq_nil_iff] at hnone
        rw [if_neg]
        · simp
        · rintro ⟨a, ha, hfound⟩
          exact hnone a ha (by simpa using hfound)
      · rename_i hsome
        rw [if_pos]
        · simp
        · obtain ⟨a, ha⟩ := List.exists_mem_of_ne_nil _ hsome
          obtain ⟨hmem, hfound⟩ := List.mem_filter.mp ha
          exact ⟨a, hmem, by simpa using hfound⟩
  all_goals simp [*]

theorem Sound.mem_keys_iff (hr : r.Sound) {name : String} :
    name ∈ r.accounts.keys ↔ ∃ a ∈ r.toList, a.name = name := by
  rw [NameMap.mem_keys_iff, NameMap.contains_iff]
  constructor
  · rintro ⟨a, ha⟩
    obtain rfl := hr.name_eq ha
    exact ⟨a, hr.mem_toList_iff.mpr ha, rfl⟩
  · rintro ⟨a, ha, rfl⟩
    exact ⟨a, hr.mem_toList_iff.mp ha⟩

theorem mem_matching {token : String} {found : NameSet} (h : r.matching token = .ok found)
    {name : String} :
    name ∈ found ↔ ∃ a ∈ r.toList, (∃ re, Pattern.read? (patternText token) = some re ∧
      (re.foundIn a.id = true ∨ re.foundIn a.name = true)) ∧ a.name = name := by
  unfold matching at h
  split at h
  · cases h
  · rename_i re hread
    split at h
    · cases h
    · cases h
      simp [hread, and_assoc]

theorem Sound.mem_selectedBy (hr : r.Sound) {found : NameSet} (h : r.selectedBy text = .ok found)
    {name : String} : name ∈ found ↔ ∃ a ∈ r.toList, r.Picks text a ∧ a.name = name := by
  unfold selectedBy at h
  unfold Picks
  cases htoken : Token.classify r text with
  | keyword k =>
    rw [htoken] at h
    cases k with
    | all =>
      cases h
      simp [all, hr.mem_keys_iff]
    | children =>
      cases h
      simp only [children, NameSet.mem_ofList, List.mem_filter, hr.mem_keys_iff, bne_iff_ne]
      constructor
      · rintro ⟨⟨a, ha, rfl⟩, hne⟩
        exact ⟨a, ha, hne, rfl⟩
      · rintro ⟨a, ha, hne, rfl⟩
        exact ⟨⟨a, ha, rfl⟩, hne⟩
    | parent =>
      cases h
      simp [NameSet.mem_insert, hr.parent_mem, eq_comm]
  | service service =>
    rw [htoken] at h
    cases h
    simp
  | saml provider =>
    rw [htoken] at h
    cases h
    simp
  | pattern token =>
    rw [htoken] at h
    exact mem_matching h

theorem classify_eq_keyword_iff {k : Keyword} :
    Token.classify r text = .keyword k ↔ text = k.name := by
  constructor
  · intro h
    unfold Token.classify at h
    split at h
    · rename_i k' hk
      cases h
      have hname := List.find?_some hk
      exact (beq_iff_eq.mp hname).symm
    · split at h
      · cases h
      · split at h <;> cases h
  · rintro rfl
    cases k <;> rfl

theorem replaces_iff : replaces text = true ↔
    Token.classify r text = .keyword .all ∨ Token.classify r text = .keyword .children := by
  simp [replaces, classify_eq_keyword_iff, Keyword.name]

/-- A token adds what it selects by itself, or puts that in the place of the rest. -/
theorem selectStep_eq (selected : NameSet) : r.selectStep selected text =
    (r.selectedBy text).map fun found =>
      if replaces text then found else selected.union found := by
  have hreplaces := @replaces_iff r text
  unfold selectStep selectedBy
  split <;> rename_i htoken <;> simp only [htoken] at hreplaces ⊢
  case h_1 => simp [Except.map, hreplaces]
  case h_2 => simp [Except.map, hreplaces]
  case h_3 =>
    have hset : selected.insert r.parent.name =
        selected.union (NameSet.empty.insert r.parent.name) :=
      NameSet.ext_mem fun name => by simp [NameSet.mem_insert, or_comm]
    simp [Except.map, hreplaces, hset]
  case h_4 =>
    have hset : selected = selected.union .empty := NameSet.ext_mem fun name => by simp
    simp [Except.map, hreplaces, ← hset]
  case h_5 =>
    have hset : selected = selected.union .empty := NameSet.ext_mem fun name => by simp
    simp [Except.map, hreplaces, ← hset]
  case h_6 token =>
    simp [hreplaces]

theorem fromLastReplacing_append_one (tokens : List String) (text : String) :
    fromLastReplacing (tokens ++ [text]) =
      if replaces text then [text] else fromLastReplacing tokens ++ [text] := by
  unfold fromLastReplacing
  simp only [List.span_eq_takeWhile_dropWhile, List.reverse_append, List.reverse_singleton,
    List.singleton_append, List.takeWhile_cons, List.dropWhile_cons]
  cases h : replaces text with
  | true => simp
  | false =>
    cases List.dropWhile (fun t => !replaces t) tokens.reverse <;> simp

/-- Only tokens of the list count, and all of them when none of them replaces the rest. -/
theorem fromLastReplacing_eq_self {tokens : List String}
    (h : ∀ t ∈ tokens, replaces t = false) : fromLastReplacing tokens = tokens := by
  induction tokens using List.reverseRecOn with
  | nil => rfl
  | append_singleton tokens t ih =>
    rw [fromLastReplacing_append_one, h t (by simp), if_neg (by simp),
      ih fun x hx => h x (by simp [hx])]

theorem fromLastReplacing_suffix (tokens : List String) : fromLastReplacing tokens <:+ tokens := by
  induction tokens using List.reverseRecOn with
  | nil => exact List.suffix_refl _
  | append_singleton tokens t ih =>
    rw [fromLastReplacing_append_one]
    split
    · exact List.suffix_append tokens [t]
    · obtain ⟨before, hbefore⟩ := ih
      exact ⟨before, by rw [← List.append_assoc, hbefore]⟩

theorem exists_counted {tokens : List String} {sets : List NameSet}
    (h : tokens.mapM r.selectedBy = .ok sets) :
    ∃ counted, (fromLastReplacing tokens).mapM r.selectedBy = .ok counted := by
  apply exists_mapM_eq_ok_iff.mpr
  intro t ht
  obtain ⟨found, _, hfound⟩ := exists_of_mapM_eq_ok h ((fromLastReplacing_suffix tokens).mem ht)
  exact ⟨found, hfound⟩

/-- The accumulator is not needed: it holds what the tokens from the last replacing one onward
select, each by itself. -/
theorem select_eq_selection (r : Registry) (tokens : List String) :
    r.select tokens = r.selection tokens := by
  induction tokens using List.reverseRecOn with
  | nil => rfl
  | append_singleton tokens t ih =>
    have hstep : r.select (tokens ++ [t]) =
        r.select tokens >>= fun selected => r.selectStep selected t := by
      simp [select, List.foldlM_append]
    rw [hstep, ih]
    unfold selection
    rw [List.mapM_append, fromLastReplacing_append_one]
    cases hall : tokens.mapM r.selectedBy with
    | error e => rfl
    | ok sets =>
      obtain ⟨counted, hcounted⟩ := exists_counted hall
      simp only [hcounted, selectStep_eq]
      cases ht : r.selectedBy t with
      | error e => simp [ht, bind, Except.bind, pure, Except.pure, Except.map]
      | ok found =>
        cases replaces t with
        | true =>
          have hset : found = NameSet.empty.union found := NameSet.ext_mem fun name => by simp
          simp [ht, bind, Except.bind, pure, Except.pure, Except.map, ← hset]
        | false =>
          simp [ht, hcounted, bind, Except.bind, pure, Except.pure, Except.map]

theorem tokenProblem?_eq_none_iff :
    r.tokenProblem? text = none ↔ ∃ found, r.selectedBy text = .ok found := by
  cases h : r.selectedBy text with
  | error e => simp [selectedBy_eq_error_iff.mp h]
  | ok found =>
    simp only [Except.ok.injEq, exists_eq', iff_true]
    refine Option.eq_none_iff_forall_ne_some.mpr fun e he => ?_
    rw [selectedBy_eq_error_iff.mpr he] at h
    cases h

/-- The first failing token decides, whatever comes after it. -/
theorem select_eq_error_iff {tokens : List String} {e : Problem} :
    r.select tokens = .error e ↔ ∃ before token after, tokens = before ++ token :: after ∧
      (∀ t ∈ before, r.tokenProblem? t = none) ∧ r.tokenProblem? token = some e := by
  have hall : r.select tokens = .error e ↔ tokens.mapM r.selectedBy = .error e := by
    rw [select_eq_selection]
    unfold selection
    cases hsets : tokens.mapM r.selectedBy with
    | error e' => simp [bind, Except.bind]
    | ok sets =>
      obtain ⟨counted, hcounted⟩ := exists_counted hsets
      simp [hcounted, bind, Except.bind, pure, Except.pure]
  rw [hall, mapM_eq_error_iff]
  simp only [tokenProblem?_eq_none_iff, selectedBy_eq_error_iff]

theorem exists_select_eq_ok {tokens : List String} (h : ∀ t ∈ tokens, r.tokenProblem? t = none) :
    ∃ s, r.select tokens = .ok s := by
  cases hs : r.select tokens with
  | ok s => exact ⟨s, rfl⟩
  | error e =>
    obtain ⟨before, token, after, rfl, _, hproblem⟩ := select_eq_error_iff.mp hs
    rw [h token (by simp)] at hproblem
    cases hproblem

theorem parts_of_select {tokens : List String} {s : NameSet} (h : r.select tokens = .ok s) :
    ∃ sets counted, tokens.mapM r.selectedBy = .ok sets ∧
      (fromLastReplacing tokens).mapM r.selectedBy = .ok counted ∧
      s = counted.foldl NameSet.union .empty := by
  rw [select_eq_selection] at h
  unfold selection at h
  obtain ⟨sets, hsets, h⟩ := bind_eq_ok_iff.mp h
  obtain ⟨counted, hcounted, h⟩ := bind_eq_ok_iff.mp h
  cases h
  exact ⟨sets, counted, hsets, hcounted, rfl⟩

theorem tokenProblem?_eq_none_of_select {tokens : List String} {s : NameSet}
    (h : r.select tokens = .ok s) {t : String} (ht : t ∈ tokens) : r.tokenProblem? t = none := by
  obtain ⟨sets, _, hsets, _, _⟩ := parts_of_select h
  obtain ⟨found, _, hfound⟩ := exists_of_mapM_eq_ok hsets ht
  exact tokenProblem?_eq_none_iff.mpr ⟨found, hfound⟩

theorem Sound.mem_select (hr : r.Sound) {tokens : List String} {s : NameSet}
    (h : r.select tokens = .ok s) {name : String} :
    name ∈ s ↔ ∃ t ∈ fromLastReplacing tokens, ∃ a ∈ r.toList, r.Picks t a ∧ a.name = name := by
  obtain ⟨_, counted, _, hcounted, rfl⟩ := parts_of_select h
  rw [NameSet.mem_foldl_union]
  constructor
  · rintro (hname | ⟨found, hfound, hname⟩)
    · exact absurd hname (NameSet.not_mem_empty name)
    · obtain ⟨t, ht, htfound⟩ := exists_of_mem_mapM hcounted hfound
      exact ⟨t, ht, (hr.mem_selectedBy htfound).mp hname⟩
  · rintro ⟨t, ht, hpicked⟩
    obtain ⟨found, hfound, htfound⟩ := exists_of_mapM_eq_ok hcounted ht
    exact Or.inr ⟨found, hfound, (hr.mem_selectedBy htfound).mpr hpicked⟩

theorem Sound.select_eq_ok_iff (hr : r.Sound) {tokens : List String} {s : NameSet} :
    r.select tokens = .ok s ↔ (∀ t ∈ tokens, r.tokenProblem? t = none) ∧ ∀ name, name ∈ s ↔
      ∃ t ∈ fromLastReplacing tokens, ∃ a ∈ r.toList, r.Picks t a ∧ a.name = name := by
  constructor
  · intro h
    exact ⟨fun t ht => tokenProblem?_eq_none_of_select h ht, fun name => hr.mem_select h⟩
  · rintro ⟨hnone, hmem⟩
    obtain ⟨s', hs'⟩ := exists_select_eq_ok hnone
    rw [hs', NameSet.ext_mem fun name => (hmem name).trans (hr.mem_select hs').symm]

theorem select_insert_marker {marker : String} (h : r.IsMarker marker)
    (before after : List String) :
    r.select (before ++ marker :: after) = r.select (before ++ after) := by
  have hstep : ∀ selected, r.selectStep selected marker = .ok selected := by
    intro selected
    unfold selectStep
    rcases h with h | h <;> simp [h]
  unfold select
  rw [List.foldlM_append, List.foldlM_append]
  congr 1
  funext selected
  rw [List.foldlM_cons, hstep]
  rfl

end Registry

/-- Selecting has a closed form. The first failing token of the list decides; when there is none,
the tokens from the last `all` or `children` onward select what each of them selects by itself. So
only accounts are selected, services and the provider count for nothing wherever they stand, and
without `all` and `children` neither order nor repetition matters to what is selected. -/
theorem select_closed_form {accounts : List Account} {r : Registry}
    (h : Registry.ofAccounts accounts = .ok r) (tokens : List String) :
    (∀ e, r.select tokens = .error e ↔ ∃ before token after, tokens = before ++ token :: after ∧
      (∀ t ∈ before, r.tokenProblem? t = none) ∧ r.tokenProblem? token = some e) ∧
    (∀ s, r.select tokens = .ok s ↔ (∀ t ∈ tokens, r.tokenProblem? t = none) ∧
      ∀ name, name ∈ s ↔ ∃ t ∈ Registry.fromLastReplacing tokens,
        ∃ a ∈ r.toList, r.Picks t a ∧ a.name = name) ∧
    (∀ s, r.select tokens = .ok s → ∀ name ∈ s, name ∈ r.all) ∧
    (∀ before after marker, tokens = before ++ after → r.IsMarker marker →
      r.select (before ++ marker :: after) = r.select tokens) ∧
    ((∀ t ∈ tokens, Registry.replaces t = false) →
      ∀ other : List String, (∀ t, t ∈ other ↔ t ∈ tokens) →
        ∀ s, r.select other = .ok s ↔ r.select tokens = .ok s) := by
  have hr := Registry.sound_of_ofAccounts h
  refine ⟨fun e => Registry.select_eq_error_iff, fun s => hr.select_eq_ok_iff, ?_, ?_, ?_⟩
  · intro s hs name hname
    obtain ⟨_, _, a, ha, _, rfl⟩ := (hr.mem_select hs).mp hname
    exact NameSet.mem_ofList.mpr (hr.mem_keys_iff.mpr ⟨a, ha, rfl⟩)
  · rintro before after marker rfl hmarker
    exact Registry.select_insert_marker hmarker before after
  · intro hadd other hother s
    have hadd' : ∀ t ∈ other, Registry.replaces t = false := fun t ht => hadd t ((hother t).mp ht)
    rw [hr.select_eq_ok_iff, hr.select_eq_ok_iff, Registry.fromLastReplacing_eq_self hadd,
      Registry.fromLastReplacing_eq_self hadd']
    simp only [hother]

def threeAccounts : List Account :=
  [{ name := "root", id := "1", isParent := true, samlProvider := some "idp" },
    { name := "dev", id := "2" }, { name := "prod", id := "3" }]

theorem select_closed_form_children :
    ∃ r s, Registry.ofAccounts threeAccounts = .ok r ∧
      r.select ["root", "children", "idp", "pr"] = .ok s ∧
      (∀ name, name ∈ s ↔ ∃ t ∈ ["children", "idp", "pr"],
        ∃ a ∈ r.toList, r.Picks t a ∧ a.name = name) ∧
      ∃ before token after, ["dev", "nobody", "all"] = before ++ token :: after ∧
        (∀ t ∈ before, r.tokenProblem? t = none) ∧
        r.tokenProblem? token = some (.unresolvedPattern "nobody") := by
  refine ⟨_, _, rfl, rfl, ?_, ?_⟩
  · have hselect := @select_closed_form threeAccounts _ rfl ["root", "children", "idp", "pr"]
    exact ((hselect.2.1 _).mp rfl).2
  · have hselect := @select_closed_form threeAccounts _ rfl ["dev", "nobody", "all"]
    exact (hselect.1 _).mp rfl

end OrgStacks
