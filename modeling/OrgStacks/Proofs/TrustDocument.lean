import Mathlib.Data.List.Forall2
import OrgStacks.Proofs.Selection
import OrgStacks.Trust

/-!
# What trust tokens grant

A token that selects one account by itself trusts that account, whatever else its text could mean;
next comes the sign-in provider, then the shape of a service principal. `Registry.Classified` lists
the six outcomes, each with what excludes those before it, and every token has exactly one. The
document of a list of tokens is then the stable partition of what they grant.
-/

namespace OrgStacks
set_option autoImplicit false

theorem Text.splitOnChar_eq_splitOn (sep : Char) (cs : List Char) :
    splitOnChar sep cs = cs.splitOn sep := by
  induction cs with
  | nil => simp [splitOnChar]
  | cons c cs ih =>
    have hcons : (c :: cs).splitOn sep =
        if c == sep then [] :: cs.splitOn sep else (cs.splitOn sep).modifyHead (c :: ·) :=
      List.splitOnP_cons_eq_if_modifyHead c cs
    rw [splitOnChar, ih, hcons]
    by_cases hc : c = sep
    · simp [hc]
    · rw [if_neg hc, if_neg (by simpa using hc)]
      cases hparts : cs.splitOn sep with
      | nil => exact absurd hparts (List.splitOnP_ne_nil _ _)
      | cons part parts => rfl

namespace Trust

/-- Two or more words of letters, digits, hyphens and underscores, joined by points. -/
def HasServiceShape (text : String) : Prop :=
  ∃ words : List (List Char), 2 ≤ words.length ∧
    (∀ word ∈ words, word ≠ [] ∧ ∀ c ∈ word, c.isAlphanum = true ∨ c = '_' ∨ c = '-') ∧
    text.toList = ['.'].intercalate words

theorem isServicePrincipal_iff {text : String} :
    isServicePrincipal text = true ↔ HasServiceShape text := by
  simp only [isServicePrincipal, Text.splitOnChar_eq_splitOn, Bool.and_eq_true, decide_eq_true_eq,
    List.all_eq_true, Bool.not_eq_true', List.isEmpty_eq_false_iff, Bool.or_eq_true, beq_iff_eq,
    or_assoc]
  constructor
  · rintro ⟨hlength, hwords⟩
    exact ⟨text.toList.splitOn '.', hlength, hwords, (List.intercalate_splitOn '.').symm⟩
  · rintro ⟨words, hlength, hwords, htext⟩
    have hpoint : ∀ word ∈ words, '.' ∉ word := by
      intro word hword hmem
      rcases (hwords word hword).2 '.' hmem with h | h | h <;> revert h <;> decide
    have hne : words ≠ [] := by
      rintro rfl
      simp at hlength
    rw [htext, List.splitOn_intercalate '.' hpoint hne]
    exact ⟨hlength, hwords⟩

theorem HasServiceShape.point_mem {text : String} (h : HasServiceShape text) :
    '.' ∈ text.toList := by
  obtain ⟨words, hlength, _, htext⟩ := h
  rw [htext]
  match words, hlength with
  | first :: second :: rest, _ => simp [List.intercalate, List.intersperse]

end Trust

namespace Registry

variable {r : Registry} {token : String}

theorem selectOne_eq_selectedBy (r : Registry) (token : String) :
    r.selectOne token = r.selectedBy token := by
  have hstep : r.selectOne token = r.selectStep .empty token := by
    simp [selectOne, select]
  rw [hstep, selectStep_eq]
  cases r.selectedBy token with
  | error e => rfl
  | ok found =>
    have hset : NameSet.empty.union found = found := NameSet.ext_mem fun name => by simp
    simp [Except.map, hset]

theorem classify_eq_pattern {text : String} (h : Token.classify r token = .pattern text) :
    text = token ∧ '.' ∉ token.toList ∧ r.samlProvider ≠ some token := by
  unfold Token.classify at h
  split at h
  · cases h
  · split at h
    · cases h
    · split at h
      · cases h
      · rename_i hpoint hprovider
        cases h
        exact ⟨rfl, by simpa using hpoint, hprovider⟩

/-- The token is tried as a pattern, but it is none. -/
def IsInvalidPattern (r : Registry) (token : String) : Prop :=
  Token.classify r token = .pattern token ∧ Pattern.read? (patternText token) = none

def SelectsOnly (r : Registry) (token name : String) : Prop :=
  ∃ s, r.selectOne token = .ok s ∧ ∀ other, other ∈ s ↔ other = name

/-- The token selects these accounts by itself: two or more, in name order. -/
structure SelectsSeveral (r : Registry) (token : String) (names : List String) : Prop where
  several : 2 ≤ names.length
  ordered : names.Pairwise (· < ·)
  selected : ∃ s, r.selectOne token = .ok s ∧ ∀ name, name ∈ s ↔ name ∈ names

theorem SelectsOnly.toList_eq {name : String} {s : NameSet} (h : r.SelectsOnly token name)
    (hs : r.selectOne token = .ok s) : s.toList = [name] := by
  obtain ⟨s', hs', hmem⟩ := h
  obtain rfl : s = s' := Except.ok.inj (hs.symm.trans hs')
  exact (NameSet.eq_toList_of_mem (List.pairwise_singleton _ _) fun other => by simp [hmem]).symm

theorem SelectsSeveral.toList_eq {names : List String} {s : NameSet}
    (h : r.SelectsSeveral token names) (hs : r.selectOne token = .ok s) : s.toList = names := by
  obtain ⟨s', hs', hmem⟩ := h.selected
  obtain rfl : s = s' := Except.ok.inj (hs.symm.trans hs')
  exact (NameSet.eq_toList_of_mem h.ordered hmem).symm

/-- What a token stands for among trusts. Each case but the invalid pattern, which selects nothing
and is neither the provider nor a service, excludes those before it. -/
inductive Classified (r : Registry) (token : String) : Except Problem Trust → Prop where
  | account {name : String} : r.SelectsOnly token name → Classified r token (.ok (.account name))
  | saml : (∀ name, ¬ r.SelectsOnly token name) → r.samlProvider = some token →
      Classified r token (.ok (.saml token))
  | service : (∀ name, ¬ r.SelectsOnly token name) → r.samlProvider ≠ some token →
      Trust.HasServiceShape token → Classified r token (.ok (.service token))
  | ambiguous {names : List String} : r.samlProvider ≠ some token →
      ¬ Trust.HasServiceShape token → r.SelectsSeveral token names →
      Classified r token (.error (.ambiguousTrust token names))
  | invalid : r.IsInvalidPattern token → Classified r token
      (.error (.invalidPattern token "not a regular expression within the limits"))
  | unknown : (∀ name, ¬ r.SelectsOnly token name) → r.samlProvider ≠ some token →
      ¬ Trust.HasServiceShape token → (∀ names, ¬ r.SelectsSeveral token names) →
      ¬ r.IsInvalidPattern token → Classified r token (.error (.unknownTrust token))

/-- The accounts of a token, none where it is a pattern that matches none. -/
inductive Finds (r : Registry) (token : String) : List String → Prop where
  | selected {s : NameSet} : r.selectOne token = .ok s → Finds r token s.toList
  | nothing : r.selectOne token = .error (.unresolvedPattern token) → Finds r token []

theorem IsInvalidPattern.selectOne_eq (h : r.IsInvalidPattern token) : r.selectOne token =
    .error (.invalidPattern token "not a regular expression within the limits") := by
  rw [selectOne_eq_selectedBy, selectedBy, h.1]
  simp [matching, h.2]

theorem finds_or_invalid (r : Registry) (token : String) :
    (∃ names, r.Finds token names) ∨ r.IsInvalidPattern token := by
  cases hs : r.selectOne token with
  | ok s => exact Or.inl ⟨_, .selected hs⟩
  | error e =>
    have hproblem : r.tokenProblem? token = some e := by
      rw [← selectedBy_eq_error_iff, ← selectOne_eq_selectedBy, hs]
    unfold tokenProblem? at hproblem
    split at hproblem
    · rename_i text htext
      obtain ⟨rfl, -, -⟩ := classify_eq_pattern htext
      split at hproblem
      · rename_i hread
        exact Or.inr ⟨htext, hread⟩
      · split at hproblem
        · cases hproblem
        · cases hproblem
          exact Or.inl ⟨_, .nothing hs⟩
    · cases hproblem

theorem Finds.not_invalid {names : List String} (h : r.Finds token names) :
    ¬ r.IsInvalidPattern token := by
  intro hinvalid
  cases h with
  | selected hs => cases hs.symm.trans hinvalid.selectOne_eq
  | nothing hs => cases hs.symm.trans hinvalid.selectOne_eq

theorem Finds.selectsOnly_iff {names : List String} (h : r.Finds token names) {name : String} :
    r.SelectsOnly token name ↔ names = [name] := by
  cases h with
  | @selected s hs =>
    refine ⟨fun hname => hname.toList_eq hs, fun hlist => ⟨s, hs, fun other => ?_⟩⟩
    rw [← NameSet.mem_toList, hlist, List.mem_singleton]
  | nothing hs =>
    simp only [List.nil_eq, reduceCtorEq, iff_false]
    rintro ⟨s, hs', -⟩
    cases hs.symm.trans hs'

theorem Finds.selectsSeveral_iff {names others : List String} (h : r.Finds token names) :
    r.SelectsSeveral token others ↔ names = others ∧ 2 ≤ others.length := by
  cases h with
  | @selected s hs =>
    refine ⟨fun hothers => ⟨hothers.toList_eq hs, hothers.several⟩, ?_⟩
    rintro ⟨rfl, hlength⟩
    exact ⟨hlength, s.toList_ordered, s, hs, fun name => NameSet.mem_toList.symm⟩
  | nothing hs =>
    constructor
    · rintro ⟨-, -, s, hs', -⟩
      cases hs.symm.trans hs'
    · rintro ⟨rfl, hlength⟩
      simp at hlength

/-- A token is granted one account that it finds; otherwise its text decides, then the number of
accounts. -/
theorem Finds.trust_eq {names : List String} : r.Finds token names → r.trust token =
    match names with
    | [name] => .ok (.account name)
    | _ =>
      if r.samlProvider = some token then .ok (.saml token)
      else if Trust.isServicePrincipal token then .ok (.service token)
      else match names with
        | [] => .error (.unknownTrust token)
        | _ => .error (.ambiguousTrust token names) := by
  intro h
  cases h with
  | selected hs =>
    rw [trust, hs]
    rfl
  | nothing hs =>
    rw [trust, hs]
    rfl

theorem Finds.classified {names : List String} (h : r.Finds token names) :
    r.Classified token (r.trust token) := by
  rw [h.trust_eq]
  split
  · exact .account (h.selectsOnly_iff.mpr rfl)
  · rename_i hnames
    have hnone : ∀ name, ¬ r.SelectsOnly token name :=
      fun name hname => hnames name (h.selectsOnly_iff.mp hname)
    split
    · rename_i hprovider
      exact .saml hnone hprovider
    · rename_i hprovider
      split
      · rename_i hservice
        exact .service hnone hprovider (Trust.isServicePrincipal_iff.mp hservice)
      · rename_i hservice
        have hshape : ¬ Trust.HasServiceShape token := fun hs =>
          hservice (Trust.isServicePrincipal_iff.mpr hs)
        split
        · refine .unknown hnone hprovider hshape (fun names hnames => ?_) h.not_invalid
          obtain ⟨rfl, hlength⟩ := h.selectsSeveral_iff.mp hnames
          simp at hlength
        · rename_i hne
          refine .ambiguous hprovider hshape (h.selectsSeveral_iff.mpr ⟨rfl, ?_⟩)
          match names with
          | [] => exact absurd rfl hne
          | [name] => exact absurd rfl (hnames name)
          | _ :: _ :: _ => simp

theorem classified_trust (r : Registry) (token : String) : r.Classified token (r.trust token) := by
  rcases r.finds_or_invalid token with ⟨names, h⟩ | h
  · exact h.classified
  · have htrust : r.trust token =
        .error (.invalidPattern token "not a regular expression within the limits") := by
      rw [trust, h.selectOne_eq]
      rfl
    rw [htrust]
    exact .invalid h

theorem Classified.eq_of_invalid {result : Except Problem Trust}
    (hresult : r.Classified token result) (h : r.IsInvalidPattern token) : result =
      .error (.invalidPattern token "not a regular expression within the limits") := by
  -- A pattern has no point and is not the provider, so it is neither a service nor the provider.
  obtain ⟨-, hpoint, hprovider⟩ := classify_eq_pattern h.1
  cases hresult with
  | account hname =>
    obtain ⟨s, hs, -⟩ := hname
    cases hs.symm.trans h.selectOne_eq
  | saml _ hsaml => exact absurd hsaml hprovider
  | service _ _ hshape => exact absurd hshape.point_mem hpoint
  | ambiguous _ _ hseveral =>
    obtain ⟨s, hs, -⟩ := hseveral.selected
    cases hs.symm.trans h.selectOne_eq
  | invalid => rfl
  | unknown _ _ _ _ hinvalid => exact absurd h hinvalid

theorem Finds.trust_eq_of_classified {names : List String} {result : Except Problem Trust}
    (h : r.Finds token names) (hresult : r.Classified token result) : r.trust token = result := by
  rw [h.trust_eq]
  have not_single (hnone : ∀ name, ¬ r.SelectsOnly token name) (name : String) : names ≠ [name] :=
    fun hname => hnone name (h.selectsOnly_iff.mpr hname)
  cases hresult with
  | account hname => rw [h.selectsOnly_iff.mp hname]
  | saml hnone hsaml =>
    split
    · exact absurd rfl (not_single hnone _)
    · rw [if_pos hsaml]
  | service hnone hsaml hshape =>
    split
    · exact absurd rfl (not_single hnone _)
    · rw [if_neg hsaml, if_pos (Trust.isServicePrincipal_iff.mpr hshape)]
  | ambiguous hsaml hshape hseveral =>
    obtain ⟨rfl, hlength⟩ := h.selectsSeveral_iff.mp hseveral
    rw [← Trust.isServicePrincipal_iff] at hshape
    match names with
    | _ :: _ :: _ => simp only [if_neg hsaml, if_neg hshape]
  | invalid hinvalid => exact absurd hinvalid h.not_invalid
  | unknown hnone hsaml hshape hseveral _ =>
    rw [← Trust.isServicePrincipal_iff] at hshape
    match names with
    | [] => simp only [if_neg hsaml, if_neg hshape]
    | [name] => exact absurd rfl (not_single hnone name)
    | _ :: _ :: _ => exact absurd (h.selectsSeveral_iff.mpr ⟨rfl, by simp⟩) (hseveral _)

/-- Every token has exactly one outcome. -/
theorem trust_eq_iff {result : Except Problem Trust} :
    r.trust token = result ↔ r.Classified token result := by
  constructor
  · rintro rfl
    exact r.classified_trust token
  · intro hresult
    rcases r.finds_or_invalid token with ⟨names, h⟩ | h
    · exact h.trust_eq_of_classified hresult
    · rw [hresult.eq_of_invalid h, (r.classified_trust token).eq_of_invalid h]

/-- The statement of a trust: an account is trusted through its root, the provider as one of the
parent's, for sign-in to the console. -/
inductive Grants (r : Registry) : Trust → Statement → Prop where
  | account {name : String} {a : Account} : r.get? name = some a → Grants r (.account name)
      { effect := .allow, principal := some (.aws ("arn:aws:iam::" ++ a.id ++ ":root")),
        action := "sts:AssumeRole" }
  | saml (provider : String) : Grants r (.saml provider)
      { effect := .allow,
        principal := some
          (.federated ("arn:aws:iam::" ++ r.parent.id ++ ":saml-provider/" ++ provider)),
        action := "sts:AssumeRoleWithSAML",
        condition := some (.ofList [("StringEquals",
          .ofList [("SAML:aud", "https://signin.aws.amazon.com/saml")])]) }
  | service (principal : String) : Grants r (.service principal)
      { effect := .allow, principal := some (.service principal), action := "sts:AssumeRole" }

theorem trustStatement_eq_ok_iff {t : Trust} {s : Statement} :
    r.trustStatement t = .ok s ↔ r.Grants t s := by
  constructor
  · intro h
    cases t with
    | account name =>
      obtain ⟨a, ha, rfl⟩ := map_eq_ok_iff.mp h
      exact .account (account_eq_ok_iff.mp ha)
    | saml provider =>
      cases h
      exact .saml provider
    | service principal =>
      cases h
      exact .service principal
  · intro h
    cases h with
    | account ha => exact map_eq_ok_iff.mpr ⟨_, account_eq_ok_iff.mpr ha, rfl⟩
    | saml => rfl
    | service => rfl

def grant (r : Registry) (token : String) : Except Problem (Trust × Statement) := do
  let t ← r.trust token
  let s ← r.trustStatement t
  return (t, s)

theorem grant_eq_ok_iff {g : Trust × Statement} :
    r.grant token = .ok g ↔ r.trust token = .ok g.1 ∧ r.Grants g.1 g.2 := by
  rw [← trustStatement_eq_ok_iff]
  constructor
  · intro h
    obtain ⟨t, ht, h⟩ := bind_eq_ok_iff.mp h
    obtain ⟨s, hs, h⟩ := bind_eq_ok_iff.mp h
    cases h
    exact ⟨ht, hs⟩
  · rintro ⟨ht, hs⟩
    rw [grant, ht, ok_bind, hs]
    rfl

theorem Sound.exists_grants (hr : r.Sound) {t : Trust} (h : r.trust token = .ok t) :
    ∃ s, r.Grants t s := by
  cases trust_eq_iff.mp h with
  | account hname =>
    obtain ⟨s, hs, hmem⟩ := hname
    obtain ⟨a, ha⟩ := hr.knows_select hs _ ((hmem _).mpr rfl)
    exact ⟨_, .account ha⟩
  | saml => exact ⟨_, .saml token⟩
  | service => exact ⟨_, .service token⟩

theorem Sound.exists_grant_iff (hr : r.Sound) :
    (∃ g, r.grant token = .ok g) ↔ ∃ t, r.trust token = .ok t := by
  simp only [grant_eq_ok_iff, Prod.exists]
  constructor
  · rintro ⟨t, _, ht, _⟩
    exact ⟨t, ht⟩
  · rintro ⟨t, ht⟩
    obtain ⟨s, hs⟩ := hr.exists_grants ht
    exact ⟨t, s, ht, hs⟩

theorem Sound.grant_eq_error_iff (hr : r.Sound) {e : Problem} :
    r.grant token = .error e ↔ r.trust token = .error e := by
  refine ⟨fun h => ?_, fun h => by rw [grant, h]; rfl⟩
  rcases bind_eq_error_iff.mp h with ht | ⟨t, ht, -⟩
  · exact ht
  · obtain ⟨g, hg⟩ := hr.exists_grant_iff.mpr ⟨t, ht⟩
    cases h.symm.trans hg

end Registry

/-- What is granted to accounts and services, then what is granted through the provider. -/
def Trust.directFirst (granted : List Trust) : List Trust :=
  granted.filter (fun t => !t.isSaml) ++ granted.filter isSaml

theorem Trust.length_directFirst (granted : List Trust) :
    (directFirst granted).length = granted.length := by
  have hsplit := @List.length_eq_length_filter_add _ granted Trust.isSaml
  rw [directFirst, List.length_append]
  omega

namespace Registry

variable {r : Registry} {tokens : List String}

/-- The statements of a document go with the grants of its tokens, the direct ones first. -/
def Documents (r : Registry) (tokens : List String) (d : PolicyDocument) : Prop :=
  d.version = "2012-10-17" ∧ ∃ granted : List Trust,
    List.Forall₂ (fun token t => r.trust token = .ok t) tokens granted ∧
      List.Forall₂ r.Grants (Trust.directFirst granted) d.statements

theorem trustDocument_eq (r : Registry) (tokens : List String) : r.trustDocument tokens =
    (tokens.mapM r.grant).map fun granted =>
      { statements := (granted.filter (fun g => !g.1.isSaml) ++
          granted.filter fun g => g.1.isSaml).map Prod.snd } := rfl

theorem documents_of_trustDocument {d : PolicyDocument} (h : r.trustDocument tokens = .ok d) :
    r.Documents tokens d := by
  rw [trustDocument_eq] at h
  obtain ⟨granted, hgranted, rfl⟩ := map_eq_ok_iff.mp h
  have hall := forall₂_of_mapM_eq_ok hgranted
  refine ⟨rfl, granted.map Prod.fst, ?_, ?_⟩
  · rw [List.forall₂_map_right_iff]
    exact hall.imp fun _ _ hg => (grant_eq_ok_iff.mp hg).1
  · have hgrants : ∀ g ∈ granted, r.Grants g.1 g.2 := by
      intro g hg
      obtain ⟨token, _, htoken⟩ := exists_of_mem_mapM hgranted hg
      exact (grant_eq_ok_iff.mp htoken).2
    have hsplit : Trust.directFirst (granted.map Prod.fst) =
        (granted.filter (fun g => !g.1.isSaml) ++ granted.filter fun g => g.1.isSaml).map
          Prod.fst := by
      rw [Trust.directFirst, List.filter_map, List.filter_map, List.map_append]
      rfl
    rw [hsplit, List.forall₂_map_left_iff, List.forall₂_map_right_iff, List.forall₂_same]
    intro g hg
    rcases List.mem_append.mp hg with hg | hg
    · exact hgrants g (List.mem_filter.mp hg).1
    · exact hgrants g (List.mem_filter.mp hg).1

theorem Documents.unique {d d' : PolicyDocument} (h : r.Documents tokens d)
    (h' : r.Documents tokens d') : d = d' := by
  obtain ⟨hversion, granted, hgranted, hstatements⟩ := h
  obtain ⟨hversion', granted', hgranted', hstatements'⟩ := h'
  have trust_unique : Relator.RightUnique fun token t => r.trust token = .ok t :=
    fun _ _ _ ht ht' => Except.ok.inj (ht.symm.trans ht')
  have grants_unique : Relator.RightUnique r.Grants := by
    intro t s s' hs hs'
    rw [← trustStatement_eq_ok_iff] at hs hs'
    exact Except.ok.inj (hs.symm.trans hs')
  obtain rfl := trust_unique.forall₂ hgranted hgranted'
  have hsame := grants_unique.forall₂ hstatements hstatements'
  cases d
  cases d'
  simp_all

theorem Sound.trustDocument_eq_error_iff (hr : r.Sound) {e : Problem} :
    r.trustDocument tokens = .error e ↔ ∃ before token after, tokens = before ++ token :: after ∧
      (∀ t ∈ before, ∃ granted, r.trust t = .ok granted) ∧ r.trust token = .error e := by
  rw [trustDocument_eq, map_eq_error_iff, mapM_eq_error_iff]
  simp only [hr.exists_grant_iff, hr.grant_eq_error_iff]

theorem Sound.trustDocument_error (hr : r.Sound) {e : Problem}
    (h : r.trustDocument tokens = .error e) : ∃ token ∈ tokens, r.trust token = .error e := by
  obtain ⟨before, token, after, rfl, _, htoken⟩ := hr.trustDocument_eq_error_iff.mp h
  exact ⟨token, by simp, htoken⟩

theorem Sound.trustDocument_eq_ok_iff (hr : r.Sound) {d : PolicyDocument} :
    r.trustDocument tokens = .ok d ↔ r.Documents tokens d := by
  refine ⟨documents_of_trustDocument, fun h => ?_⟩
  cases hd : r.trustDocument tokens with
  | ok d' => rw [h.unique (documents_of_trustDocument hd)]
  | error e =>
    obtain ⟨token, htoken, hfail⟩ := hr.trustDocument_error hd
    obtain ⟨-, granted, hgranted, -⟩ := h
    obtain ⟨t, _, ht⟩ := exists_right_of_forall₂ hgranted htoken
    cases hfail.symm.trans ht

theorem Documents.length_eq {d : PolicyDocument} (h : r.Documents tokens d) :
    d.statements.length = tokens.length := by
  obtain ⟨-, granted, hgranted, hstatements⟩ := h
  rw [hgranted.length_eq, ← hstatements.length_eq, Trust.length_directFirst]

end Registry

/-- The document of a list of tokens fails with the first token that fails, and otherwise has one
statement for each, those of accounts and services before those of the provider and both in the
order of the tokens. What a token stands for is an account that it selects by itself, then the
provider, then a service, and else it fails. -/
theorem trustDocument_partitions {accounts : List Account} {r : Registry}
    (h : Registry.ofAccounts accounts = .ok r) (tokens : List String) :
    ((∃ e, r.trustDocument tokens = .error e) ↔ ∃ token ∈ tokens, ∃ e, r.trust token = .error e) ∧
    (∀ e, r.trustDocument tokens = .error e ↔ ∃ before token after,
      tokens = before ++ token :: after ∧
        (∀ t ∈ before, ∃ granted, r.trust t = .ok granted) ∧ r.trust token = .error e) ∧
    (∀ d, r.trustDocument tokens = .ok d ↔ r.Documents tokens d) ∧
    (∀ d, r.trustDocument tokens = .ok d → d.statements.length = tokens.length) ∧
    ∀ token result, r.trust token = result ↔ r.Classified token result := by
  have hr := Registry.sound_of_ofAccounts h
  refine ⟨⟨?_, ?_⟩, fun e => hr.trustDocument_eq_error_iff, fun d => hr.trustDocument_eq_ok_iff,
    fun d hd => (Registry.documents_of_trustDocument hd).length_eq,
    fun token result => Registry.trust_eq_iff⟩
  · rintro ⟨e, he⟩
    obtain ⟨token, htoken, hfail⟩ := hr.trustDocument_error he
    exact ⟨token, htoken, e, hfail⟩
  · rintro ⟨token, htoken, e, he⟩
    cases hd : r.trustDocument tokens with
    | error e' => exact ⟨e', rfl⟩
    | ok d =>
      obtain ⟨-, granted, hgranted, -⟩ := Registry.documents_of_trustDocument hd
      obtain ⟨t, _, ht⟩ := exists_right_of_forall₂ hgranted htoken
      cases he.symm.trans ht

theorem trustDocument_partitions_three :
    ∃ r, Registry.ofAccounts threeAccounts = .ok r ∧
      (∃ d, r.trustDocument ["idp", "prod", "ec2.amazonaws.com"] = .ok d ∧
        r.Documents ["idp", "prod", "ec2.amazonaws.com"] d) ∧
      r.Classified "children" (.error (.ambiguousTrust "children" ["dev", "prod"])) := by
  refine ⟨_, rfl, ⟨_, rfl, ?_⟩, ?_⟩
  · have h := @trustDocument_partitions threeAccounts _ rfl ["idp", "prod", "ec2.amazonaws.com"]
    exact (h.2.2.1 _).mp rfl
  · have h := @trustDocument_partitions threeAccounts _ rfl []
    exact (h.2.2.2.2 _ _).mp rfl

end OrgStacks
