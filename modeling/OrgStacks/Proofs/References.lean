import OrgStacks.Proofs.Compilation

/-!
# References to managed policies

What a reference comes to is decided by its text and by the one policy of that name:
`Placements.Answers` says how, `Placements.resolve_eq_iff` that every reference has exactly this
answer. No other policy counts, not even one whose own accounts cannot be found. A list has an answer
when each of its references has one. The placements are complete when every policy has a place, and
completing them changes no answer.
-/

namespace OrgStacks
set_option autoImplicit false

theorem Text.stripPrefix?_eq_some_iff {lead text rest : String} :
    stripPrefix? lead text = some rest ↔ text = lead ++ rest := by
  unfold stripPrefix?
  rw [Option.map_eq_some_iff]
  constructor
  · rintro ⟨cs, hcs, rfl⟩
    rw [← String.toList_inj, String.toList_append, String.toList_ofList]
    exact dropPrefix?_eq_some_iff.mp hcs
  · rintro rfl
    exact ⟨rest.toList, dropPrefix?_eq_some_iff.mpr String.toList_append, String.ofList_toList⟩

theorem Text.startsWith_iff {lead text : String} :
    startsWith lead text = true ↔ ∃ rest, text = lead ++ rest := by
  simp only [startsWith, Option.isSome_iff_exists, stripPrefix?_eq_some_iff]

namespace Placements

/-- A reference that is the name of a policy: neither an ARN nor an import. -/
structure IsPolicyName (reference : String) : Prop where
  not_arn : ∀ rest, reference ≠ "arn:aws" ++ rest
  not_import : ∀ key, reference ≠ "import:" ++ key

/-- What a reference of `entity`, which lives in `account`, comes to among these policies. -/
inductive Answers (r : Registry) (policies : NameMap PolicyConfig) (account entity : String) :
    String → Except Problem ManagedPolicy → Prop where
  | literal {reference rest : String} : reference = "arn:aws" ++ rest →
      Answers r policies account entity reference (.ok (.literal reference))
  | imported {reference key : String} : reference = "import:" ++ key →
      Answers r policies account entity reference (.ok (.imported key))
  | undeclared {reference : String} : IsPolicyName reference → policies.get? reference = none →
      Answers r policies account entity reference (.error (.undeclaredPolicy reference entity))
  | unplaced {reference : String} {p : PolicyConfig} {e : Problem} : IsPolicyName reference →
      policies.get? reference = some p → r.select (Entity.context p) = .error e →
      Answers r policies account entity reference (.error e)
  | inline {reference : String} {p : PolicyConfig} {accounts : NameSet} : IsPolicyName reference →
      policies.get? reference = some p → r.select (Entity.context p) = .ok accounts →
      p.inline = true →
      Answers r policies account entity reference (.error (.inlineReference reference entity))
  | elsewhere {reference : String} {p : PolicyConfig} {accounts : NameSet} :
      IsPolicyName reference → policies.get? reference = some p →
      r.select (Entity.context p) = .ok accounts → p.inline = false → account ∉ accounts →
      Answers r policies account entity reference
        (.error (.policyNotInAccount reference account entity))
  | placed {reference : String} {p : PolicyConfig} {accounts : NameSet} : IsPolicyName reference →
      policies.get? reference = some p → r.select (Entity.context p) = .ok accounts →
      p.inline = false → account ∈ accounts →
      Answers r policies account entity reference (.ok (.localRef reference))

section Answers
variable {r : Registry} {policies policies' : NameMap PolicyConfig}
  {reference account entity : String}

theorem resolve_arn {ps : Placements} (h : Text.startsWith "arn:aws" reference = true) :
    ps.resolve reference account entity = .ok (.literal reference) := by
  rw [resolve, if_pos h]

/-- No text begins in both ways, so it does not matter which is looked for first. -/
theorem not_arn_of_import (key : String) : ¬ Text.startsWith "arn:aws" ("import:" ++ key) = true := by
  rw [Text.startsWith_iff]
  rintro ⟨rest, h⟩
  have hlists := congrArg String.toList h
  simp at hlists

theorem resolve_import {ps : Placements} (key : String) :
    ps.resolve ("import:" ++ key) account entity = .ok (.imported key) := by
  have hkey : Text.stripPrefix? importLead ("import:" ++ key) = some key :=
    Text.stripPrefix?_eq_some_iff.mpr rfl
  rw [resolve, if_neg (not_arn_of_import key), hkey]

theorem resolve_name {ps : Placements} (h : IsPolicyName reference) :
    ps.resolve reference account entity =
      match ps.get? reference with
      | none => .error (.undeclaredPolicy reference entity)
      | some (.error e) => .error e
      | some (.ok placement) =>
        if placement.inline then .error (.inlineReference reference entity)
        else if account ∈ placement.accounts then .ok (.localRef reference)
        else .error (.policyNotInAccount reference account entity) := by
  have harn : ¬ Text.startsWith "arn:aws" reference = true := by
    rw [Text.startsWith_iff]
    rintro ⟨rest, hrest⟩
    exact h.not_arn rest hrest
  have himport : Text.stripPrefix? importLead reference = none := by
    rw [Option.eq_none_iff_forall_ne_some]
    intro key hkey
    exact h.not_import key (Text.stripPrefix?_eq_some_iff.mp hkey)
  rewrite [resolve, if_neg harn, himport]
  rfl

/-- The answer follows from the text of the reference and from its own policy. -/
theorem Answers.resolve_eq {result : Except Problem ManagedPolicy}
    (h : Answers r policies account entity reference result) :
    (ofPolicies r policies).resolve reference account entity = result := by
  cases h with
  | literal harn => exact resolve_arn (Text.startsWith_iff.mpr ⟨_, harn⟩)
  | imported himport =>
    subst himport
    exact resolve_import _
  | undeclared hname hp =>
    rw [resolve_name hname, get?_ofPolicies, hp]
    rfl
  | unplaced hname hp hselect =>
    rw [resolve_name hname, get?_ofPolicies, hp, Option.map_some, hselect]
    rfl
  | inline hname hp hselect hinline =>
    rw [resolve_name hname, get?_ofPolicies, hp, Option.map_some, hselect]
    exact if_pos hinline
  | elsewhere hname hp hselect hinline haccount =>
    rw [resolve_name hname, get?_ofPolicies, hp, Option.map_some, hselect]
    simp only [Except.map, hinline, Bool.false_eq_true, if_false, if_neg haccount]
  | placed hname hp hselect hinline haccount =>
    rw [resolve_name hname, get?_ofPolicies, hp, Option.map_some, hselect]
    simp only [Except.map, hinline, Bool.false_eq_true, if_false, if_pos haccount]

theorem exists_answers (r : Registry) (policies : NameMap PolicyConfig)
    (account entity reference : String) : ∃ result, Answers r policies account entity reference result := by
  by_cases harn : ∃ rest, reference = "arn:aws" ++ rest
  · obtain ⟨rest, hrest⟩ := harn
    exact ⟨_, .literal hrest⟩
  by_cases himport : ∃ key, reference = "import:" ++ key
  · obtain ⟨key, hkey⟩ := himport
    exact ⟨_, .imported hkey⟩
  have hname : IsPolicyName reference :=
    ⟨fun rest hrest => harn ⟨rest, hrest⟩, fun key hkey => himport ⟨key, hkey⟩⟩
  cases hp : policies.get? reference with
  | none => exact ⟨_, .undeclared hname hp⟩
  | some p =>
    cases hselect : r.select (Entity.context p) with
    | error e => exact ⟨_, .unplaced hname hp hselect⟩
    | ok accounts =>
      cases hinline : p.inline with
      | true => exact ⟨_, .inline hname hp hselect hinline⟩
      | false =>
        by_cases haccount : account ∈ accounts
        · exact ⟨_, .placed hname hp hselect hinline haccount⟩
        · exact ⟨_, .elsewhere hname hp hselect hinline haccount⟩

/-- Every reference has one answer, and it is the resolved one. -/
theorem resolve_eq_iff {result : Except Problem ManagedPolicy} :
    (ofPolicies r policies).resolve reference account entity = result ↔
      Answers r policies account entity reference result := by
  constructor
  · rintro rfl
    obtain ⟨result, hresult⟩ := exists_answers r policies account entity reference
    rw [hresult.resolve_eq]
    exact hresult
  · exact Answers.resolve_eq

theorem resolve_congr (h : policies'.get? reference = policies.get? reference) :
    (ofPolicies r policies').resolve reference account entity =
      (ofPolicies r policies).resolve reference account entity := by
  unfold resolve
  rw [get?_ofPolicies, get?_ofPolicies, h]

end Answers

theorem problems_ofPolicies (r : Registry) (policies : NameMap PolicyConfig) :
    (ofPolicies r policies).problems =
      policies.entries.filterMap fun x => failure? (r.select (Entity.context x.2)) := by
  unfold problems NameMap.values ofPolicies NameMap.map
  rw [List.map_map, List.filterMap_map]
  congr 1
  funext x
  simp only [Function.comp_apply]
  cases r.select (Entity.context x.2) <;> rfl

theorem complete_eq_ok_iff {ps ps' : Placements} :
    ps.complete = .ok ps' ↔ ps.problems = [] ∧ ps' = ps := by
  unfold complete
  cases ps.problems with
  | nil => simp [eq_comm]
  | cons e es => simp

theorem complete_eq_error_iff {ps : Placements} {e : Problem} :
    ps.complete = .error e ↔ ps.problems.head? = some e := by
  unfold complete
  cases ps.problems with
  | nil => simp
  | cons e' es => simp

/-- The problem of the first policy, in name order, that has no place. -/
theorem complete_ofPolicies_eq_error_iff {r : Registry} {policies : NameMap PolicyConfig}
    {e : Problem} : (ofPolicies r policies).complete = .error e ↔
      ∃ before name p after, policies.entries = before ++ (name, p) :: after ∧
        (∀ x ∈ before, ∃ accounts, r.select (Entity.context x.2) = .ok accounts) ∧
        r.select (Entity.context p) = .error e := by
  rw [complete_eq_error_iff, problems_ofPolicies, List.head?_filterMap,
    List.findSome?_eq_some_iff]
  simp only [failure?_eq_some_iff, failure?_eq_none_iff, Prod.exists]
  constructor
  · rintro ⟨before, name, p, after, heq, hp, hbefore⟩
    exact ⟨before, name, p, after, heq, hbefore, hp⟩
  · rintro ⟨before, name, p, after, heq, hbefore, hp⟩
    exact ⟨before, name, p, after, heq, hp, hbefore⟩

end Placements

open Placements (ofPolicies Answers)

/-- A reference is answered by its text and by its own policy alone: the answer is the first that
applies of seven, and it stays when any other policy comes, goes or changes. A list is answered when
each of its references is, in their order, and fails with the first that fails. Every policy without
a place is reported in name order; with none to report the placements are complete as they are, and
otherwise completing them fails with the first. -/
theorem references_answered_by_own_policy (r : Registry) (policies : NameMap PolicyConfig)
    (account entity : String) :
    (∀ reference result, (ofPolicies r policies).resolve reference account entity = result ↔
      Answers r policies account entity reference result) ∧
    (∀ policies' reference, policies'.get? reference = policies.get? reference →
      (ofPolicies r policies').resolve reference account entity =
        (ofPolicies r policies).resolve reference account entity) ∧
    (∀ references resolved,
      (ofPolicies r policies).resolveAll references account entity = .ok resolved ↔
        List.Forall₂ (fun reference m => Answers r policies account entity reference (.ok m))
          references resolved) ∧
    (∀ references e,
      (ofPolicies r policies).resolveAll references account entity = .error e ↔
        ∃ before reference after, references = before ++ reference :: after ∧
          (∀ x ∈ before, ∃ m, Answers r policies account entity x (.ok m)) ∧
          Answers r policies account entity reference (.error e)) ∧
    (ofPolicies r policies).problems =
      policies.entries.filterMap (fun x => failure? (r.select (Entity.context x.2))) ∧
    (∀ ps, (ofPolicies r policies).complete = .ok ps ↔
      (ofPolicies r policies).problems = [] ∧ ps = ofPolicies r policies) ∧
    ∀ e, (ofPolicies r policies).complete = .error e ↔
      ∃ before name p after, policies.entries = before ++ (name, p) :: after ∧
        (∀ x ∈ before, ∃ accounts, r.select (Entity.context x.2) = .ok accounts) ∧
        r.select (Entity.context p) = .error e := by
  refine ⟨?_, ?_, ?_, ?_, ?_, ?_, ?_⟩
  · intro reference result
    exact Placements.resolve_eq_iff
  · intro policies' reference h
    exact Placements.resolve_congr h
  · intro references resolved
    simp only [Placements.resolveAll, mapM_eq_ok_iff, Placements.resolve_eq_iff]
  · intro references e
    simp only [Placements.resolveAll, mapM_eq_error_iff, Placements.resolve_eq_iff]
  · exact Placements.problems_ofPolicies r policies
  · intro ps
    exact Placements.complete_eq_ok_iff
  · intro e
    exact Placements.complete_ofPolicies_eq_error_iff

end OrgStacks
