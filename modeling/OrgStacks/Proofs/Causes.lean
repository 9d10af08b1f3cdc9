import OrgStacks.Proofs.PolicyDocument

/-!
# The causes of an error

An error is a tree whose leaves are single problems. A position in it is a list of indices, and the
problems of an error are its leaves in the order of their positions. So it does not matter to them
how errors are nested in lists.

As JSON an error is told by its kind and by what it carries. It is read from every spelling of this
value, with the members of an object in any order and others beside them, whatever the depth.
-/

namespace OrgStacks
set_option autoImplicit false

namespace CompileError

@[elab_as_elim]
theorem inductionOn {P : CompileError → Prop} (e : CompileError) (problem : ∀ p, P (.problem p))
    (invalid : ∀ es, (∀ e ∈ es, P e) → P (.invalid es)) : P e :=
  match e with
  | .problem p => problem p
  | .invalid es => invalid es fun e _ => inductionOn e problem invalid

def children : CompileError → List CompileError
  | problem _ => []
  | invalid errors => errors

def at? (e : CompileError) : List Nat → Option CompileError
  | [] => some e
  | i :: path => e.children[i]?.bind fun child => child.at? path

mutual

/-- Every single problem with its position, from left to right. -/
def leaves : CompileError → List (List Nat × Problem)
  | problem p => [([], p)]
  | invalid errors => leavesFrom 0 errors

def leavesFrom (n : Nat) : List CompileError → List (List Nat × Problem)
  | [] => []
  | e :: es => (leaves e).map (fun l => (n :: l.1, l.2)) ++ leavesFrom (n + 1) es

end

variable {e e' : CompileError} {es : List CompileError} {p : Problem} {path : List Nat}

theorem problemsOf_eq_flatMap (es : List CompileError) : problemsOf es = es.flatMap problems := by
  induction es with
  | nil => rfl
  | cons e es ih => rw [problemsOf, ih, List.flatMap_cons]

theorem problems_invalid (es : List CompileError) : (invalid es).problems = es.flatMap problems := by
  rw [problems, problemsOf_eq_flatMap]

theorem at?_cons_eq_some_iff {i : Nat} : e.at? (i :: path) = some e' ↔
    ∃ child, e.children[i]? = some child ∧ child.at? path = some e' :=
  Option.bind_eq_some_iff

/-- The first index of a leaf is that of the error it belongs to. -/
theorem mem_leavesFrom_iff {n : Nat} : (path, p) ∈ leavesFrom n es ↔
    ∃ i child rest, es[i]? = some child ∧ path = (n + i) :: rest ∧ (rest, p) ∈ child.leaves := by
  induction es generalizing n with
  | nil => simp [leavesFrom]
  | cons e es ih =>
    rw [leavesFrom, List.mem_append, ih]
    constructor
    · rintro (hfirst | ⟨i, child, rest, hchild, rfl, hrest⟩)
      · obtain ⟨⟨rest, q⟩, hrest, heq⟩ := List.mem_map.mp hfirst
        cases heq
        exact ⟨0, e, rest, rfl, rfl, hrest⟩
      · exact ⟨i + 1, child, rest, hchild, by rw [Nat.add_right_comm, Nat.add_assoc], hrest⟩
    · rintro ⟨i, child, rest, hchild, rfl, hrest⟩
      cases i with
      | zero =>
        cases hchild
        exact .inl (List.mem_map.mpr ⟨(rest, p), hrest, rfl⟩)
      | succ i =>
        exact .inr ⟨i, child, rest, hchild, by rw [Nat.add_right_comm, Nat.add_assoc], hrest⟩

/-- A leaf is a problem at its position. -/
theorem mem_leaves_iff : (path, p) ∈ e.leaves ↔ e.at? path = some (.problem p) := by
  induction e using inductionOn generalizing path with
  | problem q =>
    cases path with
    | nil => simp [leaves, at?, eq_comm]
    | cons i rest => simp [leaves, at?, children]
  | invalid es ih =>
    rw [leaves, mem_leavesFrom_iff]
    cases path with
    | nil => simp [at?]
    | cons i rest =>
      rw [at?_cons_eq_some_iff]
      constructor
      · rintro ⟨j, child, rest', hchild, heq, hrest⟩
        obtain ⟨rfl, rfl⟩ := List.cons.inj heq
        rw [Nat.zero_add]
        exact ⟨child, hchild, (ih child (List.mem_of_getElem? hchild)).mp hrest⟩
      · rintro ⟨child, hchild, hrest⟩
        have hleaf := (ih child (List.mem_of_getElem? hchild)).mpr hrest
        exact ⟨i, child, rest, hchild, by rw [Nat.zero_add], hleaf⟩

theorem pairwise_leavesFrom (h : ∀ e ∈ es, e.leaves.Pairwise fun l m => l.1 < m.1) (n : Nat) :
    (leavesFrom n es).Pairwise fun l m => l.1 < m.1 := by
  induction es generalizing n with
  | nil => exact .nil
  | cons e es ih =>
    obtain ⟨hfirst, hrest⟩ := List.forall_mem_cons.mp h
    rw [leavesFrom, List.pairwise_append, List.pairwise_map]
    refine ⟨hfirst.imp fun hlt => List.cons_lt_cons_iff.mpr (.inr ⟨rfl, hlt⟩), ih hrest (n + 1), ?_⟩
    -- The leaves of later errors have a greater first index.
    rintro l hl ⟨path, p⟩ hm
    obtain ⟨_, _, rfl⟩ := List.mem_map.mp hl
    obtain ⟨i, _, _, _, rfl, _⟩ := mem_leavesFrom_iff.mp hm
    exact List.cons_lt_cons_iff.mpr (.inl (by omega))

theorem pairwise_leaves (e : CompileError) : e.leaves.Pairwise fun l m => l.1 < m.1 := by
  induction e using inductionOn with
  | problem p => exact List.pairwise_singleton _ _
  | invalid es ih => exact pairwise_leavesFrom ih 0

theorem map_snd_leavesFrom (h : ∀ e ∈ es, e.leaves.map Prod.snd = e.problems) (n : Nat) :
    (leavesFrom n es).map Prod.snd = problemsOf es := by
  induction es generalizing n with
  | nil => rfl
  | cons e es ih =>
    obtain ⟨hfirst, hrest⟩ := List.forall_mem_cons.mp h
    rw [leavesFrom, problemsOf, List.map_append, ih hrest, ← hfirst, List.map_map]
    rfl

theorem map_snd_leaves (e : CompileError) : e.leaves.map Prod.snd = e.problems := by
  induction e using inductionOn with
  | problem p => rfl
  | invalid es ih => exact map_snd_leavesFrom ih 0

/-- The second error is the first with some neighbours of one list in a list of their own. -/
inductive Wraps : CompileError → CompileError → Prop
  | here (before inner after : List CompileError) :
      Wraps (invalid (before ++ inner ++ after)) (invalid (before ++ invalid inner :: after))
  | inside (before after : List CompileError) {e e' : CompileError} (h : Wraps e e') :
      Wraps (invalid (before ++ e :: after)) (invalid (before ++ e' :: after))

theorem problems_append (es fs : List CompileError) :
    (invalid (es ++ fs)).problems = (invalid es).problems ++ (invalid fs).problems := by
  simp only [problems_invalid, List.flatMap_append]

theorem problems_invalid_cons (e : CompileError) (es : List CompileError) :
    (invalid (e :: es)).problems = e.problems ++ (invalid es).problems := by
  simp only [problems_invalid, List.flatMap_cons]

theorem Wraps.problems_eq (h : e.Wraps e') : e'.problems = e.problems := by
  induction h with
  | here before inner after => simp only [problems_append, problems_invalid_cons, List.append_assoc]
  | inside before after _ ih => simp only [problems_append, problems_invalid_cons, ih]

end CompileError

namespace Json

/-- The second value is the first, as an object with its members in any order and others beside
them. -/
inductive Respells : Json → Json → Prop
  | refl (v : Json) : Respells v v
  | obj {members unknown members' : List (String × Json)}
      (hunknown : ∀ m ∈ unknown, m.1 ∉ members.map Prod.fst)
      (hmembers : (members ++ unknown).Perm members') : Respells (.obj members) (.obj members')

theorem Respells.exists_members {members : List (String × Json)} {v : Json}
    (h : Respells (.obj members) v) (hnames : (members.map Prod.fst).Nodup) :
    ∃ members', v = .obj members' ∧
      ∀ name w, (name, w) ∈ members → valueOf? name members' = some w := by
  have lookup {unknown members' : List (String × Json)}
      (hunknown : ∀ m ∈ unknown, m.1 ∉ members.map Prod.fst)
      (hmembers : (members ++ unknown).Perm members') {name : String} {w : Json}
      (hw : (name, w) ∈ members) : valueOf? name members' = some w := by
    apply valueOf?_eq_of_mem_iff
    intro x
    have hnot : (name, x) ∉ unknown := fun hx =>
      hunknown _ hx (List.mem_map.mpr ⟨_, hw, rfl⟩)
    rw [← hmembers.mem_iff, List.mem_append, or_iff_left hnot, Option.some.injEq]
    constructor
    · intro hx
      exact congrArg Prod.snd (List.inj_on_of_nodup_map hnames hw hx rfl)
    · rintro rfl
      exact hw
  cases h with
  | refl =>
    refine ⟨members, rfl, fun name w hw => lookup (List.forall_mem_nil _) ?_ hw⟩
    rw [List.append_nil]
  | obj hunknown hmembers => exact ⟨_, rfl, fun name w hw => lookup hunknown hmembers hw⟩

theorem Respells.fields?_eq {names : List String} {values : List Json} {v : Json}
    (hnames : names.Nodup) (hlength : names.length = values.length)
    (h : Respells (.obj (names.zip values)) v) : v.fields? names = some values := by
  have hzip : (names.zip values).map Prod.fst = names := List.map_fst_zip (Nat.le_of_eq hlength)
  obtain ⟨members, rfl, hfound⟩ := h.exists_members (hzip.symm ▸ hnames)
  rw [fields?]
  apply mapM_eq_some_of_forall₂
  exact List.forall₂_iff_zip.mpr ⟨hlength, fun {name w} hw => hfound name w hw⟩

theorem mapM_string?_str (texts : List String) : (texts.map str).mapM string? = some texts := by
  apply mapM_eq_some_of_forall₂
  rw [List.forall₂_map_left_iff]
  exact List.forall₂_same.mpr fun _ _ => rfl

theorem strings?_ofStrings (texts : List String) : (ofStrings texts).strings? = some texts :=
  mapM_string?_str texts

theorem Respells.stringFields?_eq {names texts : List String} {v : Json} (hnames : names.Nodup)
    (hlength : names.length = texts.length)
    (h : Respells (.obj (names.zip (texts.map .str))) v) : v.stringFields? names = some texts := by
  have hfields := h.fields?_eq hnames (by rw [List.length_map, hlength])
  rw [stringFields?, hfields]
  exact mapM_string?_str texts

theorem sorted_ofStrings (texts : List String) : (ofStrings texts).sorted = ofStrings texts := by
  rw [ofStrings, sorted, sortedItems_eq_map, List.map_map]
  rfl

theorem respells_sorted {members : List (String × Json)} (hnames : (members.map Prod.fst).Nodup)
    (hvalues : ∀ m ∈ members, m.2.sorted = m.2) :
    Respells (.obj members) (Json.obj members).sorted := by
  have hsame : members.map (fun m => (m.1, m.2.sorted)) = members := by
    conv_rhs => rw [← List.map_id members]
    exact List.map_congr_left fun m hm => Prod.ext rfl (hvalues m hm)
  rw [sorted, sortedMembers_eq_map, hsame]
  refine .obj (List.forall_mem_nil _) ?_
  rw [List.append_nil]
  exact (NameMap.entries_ofList_perm hnames).symm

end Json

namespace Problem
variable {v : Json}

theorem pair?_eq_some {make : String → String → Problem} {a b x y : String} (hnames : [a, b].Nodup)
    (h : Json.Respells (.obj [(a, .str x), (b, .str y)]) v) : pair? make a b v = some (make x y) := by
  have hfields : v.stringFields? [a, b] = some [x, y] := Json.Respells.stringFields?_eq hnames rfl h
  rw [pair?, hfields]

theorem triple?_eq_some {make : String → String → String → Problem} {a b c x y z : String}
    (hnames : [a, b, c].Nodup)
    (h : Json.Respells (.obj [(a, .str x), (b, .str y), (c, .str z)]) v) :
    triple? make a b c v = some (make x y z) := by
  have hfields : v.stringFields? [a, b, c] = some [x, y, z] :=
    Json.Respells.stringFields?_eq hnames rfl h
  rw [triple?, hfields]

theorem ofPayload?_eq_some {p : Problem} (h : Json.Respells p.payload v) :
    ofPayload? p.kind v = some p := by
  cases p with
  | missingParent =>
    cases h
    rfl
  | multipleParents names =>
    cases h
    exact congrArg (Option.map multipleParents) (Json.strings?_ofStrings names)
  | duplicateName | unknownAccount | unresolvedPattern | invalidBody | unknownTrust
  | emptyInlineGroup | parse | undefinedSecret | undefinedVariable | io | serialize =>
    cases h
    rfl
  | invalidId | invalidPattern | undeclaredPolicy | inlineReference | duplicateResource
  | policyFileRead | policyFileRender | policyFileJson => exact pair?_eq_some (by decide) h
  | duplicateId | policyNotInAccount | bucketNotInAccount =>
    exact triple?_eq_some (by decide) h
  | ambiguousTrust token accounts =>
    have hfields : v.fields? ["token", "accounts"] = some [.str token, .ofStrings accounts] :=
      Json.Respells.fields?_eq (by decide) rfl h
    have hread : (Json.ofStrings accounts).strings?.map (ambiguousTrust token) =
        some (ambiguousTrust token accounts) := by rw [Json.strings?_ofStrings, Option.map_some]
    -- Its equations would tell every kind from all before it; here the kind is known.
    delta ofPayload?
    simp only [kind, hfields]
    exact hread

theorem payload_respells_sorted (p : Problem) : Json.Respells p.payload p.payload.sorted := by
  cases p with
  | missingParent => exact .refl _
  | multipleParents names =>
    rw [payload, Json.sorted_ofStrings]
    exact .refl _
  | duplicateName | unknownAccount | unresolvedPattern | invalidBody | unknownTrust
  | emptyInlineGroup | parse | undefinedSecret | undefinedVariable | io | serialize =>
    exact .refl _
  | _ =>
    apply Json.respells_sorted
    · simp
    · simp [Json.sorted, Json.sorted_ofStrings]

/-- No problem has the kind of a list. -/
theorem kind_ne_invalid (p : Problem) : p.kind ≠ "Invalid" := by
  cases p <;> simp [kind]

end Problem

namespace CompileError

/-- A problem by its kind and what it carries, or by its kind alone, and a list by its errors. -/
inductive Spells : CompileError → Json → Prop
  | alone : Spells (.problem .missingParent) (.str "MissingParentAccount")
  | problem {p : Problem} {v : Json} (h : Json.Respells p.payload v) :
      Spells (.problem p) (.obj [(p.kind, v)])
  | invalid {es : List CompileError} {items : List Json} (hitems : List.Forall₂ Spells es items) :
      Spells (.invalid es) (.obj [("Invalid", .arr items)])

variable {e : CompileError} {es : List CompileError} {v : Json} {items : List Json}

theorem ofJson?_problem {kind : String} (h : kind ≠ "Invalid") (v : Json) :
    ofJson? (.obj [(kind, v)]) = (Problem.ofPayload? kind v).map .problem := by
  unfold ofJson?
  split
  · next heq => cases heq
  · next heq =>
    simp only [Json.obj.injEq, List.cons.injEq, Prod.mk.injEq] at heq
    exact absurd heq.1.1 h
  · next heq =>
    cases heq
    rfl
  · next hnot => exact absurd rfl (hnot kind v)

theorem listOfJson?_eq_some
    (h : List.Forall₂ (fun e v => ofJson? v = some e) es items) : listOfJson? items = some es := by
  induction h with
  | nil => rfl
  | cons hfirst _ ih => rw [listOfJson?, hfirst, ih]

/-- Every spelling is read as the error. -/
theorem ofJson?_eq_some (h : e.Spells v) : ofJson? v = some e := by
  induction e using inductionOn generalizing v with
  | problem p =>
    cases h with
    | alone => rfl
    | problem hpayload =>
      rw [ofJson?_problem p.kind_ne_invalid, Problem.ofPayload?_eq_some hpayload]
      rfl
  | invalid es ih =>
    cases h with
    | @invalid _ items hitems =>
      have hread : listOfJson? items = some es := by
        refine listOfJson?_eq_some ((forall₂_mem hitems).imp ?_)
        rintro e item ⟨he, hitem⟩
        exact ih e he hitem
      rw [ofJson?, hread]
      rfl

theorem listToJson_eq_map (es : List CompileError) : listToJson es = es.map toJson := by
  induction es with
  | nil => rfl
  | cons e es ih => rw [listToJson, ih, List.map_cons]

theorem spells_toJson (e : CompileError) : e.Spells e.toJson := by
  induction e using inductionOn with
  | problem p =>
    cases p with
    | missingParent => exact .alone
    | _ => exact .problem (.refl _)
  | invalid es ih =>
    rw [toJson, listToJson_eq_map]
    refine .invalid ?_
    rw [List.forall₂_map_right_iff]
    exact List.forall₂_same.mpr ih

theorem spells_sorted (e : CompileError) : e.Spells e.toJson.sorted := by
  induction e using inductionOn with
  | problem p =>
    cases p with
    | missingParent => exact .alone
    | _ => exact .problem (Problem.payload_respells_sorted _)
  | invalid es ih =>
    have hsorted : (invalid es).toJson.sorted =
        .obj [("Invalid", .arr (es.map fun e => e.toJson.sorted))] := by
      rw [toJson, listToJson_eq_map, Json.sorted, Json.sortedMembers, Json.sorted,
        Json.sortedItems_eq_map, List.map_map]
      rfl
    rw [hsorted]
    refine .invalid ?_
    rw [List.forall₂_map_right_iff]
    exact List.forall₂_same.mpr ih

/-- An error is read from what is written for it, with members in declaration order or in name
order, and from every other spelling, and its problems are the same then. They are its leaves from
left to right, none of them a list; the problems of lists put together are put together; and it
changes nothing to put neighbours into a list of their own, at any depth. -/
theorem read_and_flattened (e : CompileError) :
    (ofJson? e.toJson = some e ∧ ofJson? e.toJson.sorted = some e ∧
      ∀ v, e.Spells v → ofJson? v = some e ∧ (ofJson? v).map problems = some e.problems) ∧
    (e.problems = e.leaves.map Prod.snd ∧ (e.leaves.Pairwise fun l m => l.1 < m.1) ∧
      (∀ path p, (path, p) ∈ e.leaves ↔ e.at? path = some (.problem p)) ∧
      ∀ p ∈ e.problems, p.kind ≠ "Invalid") ∧
    (∀ xs ys, (invalid (xs ++ ys)).problems = (invalid xs).problems ++ (invalid ys).problems) ∧
    ∀ e', e.Wraps e' → e'.problems = e.problems := by
  refine ⟨⟨ofJson?_eq_some e.spells_toJson, ofJson?_eq_some e.spells_sorted, fun v hv => ?_⟩,
    ⟨e.map_snd_leaves.symm, e.pairwise_leaves, fun path p => mem_leaves_iff,
      fun p _ => p.kind_ne_invalid⟩,
    problems_append, fun e' h => h.problems_eq⟩
  have hread := ofJson?_eq_some hv
  exact ⟨hread, by rw [hread]; rfl⟩

/-- Two problems in a list beside another, and an empty list. -/
def reported : CompileError :=
  .invalid [.problem .missingParent,
    .invalid [.problem (.policyNotInAccount "P" "dev" "R"), .invalid [],
      .problem (.ambiguousTrust "d" ["data", "dev"])]]

/-- The members the other way round, and one that is not known. -/
def reportedRespelled : Json :=
  .obj [("Invalid", .arr [.str "MissingParentAccount",
    .obj [("Invalid", .arr [
      .obj [("PolicyNotInAccount", .obj [("hint", .null), ("entity", .str "R"),
        ("account", .str "dev"), ("policy", .str "P")])],
      .obj [("Invalid", .arr [])],
      .obj [("AmbiguousTrust", .obj [("accounts", .arr [.str "data", .str "dev"]),
        ("token", .str "d")])]])]])]

theorem spells_reported : reported.Spells reportedRespelled := by
  have hunknown : ∀ m ∈ [("hint", Json.null)],
      m.1 ∉ [("policy", Json.str "P"), ("account", .str "dev"), ("entity", .str "R")].map Prod.fst := by
    decide
  refine .invalid (.cons .alone (.cons (.invalid ?inner) .nil))
  refine .cons (.problem (.obj hunknown (List.reverse_perm _).symm)) (.cons (.invalid .nil) ?_)
  exact .cons (.problem (.obj (List.forall_mem_nil _) (.swap _ _ _))) .nil

theorem reported_read_and_flattened : reported.Spells reportedRespelled ∧
    ofJson? reportedRespelled = some reported ∧
    reported.Wraps (.invalid [.invalid [.problem .missingParent],
      .invalid [.problem (.policyNotInAccount "P" "dev" "R"), .invalid [],
        .problem (.ambiguousTrust "d" ["data", "dev"])]]) ∧
    reported.problems =
      [.missingParent, .policyNotInAccount "P" "dev" "R", .ambiguousTrust "d" ["data", "dev"]] := by
  have hall := read_and_flattened reported
  have hwraps : reported.Wraps _ := .here [] [.problem .missingParent] _
  exact ⟨spells_reported, (hall.1.2.2 _ spells_reported).1, hwraps,
    (hall.2.2.2 _ hwraps).symm.trans rfl⟩

end CompileError

end OrgStacks
