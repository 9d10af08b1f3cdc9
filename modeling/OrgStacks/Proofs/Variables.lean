import OrgStacks.Proofs.Fitting

/-!
# The variables of policy files are free

A member may be added to the variables of a policy file, at any depth, in a document and in a file
that is included where it stands. With what is known of misspelt members,
`only_variables_are_free` says which members can be added to a document that is accepted.
-/

namespace OrgStacks
set_option autoImplicit false

namespace Config

/-- A member with a text for a key is added, at any depth. -/
inductive Grows (added : Yaml) : Yaml → Yaml → Prop
  | member {left right : List (Yaml × Yaml)} {key : Yaml} {name : String}
    (hkey : untag key = .str name) :
    Grows added (.map (left ++ right)) (.map (left ++ (key, added) :: right))
  | inMember {left right : List (Yaml × Yaml)} {key x x' : Yaml} (h : Grows added x x') :
    Grows added (.map (left ++ (key, x) :: right)) (.map (left ++ (key, x') :: right))
  | inItem {left right : List Yaml} {x x' : Yaml} (h : Grows added x x') :
    Grows added (.seq (left ++ x :: right)) (.seq (left ++ x' :: right))

/-- Variables of a policy file have a member more. -/
inductive Freed (added : Yaml) : Shape → Yaml → Yaml → Prop
  | vars {x x' : Yaml} (h : Grows added x x') : Freed added .vars x x'

theorem Grows.kept {added x x' : Yaml} (h : Grows added x x') (hadded : Shape.vars.Reads added) :
    Shape.vars.Kept x x' := by
  induction h with
  | @member left right key name hkey =>
    refine ⟨fun ⟨hreads, _⟩ => ⟨?_, trivial⟩, nofun, nofun⟩
    rw [Shape.reads_vars_map_iff] at hreads ⊢
    intro pair hpair
    rw [List.mem_append, List.mem_cons] at hpair
    rcases hpair with hpair | rfl | hpair
    · exact hreads pair (List.mem_append_left right hpair)
    · exact ⟨name, hkey, hadded⟩
    · exact hreads pair (List.mem_append_right left hpair)
  | inMember _ ih =>
    exact .of_pairs (.inr rfl) (forall₂_replace (fun p => ⟨rfl, .refl _ _⟩) ⟨rfl, ih⟩)
  | inItem _ ih => exact .of_items (.inr rfl) (forall₂_replace (fun x => .refl _ x) ih)

end Config

open Config (Shape RecordKind Edits Spoilt Grows Freed)

namespace Substitution

section Free
variable {s : Substitution} {added y v v' w : Yaml}

/-- One value of a mapping is replaced without regard to the others. -/
theorem exists_of_apply_middle {left right : List (Yaml × Yaml)} {key x : Yaml}
    (hw : s.apply (.map (left ++ (key, x) :: right)) = .ok w) :
    ∃ left' y right', w = .map (left' ++ (key, y) :: right') ∧ s.apply x = .ok y ∧
      ∀ x' y', s.apply x' = .ok y' → s.apply (.map (left ++ (key, x') :: right)) =
        .ok (.map (left' ++ (key, y') :: right')) := by
  obtain ⟨_, rfl, hpairs⟩ := apply_map_eq_ok_iff.mp hw
  obtain ⟨left', ⟨key', y⟩, right', hleft, ⟨rfl, hx⟩, hright, rfl⟩ :=
    exists_of_forall₂_middle hpairs
  refine ⟨left', y, right', rfl, hx, fun x' y' hx' => ?_⟩
  exact apply_map_eq_ok_iff.mpr ⟨_, rfl, forall₂_middle hleft ⟨rfl, hx'⟩ hright⟩

theorem exists_apply_of_grows (h : Grows added v v') (hadded : s.apply added = .ok y)
    (hw : s.apply v = .ok w) : ∃ w', s.apply v' = .ok w' ∧ Grows y w w' := by
  induction h generalizing w with
  | @member left right key name hkey =>
    obtain ⟨_, rfl, hpairs⟩ := apply_map_eq_ok_iff.mp hw
    obtain ⟨left', right', hleft, hright, rfl⟩ := exists_of_forall₂_append hpairs
    have happly := forall₂_middle (a := (key, added)) (b := (key, y)) hleft ⟨rfl, hadded⟩ hright
    exact ⟨_, apply_map_eq_ok_iff.mpr ⟨_, rfl, happly⟩, .member hkey⟩
  | inMember _ ih =>
    obtain ⟨left', y', right', rfl, hx, happly⟩ := exists_of_apply_middle hw
    obtain ⟨y'', hx', hgrows⟩ := ih hx
    exact ⟨_, happly _ _ hx', .inMember hgrows⟩
  | inItem _ ih =>
    obtain ⟨_, rfl, hitems⟩ := apply_seq_eq_ok_iff.mp hw
    obtain ⟨left', x', right', hleft, hx, hright, rfl⟩ := exists_of_forall₂_middle hitems
    obtain ⟨x'', hx'', hgrows⟩ := ih hx
    exact ⟨_, apply_seq_eq_ok_iff.mpr ⟨_, rfl, forall₂_middle hleft hx'' hright⟩, .inItem hgrows⟩

theorem exists_apply_of_freed {sh : Shape} (h : Edits (Freed added) sh v v')
    (hadded : s.apply added = .ok y) (hw : s.apply v = .ok w) :
    ∃ w', s.apply v' = .ok w' ∧ Edits (Freed y) sh w w' := by
  induction h generalizing w with
  | here h =>
    obtain ⟨hgrows⟩ := h
    obtain ⟨w', hw', hgrows'⟩ := exists_apply_of_grows hgrows hadded hw
    exact ⟨w', hw', .here (.vars hgrows')⟩
  | member hf hkey _ ih =>
    obtain ⟨left', y', right', rfl, hx, happly⟩ := exists_of_apply_middle hw
    obtain ⟨y'', hx', hedit⟩ := ih hx
    exact ⟨_, happly _ _ hx', .member hf hkey hedit⟩
  | entry _ ih =>
    obtain ⟨left', y', right', rfl, hx, happly⟩ := exists_of_apply_middle hw
    obtain ⟨y'', hx', hedit⟩ := ih hx
    exact ⟨_, happly _ _ hx', .entry hedit⟩

theorem kept_of_freed {sh : Shape} (h : Edits (Freed y) sh v v') (hy : Shape.vars.Reads y) :
    sh.Kept v v' := by
  refine h.kept fun sh x x' hchange => ?_
  obtain ⟨hgrows⟩ := hchange
  exact hgrows.kept hy

theorem accepted_of_freed {c : Config} (h : Config.ofYaml s v = .ok c)
    (hedit : Edits (Freed added) (.record .document) v v') (hadded : s.apply added = .ok y)
    (hy : Shape.vars.Reads y) : ∃ c', Config.ofYaml s v' = .ok c' := by
  obtain ⟨w, hw, _⟩ := exists_read_of_ofYaml h
  obtain ⟨w', hw', hedit'⟩ := exists_apply_of_freed hedit hadded hw
  exact Config.exists_ofYaml_of_kept h hw hw' (kept_of_freed hedit' hy)

end Free
theorem tags_subset_of_grows {added x x' : Yaml} (h : Grows added x x') : x.tags ⊆ x'.tags := by
  induction h with
  | member =>
    intro t ht
    simp only [Yaml.tags_map, List.flatMap_append, List.flatMap_cons, List.mem_append] at ht ⊢
    tauto
  | inMember _ ih =>
    intro t ht
    have hx := @ih t
    simp only [Yaml.tags_map, List.flatMap_append, List.flatMap_cons, List.mem_append] at ht ⊢
    tauto
  | inItem _ ih =>
    intro t ht
    have hx := @ih t
    simp only [Yaml.tags_seq, List.flatMap_append, List.flatMap_cons, List.mem_append] at ht ⊢
    tauto

theorem tags_subset_of_freed {added v v' : Yaml} {sh : Shape} (h : Edits (Freed added) sh v v') :
    v.tags ⊆ v'.tags := by
  obtain ⟨_, _, _, ⟨hgrows⟩, _, _, before, after, htags, htags'⟩ := exists_spot h
  intro t ht
  have hx := @tags_subset_of_grows _ _ _ hgrows t
  rw [htags] at ht
  rw [htags']
  simp only [List.mem_append] at ht ⊢
  tauto

section FreeFile
variable {P : List FilePath.Component} {text : String} {content content' added : Yaml}
variable (htext : Yaml.parse text = .ok content')

def FreedEverywhere (P : List FilePath.Component) (content content' added : Yaml)
    (s : Substitution) (sh : Shape) (v : Yaml) : Prop :=
  ∀ s₁ sh₁ tag a path, Stands s sh v s₁ sh₁ (.tagged tag a) →
    includedPath? s₁.base tag a = some path → path.resolved = P →
    Edits (Freed added) sh₁ content content'

include htext in
theorem exists_apply_of_freed_file {s s' : Substitution} {v v' w : Yaml} {sh : Shape}
    (hs : s' = s.rewrite P text)
    (hplace : ∀ p c, p.resolved = P → readYaml s.files p = .ok c → c = content)
    (hfreed : FreedEverywhere P content content' added s sh v)
    (hchange : v' = v ∨ v = content ∧ v' = content' ∧ Edits (Freed added) sh content content')
    (hadded : ∀ s₂, Inside s' v' s₂ content' → ∃ y, s₂.apply added = .ok y ∧ Shape.vars.Reads y)
    (hw : s.apply v = .ok w) (hreads : sh.Reads w) :
    ∃ w', s'.apply v' = .ok w' ∧ sh.Kept w w' := by
  induction s', v' using opensInduction generalizing s v w sh with
  | step s' v' ih =>
    subst hs
    have htags : v.tags ⊆ v'.tags := by
      rcases hchange with rfl | ⟨rfl, rfl, hedit⟩
      · exact List.Subset.refl _
      · exact tags_subset_of_freed hedit
    -- First the value as it was, with the file as it is now where it is included on the way.
    obtain ⟨w₁, hw₁, hkept⟩ : ∃ w₁, (s.rewrite P text).apply v = .ok w₁ ∧ sh.Kept w w₁ := by
      refine exists_kept hw hreads (fun sh₁ tag a y hmem hstands hy => ?_) v sh w
        (List.Subset.refl _) .self hw
      cases hpath : includedPath? s.base tag a with
      | none => exact ⟨y, (apply_tagged_rewrite hpath).trans hy, .refl _ _⟩
      | some path =>
        obtain ⟨c, hopens, hc⟩ := apply_tagged_of_path hpath hy
        obtain ⟨c', hopens', happly, hsame⟩ :=
          exists_opens_rewrite htext hplace (htags hmem) hpath hopens
        obtain ⟨y₁, hy₁, hreads₁⟩ := hstands.reads hw hreads
        obtain rfl := Except.ok.inj (hy.symm.trans hy₁)
        have hnext : c' = c ∨
            c = content ∧ c' = content' ∧ Edits (Freed added) sh₁ content content' :=
          hsame.imp_right fun ⟨hP, hold, hnew⟩ =>
            ⟨hold, hnew, hfreed s sh₁ tag a path hstands hpath hP⟩
        have hfreed' : FreedEverywhere P content content' added (s.inFile path) sh₁ c :=
          fun s₁ sh₂ tag' a' p hpart => hfreed s₁ sh₂ tag' a' p
            (hstands.trans (.file hpath hopens.read hpart))
        obtain ⟨y', hy', hkept⟩ := ih path c' hopens' (s := s.inFile path) rfl hplace hfreed' hnext
          (fun s₂ hinside => hadded s₂ ((Inside.document.file hopens').trans hinside)) hc hreads₁
        exact ⟨y', happly.trans hy', hkept⟩
    rcases hchange with rfl | ⟨rfl, rfl, hedit⟩
    · exact ⟨w₁, hw₁, hkept⟩
    · obtain ⟨y, hy, hvars⟩ := hadded _ .document
      obtain ⟨w', hw', hedit'⟩ := exists_apply_of_freed hedit hy hw₁
      exact ⟨w', hw', hkept.trans (kept_of_freed hedit' hvars)⟩

theorem accepted_of_freed_file {s : Substitution} {v : Yaml} {c : Config} {path : FilePath}
    (h : Config.ofYaml s v = .ok c) (hfiles : s.files.Lexical)
    (hread : readYaml s.files path = .ok content) (htext : Yaml.parse text = .ok content')
    (hfreed : FreedEverywhere path.resolved content content' added s (.record .document) v)
    (hadded : ∀ s₂, Inside (s.rewrite path.resolved text) v s₂ content' →
      ∃ y, s₂.apply added = .ok y ∧ Shape.vars.Reads y) :
    ∃ c', Config.ofYaml (s.rewrite path.resolved text) v = .ok c' := by
  obtain ⟨w, hw, hdocument, _⟩ := exists_read_of_ofYaml h
  obtain ⟨w', hw', hkept⟩ := exists_apply_of_freed_file htext rfl
    (fun p c hp hc => content_eq_of_resolved hfiles hp hc hread) hfreed (.inl rfl) hadded hw
    (Shape.reads_of_read (k := .document) hdocument)
  exact Config.exists_ofYaml_of_kept h hw hw' hkept

end FreeFile

open Config (ofYaml)

/-- A record that is spoilt makes a document that was accepted fail, in the document and in a file
that it includes. The document is refused as one that cannot be read, but tags are replaced before
that, so the problem is that of an added value where its tags cannot be replaced. Variables of policy
files may have any member more that can be read. -/
theorem only_variables_are_free {s : Substitution} {v : Yaml} {c : Config}
    (h : ofYaml s v = .ok c) :
    (∀ added v', Edits (Spoilt added) (.record .document) v v' →
      (∃ m, ofYaml s v' = .error (.parse m)) ∨
        ∃ x ∈ added, ∃ e, s.apply x = .error e ∧ ofYaml s v' = .error e) ∧
    (∀ added y v', Edits (Freed added) (.record .document) v v' → s.apply added = .ok y →
      Shape.vars.Reads y → ∃ c', ofYaml s v' = .ok c') ∧
    ∀ (path : FilePath) (text : String) (content content' : Yaml), s.files.Lexical →
      readYaml s.files path = .ok content → Yaml.parse text = .ok content' →
      (∀ added s₁ sh tag a, Stands s (.record .document) v s₁ sh (.tagged tag a) →
        includedPath? s₁.base tag a = some path → Edits (Spoilt added) sh content content' →
        (∃ m, ofYaml (s.rewrite path.resolved text) v = .error (.parse m)) ∨
          ∃ s₂, Inside (s.rewrite path.resolved text) v s₂ content' ∧ ∃ x ∈ added, ∃ e,
            s₂.apply x = .error e ∧ ofYaml (s.rewrite path.resolved text) v = .error e) ∧
      ∀ added, FreedEverywhere path.resolved content content' added s (.record .document) v →
        (∀ s₂, Inside (s.rewrite path.resolved text) v s₂ content' →
          ∃ y, s₂.apply added = .ok y ∧ Shape.vars.Reads y) →
        ∃ c', ofYaml (s.rewrite path.resolved text) v = .ok c' := by
  refine ⟨fun added v' hedit => refused_of_spoilt h hedit,
    fun added y v' hedit hadded hy => accepted_of_freed h hedit hadded hy,
    fun path text content content' hfiles hread htext => ⟨?_, ?_⟩⟩
  · intro added s₁ sh tag a hstands hpath hedit
    exact refused_of_spoilt_file h hfiles hstands hpath hread htext hedit
  · intro added hfreed hadded
    exact accepted_of_freed_file h hfiles hread htext hfreed hadded

theorem Stands.tags_ne_nil {s s₁ : Substitution} {sh sh₁ : Shape} {v x : Yaml}
    (h : Stands s sh v s₁ sh₁ x) (hx : x.tags ≠ []) : v.tags ≠ [] := by
  induction h with
  | self => exact hx
  | member hmem _ _ _ ih | entry hmem _ ih =>
    exact mt (fun hnil => List.subset_nil.mp
      (hnil ▸ tags_subset_of_child (List.mem_map_of_mem hmem))) (ih hx)
  | part _ hmem _ ih =>
    exact mt (fun hnil => List.subset_nil.mp (hnil ▸ tags_subset_of_child hmem)) (ih hx)
  | file => exact List.cons_ne_nil _ _

def rootAccounts : Yaml :=
  .map [(.str "root", .map [(.str "id", .str "1"), (.str "parent", .bool true)])]

def regionVars (rest : List (Yaml × Yaml)) : Yaml := .map ((.str "region", .str "us") :: rest)

def regionPolicy (vars rest : List (Yaml × Yaml)) : Yaml :=
  .map ((.str "template_vars", regionVars vars) :: rest)

def policyDocument (policy : Yaml) (vars rest : List (Yaml × Yaml)) : Yaml := .map [
  (.str "accounts", rootAccounts),
  (.str "policies", .map [(.str "admin", policy), (.str "ops", regionPolicy vars rest)])]

def includedPolicy : Yaml := .tagged "include" (.str "admin.yaml")

def policyTree : FileTree := FileTree.add {} ["admin.yaml"] "template_vars: {region: us}\n"

def policySubstitution : Substitution := { files := policyTree.source, base := some ⟨""⟩ }

theorem read_policyFile : readYaml policyTree.source ⟨"admin.yaml"⟩ = .ok (regionPolicy [] []) :=
  Yaml.eq_ok_of_agrees (by decide +kernel)

theorem accepts_policyDocument :
    ∃ c, ofYaml policySubstitution (policyDocument includedPolicy [] []) = .ok c := by
  have hopens : policySubstitution.Opens includedPolicy ⟨"admin.yaml"⟩ (regionPolicy [] []) :=
    ⟨⟨_, List.mem_singleton_self _, rfl⟩, rfl, read_policyFile⟩
  have htag : policySubstitution.apply includedPolicy = .ok (regionPolicy [] []) :=
    (apply_tagged_of_opens rfl hopens).trans (apply_eq_self rfl)
  have hw : policySubstitution.apply (policyDocument includedPolicy [] []) =
      .ok (policyDocument (regionPolicy [] []) [] []) := by
    refine apply_map_eq_ok_iff.mpr ⟨_, rfl, .cons ⟨rfl, apply_eq_self rfl⟩ (.cons ⟨rfl, ?_⟩ .nil)⟩
    exact apply_map_eq_ok_iff.mpr
      ⟨_, rfl, .cons ⟨rfl, htag⟩ (.cons ⟨rfl, apply_eq_self rfl⟩ .nil)⟩
  rw [ofYaml, hw, ok_bind]
  exact ⟨_, rfl⟩

theorem policyFile_spoilt : Yaml.parse "template_vars: {region: us}\ntypo: 1\n" =
    .ok (regionPolicy [] [(.str "typo", .int 1)]) :=
  Yaml.eq_ok_of_agrees (by decide +kernel)

theorem policyFile_freed : Yaml.parse "template_vars: {region: us, zone: eu}\n" =
    .ok (regionPolicy [(.str "zone", .str "eu")] []) :=
  Yaml.eq_ok_of_agrees (by decide +kernel)

theorem spoilt_regionPolicy : Edits (Spoilt [.int 1]) (.record .policy) (regionPolicy [] [])
    (regionPolicy [] [(.str "typo", .int 1)]) := by
  have hkey : ∀ f ∈ RecordKind.policy.fields, ¬ f.Named (.str "typo") := by
    simp [RecordKind.fields, Config.Label.Named, Config.untag]
  exact .here (.record (@RecordKind.Spoils.unknown _ [_] [] _ _ hkey))

theorem freed_regionPolicy : Edits (Freed (.str "eu")) (.record .policy) (regionPolicy [] [])
    (regionPolicy [(.str "zone", .str "eu")] []) := by
  have hfield : { name := "template_vars", shape := .vars } ∈ RecordKind.policy.fields := by
    simp [RecordKind.fields]
  have hvars : Grows (.str "eu") (regionVars []) (regionVars [(.str "zone", .str "eu")]) :=
    @Grows.member _ [_] [] _ "zone" rfl
  exact @Edits.member _ _ [] [] _ _ _ _ hfield ⟨_, List.mem_cons_self, rfl⟩ (.here (.vars hvars))

theorem policiesField_mem :
    { name := "policies", shape := .named .policy } ∈ RecordKind.document.fields := by
  simp [RecordKind.fields]

theorem edits_policyDocument {Change : Shape → Yaml → Yaml → Prop}
    {vars vars' rest rest' : List (Yaml × Yaml)}
    (h : Edits Change (.record .policy) (regionPolicy vars rest) (regionPolicy vars' rest')) :
    Edits Change (.record .document) (policyDocument includedPolicy vars rest)
      (policyDocument includedPolicy vars' rest') := by
  exact @Edits.member _ _ [_] [] _ _ _ _ policiesField_mem ⟨_, List.mem_cons_self, rfl⟩
    (@Edits.entry _ _ [_] [] _ _ _ h)

theorem freedEverywhere_policyDocument : FreedEverywhere (FilePath.mk "admin.yaml").resolved
    (regionPolicy [] []) (regionPolicy [(.str "zone", .str "eu")] []) (.str "eu")
    policySubstitution (.record .document) (policyDocument includedPolicy [] []) := by
  intro s₁ sh₁ tag a path hstands _ _
  have htag : (Yaml.tagged tag a).tags ≠ [] := List.cons_ne_nil _ _
  have hpolicy : ∀ {s₁ : Substitution}, Stands policySubstitution (.record .policy)
      includedPolicy s₁ sh₁ (.tagged tag a) → sh₁ = .record .policy := by
    intro s₁ h
    cases h with
    | self => rfl
    | part hsh => simp at hsh
    | file hpath hread h =>
      cases hpath
      obtain rfl := Except.ok.inj (read_policyFile.symm.trans hread)
      exact absurd rfl (h.tags_ne_nil htag)
  cases hstands with
  | part hsh => simp at hsh
  | member hx hf hkey h =>
    cases hx with
    | head => exact absurd rfl (h.tags_ne_nil htag)
    | tail _ hx =>
      obtain ⟨⟩ := List.mem_singleton.mp hx
      obtain rfl := RecordKind.eq_of_named policiesField_mem hf ⟨_, List.mem_cons_self, rfl⟩ hkey
      cases h with
      | part hsh => simp at hsh
      | entry hx h =>
        cases hx with
        | head => exact hpolicy h ▸ freed_regionPolicy
        | tail _ hx =>
          obtain ⟨⟩ := List.mem_singleton.mp hx
          exact absurd rfl (h.tags_ne_nil htag)

theorem policyDocument_variables_are_free :
    (∃ m, ofYaml policySubstitution (policyDocument includedPolicy [] [(.str "typo", .int 1)]) =
      .error (.parse m)) ∧
    (∃ c, ofYaml policySubstitution (policyDocument includedPolicy [(.str "zone", .str "eu")] []) =
      .ok c) ∧
    (∃ m, ofYaml (policySubstitution.rewrite (FilePath.mk "admin.yaml").resolved
      "template_vars: {region: us}\ntypo: 1\n") (policyDocument includedPolicy [] []) =
        .error (.parse m)) ∧
    ∃ c, ofYaml (policySubstitution.rewrite (FilePath.mk "admin.yaml").resolved
      "template_vars: {region: us, zone: eu}\n") (policyDocument includedPolicy [] []) = .ok c := by
  obtain ⟨c, hc⟩ := accepts_policyDocument
  obtain ⟨hspoilt, hfreed, hfile⟩ := only_variables_are_free hc
  have hone : ∀ s : Substitution, ∀ x ∈ [Yaml.int 1], ∀ e, s.apply x ≠ .error e := by
    intro s x hx e
    rw [List.mem_singleton.mp hx, apply_eq_self rfl]
    exact nofun
  have heu : Shape.vars.Reads (.str "eu") := ⟨_, rfl⟩
  have hstands : Stands policySubstitution (.record .document)
      (policyDocument includedPolicy [] []) policySubstitution (.record .policy) includedPolicy :=
    .member (List.mem_cons_of_mem _ List.mem_cons_self) policiesField_mem
      ⟨_, List.mem_cons_self, rfl⟩ (.entry List.mem_cons_self .self)
  refine ⟨?_, ?_, ?_, ?_⟩
  · refine (hspoilt _ _ (edits_policyDocument spoilt_regionPolicy)).resolve_right ?_
    rintro ⟨x, hx, e, he, _⟩
    exact hone _ x hx e he
  · exact hfreed _ _ _ (edits_policyDocument freed_regionPolicy) (apply_eq_self rfl) heu
  · refine ((hfile _ _ _ _ (policyTree.source_lexical rfl) read_policyFile policyFile_spoilt).1 _ _ _ _ _
      hstands rfl spoilt_regionPolicy).resolve_right ?_
    rintro ⟨s₂, _, x, hx, e, he, _⟩
    exact hone s₂ x hx e he
  · exact (hfile _ _ _ _ (policyTree.source_lexical rfl) read_policyFile policyFile_freed).2 _
      freedEverywhere_policyDocument fun s₂ _ => ⟨_, apply_eq_self rfl, heu⟩

def opsDocument (vars : List (Yaml × Yaml)) : Yaml := .map [
  (.str "accounts", rootAccounts),
  (.str "policies", .map [(.str "ops", regionPolicy vars [])])]

theorem exists_parse_of_yaml {text : String} {v : Yaml} {c : Config}
    (htext : Yaml.parse text = .ok v) (htags : v.tags = []) (hread : Config.read v = .ok c)
    (haccounts : c.accounts.isEmpty = false) : ∃ c, Config.parse {} text = .ok c := by
  refine ⟨c, ?_⟩
  rw [Config.parse, htext]
  simp only [ofYaml, apply_eq_self htags, ok_bind, hread, haccounts]
  rfl

/-- A member that is not known is refused with the problem of its own value, since tags are replaced
before fields are looked at, and a variable whose key is no text is refused. -/
theorem tags_fail_before_fields :
    (∃ c, Config.parse {} "accounts:\n  root:\n    id: \"1\"\n    parent: true\n" = .ok c) ∧
    (∀ f ∈ RecordKind.document.fields, ¬ f.Named (.str "typo")) ∧
    Config.parse {} "accounts:\n  root:\n    id: \"1\"\n    parent: true\ntypo: !env_var UNSET\n" =
      .error (.undefinedVariable "UNSET") ∧
    (∃ c, Config.parse {} ("accounts:\n  root:\n    id: \"1\"\n    parent: true\n" ++
      "policies:\n  ops:\n    template_vars:\n      region: us\n") = .ok c) ∧
    ∃ m, Config.parse {} ("accounts:\n  root:\n    id: \"1\"\n    parent: true\n" ++
      "policies:\n  ops:\n    template_vars:\n      region: us\n      1: x\n") = .error (.parse m) := by
  have haccounts : Yaml.parse "accounts:\n  root:\n    id: \"1\"\n    parent: true\n" =
      .ok (.map [(.str "accounts", rootAccounts)]) :=
    Yaml.eq_ok_of_agrees (by decide +kernel)
  have htypo : Yaml.parse
      "accounts:\n  root:\n    id: \"1\"\n    parent: true\ntypo: !env_var UNSET\n" =
        .ok (.map [(.str "accounts", rootAccounts),
          (.str "typo", .tagged "env_var" (.str "UNSET"))]) :=
    Yaml.eq_ok_of_agrees (by decide +kernel)
  have hvars : Yaml.parse ("accounts:\n  root:\n    id: \"1\"\n    parent: true\n" ++
      "policies:\n  ops:\n    template_vars:\n      region: us\n") =
        .ok (opsDocument []) :=
    Yaml.eq_ok_of_agrees (by decide +kernel)
  have hnumber : Yaml.parse ("accounts:\n  root:\n    id: \"1\"\n    parent: true\n" ++
      "policies:\n  ops:\n    template_vars:\n      region: us\n      1: x\n") =
        .ok (opsDocument [(.int 1, .str "x")]) :=
    Yaml.eq_ok_of_agrees (by decide +kernel)
  refine ⟨exists_parse_of_yaml haccounts rfl rfl rfl, ?_, ?_,
    exists_parse_of_yaml hvars rfl rfl rfl, ?_⟩
  · simp [RecordKind.fields, Config.Label.Named, Config.untag]
  · obtain ⟨n, hn⟩ := exists_apply_eq
    rw [Config.parse, htypo]
    simp only [ofYaml, hn]
    rfl
  · have hself : Substitution.apply {} (opsDocument [(.int 1, .str "x")]) = .ok _ :=
      apply_eq_self rfl
    rw [Config.parse, hnumber]
    simp only [ofYaml, hself]
    exact ⟨_, rfl⟩

end Substitution

end OrgStacks
