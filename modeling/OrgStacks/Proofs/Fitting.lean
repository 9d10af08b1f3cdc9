import OrgStacks.Proofs.Misspelling

/-!
# Values that fit in the place of others

What stands for something in a document may be put in the place of another value when it can be read
as well, `Shape.Kept`. A record keeps what its members keep, and so does a document whose tags come
to something else. Where the accounts are still given, the document is accepted again.
-/

namespace OrgStacks
set_option autoImplicit false

namespace Config

namespace Member

theorem exists_given {α β : Type} {p : Place} {members : List (Member α)}
    (h : Regular p members) {m : Member α} (hm : m ∈ members) {get : α → β}
    {R : Yaml → β → Prop} (hset : ∀ {a b y}, m.read a y = .ok b → R y (get b))
    (hframe : ∀ m' ∈ members, m'.name ≠ m.name → ∀ {a b y}, m'.read a y = .ok b → get b = get a)
    {given pairs : List (Yaml × Yaml)} (hgiven : given ⊆ pairs) {a b : α}
    {seen seen' : List String}
    (hseen : m.name ∈ seen → ∃ pair ∈ pairs, m.label.Named pair.1 ∧ R pair.2 (get a))
    (hsteps : given.foldlM (step members) (a, seen) = .ok (b, seen')) (hlast : m.name ∈ seen') :
    ∃ pair ∈ pairs, m.label.Named pair.1 ∧ R pair.2 (get b) := by
  induction given generalizing a seen with
  | nil =>
    cases hsteps
    exact hseen hlast
  | cons pair given ih =>
    rw [List.foldlM_cons] at hsteps
    obtain ⟨⟨c, seen₁⟩, hstep, hsteps⟩ := bind_eq_ok_iff.mp hsteps
    obtain ⟨m', hm', hnamed, _, hread, rfl⟩ := (step_eq_ok_iff h).mp hstep
    refine ih (fun p hp => hgiven (List.mem_cons_of_mem pair hp)) (fun hmem => ?_) hsteps
    by_cases hname : m'.name = m.name
    · obtain rfl := List.inj_on_of_nodup_map h.names_nodup hm' hm hname
      exact ⟨pair, hgiven List.mem_cons_self, hnamed, hset hread⟩
    · rw [hframe m' hm' hname hread]
      exact hseen (List.mem_of_ne_of_mem (Ne.symm hname) hmem)

end Member

def HasEntry (y : Yaml) : Prop := ∃ pair rest, readPairs y = .ok (pair :: rest)

theorem hasEntry_iff {α : Type} {read : Reader α} {y : Yaml} {m : NameMap α}
    (h : readNames read y = .ok m) : HasEntry y ↔ m.isEmpty = false := by
  obtain ⟨pairs, hpairs, h⟩ := bind_eq_ok_iff.mp h
  obtain ⟨entries, hentries, h⟩ := bind_eq_ok_iff.mp h
  cases h
  rw [NameMap.isEmpty_ofList]
  have hlength := (forall₂_of_mapM_eq_ok hentries).length_eq
  simp only [HasEntry, hpairs, Except.ok.injEq]
  cases pairs <;> cases entries <;> simp at hlength ⊢

def accountsMember : Member Config :=
  .of "accounts" (readNames AccountConfig.read) (fun a v => { a with accounts := v }) true

theorem exists_accounts {y : Yaml} {c : Config} (h : read y = .ok c) :
    ∃ pairs, readPairs y = .ok pairs ∧ ∃ pair ∈ pairs, untag pair.1 = .str "accounts" ∧
      readNames AccountConfig.read pair.2 = .ok c.accounts := by
  obtain ⟨pairs, hpairs, seen, hsteps, hrequired⟩ := Member.readRecord_eq_ok_iff.mp h
  have hmem : accountsMember ∈ members := List.mem_cons_of_mem _ List.mem_cons_self
  have hset : ∀ {a b : Config} {y}, accountsMember.read a y = .ok b →
      readNames AccountConfig.read y = .ok b.accounts := by
    intro a b y hread
    obtain ⟨x, hx, rfl⟩ := map_eq_ok_iff.mp hread
    exact hx
  have hframe : ∀ m ∈ members, m.name ≠ accountsMember.name → ∀ {a b : Config} {y},
      m.read a y = .ok b → b.accounts = a.accounts := by
    intro m hm hname a b y hread
    simp only [members, List.mem_cons, List.not_mem_nil, or_false] at hm
    rcases hm with rfl | rfl | rfl | rfl | rfl | rfl | rfl | rfl
    case inr.inl => exact absurd rfl hname
    all_goals
      obtain ⟨x, _, rfl⟩ := map_eq_ok_iff.mp hread
      rfl
  obtain ⟨pair, hpair, ⟨name, hname, hkey⟩, hread⟩ := Member.exists_given
    (R := fun y accounts => readNames AccountConfig.read y = .ok accounts) regular hmem hset hframe
    (List.Subset.refl pairs) (fun h => absurd h List.not_mem_nil) hsteps (hrequired _ hmem rfl)
  obtain rfl := List.mem_singleton.mp hname
  exact ⟨pairs, hpairs, pair, hpair, hkey, hread⟩

namespace Shape

/-- An account is given where there have to be accounts. There are no documents by name. -/
def Full : Shape → Yaml → Prop
  | record .document, y => ∀ pairs, readPairs y = .ok pairs → ∀ pair ∈ pairs,
    untag pair.1 = .str "accounts" → HasEntry pair.2
  | named .account, y => HasEntry y
  | named .document, _ => False
  | _, _ => True

def Fits (sh : Shape) (y : Yaml) : Prop := sh.Reads y ∧ sh.Full y

/-- What stands for something may become what also does; it stays where nothing more is known of
it. -/
structure Kept (sh : Shape) (y y' : Yaml) : Prop where
  fits : sh.Fits y → sh.Fits y'
  plain : sh = .plain → y' = y
  null : y' = .null → y = .null

section Fits
variable {k : RecordKind} {pairs pairs' : List (Yaml × Yaml)}

theorem full_record_iff : (record k).Full (.map pairs) ↔
    ∀ pair ∈ pairs, ∀ f ∈ k.fields, f.Named pair.1 → f.shape.Full pair.2 := by
  cases k <;> simp [Full, RecordKind.fields, readPairs, untag, Label.Named]

theorem full_of_entry (h : (named k).Full (.map pairs)) (y : Yaml) : (record k).Full y := by
  cases k with
  | document => exact h.elim
  | _ => trivial

theorem hasEntry_map_iff : HasEntry (.map pairs) ↔ pairs ≠ [] := by
  cases pairs <;> simp [HasEntry, readPairs, untag]

theorem full_named (h : (named k).Full (.map pairs)) (hlength : pairs.length = pairs'.length) :
    (named k).Full (.map pairs') := by
  cases k with
  | account =>
    rw [Full, hasEntry_map_iff, ← List.length_pos_iff] at h ⊢
    omega
  | document => exact h.elim
  | _ => trivial

theorem plain_or_vars_of_reads_seq {sh : Shape} {items : List Yaml}
    (h : sh.Reads (.seq items)) : sh = .plain ∨ sh = .vars := by
  cases sh with
  | plain => exact .inl rfl
  | vars => exact .inr rfl
  | record k =>
    obtain ⟨pairs, hpairs, _⟩ := RecordKind.exists_read_iff.mp (exists_read_of_reads h nofun)
    cases hpairs
  | named k =>
    obtain ⟨r, hr⟩ := h
    cases hr

end Fits

namespace Kept

variable {sh : Shape} {y y' y'' : Yaml} {k : RecordKind} {pairs pairs' : List (Yaml × Yaml)}

theorem refl (sh : Shape) (y : Yaml) : sh.Kept y y := ⟨id, fun _ => rfl, id⟩

theorem trans (h : sh.Kept y y') (h' : sh.Kept y' y'') : sh.Kept y y'' :=
  ⟨fun hfits => h'.fits (h.fits hfits), fun hsh => (h'.plain hsh).trans (h.plain hsh),
    fun hnull => h.null (h'.null hnull)⟩

theorem of_record (h : List.Forall₂ (fun p p' => p'.1 = p.1 ∧
    ∀ f ∈ k.fields, f.Named p.1 → f.shape.Kept p.2 p'.2) pairs pairs') :
    (record k).Kept (.map pairs) (.map pairs') := by
  refine ⟨fun ⟨hreads, hfull⟩ => ?_, nofun, nofun⟩
  have hkeys := (Yaml.forall₂_pairs_iff (R := fun _ _ => True)).mp
    (h.imp fun p p' hp => ⟨hp.1, trivial⟩)
  have hfits : ∀ pair' ∈ pairs', ∃ pair ∈ pairs, pair'.1 = pair.1 ∧ ∀ f ∈ k.fields,
      f.Named pair.1 → f.shape.Kept pair.2 pair'.2 ∧ f.shape.Fits pair.2 := by
    intro pair' hpair'
    obtain ⟨pair, hpair, hkey, hkept⟩ := exists_left_of_forall₂ h hpair'
    refine ⟨pair, hpair, hkey, fun f hf hnamed => ⟨hkept f hf hnamed, ?_, ?_⟩⟩
    · exact reads_member hreads hpair hf hnamed
    · exact full_record_iff.mp hfull pair hpair f hf hnamed
  obtain ⟨hstrict, haccepts⟩ := reads_record_iff.mp hreads
  refine ⟨reads_record_iff.mpr ⟨hkeys.1 ▸ hstrict, fun pair' hpair' m hm hnamed => ?_⟩,
    full_record_iff.mpr fun pair' hpair' f hf hnamed => ?_⟩
  · obtain ⟨pair, hpair, hkey, hmember⟩ := hfits pair' hpair'
    rw [hkey] at hnamed
    obtain ⟨f, hf, hdescribes⟩ := exists_left_of_forall₂ k.describes hm
    obtain ⟨hkept, hfit⟩ := hmember f hf (hdescribes.label ▸ hnamed)
    -- Not every value of a plain field can be read, but it is the same as before.
    by_cases hplain : f.shape = .plain
    · rw [hkept.plain hplain]
      exact haccepts pair hpair m hm hnamed
    · exact hdescribes.accepts hplain _ (hkept.fits hfit).1
  · obtain ⟨pair, _, hkey, hmember⟩ := hfits pair' hpair'
    obtain ⟨hkept, hfit⟩ := hmember f hf (hkey ▸ hnamed)
    exact (hkept.fits hfit).2

theorem of_named (h : List.Forall₂ (fun p p' => p'.1 = p.1 ∧ (record k).Kept p.2 p'.2)
    pairs pairs') : (named k).Kept (.map pairs) (.map pairs') := by
  refine ⟨fun ⟨hreads, hfull⟩ => ⟨reads_named_iff.mpr fun pair' hpair' => ?_,
    full_named hfull h.length_eq⟩, nofun, nofun⟩
  obtain ⟨pair, hpair, hkey, hkept⟩ := exists_left_of_forall₂ h hpair'
  obtain ⟨name, hname, r, hr⟩ := reads_named_iff.mp hreads pair hpair
  refine ⟨name, hkey ▸ hname, ?_⟩
  by_cases hnull : pair'.2 = .null
  · rw [hnull, ← hkept.null hnull]
    exact ⟨r, hr⟩
  · obtain ⟨hread', _⟩ := hkept.fits ⟨reads_of_read hr, full_of_entry hfull pair.2⟩
    exact exists_read_of_reads hread' hnull

theorem of_pairs (hsh : sh = .plain ∨ sh = .vars)
    (h : List.Forall₂ (fun p p' => p'.1 = p.1 ∧ sh.Kept p.2 p'.2) pairs pairs') :
    sh.Kept (.map pairs) (.map pairs') := by
  rcases hsh with rfl | rfl
  · have hsame : pairs' = pairs := by
      rw [← List.forall₂_eq_eq_eq]
      exact h.flip.imp fun p' p hp => Prod.ext hp.1 (hp.2.plain rfl)
    rw [hsame]
    exact .refl _ _
  · refine ⟨fun ⟨hreads, _⟩ => ⟨reads_vars_map_iff.mpr fun p' hp' => ?_, trivial⟩, nofun, nofun⟩
    obtain ⟨p, hp, hkey, hkept⟩ := exists_left_of_forall₂ h hp'
    obtain ⟨name, hname, hread⟩ := reads_vars_map_iff.mp hreads p hp
    exact ⟨name, hkey ▸ hname, (hkept.fits ⟨hread, trivial⟩).1⟩

theorem of_items (hsh : sh = .plain ∨ sh = .vars) {items items' : List Yaml}
    (h : List.Forall₂ sh.Kept items items') : sh.Kept (.seq items) (.seq items') := by
  rcases hsh with rfl | rfl
  · have hsame : items' = items := by
      rw [← List.forall₂_eq_eq_eq]
      exact h.flip.imp fun x' x hx => hx.plain rfl
    rw [hsame]
    exact .refl _ _
  · refine ⟨fun ⟨hreads, _⟩ => ⟨reads_vars_seq_iff.mpr fun x' hx' => ?_, trivial⟩, nofun, nofun⟩
    obtain ⟨x, hx, hkept⟩ := exists_left_of_forall₂ h hx'
    exact (hkept.fits ⟨reads_vars_seq_iff.mp hreads x hx, trivial⟩).1

end Kept

end Shape

theorem Edits.kept {Change : Shape → Yaml → Yaml → Prop} {sh : Shape} {y y' : Yaml}
    (h : Edits Change sh y y') (hchange : ∀ sh x x', Change sh x x' → sh.Kept x x') :
    sh.Kept y y' := by
  induction h with
  | here h => exact hchange _ _ _ h
  | member hf hkey _ ih =>
    refine .of_record (forall₂_replace (fun p => ⟨rfl, fun f _ _ => .refl _ _⟩)
      ⟨rfl, fun f' hf' hkey' => ?_⟩)
    exact RecordKind.eq_of_named hf hf' hkey hkey' ▸ ih
  | entry _ ih => exact .of_named (forall₂_replace (fun p => ⟨rfl, .refl _ _⟩) ⟨rfl, ih⟩)

theorem full_of_read {y : Yaml} {c : Config} (h : read y = .ok c)
    (haccounts : c.accounts.isEmpty = false) : (Shape.record .document).Full y := by
  intro pairs hpairs pair hpair hkey
  obtain ⟨pairs', hpairs', pair', hpair', hkey', hread⟩ := exists_accounts h
  obtain ⟨_, hpairs'', hstrict, _⟩ := (RecordKind.exists_read_iff (k := .document)).mp ⟨c, h⟩
  obtain rfl := Except.ok.inj (hpairs.symm.trans hpairs')
  obtain rfl := Except.ok.inj (hpairs.symm.trans hpairs'')
  have hlabel : accountsMember.label ∈ RecordKind.labels .document :=
    List.mem_cons_of_mem _ List.mem_cons_self
  rw [hstrict.eq_of_named hlabel hpair' hpair ⟨_, List.mem_cons_self, hkey'⟩
    ⟨_, List.mem_cons_self, hkey⟩]
  exact (hasEntry_iff hread).mpr haccounts

theorem exists_ofYaml_of_kept {s s' : Substitution} {v v' w w' : Yaml} {c : Config}
    (h : ofYaml s v = .ok c) (hw : s.apply v = .ok w) (hw' : s'.apply v' = .ok w')
    (hkept : (Shape.record .document).Kept w w') : ∃ c', ofYaml s' v' = .ok c' := by
  obtain ⟨_, hw₁, hread, haccounts⟩ := Substitution.exists_read_of_ofYaml h
  obtain rfl := Except.ok.inj (hw.symm.trans hw₁)
  obtain ⟨hreads', hfull'⟩ := hkept.fits
    ⟨Shape.reads_of_read (k := .document) hread, full_of_read hread haccounts⟩
  -- Where there may be no record, null is none; as a document it is one without accounts.
  have hnull : w' ≠ .null := by
    intro hnull
    obtain ⟨pairs, hpairs, pair, hpair, _⟩ := exists_accounts hread
    rw [hkept.null hnull] at hpairs
    cases hpairs
    cases hpair
  obtain ⟨c', hread'⟩ := Shape.exists_read_of_reads hreads' hnull
  change read w' = .ok c' at hread'
  obtain ⟨pairs, hpairs, pair, hpair, hkey, hentries⟩ := exists_accounts hread'
  have hsome := (hasEntry_iff hentries).mp (hfull' pairs hpairs pair hpair hkey)
  refine ⟨c', ?_⟩
  simp only [ofYaml, hw', ok_bind, hread', hsome]
  rfl

end Config

open Config (Shape RecordKind Strict)

namespace Substitution

theorem exists_apply_map {s : Substitution} {pairs values : List (Yaml × Yaml)}
    (s' : Substitution) (Keeps : Yaml → Yaml → Yaml → Prop)
    (hpairs : List.Forall₂ (fun p q => q.1 = p.1 ∧ s.apply p.2 = .ok q.2) pairs values)
    (h : ∀ p ∈ pairs, ∀ y, s.apply p.2 = .ok y →
      ∃ y', s'.apply p.2 = .ok y' ∧ Keeps p.1 y y') :
    ∃ values', s'.apply (.map pairs) = .ok (.map values') ∧
      List.Forall₂ (fun q r => r.1 = q.1 ∧ Keeps q.1 q.2 r.2) values values' := by
  have hboth : List.Forall₂ (fun p q => ∃ r : Yaml × Yaml, (r.1 = p.1 ∧ s'.apply p.2 = .ok r.2) ∧
      r.1 = q.1 ∧ Keeps q.1 q.2 r.2) pairs values := by
    refine (forall₂_mem hpairs).imp fun p q ⟨hp, hkey, hvalue⟩ => ?_
    obtain ⟨y', hy', hkeeps⟩ := h p hp q.2 hvalue
    exact ⟨(p.1, y'), ⟨rfl, hy'⟩, hkey.symm, hkey ▸ hkeeps⟩
  obtain ⟨values', happly, hkeeps⟩ := exists_forall₂_both hboth
  exact ⟨values', apply_map_eq_ok_iff.mpr ⟨_, rfl, happly⟩, hkeeps⟩

theorem exists_kept_map {s s' : Substitution} {sh : Shape} {pairs values : List (Yaml × Yaml)}
    (hpairs : List.Forall₂ (fun p q => q.1 = p.1 ∧ s.apply p.2 = .ok q.2) pairs values)
    (hstrict : ∀ k, sh = .record k → Strict k.labels (pairs.map (·.1)))
    (h : ∀ p ∈ pairs, ∀ sh' y, Stands s sh (.map pairs) s sh' p.2 → s.apply p.2 = .ok y →
      ∃ y', s'.apply p.2 = .ok y' ∧ sh'.Kept y y') :
    ∃ w, s'.apply (.map pairs) = .ok w ∧ sh.Kept (.map values) w := by
  have hpart : sh = .plain ∨ sh = .vars →
      ∃ w, s'.apply (.map pairs) = .ok w ∧ sh.Kept (.map values) w := by
    intro hsh
    obtain ⟨values', happly, hkept⟩ := exists_apply_map s' (fun _ => sh.Kept) hpairs
      fun p hp y hy => h p hp sh y (.part hsh (List.mem_map_of_mem hp) .self) hy
    exact ⟨_, happly, .of_pairs hsh hkept⟩
  cases sh with
  | plain => exact hpart (.inl rfl)
  | vars => exact hpart (.inr rfl)
  | named k =>
    obtain ⟨values', happly, hkept⟩ := exists_apply_map s' (fun _ => (Shape.record k).Kept) hpairs
      fun p hp y hy => h p hp (.record k) y (.entry hp .self) hy
    exact ⟨_, happly, .of_named hkept⟩
  | record k =>
    obtain ⟨values', happly, hkept⟩ := exists_apply_map s'
      (fun key y y' => ∀ f ∈ k.fields, f.Named key → f.shape.Kept y y') hpairs fun p hp y hy => by
        obtain ⟨l, hl, hkey⟩ := (hstrict k rfl).known p.1 (List.mem_map_of_mem hp)
        obtain ⟨f, hf, rfl⟩ := List.mem_map.mp hl
        obtain ⟨y', hy', hkept⟩ := h p hp f.shape y (.member hp hf hkey .self) hy
        exact ⟨y', hy', fun f' hf' hkey' => RecordKind.eq_of_named hf hf' hkey hkey' ▸ hkept⟩
    exact ⟨_, happly, .of_record hkept⟩

/-- What the parts of a document come to is kept where what its tags come to is. -/
theorem exists_kept {s s' : Substitution} {sh₀ : Shape} {v₀ w₀ : Yaml}
    (hw₀ : s.apply v₀ = .ok w₀) (hreads₀ : sh₀.Reads w₀)
    (htag : ∀ sh tag a y, (tag, a) ∈ v₀.tags → Stands s sh₀ v₀ s sh (.tagged tag a) →
      s.apply (.tagged tag a) = .ok y → ∃ y', s'.apply (.tagged tag a) = .ok y' ∧ sh.Kept y y')
    (v : Yaml) : ∀ sh w, v.tags ⊆ v₀.tags → Stands s sh₀ v₀ s sh v → s.apply v = .ok w →
      ∃ w', s'.apply v = .ok w' ∧ sh.Kept w w' := by
  induction v using Yaml.childInduction with
  | tagged tag x =>
    intro sh w htags hstands hw
    exact htag sh tag x w (htags (List.mem_singleton_self _)) hstands hw
  | untagged v hv ih =>
    intro sh w htags hstands hw
    obtain ⟨w₁, hw₁, hreads⟩ := hstands.reads hw₀ hreads₀
    obtain rfl := Except.ok.inj (hw.symm.trans hw₁)
    have hchild : ∀ x ∈ v.children, ∀ sh' y, Stands s sh v s sh' x → s.apply x = .ok y →
        ∃ y', s'.apply x = .ok y' ∧ sh'.Kept y y' := by
      intro x hx sh' y hx' hy
      exact ih x hx sh' y (List.Subset.trans (tags_subset_of_child hx) htags)
        (hstands.trans hx') hy
    cases v with
    | tagged => cases hv
    | seq items =>
      obtain ⟨items', rfl, hitems⟩ := apply_seq_eq_ok_iff.mp hw
      have hsh : sh = .plain ∨ sh = .vars := Shape.plain_or_vars_of_reads_seq hreads
      obtain ⟨items'', happly, hkept⟩ := exists_forall₂_both
        ((forall₂_mem hitems).imp fun x y ⟨hx, hy⟩ =>
          hchild x hx sh y (.part hsh hx .self) hy)
      exact ⟨_, apply_seq_eq_ok_iff.mpr ⟨_, rfl, happly⟩, .of_items hsh hkept⟩
    | map pairs =>
      obtain ⟨values, rfl, hpairs⟩ := apply_map_eq_ok_iff.mp hw
      refine exists_kept_map hpairs ?_ fun p hp => hchild p.2 (List.mem_map_of_mem hp)
      rintro k rfl
      exact hstands.strict hw₀ hreads₀
    | _ =>
      rw [apply_eq_self rfl] at hw
      cases hw
      exact ⟨_, apply_eq_self rfl, .refl _ _⟩

end Substitution

end OrgStacks
