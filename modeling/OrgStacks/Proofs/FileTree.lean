import OrgStacks.Proofs.FilePath
import OrgStacks.Proofs.Outcome

/-!
# Where a path leads in a tree

`FileTree.Follows` is how names are followed, on through links where links come. What is found on
the way does not depend on how many links may be followed. In a tree without links a path leads
where its points alone say, so every such tree is lexical: it gives the same text for every spelling
of a place and only reads paths that end in a name.
-/

namespace OrgStacks
set_option autoImplicit false

/-- The text of a file depends on the place alone, and a file is found by its name. -/
structure FileSource.Lexical (source : FileSource) : Prop where
  same_text : ∀ {p q : FilePath} {t u : String}, p.resolved = q.resolved →
    source.read p = .ok t → source.read q = .ok u → t = u
  named : ∀ {p : FilePath} {t : String}, source.read p = .ok t → p.fileName?.isSome = true

namespace FilePath

def goTo (place : FileTree.Names) : Component → FileTree.Names
  | .root => []
  | .here => place
  | .up => place.dropLast
  | .name text => place ++ [text]

/-- Resolving the points first leads to the same place. -/
theorem foldl_goTo_foldl_follow (cs rest : List Component) (place : FileTree.Names) :
    (cs.foldl follow rest).foldl goTo place = cs.foldl goTo (rest.foldl goTo place) := by
  induction cs generalizing rest with
  | nil => rfl
  | cons c cs ih =>
    rw [List.foldl_cons, List.foldl_cons, ih]
    congr 1
    cases c with
    | root => rfl
    | here => rfl
    | name text => simp [follow]
    | up =>
      rcases List.eq_nil_or_concat' rest with rfl | ⟨rest, last, rfl⟩
      · rfl
      · cases last <;> simp [follow, goTo]

theorem foldl_goTo_resolved (p : FilePath) (place : FileTree.Names) :
    p.resolved.foldl goTo place = p.components.foldl goTo place :=
  foldl_goTo_foldl_follow p.components [] place

theorem foldl_goTo_components (p : FilePath) (place : FileTree.Names) :
    p.components.foldl goTo place = p.names.foldl goTo (if p.isAbsolute then [] else place) := by
  rw [components_eq, List.foldl_append, start]
  split
  · rfl
  · split <;> rfl

theorem foldl_goTo_join (d : FilePath) (file : String) (place : FileTree.Names) :
    (d.join file).components.foldl goTo place =
      (FilePath.mk file).components.foldl goTo (d.components.foldl goTo place) := by
  cases hfile : (FilePath.mk file).isAbsolute with
  | true =>
    have hjoin : d.join file = ⟨file⟩ := by
      rw [isAbsolute, decide_eq_true_eq] at hfile
      simp [join, hfile]
    rw [hjoin, foldl_goTo_components, foldl_goTo_components, hfile]
    rfl
  | false =>
    obtain ⟨hnames, habsolute⟩ := names_join (d := d) hfile
    rw [foldl_goTo_components, foldl_goTo_components ⟨file⟩, foldl_goTo_components d, hnames,
      habsolute, hfile, List.foldl_append]
    rfl

theorem exists_parts_join (d : FilePath) (file : String) :
    ∃ lead, (d.join file).parts = lead ++ (FilePath.mk file).parts := by
  unfold join
  split_ifs with hempty hslash
  · exact ⟨[], rfl⟩
  · obtain ⟨rest, hrest⟩ := Text.endsWith_iff.mp hslash
    have htext : d.text.toList = rest ++ '/' :: [] := hrest
    refine ⟨(Text.splitOnChar '/' rest).map String.ofList, ?_⟩
    simp only [parts, String.toList_append, htext, List.append_assoc, List.cons_append,
      List.nil_append, Text.splitOnChar_append, List.map_append]
  · exact ⟨_, parts_append d.text file⟩

theorem parts_ne_nil (p : FilePath) : p.parts ≠ [] := by
  rw [parts, Ne, List.map_eq_nil_iff]
  exact Text.splitOnChar_ne_nil _ _

end FilePath

namespace FileTree
open FilePath (component? goTo)

/-- Names are followed from one place to another. The last one is a link itself, where there is one,
unless the path goes through it. -/
inductive Follows (t : FileTree) (through : Bool) : Names → List String → Names → Prop
  | done (place : Names) : Follows t through place [] place
  | on {place next place' : Names} {part : String} {parts : List String}
      (hstep : t.step place part = .ok (.place next)) (h : Follows t through next parts place') :
      Follows t through place (part :: parts) place'
  | link {place start place' : Names} {part : String} {names parts : List String}
      (hstep : t.step place part = .ok (.link start names)) (hlast : parts = [] → through = true)
      (h : Follows t through start (names ++ parts) place') :
      Follows t through place (part :: parts) place'
  | last {place start : Names} {part : String} {names : List String}
      (hstep : t.step place part = .ok (.link start names)) (hlast : through = false) :
      Follows t through place [part] (place ++ [part])

variable {t : FileTree} {through : Bool} {place place' : Names} {part : String}
  {parts : List String} {p : FilePath}

theorem follows_of_walkTo {jump : Names → List String → Except FileError Names}
    (hjump : ∀ place parts place', jump place parts = .ok place' →
      t.Follows through place parts place')
    (h : t.walkTo through jump place parts = .ok place') : t.Follows through place parts place' := by
  induction parts generalizing place with
  | nil =>
    cases h
    exact .done _
  | cons part parts ih =>
    rw [walkTo] at h
    split at h
    · cases h
    · next hstep => exact .on hstep (ih h)
    · next hstep =>
      split_ifs at h with hlast
      · obtain ⟨hnil, hthrough⟩ := Bool.and_eq_true_iff.mp hlast
        cases h
        obtain rfl := List.isEmpty_iff.mp hnil
        exact .last hstep (by simpa using hthrough)
      · refine .link hstep ?_ (hjump _ _ _ h)
        rintro rfl
        simpa using hlast

theorem follows_of_walk {n : Nat} (h : t.walk through n place parts = .ok place') :
    t.Follows through place parts place' := by
  induction n generalizing place parts place' with
  | zero =>
    refine follows_of_walkTo ?_ h
    intro _ _ _ hjump
    cases hjump
  | succ n ih => exact follows_of_walkTo (fun _ _ _ => ih) h

namespace Follows

theorem unique {place'' : Names} (h : t.Follows through place parts place')
    (h' : t.Follows through place parts place'') : place' = place'' := by
  induction h with
  | done => cases h' with | done => rfl
  | on hstep _ ih =>
    cases h' with
    | on hstep' h' =>
      rw [hstep] at hstep'
      cases hstep'
      exact ih h'
    | link hstep' => simp [hstep] at hstep'
    | last hstep' => simp [hstep] at hstep'
  | link hstep hlast _ ih =>
    cases h' with
    | on hstep' => simp [hstep] at hstep'
    | link hstep' _ h' =>
      rw [hstep] at hstep'
      cases hstep'
      exact ih h'
    | last _ hlast' => simp [hlast rfl] at hlast'
  | last hstep hlast =>
    cases h' with
    | on hstep' => simp [hstep] at hstep'
    | link _ hlast' => simp [hlast' rfl] at hlast
    | last => rfl

theorem trans {rest : List String} {place'' : Names} (h : t.Follows true place parts place')
    (h' : t.Follows true place' rest place'') : t.Follows true place (parts ++ rest) place'' := by
  induction h with
  | done => exact h'
  | on hstep _ ih => exact .on hstep (ih h')
  | link hstep _ _ ih => exact .link hstep (fun _ => rfl) (List.append_assoc _ _ _ ▸ ih h')
  | last _ hlast => cases hlast

theorem exists_middle {first rest : List String} (h : t.Follows through place (first ++ rest) place')
    (hrest : rest ≠ []) :
    ∃ middle, t.Follows true place first middle ∧ t.Follows through middle rest place' := by
  generalize hparts : first ++ rest = parts at h
  induction h generalizing first with
  | done => simp_all
  | on hstep h ih =>
    rcases List.append_eq_cons_iff.mp hparts with ⟨rfl, rfl⟩ | ⟨first, rfl, rfl⟩
    · exact ⟨_, .done _, .on hstep h⟩
    · obtain ⟨middle, hfirst, hmiddle⟩ := ih rfl
      exact ⟨middle, .on hstep hfirst, hmiddle⟩
  | link hstep hlast h ih =>
    rcases List.append_eq_cons_iff.mp hparts with ⟨rfl, rfl⟩ | ⟨first, rfl, rfl⟩
    · exact ⟨_, .done _, .link hstep hlast h⟩
    · obtain ⟨middle, hfirst, hmiddle⟩ := ih (List.append_assoc _ _ _)
      exact ⟨middle, .link hstep (fun _ => rfl) hfirst, hmiddle⟩
  | last hstep hlast =>
    rcases List.append_eq_cons_iff.mp hparts with ⟨rfl, rfl⟩ | ⟨first, rfl, hnil⟩
    · exact ⟨_, .done _, .last hstep hlast⟩
    · exact absurd (List.append_eq_nil_iff.mp hnil.symm).2 hrest

end Follows

theorem component?_of_ne (hstay : ¬ (part = "" ∨ part = ".")) (hup : part ≠ "..") :
    component? part = some (.name part) := by
  unfold component?
  split <;> simp_all

theorem step_eq_place {next : Names} (h : t.step place part = .ok (.place next)) :
    t.entry place = .directory ∧
      (component? part = none ∧ next = place ∨
        component? part = some .up ∧ next = place.dropLast ∨
        component? part = some (.name part) ∧ next = place ++ [part] ∧
          ∀ target, t.entry next ≠ .link target) := by
  rw [step] at h
  split at h
  · cases h
  · cases h
  · cases h
  next hplace =>
  refine ⟨hplace, ?_⟩
  split_ifs at h with hstay hup hlong
  · cases h
    exact .inl ⟨FilePath.component?_eq_none_iff.mpr (by simpa using hstay), rfl⟩
  · cases h
    exact .inr (.inl ⟨by rw [hup]; rfl, rfl⟩)
  · split at h
    · cases h
    · next hentry =>
      cases h
      exact .inr (.inr ⟨component?_of_ne (by simpa using hstay) hup, rfl, hentry⟩)

theorem step_eq_link {start : Names} {names : List String}
    (h : t.step place part = .ok (.link start names)) :
    t.entry place = .directory ∧ component? part = some (.name part) ∧
      ∃ target, t.entry (place ++ [part]) = .link target ∧
        start = (if target.isAbsolute then [] else place) ∧ names = target.parts := by
  rw [step] at h
  split at h
  · cases h
  · cases h
  · cases h
  next hplace =>
  refine ⟨hplace, ?_⟩
  split_ifs at h with hstay hup hlong
  · cases h
  · cases h
  · refine ⟨component?_of_ne (by simpa using hstay) hup, ?_⟩
    split at h
    · next target hentry =>
      cases h
      exact ⟨target, hentry, rfl, rfl⟩
    · cases h

/-- The path leads to the place, through all links. -/
def Reaches (t : FileTree) (p : FilePath) (place : Names) : Prop := t.Follows true [] (t.parts p) place

theorem reaches_of_locate (h : t.locate p = .ok place) : t.Reaches p place := by
  unfold locate at h
  split at h
  · cases h
  · exact follows_of_walk h

theorem Reaches.unique (h : t.Reaches p place) (h' : t.Reaches p place') : place = place' :=
  Follows.unique h h'

theorem entry_ne_link (hlinks : t.links = .empty) (target : FilePath) :
    t.entry place ≠ .link target := by
  unfold entry
  rw [hlinks, NameMap.get?_empty]
  split
  · simp
  · dsimp only
    split
    · simp
    · split_ifs <;> simp

theorem step_ne_link (hlinks : t.links = .empty) {start : Names} {names : List String} :
    t.step place part ≠ .ok (.link start names) := by
  intro h
  obtain ⟨_, _, target, hentry, _⟩ := step_eq_link h
  exact entry_ne_link hlinks target hentry

/-- Without links only the points of a path count. -/
theorem Follows.eq_foldl (hlinks : t.links = .empty) (h : t.Follows through place parts place') :
    place' = (parts.filterMap component?).foldl goTo place := by
  induction h with
  | done => rfl
  | on hstep _ ih =>
    obtain ⟨_, ⟨hpart, rfl⟩ | ⟨hpart, rfl⟩ | ⟨hpart, rfl, _⟩⟩ := step_eq_place hstep
    · rw [List.filterMap_cons_none hpart, ih]
    · rw [List.filterMap_cons_some hpart, ih]
      rfl
    · rw [List.filterMap_cons_some hpart, ih]
      rfl
  | link hstep => exact absurd hstep (step_ne_link hlinks)
  | last hstep => exact absurd hstep (step_ne_link hlinks)

/-- The place that a path names by its points alone. -/
def placeOf (t : FileTree) (p : FilePath) : Names := (t.current.join p.text).components.foldl goTo []

theorem placeOf_eq (t : FileTree) (p : FilePath) :
    t.placeOf p = p.resolved.foldl goTo (t.current.components.foldl goTo []) := by
  rw [placeOf, FilePath.foldl_goTo_join, FilePath.foldl_goTo_resolved]

theorem Reaches.eq_placeOf (hlinks : t.links = .empty) (h : t.Reaches p place) :
    place = t.placeOf p := by
  rw [Follows.eq_foldl hlinks h, placeOf, FilePath.foldl_goTo_components, ite_self]
  rfl

theorem placeOf_eq_of_resolved {q : FilePath} (h : p.resolved = q.resolved) :
    t.placeOf p = t.placeOf q := by
  rw [placeOf_eq, placeOf_eq, h]

/-- Whatever leads to a place is a directory. -/
def Open (t : FileTree) (place : Names) : Prop :=
  ∀ lead rest, place = lead ++ rest → rest ≠ [] → t.entry lead = .directory

theorem open_nil : t.Open [] := by
  intro lead rest heq hrest
  simp_all

theorem Open.dropLast (h : t.Open place) : t.Open place.dropLast := by
  intro lead rest heq hrest
  rcases List.eq_nil_or_concat' place with rfl | ⟨place, name, rfl⟩
  · simp_all
  · rw [List.dropLast_concat] at heq
    subst heq
    exact h lead (rest ++ [name]) (List.append_assoc _ _ _) (by simp)

theorem Open.entry_dropLast (h : t.Open place) : t.entry place.dropLast = .directory := by
  by_cases hplace : place = []
  · subst place
    rfl
  · exact h _ [place.getLast hplace] (List.dropLast_concat_getLast hplace).symm
      (List.cons_ne_nil _ _)

theorem Open.push {name : String} (h : t.Open place) (hplace : t.entry place = .directory) :
    t.Open (place ++ [name]) := by
  intro lead rest heq hrest
  obtain ⟨rest, last, rfl⟩ := (List.eq_nil_or_concat' rest).resolve_left hrest
  rw [← List.append_assoc] at heq
  obtain ⟨rfl, _⟩ := List.append_inj' heq rfl
  by_cases hne : rest = []
  · subst rest
    simpa using hplace
  · exact h lead rest rfl hne

theorem Follows.isOpen (h : t.Follows through place parts place') (hopen : t.Open place) :
    t.Open place' := by
  induction h with
  | done => exact hopen
  | on hstep _ ih =>
    obtain ⟨hplace, ⟨_, rfl⟩ | ⟨_, rfl⟩ | ⟨_, rfl, _⟩⟩ := step_eq_place hstep
    · exact ih hopen
    · exact ih hopen.dropLast
    · exact ih (hopen.push hplace)
  | link hstep _ _ ih =>
    obtain ⟨_, _, target, _, rfl, _⟩ := step_eq_link hstep
    apply ih
    split
    · exact open_nil
    · exact hopen
  | last hstep => exact hopen.push (step_eq_link hstep).1

/-- Names that end at a file end in a name. -/
theorem Follows.exists_name {text : String} (h : t.Follows through place parts place')
    (hlinks : t.links = .empty) (hopen : t.Open place) (hparts : parts ≠ [])
    (hfile : t.entry place' = .file text) :
    ∃ cs name, parts.filterMap component? = cs ++ [.name name] := by
  obtain ⟨parts, part, rfl⟩ := (List.eq_nil_or_concat' parts).resolve_left hparts
  obtain ⟨middle, hfirst, hlast⟩ := h.exists_middle (List.cons_ne_nil part [])
  cases hlast with
  | link hstep => exact absurd hstep (step_ne_link hlinks)
  | last hstep => exact absurd hstep (step_ne_link hlinks)
  | on hstep hrest =>
    cases hrest
    obtain ⟨hplace, ⟨_, rfl⟩ | ⟨_, rfl⟩ | ⟨hpart, rfl, _⟩⟩ := step_eq_place hstep
    · rw [hplace] at hfile
      cases hfile
    · rw [(hfirst.isOpen hopen).entry_dropLast] at hfile
      cases hfile
    · refine ⟨parts.filterMap component?, part, ?_⟩
      rw [List.filterMap_append, List.filterMap_cons_some hpart, List.filterMap_nil]

theorem Follows.entry_ne_link (h : t.Follows true place parts place') (hopen : t.Open place)
    (hplace : ∀ target, t.entry place ≠ .link target) (target : FilePath) :
    t.entry place' ≠ .link target := by
  induction h with
  | done => exact hplace target
  | on hstep _ ih =>
    obtain ⟨hd, ⟨_, rfl⟩ | ⟨_, rfl⟩ | ⟨_, rfl, hname⟩⟩ := step_eq_place hstep
    · exact ih hopen hplace
    · exact ih hopen.dropLast (by simp [hopen.entry_dropLast])
    · exact ih (hopen.push hd) hname
  | link hstep _ _ ih =>
    obtain ⟨_, _, target', _, rfl, _⟩ := step_eq_link hstep
    apply ih
    · split
      · exact open_nil
      · exact hopen
    · intro target
      split
      · exact Entry.noConfusion
      · exact hplace target
  | last _ hlast => cases hlast

/-- A path that can be followed to its end can be followed up to the link that it ends in. -/
theorem exists_walkTo {jump jump' : Names → List String → Except FileError Names}
    (hjump : ∀ start names place', jump start names = .ok place' →
      ∃ spot, jump' start names = .ok spot)
    (h : t.walkTo true jump place parts = .ok place') :
    ∃ spot, t.walkTo false jump' place parts = .ok spot := by
  induction parts generalizing place with
  | nil => exact ⟨place, rfl⟩
  | cons part parts ih =>
    rw [walkTo] at h ⊢
    split at h
    · cases h
    · exact ih h
    · split_ifs
      · exact ⟨_, rfl⟩
      · exact hjump _ _ _ (by simpa using h)

theorem exists_walk {n : Nat} (h : t.walk true n place parts = .ok place') :
    ∃ spot, t.walk false n place parts = .ok spot := by
  induction n generalizing place parts place' with
  | zero => 
    refine exists_walkTo ?_ h
    intro _ _ _ hjump
    cases hjump
  | succ n ih => exact exists_walkTo (fun _ _ _ => ih) h

/-- The path ends in a link. -/
def IsLink (t : FileTree) (p : FilePath) : Prop :=
  ∃ spot target, t.spot p = .ok spot ∧ t.entry spot = .link target

theorem not_isLink (hlinks : t.links = .empty) : ¬ t.IsLink p := by
  rintro ⟨_, target, _, hentry⟩
  exact entry_ne_link hlinks target hentry

/-- A path that ends in a name leads to a child of the place before, unless it ends in a link. -/
theorem exists_folder {front : List String} {name : String} (hparts : t.parts p = front ++ [name])
    (hname : component? name = some (.name name)) (h : t.locate p = .ok place) :
    ∃ folder, t.Follows true [] front folder ∧ t.entry folder = .directory ∧
      (¬ t.IsLink p → place = folder ++ [name]) := by
  have hnonempty : name ≠ "" := by
    rintro rfl
    cases hname
  unfold locate at h
  split at h
  · cases h
  next hrefusal =>
  obtain ⟨spot, hspot⟩ := exists_walk h
  have hwalk := follows_of_walk h
  have hstop := follows_of_walk hspot
  rw [hparts] at hwalk hstop
  obtain ⟨folder, hfront, hlast⟩ := hwalk.exists_middle (List.cons_ne_nil name [])
  obtain ⟨folder', hfront', hlast'⟩ := hstop.exists_middle (List.cons_ne_nil name [])
  obtain rfl := hfront.unique hfront'
  cases hlast with
  | on hstep hdone =>
    cases hdone
    obtain ⟨hd, hcases⟩ := step_eq_place hstep
    refine ⟨folder, hfront, hd, fun _ => ?_⟩
    rw [hname] at hcases
    exact (by simpa using hcases : _ ∧ _).1
  | link hstep =>
    obtain ⟨hd, _, target, hentry, _⟩ := step_eq_link hstep
    refine ⟨folder, hfront, hd, fun hnot => absurd ?_ hnot⟩
    cases hlast' with
    | on hstep' => simp [hstep] at hstep'
    | link _ hthrough => exact absurd (hthrough rfl) Bool.false_ne_true
    | last =>
      refine ⟨folder ++ [name], target, ?_, hentry⟩
      have htrim : ((t.parts p).reverse.dropWhile (· = "")).reverse = t.parts p := by
        simp [hparts, hnonempty]
      rw [FileTree.spot, hrefusal]
      dsimp only
      rw [htrim, hspot]
  | last _ hthrough => cases hthrough
/-- A text that is read is that of a file, which the path leads to. -/
theorem exists_place_of_read {text : String} (h : t.source.read p = .ok text) :
    ∃ place, t.Reaches p place ∧ t.entry place = .file text := by
  unfold FileSource.read at h
  split_ifs at h
  obtain ⟨place, hplace, hentry⟩ := bind_eq_ok_iff.mp h
  refine ⟨place, reaches_of_locate hplace, ?_⟩
  split at hentry
  · next htext => exact (Except.ok.inj hentry) ▸ htext
  · cases hentry
  · cases hentry
  · cases hentry

theorem source_lexical (hlinks : t.links = .empty) : t.source.Lexical := by
  constructor
  · intro p q text text' hsame hp hq
    obtain ⟨place, hpplace, hpfile⟩ := exists_place_of_read hp
    obtain ⟨place', hqplace, hqfile⟩ := exists_place_of_read hq
    rw [hpplace.eq_placeOf hlinks, placeOf_eq_of_resolved hsame, ← hqplace.eq_placeOf hlinks,
      hqfile] at hpfile
    exact (Entry.file.inj hpfile).symm
  · intro p text hp
    obtain ⟨place, hplace, hfile⟩ := exists_place_of_read hp
    -- The working directory comes first, and is followed whatever the path is.
    obtain ⟨lead, hlead⟩ := t.current.exists_parts_join p.text
    have hparts : t.parts p = lead ++ p.parts := hlead
    rw [Reaches, hparts] at hplace
    obtain ⟨middle, hfirst, hrest⟩ := hplace.exists_middle p.parts_ne_nil
    obtain ⟨cs, name, hcs⟩ :=
      hrest.exists_name hlinks (hfirst.isOpen open_nil) p.parts_ne_nil hfile
    rw [FilePath.fileName?, FilePath.components_eq, FilePath.names_eq, hcs, ← List.append_assoc,
      List.getLast?_concat]
    rfl

end FileTree

end OrgStacks
