import OrgStacks.CommandLine
import OrgStacks.Proofs.FileTree
import OrgStacks.Proofs.NameMap

/-!
# What a failed run leaves behind

Loading, compiling and making the output directory write no file. Templates are then written one
after the other, and a failure at one of them comes when those before it are there already. So a
failed run leaves every file as it was exactly when no template comes before the failing one.
-/

namespace OrgStacks
set_option autoImplicit false

namespace FileTree
variable {t t' : FileTree} {f : OutputFile}

/-- A file that can be written: its path leads to a place where no directory is. -/
def Accepts (t : FileTree) (f : OutputFile) : Prop := ∃ t', t.writeFile f.path f.text = .ok t'

theorem writeFile_eq_ok_iff {p : FilePath} {text : String} : t.writeFile p text = .ok t' ↔
    ∃ place, t.locate p = .ok place ∧ t.entry place ≠ .directory ∧
      t' = { t with files := t.files.insert (key place) text } := by
  unfold writeFile
  rw [bind_eq_ok_iff]
  apply exists_congr
  intro place
  apply and_congr_right
  intro _
  cases hentry : t.entry place <;> simp [eq_comm]

/-- Two trees in which every name leads to the same. -/
structure SameWays (t t' : FileTree) : Prop where
  current_eq : t'.current = t.current
  step_iff : ∀ {place : Names} {part : String} {turn : Turn},
    t'.step place part = .ok turn ↔ t.step place part = .ok turn

theorem SameWays.refl (t : FileTree) : t.SameWays t := ⟨rfl, Iff.rfl⟩

theorem SameWays.symm (h : t.SameWays t') : t'.SameWays t := ⟨h.current_eq.symm, h.step_iff.symm⟩

theorem SameWays.trans {t'' : FileTree} (h : t.SameWays t') (h' : t'.SameWays t'') :
    t.SameWays t'' :=
  ⟨h'.current_eq.trans h.current_eq, h'.step_iff.trans h.step_iff⟩

theorem entry_eq_directory_iff {place : Names} :
    t.entry place = .directory ↔ t.step place "" = .ok (.place place) := by
  constructor
  · intro h
    simp [step, h]
  · intro h
    exact (step_eq_place h).1

theorem SameWays.entry_iff (h : t.SameWays t') {place : Names} :
    t'.entry place = .directory ↔ t.entry place = .directory := by
  rw [entry_eq_directory_iff, entry_eq_directory_iff, h.step_iff]

/-- Only directories and links count on the way. -/
theorem step_of_entry {place : Names} {part : String} {turn : Turn}
    (hdirectory : ∀ names, t.entry names = .directory → t'.entry names = .directory)
    (hlink : ∀ names target, t'.entry names = .link target ↔ t.entry names = .link target)
    (h : t.step place part = .ok turn) : t'.step place part = .ok turn := by
  cases turn with
  | place next =>
    have hplace := hdirectory _ (step_eq_place h).1
    simp only [step, hplace, (step_eq_place h).1] at h ⊢
    split_ifs at h ⊢ with hstay hup hlong
    · exact h
    · exact h
    · split at h
      · cases h
      · next hentry =>
        split
        · next target hentry' => exact absurd ((hlink _ _).mp hentry') (hentry target)
        · exact h
  | link start names =>
    obtain ⟨hplace, _, target, hentry, _⟩ := step_eq_link h
    simp only [step, hdirectory _ hplace, hplace, (hlink _ _).mpr hentry, hentry] at h ⊢
    exact h

/-- A file never takes the place of a directory. -/
theorem sameWays_of_writeFile {p : FilePath} {text : String} (h : t.writeFile p text = .ok t') :
    t.SameWays t' := by
  obtain ⟨place, _, hplace, rfl⟩ := writeFile_eq_ok_iff.mp h
  have hne : place.isEmpty = false := by
    apply Bool.eq_false_iff.mpr
    intro hempty
    simp [entry, hempty] at hplace
  have hdirectory (names : Names) :
      ({ t with files := t.files.insert (key place) text } : FileTree).entry names = .directory ↔
        t.entry names = .directory := by
    unfold entry at hplace ⊢
    by_cases hnames : names.isEmpty = true
    · simp [hnames]
    by_cases hkey : key place = key names
    · -- Both names lead to the place that was written, where no directory is.
      simp only [hne, Bool.false_eq_true, if_false, hkey] at hplace
      simp only [hnames, Bool.false_eq_true, if_false, NameMap.get?_insert, hkey, if_true, hplace,
        iff_false]
      split <;> simp
    · simp only [hnames, Bool.false_eq_true, if_false, NameMap.get?_insert, if_neg hkey]
  have hlink (names : Names) (target : FilePath) :
      ({ t with files := t.files.insert (key place) text } : FileTree).entry names = .link target ↔
        t.entry names = .link target := by
    unfold entry
    by_cases hnames : names.isEmpty = true
    · simp [hnames]
    simp only [hnames, Bool.false_eq_true, if_false]
    cases t.links.get? (key names) with
    | some target' => rfl
    | none =>
      dsimp only
      constructor <;> intro h <;> exfalso <;> split at h
      all_goals first | cases h | (split_ifs at h)
  exact ⟨rfl, step_of_entry (fun names => (hdirectory names).mp) fun _ _ => (hlink _ _).symm,
    step_of_entry (fun names => (hdirectory names).mpr) hlink⟩

theorem SameWays.walkTo_eq_ok (h : t.SameWays t') {through : Bool} {place place' : Names}
    {parts : List String} {jump jump' : Names → List String → Except FileError Names}
    (hjump : ∀ start names place', jump start names = .ok place' → jump' start names = .ok place')
    (hwalk : t.walkTo through jump place parts = .ok place') :
    t'.walkTo through jump' place parts = .ok place' := by
  induction parts generalizing place with
  | nil => exact hwalk
  | cons part parts ih =>
    rw [walkTo] at hwalk ⊢
    split at hwalk
    · cases hwalk
    · next hstep =>
      rw [h.step_iff.mpr hstep]
      exact ih hwalk
    · next hstep =>
      rw [h.step_iff.mpr hstep]
      dsimp only
      split_ifs at hwalk ⊢
      · exact hwalk
      · exact hjump _ _ _ hwalk

theorem SameWays.walk_eq_ok (h : t.SameWays t') {through : Bool} {n : Nat} {place place' : Names}
    {parts : List String} (hwalk : t.walk through n place parts = .ok place') :
    t'.walk through n place parts = .ok place' := by
  induction n generalizing place parts place' with
  | zero => exact h.walkTo_eq_ok (fun _ _ _ hjump => hjump) hwalk
  | succ n ih => exact h.walkTo_eq_ok (fun _ _ _ => ih) hwalk

theorem SameWays.locate_eq_ok (h : t.SameWays t') {p : FilePath} {place : Names}
    (hlocate : t.locate p = .ok place) : t'.locate p = .ok place := by
  unfold locate at hlocate ⊢
  split at hlocate
  · cases hlocate
  · rw [parts, h.current_eq]
    exact h.walk_eq_ok hlocate

theorem SameWays.accepts (h : t.SameWays t') (hf : t.Accepts f) : t'.Accepts f := by
  obtain ⟨_, hwrite⟩ := hf
  obtain ⟨place, hlocate, hplace, _⟩ := writeFile_eq_ok_iff.mp hwrite
  have hplace' : t'.entry place ≠ .directory := fun hd => hplace (h.entry_iff.mp hd)
  exact ⟨_, writeFile_eq_ok_iff.mpr ⟨place, h.locate_eq_ok hlocate, hplace', rfl⟩⟩

/-- The name of the file that a path leads to, whether it is there or not. -/
def LeadsTo (t : FileTree) (p : FilePath) (name : String) : Prop :=
  ∃ place, t.locate p = .ok place ∧ key place = name

/-- The tree `t'` comes from `t` by writing some files: what one of them leads to holds the text of
the last such one, and everything else is as it was. -/
def Receives (t : FileTree) (written : List OutputFile) (t' : FileTree) : Prop :=
  ∀ name, (∃ before f after, written = before ++ f :: after ∧ t.LeadsTo f.path name ∧
      (∀ g ∈ after, ¬ t.LeadsTo g.path name) ∧ t'.files.get? name = some f.text) ∨
    (∀ f ∈ written, ¬ t.LeadsTo f.path name) ∧ t'.files.get? name = t.files.get? name

theorem receives_nil (h : t'.files = t.files) : t.Receives [] t' := by
  intro name
  right
  simp [h]

theorem Receives.files_eq (h : t.Receives [] t') : t'.files = t.files := by
  apply NameMap.ext_get?
  intro name
  rcases h name with ⟨before, f, after, hnil, _⟩ | ⟨_, heq⟩
  · simp at hnil
  · exact heq

theorem SameWays.leadsTo_iff (h : t.SameWays t') {p : FilePath} {name : String} :
    t'.LeadsTo p name ↔ t.LeadsTo p name := by
  constructor
  · rintro ⟨place, hplace, hkey⟩
    exact ⟨place, h.symm.locate_eq_ok hplace, hkey⟩
  · rintro ⟨place, hplace, hkey⟩
    exact ⟨place, h.locate_eq_ok hplace, hkey⟩

theorem Receives.cons {t'' : FileTree} {written : List OutputFile}
    (hwrite : t.writeFile f.path f.text = .ok t') (h : t'.Receives written t'') :
    t.Receives (f :: written) t'' := by
  have hsame : t.SameWays t' := sameWays_of_writeFile hwrite
  obtain ⟨place, hplace, _, rfl⟩ := writeFile_eq_ok_iff.mp hwrite
  intro name
  have hlater := h name
  simp only [hsame.leadsTo_iff, NameMap.get?_insert] at hlater
  rcases hlater with ⟨before, g, after, rfl, hg, hlast, htext⟩ | ⟨hnone, heq⟩
  · exact .inl ⟨f :: before, g, after, rfl, hg, hlast, htext⟩
  · by_cases hkey : key place = name
    · rw [if_pos hkey] at heq
      exact .inl ⟨[], f, written, rfl, ⟨place, hplace, hkey⟩, hnone, heq⟩
    · rw [if_neg hkey] at heq
      refine .inr ⟨?_, heq⟩
      intro g hg
      rcases List.mem_cons.mp hg with rfl | hg
      · rintro ⟨place', hplace', hkey'⟩
        obtain rfl : place = place' := Except.ok.inj (hplace.symm.trans hplace')
        exact hkey hkey'
      · exact hnone g hg

theorem eq_of_makeDirectory {p : FilePath} (h : t.makeDirectory p = .ok t') :
    t' = { t with directories := t'.directories } := by
  unfold makeDirectory at h
  obtain ⟨place, _, h⟩ := bind_eq_ok_iff.mp h
  split at h
  · cases h
    rfl
  · cases h

theorem eq_of_makeDirectories (t : FileTree) (dirs : List FilePath) :
    (t.makeDirectories dirs).1 = { t with directories := (t.makeDirectories dirs).1.directories } := by
  induction dirs with
  | nil => rfl
  | cons p leads ih =>
    rw [makeDirectories]
    split
    · rfl
    · split
      · next h => exact eq_of_makeDirectory h
      · split_ifs
        · rfl
        · rfl
        · split
          · next h =>
            rw [h] at ih
            exact ih
          · next made h =>
            rw [h] at ih
            have hmade : made = { t with directories := made.directories } := ih
            split
            · next made' h' =>
              have hmade' := eq_of_makeDirectory h'
              calc made' = { made with directories := made'.directories } := hmade'
                _ = { t with directories := made'.directories } := by rw [hmade]
            · exact ih

theorem files_createDirectories (t : FileTree) (p : FilePath) :
    (t.createDirectories p).1.files = t.files := by
  rw [createDirectories, eq_of_makeDirectories]

end FileTree

open FileTree (Receives)

/-- A file that cannot be written: there is none to write, or its place is not to be had. -/
def FileTree.Refuses (t : FileTree) (x : Except Problem OutputFile) : Prop :=
  ∀ f, x = .ok f → ¬ t.Accepts f

/-- Where writing fails, the files before the first that is refused have been written. -/
theorem OutputFile.written_before_error {xs : List (Except Problem OutputFile)}
    {t t' : FileTree} {e : Problem} (h : writeEach xs t = (t', .error e)) :
    ∃ written stuck later, xs = written.map .ok ++ stuck :: later ∧
      (∀ f ∈ written, t.Accepts f) ∧ t.Refuses stuck ∧ t.Receives written t' := by
  induction xs generalizing t e with
  | nil => cases h
  | cons x xs ih =>
    cases x with
    | error e' =>
      cases h
      exact ⟨[], .error e, xs, rfl, by simp, by simp [FileTree.Refuses], FileTree.receives_nil rfl⟩
    | ok f =>
      rw [writeEach] at h
      split at h
      · next hwrite =>
        cases h
        refine ⟨[], .ok f, xs, rfl, by simp, ?_, FileTree.receives_nil rfl⟩
        rintro g hg ⟨_, haccept⟩
        cases hg
        rw [hwrite] at haccept
        cases haccept
      · next t₁ hwrite =>
        have hsame : t.SameWays t₁ := FileTree.sameWays_of_writeFile hwrite
        obtain ⟨hrest, herror⟩ := Prod.mk.inj h
        have hrest' : writeEach xs t₁ = (t', .error e) := by
          rw [map_eq_error_iff] at herror
          exact Prod.ext hrest herror
        obtain ⟨written, stuck, later, rfl, haccepts, hrefuses, hreceives⟩ := ih hrest'
        refine ⟨f :: written, stuck, later, rfl, ?_, ?_, hreceives.cons hwrite⟩
        · intro g hg
          rcases List.mem_cons.mp hg with rfl | hg
          · exact ⟨t₁, hwrite⟩
          · exact hsame.symm.accepts (haccepts g hg)
        · intro g hg haccept
          exact hrefuses g hg (hsame.accepts haccept)

/-- Some files have been written into a tree, and the next one cannot be. -/
def FileTree.StuckAfter (t : FileTree) (written : List OutputFile)
    (xs : List (Except Problem OutputFile)) (t' : FileTree) : Prop :=
  ∃ stuck later, xs = written.map .ok ++ stuck :: later ∧ (∀ f ∈ written, t.Accepts f) ∧
    t.Refuses stuck ∧ t.Receives written t'

theorem TemplateSet.written_before_error {s : TemplateSet} {r : Registry} {dir : FilePath}
    {configName : String} {format : OutputFormat} {t t' : FileTree} {e : Problem}
    (h : s.write r dir configName format t = (t', .error e)) :
    t'.files = t.files ∨ ∃ ready first written, t.createDirectories dir = (ready, .ok ()) ∧
      ready.files = t.files ∧
        ready.StuckAfter (first :: written) (s.outputFiles r dir configName format) t' := by
  -- What the directories leave is the tree that the templates are written into.
  have hready : (t.createDirectories dir).1.files = t.files := t.files_createDirectories dir
  unfold write at h
  split at h
  · next ready e' hdirectory =>
    cases h
    rw [hdirectory] at hready
    exact .inl hready
  · next ready hdirectory =>
    rw [hdirectory] at hready
    obtain ⟨written, stuck, later, houtputs, haccepts, hrefuses, hreceives⟩ :=
      OutputFile.written_before_error h
    cases written with
    | nil => exact .inl (hreceives.files_eq.trans hready)
    | cons first written =>
      exact .inr ⟨ready, first, written, hdirectory, hready, stuck, later, houtputs, haccepts,
        hrefuses, hreceives⟩

namespace CommandLine
variable {i : Invocation} {files files' : FileTree} {environment : NameMap String}
  {version : String}

def Invocation.compiled (i : Invocation) (files : FileTree) (environment : NameMap String)
    (version : String) : Except Failure Compilation := do
  let config ← i.load files.source environment
  i.compile files.source config version

structure Invocation.Writes (i : Invocation) (files : FileTree) (environment : NameMap String)
    (version : String) (outputs : List (Except Problem OutputFile)) (ready : FileTree) :
    Prop where
  compiled : ∃ done, i.compiled files environment version = .ok done ∧
    i.outputFiles done = outputs
  directory : files.createDirectories i.outputDir = (ready, .ok ())
  files_eq : ready.files = files.files

/-- The files after the templates, and the paths that were written. -/
def Invocation.write (i : Invocation) (files : FileTree) (done : Compilation) :
    FileTree × Except Problem (List FilePath) :=
  done.templates.write done.registry i.outputDir i.configName i.format files

theorem Invocation.run_eq (i : Invocation) (files : FileTree) (environment : NameMap String)
    (version : String) : i.run files environment version =
      match i.compiled files environment version with
      | .error e => (files, .error e)
      | .ok done => ((i.write files done).1, (i.write files done).2.mapError i.writingFailure) :=
  rfl

theorem Invocation.files_of_run_error {failure : Failure}
    (h : i.run files environment version = (files', .error failure)) :
    files'.files = files.files ∨ ∃ outputs ready first written,
      i.Writes files environment version outputs ready ∧
        ready.StuckAfter (first :: written) outputs files' := by
  rw [i.run_eq] at h
  cases hdone : i.compiled files environment version with
  | error e =>
    rw [hdone] at h
    cases h
    exact .inl rfl
  | ok done =>
    rw [hdone] at h
    obtain ⟨rfl, hfailure⟩ := Prod.mk.inj h
    cases hwrite : i.write files done with
    | mk left result =>
      rw [hwrite] at hfailure
      cases result with
      | ok paths => cases hfailure
      | error e =>
        rcases TemplateSet.written_before_error hwrite with hsame | hstuck
        · exact .inl hsame
        · obtain ⟨ready, first, written, hdirectory, hready, hstuck⟩ := hstuck
          exact .inr ⟨_, ready, first, written, ⟨⟨done, hdone, rfl⟩, hdirectory, hready⟩, hstuck⟩

theorem run_eq (arguments : List String) (files : FileTree) (environment : NameMap String)
    (version : String) : run arguments files environment version =
      match Request.parse arguments (environment.get? filenameVariable) with
      | .error e => (files, .misused e)
      | .ok .help => (files, .printed (helpText (environment.get? filenameVariable)))
      | .ok .version => (files, .printed versionText)
      | .ok (.compile i) =>
        match i.run files environment version with
        | (files, .error f) => (files, .failed f)
        | (files, .ok paths) => (files, .written paths) :=
  rfl

theorem run_of_failed {arguments : List String} {outcome : Outcome}
    (h : run arguments files environment version = (files', outcome))
    (hfailed : outcome.exitCode ≠ 0) :
    files' = files ∨ ∃ i failure,
      Request.parse arguments (environment.get? filenameVariable) = .ok (.compile i) ∧
        i.run files environment version = (files', .error failure) := by
  rw [run_eq] at h
  split at h
  · cases h
    exact .inl rfl
  · cases h
    exact .inl rfl
  · cases h
    exact .inl rfl
  · next i hrequest =>
    split at h
    · next failure hrun =>
      cases h
      exact .inr ⟨i, failure, hrequest, hrun⟩
    · cases h
      exact absurd rfl hfailed

end CommandLine

open CommandLine (Request filenameVariable)

/-- A failed run leaves every file as it was, unless it stops at a template that cannot be written
after templates that can; then these are there, and nothing else has changed. So no file is created
or overwritten where loading or compiling fails, where the directory cannot be made, and where the
first template is the one that cannot be written. -/
theorem failed_run_leaves_files {arguments : List String} {files files' : FileTree}
    {environment : NameMap String} {version : String} {outcome : CommandLine.Outcome}
    (h : CommandLine.run arguments files environment version = (files', outcome))
    (hfailed : outcome.exitCode ≠ 0) :
    (files'.files = files.files ∨ ∃ i outputs ready first written,
      Request.parse arguments (environment.get? filenameVariable) = .ok (.compile i) ∧
        i.Writes files environment version outputs ready ∧
        ready.StuckAfter (first :: written) outputs files') ∧
    ((∀ i outputs ready first,
      Request.parse arguments (environment.get? filenameVariable) = .ok (.compile i) →
        i.Writes files environment version outputs ready → outputs.head? = some first →
        ready.Refuses first) → files'.files = files.files) := by
  have hleft : files'.files = files.files ∨ ∃ i outputs ready first written,
      Request.parse arguments (environment.get? filenameVariable) = .ok (.compile i) ∧
        i.Writes files environment version outputs ready ∧
        ready.StuckAfter (first :: written) outputs files' := by
    rcases CommandLine.run_of_failed h hfailed with rfl | ⟨i, failure, hrequest, hrun⟩
    · exact .inl rfl
    · rcases CommandLine.Invocation.files_of_run_error hrun with hsame | hstuck
      · exact .inl hsame
      · obtain ⟨outputs, ready, first, written, hwrites, hstuck⟩ := hstuck
        exact .inr ⟨i, outputs, ready, first, written, hrequest, hwrites, hstuck⟩
  refine ⟨hleft, fun hrefused => ?_⟩
  rcases hleft with hsame | ⟨i, outputs, ready, first, written, hrequest, hwrites, hstuck⟩
  · exact hsame
  · obtain ⟨stuck, later, houtputs, haccepts, _, _⟩ := hstuck
    have hhead : outputs.head? = some (.ok first) := by rw [houtputs]; rfl
    exact absurd (haccepts first List.mem_cons_self)
      (hrefused i outputs ready _ hrequest hwrites hhead first rfl)

/-- Two accounts with a user, and a directory where the template of the second is to be. -/
def blockedTree : FileTree :=
  (FileTree.add {} ["org.yaml"]
    ("accounts:\n  root: \x7bid: \"1\", parent: true\x7d\n  dev: \x7bid: \"2\"\x7d\n" ++
      "users:\n  amy: \x7bin_accounts: [all]\x7d\n")).add
    ["output_templates", "root_1_org.template", "x"] ""

def blockedRun : FileTree × CommandLine.Outcome :=
  CommandLine.run ["-f", "org.yaml"] blockedTree .empty "1"

theorem blockedRun_result : blockedRun.2.exitCode = 1 ∧
    blockedRun.1.files.contains "output_templates/dev_2_org.template" = true := by decide +kernel

theorem not_contains_blockedTree :
    blockedTree.files.contains "output_templates/dev_2_org.template" = false := by decide +kernel

/-- One run is stuck after the first template; another finds no configuration and leaves every file
as it was. -/
theorem failed_runs_on_blockedTree :
    (∃ (i : CommandLine.Invocation) (outputs : List (Except Problem OutputFile))
      (ready : FileTree) (first : OutputFile) (written : List OutputFile),
      i.Writes blockedTree .empty "1" outputs ready ∧
        ready.StuckAfter (first :: written) outputs blockedRun.1) ∧
    (CommandLine.run ["-f", "gone.yaml"] blockedTree .empty "1").1.files = blockedTree.files := by
  constructor
  · have hfailed : blockedRun.2.exitCode ≠ 0 := by
      rw [blockedRun_result.1]
      decide
    rcases (failed_run_leaves_files (Prod.eta blockedRun).symm hfailed).1 with hsame | hstuck
    · have hcontains := blockedRun_result.2
      rw [hsame, not_contains_blockedTree] at hcontains
      cases hcontains
    · obtain ⟨i, outputs, ready, first, written, _, hwrites, hstuck⟩ := hstuck
      exact ⟨i, outputs, ready, first, written, hwrites, hstuck⟩
  · have hfailed : (CommandLine.run ["-f", "gone.yaml"] blockedTree .empty "1").2.exitCode ≠ 0 := by
      decide +kernel
    refine (failed_run_leaves_files (Prod.eta _).symm hfailed).2 ?_
    intro i outputs ready first hrequest hwrites
    have hparse : Request.parse ["-f", "gone.yaml"] none =
        .ok (.compile { filename := ⟨"gone.yaml"⟩ }) := rfl
    obtain rfl : { filename := ⟨"gone.yaml"⟩ } = i :=
      Request.compile.inj (Except.ok.inj (hparse.symm.trans hrequest))
    obtain ⟨done, hdone, _⟩ := hwrites.compiled
    cases hdone

/-- The template of the first account stays when that of the second cannot be written. -/
theorem blockedRun_leaves_template :
    blockedRun.2.exitCode = 1 ∧
      blockedTree.files.contains "output_templates/dev_2_org.template" = false ∧
      blockedRun.1.files.contains "output_templates/dev_2_org.template" = true :=
  ⟨blockedRun_result.1, not_contains_blockedTree, blockedRun_result.2⟩

end OrgStacks
