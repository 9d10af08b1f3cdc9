import OrgStacks.Proofs.TemplateFiles

/-!
# Templates and their directory

The name of an account is part of the path of its template and may hold slashes and points. What is
before its last slash is followed from the output directory, and the template is a child of the
folder where that leads. So the template is in the directory exactly when this leads back to it, as
it does for a name without a slash. Only files that the paths of templates lead to are written, also
where writing fails.
-/

namespace OrgStacks
set_option autoImplicit false

namespace FilePath

/-- The path leads to a child of the place that the directory leads to. -/
def IsChildOf (p dir : FilePath) : Prop := ∃ text, p.resolved = dir.resolved ++ [.name text]

theorem resolved_join_empty (dir : FilePath) : (dir.join "").resolved = dir.resolved := by
  have hrelative : (FilePath.mk "").isAbsolute = false := by decide
  obtain ⟨hjoin, hdir⟩ := names_join (d := dir) hrelative
  have hnone : (FilePath.mk "").names = [] := by decide
  rw [resolved_eq, hjoin, hdir, hnone, List.append_nil, resolved_eq]

end FilePath

/-- What is before the last slash of the account's name leads from the directory back to it. -/
def Account.StaysIn (a : Account) (dir : FilePath) : Prop :=
  (dir.join (FilePath.lead a.name)).resolved = dir.resolved

instance (a : Account) (dir : FilePath) : Decidable (a.StaysIn dir) :=
  inferInstanceAs (Decidable (_ = _))

theorem Account.staysIn_of_name {a : Account} (h : '/' ∉ a.name.toList) (dir : FilePath) :
    a.StaysIn dir := by
  rw [StaysIn, FilePath.lead_eq_empty h, FilePath.resolved_join_empty]

namespace TemplateSet
variable {r : Registry} {s : TemplateSet} {dir : FilePath} {configName : String}
  {format : OutputFormat} {a : Account}

theorem isChildOf_pathOf_iff (hid : Text.isDigits a.id = true)
    (hconfig : '/' ∉ configName.toList) :
    (pathOf dir configName a).IsChildOf dir ↔ a.StaysIn dir := by
  rw [FilePath.IsChildOf, Account.StaysIn, resolved_pathOf hconfig hid]
  constructor
  · rintro ⟨text, h⟩
    simpa only [List.dropLast_concat] using congrArg List.dropLast h
  · intro h
    exact ⟨_, by rw [h]⟩

end TemplateSet

theorem OutputFile.exists_written {xs : List (Except Problem OutputFile)} {t t' : FileTree}
    {result : Except Problem (List FilePath)} (h : writeEach xs t = (t', result)) :
    ∃ written : List OutputFile, written.map .ok <+: xs ∧ t.Receives written t' := by
  cases result with
  | error e =>
    obtain ⟨written, stuck, later, hsplit, _, _, hreceives⟩ := written_before_error h
    exact ⟨written, ⟨stuck :: later, hsplit.symm⟩, hreceives⟩
  | ok paths =>
    obtain ⟨written, hall, _, _, hreceives⟩ := written_of_ok h
    exact ⟨written, hall ▸ List.prefix_rfl, hreceives⟩

/-- Some files have been written, each the template of an account, and nothing else. -/
theorem TemplateSet.exists_received {r : Registry} {s : TemplateSet} {dir : FilePath}
    {configName : String} {format : OutputFormat} {files files' : FileTree}
    {result : Except Problem (List FilePath)} (hr : r.Sound) (hs : s.Over r)
    (h : s.write r dir configName format files = (files', result)) :
    ∃ (ready : FileTree) (written : List OutputFile), ready.files = files.files ∧
      ready.SameWays files' ∧ ready.Receives written files' ∧
      ∀ f ∈ written, ∃ a ∈ r.toList, s.fileOf? dir configName format a = some f := by
  have hready : (files.createDirectories dir).1.files = files.files :=
    files.files_createDirectories dir
  unfold write at h
  split at h
  · next hdirectory =>
    cases h
    rw [hdirectory] at hready
    exact ⟨files', [], hready, .refl _, FileTree.receives_nil rfl, List.forall_mem_nil _⟩
  · next ready hdirectory =>
    rw [hdirectory] at hready
    obtain ⟨written, hprefix, hreceives⟩ := OutputFile.exists_written h
    have hsame := OutputFile.sameWays_of_writeEach h
    refine ⟨ready, written, hready, hsame, hreceives, fun f hf => ?_⟩
    have houtput := hprefix.subset (List.mem_map.mpr ⟨f, hf, rfl⟩)
    rw [outputFiles_eq hr hs, List.mem_map_of_injective fun _ _ => Except.ok.inj] at houtput
    exact List.mem_filterMap.mp houtput

/-- A slash at the end of a path is nothing to follow. -/
theorem FileTree.reaches_of_join_empty {t : FileTree} {dir : FilePath} {place : FileTree.Names}
    (h : t.Reaches (dir.join "") place) : t.Reaches dir place := by
  have hhead : "".toList.head? = none := rfl
  simp only [FilePath.join, hhead, reduceCtorEq, decide_false, Bool.false_or] at h
  split_ifs at h with hempty hslash
  · obtain rfl : dir = ⟨""⟩ := congrArg FilePath.mk (by simpa using hempty)
    exact h
  · simpa using h
  · have htext : dir.text.toList ≠ [] := by simpa using hempty
    have hparts : t.parts ⟨dir.text ++ "/" ++ ""⟩ = t.parts dir ++ [""] := by
      have hjoin : t.current.join (dir.text ++ "/" ++ "") =
          ⟨(t.current.join dir.text).text ++ "/" ++ ""⟩ := by
        simp only [FilePath.join, String.toList_append, List.append_assoc,
          List.head?_append_of_ne_nil _ htext]
        split_ifs <;> simp only [String.append_assoc]
      rw [FileTree.parts, hjoin, FilePath.parts_append]
      rfl
    rw [Reaches, hparts] at h
    obtain ⟨middle, hdir, hlast⟩ := h.exists_middle (List.cons_ne_nil "" [])
    have hstay : t.Follows true middle [""] middle := by
      cases hlast with
      | on hstep => exact .on (entry_eq_directory_iff.mp (step_eq_place hstep).1) (.done _)
      | link hstep => exact .on (entry_eq_directory_iff.mp (step_eq_link hstep).1) (.done _)
      | last _ hthrough => cases hthrough
    rwa [hlast.unique hstay]

/-- The template of an account is a child of the output directory exactly when the name of the
account leads back there, as every name without a slash does. A file is as it was before, or it
holds the template of an account whose path leads to it. Then it is in the folder that the name of
the account leads to from the directory, unless the path ends in a link. For a name without a slash
this is the directory. -/
theorem templates_stay_in_directory {accounts : List Account} {r : Registry}
    (hr : Registry.ofAccounts accounts = .ok r) {s : TemplateSet} (hs : s.Over r)
    {configName : String} (hconfig : '/' ∉ configName.toList) {dir : FilePath}
    {format : OutputFormat} {files files' : FileTree} {result : Except Problem (List FilePath)}
    (h : s.write r dir configName format files = (files', result)) :
    (∀ a ∈ r.toList,
      ((TemplateSet.pathOf dir configName a).IsChildOf dir ↔ a.StaysIn dir) ∧
        ('/' ∉ a.name.toList → a.StaysIn dir)) ∧
    ∀ name, files'.files.get? name = files.files.get? name ∨
      ∃ a ∈ s.filled r, ∃ t folder, s.get? a.name = some t ∧
        files'.files.get? name = some (format.render t) ∧
        files'.LeadsTo (TemplateSet.pathOf dir configName a) name ∧
        files'.Reaches (dir.join (FilePath.lead a.name)) folder ∧
        (¬ files'.IsLink (TemplateSet.pathOf dir configName a) →
          name = FileTree.key (folder ++ [TemplateSet.fileNameOf configName a])) ∧
        ('/' ∉ a.name.toList → files'.Reaches dir folder) ∧
        (files'.links = .empty → a.StaysIn dir → folder = files'.placeOf dir) := by
  have hsound := Registry.sound_of_ofAccounts hr
  have hindexed := Registry.indexed_of_ofAccounts hr
  refine ⟨fun a ha => ⟨TemplateSet.isChildOf_pathOf_iff (hindexed.digits ha) hconfig,
    fun hname => Account.staysIn_of_name hname dir⟩, fun name => ?_⟩
  obtain ⟨ready, written, hready, hsame, hreceives, hfiles⟩ :=
    TemplateSet.exists_received hsound hs h
  rcases hreceives name with ⟨before, f, after, rfl, hleads, _, htext⟩ | ⟨_, hkept⟩
  · right
    obtain ⟨a, ha, hfile⟩ := hfiles f (List.mem_append_right _ List.mem_cons_self)
    obtain ⟨t, ht, hfull, rfl⟩ := TemplateSet.fileOf?_eq_some_iff.mp hfile
    have hleads' := hsame.leadsTo_iff.mpr hleads
    obtain ⟨place, hplace, hkey⟩ := hleads'
    obtain ⟨folder, hfolder, hchild⟩ :=
      TemplateSet.exists_folder_of_locate hconfig (hindexed.digits ha) hplace
    refine ⟨a, TemplateSet.mem_filled_iff.mpr ⟨ha, t, ht, hfull⟩, t, folder, ht, htext,
      ⟨place, hplace, hkey⟩, hfolder, fun hlink => by rw [← hkey, hchild hlink], fun hname => ?_,
      fun hlinks hstays => ?_⟩
    · rw [FilePath.lead_eq_empty hname] at hfolder
      exact FileTree.reaches_of_join_empty hfolder
    · rw [hfolder.eq_placeOf hlinks, FileTree.placeOf_eq_of_resolved hstays]
  · left
    rw [hkept, hready]

/-- Where a name with slashes leads back, every file that is new is in the directory. -/
theorem namesakes_stay_in_directory :
    (∀ a ∈ namesakes, (TemplateSet.pathOf ⟨"/tmp/out"⟩ "org" a).IsChildOf ⟨"/tmp/out"⟩) ∧
    ∀ name, namesakeTree.files.contains name = false →
      namesakeFiles.1.files.contains name = true → ∃ file, FileTree.key ["tmp", "out", file] = name := by
  have hr : Registry.ofAccounts namesakes = .ok namesakeRegistry := rfl
  have hover : namesakeTemplates.Over namesakeRegistry := ⟨"1", _, rfl⟩
  have hlisted : namesakeRegistry.toList = namesakes := by decide +kernel
  have hstays : ∀ a ∈ namesakeRegistry.toList, a.StaysIn ⟨"/tmp/out"⟩ := by decide +kernel
  have hwrite := (Prod.eta namesakeFiles).symm
  obtain ⟨hchild, hchanged⟩ := templates_stay_in_directory hr hover (by decide) hwrite
  have hlinks : namesakeFiles.1.links = .empty :=
    congrArg FileTree.links (TemplateSet.eq_of_write hwrite)
  refine ⟨fun a ha => ?_, fun name hbefore hafter => ?_⟩
  · rw [← hlisted] at ha
    exact (hchild a ha).1.mpr (hstays a ha)
  · rcases hchanged name with hsame | ⟨a, ha, t, folder, _, _, _, _, hname, _, hplace⟩
    · rw [NameMap.contains, hsame, ← NameMap.contains, hbefore] at hafter
      cases hafter
    · refine ⟨TemplateSet.fileNameOf "org" a, ?_⟩
      have hdir : namesakeFiles.1.placeOf ⟨"/tmp/out"⟩ = ["tmp", "out"] := by decide +kernel
      have hfolder := hplace hlinks (hstays a (TemplateSet.mem_filled_iff.mp ha).1)
      rw [hname (FileTree.not_isLink hlinks), hfolder, hdir]
      rfl

def strays : List Account :=
  [{ name := "root", id := "1", isParent := true }, { name := "../dev", id := "2" }]

def strayRegistry : Registry where
  accounts := .ofList (strays.map fun a => (a.name, a))
  owners := .ofList (strays.map fun a => (a.id, a.name))
  parent := { name := "root", id := "1", isParent := true }

def strayTemplates : TemplateSet :=
  ((TemplateSet.ofRegistry strayRegistry "1").emitAll (strays.map fun a =>
    { account := a.name, logicalId := "amyUser", kind := .user })).1

def besideOut : FileTree := FileTree.add {} ["dev_2_org.template"] "notes"

def strayFiles : FileTree × Except Problem (List FilePath) :=
  strayTemplates.write strayRegistry ⟨"out"⟩ "org" .json besideOut

/-- Writing succeeds, one template is not in the output directory, and the file beside is lost. -/
theorem template_beside_directory :
    Registry.ofAccounts strays = .ok strayRegistry ∧ strayTemplates.Over strayRegistry ∧
      strayFiles.2.isOk = true ∧
      ¬ (TemplateSet.pathOf ⟨"out"⟩ "org" { name := "../dev", id := "2" }).IsChildOf ⟨"out"⟩ ∧
      besideOut.files.get? "dev_2_org.template" = some "notes" ∧
      strayFiles.1.files.get? "dev_2_org.template" ≠ some "notes" := by
  refine ⟨rfl, ⟨"1", _, rfl⟩, by decide +kernel, ?_, by decide +kernel, by decide +kernel⟩
  rintro ⟨text, h⟩
  have hpath : (TemplateSet.pathOf ⟨"out"⟩ "org" { name := "../dev", id := "2" }).resolved =
      [.name "dev_2_org.template"] := by decide +kernel
  have hdir : (FilePath.mk "out").resolved = [.name "out"] := by decide +kernel
  rw [hpath, hdir] at h
  simp at h

end OrgStacks
