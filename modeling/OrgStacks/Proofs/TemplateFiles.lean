import OrgStacks.Proofs.Growth
import OrgStacks.Proofs.Identity
import OrgStacks.Proofs.Writing

/-!
# A file for each account

The file of an account carries the account's id between underscores at the end of its name. Ids are
digits and belong to one account, so the last name on the path tells the accounts apart whatever
their own names are, with slashes and points or without. So two paths lead to one file only where
one of them is a link already. Elsewhere no file that is written is written again, and in the end
each holds the template of its account.
-/

namespace OrgStacks
set_option autoImplicit false

namespace Text

end Text

namespace FilePath

theorem component?_of_length {text : String} (h : 2 < text.toList.length) :
    component? text = some (.name text) := by
  unfold component?
  split
  · simp at h
  · simp at h
  · simp at h
  · rfl

def lead (text : String) : String :=
  String.ofList (text.toList.reverse.dropWhile (· ≠ '/')).reverse

def last (text : String) : String :=
  String.ofList (text.toList.reverse.takeWhile (· ≠ '/')).reverse

variable {text tail : String}

theorem lead_append_last (text : String) : lead text ++ last text = text := by
  rw [lead, last, ← String.ofList_append, ← List.reverse_append, List.takeWhile_append_dropWhile,
    List.reverse_reverse, String.ofList_toList]

theorem slash_not_mem_last (text : String) : '/' ∉ (last text).toList := by
  rw [last, String.toList_ofList, List.mem_reverse]
  intro h
  simpa using List.mem_takeWhile_imp h

/-- Nothing, or a text up to a slash. -/
def IsLead (text : String) : Prop := text = "" ∨ ∃ front, text.toList = front ++ ['/']

theorem isLead_lead (text : String) : IsLead (lead text) := by
  have hhead := List.head?_dropWhile_not (fun c : Char => decide (c ≠ '/')) text.toList.reverse
  rw [lead]
  cases hrest : text.toList.reverse.dropWhile (fun c => decide (c ≠ '/')) with
  | nil => exact .inl rfl
  | cons c rest =>
    rw [hrest] at hhead
    obtain rfl : c = '/' := by simpa using hhead
    exact .inr ⟨rest.reverse, by rw [String.toList_ofList, List.reverse_cons]⟩

theorem lead_eq_empty (h : '/' ∉ text.toList) : lead text = "" := by
  rcases isLead_lead text with hlead | ⟨front, hfront⟩
  · exact hlead
  · have hmem : '/' ∈ (lead text ++ last text).toList := by simp [hfront]
    rw [lead_append_last] at hmem
    exact absurd hmem h

namespace IsLead

theorem exists_parts (h : IsLead text) : ∃ front, ∀ tail : String, '/' ∉ tail.toList →
    (FilePath.mk (text ++ tail)).parts = front ++ [tail] := by
  have hlast {tail : String} (hslash : '/' ∉ tail.toList) :
      (Text.splitOnChar '/' tail.toList).map String.ofList = [tail] := by
    rw [Text.splitOnChar_eq_singleton hslash]
    simp
  rcases h with rfl | ⟨front, hfront⟩
  · exact ⟨[], fun tail hslash => by simp [parts, hlast hslash]⟩
  · refine ⟨(Text.splitOnChar '/' front).map String.ofList, fun tail hslash => ?_⟩
    simp only [parts, String.toList_append, hfront, List.append_assoc, List.singleton_append,
      Text.splitOnChar_append, List.map_append, hlast hslash]

theorem isAbsolute_append (h : IsLead text) (hslash : '/' ∉ tail.toList) :
    (FilePath.mk (text ++ tail)).isAbsolute = (FilePath.mk text).isAbsolute := by
  rcases h with rfl | ⟨front, hfront⟩
  · have hhead : tail.toList.head? ≠ some '/' := fun h => hslash (List.mem_of_head? h)
    simp [isAbsolute, hhead]
  · have hne : front ++ ['/'] ≠ [] := by simp
    simp only [isAbsolute, String.toList_append, hfront, List.head?_append_of_ne_nil _ hne]

theorem resolved_append (h : IsLead text) (hslash : '/' ∉ tail.toList)
    (hlong : 2 < tail.toList.length) :
    (FilePath.mk (text ++ tail)).resolved = (FilePath.mk text).resolved ++ [.name tail] := by
  obtain ⟨front, hfront⟩ := h.exists_parts
  have hnone : (FilePath.mk text).parts = front ++ [""] := by
    simpa using hfront "" (by simp)
  rw [resolved_eq, resolved_eq ⟨text⟩, h.isAbsolute_append hslash, names_eq, names_eq,
    hfront tail hslash, hnone, List.filterMap_append, List.filterMap_append, List.foldl_append,
    List.foldl_append, List.filterMap_cons_some (component?_of_length hlong)]
  rfl

theorem join_append (h : IsLead text) (hslash : '/' ∉ tail.toList) (dir : FilePath) :
    dir.join (text ++ tail) = ⟨(dir.join text).text ++ tail⟩ := by
  have habsolute := h.isAbsolute_append hslash
  simp only [isAbsolute, decide_eq_decide] at habsolute
  simp only [join, habsolute]
  split_ifs
  · rfl
  · rw [String.append_assoc]
  · simp only [String.append_assoc]

protected theorem join (h : IsLead text) (dir : FilePath) : IsLead (dir.join text).text := by
  unfold join
  split_ifs with hempty hslash
  · exact h
  · obtain ⟨rest, hrest⟩ := Text.endsWith_iff.mp hslash
    rcases h with rfl | ⟨front, hfront⟩
    · exact .inr ⟨rest, by simpa using hrest⟩
    · exact .inr ⟨dir.text.toList ++ front, by simp [hfront]⟩
  · rcases h with rfl | ⟨front, hfront⟩
    · exact .inr ⟨dir.text.toList, by simp⟩
    · exact .inr ⟨dir.text.toList ++ '/' :: front, by simp [hfront]⟩

end IsLead

/-- A name after the last slash leads to a child of the place before it. -/
theorem resolved_join_lead (dir : FilePath) (hslash : '/' ∉ tail.toList)
    (hlong : 2 < tail.toList.length) :
    (dir.join (lead text ++ tail)).resolved = (dir.join (lead text)).resolved ++ [.name tail] := by
  rw [(isLead_lead text).join_append hslash,
    ((isLead_lead text).join dir).resolved_append hslash hlong]

end FilePath

namespace FileTree
variable {t t' : FileTree} {place place' : Names}

end FileTree

/-- Two paths that lead to different places, both by their points alone and in the tree. -/
def FileTree.Apart (t : FileTree) (p q : FilePath) : Prop :=
  p.resolved ≠ q.resolved ∧ t.locate p ≠ t.locate q

namespace OutputFile
variable {t t' : FileTree} {fs : List OutputFile}

theorem eq_of_writeEach (xs : List (Except Problem OutputFile)) (t : FileTree) :
    (writeEach xs t).1 = { t with files := (writeEach xs t).1.files } := by
  induction xs generalizing t with
  | nil => rfl
  | cons x xs ih =>
    cases x with
    | error e => rfl
    | ok f =>
      rw [writeEach]
      split
      · rfl
      · next t₁ hwrite =>
        obtain ⟨_, _, _, rfl⟩ := FileTree.writeFile_eq_ok_iff.mp hwrite
        exact ih _

theorem sameWays_of_writeEach {xs : List (Except Problem OutputFile)}
    {result : Except Problem (List FilePath)} (h : writeEach xs t = (t', result)) : t.SameWays t' := by
  induction xs generalizing t t' result with
  | nil =>
    cases h
    exact .refl _
  | cons x xs ih =>
    cases x with
    | error e =>
      cases h
      exact .refl _
    | ok f =>
      rw [writeEach] at h
      split at h
      · cases h
        exact .refl _
      · next t₁ hwrite =>
        obtain ⟨rfl, _⟩ := Prod.mk.inj h
        exact (FileTree.sameWays_of_writeFile hwrite).trans (ih rfl)

/-- Where writing succeeds, there was a file for each, and all of them have been written. -/
theorem written_of_ok {xs : List (Except Problem OutputFile)} {paths : List FilePath}
    (h : writeEach xs t = (t', .ok paths)) : ∃ fs, xs = fs.map .ok ∧ paths = fs.map path ∧
      (∀ f ∈ fs, t.Accepts f) ∧ t.Receives fs t' := by
  induction xs generalizing t paths with
  | nil =>
    cases h
    exact ⟨[], rfl, rfl, by simp, FileTree.receives_nil rfl⟩
  | cons x xs ih =>
    cases x with
    | error e => cases h
    | ok f =>
      rw [writeEach] at h
      split at h
      · cases h
      · next t₁ hwrite =>
        obtain ⟨hrest, hmap⟩ := Prod.mk.inj h
        obtain ⟨later, hlater, rfl⟩ := map_eq_ok_iff.mp hmap
        obtain ⟨fs, rfl, rfl, haccepts, hreceives⟩ := ih (Prod.ext hrest hlater)
        have hfirst : t.SameWays t₁ := FileTree.sameWays_of_writeFile hwrite
        refine ⟨f :: fs, rfl, rfl, ?_, hreceives.cons hwrite⟩
        intro g hg
        rcases List.mem_cons.mp hg with rfl | hg
        · exact ⟨t₁, hwrite⟩
        · exact hfirst.symm.accepts (haccepts g hg)

end OutputFile

namespace TemplateSet

/-- The sets of templates that come from emitting resources for the accounts of a registry. -/
def Over (r : Registry) (s : TemplateSet) : Prop :=
  ∃ version rs, s = ((ofRegistry r version).emitAll rs).1

def filled (s : TemplateSet) (r : Registry) : List Account :=
  r.toList.filter fun a => (s.get? a.name).any Template.hasResources

def pathOf (dir : FilePath) (configName : String) (a : Account) : FilePath :=
  dir.join (templateFileName a.name a.id configName)

def fileNameOf (configName : String) (a : Account) : String :=
  templateFileName (FilePath.last a.name) a.id configName

def fileOf? (s : TemplateSet) (dir : FilePath) (configName : String) (format : OutputFormat)
    (a : Account) : Option OutputFile :=
  ((s.get? a.name).filter Template.hasResources).map fun t =>
    ⟨pathOf dir configName a, format.render t⟩

variable {r : Registry} {s : TemplateSet} {dir : FilePath} {configName : String}
  {format : OutputFormat} {a b : Account}

theorem mem_filled_iff : a ∈ s.filled r ↔
    a ∈ r.toList ∧ ∃ t, s.get? a.name = some t ∧ t.hasResources = true := by
  rw [filled, List.mem_filter, Option.any_eq_true]

theorem fileOf?_eq_some_iff {f : OutputFile} : s.fileOf? dir configName format a = some f ↔
    ∃ t, s.get? a.name = some t ∧ t.hasResources = true ∧
      f = ⟨pathOf dir configName a, format.render t⟩ := by
  unfold fileOf?
  rw [Option.map_eq_some_iff]
  simp only [Option.filter_eq_some_iff, and_assoc, eq_comm (a := f)]

theorem Over.keys_eq (hs : s.Over r) : s.templates.keys = r.accounts.keys := by
  obtain ⟨version, rs, rfl⟩ := hs
  rw [(within_emitAll _ rs).keys]
  exact NameMap.keys_map _ _

theorem outputFiles_eq (hr : r.Sound) (hs : s.Over r) :
    s.outputFiles r dir configName format =
      (r.toList.filterMap (s.fileOf? dir configName format)).map .ok := by
  have hkeys : s.templates.keys = r.toList.map Account.name := hs.keys_eq.trans hr.keys_eq
  unfold outputFiles
  rw [NameMap.entries_eq_filterMap, hkeys, List.filterMap_map, List.filter_filterMap,
    List.map_filterMap, List.map_filterMap]
  apply List.filterMap_congr
  intro a ha
  have hid : r.idOfName a.name = .ok a.id := by
    rw [Registry.idOfName, Registry.account_eq_ok_iff.mpr (hr.mem_toList_iff.mp ha)]
    rfl
  unfold fileOf? get?
  cases hget : s.templates.get? a.name with
  | none => simp [hget]
  | some t =>
    cases hfull : t.hasResources with
    | false => simp [hget, Option.filter_some, hfull]
    | true => simp [hget, Option.filter_some, hfull, hid, Except.map, pathOf]

theorem pathOf_eq (dir : FilePath) (configName : String) (a : Account) :
    pathOf dir configName a = dir.join (FilePath.lead a.name ++ fileNameOf configName a) := by
  simp only [pathOf, fileNameOf, templateFileName, ← String.append_assoc, FilePath.lead_append_last]

theorem slash_not_mem_fileNameOf (hconfig : '/' ∉ configName.toList)
    (hid : Text.isDigits a.id = true) : '/' ∉ (fileNameOf configName a).toList := by
  have hlast := FilePath.slash_not_mem_last a.name
  have hdigits : '/' ∉ a.id.toList := Text.not_mem_of_isDigits hid (by decide)
  simp [fileNameOf, templateFileName, hlast, hdigits, hconfig]

theorem two_lt_length_fileNameOf (configName : String) (a : Account) :
    2 < (fileNameOf configName a).toList.length := by
  simp [fileNameOf, templateFileName]
  omega

/-- The template of an account is a child of the place where the part of its name before the last
slash leads. -/
theorem resolved_pathOf (hconfig : '/' ∉ configName.toList) (hid : Text.isDigits a.id = true)
    (dir : FilePath) : (pathOf dir configName a).resolved =
      (dir.join (FilePath.lead a.name)).resolved ++ [.name (fileNameOf configName a)] := by
  rw [pathOf_eq, FilePath.resolved_join_lead dir (slash_not_mem_fileNameOf hconfig hid)
    (two_lt_length_fileNameOf configName a)]

/-- The same in a tree, unless the path ends in a link. -/
theorem exists_folder_of_locate (hconfig : '/' ∉ configName.toList)
    (hid : Text.isDigits a.id = true) {t : FileTree} {place : FileTree.Names}
    (h : t.locate (pathOf dir configName a) = .ok place) :
    ∃ folder, t.Reaches (dir.join (FilePath.lead a.name)) folder ∧
      (¬ t.IsLink (pathOf dir configName a) → place = folder ++ [fileNameOf configName a]) := by
  have hlead := FilePath.isLead_lead a.name
  obtain ⟨front, hfront⟩ := ((hlead.join dir).join t.current).exists_parts
  have hparts (tail : String) (hslash : '/' ∉ tail.toList) :
      t.parts (dir.join (FilePath.lead a.name ++ tail)) = front ++ [tail] := by
    rw [FileTree.parts, hlead.join_append hslash, (hlead.join dir).join_append hslash,
      hfront tail hslash]
  have hpath := hparts _ (slash_not_mem_fileNameOf hconfig hid)
  rw [← pathOf_eq] at hpath
  obtain ⟨folder, hfolder, hentry, hplace⟩ := FileTree.exists_folder hpath
    (FilePath.component?_of_length (two_lt_length_fileNameOf configName a)) h
  have hempty : t.parts (dir.join (FilePath.lead a.name)) = front ++ [""] := by
    simpa using hparts "" (by simp)
  refine ⟨folder, ?_, hplace⟩
  rw [FileTree.Reaches, hempty]
  exact hfolder.trans (.on (FileTree.entry_eq_directory_iff.mp hentry) (.done _))

theorem eq_of_write {files files' : FileTree} {result : Except Problem (List FilePath)}
    (h : s.write r dir configName format files = (files', result)) :
    files' = { files with files := files'.files, directories := files'.directories } := by
  have hmade := FileTree.eq_of_makeDirectories files dir.ancestors
  unfold write FileTree.createDirectories at h
  split at h
  · next hdirectory =>
    cases h
    rw [hdirectory] at hmade
    have hready : files' = { files with directories := files'.directories } := hmade
    rw [hready]
  · next ready hdirectory =>
    rw [hdirectory] at hmade
    have hready : ready = { files with directories := ready.directories } := hmade
    have hwritten := OutputFile.eq_of_writeEach (s.outputFiles r dir configName format) ready
    rw [h] at hwritten
    have hleft : files' = { ready with files := files'.files } := hwritten
    rw [hleft, hready]

end TemplateSet

/-- Accounts whose names hold underscores, digits, slashes and points. -/
def namesakes : List Account :=
  [{ name := "a", id := "1", isParent := true }, { name := "a_1", id := "2" },
    { name := "x/../a", id := "3" }]

def namesakeRegistry : Registry where
  accounts := .ofList (namesakes.map fun a => (a.name, a))
  owners := .ofList (namesakes.map fun a => (a.id, a.name))
  parent := { name := "a", id := "1", isParent := true }

def namesakeTemplates : TemplateSet :=
  ((TemplateSet.ofRegistry namesakeRegistry "1").emitAll (namesakes.map fun a =>
    { account := a.name, logicalId := "amyUser", kind := .user })).1

/-- What is there before the namesakes are written, seen from elsewhere. -/
def namesakeTree : FileTree :=
  (FileTree.workingIn {} ["home"]).add ["tmp", "out", "x", "notes"] ""

def namesakeFiles : FileTree × Except Problem (List FilePath) :=
  namesakeTemplates.write namesakeRegistry ⟨"/tmp/out"⟩ "org" .json namesakeTree

end OrgStacks
