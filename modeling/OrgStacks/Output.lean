import OrgStacks.FileTree
import OrgStacks.Json.Printer
import OrgStacks.Template
import OrgStacks.Yaml.Printer

/-!
# Writing templates

Each account with at least one resource gets a file of its own in the output directory. Accounts are
written in name order; a failure ends the writing, and the files written before it stay.
-/

set_option autoImplicit false

namespace OrgStacks

inductive OutputFormat where
  | json | yaml
deriving DecidableEq, Inhabited

namespace OutputFormat

def name : OutputFormat → String
  | json => "json"
  | yaml => "yaml"

def ofName? (text : String) : Option OutputFormat := [json, yaml].find? fun f => f.name == text

def standard : OutputFormat := yaml

def render (format : OutputFormat) (t : Template) : String :=
  match format with
  | json => t.toJson.pretty
  | yaml => Yaml.Printer.document t.toJson

end OutputFormat

def templateFileName (account id configName : String) : String :=
  account ++ "_" ++ id ++ "_" ++ configName ++ ".template"

structure OutputFile where
  path : FilePath
  text : String
deriving Inhabited

namespace OutputFile

def problem (path : FilePath) (e : FileError) : Problem :=
  .io ("failed to write " ++ path.text ++ ": " ++ e.message)

def directoryProblem (dir : FilePath) (e : FileError) : Problem :=
  .io ("failed to create " ++ dir.text ++ ": " ++ e.message)

/-- The files after writing until something fails, and the paths that were written. -/
def writeEach : List (Except Problem OutputFile) → FileTree →
    FileTree × Except Problem (List FilePath)
  | [], files => (files, .ok [])
  | .error e :: _, files => (files, .error e)
  | .ok f :: rest, files =>
    match files.writeFile f.path f.text with
    | .error e => (files, .error (problem f.path e))
    | .ok files =>
      let (files, written) := writeEach rest files
      (files, written.map (f.path :: ·))

end OutputFile

namespace TemplateSet

def outputFiles (s : TemplateSet) (r : Registry) (dir : FilePath) (configName : String)
    (format : OutputFormat) : List (Except Problem OutputFile) :=
  (s.templates.entries.filter fun e => e.2.hasResources).map fun e =>
    (r.idOfName e.1).map fun id =>
      ⟨dir.join (templateFileName e.1 id configName), format.render e.2⟩

def write (s : TemplateSet) (r : Registry) (dir : FilePath) (configName : String)
    (format : OutputFormat) (files : FileTree) : FileTree × Except Problem (List FilePath) :=
  match files.createDirectories dir with
  | (files, .error e) => (files, .error (OutputFile.directoryProblem dir e))
  | (files, .ok ()) => OutputFile.writeEach (s.outputFiles r dir configName format) files

end TemplateSet

end OrgStacks
