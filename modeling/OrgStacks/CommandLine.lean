import OrgStacks.CommandLine.Help
import OrgStacks.Compilation
import OrgStacks.Config.Reader

/-!
# Running the program

A run loads a configuration, compiles it and writes the templates. The paths of the templates go to
standard output; a failure goes to standard error, with what was being done when it came up. The
exit code is 0 for success, 1 for a failure and 2 for arguments that cannot be used.
-/

set_option autoImplicit false

namespace OrgStacks.CommandLine

structure Failure where
  activity : String
  cause : CompileError
deriving Inhabited

namespace Failure

/-- The activity, and below it the cause, each of whose lines is indented. -/
def report (f : Failure) : String :=
  let lines := (Text.splitOnChar '\n' f.cause.message.toList).map String.ofList
  "Error: " ++ f.activity ++ "\n\nCaused by:\n" ++
    Text.joinWith "\n" (lines.map ("    " ++ ·)) ++ "\n"

end Failure

def during {α : Type} (activity : String) : Except CompileError α → Except Failure α :=
  Except.mapError fun cause => ⟨activity, cause⟩

namespace Invocation

def configName (i : Invocation) : String := i.filename.fileStem?.getD "config"

def load (i : Invocation) (files : FileSource) (environment : NameMap String) :
    Except Failure Config :=
  during ("loading " ++ i.filename.text)
    ((Config.load files i.filename environment).mapError .problem)

def compile (i : Invocation) (files : FileSource) (config : Config) (version : String) :
    Except Failure Compilation :=
  during "compiling configuration"
    (config.compile (.ofDirectory files i.policyDir) version)

def writingFailure (i : Invocation) (p : Problem) : Failure :=
  ⟨"writing templates to " ++ i.outputDir.text, .problem p⟩

def outputFiles (i : Invocation) (c : Compilation) : List (Except Problem OutputFile) :=
  c.templates.outputFiles c.registry i.outputDir i.configName i.format

def run (i : Invocation) (files : FileTree) (environment : NameMap String) (version : String) :
    FileTree × Except Failure (List FilePath) :=
  let compiled : Except Failure Compilation := do
    let config ← i.load files.source environment
    i.compile files.source config version
  match compiled with
  | .error e => (files, .error e)
  | .ok c =>
    let (files, written) := c.templates.write c.registry i.outputDir i.configName i.format files
    (files, written.mapError i.writingFailure)

end Invocation

structure Outcome where
  exitCode : Nat
  output : String := ""
  complaint : String := ""
deriving Inhabited

namespace Outcome

/-- The paths that were written, one on each line. -/
def written (paths : List FilePath) : Outcome where
  exitCode := 0
  output := String.join (paths.map fun p => p.text ++ "\n")

def failed (f : Failure) : Outcome where
  exitCode := 1
  complaint := f.report

def misused (e : UsageError) : Outcome where
  exitCode := 2
  complaint := usageReport e

def printed (text : String) : Outcome where
  exitCode := 0
  output := text

end Outcome

/-- The files after a call of the program, and what it shows. -/
def run (arguments : List String) (files : FileTree) (environment : NameMap String)
    (version : String) : FileTree × Outcome :=
  let variableValue := environment.get? filenameVariable
  match Request.parse arguments variableValue with
  | .error e => (files, .misused e)
  | .ok .help => (files, .printed (helpText variableValue))
  | .ok .version => (files, .printed versionText)
  | .ok (.compile i) =>
    match i.run files environment version with
    | (files, .error f) => (files, .failed f)
    | (files, .ok paths) => (files, .written paths)

end OrgStacks.CommandLine
