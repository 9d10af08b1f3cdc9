import OrgStacks.CommandLine.Needs
import Std.Time.DateTime

/-!
# The program

Looks up what a run needs, and does what `CommandLine` decides.
-/

set_option autoImplicit false

namespace OrgStacks.CommandLine

def systemError? : IO.Error → Option (UInt32 × String)
  | .otherError n text | .resourceBusy n text | .resourceVanished n text
  | .unsupportedOperation n text | .hardwareFault n text | .unsatisfiedConstraints n text
  | .illegalOperation n text | .protocolError n text | .timeExpired n text
  | .interrupted _ n text | .noFileOrDirectory _ n text | .alreadyExists _ n text
  | .invalidArgument _ n text | .permissionDenied _ n text | .resourceExhausted _ n text
  | .inappropriateType _ n text | .noSuchThing _ n text => some (n, text)
  | .unexpectedEof | .userError _ => none

/-- The number is negated by some calls. -/
def errorNumber (n : UInt32) : Nat :=
  if n.toNat < Nat.pow 2 31 then n.toNat else Nat.pow 2 32 - n.toNat

def fileError (e : IO.Error) : FileError :=
  match systemError? e with
  | none => .unreadable "stream did not contain valid UTF-8"
  | some (n, text) =>
    match errorNumber n with
    | 2 => .notFound
    | 17 => .occupied
    | 20 => .notDirectory
    | 21 => .isDirectory
    | 36 => .nameTooLong
    | 40 => .tooManyLinks
    | n => .unreadable (text.capitalize ++ " (os error " ++ toString n ++ ")")

def attempt {α : Type} (action : IO α) : IO (Except FileError α) := do
  return (← action.toBaseIO).mapError fileError

structure Surroundings where
  files : NameMap (Except FileError String) := .empty
  environment : NameMap String := .empty

namespace Surroundings

def source (s : Surroundings) : FileSource :=
  ⟨fun path => (s.files.get? path.text).getD (.error .notFound)⟩

def lookUpFile (s : Surroundings) (path : FilePath) : IO Surroundings := do
  if s.files.contains path.text then return s
  return { s with files := s.files.insert path.text (← attempt (IO.FS.readFile path.text)) }

def lookUpVariable (s : Surroundings) (name : String) : IO Surroundings := do
  match ← IO.getEnv name with
  | some value => return { s with environment := s.environment.insert name value }
  | none => return s

partial def lookUpDocument (s : Surroundings) (path : FilePath) : IO Surroundings := do
  if s.files.contains path.text || path.isTooLong then return s
  let s ← s.lookUpFile path
  match s.source.read path with
  | .error _ => return s
  | .ok text =>
    let document := documentOf text
    let s ← (variableNames document).foldlM lookUpVariable s
    (includedFiles document).foldlM (fun s file =>
      s.lookUpDocument ((path.parent.getD ⟨""⟩).join file)) s

end Surroundings

/-- The time in the form that versions have, in coordinated universal time. -/
def currentVersion : IO String := do
  let now := Std.Time.PlainDateTime.ofWallTime ((← Std.Time.Timestamp.now).toWallTime .zero)
  let digits (width : Nat) (n : Nat) : String :=
    let text := toString n
    String.ofList (List.replicate (width - text.length) '0') ++ text
  return digits 4 now.date.year.toInt.toNat ++ "-" ++ digits 2 now.date.month.val.toNat ++ "-" ++
    digits 2 now.date.day.val.toNat ++ "Z" ++ digits 2 now.time.hour.val.toNat ++ ":" ++
    digits 2 now.time.minute.val.toNat ++ ":" ++ digits 2 now.time.second.val.toNat

def isDirectory (path : FilePath) : IO Bool := do
  try (← IO.FS.realPath path.text).isDir catch _ => return false

partial def createDirectories (path : FilePath) : IO (Except FileError Unit) := do
  if path.components.isEmpty then return .ok ()
  match ← attempt (IO.FS.createDir path.text) with
  | .ok () => return .ok ()
  | .error e =>
    if ← isDirectory path then return .ok ()
    if e ≠ .notFound then return .error e
    match path.parent with
    | none => return .error e
    | some dir =>
      match ← createDirectories dir with
      | .error e => return .error e
      | .ok () =>
        let made ← attempt (IO.FS.createDir path.text)
        if ← isDirectory path then return .ok () else return made

def writeFiles (verbose : Bool) :
    List (Except Problem OutputFile) → IO (Except Problem (List FilePath))
  | [] => return .ok []
  | .error e :: _ => return .error e
  | .ok f :: rest => do
    match ← attempt (IO.FS.writeFile f.path.text f.text) with
    | .error e => return .error (OutputFile.problem f.path e)
    | .ok () =>
      if verbose then IO.eprintln ("INFO wrote " ++ f.path.text)
      return (← writeFiles verbose rest).map (f.path :: ·)

namespace Invocation

def execute (i : Invocation) : IO (Except Failure (List FilePath)) := do
  let s ← ({} : Surroundings).lookUpDocument i.filename
  let s ← (secretsFiles i.filename).foldlM Surroundings.lookUpFile s
  match i.load s.source s.environment with
  | .error f => return .error f
  | .ok config =>
    let s ← (policyFiles config i.policyDir).foldlM Surroundings.lookUpFile s
    match i.compile s.source config (← currentVersion) with
    | .error f => return .error f
    | .ok c =>
      match ← createDirectories i.outputDir with
      | .error e =>
        return .error (i.writingFailure (OutputFile.directoryProblem i.outputDir e))
      | .ok () =>
        return (← writeFiles (i.verbose || i.debug) (i.outputFiles c)).mapError i.writingFailure

end Invocation

def outcome (arguments : List String) : IO Outcome := do
  let variableValue ← IO.getEnv filenameVariable
  match Request.parse arguments variableValue with
  | .error e => return .misused e
  | .ok .help => return .printed (helpText variableValue)
  | .ok .version => return .printed versionText
  | .ok (.compile i) =>
    match ← i.execute with
    | .error f => return .failed f
    | .ok paths => return .written paths

end OrgStacks.CommandLine

def main (arguments : List String) : IO UInt32 := do
  let outcome ← OrgStacks.CommandLine.outcome arguments
  IO.print outcome.output
  IO.eprint outcome.complaint
  return outcome.exitCode.toUInt32
