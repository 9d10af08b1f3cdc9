import OrgStacks.Output

/-!
# Arguments

Arguments are read from left to right into settings. An option takes its value from the same
argument or from the next one, which must not look like an option; single letters may be joined, and
the last of them may be an option. Reading ends at the first thing that is wrong, and at a request
for help or for the version.
-/

set_option autoImplicit false

namespace OrgStacks.CommandLine

inductive ValueOption where
  | filename | policyDir | outputDir | format
deriving DecidableEq, Inhabited

inductive Flag where
  | verbose | debug | help | version
deriving DecidableEq, Inhabited

inductive Switch where
  | value (option : ValueOption)
  | flag (flag : Flag)
deriving DecidableEq, Inhabited

namespace Switch

def ofLong? : String → Option Switch
  | "filename" => some (.value .filename)
  | "policy-dir" => some (.value .policyDir)
  | "output-dir" => some (.value .outputDir)
  | "format" => some (.value .format)
  | "verbose" => some (.flag .verbose)
  | "debug" => some (.flag .debug)
  | "help" => some (.flag .help)
  | "version" => some (.flag .version)
  | _ => none

def ofLetter? : Char → Option Switch
  | 'f' => some (.value .filename)
  | 'v' => some (.flag .verbose)
  | 'd' => some (.flag .debug)
  | 'h' => some (.flag .help)
  | 'V' => some (.flag .version)
  | _ => none

end Switch

namespace ValueOption

def display : ValueOption → String
  | filename => "--filename <FILENAME>"
  | policyDir => "--policy-dir <POLICY_DIR>"
  | outputDir => "--output-dir <OUTPUT_DIR>"
  | format => "--format <FORMAT>"

end ValueOption

namespace Flag

def display : Flag → String
  | verbose => "--verbose"
  | debug => "--debug"
  | help => "--help"
  | version => "--version"

end Flag

inductive UsageError where
  | unexpected (argument : String)
  | missingValue (option : ValueOption)
  | invalidValue (option : ValueOption) (value : String)
  | needlessValue (flag : Flag) (value : String)
  | repeated (display : String)
  | missingFilename
deriving DecidableEq, Inhabited

namespace UsageError

def message : UsageError → String
  | unexpected argument => "unexpected argument '" ++ argument ++ "' found"
  | missingValue option =>
    "a value is required for '" ++ option.display ++ "' but none was supplied"
  | invalidValue option value => "invalid value '" ++ value ++ "' for '" ++ option.display ++ "'"
  | needlessValue flag value =>
    "unexpected value '" ++ value ++ "' for '" ++ flag.display ++ "' found; no more were expected"
  | repeated display => "the argument '" ++ display ++ "' cannot be used multiple times"
  | missingFilename =>
    "the following required arguments were not provided:\n  " ++ ValueOption.filename.display

end UsageError

inductive Setting where
  | set (option : ValueOption) (value : String)
  | raise (flag : Flag)
deriving DecidableEq, Inhabited

/-- Settings in order; what follows an error does not count. -/
abbrev Settings := List (Except UsageError Setting)

/-- The settings of joined letters, and the option that still waits for its value. -/
def letters : List Char → Settings × Option ValueOption
  | [] => ([], none)
  | c :: rest =>
    match Switch.ofLetter? c with
    | none => ([.error (.unexpected (String.ofList ['-', c]))], none)
    | some (.flag flag) =>
      let (more, waiting) := letters rest
      (.ok (.raise flag) :: more, waiting)
    | some (.value option) =>
      match rest with
      | [] => ([], some option)
      | '=' :: value => ([.ok (.set option (String.ofList value))], none)
      | value => ([.ok (.set option (String.ofList value))], none)

def long (argument : String) (name : List Char) : Settings × Option ValueOption :=
  let (name, value) := match Text.splitFirst? ['='] name with
    | some (name, value) => (String.ofList name, some (String.ofList value))
    | none => (String.ofList name, none)
  match Switch.ofLong? name, value with
  | none, _ => ([.error (.unexpected argument)], none)
  | some (.value option), some value => ([.ok (.set option value)], none)
  | some (.value option), none => ([], some option)
  | some (.flag flag), none => ([.ok (.raise flag)], none)
  | some (.flag flag), some value => ([.error (.needlessValue flag value)], none)

/-- Whether an argument is never a value. A single hyphen may be one. -/
def looksLikeOption (argument : String) : Bool :=
  match argument.toList with
  | '-' :: _ :: _ => true
  | _ => false

def single (argument : String) : Settings × Option ValueOption :=
  match argument.toList with
  | '-' :: '-' :: name => long argument name
  | '-' :: c :: cs => letters (c :: cs)
  | _ => ([.error (.unexpected argument)], none)

/-- The settings of a list of arguments, when an option may wait for its value. Two hyphens end the
options, and nothing may follow them. -/
def settings (waiting : Option ValueOption) : List String → Settings
  | [] => match waiting with
    | none => []
    | some option => [.error (.missingValue option)]
  | argument :: rest =>
    match waiting with
    | some option =>
      if looksLikeOption argument then [.error (.missingValue option)]
      else .ok (.set option argument) :: settings none rest
    | none =>
      if argument = "--" then rest.head?.toList.map fun a => .error (.unexpected a)
      else
        let (first, waiting) := single argument
        first ++ settings waiting rest

structure Invocation where
  filename : FilePath
  policyDir : FilePath := ⟨"policy"⟩
  outputDir : FilePath := ⟨"output_templates"⟩
  format : OutputFormat := .standard
  verbose : Bool := false
  debug : Bool := false
deriving Inhabited

inductive Request where
  | compile (invocation : Invocation)
  | help
  | version
deriving Inhabited

structure Options where
  filename : Option FilePath := none
  policyDir : Option FilePath := none
  outputDir : Option FilePath := none
  format : Option OutputFormat := none
  verbose : Bool := false
  debug : Bool := false
deriving Inhabited

namespace Options

def isSet (o : Options) : ValueOption → Bool
  | .filename => o.filename.isSome
  | .policyDir => o.policyDir.isSome
  | .outputDir => o.outputDir.isSome
  | .format => o.format.isSome

/-- A path is not empty. -/
def readPath (option : ValueOption) (value : String) : Except UsageError FilePath :=
  if value.isEmpty then .error (.missingValue option) else .ok ⟨value⟩

def readFormat (value : String) : Except UsageError OutputFormat :=
  match OutputFormat.ofName? value with
  | some f => .ok f
  | none => .error (.invalidValue .format value)

/-- No option is set twice. -/
def set (o : Options) (option : ValueOption) (value : String) : Except UsageError Options :=
  if o.isSet option then .error (.repeated option.display)
  else match option with
    | .filename => (readPath option value).map fun p => { o with filename := some p }
    | .policyDir => (readPath option value).map fun p => { o with policyDir := some p }
    | .outputDir => (readPath option value).map fun p => { o with outputDir := some p }
    | .format => (readFormat value).map fun f => { o with format := some f }

def invocation (o : Options) (fallback : Option String) : Except UsageError Invocation := do
  let filename ← match o.filename, fallback with
    | some p, _ => .ok p
    | none, some text => readPath .filename text
    | none, none => .error .missingFilename
  let standard : Invocation := { filename, verbose := o.verbose, debug := o.debug }
  return { standard with
    policyDir := o.policyDir.getD standard.policyDir
    outputDir := o.outputDir.getD standard.outputDir
    format := o.format.getD standard.format }

def read (fallback : Option String) : Options → Settings → Except UsageError Request
  | o, [] => (o.invocation fallback).map .compile
  | _, .error e :: _ => .error e
  | o, .ok (.set option value) :: rest => do read fallback (← o.set option value) rest
  | _, .ok (.raise .help) :: _ => .ok .help
  | _, .ok (.raise .version) :: _ => .ok .version
  | o, .ok (.raise .verbose) :: rest =>
    if o.verbose then .error (.repeated Flag.verbose.display)
    else read fallback { o with verbose := true } rest
  | o, .ok (.raise .debug) :: rest =>
    if o.debug then .error (.repeated Flag.debug.display)
    else read fallback { o with debug := true } rest

end Options

/-- What the arguments ask for. The fallback names the configuration when no argument does. -/
def Request.parse (arguments : List String) (fallback : Option String) :
    Except UsageError Request :=
  Options.read fallback {} (settings none arguments)

end OrgStacks.CommandLine
