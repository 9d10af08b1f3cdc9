import OrgStacks.FileSource
import OrgStacks.NameMap
import OrgStacks.Problem
import OrgStacks.Yaml.Document

/-!
# Tags of a configuration

A tagged value is replaced: `!env_var` by an environment variable, `!secret` by an entry of the
secrets files, `!include` by the contents of another file, whose own tags are replaced as well. Any
other tag is refused. Keys of mappings are left as they are.
-/

set_option autoImplicit false

namespace OrgStacks

structure Substitution where
  files : FileSource := .empty
  /-- The directory that included files are relative to. -/
  base : Option FilePath := none
  secrets : List (Yaml × Yaml) := []
  environment : NameMap String := .empty
  /-- The files that are being included, the outermost first. -/
  including : List FilePath := []

namespace Substitution

def readYaml (files : FileSource) (path : FilePath) : Except Problem Yaml :=
  match files.read path with
  | .error e => .error (.io ("failed to read " ++ path.text ++ ": " ++ e.message))
  | .ok text =>
    match Yaml.parse text with
    | .error e => .error (.parse e.message)
    | .ok value => .ok value

mutual

/-- The value with every tagged part replaced, but for the keys of mappings. -/
def replaceTagged (replacement : String → Yaml → Except Problem Yaml) :
    Yaml → Except Problem Yaml
  | .tagged tag value => replacement tag value
  | .seq items => (replaceInItems replacement items).map .seq
  | .map pairs => (replaceInPairs replacement pairs).map .map
  | .null => .ok .null
  | .bool b => .ok (.bool b)
  | .int n => .ok (.int n)
  | .float x => .ok (.float x)
  | .str s => .ok (.str s)

def replaceInItems (replacement : String → Yaml → Except Problem Yaml) :
    List Yaml → Except Problem (List Yaml)
  | [] => .ok []
  | item :: items => do
    let item ← replaceTagged replacement item
    let items ← replaceInItems replacement items
    return item :: items

def replaceInPairs (replacement : String → Yaml → Except Problem Yaml) :
    List (Yaml × Yaml) → Except Problem (List (Yaml × Yaml))
  | [] => .ok []
  | (key, value) :: pairs => do
    let value ← replaceTagged replacement value
    let pairs ← replaceInPairs replacement pairs
    return (key, value) :: pairs

end

def argument? : Yaml → Option String
  | .str s => some s
  | .int n => some (toString n)
  | .float x => some <|
    if Decimal.isNaN x then ".nan"
    else if Decimal.isFinite x then Decimal.Style.yaml.writeFloat x
    else if x < 0.0 then "-.inf" else ".inf"
  | .bool b => some (if b then "true" else "false")
  | _ => none

/-- A variable's name and its value when it is not set, the words after the name. -/
def variableValue (s : Substitution) (argument : String) : Except Problem Yaml :=
  match (Text.words argument.toList).map String.ofList with
  | [] => .error (.parse "!env_var needs a variable name")
  | name :: rest =>
    match s.environment.get? name with
    | some value => .ok (.str value)
    | none => if rest.isEmpty then .error (.undefinedVariable name)
      else .ok (.str (Text.joinWith " " rest))

/-- A secret is taken as it is, with its tags. -/
def secretValue (s : Substitution) (key : String) : Except Problem Yaml :=
  match Yaml.valueAt? (.str key) s.secrets with
  | some value => .ok value
  | none => .error (.undefinedSecret key)

def included (s : Substitution) (next : Substitution → Yaml → Except Problem Yaml)
    (file : String) : Except Problem Yaml :=
  match s.base with
  | none =>
    .error (.parse ("!include " ++ file ++ " needs a configuration file to be relative to"))
  | some dir =>
    let path := dir.join file
    if s.including.any path.same then .error (.parse (path.text ++ " includes itself"))
    else do
      let value ← readYaml s.files path
      next { s with base := path.parent, including := s.including ++ [path] } value

def replacement (s : Substitution) (next : Substitution → Yaml → Except Problem Yaml)
    (tag : String) (value : Yaml) : Except Problem Yaml :=
  let name := String.ofList (tag.toList.dropWhile (· = '!'))
  match argument? value with
  | none => .error (.parse ("tag !" ++ name ++ " takes a single scalar argument"))
  | some argument =>
    if name = "env_var" then s.variableValue argument
    else if name = "secret" then s.secretValue argument
    else if name = "include" then s.included next argument
    else .error (.parse ("unsupported tag !" ++ name))

/-- The value with its tags replaced, when no more than `fuel` files include one another. -/
def applyWithin : Nat → Substitution → Yaml → Except Problem Yaml
  | 0, _, _ => .error (.parse "too many files include one another")
  | fuel + 1, s, value => replaceTagged (s.replacement (applyWithin fuel)) value

/-- The value with its tags replaced. No file is included twice on the way to another, so fewer
files include one another than there are paths to read from. -/
def apply (s : Substitution) (value : Yaml) : Except Problem Yaml :=
  applyWithin FilePath.readableBound s value

def secretsFile : String := "secrets.yaml"

/-- The entries of more distant files, added where the key is new. -/
def addSecrets (secrets more : List (Yaml × Yaml)) : List (Yaml × Yaml) :=
  more.foldl (fun known e =>
    if known.any fun k => e.1.same k.1 then known else known ++ [e]) secrets

def secretsIn (files : FileSource) (dir : FilePath) : Except Problem (List (Yaml × Yaml)) :=
  let path := dir.join secretsFile
  if files.isFile path then
    match readYaml files path with
    | .error e => .error e
    | .ok (.map entries) => .ok entries
    | .ok _ => .error (.parse (path.text ++ " must be a mapping of secret names to values"))
  else .ok []

/-- The secrets of the directories, the nearest first. -/
def secretsOf (files : FileSource) : List FilePath → Except Problem (List (Yaml × Yaml))
  | [] => .ok []
  | dir :: dirs => do
    let near ← secretsIn files dir
    let distant ← secretsOf files dirs
    return addSecrets near distant

/-- For a configuration file in a directory: secrets are looked up in it and in the directories
around it. -/
def ofDirectory (files : FileSource) (dir : FilePath) (environment : NameMap String) :
    Except Problem Substitution := do
  let secrets ← secretsOf files dir.ancestors
  return { files, base := some dir, secrets, environment }

end Substitution

end OrgStacks
