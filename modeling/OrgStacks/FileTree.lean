import OrgStacks.FileSource
import OrgStacks.NameMap

/-!
# Files and directories

A tree of files below a root. A path is followed name by name, from the root or from the working
directory; every name but the last has to be a directory, and a link leads on to where it points.
Nothing is ever removed from a tree, so a further name of a file is no different from a link to the
first one.
-/

set_option autoImplicit false

namespace OrgStacks

/-- Files, directories and links by the names that lead to them from the root, joined by slashes. -/
structure FileTree where
  files : NameMap String := .empty
  directories : NameSet := .empty
  links : NameMap FilePath := .empty
  /-- The working directory, as a path from the root. -/
  current : FilePath := ⟨""⟩

namespace FileTree

instance : Inhabited FileTree := ⟨{}⟩

abbrev Names := List String

def key (names : Names) : String := Text.joinWith "/" names

inductive Entry where
  | file (text : String)
  | directory
  | link (target : FilePath)
  | nothing

def entry (t : FileTree) (names : Names) : Entry :=
  if names.isEmpty then .directory
  else match t.links.get? (key names) with
    | some target => .link target
    | none => match t.files.get? (key names) with
      | some text => .file text
      | none => if t.directories.contains (key names) then .directory else .nothing

/-- Every non-empty beginning of a list of names but the whole. -/
def leads (names : Names) : List Names :=
  ((List.range names.length).map fun n => names.take n).filter fun l => !l.isEmpty

def addDirectories (t : FileTree) (names : List Names) : FileTree :=
  { t with directories := names.foldl (fun s l => s.insert (key l)) t.directories }

/-- The tree with a file and the directories that lead to it. -/
def add (t : FileTree) (names : Names) (text : String) : FileTree :=
  { t.addDirectories (leads names) with files := t.files.insert (key names) text }

def workingIn (t : FileTree) (names : Names) : FileTree :=
  { t.addDirectories (leads names ++ [names]) with current := ⟨"/" ++ key names⟩ }

/-- How many links are followed for one path. -/
def maxLinks : Nat := 40

/-- What one name leads to: a place, or a link, which says from where to go on and by which names. -/
inductive Turn where
  | place (names : Names)
  | link (start : Names) (names : List String)

/-- Follows one name from a place. An empty name and a point stay there, and above the root is the
root. -/
def step (t : FileTree) (place : Names) (part : String) : Except FileError Turn :=
  match t.entry place with
  | .nothing => .error .notFound
  | .file _ | .link _ => .error .notDirectory
  | .directory =>
    if part = "" || part = "." then .ok (.place place)
    else if part = ".." then .ok (.place place.dropLast)
    else if part.utf8ByteSize > 255 then .error .nameTooLong
    else match t.entry (place ++ [part]) with
      | .link target => .ok (.link (if target.isAbsolute then [] else place) target.parts)
      | _ => .ok (.place (place ++ [part]))

/-- Follows names from a place until a link comes, which `jump` takes on with the names behind it.
A link that comes last is itself the place unless the path goes through it. -/
def walkTo (t : FileTree) (through : Bool) (jump : Names → List String → Except FileError Names) :
    Names → List String → Except FileError Names
  | place, [] => .ok place
  | place, part :: parts =>
    match t.step place part with
    | .error e => .error e
    | .ok (.place next) => t.walkTo through jump next parts
    | .ok (.link start names) =>
      if parts.isEmpty && !through then .ok (place ++ [part]) else jump start (names ++ parts)

def walk (t : FileTree) (through : Bool) : Nat → Names → List String → Except FileError Names
  | 0 => t.walkTo through fun _ _ => .error .tooManyLinks
  | links + 1 => t.walkTo through (t.walk through links)

def parts (t : FileTree) (p : FilePath) : List String := (t.current.join p.text).parts

def refusal? (p : FilePath) : Option FileError :=
  if p.text.toList.contains '\x00' then some .nulByte
  else if p.text.isEmpty then some .notFound
  else if p.isTooLong then some .nameTooLong
  else none

/-- The place that a path leads to; something need not be there. -/
def locate (t : FileTree) (p : FilePath) : Except FileError Names :=
  match refusal? p with
  | some e => .error e
  | none => t.walk true maxLinks [] (t.parts p)

/-- The place of the last name of a path, also where that is a link. Slashes at the end do not
count. -/
def spot (t : FileTree) (p : FilePath) : Except FileError Names :=
  match refusal? p with
  | some e => .error e
  | none => t.walk false maxLinks [] ((t.parts p).reverse.dropWhile (· = "")).reverse

def readFile (t : FileTree) (p : FilePath) : Except FileError String := do
  match t.entry (← t.locate p) with
  | .file text => .ok text
  | .directory => .error .isDirectory
  | .link _ | .nothing => .error .notFound

def source (t : FileTree) : FileSource := ⟨t.readFile⟩

def isDirectory (t : FileTree) (p : FilePath) : Bool :=
  match t.locate p with
  | .ok place => match t.entry place with
    | .directory => true
    | _ => false
  | .error _ => false

def makeDirectory (t : FileTree) (p : FilePath) : Except FileError FileTree := do
  let place ← t.spot p
  match t.entry place with
  | .nothing => .ok (t.addDirectories [place])
  | _ => .error .occupied

/-- The tree with a directory and those that lead to it. Directories that were made before a failure
stay. -/
def makeDirectories (t : FileTree) : List FilePath → FileTree × Except FileError Unit
  | [] => (t, .ok ())
  | p :: leads =>
    if p.components.isEmpty then (t, .ok ())
    else match t.makeDirectory p with
      | .ok t => (t, .ok ())
      | .error e =>
        if t.isDirectory p then (t, .ok ())
        else if e ≠ .notFound then (t, .error e)
        else match t.makeDirectories leads with
          | (t, .error e) => (t, .error e)
          | (t, .ok ()) =>
            match t.makeDirectory p with
            | .ok t => (t, .ok ())
            | .error e => (t, if t.isDirectory p then .ok () else .error e)

def createDirectories (t : FileTree) (p : FilePath) : FileTree × Except FileError Unit :=
  t.makeDirectories p.ancestors

def writeFile (t : FileTree) (p : FilePath) (text : String) : Except FileError FileTree := do
  let place ← t.locate p
  match t.entry place with
  | .directory => .error .isDirectory
  | _ => .ok { t with files := t.files.insert (key place) text }

end FileTree

end OrgStacks
