import OrgStacks.Text

/-!
# Paths

A path is kept as it was written. Its components leave out empty names, and single points except at
the start; two paths with the same components are the same place to a reader of configurations.
-/

set_option autoImplicit false

namespace OrgStacks

structure FilePath where
  text : String
deriving DecidableEq, Inhabited

namespace FilePath

inductive Component where
  | root | here | up
  | name (text : String)
deriving DecidableEq, Inhabited

def isAbsolute (p : FilePath) : Bool := p.text.toList.head? = some '/'

def parts (p : FilePath) : List String := (Text.splitOnChar '/' p.text.toList).map String.ofList

def component? : String → Option Component
  | "" | "." => none
  | ".." => some .up
  | text => some (.name text)

def components (p : FilePath) : List Component :=
  let first : List Component :=
    if p.isAbsolute then [.root] else if p.parts.head? = some "." then [.here] else []
  first ++ p.parts.filterMap component?

def same (p q : FilePath) : Bool := p.components = q.components

/-- A path inside a directory; an absolute path stays as it is. -/
def join (dir : FilePath) (path : String) : FilePath :=
  if path.toList.head? = some '/' || dir.text.isEmpty then ⟨path⟩
  else if Text.endsWith "/" dir.text then ⟨dir.text ++ path⟩
  else ⟨dir.text ++ "/" ++ path⟩

/-- The text up to the last slash, without the slashes at its end; a leading slash stays. -/
def dropSlashes (reversed : List Char) : List Char :=
  match reversed.dropWhile (· = '/') with
  | [] => if reversed.isEmpty then [] else ['/']
  | cs => cs

/-- Drops names that are no component from the end of a reversed text. -/
def dropNothing : Nat → List Char → List Char
  | 0, cs => cs
  | fuel + 1, cs =>
    match dropSlashes cs with
    | '.' :: '/' :: rest => dropNothing fuel ('/' :: rest)
    | cs => cs

def parent (p : FilePath) : Option FilePath :=
  match p.components.getLast? with
  | none => none
  | some .root => none
  | some _ =>
    let n := p.text.length
    let last := (dropNothing n p.text.toList.reverse).dropWhile (· ≠ '/')
    some ⟨String.ofList (dropNothing n last).reverse⟩

def ancestorsUpTo : Nat → FilePath → List FilePath
  | 0, _ => []
  | fuel + 1, p => p :: match p.parent with
    | some dir => ancestorsUpTo fuel dir
    | none => []

/-- A path has fewer proper ancestors than characters, and itself and the empty path at most. -/
def ancestors (p : FilePath) : List FilePath := ancestorsUpTo (p.text.length + 2) p

def fileName? (p : FilePath) : Option String :=
  match p.components.getLast? with
  | some (.name text) => some text
  | _ => none

/-- The text before the last point, unless nothing is before it. -/
def stem (name : String) : String :=
  match (Text.splitOnChar '.' name.toList).dropLast with
  | [] => name
  | parts => match Text.joinWith "." (parts.map String.ofList) with
    | "" => name
    | text => text

def fileStem? (p : FilePath) : Option String := p.fileName?.map stem

end FilePath

end OrgStacks
