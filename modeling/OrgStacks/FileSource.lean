import OrgStacks.FilePath

/-!
# Reading files

Everything that reads a file does it through a `FileSource`, which says for each path what its text
is or why there is none. A path of 4096 bytes or more is never read, so there are fewer than
`FilePath.readableBound` paths with a text.
-/

set_option autoImplicit false

namespace OrgStacks

inductive FileError where
  | notFound | occupied | notDirectory | isDirectory | nameTooLong | tooManyLinks | nulByte
  /-- The file is there, but the system does not give its text. -/
  | unreadable (reason : String)
deriving DecidableEq, Inhabited

namespace FileError

def message : FileError → String
  | notFound => "No such file or directory (os error 2)"
  | occupied => "File exists (os error 17)"
  | notDirectory => "Not a directory (os error 20)"
  | isDirectory => "Is a directory (os error 21)"
  | nameTooLong => "File name too long (os error 36)"
  | tooManyLinks => "Too many levels of symbolic links (os error 40)"
  | nulByte => "file name contained an unexpected NUL byte"
  | unreadable reason => reason

end FileError

namespace FilePath

/-- The size from which on a path is too long to be used. -/
def maxBytes : Nat := 4096

/-- More than the number of paths that are not too long. -/
def readableBound : Nat := Nat.pow 256 maxBytes

def isTooLong (p : FilePath) : Bool := maxBytes ≤ p.text.utf8ByteSize

end FilePath

structure FileSource where
  lookUp : FilePath → Except FileError String

namespace FileSource

def empty : FileSource := ⟨fun _ => .error .notFound⟩

instance : Inhabited FileSource := ⟨empty⟩

def read (source : FileSource) (path : FilePath) : Except FileError String :=
  if path.isTooLong then .error .nameTooLong else source.lookUp path

def isFile (source : FileSource) (path : FilePath) : Bool :=
  match source.read path with
  | .ok _ => true
  | .error (.unreadable _) => true
  | .error _ => false

end FileSource

end OrgStacks
