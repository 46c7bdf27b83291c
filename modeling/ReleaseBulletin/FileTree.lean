import ReleaseBulletin.Bytes.Utf8
import ReleaseBulletin.Path

/-!
A file system as seen from a working directory: which files can be read, and why the others cannot.
-/
namespace ReleaseBulletin.FileTree

/-- Why a file cannot be read. -/
inductive Fault where
  | notFound
  | notDirectory
  | isDirectory
  | nameTooLong
  | zeroByte
  | notUtf8
  /-- Any other reason, with the number that the system gives it. -/
  | other (description : String) (number : Nat)
  deriving DecidableEq, Repr

def Fault.message : Fault → String
  | .notFound => "No such file or directory (os error 2)"
  | .notDirectory => "Not a directory (os error 20)"
  | .isDirectory => "Is a directory (os error 21)"
  | .nameTooLong => "File name too long (os error 36)"
  | .zeroByte => "file name contained an unexpected NUL byte"
  | .notUtf8 => "stream did not contain valid UTF-8"
  | .other description number => s!"{description} (os error {number})"

def Fault.ofNumber (description : String) : Nat → Fault
  | 2 => .notFound
  | 20 => .notDirectory
  | 21 => .isDirectory
  | 36 => .nameTooLong
  | number => .other description number

/-- A file or a directory. -/
inductive Node where
  | file (content : Bytes)
  | directory (entries : List (String × Node))
  deriving Inhabited

/-- The entries with the one of the given name replaced, or added if there is none. -/
def setEntry (name : String) (node : Node) (entries : List (String × Node)) :
    List (String × Node) :=
  (name, node) :: entries.filter (·.1 != name)

/-- Puts a node at the end of a chain of names, with the directories on the way. -/
def Node.put (node : Node) : List String → Node → Node
  | [], _ => node
  | name :: names, .directory entries =>
    .directory (setEntry name (node.put names ((entries.lookup name).getD (.directory []))) entries)
  | name :: names, .file _ => .directory [(name, node.put names (.directory []))]

/-- A place in the file system: a node with the directories that lead to it, innermost first. Above
the working directory nothing is known but that there are directories. -/
structure Place where
  node : Node
  parents : List Node
  deriving Inhabited

/-- The longest name of a file, in bytes. -/
def maxName : Nat := 255

/-- One more than the length of the longest path, in bytes. -/
def pathLimit : Nat := 4096

/-- Goes to a component from a place. -/
def Place.step (place : Place) (name : String) : Except Fault Place :=
  match place.node with
  | .file _ => .error .notDirectory
  | .directory entries =>
    if name = "" ∨ name = "." then .ok place
    else if name = ".." then
      match place.parents with
      | [] => .ok ⟨.directory [], []⟩
      | parent :: parents => .ok ⟨parent, parents⟩
    else if maxName < name.utf8ByteSize then .error .nameTooLong
    else
      match entries.lookup name with
      | some node => .ok ⟨node, place.node :: place.parents⟩
      | none => .error .notFound

/-- Where a path leads from the working directory. -/
def locate (root : Node) (path : Path) : Except Fault Node :=
  if path.toList.contains '\x00' then .error .zeroByte
  else if path = "" then .error .notFound
  else if pathLimit ≤ path.utf8ByteSize then .error .nameTooLong
  else
    let start : Place := if Path.isAbsolute path then ⟨.directory [], []⟩ else ⟨root, []⟩
    ((Path.components path).foldlM Place.step start).map (·.node)

def read (root : Node) (path : Path) : Except Fault Bytes :=
  match locate root path with
  | .ok (.file content) => .ok content
  | .ok (.directory _) => .error .isDirectory
  | .error fault => .error fault

def exists? (root : Node) (path : Path) : Bool := (locate root path).isOk

def textOf (content : Except Fault Bytes) : Except Fault String :=
  match content with
  | .error fault => .error fault
  | .ok bytes =>
    match Bytes.Utf8.decodeString bytes with
    | .ok s => .ok s
    | .error _ => .error .notUtf8

end ReleaseBulletin.FileTree
