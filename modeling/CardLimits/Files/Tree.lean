import CardLimits.Files.Basic
import CardLimits.Text.Split
/-!
# Trees of files

A tree of files in memory, for runs that shall not touch any other.  A path is followed
step by step.  It starts from the root if it begins with a slash, and else from the
directory where the run is.  An empty step or one of a single point stays in a
directory, and a step of two points leads out of it, except from the root.  From a file
there is no step at all.
-/

namespace CardLimits

/-- A file with its bytes, or a directory with what is in it by name. -/
inductive FileTree where
  | file (bytes : ByteArray)
  | directory (entries : List (String × FileTree))

/-- A place in a tree of files: what stands there, and the directories around it, the
innermost first. -/
structure FilePlace where
  here : FileTree
  around : List FileTree := []

namespace FilePlace

/-- The most bytes in one step of a path. -/
def nameLimit : Nat := 255

/-- The number of bytes at which a path is too long. -/
def pathLimit : Nat := 4096

/-- The place after a step. -/
def step (place : FilePlace) (name : String) : Except FileFault FilePlace :=
  match place.here with
  | .file _ => .error .notDirectory
  | .directory entries =>
    if name = "" || name = "." then .ok place
    else if name = ".." then
      match place.around with
      | [] => .ok place
      | parent :: around => .ok ⟨parent, around⟩
    else if nameLimit < name.utf8ByteSize then .error .nameTooLong
    else
      match entries.lookup name with
      | some found => .ok ⟨found, place.here :: place.around⟩
      | none => .error .notFound

/-- The root of the tree around a place. -/
def root (place : FilePlace) : FilePlace :=
  ⟨place.around.getLast?.getD place.here, []⟩

/-- The place at the end of a path that is not empty. -/
def follow (place : FilePlace) (path : String) : Except FileFault FilePlace :=
  let start := if path.toList.head? = some '/' then place.root else place
  (Text.split (· = '/') path.toList).foldlM (fun place name => place.step (String.ofList name))
    start

/-- The text of the file at the end of a path. -/
def read (place : FilePlace) : Files := fun path => do
  if path.toList.contains '\x00' then throw .nulInPath
  if path.isEmpty then throw .notFound
  if pathLimit ≤ path.utf8ByteSize then throw .nameTooLong
  match (← place.follow path).here with
  | .file bytes => textOfBytes bytes
  | .directory _ => throw .isDirectory

end FilePlace

end CardLimits
