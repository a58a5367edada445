import CardLimits.Failure
import CardLimits.Files.Basic
import CardLimits.Model.Fixture
/-!
# Loading files

A file is looked up by its path; it may be missing, and its bytes may not be UTF-8.
What is in it is read by a codec.  A `LoadFailure` keeps what was to be loaded, from
where, and why that did not work; `LoadFailure.toFailure` words it.
-/

namespace CardLimits

open Json

/-- Why a value could not be loaded. -/
inductive LoadFault where
  | file (fault : FileFault)
  | content (fault : ReadFault)
deriving Repr

/-- What could not be loaded, from which path, and why. -/
structure LoadFailure where
  what : String
  path : String
  fault : LoadFault
deriving Repr

/-- The wording of a failure, with its cause. -/
def LoadFailure.toFailure (failure : LoadFailure) : Failure :=
  match failure.fault with
  | .file fault =>
    ⟨"Failed to read " ++ failure.what ++ " from " ++ failure.path, [fault.message]⟩
  | .content fault =>
    ⟨"Failed to parse " ++ failure.what ++ " in " ++ failure.path, [fault.message]⟩

/-- Loads the value in a file.  `what` names it in a failure. -/
def load {α : Type} (what : String) (codec : Codec α) (files : Files) (path : String) :
    Except LoadFailure α :=
  match files path with
  | .error fault => .error ⟨what, path, .file fault⟩
  | .ok text =>
    match codec.readText text with
    | .error fault => .error ⟨what, path, .content fault⟩
    | .ok value => .ok value

/-- Loads a fixture. -/
def loadFixture : Files → String → Except LoadFailure Fixture :=
  load "fixture" Fixture.codec

/-- How a file of blocks is read and written: as an array. -/
def blocksCodec : Codec (List Block) :=
  .list Block.codec

/-- Loads a list of blocks. -/
def loadBlocks : Files → String → Except LoadFailure (List Block) :=
  load "blocks" blocksCodec

/-- Loads a license. -/
def loadLicense : Files → String → Except LoadFailure License :=
  load "license" License.codec

end CardLimits
