/-!
# Files

What a run knows of the files around it is what it gets when it asks for the text of
one by its path.
-/

namespace CardLimits

/-- Why the text of a file is not to be had. -/
inductive FileFault where
  | notFound
  /-- A step of the path leads on from something that is no directory. -/
  | notDirectory
  | isDirectory
  | nameTooLong
  /-- The path holds a character that none may hold. -/
  | nulInPath
  | notText
  /-- Something else, in the words of the system. -/
  | other (text : String)
deriving DecidableEq, Repr

/-- The wording of a fault. -/
def FileFault.message : FileFault → String
  | notFound => "No such file or directory (os error 2)"
  | notDirectory => "Not a directory (os error 20)"
  | isDirectory => "Is a directory (os error 21)"
  | nameTooLong => "File name too long (os error 36)"
  | nulInPath => "file name contained an unexpected NUL byte"
  | notText => "stream did not contain valid UTF-8"
  | other text => text

/-- The text of a file that has the given bytes. -/
def textOfBytes (bytes : ByteArray) : Except FileFault String :=
  match String.fromUTF8? bytes with
  | some text => .ok text
  | none => .error .notText

/-- The texts of files by their paths. -/
abbrev Files := String → Except FileFault String

end CardLimits
