/-!
Access to files, as far as this library needs it: reading and writing whole files, renaming and
removing them. Programs are written for any monad that has these operations, so that they can run on
a real file system as well as on a tree in memory.
-/
namespace AndInverter

/-- Why a file operation failed. -/
inductive IoError
  | notFound
  | notADirectory
  | isADirectory
  | nameTooLong
  | busy
  | noDevice
  /-- The path holds a NUL character, which the operating system takes for its end. -/
  | nulInPath
  /-- A failure that a tree in memory does not know. -/
  | other (code : Nat) (text : String)
  deriving DecidableEq, Repr

namespace IoError

/-- A path with a NUL character does not get as far as the operating system. -/
def code? : IoError → Option Nat
  | notFound => some 2
  | busy => some 16
  | noDevice => some 19
  | notADirectory => some 20
  | isADirectory => some 21
  | nameTooLong => some 36
  | nulInPath => none
  | other code _ => some code

def text : IoError → String
  | notFound => "No such file or directory"
  | busy => "Device or resource busy"
  | noDevice => "No such device"
  | nulInPath => "file name contained an unexpected NUL byte"
  | notADirectory => "Not a directory"
  | isADirectory => "Is a directory"
  | nameTooLong => "File name too long"
  | other _ text => text

def kind : IoError → String
  | notFound => "NotFound"
  | busy => "ResourceBusy"
  | noDevice => "Uncategorized"
  | nulInPath => "InvalidInput"
  | notADirectory => "NotADirectory"
  | isADirectory => "IsADirectory"
  | nameTooLong => "InvalidFilename"
  | other _ _ => "Uncategorized"

def message (e : IoError) : String :=
  match e.code? with
  | some code => s!"{e.text} (os error {code})"
  | none => e.text

end IoError

class FileAccess (m : Type → Type) where
  readFile : String → m (Except IoError ByteArray)
  /-- Makes a file with the given content, in place of one that is there. -/
  writeFile : String → ByteArray → m (Except IoError Unit)
  /-- Gives a file a new path, in place of a file that is there. -/
  renameFile : String → String → m (Except IoError Unit)
  removeFile : String → m (Except IoError Unit)

end AndInverter
