import AndInverter.Cnf.Dimacs
import AndInverter.Encoding.NameRecord
import AndInverter.Files.Access

/-!
The two files that an encoding leaves behind: the clause set and the record of names. Both are
written under a staging path beside their own first and renamed afterwards, the record before the
clause set. When a step fails, what was staged is removed, and so is what was renamed already.
-/
namespace AndInverter

structure OutputFiles where
  cnf : ByteArray
  names : ByteArray

def stagingPath (path : String) : String := path ++ ".tmp"

namespace OutputFiles

def render (f : Cnf) (names : OrderedMap UInt64 String) : OutputFiles where
  cnf := (Dimacs.text f names).toUTF8
  names := (NameRecord.text names).toUTF8

variable {m : Type → Type} [Monad m] [FileAccess m]
open FileAccess

/-- Removes the files that are there; failures do not matter. -/
def removeAll : List String → m Unit
  | [] => pure ()
  | path :: rest => do
    let _ ← removeFile path
    removeAll rest

/-- Writes files to their staging paths. A failure removes those written and the one that failed. -/
def stage (staged : List String) : List (String × ByteArray) → m (Except IoError Unit)
  | [] => pure (.ok ())
  | (path, content) :: rest => do
    match ← writeFile (stagingPath path) content with
    | .ok () => stage (staged ++ [path]) rest
    | .error e =>
      removeAll ((path :: staged).map stagingPath)
      return .error e

/-- Renames staged files into place. A failure removes those renamed and those still staged. -/
def commit (renamed : List String) : List String → m (Except IoError Unit)
  | [] => pure (.ok ())
  | path :: rest => do
    match ← renameFile (stagingPath path) path with
    | .ok () => commit (renamed ++ [path]) rest
    | .error e =>
      removeAll renamed
      removeAll ((path :: rest).map stagingPath)
      return .error e

/-- Writes both files, or leaves neither behind. -/
def write (a : OutputFiles) (cnfPath namesPath : String) : m (Except IoError Unit) := do
  match ← stage [] [(namesPath, a.names), (cnfPath, a.cnf)] with
  | .ok () => commit [] [namesPath, cnfPath]
  | .error e => return .error e

end OutputFiles

end AndInverter
