import AndInverter.Command.Output

/-!
The program: the command run on the files of the operating system.
-/
namespace AndInverter

/-- An error code of the operating system, which may come as its negation. -/
def systemCode (code : UInt32) : Nat := code.toInt32.toInt.natAbs

def causeOfCode (code : UInt32) (text : String) : IoError :=
  match systemCode code with
  | 2 => .notFound
  | 16 => .busy
  | 19 => .noDevice
  | 20 => .notADirectory
  | 21 => .isADirectory
  | 36 => .nameTooLong
  | code => .other code text

def ioErrorCause : IO.Error → IoError
  | .noFileOrDirectory _ _ _ => .notFound
  | .inappropriateType _ code text | .invalidArgument _ code text
  | .permissionDenied _ code text | .resourceExhausted _ code text
  | .alreadyExists _ code text | .noSuchThing _ code text => causeOfCode code text
  | .resourceBusy code text | .hardwareFault code text | .otherError code text =>
    causeOfCode code text
  | e => .other 0 e.toString

def attemptFile {α : Type} (action : IO α) : IO (Except IoError α) := do
  match ← action.toBaseIO with
  | .ok a => return .ok a
  | .error e => return .error (ioErrorCause e)

/-- A directory can be opened, but its content is not to be had. -/
def readErrorCause : IoError → IoError
  | .isADirectory => .noDevice
  | e => e

instance : FileAccess IO where
  readFile path := return (← attemptFile (IO.FS.readBinFile path)).mapError readErrorCause
  writeFile path content := attemptFile (IO.FS.writeBinFile path content)
  renameFile source target := attemptFile (IO.FS.rename source target)
  removeFile path := attemptFile (IO.FS.removeFile path)

end AndInverter

open AndInverter in
def main (args : List String) : IO UInt32 := do
  let verbosity := Command.Verbosity.ofChoice (← IO.getEnv "RUST_LOG")
  let output ← Command.perform args verbosity
  (← IO.getStderr).putStr output.stderr
  (← IO.getStdout).putStr output.stdout
  return output.status
