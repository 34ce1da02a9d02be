import AndInverter.Encoding
import AndInverter.OutputFiles
import AndInverter.Command.Arguments
import AndInverter.Encoding.NameTable
import AndInverter.Text.ControlSequence

/-!
A run of the command: assignments are read before the circuit is opened, the circuit is encoded, and
the two files are written last. The first failure ends the run. The report says what there is to
tell, what to print and how the run ended.
-/
namespace AndInverter.Command
open Text

inductive Problem
  | assignment (e : AssignmentError)
  /-- The circuit file cannot be opened. -/
  | circuit (e : IoError)
  | format (e : Aag.FormatError)
  | encoding (e : EncodingError)
  /-- The two files cannot be written. -/
  | outputs (e : IoError)
  deriving DecidableEq, Repr

def ioDetail (e : IoError) : String :=
  match e.code? with
  | some code => s!"Os \x7b code: {code}, kind: {e.kind}, message: {quoted e.text} \x7d"
  | none => s!"Error \x7b kind: {e.kind}, message: {quoted e.text} \x7d"

def roleDetail : Role → String
  | .input => "Input"
  | .latch => "Latch"
  | .output => "Output"

def literalDetail (l : Literal) : String := s!"Lit({l})"

/-- One record on a line: its name, then its parts. -/
def Problem.detail : Problem → String
  | assignment e =>
    s!"InvalidAssignment \x7b arg: {quoted e.arg}, msg: {quoted e.reason} \x7d"
  | circuit e => ioDetail e
  | format e => s!"Format \x7b line: {e.line}, msg: {quoted e.problem.message} \x7d"
  | encoding (.gate (.invertedOutput line literal)) =>
    s!"InvertedGateOutput \x7b line: {line}, lit: {literalDetail literal} \x7d"
  | encoding (.gate (.constantLiteral line literal)) =>
    s!"ConstantGateLiteral \x7b line: {line}, lit: {literalDetail literal} \x7d"
  | encoding (.symbol e) =>
    s!"DanglingSymbol \x7b role: {roleDetail e.role}, index: {e.index}, name: {quoted e.name} \x7d"
  | outputs e => s!"Io({ioDetail e})"

structure Report where
  notices : List Notice
  table : Option String
  failure : Option (Failure Problem)

def encode (bytes : ByteArray) (a : Assignments) : Logged (Failure Problem) Encoding := do
  let circuit ← (Aag.read bytes).mapError fun e => .error (.format e)
  .tell [.circuitHeader circuit.header]
  (circuit.encode a).mapError (.map .encoding)

def closingNotices (o : Options) (a : Assignments) (t : Encoding) : List Notice :=
  [.cnfWritten o.cnfPath t.cnf.numVars t.cnf.numClauses, .mappingSaved o.namesPath] ++
    if a.isEmpty then [] else [.assignmentsApplied a.text]

variable {m : Type → Type} [Monad m] [FileAccess m]

def Options.runWith (o : Options) (a : Assignments) : m Report := do
  match ← FileAccess.readFile o.circuit with
  | .error e => return ⟨[], none, some (.error (.circuit e))⟩
  | .ok bytes =>
    let encoded := encode bytes a
    match encoded.outcome with
    | .error e => return ⟨encoded.notices, none, some e⟩
    | .ok t =>
      match ← (OutputFiles.render t.cnf t.signals.names).write o.cnfPath o.namesPath with
      | .error e => return ⟨encoded.notices, none, some (.error (.outputs e))⟩
      | .ok () =>
        let table := if o.printNames then some (NameTable.text t.signals.names) else none
        return ⟨encoded.notices ++ closingNotices o a t, table, none⟩

def Options.run (o : Options) : m Report := do
  let assignments := Assignments.ofArgs o.assignments
  match assignments.outcome with
  | .error e => return ⟨assignments.notices, none, some (.error (.assignment e))⟩
  | .ok a =>
    let report ← o.runWith a
    return { report with notices := assignments.notices ++ report.notices }

end AndInverter.Command
