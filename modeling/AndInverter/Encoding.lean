import AndInverter.Aag.Reader
import AndInverter.Encoding.Assignments
import AndInverter.Encoding.Gates

/-!
The encoding of a circuit: first the clauses of its gates, then the unit clauses of the assignments,
over as many variables as the header declares. The circuit may be given as the bytes of a file.
-/
namespace AndInverter

/-- An encoded circuit with its names, and the number of assignments that found a variable. -/
structure Encoding where
  cnf : Cnf
  signals : SignalNames
  applied : Nat

inductive EncodingError
  | gate (e : GateError)
  | symbol (e : UnmatchedSymbol)
  deriving DecidableEq, Repr

def EncodingError.message : EncodingError → String
  | gate e => e.message
  | symbol e => e.message

def Pinning.encoding (pinning : Pinning) (signals : SignalNames) :
    Logged (Failure EncodingError) Encoding where
  notices := pinning.notices
  outcome := match pinning.fault with
    | none => .ok ⟨pinning.cnf, signals, pinning.applied⟩
    | some e => .error (.fault e)

/-- Room is taken for three clauses per declared gate and one per assignment before anything
else. -/
def Circuit.encode (c : Circuit) (a : Assignments) :
    Logged (Failure EncodingError) Encoding := do
  let start ← .silent <|
    (Cnf.withCapacity c.header.maxVar (3 * c.header.gates.toNat + a.size)).mapError .fault
  let grown := start.addGates c.gates
  .silent <| grown.outcome.mapError (.map .gate)
  let signals ← c.signals.mapError fun e => .error (.symbol e)
  (grown.cnf.pin signals a.entries).encoding signals

end AndInverter

namespace AndInverter.Aag

inductive FileError
  | format (e : FormatError)
  | encoding (e : EncodingError)
  deriving DecidableEq, Repr

def encode (bytes : ByteArray) (a : Assignments) :
    Logged (Failure FileError) Encoding := do
  let circuit ← (read bytes).mapError fun e => .error (.format e)
  (circuit.encode a).mapError (.map .encoding)

end AndInverter.Aag
