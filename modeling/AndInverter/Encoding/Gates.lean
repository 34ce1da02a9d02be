import AndInverter.Circuit
import AndInverter.Cnf

/-!
Gates as clauses. A gate `z = x ∧ y` becomes the three clauses `¬x ∨ ¬y ∨ z`, `x ∨ ¬z` and `y ∨ ¬z`,
which force `z` to be the conjunction. A gate can be encoded if its output is not inverted and none
of its literals is a constant, since signed literals have no zero.
-/
namespace AndInverter

inductive GateError
  | invertedOutput (line : Nat) (literal : Literal)
  | constantLiteral (line : Nat) (literal : Literal)
  deriving DecidableEq, Repr

def GateError.message : GateError → String
  | invertedOutput line literal =>
    s!"AND gate on line {line} defines the inverted literal {literal}"
  | constantLiteral line literal =>
    s!"AND gate on line {line} uses the constant literal {literal}"

namespace AndGate

/-- The output literal and the two operands, in the order in which constants are looked for. -/
def literals (g : AndGate) : List Literal := [g.output, g.left, g.right]

/-- An inverted output goes before a constant. -/
def error? (g : AndGate) : Option GateError :=
  if g.output.isInverted then some (.invertedOutput g.line g.output)
  else (g.literals.find? Literal.isConstant).map (.constantLiteral g.line)

def definingClauses (g : AndGate) : List (List Int) :=
  let x := g.left.signed
  let y := g.right.signed
  let z := g.output.signed
  [[-x, -y, z], [x, -z], [y, -z]]

end AndGate

namespace Cnf

def addGate (f : Cnf) (g : AndGate) : Growth (Failure GateError) :=
  match g.error? with
  | some e => ⟨f, .error (.error e)⟩
  | none =>
    let grown := f.addClauses g.definingClauses
    ⟨grown.cnf, grown.outcome.mapError .fault⟩

/-- Appends the defining clauses of all gates, up to the first that cannot be encoded. -/
def addGates (f : Cnf) : List AndGate → Growth (Failure GateError)
  | [] => ⟨f, .ok ()⟩
  | g :: rest =>
    let grown := f.addGate g
    match grown.outcome with
    | .ok () => addGates grown.cnf rest
    | .error e => ⟨grown.cnf, .error e⟩

end Cnf

end AndInverter
