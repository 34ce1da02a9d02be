import AndInverter.Circuit
import AndInverter.Fault
import AndInverter.Word

/-!
Evaluation of the combinational part of a circuit. Inputs are set first and gates are evaluated in
file order, each on the values it finds; latches stay false. Nothing here asks for an order in
which every gate comes after its operands: `AndGate.Holds` says what such an order achieves.
-/
namespace AndInverter

def Literal.valueIn (values : Array Bool) (l : Literal) : Except Fault Bool :=
  match values[l.var.toNat]? with
  | some value => .ok (l.eval value)
  | none => .error .indexOutOfRange

def assign (values : Array Bool) (var : UInt64) (value : Bool) : Except Fault (Array Bool) :=
  if h : var.toNat < values.size then .ok (values.set var.toNat value)
  else .error .indexOutOfRange

/-- The output's own inversion is not looked at. -/
def AndGate.evaluate (values : Array Bool) (gate : AndGate) : Except Fault (Array Bool) := do
  let left ← gate.left.valueIn values
  let right ← gate.right.valueIn values
  assign values gate.output.var (left && right)

/-- The gate's equation under a valuation of the variables. -/
def AndGate.Holds (value : UInt64 → Bool) (gate : AndGate) : Prop :=
  value gate.output.var =
    (gate.left.eval (value gate.left.var) && gate.right.eval (value gate.right.var))

instance (value : UInt64 → Bool) (gate : AndGate) : Decidable (gate.Holds value) :=
  inferInstanceAs (Decidable (_ = _))

namespace Circuit

/-- The most entries a table of truth values can have. -/
def maxValues : Nat := Word.maxSigned

/-- An inverted input sets its variable to its value of the row all the same. -/
def setInputs (c : Circuit) (row : List Bool) (values : Array Bool) :
    Except Fault (Array Bool) :=
  (c.inputs.zip row).foldlM (fun values (l, value) => assign values l.var value) values

/-- The values of the variables from 0 to the largest declared one, for one value per input. -/
def simulate (c : Circuit) (row : List Bool) : Except Fault (Array Bool) :=
  if row.length ≠ c.inputs.length then .error .lengthMismatch
  else if c.header.maxVar.toNat + 1 > maxValues then .error .capacity
  else do
    let driven ← c.setInputs row (Array.replicate (c.header.maxVar.toNat + 1) false)
    c.gates.foldlM AndGate.evaluate driven

def evalOutputs (c : Circuit) (row : List Bool) : Except Fault (List Bool) := do
  let values ← c.simulate row
  c.outputs.mapM (Literal.valueIn values)

end Circuit

/-- The values of the variables from 1 on. The constant has no place in a solution. -/
def solutionOf (values : Array Bool) : Array Bool := values.extract 1 values.size

/-- The value that a solution gives to a variable, false for one that it does not have. -/
def valueOf (solution : Array Bool) (var : UInt64) : Bool :=
  var != 0 && solution.getD (var.toNat - 1) false

end AndInverter
