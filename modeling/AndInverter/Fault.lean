/-!
Faults are broken preconditions: a caller asked for something that has no answer, and the operation
gives up at that point. They are kept apart from the errors a user can cause with a bad file.
-/
namespace AndInverter

/-- The precondition that failed. -/
inductive Fault
  /-- A clause of more than three literals. -/
  | clauseTooWide
  /-- The literal 0 in a clause. -/
  | zeroLiteral
  /-- A variable without an entry in the values at hand. -/
  | indexOutOfRange
  /-- A value outside the signed or unsigned 64-bit words. -/
  | overflow
  /-- As many values were expected as there are variables or inputs. -/
  | lengthMismatch
  /-- A table that no memory can hold. -/
  | capacity
  deriving DecidableEq, Repr

/-- How a step stops short: with an error of its own or with a fault. -/
inductive Failure (ε : Type)
  | error (e : ε)
  | fault (f : Fault)
  deriving DecidableEq, Repr

def Failure.map {ε δ : Type} (f : ε → δ) : Failure ε → Failure δ
  | error e => .error (f e)
  | fault e => .fault e

end AndInverter
