import AndInverter.Fault
import AndInverter.Word

/-!
Clause sets in conjunctive normal form. Clauses are as they come out of gate encoding: at most
three signed literals, none of them zero, since zero ends a clause in a file. The bounds are part
of the type, so building a clause can fail. Clauses are only ever appended. The declared number of
variables is a free field: it is written as it stands and fixes the length of a solution.
-/
namespace AndInverter

/-- A disjunction of signed literals. -/
@[ext] structure Clause where
  lits : List Int
  length_le : lits.length ≤ 3
  ne_zero : 0 ∉ lits
  deriving DecidableEq, Repr

namespace Clause

def ofLits (lits : List Int) : Except Fault Clause :=
  if width : lits.length ≤ 3 then
    if zero : 0 ∈ lits then .error .zeroLiteral else .ok ⟨lits, width, zero⟩
  else .error .clauseTooWide

/-- Looks for a literal that the solution makes true, and at no literal behind it. The value of
variable `v` stands at position `v - 1`. -/
def anyTrue (solution : Array Bool) : List Int → Except Fault Bool
  | [] => .ok false
  | lit :: rest =>
    match solution[lit.natAbs - 1]? with
    | none => .error .indexOutOfRange
    | some value => if value == decide (0 < lit) then .ok true else anyTrue solution rest

def satisfiedBy (c : Clause) (solution : Array Bool) : Except Fault Bool :=
  anyTrue solution c.lits

def text (c : Clause) : String := "[" ++ ", ".intercalate (c.lits.map toString) ++ "]"

/-- A clause can be built from literals exactly if it is one, and then it is the one with these
literals. -/
theorem ofLits_eq_ok_iff {lits : List Int} {c : Clause} : ofLits lits = .ok c ↔ c.lits = lits := by
  unfold ofLits
  constructor
  · intro h
    split at h
    · split at h
      · simp at h
      · injection h with h
        rw [← h]
    · simp at h
  · rintro rfl
    rw [dif_pos c.length_le, dif_neg c.ne_zero]

end Clause

structure Cnf where
  numVars : UInt64
  clauses : Array Clause
  deriving DecidableEq, Repr

/-- A clause set after a step and how the step ended. What a failing step added before stays. -/
structure Growth (ε : Type) where
  cnf : Cnf
  outcome : Except ε Unit

/-- What checking a solution finds: the first clause it does not satisfy, if there is one. -/
inductive Verdict
  | satisfied
  | violated (index : Nat) (clause : Clause)
  deriving DecidableEq, Repr

def Verdict.message : Verdict → String
  | satisfied => "ok"
  | violated index clause => s!"Clause {index} {clause.text} is unsatisfied."

namespace Cnf

def empty (numVars : UInt64) : Cnf := ⟨numVars, #[]⟩

/-- The most clauses there can be room for: four 64-bit words each, in less than 2^63 bytes. -/
def maxCapacity : Nat := Word.maxSigned / 32

def withCapacity (numVars : UInt64) (capacity : Nat) : Except Fault Cnf :=
  if capacity ≤ maxCapacity then .ok (empty numVars) else .error .capacity

def numClauses (f : Cnf) : Nat := f.clauses.size

def push (f : Cnf) (c : Clause) : Cnf := { f with clauses := f.clauses.push c }

def addClause (f : Cnf) (lits : List Int) : Growth Fault :=
  match Clause.ofLits lits with
  | .ok c => ⟨f.push c, .ok ()⟩
  | .error e => ⟨f, .error e⟩

/-- Appends clauses one after the other, up to the first that cannot be one. -/
def addClauses (f : Cnf) : List (List Int) → Growth Fault
  | [] => ⟨f, .ok ()⟩
  | lits :: rest =>
    match Clause.ofLits lits with
    | .ok c => addClauses (f.push c) rest
    | .error e => ⟨f, .error e⟩

/-- The first clause that the solution does not satisfy, counted from `index`. -/
def firstViolated (solution : Array Bool) : Nat → List Clause → Except Fault Verdict
  | _, [] => .ok .satisfied
  | index, c :: rest => do
    if ← c.satisfiedBy solution then firstViolated solution (index + 1) rest
    else return .violated index c

/-- A solution has one value for each declared variable. -/
def verify (f : Cnf) (solution : Array Bool) : Except Fault Verdict :=
  if solution.size = f.numVars.toNat then firstViolated solution 0 f.clauses.toList
  else .error .lengthMismatch

end Cnf

end AndInverter
