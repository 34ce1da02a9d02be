import AndInverter.Circuit
import AndInverter.Text.Quoted

/-!
What is wrong with a circuit text, and on which line.
-/
namespace AndInverter.Aag
open Text

inductive Section
  | input
  | latch
  | output
  | andGate
  deriving DecidableEq, Repr

namespace Section

instance : ToString Section where
  toString
    | input => "input"
    | latch => "latch"
    | output => "output"
    | andGate => "and-gate"

def arity : Section → String
  | input | output => "1"
  | latch => "2 to 3"
  | andGate => "3"

end Section

inductive FormatProblem
  | invalidUtf8
  | missingHeader
  | unknownFormat
  | invalidCount (field : String)
  | wrongCounts (found : Nat)
  /-- The text ends before the section does. -/
  | shortSection (sect : Section) (expected : UInt64) (found : Nat)
  | invalidLiteral (sect : Section) (field : String)
  | wrongArity (sect : Section) (found : Nat)
  | variableTooLarge (literal : Literal) (maxVar : UInt64)
  deriving DecidableEq, Repr

def FormatProblem.message : FormatProblem → String
  | invalidUtf8 => "circuit is not valid UTF-8"
  | missingHeader => "missing 'aag' header line"
  | unknownFormat => "expected ASCII AIGER header starting with 'aag'"
  | invalidCount field => s!"invalid header count {quoted field}"
  | wrongCounts found => s!"expected 5 header counts (M I L O A), found {found}"
  | shortSection sect expected found =>
    s!"expected {expected} {sect} line(s), found only {found}"
  | invalidLiteral sect field => s!"invalid literal {quoted field} in {sect} line"
  | wrongArity sect found => s!"{sect} line takes {sect.arity} literal(s), found {found}"
  | variableTooLarge literal maxVar =>
    s!"literal {literal} exceeds the declared maximum variable index {maxVar}"

structure FormatError where
  line : Nat
  problem : FormatProblem
  deriving DecidableEq, Repr

def FormatError.message (e : FormatError) : String :=
  s!"format error on line {e.line}: {e.problem.message}"

end AndInverter.Aag
