import AndInverter.Circuit
import AndInverter.Text.Decimal
import AndInverter.Text.Quoted

/-!
What the library has to tell besides its results. Notices are data: each operation returns them in
the order in which they arise, and only the command line decides which of them are shown.
-/
namespace AndInverter
open Text

inductive Severity
  | warning
  | info
  | debug
  deriving DecidableEq, Repr

inductive Notice
  /-- An assignment argument without an equals sign. -/
  | ignoredArgument (arg : String)
  /-- The header announces this many section lines. -/
  | announcedLines (count : UInt64)
  /-- A line behind the sections that is no symbol. -/
  | ignoredLine (line : Nat) (text : String)
  | circuitRead (header : Header) (symbols comments : Nat)
  | circuitHeader (header : Header)
  /-- A named entry that is the constant and so has no variable. -/
  | constantSignal (name : String) (literal : Literal)
  /-- An assignment to a name without a variable. -/
  | unknownSignal (name : String)
  | cnfWritten (path : String) (vars : UInt64) (clauses : Nat)
  | mappingSaved (path : String)
  | assignmentsApplied (assignments : String)
  deriving DecidableEq, Repr

namespace Notice

def severity : Notice → Severity
  | ignoredArgument _ | announcedLines _ | ignoredLine _ _ | circuitRead _ _ _
  | circuitHeader _ => .debug
  | constantSignal _ _ | unknownSignal _ => .warning
  | cnfWritten _ _ _ | mappingSaved _ | assignmentsApplied _ => .info

def message : Notice → String
  | ignoredArgument arg => s!"Ignoring argument {quoted arg} without '='"
  | announcedLines count => s!"Header declares {count} body line(s) before the symbol table"
  | ignoredLine line text => s!"Ignoring line {line}: {quoted text}"
  | circuitRead header symbols comments =>
    s!"Parsed circuit ({header}) with {symbols} symbol(s) and {comments} comment line(s)"
  | circuitHeader header => s!"Circuit header: {header}"
  | constantSignal name literal =>
    s!"Signal {name} is the constant literal {literal} and is left out of the mapping"
  | unknownSignal name => s!"Signal {name} not found in mapping, skipping"
  | cnfWritten path vars clauses =>
    s!"Wrote {path} with {grouped vars.toNat} vars, {grouped clauses} clauses"
  | mappingSaved path => s!"Mapping saved to {path}"
  | assignmentsApplied assignments => s!"Applied assignments: {assignments}"

end Notice

namespace Severity

def label : Severity → String
  | warning => "WARN"
  | info => "INFO"
  | debug => "DEBUG"

end Severity

end AndInverter
