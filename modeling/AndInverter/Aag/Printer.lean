import AndInverter.Aag.Declaration
import AndInverter.Circuit
import AndInverter.Text.Decimal

/-!
Texts in a layout of their own. The canonical text of a circuit is the header line, one line per
input, latch, output and gate with single spaces between its literals, one line per symbol, and the
comments behind a line `c`, if there are any. Gates do not write the line they were declared on.

The tidy form of a circuit text is what is left of it without needless blanks. Blank lines are
gone, and no line has blanks around it. The header and the lines that it declares have single
spaces between their words; the lines behind them keep the blanks inside, which belong to names and
comments.
-/
namespace AndInverter.Aag
open Text

def numeralLine (numbers : List UInt64) : List Char :=
  [' '].intercalate (numbers.map fun n => natural n.toNat)

def headerLine (h : Header) : List Char :=
  "aag ".toList ++ numeralLine [h.maxVar, h.inputs, h.latches, h.outputs, h.gates]

def latchLine (l : Latch) : List Char :=
  numeralLine (l.literal.code :: l.next.code :: (l.reset.map Literal.code).toList)

def gateLine (g : AndGate) : List Char :=
  numeralLine [g.output.code, g.left.code, g.right.code]

def symbolLine : (Role × UInt64) × String → List Char
  | ((role, index), name) => role.marker :: natural index.toNat ++ ' ' :: name.toList

def commentLines : List String → List (List Char)
  | [] => []
  | comments => ['c'] :: comments.map String.toList

def sectionLines (c : Circuit) : List (List Char) :=
  c.inputs.map (fun l => numeralLine [l.code]) ++ c.latches.map latchLine ++
    c.outputs.map (fun l => numeralLine [l.code]) ++ c.gates.map gateLine

def circuitLines (c : Circuit) : List (List Char) :=
  headerLine c.header :: sectionLines c ++ c.symbols.entries.map symbolLine ++
    commentLines c.comments

def print (c : Circuit) : List Char := (circuitLines c).flatMap (· ++ ['\n'])

def strippedLines (text : List Char) : List (List Char) :=
  ((lines text).map trim).filter fun line => !line.isEmpty

def sectionLength (h : Header) : Nat :=
  h.inputs.toNat + h.latches.toNat + h.outputs.toNat + h.gates.toNat

/-- The number of lines that a header line declares, none if it is not well-formed. -/
def declaredLines (header : List Char) : Nat :=
  match readHeader ⟨1, header⟩ with
  | .ok h => sectionLength h
  | .error _ => 0

def tidyLines (text : List Char) : List (List Char) :=
  match strippedLines text with
  | [] => []
  | header :: body => squeeze header ::
    (body.take (declaredLines header)).map squeeze ++ body.drop (declaredLines header)

def tidy (text : List Char) : List Char := (tidyLines text).flatMap (· ++ ['\n'])

end AndInverter.Aag
