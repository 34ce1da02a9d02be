import AndInverter.Aag.FormatError
import AndInverter.Text.Decimal
import AndInverter.Text.Pieces

/-!
The lines in front of the symbol table. Only lines that say something count: they are trimmed, not
blank, and each has its number among all lines, which counts from one. The header line holds the
format's name and five counts. Every other line declares one entry of its section by a few literals.
A section is taken as a whole: if the text is too short for it, that is reported before any of its
lines is looked at.
-/
namespace AndInverter.Aag
open Text

structure Line where
  number : Nat
  text : List Char
  deriving DecidableEq, Repr

def Line.ofRaw? (raw : List Char) (number : Nat) : Option Line :=
  match trim raw with
  | [] => none
  | text => some ⟨number, text⟩

def contentLines (text : List Char) : List Line :=
  ((lines text).zipIdx 1).filterMap fun (raw, number) => Line.ofRaw? raw number

def readCount (line : Nat) (field : List Char) : Except FormatError UInt64 :=
  (readUnsigned field).mapError fun _ => ⟨line, .invalidCount (String.ofList field)⟩

/-- All counts are read before their number is looked at. -/
def readHeader (line : Line) : Except FormatError Header :=
  match fields line.text with
  | ['a', 'a', 'g'] :: counts => do
    match ← counts.mapM (readCount line.number) with
    | [maxVar, inputs, latches, outputs, gates] => .ok { maxVar, inputs, latches, outputs, gates }
    | counts => .error ⟨line.number, .wrongCounts counts.length⟩
  | _ => .error ⟨line.number, .unknownFormat⟩

def readLiteral (sect : Section) (line : Nat) (field : List Char) : Except FormatError Literal :=
  match readUnsigned field with
  | .ok code => .ok ⟨code⟩
  | .error _ => .error ⟨line, .invalidLiteral sect (String.ofList field)⟩

/-- The first literal beyond the limit is an error. -/
def checkLimit (limit : Literal) (line : Nat) (literals : List Literal) : Except FormatError Unit :=
  match literals.find? (limit < ·) with
  | none => .ok ()
  | some literal => .error ⟨line, .variableTooLarge literal limit.var⟩

/-- What the lines of a section declare. Counting the literals on a line and taking them apart is
one step, a match against the shape of the section. -/
structure Declaration (α : Type) where
  sect : Section
  /-- The entry that literals on a line declare, if they are as many as it takes. A match leaves no
  literal to be looked up behind the count, so that no such look-up can be out of range. -/
  ofLiterals? : Nat → List Literal → Option α

/-- All literals are read first, then counted, then their size is checked. No step has a
precondition that a line could break: that reading is free of faults is a matter of its type. -/
def Declaration.read {α : Type} (d : Declaration α) (limit : Literal) (line : Line) :
    Except FormatError α := do
  let literals ← (fields line.text).mapM (readLiteral d.sect line.number)
  match d.ofLiterals? line.number literals with
  | none => .error ⟨line.number, .wrongArity d.sect literals.length⟩
  | some entry =>
    checkLimit limit line.number literals
    return entry

/-- A text that ends too early is reported on its last line, which is `total`. -/
def Declaration.readSection {α : Type} (d : Declaration α) (limit : Literal) (total : Nat)
    (count : UInt64) (lines : List Line) : Except FormatError (List α × List Line) :=
  let taken := lines.take count.toNat
  if taken.length < count.toNat then .error ⟨total, .shortSection d.sect count taken.length⟩
  else do
    let entries ← taken.mapM (d.read limit)
    return (entries, lines.drop count.toNat)

def inputDeclaration : Declaration Literal where
  sect := .input
  ofLiterals?
    | _, [literal] => some literal
    | _, _ => none

def latchDeclaration : Declaration Latch where
  sect := .latch
  ofLiterals?
    | _, [literal, next] => some ⟨literal, next, none⟩
    | _, [literal, next, reset] => some ⟨literal, next, some reset⟩
    | _, _ => none

def outputDeclaration : Declaration Literal where
  sect := .output
  ofLiterals?
    | _, [literal] => some literal
    | _, _ => none

def gateDeclaration : Declaration AndGate where
  sect := .andGate
  ofLiterals?
    | line, [output, left, right] => some ⟨output, left, right, line⟩
    | _, _ => none

end AndInverter.Aag
