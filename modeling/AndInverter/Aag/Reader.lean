import AndInverter.Aag.Declaration
import AndInverter.Circuit
import AndInverter.Logged
import AndInverter.Text.Decimal
import AndInverter.Text.Pieces

/-!
Reading circuits in the ASCII AIGER format. The header's counts are exact lengths of the sections
behind it; nothing behind the sections can make a text invalid. There a line that is just `c`
begins the comments, which run to the end. Before it, a symbol is a section's letter, a position,
one space and a name; a later symbol for the same position takes the place of an earlier one, and
lines that are no symbols are left out. Main statement: the outcome of reading is that of reading
the header, the sections and the symbol table one after the other.
-/
namespace AndInverter.Aag
open Text

/-- A symbol: where it points and the name it gives. The name may begin with blanks. -/
def readSymbol? (text : List Char) : Option ((Role × UInt64) × String) :=
  match text with
  | [] => none
  | marker :: rest => do
    let role ← Role.ofMarker? marker
    let (index, name) ← splitFirst ' ' rest
    let index ← (readUnsigned index).toOption
    return ((role, index), String.ofList name)

structure SymbolTable where
  symbols : OrderedMap (Role × UInt64) String
  comments : List String
  ignored : List Line

def isCommentMark (line : Line) : Bool := line.text == ['c']

def SymbolTable.ofLines (lines : List Line) : SymbolTable :=
  let table := lines.takeWhile (!isCommentMark ·)
  let comments := (lines.dropWhile (!isCommentMark ·)).drop 1
  { symbols := .ofList (table.filterMap (readSymbol? ·.text))
    comments := comments.map (String.ofList ·.text)
    ignored := table.filter fun line => (readSymbol? line.text).isNone }

structure Sections where
  inputs : List Literal
  latches : List Latch
  outputs : List Literal
  gates : List AndGate
  rest : List Line

/-- The lines are those behind the header, in a text of `total` lines. -/
def readSections (header : Header) (total : Nat) (body : List Line) :
    Except FormatError Sections := do
  let limit := header.maxLiteral
  let (inputs, rest) ← inputDeclaration.readSection limit total header.inputs body
  let (latches, rest) ← latchDeclaration.readSection limit total header.latches rest
  let (outputs, rest) ← outputDeclaration.readSection limit total header.outputs rest
  let (gates, rest) ← gateDeclaration.readSection limit total header.gates rest
  return { inputs, latches, outputs, gates, rest }

def decode (bytes : ByteArray) : Except FormatError (List Char) :=
  match String.fromUTF8? bytes with
  | some text => .ok text.toList
  | none => .error ⟨invalidLine bytes, .invalidUtf8⟩

def splitHeader (text : List Char) : Except FormatError (Header × List Line) :=
  match contentLines text with
  | [] => .error ⟨1, .missingHeader⟩
  | first :: body => do
    let header ← readHeader first
    return (header, body)

def assemble (header : Header) (sections : Sections) (table : SymbolTable) : Circuit where
  header := header
  inputs := sections.inputs
  latches := sections.latches
  outputs := sections.outputs
  gates := sections.gates
  symbols := table.symbols
  comments := table.comments

def readText (text : List Char) : Logged FormatError Circuit := do
  let (header, body) ← .silent (splitHeader text)
  .tell [.announcedLines header.bodyLines]
  let sections ← .silent (readSections header (lines text).length body)
  let table := SymbolTable.ofLines sections.rest
  .tell (table.ignored.map fun line => .ignoredLine line.number (String.ofList line.text))
  .tell [.circuitRead header table.symbols.size table.comments.length]
  return assemble header sections table

/-- Every byte string gives a circuit or a `FormatError`. Reading knows no `Fault`, since nothing
that is read is looked up by a position; see `Declaration.read`. -/
def read (bytes : ByteArray) : Logged FormatError Circuit := do
  readText (← .silent (decode bytes))

/-- The outcome of reading a text: header, sections, and a table that cannot fail. -/
theorem outcome_readText (text : List Char) :
    (readText text).outcome = do
      let (header, body) ← splitHeader text
      let sections ← readSections header (lines text).length body
      return assemble header sections (SymbolTable.ofLines sections.rest) := by
  simp only [readText, Logged.outcome_bind, Logged.outcome_silent, Logged.outcome_tell,
    Logged.outcome_pure]
  rfl

/-- What is not text is turned away before any of it is read. -/
theorem outcome_read (bytes : ByteArray) :
    (read bytes).outcome = decode bytes >>= fun text => (readText text).outcome := by
  simp only [read, Logged.outcome_bind, Logged.outcome_silent]

end AndInverter.Aag
