import AndInverter.OrderedMap
import AndInverter.Text.CellWidth
import AndInverter.Text.Decimal
import AndInverter.Text.Pieces
import AndInverter.Text.ControlSequence

/-!
The table of variable names for a terminal: variables to the right, names to the left, with a rule
around the whole and between all rows. Columns are as wide as their widest line, counted in
terminal cells; a name of several lines makes a row of several lines. Control sequences in a name
stay in it and take no cells.
-/
namespace AndInverter.NameTable
open Text

def blanks (n : Nat) : List Char := List.replicate n ' '

def lineCells (line : List Char) : Nat := cells (unstyled line)

def alignRight (width : Nat) (line : List Char) : List Char :=
  blanks (width - lineCells line) ++ line

def alignLeft (width : Nat) (line : List Char) : List Char :=
  line ++ blanks (width - lineCells line)

structure Row where
  var : List Char
  name : List (List Char)

def Row.ofEntry (var : UInt64) (name : String) : Row :=
  ⟨natural var.toNat, restyle [] (pieces (· == '\n') name.toList)⟩

def header : Row := ⟨"Var".toList, ["Signal".toList]⟩

structure Widths where
  var : Nat
  name : Nat

def Widths.ofRows (rows : List Row) : Widths where
  var := (rows.map fun row => lineCells row.var).foldl max 0
  name := (rows.flatMap fun row => row.name.map lineCells).foldl max 0

/-- A rule over the full width: both columns, a blank around each, and one between them. -/
def Widths.rule (w : Widths) (c : Char) : List Char :=
  List.replicate (w.var + 2 + 1 + (w.name + 2)) c

/-- The variable stands on the first line of its name. -/
def Row.lines (w : Widths) (row : Row) : List (List Char) :=
  row.name.zipIdx.map fun (line, i) =>
    ' ' :: alignRight w.var (if i = 0 then row.var else []) ++ blanks 3 ++
      alignLeft w.name line ++ [' ']

def tableLines (names : OrderedMap UInt64 String) : List (List Char) :=
  let rows := names.entries.map fun (var, name) => Row.ofEntry var name
  let w := Widths.ofRows (header :: rows)
  let body := (rows.map fun row => row.lines w).intersperse [w.rule '─']
  w.rule '─' :: header.lines w ++ w.rule '═' :: body.flatten ++ [w.rule '─']

def text (names : OrderedMap UInt64 String) : String :=
  String.ofList (['\n'].intercalate (tableLines names))

end AndInverter.NameTable
