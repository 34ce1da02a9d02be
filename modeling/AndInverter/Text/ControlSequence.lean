/-!
Control sequences: what an escape character begins and where it ends. A sequence is an escape
character with a final one, possibly behind intermediate ones; a control sequence with parameters;
or a string, which a terminator ends.

What is shown to a user must not be able to steer the terminal, so plain text has lost its control
characters and control sequences; tabs, line feeds, form feeds and carriage returns stay, also
inside a sequence. Behind one of those inside a sequence text is shown, and the sequence goes on
only behind the next character that is dropped.

Styled text keeps its sequences, such as colours, and is cut into lines. A sequence takes no room
on a line. One that is still in force at the end of a line is reset there and given again at the
front of the next line.
-/
namespace AndInverter.Text

/-- The escape character, which begins every sequence and breaks off the one begun. -/
def escapeChar : Char := '\x1b'

/-- Cancel and substitute break off a sequence as well. -/
def isCancel (c : Char) : Bool := c == '\x18' || c == '\x1a'

inductive SequenceState
  /-- Nothing: plain text. -/
  | ground
  /-- An escape character. -/
  | escape
  /-- An escape sequence with intermediate characters, which still needs its final one. -/
  | intermediate
  /-- A control sequence, up to its final character. -/
  | control
  /-- An operating system command, up to a bell. -/
  | command
  /-- A device control string, in front of its parameters. -/
  | device
  /-- A device control string in its parameters. -/
  | deviceParameters
  /-- A device control string behind its parameters. -/
  | deviceIntermediate
  /-- The data of a string, up to a terminator. -/
  | string
  deriving DecidableEq, Repr

/-- The byte 0x9c ends a string, even as a part of a longer character. -/
def holdsTerminator (c : Char) : Bool := (String.utf8EncodeChar c).contains 0x9c

namespace SequenceState

/-- The state behind a character that breaks off nothing. -/
def next (state : SequenceState) (c : Char) : SequenceState :=
  match state with
  | ground => ground
  | escape =>
    if c == '[' then control
    else if c == ']' then command
    else if c == 'P' then device
    else if c == 'X' || c == '^' || c == '_' then string
    else if ' ' ≤ c && c ≤ '/' then intermediate
    else if '0' ≤ c && c ≤ '~' then ground
    else escape
  | intermediate => if '0' ≤ c && c ≤ '~' then ground else intermediate
  | control => if '@' ≤ c && c ≤ '~' then ground else control
  | command => if c == '\x07' then ground else command
  | device =>
    if ' ' ≤ c && c ≤ '/' then deviceIntermediate
    else if '0' ≤ c && c ≤ '?' then deviceParameters
    else if '@' ≤ c && c ≤ '~' then string
    else device
  | deviceParameters =>
    if ' ' ≤ c && c ≤ '/' then deviceIntermediate
    else if '<' ≤ c && c ≤ '~' then string
    else deviceParameters
  | deviceIntermediate => if '0' ≤ c && c ≤ '~' then string else deviceIntermediate
  | string => if holdsTerminator c then ground else string

/-- The state behind a character. -/
def step (state : SequenceState) (c : Char) : SequenceState :=
  if c == escapeChar then escape
  else if isCancel c then ground
  else state.next c

/-- A control character that moves the cursor takes effect inside these sequences. -/
def allowsLayout : SequenceState → Bool
  | ground | escape | intermediate | control => true
  | _ => false

end SequenceState

/-- The control characters that stay in a text. -/
def isLayout (c : Char) : Bool := c == '\t' || c == '\n' || c == '\x0c' || c == '\r'

def isShown (c : Char) : Bool := isLayout c || (' ' ≤ c && c != '\x7f')

/-- The characters that stay of those read so far, the last one first. -/
structure PlainScan where
  shown : List Char
  state : SequenceState
  /-- The last character stayed. -/
  showing : Bool

namespace PlainScan

def start : PlainScan := ⟨[], .ground, true⟩

/-- Text that is being shown goes on until a character is dropped. A character beyond ASCII ends a
sequence that is still open. -/
def step (scan : PlainScan) (c : Char) : PlainScan :=
  if scan.showing && isShown c then
    ⟨c :: scan.shown, if c.toNat < 0x80 then scan.state else .ground, true⟩
  else if (scan.state == .ground && isShown c) || (scan.state.allowsLayout && isLayout c) then
    ⟨c :: scan.shown, scan.state, true⟩
  else ⟨scan.shown, scan.state.step c, false⟩

end PlainScan

def plain (text : String) : String :=
  String.ofList (text.toList.foldl PlainScan.step .start).shown.reverse

/-- A text as far as it is read, all lists with the last element first. -/
structure StyledScan where
  /-- The characters outside of sequences. -/
  shown : List Char
  /-- The complete sequences. -/
  sequences : List (List Char)
  /-- The sequence that is begun. -/
  begun : List Char
  state : SequenceState

namespace StyledScan

def start : StyledScan := ⟨[], [], [], .ground⟩

def complete (scan : StyledScan) (begun : List Char) : StyledScan :=
  ⟨scan.shown, begun.reverse :: scan.sequences, [], .ground⟩

/-- A sequence is complete when nothing is begun any more. One that is broken off by another escape
character or a cancel counts for nothing, unless it is a command. -/
def step (scan : StyledScan) (c : Char) : StyledScan :=
  let scan := if scan.state == .command && (c == escapeChar || isCancel c) then
    scan.complete scan.begun else scan
  if c == escapeChar then { scan with begun := [c], state := .escape }
  else if scan.state == .ground then { scan with shown := c :: scan.shown }
  else if isCancel c then { scan with begun := [], state := .ground }
  else match scan.state.next c with
    | .ground => scan.complete (c :: scan.begun)
    | state => { scan with begun := c :: scan.begun, state }

def ofText (text : List Char) : StyledScan := text.foldl step start

end StyledScan

def unstyled (text : List Char) : List Char := (StyledScan.ofText text).shown.reverse

def sequencesOf (text : List Char) : List (List Char) := (StyledScan.ofText text).sequences.reverse

def resetSequence : List Char := [escapeChar, '[', '0', 'm']

/-- Of sequences in a row, those that are still in force at the end: what stands behind the last
reset. -/
def inForce (sequences : List (List Char)) : List (List Char) :=
  (sequences.reverse.takeWhile (· ≠ resetSequence)).reverse

/-- Lines that can stand by themselves, with the sequences in force before them. -/
def restyle (active : List (List Char)) : List (List Char) → List (List Char)
  | [] => []
  | line :: rest =>
    let after := inForce (active ++ sequencesOf line)
    (active.flatten ++ line ++ if after.isEmpty then [] else resetSequence) :: restyle after rest

end AndInverter.Text
