/-!
Cutting a text into pieces. Lines end at a line feed only, fields are the runs between blanks, and
a pair is cut at the first separator. Blanks are the code points with the Unicode property
White_Space: control characters such as U+001F and the zero width characters U+200B, U+2060 and
U+FEFF are not among them. Everything is a fold or a library function on lists, so that a law about
a character at the front is a law about the whole text by induction. Bytes that are no text have a
first position at which no character can be decoded, and so a line where that happens.
-/
namespace AndInverter.Text

/-- The code point ranges of White_Space, ends included, in ascending order. -/
def blankRanges : List (Nat × Nat) :=
  [(0x09, 0x0d), (0x20, 0x20), (0x85, 0x85), (0xa0, 0xa0), (0x1680, 0x1680), (0x2000, 0x200a),
    (0x2028, 0x2029), (0x202f, 0x202f), (0x205f, 0x205f), (0x3000, 0x3000)]

def isBlank (c : Char) : Bool :=
  blankRanges.any fun (first, last) => first ≤ c.toNat && c.toNat ≤ last

/-- One character put before a text already cut: a separator opens an empty piece, any other
character joins the first piece. -/
def cutStep (isSeparator : Char → Bool) (c : Char) (cut : List (List Char)) : List (List Char) :=
  if isSeparator c then [] :: cut
  else match cut with
    | [] => [[c]]
    | piece :: rest => (c :: piece) :: rest

/-- The pieces between separators, empty ones included. -/
def pieces (isSeparator : Char → Bool) (text : List Char) : List (List Char) :=
  text.foldr (cutStep isSeparator) [[]]

/-- A final line feed opens no further line. -/
def lines (text : List Char) : List (List Char) :=
  text.foldr (cutStep (· == '\n')) []

/-- The longest runs of characters that are not blank. -/
def fields (text : List Char) : List (List Char) :=
  (pieces isBlank text).filter fun piece => !piece.isEmpty

def trimStart (text : List Char) : List Char := text.dropWhile isBlank

def trimEnd (text : List Char) : List Char := (text.reverse.dropWhile isBlank).reverse

def trim (text : List Char) : List Char := trimEnd (trimStart text)

def squeezeStep (c : Char) (squeezed : List Char) : List Char :=
  if isBlank c then if squeezed.head? = some ' ' then squeezed else ' ' :: squeezed
  else c :: squeezed

/-- Every run of blanks becomes a single space. -/
def squeeze (text : List Char) : List Char := text.foldr squeezeStep []

/-- The text before the first separator and the text after it; nothing without a separator. -/
def splitFirst (separator : Char) (text : List Char) : Option (List Char × List Char) :=
  match text.dropWhile (· != separator) with
  | [] => none
  | _ :: rest => some (text.takeWhile (· != separator), rest)

@[simp] theorem lines_nil : lines [] = [] := rfl

theorem lines_cons (c : Char) (text : List Char) :
    lines (c :: text) = cutStep (· == '\n') c (lines text) := rfl

@[simp] theorem pieces_nil (p : Char → Bool) : pieces p [] = [[]] := rfl

theorem pieces_cons (p : Char → Bool) (c : Char) (text : List Char) :
    pieces p (c :: text) = cutStep p c (pieces p text) := rfl

/-- The position of the first byte, from `start` on, that begins no character; characters are
decoded one after the other. -/
def validLength (bytes : ByteArray) (start : Nat) : Nat :=
  match h : bytes.utf8DecodeChar? start with
  | none => start
  | some c =>
    have : bytes.size - (start + c.utf8Size) < bytes.size - start := by
      have := ByteArray.le_size_of_utf8DecodeChar?_eq_some h
      have := c.utf8Size_pos
      omega
    validLength bytes (start + c.utf8Size)
termination_by bytes.size - start

def invalidLine (bytes : ByteArray) : Nat :=
  (bytes.data.toList.take (validLength bytes 0)).count 10 + 1

end AndInverter.Text
