import AndInverter.OrderedMap
import AndInverter.Text.Decimal

/-!
The record of variable names that stands beside a clause set: a JSON object with the one member
`var_to_signal`, whose members are the names under their variables, in order. It is laid out with
two spaces per level and one member per line.

Read back, blanks between the parts mean nothing and the order of the members is kept. The text is
cut into tokens first, with strings already decoded.
-/
namespace AndInverter.NameRecord
open Text

def controlDigits (c : Char) : List Char :=
  [Nat.digitChar (c.toNat / 16), Nat.digitChar (c.toNat % 16)]

/-- Only quotes, backslashes and the controls below U+0020 are escaped. -/
def stringChar (c : Char) : List Char :=
  match c with
  | '"' => ['\\', '"']
  | '\\' => ['\\', '\\']
  | '\x08' => ['\\', 'b']
  | '\x0c' => ['\\', 'f']
  | '\n' => ['\\', 'n']
  | '\r' => ['\\', 'r']
  | '\t' => ['\\', 't']
  | c => if c.toNat < 0x20 then ['\\', 'u', '0', '0'] ++ controlDigits c else [c]

def string (text : List Char) : List Char := '"' :: text.flatMap stringChar ++ ['"']

def member (var : UInt64) (name : String) : List Char :=
  "    ".toList ++ string (natural var.toNat) ++ ": ".toList ++ string name.toList

/-- The inner object; without members it takes no lines of its own. -/
def object (names : List (UInt64 × String)) : List Char :=
  match names with
  | [] => ['\x7b', '\x7d']
  | names =>
    "\x7b\n".toList ++ ",\n".toList.intercalate (names.map fun (var, name) => member var name) ++
      "\n  \x7d".toList

def text (names : OrderedMap UInt64 String) : String :=
  String.ofList ("\x7b\n  \"var_to_signal\": ".toList ++ object names.entries ++ "\n\x7d".toList)

inductive Token
  | openBrace
  | closeBrace
  | colon
  | comma
  | string (text : List Char)
  deriving DecidableEq, Repr

def hexValue? (c : Char) : Option Nat :=
  if c.isDigit then some (c.toNat - '0'.toNat)
  else if 'a' ≤ c && c ≤ 'f' then some (c.toNat - 'a'.toNat + 10)
  else if 'A' ≤ c && c ≤ 'F' then some (c.toNat - 'A'.toNat + 10)
  else none

def ofHexDigits? (a b c d : Char) : Option Char := do
  let high := (← hexValue? a) * 16 + (← hexValue? b)
  let low := (← hexValue? c) * 16 + (← hexValue? d)
  let code := high * 256 + low
  if code.isValidChar then some (Char.ofNat code) else none

def ofEscape? : Char → Option Char
  | '"' => some '"'
  | '\\' => some '\\'
  | '/' => some '/'
  | 'b' => some '\x08'
  | 'f' => some '\x0c'
  | 'n' => some '\n'
  | 'r' => some '\r'
  | 't' => some '\t'
  | _ => none

mutual

def tokens? : List Char → Option (List Token)
  | [] => some []
  | '\x7b' :: rest => (tokens? rest).map (.openBrace :: ·)
  | '\x7d' :: rest => (tokens? rest).map (.closeBrace :: ·)
  | ':' :: rest => (tokens? rest).map (.colon :: ·)
  | ',' :: rest => (tokens? rest).map (.comma :: ·)
  | '"' :: rest => stringTokens? [] rest
  | c :: rest => if c == ' ' || c == '\n' || c == '\r' || c == '\t' then tokens? rest else none

/-- The tokens of a text that begins inside a string, behind the characters `begun` of it. -/
def stringTokens? (begun : List Char) : List Char → Option (List Token)
  | [] => none
  | '"' :: rest => (tokens? rest).map (.string begun :: ·)
  | '\\' :: 'u' :: a :: b :: c :: d :: rest => do
    let decoded ← ofHexDigits? a b c d
    stringTokens? (begun ++ [decoded]) rest
  | '\\' :: c :: rest => do
    let decoded ← ofEscape? c
    stringTokens? (begun ++ [decoded]) rest
  | c :: rest => if c.toNat < 0x20 || c == '\\' then none else stringTokens? (begun ++ [c]) rest

end

/-- The members of an object, up to its closing brace, and the tokens behind it. -/
def members? : List Token → Option (List (List Char × List Char) × List Token)
  | .string key :: .colon :: .string value :: .comma :: rest => do
    let (members, rest) ← members? rest
    return ((key, value) :: members, rest)
  | .string key :: .colon :: .string value :: .closeBrace :: rest => some ([(key, value)], rest)
  | _ => none

def readMember? : List Char × List Char → Option (Nat × String)
  | (key, value) => return (← natural? key, String.ofList value)

def read? (text : String) : Option (List (Nat × String)) := do
  match ← tokens? text.toList with
  | .openBrace :: .string key :: .colon :: .openBrace :: rest =>
    if key ≠ "var_to_signal".toList then none
    else match rest with
      | [.closeBrace, .closeBrace] => some []
      | rest =>
        match ← members? rest with
        | (members, [.closeBrace]) => members.mapM readMember?
        | _ => none
  | _ => none

end AndInverter.NameRecord
