import AndInverter.Text.CellContext
import AndInverter.Text.CodePoints

/-!
The cells that a character takes as a part of a ligature or of an emoji sequence. The part that
stands last has its own cells already, so that the parts in front take none, or give cells back.
-/
namespace AndInverter.Text

/-- Khmer letters that take no cells below another letter. -/
def coengLetters : CodePoints :=
  #[
    (0x1780, 0x1782), (0x1784, 0x1787), (0x1789, 0x178c), (0x178e, 0x1793), (0x1795, 0x1798),
    (0x179b, 0x179d), (0x17a0, 0x17a0), (0x17a2, 0x17a2), (0x17a7, 0x17a7), (0x17ab, 0x17ac),
    (0x17af, 0x17af)]

/-- Joining_Group Alef. -/
def alefs : CodePoints :=
  #[
    (0x622, 0x623), (0x625, 0x625), (0x627, 0x627), (0x671, 0x673), (0x675, 0x675),
    (0x773, 0x774), (0x870, 0x882)]

/-- Joining_Group Lam. -/
def lams : CodePoints :=
  #[(0x644, 0x644), (0x6b5, 0x6b8), (0x76a, 0x76a), (0x8a6, 0x8a6), (0x8c7, 0x8c7)]

/-- Default ignorable combining marks, which may stand inside a ligature. -/
def ligatureTransparent : CodePoints :=
  #[
    (0x34f, 0x34f), (0x17b4, 0x17b5), (0x180b, 0x180d), (0x180f, 0x180f), (0xfe00, 0xfe0f),
    (0xe0100, 0xe01ef)]

def isTifinaghConsonant (c : Char) : Bool :=
  (0x2d31 ≤ c.toNat && c.toNat ≤ 0x2d65) || c.toNat == 0x2d6f

def isZeroWidthJoiner (c : Char) : Bool := c.toNat == 0x200d

def isTagLetter (c : Char) : Bool := 0xe0061 ≤ c.toNat && c.toNat ≤ 0xe007a

def isTagDigit (c : Char) : Bool := 0xe0030 ≤ c.toNat && c.toNat ≤ 0xe0039

namespace Behind

def ofChar (c : Char) : Behind :=
  if c.toNat == 0x5dc then lamed false
  else if alefs.contains c then alef
  else if coengLetters.contains c then coengLetter
  else if c.toNat == 0x1a10 then ya false
  else if isTifinaghConsonant c then consonant false
  else if 0xa4fc ≤ c.toNat && c.toNat ≤ 0xa4fd then tone
  else if c.toNat == 0x10c03 then orkhon false
  else if c.toNat == 0x16d67 then vowelE
  else if c.toNat == 0x16d68 then vowelAi
  else if isRegionalIndicator c then indicator
  else if isEmojiModifier c then modifier
  else if isEmojiPresentation c then emoji
  else other

/-- Joiners and ignorable marks inside a ligature, other than an Arabic one. -/
def passed? (behind : Behind) (c : Char) : Option Behind :=
  if !behind.isLigature || behind == alef then none
  else if isZeroWidthJoiner c then some behind.join
  else if ligatureTransparent.contains c then some behind
  else none

/-- The cells of a character in front of a ligature of its script, and what it begins with it. -/
def ligature? (behind : Behind) (c : Char) : Option (Int × Behind) :=
  match behind, c.toNat with
  | alef, _ => if lams.contains c then some (0, other) else none
  | lamed true, 0x5d0 => some (0, other)
  | coengLetter, 0x17d2 => some (-1, other)
  | ya true, 0x1a17 => some (0, vowelAndYa)
  | vowelAndYa, 0x1a15 => some (0, other)
  | consonant _, 0x2d7f => some (1, joinerAndConsonant)
  | consonant true, _ => if isTifinaghConsonant c then some (0, other) else none
  | joinerAndConsonant, _ => if isTifinaghConsonant c then some (-1, other) else none
  | tone, code => if 0xa4f8 ≤ code && code ≤ 0xa4fb then some (0, other) else none
  | orkhon true, 0x10c32 => some (0, other)
  | vowelE, 0x16d63 => some (0, other)
  | vowelE, 0x16d67 => some (0, vowelAi)
  | vowelE, 0x16d68 => some (1, vowelE)
  | vowelE, 0x16d69 => some (0, other)
  | vowelAi, 0x16d63 => some (0, other)
  | _, _ => none

/-- The cells and the sequence of a regional indicator, which has one cell. Two of them are a flag,
and a flag that is joined to what follows has none: the second one read takes back what the first
one took, unless a third one shows that they make no flag. -/
def indicator? : Behind → Option (Int × Behind)
  | indicator | indicators => some (1, indicators)
  | joinedEmoji => some (1, joinedIndicators 1)
  | joinedIndicators count =>
    some (if count % 2 = 1 then -1 else 3, joinedIndicators (count + 1))
  | _ => none

def isJoinable : Behind → Bool
  | emoji | modifier | indicators => true
  | joinedIndicators count => 2 ≤ count
  | _ => false

def tagged? (letters digits : Nat) (c : Char) : Option Behind :=
  if isTagLetter c && digits == 0 && letters < 6 then some (joinedTags (letters + 1) 0)
  else if isTagDigit c && letters < 5 && digits < 3 then some (joinedTags letters (digits + 1))
  else if c.toNat == 0x1f3f4 && (digits == 3 || (digits == 0 && 3 ≤ letters)) then some emoji
  else none

def joined? (c : Char) : Option Behind :=
  if c.toNat == 0x20e3 then some joinedKeycap
  else if isEmojiModifier c then some modifier
  else if c.toNat == 0xe007f then some (joinedTags 0 0)
  else if isEmojiPresentation c then some emoji
  else none

/-- The cells of a character in front of an emoji sequence, and what it begins with it. -/
def picture? (behind : Behind) (c : Char) : Option (Int × Behind) :=
  if isRegionalIndicator c then behind.indicator?
  else if isZeroWidthJoiner c then
    if behind.isJoinable then some (0, joinedEmoji) else none
  else match behind with
    | modifier => if isEmojiModifierBase c then some (0, emoji) else none
    | joinedEmoji => (joined? c).map fun sequence => (0, sequence)
    | joinedTags letters digits => (tagged? letters digits c).map fun sequence => (0, sequence)
    | _ => none

end Behind

end AndInverter.Text
