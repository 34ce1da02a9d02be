import AndInverter.Text.Emoji

/-!
What stands behind a character, as far as it decides how many terminal cells the character takes.
Scripts join letters into ligatures, emoji join into one picture, and variation selectors choose
between the forms of a character; in each case the later character is met first when a text is
read from its end.
-/
namespace AndInverter.Text

/-- The beginning of a ligature or of an emoji sequence that characters in front can complete. A
flag `joined` says that a zero width joiner stands before it. -/
inductive Behind
  | other
  /-- An Arabic letter of the group Alef. -/
  | alef
  /-- The Hebrew letter Lamed. -/
  | lamed (joined : Bool)
  /-- A Khmer letter that can stand below another one. -/
  | coengLetter
  /-- The Buginese letter Ya. -/
  | ya (joined : Bool)
  /-- The Buginese vowel sign I before a joined Ya. -/
  | vowelAndYa
  /-- A Tifinagh consonant. -/
  | consonant (joined : Bool)
  /-- The Tifinagh consonant joiner before a consonant. -/
  | joinerAndConsonant
  /-- One of the Lisu tone letters Mya Na and Jeu. -/
  | tone
  /-- The Old Turkic letter Orkhon I. -/
  | orkhon (joined : Bool)
  /-- The Kirat Rai vowel sign E. -/
  | vowelE
  /-- The Kirat Rai vowel sign AI, which may be written as two signs E. -/
  | vowelAi
  /-- An emoji modifier. -/
  | modifier
  /-- One regional indicator. -/
  | indicator
  /-- Two regional indicators, which make a flag, or more. -/
  | indicators
  | emoji
  /-- An emoji with a joiner before it. -/
  | joinedEmoji
  /-- An enclosing keycap before a joined emoji. -/
  | joinedKeycap
  /-- Regional indicators before a joined emoji. -/
  | joinedIndicators (count : Nat)
  /-- The end of a tag sequence before a joined emoji: so many letters behind so many digits. -/
  | joinedTags (letters digits : Nat)
  deriving DecidableEq, Repr

inductive Variation
  | text
  | emoji
  | fullwidth
  deriving DecidableEq, Repr

def Variation.ofSelector? (c : Char) : Option Variation :=
  match c.toNat with
  | 0xfe01 => some fullwidth
  | 0xfe0e => some text
  | 0xfe0f => some emoji
  | _ => none

/-- What stands behind a character, with the variation selector in between if there is one. -/
structure CellContext where
  behind : Behind
  variation : Option Variation
  deriving DecidableEq, Repr

namespace Behind

/-- A ligature of a script, which a variation selector does not break. -/
def isLigature : Behind → Bool
  | alef | lamed _ | coengLetter | ya _ | vowelAndYa | consonant _ | joinerAndConsonant | tone
  | orkhon _ => true
  | _ => false

def isJoinedPicture : Behind → Bool
  | joinedEmoji | joinedKeycap => true
  | _ => false

/-- The ligature with a joiner before it. Ligatures that need none pass over it. -/
def join : Behind → Behind
  | lamed _ => lamed true
  | ya _ => ya true
  | consonant _ => consonant true
  | orkhon _ => orkhon true
  | behind => behind

end Behind

namespace CellContext

def nothing : CellContext := ⟨.other, none⟩

def ofBehind (behind : Behind) : CellContext := ⟨behind, none⟩

def select (context : CellContext) (variation : Variation) : CellContext :=
  if context.behind.isLigature || (variation == .emoji && context.behind.isJoinedPicture) then
    ⟨context.behind, some variation⟩
  else ⟨.other, some variation⟩

/-- The context when the selector in it did not apply. A picture form that a character does not have
leaves nothing of an emoji sequence. -/
def unselect (context : CellContext) : CellContext :=
  match context.variation with
  | some .emoji => if context.behind.isLigature then ⟨context.behind, none⟩ else nothing
  | _ => ⟨context.behind, none⟩

end CellContext

end AndInverter.Text
