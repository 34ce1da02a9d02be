import AndInverter.Word

/-!
Decimal numerals. Writing is the shortest form, with a minus sign for negative integers. Reading
takes one optional sign and then digits up to a bound, from left to right: the first character
that is no digit, or the first digit that leads past the bound, ends the reading with its problem.
So a long numeral with a letter far behind is too large, not malformed.
-/
namespace AndInverter.Text
open Word

/-- Why a text is not a numeral within its bounds. -/
inductive NumeralProblem
  | empty
  | invalidDigit
  | tooLarge
  | tooSmall
  deriving DecidableEq, Repr

namespace NumeralProblem

def message : NumeralProblem → String
  | empty => "cannot parse integer from empty string"
  | invalidDigit => "invalid digit found in string"
  | tooLarge => "number too large to fit in target type"
  | tooSmall => "number too small to fit in target type"

/-- The numeral may be well-formed but its value lies outside the bounds. -/
def isOutOfRange : NumeralProblem → Bool
  | tooLarge | tooSmall => true
  | empty | invalidDigit => false

end NumeralProblem

/-- Reads digits after a prefix of the given value, as long as the value stays within `bound`;
a digit that leads past it gives the problem `beyond`. -/
def readDigits (bound : Nat) (beyond : NumeralProblem) :
    Nat → List Char → Except NumeralProblem Nat
  | value, [] => .ok value
  | value, c :: rest =>
    if c.isDigit then
      let next := 10 * value + (c.toNat - '0'.toNat)
      if next ≤ bound then readDigits bound beyond next rest else .error beyond
    else .error .invalidDigit

def readDigitsAfterSign (bound : Nat) (beyond : NumeralProblem) :
    List Char → Except NumeralProblem Nat
  | [] => .error .invalidDigit
  | digits => readDigits bound beyond 0 digits

/-- Reads an unsigned numeral below 2^64, with an optional plus sign. -/
def readUnsigned : List Char → Except NumeralProblem UInt64
  | [] => .error .empty
  | '+' :: digits => (readDigitsAfterSign maxWord .tooLarge digits).map Nat.toUInt64
  | digits => (readDigits maxWord .tooLarge 0 digits).map Nat.toUInt64

/-- Reads a signed numeral from -2^63 up to 2^63 - 1. -/
def readSigned : List Char → Except NumeralProblem Int
  | [] => .error .empty
  | '+' :: digits => (readDigitsAfterSign maxSigned .tooLarge digits).map Int.ofNat
  | '-' :: digits =>
    (readDigitsAfterSign (maxSigned + 1) .tooSmall digits).map fun n => -Int.ofNat n
  | digits => (readDigits maxSigned .tooLarge 0 digits).map Int.ofNat

def natural (n : Nat) : List Char := Nat.toDigits 10 n

def integer (z : Int) : List Char :=
  if z < 0 then '-' :: natural z.natAbs else natural z.natAbs

/-- The number that digits alone stand for, without a sign. -/
def natural? (text : List Char) : Option Nat :=
  if !text.isEmpty && text.all Char.isDigit then some (Nat.ofDigitChars 10 text 0) else none

def integer? : List Char → Option Int
  | '-' :: digits => (natural? digits).map fun n => -Int.ofNat n
  | digits => (natural? digits).map Int.ofNat

def separateThousands : List Char → List Char
  | a :: b :: c :: d :: rest => a :: b :: c :: ',' :: separateThousands (d :: rest)
  | digits => digits

/-- The digits of a natural number with a comma before each group of three from the right. -/
def grouped (n : Nat) : String :=
  String.ofList (separateThousands (natural n).reverse).reverse

@[simp] theorem readDigits_nil (bound : Nat) (beyond : NumeralProblem) (value : Nat) :
    readDigits bound beyond value [] = .ok value := rfl

theorem isDigit_of_mem_natural {n : Nat} {c : Char} (h : c ∈ natural n) : c.isDigit = true :=
  Nat.isDigit_of_mem_toDigits (by decide) (by decide) h

theorem natural_ne_nil (n : Nat) : natural n ≠ [] := Nat.toDigits_ne_nil

@[simp] theorem ofDigitChars_natural (n : Nat) : Nat.ofDigitChars 10 (natural n) 0 = n :=
  Nat.ofDigitChars_ten_toDigits

theorem le_ofDigitChars (digits : List Char) (value : Nat) :
    value ≤ Nat.ofDigitChars 10 digits value := by
  induction digits generalizing value with
  | nil => simp
  | cons c rest ih =>
    rw [Nat.ofDigitChars_cons]
    exact Nat.le_trans (by omega) (ih _)

/-- Within the bound the digits are read as positional notation. -/
theorem readDigits_of_isDigit {bound : Nat} {beyond : NumeralProblem} {digits : List Char}
    (isDigit : ∀ c ∈ digits, c.isDigit = true) (value : Nat)
    (le : Nat.ofDigitChars 10 digits value ≤ bound) :
    readDigits bound beyond value digits = .ok (Nat.ofDigitChars 10 digits value) := by
  induction digits generalizing value with
  | nil => simp
  | cons c rest ih =>
    rw [Nat.ofDigitChars_cons] at le ⊢
    have hc := isDigit c (by simp)
    have next_le := Nat.le_trans (le_ofDigitChars rest _) le
    simp only [readDigits, hc, if_true, next_le]
    exact ih (fun d hd => isDigit d (by simp [hd])) _ le

@[simp] theorem natural?_natural (n : Nat) : natural? (natural n) = some n := by
  have all : (natural n).all Char.isDigit = true :=
    List.all_eq_true.2 fun c hc => isDigit_of_mem_natural hc
  simp [natural?, natural_ne_nil, all]

@[simp] theorem integer?_integer (z : Int) : integer? (integer z) = some z := by
  unfold integer
  split
  · next negative =>
    have value : -(z.natAbs : Int) = z := by omega
    rw [integer?, natural?_natural, Option.map_some]
    exact congrArg some value
  · next nonneg =>
    have value : (z.natAbs : Int) = z := by omega
    have whole := natural?_natural z.natAbs
    cases h : natural z.natAbs with
    | nil => exact absurd h (natural_ne_nil _)
    | cons c rest =>
      rw [h] at whole
      have hc : c ≠ '-' := by
        rintro rfl
        have isDigit : '-'.isDigit = true :=
          isDigit_of_mem_natural (n := z.natAbs) (by simp [h])
        simp at isDigit
      rw [integer?]
      · rw [whole, Option.map_some]
        exact congrArg some value
      · exact fun _ e => hc (by injection e)

end AndInverter.Text
