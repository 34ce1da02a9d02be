import AndInverter.Proofs.Text.SignedNumeral

/-!
# The number one

One is written as the digit 1, behind as many zeros as one likes and perhaps a plus sign. Every
other numeral has another value.
-/
namespace AndInverter.Text
open Outcome Word

/-- A one, perhaps behind a plus sign and zeros. -/
def IsOne (text : List Char) : Prop :=
  ∃ n, text = List.replicate n '0' ++ ['1'] ∨ text = '+' :: (List.replicate n '0' ++ ['1'])

section One
variable {digits text : List Char}

theorem eq_of_isDigit {c d : Char} (isDigit : c.isDigit = true)
    (same : c.toNat - '0'.toNat = d.toNat - '0'.toNat) (digit : d.isDigit = true) : c = d := by
  simp only [Char.isDigit, Bool.and_eq_true, decide_eq_true_eq, ge_iff_le,
    UInt32.le_iff_toNat_le] at isDigit digit
  have zero : '0'.toNat = 48 := rfl
  have least : '0'.val.toNat = 48 := rfl
  refine Char.toNat_inj.mp ?_
  simp only [Char.toNat] at same zero ⊢
  omega

/-- Digits that stand for zero are zeros. -/
theorem eq_zero_of_value_eq_zero (isDigit : ∀ c ∈ digits, c.isDigit = true)
    (zero : Nat.ofDigitChars 10 digits 0 = 0) : ∀ c ∈ digits, c = '0' := by
  induction digits with
  | nil => simp
  | cons c rest ih =>
    obtain ⟨digit, others⟩ := List.forall_mem_cons.mp isDigit
    rw [Nat.ofDigitChars_cons] at zero
    have small : 10 * 0 + (c.toNat - '0'.toNat) = 0 := by
      have grows := le_ofDigitChars rest (10 * 0 + (c.toNat - '0'.toNat))
      omega
    rw [small] at zero
    have head : c = '0' := eq_of_isDigit digit (by omega) rfl
    exact List.forall_mem_cons.mpr ⟨head, ih others zero⟩

theorem value_replicate_zero (n : Nat) : Nat.ofDigitChars 10 (List.replicate n '0') 0 = 0 := by
  induction n with
  | zero => rfl
  | succ n ih =>
    rw [List.replicate_succ, Nat.ofDigitChars_cons]
    exact ih

/-- In positional notation only zeros and a final one make one. -/
theorem isDigits_and_value_eq_one_iff : IsDigits digits ∧ digitsValue digits = 1 ↔
    ∃ n, digits = List.replicate n '0' ++ ['1'] := by
  constructor
  · rintro ⟨isDigits, one⟩
    rcases List.eq_nil_or_concat digits with rfl | ⟨front, last, rfl⟩
    · exact absurd rfl isDigits.ne_nil
    · rw [List.concat_eq_append] at isDigits one ⊢
      obtain ⟨digitsFront, digitLast⟩ := List.forall_mem_append.mp isDigits.isDigit
      rw [digitsValue, Nat.ofDigitChars_append, Nat.ofDigitChars_cons, Nat.ofDigitChars_nil] at one
      have zeros := eq_zero_of_value_eq_zero digitsFront (by omega)
      have unit : last = '1' := by
        refine eq_of_isDigit (digitLast last (List.mem_singleton.mpr rfl)) ?_ rfl
        have value : '1'.toNat - '0'.toNat = 1 := rfl
        omega
      exact ⟨front.length, by rw [← List.eq_replicate_of_mem zeros, unit]⟩
  · rintro ⟨n, rfl⟩
    refine ⟨⟨by simp, ?_⟩, ?_⟩
    · intro c hc
      rcases List.mem_append.mp hc with hc | hc
      · rw [List.eq_of_mem_replicate hc]
        rfl
      · rw [List.mem_singleton.mp hc]
        rfl
    · rw [digitsValue, Nat.ofDigitChars_append, value_replicate_zero]
      rfl

/-- A sign is no digit, so what begins with one does not consist of zeros and a one. -/
theorem cons_ne_zeros_one {c : Char} (sign : c.isDigit = false) (n : Nat) :
    c :: text ≠ List.replicate n '0' ++ ['1'] := by
  intro same
  have isDigits := (isDigits_and_value_eq_one_iff.mpr ⟨n, same⟩).1
  rw [isDigits.isDigit c List.mem_cons_self] at sign
  cases sign

theorem isOne_plus_iff :
    IsOne ('+' :: digits) ↔ ∃ n, digits = List.replicate n '0' ++ ['1'] := by
  constructor
  · rintro ⟨n, same | same⟩
    · exact absurd same (cons_ne_zeros_one rfl n)
    · exact ⟨n, (List.cons.inj same).2⟩
  · rintro ⟨n, rfl⟩
    exact ⟨n, Or.inr rfl⟩

theorem not_isOne_minus : ¬ IsOne ('-' :: digits) := by
  rintro ⟨n, same | same⟩
  · exact cons_ne_zeros_one rfl n same
  · cases same

theorem isOne_iff_of_ne_plus (unsigned : ∀ rest, text ≠ '+' :: rest) :
    IsOne text ↔ ∃ n, text = List.replicate n '0' ++ ['1'] := by
  constructor
  · rintro ⟨n, same | same⟩
    · exact ⟨n, same⟩
    · exact absurd same (unsigned _)
  · rintro ⟨n, same⟩
    exact ⟨n, Or.inl same⟩

/-- Of all texts only a written one is read as the number one. -/
theorem readSigned_eq_one_iff : readSigned text = .ok 1 ↔ IsOne text := by
  have one (n : Nat) : Int.ofNat n = 1 ↔ n = 1 := Int.ofNat_inj
  have within : 1 ≤ maxSigned := by decide
  rw [readSigned.eq_def]
  split
  · rw [isOne_iff_of_ne_plus (by simp)]
    simp
  · next digits =>
    simp only [isOne_plus_iff, map_eq_ok_iff, one, exists_eq_right,
      readDigitsAfterSign_eq_ok_iff, within, and_true, isDigits_and_value_eq_one_iff]
  · next digits =>
    refine iff_of_false ?_ not_isOne_minus
    rw [map_eq_ok_iff]
    rintro ⟨n, -, negative⟩
    simp only [Int.ofNat_eq_natCast] at negative
    omega
  · next nonempty plus _ =>
    rw [isOne_iff_of_ne_plus fun rest => plus rest]
    simp only [map_eq_ok_iff, one, exists_eq_right,
      readDigits_zero_eq_ok_iff fun h => nonempty h, within, and_true,
      isDigits_and_value_eq_one_iff]

end One

end AndInverter.Text
