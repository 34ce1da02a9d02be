import AndInverter.Proofs.Outcome
import AndInverter.Text.Decimal

/-!
# Which texts are numerals

The readers of numerals accept a text exactly if it is a sign, where one is allowed, and digits in
positional notation whose value stays within the bound; the value read is that one.
-/
namespace AndInverter.Text
open Outcome Word

structure IsDigits (digits : List Char) : Prop where
  ne_nil : digits ≠ []
  isDigit : ∀ c ∈ digits, c.isDigit = true

def digitsValue (digits : List Char) : Nat := Nat.ofDigitChars 10 digits 0

/-- An unsigned decimal: digits, perhaps behind a plus sign. -/
def IsUnsigned (text : List Char) (n : Nat) : Prop :=
  ∃ digits, IsDigits digits ∧ digitsValue digits = n ∧ (text = digits ∨ text = '+' :: digits)

theorem isUnsigned_natural (n : Nat) : IsUnsigned (natural n) n :=
  ⟨natural n, ⟨natural_ne_nil n, fun _ => isDigit_of_mem_natural⟩, ofDigitChars_natural n, .inl rfl⟩

/-- Digits are read to their positional value, as long as it is within the bound. -/
theorem readDigits_eq_ok_iff {bound : Nat} {beyond : NumeralProblem} {digits : List Char}
    {value n : Nat} (within : value ≤ bound) : readDigits bound beyond value digits = .ok n ↔
      (∀ c ∈ digits, c.isDigit = true) ∧ Nat.ofDigitChars 10 digits value = n ∧ n ≤ bound := by
  constructor
  · intro h
    induction digits generalizing value with
    | nil =>
      cases h
      exact ⟨by simp, by simp, within⟩
    | cons c rest ih =>
      rw [readDigits] at h
      split at h
      · next digit =>
        simp only at h
        split at h
        · next le =>
          obtain ⟨later, value_eq, le⟩ := ih le h
          refine ⟨List.forall_mem_cons.mpr ⟨digit, later⟩, ?_, le⟩
          rw [Nat.ofDigitChars_cons]
          exact value_eq
        · cases h
      · cases h
  · rintro ⟨digit, rfl, le⟩
    exact readDigits_of_isDigit digit value le

theorem readDigits_zero_eq_ok_iff {bound : Nat} {beyond : NumeralProblem} {digits : List Char}
    {n : Nat} (nonempty : digits ≠ []) : readDigits bound beyond 0 digits = .ok n ↔
      IsDigits digits ∧ digitsValue digits = n ∧ n ≤ bound := by
  rw [readDigits_eq_ok_iff (Nat.zero_le bound), digitsValue]
  constructor
  · rintro ⟨digit, h⟩
    exact ⟨⟨nonempty, digit⟩, h⟩
  · rintro ⟨digits, h⟩
    exact ⟨digits.isDigit, h⟩

theorem readDigitsAfterSign_eq_ok_iff {bound : Nat} {beyond : NumeralProblem} {digits : List Char}
    {n : Nat} : readDigitsAfterSign bound beyond digits = .ok n ↔
      IsDigits digits ∧ digitsValue digits = n ∧ n ≤ bound := by
  cases digits with
  | nil =>
    constructor
    · intro h
      cases h
    · rintro ⟨digits, _⟩
      exact absurd rfl digits.ne_nil
  | cons c rest => exact readDigits_zero_eq_ok_iff (List.cons_ne_nil c rest)

/-- A plus sign is no digit, so a numeral has at most one reading. -/
theorem IsDigits.head_ne_plus {digits rest : List Char} (h : IsDigits digits) :
    digits ≠ '+' :: rest := by
  rintro rfl
  have digit := h.isDigit '+' List.mem_cons_self
  exact absurd digit (by decide)

theorem toUInt64_eq_iff {n : Nat} {w : UInt64} (le : n ≤ maxWord) :
    n.toUInt64 = w ↔ n = w.toNat := by
  rw [← UInt64.toNat_inj]
  have word : n.toUInt64.toNat = n := UInt64.toNat_ofNat_of_lt' (Nat.lt_succ_of_le le)
  rw [word]

/-- A reading as a word is a reading as a number that the word holds. -/
theorem map_toUInt64_eq_ok_iff {x : Except NumeralProblem Nat} {w : UInt64} {p : Nat → Prop}
    (reads : ∀ n, x = .ok n ↔ p n ∧ n ≤ maxWord) : x.map Nat.toUInt64 = .ok w ↔ p w.toNat := by
  rw [map_eq_ok_iff]
  constructor
  · rintro ⟨n, hn, hw⟩
    obtain ⟨hp, le⟩ := (reads n).mp hn
    exact (toUInt64_eq_iff le).mp hw ▸ hp
  · intro hp
    have le := toNat_le_maxWord w
    exact ⟨w.toNat, (reads w.toNat).mpr ⟨hp, le⟩, (toUInt64_eq_iff le).mpr rfl⟩

/-- The reader of numerals takes exactly the unsigned decimals below the size of the words. -/
theorem readUnsigned_eq_ok_iff {text : List Char} {w : UInt64} :
    readUnsigned text = .ok w ↔ IsUnsigned text w.toNat := by
  rw [readUnsigned.eq_def]
  split
  · constructor
    · intro h
      cases h
    · rintro ⟨digits, isDigits, _, rfl | h⟩
      · exact absurd rfl isDigits.ne_nil
      · cases h
  · next digits =>
    rw [map_toUInt64_eq_ok_iff (p := fun n => IsDigits digits ∧ digitsValue digits = n)
      fun n => by rw [readDigitsAfterSign_eq_ok_iff, and_assoc]]
    constructor
    · rintro ⟨isDigits, value⟩
      exact ⟨digits, isDigits, value, Or.inr rfl⟩
    · rintro ⟨others, isDigits, value, h | h⟩
      · exact absurd h.symm isDigits.head_ne_plus
      · cases h
        exact ⟨isDigits, value⟩
  · next nonempty unsigned =>
    rw [map_toUInt64_eq_ok_iff (p := fun n => IsDigits text ∧ digitsValue text = n)
      fun n => by rw [readDigits_zero_eq_ok_iff (fun h => nonempty h), and_assoc]]
    constructor
    · rintro ⟨isDigits, value⟩
      exact ⟨text, isDigits, value, Or.inl rfl⟩
    · rintro ⟨digits, isDigits, value, rfl | rfl⟩
      · exact ⟨isDigits, value⟩
      · exact absurd rfl (unsigned digits)

end AndInverter.Text
