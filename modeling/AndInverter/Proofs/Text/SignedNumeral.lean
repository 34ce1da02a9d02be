import AndInverter.Proofs.Text.Numeral

/-!
# Which texts pass as integers

Signed numerals are read from left to right up to the first problem. A text is found to be no
integer only if a wrong character comes before the value has left the signed words; behind the digit
that leaves them nothing is looked at any more.
-/
namespace AndInverter.Text
open Outcome Word

/-- Digits whose value is beyond the bound, whatever stands behind them. -/
def Overruns (bound : Nat) (text : List Char) : Prop :=
  ∃ digits rest, text = digits ++ rest ∧ IsDigits digits ∧ bound < digitsValue digits

/-- What stands behind an optional sign, and the largest number that the sign allows. -/
inductive BehindSign : List Char → Nat → List Char → Prop
  | none (text : List Char) : BehindSign text maxSigned text
  | plus (text : List Char) : BehindSign ('+' :: text) maxSigned text
  | minus (text : List Char) : BehindSign ('-' :: text) (maxSigned + 1) text

/-- A decimal integer of any size, perhaps behind a sign. -/
def IsInteger (text : List Char) : Prop :=
  ∃ bound digits, BehindSign text bound digits ∧ IsDigits digits

/-- The text begins with an integer outside the signed words. -/
def LeavesWords (text : List Char) : Prop :=
  ∃ bound behind, BehindSign text bound behind ∧ Overruns bound behind

section Digits
variable {bound value : Nat} {beyond : NumeralProblem} {text : List Char}

def Leaves (bound value : Nat) (text : List Char) : Prop :=
  ∃ digits rest, text = digits ++ rest ∧ (∀ c ∈ digits, c.isDigit = true) ∧
    bound < Nat.ofDigitChars 10 digits value

theorem overruns_iff : Overruns bound text ↔ Leaves bound 0 text := by
  constructor
  · rintro ⟨digits, rest, split, isDigits, leaves⟩
    exact ⟨digits, rest, split, isDigits.isDigit, leaves⟩
  · rintro ⟨digits, rest, split, isDigit, leaves⟩
    have nonempty : digits ≠ [] := by
      rintro rfl
      exact absurd leaves (Nat.not_lt_zero bound)
    exact ⟨digits, rest, split, ⟨nonempty, isDigit⟩, leaves⟩

theorem not_leaves_nil (within : value ≤ bound) : ¬ Leaves bound value [] := by
  rintro ⟨digits, rest, split, _, leaves⟩
  obtain ⟨rfl, rfl⟩ := List.append_eq_nil_iff.mp split.symm
  exact absurd within (Nat.not_le.mpr leaves)

theorem leaves_cons_iff {c : Char} (within : value ≤ bound) : Leaves bound value (c :: text) ↔
    c.isDigit = true ∧ Leaves bound (10 * value + (c.toNat - '0'.toNat)) text := by
  constructor
  · rintro ⟨_ | ⟨d, digits⟩, rest, split, isDigit, leaves⟩
    · exact absurd within (Nat.not_le.mpr leaves)
    · obtain ⟨rfl, rfl⟩ := List.cons.inj split
      obtain ⟨digit, isDigit⟩ := List.forall_mem_cons.mp isDigit
      rw [Nat.ofDigitChars_cons] at leaves
      exact ⟨digit, digits, rest, rfl, isDigit, leaves⟩
  · rintro ⟨digit, digits, rest, rfl, isDigit, leaves⟩
    refine ⟨c :: digits, rest, rfl, List.forall_mem_cons.mpr ⟨digit, isDigit⟩, ?_⟩
    rwa [Nat.ofDigitChars_cons]

/-- The digits that leave the bound are met before anything that is no digit. -/
theorem readDigits_eq_beyond_iff (within : value ≤ bound) (other : beyond ≠ .invalidDigit) :
    readDigits bound beyond value text = .error beyond ↔ Leaves bound value text := by
  induction text generalizing value with
  | nil => exact iff_of_false nofun (not_leaves_nil within)
  | cons c text ih =>
    rw [leaves_cons_iff within, readDigits]
    by_cases digit : c.isDigit = true
    · by_cases le : 10 * value + (c.toNat - '0'.toNat) ≤ bound
      · simp only [digit, le, if_true, ih le, true_and]
      · have leaves : Leaves bound (10 * value + (c.toNat - '0'.toNat)) text :=
          ⟨[], text, rfl, by simp, Nat.lt_of_not_le le⟩
        simp only [digit, le, if_true, if_false, leaves, true_and]
    · simp [digit, other.symm]

theorem eq_or_eq_of_readDigits {p : NumeralProblem}
    (h : readDigits bound beyond value text = .error p) : p = beyond ∨ p = .invalidDigit := by
  induction text generalizing value with
  | nil => cases h
  | cons c text ih =>
    rw [readDigits] at h
    split at h
    · simp only at h
      split at h
      · exact ih h
      · cases h
        exact Or.inl rfl
    · cases h
      exact Or.inr rfl

/-- A wrong character is noticed unless digits lead beyond the bound before it. -/
theorem readDigits_eq_invalid_iff (within : value ≤ bound) (other : beyond ≠ .invalidDigit) :
    readDigits bound beyond value text = .error .invalidDigit ↔
      ¬ ((∀ c ∈ text, c.isDigit = true) ∨ Leaves bound value text) := by
  cases outcome : readDigits bound beyond value text with
  | ok n =>
    obtain ⟨isDigit, _⟩ := (readDigits_eq_ok_iff within).mp outcome
    exact iff_of_false nofun (not_not_intro (Or.inl isDigit))
  | error p =>
    rcases eq_or_eq_of_readDigits outcome with rfl | rfl
    · have leaves := (readDigits_eq_beyond_iff within other).mp outcome
      exact iff_of_false (by simpa using other) (not_not_intro (Or.inr leaves))
    · refine iff_of_true rfl ?_
      have stays : ¬ Leaves bound value text := by
        intro leaves
        rw [(readDigits_eq_beyond_iff within other).mpr leaves] at outcome
        cases outcome
        exact other rfl
      rintro (isDigit | leaves)
      · by_cases le : Nat.ofDigitChars 10 text value ≤ bound
        · rw [readDigits_of_isDigit isDigit value le] at outcome
          cases outcome
        · exact stays ⟨text, [], (List.append_nil text).symm, isDigit, Nat.lt_of_not_le le⟩
      · exact stays leaves

/-- Digits to the end, or digits that leave the bound before it. -/
def Passes (bound : Nat) (text : List Char) : Prop := IsDigits text ∨ Overruns bound text

theorem Passes.exists_digit (passes : Passes bound text) :
    ∃ c rest, text = c :: rest ∧ c.isDigit = true := by
  rcases passes with digits | ⟨digits, rest, rfl, isDigits, _⟩
  · obtain ⟨c, rest, rfl⟩ := List.exists_cons_of_ne_nil digits.ne_nil
    exact ⟨c, rest, rfl, digits.isDigit c List.mem_cons_self⟩
  · obtain ⟨c, more, rfl⟩ := List.exists_cons_of_ne_nil isDigits.ne_nil
    exact ⟨c, more ++ rest, rfl, isDigits.isDigit c List.mem_cons_self⟩

theorem not_passes_nil (bound : Nat) : ¬ Passes bound [] := by
  intro passes
  obtain ⟨_, _, split, _⟩ := passes.exists_digit
  cases split

/-- A problem other than the size is a wrong character, found before digits leave the bound. -/
theorem readDigits_zero_eq_error_iff {p : NumeralProblem} (range : beyond.isOutOfRange = true)
    (inRange : p.isOutOfRange = false) (nonempty : text ≠ []) :
    readDigits bound beyond 0 text = .error p ↔ ¬ Passes bound text ∧ p = .invalidDigit := by
  have digits : IsDigits text ↔ ∀ c ∈ text, c.isDigit = true :=
    ⟨IsDigits.isDigit, fun isDigit => ⟨nonempty, isDigit⟩⟩
  have other : beyond ≠ .invalidDigit := by
    rintro rfl
    cases range
  rw [Passes, overruns_iff, digits, ← readDigits_eq_invalid_iff (Nat.zero_le bound) other]
  constructor
  · intro outcome
    rcases eq_or_eq_of_readDigits outcome with rfl | rfl
    · rw [range] at inRange
      cases inRange
    · exact ⟨outcome, rfl⟩
  · rintro ⟨outcome, rfl⟩
    exact outcome

theorem readDigitsAfterSign_eq_error_iff {p : NumeralProblem} (range : beyond.isOutOfRange = true)
    (inRange : p.isOutOfRange = false) :
    readDigitsAfterSign bound beyond text = .error p ↔
      ¬ Passes bound text ∧ p = .invalidDigit := by
  cases text with
  | nil => simp [readDigitsAfterSign, not_passes_nil, eq_comm]
  | cons c rest => exact readDigits_zero_eq_error_iff range inRange (List.cons_ne_nil c rest)

end Digits

section Signs
variable {text rest : List Char}

def PassesBehindSign (text : List Char) : Prop :=
  ∃ bound behind, BehindSign text bound behind ∧ Passes bound behind

/-- Integers of any size and texts that begin with one outside the words, told by what stands
behind the sign. -/
theorem isInteger_or_leavesWords_iff :
    IsInteger text ∨ LeavesWords text ↔ PassesBehindSign text := by
  simp only [IsInteger, LeavesWords, PassesBehindSign, Passes, and_or_left, exists_or]

theorem passesBehindSign_plus : PassesBehindSign ('+' :: rest) ↔ Passes maxSigned rest := by
  constructor
  · rintro ⟨_, _, sign, passes⟩
    cases sign with
    | none =>
      obtain ⟨_, _, ⟨⟩, digit⟩ := passes.exists_digit
      exact absurd digit (by decide)
    | plus => exact passes
  · intro passes
    exact ⟨_, rest, .plus rest, passes⟩

theorem passesBehindSign_minus : PassesBehindSign ('-' :: rest) ↔ Passes (maxSigned + 1) rest := by
  constructor
  · rintro ⟨_, _, sign, passes⟩
    cases sign with
    | none =>
      obtain ⟨_, _, ⟨⟩, digit⟩ := passes.exists_digit
      exact absurd digit (by decide)
    | minus => exact passes
  · intro passes
    exact ⟨_, rest, .minus rest, passes⟩

theorem passesBehindSign_of_ne (plus : ∀ rest, text ≠ '+' :: rest)
    (minus : ∀ rest, text ≠ '-' :: rest) : PassesBehindSign text ↔ Passes maxSigned text := by
  constructor
  · rintro ⟨_, _, sign, passes⟩
    cases sign with
    | none => exact passes
    | plus => exact absurd rfl (plus _)
    | minus => exact absurd rfl (minus _)
  · intro passes
    exact ⟨_, text, .none text, passes⟩

/-- A problem other than the size: the text is empty or has a wrong character before its digits
leave the words. -/
theorem readSigned_eq_error_iff {p : NumeralProblem} (inRange : p.isOutOfRange = false) :
    readSigned text = .error p ↔ ¬ (IsInteger text ∨ LeavesWords text) ∧
      p = if text = [] then .empty else .invalidDigit := by
  rw [isInteger_or_leavesWords_iff, readSigned.eq_def]
  split
  · rw [passesBehindSign_of_ne (by simp) (by simp)]
    simp [not_passes_nil, eq_comm]
  · next digits =>
    rw [map_eq_error_iff, readDigitsAfterSign_eq_error_iff rfl inRange, passesBehindSign_plus,
      if_neg (List.cons_ne_nil _ _)]
  · next digits =>
    rw [map_eq_error_iff, readDigitsAfterSign_eq_error_iff rfl inRange, passesBehindSign_minus,
      if_neg (List.cons_ne_nil _ _)]
  · next nonempty plus minus =>
    rw [map_eq_error_iff, readDigits_zero_eq_error_iff rfl inRange (fun h => nonempty h),
      passesBehindSign_of_ne (fun rest => plus rest) fun rest => minus rest,
      if_neg (fun h => nonempty h)]

end Signs

end AndInverter.Text
