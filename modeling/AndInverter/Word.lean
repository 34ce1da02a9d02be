/-!
64-bit words: their ends as natural numbers, and arithmetic that stops at the largest word instead
of wrapping round. A negative word reaches one further down than a positive one reaches up. Each
operation is fixed by its value as a natural number.
-/
namespace AndInverter.Word

def maxWord : Nat := 0xffffffffffffffff

def maxSigned : Nat := 0x7fffffffffffffff

theorem toNat_le_maxWord (w : UInt64) : w.toNat ≤ maxWord := Nat.le_of_lt_succ w.toNat_lt_size

theorem toNat_ne_zero {w : UInt64} (nonzero : w ≠ 0) : w.toNat ≠ 0 :=
  fun zero => nonzero (UInt64.toNat_inj.mp zero)

theorem toNat_lt_succ {v w : UInt64} (le : v ≤ w) : v.toNat < w.toNat + 1 :=
  Nat.lt_succ_of_le (UInt64.le_iff_toNat_le.mp le)

def clamp (n : Nat) : UInt64 := UInt64.ofNat (min n maxWord)

def saturatingAdd (a b : UInt64) : UInt64 := clamp (a.toNat + b.toNat)

def saturatingMul (a b : UInt64) : UInt64 := clamp (a.toNat * b.toNat)

@[simp] theorem toNat_clamp (n : Nat) : (clamp n).toNat = min n maxWord := by
  rw [clamp, UInt64.toNat_ofNat_of_lt']
  exact Nat.lt_succ_of_le (Nat.min_le_right n maxWord)

theorem toNat_saturatingAdd (a b : UInt64) :
    (saturatingAdd a b).toNat = min (a.toNat + b.toNat) maxWord := toNat_clamp _

theorem toNat_saturatingMul (a b : UInt64) :
    (saturatingMul a b).toNat = min (a.toNat * b.toNat) maxWord := toNat_clamp _

section Signed
variable {v : UInt64} {w : Int64}

/-- A word below the top bit has the same value as a signed word. -/
theorem toInt_toInt64 (le : v.toNat ≤ maxSigned) : v.toInt64.toInt = v.toNat := by
  calc v.toInt64.toInt
      = (UInt64.ofNat v.toNat).toInt64.toInt := by rw [UInt64.ofNat_toNat]
    _ = (Int64.ofNat v.toNat).toInt := by rw [UInt64.toInt64_ofNat']
    _ = v.toNat := Int64.toInt_ofNat_of_lt (Nat.lt_succ_of_le le)

/-- All signed words but the smallest have a negation. -/
theorem natAbs_toInt_le_iff : w.toInt.natAbs ≤ maxSigned ↔ w ≠ Int64.minValue := by
  have low := w.le_toInt
  have high := w.toInt_lt
  rw [Ne, ← Int64.toInt_inj, Int64.toInt_minValue, maxSigned]
  omega

theorem toInt_neg_of_le (le : w.toInt.natAbs ≤ maxSigned) : (-w).toInt = -w.toInt := by
  rw [maxSigned] at le
  rw [Int64.toInt_neg]
  apply Int.bmod_eq_of_le_mul_two
  · omega
  · omega

end Signed

end AndInverter.Word
