import AndInverter.Word

/-!
Literals of and-inverter circuits. A literal is a word: twice its variable, plus one if it is
inverted. Variable 0 is the constant, so that the words 0 and 1 are false and true. The signed form
that clauses use writes inversion as a minus sign and has no room for the constant.
-/
namespace AndInverter
open Word

/-- A variable together with an inversion, as one 64-bit word. -/
@[ext] structure Literal where
  code : UInt64
  deriving DecidableEq, Repr

namespace Literal

def var (l : Literal) : UInt64 := l.code / 2

def isInverted (l : Literal) : Bool := l.code % 2 == 1

def decode (l : Literal) : UInt64 × Bool := (l.var, l.isInverted)

/-- The literal of a variable. The top bit of the variable has no place in the word and is lost. -/
def ofVar (var : UInt64) (inverted : Bool) : Literal := ⟨2 * var + inverted.toUInt64⟩

def negate (l : Literal) : Literal := ⟨if l.isInverted then l.code - 1 else l.code + 1⟩

def isConstant (l : Literal) : Bool := l.var == 0

/-- The literal's value when its variable has the given value. -/
def eval (l : Literal) (value : Bool) : Bool := l.isInverted ^^ value

/-- The variable, with a minus sign if inverted. It is zero for both constants. -/
def signed (l : Literal) : Int :=
  if l.isInverted then -(l.var.toNat : Int) else l.var.toNat

instance : LT Literal := ⟨fun a b => a.code < b.code⟩

instance (a b : Literal) : Decidable (a < b) := inferInstanceAs (Decidable (a.code < b.code))

instance : ToString Literal := ⟨fun l => toString l.code⟩

theorem toNat_var (l : Literal) : l.var.toNat = l.code.toNat / 2 := by
  simp [var]

theorem isInverted_iff (l : Literal) : l.isInverted = true ↔ l.code.toNat % 2 = 1 := by
  simp [isInverted, ← UInt64.toNat_inj]

/-- A word stands for the variable and the inversion that it is made of. -/
theorem decode_eq_iff {l : Literal} {v : UInt64} {b : Bool} :
    l.decode = (v, b) ↔ l.code.toNat = 2 * v.toNat + b.toNat := by
  have half := l.toNat_var
  have odd := l.isInverted_iff
  rw [decode, Prod.mk.injEq, ← UInt64.toNat_inj, half]
  cases b with
  | true =>
    rw [odd, Bool.toNat_true]
    omega
  | false =>
    rw [← Bool.not_eq_true, odd, Bool.toNat_false]
    omega

theorem toNat_code (l : Literal) : l.code.toNat = 2 * l.var.toNat + l.isInverted.toNat :=
  decode_eq_iff.mp rfl

/-- A word is known by its variable and its inversion. -/
theorem eq_of_decode_eq {l m : Literal} (same : l.decode = m.decode) : l = m := by
  rw [Literal.ext_iff, ← UInt64.toNat_inj, m.toNat_code]
  exact decode_eq_iff.mp same

/-- The top bit of a variable is lost. -/
theorem toNat_code_ofVar (v : UInt64) (b : Bool) :
    (ofVar v b).code.toNat = (2 * v.toNat + b.toNat) % UInt64.size := by
  have bit : b.toUInt64.toNat = b.toNat := by cases b <;> rfl
  simp [ofVar, UInt64.size, bit]

theorem decode_negate (l : Literal) : l.negate.decode = (l.var, !l.isInverted) := by
  have code := l.toNat_code
  rw [decode_eq_iff, negate]
  cases inverted : l.isInverted with
  | true =>
    rw [inverted, Bool.toNat_true] at code
    have one_le : 1 ≤ l.code := UInt64.le_iff_toNat_le.mpr (by rw [code]; exact Nat.le_add_left 1 _)
    have down : (l.code - 1).toNat = l.code.toNat - 1 := UInt64.toNat_sub_of_le _ _ one_le
    rw [if_pos rfl, down, Bool.not_true, Bool.toNat_false]
    omega
  | false =>
    rw [inverted, Bool.toNat_false] at code
    -- The largest word is odd, so there is a word behind an even one.
    have bound := l.code.toNat_lt_size
    have up : (l.code + 1).toNat = l.code.toNat + 1 := by
      rw [UInt64.toNat_add, UInt64.toNat_one]
      rw [UInt64.size] at bound
      omega
    rw [if_neg Bool.false_ne_true, up, Bool.not_false, Bool.toNat_true]
    omega

theorem toNat_var_le (l : Literal) : l.var.toNat ≤ maxSigned := by
  have := toNat_le_maxWord l.code
  rw [toNat_var]
  unfold maxWord at this
  unfold maxSigned
  omega

theorem isConstant_iff (l : Literal) : l.isConstant = true ↔ l.var.toNat = 0 := by
  simp [isConstant, ← UInt64.toNat_inj]

@[simp] theorem natAbs_signed (l : Literal) : l.signed.natAbs = l.var.toNat := by
  simp only [signed]
  split <;> omega

end Literal

end AndInverter
