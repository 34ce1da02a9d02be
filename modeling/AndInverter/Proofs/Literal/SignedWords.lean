import AndInverter.Proofs.Cnf.Satisfaction

/-!
# Literals as signed words

A literal is a word, a variable with an inversion, and a signed word other than zero and the
smallest one. Each form gives back the others up to the ends of the words: a variable is too large
for the word exactly where its top bit would be lost, no literal's variable is too large for a
signed word, and the signed word without a negation stands for no literal. A clause of one such
word is true exactly where the literal is. The two constants share a signed word, and what it means
is left open.
-/
namespace AndInverter

open Word

namespace Literal
variable {l m : Literal}

/-- A variable keeps its place in a word exactly if its top bit is not set. -/
theorem decode_ofVar_iff {v : UInt64} {b : Bool} :
    (ofVar v b).decode = (v, b) ↔ v.toNat ≤ maxSigned := by
  have bit := b.toNat_le
  rw [decode_eq_iff, toNat_code_ofVar, UInt64.size, maxSigned]
  -- The word is the number that the pair asks for unless it is cut off at the size of the words.
  omega

/-- Taking a literal apart and putting it together gives it back. -/
theorem ofVar_decode (l : Literal) : ofVar l.decode.1 l.decode.2 = l :=
  eq_of_decode_eq (decode_ofVar_iff.mpr l.toNat_var_le)

/-- The signed form as signed words compute it. The smallest of them has no negation. -/
def signedWord (l : Literal) : Except Fault Int64 :=
  let var := l.var.toInt64
  if l.isInverted then
    if var = Int64.minValue then .error .overflow else .ok (-var)
  else .ok var

/-- The computation never overflows. -/
theorem exists_signedWord (l : Literal) : ∃ w, l.signedWord = .ok w ∧ w.toInt = l.signed := by
  have var_eq := toInt_toInt64 l.toNat_var_le
  have size : l.var.toInt64.toInt.natAbs ≤ maxSigned := by
    rw [var_eq]
    exact l.toNat_var_le
  rw [signedWord, signed]
  cases l.isInverted with
  | true =>
    refine ⟨-l.var.toInt64, if_neg (natAbs_toInt_le_iff.mp size), ?_⟩
    rw [toInt_neg_of_le size, var_eq]
    rfl
  | false => exact ⟨l.var.toInt64, rfl, var_eq⟩

theorem signed_negate (l : Literal) : l.negate.signed = -l.signed := by
  have var_eq : l.negate.var = l.var := congrArg Prod.fst l.decode_negate
  have inverted_eq : l.negate.isInverted = !l.isInverted := congrArg Prod.snd l.decode_negate
  rw [signed, signed, var_eq, inverted_eq]
  cases l.isInverted with
  | true => simp
  | false => simp

/-- A signed word that stands for a literal: word arithmetic gives it, its size is the variable and
its negation stands for the opposite literal. -/
structure StandsFor (w : Int64) (l : Literal) : Prop where
  computed : l.signedWord = .ok w
  toInt_eq : w.toInt = l.signed
  ne_zero : w ≠ 0
  natAbs_eq : w.toInt.natAbs = l.var.toNat
  negated : l.negate.signedWord = .ok (-w)
  opposite : (-w).toInt = -w.toInt

/-- Every literal but the constants has a signed word that stands for it. -/
theorem exists_standsFor (named : l.isConstant = false) : ∃ w, StandsFor w l := by
  obtain ⟨w, computed, value⟩ := l.exists_signedWord
  obtain ⟨w', negated, value'⟩ := l.negate.exists_signedWord
  have natAbs_eq : w.toInt.natAbs = l.var.toNat := by rw [value, natAbs_signed]
  have opposite : (-w).toInt = -w.toInt := toInt_neg_of_le (natAbs_eq ▸ l.toNat_var_le)
  have negation : w' = -w := by
    rw [← Int64.toInt_inj, value', signed_negate, opposite, value]
  refine ⟨w, computed, value, ?_, natAbs_eq, negation ▸ negated, opposite⟩
  rintro rfl
  exact signed_ne_zero named value.symm

/-- The constants apart, the signed form tells literals from each other. -/
theorem signed_eq_iff (left : l.isConstant = false) (right : m.isConstant = false) :
    l.signed = m.signed ↔ l = m := by
  constructor
  · intro same
    have var_eq : l.var = m.var := by
      rw [← UInt64.toNat_inj, ← l.natAbs_signed, ← m.natAbs_signed, same]
    have sign_eq : (!l.isInverted) = !m.isInverted := by
      rw [← decide_pos_signed left, ← decide_pos_signed right, same]
    have inverted_eq : l.isInverted = m.isInverted := Bool.not_inj sign_eq
    apply eq_of_decode_eq
    rw [decode, decode, var_eq, inverted_eq]
  · rintro rfl
    rfl

def ofSigned (z : Int) : Literal := ofVar (UInt64.ofNat z.natAbs) (decide (z < 0))

theorem decode_ofSigned {z : Int} (le : z.natAbs ≤ maxSigned) :
    (ofSigned z).decode = (UInt64.ofNat z.natAbs, decide (z < 0)) ∧
      (ofSigned z).var.toNat = z.natAbs := by
  have word : (UInt64.ofNat z.natAbs).toNat = z.natAbs :=
    UInt64.toNat_ofNat_of_lt' (Nat.lt_of_le_of_lt le (by decide))
  have small : (UInt64.ofNat z.natAbs).toNat ≤ maxSigned := by rw [word]; exact le
  have kept : (ofSigned z).decode = (UInt64.ofNat z.natAbs, decide (z < 0)) :=
    decode_ofVar_iff.mpr small
  refine ⟨kept, ?_⟩
  have var_eq : (ofSigned z).var = UInt64.ofNat z.natAbs := congrArg Prod.fst kept
  rw [var_eq, word]

theorem signed_ofSigned {z : Int} (le : z.natAbs ≤ maxSigned) : (ofSigned z).signed = z := by
  obtain ⟨kept, var_eq⟩ := decode_ofSigned le
  have inverted_eq : (ofSigned z).isInverted = decide (z < 0) := congrArg Prod.snd kept
  rw [signed, var_eq, inverted_eq]
  by_cases negative : z < 0
  · rw [if_pos (decide_eq_true negative)]
    omega
  · rw [if_neg (by simpa using negative)]
    omega

/-- Exactly the signed words with a negation other than themselves stand for literals. -/
theorem exists_signedWord_iff (w : Int64) :
    (∃ l : Literal, l.isConstant = false ∧ l.signedWord = .ok w) ↔
      w ≠ 0 ∧ w ≠ Int64.minValue := by
  constructor
  · rintro ⟨l, named, computed⟩
    obtain ⟨w', stands⟩ := exists_standsFor named
    cases computed.symm.trans stands.computed
    refine ⟨stands.ne_zero, natAbs_toInt_le_iff.mp ?_⟩
    rw [stands.natAbs_eq]
    exact l.toNat_var_le
  · rintro ⟨nonzero, not_smallest⟩
    have le := natAbs_toInt_le_iff.mpr not_smallest
    have signed_eq := signed_ofSigned le
    obtain ⟨w', computed, value⟩ := (ofSigned w.toInt).exists_signedWord
    have same : w' = w := Int64.toInt_inj.mp (value.trans signed_eq)
    refine ⟨ofSigned w.toInt, ?_, same ▸ computed⟩
    rw [← Bool.not_eq_true, isConstant_iff, (decode_ofSigned le).2, Int.natAbs_eq_zero]
    exact fun zero => nonzero (Int64.toInt_inj.mp zero)

end Literal

/-- A clause of one literal is true if the literal's variable has its sign. -/
theorem Clause.satisfiedBy_unit {c : Clause} {lit : Int} {solution : Array Bool} {value : Bool}
    (one : c.lits = [lit]) (entry : solution[lit.natAbs - 1]? = some value) :
    c.satisfiedBy solution = .ok (value == decide (0 < lit)) := by
  rw [satisfiedBy, one, anyTrue, entry]
  cases h : value == decide (0 < lit) with
  | true => simp [h]
  | false => simp [h, anyTrue]

namespace Literal
variable {l : Literal}

/-- The unit clause of a literal has the literal's value under every solution that reaches its
variable. -/
theorem exists_unit_clause (named : l.isConstant = false) {solution : Array Bool}
    (reaches : l.var.toNat ≤ solution.size) :
    ∃ c value, Clause.ofLits [l.signed] = .ok c ∧ solution[l.var.toNat - 1]? = some value ∧
      c.satisfiedBy solution = .ok (l.eval value) := by
  have nonzero := signed_ne_zero named
  have legal : Cnf.Legal [l.signed] := ⟨by simp, by simpa using nonzero.symm⟩
  obtain ⟨c, made, lits_eq⟩ := Cnf.ofLits_of_legal legal
  have positive : l.var.toNat ≠ 0 := by
    rw [← natAbs_signed]
    exact Int.natAbs_ne_zero.mpr nonzero
  have inside : l.var.toNat - 1 < solution.size := by omega
  obtain ⟨value, entry⟩ : ∃ value, solution[l.var.toNat - 1]? = some value :=
    ⟨_, Array.getElem?_eq_getElem inside⟩
  refine ⟨c, value, made, entry, ?_⟩
  rw [← natAbs_signed] at entry
  rw [Clause.satisfiedBy_unit lits_eq entry, decide_pos_signed named, eval]
  cases value <;> cases l.isInverted <;> rfl

/-- Literals, pairs of a variable and an inversion, and signed words correspond without loss up to
the ends of the words. The unit clause of a literal is true exactly where the literal is. -/
theorem signed_represents :
    (∀ l : Literal, ofVar l.decode.1 l.decode.2 = l) ∧
    (∀ (v : UInt64) (b : Bool), (ofVar v b).decode = (v, b) ↔ v.toNat ≤ maxSigned) ∧
    (∀ l : Literal, l.isConstant = false → ∃ w, StandsFor w l) ∧
    (∀ l m : Literal, l.isConstant = false → m.isConstant = false →
      (l.signed = m.signed ↔ l = m)) ∧
    (∀ w : Int64, (∃ l : Literal, l.isConstant = false ∧ l.signedWord = .ok w) ↔
      w ≠ 0 ∧ w ≠ Int64.minValue) ∧
    ∀ l : Literal, l.isConstant = false → ∀ solution : Array Bool, l.var.toNat ≤ solution.size →
      ∃ c value, Clause.ofLits [l.signed] = .ok c ∧ solution[l.var.toNat - 1]? = some value ∧
        c.satisfiedBy solution = .ok (l.eval value) := by
  refine ⟨ofVar_decode, fun v b => decode_ofVar_iff, ?_, ?_, exists_signedWord_iff, ?_⟩
  · intro l named
    exact exists_standsFor named
  · intro l m left right
    exact signed_eq_iff left right
  · intro l named solution reaches
    exact exists_unit_clause named reaches

/-- The ends: the largest literal, the first variable that loses its top bit, and the signed word
next to the smallest one. -/
theorem signed_represents_ends :
    (ofVar 0x8000000000000000 true).decode ≠ (0x8000000000000000, true) ∧
    StandsFor (-0x7fffffffffffffff) ⟨0xffffffffffffffff⟩ ∧
    (⟨0xffffffffffffffff⟩ : Literal).signed ≠ (⟨0xfffffffffffffffe⟩ : Literal).signed ∧
    (∃ l : Literal, l.isConstant = false ∧ l.signedWord = .ok (Int64.minValue + 1)) ∧
    ∃ c, Clause.ofLits [-3] = .ok c ∧ c.satisfiedBy #[false, false, true] = .ok false := by
  obtain ⟨_, kept, stand, distinct, reached, unit⟩ := signed_represents
  refine ⟨?_, ?_, ?_, (reached _).mpr (by decide), ?_⟩
  · exact fun same => absurd ((kept _ _).mp same) (by decide)
  · obtain ⟨w, stands⟩ := stand ⟨0xffffffffffffffff⟩ (by decide)
    cases stands.computed
    exact stands
  · exact fun same => absurd ((distinct _ _ (by decide) (by decide)).mp same) (by decide)
  · obtain ⟨c, value, made, entry, checked⟩ :=
      unit ⟨7⟩ (by decide) #[false, false, true] (by decide)
    cases entry
    exact ⟨c, made, checked⟩

end Literal

end AndInverter
