import AndInverter.Proofs.Circuit.Solution
import AndInverter.Proofs.Cnf.Growth

/-!
# What a checked solution satisfies

The checker looks values up by position and stops early. If all variables of a clause set are
declared, it always reaches a verdict, and the verdict is that of the clauses as disjunctions over
the valuation that the solution stands for.
-/
namespace AndInverter

def signedTrue (value : UInt64 → Bool) (lit : Int) : Bool :=
  value (UInt64.ofNat lit.natAbs) == decide (0 < lit)

/-- The disjunction of signed literals holds under a valuation. -/
def Satisfies (value : UInt64 → Bool) (lits : List Int) : Prop :=
  ∃ lit ∈ lits, signedTrue value lit = true

@[simp] theorem not_satisfies_nil (value : UInt64 → Bool) : ¬ Satisfies value [] := by
  rintro ⟨lit, hl, _⟩
  cases hl

@[simp] theorem satisfies_cons (value : UInt64 → Bool) (lit : Int) (rest : List Int) :
    Satisfies value (lit :: rest) ↔ signedTrue value lit = true ∨ Satisfies value rest := by
  simp [Satisfies]

theorem signedTrue_neg (value : UInt64 → Bool) {lit : Int} (nonzero : lit ≠ 0) :
    signedTrue value (-lit) = !signedTrue value lit := by
  have sign : decide (0 < -lit) = !decide (0 < lit) := by
    by_cases pos : 0 < lit
    · simp [pos, show ¬ lit < 0 by omega]
    · simp [pos, show lit < 0 by omega]
  unfold signedTrue
  rw [Int.natAbs_neg, sign]
  cases value (UInt64.ofNat lit.natAbs) <;> cases decide (0 < lit) <;> rfl

namespace Literal
variable {l : Literal}

theorem signed_ne_zero (named : l.isConstant = false) : l.signed ≠ 0 := by
  intro h
  have size := l.natAbs_signed
  rw [h] at size
  have constant := l.isConstant_iff.mpr size.symm
  rw [named] at constant
  cases constant

/-- Inversion is the sign. -/
theorem decide_pos_signed (named : l.isConstant = false) :
    decide (0 < l.signed) = !l.isInverted := by
  have nonzero := signed_ne_zero named
  cases h : l.isInverted with
  | true =>
    have negative : l.signed = -(l.var.toNat : Int) := by rw [signed, h, if_pos rfl]
    rw [Bool.not_true, decide_eq_false_iff_not]
    omega
  | false =>
    have positive : l.signed = l.var.toNat := by rw [signed, h, if_neg Bool.false_ne_true]
    rw [Bool.not_false, decide_eq_true_eq]
    omega

/-- The signed form has the value of the literal. -/
theorem signedTrue_signed (value : UInt64 → Bool) (named : l.isConstant = false) :
    signedTrue value l.signed = l.eval (value l.var) := by
  have variable_eq : UInt64.ofNat l.signed.natAbs = l.var := by
    rw [natAbs_signed, UInt64.ofNat_toNat]
  unfold signedTrue eval
  rw [variable_eq, decide_pos_signed named]
  cases value l.var <;> cases l.isInverted <;> rfl

end Literal

/-- The literal has a place in a solution of the given length. -/
def Declared (size : Nat) (lit : Int) : Prop := lit ≠ 0 ∧ lit.natAbs ≤ size

/-- No look-up of a declared literal is out of range. -/
theorem getElem?_of_declared {solution : Array Bool} {lit : Int}
    (room : solution.size < UInt64.size) (declared : Declared solution.size lit) :
    solution[lit.natAbs - 1]? = some (valueOf solution (UInt64.ofNat lit.natAbs)) := by
  obtain ⟨nonzero, le⟩ := declared
  have pos : lit.natAbs ≠ 0 := Int.natAbs_ne_zero.mpr nonzero
  have word : (UInt64.ofNat lit.natAbs).toNat = lit.natAbs :=
    UInt64.toNat_ofNat_of_lt' (by omega)
  have named : UInt64.ofNat lit.natAbs ≠ 0 := by
    intro zero
    rw [zero] at word
    exact pos word.symm
  obtain ⟨_, place⟩ := hasPlace_of_le named (by rw [word]; exact le)
  rw [word] at place
  exact place

/-- The search for a true literal finds one if there is one, and never leaves the solution. -/
theorem anyTrue_eq {solution : Array Bool} (room : solution.size < UInt64.size) {lits : List Int}
    (declared : ∀ lit ∈ lits, Declared solution.size lit) :
    Clause.anyTrue solution lits = .ok (lits.any (signedTrue (valueOf solution))) := by
  induction lits with
  | nil => rfl
  | cons lit rest ih =>
    have entry := getElem?_of_declared room (declared lit List.mem_cons_self)
    have later := ih fun l hl => declared l (List.mem_cons_of_mem lit hl)
    rw [Clause.anyTrue, entry, List.any_cons]
    cases h : signedTrue (valueOf solution) lit with
    | true => simp only [signedTrue] at h; simp [h]
    | false => simp only [signedTrue] at h; simp [h, later]

namespace Cnf
variable {solution : Array Bool}

/-- The search ends without a clause exactly if all clauses hold. -/
theorem firstViolated_eq_satisfied_iff (room : solution.size < UInt64.size) (index : Nat)
    {clauses : List Clause} (declared : ∀ c ∈ clauses, ∀ lit ∈ c.lits, Declared solution.size lit) :
    firstViolated solution index clauses = .ok .satisfied ↔
      ∀ c ∈ clauses, Satisfies (valueOf solution) c.lits := by
  induction clauses generalizing index with
  | nil => simp [firstViolated]
  | cons c rest ih =>
    have later := ih (index + 1) fun c' hc => declared c' (List.mem_cons_of_mem c hc)
    have first := anyTrue_eq room (declared c List.mem_cons_self)
    rw [List.forall_mem_cons, ← later, firstViolated, Clause.satisfiedBy, first]
    cases h : c.lits.any (signedTrue (valueOf solution)) with
    | true =>
      have holds : Satisfies (valueOf solution) c.lits := List.any_eq_true.mp h
      simp [bind, Except.bind, holds]
    | false =>
      have fails : ¬ Satisfies (valueOf solution) c.lits := by
        intro holds
        rw [List.any_eq_true.mpr holds] at h
        cases h
      simp [bind, Except.bind, pure, Except.pure, fails]

theorem exists_firstViolated (room : solution.size < UInt64.size) (index : Nat)
    {clauses : List Clause} (declared : ∀ c ∈ clauses, ∀ lit ∈ c.lits, Declared solution.size lit) :
    ∃ verdict, firstViolated solution index clauses = .ok verdict := by
  induction clauses generalizing index with
  | nil => exact ⟨.satisfied, rfl⟩
  | cons c rest ih =>
    have first := anyTrue_eq room (declared c List.mem_cons_self)
    rw [firstViolated, Clause.satisfiedBy, first]
    cases c.lits.any (signedTrue (valueOf solution)) with
    | true => exact ih (index + 1) fun c' hc => declared c' (List.mem_cons_of_mem c hc)
    | false => exact ⟨.violated index c, rfl⟩

variable {f : Cnf}

theorem verify_eq (size : solution.size = f.numVars.toNat) :
    f.verify solution = firstViolated solution 0 f.clauses.toList := if_pos size

theorem forall_mem_literalLists {p : List Int → Prop} :
    (∀ lits ∈ f.literalLists, p lits) ↔ ∀ c ∈ f.clauses.toList, p c.lits := by
  simp [literalLists]

/-- The check passes exactly the solutions under which all clauses hold. -/
theorem verify_eq_satisfied_iff (size : solution.size = f.numVars.toNat)
    (declared : ∀ lits ∈ f.literalLists, ∀ lit ∈ lits, Declared f.numVars.toNat lit) :
    f.verify solution = .ok .satisfied ↔
      ∀ lits ∈ f.literalLists, Satisfies (valueOf solution) lits := by
  have room : solution.size < UInt64.size := size ▸ f.numVars.toNat_lt_size
  rw [verify_eq size, forall_mem_literalLists]
  exact firstViolated_eq_satisfied_iff room 0 (size ▸ forall_mem_literalLists.mp declared)

theorem exists_verify (size : solution.size = f.numVars.toNat)
    (declared : ∀ lits ∈ f.literalLists, ∀ lit ∈ lits, Declared f.numVars.toNat lit) :
    ∃ verdict, f.verify solution = .ok verdict := by
  have room : solution.size < UInt64.size := size ▸ f.numVars.toNat_lt_size
  rw [verify_eq size]
  exact exists_firstViolated room 0 (size ▸ forall_mem_literalLists.mp declared)

end Cnf

end AndInverter
