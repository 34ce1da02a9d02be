import AndInverter.Proofs.Circuit.Fits
import AndInverter.Proofs.Circuit.GateOrder
import AndInverter.Proofs.Cnf.Satisfaction
import Mathlib.Data.List.TakeWhile
import Mathlib.Tactic.Tauto

/-!
# The clauses of gates

A gate that can be encoded always is: three clauses that hold under a valuation exactly if the gate
does. A list of gates is encoded up to the first that cannot be, and what was appended before stays.
-/
namespace AndInverter

namespace AndGate
variable {g : AndGate}

theorem error?_eq_none_iff : g.error? = none ↔
    g.output.isInverted = false ∧ ∀ l ∈ g.literals, l.isConstant = false := by
  rw [error?]
  cases inverted : g.output.isInverted with
  | true => simp
  | false => simp

theorem definingClauses_legal (encodable : g.error? = none) :
    ∀ lits ∈ g.definingClauses, Cnf.Legal lits := by
  obtain ⟨_, named⟩ := error?_eq_none_iff.mp encodable
  have x := Literal.signed_ne_zero (named g.left g.left_mem_literals)
  have y := Literal.signed_ne_zero (named g.right g.right_mem_literals)
  have z := Literal.signed_ne_zero (named g.output g.output_mem_literals)
  intro lits hl
  simp only [definingClauses, List.mem_cons, List.not_mem_nil, or_false] at hl
  rcases hl with rfl | rfl | rfl <;>
    refine ⟨by simp, ?_⟩ <;>
    simp only [List.mem_cons, List.not_mem_nil, or_false] <;>
    omega

/-- The signed literals of the gate's clauses belong to the literals of the gate. -/
theorem exists_literal_of_mem_definingClauses {lits : List Int} (hl : lits ∈ g.definingClauses)
    {lit : Int} (h : lit ∈ lits) : ∃ l ∈ g.literals, lit = l.signed ∨ lit = -l.signed := by
  simp only [definingClauses, List.mem_cons, List.not_mem_nil, or_false] at hl
  rcases hl with rfl | rfl | rfl <;>
    simp only [List.mem_cons, List.not_mem_nil, or_false] at h <;>
    simp only [literals, List.mem_cons, List.not_mem_nil, or_false, exists_eq_or_imp,
      exists_eq_left] <;>
    tauto

theorem length_definingClauses (g : AndGate) : g.definingClauses.length = 3 := rfl

theorem length_flatMap_definingClauses (gates : List AndGate) :
    (gates.flatMap definingClauses).length = 3 * gates.length := by
  induction gates with
  | nil => rfl
  | cons g rest ih =>
    simp only [List.flatMap_cons, List.length_append, ih, length_definingClauses, List.length_cons]
    omega

/-- Together the three clauses say exactly that the output is the conjunction of the operands. -/
theorem satisfies_definingClauses_iff (encodable : g.error? = none) (value : UInt64 → Bool) :
    (∀ lits ∈ g.definingClauses, Satisfies value lits) ↔ g.Holds value := by
  obtain ⟨upright, named⟩ := error?_eq_none_iff.mp encodable
  have hx := named g.left g.left_mem_literals
  have hy := named g.right g.right_mem_literals
  have hz := named g.output g.output_mem_literals
  have output : g.output.eval (value g.output.var) = value g.output.var := by
    rw [Literal.eval, upright, Bool.false_xor]
  rw [definingClauses, List.forall_mem_cons, List.forall_mem_cons, List.forall_mem_singleton]
  simp only [satisfies_cons, not_satisfies_nil, or_false,
    signedTrue_neg value (Literal.signed_ne_zero hx),
    signedTrue_neg value (Literal.signed_ne_zero hy),
    signedTrue_neg value (Literal.signed_ne_zero hz), Literal.signedTrue_signed value hx,
    Literal.signedTrue_signed value hy, Literal.signedTrue_signed value hz, output]
  rw [holds_iff, conjunction]
  cases value g.output.var <;> cases g.left.eval (value g.left.var) <;>
    cases g.right.eval (value g.right.var) <;> simp

end AndGate

namespace Cnf
variable {f : Cnf} {g : AndGate} {gates : List AndGate}

/-- A gate that cannot be encoded leaves the clause set as it was. -/
theorem addGate_of_error {e : GateError} (h : g.error? = some e) :
    f.addGate g = ⟨f, .error (.error e)⟩ := by
  simp only [addGate, h]

/-- A gate that can be encoded adds its three clauses. -/
theorem addGate_of_encodable (encodable : g.error? = none) :
    (f.addGate g).outcome = .ok () ∧ f.Extends (f.addGate g).cnf g.definingClauses := by
  obtain ⟨outcome, grown⟩ := f.addClauses_of_legal (AndGate.definingClauses_legal encodable)
  simp only [addGate, encodable, outcome]
  exact ⟨rfl, grown⟩

def ending {ε : Type} : Option ε → Except ε Unit
  | none => .ok ()
  | some e => .error e

/-- A gate ends with its own problem, whatever the clause set. -/
theorem addGate_outcome (f : Cnf) (g : AndGate) :
    (f.addGate g).outcome = ending (g.error?.map .error) := by
  cases h : g.error? with
  | some e =>
    rw [addGate_of_error h]
    rfl
  | none => exact (addGate_of_encodable h).1

/-- The outcome is that of the first gate that cannot be encoded. -/
theorem addGates_outcome (f : Cnf) (gates : List AndGate) : (f.addGates gates).outcome =
    ending ((gates.findSome? AndGate.error?).map .error) := by
  induction gates generalizing f with
  | nil => rfl
  | cons g rest ih =>
    cases h : g.error? with
    | some e =>
      simp only [addGates, addGate_of_error h, List.findSome?_cons, h]
      rfl
    | none =>
      have first := (addGate_of_encodable (f := f) h).1
      simp only [addGates, first, List.findSome?_cons, h]
      exact ih (f.addGate g).cnf

/-- Whatever the outcome, the gates before the first that cannot be encoded have their clauses. -/
theorem addGates_extends (f : Cnf) (gates : List AndGate) : f.Extends (f.addGates gates).cnf
    ((gates.takeWhile fun g => g.error?.isNone).flatMap AndGate.definingClauses) := by
  induction gates generalizing f with
  | nil => exact .refl f
  | cons g rest ih =>
    cases h : g.error? with
    | some e =>
      simp only [addGates, addGate_of_error h, List.takeWhile_cons, h]
      exact .refl f
    | none =>
      obtain ⟨outcome, first⟩ := addGate_of_encodable (f := f) h
      simp only [addGates, outcome, List.takeWhile_cons, h, Option.isNone_none, if_true,
        List.flatMap_cons]
      exact first.trans (ih (f.addGate g).cnf)

theorem addGates_of_ok (h : (f.addGates gates).outcome = .ok ()) :
    (∀ g ∈ gates, g.error? = none) ∧
      f.Extends (f.addGates gates).cnf (gates.flatMap AndGate.definingClauses) := by
  have encodable : ∀ g ∈ gates, g.error? = none := by
    rw [addGates_outcome] at h
    cases found : gates.findSome? AndGate.error? with
    | none => exact List.findSome?_eq_none_iff.mp found
    | some e => rw [found] at h; cases h
  have all : gates.takeWhile (fun g => g.error?.isNone) = gates :=
    List.takeWhile_eq_self_iff.mpr fun g hg => by rw [encodable g hg]; rfl
  have grown := f.addGates_extends gates
  rw [all] at grown
  exact ⟨encodable, grown⟩

end Cnf

end AndInverter
