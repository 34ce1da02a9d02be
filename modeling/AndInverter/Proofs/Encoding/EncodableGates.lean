import AndInverter.Proofs.Encoding.GateClauses
import AndInverter.Proofs.Outcome

/-!
# Which gates can be encoded

A gate can be encoded exactly if its output is an even word and none of its literals is 0 or 1. Of a
list of gates the clauses of those before the first other one are appended and stay, whatever was
there before; the error tells that gate's line and the literal to blame. What a gate is and which
clauses it has is said here by the numbers in the file, for all words and not only for declared
variables.
-/
namespace AndInverter
open Outcome

namespace Literal
variable {l : Literal}

inductive SignedForm (l : Literal) : Int → Prop
  | even {v : Nat} (code : l.code.toNat = 2 * v) : SignedForm l v
  | odd {v : Nat} (code : l.code.toNat = 2 * v + 1) : SignedForm l (-v)

theorem isConstant_eq_true_iff : l.isConstant = true ↔ l.code.toNat < 2 := by
  rw [isConstant_iff, toNat_var]
  omega

theorem isConstant_eq_false_iff : l.isConstant = false ↔ 2 ≤ l.code.toNat := by
  rw [← Bool.not_eq_true, isConstant_eq_true_iff]
  omega

theorem isInverted_eq_false_iff : l.isInverted = false ↔ l.code.toNat % 2 = 0 := by
  rw [← Bool.not_eq_true, isInverted_iff]
  omega

theorem signedForm_signed (l : Literal) : l.SignedForm l.signed := by
  have half := l.toNat_var
  rw [signed]
  split
  · next inverted =>
    have odd := l.isInverted_iff.mp inverted
    exact .odd (by omega)
  · next upright =>
    have even := isInverted_eq_false_iff.mp (Bool.not_eq_true _ ▸ upright)
    exact .even (by omega)

end Literal

namespace AndGate
variable {g : AndGate} {e : GateError}

/-- The output is an even word, and no literal is a constant. -/
structure Encodable (g : AndGate) : Prop where
  upright : g.output.code.toNat % 2 = 0
  output : 2 ≤ g.output.code.toNat
  left : 2 ≤ g.left.code.toNat
  right : 2 ≤ g.right.code.toNat

/-- The error of a gate that cannot be encoded. An odd output goes before all constants, and the
constants go in the order in which the gate is written. -/
inductive Refused (g : AndGate) : GateError → Prop
  | inverted (odd : g.output.code.toNat % 2 = 1) : Refused g (.invertedOutput g.line g.output)
  | output (even : g.output.code.toNat % 2 = 0) (constant : g.output.code.toNat < 2) :
      Refused g (.constantLiteral g.line g.output)
  | left (even : g.output.code.toNat % 2 = 0) (output : 2 ≤ g.output.code.toNat)
      (constant : g.left.code.toNat < 2) : Refused g (.constantLiteral g.line g.left)
  | right (even : g.output.code.toNat % 2 = 0) (output : 2 ≤ g.output.code.toNat)
      (left : 2 ≤ g.left.code.toNat) (constant : g.right.code.toNat < 2) :
      Refused g (.constantLiteral g.line g.right)

/-- The three clauses `¬x ∨ ¬y ∨ z`, `x ∨ ¬z` and `y ∨ ¬z` of a gate `z = x ∧ y`. -/
def DefinedBy (g : AndGate) (clauses : List (List Int)) : Prop :=
  ∃ x y z, g.left.SignedForm x ∧ g.right.SignedForm y ∧ g.output.SignedForm z ∧
    clauses = [[-x, -y, z], [x, -z], [y, -z]]

/-- The gates that are encoded, and how the encoding of the list ends. -/
inductive Taken : List AndGate → List AndGate → Except (Failure GateError) Unit → Prop
  | all {gates : List AndGate} (encodable : ∀ g ∈ gates, g.Encodable) : Taken gates gates (.ok ())
  | before {front rest : List AndGate} {g : AndGate} {e : GateError}
      (encodable : ∀ g ∈ front, g.Encodable) (refused : g.Refused e) :
      Taken (front ++ g :: rest) front (.error (.error e))

theorem error?_eq_none_iff_encodable : g.error? = none ↔ g.Encodable := by
  simp only [error?_eq_none_iff, literals, List.forall_mem_cons, Literal.isConstant_eq_false_iff,
    Literal.isInverted_eq_false_iff]
  constructor
  · rintro ⟨upright, output, left, right, -⟩
    exact ⟨upright, output, left, right⟩
  · rintro ⟨upright, output, left, right⟩
    exact ⟨upright, output, left, right, by simp⟩

/-- A gate that is found wanting is refused with the error that is found. -/
theorem refused_of_error? (found : g.error? = some e) : g.Refused e := by
  rw [error?] at found
  split at found
  · next inverted =>
    cases found
    exact .inverted (g.output.isInverted_iff.mp inverted)
  · next upright =>
    have even := Literal.isInverted_eq_false_iff.mp (Bool.not_eq_true _ ▸ upright)
    obtain ⟨l, first, rfl⟩ := Option.map_eq_some_iff.mp found
    simp only [literals, List.find?_cons] at first
    split at first
    · next constant =>
      cases first
      exact .output even (Literal.isConstant_eq_true_iff.mp constant)
    · next output =>
      have output := Literal.isConstant_eq_false_iff.mp output
      split at first
      · next constant =>
        cases first
        exact .left even output (Literal.isConstant_eq_true_iff.mp constant)
      · next left =>
        have left := Literal.isConstant_eq_false_iff.mp left
        split at first
        · next constant =>
          cases first
          exact .right even output left (Literal.isConstant_eq_true_iff.mp constant)
        · cases first

theorem taken_of_upTo {gates taken : List AndGate} {stop : Option GateError}
    (upTo : UpTo error? gates taken stop) : Taken gates taken (Cnf.ending (stop.map .error)) := by
  cases upTo with
  | all clear => exact .all fun g hg => error?_eq_none_iff_encodable.mp (clear g hg)
  | first clear found =>
    exact .before (fun g hg => error?_eq_none_iff_encodable.mp (clear g hg))
      (refused_of_error? found)

theorem definedBy_definingClauses (g : AndGate) : g.DefinedBy g.definingClauses :=
  ⟨_, _, _, g.left.signedForm_signed, g.right.signedForm_signed, g.output.signedForm_signed, rfl⟩

end AndGate

namespace Cnf

/-- All gates are added exactly if each of them can be. -/
theorem addGates_eq_ok_iff {f : Cnf} {gates : List AndGate} :
    (f.addGates gates).outcome = .ok () ↔ ∀ g ∈ gates, g.Encodable := by
  constructor
  · intro ok g hg
    exact AndGate.error?_eq_none_iff_encodable.mp ((addGates_of_ok ok).1 g hg)
  · intro encodable
    have clear : gates.findSome? AndGate.error? = none :=
      List.findSome?_eq_none_iff.mpr fun g hg =>
        AndGate.error?_eq_none_iff_encodable.mpr (encodable g hg)
    rw [addGates_outcome, clear]
    rfl

/-- The gates before the first refused one are those whose clauses are appended. -/
theorem exists_taken (f : Cnf) (gates : List AndGate) :
    ∃ taken, AndGate.Taken gates taken (f.addGates gates).outcome ∧
      f.Extends (f.addGates gates).cnf (taken.flatMap AndGate.definingClauses) := by
  have taken := AndGate.taken_of_upTo (upTo AndGate.error? gates)
  rw [← addGates_outcome f] at taken
  exact ⟨_, taken, f.addGates_extends gates⟩

/-- Gates are encoded exactly if all of them can be. In every case the clauses that were there are
followed by those of the gates up to the first that is refused, in order and with nothing behind. -/
theorem addGates_stops_cleanly (f : Cnf) (gates : List AndGate) :
    ((f.addGates gates).outcome = .ok () ↔ ∀ g ∈ gates, g.Encodable) ∧
    ∃ taken clauses, AndGate.Taken gates taken (f.addGates gates).outcome ∧
      List.Forall₂ AndGate.DefinedBy taken clauses ∧
      (f.addGates gates).cnf.literalLists = f.literalLists ++ clauses.flatten ∧
      (f.addGates gates).cnf.numVars = f.numVars := by
  obtain ⟨front, taken, grown⟩ := f.exists_taken gates
  refine ⟨addGates_eq_ok_iff, front, front.map AndGate.definingClauses, taken, ?_,
    grown.literalLists_eq, grown.numVars_eq⟩
  rw [List.forall₂_map_right_iff, List.forall₂_same]
  exact fun g _ => g.definedBy_definingClauses

/-- The constant 1 as an output is an inverted output first of all. -/
example : ((empty 4).addGates
    [⟨⟨6⟩, ⟨2⟩, ⟨5⟩, 7⟩, ⟨⟨1⟩, ⟨0⟩, ⟨2⟩, 9⟩, ⟨⟨8⟩, ⟨6⟩, ⟨6⟩, 10⟩]).outcome =
      .error (.error (.invertedOutput 9 ⟨1⟩)) := rfl

end Cnf

end AndInverter
