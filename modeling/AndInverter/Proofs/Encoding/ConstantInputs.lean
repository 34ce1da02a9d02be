import AndInverter.Proofs.Circuit.Simulation
import AndInverter.Proofs.Encoding.Endings
import AndInverter.Proofs.Encoding.Models

/-!
# The value of the constant

Simulation keeps the constant in the same table as the variables. Gates never set it, because the
encoder accepts no gate whose output is constant. Inputs are not looked at by the encoder, and the
reader lets them be constant: a row then gives the constant the value of the last such input, and
the literals false and true are read with that value.
-/
namespace AndInverter
open Circuit Outcome

namespace Literal

theorem var_eq_zero {l : Literal} (constant : l.isConstant = true) : l.var = 0 := eq_of_beq constant

theorem eval_false (b : Bool) : eval ⟨0⟩ b = b := by cases b <;> rfl

theorem eval_true (b : Bool) : eval ⟨1⟩ b = !b := by cases b <;> rfl

end Literal

namespace Encoding.Encodes
variable {e : Encoding} {c : Circuit} {a : Assignments} {row : List Bool}

/-- Gates leave the constant as the inputs set it. -/
theorem denote_zero (h : e.Encodes c a) :
    c.denote row 0 = drive (c.inputs.zip row) (fun _ => false) 0 :=
  propagate_of_forall_ne _ _ fun g hg =>
    Literal.var_ne_zero (h.named hg g.output_mem_literals)

theorem denote_zero_of_named (h : e.Encodes c a) (named : ∀ l ∈ c.inputs, l.isConstant = false) :
    c.denote row 0 = false := by
  rw [h.denote_zero, drive_of_forall_ne]
  exact fun p hp => Literal.var_ne_zero (named p.1 (List.of_mem_zip hp).1)

/-- The constant has the value that the last constant input gives it. -/
theorem denote_zero_of_constant (h : e.Encodes c a) (len : row.length = c.inputs.length) {i : Nat}
    {l : Literal} (here : c.inputs[i]? = some l) (constant : l.isConstant = true)
    (last : ∀ j l', i < j → c.inputs[j]? = some l' → l'.isConstant = false) :
    row[i]? = some (c.denote row 0) := by
  have zero := Literal.var_eq_zero constant
  have set := drive_of_last len (fun _ => false) here fun j l' later hl => by
    rw [zero]
    exact Literal.var_ne_zero (last j l' later hl)
  rw [set, h.denote_zero, zero]

end Encoding.Encodes

/-- A row of a circuit that was read and can be encoded gives the constant one value: false if no
input is constant, otherwise that of the last constant input. Outputs that are the literal false
have this value, and those that are the literal true its opposite. -/
theorem simulate_constant_value {bytes : ByteArray} {c : Circuit} {a : Assignments} {e : Encoding}
    (readable : (Aag.read bytes).outcome = .ok c) (encoded : (Aag.encode bytes a).outcome = .ok e)
    (room : c.header.maxVar.toNat + 1 ≤ maxValues) {row : List Bool}
    (len : row.length = c.header.inputs.toNat) :
    ∃ values outputs b, c.simulate row = .ok values ∧ c.evalOutputs row = .ok outputs ∧
      values[0]? = some b ∧
      (∀ k : Nat, c.outputs[k]? = some (⟨0⟩ : Literal) → outputs[k]? = some b) ∧
      (∀ k : Nat, c.outputs[k]? = some (⟨1⟩ : Literal) → outputs[k]? = some (!b)) ∧
      ((∀ l ∈ c.inputs, l.isConstant = false) → b = false) ∧
      ∀ (i : Nat) (l : Literal), c.inputs[i]? = some l → l.isConstant = true →
        (∀ (j : Nat) (l' : Literal), i < j → c.inputs[j]? = some l' → l'.isConstant = false) →
          row[i]? = some b := by
  obtain ⟨c', read_again, encoded⟩ := Aag.encode_eq_ok_iff.mp encoded
  obtain rfl : c = c' := Except.ok.inj (readable.symm.trans read_again)
  have bounded := (Aag.fits_of_read readable).bounded
  have encodes := encodes_of_encode encoded
  rw [← (Aag.fits_of_read readable).inputs_length] at len
  obtain ⟨values, simulated, table⟩ := bounded.simulate_eq len room
  refine ⟨values, _, c.denote row 0, simulated, bounded.evalOutputs_eq len room,
    table.getElem?_eq 0 (Nat.succ_pos _), ?_, ?_, encodes.denote_zero_of_named,
    fun i l here constant last => encodes.denote_zero_of_constant len here constant last⟩
  · intro k output
    rw [List.getElem?_map, output]
    exact congrArg some (Literal.eval_false _)
  · intro k output
    rw [List.getElem?_map, output]
    exact congrArg some (Literal.eval_true _)

/-- Constant inputs on both sides of one that is not, and both constants among the outputs. -/
def constantInputsText : String := "aag 2 3 0 3 1\n0\n2\n1\n0\n1\n4\n4 2 3\n"

/-- The last of the two constant inputs decides. -/
theorem simulate_constant_value_last :
    ∃ c values outputs, (Aag.read constantInputsText.toUTF8).outcome = .ok c ∧
      (∃ e, (Aag.encode constantInputsText.toUTF8 .empty).outcome = .ok e) ∧
      c.simulate [false, false, true] = .ok values ∧ values[0]? = some true ∧
      c.evalOutputs [false, false, true] = .ok outputs ∧ outputs[0]? = some true ∧
      outputs[1]? = some false := by
  obtain ⟨e, encoded⟩ : ∃ e, (Aag.encode constantInputsText.toUTF8 .empty).outcome = .ok e :=
    ⟨_, rfl⟩
  obtain ⟨c, readable, inputs, outputs, room, length⟩ :
      ∃ c, (Aag.read constantInputsText.toUTF8).outcome = .ok c ∧ c.inputs = [⟨0⟩, ⟨2⟩, ⟨1⟩] ∧
        c.outputs = [⟨0⟩, ⟨1⟩, ⟨4⟩] ∧ c.header.maxVar.toNat + 1 ≤ maxValues ∧
        c.header.inputs.toNat = 3 := ⟨_, rfl, rfl, rfl, by decide, rfl⟩
  have len : [false, false, true].length = c.header.inputs.toNat := length.symm
  obtain ⟨values, results, b, simulated, evaluated, entry, low, high, _, last⟩ :=
    simulate_constant_value readable encoded room len
  have value : some true = some b := by
    apply last 2 ⟨1⟩ (by rw [inputs]; rfl) rfl
    intro j l' later hl
    rw [inputs, List.getElem?_eq_none (by exact later)] at hl
    cases hl
  cases value
  exact ⟨c, values, results, readable, ⟨e, encoded⟩, simulated, entry, evaluated,
    low 0 (by rw [outputs]; rfl), high 1 (by rw [outputs]; rfl)⟩

/-- An input that is the literal false makes it true. -/
theorem simulate_overwrites_constant :
    (∃ e, (Aag.encode "aag 0 1 0 2 0\n0\n0\n1\n".toUTF8 .empty).outcome = .ok e) ∧
    ∃ c, (Aag.read "aag 0 1 0 2 0\n0\n0\n1\n".toUTF8).outcome = .ok c ∧
      c.simulate [true] = .ok #[true] ∧ c.evalOutputs [true] = .ok [true, false] :=
  ⟨⟨_, rfl⟩, _, rfl, rfl, rfl⟩

end AndInverter
