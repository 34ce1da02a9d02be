import AndInverter.Proofs.Circuit.Simulation
import AndInverter.Proofs.Encoding.Models

/-!
# Simulation and encoding

For gates in topological order both sides compute the same function. The simulated values are a
model, and the values outside the gate outputs determine a model. If inputs and gates drive all
that is read, every model comes from a row of inputs. Inputs may repeat a variable, be inverted,
be constant or share a variable with a gate.
-/
namespace AndInverter
open Circuit

variable {bytes : ByteArray} {c : Circuit} {a : Assignments} {e : Encoding}

namespace Encoding.Encodes
variable {values : Array Bool} {row : List Bool} {s : Array Bool}

/-- Without assignments only the gates count. -/
theorem verify_iff_holds (h : e.Encodes c .empty) (fits : c.Fits)
    (size : s.size = c.header.maxVar.toNat) :
    e.cnf.verify s = .ok .satisfied ↔ ∀ g ∈ c.gates, g.Holds (valueOf s) := by
  rw [h.verify_eq_satisfied_iff fits size]
  constructor
  · exact And.left
  · intro holds
    refine ⟨holds, ?_⟩
    intro name b entry
    cases entry

/-- Names are driven as soon as outputs are. -/
theorem name_driven (h : e.Encodes c a) (outputs : ∀ l ∈ c.outputs, c.Drives l.var)
    {name : String} {v : UInt64} (hv : e.signals.varOf name = some v) : c.Drives v := by
  obtain ⟨l, hl, _, rfl⟩ := h.names name v hv
  rcases List.mem_append.mp hl with input | output
  · exact Or.inr (Or.inl ⟨l, input, rfl⟩)
  · exact outputs l output

/-- The simulated values satisfy all gates. -/
theorem solutionOf_holds (h : e.Encodes c a) (fits : c.Fits) (order : Topological c.gates)
    (table : Tabulates values (c.header.maxVar.toNat + 1) (c.denote row)) :
    ∀ g ∈ c.gates, g.Holds (valueOf (solutionOf values)) := by
  intro g hg
  have simulated : g.Holds (c.denote row) := propagate_holds order _ g hg
  apply (AndGate.holds_congr ?_).mpr simulated
  intro l hl
  exact table.valueOf_solutionOf (Literal.var_ne_zero (h.named hg hl)) (fits.gates g hg l hl)

/-- Every valuation of the other variables extends to a solution that satisfies all gates. -/
theorem exists_solution (h : e.Encodes c a) (fits : c.Fits) (order : Topological c.gates)
    (value : UInt64 → Bool) : ∃ s : Array Bool, s.size = c.header.maxVar.toNat ∧
      (∀ v, c.Free v → valueOf s v = value v) ∧ ∀ g ∈ c.gates, g.Holds (valueOf s) := by
  refine ⟨tabulate c.header.maxVar (propagate c.gates value), size_tabulate _ _, ?_, ?_⟩
  · rintro v ⟨named, le, unset⟩
    exact (valueOf_tabulate _ named le).trans (propagate_of_forall_ne c.gates value unset)
  · intro g hg
    apply (AndGate.holds_congr ?_).mpr (propagate_holds order value g hg)
    intro l hl
    exact valueOf_tabulate _ (Literal.var_ne_zero (h.named hg hl)) (fits.gates g hg l hl)

end Encoding.Encodes

/-- Simulation yields models, and the encoding defines every gate: each valuation of the free
variables extends to exactly one model. So the only model that agrees with a simulation on the free
variables is the simulation. -/
theorem encode_defines_gates (readable : (Aag.read bytes).outcome = .ok c)
    (encoded : (c.encode .empty).outcome = .ok e) (order : Topological c.gates)
    (room : c.header.maxVar.toNat + 1 ≤ maxValues) :
    (∀ row : List Bool, row.length = c.header.inputs.toNat →
      ∃ values, c.simulate row = .ok values ∧
        e.cnf.verify (solutionOf values) = .ok .satisfied) ∧
    (∀ value : UInt64 → Bool, ∃! s : Array Bool, s.size = c.header.maxVar.toNat ∧
      (∀ v, c.Free v → valueOf s v = value v) ∧ e.cnf.verify s = .ok .satisfied) ∧
    (∀ row values, c.simulate row = .ok values →
      ∀ s : Array Bool, s.size = c.header.maxVar.toNat →
      (∀ v, c.Free v → valueOf s v = valueOf (solutionOf values) v) →
      e.cnf.verify s = .ok .satisfied → s = solutionOf values) := by
  have fits := Aag.fits_of_read readable
  have encodes := encodes_of_encode encoded
  refine ⟨?_, ?_, ?_⟩
  · intro row len
    obtain ⟨values, simulated, table⟩ :=
      fits.simulate_eq (len.trans fits.inputs_length.symm) room
    refine ⟨values, simulated, ?_⟩
    apply (encodes.verify_iff_holds fits table.size_solutionOf).mpr
    exact encodes.solutionOf_holds fits order table
  · intro value
    obtain ⟨s, size, agree, holds⟩ := encodes.exists_solution fits order value
    refine ⟨s, ⟨size, agree, (encodes.verify_iff_holds fits size).mpr holds⟩, ?_⟩
    rintro t ⟨size_t, agree_t, verified⟩
    have holds_t := (encodes.verify_iff_holds fits size_t).mp verified
    apply solution_unique order size_t size holds_t holds
    intro v free
    rw [agree_t v free, agree v free]
  · intro row values simulated s size agree verified
    have table := fits.tabulates simulated
    have holds := (encodes.verify_iff_holds fits size).mp verified
    exact solution_unique order size table.size_solutionOf holds
      (encodes.solutionOf_holds fits order table) agree

/-- Two gates. An input is inverted, another one shares its variable with a gate, and the last
variable occurs nowhere. -/
def overlapText : String := "aag 5 3 0 2 2\n2\n5\n6\n9\n6\n6 2 5\n8 7 3\ni0 a\no0 y\no1 z\n"

def overlapCircuit : Circuit where
  header := ⟨5, 3, 0, 2, 2⟩
  inputs := [⟨2⟩, ⟨5⟩, ⟨6⟩]
  latches := []
  outputs := [⟨9⟩, ⟨6⟩]
  gates := [⟨⟨6⟩, ⟨2⟩, ⟨5⟩, 7⟩, ⟨⟨8⟩, ⟨7⟩, ⟨3⟩, 8⟩]
  symbols := .ofList [((.input, 0), "a"), ((.output, 0), "y"), ((.output, 1), "z")]
  comments := []

theorem read_overlapText : (Aag.read overlapText.toUTF8).outcome = .ok overlapCircuit := by decide

theorem encode_defines_overlap : ∃ e, (overlapCircuit.encode .empty).outcome = .ok e ∧
    (∃ values, overlapCircuit.simulate [true, false, false] = .ok values ∧
      e.cnf.verify (solutionOf values) = .ok .satisfied) ∧
    ∃! s : Array Bool, s.size = 5 ∧
      (∀ v, overlapCircuit.Free v → valueOf s v = true) ∧ e.cnf.verify s = .ok .satisfied := by
  refine ⟨_, rfl, ?_⟩
  obtain ⟨simulated, unique, _⟩ :=
    encode_defines_gates read_overlapText rfl (by decide) (by decide)
  exact ⟨simulated [true, false, false] rfl, unique fun _ => true⟩

/-- If inputs and gates drive every operand and every output, the encoding has a model exactly if
some row of inputs leads the simulation to the assigned value of every assignment that has a
variable. -/
theorem encode_satisfiable_iff (readable : (Aag.read bytes).outcome = .ok c)
    (encoded : (c.encode a).outcome = .ok e) (order : Topological c.gates)
    (operands : ∀ g ∈ c.gates, c.Drives g.left.var ∧ c.Drives g.right.var)
    (outputs : ∀ l ∈ c.outputs, c.Drives l.var)
    (room : c.header.maxVar.toNat + 1 ≤ maxValues) :
    (∃ s : Array Bool, s.size = c.header.maxVar.toNat ∧ e.cnf.verify s = .ok .satisfied) ↔
      ∃ row values, row.length = c.header.inputs.toNat ∧ c.simulate row = .ok values ∧
        ∀ name b, (name, b) ∈ a.entries →
          ∀ v, e.signals.varOf name = some v → values[v.toNat]? = some b := by
  have fits := Aag.fits_of_read readable
  have encodes := encodes_of_encode encoded
  constructor
  · rintro ⟨s, size, verified⟩
    obtain ⟨holds, assigned⟩ := (encodes.verify_eq_satisfied_iff fits size).mp verified
    have reads : ∀ g ∈ c.gates, ∀ v, g.Reads v → c.Drives v := by
      rintro g hg v (rfl | rfl)
      · exact (operands g hg).1
      · exact (operands g hg).2
    have len : (c.rowOf (valueOf s)).length = c.inputs.length := List.length_map _
    obtain ⟨values, simulated, table⟩ := fits.simulate_eq len room
    refine ⟨c.rowOf (valueOf s), values, len.trans fits.inputs_length, simulated, ?_⟩
    intro name b entry v hv
    have inside := Word.toNat_lt_succ (encodes.var_le fits hv)
    have back : c.denote (c.rowOf (valueOf s)) v = valueOf s v :=
      denote_rowOf order reads rfl holds (encodes.name_driven outputs hv)
    rw [table.getElem?_eq v inside, back, assigned name b entry v hv]
  · rintro ⟨row, values, _, simulated, assigned⟩
    have table := fits.tabulates simulated
    refine ⟨solutionOf values, table.size_solutionOf, ?_⟩
    apply (encodes.verify_eq_satisfied_iff fits table.size_solutionOf).mpr
    refine ⟨encodes.solutionOf_holds fits order table, ?_⟩
    intro name b entry v hv
    have le := encodes.var_le fits hv
    have value := table.getElem?_eq v (Word.toNat_lt_succ le)
    rw [assigned name b entry v hv] at value
    rw [table.valueOf_solutionOf (encodes.names.nameable hv).1 le]
    exact (Option.some.inj value).symm

/-- The variable of the first output can be true. -/
theorem encode_satisfiable_overlap :
    ∃ e, (overlapCircuit.encode (.ofList [("y", true)])).outcome = .ok e ∧
      ∃ s : Array Bool, s.size = 5 ∧ e.cnf.verify s = .ok .satisfied := by
  refine ⟨_, rfl, ?_⟩
  apply (encode_satisfiable_iff (a := .ofList [("y", true)]) read_overlapText rfl (by decide)
    (by decide) (by decide) (by decide)).mpr
  refine ⟨[false, false, true], #[false, false, false, false, true, false], rfl, rfl, ?_⟩
  intro name b entry v hv
  obtain ⟨rfl, rfl⟩ := Prod.mk.inj (List.mem_singleton.mp entry)
  cases hv
  rfl

end AndInverter
