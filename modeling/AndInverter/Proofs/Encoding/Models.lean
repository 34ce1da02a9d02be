import AndInverter.Proofs.Aag.Acceptance
import AndInverter.Proofs.Encoding.Layout

/-!
# The models of an encoding

A solution passes the checker exactly if every gate is the conjunction of its operands and every
assignment with a variable has its value. Nothing is asked of the circuit: its gates may be cyclic,
out of order or share outputs, and variables that occur nowhere are free.
-/
namespace AndInverter

theorem Literal.var_ne_zero {l : Literal} (named : l.isConstant = false) : l.var ≠ 0 :=
  (nameable_of_literal named).1

namespace Encoding.Encodes
variable {e : Encoding} {c : Circuit} {a : Assignments} {s : Array Bool}

/-- The pins hold exactly if each assignment that has a variable has its value. -/
theorem satisfies_pins_iff (h : e.Encodes c a) (value : UInt64 → Bool) :
    (∀ lits ∈ a.entries.filterMap e.signals.pin?, Satisfies value lits) ↔
      ∀ name b, (name, b) ∈ a.entries → ∀ v, e.signals.varOf name = some v → value v = b := by
  constructor
  · intro pins name b entry v hv
    have pinned : e.signals.pin? (name, b) = some [pinLiteral v b] := by
      rw [SignalNames.pin?, hv]
      rfl
    have holds := pins _ (List.mem_filterMap.mpr ⟨(name, b), entry, pinned⟩)
    exact ((h.names.nameable hv).satisfies_pin_iff value b).mp holds
  · intro values lits hl
    obtain ⟨⟨name, b⟩, entry, pinned⟩ := List.mem_filterMap.mp hl
    obtain ⟨v, hv, rfl⟩ := Option.map_eq_some_iff.mp pinned
    exact ((h.names.nameable hv).satisfies_pin_iff value b).mpr (values name b entry v hv)

/-- The clauses of the gates say what their equations say. -/
theorem satisfies_gates_iff (h : e.Encodes c a) (value : UInt64 → Bool) :
    (∀ lits ∈ c.gates.flatMap AndGate.definingClauses, Satisfies value lits) ↔
      ∀ g ∈ c.gates, g.Holds value := by
  constructor
  · intro clauses g hg
    apply (AndGate.satisfies_definingClauses_iff (h.encodable g hg) value).mp
    intro lits hl
    exact clauses lits (List.mem_flatMap.mpr ⟨g, hg, hl⟩)
  · intro gates lits hl
    obtain ⟨g, hg, hl⟩ := List.mem_flatMap.mp hl
    exact (AndGate.satisfies_definingClauses_iff (h.encodable g hg) value).mpr (gates g hg) lits hl

/-- The checker's verdict in terms of gates and assignments. -/
theorem verify_eq_satisfied_iff (h : e.Encodes c a) (fits : c.Fits)
    (size : s.size = c.header.maxVar.toNat) :
    e.cnf.verify s = .ok .satisfied ↔ (∀ g ∈ c.gates, g.Holds (valueOf s)) ∧
      ∀ name b, (name, b) ∈ a.entries → ∀ v, e.signals.varOf name = some v → valueOf s v = b := by
  have length : s.size = e.cnf.numVars.toNat := by rw [h.numVars_eq]; exact size
  rw [Cnf.verify_eq_satisfied_iff length (h.declared fits), h.literalLists_eq,
    List.forall_mem_append, h.satisfies_gates_iff, h.satisfies_pins_iff]

theorem exists_verify (h : e.Encodes c a) (fits : c.Fits)
    (size : s.size = c.header.maxVar.toNat) : ∃ verdict, e.cnf.verify s = .ok verdict := by
  have length : s.size = e.cnf.numVars.toNat := by rw [h.numVars_eq]; exact size
  exact Cnf.exists_verify length (h.declared fits)

/-- Gates look only at variables that have a place in a solution. -/
theorem gate_hasPlace (h : e.Encodes c a) (fits : c.Fits)
    (size : s.size = c.header.maxVar.toNat) {g : AndGate} (hg : g ∈ c.gates) {l : Literal}
    (hl : l ∈ g.literals) : HasPlace s l.var := by
  have le := UInt64.le_iff_toNat_le.mp (fits.gates g hg l hl)
  exact hasPlace_of_le (Literal.var_ne_zero (h.named hg hl)) (size ▸ le)

theorem name_hasPlace (h : e.Encodes c a) (fits : c.Fits)
    (size : s.size = c.header.maxVar.toNat) {name : String} {v : UInt64}
    (hv : e.signals.varOf name = some v) : HasPlace s v := by
  have le := UInt64.le_iff_toNat_le.mp (h.var_le fits hv)
  exact hasPlace_of_le (h.names.nameable hv).1 (size ▸ le)

end Encoding.Encodes

/-- The checker reaches a verdict on every solution of the right length. It accepts exactly those
under which all gates hold and every assignment with a variable has its value, and every variable it
reads for that has a place in the solution. -/
theorem encode_models {bytes : ByteArray} {c : Circuit} {a : Assignments} {e : Encoding}
    (readable : (Aag.read bytes).outcome = .ok c) (encoded : (c.encode a).outcome = .ok e)
    (s : Array Bool) (size : s.size = c.header.maxVar.toNat) :
    (∃ verdict, e.cnf.verify s = .ok verdict) ∧
    (e.cnf.verify s = .ok .satisfied ↔ (∀ g ∈ c.gates, g.Holds (valueOf s)) ∧
      ∀ name b, (name, b) ∈ a.entries →
        ∀ v, e.signals.varOf name = some v → valueOf s v = b) ∧
    (∀ g ∈ c.gates, ∀ l ∈ g.literals, HasPlace s l.var) ∧
    ∀ name v, e.signals.varOf name = some v → HasPlace s v := by
  have fits := Aag.fits_of_read readable
  have encodes := encodes_of_encode encoded
  refine ⟨encodes.exists_verify fits size, encodes.verify_eq_satisfied_iff fits size, ?_, ?_⟩
  · intro g hg l hl
    exact encodes.gate_hasPlace fits size hg hl
  · intro name v hv
    exact encodes.name_hasPlace fits size hv

/-- Two gates that read each other. -/
def loopText : String := "aag 3 1 0 1 2\n2\n4\n4 6 2\n6 4 2\no0 y\n"

def loopCircuit : Circuit where
  header := ⟨3, 1, 0, 1, 2⟩
  inputs := [⟨2⟩]
  latches := []
  outputs := [⟨4⟩]
  gates := [⟨⟨4⟩, ⟨6⟩, ⟨2⟩, 4⟩, ⟨⟨6⟩, ⟨4⟩, ⟨2⟩, 5⟩]
  symbols := .ofList [((.output, 0), "y")]
  comments := []

theorem read_loopText : (Aag.read loopText.toUTF8).outcome = .ok loopCircuit := by decide

/-- With the input both gates of the loop may be true, as the assignment asks. -/
theorem encode_models_loop : ∃ e, (loopCircuit.encode (.ofList [("y", true)])).outcome = .ok e ∧
    e.cnf.verify #[true, true, true] = .ok .satisfied ∧
    (∀ g ∈ loopCircuit.gates, g.Holds (valueOf #[true, true, true])) ∧
    ∀ v, e.signals.varOf "y" = some v → valueOf #[true, true, true] v = true := by
  refine ⟨_, rfl, ?_⟩
  obtain ⟨_, accepts, _⟩ :=
    encode_models (a := .ofList [("y", true)]) read_loopText rfl #[true, true, true] rfl
  have passes := accepts.mpr ⟨by decide, by
    intro name b entry v hv
    obtain ⟨rfl, rfl⟩ := Prod.mk.inj (List.mem_singleton.mp entry)
    cases hv
    rfl⟩
  obtain ⟨gates, values⟩ := accepts.mp passes
  exact ⟨passes, gates, values "y" true (List.mem_singleton.mpr rfl)⟩

end AndInverter
