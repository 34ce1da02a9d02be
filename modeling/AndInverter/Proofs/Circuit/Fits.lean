import AndInverter.Circuit.Evaluation
import AndInverter.Encoding.Gates

/-!
# Circuits that fit their header

Every section is as long as the header says and no literal has a variable beyond the largest
declared one. A circuit is a plain record and need not fit; circuits read from a file do. Evaluation
asks for the second half only.
-/
namespace AndInverter

def Latch.literals (l : Latch) : List Literal := l.literal :: l.next :: l.reset.toList

structure Circuit.Fits (c : Circuit) : Prop where
  inputs_length : c.inputs.length = c.header.inputs.toNat
  latches_length : c.latches.length = c.header.latches.toNat
  outputs_length : c.outputs.length = c.header.outputs.toNat
  gates_length : c.gates.length = c.header.gates.toNat
  inputs : ∀ l ∈ c.inputs, l.var ≤ c.header.maxVar
  latches : ∀ latch ∈ c.latches, ∀ l ∈ latch.literals, l.var ≤ c.header.maxVar
  outputs : ∀ l ∈ c.outputs, l.var ≤ c.header.maxVar
  gates : ∀ g ∈ c.gates, ∀ l ∈ g.literals, l.var ≤ c.header.maxVar

/-- No literal that is evaluated has a variable beyond the largest declared one, whatever the other
counts of the header say. -/
structure Circuit.Bounded (c : Circuit) : Prop where
  inputs : ∀ l ∈ c.inputs, l.var ≤ c.header.maxVar
  outputs : ∀ l ∈ c.outputs, l.var ≤ c.header.maxVar
  gates : ∀ g ∈ c.gates, ∀ l ∈ g.literals, l.var ≤ c.header.maxVar

theorem Circuit.Fits.bounded {c : Circuit} (fits : c.Fits) : c.Bounded :=
  ⟨fits.inputs, fits.outputs, fits.gates⟩

theorem Circuit.Fits.var_le {c : Circuit} (fits : c.Fits) {l : Literal}
    (hl : l ∈ c.inputs ++ c.outputs) : l.var ≤ c.header.maxVar := by
  rcases List.mem_append.mp hl with hl | hl
  · exact fits.inputs l hl
  · exact fits.outputs l hl

namespace AndGate

theorem output_mem_literals (g : AndGate) : g.output ∈ g.literals := by simp [literals]

theorem left_mem_literals (g : AndGate) : g.left ∈ g.literals := by simp [literals]

theorem right_mem_literals (g : AndGate) : g.right ∈ g.literals := by simp [literals]

theorem holds_congr {g : AndGate} {value other : UInt64 → Bool}
    (agree : ∀ l ∈ g.literals, value l.var = other l.var) : g.Holds value ↔ g.Holds other := by
  rw [Holds, Holds, agree g.output g.output_mem_literals, agree g.left g.left_mem_literals,
    agree g.right g.right_mem_literals]

end AndGate

/-- The variables that inputs and gates set, and the constant. -/
def Circuit.Drives (c : Circuit) (v : UInt64) : Prop :=
  v = 0 ∨ (∃ l ∈ c.inputs, l.var = v) ∨ ∃ g ∈ c.gates, g.output.var = v

instance (c : Circuit) (v : UInt64) : Decidable (c.Drives v) :=
  inferInstanceAs (Decidable (_ ∨ _ ∨ _))

/-- The declared variables that no gate sets. -/
def Circuit.Free (c : Circuit) (v : UInt64) : Prop :=
  v ≠ 0 ∧ v ≤ c.header.maxVar ∧ ∀ g ∈ c.gates, g.output.var ≠ v

end AndInverter
