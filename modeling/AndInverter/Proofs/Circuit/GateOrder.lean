import AndInverter.Circuit.Evaluation
import Mathlib.Logic.Function.Basic

/-!
# Gates in topological order

Gates are run over a valuation of all variables, each on the values it finds. In a topological
order every gate then satisfies its equation, and the result is the only valuation that does so
and agrees with the start outside the gate outputs. What the start says about an output is
overwritten, so inputs may share a variable with a gate.
-/
namespace AndInverter

namespace AndGate

def Reads (g : AndGate) (v : UInt64) : Prop := g.left.var = v ∨ g.right.var = v

instance (g : AndGate) (v : UInt64) : Decidable (g.Reads v) :=
  inferInstanceAs (Decidable (_ ∨ _))

def conjunction (g : AndGate) (value : UInt64 → Bool) : Bool :=
  g.left.eval (value g.left.var) && g.right.eval (value g.right.var)

def update (value : UInt64 → Bool) (g : AndGate) : UInt64 → Bool :=
  Function.update value g.output.var (g.conjunction value)

theorem holds_iff (g : AndGate) (value : UInt64 → Bool) :
    g.Holds value ↔ value g.output.var = g.conjunction value := Iff.rfl

theorem conjunction_congr {g : AndGate} {value other : UInt64 → Bool}
    (agree : ∀ v, g.Reads v → value v = other v) :
    g.conjunction value = g.conjunction other := by
  unfold conjunction
  rw [agree g.left.var (Or.inl rfl), agree g.right.var (Or.inr rfl)]

theorem update_output (value : UInt64 → Bool) (g : AndGate) :
    g.update value g.output.var = g.conjunction value :=
  Function.update_self _ _ _

theorem update_of_ne (value : UInt64 → Bool) (g : AndGate) {v : UInt64}
    (other : v ≠ g.output.var) : g.update value v = value v :=
  Function.update_of_ne other _ _

end AndGate

def propagate : List AndGate → (UInt64 → Bool) → UInt64 → Bool
  | [], value => value
  | g :: rest, value => propagate rest (g.update value)

/-- Outputs are distinct, and no gate reads its own output or that of a later gate. -/
structure Topological (gates : List AndGate) : Prop where
  distinct : (gates.map fun g => g.output.var).Nodup
  notSelf : ∀ g ∈ gates, ¬ g.Reads g.output.var
  notLater : gates.Pairwise fun g later => ¬ g.Reads later.output.var

instance (gates : List AndGate) : Decidable (Topological gates) :=
  decidable_of_iff
    ((gates.map fun g => g.output.var).Nodup ∧ (∀ g ∈ gates, ¬ g.Reads g.output.var) ∧
      gates.Pairwise fun g later => ¬ g.Reads later.output.var)
    ⟨fun h => ⟨h.1, h.2.1, h.2.2⟩, fun h => ⟨h.distinct, h.notSelf, h.notLater⟩⟩

namespace Topological
variable {g : AndGate} {rest : List AndGate}

theorem tail (h : Topological (g :: rest)) : Topological rest where
  distinct := (List.nodup_cons.mp h.distinct).2
  notSelf := fun later hl => h.notSelf later (List.mem_cons_of_mem g hl)
  notLater := (List.pairwise_cons.mp h.notLater).2

theorem output_ne (h : Topological (g :: rest)) {later : AndGate} (hl : later ∈ rest) :
    later.output.var ≠ g.output.var := by
  intro same
  have fresh := (List.nodup_cons.mp h.distinct).1
  exact fresh (List.mem_map.mpr ⟨later, hl, same⟩)

/-- The operands of the first gate are final: nothing from it on sets them. -/
theorem operand_ne (h : Topological (g :: rest)) {v : UInt64} (hv : g.Reads v)
    {later : AndGate} (hl : later ∈ g :: rest) : later.output.var ≠ v := by
  rintro rfl
  rcases List.mem_cons.mp hl with rfl | hl
  · exact h.notSelf later List.mem_cons_self hv
  · exact (List.pairwise_cons.mp h.notLater).1 later hl hv

end Topological

/-- A variable that no gate defines keeps its value. -/
theorem propagate_of_forall_ne (gates : List AndGate) (value : UInt64 → Bool) {v : UInt64}
    (free : ∀ g ∈ gates, g.output.var ≠ v) : propagate gates value v = value v := by
  induction gates generalizing value with
  | nil => rfl
  | cons g rest ih =>
    have later := ih (g.update value) (fun g' hg => free g' (List.mem_cons_of_mem g hg))
    have first := g.update_of_ne value (free g List.mem_cons_self).symm
    exact later.trans first

/-- Gates in order keep the equations of the gates in front of them. -/
theorem propagate_holds {gates : List AndGate} (order : Topological gates)
    (value : UInt64 → Bool) : ∀ g ∈ gates, g.Holds (propagate gates value) := by
  induction gates generalizing value with
  | nil => simp
  | cons g rest ih =>
    intro g' hg'
    rcases List.mem_cons.mp hg' with rfl | hrest
    · have output : propagate (g' :: rest) value g'.output.var = g'.conjunction value := by
        have kept := propagate_of_forall_ne rest (g'.update value) (fun _ => order.output_ne)
        exact kept.trans (g'.update_output value)
      have operands : ∀ v, g'.Reads v → propagate (g' :: rest) value v = value v := by
        intro v hv
        exact propagate_of_forall_ne _ value (fun _ => order.operand_ne hv)
      rw [AndGate.holds_iff, output, AndGate.conjunction_congr operands]
    · exact ih order.tail (g.update value) g' hrest

/-- Gate equations leave no choice: two valuations that satisfy them and agree outside the outputs
are equal. Outputs need not be distinct here. -/
theorem eq_of_forall_holds {gates : List AndGate} {value other : UInt64 → Bool}
    (notSelf : ∀ g ∈ gates, ¬ g.Reads g.output.var)
    (notLater : gates.Pairwise fun g later => ¬ g.Reads later.output.var)
    (hvalue : ∀ g ∈ gates, g.Holds value) (hother : ∀ g ∈ gates, g.Holds other)
    (agree : ∀ v, (∀ g ∈ gates, g.output.var ≠ v) → value v = other v) : value = other := by
  induction gates with
  | nil => exact funext fun v => agree v (by simp)
  | cons g rest ih =>
    obtain ⟨after, laterOrder⟩ := List.pairwise_cons.mp notLater
    have operands : ∀ v, g.Reads v → value v = other v := by
      intro v hv
      apply agree v
      rintro later hl rfl
      rcases List.mem_cons.mp hl with rfl | hl
      · exact notSelf later List.mem_cons_self hv
      · exact after later hl hv
    have output : value g.output.var = other g.output.var := by
      rw [(g.holds_iff value).mp (hvalue g List.mem_cons_self),
        (g.holds_iff other).mp (hother g List.mem_cons_self), AndGate.conjunction_congr operands]
    apply ih (fun g' hg => notSelf g' (List.mem_cons_of_mem g hg)) laterOrder
      (fun g' hg => hvalue g' (List.mem_cons_of_mem g hg))
      (fun g' hg => hother g' (List.mem_cons_of_mem g hg))
    intro v free
    by_cases hv : g.output.var = v
    · exact hv ▸ output
    · exact agree v (List.forall_mem_cons.mpr ⟨hv, free⟩)

/-- A run that starts in agreement with a model on the variables `known` agrees with it on these
and on all outputs, if every operand is known or an output. -/
theorem propagate_eq_model {gates : List AndGate} (order : Topological gates)
    (known : UInt64 → Prop) {model value : UInt64 → Bool}
    (holds : ∀ g ∈ gates, g.Holds model)
    (driven : ∀ g ∈ gates, ∀ v, g.Reads v → known v ∨ ∃ source ∈ gates, source.output.var = v)
    (agree : ∀ v, known v → value v = model v) {v : UInt64}
    (hv : known v ∨ ∃ source ∈ gates, source.output.var = v) :
    propagate gates value v = model v := by
  induction gates generalizing known value with
  | nil => exact agree v (hv.resolve_right (by simp))
  | cons g rest ih =>
    have operands : ∀ v, g.Reads v → value v = model v := by
      intro v hr
      rcases driven g List.mem_cons_self v hr with hk | ⟨source, hs, rfl⟩
      · exact agree v hk
      · exact absurd rfl (order.operand_ne hr hs)
    -- the first output joins the known variables
    have extend : ∀ {v}, (known v ∨ ∃ source ∈ g :: rest, source.output.var = v) →
        (known v ∨ v = g.output.var) ∨ ∃ source ∈ rest, source.output.var = v := by
      rintro v (hk | ⟨source, hs, rfl⟩)
      · exact Or.inl (Or.inl hk)
      · rcases List.mem_cons.mp hs with rfl | hs
        · exact Or.inl (Or.inr rfl)
        · exact Or.inr ⟨source, hs, rfl⟩
    apply ih order.tail (fun v => known v ∨ v = g.output.var)
      (fun g' hg => holds g' (List.mem_cons_of_mem g hg))
      (fun g' hg v hr => extend (driven g' (List.mem_cons_of_mem g hg) v hr))
    · intro v hv
      by_cases same : v = g.output.var
      · subst same
        rw [g.update_output, AndGate.conjunction_congr operands]
        exact ((g.holds_iff model).mp (holds g List.mem_cons_self)).symm
      · rw [g.update_of_ne value same]
        exact agree v (hv.resolve_right same)
    · exact extend hv

end AndInverter
