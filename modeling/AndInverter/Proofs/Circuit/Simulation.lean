import AndInverter.Proofs.Circuit.Fits
import AndInverter.Proofs.Circuit.GateOrder
import AndInverter.Proofs.Circuit.Solution
import AndInverter.Proofs.Outcome

/-!
# Evaluation as a valuation

Evaluating a circuit whose variables are declared never leaves the table of values: the table
tabulates the valuation that the inputs drive and the gates propagate. The order of the gates plays
no part here.
-/
namespace AndInverter
open Outcome

/-- The table has `size` entries, each the value of its variable. -/
structure Tabulates (values : Array Bool) (size : Nat) (value : UInt64 → Bool) : Prop where
  size_eq : values.size = size
  getElem?_eq : ∀ v : UInt64, v.toNat < size → values[v.toNat]? = some (value v)

/-- Inputs set their variables one after the other, whatever their inversion. -/
def drive : List (Literal × Bool) → (UInt64 → Bool) → UInt64 → Bool
  | [], value => value
  | (l, b) :: rest, value => drive rest (Function.update value l.var b)

/-- The values of all variables for one value per input; latches stay false. -/
def Circuit.denote (c : Circuit) (row : List Bool) : UInt64 → Bool :=
  propagate c.gates (drive (c.inputs.zip row) fun _ => false)

/-- Inputs that all take their value from one valuation agree with it. -/
theorem drive_eq_model {pairs : List (Literal × Bool)} {value model : UInt64 → Bool}
    (same : ∀ p ∈ pairs, p.2 = model p.1.var) {v : UInt64}
    (hv : value v = model v ∨ ∃ p ∈ pairs, p.1.var = v) : drive pairs value v = model v := by
  induction pairs generalizing value with
  | nil => exact hv.resolve_right (by simp)
  | cons p rest ih =>
    obtain ⟨l, b⟩ := p
    apply ih fun q hq => same q (List.mem_cons_of_mem _ hq)
    have hb : b = model l.var := same (l, b) List.mem_cons_self
    by_cases first : v = l.var
    · subst first
      exact Or.inl ((Function.update_self _ _ _).trans hb)
    · rcases hv with hv | ⟨q, hq, hqv⟩
      · exact Or.inl ((Function.update_of_ne first _ _).trans hv)
      · rcases List.mem_cons.mp hq with rfl | hq
        · exact absurd hqv.symm first
        · exact Or.inr ⟨q, hq, hqv⟩

/-- A variable that no input declares keeps its value. -/
theorem drive_of_forall_ne {pairs : List (Literal × Bool)} (value : UInt64 → Bool) {v : UInt64}
    (free : ∀ p ∈ pairs, p.1.var ≠ v) : drive pairs value v = value v := by
  induction pairs generalizing value with
  | nil => rfl
  | cons p rest ih =>
    obtain ⟨here, later⟩ := List.forall_mem_cons.mp free
    exact (ih _ later).trans (Function.update_of_ne here.symm _ _)

/-- Of the inputs that declare a variable the last one decides. -/
theorem drive_of_last {inputs : List Literal} {row : List Bool} (len : row.length = inputs.length)
    (value : UInt64 → Bool) {i : Nat} {l : Literal} (here : inputs[i]? = some l)
    (last : ∀ j l', i < j → inputs[j]? = some l' → l'.var ≠ l.var) :
    row[i]? = some (drive (inputs.zip row) value l.var) := by
  induction inputs generalizing i row value with
  | nil => cases here
  | cons first rest ih =>
    obtain ⟨b, more, rfl⟩ := List.exists_cons_of_length_eq_add_one len
    cases i with
    | zero =>
      cases here
      have free : ∀ p ∈ rest.zip more, p.1.var ≠ l.var := by
        intro p hp
        obtain ⟨j, hj⟩ := List.getElem?_of_mem (List.of_mem_zip hp).1
        exact last (j + 1) p.1 j.succ_pos hj
      rw [List.zip_cons_cons, drive, drive_of_forall_ne _ free, Function.update_self]
      rfl
    | succ i =>
      exact ih (Nat.succ.inj len) _ here fun j l' later hl => last (j + 1) l' (by omega) hl

namespace Tabulates
variable {values : Array Bool} {size : Nat} {value : UInt64 → Bool}

theorem replicate (size : Nat) : Tabulates (Array.replicate size false) size fun _ => false where
  size_eq := Array.size_replicate
  getElem?_eq := by
    intro v hv
    simp [hv]

theorem valueIn_eq (h : Tabulates values size value) {l : Literal} (hl : l.var.toNat < size) :
    l.valueIn values = .ok (l.eval (value l.var)) := by
  unfold Literal.valueIn
  rw [h.getElem?_eq l.var hl]

theorem assign_eq (h : Tabulates values size value) {v : UInt64} (hv : v.toNat < size) (b : Bool) :
    ∃ next, assign values v b = .ok next ∧ Tabulates next size (Function.update value v b) := by
  have inside : v.toNat < values.size := by rw [h.size_eq]; exact hv
  refine ⟨values.set v.toNat b inside, dif_pos inside, ?_, ?_⟩
  · rw [Array.size_set, h.size_eq]
  · intro w hw
    rw [Array.getElem?_set]
    by_cases same : v.toNat = w.toNat
    · have hvw : v = w := UInt64.toNat_inj.mp same
      subst hvw
      simp
    · have hwv : w ≠ v := fun e => same (e ▸ rfl)
      rw [if_neg same, h.getElem?_eq w hw, Function.update_of_ne hwv]

/-- One gate on the table is one update of the valuation. -/
theorem evaluate_eq (h : Tabulates values size value) {g : AndGate}
    (hg : ∀ l ∈ g.literals, l.var.toNat < size) :
    ∃ next, g.evaluate values = .ok next ∧ Tabulates next size (g.update value) := by
  obtain ⟨next, hnext, tab⟩ := h.assign_eq (hg g.output g.output_mem_literals) (g.conjunction value)
  refine ⟨next, ?_, tab⟩
  unfold AndGate.evaluate
  rw [h.valueIn_eq (hg g.left g.left_mem_literals), h.valueIn_eq (hg g.right g.right_mem_literals)]
  exact hnext

/-- Evaluating gates on a table is propagating through them, since no look-up falls outside. -/
theorem gates_eq (h : Tabulates values size value) {gates : List AndGate}
    (hg : ∀ g ∈ gates, ∀ l ∈ g.literals, l.var.toNat < size) :
    ∃ next, gates.foldlM AndGate.evaluate values = .ok next ∧
      Tabulates next size (propagate gates value) := by
  induction gates generalizing values value with
  | nil => exact ⟨values, rfl, h⟩
  | cons g rest ih =>
    obtain ⟨middle, hmiddle, tab⟩ := h.evaluate_eq (hg g List.mem_cons_self)
    obtain ⟨next, hnext, tab⟩ := ih tab fun g' hg' => hg g' (List.mem_cons_of_mem g hg')
    refine ⟨next, ?_, tab⟩
    rw [List.foldlM_cons, bind_eq_ok_iff]
    exact ⟨middle, hmiddle, hnext⟩

/-- Setting the inputs of a table is driving them. -/
theorem inputs_eq (h : Tabulates values size value) {pairs : List (Literal × Bool)}
    (hp : ∀ p ∈ pairs, p.1.var.toNat < size) :
    ∃ next, pairs.foldlM (fun values (l, b) => assign values l.var b) values = .ok next ∧
      Tabulates next size (drive pairs value) := by
  induction pairs generalizing values value with
  | nil => exact ⟨values, rfl, h⟩
  | cons p rest ih =>
    obtain ⟨l, b⟩ := p
    obtain ⟨middle, hmiddle, tab⟩ := h.assign_eq (hp (l, b) List.mem_cons_self) b
    obtain ⟨next, hnext, tab⟩ := ih tab fun q hq => hp q (List.mem_cons_of_mem _ hq)
    refine ⟨next, ?_, tab⟩
    rw [List.foldlM_cons, bind_eq_ok_iff]
    exact ⟨middle, hmiddle, hnext⟩

end Tabulates

namespace Circuit
variable {c : Circuit}

/-- A row of the right length is always evaluated, to the table of its denotation. -/
theorem Bounded.simulate_eq (bounded : c.Bounded) {row : List Bool}
    (len : row.length = c.inputs.length) (room : c.header.maxVar.toNat + 1 ≤ maxValues) :
    ∃ values, c.simulate row = .ok values ∧
      Tabulates values (c.header.maxVar.toNat + 1) (c.denote row) := by
  have inputs : ∀ p ∈ c.inputs.zip row, p.1.var.toNat < c.header.maxVar.toNat + 1 := by
    intro p hp
    exact Word.toNat_lt_succ (bounded.inputs p.1 (List.of_mem_zip hp).1)
  have gates : ∀ g ∈ c.gates, ∀ l ∈ g.literals, l.var.toNat < c.header.maxVar.toNat + 1 :=
    fun g hg l hl => Word.toNat_lt_succ (bounded.gates g hg l hl)
  obtain ⟨driven, hdriven, tab⟩ := (Tabulates.replicate _).inputs_eq inputs
  obtain ⟨values, hvalues, tab⟩ := tab.gates_eq gates
  refine ⟨values, ?_, tab⟩
  rw [simulate, if_neg (not_not_intro len), if_neg (Nat.not_lt.mpr room), bind_eq_ok_iff]
  exact ⟨driven, hdriven, hvalues⟩

/-- The outputs of a row are their literals under its denotation. -/
theorem Bounded.evalOutputs_eq (bounded : c.Bounded) {row : List Bool}
    (len : row.length = c.inputs.length) (room : c.header.maxVar.toNat + 1 ≤ maxValues) :
    c.evalOutputs row = .ok (c.outputs.map fun l => l.eval (c.denote row l.var)) := by
  obtain ⟨values, simulated, tab⟩ := bounded.simulate_eq len room
  rw [evalOutputs, bind_eq_ok_iff]
  refine ⟨values, simulated, mapM_eq_ok_iff.mpr ?_⟩
  rw [List.forall₂_map_right_iff, List.forall₂_same]
  intro l hl
  exact tab.valueIn_eq (Word.toNat_lt_succ (bounded.outputs l hl))

theorem Fits.simulate_eq (fits : c.Fits) {row : List Bool} (len : row.length = c.inputs.length)
    (room : c.header.maxVar.toNat + 1 ≤ maxValues) :
    ∃ values, c.simulate row = .ok values ∧
      Tabulates values (c.header.maxVar.toNat + 1) (c.denote row) :=
  fits.bounded.simulate_eq len room

/-- Whatever is simulated is the table of the row's denotation. -/
theorem Fits.tabulates (fits : c.Fits) {row : List Bool} {values : Array Bool}
    (simulated : c.simulate row = .ok values) :
    Tabulates values (c.header.maxVar.toNat + 1) (c.denote row) := by
  by_cases len : row.length = c.inputs.length
  · by_cases room : c.header.maxVar.toNat + 1 ≤ maxValues
    · obtain ⟨others, again, table⟩ := fits.simulate_eq len room
      obtain rfl : values = others := Except.ok.inj (simulated.symm.trans again)
      exact table
    · rw [simulate, if_neg (not_not_intro len), if_pos (Nat.lt_of_not_le room)] at simulated
      cases simulated
  · rw [simulate, if_pos len] at simulated
    cases simulated

def rowOf (c : Circuit) (value : UInt64 → Bool) : List Bool :=
  c.inputs.map fun l => value l.var

theorem zip_rowOf (c : Circuit) (value : UInt64 → Bool) :
    c.inputs.zip (c.rowOf value) = c.inputs.map fun l => (l, value l.var) := by
  rw [← List.zip_map', List.map_id', rowOf]

/-- Inputs that take a model's own row agree with the model, also where they share a variable. -/
theorem drive_rowOf {model : UInt64 → Bool} (zero : model 0 = false) {v : UInt64}
    (known : v = 0 ∨ ∃ l ∈ c.inputs, l.var = v) :
    drive (c.inputs.zip (c.rowOf model)) (fun _ => false) v = model v := by
  rw [zip_rowOf]
  have same : ∀ p ∈ c.inputs.map fun l => (l, model l.var), p.2 = model p.1.var := by
    intro p hp
    obtain ⟨l, _, rfl⟩ := List.mem_map.mp hp
    rfl
  rcases known with rfl | ⟨l, hl, rfl⟩
  · exact drive_eq_model same (Or.inl zero.symm)
  · have listed : (l, model l.var) ∈ c.inputs.map fun l => (l, model l.var) :=
      List.mem_map.mpr ⟨l, hl, rfl⟩
    exact drive_eq_model same (Or.inr ⟨_, listed, rfl⟩)

/-- Evaluating a model's own row leads back to the model on everything that is driven. -/
theorem denote_rowOf (order : Topological c.gates)
    (operands : ∀ g ∈ c.gates, ∀ v, g.Reads v → c.Drives v) {model : UInt64 → Bool}
    (zero : model 0 = false) (holds : ∀ g ∈ c.gates, g.Holds model) {v : UInt64}
    (driven : c.Drives v) : c.denote (c.rowOf model) v = model v := by
  apply propagate_eq_model order (fun v => v = 0 ∨ ∃ l ∈ c.inputs, l.var = v) holds
  · intro g hg v reads
    exact or_assoc.mpr (operands g hg v reads)
  · intro v known
    exact drive_rowOf zero known
  · exact or_assoc.mpr driven

/-- The gates leave no second solution with the same values on the free variables. -/
theorem solution_unique (order : Topological c.gates) {s t : Array Bool}
    (hs : s.size = c.header.maxVar.toNat) (ht : t.size = c.header.maxVar.toNat)
    (holds_s : ∀ g ∈ c.gates, g.Holds (valueOf s)) (holds_t : ∀ g ∈ c.gates, g.Holds (valueOf t))
    (agree : ∀ v, c.Free v → valueOf s v = valueOf t v) : s = t := by
  have same : valueOf s = valueOf t := by
    apply eq_of_forall_holds order.notSelf order.notLater holds_s holds_t
    intro v free
    by_cases inside : v ≠ 0 ∧ v ≤ c.header.maxVar
    · exact agree v ⟨inside.1, inside.2, free⟩
    · have outside : v = 0 ∨ c.header.maxVar.toNat < v.toNat := by
        rw [not_and_or, not_not, UInt64.not_le, UInt64.lt_iff_toNat_lt] at inside
        exact inside
      rw [valueOf_of_not_hasPlace (hs ▸ outside), valueOf_of_not_hasPlace (ht ▸ outside)]
  exact eq_of_valueOf_eq (hs ▸ c.header.maxVar.toNat_lt_size) (hs.trans ht.symm) (congrFun same)

end Circuit

namespace Tabulates
variable {values : Array Bool} {maxVar : UInt64} {value : UInt64 → Bool}

theorem size_solutionOf (h : Tabulates values (maxVar.toNat + 1) value) :
    (solutionOf values).size = maxVar.toNat := by
  simp [solutionOf, h.size_eq]

/-- Without the constant the table is a solution with the same values. -/
theorem valueOf_solutionOf (h : Tabulates values (maxVar.toNat + 1) value) {v : UInt64}
    (named : v ≠ 0) (le : v ≤ maxVar) : valueOf (solutionOf values) v = value v := by
  have nonzero := Word.toNat_ne_zero named
  have le := UInt64.le_iff_toNat_le.mp le
  have index : 1 + (v.toNat - 1) = v.toNat := by omega
  have entry : (solutionOf values)[v.toNat - 1]? = some (value v) := by
    rw [solutionOf, Array.getElem?_extract, if_pos (by rw [h.size_eq]; omega), index]
    exact h.getElem?_eq v (by omega)
  obtain ⟨_, place⟩ := hasPlace_of_le (s := solutionOf values) named
    (by rw [h.size_solutionOf]; exact le)
  exact Option.some.inj (place.symm.trans entry)

end Tabulates

end AndInverter
