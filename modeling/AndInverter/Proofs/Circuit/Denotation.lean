import AndInverter.Proofs.Circuit.Simulation

/-!
# What a circuit denotes

A row of inputs and the gates' equations say what the value of each variable has to be. They are a
system of equations that knows no order of the gates. If inputs and gates set every variable at most
once and gates come after what they read, evaluation in file order finds the one solution; so two
such orders of the same gates cannot be told apart. Latches are not part of the system.
-/
namespace AndInverter
open Outcome

/-- The value of a variable in a table, false if it has no place there. -/
def tableValue (values : Array Bool) (v : UInt64) : Bool := values.getD v.toNat false

theorem getElem?_eq_tableValue {values : Array Bool} {v : UInt64} (inside : v.toNat < values.size) :
    values[v.toNat]? = some (tableValue values v) := by
  simp [tableValue, inside]

theorem tableValue_of_getElem? {values : Array Bool} {v : UInt64} {b : Bool}
    (found : values[v.toNat]? = some b) : tableValue values v = b := by
  rw [tableValue, Array.getD_eq_getD_getElem?, found, Option.getD_some]

theorem tableValue_of_size_le {values : Array Bool} {v : UInt64} (outside : values.size ≤ v.toNat) :
    tableValue values v = false := by
  rw [tableValue, Array.getD_eq_getD_getElem?, Array.getElem?_eq_none outside, Option.getD_none]

/-- Tables of one size with the same values are equal. -/
theorem eq_of_tableValue_eq {values others : Array Bool} (room : values.size ≤ UInt64.size)
    (size : values.size = others.size) (same : ∀ v, tableValue values v = tableValue others v) :
    values = others := by
  apply Array.ext_getElem?
  intro i
  by_cases inside : i < values.size
  · have word : (UInt64.ofNat i).toNat = i := UInt64.toNat_ofNat_of_lt' (by omega)
    have left := getElem?_eq_tableValue (v := UInt64.ofNat i) (word.symm ▸ inside)
    have right : others[(UInt64.ofNat i).toNat]? = some (tableValue others (UInt64.ofNat i)) :=
      getElem?_eq_tableValue (word.symm ▸ size ▸ inside)
    rw [word] at left right
    rw [left, right, same]
  · rw [Array.getElem?_eq_none (by omega), Array.getElem?_eq_none (by omega)]

namespace Circuit
variable {c : Circuit} {row : List Bool} {values others : Array Bool} {gates : List AndGate}

/-- The table has a place for each variable and satisfies all equations: of the constant, of the
inputs, of what nothing sets, and of the gates. -/
structure Solves (c : Circuit) (row : List Bool) (values : Array Bool) : Prop where
  size_eq : values.size = c.header.maxVar.toNat + 1
  constant : values[0]? = some false
  inputs : ∀ (i : Nat) (l : Literal), c.inputs[i]? = some l → values[l.var.toNat]? = row[i]?
  undriven : ∀ v, v ≤ c.header.maxVar → ¬ c.Drives v → values[v.toNat]? = some false
  gates : ∀ g ∈ c.gates, g.Holds (tableValue values)

/-- Inputs and gates set variables of their own, never the constant, and gates come after what they
read. -/
structure Ordered (c : Circuit) : Prop where
  inputs_named : ∀ l ∈ c.inputs, l.var ≠ 0
  inputs_distinct : (c.inputs.map Literal.var).Nodup
  gates_named : ∀ g ∈ c.gates, g.output.var ≠ 0
  apart : ∀ g ∈ c.gates, ∀ l ∈ c.inputs, g.output.var ≠ l.var
  order : Topological c.gates

namespace Ordered

/-- No two inputs of an ordered circuit set the same variable. -/
theorem input_eq_of_var_eq (ordered : c.Ordered) {i j : Nat} {l l' : Literal}
    (hi : c.inputs[i]? = some l) (hj : c.inputs[j]? = some l') (same : l'.var = l.var) : i = j := by
  have inside : i < (c.inputs.map Literal.var).length := by
    rw [List.length_map]
    exact (List.getElem?_eq_some_iff.mp hi).1
  apply (List.getElem?_inj inside ordered.inputs_distinct).mp
  rw [List.getElem?_map, List.getElem?_map, hi, hj, Option.map_some, Option.map_some, same]

/-- A circuit stays ordered if its gates are exchanged without putting one in front of what it
reads. -/
theorem reorder (ordered : c.Ordered) (perm : gates.Perm c.gates) (order : Topological gates) :
    Ordered { c with gates } where
  inputs_named := ordered.inputs_named
  inputs_distinct := ordered.inputs_distinct
  gates_named g hg := ordered.gates_named g (perm.mem_iff.mp hg)
  apart g hg := ordered.apart g (perm.mem_iff.mp hg)
  order := order

/-- The table of the denotation solves all equations. -/
theorem solves_of_tabulates (ordered : c.Ordered) (bounded : c.Bounded)
    (len : row.length = c.inputs.length)
    (table : Tabulates values (c.header.maxVar.toNat + 1) (c.denote row)) :
    c.Solves row values where
  size_eq := table.size_eq
  constant := by
    have kept : c.denote row 0 = false := by
      rw [denote, propagate_of_forall_ne _ _ ordered.gates_named, drive_of_forall_ne]
      exact fun p hp => ordered.inputs_named p.1 (List.of_mem_zip hp).1
    have entry := table.getElem?_eq 0 (Nat.succ_pos _)
    rwa [kept] at entry
  inputs i l here := by
    have listed := List.mem_of_getElem? here
    have set := drive_of_last len (fun _ => false) here fun j l' later hl same =>
      absurd (ordered.input_eq_of_var_eq here hl same) (Nat.ne_of_lt later)
    have kept : c.denote row l.var = drive (c.inputs.zip row) (fun _ => false) l.var :=
      propagate_of_forall_ne _ _ fun g hg => ordered.apart g hg l listed
    rw [table.getElem?_eq l.var (Word.toNat_lt_succ (bounded.inputs l listed)), kept, set]
  undriven v le undriven := by
    rw [Drives, not_or, not_or] at undriven
    obtain ⟨_, no_input, no_gate⟩ := undriven
    have kept : c.denote row v = false := by
      rw [denote, propagate_of_forall_ne _ _ fun g hg same => no_gate ⟨g, hg, same⟩,
        drive_of_forall_ne]
      exact fun p hp same => no_input ⟨p.1, (List.of_mem_zip hp).1, same⟩
    rw [table.getElem?_eq v (Word.toNat_lt_succ le), kept]
  gates g hg := by
    have holds : g.Holds (c.denote row) := propagate_holds ordered.order _ g hg
    apply (AndGate.holds_congr ?_).mpr holds
    intro l hl
    have inside := Word.toNat_lt_succ (bounded.gates g hg l hl)
    exact tableValue_of_getElem? (table.getElem?_eq l.var inside)

end Ordered

theorem Bounded.reorder (bounded : c.Bounded) (perm : gates.Perm c.gates) :
    Bounded { c with gates } where
  inputs := bounded.inputs
  outputs := bounded.outputs
  gates g hg := bounded.gates g (perm.mem_iff.mp hg)

namespace Solves

/-- Variables that no gate sets have the same value in all solutions. -/
theorem tableValue_eq (solves : c.Solves row values) (also : c.Solves row others)
    {v : UInt64} (unset : ∀ g ∈ c.gates, g.output.var ≠ v) :
    tableValue values v = tableValue others v := by
  by_cases le : v ≤ c.header.maxVar
  · by_cases driven : c.Drives v
    · rcases driven with rfl | ⟨l, hl, rfl⟩ | ⟨g, hg, same⟩
      · rw [tableValue_of_getElem? (v := 0) solves.constant,
          tableValue_of_getElem? (v := 0) also.constant]
      · obtain ⟨i, hi⟩ := List.getElem?_of_mem hl
        simp only [tableValue, Array.getD_eq_getD_getElem?, solves.inputs i l hi,
          also.inputs i l hi]
      · exact absurd same (unset g hg)
    · rw [tableValue_of_getElem? (solves.undriven v le driven),
        tableValue_of_getElem? (also.undriven v le driven)]
  · have outside := UInt64.lt_iff_toNat_lt.mp (UInt64.not_le.mp le)
    rw [tableValue_of_size_le (by rw [solves.size_eq]; exact outside),
      tableValue_of_size_le (by rw [also.size_eq]; exact outside)]

/-- The equations leave no choice. -/
theorem unique (solves : c.Solves row values) (also : c.Solves row others)
    (order : Topological c.gates) : values = others := by
  have same : tableValue values = tableValue others :=
    eq_of_forall_holds order.notSelf order.notLater solves.gates also.gates
      fun _ unset => solves.tableValue_eq also unset
  have room : values.size ≤ UInt64.size := solves.size_eq ▸ c.header.maxVar.toNat_lt_size
  exact eq_of_tableValue_eq room (solves.size_eq.trans also.size_eq.symm) (congrFun same)

/-- The equations do not depend on the order of the gates. -/
theorem of_reorder (perm : gates.Perm c.gates) (solves : Solves { c with gates } row values) :
    c.Solves row values where
  size_eq := solves.size_eq
  constant := solves.constant
  inputs := solves.inputs
  undriven v le undriven := by
    apply solves.undriven v le
    rintro (zero | input | ⟨g, hg, same⟩)
    · exact undriven (Or.inl zero)
    · exact undriven (Or.inr (Or.inl input))
    · exact undriven (Or.inr (Or.inr ⟨g, perm.mem_iff.mp hg, same⟩))
  gates g hg := solves.gates g (perm.mem_iff.mpr hg)

end Solves

/-- A row of the right length is evaluated to a solution of its equations. -/
theorem Ordered.exists_solves (ordered : c.Ordered) (bounded : c.Bounded)
    (room : c.header.maxVar.toNat + 1 ≤ maxValues) (len : row.length = c.inputs.length) :
    ∃ values, c.simulate row = .ok values ∧ c.Solves row values ∧
      c.evalOutputs row = .ok (c.outputs.map fun l => l.eval (tableValue values l.var)) := by
  obtain ⟨values, simulated, table⟩ := bounded.simulate_eq len room
  refine ⟨values, simulated, ordered.solves_of_tabulates bounded len table, ?_⟩
  rw [bounded.evalOutputs_eq len room]
  congr 1
  apply List.map_congr_left
  intro l hl
  have entry := table.getElem?_eq l.var (Word.toNat_lt_succ (bounded.outputs l hl))
  rw [tableValue_of_getElem? entry]

/-- Orders of the same gates cannot be told apart, whatever the row. -/
theorem Ordered.simulate_reorder (ordered : c.Ordered) (bounded : c.Bounded)
    (room : c.header.maxVar.toNat + 1 ≤ maxValues) (perm : gates.Perm c.gates)
    (order : Topological gates) (row : List Bool) :
    simulate { c with gates } row = c.simulate row := by
  by_cases len : row.length = c.inputs.length
  · obtain ⟨values, simulated, solves, _⟩ := ordered.exists_solves bounded room len
    obtain ⟨others, again, also, _⟩ :=
      (ordered.reorder perm order).exists_solves (bounded.reorder perm) room len
    rw [simulated, again, solves.unique (also.of_reorder perm) ordered.order]
  · rw [simulate, simulate, if_pos len, if_pos len]

/-- Evaluation finds the one table that solves the circuit's equations for a row, and the outputs
are their literals under it. Any two orders of the same gates have the same values and outputs on
every row. -/
theorem simulate_solves (bounded : c.Bounded) (ordered : c.Ordered)
    (room : c.header.maxVar.toNat + 1 ≤ maxValues) :
    (∀ row, row.length = c.inputs.length →
      ∃ values, c.simulate row = .ok values ∧ c.Solves row values ∧
        (∀ others, c.Solves row others → others = values) ∧
        c.evalOutputs row = .ok (c.outputs.map fun l => l.eval (tableValue values l.var))) ∧
    ∀ gates : List AndGate, gates.Perm c.gates → Topological gates →
      ∀ row, simulate { c with gates } row = c.simulate row ∧
        evalOutputs { c with gates } row = c.evalOutputs row := by
  refine ⟨?_, ?_⟩
  · intro row len
    obtain ⟨values, simulated, solves, outputs⟩ := ordered.exists_solves bounded room len
    exact ⟨values, simulated, solves, fun _ also => also.unique solves ordered.order, outputs⟩
  · intro gates perm order row
    have same := ordered.simulate_reorder bounded room perm order row
    exact ⟨same, by rw [evalOutputs, evalOutputs, same]⟩

/-- Three gates that share operands, one of them a constant; the second and the third can be
exchanged. The fourth variable is set by nothing, and the header counts sections wrongly. -/
def sharedCircuit : Circuit where
  header := ⟨6, 0, 0, 0, 0⟩
  inputs := [⟨2⟩, ⟨5⟩]
  latches := []
  outputs := [⟨13⟩, ⟨1⟩, ⟨8⟩]
  gates := [⟨⟨6⟩, ⟨2⟩, ⟨4⟩, 1⟩, ⟨⟨10⟩, ⟨7⟩, ⟨1⟩, 2⟩, ⟨⟨12⟩, ⟨6⟩, ⟨9⟩, 3⟩]
  symbols := .empty
  comments := []

theorem simulate_solves_shared :
    (∃ values, sharedCircuit.simulate [true, true] = .ok values ∧
      sharedCircuit.Solves [true, true] values ∧
      ∀ others, sharedCircuit.Solves [true, true] others → others = values) ∧
    ∀ row, simulate { sharedCircuit with
      gates := [⟨⟨6⟩, ⟨2⟩, ⟨4⟩, 1⟩, ⟨⟨12⟩, ⟨6⟩, ⟨9⟩, 3⟩, ⟨⟨10⟩, ⟨7⟩, ⟨1⟩, 2⟩] } row =
        sharedCircuit.simulate row := by
  have bounded : sharedCircuit.Bounded := ⟨by decide, by decide, by decide⟩
  have ordered : sharedCircuit.Ordered :=
    ⟨by decide, by decide, by decide, by decide, by decide⟩
  obtain ⟨solved, reordered⟩ := simulate_solves bounded ordered (by decide)
  refine ⟨?_, ?_⟩
  · obtain ⟨values, simulated, solves, unique, _⟩ := solved [true, true] rfl
    exact ⟨values, simulated, solves, unique⟩
  · intro row
    exact (reordered _ (by decide) (by decide) row).1

end Circuit

end AndInverter
