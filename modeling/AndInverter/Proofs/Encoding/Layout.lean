import AndInverter.Proofs.Encoding.GateClauses
import AndInverter.Proofs.Encoding.Pinning

/-!
# The layout of an encoding

An encoded circuit has three clauses per gate, in gate order, and behind them one unit clause per
assignment that has a variable, in assignment order. If the circuit fits its header, all of them
are clauses over the declared variables.
-/
namespace AndInverter
open Outcome

/-- The encoding consists of the gates' clauses, the names and the pins of the assignments. -/
structure Encoding.Encodes (e : Encoding) (c : Circuit) (a : Assignments) : Prop where
  encodable : ∀ g ∈ c.gates, g.error? = none
  signals_eq : c.signals.outcome = .ok e.signals
  numVars_eq : e.cnf.numVars = c.header.maxVar
  literalLists_eq : e.cnf.literalLists =
    c.gates.flatMap AndGate.definingClauses ++ a.entries.filterMap e.signals.pin?
  applied_eq : e.applied = (a.entries.filterMap e.signals.pin?).length

theorem withCapacity_eq_ok {numVars : UInt64} {capacity : Nat} {f : Cnf}
    (h : Cnf.withCapacity numVars capacity = .ok f) : f = .empty numVars := by
  rw [Cnf.withCapacity] at h
  split at h
  · cases h; rfl
  · cases h

/-- Every encoding that comes out is laid out as it should be. -/
theorem encodes_of_encode {c : Circuit} {a : Assignments} {e : Encoding}
    (h : (c.encode a).outcome = .ok e) : e.Encodes c a := by
  simp only [Circuit.encode, Logged.outcome_bind, Logged.outcome_silent, Logged.outcome_mapError,
    bind_eq_ok_iff, mapError_eq_ok_iff] at h
  obtain ⟨start, room, ⟨⟩, gates, signals, named, pinned⟩ := h
  obtain ⟨encodable, grown⟩ := Cnf.addGates_of_ok gates
  have names := Circuit.signals_names named
  obtain ⟨fault, extended, count⟩ := Cnf.pin_of_nameable (fun _ _ => names.nameable)
    (start.addGates c.gates).cnf a.entries
  simp only [Pinning.encoding, fault] at pinned
  cases pinned
  have whole := grown.trans extended
  cases withCapacity_eq_ok room
  exact ⟨encodable, named, whole.numVars_eq, whole.literalLists_eq, count⟩

namespace Encoding.Encodes
variable {e : Encoding} {c : Circuit} {a : Assignments}

theorem names (h : e.Encodes c a) : c.Names e.signals := Circuit.signals_names h.signals_eq

theorem named (h : e.Encodes c a) {g : AndGate} (hg : g ∈ c.gates) {l : Literal}
    (hl : l ∈ g.literals) : l.isConstant = false :=
  (AndGate.error?_eq_none_iff.mp (h.encodable g hg)).2 l hl

/-- A named variable is declared. -/
theorem var_le (h : e.Encodes c a) (fits : c.Fits) {name : String} {v : UInt64}
    (hv : e.signals.varOf name = some v) : v ≤ c.header.maxVar := by
  obtain ⟨l, hl, _, rfl⟩ := h.names name v hv
  exact fits.var_le hl

/-- Every literal is a declared variable that has a signed form, in one of its signs. -/
theorem exists_var (h : e.Encodes c a) (fits : c.Fits) {lits : List Int}
    (hl : lits ∈ e.cnf.literalLists) {lit : Int} (hlit : lit ∈ lits) :
    ∃ v, Nameable v ∧ v ≤ c.header.maxVar ∧ lit.natAbs = v.toNat := by
  rw [h.literalLists_eq] at hl
  rcases List.mem_append.mp hl with hl | hl
  · obtain ⟨g, hg, hl⟩ := List.mem_flatMap.mp hl
    obtain ⟨l, hlg, signed⟩ := AndGate.exists_literal_of_mem_definingClauses hl hlit
    refine ⟨l.var, nameable_of_literal (h.named hg hlg), fits.gates g hg l hlg, ?_⟩
    rcases signed with rfl | rfl
    · exact l.natAbs_signed
    · rw [Int.natAbs_neg, l.natAbs_signed]
  · obtain ⟨⟨name, b⟩, _, pinned⟩ := List.mem_filterMap.mp hl
    obtain ⟨v, hv, rfl⟩ := Option.map_eq_some_iff.mp pinned
    obtain rfl := List.mem_singleton.mp hlit
    exact ⟨v, h.names.nameable hv, h.var_le fits hv, Nameable.natAbs_pinLiteral v b⟩

/-- All literals of an encoding are within the declared variables. -/
theorem declared (h : e.Encodes c a) (fits : c.Fits) :
    ∀ lits ∈ e.cnf.literalLists, ∀ lit ∈ lits, Declared e.cnf.numVars.toNat lit := by
  intro lits hl lit hlit
  obtain ⟨v, nameable, le, size⟩ := h.exists_var fits hl hlit
  rw [h.numVars_eq, Declared, ← Int.natAbs_ne_zero, size]
  exact ⟨Word.toNat_ne_zero nameable.1, UInt64.le_iff_toNat_le.mp le⟩

/-- Neither a gate nor a pin makes an empty clause. -/
theorem ne_nil (h : e.Encodes c a) : ∀ lits ∈ e.cnf.literalLists, lits ≠ [] := by
  intro lits hl
  rw [h.literalLists_eq] at hl
  rcases List.mem_append.mp hl with hl | hl
  · obtain ⟨g, _, hl⟩ := List.mem_flatMap.mp hl
    simp only [AndGate.definingClauses, List.mem_cons, List.not_mem_nil, or_false] at hl
    rcases hl with rfl | rfl | rfl <;> exact List.cons_ne_nil _ _
  · obtain ⟨⟨name, b⟩, _, pinned⟩ := List.mem_filterMap.mp hl
    obtain ⟨v, _, rfl⟩ := Option.map_eq_some_iff.mp pinned
    exact List.cons_ne_nil _ _

end Encoding.Encodes

end AndInverter
