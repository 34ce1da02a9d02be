import AndInverter.Proofs.Cnf.FirstFailing
import AndInverter.Proofs.Encoding.Independence
import AndInverter.Proofs.Encoding.Models

/-!
# What a rejected solution violates

The checker rejects a solution with the place of a clause. Three clauses belong to each gate and one
to each assignment that has a variable, so the place names a gate or an assignment: the first gate
that does not hold, or, if all gates hold, the first assignment that the solution contradicts.
Assignments to names without a variable are not counted. Nothing is said about the order of the
gates: the first one is the first that the file declares.
-/
namespace AndInverter

/-- The valuation has the value that is asked of the signal, if the signal has a variable. -/
def SignalNames.Respects (m : SignalNames) (value : UInt64 → Bool) (entry : String × Bool) : Prop :=
  ∀ v, m.varOf entry.1 = some v → value v = entry.2

/-- What the report of a clause and its place says about the gates and the assignments. -/
structure Encoding.Blames (e : Encoding) (c : Circuit) (a : Assignments) (s : Array Bool) (i : Nat)
    (cl : Clause) : Prop where
  clause : FirstFailing (fun cl => Satisfies (valueOf s) cl.lits) e.cnf.clauses.toList i cl
  gate : i < 3 * c.gates.length → ∃ g, FirstFailing (AndGate.Holds (valueOf s)) c.gates (i / 3) g
  assignment : 3 * c.gates.length ≤ i → (∀ g ∈ c.gates, g.Holds (valueOf s)) ∧
    ∃ entry, FirstFailing (e.signals.Respects (valueOf s)) (a.mapped e.signals).entries
      (i - 3 * c.gates.length) entry

namespace Encoding.Encodes
variable {e : Encoding} {c : Circuit} {a : Assignments} {value : UInt64 → Bool} {i : Nat}
  {lits : List Int}

/-- A clause of the gates that fails first belongs to the first gate that does not hold. -/
theorem gate_of_firstFailing (h : e.Encodes c a) (first : FirstFailing (Satisfies value)
    (c.gates.flatMap AndGate.definingClauses) i lits) :
    ∃ g, FirstFailing (AndGate.Holds value) c.gates (i / 3) g := by
  obtain ⟨g, found⟩ := first.of_flatMap (Nat.succ_pos 2) AndGate.length_definingClauses
  refine ⟨g, found.congr ?_⟩
  intro g' hg
  exact AndGate.satisfies_definingClauses_iff (h.encodable g' hg) value

/-- A pin that fails first belongs to the first assignment with a variable that has another
value. -/
theorem assignment_of_firstFailing (h : e.Encodes c a) (first : FirstFailing (Satisfies value)
    (a.entries.filterMap e.signals.pin?) i lits) :
    ∃ entry, FirstFailing (e.signals.Respects value) (a.mapped e.signals).entries i entry := by
  have pinned : ∀ entry ∈ (a.mapped e.signals).entries, (e.signals.pin? entry).isSome = true := by
    intro entry mem
    rw [SignalNames.isSome_pin?]
    exact (List.mem_filter.mp mem).2
  rw [← SignalNames.pins_mapped] at first
  obtain ⟨entry, found⟩ := first.of_filterMap pinned
  refine ⟨entry, found.congr ?_⟩
  rintro ⟨name, b⟩ -
  simp only [SignalNames.Respects, SignalNames.pin?, Option.map_eq_some_iff, forall_exists_index,
    and_imp, forall_apply_eq_imp_iff₂]
  exact forall₂_congr fun v hv => (h.names.nameable hv).satisfies_pin_iff value b

/-- The first clause that fails leads to what is violated. -/
theorem blames_of_firstFailing (h : e.Encodes c a) {s : Array Bool} {cl : Clause}
    (first : FirstFailing (fun cl => Satisfies (valueOf s) cl.lits) e.cnf.clauses.toList i cl) :
    e.Blames c a s i cl := by
  have behind : FirstFailing (Satisfies (valueOf s)) e.cnf.literalLists i cl.lits := first.map
  rw [h.literalLists_eq] at behind
  have count := AndGate.length_flatMap_definingClauses c.gates
  rcases behind.of_append with ⟨inside, here⟩ | ⟨outside, holds, later⟩
  · refine ⟨first, fun _ => h.gate_of_firstFailing here, fun beyond => ?_⟩
    omega
  · rw [count] at later
    refine ⟨first, fun within => ?_, fun _ => ?_⟩
    · omega
    · exact ⟨(h.satisfies_gates_iff (valueOf s)).mp holds, h.assignment_of_firstFailing later⟩

end Encoding.Encodes

/-- A solution that the checker rejects is rejected with the first clause that it does not satisfy.
The place of the clause tells the first gate that does not hold, or that all gates hold and which
assignment is the first one that the solution contradicts. All variables that this is said about
have a place in the solution. -/
theorem verify_blames_first {bytes : ByteArray} {c : Circuit} {a : Assignments} {e : Encoding}
    (readable : (Aag.read bytes).outcome = .ok c) (encoded : (c.encode a).outcome = .ok e)
    (s : Array Bool) (size : s.size = c.header.maxVar.toNat)
    (rejected : e.cnf.verify s ≠ .ok .satisfied) :
    (∃ i cl, e.cnf.verify s = .ok (.violated i cl) ∧ e.Blames c a s i cl) ∧
    (∀ g ∈ c.gates, ∀ l ∈ g.literals, HasPlace s l.var) ∧
    ∀ name v, e.signals.varOf name = some v → HasPlace s v := by
  have fits := Aag.fits_of_read readable
  have encodes := encodes_of_encode encoded
  have length : s.size = e.cnf.numVars.toNat := by rw [encodes.numVars_eq]; exact size
  refine ⟨?_, fun g hg l hl => encodes.gate_hasPlace fits size hg hl,
    fun name v hv => encodes.name_hasPlace fits size hv⟩
  obtain ⟨verdict, checked⟩ := encodes.exists_verify fits size
  cases verdict with
  | satisfied => exact absurd checked rejected
  | violated i cl =>
    have first := (Cnf.verify_eq_violated_iff length (encodes.declared fits)).mp checked
    exact ⟨i, cl, checked, encodes.blames_of_firstFailing first⟩

def blamedText : String := "aag 4 2 0 1 2\n2\n4\n8\n6 2 5\n8 7 4\ni0 a\ni1 b\no0 y\n"

def blamedCircuit : Circuit where
  header := ⟨4, 2, 0, 1, 2⟩
  inputs := [⟨2⟩, ⟨4⟩]
  latches := []
  outputs := [⟨8⟩]
  gates := [⟨⟨6⟩, ⟨2⟩, ⟨5⟩, 5⟩, ⟨⟨8⟩, ⟨7⟩, ⟨4⟩, 6⟩]
  symbols := .ofList [((.input, 0), "a"), ((.input, 1), "b"), ((.output, 0), "y")]
  comments := []

/-- The first assignment names nothing. -/
def blamedAssignments : Assignments :=
  .ofList [("x", true), ("y", false), ("b", true), ("a", false)]

/-- The second clause of the second gate stands at place 4. Behind the six clauses of the gates the
assignment to `b` is the second that has a variable. Both solutions violate later clauses too. -/
theorem verify_blames_second :
    (Aag.read blamedText.toUTF8).outcome = .ok blamedCircuit ∧
    ∃ e, (blamedCircuit.encode blamedAssignments).outcome = .ok e ∧
      (∃ cl, (Verdict.violated 4 cl).message = "Clause 4 [-3, -4] is unsatisfied." ∧
        e.cnf.verify #[true, false, true, true] = .ok (.violated 4 cl) ∧
        e.Blames blamedCircuit blamedAssignments #[true, false, true, true] 4 cl) ∧
      ∃ cl, (Verdict.violated 7 cl).message = "Clause 7 [2] is unsatisfied." ∧
        e.cnf.verify #[true, false, true, false] = .ok (.violated 7 cl) ∧
        e.Blames blamedCircuit blamedAssignments #[true, false, true, false] 7 cl := by
  have readable : (Aag.read blamedText.toUTF8).outcome = .ok blamedCircuit := by decide
  obtain ⟨e, encoded, fourth, seventh⟩ :
      ∃ e, (blamedCircuit.encode blamedAssignments).outcome = .ok e ∧
        e.cnf.verify #[true, false, true, true] =
          .ok (.violated 4 ⟨[-3, -4], by decide, by decide⟩) ∧
        e.cnf.verify #[true, false, true, false] =
          .ok (.violated 7 ⟨[2], by decide, by decide⟩) :=
    ⟨_, rfl, by decide +kernel, by decide +kernel⟩
  have rejects {s : Array Bool} {i : Nat} {cl : Clause}
      (checked : e.cnf.verify s = .ok (.violated i cl)) : e.cnf.verify s ≠ .ok .satisfied := by
    rw [checked]
    exact nofun
  refine ⟨readable, e, encoded, ?_, ?_⟩
  · obtain ⟨⟨i, cl, checked, blames⟩, _⟩ :=
      verify_blames_first readable encoded #[true, false, true, true] rfl (rejects fourth)
    cases checked.symm.trans fourth
    exact ⟨_, rfl, fourth, blames⟩
  · obtain ⟨⟨i, cl, checked, blames⟩, _⟩ :=
      verify_blames_first readable encoded #[true, false, true, false] rfl (rejects seventh)
    cases checked.symm.trans seventh
    exact ⟨_, rfl, seventh, blames⟩

end AndInverter
