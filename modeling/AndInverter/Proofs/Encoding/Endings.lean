import AndInverter.Encoding
import AndInverter.Proofs.Encoding.Layout

/-!
# How encoding ends

Encoding asks for room first, and faults only if there is none. With room it fails at the first gate
that cannot be encoded, else at the first symbol that points behind its section, and otherwise it
succeeds. The assignments decide about the room and nothing else.
-/
namespace AndInverter
open Outcome

namespace Circuit
variable {c : Circuit} {a : Assignments}

/-- There can be room for the clauses that encoding asks room for. -/
def Room (c : Circuit) (a : Assignments) : Prop :=
  3 * c.header.gates.toNat + a.size ≤ Cnf.maxCapacity

instance (c : Circuit) (a : Assignments) : Decidable (c.Room a) :=
  inferInstanceAs (Decidable (_ ≤ _))

theorem withCapacity_of_room (room : c.Room a) :
    Cnf.withCapacity c.header.maxVar (3 * c.header.gates.toNat + a.size) =
      .ok (.empty c.header.maxVar) :=
  if_pos room

/-- What keeps the circuit from being encoded, if there is room. A gate goes before a symbol. -/
def encodingError? (c : Circuit) : Option EncodingError :=
  match c.gates.findSome? AndGate.error? with
  | some e => some (.gate e)
  | none =>
    match c.signals.outcome with
    | .error e => some (.symbol e)
    | .ok _ => none

theorem encode_of_no_room (full : ¬ c.Room a) :
    (c.encode a).outcome = .error (.fault .capacity) := by
  rw [Room] at full
  simp only [encode, Cnf.withCapacity, full, Logged.outcome_bind, Logged.outcome_silent]
  rfl

/-- With room the outcome is that of the gates and then of the symbols; pinning cannot fail. -/
theorem encode_of_room (room : c.Room a) : (c.encode a).outcome =
    match c.gates.findSome? AndGate.error? with
    | some e => .error (.error (.gate e))
    | none =>
      match c.signals.outcome with
      | .error e => .error (.error (.symbol e))
      | .ok m =>
        let pinning := ((Cnf.empty c.header.maxVar).addGates c.gates).cnf.pin m a.entries
        .ok ⟨pinning.cnf, m, pinning.applied⟩ := by
  simp only [encode, withCapacity_of_room room, Logged.outcome_bind, Logged.outcome_silent,
    Logged.outcome_mapError, Cnf.addGates_outcome]
  cases c.gates.findSome? AndGate.error? with
  | some e => rfl
  | none =>
    cases named : c.signals.outcome with
    | error e => rfl
    | ok m =>
      have fault := (Cnf.pin_of_nameable (fun _ _ => (signals_names named).nameable)
        ((Cnf.empty c.header.maxVar).addGates c.gates).cnf a.entries).1
      simp only [Pinning.encoding, Option.map_none, Cnf.ending, Except.mapError, bind, Except.bind,
        fault]

theorem encode_of_error {err : EncodingError} (room : c.Room a)
    (found : c.encodingError? = some err) : (c.encode a).outcome = .error (.error err) := by
  rw [encodingError?] at found
  rw [encode_of_room room]
  split at found
  · cases found
    rfl
  · split at found
    · cases found
      rfl
    · cases found

theorem exists_encode (room : c.Room a) (none_found : c.encodingError? = none) :
    ∃ e, (c.encode a).outcome = .ok e := by
  rw [encodingError?] at none_found
  rw [encode_of_room room]
  split at none_found
  · cases none_found
  · split at none_found
    · cases none_found
    · exact ⟨_, rfl⟩

theorem encode_eq_fault_iff {f : Fault} :
    (c.encode a).outcome = .error (.fault f) ↔ f = .capacity ∧ ¬ c.Room a := by
  by_cases room : c.Room a
  · have no_fault : (c.encode a).outcome ≠ .error (.fault f) := by
      cases found : c.encodingError? with
      | some err => simp [encode_of_error room found]
      | none =>
        obtain ⟨e, encoded⟩ := exists_encode room found
        simp [encoded]
    simp [no_fault, room]
  · simp [encode_of_no_room room, room, eq_comm]

/-- Whether a circuit is encoded depends on the assignments only by the room for them. -/
theorem encode_eq_ok_iff : (∃ e, (c.encode a).outcome = .ok e) ↔
    c.Room a ∧ c.encodingError? = none := by
  constructor
  · rintro ⟨e, encoded⟩
    have room : c.Room a := by
      by_contra full
      rw [encode_of_no_room full] at encoded
      cases encoded
    refine ⟨room, ?_⟩
    cases found : c.encodingError? with
    | none => rfl
    | some err =>
      rw [encode_of_error room found] at encoded
      cases encoded
  · rintro ⟨room, none_found⟩
    exact exists_encode room none_found

end Circuit

namespace Aag
variable {bytes : ByteArray} {c : Circuit} {a : Assignments}

theorem encode_of_read (readable : (read bytes).outcome = .ok c) :
    (encode bytes a).outcome = (c.encode a).outcome.mapError (.map .encoding) := by
  rw [encode, Logged.outcome_bind, Logged.outcome_mapError, readable]
  rfl

theorem encode_of_read_error {e : FormatError} (unreadable : (read bytes).outcome = .error e) :
    (encode bytes a).outcome = .error (.error (.format e)) := by
  rw [encode, Logged.outcome_bind, Logged.outcome_mapError, unreadable]
  rfl

theorem encode_eq_ok_iff {e : Encoding} : (encode bytes a).outcome = .ok e ↔
    ∃ c, (read bytes).outcome = .ok c ∧ (c.encode a).outcome = .ok e := by
  simp only [encode, Logged.outcome_bind, Logged.outcome_mapError, bind_eq_ok_iff,
    mapError_eq_ok_iff]

theorem encode_eq_fault_iff {f : Fault} : (encode bytes a).outcome = .error (.fault f) ↔
    f = .capacity ∧ ∃ c, (read bytes).outcome = .ok c ∧ ¬ c.Room a := by
  cases readable : (read bytes).outcome with
  | error e => simp [encode_of_read_error readable]
  | ok c =>
    have inner : (encode bytes a).outcome = .error (.fault f) ↔
        (c.encode a).outcome = .error (.fault f) := by
      rw [encode_of_read readable]
      cases (c.encode a).outcome with
      | ok e => simp [Except.mapError]
      | error failure => cases failure <;> simp [Except.mapError, Failure.map]
    rw [inner, Circuit.encode_eq_fault_iff]
    simp

end Aag

end AndInverter
