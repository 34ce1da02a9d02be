import AndInverter.Proofs.Encoding.Endings

/-!
# What assignments cannot change

Whether a circuit is encoded, with which error it is not, and what its variables are called does not
depend on the assignments, as long as there is room for their clauses. Behind the clauses of the
gates stands one unit clause for each assignment that has a variable, in order; each other one is
told and leaves no trace in the encoding, so that it can as well be left out.
-/
namespace AndInverter
open Outcome

section Errors
variable {g : AndGate} {e : GateError}

def AndGate.RejectedWith (g : AndGate) (e : GateError) : Prop :=
  ∀ f : Cnf, (f.addGate g).outcome = .error (.error e)

def AndGate.Accepted (g : AndGate) : Prop := ∀ f : Cnf, (f.addGate g).outcome = .ok ()

theorem AndGate.error?_eq_some_iff : g.error? = some e ↔ g.RejectedWith e := by
  constructor
  · intro found f
    rw [Cnf.addGate_outcome, found]
    rfl
  · intro rejected
    have alone := rejected (.empty 0)
    rw [Cnf.addGate_outcome] at alone
    cases found : g.error? with
    | none => rw [found] at alone; cases alone
    | some _ => rw [found] at alone; cases alone; rfl

theorem AndGate.error?_eq_none_iff_accepted : g.error? = none ↔ g.Accepted := by
  constructor
  · intro none_found f
    rw [Cnf.addGate_outcome, none_found]
    rfl
  · intro accepted
    have alone := accepted (.empty 0)
    rw [Cnf.addGate_outcome] at alone
    cases found : g.error? with
    | none => rfl
    | some _ => rw [found] at alone; cases alone

namespace Circuit
variable {c : Circuit} {a : Assignments}

def FirstRejected (c : Circuit) (e : GateError) : Prop :=
  ∃ before g after, c.gates = before ++ g :: after ∧ g.RejectedWith e ∧
    ∀ other ∈ before, other.Accepted

/-- The first gate that cannot be added, and if all can be, the first symbol that names nothing. -/
inductive FailsWith (c : Circuit) : EncodingError → Prop
  | gate {e : GateError} (first : c.FirstRejected e) : FailsWith c (.gate e)
  | symbol {e : UnmatchedSymbol} (accepted : ∀ g ∈ c.gates, g.Accepted)
      (first : c.FirstUnmatched e) : FailsWith c (.symbol e)

theorem findSome?_error?_eq_some_iff :
    c.gates.findSome? AndGate.error? = some e ↔ c.FirstRejected e := by
  simp only [List.findSome?_eq_some_iff, FirstRejected, AndGate.error?_eq_some_iff,
    AndGate.error?_eq_none_iff_accepted]

theorem findSome?_error?_eq_none_iff :
    c.gates.findSome? AndGate.error? = none ↔ ∀ g ∈ c.gates, g.Accepted := by
  simp only [List.findSome?_eq_none_iff, AndGate.error?_eq_none_iff_accepted]

/-- Why a circuit cannot be encoded does not depend on what it is encoded into. -/
theorem encodingError?_eq_some_iff {err : EncodingError} :
    c.encodingError? = some err ↔ c.FailsWith err := by
  rw [encodingError?]
  constructor
  · intro found
    split at found
    · next e first =>
      cases found
      exact .gate (findSome?_error?_eq_some_iff.mp first)
    · next none_found =>
      split at found
      · next e failed =>
        cases found
        exact .symbol (findSome?_error?_eq_none_iff.mp none_found) (signals_eq_error_iff.mp failed)
      · cases found
  · intro fails
    cases fails with
    | gate first => rw [findSome?_error?_eq_some_iff.mpr first]
    | symbol accepted first =>
      rw [findSome?_error?_eq_none_iff.mpr accepted, signals_eq_error_iff.mpr first]

/-- With room every failure is the circuit's own. -/
theorem encode_eq_error_iff (room : c.Room a) {failure : Failure EncodingError} :
    (c.encode a).outcome = .error failure ↔ ∃ err, failure = .error err ∧ c.FailsWith err := by
  simp only [← encodingError?_eq_some_iff]
  cases found : c.encodingError? with
  | some err => simp [encode_of_error room found, eq_comm]
  | none =>
    obtain ⟨e, encoded⟩ := exists_encode room found
    simp [encoded]

end Circuit

end Errors

namespace Logged
variable {ε α β : Type}

/-- Whoever goes on tells what was told before, and then the rest. -/
theorem notices_bind_of_ok {x : Logged ε α} {a : α} (ok : x.outcome = .ok a)
    (f : α → Logged ε β) : (x >>= f).notices = x.notices ++ (f a).notices := by
  show (Logged.bind x f).notices = _
  rw [Logged.bind, ok]

end Logged

section Notices
variable {c : Circuit} {a : Assignments} {e : Encoding}

theorem notices_encode (encoded : (c.encode a).outcome = .ok e) : (c.encode a).notices =
    c.signals.notices ++ a.entries.filterMap e.signals.warning? := by
  simp only [Circuit.encode, Logged.outcome_bind, Logged.outcome_silent, Logged.outcome_mapError,
    bind_eq_ok_iff] at encoded
  obtain ⟨start, room, ⟨⟩, gates, m, named, pinned⟩ := encoded
  have names := Circuit.signals_names (mapError_eq_ok_iff.mp named)
  obtain ⟨fault, _⟩ := Cnf.pin_of_nameable (fun _ _ => names.nameable)
    (start.addGates c.gates).cnf a.entries
  simp only [Pinning.encoding, fault] at pinned
  cases pinned
  rw [Circuit.encode, Logged.notices_bind_of_ok room, Logged.notices_bind_of_ok gates,
    Logged.notices_bind_of_ok named]
  exact congrArg (c.signals.notices ++ ·)
    (Cnf.notices_pin_of_nameable (fun _ _ => names.nameable) _ _)

end Notices

section Layout
variable {c : Circuit} {a b : Assignments} {e e' : Encoding}

def Assignments.mapped (m : SignalNames) (a : Assignments) : Assignments where
  entries := a.entries.filter fun entry => (m.varOf entry.1).isSome
  nodup := a.nodup.sublist (List.filter_sublist.map _)

/-- What an encoding holds, and what there is to tell about it. -/
structure Encoding.LaidOut (e : Encoding) (c : Circuit) (a : Assignments) (notices : List Notice) :
    Prop where
  numVars_eq : e.cnf.numVars = c.header.maxVar
  literalLists_eq : e.cnf.literalLists =
    c.gates.flatMap AndGate.definingClauses ++ a.entries.filterMap e.signals.pin?
  numClauses_eq : e.cnf.numClauses = 3 * c.gates.length + e.applied
  applied_eq : e.applied = (a.mapped e.signals).size
  notices_eq : notices = c.signals.notices ++ a.entries.filterMap e.signals.warning?
  told_or_pinned : ∀ entry ∈ a.entries,
    ((∃ v, e.signals.varOf entry.1 = some v ∧
        e.signals.pin? entry = some [pinLiteral v entry.2]) ∧ e.signals.warning? entry = none) ∨
      (e.signals.pin? entry = none ∧ e.signals.warning? entry = some (.unknownSignal entry.1))
  all_counted : e.applied + (a.entries.filterMap e.signals.warning?).length = a.size

/-- Each assignment makes a unit clause or is told. -/
theorem SignalNames.pin?_or_warning? (m : SignalNames) (entry : String × Bool) :
    ((∃ v, m.varOf entry.1 = some v ∧ m.pin? entry = some [pinLiteral v entry.2]) ∧
        m.warning? entry = none) ∨
      (m.pin? entry = none ∧ m.warning? entry = some (.unknownSignal entry.1)) := by
  obtain ⟨name, b⟩ := entry
  rw [pin?, warning?]
  cases found : m.varOf name with
  | none => exact Or.inr ⟨rfl, rfl⟩
  | some v => exact Or.inl ⟨⟨v, rfl, rfl⟩, rfl⟩

theorem SignalNames.isSome_pin? (m : SignalNames) (entry : String × Bool) :
    (m.pin? entry).isSome = (m.varOf entry.1).isSome := Option.isSome_map

theorem SignalNames.length_pins (m : SignalNames) (a : Assignments) :
    (a.entries.filterMap m.pin?).length = (a.mapped m).size := by
  rw [List.length_filterMap_eq_countP, List.countP_eq_length_filter]
  simp only [isSome_pin?]
  rfl

/-- The entries without a variable make no clause. -/
theorem SignalNames.pins_mapped (m : SignalNames) (a : Assignments) :
    (a.mapped m).entries.filterMap m.pin? = a.entries.filterMap m.pin? := by
  simp only [Assignments.mapped, List.filterMap_filter, ← isSome_pin?]
  refine List.filterMap_congr fun entry _ => ?_
  cases m.pin? entry <;> rfl

theorem SignalNames.length_pins_add_warnings (m : SignalNames) (entries : List (String × Bool)) :
    (entries.filterMap m.pin?).length + (entries.filterMap m.warning?).length =
      entries.length := by
  induction entries with
  | nil => rfl
  | cons entry rest ih =>
    rw [List.length_cons, ← ih]
    rcases m.pin?_or_warning? entry with ⟨⟨v, _, pinned⟩, quiet⟩ | ⟨skipped, told⟩
    · rw [List.filterMap_cons_some pinned, List.filterMap_cons_none quiet, List.length_cons]
      omega
    · rw [List.filterMap_cons_none skipped, List.filterMap_cons_some told, List.length_cons]
      omega

theorem laidOut_of_encode (encoded : (c.encode a).outcome = .ok e) :
    e.LaidOut c a (c.encode a).notices := by
  have encodes := encodes_of_encode encoded
  refine ⟨encodes.numVars_eq, encodes.literalLists_eq, ?_, ?_, notices_encode encoded, ?_, ?_⟩
  · rw [← Cnf.length_literalLists, encodes.literalLists_eq, List.length_append,
      AndGate.length_flatMap_definingClauses, encodes.applied_eq]
  · rw [encodes.applied_eq, SignalNames.length_pins]
  · exact fun entry _ => e.signals.pin?_or_warning? entry
  · rw [encodes.applied_eq]
    exact e.signals.length_pins_add_warnings a.entries

/-- An encoding is fixed by the circuit and the pins. -/
theorem Encoding.Encodes.eq_of_pins (h : e.Encodes c a) (h' : e'.Encodes c b)
    (pins : b.entries.filterMap e.signals.pin? = a.entries.filterMap e.signals.pin?) :
    e' = e := by
  have signals : e'.signals = e.signals :=
    Except.ok.inj (h'.signals_eq.symm.trans h.signals_eq)
  have clauses : e'.cnf.clauses = e.cnf.clauses := by
    rw [← Cnf.literalLists_inj, h'.literalLists_eq, h.literalLists_eq, signals, pins]
  have numVars : e'.cnf.numVars = e.cnf.numVars := h'.numVars_eq.trans h.numVars_eq.symm
  have applied : e'.applied = e.applied := by
    rw [h'.applied_eq, h.applied_eq, signals, pins]
  obtain ⟨⟨_, _⟩, _, _⟩ := e
  obtain ⟨⟨_, _⟩, _, _⟩ := e'
  cases signals
  cases clauses
  cases numVars
  cases applied
  rfl

/-- Assignments with the same pins have the same encoding. -/
theorem encode_of_pins (encoded : (c.encode a).outcome = .ok e) (room : c.Room b)
    (pins : b.entries.filterMap e.signals.pin? = a.entries.filterMap e.signals.pin?) :
    (c.encode b).outcome = .ok e := by
  obtain ⟨_, none_found⟩ := Circuit.encode_eq_ok_iff.mp ⟨e, encoded⟩
  obtain ⟨e', again⟩ := Circuit.exists_encode room none_found
  rw [again, (encodes_of_encode encoded).eq_of_pins (encodes_of_encode again) pins]

theorem Circuit.Room.mapped (room : c.Room a) (m : SignalNames) : c.Room (a.mapped m) := by
  have fewer : (a.mapped m).size ≤ a.size := List.length_filter_le _ _
  rw [Circuit.Room] at room ⊢
  omega

/-- Two assignments meet the same failure or the same names. An encoding has the clauses of the
gates and then those of the assignments that have a variable, and these assignments alone make
it. -/
theorem encode_independent (roomA : c.Room a) (roomB : c.Room b) :
    (∀ failure, (c.encode a).outcome = .error failure ↔ (c.encode b).outcome = .error failure) ∧
    (∀ failure, (c.encode a).outcome = .error failure ↔
      ∃ err, failure = .error err ∧ c.FailsWith err) ∧
    (∀ e e', (c.encode a).outcome = .ok e → (c.encode b).outcome = .ok e' →
      e.signals = e'.signals) ∧
    ∀ e, (c.encode a).outcome = .ok e →
      e.LaidOut c a (c.encode a).notices ∧
      (c.encode (a.mapped e.signals)).outcome = .ok e ∧
      (b.mapped e.signals = a.mapped e.signals → (c.encode b).outcome = .ok e) := by
  refine ⟨?_, fun _ => Circuit.encode_eq_error_iff roomA, ?_, ?_⟩
  · intro failure
    rw [Circuit.encode_eq_error_iff roomA, Circuit.encode_eq_error_iff roomB]
  · intro e e' encoded other
    exact Except.ok.inj ((encodes_of_encode encoded).signals_eq.symm.trans
      (encodes_of_encode other).signals_eq)
  · intro e encoded
    refine ⟨laidOut_of_encode encoded, ?_, ?_⟩
    · exact encode_of_pins encoded (roomA.mapped e.signals) (e.signals.pins_mapped a)
    · intro same
      refine encode_of_pins encoded roomB ?_
      rw [← e.signals.pins_mapped b, same, e.signals.pins_mapped a]

/-- Two names for one variable, and a header that announces more gates than there are. -/
def aliasedCircuit : Circuit where
  header := ⟨3, 2, 0, 2, 7⟩
  inputs := [⟨2⟩, ⟨4⟩]
  latches := []
  outputs := [⟨7⟩, ⟨6⟩]
  gates := [⟨⟨6⟩, ⟨2⟩, ⟨5⟩, 6⟩]
  symbols := .ofList [((.input, 0), "a"), ((.output, 0), "y"), ((.output, 1), "z")]
  comments := []

/-- Assignments that contradict each other, between two that name nothing. -/
def aliasedAssignments : Assignments :=
  .ofList [("x", true), ("z", false), ("a", true), ("y", true), ("q", false)]

/-- Pins stand in the order of the assignments, and what names nothing leaves only a notice. With a
constant operand and an output less, the gate is reported and not the symbol, whoever asks. -/
theorem encode_independent_aliased :
    (∃ e, (aliasedCircuit.encode aliasedAssignments).outcome = .ok e ∧
      e.cnf.literalLists = [[-1, 2, 3], [1, -3], [-2, -3], [-3], [1], [3]] ∧
      e.LaidOut aliasedCircuit aliasedAssignments
        [.unknownSignal "x", .unknownSignal "q"] ∧
      (aliasedCircuit.encode (.ofList [("z", false), ("a", true), ("y", true)])).outcome = .ok e) ∧
    ∀ failure, ({ aliasedCircuit with
        outputs := [⟨7⟩], gates := [⟨⟨6⟩, ⟨2⟩, ⟨1⟩, 6⟩] }.encode .empty).outcome = .error failure ↔
      failure = .error (.gate (.constantLiteral 6 ⟨1⟩)) := by
  constructor
  · obtain ⟨_, _, _, laidOut⟩ := encode_independent (c := aliasedCircuit)
      (a := aliasedAssignments) (b := .empty) (by decide) (by decide)
    obtain ⟨laid, alone, _⟩ := laidOut _ rfl
    exact ⟨_, rfl, by decide, laid, alone⟩
  · obtain ⟨_, fails, _⟩ := encode_independent (c := { aliasedCircuit with
      outputs := [⟨7⟩], gates := [⟨⟨6⟩, ⟨2⟩, ⟨1⟩, 6⟩] }) (a := .empty) (b := aliasedAssignments)
      (by decide) (by decide)
    intro failure
    rw [fails]
    constructor
    · rintro ⟨err, rfl, found⟩
      rw [← Circuit.encodingError?_eq_some_iff] at found
      cases found
      rfl
    · rintro rfl
      exact ⟨_, rfl, Circuit.encodingError?_eq_some_iff.mp rfl⟩

end Layout

end AndInverter
