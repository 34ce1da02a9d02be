import AndInverter.Proofs.Encoding.GateClauses
import AndInverter.Proofs.Encoding.Pinning

/-!
# Runs of operations on a clause set

A clause set is built by any operations in any order, and operations that fail midway count too.
What an operation appends is fixed by the operation alone: a relation says it without a clause set.
The clauses that are there are never touched, and whatever is refused leaves no trace. That an
operation fails does not end a run; the next one goes on with the clause set that is left.
-/
namespace AndInverter
open Outcome

namespace Cnf

inductive Step
  | clause (lits : List Int)
  | unit (lit : Int)
  | gate (g : AndGate)
  | gates (all : List AndGate)
  | pins (m : SignalNames) (a : Assignments)
  | numVars (n : UInt64)

def Step.apply (f : Cnf) : Step → Growth (Failure GateError)
  | clause lits => ⟨(f.addClause lits).cnf, (f.addClause lits).outcome.mapError .fault⟩
  | unit lit => ⟨(f.addClause [lit]).cnf, (f.addClause [lit]).outcome.mapError .fault⟩
  | gate g => f.addGate g
  | gates all => f.addGates all
  | pins m a =>
    let pinning := f.pin m a.entries
    ⟨pinning.cnf, match pinning.fault with
      | none => .ok ()
      | some e => .error (.fault e)⟩
  | numVars n => ⟨{ f with numVars := n }, .ok ()⟩

/-- Operations one after the other, however each of them ends. -/
def run (f : Cnf) (steps : List Step) : Cnf := steps.foldl (fun f s => (s.apply f).cnf) f

def Step.IsSingle : Step → Prop
  | clause _ | unit _ | gate _ => True
  | gates _ | pins _ _ | numVars _ => False

/-- How an operation ends and the clauses it appends. Gates and assignments count up to the first
that cannot be taken. -/
inductive Step.Appends : Step → Except (Failure GateError) Unit → List (List Int) → Prop
  | clause {lits : List Int} (legal : Legal lits) : Appends (.clause lits) (.ok ()) [lits]
  | wideClause {lits : List Int} (wide : 3 < lits.length) :
      Appends (.clause lits) (.error (.fault .clauseTooWide)) []
  | zeroClause {lits : List Int} (narrow : lits.length ≤ 3) (zero : 0 ∈ lits) :
      Appends (.clause lits) (.error (.fault .zeroLiteral)) []
  | unit {lit : Int} (nonzero : lit ≠ 0) : Appends (.unit lit) (.ok ()) [[lit]]
  | zeroUnit : Appends (.unit 0) (.error (.fault .zeroLiteral)) []
  | gate {g : AndGate} (encodable : g.error? = none) :
      Appends (.gate g) (.ok ()) g.definingClauses
  | badGate {g : AndGate} {e : GateError} (found : g.error? = some e) :
      Appends (.gate g) (.error (.error e)) []
  | gates {all taken : List AndGate} {stop : Option GateError}
      (upTo : UpTo AndGate.error? all taken stop) :
      Appends (.gates all) (ending (stop.map .error)) (taken.flatMap AndGate.definingClauses)
  | pins {m : SignalNames} {a : Assignments} {taken : List (String × Bool)} {stop : Option Fault}
      (upTo : UpTo m.fault? a.entries taken stop) :
      Appends (.pins m a) (ending (stop.map .fault)) (taken.filterMap m.unit?)
  | numVars (n : UInt64) : Appends (.numVars n) (.ok ()) []

def Step.Grows (s : Step) (f : Cnf) : Prop :=
  ∃ added, s.Appends (s.apply f).outcome added ∧
    (s.apply f).cnf.literalLists = f.literalLists ++ added

section Step
variable {f : Cnf} {lits : List Int}

theorem addClause_of_legal (legal : Legal lits) :
    (f.addClause lits).outcome = .ok () ∧
      (f.addClause lits).cnf.literalLists = f.literalLists ++ [lits] := by
  obtain ⟨c, made, rfl⟩ := ofLits_of_legal legal
  rw [addClause, made]
  exact ⟨rfl, (f.extends_push c).literalLists_eq⟩

theorem addClause_of_wide (wide : 3 < lits.length) :
    f.addClause lits = ⟨f, .error .clauseTooWide⟩ := by
  rw [addClause, Clause.ofLits, dif_neg (Nat.not_le.mpr wide)]

theorem addClause_of_zero (narrow : lits.length ≤ 3) (zero : 0 ∈ lits) :
    f.addClause lits = ⟨f, .error .zeroLiteral⟩ := by
  rw [addClause, Clause.ofLits, dif_pos narrow, dif_pos zero]

theorem grows_clause (f : Cnf) (lits : List Int) : (Step.clause lits).Grows f := by
  rw [Step.Grows, Step.apply]
  by_cases wide : 3 < lits.length
  · rw [addClause_of_wide wide]
    exact ⟨[], .wideClause wide, (List.append_nil _).symm⟩
  · have narrow : lits.length ≤ 3 := Nat.le_of_not_lt wide
    by_cases zero : 0 ∈ lits
    · rw [addClause_of_zero narrow zero]
      exact ⟨[], .zeroClause narrow zero, (List.append_nil _).symm⟩
    · obtain ⟨outcome, grown⟩ := addClause_of_legal (f := f) ⟨narrow, zero⟩
      rw [outcome]
      exact ⟨[lits], .clause ⟨narrow, zero⟩, grown⟩

theorem grows_unit (f : Cnf) (lit : Int) : (Step.unit lit).Grows f := by
  rw [Step.Grows, Step.apply]
  by_cases zero : lit = 0
  · rw [addClause_of_zero (by simp) (by simp [zero]), zero]
    exact ⟨[], .zeroUnit, (List.append_nil _).symm⟩
  · have legal : Legal [lit] := ⟨by simp, by simpa using Ne.symm zero⟩
    obtain ⟨outcome, grown⟩ := addClause_of_legal (f := f) legal
    rw [outcome]
    exact ⟨[[lit]], .unit zero, grown⟩

theorem grows_gate (f : Cnf) (g : AndGate) : (Step.gate g).Grows f := by
  rw [Step.Grows, Step.apply]
  cases found : g.error? with
  | some e =>
    rw [addGate_of_error found]
    exact ⟨[], .badGate found, (List.append_nil _).symm⟩
  | none =>
    obtain ⟨outcome, grown⟩ := addGate_of_encodable (f := f) found
    rw [outcome]
    exact ⟨g.definingClauses, .gate found, grown.literalLists_eq⟩

theorem grows_gates (f : Cnf) (all : List AndGate) : (Step.gates all).Grows f := by
  rw [Step.Grows, Step.apply, addGates_outcome]
  exact ⟨_, .gates (upTo AndGate.error? all), (f.addGates_extends all).literalLists_eq⟩

theorem grows_pins (f : Cnf) (m : SignalNames) (a : Assignments) : (Step.pins m a).Grows f := by
  obtain ⟨taken, upTo, grown, _⟩ := exists_pinned m f a.entries
  have ends : ((Step.pins m a).apply f).outcome =
      ending ((f.pin m a.entries).fault.map .fault) := by
    rw [Step.apply]
    cases (f.pin m a.entries).fault <;> rfl
  rw [Step.Grows, ends]
  exact ⟨_, .pins upTo, grown.literalLists_eq⟩

/-- What an operation does to one clause set it does to every clause set. -/
theorem grows (f : Cnf) (s : Step) : s.Grows f := by
  cases s with
  | clause lits => exact grows_clause f lits
  | unit lit => exact grows_unit f lit
  | gate g => exact grows_gate f g
  | gates all => exact grows_gates f all
  | pins m a => exact grows_pins f m a
  | numVars n => exact ⟨[], .numVars n, (List.append_nil _).symm⟩

/-- No operation takes back a clause, also when it fails midway. -/
theorem apply_extends (f : Cnf) (s : Step) :
    f.clauses.toList <+: (s.apply f).cnf.clauses.toList := by
  obtain ⟨_, _, grown⟩ := grows f s
  exact clauses_prefix grown

theorem run_append (f : Cnf) (steps more : List Step) :
    run f (steps ++ more) = run (run f steps) more := List.foldl_append

/-- Whatever is done, the clauses stay where they are. -/
theorem run_extends (f : Cnf) (steps : List Step) :
    f.clauses.toList <+: (run f steps).clauses.toList := by
  induction steps generalizing f with
  | nil => exact List.prefix_refl _
  | cons s rest ih => exact (apply_extends f s).trans (ih (s.apply f).cnf)

end Step

section Counts
variable {f : Cnf} {s : Step} {outcome : Except (Failure GateError) Unit}
  {added : List (List Int)}

theorem length_filterMap_unit? (m : SignalNames) (entries : List (String × Bool)) :
    (entries.filterMap m.unit?).length =
      entries.countP fun entry => (m.varOf entry.1).isSome := by
  rw [List.length_filterMap_eq_countP]
  refine List.countP_congr fun entry _ => ?_
  rw [SignalNames.unit?, Option.isSome_map]

/-- A single clause or gate that is refused appends nothing. -/
theorem Step.Appends.eq_nil (h : s.Appends outcome added) (single : s.IsSingle)
    (refused : outcome ≠ .ok ()) : added = [] := by
  cases h with
  | clause | unit | gate => exact absurd rfl refused
  | wideClause | zeroClause | zeroUnit | badGate => rfl
  | gates | pins | numVars => cases single

/-- The literals of a gate and their negations are signed words. -/
theorem natAbs_le_of_mem_definingClauses (g : AndGate) :
    ∀ lits ∈ g.definingClauses, ∀ lit ∈ lits, lit.natAbs ≤ Word.maxSigned := by
  intro lits hl lit hlit
  obtain ⟨l, _, rfl | rfl⟩ := AndGate.exists_literal_of_mem_definingClauses hl hlit
  · rw [l.natAbs_signed]
    exact l.toNat_var_le
  · rw [Int.natAbs_neg, l.natAbs_signed]
    exact l.toNat_var_le

end Counts

/-- What the next operation can and cannot do to a clause set. -/
structure GrowsOnly (f : Cnf) : Prop where
  legal : ∀ lits ∈ f.literalLists, lits.length ≤ 3 ∧ 0 ∉ lits
  earlier : ∀ s : Step, f.clauses.toList <+: (s.apply f).cnf.clauses.toList
  grows : ∀ s : Step, s.Grows f
  refused : ∀ s : Step, s.IsSingle → (s.apply f).outcome ≠ .ok () →
    (s.apply f).cnf.clauses = f.clauses
  gate : ∀ g, (f.addGate g).outcome = .ok () → (f.addGate g).cnf.numClauses = f.numClauses + 3
  gate_ne_fault : ∀ g e, (f.addGate g).outcome ≠ .error (.fault e)
  gates : ∀ all, ∃ k, (f.addGates all).cnf.numClauses = f.numClauses + 3 * k
  pins : ∀ m (a : Assignments), ∃ taken, UpTo m.fault? a.entries taken (f.pin m a.entries).fault ∧
    (f.pin m a.entries).cnf.literalLists = f.literalLists ++ taken.filterMap m.unit? ∧
    (f.pin m a.entries).cnf.numClauses =
      f.numClauses + taken.countP fun entry => (m.varOf entry.1).isSome

theorem growsOnly (f : Cnf) : f.GrowsOnly where
  legal := forall_mem_literalLists.mpr fun c _ => ⟨c.length_le, c.ne_zero⟩
  earlier := apply_extends f
  grows := grows f
  refused s single refused := by
    obtain ⟨added, appends, grown⟩ := grows f s
    rw [appends.eq_nil single refused, List.append_nil] at grown
    exact literalLists_inj.mp grown
  gate g accepted := by
    cases found : g.error? with
    | some e => simp [addGate_of_error found] at accepted
    | none => exact numClauses_of_grown (addGate_of_encodable found).2.literalLists_eq
  gate_ne_fault g e := by
    rw [addGate_outcome]
    cases g.error? <;> simp [ending]
  gates all := by
    have count := numClauses_of_grown (f.addGates_extends all).literalLists_eq
    rw [AndGate.length_flatMap_definingClauses] at count
    exact ⟨_, count⟩
  pins m a := by
    obtain ⟨taken, upTo, grown, _⟩ := exists_pinned m f a.entries
    refine ⟨taken, upTo, grown.literalLists_eq, ?_⟩
    rw [numClauses_of_grown grown.literalLists_eq, length_filterMap_unit?]

/-- After every run the clauses are legal, the next operation appends what is its own and nothing
else, and the clauses stay whatever comes later. No gate makes a fault, and the numbers of its
clauses are signed words in both signs. -/
theorem run_append_only (numVars : UInt64) (steps : List Step) :
    (run (.empty numVars) steps).GrowsOnly ∧
    (∀ more, (run (.empty numVars) steps).clauses.toList <+:
      (run (.empty numVars) (steps ++ more)).clauses.toList) ∧
    ∀ g : AndGate, ∀ lits ∈ g.definingClauses, ∀ lit ∈ lits, lit.natAbs ≤ Word.maxSigned := by
  refine ⟨growsOnly _, ?_, natAbs_le_of_mem_definingClauses⟩
  intro more
  rw [run_append]
  exact run_extends _ more

/-- Refused clauses, gates that end in one that cannot be encoded, and assignments that end at the
variable that has no negation. -/
def haltingSteps : List Step :=
  [.clause [], .clause [1, 2, 3, 4], .unit 0, .gate ⟨⟨6⟩, ⟨2⟩, ⟨5⟩, 1⟩,
    .gates [⟨⟨8⟩, ⟨6⟩, ⟨6⟩, 2⟩, ⟨⟨9⟩, ⟨6⟩, ⟨6⟩, 3⟩, ⟨⟨10⟩, ⟨6⟩, ⟨6⟩, 4⟩], .numVars 9,
    .pins ⟨.ofList [("a", 4), ("b", 9223372036854775808)], .empty⟩
      (.ofList [("a", false), ("x", true), ("b", false), ("c", true)])]

/-- Each of them leaves what it did before it stopped. -/
theorem run_append_only_halting :
    (run (.empty 3) haltingSteps).literalLists =
      [[], [-1, 2, 3], [1, -3], [-2, -3], [-3, -3, 4], [3, -4], [3, -4], [-4]] ∧
    (run (.empty 3) haltingSteps).GrowsOnly ∧
    (run (.empty 3) haltingSteps).clauses.toList <+:
      (run (.empty 3) (haltingSteps ++ [.unit (-9)])).clauses.toList := by
  obtain ⟨grows, earlier, _⟩ := run_append_only 3 haltingSteps
  exact ⟨by decide, grows, earlier _⟩

end Cnf

end AndInverter
