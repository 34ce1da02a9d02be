import AndInverter.Encoding
import AndInverter.Proofs.Cnf.Satisfaction
import AndInverter.Proofs.Encoding.SignalNames

/-!
# Names and the clauses that pin them

Each assignment to a name that has a variable becomes one unit clause, and each other one is told
instead. With names given by hand this can stop at variable 0 and at the smallest signed word. A
circuit names only variables of its inputs and outputs, never the constant. Such variables have a
signed form in both signs, so pinning them cannot fail.
-/
namespace AndInverter
open Outcome

/-- The variable can stand in a clause in both signs. -/
def Nameable (v : UInt64) : Prop := v ≠ 0 ∧ v.toNat ≤ Word.maxSigned

theorem nameable_of_literal {l : Literal} (named : l.isConstant = false) : Nameable l.var := by
  refine ⟨?_, l.toNat_var_le⟩
  intro zero
  have constant : l.isConstant = true := by rw [Literal.isConstant, zero]; rfl
  rw [named] at constant
  cases constant

/-- Every name has the variable of an input or output that is no constant. -/
def Circuit.Names (c : Circuit) (m : SignalNames) : Prop :=
  ∀ name v, m.varOf name = some v → ∃ l ∈ c.inputs ++ c.outputs, l.isConstant = false ∧ l.var = v

namespace Circuit
variable {c : Circuit} {m : SignalNames}

/-- No name stands for a constant. -/
theorem signals_names (h : c.signals.outcome = .ok m) : c.Names m := by
  obtain ⟨_, rfl⟩ := signals_eq_ok_iff.mp h
  intro name v found
  exact exists_literal_of_mem_namings (SignalNames.mem_of_varOf found)

theorem Names.nameable (names : c.Names m) {name : String} {v : UInt64}
    (h : m.varOf name = some v) : Nameable v := by
  obtain ⟨l, _, named, rfl⟩ := names name v h
  exact nameable_of_literal named

end Circuit

def pinLiteral (v : UInt64) (b : Bool) : Int := if b then v.toNat else -(v.toNat : Int)

def SignalNames.pin? (m : SignalNames) : String × Bool → Option (List Int)
  | (name, b) => (m.varOf name).map fun v => [pinLiteral v b]

/-- Variables within the signed words are read as themselves. -/
theorem signedVar_eq_of_le {v : UInt64} (le : v.toNat ≤ Word.maxSigned) :
    signedVar v = v.toNat := by
  rw [Word.maxSigned] at le
  apply Int.bmod_eq_of_le_mul_two
  · simp only [UInt64.size]; omega
  · simp only [UInt64.size]; omega

namespace Nameable
variable {v : UInt64}

theorem natAbs_pinLiteral (v : UInt64) (b : Bool) : (pinLiteral v b).natAbs = v.toNat := by
  rw [pinLiteral]
  split <;> omega

/-- A pin holds exactly if the variable has the value. -/
theorem satisfies_pin_iff (h : Nameable v) (value : UInt64 → Bool) (b : Bool) :
    Satisfies value [pinLiteral v b] ↔ value v = b := by
  have pos : 0 < v.toNat := Nat.pos_of_ne_zero (Word.toNat_ne_zero h.1)
  rw [satisfies_cons, signedTrue, natAbs_pinLiteral, UInt64.ofNat_toNat, pinLiteral]
  cases b <;> simp [show ¬ (v.toNat : Int) < 0 by omega, pos]

end Nameable

/-- The literal that a unit clause has for a variable and its value. Variables are read as signed
words, whether they have a place in them or not. -/
def wordLiteral (v : UInt64) (b : Bool) : Int := if b then signedVar v else -signedVar v

/-- Variable 0 has no literal, and the smallest signed word has no negation. -/
def pinFault? (v : UInt64) (b : Bool) : Option Fault :=
  if v = 0 then some .zeroLiteral
  else if v.toNat = Word.maxSigned + 1 ∧ b = false then some .overflow
  else none

section Unit
variable {v : UInt64} {b : Bool}

/-- Variables beyond the signed words are read as negative ones. -/
theorem signedVar_eq_of_lt (lt : Word.maxSigned < v.toNat) :
    signedVar v = v.toNat - (UInt64.size : Int) := by
  have bound := v.toNat_lt_size
  have around : signedVar v = Int.bmod (v.toNat - (UInt64.size : Int)) UInt64.size :=
    (Int.sub_bmod_right v.toNat UInt64.size).symm
  simp only [Word.maxSigned, UInt64.size] at lt bound
  rw [around]
  apply Int.bmod_eq_of_le_mul_two
  · simp only [UInt64.size]; omega
  · simp only [UInt64.size]; omega

theorem signedVar_eq_zero_iff : signedVar v = 0 ↔ v = 0 := by
  have bound := v.toNat_lt_size
  rw [← UInt64.toNat_inj, UInt64.toNat_zero]
  by_cases le : v.toNat ≤ Word.maxSigned
  · rw [signedVar_eq_of_le le]
    omega
  · rw [signedVar_eq_of_lt (Nat.lt_of_not_le le)]
    omega

theorem signedVar_eq_smallest_iff :
    signedVar v = Int.negSucc Word.maxSigned ↔ v.toNat = Word.maxSigned + 1 := by
  by_cases le : v.toNat ≤ Word.maxSigned
  · rw [signedVar_eq_of_le le]
    omega
  · rw [signedVar_eq_of_lt (Nat.lt_of_not_le le)]
    simp only [Word.maxSigned, UInt64.size]
    omega

theorem wordLiteral_ne_zero (nonzero : v ≠ 0) : wordLiteral v b ≠ 0 := by
  have word := signedVar_eq_zero_iff.not.mpr nonzero
  rw [wordLiteral]
  split <;> omega

theorem unitLiteral_eq_ok (fits : ¬ (v.toNat = Word.maxSigned + 1 ∧ b = false)) :
    unitLiteral v b = .ok (wordLiteral v b) := by
  rw [unitLiteral, wordLiteral]
  cases b with
  | true => rw [if_pos rfl, if_pos rfl]
  | false =>
    have negatable := signedVar_eq_smallest_iff.not.mpr fun top => fits ⟨top, rfl⟩
    rw [if_neg Bool.false_ne_true, if_neg negatable, if_neg Bool.false_ne_true]

theorem unitLiteral_eq_error (top : v.toNat = Word.maxSigned + 1) :
    unitLiteral v false = .error .overflow := by
  rw [unitLiteral, if_neg Bool.false_ne_true, if_pos (signedVar_eq_smallest_iff.mpr top)]

theorem exists_unit (clear : pinFault? v b = none) :
    ∃ c : Clause, (unitLiteral v b >>= fun lit => Clause.ofLits [lit]) = .ok c ∧
      c.lits = [wordLiteral v b] := by
  rw [pinFault?] at clear
  split at clear
  · cases clear
  · next nonzero =>
    split at clear
    · cases clear
    · next fits =>
      have legal : Cnf.Legal [wordLiteral v b] :=
        ⟨by simp, by simp [(wordLiteral_ne_zero (b := b) nonzero).symm]⟩
      rw [unitLiteral_eq_ok fits]
      exact Cnf.ofLits_of_legal legal

theorem unit_of_fault {e : Fault} (found : pinFault? v b = some e) :
    (unitLiteral v b >>= fun lit => Clause.ofLits [lit]) = .error e := by
  rw [pinFault?] at found
  split at found
  · next zero =>
    cases found
    have fits : ¬ (v.toNat = Word.maxSigned + 1 ∧ b = false) := by
      rw [zero]
      exact fun top => absurd top.1 (by decide)
    have nothing : wordLiteral v b = 0 := by
      rw [wordLiteral, signedVar_eq_zero_iff.mpr zero]
      exact ite_self 0
    rw [unitLiteral_eq_ok fits, nothing]
    rfl
  · split at found
    · next top =>
      cases found
      rw [top.2, unitLiteral_eq_error top.1]
      rfl
    · cases found

end Unit

namespace SignalNames

def unit? (m : SignalNames) : String × Bool → Option (List Int)
  | (name, b) => (m.varOf name).map fun v => [wordLiteral v b]

def fault? (m : SignalNames) : String × Bool → Option Fault
  | (name, b) => (m.varOf name).bind fun v => pinFault? v b

def warning? (m : SignalNames) : String × Bool → Option Notice
  | (name, _) => if (m.varOf name).isNone then some (.unknownSignal name) else none

end SignalNames

/-- The variable of a name can stand in a clause, so nothing keeps it from being pinned. -/
theorem Nameable.pinFault?_eq_none {v : UInt64} (h : Nameable v) (b : Bool) :
    pinFault? v b = none := by
  have le := h.2
  rw [pinFault?, if_neg h.1, if_neg (by omega)]

theorem Nameable.wordLiteral_eq {v : UInt64} (h : Nameable v) (b : Bool) :
    wordLiteral v b = pinLiteral v b := by
  rw [wordLiteral, signedVar_eq_of_le h.2, pinLiteral]

namespace Cnf

section Pinned
variable {m : SignalNames} {f : Cnf} {rest pinned : List (String × Bool)} {name : String} {b : Bool}
  {v : UInt64}

/-- Assignments are pinned up to the first that cannot be. Each one that has a variable adds its
unit clause, and each other one is told. -/
structure PinnedUpTo (m : SignalNames) (f : Cnf) (entries pinned : List (String × Bool))
    (p : Pinning) : Prop where
  upTo : UpTo m.fault? entries pinned p.fault
  grown : f.Extends p.cnf (pinned.filterMap m.unit?)
  applied_eq : p.applied = (pinned.filterMap m.unit?).length
  notices_eq : p.notices = pinned.filterMap m.warning?

theorem pinnedUpTo_skip (found : m.varOf name = none)
    (later : PinnedUpTo m f rest pinned (f.pin m rest)) :
    PinnedUpTo m f ((name, b) :: rest) ((name, b) :: pinned) (f.pin m ((name, b) :: rest)) := by
  obtain ⟨upTo, grown, count, told⟩ := later
  have clear : m.fault? (name, b) = none := by rw [SignalNames.fault?, found]; rfl
  have skipped : m.unit? (name, b) = none := by rw [SignalNames.unit?, found]; rfl
  have warned : m.warning? (name, b) = some (.unknownSignal name) := by
    rw [SignalNames.warning?, found]; rfl
  simp only [pin, found]
  refine ⟨upTo.cons clear, ?_, ?_, ?_⟩
  · rwa [List.filterMap_cons_none skipped]
  · rwa [List.filterMap_cons_none skipped]
  · rw [List.filterMap_cons_some warned, told]

theorem pinnedUpTo_stop {e : Fault} (found : m.varOf name = some v)
    (problem : pinFault? v b = some e) :
    PinnedUpTo m f ((name, b) :: rest) [] (f.pin m ((name, b) :: rest)) := by
  have fault : m.fault? (name, b) = some e := by rw [SignalNames.fault?, found]; exact problem
  simp only [pin, found, unit_of_fault problem]
  exact ⟨.here fault rest, .refl f, rfl, rfl⟩

theorem pinnedUpTo_unit {c : Clause} (found : m.varOf name = some v)
    (clear : pinFault? v b = none)
    (unit : (unitLiteral v b >>= fun lit => Clause.ofLits [lit]) = .ok c)
    (lits_eq : c.lits = [wordLiteral v b])
    (later : PinnedUpTo m (f.push c) rest pinned ((f.push c).pin m rest)) :
    PinnedUpTo m f ((name, b) :: rest) ((name, b) :: pinned) (f.pin m ((name, b) :: rest)) := by
  obtain ⟨upTo, grown, count, told⟩ := later
  have fault : m.fault? (name, b) = none := by rw [SignalNames.fault?, found]; exact clear
  have added : m.unit? (name, b) = some c.lits := by rw [SignalNames.unit?, found, lits_eq]; rfl
  have quiet : m.warning? (name, b) = none := by rw [SignalNames.warning?, found]; rfl
  simp only [pin, found, unit]
  refine ⟨upTo.cons fault, ?_, ?_, ?_⟩
  · rw [List.filterMap_cons_some added]
    exact (f.extends_push c).trans grown
  · rw [List.filterMap_cons_some added, List.length_cons, count]
  · rw [List.filterMap_cons_none quiet, told]

/-- Whatever the assignments, a first part of them is pinned. -/
theorem exists_pinned (m : SignalNames) (f : Cnf) (entries : List (String × Bool)) :
    ∃ pinned, PinnedUpTo m f entries pinned (f.pin m entries) := by
  induction entries generalizing f with
  | nil => exact ⟨[], .all (by simp), .refl f, rfl, rfl⟩
  | cons entry rest ih =>
    obtain ⟨name, b⟩ := entry
    cases found : m.varOf name with
    | none =>
      obtain ⟨pinned, later⟩ := ih f
      exact ⟨_, pinnedUpTo_skip found later⟩
    | some v =>
      cases problem : pinFault? v b with
      | some e => exact ⟨_, pinnedUpTo_stop found problem⟩
      | none =>
        obtain ⟨c, unit, lits_eq⟩ := exists_unit problem
        obtain ⟨pinned, later⟩ := ih (f.push c)
        exact ⟨_, pinnedUpTo_unit found problem unit lits_eq later⟩

end Pinned

section Nameable
variable {m : SignalNames} (nameable : ∀ name v, m.varOf name = some v → Nameable v)
include nameable

theorem fault?_of_nameable (entry : String × Bool) : m.fault? entry = none := by
  obtain ⟨name, b⟩ := entry
  rw [SignalNames.fault?]
  cases found : m.varOf name with
  | none => rfl
  | some v => exact (nameable name v found).pinFault?_eq_none b

theorem unit?_of_nameable : m.unit? = m.pin? := by
  funext ⟨name, b⟩
  rw [SignalNames.unit?, SignalNames.pin?]
  cases found : m.varOf name with
  | none => rw [Option.map_none, Option.map_none]
  | some v => exact congrArg (fun lit => some [lit]) ((nameable name v found).wordLiteral_eq b)

/-- Pinning nameable variables never fails: it appends a unit clause per assignment that has a
variable and counts them. -/
theorem pin_of_nameable (f : Cnf) (entries : List (String × Bool)) :
    (f.pin m entries).fault = none ∧
      f.Extends (f.pin m entries).cnf (entries.filterMap m.pin?) ∧
      (f.pin m entries).applied = (entries.filterMap m.pin?).length := by
  obtain ⟨pinned, upTo, grown, count, _⟩ := exists_pinned m f entries
  obtain ⟨rfl, fault⟩ := upTo.eq_of_forall fun entry _ => fault?_of_nameable nameable entry
  rw [unit?_of_nameable nameable] at grown count
  exact ⟨fault, grown, count⟩

/-- It tells of the others, one by one. -/
theorem notices_pin_of_nameable (f : Cnf) (entries : List (String × Bool)) :
    (f.pin m entries).notices = entries.filterMap m.warning? := by
  obtain ⟨pinned, upTo, _, _, told⟩ := exists_pinned m f entries
  obtain ⟨rfl, _⟩ := upTo.eq_of_forall fun entry _ => fault?_of_nameable nameable entry
  exact told

end Nameable

end Cnf

end AndInverter
