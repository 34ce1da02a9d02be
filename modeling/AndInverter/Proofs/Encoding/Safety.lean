import AndInverter.Proofs.Circuit.Simulation
import AndInverter.Proofs.Encoding.Endings
import AndInverter.Proofs.Encoding.Models

/-!
# Nothing faults on what was read

The reader checks every literal against the largest declared one, and that check is made once. What
is done with the circuit later relies on it: tables are indexed by variables, variables become
signed words and signed words change their sign. None of this can go wrong on a circuit that was
read, up to the largest counts; encoding only needs room for its clauses and evaluation only room
for its table.
-/
namespace AndInverter
open Word

/-- The integer and its negation are signed words. -/
def Negatable (z : Int) : Prop := z.natAbs ≤ maxSigned

/-- The numbers computed from a circuit are the ones meant. Sums and products stop at the largest
word, variables are signed words, and these change their sign. -/
structure Circuit.StaysInWords (c : Circuit) : Prop where
  bodyLines_eq : c.header.bodyLines.toNat = min (c.header.inputs.toNat + c.header.latches.toNat +
    c.header.outputs.toNat + c.header.gates.toNat) maxWord
  maxLiteral_eq : c.header.maxLiteral.code.toNat = min (2 * c.header.maxVar.toNat + 1) maxWord
  signedVar_eq : ∀ l ∈ c.inputs ++ c.outputs ++ c.gates.flatMap AndGate.literals,
    signedVar l.var = l.var.toNat ∧ Negatable (signedVar l.var) ∧ Negatable l.signed

/-- With room for the table every row of the declared length has values and outputs. -/
def Circuit.Evaluates (c : Circuit) : Prop :=
  c.header.maxVar.toNat + 1 ≤ maxValues → ∀ row : List Bool, row.length = c.header.inputs.toNat →
    (∃ values, c.simulate row = .ok values) ∧ ∃ outputs, c.evalOutputs row = .ok outputs

/-- One to three literals, each a declared variable with a place in a solution, in one of its signs
and not out of the words in the other. -/
structure Clause.Proper (cl : Clause) (maxVar : Nat) : Prop where
  one_le : 1 ≤ cl.lits.length
  le_three : cl.lits.length ≤ 3
  ne_zero : ∀ lit ∈ cl.lits, lit ≠ 0
  natAbs_le : ∀ lit ∈ cl.lits, lit.natAbs ≤ maxVar
  place_lt : ∀ lit ∈ cl.lits, 1 ≤ lit.natAbs ∧ lit.natAbs - 1 < maxVar
  negatable : ∀ lit ∈ cl.lits, Negatable lit

/-- The encoding has proper clauses and names declared variables only, so that every solution of the
declared length has a verdict. -/
structure Encoding.Checkable (e : Encoding) (c : Circuit) : Prop where
  clauses : ∀ cl ∈ e.cnf.clauses.toList, cl.Proper c.header.maxVar.toNat
  vars : ∀ name v, e.signals.varOf name = some v → v ≠ 0 ∧ v ≤ c.header.maxVar ∧
    signedVar v = v.toNat ∧ Negatable (signedVar v)
  names : ∀ v name, e.signals.nameOf v = some name → v ≠ 0 ∧ v ≤ c.header.maxVar
  verified : ∀ s : Array Bool, s.size = c.header.maxVar.toNat →
    ∃ verdict, e.cnf.verify s = .ok verdict

namespace Circuit
variable {c : Circuit}

theorem staysInWords (c : Circuit) : c.StaysInWords where
  bodyLines_eq := c.header.toNat_bodyLines
  maxLiteral_eq := c.header.toNat_code_maxLiteral
  signedVar_eq l _ := by
    have le := l.toNat_var_le
    have same := signedVar_eq_of_le le
    refine ⟨same, ?_, ?_⟩
    · rw [Negatable, same]
      exact le
    · rw [Negatable, l.natAbs_signed]
      exact le

/-- No look-up of an evaluation is out of range. -/
theorem Fits.evaluates (fits : c.Fits) : c.Evaluates := by
  intro room row len
  rw [← fits.inputs_length] at len
  obtain ⟨values, simulated, _⟩ := fits.simulate_eq len room
  exact ⟨⟨values, simulated⟩, _, fits.bounded.evalOutputs_eq len room⟩

end Circuit

namespace Encoding.Encodes
variable {e : Encoding} {c : Circuit} {a : Assignments}

theorem proper (h : e.Encodes c a) (fits : c.Fits) :
    ∀ cl ∈ e.cnf.clauses.toList, cl.Proper c.header.maxVar.toNat := by
  intro cl hcl
  have hl : cl.lits ∈ e.cnf.literalLists := List.mem_map_of_mem hcl
  have each : ∀ lit ∈ cl.lits, lit ≠ 0 ∧ lit.natAbs ≤ c.header.maxVar.toNat ∧ Negatable lit := by
    intro lit hlit
    obtain ⟨v, nameable, le, size⟩ := h.exists_var fits hl hlit
    rw [Negatable, ← Int.natAbs_ne_zero, size]
    exact ⟨toNat_ne_zero nameable.1, UInt64.le_iff_toNat_le.mp le, nameable.2⟩
  refine ⟨List.length_pos_iff.mpr (h.ne_nil _ hl), cl.length_le, ?_, ?_, ?_, ?_⟩
  · exact fun lit hlit => (each lit hlit).1
  · exact fun lit hlit => (each lit hlit).2.1
  · intro lit hlit
    obtain ⟨nonzero, le, _⟩ := each lit hlit
    omega
  · exact fun lit hlit => (each lit hlit).2.2

/-- Every solution of the declared length gets a verdict. -/
theorem checkable (h : e.Encodes c a) (fits : c.Fits) : e.Checkable c where
  clauses := h.proper fits
  vars name v found := by
    have nameable := h.names.nameable found
    have same := signedVar_eq_of_le nameable.2
    rw [Negatable, same]
    exact ⟨nameable.1, h.var_le fits found, rfl, nameable.2⟩
  names v name found := by
    obtain ⟨_, same⟩ := Circuit.signals_eq_ok_iff.mp h.signals_eq
    rw [← same] at found
    obtain ⟨l, hl, named, rfl⟩ :=
      Circuit.exists_literal_of_mem_namings (SignalNames.mem_of_nameOf found)
    exact ⟨(nameable_of_literal named).1, fits.var_le hl⟩
  verified _ size := h.exists_verify fits size

end Encoding.Encodes

/-- Reading and encoding fault exactly if there is no room for the clauses of a circuit that was
read. On such a circuit no number leaves its words, rows are evaluated, and every encoding can be
checked against every solution. That reading has no faults of its own is not proved but typed: it
has no `Fault` among its outcomes, because a line's literals are matched against the shape of its
section and never looked up by their place behind the count. -/
theorem encode_safe (bytes : ByteArray) (a : Assignments) :
    (∀ f, (Aag.encode bytes a).outcome = .error (.fault f) ↔
      f = .capacity ∧ ∃ c, (Aag.read bytes).outcome = .ok c ∧ ¬ c.Room a) ∧
    ∀ c, (Aag.read bytes).outcome = .ok c →
      c.StaysInWords ∧ c.Evaluates ∧ ∀ e, (c.encode a).outcome = .ok e → e.Checkable c := by
  refine ⟨fun f => Aag.encode_eq_fault_iff, ?_⟩
  intro c readable
  have fits := Aag.fits_of_read readable
  refine ⟨c.staysInWords, fits.evaluates, ?_⟩
  intro e encoded
  exact (encodes_of_encode encoded).checkable fits

/-- The most variables there is room for, the largest literal in both signs, and a gate that is an
operand of its own. -/
def crestText : String :=
  "aag 9223372036854775806 1 0 1 1\n2\n18446744073709551613\n" ++
    "18446744073709551612 2 18446744073709551613\no0 y\n"

def crestCircuit : Circuit where
  header := ⟨9223372036854775806, 1, 0, 1, 1⟩
  inputs := [⟨2⟩]
  latches := []
  outputs := [⟨18446744073709551613⟩]
  gates := [⟨⟨18446744073709551612⟩, ⟨2⟩, ⟨18446744073709551613⟩, 4⟩]
  symbols := .ofList [((.output, 0), "y")]
  comments := []

/-- At the largest count with room for a table, rows are still evaluated and solutions checked. -/
theorem encode_safe_crest : (∀ f, (Aag.encode crestText.toUTF8 (.ofList [("y", false)])).outcome ≠
      .error (.fault f)) ∧
    (Aag.read crestText.toUTF8).outcome = .ok crestCircuit ∧
    (∃ outputs, crestCircuit.evalOutputs [true] = .ok outputs) ∧
    ∃ e, (crestCircuit.encode (.ofList [("y", false)])).outcome = .ok e ∧ e.Checkable crestCircuit ∧
      e.cnf.literalLists = [[-1, 9223372036854775806, 9223372036854775806],
        [1, -9223372036854775806], [-9223372036854775806, -9223372036854775806],
        [-9223372036854775806]] := by
  have readable : (Aag.read crestText.toUTF8).outcome = .ok crestCircuit := by decide +kernel
  obtain ⟨faults, safe⟩ := encode_safe crestText.toUTF8 (.ofList [("y", false)])
  obtain ⟨_, evaluates, checkable⟩ := safe crestCircuit readable
  refine ⟨?_, readable, (evaluates (by decide) [true] rfl).2, _, rfl, checkable _ rfl, by decide⟩
  intro f fault
  obtain ⟨_, c, read_again, full⟩ := (faults f).mp fault
  cases readable.symm.trans read_again
  exact full (by decide)

end AndInverter
