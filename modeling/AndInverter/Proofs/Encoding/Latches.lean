import AndInverter.Circuit.Evaluation
import AndInverter.OutputFiles
import AndInverter.Proofs.Encoding.Endings

/-!
# Latches do not count

Encoding and evaluation look at the largest variable, the inputs, the outputs, the gates, and the
symbols of inputs and outputs in their order. Two circuits that agree in these cannot be told apart
by their encodings or their values, whatever their latches, the symbols of latches, their comments
and the other counts of their headers. A symbol of a latch is passed over wherever it stands, also
if there is no such latch: it takes no place among the names and hides no symbol behind it. The
announced number of gates matters only where there is no room for so many.
-/
namespace AndInverter

namespace Circuit
variable {c d : Circuit}

def namedSymbols (c : Circuit) : List ((Role × UInt64) × String) :=
  c.symbols.entries.filter fun entry => entry.1.1 ≠ .latch

/-- The circuits differ at most in what belongs to latches, in comments and in counts that do not
bound the variables. -/
structure SameLogic (c d : Circuit) : Prop where
  maxVar : c.header.maxVar = d.header.maxVar
  inputs : c.inputs = d.inputs
  outputs : c.outputs = d.outputs
  gates : c.gates = d.gates
  symbols : c.namedSymbols = d.namedSymbols

theorem addSymbol_latch (c : Circuit) (m : SignalNames) (index : UInt64) (name : String) :
    c.addSymbol m ((.latch, index), name) = pure m := rfl

/-- The names come from the symbols of inputs and outputs alone. -/
theorem signals_eq_foldlM_namedSymbols (c : Circuit) :
    c.signals = c.namedSymbols.foldlM c.addSymbol .empty := by
  have passes : c.addSymbol = fun m entry =>
      if decide (entry.1.1 ≠ .latch) then c.addSymbol m entry else pure m := by
    funext m ⟨⟨role, index⟩, name⟩
    cases role with
    | input => rfl
    | output => rfl
    | latch => exact c.addSymbol_latch m index name
  rw [namedSymbols, List.foldlM_filter, ← passes, signals]

namespace SameLogic

/-- Symbols are added alike to circuits that differ in latches only. -/
theorem addSymbol_eq (same : c.SameLogic d) : c.addSymbol = d.addSymbol := by
  have literals : c.namedLiterals? = d.namedLiterals? := by
    funext role
    cases role with
    | input => exact congrArg some same.inputs
    | output => exact congrArg some same.outputs
    | latch => rfl
  funext m entry
  rw [addSymbol, addSymbol, literals]

/-- The same names, notices and dangling symbol. -/
theorem signals_eq (same : c.SameLogic d) : c.signals = d.signals := by
  rw [signals_eq_foldlM_namedSymbols, signals_eq_foldlM_namedSymbols, same.symbols,
    same.addSymbol_eq]

/-- Circuits that differ in latches only are encoded alike, with the same notices. -/
theorem encode_eq {a : Assignments} (same : c.SameLogic d) (roomC : c.Room a)
    (roomD : d.Room a) : c.encode a = d.encode a := by
  have started : Cnf.withCapacity c.header.maxVar (3 * c.header.gates.toNat + a.size) =
      Cnf.withCapacity d.header.maxVar (3 * d.header.gates.toNat + a.size) := by
    rw [withCapacity_of_room roomC, withCapacity_of_room roomD, same.maxVar]
  rw [encode, encode, started, same.gates, same.signals_eq]

theorem simulate_eq (same : c.SameLogic d) (row : List Bool) :
    c.simulate row = d.simulate row := by
  have driven : c.setInputs row = d.setInputs row := by
    funext values
    rw [setInputs, setInputs, same.inputs]
  rw [simulate, simulate, same.inputs, same.maxVar, same.gates, driven]

theorem evalOutputs_eq (same : c.SameLogic d) (row : List Bool) :
    c.evalOutputs row = d.evalOutputs row := by
  rw [evalOutputs, evalOutputs, same.simulate_eq row, same.outputs]

end SameLogic

end Circuit

/-- Circuits with the same logic are encoded with the same end and the same notices, leave the same
bytes in the files, and have the same values on every row. -/
theorem encode_ignores_latches {c d : Circuit} (same : c.SameLogic d) :
    (∀ a, c.Room a → d.Room a → c.encode a = d.encode a ∧
      ∀ e e', (c.encode a).outcome = .ok e → (d.encode a).outcome = .ok e' →
        OutputFiles.render e.cnf e.signals.names = OutputFiles.render e'.cnf e'.signals.names) ∧
    ∀ row, c.simulate row = d.simulate row ∧ c.evalOutputs row = d.evalOutputs row := by
  refine ⟨?_, fun row => ⟨same.simulate_eq row, same.evalOutputs_eq row⟩⟩
  intro a roomC roomD
  have runs := same.encode_eq roomC roomD
  refine ⟨runs, ?_⟩
  intro e e' encoded encoded'
  rw [runs, encoded'] at encoded
  cases encoded
  rfl

/-- Two latches, and symbols of latches before, between and behind the others. One of them has no
latch, and all take names that inputs and outputs have too. -/
def latchedCircuit : Circuit where
  header := ⟨5, 2, 2, 1, 1⟩
  inputs := [⟨2⟩, ⟨4⟩]
  latches := [⟨⟨6⟩, ⟨10⟩, none⟩, ⟨⟨8⟩, ⟨6⟩, some ⟨8⟩⟩]
  outputs := [⟨11⟩]
  gates := [⟨⟨10⟩, ⟨2⟩, ⟨7⟩, 7⟩]
  symbols := .ofList [((.latch, 7), "y"), ((.input, 1), "b"), ((.latch, 0), "a"),
    ((.output, 0), "y"), ((.input, 0), "a"), ((.latch, 1), "b")]
  comments := ["a shift register"]

/-- The same logic without latches, under a header that announces other sections. -/
def latchlessCircuit : Circuit where
  header := ⟨5, 0, 0, 3, 40⟩
  inputs := [⟨2⟩, ⟨4⟩]
  latches := []
  outputs := [⟨11⟩]
  gates := [⟨⟨10⟩, ⟨2⟩, ⟨7⟩, 7⟩]
  symbols := .ofList [((.input, 1), "b"), ((.output, 0), "y"), ((.input, 0), "a")]
  comments := []

/-- The names of latches leave no trace. Without the output its symbol is the one that dangles, and
not the symbol of the latch that is not there. -/
theorem encode_ignores_latches_interleaved :
    (latchedCircuit.encode (.ofList [("y", true)]) =
        latchlessCircuit.encode (.ofList [("y", true)]) ∧
      ∃ e, (latchedCircuit.encode (.ofList [("y", true)])).outcome = .ok e ∧
        e.cnf.literalLists = [[-1, 3, 5], [1, -5], [-3, -5], [5]] ∧
        e.signals.names.entries = [(2, "b"), (5, "y"), (1, "a")]) ∧
    latchedCircuit.simulate [true, false] = latchlessCircuit.simulate [true, false] ∧
    latchlessCircuit.evalOutputs [true, false] = .ok [false] ∧
    { latchedCircuit with outputs := [] }.encode .empty =
      { latchlessCircuit with outputs := [] }.encode .empty ∧
    ({ latchlessCircuit with outputs := [] }.encode .empty).outcome =
      .error (.error (.symbol ⟨.output, 0, "y"⟩)) := by
  have symbols : latchedCircuit.namedSymbols = latchlessCircuit.namedSymbols := by decide
  obtain ⟨alike, values⟩ := encode_ignores_latches
    (c := latchedCircuit) (d := latchlessCircuit) ⟨rfl, rfl, rfl, rfl, symbols⟩
  obtain ⟨unmatched, _⟩ := encode_ignores_latches
    (c := { latchedCircuit with outputs := [] }) (d := { latchlessCircuit with outputs := [] })
    ⟨rfl, rfl, rfl, rfl, symbols⟩
  obtain ⟨runs, _⟩ := alike (.ofList [("y", true)]) (by decide) (by decide)
  obtain ⟨fails, _⟩ := unmatched .empty (by decide) (by decide)
  exact ⟨⟨runs, _, rfl, by decide, by decide⟩, (values [true, false]).1, by decide, fails, rfl⟩

end AndInverter
