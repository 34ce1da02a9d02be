import AndInverter.Proofs.Aag.SymbolNames
import AndInverter.Proofs.Encoding.Arguments
import AndInverter.Proofs.Encoding.Endings

/-!
# Signals that arguments can fix

A symbol takes everything behind the space of its line for the name. An argument takes everything
before its first equals sign, without the blanks around it. The two agree on a name exactly if it
holds no equals sign and does not begin with a blank: such a signal is fixed by one argument, and no
arguments at all reach any other one.
-/
namespace AndInverter
open OrderedMap Text

/-- A name that an argument can give a value to. -/
structure IsArgumentName (name : String) : Prop where
  free : '=' ∉ name.toList
  first : ∀ c ∈ name.toList.head?, isBlank c = false
  last : ∀ c ∈ name.toList.getLast?, isBlank c = false

def argument (name : String) (b : Bool) : String := name ++ if b then "=1" else "=0"

namespace Assignments
variable {name : String} {args : List String} {given : Assignments}

theorem isArgumentName_of_given? {arg : String} {b : Bool} (found : given? arg = some (name, b)) :
    IsArgumentName name := by
  obtain ⟨⟨before, value⟩, cut, found⟩ := Option.bind_eq_some_iff.mp found
  obtain ⟨_, _, same⟩ := Option.map_eq_some_iff.mp found
  obtain ⟨_, whole⟩ := splitFirst_eq_some_iff.mp cut
  cases same
  refine ⟨?_, ?_, ?_⟩
  all_goals rw [String.toList_ofList]
  · exact fun h => whole (trim_subset before h)
  · exact first_of_trim before
  · exact last_of_trim before

/-- Arguments never give a value to another name. -/
theorem isArgumentName_of_mem_keys (accepted : (ofArgs args).outcome = .ok given)
    (mem : name ∈ given.keys) : IsArgumentName name := by
  obtain ⟨_, rfl⟩ := ofArgs_eq_ok_iff.mp accepted
  rw [keys_ofList, mem_firstKeys] at mem
  obtain ⟨⟨_, b⟩, hp, rfl⟩ := List.mem_map.mp mem
  obtain ⟨arg, _, found⟩ := List.mem_filterMap.mp hp
  exact isArgumentName_of_given? found

theorem splitFirst_argument (h : IsArgumentName name) (b : Bool) :
    splitFirst '=' (argument name b).toList = some (name.toList, [if b then '1' else '0']) := by
  have shape : (argument name b).toList = name.toList ++ '=' :: [if b then '1' else '0'] := by
    rw [argument, String.toList_append]
    cases b <;> rfl
  rw [shape, splitFirst_append h.free]

theorem given?_argument (h : IsArgumentName name) (b : Bool) :
    given? (argument name b) = some (name, b) := by
  simp only [given?, splitFirst_argument h, Option.bind_some, trim_eq_self h.first h.last,
    String.ofList_toList]
  cases b <;> rfl

/-- The argument written for a signal reads back as its one assignment. -/
theorem ofArgs_argument (h : IsArgumentName name) (b : Bool) :
    (ofArgs [argument name b]).outcome = .ok (.ofList [(name, b)]) := by
  have no_problem : problem? (argument name b) = none := by
    rw [problem?, splitFirst_argument h]
    cases b <;> rfl
  refine ofArgs_eq_ok_iff.mpr ⟨?_, ?_⟩
  · exact List.forall_mem_singleton.mpr (problem?_eq_none_iff.mp no_problem)
  · rw [List.filterMap_cons, given?_argument h]
    rfl

end Assignments

/-- A signal of a circuit that was read is fixed by one argument if arguments can name it, and no
arguments reach it otherwise. An assignment to it alone makes one clause, on its variable. -/
theorem encode_fixes_signal {bytes : ByteArray} {a : Assignments} {e : Encoding}
    (encoded : (Aag.encode bytes a).outcome = .ok e) {name : String} {v : UInt64}
    (named : e.signals.varOf name = some v) (b : Bool) :
    ('=' ∉ name.toList ∧ (∀ c ∈ name.toList.head?, isBlank c = false) →
      (Assignments.ofArgs [argument name b]).outcome = .ok (.ofList [(name, b)])) ∧
    (¬ ('=' ∉ name.toList ∧ ∀ c ∈ name.toList.head?, isBlank c = false) →
      ∀ args given, (Assignments.ofArgs args).outcome = .ok given → name ∉ given.keys) ∧
    ∀ c, (Aag.read bytes).outcome = .ok c → c.Room (.ofList [(name, b)]) →
      ∃ fixed, (Aag.encode bytes (.ofList [(name, b)])).outcome = .ok fixed ∧
        fixed.applied = 1 ∧ fixed.signals = e.signals ∧
        fixed.cnf.literalLists =
          c.gates.flatMap AndGate.definingClauses ++ [[pinLiteral v b]] := by
  obtain ⟨c, readable, encoded⟩ := Aag.encode_eq_ok_iff.mp encoded
  have signals_eq := (encodes_of_encode encoded).signals_eq
  refine ⟨?_, ?_, ?_⟩
  · rintro ⟨free, first⟩
    -- The name came from a trimmed line, so trimming the argument takes nothing off its end.
    obtain ⟨_, same⟩ := Circuit.signals_eq_ok_iff.mp signals_eq
    rw [← same] at named
    obtain ⟨key, _, symbol, _⟩ := Circuit.mem_namings_iff.mp (SignalNames.mem_of_varOf named)
    have isName := Aag.isSymbolName_of_mem_symbols readable _ symbol
    exact Assignments.ofArgs_argument ⟨free, first, isName.last⟩ b
  · intro unreachable args given accepted mem
    have isName := Assignments.isArgumentName_of_mem_keys accepted mem
    exact unreachable ⟨isName.free, isName.first⟩
  · intro c' read_again room
    obtain rfl : c = c' := Except.ok.inj (readable.symm.trans read_again)
    obtain ⟨_, none_found⟩ := Circuit.encode_eq_ok_iff.mp ⟨e, encoded⟩
    obtain ⟨fixed, again⟩ := Circuit.exists_encode room none_found
    have encodes := encodes_of_encode again
    have same : fixed.signals = e.signals :=
      Except.ok.inj (encodes.signals_eq.symm.trans signals_eq)
    have pins : (OrderedMap.ofList [(name, b)]).entries.filterMap fixed.signals.pin? =
        [[pinLiteral v b]] := by
      have pin : fixed.signals.pin? (name, b) = some [pinLiteral v b] := by
        rw [SignalNames.pin?, same, named]
        rfl
      exact List.filterMap_cons_some pin
    refine ⟨fixed, Aag.encode_eq_ok_iff.mpr ⟨c, readable, again⟩, ?_, same, ?_⟩
    · rw [encodes.applied_eq, pins]
      rfl
    · rw [encodes.literalLists_eq, pins]

/-- An input whose name holds blanks, and a gate without a name. -/
def spacedText : String := "aag 2 1 0 0 1\n2\n4 2 2\ni0 a  b\n"

/-- The argument and the file cut the name alike, and the clause comes behind those of the gate. -/
theorem encode_fixes_spaced :
    (Assignments.ofArgs ["a  b=0"]).outcome = .ok (.ofList [("a  b", false)]) ∧
    ∃ fixed, (Aag.encode spacedText.toUTF8 (.ofList [("a  b", false)])).outcome = .ok fixed ∧
      fixed.applied = 1 ∧
      fixed.cnf.literalLists = [[-1, -1, 2], [1, -2], [1, -2]] ++ [[-1]] := by
  have encoded : ∃ e, (Aag.encode spacedText.toUTF8 .empty).outcome = .ok e ∧
      e.signals.varOf "a  b" = some 1 := ⟨_, rfl, rfl⟩
  obtain ⟨e, encoded, named⟩ := encoded
  obtain ⟨c, readable, gates⟩ : ∃ c, (Aag.read spacedText.toUTF8).outcome = .ok c ∧
      c.gates.flatMap AndGate.definingClauses = [[-1, -1, 2], [1, -2], [1, -2]] ∧
      c.Room (.ofList [("a  b", false)]) := ⟨_, rfl, rfl, by decide⟩
  obtain ⟨read_alike, _, pinned⟩ := encode_fixes_signal encoded named false
  obtain ⟨fixed, again, applied, _, lists⟩ := pinned c readable gates.2
  refine ⟨read_alike ⟨by decide, ?_⟩, fixed, again, applied, gates.1 ▸ lists⟩
  rintro _ ⟨⟩
  rfl

/-- A name with an equals sign is cut in two, and a blank before a name is lost. -/
theorem encode_misses_signals :
    (∃ e, (Aag.encode "aag 1 1 0 0 0\n2\ni0 a=b\n".toUTF8 .empty).outcome = .ok e ∧
      e.signals.varOf "a=b" = some 1) ∧
    (Assignments.ofArgs ["a=b=1"]).outcome = .error ⟨"a=b=1", "b=1", .invalidDigit⟩ ∧
    (Assignments.ofArgs [" x=1"]).outcome = .ok (.ofList [("x", true)]) ∧
    ∃ e, (Aag.encode "aag 1 1 0 0 0\n2\ni0  x\n".toUTF8 (.ofList [("x", true)])).outcome = .ok e ∧
      e.signals.varOf " x" = some 1 ∧ e.applied = 0 :=
  ⟨⟨_, rfl, rfl⟩, rfl, rfl, _, rfl, rfl, rfl⟩

end AndInverter
