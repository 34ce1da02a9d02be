import AndInverter.Encoding.SignalNames
import AndInverter.Proofs.OrderedMap
import AndInverter.Proofs.Outcome

/-!
# The last write wins

The names of a circuit are fixed by a list of pairs, one for each input or output symbol whose
literal is no constant, in the order of the symbol table. A name has the variable of its last pair
and a variable the name of its last pair; both stand where they came first. There are no names
exactly if some input or output symbol points behind its section, and the first one is reported.
-/
namespace AndInverter
open Outcome OrderedMap

namespace Circuit
variable {c : Circuit}

/-- The symbol points behind the end of its section. Latches have no names to give. -/
def Unmatched (c : Circuit) : (Role × UInt64) × String → Prop
  | ((.input, index), _) => c.inputs.length ≤ index.toNat
  | ((.output, index), _) => c.outputs.length ≤ index.toNat
  | ((.latch, _), _) => False

instance (c : Circuit) : DecidablePred c.Unmatched
  | ((.input, index), _) => inferInstanceAs (Decidable (c.inputs.length ≤ index.toNat))
  | ((.output, index), _) => inferInstanceAs (Decidable (c.outputs.length ≤ index.toNat))
  | ((.latch, _), _) => inferInstanceAs (Decidable False)

def FirstUnmatched (c : Circuit) (e : UnmatchedSymbol) : Prop :=
  ∃ before after, c.symbols.entries = before ++ ((e.role, e.index), e.name) :: after ∧
    c.Unmatched ((e.role, e.index), e.name) ∧ ∀ entry ∈ before, ¬ c.Unmatched entry

def literalAt? (c : Circuit) : Role × UInt64 → Option Literal
  | (.input, index) => c.inputs[index.toNat]?
  | (.output, index) => c.outputs[index.toNat]?
  | (.latch, _) => none

/-- The name and the variable that a symbol brings together, if its literal is no constant. -/
def naming? (c : Circuit) (entry : (Role × UInt64) × String) : Option (String × UInt64) :=
  (c.literalAt? entry.1).bind fun l => if l.isConstant then none else some (entry.2, l.var)

def namings (c : Circuit) : List (String × UInt64) := c.symbols.entries.filterMap c.naming?

section Symbols
variable {m : SignalNames} {entry : (Role × UInt64) × String}

def problem? (c : Circuit) (entry : (Role × UInt64) × String) : Option UnmatchedSymbol :=
  if c.Unmatched entry then some ⟨entry.1.1, entry.1.2, entry.2⟩ else none

theorem problem?_eq_none_iff : c.problem? entry = none ↔ ¬ c.Unmatched entry := by
  simp [problem?]

theorem problem?_eq_some_iff {e : UnmatchedSymbol} : c.problem? entry = some e ↔
    c.Unmatched entry ∧ entry = ((e.role, e.index), e.name) := by
  obtain ⟨⟨role, index⟩, name⟩ := entry
  obtain ⟨role', index', name'⟩ := e
  simp [problem?, and_assoc]

theorem unmatched_iff {role : Role} {index : UInt64} {name : String} :
    c.Unmatched ((role, index), name) ↔
      ∃ literals, c.namedLiterals? role = some literals ∧ literals[index.toNat]? = none := by
  cases role with
  | input => simp [Unmatched, namedLiterals?]
  | latch => simp [Unmatched, namedLiterals?]
  | output => simp [Unmatched, namedLiterals?]

theorem literalAt?_eq (c : Circuit) (role : Role) (index : UInt64) :
    c.literalAt? (role, index) = (c.namedLiterals? role).bind fun literals =>
      literals[index.toNat]? := by
  cases role <;> rfl

theorem addSymbol_of_problem {e : UnmatchedSymbol} (found : c.problem? entry = some e) :
    (c.addSymbol m entry).outcome = .error e := by
  obtain ⟨unmatched, rfl⟩ := problem?_eq_some_iff.mp found
  obtain ⟨literals, named, behind⟩ := unmatched_iff.mp unmatched
  simp only [addSymbol, named, behind, Logged.outcome_silent]

theorem addSymbol_of_no_problem (none_found : c.problem? entry = none) :
    (c.addSymbol m entry).outcome =
      .ok ((c.naming? entry).elim m fun pair => m.insert pair.1 pair.2) := by
  obtain ⟨⟨role, index⟩, name⟩ := entry
  rw [naming?, literalAt?_eq]
  cases named : c.namedLiterals? role with
  | none => simp [addSymbol, named]
  | some literals =>
    cases at_index : literals[index.toNat]? with
    | none =>
      have inside := problem?_eq_none_iff.mp none_found
      exact absurd (unmatched_iff.mpr ⟨literals, named, at_index⟩) inside
    | some l => cases constant : l.isConstant <;> simp [addSymbol, named, at_index, constant]

end Symbols

end Circuit

namespace SignalNames

def ofPairs (pairs : List (String × UInt64)) : SignalNames :=
  ⟨.ofList pairs, .ofList (pairs.map Prod.swap)⟩

theorem foldl_insert (pairs : List (String × UInt64)) (m : SignalNames) :
    pairs.foldl (fun m pair => m.insert pair.1 pair.2) m =
      ⟨pairs.foldl (fun vars pair => vars.insert pair.1 pair.2) m.vars,
        (pairs.map Prod.swap).foldl (fun names pair => names.insert pair.1 pair.2) m.names⟩ := by
  induction pairs generalizing m with
  | nil => rfl
  | cons pair rest ih => exact ih (m.insert pair.1 pair.2)

/-- What a list of pairs says about names and variables if the last pair counts. -/
structure LastWins (pairs : List (String × UInt64)) (m : SignalNames) : Prop where
  varOf_eq_some_iff : ∀ name v, m.varOf name = some v ↔ IsLast pairs name v
  varOf_eq_none_iff : ∀ name, m.varOf name = none ↔ ∀ v, (name, v) ∉ pairs
  nameOf_eq_some_iff : ∀ v name, m.nameOf v = some name ↔ IsLast (pairs.map Prod.swap) v name
  nameOf_eq_none_iff : ∀ v, m.nameOf v = none ↔ ∀ name, (name, v) ∉ pairs
  vars_keys : m.vars.keys = firstKeys pairs
  names_keys : m.names.keys = firstKeys (pairs.map Prod.swap)
  vars_nodup : m.vars.keys.Nodup
  names_nodup : m.names.keys.Nodup
  name_mem : ∀ v name, m.nameOf v = some name → name ∈ m.vars.keys
  var_mem : ∀ name v, m.varOf name = some v → v ∈ m.names.keys
  inverse : (∀ name v w, (name, v) ∈ pairs → (name, w) ∈ pairs → v = w) →
    ∀ v name, m.nameOf v = some name → m.varOf name = some v

section LastWins
variable {pairs : List (String × UInt64)} {name : String} {v : UInt64}

theorem mem_swap : (v, name) ∈ pairs.map Prod.swap ↔ (name, v) ∈ pairs := by
  simp

theorem mem_vars_keys : name ∈ (ofPairs pairs).vars.keys ↔ ∃ v, (name, v) ∈ pairs := by
  rw [ofPairs, keys_ofList, mem_firstKeys]
  simp

theorem mem_names_keys : v ∈ (ofPairs pairs).names.keys ↔ ∃ name, (name, v) ∈ pairs := by
  rw [ofPairs, keys_ofList, mem_firstKeys]
  simp

theorem mem_of_nameOf (h : (ofPairs pairs).nameOf v = some name) : (name, v) ∈ pairs :=
  mem_swap.mp (get?_ofList_eq_some_iff.mp h).mem

theorem mem_of_varOf (h : (ofPairs pairs).varOf name = some v) : (name, v) ∈ pairs :=
  (get?_ofList_eq_some_iff.mp h).mem

/-- Inserting pairs one by one lets the last of them count. -/
theorem lastWins_ofPairs (pairs : List (String × UInt64)) : LastWins pairs (ofPairs pairs) where
  varOf_eq_some_iff _ _ := get?_ofList_eq_some_iff
  varOf_eq_none_iff name := by
    rw [varOf, get?_eq_none_iff, mem_vars_keys, not_exists]
  nameOf_eq_some_iff _ _ := get?_ofList_eq_some_iff
  nameOf_eq_none_iff v := by
    rw [nameOf, get?_eq_none_iff, mem_names_keys, not_exists]
  vars_keys := keys_ofList pairs
  names_keys := keys_ofList (pairs.map Prod.swap)
  vars_nodup := (ofPairs pairs).vars.nodup
  names_nodup := (ofPairs pairs).names.nodup
  name_mem v name h := mem_vars_keys.mpr ⟨v, mem_of_nameOf h⟩
  var_mem name v h := mem_names_keys.mpr ⟨name, mem_of_varOf h⟩
  inverse := by
    intro single v name h
    have here := mem_of_nameOf h
    cases found : (ofPairs pairs).varOf name with
    | none => exact absurd (mem_vars_keys.mpr ⟨v, here⟩) (get?_eq_none_iff.mp found)
    | some w => rw [single name w v (mem_of_varOf found) here]

end LastWins

end SignalNames

namespace Circuit
variable {c : Circuit}

/-- Names are collected exactly if no symbol points behind its section. -/
theorem signals_eq_ok_iff {m : SignalNames} : c.signals.outcome = .ok m ↔
    (∀ entry ∈ c.symbols.entries, ¬ c.Unmatched entry) ∧ .ofPairs c.namings = m := by
  rw [signals, Logged.outcome_foldlM, foldlM_eq_ok_iff c.problem? c.naming?
    (fun m pair => m.insert pair.1 pair.2) (fun _ _ _ => addSymbol_of_problem)
    fun _ _ => addSymbol_of_no_problem, SignalNames.foldl_insert]
  simp only [problem?_eq_none_iff]
  rfl

/-- The first symbol that points behind its section is reported. -/
theorem signals_eq_error_iff {e : UnmatchedSymbol} :
    c.signals.outcome = .error e ↔ c.FirstUnmatched e := by
  rw [signals, Logged.outcome_foldlM, foldlM_eq_error_iff c.problem? c.naming?
    (fun m pair => m.insert pair.1 pair.2) (fun _ _ _ => addSymbol_of_problem)
    fun _ _ => addSymbol_of_no_problem]
  simp only [problem?_eq_some_iff, problem?_eq_none_iff]
  constructor
  · rintro ⟨before, entry, after, split, ⟨unmatched, rfl⟩, first⟩
    exact ⟨before, after, split, unmatched, first⟩
  · rintro ⟨before, after, split, unmatched, first⟩
    exact ⟨before, _, after, split, ⟨unmatched, rfl⟩, first⟩

theorem mem_of_literalAt? {key : Role × UInt64} {l : Literal} (found : c.literalAt? key = some l) :
    l ∈ c.inputs ++ c.outputs := by
  obtain ⟨role, index⟩ := key
  cases role with
  | input => exact List.mem_append_left _ (List.mem_of_getElem? found)
  | latch => cases found
  | output => exact List.mem_append_right _ (List.mem_of_getElem? found)

theorem mem_namings_iff {name : String} {v : UInt64} : (name, v) ∈ c.namings ↔
    ∃ key l, (key, name) ∈ c.symbols.entries ∧ c.literalAt? key = some l ∧
      l.isConstant = false ∧ l.var = v := by
  rw [namings, List.mem_filterMap]
  constructor
  · rintro ⟨⟨key, _⟩, symbol, named⟩
    obtain ⟨l, found, named⟩ := Option.bind_eq_some_iff.mp named
    cases constant : l.isConstant with
    | true => simp [constant] at named
    | false =>
      simp only [constant, Bool.false_eq_true, if_false, Option.some.injEq, Prod.mk.injEq] at named
      obtain ⟨rfl, rfl⟩ := named
      exact ⟨key, l, symbol, found, constant, rfl⟩
  · rintro ⟨key, l, symbol, found, constant, rfl⟩
    exact ⟨(key, name), symbol, by simp [naming?, found, constant]⟩

theorem exists_literal_of_mem_namings {name : String} {v : UInt64} (named : (name, v) ∈ c.namings) :
    ∃ l ∈ c.inputs ++ c.outputs, l.isConstant = false ∧ l.var = v := by
  obtain ⟨_, l, _, found, upright, same⟩ := mem_namings_iff.mp named
  exact ⟨l, mem_of_literalAt? found, upright, same⟩

/-- There are names exactly if no input or output symbol points behind its section; otherwise the
first such symbol is reported. The names are those of the last pairs, in the order of the first. -/
theorem signals_last_write_wins (c : Circuit) :
    ((∃ m, c.signals.outcome = .ok m) ↔ ∀ entry ∈ c.symbols.entries, ¬ c.Unmatched entry) ∧
    (∀ e, c.signals.outcome = .error e ↔ c.FirstUnmatched e) ∧
    ∀ m, c.signals.outcome = .ok m → m.LastWins c.namings := by
  refine ⟨?_, fun _ => signals_eq_error_iff, ?_⟩
  · constructor
    · rintro ⟨m, named⟩
      exact (signals_eq_ok_iff.mp named).1
    · intro matched
      exact ⟨_, signals_eq_ok_iff.mpr ⟨matched, rfl⟩⟩
  · intro m named
    obtain ⟨_, rfl⟩ := signals_eq_ok_iff.mp named
    exact SignalNames.lastWins_ofPairs c.namings

/-- A name comes twice, a variable comes twice, and a constant and a latch are named. -/
def sharedNames : Circuit where
  header := ⟨2, 2, 0, 2, 0⟩
  inputs := [⟨2⟩, ⟨4⟩]
  latches := []
  outputs := [⟨3⟩, ⟨1⟩]
  gates := []
  symbols := .ofList [((.input, 0), "a"), ((.latch, 7), "q"), ((.output, 0), "b"),
    ((.output, 1), "one"), ((.input, 1), "a")]
  comments := []

/-- Position and value of a key come from different symbols. With one output less the constant's
symbol is the first that names nothing. -/
theorem signals_last_write_shared :
    (∃ m, sharedNames.signals.outcome = .ok m ∧ m.LastWins [("a", 1), ("b", 1), ("a", 2)] ∧
      m.varOf "a" = some 2 ∧ m.nameOf 1 = some "b" ∧ m.vars.keys = ["a", "b"]) ∧
    { sharedNames with outputs := [⟨3⟩] }.signals.outcome = .error ⟨.output, 1, "one"⟩ := by
  obtain ⟨named, _, lastWins⟩ := signals_last_write_wins sharedNames
  obtain ⟨_, first, _⟩ := signals_last_write_wins { sharedNames with outputs := [⟨3⟩] }
  constructor
  · obtain ⟨m, hm⟩ := named.mpr (by decide)
    have wins : m.LastWins [("a", 1), ("b", 1), ("a", 2)] := lastWins m hm
    refine ⟨m, hm, wins, ?_, ?_, wins.vars_keys⟩
    · exact (wins.varOf_eq_some_iff "a" 2).mpr ⟨[("a", 1), ("b", 1)], [], rfl, by decide⟩
    · exact (wins.nameOf_eq_some_iff 1 "b").mpr ⟨[(1, "a")], [(2, "a")], rfl, by decide⟩
  · exact (first _).mpr ⟨[((.input, 0), "a"), ((.latch, 7), "q"), ((.output, 0), "b")],
      [((.input, 1), "a")], rfl, by decide, by decide⟩

end Circuit

end AndInverter
