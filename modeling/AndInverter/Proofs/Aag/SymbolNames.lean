import AndInverter.Proofs.Aag.RoundTrip
import AndInverter.Proofs.Encoding.SignalNames

/-!
# Names that can be read

The name of a symbol is the end of a trimmed line. So a name that is read is never empty, stands on
one line and does not end in a blank, whatever else it holds; it may begin with a blank. The names
of variables are names of symbols.
-/
namespace AndInverter
open Outcome Text

namespace Aag
variable {text : List Char}

theorem feed_not_mem_nonblankLines {line : Line} (hl : line ∈ nonblankLines text) :
    '\n' ∉ line.text := by
  rw [nonblankLines_eq] at hl
  obtain ⟨entry, kept, rfl⟩ := List.mem_map.mp hl
  exact not_mem_of_mem_lines (List.fst_mem_of_mem_zipIdx (List.mem_filter.mp kept).1)

theorem isSymbolName_of_readSymbol? {raw : List Char} (whole : '\n' ∉ raw) {key : Role × UInt64}
    {name : String} (symbol : readSymbol? (trim raw) = some (key, name)) : IsSymbolName name := by
  obtain ⟨numeral, _, split⟩ := readSymbol?_eq_some_iff.mp symbol
  rw [← List.cons_append] at split
  have last := last_of_trim raw
  rw [split, List.getLast?_append_cons] at last
  refine ⟨?_, ?_, ?_⟩
  · intro empty
    rw [empty] at last
    exact absurd (last ' ' rfl) (by decide)
  · intro feed
    apply whole
    apply trim_subset raw
    rw [split]
    exact List.mem_append_right _ (List.mem_cons_of_mem ' ' feed)
  · intro c hc
    apply last c
    rw [List.getLast?_cons, Option.mem_def.mp hc]
    rfl

/-- Every symbol was read from a trimmed line. -/
theorem exists_line_of_mem_symbols {bytes : ByteArray} {c : Circuit}
    (ok : (read bytes).outcome = .ok c) :
    ∀ entry ∈ c.symbols.entries, ∃ raw, '\n' ∉ raw ∧ readSymbol? (trim raw) = some entry := by
  obtain ⟨text, first, body, s, _, lines_eq, _, sections, assembled⟩ := read_eq_ok_iff.mp ok
  obtain ⟨_, _, _, _, _, rest_eq⟩ := readSections_eq_ok_iff.mp sections
  rw [← assembled]
  apply OrderedMap.forall_mem_ofList
  intro entry hp
  obtain ⟨line, hl, symbol⟩ := List.mem_filterMap.mp hp
  have in_rest := (List.takeWhile_sublist _).subset hl
  rw [← rest_eq] at in_rest
  obtain ⟨whole, hw, rfl⟩ := List.mem_map.mp in_rest
  have in_body := (List.drop_sublist _ body).subset hw
  have in_text : whole ∈ nonblankLines text := lines_eq ▸ List.mem_cons_of_mem first in_body
  exact ⟨whole.text, feed_not_mem_nonblankLines in_text, symbol⟩

/-- Names that were read are not empty, hold no line feed and end in no blank. -/
theorem isSymbolName_of_mem_symbols {bytes : ByteArray} {c : Circuit}
    (ok : (read bytes).outcome = .ok c) : ∀ entry ∈ c.symbols.entries, IsSymbolName entry.2 := by
  intro entry hentry
  obtain ⟨raw, whole, symbol⟩ := exists_line_of_mem_symbols ok entry hentry
  exact isSymbolName_of_readSymbol? whole symbol

end Aag

namespace Circuit
variable {c : Circuit} {m : SignalNames} {p : String → Prop}

/-- What holds of the names of all symbols holds of the names of all variables. -/
theorem signals_forall (named : c.signals.outcome = .ok m)
    (given : ∀ entry ∈ c.symbols.entries, p entry.2) : ∀ entry ∈ m.names.entries, p entry.2 := by
  obtain ⟨_, rfl⟩ := signals_eq_ok_iff.mp named
  apply OrderedMap.forall_mem_ofList
  rintro ⟨v, name⟩ hp
  obtain ⟨key, _, symbol, _⟩ := mem_namings_iff.mp (SignalNames.mem_swap.mp hp)
  exact given (key, name) symbol

end Circuit

end AndInverter
