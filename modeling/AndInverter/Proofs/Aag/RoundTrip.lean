import AndInverter.Proofs.Aag.Acceptance
import AndInverter.Proofs.Aag.Printing

/-!
# Printed circuits read back

A well-formed circuit is what its canonical text says: sections of the announced lengths, gates on
the lines where the text has them, symbols in their order, and comments however much they look like
symbols or like another comment mark. Names may begin with blanks, but trimming takes what they end
with, so they must not end with one.
-/
namespace AndInverter
open Outcome Text

/-- A name that a line of the symbol table can give. -/
structure IsSymbolName (name : String) : Prop where
  ne_empty : name.toList ≠ []
  whole : '\n' ∉ name.toList
  last : ∀ c ∈ name.toList.getLast?, isBlank c = false

/-- A comment that is a line of its own, without blanks around it. -/
structure IsComment (comment : String) : Prop where
  solid : ∃ c ∈ comment.toList, isBlank c = false
  whole : '\n' ∉ comment.toList
  first : ∀ c ∈ comment.toList.head?, isBlank c = false
  last : ∀ c ∈ comment.toList.getLast?, isBlank c = false

theorem all_solid_iff {c? : Option Char} :
    c?.all (!isBlank ·) = true ↔ ∀ c ∈ c?, isBlank c = false := by
  simp [Option.all_eq_true]

theorem any_solid_iff {text : List Char} :
    text.any (!isBlank ·) = true ↔ ∃ c ∈ text, isBlank c = false := by
  simp

instance (name : String) : Decidable (IsSymbolName name) :=
  decidable_of_iff (name.toList ≠ [] ∧ '\n' ∉ name.toList ∧
    name.toList.getLast?.all (!isBlank ·) = true)
    ⟨fun ⟨ne_empty, whole, last⟩ => ⟨ne_empty, whole, all_solid_iff.mp last⟩,
      fun ⟨ne_empty, whole, last⟩ => ⟨ne_empty, whole, all_solid_iff.mpr last⟩⟩

instance (comment : String) : Decidable (IsComment comment) :=
  decidable_of_iff (comment.toList.any (!isBlank ·) = true ∧ '\n' ∉ comment.toList ∧
    comment.toList.head?.all (!isBlank ·) = true ∧ comment.toList.getLast?.all (!isBlank ·) = true)
    ⟨fun ⟨solid, whole, first, last⟩ =>
        ⟨any_solid_iff.mp solid, whole, all_solid_iff.mp first, all_solid_iff.mp last⟩,
      fun ⟨solid, whole, first, last⟩ =>
        ⟨any_solid_iff.mpr solid, whole, all_solid_iff.mpr first, all_solid_iff.mpr last⟩⟩

/-- A circuit that fits its header, has names and comments that its text can hold, and gates with
the lines on which its text declares them. -/
structure Circuit.WellFormed (c : Circuit) : Prop extends c.Fits where
  names : ∀ entry ∈ c.symbols.entries, IsSymbolName entry.2
  comments : ∀ comment ∈ c.comments, IsComment comment
  gateLines : ∀ k (hk : k < c.gates.length), c.gates[k].line =
    2 + c.header.inputs.toNat + c.header.latches.toNat + c.header.outputs.toNat + k

namespace Aag
variable {c : Circuit}

section Table

def tableLines (c : Circuit) : List (List Char) :=
  c.symbols.entries.map symbolLine ++ commentLines c.comments

theorem kept_symbolLine {entry : (Role × UInt64) × String} (name : IsSymbolName entry.2) :
    Kept (symbolLine entry) := by
  obtain ⟨⟨role, index⟩, text⟩ := entry
  rw [symbolLine_eq]
  have digits := (isWord_natural index.toNat).not_mem (c := '\n') rfl
  refine ⟨?_, role.marker, List.mem_cons_self, by cases role <;> rfl⟩
  simp only [List.mem_cons, List.mem_append, digits, name.whole, or_false, not_or]
  exact ⟨by cases role <;> decide, not_false, by decide⟩

theorem trim_symbolLine {entry : (Role × UInt64) × String} (name : IsSymbolName entry.2) :
    trim (symbolLine entry) = symbolLine entry := by
  obtain ⟨⟨role, index⟩, text⟩ := entry
  apply trim_eq_self
  · rintro _ ⟨⟩
    cases role <;> rfl
  · have last : (symbolLine ((role, index), text)).getLast? = text.toList.getLast? := by
      obtain ⟨c, rest, shape⟩ := List.exists_cons_of_ne_nil name.ne_empty
      change text.toList = c :: rest at shape
      rw [symbolLine, shape, List.getLast?_append_cons, List.getLast?_cons_cons]
    rw [last]
    exact name.last

theorem kept_comment {comment : String} (h : IsComment comment) : Kept comment.toList :=
  ⟨h.whole, h.solid⟩

theorem kept_mark : Kept ['c'] := ⟨by decide, 'c', by decide, rfl⟩

/-- The lines behind the sections are kept as they are, trimming included. -/
theorem kept_tableLines (wf : c.WellFormed) :
    ∀ line ∈ tableLines c, Kept line ∧ trim line = line := by
  intro line hl
  rcases List.mem_append.mp hl with hl | hl
  · obtain ⟨entry, hentry, rfl⟩ := List.mem_map.mp hl
    have name := wf.names entry hentry
    exact ⟨kept_symbolLine name, trim_symbolLine name⟩
  · cases comments : c.comments with
    | nil =>
      rw [comments] at hl
      cases hl
    | cons comment more =>
      rw [comments, commentLines_cons] at hl
      rcases List.mem_cons.mp hl with rfl | hl
      · exact ⟨kept_mark, rfl⟩
      · obtain ⟨comment, hcomment, rfl⟩ := List.mem_map.mp hl
        have isComment := wf.comments comment (comments ▸ hcomment)
        exact ⟨kept_comment isComment, trim_eq_self isComment.first isComment.last⟩

/-- No symbol is a comment mark, so the table that is printed ends where it was to end. -/
theorem cutAtMark_tableLines (c : Circuit) : CutAtMark (tableLines c)
    (c.symbols.entries.map symbolLine) (c.comments.map String.toList) := by
  have absent : ['c'] ∉ c.symbols.entries.map symbolLine := by
    intro mark
    obtain ⟨⟨⟨role, index⟩, name⟩, _, same⟩ := List.mem_map.mp mark
    rw [symbolLine_eq] at same
    cases role <;> cases same
  rw [tableLines]
  cases c.comments with
  | nil =>
    rw [commentLines_nil, List.append_nil]
    exact .unmarked absent
  | cons comment more =>
    rw [commentLines_cons]
    exact .marked absent _

/-- Symbols and comments are read off the lines behind the sections. -/
theorem ofLines_tableLines (c : Circuit) (first : Nat) :
    (SymbolTable.ofLines (numbered first (tableLines c))).symbols = c.symbols ∧
      (SymbolTable.ofLines (numbered first (tableLines c))).comments = c.comments := by
  have texts : (numbered first (tableLines c)).map Line.text = tableLines c := map_text_numbered
  obtain ⟨symbols, comments⟩ := (texts.symm ▸ cutAtMark_tableLines c).ofLines
  have readable : readSymbol? ∘ symbolLine = some := funext readSymbol?_symbolLine
  have same : String.ofList ∘ String.toList = id := funext fun _ => String.ofList_toList
  rw [symbols, comments, List.filterMap_map, readable, List.filterMap_some,
    OrderedMap.ofList_entries, List.map_map, same, List.map_id]
  exact ⟨rfl, rfl⟩

end Table

section Sections
variable {first : Nat}

/-- A section is read from its own lines in front of others. -/
theorem Declaration.readSection_append {α : Type} {d : Declaration α} {h : Header} {total : Nat}
    {count : UInt64} {own rest : List Line} {entries : List α} (length : own.length = count.toNat)
    (reads : List.Forall₂ (d.Reads h.maxVar) own entries) :
    d.readSection h.maxLiteral total count ((own ++ rest).map Line.trimmed) =
      .ok (entries, rest.map Line.trimmed) := by
  apply readSection_eq_ok_iff.mpr
  rw [← length, List.take_left, List.drop_left, List.length_append]
  exact ⟨Nat.le_add_right _ _, reads, rfl⟩

theorem reads_inputs {maxVar : UInt64} {literals : List Literal}
    (bounded : ∀ l ∈ literals, l.var ≤ maxVar) :
    List.Forall₂ (inputDeclaration.Reads maxVar)
      (numbered first (literals.map fun l => numeralLine [l.code])) literals := by
  apply forall₂_numbered
  intro k l hl
  have within : ∀ l' ∈ [l], l'.var ≤ maxVar :=
    List.forall_mem_singleton.mpr (bounded l (List.mem_of_getElem? hl))
  exact Declaration.reads_input_iff.mpr (writes_numeralLine within)

theorem reads_latches {maxVar : UInt64} {latches : List Latch}
    (bounded : ∀ latch ∈ latches, ∀ l ∈ latch.literals, l.var ≤ maxVar) :
    List.Forall₂ (latchDeclaration.Reads maxVar) (numbered first (latches.map latchLine))
      latches := by
  apply forall₂_numbered
  intro k latch hlatch
  rw [latchLine_eq]
  exact Declaration.reads_latch_iff.mpr
    (writes_numeralLine (bounded latch (List.mem_of_getElem? hlatch)))

/-- Printed gates read back with the line on which they are printed. -/
theorem reads_gates {maxVar : UInt64} {gates : List AndGate}
    (bounded : ∀ g ∈ gates, ∀ l ∈ g.literals, l.var ≤ maxVar)
    (lines : ∀ k (hk : k < gates.length), gates[k].line = first + k) :
    List.Forall₂ (gateDeclaration.Reads maxVar) (numbered first (gates.map gateLine)) gates := by
  apply forall₂_numbered
  intro k g hg
  obtain ⟨hk, rfl⟩ := List.getElem?_eq_some_iff.mp hg
  exact Declaration.reads_gate_iff.mpr
    ⟨writes_numeralLine (bounded _ (List.getElem_mem hk)), lines k hk⟩

/-- The four sections are read from their lines, and what stands behind them is left. -/
theorem readSections_sectionLines (wf : c.WellFormed) (total : Nat) (tail : List (List Char)) :
    ∃ behind, readSections c.header total ((numbered 2 (sectionLines c ++ tail)).map Line.trimmed) =
      .ok ⟨c.inputs, c.latches, c.outputs, c.gates,
        (numbered behind tail).map Line.trimmed⟩ := by
  have gateLines : ∀ k (hk : k < c.gates.length), c.gates[k].line =
      2 + c.inputs.length + c.latches.length + c.outputs.length + k := by
    rw [wf.inputs_length, wf.latches_length, wf.outputs_length]
    exact wf.gateLines
  refine ⟨2 + c.inputs.length + c.latches.length + c.outputs.length + c.gates.length, ?_⟩
  simp only [sectionLines, List.append_assoc, numbered_append, List.length_map, readSections]
  refine bind_eq_ok_iff.mpr ⟨_, Declaration.readSection_append ?_ (reads_inputs wf.inputs), ?_⟩
  · rw [length_numbered, List.length_map, wf.inputs_length]
  refine bind_eq_ok_iff.mpr ⟨_, Declaration.readSection_append ?_ (reads_latches wf.latches), ?_⟩
  · rw [length_numbered, List.length_map, wf.latches_length]
  refine bind_eq_ok_iff.mpr ⟨_, Declaration.readSection_append ?_ (reads_inputs wf.outputs), ?_⟩
  · rw [length_numbered, List.length_map, wf.outputs_length]
  refine bind_eq_ok_iff.mpr
    ⟨_, Declaration.readSection_append ?_ (reads_gates wf.gates gateLines), rfl⟩
  rw [length_numbered, List.length_map, wf.gates_length]

end Sections

/-- The lines of a printed circuit are those that were put in it, none of them lost or cut. -/
theorem nonblankLines_print (wf : c.WellFormed) : nonblankLines (print c) =
    ⟨1, headerLine c.header⟩ :: numbered 2 (sectionLines c ++ tableLines c) := by
  have kept : ∀ line ∈ circuitLines c, Kept line := by
    rw [circuitLines, List.append_assoc, List.cons_append, List.forall_mem_cons,
      List.forall_mem_append]
    refine ⟨kept_headerLine c.header, kept_sectionLines c, ?_⟩
    exact fun line hl => (kept_tableLines wf line hl).1
  rw [print, nonblankLines_flatMap_feed kept, circuitLines, List.append_assoc, List.cons_append,
    numbered_cons]
  rfl

/-- The canonical text of a well-formed circuit is read as that very circuit. -/
theorem read_print (wf : c.WellFormed) : (read (print c).utf8Encode).outcome = .ok c := by
  obtain ⟨behind, sections⟩ := readSections_sectionLines wf (lines (print c)).length (tableLines c)
  have trimmed : ∀ line ∈ tableLines c, trim line = line := fun line hl =>
    (kept_tableLines wf line hl).2
  rw [map_trimmed_numbered trimmed] at sections
  obtain ⟨symbols, comments⟩ := ofLines_tableLines c behind
  refine read_eq_ok_iff.mpr ⟨print c, _, _, _, rfl, nonblankLines_print wf,
    isHeader_headerLine c.header, sections, ?_⟩
  rw [assemble, symbols, comments]

/-- A literal and a symbol's position at the largest word, latches with and without a reset, a name
that begins with blanks, and comments that look like a comment mark and like a symbol. -/
def crowdedCircuit : Circuit where
  header := ⟨18446744073709551615, 1, 2, 1, 1⟩
  inputs := [⟨18446744073709551615⟩]
  latches := [⟨⟨4⟩, ⟨2⟩, none⟩, ⟨⟨6⟩, ⟨0⟩, some ⟨1⟩⟩]
  outputs := [⟨9⟩]
  gates := [⟨⟨8⟩, ⟨4⟩, ⟨7⟩, 6⟩]
  symbols := .ofList [((.output, 0), "  two words"), ((.input, 18446744073709551615), "c")]
  comments := ["c", "i0 x"]

theorem read_print_crowded : crowdedCircuit.WellFormed ∧
    (read (print crowdedCircuit).utf8Encode).outcome = .ok crowdedCircuit := by
  have fits : crowdedCircuit.Fits := by
    constructor <;> decide
  have wf : crowdedCircuit.WellFormed :=
    ⟨fits, by decide, by decide, by decide⟩
  exact ⟨wf, read_print wf⟩

end Aag

end AndInverter
