import AndInverter.Encoding
import AndInverter.Proofs.Aag.Windows

/-!
# What the reader accepts

A byte string is read exactly if it is a circuit text, and then the circuit is the one its lines
declare. Counts of the header are lengths: nothing is taken from a section's neighbours, and no line
behind the sections matters for acceptance.
-/
namespace AndInverter.Aag
open Outcome Text

variable {bytes : ByteArray} {text : List Char} {h : Header} {body : List Line} {c : Circuit}

theorem decode_eq_ok_iff : decode bytes = .ok text ↔ text.utf8Encode = bytes := by
  rw [decode, String.fromUTF8?]
  constructor
  · intro ok
    split at ok
    · next decoded found =>
      split at found
      · cases found
        cases ok
        exact String.utf8Encode_toList
      · cases found
    · cases ok
  · rintro rfl
    have valid : text.utf8Encode.IsValidUTF8 := ByteArray.isValidUTF8_utf8Encode
    have same : String.fromUTF8 text.utf8Encode valid = String.ofList text := rfl
    rw [dif_pos valid, same]
    exact congrArg Except.ok String.toList_ofList

/-- The header is the first line that is not blank, and the reader gets the others without the
blanks around them. -/
theorem splitHeader_eq_ok_iff {rest : List Line} : splitHeader text = .ok (h, rest) ↔
    ∃ first body, nonblankLines text = first :: body ∧ IsHeader first h ∧
      body.map Line.trimmed = rest := by
  rw [splitHeader, contentLines_eq]
  cases nonblankLines text with
  | nil => simp
  | cons first body =>
    simp only [List.map_cons, bind_eq_ok_iff, readHeader_eq_ok_iff, pure, Except.pure,
      Except.ok.injEq, Prod.mk.injEq, List.cons.injEq]
    constructor
    · rintro ⟨h', header, rfl, rest_eq⟩
      exact ⟨first, body, ⟨rfl, rfl⟩, header, rest_eq⟩
    · rintro ⟨_, _, ⟨rfl, rfl⟩, header, rest_eq⟩
      exact ⟨h, header, rfl, rest_eq⟩

/-- Reading is reading the header and then the windows; the symbol table always has a reading. -/
theorem read_eq_ok_iff : (read bytes).outcome = .ok c ↔
    ∃ text first body s, text.utf8Encode = bytes ∧ nonblankLines text = first :: body ∧
      IsHeader first c.header ∧
      readSections c.header (lines text).length (body.map Line.trimmed) = .ok s ∧
      assemble c.header s (SymbolTable.ofLines s.rest) = c := by
  simp only [outcome_read, outcome_readText, bind_eq_ok_iff, decode_eq_ok_iff, Prod.exists,
    splitHeader_eq_ok_iff, pure, Except.pure, Except.ok.injEq]
  constructor
  · rintro ⟨text, utf8, h, _, ⟨first, body, lines_eq, header, rfl⟩, s, sections, rfl⟩
    exact ⟨text, first, body, s, utf8, lines_eq, header, sections, rfl⟩
  · rintro ⟨text, first, body, s, utf8, lines_eq, header, sections, assembled⟩
    exact ⟨text, utf8, c.header, _, ⟨first, body, lines_eq, header, rfl⟩, s, sections, assembled⟩

/-- No two texts have the same bytes, so a text is read from its own lines. -/
theorem read_utf8Encode_eq_ok_iff : (read text.utf8Encode).outcome = .ok c ↔
    ∃ first body s, nonblankLines text = first :: body ∧ IsHeader first c.header ∧
      readSections c.header (lines text).length (body.map Line.trimmed) = .ok s ∧
      assemble c.header s (SymbolTable.ofLines s.rest) = c := by
  rw [read_eq_ok_iff]
  constructor
  · rintro ⟨text', first, body, s, utf8, read⟩
    have same := (decode_eq_ok_iff.mpr utf8).symm.trans (decode_eq_ok_iff.mpr rfl)
    cases same
    exact ⟨first, body, s, read⟩
  · rintro ⟨first, body, s, read⟩
    exact ⟨text, first, body, s, rfl, read⟩

/-- The lines that conform to a header are those from which its sections are read. -/
theorem conforms_iff {total : Nat} : Conforms h body ↔
    ∃ s, readSections h total (body.map Line.trimmed) = .ok s := by
  constructor
  · intro conforms
    have each {α : Type} {d : Declaration α} (fixes : d.Fixes) :
        ∃ entries, List.Forall₂ (d.Reads h.maxVar) (d.sect.window h body) entries :=
      exists_forall₂ fun line hl => fixes.exists_reads_iff.mpr (conforms.shape d.sect line hl)
    obtain ⟨inputs, hi⟩ := each Declaration.fixes_input
    obtain ⟨latches, hl⟩ := each Declaration.fixes_latch
    obtain ⟨outputs, ho⟩ := each Declaration.fixes_output
    obtain ⟨gates, hg⟩ := each Declaration.fixes_gate
    exact ⟨⟨inputs, latches, outputs, gates, _⟩,
      readSections_eq_ok_iff.mpr ⟨conforms.enough, hi, hl, ho, hg, rfl⟩⟩
  · rintro ⟨s, ok⟩
    obtain ⟨enough, hi, hl, ho, hg, _⟩ := readSections_eq_ok_iff.mp ok
    have each {α : Type} {d : Declaration α} (fixes : d.Fixes) {entries : List α}
        (read : List.Forall₂ (d.Reads h.maxVar) (d.sect.window h body) entries) :
        ∀ line ∈ d.sect.window h body,
          ∃ literals, Writes h.maxVar line literals ∧ d.sect.Takes literals.length := by
      intro line hline
      obtain ⟨entry, _, reads⟩ := exists_of_mem_left read hline
      exact fixes.exists_reads_iff.mp ⟨entry, reads⟩
    refine ⟨enough, ?_⟩
    intro sect
    cases sect with
    | input => exact each Declaration.fixes_input hi
    | latch => exact each Declaration.fixes_latch hl
    | output => exact each Declaration.fixes_output ho
    | andGate => exact each Declaration.fixes_gate hg

/-- Whatever the sections are read to, the windows of the text declare it. -/
theorem declares_of_read {total : Nat} {s : Sections} {table : SymbolTable}
    (ok : readSections h total (body.map Line.trimmed) = .ok s) :
    Declares body (assemble h s table) := by
  obtain ⟨_, hi, hl, ho, hg, _⟩ := readSections_eq_ok_iff.mp ok
  exact {
    inputs := hi.imp fun _ _ => Declaration.reads_input_iff.mp
    latches := hl.imp fun _ _ => Declaration.reads_latch_iff.mp
    outputs := ho.imp fun _ _ => Declaration.reads_output_iff.mp
    gates := hg.imp fun _ _ => Declaration.reads_gate_iff.mp }

/-- The circuit that is read fits its header. -/
theorem fits_of_read (ok : (read bytes).outcome = .ok c) : c.Fits := by
  obtain ⟨text, first, body, s, _, _, _, sections, assembled⟩ := read_eq_ok_iff.mp ok
  have enough := (conforms_iff.mpr ⟨s, sections⟩).enough
  have declares : Declares body c := assembled ▸ declares_of_read sections
  have length (sect : Section) : (sect.window c.header body).length = sect.count c.header := by
    rw [Section.window, List.length_take, List.length_drop]
    cases sect <;> simp only [Section.count, Section.offset] <;> omega
  have bounded {line : Line} {literals : List Literal}
      (written : Writes c.header.maxVar line literals) :
      ∀ l ∈ literals, l.var ≤ c.header.maxVar := by
    intro l hl
    rw [UInt64.le_iff_toNat_le, l.toNat_var]
    exact written.bounded l hl
  refine ⟨?_, ?_, ?_, ?_, ?_, ?_, ?_, ?_⟩
  · exact declares.inputs.length_eq.symm.trans (length .input)
  · exact declares.latches.length_eq.symm.trans (length .latch)
  · exact declares.outputs.length_eq.symm.trans (length .output)
  · exact declares.gates.length_eq.symm.trans (length .andGate)
  · intro l hl
    obtain ⟨_, _, written⟩ := exists_of_mem_right declares.inputs hl
    exact bounded written l List.mem_cons_self
  · intro latch hl
    obtain ⟨_, _, written⟩ := exists_of_mem_right declares.latches hl
    exact bounded written
  · intro l hl
    obtain ⟨_, _, written⟩ := exists_of_mem_right declares.outputs hl
    exact bounded written l List.mem_cons_self
  · intro g hg
    obtain ⟨_, _, written, _⟩ := exists_of_mem_right declares.gates hg
    exact bounded written

/-- The reader accepts exactly the grammar, its sections are exactly the windows, and every
rejection is the format error of the encoding. -/
theorem read_accepts_grammar (bytes : ByteArray) :
    ((∃ c, (read bytes).outcome = .ok c) ↔
      ∃ text first body h, text.utf8Encode = bytes ∧ nonblankLines text = first :: body ∧
        IsHeader first h ∧ Conforms h body) ∧
    (∀ c, (read bytes).outcome = .ok c →
      ∃ text first body, text.utf8Encode = bytes ∧ nonblankLines text = first :: body ∧
        IsHeader first c.header ∧ Conforms c.header body ∧ Declares body c) ∧
    (∀ e, (read bytes).outcome = .error e →
      ∀ a, (encode bytes a).outcome = .error (.error (.format e))) := by
  refine ⟨⟨?_, ?_⟩, ?_, ?_⟩
  · rintro ⟨c, ok⟩
    obtain ⟨text, first, body, s, utf8, lines_eq, header, sections, _⟩ := read_eq_ok_iff.mp ok
    exact ⟨text, first, body, c.header, utf8, lines_eq, header, conforms_iff.mpr ⟨s, sections⟩⟩
  · rintro ⟨text, first, body, h, utf8, lines_eq, header, conforms⟩
    obtain ⟨s, sections⟩ := conforms_iff.mp conforms
    exact ⟨assemble h s (SymbolTable.ofLines s.rest), read_eq_ok_iff.mpr
      ⟨text, first, body, s, utf8, lines_eq, header, sections, rfl⟩⟩
  · intro c ok
    obtain ⟨text, first, body, s, utf8, lines_eq, header, sections, assembled⟩ :=
      read_eq_ok_iff.mp ok
    have declares : Declares body c := assembled ▸ declares_of_read sections
    exact ⟨text, first, body, utf8, lines_eq, header, conforms_iff.mpr ⟨s, sections⟩, declares⟩
  · intro e rejected a
    rw [encode, Logged.outcome_bind, Logged.outcome_mapError, rejected]
    rfl

/-- A circuit with blank lines between its sections and something else behind them. -/
def sparseText : String := "aag 9 1 0 0 1\n\n2\r\n \n4 2 19\nx"

def sparseCircuit : Circuit where
  header := ⟨9, 1, 0, 0, 1⟩
  inputs := [⟨2⟩]
  latches := []
  outputs := []
  gates := [⟨⟨4⟩, ⟨2⟩, ⟨19⟩, 5⟩]
  symbols := .empty
  comments := []

/-- Blank lines count for line numbers, and what stands behind the sections does not matter. -/
theorem read_accepts_sparse : (read sparseText.toUTF8).outcome = .ok sparseCircuit ∧
    ∃ text first body, text.utf8Encode = sparseText.toUTF8 ∧
      nonblankLines text = first :: body ∧ IsHeader first sparseCircuit.header ∧
      Conforms sparseCircuit.header body ∧ Declares body sparseCircuit := by
  have readable : (read sparseText.toUTF8).outcome = .ok sparseCircuit := by decide
  obtain ⟨_, declared, _⟩ := read_accepts_grammar sparseText.toUTF8
  exact ⟨readable, declared sparseCircuit readable⟩

end AndInverter.Aag
