import AndInverter.Aag.Printer
import AndInverter.Proofs.Aag.Acceptance
import AndInverter.Proofs.Aag.Printing
import AndInverter.Proofs.Text.Squeezing

/-!
# The layout of a text does not matter

A text and its tidy form are read alike: the same circuit, but for the lines of its gates, or the
same problem, but for the line it is reported on. Header and declarations are read by their words,
and words do not change when blanks around them do; what stands behind the declarations is read by
the text of its lines.
-/
namespace AndInverter
open Outcome Text

def AndGate.withoutLine (g : AndGate) : AndGate := { g with line := 0 }

def Circuit.withoutLines (c : Circuit) : Circuit :=
  { c with gates := c.gates.map AndGate.withoutLine }

namespace Aag

section Lines

/-- The same reading, but for the lines on which problems are reported. -/
abbrev Alike {α β : Type} : (α → β → Prop) → Except FormatError α → Except FormatError β → Prop :=
  Agree fun e e' => e.problem = e'.problem

theorem readCount_alike (number number' : Nat) (field : List Char) :
    Alike Eq (readCount number field) (readCount number' field) := by
  rw [readCount, readCount]
  cases readUnsigned field with
  | ok count => exact .ok rfl
  | error e => exact .error rfl

theorem readLiteral_alike (sect : Section) (number number' : Nat) (field : List Char) :
    Alike Eq (readLiteral sect number field) (readLiteral sect number' field) := by
  rw [readLiteral, readLiteral]
  cases readUnsigned field with
  | ok code => exact .ok rfl
  | error e => exact .error rfl

theorem checkLimit_alike (limit : Literal) (number number' : Nat) (literals : List Literal) :
    Alike Eq (checkLimit limit number literals) (checkLimit limit number' literals) := by
  rw [checkLimit, checkLimit]
  cases literals.find? (limit < ·) with
  | none => exact .ok rfl
  | some literal => exact .error rfl

/-- Words that are read alike one by one are read alike together. -/
theorem mapM_alike {α : Type} {f g : List Char → Except FormatError α} (words : List (List Char))
    (each : ∀ word, Alike Eq (f word) (g word)) : Alike Eq (words.mapM f) (words.mapM g) := by
  have together := Agree.mapM (List.forall₂_same.mpr fun word (_ : word ∈ words) => each word)
  rwa [List.forall₂_eq_eq_eq] at together

variable {line line' : Line}

/-- Only the words of the header line count. -/
theorem readHeader_alike (same : fields line.text = fields line'.text) :
    Alike Eq (readHeader line) (readHeader line') := by
  rw [readHeader, readHeader, same]
  split
  · next counts _ =>
    refine (mapM_alike counts (readCount_alike _ _)).bind ?_
    rintro values _ rfl
    split
    · exact .ok rfl
    · exact .error rfl
  · exact .error rfl

namespace Declaration
variable {α : Type} {d : Declaration α} {r : α → α → Prop}

/-- The same literals declare related entries, whatever their line. -/
def Relates (d : Declaration α) (r : α → α → Prop) : Prop :=
  ∀ number number' literals,
    Option.Rel r (d.ofLiterals? number literals) (d.ofLiterals? number' literals)

theorem relates_input : inputDeclaration.Relates Eq := by
  intro number number' literals
  rcases literals with _ | ⟨a, _ | ⟨b, rest⟩⟩
  · exact .none
  · exact .some rfl
  · exact .none

theorem relates_latch : latchDeclaration.Relates Eq := by
  intro number number' literals
  rcases literals with _ | ⟨a, _ | ⟨b, _ | ⟨c, _ | ⟨d, rest⟩⟩⟩⟩
  · exact .none
  · exact .none
  · exact .some rfl
  · exact .some rfl
  · exact .none

theorem relates_output : outputDeclaration.Relates Eq := relates_input

theorem relates_gate : gateDeclaration.Relates fun g g' => g.withoutLine = g'.withoutLine := by
  intro number number' literals
  rcases literals with _ | ⟨a, _ | ⟨b, _ | ⟨c, _ | ⟨d, rest⟩⟩⟩⟩
  · exact .none
  · exact .none
  · exact .none
  · exact .some rfl
  · exact .none

/-- Only the words of a line count, up to what the entry keeps of its line number. -/
theorem read_alike (relates : d.Relates r) (limit : Literal)
    (same : fields line.text = fields line'.text) :
    Alike r (d.read limit line) (d.read limit line') := by
  rw [Declaration.read, Declaration.read, same]
  refine (mapM_alike _ (readLiteral_alike d.sect _ _)).bind ?_
  rintro literals _ rfl
  have related := relates line.number line'.number literals
  generalize d.ofLiterals? line.number literals = entry at related ⊢
  generalize d.ofLiterals? line'.number literals = entry' at related ⊢
  cases related with
  | none => exact .error rfl
  | some related => exact (checkLimit_alike limit _ _ literals).bind fun _ _ _ => .ok related

end Declaration

end Lines

section Sections
variable {body body' : List Line} {k : Nat}

/-- Lines with the same words one by one, and behind the first `k` even with the same text. -/
structure Similar (k : Nat) (body body' : List Line) : Prop where
  words_eq : body.map (fields ·.text) = body'.map (fields ·.text)
  texts_eq : (body.drop k).map Line.text = (body'.drop k).map Line.text

theorem Similar.drop {n : Nat} (similar : Similar (n + k) body body') :
    Similar k (body.drop n) (body'.drop n) where
  words_eq := by rw [List.map_drop, List.map_drop, similar.words_eq]
  texts_eq := by rw [List.drop_drop, List.drop_drop, similar.texts_eq]

theorem Similar.forall₂_take (similar : Similar k body body') (n : Nat) :
    List.Forall₂ (fun line line' => fields line.text = fields line'.text) (body.take n)
      (body'.take n) := by
  have together : List.Forall₂ Eq (body.map (fields ·.text)) (body'.map (fields ·.text)) := by
    rw [List.forall₂_eq_eq_eq, similar.words_eq]
  rw [List.forall₂_map_left_iff, List.forall₂_map_right_iff] at together
  exact List.forall₂_take n together

/-- A section is read alike from similar lines, and the lines behind it are similar again. -/
theorem Declaration.readSection_alike {α : Type} {d : Declaration α} {r : α → α → Prop}
    (relates : d.Relates r) (limit : Literal) (total total' : Nat) {count : UInt64}
    (similar : Similar (count.toNat + k) body body') :
    Alike (fun x y => List.Forall₂ r x.1 y.1 ∧ Similar k x.2 y.2)
      (d.readSection limit total count body) (d.readSection limit total' count body') := by
  have pairs := similar.forall₂_take count.toNat
  rw [readSection, readSection, ← pairs.length_eq]
  split
  · exact .error rfl
  · refine (Agree.mapM (pairs.imp fun _ _ same => read_alike relates limit same)).bind ?_
    exact fun entries entries' related => .ok ⟨related, similar.drop⟩

structure Sections.Alike (s s' : Sections) : Prop where
  inputs_eq : s.inputs = s'.inputs
  latches_eq : s.latches = s'.latches
  outputs_eq : s.outputs = s'.outputs
  gates_eq : s.gates.map AndGate.withoutLine = s'.gates.map AndGate.withoutLine
  texts_eq : s.rest.map Line.text = s'.rest.map Line.text

/-- Sections are read alike if their lines have the same words one by one. -/
theorem readSections_alike {h : Header} (total total' : Nat)
    (similar : Similar (sectionLength h) body body') :
    Alike Sections.Alike (readSections h total body) (readSections h total' body') := by
  rw [sectionLength, Nat.add_assoc, Nat.add_assoc] at similar
  rw [readSections, readSections]
  refine (Declaration.readSection_alike Declaration.relates_input _ total total' similar).bind ?_
  rintro ⟨inputs, rest⟩ ⟨inputs', rest'⟩ ⟨inputs_eq, similar⟩
  refine (Declaration.readSection_alike Declaration.relates_latch _ total total' similar).bind ?_
  rintro ⟨latches, rest⟩ ⟨latches', rest'⟩ ⟨latches_eq, similar⟩
  refine (Declaration.readSection_alike Declaration.relates_output _ total total' similar).bind ?_
  rintro ⟨outputs, rest⟩ ⟨outputs', rest'⟩ ⟨outputs_eq, similar⟩
  have last : Similar (h.gates.toNat + 0) rest rest' := similar
  refine (Declaration.readSection_alike Declaration.relates_gate _ total total' last).bind ?_
  rintro ⟨gates, rest⟩ ⟨gates', rest'⟩ ⟨gates_eq, similar⟩
  rw [List.forall₂_eq_eq_eq] at inputs_eq latches_eq outputs_eq
  refine .ok ⟨inputs_eq, latches_eq, outputs_eq, ?_, similar.texts_eq⟩
  rwa [← List.forall₂_eq_eq_eq, List.forall₂_map_left_iff, List.forall₂_map_right_iff]

end Sections

section Table

/-- Sections that say the same make circuits that say the same. -/
theorem withoutLines_assemble {h : Header} {s s' : Sections} (alike : s.Alike s') :
    (assemble h s (SymbolTable.ofLines s.rest)).withoutLines =
      (assemble h s' (SymbolTable.ofLines s'.rest)).withoutLines := by
  simp only [Circuit.withoutLines, assemble, symbols_ofLines, comments_ofLines, alike.inputs_eq,
    alike.latches_eq, alike.outputs_eq, alike.gates_eq, alike.texts_eq]

end Table

section Texts
variable {text line : List Char}

theorem texts_contentLines (text : List Char) :
    (contentLines text).map Line.text = strippedLines text := by
  have stripped (all : List (List Char)) (first : Nat) :
      ((all.zipIdx first).filterMap fun entry => Line.ofRaw? entry.1 entry.2).map Line.text =
        (all.map trim).filter fun line => !line.isEmpty := by
    induction all generalizing first with
    | nil => rfl
    | cons raw rest ih =>
      rw [List.zipIdx_cons, List.filterMap_cons, List.map_cons, List.filter_cons, ← ih (first + 1)]
      simp only [Line.ofRaw?]
      cases trim raw with
      | nil => rfl
      | cons c line => rfl
  exact stripped (lines text) 1

theorem trim_of_mem_strippedLines (hl : line ∈ strippedLines text) : trim line = line := by
  obtain ⟨raw, _, rfl⟩ := List.mem_map.mp (List.mem_of_mem_filter hl)
  exact trim_eq_self (first_of_trim raw) (last_of_trim raw)

theorem kept_of_mem_strippedLines (hl : line ∈ strippedLines text) : Kept line := by
  obtain ⟨hl, not_empty⟩ := List.mem_filter.mp hl
  obtain ⟨raw, hraw, rfl⟩ := List.mem_map.mp hl
  refine ⟨fun feed => not_mem_of_mem_lines hraw (trim_subset raw feed), ?_⟩
  have first := first_of_trim raw
  cases shape : trim raw with
  | nil => simp [shape] at not_empty
  | cons c rest =>
    rw [shape] at first
    exact ⟨c, List.mem_cons_self, first c rfl⟩

theorem Kept.squeeze (kept : Kept text) : Kept (squeeze text) where
  whole feed := by
    rcases mem_squeeze feed with space | feed
    · exact absurd space (by decide)
    · exact kept.whole feed
  solid := by
    obtain ⟨c, hc, solid⟩ := kept.solid
    exact ⟨c, solid_mem_squeeze solid hc, solid⟩

theorem tidyLines_of_nil (gone : strippedLines text = []) : tidyLines text = [] := by
  rw [tidyLines, gone]

theorem tidyLines_of_cons {header : List Char} {body : List (List Char)}
    (shape : strippedLines text = header :: body) : tidyLines text = squeeze header ::
      (body.take (declaredLines header)).map squeeze ++ body.drop (declaredLines header) := by
  rw [tidyLines, shape]

theorem declaredLines_of_ok {first : Line} {h : Header} (read : readHeader first = .ok h) :
    declaredLines first.text = sectionLength h := by
  have again : Alike Eq (readHeader first) (readHeader ⟨1, first.text⟩) := readHeader_alike rfl
  rw [read] at again
  rw [declaredLines]
  generalize readHeader ⟨1, first.text⟩ = outcome at again ⊢
  cases again with
  | ok same => rw [same]

/-- No tidy line is blank or cut in two. -/
theorem kept_of_mem_tidyLines (hl : line ∈ tidyLines text) : Kept line := by
  have kept (line) (hl : line ∈ strippedLines text) : Kept line := kept_of_mem_strippedLines hl
  cases shape : strippedLines text with
  | nil =>
    rw [tidyLines_of_nil shape] at hl
    cases hl
  | cons header body =>
    rw [shape, List.forall_mem_cons] at kept
    obtain ⟨kept_header, kept_body⟩ := kept
    rw [tidyLines_of_cons shape] at hl
    rcases List.mem_append.mp hl with hl | hl
    · rcases List.mem_cons.mp hl with rfl | hl
      · exact kept_header.squeeze
      · obtain ⟨raw, hraw, rfl⟩ := List.mem_map.mp hl
        exact (kept_body raw (List.mem_of_mem_take hraw)).squeeze
    · exact kept_body line (List.mem_of_mem_drop hl)

/-- The reader finds the tidy lines in the tidy text. -/
theorem texts_contentLines_tidy (text : List Char) :
    (contentLines (tidy text)).map Line.text = (tidyLines text).map trim := by
  have kept : ∀ line ∈ tidyLines text, Kept line := fun line hl => kept_of_mem_tidyLines hl
  rw [contentLines_eq, tidy, nonblankLines_flatMap_feed kept, List.map_map]
  have texts : Line.text ∘ Line.trimmed = trim ∘ Line.text := rfl
  rw [texts, ← List.map_map, map_text_numbered]

theorem fields_trim (text : List Char) : fields (trim text) = fields text := by
  rw [fields_eq_words, words_trim, fields_eq_words]

theorem fields_trim_squeeze (text : List Char) : fields (trim (squeeze text)) = fields text := by
  rw [fields_eq_words, words_trim, words_squeeze, fields_eq_words]

/-- Lines are similar to those whose first `k` are squeezed. -/
theorem similar_squeeze {body body' : List Line} {texts : List (List Char)} (k : Nat)
    (trimmed : ∀ line ∈ texts, trim line = line) (texts_eq : body.map Line.text = texts)
    (texts_eq' : body'.map Line.text = ((texts.take k).map squeeze ++ texts.drop k).map trim) :
    Similar k body body' where
  words_eq := by
    have by_texts (lines : List Line) :
        lines.map (fields ·.text) = (lines.map Line.text).map fields := by
      rw [List.map_map]
      rfl
    rw [by_texts, by_texts, texts_eq, texts_eq', List.map_map, List.map_append, List.map_map]
    conv_lhs => rw [← List.take_append_drop k texts, List.map_append]
    congr 1
    · exact List.map_congr_left fun line _ => (fields_trim_squeeze line).symm
    · exact List.map_congr_left fun line _ => (fields_trim line).symm
  texts_eq := by
    have behind : (texts.drop k).map trim = texts.drop k := by
      conv_rhs => rw [← List.map_id (texts.drop k)]
      exact List.map_congr_left fun line hl => trimmed line (List.mem_of_mem_drop hl)
    have length : (((texts.take k).map squeeze).map trim).length = min k texts.length := by
      rw [List.length_map, List.length_map, List.length_take]
    rw [List.map_drop, List.map_drop, texts_eq, texts_eq', List.map_append, behind]
    by_cases long : k ≤ texts.length
    · exact (List.drop_left' (length.trans (Nat.min_eq_left long))).symm
    · have short : texts.drop k = [] := List.drop_eq_nil_of_le (by omega)
      rw [short, List.append_nil, List.drop_eq_nil_of_le (by omega)]

/-- The header of a text and of its tidy form are read alike, with similar lines behind them. -/
theorem splitHeader_alike (text : List Char) :
    Alike (fun x y => x.1 = y.1 ∧ Similar (sectionLength x.1) x.2 y.2) (splitHeader text)
      (splitHeader (tidy text)) := by
  have texts := texts_contentLines text
  have texts' := texts_contentLines_tidy text
  rw [splitHeader, splitHeader]
  cases lines : contentLines text with
  | nil =>
    rw [lines] at texts
    rw [tidyLines_of_nil texts.symm] at texts'
    rw [List.map_eq_nil_iff.mp texts']
    exact .error rfl
  | cons first body =>
    rw [lines, List.map_cons] at texts
    rw [tidyLines_of_cons texts.symm] at texts'
    obtain ⟨first', body', lines', first_eq, body_eq⟩ := List.map_eq_cons_iff.mp texts'
    rw [lines']
    have headers : Alike Eq (readHeader first) (readHeader first') := by
      apply readHeader_alike
      rw [first_eq, fields_trim_squeeze]
    have trimmed : ∀ line ∈ body.map Line.text, trim line = line := fun line hl =>
      trim_of_mem_strippedLines (texts ▸ List.mem_cons_of_mem _ hl)
    have similar := similar_squeeze (declaredLines first.text) trimmed rfl body_eq
    refine headers.with_result.bind ?_
    rintro h _ ⟨read, rfl⟩
    rw [declaredLines_of_ok read] at similar
    exact .ok ⟨rfl, similar⟩

end Texts

/-- The circuits are the same but for the lines of their gates, and the problems are the same but
for the lines on which they are reported. -/
theorem read_tidy (text : List Char) :
    Alike (fun c c' => c.withoutLines = c'.withoutLines) (read text.utf8Encode).outcome
      (read (tidy text).utf8Encode).outcome := by
  rw [outcome_read, outcome_read, decode_eq_ok_iff.mpr rfl, decode_eq_ok_iff.mpr rfl]
  change Alike _ (readText text).outcome (readText (tidy text)).outcome
  rw [outcome_readText, outcome_readText]
  refine (splitHeader_alike text).bind ?_
  rintro ⟨h, body⟩ ⟨_, body'⟩ ⟨rfl, similar⟩
  refine (readSections_alike _ _ similar).bind ?_
  exact fun s s' alike => .ok (withoutLines_assemble alike)

/-- Blanks of all kinds, blank lines, and a name and a comment with blanks inside. -/
example : tidy
    "\x0d\n aag\t9  1 0 0 1 \x0d\n2\n\u00a0\n4\x0d2 \u2003 19\ni0  a  b \nc\n\n x\ty".toList =
    "aag 9 1 0 0 1\n2\n4 2 19\ni0  a  b\nc\nx\ty\n".toList := by decide +kernel

end Aag

end AndInverter
