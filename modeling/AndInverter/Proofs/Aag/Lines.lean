import AndInverter.Proofs.Aag.Grammar
import AndInverter.Proofs.Aag.Limits

/-!
# Reading single lines

Each reader of a line succeeds exactly on the lines of its grammar. The limit on literals is the
limit on variables, also where twice the largest variable leaves the words.
-/
namespace AndInverter.Aag
open Outcome Text

def Line.trimmed (line : Line) : Line := ⟨line.number, trim line.text⟩

theorem fields_trimmed (line : Line) : fields line.trimmed.text = words line.text :=
  (fields_eq_words _).trans (words_trim line.text)

theorem ofRaw?_of_blank {raw : List Char} (blank : raw.all isBlank = true) (number : Nat) :
    Line.ofRaw? raw number = none := by
  have gone : trim raw = [] := trim_eq_nil_iff.mpr (List.all_eq_true.mp blank)
  rw [Line.ofRaw?, gone]

theorem ofRaw?_of_not_blank {raw : List Char} (kept : ¬ raw.all isBlank = true) (number : Nat) :
    Line.ofRaw? raw number = some (Line.trimmed ⟨number, raw⟩) := by
  rw [Line.ofRaw?]
  split
  · next gone => exact absurd (List.all_eq_true.mpr (trim_eq_nil_iff.mp gone)) kept
  · rfl

/-- Trimming keeps exactly the lines that are not blank. -/
theorem filterMap_ofRaw? (entries : List (List Char × Nat)) :
    entries.filterMap (fun entry => Line.ofRaw? entry.1 entry.2) =
      (keepNonblank entries).map Line.trimmed := by
  induction entries with
  | nil => rfl
  | cons entry rest ih =>
    obtain ⟨raw, number⟩ := entry
    rw [List.filterMap_cons, ih, keepNonblank_cons]
    by_cases blank : raw.all isBlank = true
    · rw [ofRaw?_of_blank blank, if_pos blank]
    · rw [ofRaw?_of_not_blank blank, if_neg blank]
      rfl

theorem nonblankLines_eq (text : List Char) :
    nonblankLines text = keepNonblank ((lines text).zipIdx 1) := by
  rw [nonblankLines]
  rcases splitOn_eq_lines text with h | h
  · rw [h]
  · rw [h, List.zipIdx_append, keepNonblank_append]
    exact List.append_nil _

/-- The reader sees the lines that are not blank without the blanks around them. -/
theorem contentLines_eq (text : List Char) :
    contentLines text = (nonblankLines text).map Line.trimmed := by
  rw [nonblankLines_eq]
  exact filterMap_ofRaw? _

section Header
variable {line : Line} {h : Header}

theorem readCounts_eq_ok_iff {number : Nat} {counts : List (List Char)} {values : List UInt64} :
    counts.mapM (readCount number) = .ok values ↔
      List.Forall₂ (fun count (value : UInt64) => IsUnsigned count value.toNat) counts values := by
  simp only [mapM_eq_ok_iff, readCount, mapError_eq_ok_iff, readUnsigned_eq_ok_iff]

/-- The reader of the header takes exactly the header lines. -/
theorem readHeader_eq_ok_iff : readHeader line.trimmed = .ok h ↔ IsHeader line h := by
  rw [readHeader, fields_trimmed]
  constructor
  · intro ok
    split at ok
    · next counts split_eq =>
      obtain ⟨values, read, ok⟩ := bind_eq_ok_iff.mp ok
      rw [readCounts_eq_ok_iff] at read
      split at ok
      · cases ok
        simp only [List.forall₂_cons_right_iff, List.forall₂_nil_right_iff] at read
        obtain ⟨m, _, hm, ⟨i, _, hi, ⟨l, _, hl, ⟨o, _, ho, ⟨a, _, ha, rfl, rfl⟩, rfl⟩, rfl⟩, rfl⟩,
          rfl⟩ := read
        exact ⟨m, i, l, o, a, split_eq, hm, hi, hl, ho, ha⟩
      · cases ok
    · cases ok
  · rintro ⟨m, i, l, o, a, split_eq, hm, hi, hl, ho, ha⟩
    have read : [m, i, l, o, a].mapM (readCount line.number) =
        .ok [h.maxVar, h.inputs, h.latches, h.outputs, h.gates] :=
      readCounts_eq_ok_iff.mpr (.cons hm (.cons hi (.cons hl (.cons ho (.cons ha .nil)))))
    rw [split_eq]
    exact bind_eq_ok_iff.mpr ⟨_, read, rfl⟩

/-- The check passes exactly if no literal has a variable beyond the largest one. -/
theorem checkLimit_eq_ok_iff {number : Nat} {literals : List Literal} :
    checkLimit h.maxLiteral number literals = .ok () ↔
      ∀ l ∈ literals, l.code.toNat / 2 ≤ h.maxVar.toNat := by
  rw [(checked_checkLimit h number literals).eq_ok_iff]
  simp only [UInt64.le_iff_toNat_le, Literal.toNat_var]

end Header

namespace Declaration
variable {α : Type} {d : Declaration α} {h : Header} {line : Line}

/-- A line declares an entry if its literals, one numeral each, make that entry. -/
def Reads (d : Declaration α) (maxVar : UInt64) (line : Line) (entry : α) : Prop :=
  ∃ literals, Writes maxVar line literals ∧ d.ofLiterals? line.number literals = some entry

theorem readLiterals_eq_ok_iff {sect : Section} {number : Nat} {fields : List (List Char)}
    {literals : List Literal} : fields.mapM (readLiteral sect number) = .ok literals ↔
      List.Forall₂ (fun word l => IsUnsigned word l.code.toNat) fields literals := by
  have each : ∀ word l, readLiteral sect number word = .ok l ↔ IsUnsigned word l.code.toNat := by
    intro word l
    rw [readLiteral, ← readUnsigned_eq_ok_iff]
    cases readUnsigned word with
    | error e => simp
    | ok code => simp [Literal.ext_iff]
  simp only [mapM_eq_ok_iff, each]

/-- The reader of a line takes exactly the lines that declare an entry. -/
theorem read_eq_ok_iff {entry : α} :
    d.read h.maxLiteral line.trimmed = .ok entry ↔ d.Reads h.maxVar line entry := by
  rw [read_eq_ok_iff_fields, fields_trimmed]
  constructor
  · rintro ⟨literals, numerals, declared, bounded⟩
    have written : Writes h.maxVar line literals :=
      ⟨readLiterals_eq_ok_iff.mp numerals, checkLimit_eq_ok_iff.mp bounded⟩
    exact ⟨literals, written, declared⟩
  · rintro ⟨literals, written, declared⟩
    exact ⟨literals, readLiterals_eq_ok_iff.mpr written.numerals, declared,
      checkLimit_eq_ok_iff.mpr written.bounded⟩

end Declaration

end AndInverter.Aag
