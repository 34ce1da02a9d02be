import AndInverter.Aag.Reader
import AndInverter.Proofs.Text.Joined
import AndInverter.Proofs.Text.Numeral

/-!
# Symbols, comments and other lines

What a line of the symbol table says, and where the table ends. The first space of a symbol ends its
numeral, so names may hold spaces; numerals of one position have many spellings. The first line that
is a comment mark ends the table, and no line behind it is looked at again.
-/
namespace AndInverter.Aag
open Text

section Symbols
variable {line numeral : List Char} {key : Role × UInt64} {name : String} {n : Nat}

/-- The line names a position: the letter of its section, its number, a space and the name. -/
def Names (line : List Char) (key : Role × UInt64) (name : String) : Prop :=
  ∃ numeral, IsUnsigned numeral key.2.toNat ∧
    line = key.1.marker :: (numeral ++ ' ' :: name.toList)

theorem space_not_mem_of_isUnsigned (unsigned : IsUnsigned numeral n) : ' ' ∉ numeral := by
  obtain ⟨digits, isDigits, _, spelled⟩ := unsigned
  have no_space : ' ' ∉ digits := fun space => absurd (isDigits.isDigit ' ' space) (by decide)
  rcases spelled with rfl | rfl
  · exact no_space
  · rw [List.mem_cons, not_or]
    exact ⟨by decide, no_space⟩

theorem toOption_readUnsigned_eq_some_iff {w : UInt64} :
    (readUnsigned numeral).toOption = some w ↔ IsUnsigned numeral w.toNat := by
  rw [← readUnsigned_eq_ok_iff]
  cases readUnsigned numeral <;> simp [Except.toOption]

/-- The symbols that are read are the names that the lines give. -/
theorem readSymbol?_eq_some_iff : readSymbol? line = some (key, name) ↔ Names line key name := by
  obtain ⟨role, index⟩ := key
  constructor
  · intro symbol
    cases line with
    | nil => cases symbol
    | cons marker rest =>
      simp only [readSymbol?, Option.bind_eq_bind, Option.bind_eq_some_iff] at symbol
      obtain ⟨_, marked, ⟨numeral, after⟩, cut, _, number, found⟩ := symbol
      cases found
      obtain ⟨rfl, _⟩ := splitFirst_eq_some_iff.mp cut
      obtain rfl := Role.ofMarker?_eq_some_iff.mp marked
      refine ⟨numeral, toOption_readUnsigned_eq_some_iff.mp number, ?_⟩
      rw [String.toList_ofList]
  · rintro ⟨numeral, unsigned, rfl⟩
    have marker := Role.ofMarker?_eq_some_iff.mpr (Eq.refl role.marker)
    have cut := splitFirst_append (space_not_mem_of_isUnsigned unsigned) name.toList
    have number := toOption_readUnsigned_eq_some_iff.mpr unsigned
    rw [readSymbol?, marker, cut]
    simp only [Option.bind_eq_bind, Option.bind_some, number, String.ofList_toList]
    rfl

end Symbols

section Cut
variable {lines table comments : List (List Char)}

/-- The lines in front of the first comment mark, and the lines behind it. -/
inductive CutAtMark : List (List Char) → List (List Char) → List (List Char) → Prop
  | unmarked {table : List (List Char)} (absent : ['c'] ∉ table) : CutAtMark table table []
  | marked {table : List (List Char)} (absent : ['c'] ∉ table) (comments : List (List Char)) :
      CutAtMark (table ++ ['c'] :: comments) table comments

theorem exists_cutAtMark (lines : List (List Char)) :
    ∃ table comments, CutAtMark lines table comments := by
  by_cases mark : ['c'] ∈ lines
  · obtain ⟨table, comments, rfl, absent⟩ := List.eq_append_cons_of_mem mark
    exact ⟨table, comments, .marked absent comments⟩
  · exact ⟨lines, [], .unmarked mark⟩

/-- The table ends at the first comment mark, and lines that name nothing leave no trace. -/
theorem symbols_ofLines (rest : List Line) : (SymbolTable.ofLines rest).symbols =
    .ofList (((rest.map Line.text).takeWhile (!· == ['c'])).filterMap readSymbol?) := by
  rw [List.takeWhile_map, List.filterMap_map]
  rfl

/-- Everything behind the first comment mark is a comment, marks included. -/
theorem comments_ofLines (rest : List Line) : (SymbolTable.ofLines rest).comments =
    (((rest.map Line.text).dropWhile (!· == ['c'])).drop 1).map String.ofList := by
  rw [List.dropWhile_map, ← List.map_drop, List.map_map]
  rfl

/-- The cut is the one that the reader makes. -/
theorem CutAtMark.takeWhile_eq (cut : CutAtMark lines table comments) :
    lines.takeWhile (!· == ['c']) = table ∧
      (lines.dropWhile (!· == ['c'])).drop 1 = comments := by
  have passes (absent : ['c'] ∉ table) : ∀ line ∈ table, (!line == ['c']) = true := by
    intro line hl
    rw [Bool.not_eq_true', beq_eq_false_iff_ne]
    rintro rfl
    exact absent hl
  cases cut with
  | unmarked absent =>
    rw [List.takeWhile_eq_self_iff.mpr (passes absent),
      List.dropWhile_eq_nil_iff.mpr (passes absent)]
    exact ⟨rfl, rfl⟩
  | marked absent =>
    rw [List.takeWhile_append_of_pos (passes absent), List.dropWhile_append_of_pos (passes absent)]
    exact ⟨List.append_nil table, rfl⟩

/-- Symbols come from the lines in front of the mark only, comments are the lines behind it. -/
theorem CutAtMark.ofLines {rest : List Line}
    (cut : CutAtMark (rest.map Line.text) table comments) :
    (SymbolTable.ofLines rest).symbols = .ofList (table.filterMap readSymbol?) ∧
      (SymbolTable.ofLines rest).comments = comments.map String.ofList := by
  obtain ⟨table_eq, comments_eq⟩ := cut.takeWhile_eq
  rw [symbols_ofLines, comments_ofLines, table_eq, comments_eq]
  exact ⟨rfl, rfl⟩

end Cut

end AndInverter.Aag
