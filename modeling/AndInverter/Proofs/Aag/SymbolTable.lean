import AndInverter.Aag.Printer
import AndInverter.Proofs.Aag.SymbolNames

/-!
# The symbol table that is read

A name is the last one given to its position, and a position stands where it was named first. Lines
in front of the comment mark that name nothing do not matter, and comments are never names. Nothing
is said about where positions point: the reader keeps names for positions that no section has.
-/
namespace AndInverter.Aag
open Text

/-- The lines behind the sections, without the blanks around them. -/
def tailLines (h : Header) (text : List Char) : List (List Char) :=
  ((nonblankLines text).drop (1 + sectionLength h)).map fun line => trim line.text

def frontLines (h : Header) (text : List Char) : List Line :=
  (nonblankLines text).take (1 + sectionLength h)

section Table
variable {line : List Char} {key : Role × UInt64}

theorem any_readSymbol?_iff : (readSymbol? line).any (·.1 = key) = true ↔
    ∃ name, Names line key name := by
  simp only [Option.any_eq_true, decide_eq_true_eq, ← readSymbol?_eq_some_iff]
  constructor
  · rintro ⟨⟨_, name⟩, symbol, rfl⟩
    exact ⟨name, symbol⟩
  · rintro ⟨name, symbol⟩
    exact ⟨(key, name), symbol, rfl⟩

instance : Decidable (∃ name, Names line key name) := decidable_of_iff _ any_readSymbol?_iff

def IsSymbolLine (line : List Char) : Prop := ∃ key name, Names line key name

theorem isSome_readSymbol?_iff : (readSymbol? line).isSome = true ↔ IsSymbolLine line := by
  rw [Option.isSome_iff_exists]
  constructor
  · rintro ⟨⟨key, name⟩, symbol⟩
    exact ⟨key, name, readSymbol?_eq_some_iff.mp symbol⟩
  · rintro ⟨key, name, names⟩
    exact ⟨(key, name), readSymbol?_eq_some_iff.mpr names⟩

instance : DecidablePred IsSymbolLine := fun _ => decidable_of_iff _ isSome_readSymbol?_iff

def LastNames (table : List (List Char)) (key : Role × UInt64) (name : String) : Prop :=
  ∃ before line after, table = before ++ line :: after ∧ Names line key name ∧
    ∀ l ∈ after, ∀ other, ¬ Names l key other

def firstNaming (table : List (List Char)) (key : Role × UInt64) : Nat :=
  table.findIdx fun line => ∃ name, Names line key name

theorem firstPlace_readSymbol? (table : List (List Char)) :
    OrderedMap.firstPlace readSymbol? table = firstNaming table := by
  funext key
  have same (line : List Char) : (readSymbol? line).any (·.1 = key) =
      decide (∃ name, Names line key name) :=
    Bool.eq_iff_iff.mpr (any_readSymbol?_iff.trans decide_eq_true_iff.symm)
  exact congrArg (table.findIdx ·) (funext same)

/-- Lines that name nothing can be left out. -/
theorem filterMap_readSymbol?_filter (table : List (List Char)) :
    (table.filter fun line => IsSymbolLine line).filterMap readSymbol? =
      table.filterMap readSymbol? := by
  rw [List.filterMap_filter]
  congr 1
  funext line
  split
  · rfl
  · next idle =>
    rw [decide_eq_true_iff, ← isSome_readSymbol?_iff, Option.not_isSome_iff_eq_none] at idle
    exact idle.symm

end Table

/-- The names and the comments of the circuit are those of its table and of the lines behind it. -/
structure HasTable (c : Circuit) (table comments : List (List Char)) : Prop where
  named : ∀ role index name, c.symbol role index = some name ↔ LastNames table (role, index) name
  unnamed : ∀ role index, c.symbol role index = none ↔
    ∀ line ∈ table, ∀ name, ¬ Names line (role, index) name
  distinct : c.symbols.keys.Nodup
  ordered : c.symbols.keys.Pairwise fun key key' => firstNaming table key < firstNaming table key'
  names : ∀ entry ∈ c.symbols.entries, IsSymbolName entry.2
  comments_eq : c.comments = comments.map String.ofList

section Reading
variable {text : List Char} {c : Circuit} {h : Header} {table comments : List (List Char)}

theorem tailLines_eq {first : Line} {body : List Line}
    (lines_eq : nonblankLines text = first :: body) : tailLines h text =
      ((body.drop (sectionLength h)).map Line.trimmed).map Line.text := by
  rw [tailLines, lines_eq, Nat.add_comm, List.drop_succ_cons, List.map_map]
  rfl

/-- A section is among the lines that a header declares. -/
theorem window_take (sect : Section) (h : Header) (body : List Line) :
    sect.window h (body.take (sectionLength h)) = sect.window h body := by
  have within : sect.count h ≤ sectionLength h - sect.offset h := by
    cases sect <;> simp only [Section.count, Section.offset, sectionLength] <;> omega
  rw [Section.window, List.drop_take, List.take_take, Nat.min_eq_left within, Section.window]

/-- The sections are read alike from all texts that begin with their lines. -/
theorem readSections_of_take_eq {total total' : Nat} {body body' : List Line} {s : Sections}
    (same : body'.take (sectionLength h) = body.take (sectionLength h))
    (sections : readSections h total (body.map Line.trimmed) = .ok s) :
    readSections h total' (body'.map Line.trimmed) =
      .ok { s with rest := (body'.drop (sectionLength h)).map Line.trimmed } := by
  obtain ⟨enough, inputs, latches, outputs, gates, _⟩ := readSections_eq_ok_iff.mp sections
  have window_eq (sect : Section) : sect.window h body = sect.window h body' := by
    rw [← window_take, ← same, window_take]
  have enough' : sectionLength h ≤ body'.length := by
    have length := congrArg List.length same
    rw [List.length_take, List.length_take] at length
    rw [← sectionLength] at enough
    omega
  rw [window_eq] at inputs latches outputs gates
  exact readSections_eq_ok_iff.mpr ⟨enough', inputs, latches, outputs, gates, rfl⟩

/-- Symbols and comments of a text that is read. -/
theorem symbols_of_read (ok : (read text.utf8Encode).outcome = .ok c)
    (cut : CutAtMark (tailLines c.header text) table comments) :
    c.symbols = .ofList (table.filterMap readSymbol?) ∧
      c.comments = comments.map String.ofList := by
  obtain ⟨first, body, s, lines_eq, _, sections, assembled⟩ := read_utf8Encode_eq_ok_iff.mp ok
  obtain ⟨_, _, _, _, _, rest_eq⟩ := readSections_eq_ok_iff.mp sections
  rw [tailLines_eq lines_eq, sectionLength, rest_eq] at cut
  rw [← assembled]
  exact cut.ofLines

/-- The symbols that are read are those that the table gives. -/
theorem hasTable_of_read (ok : (read text.utf8Encode).outcome = .ok c)
    (cut : CutAtMark (tailLines c.header text) table comments) : HasTable c table comments where
  named role index name := by
    rw [Circuit.symbol, (symbols_of_read ok cut).1, OrderedMap.get?_ofList_eq_some_iff,
      OrderedMap.isLast_filterMap_iff]
    simp only [ne_eq, readSymbol?_eq_some_iff]
    rfl
  unnamed role index := by
    rw [Circuit.symbol, (symbols_of_read ok cut).1, OrderedMap.get?_eq_none_iff,
      OrderedMap.keys_ofList, OrderedMap.mem_firstKeys, OrderedMap.mem_keys_filterMap]
    simp only [readSymbol?_eq_some_iff, not_exists, not_and]
  distinct := c.symbols.nodup
  ordered := by
    rw [(symbols_of_read ok cut).1, ← firstPlace_readSymbol?]
    exact OrderedMap.keys_ofList_filterMap_pairwise
  names := isSymbolName_of_mem_symbols ok
  comments_eq := (symbols_of_read ok cut).2

/-- A text with the same header and sections, the same symbols and the same comments is read as the
same circuit. -/
theorem read_of_same_front {text' : List Char} {table' : List (List Char)}
    (ok : (read text.utf8Encode).outcome = .ok c)
    (cut : CutAtMark (tailLines c.header text) table comments)
    (cut' : CutAtMark (tailLines c.header text') table' comments)
    (front : frontLines c.header text' = frontLines c.header text)
    (symbols : table'.filterMap readSymbol? = table.filterMap readSymbol?) :
    (read text'.utf8Encode).outcome = .ok c := by
  obtain ⟨symbols_eq, comments_eq⟩ := symbols_of_read ok cut
  obtain ⟨first, body, s, lines_eq, header, sections, assembled⟩ :=
    read_utf8Encode_eq_ok_iff.mp ok
  rw [frontLines, frontLines, lines_eq, Nat.add_comm, List.take_succ_cons] at front
  cases lines_eq' : nonblankLines text' with
  | nil =>
    rw [lines_eq'] at front
    cases front
  | cons first' body' =>
    rw [lines_eq', List.take_succ_cons] at front
    obtain ⟨rfl, same⟩ := List.cons.inj front
    rw [tailLines_eq lines_eq'] at cut'
    obtain ⟨symbols_eq', comments_eq'⟩ := cut'.ofLines
    refine read_utf8Encode_eq_ok_iff.mpr
      ⟨_, body', _, lines_eq', header, readSections_of_take_eq same sections, ?_⟩
    rw [assemble, symbols_eq', symbols, ← symbols_eq, comments_eq', ← comments_eq, ← assembled]
    rfl

/-- The table in front of the first comment mark says what the names are, and lines of it that name
nothing can be added, changed or left out. -/
theorem read_symbol_table (ok : (read text.utf8Encode).outcome = .ok c) :
    ∃ table comments, CutAtMark (tailLines c.header text) table comments ∧
      HasTable c table comments ∧
      ∀ text' table', frontLines c.header text' = frontLines c.header text →
        CutAtMark (tailLines c.header text') table' comments →
        (table'.filter fun line => IsSymbolLine line) =
          (table.filter fun line => IsSymbolLine line) →
        (read text'.utf8Encode).outcome = .ok c := by
  obtain ⟨table, comments, cut⟩ := exists_cutAtMark (tailLines c.header text)
  refine ⟨table, comments, cut, hasTable_of_read ok cut, ?_⟩
  intro text' table' front cut' symbols
  have same := congrArg (List.filterMap readSymbol?) symbols
  rw [filterMap_readSymbol?_filter, filterMap_readSymbol?_filter] at same
  exact read_of_same_front ok cut cut' front same

end Reading

/-- Two positions named more than once and in different spellings, a name with a blank in front,
lines that name nothing, one of them like a comment mark, and comments like a symbol and a mark. -/
def namedText : List Char :=
  ["aag 1 1 0 1 0", "2", "2", "o0 y", " i0 old ", "i0 a b", "x y", "l0", "i+07  late", "ö0 z",
    "i00 new", "c0 q", "o+0 out", "c", "i0 comment", "", " c "].flatMap (·.toList ++ ['\n'])

def namedCircuit : Circuit where
  header := ⟨1, 1, 0, 1, 0⟩
  inputs := [⟨2⟩]
  latches := []
  outputs := [⟨2⟩]
  gates := []
  symbols := .ofList [((.output, 0), "out"), ((.input, 0), "new"), ((.input, 7), " late")]
  comments := ["i0 comment", "c"]

theorem read_symbol_table_named : (read namedText.utf8Encode).outcome = .ok namedCircuit ∧
    ∃ table comments, CutAtMark (tailLines namedCircuit.header namedText) table comments ∧
      HasTable namedCircuit table comments := by
  have ok : (read namedText.utf8Encode).outcome = .ok namedCircuit := by decide +kernel
  obtain ⟨table, comments, cut, hasTable, _⟩ := read_symbol_table ok
  exact ⟨ok, table, comments, cut, hasTable⟩

end AndInverter.Aag
