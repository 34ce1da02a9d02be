import AndInverter.Aag.Printer
import AndInverter.Proofs.Aag.Tail
import AndInverter.Proofs.Aag.Windows
import AndInverter.Proofs.OrderedMap

/-!
# Printed lines

Every line that is printed says to its reader what was printed on it. Lines are found again if they
hold no line feed and are not blank; then their numbers are their places in what was printed.
-/
namespace AndInverter.Aag
open Text

section Numerals
variable {maxVar : UInt64} {number : Nat}

theorem isWord_of_mem_numerals {numbers : List UInt64} :
    ∀ word ∈ numbers.map (fun n => natural n.toNat), IsWord word := by
  intro word hw
  obtain ⟨n, _, rfl⟩ := List.mem_map.mp hw
  exact isWord_natural n.toNat

theorem fields_numeralLine (numbers : List UInt64) :
    fields (numeralLine numbers) = numbers.map fun n => natural n.toNat :=
  fields_intercalate_space isWord_of_mem_numerals

theorem feed_not_mem_numeralLine (numbers : List UInt64) : '\n' ∉ numeralLine numbers :=
  not_mem_intercalate_space (by decide) fun word hw => (isWord_of_mem_numerals word hw).not_mem rfl

theorem headerLine_eq (h : Header) : headerLine h = ['a', 'a', 'g'] ++ ' ' ::
    numeralLine [h.maxVar, h.inputs, h.latches, h.outputs, h.gates] := rfl

theorem words_headerLine (h : Header) : words (headerLine h) =
    ['a', 'a', 'g'] :: [h.maxVar, h.inputs, h.latches, h.outputs, h.gates].map
      fun n => natural n.toNat := by
  have magic : IsWord ['a', 'a', 'g'] := isWord_of_all (by decide) rfl
  rw [← fields_eq_words, headerLine_eq, magic.fields_append rfl, fields_numeralLine]

/-- The printed header line is a header line. -/
theorem isHeader_headerLine (h : Header) : IsHeader ⟨number, headerLine h⟩ h :=
  ⟨_, _, _, _, _, words_headerLine h, isUnsigned_natural _, isUnsigned_natural _,
    isUnsigned_natural _, isUnsigned_natural _, isUnsigned_natural _⟩

/-- Numerals of literals are read as these literals, up to the largest word. -/
theorem writes_numeralLine {literals : List Literal} (bounded : ∀ l ∈ literals, l.var ≤ maxVar) :
    Writes maxVar ⟨number, numeralLine (literals.map Literal.code)⟩ literals where
  numerals := by
    rw [← fields_eq_words, fields_numeralLine, List.map_map, List.forall₂_map_left_iff]
    exact List.forall₂_same.mpr fun l _ => isUnsigned_natural l.code.toNat
  bounded := by
    intro l hl
    have le := UInt64.le_iff_toNat_le.mp (bounded l hl)
    rwa [l.toNat_var] at le

theorem latchLine_eq (latch : Latch) :
    latchLine latch = numeralLine (latch.literals.map Literal.code) := by
  obtain ⟨literal, next, reset⟩ := latch
  cases reset <;> rfl

end Numerals

section Symbols

theorem symbolLine_eq (role : Role) (index : UInt64) (name : String) :
    symbolLine ((role, index), name) =
      role.marker :: (natural index.toNat ++ ' ' :: name.toList) := rfl

/-- A printed symbol reads back, whatever its name. -/
theorem readSymbol?_symbolLine (entry : (Role × UInt64) × String) :
    readSymbol? (symbolLine entry) = some entry := by
  obtain ⟨⟨role, index⟩, name⟩ := entry
  exact readSymbol?_eq_some_iff.mpr ⟨_, isUnsigned_natural _, symbolLine_eq role index name⟩

theorem commentLines_nil : commentLines [] = [] := rfl

theorem commentLines_cons (comment : String) (more : List String) :
    commentLines (comment :: more) = ['c'] :: (comment :: more).map String.toList := rfl

end Symbols

section Numbering
variable {all : List (List Char)} {first : Nat}

def numbered (first : Nat) (all : List (List Char)) : List Line :=
  (all.zipIdx first).map fun entry => ⟨entry.2, entry.1⟩

theorem numbered_cons (first : Nat) (line : List Char) (rest : List (List Char)) :
    numbered first (line :: rest) = ⟨first, line⟩ :: numbered (first + 1) rest := rfl

theorem numbered_append (first : Nat) (all more : List (List Char)) :
    numbered first (all ++ more) = numbered first all ++ numbered (first + all.length) more := by
  rw [numbered, List.zipIdx_append, List.map_append]
  rfl

theorem length_numbered : (numbered first all).length = all.length := by
  rw [numbered, List.length_map, List.length_zipIdx]

theorem map_text_numbered : (numbered first all).map Line.text = all := by
  rw [numbered, List.map_map]
  exact List.zipIdx_map_fst first all

/-- Lines that are printed from entries are related to them one by one if each is in its place. -/
theorem forall₂_numbered {α : Type} {r : Line → α → Prop} {print : α → List Char}
    {entries : List α} (related : ∀ k x, entries[k]? = some x → r ⟨first + k, print x⟩ x) :
    List.Forall₂ r (numbered first (entries.map print)) entries := by
  induction entries generalizing first with
  | nil => exact .nil
  | cons x rest ih =>
    refine .cons (related 0 x rfl) (ih ?_)
    intro k y hy
    rw [Nat.add_right_comm, Nat.add_assoc]
    exact related (k + 1) y hy

theorem map_trimmed_numbered (trimmed : ∀ line ∈ all, trim line = line) (first : Nat) :
    (numbered first all).map Line.trimmed = numbered first all := by
  induction all generalizing first with
  | nil => rfl
  | cons line rest ih =>
    have here : Line.trimmed ⟨first, line⟩ = ⟨first, line⟩ :=
      congrArg (Line.mk first) (trimmed line List.mem_cons_self)
    have later := ih (fun l hl => trimmed l (List.mem_cons_of_mem line hl)) (first + 1)
    rw [numbered_cons, List.map_cons, here, later]

end Numbering

section Keeping

/-- A line that is found again: it holds no line feed and something that is no blank. -/
structure Kept (line : List Char) : Prop where
  whole : '\n' ∉ line
  solid : ∃ c ∈ line, isBlank c = false

theorem Kept.not_blank {line : List Char} (kept : Kept line) : ¬ line.all isBlank = true := by
  obtain ⟨c, hc, solid⟩ := kept.solid
  intro blank
  rw [List.all_eq_true.mp blank c hc] at solid
  cases solid

theorem exists_solid_of_words {line word : List Char} {rest : List (List Char)}
    (found : words line = word :: rest) : ∃ c ∈ line, isBlank c = false := by
  by_contra none
  have blank : ∀ c ∈ line, isBlank c = true := by
    intro c hc
    by_contra solid
    exact none ⟨c, hc, Bool.eq_false_iff.mpr solid⟩
  have gone := words_trim line
  rw [trim_eq_nil_iff.mpr blank, found] at gone
  cases gone

theorem kept_headerLine (h : Header) : Kept (headerLine h) where
  whole := by
    intro feed
    rcases List.mem_append.mp (headerLine_eq h ▸ feed) with magic | rest
    · exact absurd magic (by decide)
    · exact feed_not_mem_numeralLine _ ((List.mem_cons.mp rest).resolve_left (by decide))
  solid := exists_solid_of_words (words_headerLine h)

theorem kept_numeralLine (n : UInt64) (rest : List UInt64) : Kept (numeralLine (n :: rest)) where
  whole := feed_not_mem_numeralLine (n :: rest)
  solid := exists_solid_of_words ((fields_eq_words _).symm.trans (fields_numeralLine (n :: rest)))

theorem kept_sectionLines (c : Circuit) : ∀ line ∈ sectionLines c, Kept line := by
  intro line hl
  simp only [sectionLines, List.mem_append, List.mem_map] at hl
  rcases hl with ((⟨l, _, rfl⟩ | ⟨latch, _, rfl⟩) | ⟨l, _, rfl⟩) | ⟨g, _, rfl⟩
  · exact kept_numeralLine l.code []
  · exact kept_numeralLine latch.literal.code _
  · exact kept_numeralLine l.code []
  · exact kept_numeralLine g.output.code _

/-- All lines of a text are kept with their numbers if each of them is kept. -/
theorem keepNonblank_zipIdx {all : List (List Char)} (kept : ∀ line ∈ all, Kept line)
    (first : Nat) : keepNonblank (all.zipIdx first) = numbered first all := by
  induction all generalizing first with
  | nil => rfl
  | cons line rest ih =>
    have later := ih (fun l hl => kept l (List.mem_cons_of_mem line hl)) (first + 1)
    rw [List.zipIdx_cons, keepNonblank_cons, if_neg (kept line List.mem_cons_self).not_blank, later,
      numbered_cons]

/-- Lines that are found again keep their order and are numbered from one. -/
theorem nonblankLines_flatMap_feed {all : List (List Char)} (kept : ∀ line ∈ all, Kept line) :
    nonblankLines (all.flatMap (· ++ ['\n'])) = numbered 1 all := by
  rw [nonblankLines_eq, lines_flatMap_feed fun line hl => (kept line hl).whole,
    keepNonblank_zipIdx kept]

end Keeping

end AndInverter.Aag
