import AndInverter.Text.Pieces
import Mathlib.Data.List.TakeWhile

/-!
# Words and lines of a text

Cutting by folds agrees with the library's splitting of lists. Trimming takes away blanks only, so
that a line has the same words before and after it. Lines differ in one place: behind a final line
feed the library's split has an empty piece, which is no line here.
-/
namespace AndInverter.Text

def words (text : List Char) : List (List Char) :=
  (text.splitOnP isBlank).filter fun piece => !piece.isEmpty

/-- Cutting by a fold is the library's splitting. -/
theorem pieces_eq_splitOnP (p : Char → Bool) (text : List Char) :
    pieces p text = text.splitOnP p := by
  induction text with
  | nil => rw [pieces_nil, List.splitOnP_nil]
  | cons c rest ih =>
    rw [pieces_cons, ih, List.splitOnP_cons_eq_if_modifyHead, cutStep.eq_def]
    cases h : rest.splitOnP p with
    | nil => exact absurd h (List.splitOnP_ne_nil p rest)
    | cons piece more => rfl

theorem fields_eq_words (text : List Char) : fields text = words text := by
  rw [fields, words, pieces_eq_splitOnP]

section Trimming
variable {c : Char} {raw : List Char}

/-- A blank ends the words before it. -/
theorem words_append_blank (before : List Char) (blank : isBlank c = true) (after : List Char) :
    words (before ++ c :: after) = words before ++ words after := by
  rw [words, List.splitOnP_append_cons before after blank, List.filter_append]
  rfl

theorem words_trimStart (raw : List Char) : words (trimStart raw) = words raw := by
  induction raw with
  | nil => rfl
  | cons c rest ih =>
    by_cases blank : isBlank c = true
    · have first : words (c :: rest) = words rest := words_append_blank [] blank rest
      rw [first, ← ih, trimStart, List.dropWhile_cons_of_pos blank]
      rfl
    · rw [trimStart, List.dropWhile_cons_of_neg blank]

theorem words_reverse_dropWhile (back : List Char) :
    words (back.dropWhile isBlank).reverse = words back.reverse := by
  induction back with
  | nil => rfl
  | cons c rest ih =>
    by_cases blank : isBlank c = true
    · have last : words (rest.reverse ++ [c]) = words rest.reverse := by
        rw [words_append_blank _ blank]
        exact List.append_nil _
      rw [List.dropWhile_cons_of_pos blank, ih, List.reverse_cons, last]
    · rw [List.dropWhile_cons_of_neg blank]

theorem words_trim (raw : List Char) : words (trim raw) = words raw := by
  have back := words_reverse_dropWhile (trimStart raw).reverse
  rw [List.reverse_reverse, words_trimStart] at back
  exact back

theorem trim_subset (raw : List Char) : trim raw ⊆ raw := by
  intro c hc
  rw [trim, trimEnd, List.mem_reverse] at hc
  have back := (List.dropWhile_sublist isBlank).subset hc
  exact (List.dropWhile_sublist isBlank).subset (List.mem_reverse.mp back)

/-- Nothing is left exactly of a line of blanks. -/
theorem trim_eq_nil_iff : trim raw = [] ↔ ∀ c ∈ raw, isBlank c = true := by
  rw [trim, trimEnd, List.reverse_eq_nil_iff, List.dropWhile_eq_nil_iff]
  constructor
  · intro h c hc
    rw [← List.takeWhile_append_dropWhile (p := isBlank) (l := raw), List.mem_append] at hc
    rcases hc with hc | hc
    · exact List.mem_takeWhile_imp hc
    · exact h c (List.mem_reverse.mpr hc)
  · intro h c hc
    exact h c ((List.dropWhile_sublist isBlank).subset (List.mem_reverse.mp hc))

end Trimming

theorem lines_eq_nil_iff {text : List Char} : lines text = [] ↔ text = [] := by
  cases text with
  | nil => simp
  | cons c rest =>
    rw [lines_cons, cutStep.eq_def]
    refine iff_of_false ?_ (List.cons_ne_nil c rest)
    split
    · exact List.cons_ne_nil _ _
    · split <;> exact List.cons_ne_nil _ _

/-- The number of lines: a line feed ends each, but for a last one that does not end. -/
def lineCount (text : List Char) : Nat :=
  text.count '\n' + if text.getLast?.all (· == '\n') then 0 else 1

/-- The lines cut are as many as line feeds and a last line without one. -/
theorem length_lines (text : List Char) : (lines text).length = lineCount text := by
  induction text with
  | nil => rfl
  | cons c rest ih =>
    rw [lineCount] at ih ⊢
    rw [lines_cons, cutStep.eq_def, List.count_cons, List.getLast?_cons]
    by_cases feed : (c == '\n') = true
    · rw [if_pos feed, if_pos feed, List.length_cons, ih]
      cases rest.getLast? with
      | none => simp [feed]
      | some d => simp [Nat.add_right_comm]
    · rw [if_neg feed, if_neg feed, Nat.add_zero]
      cases cut : lines rest with
      | nil =>
        rw [lines_eq_nil_iff.mp cut]
        simpa using feed
      | cons line more =>
        have nonempty : rest ≠ [] := fun empty => by simp [empty] at cut
        rw [cut] at ih
        rw [List.getLast?_eq_some_getLast nonempty] at ih ⊢
        exact ih

/-- The lines are the pieces between line feeds, but for an empty last one. -/
theorem splitOn_eq_lines (text : List Char) :
    text.splitOn '\n' = lines text ∨ text.splitOn '\n' = lines text ++ [[]] := by
  induction text with
  | nil => exact Or.inr rfl
  | cons c rest ih =>
    rw [List.splitOn_cons_eq_if_modifyHead, lines_cons, cutStep.eq_def]
    by_cases feed : (c == '\n') = true
    · rw [if_pos feed, if_pos feed]
      rcases ih with ih | ih
      · exact Or.inl (congrArg (List.cons []) ih)
      · exact Or.inr (congrArg (List.cons []) ih)
    · rw [if_neg feed, if_neg feed]
      cases h : lines rest with
      | nil =>
        rw [h, List.nil_append] at ih
        have last := ih.resolve_left (List.splitOn_ne_nil '\n' rest)
        exact Or.inl (by rw [last]; rfl)
      | cons line more =>
        rw [h] at ih
        rcases ih with ih | ih
        · exact Or.inl (by rw [ih]; rfl)
        · exact Or.inr (by rw [ih]; rfl)

end AndInverter.Text
