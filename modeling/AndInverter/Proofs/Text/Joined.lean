import AndInverter.Proofs.Text.Words
import AndInverter.Text.Decimal

/-!
# Cutting joined texts

A text put together from pieces is cut into the same pieces again: lines that hold no line feed,
words that hold no blank, a pair whose first part does not hold the separator.
-/
namespace AndInverter.Text

section Pieces
variable {p : Char → Bool} {c : Char}

theorem cutStep_of_separates (separates : p c = true) (cut : List (List Char)) :
    cutStep p c cut = [] :: cut := by
  rw [cutStep.eq_def, if_pos separates]

theorem cutStep_cons (joins : p c = false) (piece : List Char) (rest : List (List Char)) :
    cutStep p c (piece :: rest) = (c :: piece) :: rest := by
  rw [cutStep.eq_def, if_neg (Bool.not_eq_true _ ▸ joins)]

theorem pieces_of_forall {text : List Char} (whole : ∀ c ∈ text, p c = false) :
    pieces p text = [text] := by
  induction text with
  | nil => rfl
  | cons c rest ih =>
    have later := ih fun d hd => whole d (List.mem_cons_of_mem c hd)
    rw [pieces_cons, later, cutStep_cons (whole c List.mem_cons_self)]

/-- A text without separators joins the last piece of the text before it. That piece is empty only
if the text before is or ends in a separator. -/
theorem exists_pieces_append (p : Char → Bool) (text : List Char) :
    ∃ front last, (last = [] → text = [] ∨ ∃ c, text.getLast? = some c ∧ p c = true) ∧
      ∀ more, (∀ c ∈ more, p c = false) → pieces p (text ++ more) = front ++ [last ++ more] := by
  induction text with
  | nil => exact ⟨[], [], fun _ => Or.inl rfl, fun more whole => pieces_of_forall whole⟩
  | cons c rest ih =>
    obtain ⟨front, last, ends, joins⟩ := ih
    cases separates : p c with
    | true =>
      refine ⟨[] :: front, last, ?_, ?_⟩
      · intro empty
        right
        rcases ends empty with rfl | ⟨d, found, hd⟩
        · exact ⟨c, rfl, separates⟩
        · exact ⟨d, by rw [List.getLast?_cons, found]; rfl, hd⟩
      · intro more whole
        rw [List.cons_append, pieces_cons, joins more whole, cutStep_of_separates separates]
        rfl
    | false =>
      cases front with
      | nil =>
        refine ⟨[], c :: last, fun empty => (by cases empty), ?_⟩
        intro more whole
        rw [List.cons_append, pieces_cons, joins more whole]
        exact cutStep_cons separates _ _
      | cons piece front =>
        refine ⟨(c :: piece) :: front, last, ?_, ?_⟩
        · intro empty
          right
          rcases ends empty with rfl | ⟨d, found, hd⟩
          · have alone := joins [] (by simp)
            simp [empty] at alone
          · exact ⟨d, by rw [List.getLast?_cons, found]; rfl, hd⟩
        · intro more whole
          rw [List.cons_append, pieces_cons, joins more whole]
          exact cutStep_cons separates _ _

end Pieces

section Lines
variable {c : Char} {text line : List Char} {rest : List (List Char)}

theorem lines_cons_feed (text : List Char) : lines ('\n' :: text) = [] :: lines text := rfl

theorem lines_cons_of_ne (ne : c ≠ '\n') (cut : lines text = line :: rest) :
    lines (c :: text) = (c :: line) :: rest := by
  rw [lines_cons, cut]
  exact cutStep_cons (p := (· == '\n')) (beq_eq_false_iff_ne.mpr ne) line rest

theorem lines_cons_last (ne : c ≠ '\n') (cut : lines text = []) : lines (c :: text) = [[c]] := by
  rw [lines_cons, cut, cutStep.eq_def, if_neg (by simpa using ne)]

/-- A line feed ends the line before it. -/
theorem lines_append_feed (whole : '\n' ∉ line) (text : List Char) :
    lines (line ++ '\n' :: text) = line :: lines text := by
  induction line with
  | nil => exact lines_cons_feed text
  | cons c line ih =>
    have here : c ≠ '\n' := fun feed => whole (feed ▸ List.mem_cons_self)
    exact lines_cons_of_ne here (ih fun h => whole (List.mem_cons_of_mem c h))

/-- Lines written with a feed behind each are cut at these feeds and nowhere else. -/
theorem lines_flatMap_feed {all : List (List Char)} (whole : ∀ line ∈ all, '\n' ∉ line) :
    lines (all.flatMap (· ++ ['\n'])) = all := by
  induction all with
  | nil => rfl
  | cons line rest ih =>
    have later := ih fun l hl => whole l (List.mem_cons_of_mem line hl)
    rw [List.flatMap_cons, List.append_assoc, List.singleton_append,
      lines_append_feed (whole line List.mem_cons_self), later]

/-- No line holds a line feed. -/
theorem not_mem_of_mem_lines (hl : line ∈ lines text) : '\n' ∉ line := by
  induction text generalizing line with
  | nil => cases hl
  | cons c text ih =>
    by_cases feed : c = '\n'
    · rw [feed, lines_cons_feed] at hl
      rcases List.mem_cons.mp hl with rfl | hl
      · exact List.not_mem_nil
      · exact ih hl
    · cases cut : lines text with
      | nil =>
        rw [lines_cons_last feed cut] at hl
        cases List.mem_singleton.mp hl
        simpa using Ne.symm feed
      | cons first rest =>
        rw [cut] at ih
        rw [lines_cons_of_ne feed cut] at hl
        rcases List.mem_cons.mp hl with rfl | hl
        · intro h
          rcases List.mem_cons.mp h with h | h
          · exact feed h.symm
          · exact ih List.mem_cons_self h
        · exact ih (List.mem_cons_of_mem first hl)

end Lines

section Words
variable {word : List Char} {c : Char}

structure IsWord (word : List Char) : Prop where
  ne_nil : word ≠ []
  solid : ∀ c ∈ word, isBlank c = false

theorem isWord_of_all (ne_nil : word ≠ []) (solid : word.all (!isBlank ·) = true) :
    IsWord word where
  ne_nil := ne_nil
  solid c hc := by simpa using List.all_eq_true.mp solid c hc

theorem IsWord.not_mem (isWord : IsWord word) (blank : isBlank c = true) : c ∉ word := by
  intro hc
  rw [isWord.solid c hc] at blank
  cases blank

theorem IsWord.fields_eq (isWord : IsWord word) : fields word = [word] := by
  rw [fields, pieces_of_forall isWord.solid]
  simp [isWord.ne_nil]

/-- A blank ends the word before it. -/
theorem IsWord.fields_append (isWord : IsWord word) (blank : isBlank c = true)
    (rest : List Char) : fields (word ++ c :: rest) = word :: fields rest := by
  have apart := words_append_blank word blank rest
  rw [← fields_eq_words, ← fields_eq_words, ← fields_eq_words, isWord.fields_eq] at apart
  exact apart

theorem fields_flatMap_space {all : List (List Char)} (areWords : ∀ word ∈ all, IsWord word)
    (rest : List Char) : fields (all.flatMap (· ++ [' ']) ++ rest) = all ++ fields rest := by
  induction all with
  | nil => rfl
  | cons word more ih =>
    have later := ih fun w hw => areWords w (List.mem_cons_of_mem word hw)
    rw [List.flatMap_cons, List.append_assoc, List.append_assoc, List.singleton_append,
      (areWords word List.mem_cons_self).fields_append rfl, later, List.cons_append]

/-- Words with single spaces between them are the words again. -/
theorem fields_intercalate_space {all : List (List Char)}
    (areWords : ∀ word ∈ all, IsWord word) : fields ([' '].intercalate all) = all := by
  induction all with
  | nil => rfl
  | cons word more ih =>
    have isWord := areWords word List.mem_cons_self
    have later := ih fun w hw => areWords w (List.mem_cons_of_mem word hw)
    cases more with
    | nil => rw [List.intercalate_singleton, isWord.fields_eq]
    | cons next more =>
      rw [List.intercalate_cons_cons, List.append_assoc, List.singleton_append,
        isWord.fields_append rfl, later]

theorem not_mem_intercalate_space {all : List (List Char)} (ne : c ≠ ' ')
    (free : ∀ word ∈ all, c ∉ word) : c ∉ [' '].intercalate all := by
  induction all with
  | nil => exact List.not_mem_nil
  | cons word more ih =>
    have here := free word List.mem_cons_self
    have later := ih fun w hw => free w (List.mem_cons_of_mem word hw)
    cases more with
    | nil => rwa [List.intercalate_singleton]
    | cons next more =>
      rw [List.intercalate_cons_cons, List.append_assoc, List.singleton_append]
      simp only [List.mem_append, List.mem_cons, here, ne, later, or_false, not_false_eq_true]

/-- Nothing is trimmed off a text without a blank at either end. -/
theorem trim_eq_self {text : List Char} (first : ∀ c ∈ text.head?, isBlank c = false)
    (last : ∀ c ∈ text.getLast?, isBlank c = false) : trim text = text := by
  have keeps {text : List Char} (first : ∀ c ∈ text.head?, isBlank c = false) :
      text.dropWhile isBlank = text := by
    cases text with
    | nil => rfl
    | cons c rest => exact List.dropWhile_cons_of_neg (by simp [first c rfl])
  rw [trim, trimStart, keeps first, trimEnd, keeps (by rwa [List.head?_reverse]),
    List.reverse_reverse]

theorem trimEnd_prefix (text : List Char) : trimEnd text <+: text := by
  have back : (text.reverse.dropWhile isBlank).reverse <+: text.reverse.reverse :=
    List.reverse_prefix.mpr (List.dropWhile_suffix isBlank)
  rwa [List.reverse_reverse] at back

/-- A trimmed text begins with no blank and ends with none. -/
theorem first_of_trim (text : List Char) : ∀ c ∈ (trim text).head?, isBlank c = false := by
  intro c hc
  obtain ⟨rest, split⟩ := trimEnd_prefix (trimStart text)
  have here : (trimStart text).head? = some c := by
    rw [← split, List.head?_append, show (trimEnd (trimStart text)).head? = some c from hc]
    rfl
  have stopped := List.head?_dropWhile_not isBlank text
  rwa [show (text.dropWhile isBlank).head? = some c from here] at stopped

theorem last_of_trim (text : List Char) : ∀ c ∈ (trim text).getLast?, isBlank c = false := by
  intro c hc
  rw [trim, trimEnd, List.getLast?_reverse, Option.mem_def] at hc
  have stopped := List.head?_dropWhile_not isBlank (trimStart text).reverse
  rwa [hc] at stopped

theorem bne_of_not_mem {text : List Char} (absent : c ∉ text) : ∀ d ∈ text, (d != c) = true := by
  intro d hd
  rw [bne_iff_ne]
  rintro rfl
  exact absent hd

theorem splitFirst_append {before : List Char} (whole : c ∉ before) (after : List Char) :
    splitFirst c (before ++ c :: after) = some (before, after) := by
  have passes := bne_of_not_mem whole
  rw [splitFirst, List.dropWhile_append_of_pos passes, List.takeWhile_append_of_pos passes]
  simp

theorem splitFirst_eq_none_of_not_mem {text : List Char} (absent : c ∉ text) :
    splitFirst c text = none := by
  rw [splitFirst, List.dropWhile_eq_nil_iff.mpr (bne_of_not_mem absent)]

/-- The cut is at the first separator: none stands in front of it. -/
theorem splitFirst_eq_some_iff {text before after : List Char} :
    splitFirst c text = some (before, after) ↔ text = before ++ c :: after ∧ c ∉ before := by
  constructor
  · intro cut
    by_cases present : c ∈ text
    · obtain ⟨front, back, rfl, whole⟩ := List.eq_append_cons_of_mem present
      rw [splitFirst_append whole] at cut
      cases cut
      exact ⟨rfl, whole⟩
    · rw [splitFirst_eq_none_of_not_mem present] at cut
      cases cut
  · rintro ⟨rfl, whole⟩
    exact splitFirst_append whole after

end Words

section Numerals

theorem isBlank_of_isDigit {c : Char} (digit : c.isDigit = true) : isBlank c = false := by
  have range : 48 ≤ c.toNat ∧ c.toNat ≤ 57 := by
    simpa [Char.isDigit, UInt32.le_iff_toNat_le] using digit
  simp only [isBlank, blankRanges, List.any_cons, List.any_nil, Bool.or_false, Bool.or_eq_false_iff,
    Bool.and_eq_false_iff, decide_eq_false_iff_not]
  omega

theorem isWord_natural (n : Nat) : IsWord (natural n) where
  ne_nil := natural_ne_nil n
  solid _ hc := isBlank_of_isDigit (isDigit_of_mem_natural hc)

theorem isWord_integer (z : Int) : IsWord (integer z) := by
  have digits := isWord_natural z.natAbs
  rw [integer]
  split
  · refine ⟨List.cons_ne_nil _ _, ?_⟩
    intro c hc
    rcases List.mem_cons.mp hc with rfl | hc
    · rfl
    · exact digits.solid c hc
  · exact digits

theorem mapM_integer? (numbers : List Int) :
    (numbers.map integer).mapM integer? = some numbers := by
  induction numbers with
  | nil => rfl
  | cons z rest ih => simp [ih]

end Numerals

end AndInverter.Text
