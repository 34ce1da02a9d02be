import AndInverter.Proofs.Text.Joined

/-!
# Squeezing keeps the words

A text has the same words after every run of blanks became a single space. Words are found from the
back, so that one more character in front joins the first word or begins one of its own; which of
the two depends on the first character only, and squeezing keeps it blank or solid.
-/
namespace AndInverter.Text

variable {c : Char} {text : List Char}

/-- Whether a character put before the text joins its first word. -/
def beginsWord (text : List Char) : Bool := text.head?.any (!isBlank ·)

theorem words_cons_of_blank (blank : isBlank c = true) (text : List Char) :
    words (c :: text) = words text := words_append_blank [] blank text

theorem words_cons_of_solid (solid : isBlank c = false) (text : List Char) :
    words (c :: text) =
      if beginsWord text then (words text).modifyHead (c :: ·) else [c] :: words text := by
  have alone : words [c] = [[c]] := by
    have isWord : IsWord [c] := ⟨by simp, by simpa using solid⟩
    rw [← fields_eq_words, isWord.fields_eq]
  cases text with
  | nil => exact alone
  | cons d rest =>
    cases blank : isBlank d with
    | true =>
      have apart : words (c :: d :: rest) = words [c] ++ words rest :=
        words_append_blank [c] blank rest
      simp [apart, alone, beginsWord, blank, words_cons_of_blank]
    | false =>
      obtain ⟨piece, more, cut⟩ := List.exists_cons_of_ne_nil (List.splitOnP_ne_nil isBlank rest)
      simp [words, List.splitOnP_cons_eq_if_modifyHead, beginsWord, solid, blank, cut]

theorem beginsWord_squeeze (text : List Char) : beginsWord (squeeze text) = beginsWord text := by
  have space_blank : isBlank ' ' = true := by decide
  cases text with
  | nil => rfl
  | cons c rest =>
    rw [squeeze, List.foldr_cons, squeezeStep]
    split
    · next blank =>
      split
      · next space => simp [beginsWord, space, blank, space_blank]
      · simp [beginsWord, blank, space_blank]
    · rfl

/-- Squeezing blanks keeps the words. -/
theorem words_squeeze (text : List Char) : words (squeeze text) = words text := by
  induction text with
  | nil => rfl
  | cons c rest ih =>
    have step : squeeze (c :: rest) = squeezeStep c (squeeze rest) := rfl
    rw [step, squeezeStep]
    cases blank : isBlank c with
    | true =>
      rw [if_pos rfl, words_cons_of_blank blank, ← ih]
      split
      · rfl
      · exact words_cons_of_blank rfl (squeeze rest)
    | false =>
      rw [if_neg Bool.false_ne_true, words_cons_of_solid blank, words_cons_of_solid blank,
        beginsWord_squeeze, ih]

theorem mem_squeeze (hc : c ∈ squeeze text) : c = ' ' ∨ c ∈ text := by
  induction text with
  | nil => cases hc
  | cons d rest ih => grind [squeeze, squeezeStep]

theorem solid_mem_squeeze (solid : isBlank c = false) (hc : c ∈ text) : c ∈ squeeze text := by
  induction text with
  | nil => cases hc
  | cons d rest ih => grind [squeeze, squeezeStep]

end AndInverter.Text
