import AndInverter.Proofs.Aag.Acceptance
import AndInverter.Proofs.Text.Undecodable

/-!
# The line of a format error

A text that is not read is reported on one line, and the text alone says which: its first bytes that
are no character, its header, or the first section that is not as the header announces. A section
is counted before any of its lines is looked at. So if lines are missing, the report is on the last
line of the text, and malformed lines of that section do not matter.
-/
namespace AndInverter.Aag
open Outcome Text

section Announced

def Section.Shaped (sect : Section) (maxVar : UInt64) (line : Line) : Prop :=
  ∃ literals, Writes maxVar line literals ∧ sect.Takes literals.length

def Section.Short (sect : Section) (h : Header) (body : List Line) : Prop :=
  (sect.window h body).length < sect.count h

structure Section.Complete (sect : Section) (h : Header) (body : List Line) : Prop where
  enough : ¬ sect.Short h body
  shaped : ∀ line ∈ sect.window h body, sect.Shaped h.maxVar line

/-- The line on which a section is reported, in a text of `total` lines: the last one if lines are
missing, and otherwise that of the first malformed record. -/
inductive Section.Breaks (sect : Section) (h : Header) (body : List Line) (total : Nat) : Nat → Prop
  | short (short : sect.Short h body) : Breaks sect h body total total
  | malformed {before : List Line} {line : Line} {after : List Line}
      (enough : ¬ sect.Short h body) (window_eq : sect.window h body = before ++ line :: after)
      (shaped : ∀ l ∈ before, sect.Shaped h.maxVar l) (bad : ¬ sect.Shaped h.maxVar line) :
      Breaks sect h body total line.number

/-- The first of the sections that is not complete is reported on line `n`. -/
inductive FirstBreak (h : Header) (body : List Line) (total n : Nat) : List Section → Prop
  | here {sect : Section} (breaks : sect.Breaks h body total n) (later : List Section) :
      FirstBreak h body total n (sect :: later)
  | later {sect : Section} {later : List Section} (complete : sect.Complete h body)
      (first : FirstBreak h body total n later) : FirstBreak h body total n (sect :: later)

/-- The line on which a byte string is reported that is no circuit text. -/
inductive ErrorLine (bytes : ByteArray) : Nat → Prop
  /-- The line feeds in front of the first bytes that encode no character are counted. -/
  | undecodable {front : List Char} {rest : ByteArray}
      (split : bytes = front.utf8Encode ++ rest) (more : rest ≠ .empty) (stuck : Stuck rest) :
      ErrorLine bytes (front.utf8Encode.data.toList.count 10 + 1)
  | blank {text : List Char} (utf8 : text.utf8Encode = bytes) (blank : nonblankLines text = []) :
      ErrorLine bytes 1
  | header {text : List Char} {first : Line} {body : List Line} (utf8 : text.utf8Encode = bytes)
      (lines_eq : nonblankLines text = first :: body) (bad : ¬ ∃ h, IsHeader first h) :
      ErrorLine bytes first.number
  | sections {text : List Char} {first : Line} {body : List Line} {h : Header} {n : Nat}
      (utf8 : text.utf8Encode = bytes) (lines_eq : nonblankLines text = first :: body)
      (header : IsHeader first h)
      (breaks : FirstBreak h body (lineCount text) n [.input, .latch, .output, .andGate]) :
      ErrorLine bytes n

end Announced

section Failing
variable {α β : Type} {x : Except FormatError α} {n k : Nat}

def FailsAt (x : Except FormatError α) (n : Nat) : Prop := ∃ e, x = .error e ∧ e.line = n

theorem failsAt_error_iff {e : FormatError} :
    FailsAt (.error e : Except FormatError α) n ↔ e.line = n := by
  simp [FailsAt]

theorem not_failsAt_ok {a : α} : ¬ FailsAt (.ok a) n := by
  rintro ⟨_, ⟨⟩, _⟩

/-- A step fails on the line of its first part, or on that of the second one after the first has
passed. -/
theorem failsAt_bind_iff {f : α → Except FormatError β} :
    FailsAt (x >>= f) n ↔ FailsAt x n ∨ ∃ a, x = .ok a ∧ FailsAt (f a) n := by
  simp only [FailsAt, bind_eq_error_iff, or_and_right, exists_or]
  refine or_congr_right ⟨?_, ?_⟩
  · rintro ⟨e, ⟨a, ok, fails⟩, line⟩
    exact ⟨a, ok, e, fails, line⟩
  · rintro ⟨a, ok, e, fails, line⟩
    exact ⟨e, ⟨a, ok, fails⟩, line⟩

/-- The first entry that fails gives the line. -/
theorem failsAt_mapM_iff {f : β → Except FormatError α} {xs : List β} :
    FailsAt (xs.mapM f) n ↔ ∃ before x after, xs = before ++ x :: after ∧
      (∀ y ∈ before, ∃ z, f y = .ok z) ∧ FailsAt (f x) n := by
  simp only [FailsAt, mapM_eq_error_iff]
  constructor
  · rintro ⟨e, ⟨before, x, after, split, passes, fails⟩, line⟩
    exact ⟨before, x, after, split, passes, e, fails, line⟩
  · rintro ⟨before, x, after, split, passes, e, fails, line⟩
    exact ⟨e, ⟨before, x, after, split, passes, fails⟩, line⟩

/-- Every error is reported on the same line. -/
def OnLine (k : Nat) (x : Except FormatError α) : Prop := ∀ n, FailsAt x n → n = k

theorem OnLine.ok (a : α) : OnLine k (.ok a) := fun _ fails => absurd fails not_failsAt_ok

theorem OnLine.error {e : FormatError} (line : e.line = k) :
    OnLine k (.error e : Except FormatError α) :=
  fun _ fails => (failsAt_error_iff.mp fails).symm.trans line

theorem OnLine.bind {f : α → Except FormatError β} (first : OnLine k x)
    (next : ∀ a, OnLine k (f a)) : OnLine k (x >>= f) := by
  intro n fails
  rcases failsAt_bind_iff.mp fails with fails | ⟨a, _, fails⟩
  · exact first n fails
  · exact next a n fails

theorem OnLine.mapM {f : β → Except FormatError α} (xs : List β) (each : ∀ x, OnLine k (f x)) :
    OnLine k (xs.mapM f) := by
  intro n fails
  obtain ⟨_, x, _, _, _, fails⟩ := failsAt_mapM_iff.mp fails
  exact each x n fails

theorem OnLine.failsAt_iff (onLine : OnLine k x) :
    FailsAt x n ↔ n = k ∧ ¬ ∃ a, x = .ok a := by
  constructor
  · rintro fails
    refine ⟨onLine n fails, ?_⟩
    rintro ⟨a, rfl⟩
    exact not_failsAt_ok fails
  · rintro ⟨rfl, rejected⟩
    cases x with
    | ok a => exact absurd ⟨a, rfl⟩ rejected
    | error e => exact failsAt_error_iff.mpr (onLine e.line (failsAt_error_iff.mpr rfl))

end Failing

section Lines
variable {line : Line} {n : Nat}

theorem onLine_readCount (number : Nat) (field : List Char) :
    OnLine number (readCount number field) := by
  rw [readCount]
  cases readUnsigned field with
  | ok count => exact .ok count
  | error e => exact .error rfl

theorem onLine_readHeader (line : Line) : OnLine line.number (readHeader line) := by
  rw [readHeader]
  split
  · next counts _ =>
    refine (OnLine.mapM counts (onLine_readCount line.number)).bind fun values => ?_
    split
    · exact .ok _
    · exact .error rfl
  · exact .error rfl

/-- A first line that is no header is reported on itself. -/
theorem failsAt_readHeader_iff :
    FailsAt (readHeader line.trimmed) n ↔ n = line.number ∧ ¬ ∃ h, IsHeader line h := by
  rw [(onLine_readHeader line.trimmed).failsAt_iff]
  simp only [readHeader_eq_ok_iff]
  rfl

theorem onLine_readLiteral (sect : Section) (number : Nat) (field : List Char) :
    OnLine number (readLiteral sect number field) := by
  rw [readLiteral]
  cases readUnsigned field with
  | ok code => exact .ok _
  | error e => exact .error rfl

theorem onLine_checkLimit (limit : Literal) (number : Nat) (literals : List Literal) :
    OnLine number (checkLimit limit number literals) := by
  rw [checkLimit]
  split
  · exact .ok _
  · exact .error rfl

namespace Declaration
variable {α β : Type} {d : Declaration α} {h : Header} {body : List Line} {total : Nat}
  {count : UInt64}

theorem onLine_read (d : Declaration α) (limit : Literal) (line : Line) :
    OnLine line.number (d.read limit line) := by
  rw [Declaration.read]
  refine (OnLine.mapM _ (onLine_readLiteral d.sect line.number)).bind fun literals => ?_
  split
  · exact .error rfl
  · exact (onLine_checkLimit limit line.number literals).bind fun _ => .ok _

theorem exists_read_iff (fixes : d.Fixes) :
    (∃ entry, d.read h.maxLiteral line.trimmed = .ok entry) ↔ d.sect.Shaped h.maxVar line := by
  simp only [read_eq_ok_iff]
  exact fixes.exists_reads_iff

/-- A line that is no record of its section is reported on itself, whatever is wrong with it. -/
theorem failsAt_read_iff (fixes : d.Fixes) : FailsAt (d.read h.maxLiteral line.trimmed) n ↔
    n = line.number ∧ ¬ d.sect.Shaped h.maxVar line := by
  rw [(d.onLine_read h.maxLiteral line.trimmed).failsAt_iff, exists_read_iff fixes]
  rfl

/-- The lines of a section, as its reader takes them. -/
theorem take_map_trimmed (size : count.toNat = d.sect.count h) :
    ((body.drop (d.sect.offset h)).map Line.trimmed).take count.toNat =
      (d.sect.window h body).map Line.trimmed := by
  rw [Section.window, List.map_take, size]

/-- A section is reported on the line on which it breaks. -/
theorem failsAt_readSection_iff (fixes : d.Fixes) (size : count.toNat = d.sect.count h) :
    FailsAt (d.readSection h.maxLiteral total count
      ((body.drop (d.sect.offset h)).map Line.trimmed)) n ↔ d.sect.Breaks h body total n := by
  rw [readSection, take_map_trimmed size, List.length_map, size]
  by_cases short : (d.sect.window h body).length < d.sect.count h
  · rw [if_pos short, failsAt_error_iff]
    constructor
    · rintro rfl
      exact .short short
    · intro breaks
      cases breaks with
      | short => rfl
      | malformed enough => exact absurd short enough
  · rw [if_neg short, failsAt_bind_iff, failsAt_mapM_iff]
    constructor
    · rintro (⟨before, line, after, split, passes, fails⟩ | ⟨_, _, fails⟩)
      · obtain ⟨front, behind, window_eq, rfl, rest⟩ := List.map_eq_append_iff.mp split
        obtain ⟨line, back, rfl, rfl, rfl⟩ := List.map_eq_cons_iff.mp rest
        obtain ⟨rfl, bad⟩ := (failsAt_read_iff fixes).mp fails
        refine .malformed short window_eq ?_ bad
        intro l hl
        exact (exists_read_iff fixes).mp (passes _ (List.mem_map_of_mem hl))
      · exact absurd fails not_failsAt_ok
    · intro breaks
      cases breaks with
      | short also => exact absurd also short
      | malformed _ window_eq shaped bad =>
        rw [window_eq, List.map_append, List.map_cons]
        refine Or.inl ⟨_, _, _, rfl, ?_, (failsAt_read_iff fixes).mpr ⟨rfl, bad⟩⟩
        intro l hl
        obtain ⟨line, hline, rfl⟩ := List.mem_map.mp hl
        exact (exists_read_iff fixes).mpr (shaped line hline)

/-- A complete section is read, and what is left begins behind it. -/
theorem exists_readSection_iff (fixes : d.Fixes) (size : count.toNat = d.sect.count h)
    (total : Nat) {rest : List Line} : (∃ entries, d.readSection h.maxLiteral total count
      ((body.drop (d.sect.offset h)).map Line.trimmed) = .ok (entries, rest)) ↔
    d.sect.Complete h body ∧
      (body.drop (d.sect.offset h + d.sect.count h)).map Line.trimmed = rest := by
  have enough : d.sect.count h ≤ (body.drop (d.sect.offset h)).length ↔
      ¬ d.sect.Short h body := by
    rw [Section.Short, Section.window, List.length_take]
    omega
  simp only [readSection_eq_ok_iff, size, enough, List.drop_drop, exists_and_left,
    exists_and_right]
  constructor
  · rintro ⟨enough, ⟨entries, declared⟩, rfl⟩
    refine ⟨⟨enough, ?_⟩, rfl⟩
    intro line hl
    obtain ⟨entry, _, reads⟩ := exists_of_mem_left declared hl
    exact fixes.exists_reads_iff.mp ⟨entry, reads⟩
  · rintro ⟨⟨enough, shaped⟩, rfl⟩
    exact ⟨enough, exists_forall₂ fun line hl => fixes.exists_reads_iff.mpr (shaped line hl), rfl⟩

/-- A section and the ones behind it: the first that breaks is reported. -/
theorem failsAt_readSection_bind_iff (fixes : d.Fixes) (size : count.toNat = d.sect.count h)
    {behind : Nat} (end_eq : d.sect.offset h + d.sect.count h = behind)
    {f : List α × List Line → Except FormatError β} {later : List Section}
    (rest : ∀ entries, FailsAt (f (entries, (body.drop behind).map Line.trimmed)) n ↔
      FirstBreak h body total n later) :
    FailsAt (d.readSection h.maxLiteral total count
      ((body.drop (d.sect.offset h)).map Line.trimmed) >>= f) n ↔
        FirstBreak h body total n (d.sect :: later) := by
  subst end_eq
  rw [failsAt_bind_iff, failsAt_readSection_iff fixes size]
  constructor
  · rintro (breaks | ⟨⟨entries, lines⟩, read, fails⟩)
    · exact .here breaks later
    · obtain ⟨complete, rfl⟩ := (exists_readSection_iff fixes size total).mp ⟨entries, read⟩
      exact .later complete ((rest entries).mp fails)
  · intro first
    cases first with
    | here breaks => exact Or.inl breaks
    | later complete first =>
      obtain ⟨entries, read⟩ :=
        (exists_readSection_iff fixes size total).mpr ⟨complete, rfl⟩
      exact Or.inr ⟨_, read, (rest entries).mpr first⟩

end Declaration

end Lines

section Texts
variable {h : Header} {body : List Line} {total n : Nat} {bytes : ByteArray} {text : List Char}

theorem not_firstBreak_nil : ¬ FirstBreak h body total n [] := nofun

/-- The four sections are reported by the first that breaks. -/
theorem failsAt_readSections_iff : FailsAt (readSections h total (body.map Line.trimmed)) n ↔
    FirstBreak h body total n [.input, .latch, .output, .andGate] := by
  apply Declaration.failsAt_readSection_bind_iff (d := inputDeclaration) Declaration.fixes_input rfl
    (Nat.zero_add _)
  intro inputs
  apply Declaration.failsAt_readSection_bind_iff (d := latchDeclaration) Declaration.fixes_latch rfl
    rfl
  intro latches
  apply Declaration.failsAt_readSection_bind_iff (d := outputDeclaration) Declaration.fixes_output
    rfl rfl
  intro outputs
  apply Declaration.failsAt_readSection_bind_iff (d := gateDeclaration) Declaration.fixes_gate rfl
    rfl
  intro gates
  exact iff_of_false not_failsAt_ok not_firstBreak_nil

/-- The line of undecodable bytes counts the line feeds in front of them. -/
theorem failsAt_decode_iff : FailsAt (decode bytes) n ↔
    ∃ (front : List Char) (rest : ByteArray), bytes = front.utf8Encode ++ rest ∧ rest ≠ .empty ∧
      Stuck rest ∧ front.utf8Encode.data.toList.count 10 + 1 = n := by
  have rejected (none_found : ∀ text, decode bytes ≠ .ok text) :
      decode bytes = .error ⟨invalidLine bytes, .invalidUtf8⟩ := by
    rw [decode] at none_found ⊢
    split
    · next text found =>
      rw [found] at none_found
      exact absurd rfl (none_found _)
    · rfl
  constructor
  · rintro ⟨e, fails, line⟩
    obtain ⟨front, rest, rfl, stuck⟩ := exists_stuck bytes
    have no_text : ∀ text, decode (front.utf8Encode ++ rest) ≠ .ok text := by
      rintro text ok
      rw [ok] at fails
      cases fails
    rw [rejected no_text] at fails
    cases fails
    refine ⟨front, rest, rfl, ?_, stuck, (invalidLine_append stuck front).symm.trans line⟩
    rintro rfl
    exact no_text front (decode_eq_ok_iff.mpr ByteArray.append_empty.symm)
  · rintro ⟨front, rest, rfl, more, stuck, rfl⟩
    refine ⟨_, rejected ?_, invalidLine_append stuck front⟩
    intro text ok
    exact utf8Encode_ne_of_stuck stuck more text (decode_eq_ok_iff.mp ok)

theorem failsAt_splitHeader_iff : FailsAt (splitHeader text) n ↔
    nonblankLines text = [] ∧ n = 1 ∨ ∃ first body, nonblankLines text = first :: body ∧
      n = first.number ∧ ¬ ∃ h, IsHeader first h := by
  rw [splitHeader, contentLines_eq]
  cases nonblankLines text with
  | nil => simp [failsAt_error_iff, eq_comm]
  | cons first body =>
    rw [List.map_cons, failsAt_bind_iff, failsAt_readHeader_iff]
    simp [not_failsAt_ok, pure, Except.pure]

/-- Reading a text fails by its header or by the first section that breaks. -/
theorem failsAt_readText_iff : FailsAt (readText text).outcome n ↔
    (nonblankLines text = [] ∧ n = 1 ∨ ∃ first body, nonblankLines text = first :: body ∧
      n = first.number ∧ ¬ ∃ h, IsHeader first h) ∨
    ∃ first body h, nonblankLines text = first :: body ∧ IsHeader first h ∧
      FirstBreak h body (lineCount text) n [.input, .latch, .output, .andGate] := by
  rw [outcome_readText, failsAt_bind_iff, failsAt_splitHeader_iff, length_lines]
  refine or_congr_right ?_
  constructor
  · rintro ⟨⟨h, _⟩, split, fails⟩
    obtain ⟨first, body, lines_eq, header, rfl⟩ := splitHeader_eq_ok_iff.mp split
    rcases failsAt_bind_iff.mp fails with fails | ⟨_, _, fails⟩
    · exact ⟨first, body, h, lines_eq, header, failsAt_readSections_iff.mp fails⟩
    · exact absurd fails not_failsAt_ok
  · rintro ⟨first, body, h, lines_eq, header, breaks⟩
    exact ⟨(h, _), splitHeader_eq_ok_iff.mpr ⟨first, body, lines_eq, header, rfl⟩,
      failsAt_bind_iff.mpr (Or.inl (failsAt_readSections_iff.mpr breaks))⟩

end Texts

/-- A byte string is rejected with an error on a line exactly if that is its error line. -/
theorem read_error_line (bytes : ByteArray) (n : Nat) :
    (∃ e, (read bytes).outcome = .error e ∧ e.line = n) ↔ ErrorLine bytes n := by
  change FailsAt (read bytes).outcome n ↔ _
  rw [outcome_read, failsAt_bind_iff, failsAt_decode_iff]
  simp only [decode_eq_ok_iff, failsAt_readText_iff]
  constructor
  · rintro (⟨front, rest, split, more, stuck, rfl⟩ |
      ⟨text, utf8, (⟨blank, rfl⟩ | ⟨first, body, lines_eq, rfl, bad⟩) |
        ⟨first, body, h, lines_eq, header, breaks⟩⟩)
    · exact .undecodable split more stuck
    · exact .blank utf8 blank
    · exact .header utf8 lines_eq bad
    · exact .sections utf8 lines_eq header breaks
  · intro error
    cases error with
    | undecodable split more stuck => exact Or.inl ⟨_, _, split, more, stuck, rfl⟩
    | blank utf8 blank => exact Or.inr ⟨_, utf8, Or.inl (Or.inl ⟨blank, rfl⟩)⟩
    | header utf8 lines_eq bad =>
      exact Or.inr ⟨_, utf8, Or.inl (Or.inr ⟨_, _, lines_eq, rfl, bad⟩)⟩
    | sections utf8 lines_eq header breaks =>
      exact Or.inr ⟨_, utf8, Or.inr ⟨_, _, _, lines_eq, header, breaks⟩⟩

/-- Two inputs are announced, the second is missing and the first is malformed. -/
example : ∃ problem, (read "aag 3 2 0 0 1\nx\n\n".toUTF8).outcome = .error ⟨3, problem⟩ := ⟨_, rfl⟩

end AndInverter.Aag
