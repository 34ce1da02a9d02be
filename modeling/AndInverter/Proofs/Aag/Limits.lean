import AndInverter.Aag.Declaration
import AndInverter.Proofs.Outcome

/-!
# The limits that a header sets

The largest literal and the number of lines are computed from the counts of a header and stop at the
largest word. The largest literal then no longer follows from the largest variable, but neither is
there a word for a literal of a larger one: literals are within the limit exactly if their variables
are. A number of lines that has stopped is the largest word, whichever partial sum stopped first.
-/
namespace AndInverter
open Outcome Word

namespace Header
variable {h : Header} {l : Literal}

/-- The bound is exact also where twice the largest variable is beyond the words. -/
theorem code_le_maxLiteral_iff : l.code ≤ h.maxLiteral.code ↔ l.var ≤ h.maxVar := by
  have word := toNat_le_maxWord l.code
  have half := l.toNat_var
  rw [UInt64.le_iff_toNat_le, UInt64.le_iff_toNat_le, h.toNat_code_maxLiteral, half]
  -- A limit that has stopped is the largest word; half of that is the largest variable there is.
  rw [maxWord] at word ⊢
  omega

theorem maxLiteral_lt_iff : h.maxLiteral < l ↔ h.maxVar < l.var := by
  rw [← UInt64.not_le, ← code_le_maxLiteral_iff, UInt64.not_le]
  rfl

/-- If any literal is beyond the limit, the limit has not stopped at the largest word. -/
theorem var_maxLiteral_of_lt (beyond : h.maxVar < l.var) : h.maxLiteral.var = h.maxVar := by
  have less := UInt64.lt_iff_toNat_lt.mp beyond
  have le := l.toNat_var_le
  rw [← UInt64.toNat_inj, Literal.toNat_var, h.toNat_code_maxLiteral]
  rw [maxSigned] at le
  rw [maxWord]
  omega

end Header

namespace Aag

/-- How a check of literals against the largest variable ends. The first literal of a larger one is
told, together with the largest variable itself. -/
inductive Checked (maxVar : UInt64) (number : Nat) : List Literal → Except FormatError Unit → Prop
  | within {literals : List Literal} (each : ∀ l ∈ literals, l.var ≤ maxVar) :
      Checked maxVar number literals (.ok ())
  | beyond {front rest : List Literal} {l : Literal} (before : ∀ m ∈ front, m.var ≤ maxVar)
      (large : maxVar < l.var) :
      Checked maxVar number (front ++ l :: rest) (.error ⟨number, .variableTooLarge l maxVar⟩)

theorem Checked.eq_ok_iff {maxVar : UInt64} {number : Nat} {literals : List Literal}
    {outcome : Except FormatError Unit} (checked : Checked maxVar number literals outcome) :
    outcome = .ok () ↔ ∀ l ∈ literals, l.var ≤ maxVar := by
  cases checked with
  | within each => exact iff_of_true rfl each
  | beyond _ large =>
    refine iff_of_false (fun ok => nomatch ok) fun each => ?_
    exact UInt64.not_le.mpr large (each _ (List.mem_append_right _ List.mem_cons_self))

/-- The check of the reader, without the arithmetic of its limit. -/
theorem checked_checkLimit (h : Header) (number : Nat) (literals : List Literal) :
    Checked h.maxVar number literals (checkLimit h.maxLiteral number literals) := by
  rw [checkLimit]
  cases found : literals.find? (h.maxLiteral < ·) with
  | none =>
    refine .within fun l hl => UInt64.not_lt.mp fun large => ?_
    have beyond := Header.maxLiteral_lt_iff.mpr large
    exact List.find?_eq_none.mp found l hl (decide_eq_true beyond)
  | some l =>
    obtain ⟨beyond, front, rest, rfl, before⟩ := List.find?_eq_some_iff_append.mp found
    have large := Header.maxLiteral_lt_iff.mp (of_decide_eq_true beyond)
    rw [Header.var_maxLiteral_of_lt large]
    refine .beyond (fun m hm => UInt64.not_lt.mp fun larger => ?_) large
    have not_beyond := before m hm
    rw [decide_eq_true (Header.maxLiteral_lt_iff.mpr larger)] at not_beyond
    cases not_beyond

/-- A line is accepted if its fields are read as literals, these make the entry, and none is beyond
the limit. -/
theorem Declaration.read_eq_ok_iff_fields {α : Type} {d : Declaration α} {limit : Literal}
    {line : Line} {entry : α} : d.read limit line = .ok entry ↔ ∃ literals,
      (Text.fields line.text).mapM (readLiteral d.sect line.number) = .ok literals ∧
      d.ofLiterals? line.number literals = some entry ∧
      checkLimit limit line.number literals = .ok () := by
  rw [read, bind_eq_ok_iff]
  constructor
  · rintro ⟨literals, numerals, ok⟩
    split at ok
    · cases ok
    · next declared =>
      obtain ⟨_, bounded, ok⟩ := bind_eq_ok_iff.mp ok
      cases ok
      exact ⟨literals, numerals, declared, bounded⟩
  · rintro ⟨literals, numerals, declared, bounded⟩
    refine ⟨literals, numerals, ?_⟩
    rw [declared]
    exact bind_eq_ok_iff.mpr ⟨(), bounded, rfl⟩

/-- A literal is within the limit of a header exactly if its variable is, also where the limit stops
at the largest word, and lines are accepted by that. The number of lines is the sum of the counts as
far as the words reach. -/
theorem limits_exact (h : Header) :
    (∀ l : Literal, l.code ≤ h.maxLiteral.code ↔ l.var ≤ h.maxVar) ∧
    h.bodyLines.toNat =
      min (h.inputs.toNat + h.latches.toNat + h.outputs.toNat + h.gates.toNat) maxWord ∧
    (∀ number literals,
      Checked h.maxVar number literals (checkLimit h.maxLiteral number literals)) ∧
    ∀ (α : Type) (d : Declaration α) (line : Line) (entry : α),
      d.read h.maxLiteral line = .ok entry ↔ ∃ literals,
        (Text.fields line.text).mapM (readLiteral d.sect line.number) = .ok literals ∧
        d.ofLiterals? line.number literals = some entry ∧ ∀ l ∈ literals, l.var ≤ h.maxVar := by
  refine ⟨fun l => Header.code_le_maxLiteral_iff, h.toNat_bodyLines, checked_checkLimit h, ?_⟩
  intro α d line entry
  simp only [Declaration.read_eq_ok_iff_fields, (checked_checkLimit h _ _).eq_ok_iff]

/-- With the first variable beyond the signed words all literals are within the limit, and a sum
that stops at its first step stays where it is. -/
example : (⟨0x8000000000000000, 0xffffffffffffffff, 1, 0, 2⟩ : Header).maxLiteral.code =
      0xffffffffffffffff ∧
    (⟨0x8000000000000000, 0xffffffffffffffff, 1, 0, 2⟩ : Header).bodyLines =
      0xffffffffffffffff := by decide

end Aag

end AndInverter
