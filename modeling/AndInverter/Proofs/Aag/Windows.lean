import AndInverter.Aag.Reader
import AndInverter.Proofs.Aag.Lines

/-!
# Reading sections

Four readers take lines one after the other from what the one before has left. Together they read
exactly the windows that the header's counts cut out of the lines behind it, and leave the rest.
-/
namespace AndInverter.Aag
open Outcome

namespace Declaration
variable {α : Type} {d : Declaration α} {h : Header} {maxVar : UInt64} {line : Line}

/-- A section is read exactly if there are lines enough and each of them declares an entry. -/
theorem readSection_eq_ok_iff {total : Nat} {count : UInt64} {body : List Line}
    {entries : List α} {rest : List Line} :
    d.readSection h.maxLiteral total count (body.map Line.trimmed) = .ok (entries, rest) ↔
      count.toNat ≤ body.length ∧
        List.Forall₂ (d.Reads h.maxVar) (body.take count.toNat) entries ∧
        (body.drop count.toNat).map Line.trimmed = rest := by
  have length : ((body.map Line.trimmed).take count.toNat).length =
      min count.toNat body.length := by
    rw [List.length_take, List.length_map]
  rw [readSection, length]
  by_cases enough : count.toNat ≤ body.length
  · rw [if_neg (by omega), bind_eq_ok_iff]
    simp only [← List.map_take, ← List.map_drop, mapM_eq_ok_iff, List.forall₂_map_left_iff,
      read_eq_ok_iff, pure, Except.pure, Except.ok.injEq, Prod.mk.injEq]
    constructor
    · rintro ⟨_, declared, rfl, tail⟩
      exact ⟨enough, declared, tail⟩
    · rintro ⟨_, declared, tail⟩
      exact ⟨entries, declared, rfl, tail⟩
  · rw [if_pos (by omega)]
    constructor
    · intro ok
      cases ok
    · rintro ⟨enough', _⟩
      exact absurd enough' enough

theorem reads_input_iff {l : Literal} :
    inputDeclaration.Reads maxVar line l ↔ Writes maxVar line [l] := by
  constructor
  · rintro ⟨literals, written, declared⟩
    simp only [inputDeclaration] at declared
    split at declared
    · cases declared
      exact written
    · cases declared
  · intro written
    exact ⟨_, written, rfl⟩

/-- The reset of a latch is its third literal, or is left out. -/
theorem reads_latch_iff {latch : Latch} :
    latchDeclaration.Reads maxVar line latch ↔ Writes maxVar line latch.literals := by
  constructor
  · rintro ⟨literals, written, declared⟩
    simp only [latchDeclaration] at declared
    split at declared
    · cases declared
      exact written
    · cases declared
      exact written
    · cases declared
  · obtain ⟨literal, next, reset⟩ := latch
    intro written
    cases reset with
    | none => exact ⟨_, written, rfl⟩
    | some reset => exact ⟨_, written, rfl⟩

theorem reads_output_iff {l : Literal} :
    outputDeclaration.Reads maxVar line l ↔ Writes maxVar line [l] := reads_input_iff

theorem reads_gate_iff {g : AndGate} : gateDeclaration.Reads maxVar line g ↔
    Writes maxVar line g.literals ∧ g.line = line.number := by
  constructor
  · rintro ⟨literals, written, declared⟩
    simp only [gateDeclaration] at declared
    split at declared
    · cases declared
      exact ⟨written, rfl⟩
    · cases declared
  · obtain ⟨output, left, right, number⟩ := g
    rintro ⟨written, rfl⟩
    exact ⟨_, written, rfl⟩

/-- The lines that declare an entry are those with as many literals as the section takes. -/
def Fixes (d : Declaration α) : Prop :=
  ∀ number literals, (∃ entry, d.ofLiterals? number literals = some entry) ↔
    d.sect.Takes literals.length

theorem fixes_input : inputDeclaration.Fixes := by
  intro number literals
  rcases literals with _ | ⟨a, _ | ⟨b, rest⟩⟩ <;> simp [inputDeclaration, Section.Takes]

theorem fixes_latch : latchDeclaration.Fixes := by
  intro number literals
  rcases literals with _ | ⟨a, _ | ⟨b, _ | ⟨c, _ | ⟨d, rest⟩⟩⟩⟩ <;>
    simp [latchDeclaration, Section.Takes]

theorem fixes_output : outputDeclaration.Fixes := fixes_input

theorem fixes_gate : gateDeclaration.Fixes := by
  intro number literals
  rcases literals with _ | ⟨a, _ | ⟨b, _ | ⟨c, _ | ⟨d, rest⟩⟩⟩⟩ <;>
    simp [gateDeclaration, Section.Takes]

/-- A line declares an entry of some kind exactly if its words are as many literals as the section
takes. -/
theorem Fixes.exists_reads_iff (fixes : d.Fixes) : (∃ entry, d.Reads maxVar line entry) ↔
    ∃ literals, Writes maxVar line literals ∧ d.sect.Takes literals.length := by
  constructor
  · rintro ⟨entry, literals, written, declared⟩
    exact ⟨literals, written, (fixes line.number literals).mp ⟨entry, declared⟩⟩
  · rintro ⟨literals, written, taken⟩
    obtain ⟨entry, declared⟩ := (fixes line.number literals).mpr taken
    exact ⟨entry, literals, written, declared⟩

end Declaration

variable {h : Header} {body : List Line} {s : Sections}

/-- All four sections are read exactly if there are lines enough for all of them and the windows
declare their entries. -/
theorem readSections_eq_ok_iff {total : Nat} :
    readSections h total (body.map Line.trimmed) = .ok s ↔
      h.inputs.toNat + h.latches.toNat + h.outputs.toNat + h.gates.toNat ≤ body.length ∧
      List.Forall₂ (inputDeclaration.Reads h.maxVar) (Section.input.window h body) s.inputs ∧
      List.Forall₂ (latchDeclaration.Reads h.maxVar) (Section.latch.window h body) s.latches ∧
      List.Forall₂ (outputDeclaration.Reads h.maxVar) (Section.output.window h body) s.outputs ∧
      List.Forall₂ (gateDeclaration.Reads h.maxVar) (Section.andGate.window h body) s.gates ∧
      (body.drop (h.inputs.toNat + h.latches.toNat + h.outputs.toNat + h.gates.toNat)).map
        Line.trimmed = s.rest := by
  simp only [readSections, bind_eq_ok_iff, Prod.exists, Section.window, Section.offset,
    Section.count, List.drop_zero]
  constructor
  · rintro ⟨inputs, rest₁, read₁, latches, rest₂, read₂, outputs, rest₃, read₃, gates, rest₄,
      read₄, ok⟩
    obtain ⟨enough₁, inputs_read, rfl⟩ := Declaration.readSection_eq_ok_iff.mp read₁
    obtain ⟨enough₂, latches_read, rfl⟩ := Declaration.readSection_eq_ok_iff.mp read₂
    obtain ⟨enough₃, outputs_read, rfl⟩ := Declaration.readSection_eq_ok_iff.mp read₃
    obtain ⟨enough₄, gates_read, rfl⟩ := Declaration.readSection_eq_ok_iff.mp read₄
    cases ok
    simp only [List.length_drop] at enough₂ enough₃ enough₄
    simp only [List.drop_drop] at outputs_read gates_read
    refine ⟨by omega, inputs_read, latches_read, outputs_read, gates_read, ?_⟩
    simp only [List.drop_drop]
  · rintro ⟨enough, inputs_read, latches_read, outputs_read, gates_read, rest_eq⟩
    refine ⟨s.inputs, _, Declaration.readSection_eq_ok_iff.mpr ⟨by omega, inputs_read, rfl⟩,
      s.latches, _, Declaration.readSection_eq_ok_iff.mpr ⟨?_, latches_read, rfl⟩,
      s.outputs, _, Declaration.readSection_eq_ok_iff.mpr ⟨?_, ?_, rfl⟩,
      s.gates, _, Declaration.readSection_eq_ok_iff.mpr ⟨?_, ?_, rfl⟩, ?_⟩
    · rw [List.length_drop]
      omega
    · rw [List.length_drop, List.length_drop]
      omega
    · rw [List.drop_drop]
      exact outputs_read
    · rw [List.length_drop, List.length_drop, List.length_drop]
      omega
    · rw [List.drop_drop, List.drop_drop, ← Nat.add_assoc]
      exact gates_read
    · rw [List.drop_drop, List.drop_drop, List.drop_drop]
      simp only [← Nat.add_assoc, rest_eq]
      rfl

end AndInverter.Aag
