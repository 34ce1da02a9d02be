import AndInverter.Aag.Declaration
import AndInverter.Proofs.Circuit.Fits
import AndInverter.Proofs.Text.Numeral
import AndInverter.Proofs.Text.Words
import Mathlib.Data.List.Forall2

/-!
# The grammar of circuit texts

What a circuit text is, without a reader: lines that are not blank, a header with five counts, and a
window of lines for each section. Counts are numbers without a bound here. Lines keep their blanks
and their place among all lines of the text. Nothing is said about the lines behind the windows.
-/
namespace AndInverter.Aag
open Text

def keepNonblank (entries : List (List Char × Nat)) : List Line :=
  (entries.filter fun entry => !entry.1.all isBlank).map fun entry => ⟨entry.2, entry.1⟩

/-- Lines keep their numbers among all lines. -/
def nonblankLines (text : List Char) : List Line :=
  keepNonblank ((text.splitOn '\n').zipIdx 1)

theorem keepNonblank_cons (raw : List Char) (number : Nat) (rest : List (List Char × Nat)) :
    keepNonblank ((raw, number) :: rest) =
      if raw.all isBlank then keepNonblank rest else ⟨number, raw⟩ :: keepNonblank rest := by
  by_cases blank : raw.all isBlank = true
  · rw [if_pos blank, keepNonblank, List.filter_cons_of_neg (by simp [blank])]
    rfl
  · rw [if_neg blank, keepNonblank, List.filter_cons_of_pos (by simpa using blank)]
    rfl

theorem keepNonblank_append (entries more : List (List Char × Nat)) :
    keepNonblank (entries ++ more) = keepNonblank entries ++ keepNonblank more := by
  rw [keepNonblank, List.filter_append, List.map_append]
  rfl

/-- The header line: the name of the format and five counts. -/
def IsHeader (line : Line) (h : Header) : Prop :=
  ∃ m i l o a, words line.text = [['a', 'a', 'g'], m, i, l, o, a] ∧
    IsUnsigned m h.maxVar.toNat ∧ IsUnsigned i h.inputs.toNat ∧ IsUnsigned l h.latches.toNat ∧
    IsUnsigned o h.outputs.toNat ∧ IsUnsigned a h.gates.toNat

/-- The words of a line are numerals of the literals, and no variable is beyond the largest one. -/
structure Writes (maxVar : UInt64) (line : Line) (literals : List Literal) : Prop where
  numerals : List.Forall₂ (fun word l => IsUnsigned word l.code.toNat) (words line.text) literals
  bounded : ∀ l ∈ literals, l.code.toNat / 2 ≤ maxVar.toNat

def Section.Takes : Section → Nat → Prop
  | input, n | output, n => n = 1
  | latch, n => n = 2 ∨ n = 3
  | andGate, n => n = 3

def Section.count (h : Header) : Section → Nat
  | input => h.inputs.toNat
  | latch => h.latches.toNat
  | output => h.outputs.toNat
  | andGate => h.gates.toNat

/-- The number of lines between the header and a section. -/
def Section.offset (h : Header) : Section → Nat
  | input => 0
  | latch => h.inputs.toNat
  | output => h.inputs.toNat + h.latches.toNat
  | andGate => h.inputs.toNat + h.latches.toNat + h.outputs.toNat

/-- The lines of a section among those behind the header. -/
def Section.window (sect : Section) (h : Header) (body : List Line) : List Line :=
  (body.drop (sect.offset h)).take (sect.count h)

/-- The lines behind a header are enough, and those of each section have its shape. -/
structure Conforms (h : Header) (body : List Line) : Prop where
  enough : h.inputs.toNat + h.latches.toNat + h.outputs.toNat + h.gates.toNat ≤ body.length
  shape : ∀ sect : Section, ∀ line ∈ sect.window h body,
    ∃ literals, Writes h.maxVar line literals ∧ sect.Takes literals.length

/-- The sections of the circuit are the windows, entry by entry. Gates keep the line number. -/
structure Declares (body : List Line) (c : Circuit) : Prop where
  inputs : List.Forall₂ (fun line l => Writes c.header.maxVar line [l])
    (Section.input.window c.header body) c.inputs
  latches : List.Forall₂ (fun line latch => Writes c.header.maxVar line latch.literals)
    (Section.latch.window c.header body) c.latches
  outputs : List.Forall₂ (fun line l => Writes c.header.maxVar line [l])
    (Section.output.window c.header body) c.outputs
  gates : List.Forall₂
    (fun line g => Writes c.header.maxVar line g.literals ∧ g.line = line.number)
    (Section.andGate.window c.header body) c.gates

end AndInverter.Aag
