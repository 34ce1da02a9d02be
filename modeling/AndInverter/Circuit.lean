import AndInverter.Literal
import AndInverter.OrderedMap
import AndInverter.Word

/-!
And-inverter circuits: inputs, latches, outputs and AND gates over literals, with a symbol table
that names section entries. A circuit is what a file declares; nothing here relates the counts of
its header to the sections that follow.
-/
namespace AndInverter
open Word

structure Header where
  /-- The largest variable a literal may use. -/
  maxVar : UInt64
  inputs : UInt64
  latches : UInt64
  outputs : UInt64
  gates : UInt64
  deriving DecidableEq, Repr

namespace Header

/-- The sum stops at the largest word. -/
def bodyLines (h : Header) : UInt64 :=
  saturatingAdd (saturatingAdd (saturatingAdd h.inputs h.latches) h.outputs) h.gates

/-- The largest literal whose variable is at most `maxVar`. -/
def maxLiteral (h : Header) : Literal :=
  ⟨saturatingAdd (saturatingMul h.maxVar 2) 1⟩

instance : ToString Header where
  toString h :=
    s!"M={h.maxVar} I={h.inputs} L={h.latches} O={h.outputs} A={h.gates}"

/-- Partial sums that stop at the largest word leave the sum where it would have stopped. -/
theorem toNat_bodyLines (h : Header) : h.bodyLines.toNat =
    min (h.inputs.toNat + h.latches.toNat + h.outputs.toNat + h.gates.toNat) maxWord := by
  simp only [bodyLines, toNat_saturatingAdd]
  omega

theorem toNat_code_maxLiteral (h : Header) :
    h.maxLiteral.code.toNat = min (2 * h.maxVar.toNat + 1) maxWord := by
  have two : (2 : UInt64).toNat = 2 := rfl
  have one : (1 : UInt64).toNat = 1 := rfl
  simp only [maxLiteral, toNat_saturatingAdd, toNat_saturatingMul, two, one]
  omega

end Header

inductive Role
  | input
  | latch
  | output
  deriving DecidableEq, Repr

namespace Role

def marker : Role → Char
  | input => 'i'
  | latch => 'l'
  | output => 'o'

def ofMarker? : Char → Option Role
  | 'i' => some input
  | 'l' => some latch
  | 'o' => some output
  | _ => none

instance : ToString Role where
  toString
    | input => "input"
    | latch => "latch"
    | output => "output"

theorem ofMarker?_eq_some_iff {c : Char} {role : Role} :
    ofMarker? c = some role ↔ c = role.marker := by
  constructor
  · intro h
    unfold ofMarker? at h
    split at h <;> simp_all <;> subst h <;> rfl
  · rintro rfl
    cases role <;> rfl

end Role

/-- An AND gate `output = left ∧ right` and the line that declares it. -/
structure AndGate where
  output : Literal
  left : Literal
  right : Literal
  line : Nat
  deriving DecidableEq, Repr

/-- Latches take no part in the encoding. -/
structure Latch where
  literal : Literal
  next : Literal
  reset : Option Literal
  deriving DecidableEq, Repr

structure Circuit where
  header : Header
  inputs : List Literal
  latches : List Latch
  outputs : List Literal
  gates : List AndGate
  /-- Names of section entries, by section and position in it. -/
  symbols : OrderedMap (Role × UInt64) String
  comments : List String
  deriving DecidableEq

def Circuit.symbol (c : Circuit) (role : Role) (index : UInt64) : Option String :=
  c.symbols.get? (role, index)

end AndInverter
