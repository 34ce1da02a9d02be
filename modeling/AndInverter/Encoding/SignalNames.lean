import AndInverter.Logged

/-!
Names of variables. The input and output entries of the symbol table name the variables of their
literals; inversion is dropped, latches are passed over and constants have no variable to name.
Both directions are kept in the order of the symbol table. When a name or a variable comes again it
keeps its place and takes the later partner.
-/
namespace AndInverter
open Text

structure UnmatchedSymbol where
  role : Role
  index : UInt64
  name : String
  deriving DecidableEq, Repr

def UnmatchedSymbol.message (e : UnmatchedSymbol) : String :=
  s!"{e.role} symbol {e.index} ({quoted e.name}) has no matching {e.role} declaration"

structure SignalNames where
  vars : OrderedMap String UInt64
  names : OrderedMap UInt64 String
  deriving DecidableEq

namespace SignalNames

def empty : SignalNames := ⟨.empty, .empty⟩

def insert (m : SignalNames) (name : String) (var : UInt64) : SignalNames :=
  ⟨m.vars.insert name var, m.names.insert var name⟩

def varOf (m : SignalNames) (name : String) : Option UInt64 := m.vars.get? name

def nameOf (m : SignalNames) (var : UInt64) : Option String := m.names.get? var

def isEmpty (m : SignalNames) : Bool := m.names.isEmpty

end SignalNames

namespace Circuit

/-- The literals whose entries can name a variable. Latches are not part of the encoding. -/
def namedLiterals? (c : Circuit) : Role → Option (List Literal)
  | .input => some c.inputs
  | .output => some c.outputs
  | .latch => none

def addSymbol (c : Circuit) (m : SignalNames) :
    (Role × UInt64) × String → Logged UnmatchedSymbol SignalNames
  | ((role, index), name) =>
    match c.namedLiterals? role with
    | none => pure m
    | some literals =>
      match literals[index.toNat]? with
      | none => .silent (.error ⟨role, index, name⟩)
      | some literal =>
        if literal.isConstant then ⟨[.constantSignal name literal], .ok m⟩
        else pure (m.insert name literal.var)

/-- The first symbol that names no entry ends the collecting. -/
def signals (c : Circuit) : Logged UnmatchedSymbol SignalNames :=
  c.symbols.entries.foldlM c.addSymbol .empty

end Circuit

end AndInverter
