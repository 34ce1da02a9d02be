import AndInverter.Cnf
import AndInverter.Encoding.SignalNames
import AndInverter.Text.Pieces

/-!
Assignments fix named signals to a value. They are written `name=value`, with blanks around both
parts ignored; the value is an integer and means true exactly if it is one. In a clause set an
assignment becomes a unit clause on the signal's variable.
-/
namespace AndInverter
open Text

abbrev Assignments := OrderedMap String Bool

structure AssignmentError where
  arg : String
  value : String
  problem : NumeralProblem
  deriving DecidableEq, Repr

namespace AssignmentError

def reason (e : AssignmentError) : String :=
  s!"value {quoted e.value} is not an integer ({e.problem.message})"

def message (e : AssignmentError) : String :=
  s!"invalid assignment {quoted e.arg}: {e.reason}"

end AssignmentError

namespace Assignments

/-- The truth value of an integer numeral. One outside the 64-bit words is not one. -/
def readValue (text : List Char) : Except NumeralProblem Bool :=
  match readSigned text with
  | .ok n => .ok (n == 1)
  | .error problem => if problem.isOutOfRange then .ok false else .error problem

/-- An argument without an equals sign is passed over. -/
def addArg (a : Assignments) (arg : String) : Logged AssignmentError Assignments :=
  match splitFirst '=' arg.toList with
  | none => ⟨[.ignoredArgument arg], .ok a⟩
  | some (name, value) =>
    match readValue (trim value) with
    | .ok b => pure (a.insert (String.ofList (trim name)) b)
    | .error problem => .silent (.error ⟨arg, String.ofList (trim value), problem⟩)

def ofArgs (args : List String) : Logged AssignmentError Assignments :=
  args.foldlM addArg .empty

def text (a : Assignments) : String :=
  ", ".intercalate (a.entries.map fun (name, value) => name ++ if value then "=1" else "=0")

end Assignments

/-- The signed literal of a variable, as far as the signed words reach: from 2^63 on the word is
read as a negative number. -/
def signedVar (var : UInt64) : Int := Int.bmod var.toNat UInt64.size

/-- The literal that gives a variable its value. The smallest signed word has no negation. -/
def unitLiteral (var : UInt64) (value : Bool) : Except Fault Int :=
  if value then .ok (signedVar var)
  else if signedVar var = Int.negSucc Word.maxSigned then .error .overflow
  else .ok (-signedVar var)

/-- A clause set after assignments were added to it: how many of them have a variable, what there
is to tell, and the fault that ended the adding, if any. -/
structure Pinning where
  cnf : Cnf
  applied : Nat
  notices : List Notice
  fault : Option Fault

/-- Appends one unit clause for each assignment whose signal has a variable. -/
def Cnf.pin (signals : SignalNames) : Cnf → List (String × Bool) → Pinning
  | f, [] => ⟨f, 0, [], none⟩
  | f, (name, value) :: rest =>
    match signals.varOf name with
    | none =>
      let pinning := pin signals f rest
      { pinning with notices := .unknownSignal name :: pinning.notices }
    | some var =>
      match unitLiteral var value >>= fun lit => Clause.ofLits [lit] with
      | .error e => ⟨f, 0, [], some e⟩
      | .ok c =>
        let pinning := pin signals (f.push c) rest
        { pinning with applied := pinning.applied + 1 }

end AndInverter
