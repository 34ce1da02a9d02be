import AndInverter.Cnf
import AndInverter.OrderedMap
import AndInverter.Text.Decimal
import AndInverter.Text.Pieces

/-!
Clause sets in the DIMACS format. One comment line per named variable comes first, then the problem
line with the declared number of variables and the number of clauses, then one line per clause, its
literals ended by a zero. Every line ends with a line feed.

Read back, lines end at line feeds only, so that a name can hold anything but a line feed. In front
of the problem line stand comments, and those of the form `c var V NAME` name a variable; behind it
stand literals, whatever the lines, each clause ended by a zero.
-/
namespace AndInverter.Dimacs
open Text

def nameLine (var : UInt64) (name : String) : List Char :=
  "c var ".toList ++ natural var.toNat ++ ' ' :: name.toList

def problemLine (numVars : UInt64) (numClauses : Nat) : List Char :=
  "p cnf ".toList ++ natural numVars.toNat ++ ' ' :: natural numClauses

def clauseLine (c : Clause) : List Char :=
  c.lits.flatMap (fun lit => integer lit ++ [' ']) ++ ['0']

def fileLines (f : Cnf) (names : OrderedMap UInt64 String) : List (List Char) :=
  names.entries.map (fun (var, name) => nameLine var name) ++
    problemLine f.numVars f.numClauses :: f.clauses.toList.map clauseLine

def text (f : Cnf) (names : OrderedMap UInt64 String) : String :=
  String.ofList ((fileLines f names).flatMap (· ++ ['\n']))

structure Contents where
  names : List (Nat × String)
  numVars : Nat
  numClauses : Nat
  clauses : List (List Int)
  deriving DecidableEq, Repr

def readName? : List Char → Option (Nat × String)
  | 'c' :: ' ' :: 'v' :: 'a' :: 'r' :: ' ' :: rest => do
    let (digits, name) ← splitFirst ' ' rest
    return (← natural? digits, String.ofList name)
  | _ => none

def readProblem? (line : List Char) : Option (Nat × Nat) :=
  match fields line with
  | [['p'], ['c', 'n', 'f'], numVars, numClauses] => do
    return (← natural? numVars, ← natural? numClauses)
  | _ => none

/-- Cuts literals into clauses at the zeros, behind the literals of a clause begun. The last clause
must be ended too. -/
def cutClauses : List Int → List Int → Option (List (List Int))
  | [], [] => some []
  | _ :: _, [] => none
  | begun, lit :: rest =>
    if lit = 0 then (cutClauses [] rest).map (begun :: ·)
    else cutClauses (begun ++ [lit]) rest

def isComment (line : List Char) : Bool := line.head? == some 'c'

def readLines? (all : List (List Char)) : Option Contents :=
  let names := (all.takeWhile isComment).filterMap readName?
  match all.dropWhile isComment with
  | [] => none
  | problem :: body => do
    let (numVars, numClauses) ← readProblem? problem
    let literals ← (body.flatMap fields).mapM integer?
    let clauses ← cutClauses [] literals
    return { names, numVars, numClauses, clauses }

def read? (text : String) : Option Contents := readLines? (lines text.toList)

end AndInverter.Dimacs
