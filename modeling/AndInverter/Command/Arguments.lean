import AndInverter.Text.Pieces

/-!
The command line's arguments. Options stand before or right behind the circuit. The first argument
that is no option is the circuit. Behind it, an argument that looks like an option but is none is
the first assignment, and from the first assignment on every argument is one. Two hyphens alone end
the options. A request for help or the version is answered where it stands, unless a mistake comes
before it.
-/
namespace AndInverter.Command
open Text

structure Options where
  circuit : String
  assignments : List String
  cnfPath : String
  namesPath : String
  printNames : Bool
  deriving DecidableEq, Repr

inductive Request
  | run (options : Options)
  | help
  | version
  /-- The arguments make no sense. -/
  | usage
  deriving DecidableEq, Repr

structure Given where
  circuit : Option String
  cnfPath : Option String
  namesPath : Option String
  printNames : Bool
  deriving DecidableEq, Repr

namespace Given

def nothing : Given := ⟨none, none, none, false⟩

def finish (g : Given) (assignments : List String) : Request :=
  match g.circuit with
  | none => .usage
  | some circuit => .run
    { circuit, assignments
      cnfPath := g.cnfPath.getD "problem.cnf"
      namesPath := g.namesPath.getD "mapping.json"
      printNames := g.printNames }

/-- Reads arguments none of which is an option any more. -/
def finishPlain (g : Given) (args : List String) : Request :=
  match g.circuit, args with
  | some _, assignments => g.finish assignments
  | none, "" :: _ => .usage
  | none, circuit :: assignments => { g with circuit := some circuit }.finish assignments
  | none, [] => .usage

end Given

inductive PathOption
  | cnf
  | mapping
  deriving DecidableEq, Repr

/-- Takes the path of an option, which must not be empty and is given only once. -/
def Given.setPath (g : Given) (option : PathOption) (path : String) : Option Given :=
  match option with
  | .cnf => if path.isEmpty || g.cnfPath.isSome then none else some { g with cnfPath := path }
  | .mapping =>
    if path.isEmpty || g.namesPath.isSome then none else some { g with namesPath := path }

inductive Shape
  /-- Two hyphens alone. -/
  | escape
  /-- Two hyphens, a name, and perhaps an equals sign and a value. -/
  | long (name : String) (value : Option String)
  /-- One hyphen and letters. -/
  | short (letters : List Char)
  /-- Anything else, a hyphen alone included. -/
  | plain
  deriving DecidableEq, Repr

def Shape.ofArg (arg : String) : Shape :=
  match arg.toList with
  | ['-', '-'] => .escape
  | '-' :: '-' :: body =>
    match splitFirst '=' body with
    | none => .long (String.ofList body) none
    | some (name, value) => .long (String.ofList name) (some (String.ofList value))
  | '-' :: c :: rest => .short (c :: rest)
  | _ => .plain

inductive LongOption
  | path (option : PathOption)
  | printNames
  | help
  | version
  deriving DecidableEq, Repr

def LongOption.ofName? : String → Option LongOption
  | "cnf" => some (.path .cnf)
  | "mapping" => some (.path .mapping)
  | "print-mapping" => some .printNames
  | "help" => some .help
  | "version" => some .version
  | _ => none

def letterRequest? : Char → Option Request
  | 'h' => some .help
  | 'V' => some .version
  | _ => none

/-- Behind the circuit, an argument of this shape is no option. -/
def Shape.isForeign : Shape → Bool
  | .escape => false
  | .long name _ => (LongOption.ofName? name).isNone
  | .short letters => letters.any fun c => (letterRequest? c).isNone
  | .plain => true

/-- The argument can be the value of an option in front of it. -/
def Given.canBeValue (g : Given) (arg : String) : Bool :=
  match Shape.ofArg arg with
  | .plain => true
  | shape => g.circuit.isSome && shape.isForeign

def Given.read (g : Given) : List String → Request
  | [] => g.finish []
  | arg :: rest =>
    let shape := Shape.ofArg arg
    if g.circuit.isSome && shape.isForeign then g.finish (arg :: rest)
    else match shape with
      | .escape => g.finishPlain rest
      | .plain => if arg.isEmpty then .usage else read { g with circuit := some arg } rest
      | .short letters =>
        match letters with
        | [] => .usage
        | c :: _ => (letterRequest? c).getD .usage
      | .long name value =>
        match LongOption.ofName? name, value with
        | some .help, none => .help
        | some .version, none => .version
        | some .printNames, none =>
          if g.printNames then .usage else read { g with printNames := true } rest
        | some (.path option), some path =>
          match g.setPath option path with
          | none => .usage
          | some g => read g rest
        | some (.path option), none =>
          match rest with
          | [] => .usage
          | path :: rest =>
            if g.canBeValue path then
              match g.setPath option path with
              | none => .usage
              | some g => read g rest
            else .usage
        | some _, some _ => .usage
        | none, _ => .usage

def Request.ofArgs (args : List String) : Request := Given.nothing.read args

end AndInverter.Command
