import AndInverter.Command.Run

/-!
What the command shows. Notices and the problem that ended a run go to the error stream, the table
of names, the help text and the version to the output stream. Notices are shown down to a chosen
severity, one line each, without terminal control.
-/
namespace AndInverter.Command
open Text

inductive Verbosity
  | off
  | error
  | warn
  | info
  | debug
  | trace
  deriving DecidableEq, Repr

namespace Verbosity

def ofName? : String → Option Verbosity
  | "off" => some off
  | "error" => some error
  | "warn" => some warn
  | "info" => some info
  | "debug" => some debug
  | "trace" => some trace
  | _ => none

/-- The chosen verbosity by its name; without one, notices from `info` on are shown. -/
def ofChoice (name : Option String) : Verbosity := (name.bind ofName?).getD info

def shows : Verbosity → Severity → Bool
  | off, _ | error, _ => false
  | warn, severity => severity == .warning
  | info, severity => severity != .debug
  | debug, _ | trace, _ => true

end Verbosity

/-- The line that shows a notice, its severity filled up to five letters. -/
def noticeLine (n : Notice) : String :=
  let label := n.severity.label
  let padding := String.ofList (List.replicate (5 - label.length) ' ')
  plain s!"[{label}{padding}] {n.message}\n"

structure Output where
  status : UInt32
  stdout : String
  stderr : String
  deriving DecidableEq

def failureLine : Failure Problem → String
  | .error e => s!"Error: {e.detail}\n"
  | .fault _ => "Error: a precondition of the encoding does not hold\n"

def failureStatus : Failure Problem → UInt32
  | .error _ => 1
  | .fault _ => 101

def Report.output (r : Report) (verbosity : Verbosity) : Output where
  status := (r.failure.map failureStatus).getD 0
  stdout := (r.table.map (· ++ "\n")).getD ""
  stderr :=
    String.join ((r.notices.filter fun n => verbosity.shows n.severity).map noticeLine) ++
      (r.failure.map failureLine).getD ""

def versionText : String := "aig2cnf 0.1.0\n"

def helpText : String :=
"Translate an ASCII AIGER circuit into DIMACS CNF, keeping the signal names

Usage: aig2cnf [OPTIONS] <CIRCUIT> [SIGNAL=VALUE]...

Arguments:
  <CIRCUIT>          ASCII AIGER (.aag) circuit to translate
  [SIGNAL=VALUE]...  Signals to fix before encoding, e.g. `a=1 b=0`. Arguments without `=` are ignored

Options:
      --cnf <PATH>      Where to write the DIMACS CNF [default: problem.cnf]
      --mapping <PATH>  Where to write the variable/signal mapping [default: mapping.json]
      --print-mapping   Print the variable/signal mapping as a table
  -h, --help            Print help
  -V, --version         Print version
"

def usageText : String :=
"error: the arguments are not understood

For more information, try '--help'.
"

def perform {m : Type → Type} [Monad m] [FileAccess m] (args : List String)
    (verbosity : Verbosity) : m Output := do
  match Request.ofArgs args with
  | .help => return ⟨0, helpText, ""⟩
  | .version => return ⟨0, versionText, ""⟩
  | .usage => return ⟨2, "", usageText⟩
  | .run options =>
    let report ← options.run
    return report.output verbosity

end AndInverter.Command
