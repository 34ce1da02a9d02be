import AndInverter.Encoding.Assignments
import AndInverter.Proofs.OrderedMap
import AndInverter.Proofs.Text.Joined
import AndInverter.Proofs.Text.SignedNumeral

/-!
# Assignment arguments

An argument with an equals sign gives a value to a name: the text behind the first equals sign and
the text before it, both without blanks around them. The arguments are accepted together exactly if
every value is taken for an integer, and otherwise the first one with another value is reported.

A value is taken for an integer if it is one, but also if it only begins with one that is outside
the signed words, since the rest is then not looked at.
-/
namespace AndInverter
open Outcome OrderedMap Text

namespace Assignments
variable {a : Assignments} {arg : String} {args : List String} {e : AssignmentError}

/-- The argument gives the value to the name: both stand around its first equals sign. -/
def Gives (arg : String) (name value : List Char) : Prop :=
  ∃ before after, arg.toList = before ++ '=' :: after ∧ '=' ∉ before ∧
    trim before = name ∧ trim after = value

/-- An integer of any size, or a text that begins with one outside the signed words. -/
def TakenForInteger (value : List Char) : Prop := IsInteger value ∨ LeavesWords value

/-- The argument has no equals sign, or its value is taken for an integer. -/
def Accepted (arg : String) : Prop := ∀ name value, Gives arg name value → TakenForInteger value

structure Reports (e : AssignmentError) (arg : String) : Prop where
  arg_eq : e.arg = arg
  gives : ∃ name, Gives arg name e.value.toList
  rejected : ¬ TakenForInteger e.value.toList
  problem_eq : e.problem = if e.value.toList = [] then .empty else .invalidDigit

section Values
variable {value : List Char} {p : NumeralProblem}

theorem readValue_eq_error_iff_readSigned :
    readValue value = .error p ↔ p.isOutOfRange = false ∧ readSigned value = .error p := by
  rw [readValue]
  cases readSigned value with
  | ok n => simp
  | error q => cases q <;> cases p <;> simp [NumeralProblem.isOutOfRange]

/-- A value is refused exactly if it is not taken for an integer, and an empty one has a reason of
its own. -/
theorem readValue_eq_error_iff : readValue value = .error p ↔
    ¬ TakenForInteger value ∧ p = if value = [] then .empty else .invalidDigit := by
  rw [readValue_eq_error_iff_readSigned]
  constructor
  · rintro ⟨inRange, outcome⟩
    exact (readSigned_eq_error_iff inRange).mp outcome
  · rintro ⟨rejected, rfl⟩
    have inRange : (if value = [] then .empty else .invalidDigit : NumeralProblem).isOutOfRange
        = false := by split <;> rfl
    exact ⟨inRange, (readSigned_eq_error_iff inRange).mpr ⟨rejected, rfl⟩⟩

end Values

section Arguments

/-- What is wrong with an argument, whatever was assigned before. -/
def problem? (arg : String) : Option AssignmentError :=
  (splitFirst '=' arg.toList).bind fun (_, value) =>
    match readValue (trim value) with
    | .ok _ => none
    | .error problem => some ⟨arg, String.ofList (trim value), problem⟩

def given? (arg : String) : Option (String × Bool) :=
  (splitFirst '=' arg.toList).bind fun (name, value) =>
    (readValue (trim value)).toOption.map fun b => (String.ofList (trim name), b)

theorem addArg_of_problem (found : problem? arg = some e) : (a.addArg arg).outcome = .error e := by
  obtain ⟨⟨name, value⟩, cut, found⟩ := Option.bind_eq_some_iff.mp found
  cases outcome : readValue (trim value) with
  | ok b => simp [outcome] at found
  | error p =>
    simp only [outcome, Option.some.injEq] at found
    simp only [addArg, cut, outcome, found, Logged.outcome_silent]

theorem addArg_of_no_problem (none_found : problem? arg = none) :
    (a.addArg arg).outcome =
      .ok ((given? arg).elim a fun pair => a.insert pair.1 pair.2) := by
  cases cut : splitFirst '=' arg.toList with
  | none => simp [addArg, given?, cut]
  | some parts =>
    cases outcome : readValue (trim parts.2) with
    | ok b => simp [addArg, given?, cut, outcome, Except.toOption]
    | error p => simp [problem?, cut, outcome] at none_found

theorem gives_iff {name value : List Char} : Gives arg name value ↔
    ∃ before after, splitFirst '=' arg.toList = some (before, after) ∧
      trim before = name ∧ trim after = value := by
  simp only [Gives, splitFirst_eq_some_iff, and_assoc]

theorem problem?_eq_some_iff : problem? arg = some e ↔ Reports e arg := by
  rw [problem?]
  constructor
  · intro found
    obtain ⟨⟨before, after⟩, cut, found⟩ := Option.bind_eq_some_iff.mp found
    cases outcome : readValue (trim after) with
    | ok b => simp [outcome] at found
    | error p =>
      obtain ⟨rejected, problem_eq⟩ := readValue_eq_error_iff.mp outcome
      simp only [outcome, Option.some.injEq] at found
      subst found
      refine ⟨rfl, ⟨trim before, gives_iff.mpr ⟨before, after, cut, rfl, ?_⟩⟩, ?_, ?_⟩
      all_goals simp only [String.toList_ofList]
      · exact rejected
      · exact problem_eq
  · rintro ⟨rfl, ⟨name, gives⟩, rejected, problem_eq⟩
    obtain ⟨before, after, cut, _, value_eq⟩ := gives_iff.mp gives
    have outcome := readValue_eq_error_iff.mpr ⟨rejected, problem_eq⟩
    simp [cut, value_eq, outcome]

theorem problem?_eq_none_iff : problem? arg = none ↔ Accepted arg := by
  rw [Option.eq_none_iff_forall_not_mem]
  constructor
  · intro none_found name value gives
    by_contra rejected
    refine none_found ⟨arg, String.ofList value, if value = [] then .empty else .invalidDigit⟩ ?_
    refine problem?_eq_some_iff.mpr ⟨rfl, ⟨name, ?_⟩, ?_, ?_⟩
    all_goals simp only [String.toList_ofList]
    · exact gives
    · exact rejected
  · intro accepted e found
    obtain ⟨_, ⟨name, gives⟩, rejected, _⟩ := problem?_eq_some_iff.mp found
    exact rejected (accepted name _ gives)

end Arguments

/-- Arguments are accepted all or none. -/
theorem ofArgs_eq_ok_iff : (ofArgs args).outcome = .ok a ↔
    (∀ arg ∈ args, Accepted arg) ∧ .ofList (args.filterMap given?) = a := by
  rw [ofArgs, Logged.outcome_foldlM, foldlM_eq_ok_iff problem? given?
    (fun a pair => a.insert pair.1 pair.2) (fun _ _ _ => addArg_of_problem)
    fun _ _ => addArg_of_no_problem]
  simp only [problem?_eq_none_iff]
  rfl

/-- The first argument that is not accepted is reported. -/
theorem ofArgs_eq_error_iff : (ofArgs args).outcome = .error e ↔
    ∃ before arg after, args = before ++ arg :: after ∧ Reports e arg ∧
      ∀ arg ∈ before, Accepted arg := by
  rw [ofArgs, Logged.outcome_foldlM, foldlM_eq_error_iff problem? given?
    (fun a pair => a.insert pair.1 pair.2) (fun _ _ _ => addArg_of_problem)
    fun _ _ => addArg_of_no_problem]
  simp only [problem?_eq_some_iff, problem?_eq_none_iff]

/-- The arguments are accepted exactly if every value is taken for an integer, and otherwise the
first one whose value is not is reported, with the value and what is wrong with it. -/
theorem ofArgs_accepts_iff (args : List String) :
    ((∃ a, (ofArgs args).outcome = .ok a) ↔ ∀ arg ∈ args, Accepted arg) ∧
    ∀ e, (ofArgs args).outcome = .error e ↔
      ∃ before arg after, args = before ++ arg :: after ∧ Reports e arg ∧
        ∀ arg ∈ before, Accepted arg := by
  refine ⟨⟨?_, ?_⟩, fun _ => ofArgs_eq_error_iff⟩
  · rintro ⟨a, outcome⟩
    exact (ofArgs_eq_ok_iff.mp outcome).1
  · intro accepted
    exact ⟨_, ofArgs_eq_ok_iff.mpr ⟨accepted, rfl⟩⟩

example : (ofArgs ["flag", "a= +1 ", "b=-99999999999999999999", "c=1=1", "d="]).outcome =
    .error ⟨"c=1=1", "1=1", .invalidDigit⟩ := rfl

/-- Twenty digits lead out of the signed words, so the letter behind them goes unnoticed: the
argument is accepted with the value false, although its value is no integer. -/
theorem ofArgs_accepts_overrun :
    (ofArgs ["a=99999999999999999999x"]).outcome = .ok (.ofList [("a", false)]) ∧
    Gives "a=99999999999999999999x" ['a'] "99999999999999999999x".toList ∧
    ¬ IsInteger "99999999999999999999x".toList := by
  refine ⟨rfl, ⟨['a'], _, rfl, by decide, rfl, rfl⟩, ?_⟩
  rintro ⟨_, digits, sign, isDigits⟩
  cases sign
  have last : 'x'.isDigit = true := isDigits.isDigit 'x' (by decide)
  exact absurd last (by decide)

end Assignments
end AndInverter
