import AndInverter.Proofs.Encoding.FixedSignals
import AndInverter.Proofs.Text.One

/-!
# What accepted arguments mean

Arguments that are accepted say for each name which of them speak of it; the first of these gives
the name its place and the last one its value. A value is true exactly if it is written as a one,
and everything else that is taken for an integer is false, whatever stands behind the place where
the reading ends. Written out again, what was read is read as the same assignments.
-/
namespace AndInverter
open OrderedMap Outcome

namespace Assignments
open Text
variable {args : List String} {arg name : String} {given : Assignments} {value : List Char}
  {b : Bool}

/-- A value that is accepted is true exactly if it is a written one. -/
theorem eq_true_iff_of_readValue (read : readValue value = .ok b) : b = true ↔ IsOne value := by
  rw [← readSigned_eq_one_iff]
  rw [readValue] at read
  split at read
  · next n outcome =>
    cases read
    simp [outcome]
  · next problem outcome =>
    split at read
    · cases read
      simp [outcome]
    · cases read

def parts? (arg : String) : Option (String × List Char) :=
  (splitFirst '=' arg.toList).map fun (name, value) => (String.ofList (trim name), trim value)

theorem parts?_eq_some_iff : parts? arg = some (name, value) ↔ Gives arg name.toList value := by
  rw [gives_iff, parts?, Option.map_eq_some_iff]
  constructor
  · rintro ⟨⟨before, after⟩, cut, same⟩
    cases same
    exact ⟨before, after, cut, String.toList_ofList.symm, rfl⟩
  · rintro ⟨before, after, cut, same, rfl⟩
    exact ⟨(before, after), cut, by simp [same]⟩

/-- The parts decide what an argument gives. -/
theorem given?_eq_bind (arg : String) : given? arg =
    (parts? arg).bind fun (name, value) => (readValue value).toOption.map fun b => (name, b) := by
  cases cut : splitFirst '=' arg.toList <;> simp [given?, parts?, cut]

theorem given?_eq_some_iff : given? arg = some (name, b) ↔
    ∃ value, Gives arg name.toList value ∧ readValue value = .ok b := by
  simp only [given?_eq_bind, Option.bind_eq_some_iff, Prod.exists, parts?_eq_some_iff]
  constructor
  · rintro ⟨name', value, gives, read⟩
    cases outcome : readValue value with
    | ok b' =>
      simp only [outcome, Except.toOption, Option.map_some, Option.some.injEq,
        Prod.mk.injEq] at read
      obtain ⟨rfl, rfl⟩ := read
      exact ⟨value, gives, outcome⟩
    | error p => simp [outcome, Except.toOption] at read
  · rintro ⟨value, gives, outcome⟩
    exact ⟨name, value, gives, by simp [outcome, Except.toOption]⟩

/-- An accepted argument that gives a value gives a truth value. -/
theorem exists_readValue (accepted : Accepted arg) {name : List Char}
    (gives : Gives arg name value) : ∃ b, readValue value = .ok b := by
  cases outcome : readValue value with
  | ok b => exact ⟨b, rfl⟩
  | error p =>
    have rejected := (readValue_eq_error_iff.mp outcome).1
    exact absurd (accepted _ _ gives) rejected

section Names

theorem any_parts?_iff : (parts? arg).any (·.1 = name) = true ↔
    ∃ value, Gives arg name.toList value := by
  simp only [Option.any_eq_true, decide_eq_true_eq, ← parts?_eq_some_iff]
  constructor
  · rintro ⟨⟨_, value⟩, found, rfl⟩
    exact ⟨value, found⟩
  · rintro ⟨value, found⟩
    exact ⟨(name, value), found, rfl⟩

instance : Decidable (∃ value, Gives arg name.toList value) := decidable_of_iff _ any_parts?_iff

def firstGiving (args : List String) (name : String) : Nat :=
  args.findIdx fun arg => ∃ value, Gives arg name.toList value

theorem firstPlace_parts? (args : List String) : firstPlace parts? args = firstGiving args := by
  funext name
  have same (arg : String) : (parts? arg).any (·.1 = name) =
      decide (∃ value, Gives arg name.toList value) :=
    Bool.eq_iff_iff.mpr (any_parts?_iff.trans decide_eq_true_iff.symm)
  exact congrArg (args.findIdx ·) (funext same)

/-- The names of accepted arguments are those that stand in them, whatever the values are. -/
theorem keys_given? (accepted : ∀ arg ∈ args, Accepted arg) :
    (ofList (args.filterMap given?)).keys = (ofList (args.filterMap parts?)).keys := by
  have same : ∀ arg ∈ args, (given? arg).map Prod.fst = (parts? arg).map Prod.fst := by
    intro arg mem
    rw [given?_eq_bind]
    cases found : parts? arg with
    | none => rfl
    | some pair =>
      obtain ⟨b, read⟩ := exists_readValue (accepted arg mem) (parts?_eq_some_iff.mp found)
      simp [read, Except.toOption]
  simp only [keys_ofList, firstKeys, List.map_filterMap, List.filterMap_congr same]

end Names

def LastGives (args : List String) (name : String) (b : Bool) : Prop :=
  ∃ before arg after value, args = before ++ arg :: after ∧ Gives arg name.toList value ∧
    (b = true ↔ IsOne value) ∧ ∀ other ∈ after, ∀ value, ¬ Gives other name.toList value

/-- A name has the value of the last argument that gives it one. -/
theorem get?_given?_iff (accepted : ∀ arg ∈ args, Accepted arg) :
    (ofList (args.filterMap given?)).get? name = some b ↔ LastGives args name b := by
  rw [get?_ofList_eq_some_iff, isLast_filterMap_iff]
  constructor
  · rintro ⟨before, arg, after, rfl, given, last⟩
    obtain ⟨value, gives, read⟩ := given?_eq_some_iff.mp given
    refine ⟨before, arg, after, value, rfl, gives, eq_true_iff_of_readValue read, ?_⟩
    intro other mem value' gives'
    have speaks : Accepted other := accepted other (by simp [mem])
    obtain ⟨b', read'⟩ := exists_readValue speaks gives'
    exact last other mem b' (given?_eq_some_iff.mpr ⟨value', gives', read'⟩)
  · rintro ⟨before, arg, after, value, rfl, gives, truth, last⟩
    obtain ⟨b', read⟩ := exists_readValue (accepted arg (by simp)) gives
    obtain rfl : b' = b := by
      rw [Bool.eq_iff_iff, eq_true_iff_of_readValue read, truth]
    refine ⟨before, arg, after, rfl, given?_eq_some_iff.mpr ⟨value, gives, read⟩, ?_⟩
    intro other mem b' given
    obtain ⟨value', gives', _⟩ := given?_eq_some_iff.mp given
    exact last other mem value' gives'

/-- The assignments are those that the arguments ask for. -/
structure Means (given : Assignments) (args : List String) : Prop where
  distinct : given.keys.Nodup
  mem_keys_iff : ∀ name, name ∈ given.keys ↔ ∃ arg ∈ args, ∃ value, Gives arg name.toList value
  ordered : given.keys.Pairwise fun name name' => firstGiving args name < firstGiving args name'
  value_iff : ∀ name b, given.get? name = some b ↔ LastGives args name b

theorem means_of_ofArgs (ok : (ofArgs args).outcome = .ok given) : Means given args := by
  obtain ⟨accepted, rfl⟩ := ofArgs_eq_ok_iff.mp ok
  refine ⟨OrderedMap.nodup _, ?_, ?_, fun name b => get?_given?_iff accepted⟩
  · intro name
    simp only [keys_given? accepted, keys_ofList, mem_firstKeys, mem_keys_filterMap,
      parts?_eq_some_iff]
  · rw [keys_given? accepted, ← firstPlace_parts?]
    exact keys_ofList_filterMap_pairwise

/-- Arguments without an equals sign can be left out. -/
theorem ofArgs_filter (args : List String) :
    (ofArgs (args.filter fun arg => '=' ∈ arg.toList)).outcome = (ofArgs args).outcome := by
  simp only [ofArgs, Logged.outcome_foldlM, List.foldlM_filter]
  congr 1
  funext a arg
  split
  · rfl
  · next absent =>
    have uncut := splitFirst_eq_none_of_not_mem (by simpa using absent)
    simp only [addArg, uncut]
    rfl

def arguments (a : Assignments) : List String := a.entries.map fun (name, b) => argument name b

/-- Assignments can be written as arguments and read again, if arguments can name their signals. -/
theorem ofArgs_arguments {a : Assignments} (named : ∀ name ∈ a.keys, IsArgumentName name) :
    (ofArgs a.arguments).outcome = .ok a := by
  have each : ∀ entry ∈ a.entries, IsArgumentName entry.1 :=
    fun entry mem => named entry.1 (List.mem_map_of_mem mem)
  refine ofArgs_eq_ok_iff.mpr ⟨?_, ?_⟩
  · intro arg written
    obtain ⟨entry, mem, rfl⟩ := List.mem_map.mp written
    have alone := ofArgs_argument (each entry mem) entry.2
    exact (ofArgs_eq_ok_iff.mp alone).1 _ (List.mem_singleton.mpr rfl)
  · have reread : a.arguments.filterMap given? = a.entries.filterMap some := by
      rw [arguments, List.filterMap_map]
      exact List.filterMap_congr fun entry mem => given?_argument (each entry mem) entry.2
    rw [reread, List.filterMap_some, ofList_entries]

/-- Accepted arguments make one entry for each name, where it came first, with the value it came
with last. Arguments without an equals sign can be put in and left out anywhere, and the entries
written out again are read as themselves. -/
theorem ofArgs_means (accepted : (ofArgs args).outcome = .ok given) :
    Means given args ∧
    (∀ others : List String, (others.filter fun arg => '=' ∈ arg.toList) =
      (args.filter fun arg => '=' ∈ arg.toList) → (ofArgs others).outcome = .ok given) ∧
    (ofArgs given.arguments).outcome = .ok given := by
  refine ⟨means_of_ofArgs accepted, ?_, ?_⟩
  · intro others same
    rw [← ofArgs_filter, same, ofArgs_filter, accepted]
  · exact ofArgs_arguments fun name mem => isArgumentName_of_mem_keys accepted mem

/-- Blanks, repeated names, padded and signed ones, a number that is none, an empty name and an
argument that says nothing. -/
def meantArgs : List String :=
  [" a =0", "b=+0001", "flag", "a=\u2003-1 ", "=1", "b =10", "a= 01", "c=99999999999999999999x"]

theorem ofArgs_means_repeated :
    (ofArgs meantArgs).outcome =
        .ok (.ofList [("a", true), ("b", false), ("", true), ("c", false)]) ∧
      Means (.ofList [("a", true), ("b", false), ("", true), ("c", false)]) meantArgs ∧
      (ofArgs ["a=1", "b=0", "=1", "c=0"]).outcome =
        .ok (.ofList [("a", true), ("b", false), ("", true), ("c", false)]) := by
  have accepted : (ofArgs meantArgs).outcome =
      .ok (.ofList [("a", true), ("b", false), ("", true), ("c", false)]) := by decide +kernel
  obtain ⟨means, _, again⟩ := ofArgs_means accepted
  exact ⟨accepted, means, again⟩

end Assignments

end AndInverter
