import AndInverter.Cnf.Dimacs
import AndInverter.Proofs.Cnf.Growth
import AndInverter.Proofs.Text.Joined

/-!
# Reading clause sets back

What is written in the DIMACS format reads back as it was: the names in their order, both counts,
and every clause with its literals in order. Names may look like any line of the format; all that
matters is that they hold no line feed.
-/
namespace AndInverter.Dimacs
open Text

def contents (f : Cnf) (names : OrderedMap UInt64 String) : Contents where
  names := names.entries.map fun (var, name) => (var.toNat, name)
  numVars := f.numVars.toNat
  numClauses := f.numClauses
  clauses := f.literalLists

section Lines

theorem nameLine_eq (var : UInt64) (name : String) : nameLine var name =
    ['c', ' ', 'v', 'a', 'r', ' '] ++ (natural var.toNat ++ ' ' :: name.toList) := rfl

theorem problemLine_eq (numVars : UInt64) (numClauses : Nat) : problemLine numVars numClauses =
    ['p'] ++ ' ' :: (['c', 'n', 'f'] ++ ' ' ::
      (natural numVars.toNat ++ ' ' :: natural numClauses)) := rfl

theorem readName?_nameLine (var : UInt64) (name : String) :
    readName? (nameLine var name) = some (var.toNat, name) := by
  have digits := isWord_natural var.toNat
  have cut := splitFirst_append (digits.not_mem (c := ' ') rfl) name.toList
  rw [nameLine_eq]
  simp [readName?, cut]

theorem readProblem?_problemLine (numVars : UInt64) (numClauses : Nat) :
    readProblem? (problemLine numVars numClauses) = some (numVars.toNat, numClauses) := by
  have cut : fields (problemLine numVars numClauses) =
      [['p'], ['c', 'n', 'f'], natural numVars.toNat, natural numClauses] := by
    have p : IsWord ['p'] := isWord_of_all (by decide) rfl
    have cnf : IsWord ['c', 'n', 'f'] := isWord_of_all (by decide) rfl
    rw [problemLine_eq, p.fields_append rfl, cnf.fields_append rfl,
      (isWord_natural _).fields_append rfl, (isWord_natural _).fields_eq]
  rw [readProblem?, cut]
  simp

theorem fields_clauseLine (c : Clause) :
    fields (clauseLine c) = (c.lits ++ [0]).map integer := by
  have written : clauseLine c = (c.lits.map integer).flatMap (· ++ [' ']) ++ integer 0 := by
    rw [List.flatMap_map]
    rfl
  have areWords : ∀ word ∈ c.lits.map integer, IsWord word := by
    intro word hw
    obtain ⟨lit, -, rfl⟩ := List.mem_map.mp hw
    exact isWord_integer lit
  rw [written, fields_flatMap_space areWords, (isWord_integer 0).fields_eq, List.map_append]
  rfl

end Lines

section Clauses

/-- A zero ends the clause that is begun. -/
theorem cutClauses_append_zero {lits : List Int} (nonzero : 0 ∉ lits) (begun rest : List Int) :
    cutClauses begun (lits ++ 0 :: rest) = (cutClauses [] rest).map ((begun ++ lits) :: ·) := by
  induction lits generalizing begun with
  | nil => simp [cutClauses]
  | cons lit more ih =>
    have here : lit ≠ 0 := fun zero => nonzero (zero ▸ List.mem_cons_self)
    have later := ih (fun h => nonzero (List.mem_cons_of_mem lit h)) (begun ++ [lit])
    rw [List.append_assoc, List.singleton_append] at later
    rw [List.cons_append, cutClauses, if_neg here, later]

/-- Clauses that are ended by zeros are cut at them. -/
theorem cutClauses_flatMap (clauses : List Clause) :
    cutClauses [] (clauses.flatMap fun c => c.lits ++ [0]) = some (clauses.map Clause.lits) := by
  induction clauses with
  | nil => rfl
  | cons c rest ih =>
    rw [List.flatMap_cons, List.append_assoc, List.singleton_append,
      cutClauses_append_zero c.ne_zero, ih]
    rfl

end Clauses

section File
variable {f : Cnf} {names : OrderedMap UInt64 String}

theorem readLines?_fileLines (f : Cnf) (names : OrderedMap UInt64 String) :
    readLines? (fileLines f names) = some (contents f names) := by
  have comments : ∀ line ∈ names.entries.map (fun (var, name) => nameLine var name),
      isComment line = true := by
    intro line hl
    obtain ⟨⟨var, name⟩, -, rfl⟩ := List.mem_map.mp hl
    rfl
  have problem : isComment (problemLine f.numVars f.numClauses) = false := rfl
  have literals : (f.clauses.toList.map clauseLine).flatMap fields =
      (f.clauses.toList.flatMap fun c => c.lits ++ [0]).map integer := by
    simp only [List.flatMap_map, List.map_flatMap, fields_clauseLine]
  have named : (names.entries.map fun (var, name) => nameLine var name).filterMap readName? =
      names.entries.map fun (var, name) => (var.toNat, name) := by
    simp only [List.filterMap_map, Function.comp_def, readName?_nameLine]
    exact congrFun List.filterMap_eq_map' names.entries
  rw [readLines?, fileLines, List.takeWhile_append_of_pos comments,
    List.dropWhile_append_of_pos comments, List.takeWhile_cons_of_neg (by simp [problem]),
    List.dropWhile_cons_of_neg (by simp [problem]), List.append_nil, named]
  simp only [readProblem?_problemLine, literals, mapM_integer?, Option.bind_eq_bind,
    Option.bind_some, cutClauses_flatMap]
  rfl

theorem feed_not_mem_natural (n : Nat) : '\n' ∉ natural n := (isWord_natural n).not_mem rfl

theorem feed_not_mem_nameLine (var : UInt64) {name : String} (free : '\n' ∉ name.toList) :
    '\n' ∉ nameLine var name := by
  simp only [nameLine_eq, List.mem_append, List.mem_cons, feed_not_mem_natural, free, or_false]
  decide

theorem feed_not_mem_problemLine (numVars : UInt64) (numClauses : Nat) :
    '\n' ∉ problemLine numVars numClauses := by
  simp only [problemLine_eq, List.mem_append, List.mem_cons, feed_not_mem_natural, or_false]
  decide

theorem feed_not_mem_clauseLine (c : Clause) : '\n' ∉ clauseLine c := by
  have numeral (z : Int) : '\n' ∉ integer z := (isWord_integer z).not_mem rfl
  simp [clauseLine, numeral]

theorem feed_not_mem_fileLines (free : ∀ entry ∈ names.entries, '\n' ∉ entry.2.toList) :
    ∀ line ∈ fileLines f names, '\n' ∉ line := by
  intro line hl
  rcases List.mem_append.mp hl with hl | hl
  · obtain ⟨⟨var, name⟩, entry, rfl⟩ := List.mem_map.mp hl
    exact feed_not_mem_nameLine var (free _ entry)
  rcases List.mem_cons.mp hl with rfl | hl
  · exact feed_not_mem_problemLine f.numVars f.numClauses
  · obtain ⟨c, -, rfl⟩ := List.mem_map.mp hl
    exact feed_not_mem_clauseLine c

/-- What is written reads back if no name can end its line. -/
theorem read?_text (free : ∀ entry ∈ names.entries, '\n' ∉ entry.2.toList) :
    read? (text f names) = some (contents f names) := by
  rw [read?, text, String.toList_ofList, lines_flatMap_feed (feed_not_mem_fileLines free),
    readLines?_fileLines]

end File

end AndInverter.Dimacs
