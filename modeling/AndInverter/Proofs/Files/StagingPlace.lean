import AndInverter.OutputFiles
import AndInverter.Proofs.Files.Contents
import AndInverter.Proofs.Text.Joined

/-!
# Where files are staged

A file is staged in the directory of its own, under its name with an ending. So two paths to the
same place have the same staging place, and it is never the place itself. This holds of paths that
end in a name of their own, however they reach it.
-/
namespace AndInverter
open FileTree Outcome Text

section Names
variable {path : String}

/-- A path that ends in no slash ends in a name, and its staging path is the one with the staging
name instead. -/
theorem exists_pathNames (nonempty : path ≠ "") (slash : endsInSlash path = false) :
    ∃ front name, pathNames path = front ++ [name] ∧
      pathNames (stagingPath path) = front ++ [stagingPath name] := by
  obtain ⟨front, last, ends, joins⟩ := exists_pieces_append (· == '/') path.toList
  have named : last ≠ [] := by
    intro empty
    rcases ends empty with none_left | ⟨c, found, separates⟩
    · exact nonempty (String.toList_eq_nil_iff.mp none_left)
    · rw [endsInSlash, found, eq_of_beq separates] at slash
      cases slash
  have alone := joins [] (by simp)
  rw [List.append_nil, List.append_nil] at alone
  have suffix : '/' ∉ ".tmp".toList := by decide
  have staged := joins ".tmp".toList fun c hc =>
    beq_eq_false_iff_ne.mpr fun same => suffix (same ▸ hc)
  refine ⟨(front.filter fun name => !name.isEmpty).map String.ofList, String.ofList last, ?_, ?_⟩
  · rw [pathNames, alone, List.filter_append, List.map_append]
    simp [named]
  · rw [pathNames, stagingPath, String.toList_append, staged, List.filter_append, List.map_append]
    simp [named, stagingPath, String.ofList_append]

theorem endsInSlash_stagingPath (path : String) : endsInSlash (stagingPath path) = false := by
  rw [endsInSlash, stagingPath, String.toList_append, List.getLast?_append]
  rfl

theorem isAbsolute_stagingPath (nonempty : path ≠ "") :
    isAbsolute (stagingPath path) = isAbsolute path := by
  rw [isAbsolute, isAbsolute, stagingPath, String.toList_append, List.head?_append]
  cases found : path.toList with
  | nil => exact absurd (String.toList_eq_nil_iff.mp found) nonempty
  | cons c rest => rfl

theorem stagingPath_ne (name : String) : stagingPath name ≠ name := by
  intro same
  have length := congrArg String.length same
  rw [stagingPath, String.length_append] at length
  have tail : ".tmp".length = 4 := rfl
  omega

/-- A staging name is a name of its own. -/
theorem stagingPath_ne_dots (name : String) :
    stagingPath name ≠ "." ∧ stagingPath name ≠ ".." := by
  have long : 4 ≤ (stagingPath name).length := by
    rw [stagingPath, String.length_append]
    exact Nat.le_add_left _ _
  constructor
  · intro same
    rw [same] at long
    exact absurd long (by decide)
  · intro same
    rw [same] at long
    exact absurd long (by decide)

end Names

def stagingPlace (place : Location) : Location :=
  place.dropLast ++ (place.getLast?.map stagingPath).toList

theorem stagingPlace_append (front : Location) (name : String) :
    stagingPlace (front ++ [name]) = front ++ [stagingPath name] := by
  rw [stagingPlace, List.dropLast_concat, List.getLast?_concat]
  rfl

namespace FileTree
variable {t : FileTree} {path : String} {place stagePlace : Location}

theorem resolve_eq_ok (found : t.resolve path = .ok place) : path ≠ "" ∧
    t.walk (if isAbsolute path then [] else t.home) (pathNames path) = .ok place := by
  rw [resolve] at found
  split at found
  · cases found
  split at found
  · cases found
  next nonempty =>
  split at found
  · cases found
  exact ⟨fun h => nonempty (by rw [h]; rfl), found⟩

/-- The last name of a path that is no dots is the last name of its place. -/
theorem eq_append_of_walk {start middle : Location} {front : List String} {name : String}
    (found : t.walk start (front ++ [name]) = .ok place) (dot : name ≠ ".") (dots : name ≠ "..")
    (reached : t.walk start front = .ok middle) : place = middle ++ [name] := by
  obtain ⟨middle', reached', last⟩ := walk_append_eq_ok_iff.mp found
  cases reached.symm.trans reached'
  obtain ⟨-, next, step, stop⟩ := walk_cons_eq_ok_iff.mp last
  rw [follow, if_neg dot, if_neg dots] at step
  split_ifs at step
  cases step
  cases stop
  rfl

/-- A file and its staged form have places side by side. -/
theorem resolve_stagingPath (slash : endsInSlash path = false) (dots : endsInDots path = false)
    (found : t.resolve path = .ok place)
    (foundStage : t.resolve (stagingPath path) = .ok stagePlace) :
    stagePlace = stagingPlace place ∧ stagePlace ≠ place := by
  obtain ⟨nonempty, walked⟩ := resolve_eq_ok found
  obtain ⟨-, walkedStage⟩ := resolve_eq_ok foundStage
  obtain ⟨front, name, names, stageNames⟩ := exists_pathNames nonempty slash
  rw [names] at walked
  rw [stageNames, isAbsolute_stagingPath nonempty] at walkedStage
  have proper : name ≠ "." ∧ name ≠ ".." := by
    rw [endsInDots, names, List.getLast?_concat] at dots
    simpa using dots
  obtain ⟨middle, reached, -⟩ := walk_append_eq_ok_iff.mp walked
  have own := eq_append_of_walk walked proper.1 proper.2 reached
  have staged := eq_append_of_walk walkedStage (stagingPath_ne_dots name).1
    (stagingPath_ne_dots name).2 reached
  rw [own, staged, stagingPlace_append]
  refine ⟨rfl, ?_⟩
  intro same
  have last := List.append_cancel_left same
  exact stagingPath_ne name (List.singleton_inj.mp last)

end FileTree

end AndInverter
