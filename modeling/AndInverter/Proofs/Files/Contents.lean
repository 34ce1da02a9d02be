import AndInverter.Files.Tree
import AndInverter.Proofs.Outcome
import Mathlib.Logic.Function.Basic

/-!
# What file operations change

A tree is seen as its directories and the content of the file at each location. No operation makes
or removes a directory, so a path leads to the same place before and after it, and an operation that
succeeds is an update of the contents.
-/
namespace AndInverter.FileTree
open Outcome

variable {t t' t'' : FileTree} {place other : Location} {path : String} {content : ByteArray}

def file? (t : FileTree) (place : Location) : Option ByteArray :=
  match t.entry? place with
  | some (.file content) => some content
  | some .directory | none => none

theorem file?_eq_some_iff : t.file? place = some content ↔
    t.entry? place = some (.file content) := by
  rw [file?]
  cases t.entry? place with
  | none => simp
  | some entry => cases entry <;> simp

theorem file?_eq_none_of_directory (directory : t.entry? place = some .directory) :
    t.file? place = none := by
  rw [file?, directory]

/-- The trees have the same directories, so that the same paths lead somewhere. -/
structure SameDirectories (t t' : FileTree) : Prop where
  home_eq : t'.home = t.home
  directory_iff : ∀ place, t'.entry? place = some .directory ↔ t.entry? place = some .directory

namespace SameDirectories

theorem refl (t : FileTree) : t.SameDirectories t := ⟨rfl, fun _ => Iff.rfl⟩

theorem trans (first : t.SameDirectories t') (second : t'.SameDirectories t'') :
    t.SameDirectories t'' where
  home_eq := second.home_eq.trans first.home_eq
  directory_iff place := (second.directory_iff place).trans (first.directory_iff place)

/-- What stands at a location is settled by the directories and the files. -/
theorem entry?_eq (same : t.SameDirectories t') (file_eq : t'.file? place = t.file? place) :
    t'.entry? place = t.entry? place := by
  cases found : t.entry? place with
  | some entry =>
    cases entry with
    | directory => exact (same.directory_iff place).mpr found
    | file content =>
      rw [← file?_eq_some_iff, file_eq, file?_eq_some_iff]
      exact found
  | none =>
    cases found' : t'.entry? place with
    | none => rfl
    | some entry =>
      cases entry with
      | directory =>
        have directory := (same.directory_iff place).mp found'
        rw [found] at directory
        cases directory
      | file content =>
        have file := file_eq.symm.trans (file?_eq_some_iff.mpr found')
        rw [file?_eq_some_iff, found] at file
        cases file

/-- Where a file is gone there is nothing. -/
theorem entry?_eq_none (same : t.SameDirectories t') (held : t.file? place = some content)
    (gone : t'.file? place = none) : t'.entry? place = none := by
  cases found : t'.entry? place with
  | none => rfl
  | some entry =>
    cases entry with
    | directory =>
      rw [file?_eq_none_of_directory ((same.directory_iff place).mp found)] at held
      cases held
    | file content =>
      rw [file?_eq_some_iff.mpr found] at gone
      cases gone

end SameDirectories

section Paths

def follow (place : Location) (name : String) : Except IoError Location :=
  if name = "." then .ok place
  else if name = ".." then .ok place.dropLast
  else if name.utf8ByteSize > maxNameBytes then .error .nameTooLong
  else .ok (place ++ [name])

theorem walk_cons_eq_ok_iff {name : String} {rest : List String} {target : Location} :
    t.walk place (name :: rest) = .ok target ↔
      t.entry? place = some .directory ∧
        ∃ next, follow place name = .ok next ∧ t.walk next rest = .ok target := by
  rw [walk, follow]
  cases t.entry? place with
  | none => simp
  | some entry =>
    cases entry with
    | file content => simp
    | directory =>
      simp only [true_and]
      split_ifs <;> simp

theorem walk_append_eq_ok_iff {names more : List String} {target : Location} :
    t.walk place (names ++ more) = .ok target ↔
      ∃ middle, t.walk place names = .ok middle ∧ t.walk middle more = .ok target := by
  induction names generalizing place with
  | nil => simp [walk]
  | cons name rest ih =>
    simp only [List.cons_append, walk_cons_eq_ok_iff, ih]
    constructor
    · rintro ⟨directory, next, step, middle, first, second⟩
      exact ⟨middle, ⟨directory, next, step, first⟩, second⟩
    · rintro ⟨middle, ⟨directory, next, step, first⟩, second⟩
      exact ⟨directory, next, step, middle, first, second⟩

namespace SameDirectories

/-- Only directories decide where names lead. -/
theorem walk_eq_ok_iff (same : t.SameDirectories t') {names : List String} {target : Location} :
    t'.walk place names = .ok target ↔ t.walk place names = .ok target := by
  induction names generalizing place with
  | nil => simp [walk]
  | cons name rest ih => simp only [walk_cons_eq_ok_iff, same.directory_iff, ih]

/-- Paths lead to the same places. -/
theorem resolve_eq_ok_iff (same : t.SameDirectories t') :
    t'.resolve path = .ok place ↔ t.resolve path = .ok place := by
  rw [resolve, resolve, same.home_eq]
  split_ifs <;> simp only [same.walk_eq_ok_iff]

end SameDirectories

end Paths

section Updates

/-- The second tree has the content at one location, where no directory stands, and is the first
tree elsewhere. -/
structure Sets (t : FileTree) (place : Location) (now : Option ByteArray) (t' : FileTree) :
    Prop where
  free : t.entry? place ≠ some .directory
  home_eq : t'.home = t.home
  entry?_eq : ∀ other,
    t'.entry? other = if other = place then now.map Entry.file else t.entry? other

theorem Sets.sameDirectories {now : Option ByteArray} (sets : t.Sets place now t') :
    t.SameDirectories t' where
  home_eq := sets.home_eq
  directory_iff other := by
    rw [sets.entry?_eq]
    by_cases here : other = place
    · subst here
      simp [sets.free]
    · rw [if_neg here]

theorem Sets.file?_eq {now : Option ByteArray} (sets : t.Sets place now t') :
    t'.file? = Function.update t.file? place now := by
  funext other
  rw [file?, sets.entry?_eq, Function.update_apply]
  by_cases here : other = place
  · rw [if_pos here, if_pos here]
    cases now <;> rfl
  · rw [if_neg here, if_neg here, file?]

/-- The working directory and all above it are always there. -/
theorem ne_of_above (free : t.entry? place ≠ some .directory)
    (above : other.isPrefixOf t.home = true) : other ≠ place := by
  rintro rfl
  exact free (if_pos above)

theorem sets_put (free : t.entry? place ≠ some .directory) (content : ByteArray) :
    t.Sets place (some content) (t.put place (.file content)) where
  free := free
  home_eq := rfl
  entry?_eq other := by
    simp only [FileTree.entry?, put, OrderedMap.get?_insert]
    by_cases above : other.isPrefixOf t.home = true
    · rw [if_pos above, if_pos above, if_neg (ne_of_above free above)]
    · rw [if_neg above, if_neg above]
      rfl

theorem sets_erase (free : t.entry? place ≠ some .directory) :
    t.Sets place none (t.erase place) where
  free := free
  home_eq := rfl
  entry?_eq other := by
    simp only [FileTree.entry?, erase, OrderedMap.get?_erase]
    by_cases above : other.isPrefixOf t.home = true
    · rw [if_pos above, if_pos above, if_neg (ne_of_above free above)]
    · rw [if_neg above, if_neg above]
      rfl

end Updates

section Operations

theorem read_eq_ok_iff : t.read path = .ok content ↔
    ∃ place, t.resolve path = .ok place ∧ t.file? place = some content ∧
      endsInSlash path = false := by
  simp only [read, bind_eq_ok_iff, file?_eq_some_iff]
  refine exists_congr fun place => and_congr_right fun _ => ?_
  cases t.entry? place with
  | none => simp
  | some entry =>
    cases entry with
    | directory => simp
    | file held =>
      by_cases slash : endsInSlash path = true
      · simp [slash]
      · simp [slash]

/-- Writing a file changes what is held at one location and nothing else. -/
theorem write_eq_ok (written : t.write path content = .ok t') :
    ∃ place, t.resolve path = .ok place ∧ t.SameDirectories t' ∧
      t'.file? = Function.update t.file? place (some content) := by
  obtain ⟨place, found, done⟩ := bind_eq_ok_iff.mp written
  refine ⟨place, found, ?_⟩
  split at done
  · cases done
  · have free : t.entry? place ≠ some .directory := by
      intro directory
      rw [directory] at done
      cases done
    have placed : t.put place (.file content) = t' := by
      split at done
      · cases done
      · cases done
        rfl
      · cases done
        rfl
    have sets := placed ▸ sets_put free content
    exact ⟨sets.sameDirectories, sets.file?_eq⟩

/-- Removing a file empties one location and nothing else. -/
theorem remove_eq_ok (removed : t.remove path = .ok t') :
    ∃ place, t.resolve path = .ok place ∧ t.SameDirectories t' ∧
      t'.file? = Function.update t.file? place none := by
  obtain ⟨place, found, done⟩ := bind_eq_ok_iff.mp removed
  refine ⟨place, found, ?_⟩
  split at done
  · cases done
  · cases done
  next content held =>
  split at done
  · cases done
  have free : t.entry? place ≠ some .directory := by
    rw [held]
    simp
  cases done
  have sets := sets_erase free
  exact ⟨sets.sameDirectories, sets.file?_eq⟩

/-- Where nothing can be removed there is no file. -/
theorem file?_of_remove_eq_error {e : IoError} (failed : t.remove path = .error e)
    (slash : endsInSlash path = false) (found : t.resolve path = .ok place) :
    t.file? place = none := by
  cases held : t.entry? place with
  | none => rw [file?, held]
  | some entry =>
    cases entry with
    | directory => exact file?_eq_none_of_directory held
    | file old =>
      have done : t.remove path = .ok (t.erase place) := by
        simp [remove, found, slash, held, bind, Except.bind]
      rw [done] at failed
      cases failed

/-- A rename moves what one location holds to another one. -/
theorem rename_eq_ok {source target : String} (renamed : t.rename source target = .ok t') :
    ∃ sourcePlace targetPlace content, t.resolve source = .ok sourcePlace ∧
      t.resolve target = .ok targetPlace ∧ t.file? sourcePlace = some content ∧
      endsInDots target = false ∧ endsInSlash target = false ∧ t.SameDirectories t' ∧
      t'.file? = Function.update (Function.update t.file? sourcePlace none) targetPlace
        (some content) := by
  obtain ⟨sourcePlace, foundSource, done⟩ := bind_eq_ok_iff.mp renamed
  obtain ⟨targetPlace, foundTarget, done⟩ := bind_eq_ok_iff.mp done
  split at done
  · cases done
  next dots =>
  split at done
  · cases done
  · cases done
  next content held =>
  split at done
  · cases done
  next slash =>
  simp only [Bool.or_eq_true, not_or, Bool.not_eq_true] at dots slash
  have file : t.file? sourcePlace = some content := file?_eq_some_iff.mpr held
  refine ⟨sourcePlace, targetPlace, content, foundSource, foundTarget, file, dots.2, slash.2, ?_⟩
  split at done
  · next same =>
    cases done
    refine ⟨.refl t, ?_⟩
    rw [← same, Function.update_idem, ← file, Function.update_eq_self]
  next apart =>
  have free : t.entry? sourcePlace ≠ some .directory := by
    rw [held]
    simp
  have erased := sets_erase free
  have freeTarget : FileTree.entry? (t.erase sourcePlace) targetPlace ≠ some .directory := by
    rw [erased.entry?_eq, if_neg (Ne.symm apart)]
    intro directory
    rw [directory] at done
    cases done
  have placed : (t.erase sourcePlace).put targetPlace (.file content) = t' := by
    split at done
    · cases done
    · cases done
      rfl
    · cases done
      rfl
  have moved := placed ▸ sets_put freeTarget content
  refine ⟨erased.sameDirectories.trans moved.sameDirectories, ?_⟩
  rw [moved.file?_eq, erased.file?_eq]

end Operations

end AndInverter.FileTree
