import AndInverter.OutputFiles
import AndInverter.Proofs.Files.Contents

/-!
# Trees that differ at a few paths

Two trees can agree but for the files at some paths, and the second can be without files there.
Removing files makes a tree of the second kind, whatever stood at the paths before; what was put
there in between leaves no trace.
-/
namespace AndInverter.FileTree
open Outcome

variable {t t' t'' : FileTree} {place : Location} {path other : String} {paths more : List String}

def at? (t : FileTree) (path : String) : Option Entry := (t.resolve path).toOption.bind t.entry?

theorem at?_of_resolve (found : t.resolve path = .ok place) : t.at? path = t.entry? place := by
  rw [at?, found]
  rfl

theorem at?_of_not_resolve (lost : ∀ place, t.resolve path ≠ .ok place) : t.at? path = none := by
  rw [at?]
  cases found : t.resolve path with
  | error e => rfl
  | ok place => exact absurd found (lost place)

/-- The paths do not lead to the same place. A path need not lead anywhere. -/
def Apart (t : FileTree) (path other : String) : Prop :=
  ∀ place, t.resolve path = .ok place → t.resolve other ≠ .ok place

theorem Apart.symm (apart : t.Apart path other) : t.Apart other path :=
  fun place found found' => apart place found' found

theorem SameDirectories.apart_iff (same : t.SameDirectories t') :
    t'.Apart path other ↔ t.Apart path other := by
  simp only [Apart, ne_eq, same.resolve_eq_ok_iff]

instance (t : FileTree) (path other : String) : Decidable (t.Apart path other) :=
  match found : t.resolve path with
  | .error _ => isTrue fun place found' => by cases found.symm.trans found'
  | .ok place =>
    if same : t.resolve other = .ok place then isFalse fun apart => apart place found same
    else isTrue fun place' found' => by cases found.symm.trans found'; exact same

structure AgreesOutside (t : FileTree) (paths : List String) (t' : FileTree) : Prop where
  same : t.SameDirectories t'
  kept : ∀ place, (∀ path ∈ paths, t.resolve path ≠ .ok place) → t'.file? place = t.file? place

namespace AgreesOutside

theorem refl (t : FileTree) (paths : List String) : t.AgreesOutside paths t :=
  ⟨.refl t, fun _ _ => rfl⟩

theorem mono (agrees : t.AgreesOutside paths t') (sub : paths ⊆ more) : t.AgreesOutside more t' :=
  ⟨agrees.same, fun place outside => agrees.kept place fun path hp => outside path (sub hp)⟩

theorem trans (first : t.AgreesOutside paths t') (second : t'.AgreesOutside paths t'') :
    t.AgreesOutside paths t'' where
  same := first.same.trans second.same
  kept place outside := by
    have later : ∀ path ∈ paths, t'.resolve path ≠ .ok place := by
      intro path hp found
      exact outside path hp (first.same.resolve_eq_ok_iff.mp found)
    exact (second.kept place later).trans (first.kept place outside)

theorem entry?_eq (agrees : t.AgreesOutside paths t')
    (outside : ∀ path ∈ paths, t.resolve path ≠ .ok place) : t'.entry? place = t.entry? place :=
  agrees.same.entry?_eq (agrees.kept place outside)

/-- A path that is apart from those that were used leads to what it led to before. -/
theorem at?_eq (agrees : t.AgreesOutside paths t') (apart : ∀ p ∈ paths, t.Apart path p) :
    t'.at? path = t.at? path := by
  by_cases leads : ∃ place, t.resolve path = .ok place
  · obtain ⟨place, found⟩ := leads
    rw [at?_of_resolve found, at?_of_resolve (agrees.same.resolve_eq_ok_iff.mpr found)]
    exact agrees.entry?_eq fun p hp => apart p hp place found
  · have lost : ∀ place, t.resolve path ≠ .ok place := fun place found => leads ⟨place, found⟩
    have lost' : ∀ place, t'.resolve path ≠ .ok place :=
      fun place found => lost place (agrees.same.resolve_eq_ok_iff.mp found)
    rw [at?_of_not_resolve lost, at?_of_not_resolve lost']

end AgreesOutside

/-- An update at the place of a path is one at the paths. -/
theorem update_apply_outside (found : t.resolve path = .ok place) (hp : path ∈ paths)
    (files : Location → Option ByteArray) (now : Option ByteArray) {other : Location}
    (outside : ∀ path ∈ paths, t.resolve path ≠ .ok other) :
    Function.update files place now other = files other := by
  apply Function.update_of_ne
  rintro rfl
  exact outside path hp found

theorem agreesOutside_write {content : ByteArray} (written : t.write path content = .ok t') :
    t.AgreesOutside [path] t' := by
  obtain ⟨place, found, same, files⟩ := write_eq_ok written
  refine ⟨same, ?_⟩
  intro other outside
  rw [files, update_apply_outside found List.mem_cons_self _ _ outside]

theorem agreesOutside_rename {source target : String}
    (renamed : t.rename source target = .ok t') : t.AgreesOutside [source, target] t' := by
  obtain ⟨sourcePlace, targetPlace, content, foundSource, foundTarget, -, -, -, same, files⟩ :=
    rename_eq_ok renamed
  refine ⟨same, ?_⟩
  intro other outside
  rw [files, update_apply_outside foundTarget (by simp) _ _ outside,
    update_apply_outside foundSource (by simp) _ _ outside]

/-- The second tree is the first without files at the paths. -/
structure Without (t : FileTree) (paths : List String) (t' : FileTree) : Prop
    extends t.AgreesOutside paths t' where
  gone : ∀ path ∈ paths, ∀ place, t.resolve path = .ok place → t'.file? place = none

namespace Without

theorem nil (t : FileTree) : t.Without [] t where
  toAgreesOutside := .refl t []
  gone _ hp := by cases hp

/-- No file comes back. -/
theorem file?_eq_none (without : t.Without paths t') (empty : t.file? place = none) :
    t'.file? place = none := by
  by_cases named : ∃ path ∈ paths, t.resolve path = .ok place
  · obtain ⟨path, hp, found⟩ := named
    exact without.gone path hp place found
  · rw [without.kept place fun path hp found => named ⟨path, hp, found⟩]
    exact empty

theorem append (first : t.Without paths t') (second : t'.Without more t'') :
    t.Without (paths ++ more) t'' where
  toAgreesOutside := by
    have start := first.toAgreesOutside.mono (List.subset_append_left paths more)
    exact start.trans (second.toAgreesOutside.mono (List.subset_append_right paths more))
  gone path hp place found := by
    rcases List.mem_append.mp hp with hp | hp
    · exact second.file?_eq_none (first.gone path hp place found)
    · exact second.gone path hp place (first.same.resolve_eq_ok_iff.mpr found)

/-- What was done at the paths before their files are gone leaves no trace. -/
theorem absorb (agrees : t.AgreesOutside paths t') (without : t'.Without more t'')
    (sub : paths ⊆ more) : t.Without more t'' where
  toAgreesOutside := (agrees.mono sub).trans without.toAgreesOutside
  gone path hp place found := without.gone path hp place (agrees.same.resolve_eq_ok_iff.mpr found)

/-- A path without a file joins in. -/
theorem cons (without : t.Without paths t')
    (empty : ∀ place, t.resolve path = .ok place → t'.file? place = none) :
    t.Without (path :: paths) t' where
  toAgreesOutside := without.toAgreesOutside.mono (List.subset_cons_self path paths)
  gone other hp place found := by
    rcases List.mem_cons.mp hp with rfl | hp
    · exact empty place found
    · exact without.gone other hp place found

theorem not_file_at (without : t.Without paths t') (hp : path ∈ paths) (content : ByteArray) :
    t'.at? path ≠ some (.file content) := by
  intro held
  by_cases leads : ∃ place, t.resolve path = .ok place
  · obtain ⟨place, found⟩ := leads
    rw [at?_of_resolve (without.same.resolve_eq_ok_iff.mpr found), ← file?_eq_some_iff,
      without.gone path hp place found] at held
    cases held
  · have lost : ∀ place, t'.resolve path ≠ .ok place :=
      fun place found => leads ⟨place, without.same.resolve_eq_ok_iff.mp found⟩
    rw [at?_of_not_resolve lost] at held
    cases held

/-- Whatever stands at a path stood there before. -/
theorem at?_eq_or_none (without : t.Without paths t') (path : String) :
    t'.at? path = t.at? path ∨ t'.at? path = none := by
  by_cases named : ∃ p ∈ paths, ∃ place, t.resolve path = .ok place ∧ t.resolve p = .ok place
  · obtain ⟨p, hp, place, found, found'⟩ := named
    have empty := without.gone p hp place found'
    rw [at?_of_resolve found, at?_of_resolve (without.same.resolve_eq_ok_iff.mpr found)]
    cases held : t'.entry? place with
    | none => exact Or.inr rfl
    | some entry =>
      cases entry with
      | directory => exact Or.inl ((without.same.directory_iff place).mp held).symm
      | file content =>
        rw [file?_eq_some_iff.mpr held] at empty
        cases empty
  · refine Or.inl (without.at?_eq fun p hp place found found' => ?_)
    exact named ⟨p, hp, place, found, found'⟩

end Without

/-- A removal that fails had nothing to remove. -/
theorem without_settle_remove (slash : endsInSlash path = false) :
    t.Without [path] (t.settle (t.remove path)) := by
  cases removed : t.remove path with
  | error e =>
    exact (Without.nil t).cons fun place => file?_of_remove_eq_error removed slash
  | ok t' =>
    obtain ⟨place, found, same, files⟩ := remove_eq_ok removed
    refine ⟨⟨same, ?_⟩, ?_⟩
    · intro other outside
      exact (congrFun files other).trans
        (update_apply_outside found List.mem_cons_self _ _ outside)
    · intro p hp place' found'
      cases List.mem_singleton.mp hp
      cases found.symm.trans found'
      exact (congrFun files place).trans (Function.update_self _ _ _)

/-- Removing files one after the other leaves none of them, though failures are passed over. -/
theorem without_removeAll (t : FileTree) (paths : List String)
    (slash : ∀ path ∈ paths, endsInSlash path = false) :
    t.Without paths ((OutputFiles.removeAll paths : StateM FileTree Unit).run t).2 := by
  induction paths generalizing t with
  | nil => exact .nil t
  | cons path rest ih =>
    have first : t.Without [path] (t.settle (t.remove path)) :=
      without_settle_remove (slash path List.mem_cons_self)
    have later := ih (t.settle (t.remove path)) fun p hp => slash p (List.mem_cons_of_mem path hp)
    exact first.append later

end AndInverter.FileTree
