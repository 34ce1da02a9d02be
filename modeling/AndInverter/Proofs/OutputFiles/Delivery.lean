import AndInverter.Proofs.OutputFiles.Endings

/-!
# What a successful run delivers

Both paths hold their files after a run without an error, whatever stood there before. There is one
exception: the record of names may be asked for at the very place where the clause set is staged.
Then the record takes the place of the staged clause set and ends up at the path of the clause set,
and nothing is at its own.
-/
namespace AndInverter.OutputFiles
open FileTree

variable {a : OutputFiles} {cnfPath namesPath path : String} {t t' : FileTree}

/-- What a place holds is at another place afterwards, and nothing is at the first. -/
def Moves (source target : Location) (files files' : Location → Option ByteArray) : Prop :=
  ∃ content, files source = some content ∧
    files' = Function.update (Function.update files source none) target (some content)

namespace Moves
variable {source target : Location} {files files' : Location → Option ByteArray}

theorem target_eq (moves : Moves source target files files') : files' target = files source := by
  obtain ⟨content, held, rfl⟩ := moves
  rw [Function.update_self, held]

theorem source_eq (moves : Moves source target files files') (ne : source ≠ target) :
    files' source = none := by
  obtain ⟨content, -, rfl⟩ := moves
  rw [Function.update_of_ne ne, Function.update_self]

theorem other_eq (moves : Moves source target files files') {place : Location}
    (ne_source : place ≠ source) (ne_target : place ≠ target) : files' place = files place := by
  obtain ⟨content, -, rfl⟩ := moves
  rw [Function.update_of_ne ne_target, Function.update_of_ne ne_source]

theorem held (moves : Moves source target files files') : files source ≠ none := by
  obtain ⟨content, held, -⟩ := moves
  rw [held]
  exact Option.some_ne_none content

end Moves

/-- Putting a staged file into place. -/
theorem file?_of_placed (moved : t.rename (stagingPath path) path = .ok t') :
    ∃ place, t.resolve path = .ok place ∧
      t.resolve (stagingPath path) = .ok (stagingPlace place) ∧ stagingPlace place ≠ place ∧
      endsInSlash path = false ∧ t.SameDirectories t' ∧
      Moves (stagingPlace place) place t.file? t'.file? := by
  obtain ⟨stage, place, content, foundStage, found, held, dots, slash, same, files⟩ :=
    rename_eq_ok moved
  obtain ⟨rfl, ne⟩ := resolve_stagingPath slash dots found foundStage
  exact ⟨place, found, foundStage, ne, slash, same, content, held, files⟩

/-- The contents after staging both files and moving them in turn: two files that are staged at
one place cannot both be moved. -/
theorem contents_of_moves {files : Location → Option ByteArray} {cnf names : ByteArray}
    {cnfPlace namesPlace : Location} {prepared placed : Location → Option ByteArray}
    (names_ne : stagingPlace namesPlace ≠ namesPlace)
    (first : Moves (stagingPlace namesPlace) namesPlace
      (Function.update (Function.update files (stagingPlace namesPlace) (some names))
        (stagingPlace cnfPlace) (some cnf)) prepared)
    (last : Moves (stagingPlace cnfPlace) cnfPlace prepared placed) :
    (stagingPlace cnfPlace ≠ namesPlace →
      placed cnfPlace = some cnf ∧ placed namesPlace = some names) ∧
    (stagingPlace cnfPlace = namesPlace →
      placed cnfPlace = some names ∧ placed namesPlace = none) := by
  have stages_ne : stagingPlace namesPlace ≠ stagingPlace cnfPlace := by
    intro same
    exact last.held (same ▸ first.source_eq names_ne)
  have places_ne : namesPlace ≠ cnfPlace := fun same => stages_ne (same ▸ rfl)
  have names_placed : prepared namesPlace = some names := by
    rw [first.target_eq, Function.update_of_ne stages_ne, Function.update_self]
  constructor
  · intro apart
    have staged : prepared (stagingPlace cnfPlace) = some cnf := by
      rw [first.other_eq stages_ne.symm apart, Function.update_self]
    exact ⟨last.target_eq.trans staged,
      (last.other_eq apart.symm places_ne).trans names_placed⟩
  · intro clash
    exact ⟨last.target_eq.trans (clash ▸ names_placed), clash ▸ last.source_eq (clash ▸ places_ne)⟩

/-- A run without an error leaves each file at its path, exactly if the record of names has another
place than the staged clause set. -/
theorem write_delivers
    (run : (a.write cnfPath namesPath : StateM FileTree _).run t = (.ok (), t')) :
    (t.resolve (stagingPath cnfPath) ≠ t.resolve namesPath →
      t'.read cnfPath = .ok a.cnf ∧ t'.read namesPath = .ok a.names) ∧
    (t.resolve (stagingPath cnfPath) = t.resolve namesPath →
      t'.read cnfPath = .ok a.names ∧ t'.at? namesPath = none) := by
  cases ends_of_run run with
  | @placed t₃ _ prepared moved =>
  obtain ⟨t₂, ⟨t₁, names, cnf⟩, movedNames⟩ := prepared
  obtain ⟨stage, foundStage, same₁, files₁⟩ := write_eq_ok names
  obtain ⟨cnfStage, foundCnfStage, same₂, files₂⟩ := write_eq_ok cnf
  obtain ⟨namesPlace, foundNames, foundStage', names_ne, namesSlash, same₃, movesNames⟩ :=
    file?_of_placed movedNames
  obtain ⟨cnfPlace, foundCnf, foundCnfStage', -, cnfSlash, same₄, movesCnf⟩ :=
    file?_of_placed moved
  -- All paths lead to the same places in all trees on the way.
  have toSecond := same₁.trans same₂
  have toThird := toSecond.trans same₃
  have toLast := toThird.trans same₄
  rw [toSecond.resolve_eq_ok_iff] at foundNames foundStage'
  rw [toThird.resolve_eq_ok_iff] at foundCnf foundCnfStage'
  rw [same₁.resolve_eq_ok_iff] at foundCnfStage
  cases foundStage.symm.trans foundStage'
  cases foundCnfStage.symm.trans foundCnfStage'
  rw [files₂, files₁] at movesNames
  obtain ⟨apart, clash⟩ := contents_of_moves names_ne movesNames movesCnf
  rw [foundCnfStage, foundNames]
  constructor
  · intro ne
    obtain ⟨cnfHeld, namesHeld⟩ := apart fun same => ne (congrArg Except.ok same)
    constructor
    · exact read_eq_ok_iff.mpr
        ⟨cnfPlace, toLast.resolve_eq_ok_iff.mpr foundCnf, cnfHeld, cnfSlash⟩
    · exact read_eq_ok_iff.mpr
        ⟨namesPlace, toLast.resolve_eq_ok_iff.mpr foundNames, namesHeld, namesSlash⟩
  · intro same
    obtain ⟨cnfHeld, namesGone⟩ := clash (Except.ok.inj same)
    refine ⟨read_eq_ok_iff.mpr
      ⟨cnfPlace, toLast.resolve_eq_ok_iff.mpr foundCnf, cnfHeld, cnfSlash⟩, ?_⟩
    obtain ⟨first, -, files₃⟩ := movesNames
    have placed : t₃.file? namesPlace = some first := by rw [files₃, Function.update_self]
    rw [at?_of_resolve (toLast.resolve_eq_ok_iff.mpr foundNames)]
    exact same₄.entry?_eq_none placed namesGone

def sampleFiles : OutputFiles where
  cnf := "p cnf 0 0\n".toUTF8
  names := "\x7b\x7d".toUTF8

def sampleTree : FileTree := (FileTree.empty ["w"]).makeFile ["x.tmp"] "old".toUTF8

/-- An older file where the clause set is staged does not matter. -/
theorem write_delivers_over : ∃ t',
    (sampleFiles.write "x" "../w/y" : StateM FileTree _).run sampleTree = (.ok (), t') ∧
    t'.read "x" = .ok sampleFiles.cnf ∧ t'.read "../w/y" = .ok sampleFiles.names := by
  refine ⟨_, rfl, ?_⟩
  exact (write_delivers (t := sampleTree) rfl).1 (by decide)

/-- With the record of names at the place where the clause set is staged, one file is lost. -/
theorem write_loses_staged : ∃ t',
    (sampleFiles.write "x" "x.tmp" : StateM FileTree _).run (FileTree.empty ["w"]) = (.ok (), t') ∧
    t'.read "x" = .ok sampleFiles.names ∧ sampleFiles.names ≠ sampleFiles.cnf ∧
    t'.read "x.tmp" = .error .notFound := by
  refine ⟨_, rfl, rfl, by decide, rfl⟩

end AndInverter.OutputFiles
