import AndInverter.Proofs.Files.StagingPlace
import AndInverter.Proofs.Files.Withdrawal

/-!
# How writing two files ends

Both files are staged, the record of names first, and then put into place in the same order. A run
on a tree ends at the first step that fails, or behind the last one. What a failed run leaves is the
old tree without some files: those staged, and the record of names if it was in place already.
-/
namespace AndInverter.OutputFiles
open FileTree Outcome

variable {a : OutputFiles} {cnfPath namesPath path : String} {t t' : FileTree} {e : IoError}

section Steps
variable {staged renamed rest : List String} {content : ByteArray}
  {files : List (String × ByteArray)}

theorem run_stage_of_ok (written : t.write (stagingPath path) content = .ok t') :
    (stage staged ((path, content) :: files) : StateM FileTree _).run t =
      (stage (staged ++ [path]) files : StateM FileTree _).run t' := by
  simp only [stage, StateT.run_bind, run_writeFile, written, pure_bind, Except.map, settle]

theorem run_stage_of_error (failed : t.write (stagingPath path) content = .error e) :
    (stage staged ((path, content) :: files) : StateM FileTree _).run t =
      (.error e,
        ((removeAll ((path :: staged).map stagingPath) : StateM FileTree Unit).run t).2) := by
  simp only [stage, StateT.run_bind, run_writeFile, failed, pure_bind, Except.map, settle]
  rfl

theorem run_commit_of_ok (moved : t.rename (stagingPath path) path = .ok t') :
    (commit renamed (path :: rest) : StateM FileTree _).run t =
      (commit (renamed ++ [path]) rest : StateM FileTree _).run t' := by
  simp only [commit, StateT.run_bind, run_renameFile, moved, pure_bind, Except.map, settle]

theorem run_commit_of_error (failed : t.rename (stagingPath path) path = .error e) :
    (commit renamed (path :: rest) : StateM FileTree _).run t =
      (.error e, ((removeAll ((path :: rest).map stagingPath) : StateM FileTree Unit).run
        ((removeAll renamed : StateM FileTree Unit).run t).2).2) := by
  simp only [commit, StateT.run_bind, run_renameFile, failed, pure_bind, Except.map, settle]
  rfl

end Steps

def Staged (a : OutputFiles) (cnfPath namesPath : String) (t t' : FileTree) : Prop :=
  ∃ t₁, t.write (stagingPath namesPath) a.names = .ok t₁ ∧
    t₁.write (stagingPath cnfPath) a.cnf = .ok t'

/-- All steps but the last succeed: the record of names is in place, the clause set is staged. -/
def Prepared (a : OutputFiles) (cnfPath namesPath : String) (t t' : FileTree) : Prop :=
  ∃ t₂, a.Staged cnfPath namesPath t t₂ ∧ t₂.rename (stagingPath namesPath) namesPath = .ok t'

/-- The endings of a run, with the step that fails and what is gone then. -/
inductive Ends (a : OutputFiles) (cnfPath namesPath : String) (t : FileTree) :
    Except IoError Unit → FileTree → Prop
  | namesUnstaged {e : IoError} {t' : FileTree}
      (failed : t.write (stagingPath namesPath) a.names = .error e)
      (without : t.Without [stagingPath namesPath] t') : Ends a cnfPath namesPath t (.error e) t'
  | cnfUnstaged {e : IoError} {t₁ t' : FileTree}
      (written : t.write (stagingPath namesPath) a.names = .ok t₁)
      (failed : t₁.write (stagingPath cnfPath) a.cnf = .error e)
      (without : t.Without [stagingPath cnfPath, stagingPath namesPath] t') :
      Ends a cnfPath namesPath t (.error e) t'
  | namesUnplaced {e : IoError} {t₂ t' : FileTree} (staged : a.Staged cnfPath namesPath t t₂)
      (failed : t₂.rename (stagingPath namesPath) namesPath = .error e)
      (without : t.Without [stagingPath namesPath, stagingPath cnfPath] t') :
      Ends a cnfPath namesPath t (.error e) t'
  | cnfUnplaced {e : IoError} {t₃ t' : FileTree} (prepared : a.Prepared cnfPath namesPath t t₃)
      (failed : t₃.rename (stagingPath cnfPath) cnfPath = .error e)
      (without : t.Without [stagingPath namesPath, namesPath, stagingPath cnfPath] t') :
      Ends a cnfPath namesPath t (.error e) t'
  | placed {t₃ t' : FileTree} (prepared : a.Prepared cnfPath namesPath t t₃)
      (moved : t₃.rename (stagingPath cnfPath) cnfPath = .ok t') :
      Ends a cnfPath namesPath t (.ok ()) t'

section Traces

theorem Staged.agreesOutside (staged : a.Staged cnfPath namesPath t t') :
    t.AgreesOutside [stagingPath namesPath, stagingPath cnfPath] t' := by
  obtain ⟨t₁, names, cnf⟩ := staged
  exact ((agreesOutside_write names).mono (by simp)).trans
    ((agreesOutside_write cnf).mono (by simp))

theorem Prepared.agreesOutside (prepared : a.Prepared cnfPath namesPath t t') :
    t.AgreesOutside [stagingPath namesPath, namesPath, stagingPath cnfPath] t' := by
  obtain ⟨t₂, staged, moved⟩ := prepared
  exact (staged.agreesOutside.mono (by simp)).trans ((agreesOutside_rename moved).mono (by simp))

/-- A file that was moved is not where it was, unless it was moved to the same place. -/
theorem file?_of_rename {source target : String} {sourcePlace : Location}
    (moved : t.rename source target = .ok t') (found : t.resolve source = .ok sourcePlace)
    (apart : t.resolve target ≠ .ok sourcePlace) : t'.file? sourcePlace = none := by
  obtain ⟨place, targetPlace, content, foundSource, foundTarget, -, -, -, -, files⟩ :=
    rename_eq_ok moved
  cases found.symm.trans foundSource
  have ne : sourcePlace ≠ targetPlace := by
    rintro rfl
    exact apart foundTarget
  rw [files, Function.update_of_ne ne, Function.update_self]

/-- Taking back a record that is in place leaves neither it nor its staged form. -/
theorem without_of_prepared {t₃ : FileTree} (prepared : a.Prepared cnfPath namesPath t t₃)
    (without : t₃.Without [namesPath, stagingPath cnfPath] t') :
    t.Without [stagingPath namesPath, namesPath, stagingPath cnfPath] t' := by
  have agrees := prepared.agreesOutside
  obtain ⟨t₂, -, moved⟩ := prepared
  have kept := (agreesOutside_rename moved).same
  refine Without.absorb agrees (without.cons fun place found => ?_) (List.Subset.refl _)
  by_cases same : t₃.resolve namesPath = .ok place
  · exact without.gone namesPath List.mem_cons_self place same
  · have apart : t₂.resolve namesPath ≠ .ok place :=
      fun found' => same (kept.resolve_eq_ok_iff.mpr found')
    exact without.file?_eq_none
      (file?_of_rename moved (kept.resolve_eq_ok_iff.mp found) apart)

end Traces

/-- Every run has one of the endings. -/
theorem ends_of_run {r : Except IoError Unit}
    (run : (a.write cnfPath namesPath : StateM FileTree _).run t = (r, t')) :
    a.Ends cnfPath namesPath t r t' := by
  have noSlash := endsInSlash_stagingPath
  simp only [write, StateT.run_bind] at run
  cases names : t.write (stagingPath namesPath) a.names with
  | error e =>
    rw [run_stage_of_error names] at run
    cases run
    exact .namesUnstaged names (without_removeAll t _ (by simp [noSlash]))
  | ok t₁ =>
    rw [run_stage_of_ok names] at run
    cases cnf : t₁.write (stagingPath cnfPath) a.cnf with
    | error e =>
      rw [run_stage_of_error cnf] at run
      cases run
      have removed := without_removeAll t₁ ([cnfPath, namesPath].map stagingPath)
        (by simp [noSlash])
      exact .cnfUnstaged names cnf (.absorb (agreesOutside_write names) removed (by simp))
    | ok t₂ =>
      have staged : a.Staged cnfPath namesPath t t₂ := ⟨t₁, names, cnf⟩
      rw [run_stage_of_ok cnf] at run
      simp only [stage, StateT.run_pure, pure_bind] at run
      cases movedNames : t₂.rename (stagingPath namesPath) namesPath with
      | error e =>
        rw [run_commit_of_error movedNames] at run
        cases run
        have removed := without_removeAll t₂ ([namesPath, cnfPath].map stagingPath)
          (by simp [noSlash])
        exact .namesUnplaced staged movedNames
          (.absorb staged.agreesOutside removed (List.Subset.refl _))
      | ok t₃ =>
        have prepared : a.Prepared cnfPath namesPath t t₃ := ⟨t₂, staged, movedNames⟩
        rw [run_commit_of_ok movedNames] at run
        cases movedCnf : t₃.rename (stagingPath cnfPath) cnfPath with
        | error e =>
          obtain ⟨-, -, -, -, -, -, -, ownName, -⟩ := rename_eq_ok movedNames
          rw [run_commit_of_error movedCnf] at run
          cases run
          have first := without_removeAll t₃ [namesPath] (by simp [ownName])
          have second := without_removeAll
            ((removeAll [namesPath] : StateM FileTree Unit).run t₃).2
            [stagingPath cnfPath] (by simp [noSlash])
          exact .cnfUnplaced prepared movedCnf
            (without_of_prepared prepared (first.append second))
        | ok t₄ =>
          rw [run_commit_of_ok movedCnf] at run
          cases run
          exact .placed prepared movedCnf

end AndInverter.OutputFiles
