import AndInverter.Command.Run
import AndInverter.Proofs.OutputFiles.Delivery

/-!
# What a failed run leaves

Nothing that a failed run put anywhere stays. A path of the two files holds what it held or nothing,
and nothing only if the last step failed. An older file at the staging path of the record of names
is always lost, and one at that of the clause set unless the record cannot be staged: then nothing
is done there. A command that fails before it writes changes nothing at all.
-/
namespace AndInverter.OutputFiles
open FileTree

variable {a : OutputFiles} {cnfPath namesPath path : String} {t t' : FileTree} {e : IoError}

def stagingPaths (cnfPath namesPath : String) : List String :=
  [stagingPath cnfPath, stagingPath namesPath]

def usedPaths (cnfPath namesPath : String) : List String :=
  cnfPath :: namesPath :: stagingPaths cnfPath namesPath

/-- No two of the four paths lead to the same place. -/
def Separate (t : FileTree) (cnfPath namesPath : String) : Prop :=
  (usedPaths cnfPath namesPath).Pairwise t.Apart

instance (t : FileTree) (cnfPath namesPath : String) : Decidable (Separate t cnfPath namesPath) :=
  inferInstanceAs (Decidable (List.Pairwise _ _))

structure KeepsOthers (cnfPath namesPath : String) (t t' : FileTree) : Prop where
  home_eq : t'.home = t.home
  others_kept : ∀ place, (∀ path ∈ usedPaths cnfPath namesPath, t.resolve path ≠ .ok place) →
    t'.entry? place = t.entry? place

/-- What a failed run leaves of the tree before it. -/
structure FailsCleanly (a : OutputFiles) (cnfPath namesPath : String) (t t' : FileTree) : Prop
    extends KeepsOthers cnfPath namesPath t t' where
  names_unstaged : ∀ content, t'.at? (stagingPath namesPath) ≠ some (.file content)
  /-- If the record of names cannot be staged, nothing is done where the clause set would have been
  staged. -/
  cnf_stage_kept : (∃ e, t.write (stagingPath namesPath) a.names = .error e) →
    t'.at? (stagingPath cnfPath) = t.at? (stagingPath cnfPath)
  cnf_unstaged : (∃ t₁, t.write (stagingPath namesPath) a.names = .ok t₁) →
    ∀ content, t'.at? (stagingPath cnfPath) ≠ some (.file content)
  nothing_new : ∀ path ∈ [cnfPath, namesPath], t'.at? path = t.at? path ∨ t'.at? path = none
  /-- Only the failure of the last step takes something away. -/
  kept_unless_prepared : (∀ t₃, ¬ a.Prepared cnfPath namesPath t t₃) →
    ∀ path ∈ [cnfPath, namesPath], t'.at? path = t.at? path

/-- What a successful run leaves of the tree before it, but for the two files. -/
structure FinishesCleanly (cnfPath namesPath : String) (t t' : FileTree) : Prop
    extends KeepsOthers cnfPath namesPath t t' where
  unstaged : ∀ path ∈ stagingPaths cnfPath namesPath, ∀ content,
    t'.at? path ≠ some (.file content)

theorem keepsOthers_of_agrees {paths : List String} (agrees : t.AgreesOutside paths t')
    (used : paths ⊆ usedPaths cnfPath namesPath) : KeepsOthers cnfPath namesPath t t' where
  home_eq := agrees.same.home_eq
  others_kept _ outside := (agrees.mono used).entry?_eq outside

namespace Separate

theorem apart_staging (separate : Separate t cnfPath namesPath) (hp : path ∈ [cnfPath, namesPath])
    {stage : String} (hs : stage ∈ stagingPaths cnfPath namesPath) : t.Apart path stage := by
  simp only [Separate, usedPaths, List.pairwise_cons, List.forall_mem_cons] at separate
  obtain ⟨⟨-, cnf⟩, names, -⟩ := separate
  rcases List.mem_cons.mp hp with rfl | hp
  · exact cnf stage hs
  · cases List.mem_singleton.mp hp
    exact names stage hs

theorem apart_stages (separate : Separate t cnfPath namesPath) :
    t.Apart (stagingPath cnfPath) (stagingPath namesPath) := by
  simp only [Separate, usedPaths, stagingPaths, List.pairwise_cons] at separate
  obtain ⟨-, -, stages, -⟩ := separate
  exact stages _ List.mem_cons_self

end Separate

section Failure
variable {paths : List String}

/-- Without files at staging paths alone, the paths of the files are as they were. -/
theorem kept_of_without (separate : Separate t cnfPath namesPath) (without : t.Without paths t')
    (staging : paths ⊆ stagingPaths cnfPath namesPath) :
    ∀ path ∈ [cnfPath, namesPath], t'.at? path = t.at? path :=
  fun _ hp => without.at?_eq fun _ hs => separate.apart_staging hp (staging hs)

/-- The record of names could not be staged, and only its staging path was cleared. -/
theorem failsCleanly_of_unstaged (separate : Separate t cnfPath namesPath)
    (failed : t.write (stagingPath namesPath) a.names = .error e)
    (without : t.Without [stagingPath namesPath] t') : a.FailsCleanly cnfPath namesPath t t' where
  toKeepsOthers :=
    keepsOthers_of_agrees without.toAgreesOutside (by simp [usedPaths, stagingPaths])
  names_unstaged := without.not_file_at List.mem_cons_self
  cnf_stage_kept _ := without.at?_eq (by simpa using separate.apart_stages)
  cnf_unstaged written := by
    obtain ⟨t₁, written⟩ := written
    cases failed.symm.trans written
  nothing_new path _ := without.at?_eq_or_none path
  kept_unless_prepared _ := kept_of_without separate without (by simp [stagingPaths])

/-- The record of names was staged, and later both staging paths were cleared. -/
theorem failsCleanly_of_staged {t₁ : FileTree}
    (written : t.write (stagingPath namesPath) a.names = .ok t₁) (without : t.Without paths t')
    (used : paths ⊆ usedPaths cnfPath namesPath)
    (staging : stagingPaths cnfPath namesPath ⊆ paths)
    (kept : (∀ t₃, ¬ a.Prepared cnfPath namesPath t t₃) →
      ∀ path ∈ [cnfPath, namesPath], t'.at? path = t.at? path) :
    a.FailsCleanly cnfPath namesPath t t' where
  toKeepsOthers := keepsOthers_of_agrees without.toAgreesOutside used
  names_unstaged := without.not_file_at (staging (by simp [stagingPaths]))
  cnf_stage_kept failed := by
    obtain ⟨e, failed⟩ := failed
    cases failed.symm.trans written
  cnf_unstaged _ := without.not_file_at (staging List.mem_cons_self)
  nothing_new path _ := without.at?_eq_or_none path
  kept_unless_prepared := kept

/-- The record of names was staged, and later both staging paths were cleared and nothing else. -/
theorem failsCleanly_of_cleared (separate : Separate t cnfPath namesPath) {t₁ : FileTree}
    (written : t.write (stagingPath namesPath) a.names = .ok t₁) (without : t.Without paths t')
    (only : paths ⊆ stagingPaths cnfPath namesPath)
    (staging : stagingPaths cnfPath namesPath ⊆ paths) : a.FailsCleanly cnfPath namesPath t t' := by
  have used : stagingPaths cnfPath namesPath ⊆ usedPaths cnfPath namesPath := by simp [usedPaths]
  have kept := kept_of_without separate without only
  exact failsCleanly_of_staged written without (List.Subset.trans only used) staging fun _ => kept

theorem failsCleanly_of_run (separate : Separate t cnfPath namesPath)
    (run : (a.write cnfPath namesPath : StateM FileTree _).run t = (.error e, t')) :
    a.FailsCleanly cnfPath namesPath t t' := by
  cases ends_of_run run with
  | namesUnstaged failed without => exact failsCleanly_of_unstaged separate failed without
  | cnfUnstaged written failed without =>
    exact failsCleanly_of_cleared separate written without (by simp [stagingPaths])
      (by simp [stagingPaths])
  | namesUnplaced staged failed without =>
    obtain ⟨t₁, written, -⟩ := staged
    exact failsCleanly_of_cleared separate written without (by simp [stagingPaths])
      (by simp [stagingPaths])
  | cnfUnplaced prepared failed without =>
    have ⟨t₂, ⟨t₁, written, _⟩, _⟩ := prepared
    exact failsCleanly_of_staged written without (by simp [usedPaths, stagingPaths])
      (by simp [stagingPaths]) fun unprepared => absurd prepared (unprepared _)

end Failure

/-- A file put into place is not staged any more. -/
theorem not_file_at_staging (moved : t.rename (stagingPath path) path = .ok t')
    (content : ByteArray) : t'.at? (stagingPath path) ≠ some (.file content) := by
  obtain ⟨place, _, found, ne, _, same, moves⟩ := file?_of_placed moved
  rw [at?_of_resolve (same.resolve_eq_ok_iff.mpr found), ne_eq, ← file?_eq_some_iff,
    moves.source_eq ne]
  simp

theorem finishesCleanly_of_run (separate : Separate t cnfPath namesPath)
    (run : (a.write cnfPath namesPath : StateM FileTree _).run t = (.ok (), t')) :
    FinishesCleanly cnfPath namesPath t t' := by
  cases ends_of_run run with
  | placed prepared moved =>
  have before := prepared.agreesOutside
  have last := agreesOutside_rename moved
  have whole : t.AgreesOutside (usedPaths cnfPath namesPath) t' :=
    (before.mono (by simp [usedPaths, stagingPaths])).trans
      (last.mono (by simp [usedPaths, stagingPaths]))
  obtain ⟨t₂, -, movedNames⟩ := prepared
  refine ⟨keepsOthers_of_agrees whole (List.Subset.refl _), ?_⟩
  intro path hp content
  rcases List.mem_cons.mp hp with rfl | hp
  · exact not_file_at_staging moved content
  · cases List.mem_singleton.mp hp
    -- The last step does not touch what the names have left.
    have apart : ∀ p ∈ [stagingPath cnfPath, cnfPath], t.Apart (stagingPath namesPath) p := by
      have file : t.Apart cnfPath (stagingPath namesPath) :=
        separate.apart_staging List.mem_cons_self (List.mem_cons_of_mem _ hp)
      simpa using ⟨separate.apart_stages.symm, file.symm⟩
    rw [last.at?_eq fun p h => before.same.apart_iff.mpr (apart p h)]
    exact not_file_at_staging movedNames content

/-- A command that fails before it writes leaves the tree as it is. -/
theorem run_unchanged {o : Command.Options} {report : Command.Report}
    (run : (o.run : StateM FileTree _).run t = (report, t')) {f : Failure Command.Problem}
    (failed : report.failure = some f) (early : ∀ e, f ≠ .error (.outputs e)) : t' = t := by
  simp only [Command.Options.run] at run
  cases assigned : (Assignments.ofArgs o.assignments).outcome with
  | error problem =>
    rw [assigned] at run
    cases run
    rfl
  | ok assignments =>
    simp only [assigned, Command.Options.runWith, StateT.run_bind, run_readFile, pure_bind] at run
    cases opened : t.read o.circuit with
    | error problem =>
      rw [opened] at run
      cases run
      rfl
    | ok bytes =>
      simp only [opened] at run
      cases encoded : (Command.encode bytes assignments).outcome with
      | error problem =>
        rw [encoded] at run
        cases run
        rfl
      | ok encoding =>
        simp only [encoded, StateT.run_bind] at run
        cases written : ((render encoding.cnf encoding.signals.names).write o.cnfPath o.namesPath :
            StateM FileTree _).run t with
        | mk r left =>
          rw [written] at run
          cases r with
          | error problem =>
            cases run
            cases failed
            exact absurd rfl (early problem)
          | ok _ =>
            cases run
            cases failed

/-- If the four paths are apart, a failed run leaves nothing of its own. It can take away older
files at the staging paths, and an older record of names if the last step is the one that fails. A
successful run leaves nothing staged, and both keep all other paths. A command that fails before it
writes changes nothing. -/
theorem write_leaves_clean :
    (∀ (a : OutputFiles) (cnfPath namesPath : String) (t t' : FileTree),
      Separate t cnfPath namesPath →
      (∀ e, (a.write cnfPath namesPath : StateM FileTree _).run t = (.error e, t') →
        a.FailsCleanly cnfPath namesPath t t') ∧
      ((a.write cnfPath namesPath : StateM FileTree _).run t = (.ok (), t') →
        FinishesCleanly cnfPath namesPath t t')) ∧
    ∀ (o : Command.Options) (t t' : FileTree) (report : Command.Report)
      (f : Failure Command.Problem), (o.run : StateM FileTree _).run t = (report, t') →
      report.failure = some f → (∀ e, f ≠ .error (.outputs e)) → t' = t := by
  refine ⟨?_, ?_⟩
  · intro a cnfPath namesPath t t' separate
    exact ⟨fun e => failsCleanly_of_run separate, finishesCleanly_of_run separate⟩
  · intro o t t' report f run failed early
    exact run_unchanged run failed early

def crowdedTree : FileTree := (sampleTree.makeDirectory ["d"]).makeFile ["y"] "old".toUTF8

/-- The clause set cannot take the place of a directory. The record of names was in place then, and
the older record is lost. -/
theorem write_leaves_directory : ∃ t',
    (sampleFiles.write "d" "y" : StateM FileTree _).run crowdedTree = (.error .isADirectory, t') ∧
    sampleFiles.FailsCleanly "d" "y" crowdedTree t' ∧ t'.at? "y" = none := by
  refine ⟨_, rfl, ?_, rfl⟩
  obtain ⟨fails, _⟩ := write_leaves_clean.1 sampleFiles "d" "y" crowdedTree _ (by decide)
  exact fails _ rfl

/-- An older file at the staging path of the clause set outlives a run that cannot stage the record
of names. -/
theorem write_leaves_stale : Separate sampleTree "x" "missing/y" ∧ ∃ t',
    (sampleFiles.write "x" "missing/y" : StateM FileTree _).run sampleTree =
      (.error .notFound, t') ∧
    t'.at? (stagingPath "x") = some (.file "old".toUTF8) :=
  ⟨by decide, _, rfl, rfl⟩

end AndInverter.OutputFiles
