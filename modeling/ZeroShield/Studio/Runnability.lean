import ZeroShield.Studio.Lockstep
import ZeroShield.Studio.Sequential

/-!
# Runnable experiments

The file of an experiment is what the safety policy admits to a run.  Approving and running write
it; retiring a version does not.  The file therefore stays in step with the approved versions only
as long as no version is retired whose definition is in the file.
-/

namespace ZeroShield.Studio

open Foundation Models Platform

/-- Every runnable file holds the definition of an approved version of its experiment. -/
def RunnableMeansApproved (world : World) : Prop :=
  ∀ experimentId definition, world.experimentFile experimentId = some definition →
    (checkSafe004ApprovalStatus definition .experimentRun).1 = true →
      ∃ row ∈ world.versions.rows,
        row.experimentId = experimentId ∧ row.status = .approved ∧ row.definition = definition

/-- A permitted retirement of an approved version finds another definition, or none, in the file of
its experiment. -/
def RetiresUnpublished (world : World) : StudioRequest → Prop
  | .review .retire versionId _ _ user =>
      user.role ∈ ReviewAction.retire.roles →
        match world.getVersion versionId with
        | .ok (some version) =>
            version.status = .approved →
              world.experimentFile version.experimentId ≠ some version.definition
        | _ => True
  | _ => True

instance {world : World} {request : StudioRequest} :
    Decidable (RetiresUnpublished world request) := by
  unfold RetiresUnpublished
  split
  · refine @instDecidableForall _ _ _ ?_
    split <;> infer_instance
  · infer_instance

/-- Identifiers are made of experiment and number, and files hold approved definitions. -/
structure Published (world : World) : Prop where
  numbered : ∀ row ∈ world.versions.rows, Numbered row
  backed : ∀ experimentId definition, world.experimentFile experimentId = some definition →
    ∃ row ∈ world.versions.rows,
      row.experimentId = experimentId ∧ row.status = .approved ∧ row.definition = definition

theorem Published.initial : Published {} := by
  refine ⟨?_, ?_⟩
  · intro row stored
    cases stored
  · intro experimentId definition present
    cases present

theorem Published.runnableMeansApproved {world : World} (published : Published world) :
    RunnableMeansApproved world :=
  fun experimentId definition present _ => published.backed experimentId definition present

section Upsert

variable {world next : World} {row : ExperimentVersion}

private theorem numbered_upsert (published : Published world)
    (versions : next.versions = world.versions.upsert row) (named : Numbered row) :
    ∀ other ∈ next.versions.rows, Numbered other := by
  intro other stored
  rw [versions] at stored
  rcases Table.mem_rows_upsert stored with rfl | ⟨-, present⟩
  · exact named
  · exact published.numbered other present

/-- Saving a row keeps the backing of all files which the replaced row did not back. -/
private theorem backed_upsert (published : Published world)
    (versions : next.versions = world.versions.upsert row)
    {experimentId : String} {definition : ExperimentDefinition}
    (present : world.experimentFile experimentId = some definition)
    (spared : ∀ old, world.versions.lookup row.versionId = some old → old.status = .approved →
      old.experimentId = experimentId → old.definition ≠ definition) :
    ∃ other ∈ next.versions.rows, other.experimentId = experimentId ∧
      other.status = .approved ∧ other.definition = definition := by
  obtain ⟨other, stored, experiment, approved, same⟩ :=
    published.backed experimentId definition present
  refine ⟨other, ?_, experiment, approved, same⟩
  rw [versions]
  refine Table.mem_rows_upsert_of_ne stored fun equal => ?_
  have found : world.versions.lookup row.versionId = some other := by
    rw [equal]
    exact Table.mem_rows.mp stored
  exact spared other found approved experiment same

/-- Saving a row in place of one which is not approved keeps everything published. -/
private theorem published_upsert (published : Published world)
    (versions : next.versions = world.versions.upsert row)
    (experiments : next.experiments = world.experiments)
    (named : row.versionId = versionIdOf row.experimentId row.versionNumber)
    (spared : ∀ old, world.versions.lookup row.versionId = some old → old.status = .approved →
      world.experimentFile old.experimentId ≠ some old.definition) : Published next := by
  refine ⟨numbered_upsert published versions named, fun experimentId definition present => ?_⟩
  have before : world.experimentFile experimentId = some definition := by
    simpa only [World.experimentFile, experiments] using present
  refine backed_upsert published versions before fun old stored approved experiment same => ?_
  exact spared old stored approved (by rw [experiment, same, before])

end Upsert

/-- Materialising an approved stored version keeps everything published. -/
private theorem published_write {world next : World} (row : ExperimentVersion)
    (numbered : ∀ other ∈ next.versions.rows,
      other.versionId = versionIdOf other.experimentId other.versionNumber)
    (stored : row ∈ next.versions.rows) (approved : row.status = .approved)
    (kept : ∀ experimentId definition, world.experimentFile experimentId = some definition →
      ∃ other ∈ next.versions.rows, other.experimentId = experimentId ∧
        other.status = .approved ∧ other.definition = definition)
    (experiments : next.experiments =
      (world.writeExperiment row.experimentId row.definition).experiments) : Published next := by
  refine ⟨numbered, fun experimentId definition present => ?_⟩
  have written : (world.writeExperiment row.experimentId row.definition).experimentFile
      experimentId = some definition := by
    simpa only [World.experimentFile, experiments] using present
  rw [World.experimentFile_writeExperiment] at written
  by_cases same : row.experimentId = experimentId
  · rw [if_pos same, Option.some.injEq] at written
    exact ⟨row, stored, same, approved, written⟩
  · rw [if_neg same] at written
    exact kept experimentId definition written

/-- A row which was read is the stored one. -/
private theorem eq_of_read {world : World} {versionId : String} {version old : ExperimentVersion}
    (read : world.getVersion versionId = .ok (some version))
    (stored : world.versions.lookup version.versionId = some old) : old = version := by
  obtain ⟨found, -⟩ := World.getVersion_eq_some.mp read
  rw [World.versionId_of_getVersion read, found, Option.some.injEq] at stored
  exact stored.symm

private theorem numbered_of_read {world : World} (published : Published world) {versionId : String}
    {version : ExperimentVersion} (read : world.getVersion versionId = .ok (some version)) :
    version.versionId = versionIdOf version.experimentId version.versionNumber :=
  published.numbered version
    (Table.mem_rows_of_lookup (World.getVersion_eq_some.mp read).1)

/-- One request which retires nothing that is in a file keeps everything published. -/
theorem Published.effect {world next : World} {request : StudioRequest}
    (published : Published world) (unpublished : RetiresUnpublished world request)
    (effect : Effect request world next) : Published next := by
  cases effect with
  | unchanged versions experiments =>
      refine ⟨by rw [versions]; exact published.numbered, fun experimentId definition present => ?_⟩
      rw [versions]
      refine published.backed experimentId definition ?_
      simpa only [World.experimentFile, experiments] using present
  | @created body _ _ _ _ latest now draft read built versions experiments =>
      refine published_upsert published versions experiments ?_ fun old stored => ?_
      · rw [built.versionId, built.experimentId, built.versionNumber]
      · rw [lookup_draft published.numbered
          (fun row present same => World.versionNumber_le_latest read present same) built] at stored
        cases stored
  | @edited versionId body _ _ _ _ version now read draft versions experiments =>
      have named := numbered_of_read published read
      refine published_upsert published versions experiments named fun old stored approved => ?_
      rw [eq_of_read read stored, draft] at approved
      cases approved
  | @reviewed action versionId reason _ user _ _ version now permitted other read allowed versions
      experiments =>
      have named := numbered_of_read published read
      refine published_upsert published versions experiments named fun old stored approved => ?_
      obtain rfl := eq_of_read read stored
      cases action with
      | retire =>
          have spared := unpublished permitted
          rw [read] at spared
          exact spared approved
      | approve => exact absurd rfl other
      | _ => simp [approved, allowedTransitions, ReviewAction.target] at allowed
  | @approved versionId _ _ _ _ _ version now read review versions experiments =>
      have named := numbered_of_read published read
      refine published_write (advanced version .approved now)
        (numbered_upsert published versions named) ?_ rfl ?_ experiments
      · rw [versions]
        exact Table.mem_rows_upsert_self _ _
      · intro experimentId definition present
        refine backed_upsert published versions present fun old stored approved => ?_
        rw [eq_of_read read stored, review] at approved
        cases approved
  | @ran versionId _ _ _ _ version read approved versions experiments =>
      have stored := Table.mem_rows_of_lookup (World.getVersion_eq_some.mp read).1
      refine published_write version ?_ ?_ approved ?_ experiments
      · rw [versions]
        exact published.numbered
      · rw [versions]
        exact stored
      · rw [versions]
        exact published.backed

/-- As long as no version is retired whose definition is in its experiment's file, every runnable
file holds the definition of an approved version. -/
theorem runnableMeansApproved_of_serves (services : Services) {world : World}
    (reach : Serves services RetiresUnpublished {} world) : RunnableMeansApproved world := by
  have published : Published world := by
    induction reach with
    | refl => exact Published.initial
    | @step world request inputs _ unpublished ih =>
        exact ih.effect unpublished (effect_of_served services inputs world request)
  exact published.runnableMeansApproved

/-- Two versions are approved and the first one, no longer in the file, is retired. -/
theorem runnableMeansApproved_of_sample : ∃ world, RunnableMeansApproved world ∧
    world.versions.rows.map (·.status) = [.retired, .approved] := by
  obtain ⟨world, reach, checked⟩ :
      ∃ world, Serves Sample.services RetiresUnpublished {} world ∧
        decide (world.versions.rows.map (·.status) = [.retired, .approved]) = true :=
    exists_serves
      (Sample.approve 1 ++ Sample.approve 2 ++
        [(.review .retire (Sample.versionId 1) none none Sample.reviewer, 9)])
      (by decide +kernel)
  exact ⟨world, runnableMeansApproved_of_serves Sample.services reach, of_decide_eq_true checked⟩

/-- Retiring the only approved version leaves its experiment runnable. -/
theorem not_runnableMeansApproved_of_retire :
    ¬ ∀ services world, Serves services (fun _ _ => True) {} world →
      RunnableMeansApproved world := by
  intro claim
  obtain ⟨world, reach, checked⟩ :
      ∃ world, Serves Sample.services (fun _ _ => True) {} world ∧
        decide ((world.experimentFile Sample.body.experimentId).map (·.approvalStatus) =
            some .approved ∧
          ∀ row ∈ world.versions.rows, row.status ≠ .approved) = true :=
    exists_serves
      (Sample.approve 1 ++ [(.review .retire (Sample.versionId 1) none none Sample.reviewer, 9)])
      (by decide +kernel)
  obtain ⟨runnable, withdrawn⟩ := of_decide_eq_true checked
  obtain ⟨definition, present, approved⟩ := Option.map_eq_some_iff.mp runnable
  obtain ⟨row, stored, -, status, -⟩ := claim Sample.services world reach _ definition present
    (checkSafe004ApprovalStatus_experimentRun.mpr approved)
  exact withdrawn row stored status

end ZeroShield.Studio
