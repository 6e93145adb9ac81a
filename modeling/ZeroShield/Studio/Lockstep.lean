import ZeroShield.Studio.Runs

/-!
# Status lockstep and four eyes

Whatever the interleaving, a stored version is approved in its workflow state exactly when its
definition is, approval was granted by somebody else than the author or by an administrator, and
only approved definitions are materialised.
-/

namespace ZeroShield.Studio

open Foundation Models Platform

/-- Workflow state and approval field agree. -/
def InLockstep (version : ExperimentVersion) : Prop :=
  version.definition.approvalStatus = .approved ↔ version.status = .approved

/-- A request approved a version which it had read under review, and was entitled to. -/
structure ApprovedBy (row : ExperimentVersion) (thread : Thread platform StudioRequest Response) :
    Prop where
  /-- The request is an approval by an entitled user. -/
  approver : ∃ reason requestId user,
    thread.tag = .review .approve row.versionId reason requestId user ∧
      (user.username ≠ row.createdBy ∨ user.role = .admin)
  /-- It read the version under review before it saved the row. -/
  reviewed : ∃ version now, version.status = .underReview ∧
    [⟨.saveVersion row, ()⟩, ⟨.utcNow, now⟩, ⟨.getVersion row.versionId, .ok (some version)⟩] <:+
      thread.past

/-- A request wrote a definition which is that of an approved version it read or saved. -/
def MaterialisedFor (thread : Thread platform StudioRequest Response) (experimentId : String)
    (definition : ExperimentDefinition) : Prop :=
  ∃ version, version.status = .approved ∧ version.experimentId = experimentId ∧
    version.definition = definition ∧
      ((∃ versionId, (⟨.getVersion versionId, .ok (some version)⟩ : Event platform) ∈ thread.past) ∨
        (⟨.saveVersion version, ()⟩ : Event platform) ∈ thread.past)

theorem approvedDefinitionStatus_eq_approved {status : ExperimentVersionStatus} :
    approvedDefinitionStatus status = .approved ↔ status = .approved := by
  cases status <;> decide

theorem inLockstep_of_valid {version : ExperimentVersion} (valid : version.Valid) :
    InLockstep version := by
  unfold InLockstep
  rw [valid.approvalStatus, approvedDefinitionStatus_eq_approved]

theorem inLockstep_advanced (version : ExperimentVersion) (target : ExperimentVersionStatus)
    (now : DateTime) : InLockstep (advanced version target now) := by
  unfold InLockstep
  rw [advanced_approvalStatus, advanced_status, approvedDefinitionStatus_eq_approved]

section Reachable

variable {services : Services} {guard : StudioPool → StudioMove → Prop} {start : World}
  {pool : StudioPool} {thread : Thread platform StudioRequest Response}

/-- Every version a request saves is in lockstep. -/
theorem inLockstep_of_saved (reach : Reaches services guard start pool)
    (member : thread ∈ pool.threads) {row : ExperimentVersion}
    (saved : (⟨.saveVersion row, ()⟩ : Event platform) ∈ thread.past) : InLockstep row := by
  obtain ⟨earlier, suffix, allowed, -⟩ := allowed_of_mem reach member saved
  obtain ⟨tag, past, rest⟩ := thread
  dsimp only at suffix allowed
  cases allowed with
  | saveDraft draft => exact inLockstep_of_valid draft.1
  | @saveEdit versionId _ _ _ version now =>
      have seen : (⟨.getVersion versionId, .ok (some version)⟩ : Event platform) ∈ past :=
        suffix.subset (by simp)
      exact @inLockstep_of_valid version (read_of_mem reach member seen).1
  | saveReview => exact inLockstep_advanced _ _ _

/-- An approved version which a request saves was approved by that request. -/
theorem approvedBy_of_saved (reach : Reaches services guard start pool)
    (member : thread ∈ pool.threads) {row : ExperimentVersion}
    (saved : (⟨.saveVersion row, ()⟩ : Event platform) ∈ thread.past)
    (approved : row.status = .approved) : ApprovedBy row thread := by
  obtain ⟨earlier, suffix, allowed, -⟩ := allowed_of_mem reach member saved
  obtain ⟨tag, past, rest⟩ := thread
  dsimp only at suffix allowed
  cases allowed with
  | saveDraft draft =>
      obtain ⟨-, _, _, _, _, _, rfl⟩ := draft
      cases approved
  | saveEdit draft => rw [edited_status, draft] at approved; cases approved
  | @saveReview action versionId reason requestId user version now permitted allowed =>
      obtain rfl := ReviewAction.target_eq_approved.mp approved
      have seen : (⟨.getVersion versionId, .ok (some version)⟩ : Event platform) ∈ past :=
        suffix.subset (by simp)
      obtain ⟨-, rfl⟩ := read_of_mem reach member seen
      refine ⟨⟨reason, requestId, user, rfl, ?_⟩,
        ⟨version, now, underReview_of_approved_allowed allowed, suffix⟩⟩
      rw [advanced_createdBy]
      by_contra! same
      exact permitted ⟨rfl, same⟩

/-- Every materialised definition is approved and belongs to a version the request had at hand. -/
theorem materialisedFor_of_written (reach : Reaches services guard start pool)
    (member : thread ∈ pool.threads) {experimentId : String} {definition : ExperimentDefinition}
    (written : (⟨.writeExperiment experimentId definition, ()⟩ : Event platform) ∈ thread.past) :
    definition.approvalStatus = .approved ∧ MaterialisedFor thread experimentId definition := by
  obtain ⟨earlier, suffix, allowed, -⟩ := allowed_of_mem reach member written
  obtain ⟨tag, past, rest⟩ := thread
  dsimp only at suffix allowed
  cases allowed with
  | @materialiseApproved versionId reason requestId user version now decision =>
      exact ⟨rfl, advanced version .approved now, rfl, rfl, rfl,
        Or.inr (suffix.subset (by simp))⟩
  | @materialiseRun versionId requestId user version approved =>
      have seen : (⟨.getVersion versionId, .ok (some version)⟩ : Event platform) ∈ past :=
        suffix.subset (by simp)
      have valid := (read_of_mem reach member seen).1
      exact ⟨(inLockstep_of_valid valid).mpr approved, version, approved, rfl, rfl,
        Or.inl ⟨versionId, seen⟩⟩

end Reachable

/-- What holds of a state of the studio. -/
structure FourEyes (pool : StudioPool) : Prop where
  /-- Workflow state and approval field of every stored version agree. -/
  lockstep : ∀ row ∈ pool.world.versions.rows, InLockstep row
  /-- Every approved version was approved by an entitled user who had read it under review. -/
  approved : ∀ row ∈ pool.world.versions.rows, row.status = .approved →
    ∃ thread ∈ pool.threads, ApprovedBy row thread
  /-- Only approved definitions of versions at hand were materialised. -/
  materialised : ∀ thread ∈ pool.threads, ∀ experimentId definition,
    (⟨.writeExperiment experimentId definition, ()⟩ : Event platform) ∈ thread.past →
      definition.approvalStatus = .approved ∧ MaterialisedFor thread experimentId definition

/-- Lockstep and four eyes hold in every state reachable from the empty store. -/
theorem fourEyes_of_reaches (services : Services) {pool : StudioPool}
    (reach : Reaches services anyMove {} pool) : FourEyes pool := by
  have stored : ∀ row ∈ pool.world.versions.rows, ∃ thread ∈ pool.threads,
      (⟨.saveVersion row, ()⟩ : Event platform) ∈ thread.past := by
    intro row present
    rcases saved_of_stored reach row present with initial | saved
    · cases initial
    · exact saved
  constructor
  case lockstep =>
    intro row present
    obtain ⟨thread, member, saved⟩ := stored row present
    exact inLockstep_of_saved reach member saved
  case approved =>
    intro row present approved
    obtain ⟨thread, member, saved⟩ := stored row present
    exact ⟨thread, member, approvedBy_of_saved reach member saved approved⟩
  case materialised =>
    intro thread member experimentId definition written
    exact materialisedFor_of_written reach member written

/-- The sample experiment is approved in a state with four eyes. -/
theorem fourEyes_of_sample : ∃ pool, FourEyes pool ∧
    pool.world.versions.rows.map (·.status) = [.approved] := by
  obtain ⟨pool, reach, checked⟩ :
      ∃ pool, Reaches Sample.services anyMove {} pool ∧
        decide (pool.world.versions.rows.map (·.status) = [.approved]) = true :=
    Pool.exists_reaches Sample.approval (by decide +kernel)
  exact ⟨pool, fourEyes_of_reaches Sample.services reach, of_decide_eq_true checked⟩

end ZeroShield.Studio
