import ZeroShield.Studio.Runs

/-!
# Requests served one after another

What a request which is not disturbed does to the stored versions and to the experiment files.
-/

namespace ZeroShield.Studio

open Foundation Models Platform

/-- The state after a request was served alone. -/
def served (services : Services) (request : StudioRequest) (inputs : ℕ → Input) (world : World) :
    World :=
  ((serve services request).run exec inputs 0 world).2.2

/-- States reached by serving requests one after another, each admitted by a guard. -/
inductive Serves (services : Services) (guard : World → StudioRequest → Prop) (start : World) :
    World → Prop
  | refl : Serves services guard start start
  | step {world : World} {request : StudioRequest} {inputs : ℕ → Input} :
      Serves services guard start world → guard world request →
      Serves services guard start (served services request inputs world)

/-- Serve a list of requests, each at one instant, as long as a guard admits them. -/
def serveGuarded (services : Services) (guard : World → StudioRequest → Prop)
    [∀ world request, Decidable (guard world request)] :
    List (StudioRequest × DateTime) → World → Option World
  | [], world => some world
  | (request, now) :: rest, world =>
      if guard world request then
        serveGuarded services guard rest (served services request (fun _ => { now }) world)
      else none

theorem serves_of_serveGuarded {services : Services} {guard : World → StudioRequest → Prop}
    [∀ world request, Decidable (guard world request)] {start world final : World}
    {requests : List (StudioRequest × DateTime)} (reach : Serves services guard start world)
    (execution : serveGuarded services guard requests world = some final) :
    Serves services guard start final := by
  induction requests generalizing world with
  | nil =>
      obtain rfl : world = final := by simpa [serveGuarded] using execution
      exact reach
  | cons first rest ih =>
      unfold serveGuarded at execution
      split at execution
      case isTrue permitted => exact ih (reach.step permitted) execution
      case isFalse => cases execution

/-- A property checked at the end of served requests holds of a reachable state. -/
theorem exists_serves {services : Services} {guard : World → StudioRequest → Prop}
    [∀ world request, Decidable (guard world request)] {start : World} {check : World → Bool}
    (requests : List (StudioRequest × DateTime))
    (checked : (serveGuarded services guard requests start).any check = true) :
    ∃ world, Serves services guard start world ∧ check world = true := by
  cases execution : serveGuarded services guard requests start with
  | none => simp [execution] at checked
  | some world =>
      rw [execution] at checked
      exact ⟨world, serves_of_serveGuarded .refl execution, checked⟩

/-- What a request does to the versions and the experiment files. -/
inductive Effect : StudioRequest → World → World → Prop
  | unchanged {request world next} :
      next.versions = world.versions → next.experiments = world.experiments →
      Effect request world next
  | created {body requestId user world next latest now draft} :
      world.latestVersionNumber body.experimentId = .ok latest →
      IsDraft body user latest now draft →
      next.versions = world.versions.upsert draft → next.experiments = world.experiments →
      Effect (.create body requestId user) world next
  | edited {versionId body requestId user world next version now} :
      world.getVersion versionId = .ok (some version) → version.status = .draft →
      next.versions = world.versions.upsert (edited version body now) →
      next.experiments = world.experiments →
      Effect (.edit versionId body requestId user) world next
  | reviewed {action versionId reason requestId user world next version now} :
      user.role ∈ ReviewAction.roles action → action ≠ .approve →
      world.getVersion versionId = .ok (some version) →
      action.target ∈ allowedTransitions version.status →
      next.versions = world.versions.upsert (advanced version action.target now) →
      next.experiments = world.experiments →
      Effect (.review action versionId reason requestId user) world next
  | approved {versionId reason requestId user world next version now} :
      world.getVersion versionId = .ok (some version) → version.status = .underReview →
      next.versions = world.versions.upsert (advanced version .approved now) →
      next.experiments = (world.writeExperiment version.experimentId
        (advanced version .approved now).definition).experiments →
      Effect (.review .approve versionId reason requestId user) world next
  | ran {versionId requestId user world next version} :
      world.getVersion versionId = .ok (some version) → version.status = .approved →
      next.versions = world.versions →
      next.experiments =
        (world.writeExperiment version.experimentId version.definition).experiments →
      Effect (.run versionId requestId user) world next

section Served

variable (services : Services) (requestId : Option String) (user : User) (inputs : ℕ → Input)
  (world : World)

private theorem create_effect (body : CreateExperimentVersionRequest) :
    Effect (.create body requestId user) world
      (served services (.create body requestId user) inputs world) := by
  simp only [served, serve, createExperimentVersion, requireRole]
  split
  case isFalse => exact .unchanged rfl rfl
  case isTrue =>
    split
    case h_1 => exact .unchanged rfl rfl
    case h_2 references _ =>
      simp only [Program.run_bind]
      split
      case h_1 => exact .unchanged rfl rfl
      case h_2 latest read =>
        split
        case h_1 => exact .unchanged rfl rfl
        case h_2 config _ =>
          simp only [Program.run_bind, buildExperimentDraft]
          cases selected : selectTemplate body.domainPackId body.templateId
              body.templateVersion with
          | error error => exact .unchanged rfl rfl
          | ok chosen =>
              cases generates : services.generate chosen.1.datasetGeneratorId body.seed config with
              | error error =>
                  simp only [generates]
                  exact .unchanged rfl rfl
              | ok generated =>
                  cases picks : selectStrategies chosen.1 chosen.2 with
                  | error error =>
                      simp only [generates, Program.run_bind, picks]
                      exact .unchanged rfl rfl
                  | ok strategies =>
                      simp only [generates, Program.run_bind, picks, call, Program.call,
                        Program.run_perform, Program.run_done, Program.pure_eq, exec]
                      split
                      case h_1 => exact .unchanged rfl rfl
                      case h_2 draft built =>
                        obtain ⟨same, valid⟩ := validateDraft_eq_ok built
                        have isDraft : IsDraft body user latest _ draft :=
                          ⟨same ▸ valid, references, chosen.1, chosen.2, strategies,
                            generated.provenance, same⟩
                        exact .created read isDraft rfl rfl

private theorem edit_effect (versionId : String) (body : EditExperimentVersionRequest) :
    Effect (.edit versionId body requestId user) world
      (served services (.edit versionId body requestId user) inputs world) := by
  simp only [served, serve, editExperimentVersion, requireRole]
  split
  case isFalse => exact .unchanged rfl rfl
  case isTrue =>
    simp only [Program.run_bind]
    split
    case h_1 => exact .unchanged rfl rfl
    case h_2 => exact .unchanged rfl rfl
    case h_3 version read =>
      simp only [editDraft]
      split
      case isTrue => exact .unchanged rfl rfl
      case isFalse editable => exact .edited read (not_not.mp editable) rfl rfl

private theorem review_effect (action : ReviewAction) (versionId : String)
    (reason : Option String) :
    Effect (.review action versionId reason requestId user) world
      (served services (.review action versionId reason requestId user) inputs world) := by
  simp only [served, serve, ReviewAction.route_eq, requireRole, doTransition]
  split
  case isFalse => exact .unchanged rfl rfl
  case isTrue permitted =>
    simp only [Program.run_bind]
    split
    case h_1 => exact .unchanged rfl rfl
    case h_2 => exact .unchanged rfl rfl
    case h_3 version read =>
      split
      case isTrue => exact .unchanged rfl rfl
      case isFalse =>
        simp only [transition]
        cases checked : checkTransition version.status action.target with
        | error error => exact .unchanged rfl rfl
        | ok _ =>
            have allowed := checkTransition_eq_ok.mp checked
            by_cases approving : action = .approve
            · subst approving
              exact .approved read (underReview_of_approved_allowed allowed) rfl rfl
            · have other : action.target ≠ .approved :=
                mt ReviewAction.target_eq_approved.mp approving
              simp only [Program.run_bind, if_neg other]
              exact .reviewed permitted approving read allowed rfl rfl

private theorem run_effect (versionId : String) :
    Effect (.run versionId requestId user) world
      (served services (.run versionId requestId user) inputs world) := by
  simp only [served, serve, submitExperimentVersionRun, requireRole]
  split
  case isFalse => exact .unchanged rfl rfl
  case isTrue =>
    simp only [Program.run_bind]
    split
    case h_1 => exact .unchanged rfl rfl
    case h_2 => exact .unchanged rfl rfl
    case h_3 version read =>
      split
      case isTrue => exact .unchanged rfl rfl
      case isFalse approved => exact .ran read (not_not.mp approved) rfl rfl

/-- Every request has one of the listed effects. -/
theorem effect_of_served (request : StudioRequest) :
    Effect request world (served services request inputs world) := by
  cases request with
  | create body requestId user => exact create_effect services requestId user inputs world body
  | edit versionId body requestId user =>
      exact edit_effect services requestId user inputs world versionId body
  | review action versionId reason requestId user =>
      exact review_effect services requestId user inputs world action versionId reason
  | run versionId requestId user => exact run_effect services requestId user inputs world versionId

end Served

/-- Create a version of the sample experiment and take it through its review up to an approval. -/
def Sample.approve (number : ℕ) : List (StudioRequest × DateTime) :=
  [(.create body none researcher, 1),
    (.review .submitReview (versionId number) none none researcher, 2),
    (.review .startReview (versionId number) none none reviewer, 3),
    (.review .approve (versionId number) none none reviewer, 4)]

end ZeroShield.Studio
