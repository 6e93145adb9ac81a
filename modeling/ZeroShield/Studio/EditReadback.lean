import ZeroShield.Foundation.Fallible
import ZeroShield.Studio.Sequential

/-!
# Reading edited versions back

An edit copies the definition without validating it, while every read validates the stored row.  An
accepted edit is read back exactly when it sets none of its texts to the empty one; otherwise the
row makes every listing of its experiment fail.
-/

namespace ZeroShield.Studio

open Foundation Models Platform

/-! ## Edited versions -/

/-- No text of an edit is empty. -/
structure EditExperimentVersionRequest.NoneEmpty (request : EditExperimentVersionRequest) :
    Prop where
  title : request.title ≠ some ""
  description : request.description ≠ some ""
  researchQuestion : request.researchQuestion ≠ some ""
  hypothesis : request.hypothesis ≠ some ""

theorem getD_ne_empty {requested : Option String} {held : String} (filled : held ≠ "") :
    requested.getD held ≠ "" ↔ requested ≠ some "" := by
  cases requested <;> simp [filled]

section Edited

variable {version : ExperimentVersion} {request : EditExperimentVersionRequest} {now : DateTime}

/-- The four texts are the only fields which an edit can make invalid. -/
theorem apply_errors_iff {definition : ExperimentDefinition} (valid : definition.errors = []) :
    (request.apply definition).errors = [] ↔ request.NoneEmpty := by
  obtain ⟨fields, model⟩ := fieldsThenModel_eq_nil.mp valid
  -- Neither the other fields nor the checks of the whole definition see the four texts.
  have others : (request.apply definition).errors = [] ↔
      (request.apply definition).fieldErrors = [] :=
    fieldsThenModel_eq_nil.trans (and_iff_left model)
  rw [others]
  simp only [ExperimentDefinition.fieldErrors, EditExperimentVersionRequest.apply,
    List.append_eq_nil_iff, requireText_eq_nil, require_eq_nil, decide_eq_true_eq, if_true]
    at fields ⊢
  simp only [fields, getD_ne_empty, and_true, true_and, not_false_eq_true, ne_eq, decide_true]
  constructor
  · rintro ⟨⟨⟨title, description⟩, researchQuestion⟩, hypothesis⟩
    exact ⟨title, description, researchQuestion, hypothesis⟩
  · rintro ⟨title, description, researchQuestion, hypothesis⟩
    exact ⟨⟨⟨title, description⟩, researchQuestion⟩, hypothesis⟩

/-- An edited version is valid exactly when no text of the edit is empty. -/
theorem edited_valid_iff (valid : version.Valid) :
    (edited version request now).Valid ↔ request.NoneEmpty := by
  have same : (edited version request now).errors = version.errors := rfl
  rw [ExperimentVersion.Valid, same, and_iff_left valid.2]
  exact apply_errors_iff valid.1

end Edited

/-! ## Listings -/

theorem mapM_validate_isOk {rows : List ExperimentVersion} :
    (∃ versions, rows.mapM ExperimentVersion.validate = .ok versions) ↔
      ∀ row ∈ rows, row.Valid := by
  induction rows with
  | nil => exact ⟨fun _ => List.forall_mem_nil _, fun _ => ⟨[], rfl⟩⟩
  | cons row rows ih =>
      rw [List.forall_mem_cons, ← ih, List.mapM_cons]
      constructor
      · rintro ⟨versions, listed⟩
        obtain ⟨version, first, listed⟩ := bind_eq_ok.mp listed
        obtain ⟨rest, others, -⟩ := bind_eq_ok.mp listed
        exact ⟨(ExperimentVersion.validate_eq_ok.mp first).1, rest, others⟩
      · rintro ⟨valid, rest, others⟩
        exact ⟨row :: rest, bind_eq_ok.mpr ⟨row, ExperimentVersion.validate_eq_ok.mpr ⟨valid, rfl⟩,
          bind_eq_ok.mpr ⟨rest, others, rfl⟩⟩⟩

/-- The versions of an experiment can be listed. -/
def Listable (world : World) (experimentId : String) : Prop :=
  ∃ versions, world.listVersions experimentId = .ok versions

/-- A listing succeeds exactly when every row of the experiment is valid. -/
theorem listable_iff {world : World} {experimentId : String} :
    Listable world experimentId ↔
      ∀ row ∈ world.versions.rows, row.experimentId = experimentId → row.Valid := by
  rw [Listable, World.listVersions, mapM_validate_isOk]
  simp only [List.mem_insertionSort, List.mem_filter, decide_eq_true_eq, and_imp]

/-- The latest number is found exactly when the versions can be listed. -/
theorem latestVersionNumber_isOk {world : World} {experimentId : String} :
    (∃ latest, world.latestVersionNumber experimentId = .ok latest) ↔
      Listable world experimentId := by
  unfold Listable World.latestVersionNumber
  cases world.listVersions experimentId <;> simp

/-! ## Accepted edits -/

/-- A version differs from another one only in the requested texts and in the time of the update. -/
structure ChangesOnly (request : EditExperimentVersionRequest) (before after : ExperimentVersion) :
    Prop where
  title : after.definition.title = request.title.getD before.definition.title
  description : after.definition.description =
    request.description.getD before.definition.description
  researchQuestion : after.definition.researchQuestion =
    request.researchQuestion.getD before.definition.researchQuestion
  hypothesis : after.definition.hypothesis = request.hypothesis.getD before.definition.hypothesis
  others : before =
    { after with
      updatedAt := before.updatedAt
      definition :=
        { after.definition with
          title := before.definition.title
          description := before.definition.description
          researchQuestion := before.definition.researchQuestion
          hypothesis := before.definition.hypothesis } }

/-- After an edit the version is read with the requested changes, and the listing and the latest
number of its experiment are found if they were found before. -/
structure ReadsBack (request : EditExperimentVersionRequest) (before : ExperimentVersion)
    (world after : World) : Prop where
  version : ∃ version, after.getVersion before.versionId = .ok (some version) ∧
    ChangesOnly request before version
  listed : Listable world before.experimentId → Listable after before.experimentId
  numbered : (∃ latest, world.latestVersionNumber before.experimentId = .ok latest) →
    ∃ latest, after.latestVersionNumber before.experimentId = .ok latest

section Accepted

variable {versionId : String} {request : EditExperimentVersionRequest} {requestId : Option String}
  {user : User} {inputs : ℕ → Input} {position next : ℕ} {world after : World}
  {before : ExperimentVersion} {answer : VersionResponse}

/-- An accepted edit stores the edited version. -/
theorem versions_of_edit (stored : world.getVersion versionId = .ok (some before))
    (accepted : (editExperimentVersion versionId request requestId user).run exec inputs position
      world = (.version 200 answer, next, after)) :
    before.status = .draft ∧
      ∃ now, after.versions = world.versions.upsert (edited before request now) := by
  simp only [editExperimentVersion, requireRole] at accepted
  split at accepted
  case isFalse => cases accepted
  case isTrue =>
    simp only [Program.run_bind] at accepted
    split at accepted
    case h_1 => cases accepted
    case h_2 => cases accepted
    case h_3 version read =>
      cases stored.symm.trans read
      simp only [editDraft] at accepted
      split at accepted
      case isTrue => cases accepted
      case isFalse editable =>
        cases accepted
        exact ⟨not_not.mp editable, _, rfl⟩

/-- Every edit of a stored draft by a user who may edit is accepted. -/
theorem edit_accepted (permitted : user.role ∈ [Role.researcher, Role.admin])
    (stored : world.getVersion versionId = .ok (some before)) (draft : before.status = .draft) :
    ∃ answer next after, (editExperimentVersion versionId request requestId user).run exec inputs
      position world = (.version 200 answer, next, after) := by
  have opens : (exec (inputs position) (.getVersion versionId) world).1 =
    .ok (some before) := stored
  have answered : ((editExperimentVersion versionId request requestId user).run exec inputs position
      world).1 =
        .version 200 (versionResponse (edited before request (inputs (position + 1)).now)) := by
    simp only [editExperimentVersion, requireRole, if_pos permitted]
    rw [Program.run_call_bind, opens]
    simp only [editDraft, draft, ne_eq, not_true_eq_false, if_false]
    rfl
  exact ⟨_, _, _, Prod.ext answered rfl⟩

/-- An accepted edit is read back exactly when none of its texts is empty. -/
theorem readsBack_iff (stored : world.getVersion versionId = .ok (some before))
    (accepted : (editExperimentVersion versionId request requestId user).run exec inputs position
      world = (.version 200 answer, next, after)) :
    ReadsBack request before world after ↔ request.NoneEmpty := by
  obtain ⟨-, now, versions⟩ := versions_of_edit stored accepted
  obtain ⟨found, valid⟩ := World.getVersion_eq_some.mp stored
  have edit : (edited before request now).Valid ↔ request.NoneEmpty := edited_valid_iff valid
  have lookup : after.versions.lookup before.versionId = some (edited before request now) := by
    rw [versions]
    exact Table.lookup_upsert_of_eq rfl
  constructor
  · intro reads
    obtain ⟨version, read, -⟩ := reads.version
    obtain ⟨isStored, readable⟩ := World.getVersion_eq_some.mp read
    rw [lookup] at isStored
    cases isStored
    exact edit.mp readable
  · intro noneEmpty
    have readable := edit.mpr noneEmpty
    have listed : Listable world before.experimentId → Listable after before.experimentId := by
      rw [listable_iff, listable_iff, versions]
      intro valid row member same
      rcases Table.mem_rows_upsert member with rfl | ⟨-, old⟩
      · exact readable
      · exact valid row old same
    refine ⟨⟨_, World.getVersion_eq_some.mpr ⟨lookup, readable⟩, ?_⟩, listed, ?_⟩
    · exact ⟨rfl, rfl, rfl, rfl, rfl⟩
    · rw [latestVersionNumber_isOk, latestVersionNumber_isOk]
      exact listed

end Accepted

namespace Sample

/-- The state after the sample request was served. -/
def drafted : World :=
  served services (.create body none researcher) (fun _ => { now := 1 }) {}

theorem drafted_draft :
    (match drafted.getVersion (versionId 1) with
      | .ok (some version) => decide (version.status = .draft)
      | _ => false) = true := by decide +kernel

theorem drafted_stored :
    ∃ version, drafted.getVersion (versionId 1) = .ok (some version) ∧ version.status = .draft := by
  have checked := drafted_draft
  split at checked
  case h_1 version stored => exact ⟨version, stored, of_decide_eq_true checked⟩
  case h_2 => cases checked

theorem may_edit : researcher.role ∈ [Role.researcher, Role.admin] := by decide

end Sample

/-- A new title is read back. -/
theorem readsBack_of_sample :
    ∃ before after, Sample.drafted.getVersion (Sample.versionId 1) = .ok (some before) ∧
      ReadsBack { title := some "Edited" } before Sample.drafted after := by
  obtain ⟨before, stored, draft⟩ := Sample.drafted_stored
  obtain ⟨answer, next, after, accepted⟩ := @edit_accepted (Sample.versionId 1)
    { title := some "Edited" } none Sample.researcher
    (fun _ => { now := 2 }) 0 Sample.drafted before
    Sample.may_edit stored draft
  refine ⟨before, after, stored, (readsBack_iff stored accepted).mpr ⟨?_, ?_, ?_, ?_⟩⟩
  all_goals decide

/-- An empty title is accepted, after which the version is not read. -/
theorem not_readsBack_of_empty :
    ¬ ∀ (versionId : String) (request : EditExperimentVersionRequest) (requestId : Option String)
      (user : User) (inputs : ℕ → Input) (position next : ℕ) (world after : World)
      (before : ExperimentVersion) (answer : VersionResponse),
      world.getVersion versionId = .ok (some before) →
      (editExperimentVersion versionId request requestId user).run exec inputs position world =
        (.version 200 answer, next, after) →
      ReadsBack request before world after := by
  intro claim
  obtain ⟨before, stored, draft⟩ := Sample.drafted_stored
  obtain ⟨answer, next, after, accepted⟩ := @edit_accepted (Sample.versionId 1)
    { title := some "" } none Sample.researcher (fun _ => { now := 2 }) 0 Sample.drafted before
    Sample.may_edit stored draft
  obtain ⟨version, read, changes⟩ := (claim _ _ _ _ _ _ _ _ _ _ _ stored accepted).version
  have untitled : version.definition.title = "" := changes.title
  obtain ⟨fields, -⟩ := fieldsThenModel_eq_nil.mp (World.getVersion_eq_some.mp read).2.1
  simp [ExperimentDefinition.fieldErrors, untitled] at fields

end ZeroShield.Studio
