import ZeroShield.Studio.Script

/-!
# Interleaved studio requests

Runs of the studio are interleavings of its routes at the granularity of platform operations.  What
is stored in a reachable state was written by some request, and that request followed the script.
-/

namespace ZeroShield.Studio

open Foundation Models Platform

/-- The state of a run: the world and every request started so far. -/
abbrev StudioPool := Pool platform World StudioRequest Response

/-- One move of a run. -/
abbrev StudioMove := Move StudioRequest Input

/-- States reachable by interleaved requests whose moves satisfy a guard. -/
abbrev Reaches (services : Services) (guard : StudioPool → StudioMove → Prop)
    (start : World) : StudioPool → Prop :=
  Pool.Reaches (serve services) exec guard (Pool.initial start)

/-- Any move is possible. -/
def anyMove : StudioPool → StudioMove → Prop := fun _ _ => True

instance {pool : StudioPool} {move : StudioMove} : Decidable (anyMove pool move) :=
  inferInstanceAs (Decidable True)

/-- The thread which a move lets save a version, with that version. -/
def saving (pool : StudioPool) :
    StudioMove → Option (Thread platform StudioRequest Response × ExperimentVersion)
  | .spawn _ => none
  | .advance index _ =>
      match pool.threads[index]? with
      | none => none
      | some thread =>
          match thread.next with
          | some (.saveVersion version) => some (thread, version)
          | _ => none

theorem saving_eq_some {pool : StudioPool} {move : StudioMove}
    {thread : Thread platform StudioRequest Response} {version : ExperimentVersion} :
    saving pool move = some (thread, version) ↔
      ∃ index, (∃ input, move = .advance index input) ∧ pool.threads[index]? = some thread ∧
        thread.next = some (.saveVersion version) := by
  cases move with
  | spawn tag => simp [saving]
  | advance index input =>
      cases selected : pool.threads[index]? with
      | none => simp [saving, selected]
      | some found =>
          simp only [saving, selected]
          split
          case h_1 saved next =>
            constructor
            · rintro ⟨⟩
              exact ⟨index, ⟨input, rfl⟩, selected, next⟩
            · rintro ⟨_, ⟨_, ⟨⟩⟩, same, saves⟩
              obtain rfl := Option.some.inj (selected.symm.trans same)
              obtain rfl := Op.saveVersion.inj (Option.some.inj (next.symm.trans saves))
              rfl
          case h_2 other =>
            simp only [reduceCtorEq, false_iff]
            rintro ⟨_, ⟨_, ⟨⟩⟩, same, saves⟩
            obtain rfl := Option.some.inj (selected.symm.trans same)
            exact other version saves

theorem saving_advance {pool : StudioPool} {index : ℕ} (input : Input)
    {thread : Thread platform StudioRequest Response} {version : ExperimentVersion}
    {rest : Op.Result (.saveVersion version) → Program platform Response}
    (selected : pool.threads[index]? = some thread)
    (head : thread.rest = .perform (.saveVersion version) rest) :
    saving pool (.advance index input) = some (thread, version) :=
  saving_eq_some.mpr
    ⟨index, ⟨input, rfl⟩, selected, Thread.next_eq_some.mpr ⟨rest, head⟩⟩

/-! ## Numbered rows -/

/-- The identifier of a version is made of its experiment and its number. -/
def Numbered (version : ExperimentVersion) : Prop :=
  version.versionId = versionIdOf version.experimentId version.versionNumber

theorem IsDraft.numbered {body : CreateExperimentVersionRequest} {user : User} {latest : ℕ}
    {now : DateTime} {draft : ExperimentVersion} (built : IsDraft body user latest now draft) :
    Numbered draft := by
  unfold Numbered
  rw [built.versionId, built.experimentId, built.versionNumber]

/-- The identifier of a new draft is not in use. -/
theorem lookup_draft {world : World} {body : CreateExperimentVersionRequest} {user : User}
    {latest : ℕ} {now : DateTime} {draft : ExperimentVersion}
    (numbered : ∀ row ∈ world.versions.rows, Numbered row)
    (newest : ∀ row ∈ world.versions.rows, row.experimentId = body.experimentId →
      row.versionNumber ≤ latest)
    (built : IsDraft body user latest now draft) :
    world.versions.lookup draft.versionId = none := by
  cases stored : world.versions.lookup draft.versionId with
  | none => rfl
  | some row =>
      have present := Table.mem_rows_of_lookup stored
      have same : versionIdOf row.experimentId row.versionNumber =
          versionIdOf body.experimentId (latest + 1) := by
        rw [← numbered row present, ← built.versionId]
        exact Table.key_of_lookup stored
      obtain ⟨experiment, number⟩ := versionIdOf_inj.mp same
      have bound := newest row present experiment
      omega

section Reachable

variable {services : Services} {guard : StudioPool → StudioMove → Prop} {start : World}
  {pool : StudioPool}

/-- Every request of a reachable state has followed the script. -/
theorem sound_of_reaches (reach : Reaches services guard start pool) :
    ∀ thread ∈ pool.threads, script.Sound thread :=
  Protocol.sound_of_reaches (serve_obeys services) promised_exec rfl reach

/-- Every performed operation was allowed by what its request had seen before. -/
theorem allowed_of_mem (reach : Reaches services guard start pool)
    {thread : Thread platform StudioRequest Response} (member : thread ∈ pool.threads)
    {event : Event platform} (seen : event ∈ thread.past) :
    ∃ earlier, event :: earlier <:+ thread.past ∧ Allowed thread.tag earlier event.op ∧
      Promised event.op event.result :=
  (sound_of_reaches reach thread member).1.allowed_of_mem seen

/-- Reads see valid rows with the identifier that was asked for. -/
theorem read_of_mem (reach : Reaches services guard start pool)
    {thread : Thread platform StudioRequest Response} (member : thread ∈ pool.threads)
    {versionId : String} {version : ExperimentVersion}
    (seen : (⟨.getVersion versionId, .ok (some version)⟩ : Event platform) ∈ thread.past) :
    version.Valid ∧ version.versionId = versionId := by
  obtain ⟨_, _, _, promised⟩ := allowed_of_mem reach member seen
  exact promised version rfl

/-- A request which is about to save a version has one of three causes. -/
theorem saveCause_of_next (reach : Reaches services guard start pool)
    {thread : Thread platform StudioRequest Response} (member : thread ∈ pool.threads)
    {version : ExperimentVersion} (next : thread.next = some (.saveVersion version)) :
    SaveCause thread.tag thread.past version := by
  obtain ⟨rest, head⟩ := Thread.next_eq_some.mp next
  have allowed := (sound_of_reaches reach thread member).allowed head
  have read := fun (versionId : String) (version : ExperimentVersion) =>
    @read_of_mem _ _ _ _ reach thread member versionId version
  obtain ⟨tag, past, _⟩ := thread
  cases allowed with
  | saveDraft built => exact .draft built
  | @saveEdit versionId _ _ _ version _ draft =>
      obtain ⟨valid, same⟩ := read versionId version (by simp)
      exact .edit draft valid same
  | @saveReview _ versionId _ _ _ version _ permitted allowed =>
      obtain ⟨valid, same⟩ := read versionId version (by simp)
      exact .review permitted allowed valid same

/-- Every stored row was there at the start or was saved by a request. -/
theorem saved_of_stored (reach : Reaches services guard start pool) :
    ∀ row ∈ pool.world.versions.rows, row ∈ start.versions.rows ∨
      ∃ thread ∈ pool.threads, (⟨.saveVersion row, ()⟩ : Event platform) ∈ thread.past := by
  refine Pool.invariant_of_reaches (fun row stored => Or.inl stored) ?_ ?_ reach
  · intro pool tag _ ih _ row stored
    rcases ih row stored with old | ⟨thread, member, saved⟩
    · exact Or.inl old
    · exact Or.inr ⟨thread, List.mem_append_left _ member, saved⟩
  · intro pool index thread op rest input _ ih _ selected _ row stored
    have kept (present : row ∈ pool.world.versions.rows) : row ∈ start.versions.rows ∨
        ∃ later ∈ (pool.performed index thread op rest (exec input op pool.world)).threads,
          (⟨.saveVersion row, ()⟩ : Event platform) ∈ later.past := by
      rcases ih row present with old | ⟨other, member, saved⟩
      · exact Or.inl old
      · obtain ⟨later, present, _, extends_⟩ := Pool.extended_of_mem selected member
        exact Or.inr ⟨later, present, extends_.subset saved⟩
    by_cases saves : ∃ version, op = .saveVersion version
    · obtain ⟨version, rfl⟩ := saves
      rcases Table.mem_rows_upsert stored with rfl | ⟨_, present⟩
      · exact Or.inr ⟨_, Pool.after_mem_performed selected, List.mem_cons_self⟩
      · exact kept present
    · rw [Pool.performed_world, exec_versions (not_exists.mp saves)] at stored
      exact kept stored

/-- A property of drafts which edits and transitions keep holds of every stored row and of every
version which was read. -/
theorem version_of_reaches {motive : ExperimentVersion → Prop}
    (initial : ∀ row ∈ start.versions.rows, motive row)
    (drafted : ∀ body user latest now draft, IsDraft body user latest now draft → motive draft)
    (edits : ∀ version body now, motive version → motive (edited version body now))
    (advances : ∀ version target now, motive version → motive (advanced version target now))
    (reach : Reaches services guard start pool) :
    (∀ row ∈ pool.world.versions.rows, motive row) ∧
      ∀ tag versionId version, pool.Saw tag ⟨.getVersion versionId, .ok (some version)⟩ →
        motive version := by
  have base : (∀ row ∈ (Pool.initial start : StudioPool).world.versions.rows, motive row) ∧
      ∀ tag versionId version, (Pool.initial start : StudioPool).Saw tag
        ⟨.getVersion versionId, .ok (some version)⟩ → motive version :=
    ⟨initial, by rintro _ _ _ ⟨_, ⟨⟩, -⟩⟩
  refine Pool.invariant_of_reaches base ?_ ?_ reach
  · intro pool tag _ ih _
    simpa only [Pool.saw_spawned, Pool.spawned_world] using ih
  · intro pool index thread op rest input reach ih _ selected head
    obtain ⟨stored, read⟩ := ih
    constructor
    · intro row present
      by_cases saves : ∃ version, op = .saveVersion version
      · obtain ⟨version, rfl⟩ := saves
        rcases Table.mem_rows_upsert present with rfl | ⟨-, old⟩
        · have member := List.mem_of_getElem? selected
          have cause := saveCause_of_next reach member (Thread.next_eq_some.mpr ⟨rest, head⟩)
          have saw : ∀ event ∈ thread.past, pool.Saw thread.tag event :=
            fun event seen => ⟨thread, member, rfl, seen⟩
          obtain ⟨tag, past, _⟩ := thread
          cases cause with
          | draft built => exact drafted _ _ _ _ _ built
          | @edit versionId _ _ _ version =>
              exact edits _ _ _ (read _ versionId version (saw _ (by simp)))
          | @review _ versionId _ _ _ version =>
              exact advances _ _ _ (read _ versionId version (saw _ (by simp)))
        · exact stored row old
      · rw [Pool.performed_world, exec_versions (not_exists.mp saves)] at present
        exact stored row present
    · intro tag versionId version seen
      rcases (Pool.saw_performed selected).mp seen with old | ⟨-, same⟩
      · exact read tag versionId version old
      · obtain ⟨-, found⟩ := getVersion_of_event same
        exact stored version (Table.mem_rows_of_lookup (World.getVersion_eq_some.mp found).1)

/-- Every stored row is numbered. -/
theorem numbered_of_reaches (initial : ∀ row ∈ start.versions.rows, Numbered row)
    (reach : Reaches services guard start pool) :
    ∀ row ∈ pool.world.versions.rows, Numbered row :=
  (version_of_reaches initial (fun _ _ _ _ _ built => built.numbered) (fun _ _ _ named => named)
    (fun _ _ _ named => named) reach).1

end Reachable

/-! ## A sample experiment -/

namespace Sample

/-- Services which accept the sample request. -/
def services : Services where
  parseUrl := fun text => some ⟨text⟩
  parseDate := fun _ => some 19737
  generatorConfig := fun _ config => .ok config
  generate := fun generatorId seed config => .ok
    { testSet := ""
      provenance :=
        { generatorId
          generatorVersion := "1.0.0"
          seed
          config
          sha256 := "9f86d081884c7d659a2feaa0c55ad015a3bf4f1b2b0b822cd15d6c15b0f00a08" } }

/-- A request for a new version of a VPN experiment. -/
def body : CreateExperimentVersionRequest where
  experimentId := "ZC-VPN-EXP-001"
  title := "Schema canonicalisation"
  description := "Pre-authentication request validation"
  relatedCves :=
    [{ cveId := "CVE-2024-21762"
       domain := "VPN"
       cisaKev := true
       trustBoundary := "internet to appliance"
       rootCause := "input_validation_failure"
       vendorMitigation := "upgrade"
       mitigationGap := "unpatched appliances"
       sourceUrls := ["https://nvd.nist.gov/vuln/detail/CVE-2024-21762"]
       retrievedDate := "2024-01-15" }]
  domainPackId := "vpn"
  templateId := "vpn_schema_canonicalisation"
  templateVersion := "1.0.0"
  seed := 7
  failurePattern := "pre_auth_request_schema_validation"
  rootCause := "input_validation_failure"
  vendorMitigation := "upgrade"
  mitigationGap := "unpatched appliances"
  researchQuestion := "Does canonicalisation block malformed requests?"
  hypothesis := "It does"

def researcher : User where
  userId := "u1"
  username := "researcher"
  role := .researcher

def reviewer : User where
  userId := "u2"
  username := "reviewer"
  role := .reviewer

/-- The identifier of a version of the sample experiment. -/
def versionId (number : ℕ) : String :=
  versionIdOf "ZC-VPN-EXP-001" number

/-- A number of operations of one request while the clock stands still. -/
def steps {Tag : Type} (index count : ℕ) (now : DateTime) : List (Move Tag Input) :=
  List.replicate count (.advance index { now })

/-- Start a request and let it finish undisturbed. -/
def serveAlone {Tag : Type} (index count : ℕ) (now : DateTime) (request : Tag) :
    List (Move Tag Input) :=
  .spawn request :: steps index count now

/-- Create a version and take it through its review up to an approval. -/
def approval : List StudioMove :=
  serveAlone 0 5 1 (StudioRequest.create body none researcher) ++
    serveAlone 1 5 2 (StudioRequest.review .submitReview (versionId 1) none none researcher) ++
    serveAlone 2 5 3 (StudioRequest.review .startReview (versionId 1) none none reviewer) ++
    serveAlone 3 6 4 (StudioRequest.review .approve (versionId 1) none none reviewer)

end Sample

end ZeroShield.Studio
