import ZeroShield.Intelligence.Store

/-!
# Submitting a synchronisation

A queued synchronisation is saved, its message is published, and the submission is audited.
-/

namespace ZeroShield.Intelligence

open Foundation Models StringEnum

/-- The sources which have a connector, by their names. -/
def knownSources : List VulnerabilitySourceName :=
  [.cisaKev, .epss, .githubAdvisory, .nvd]

/-- A request for a synchronisation. -/
structure SyncRequest where
  source : String
  since : Option String
  requestId : Option String
  user : Platform.User

/-- The response of the route. -/
inductive SyncResponse
  | submitted (syncId source status : String)
  | refused (status : ℕ) (error detail : String)

/-- Read the time since which changes are fetched, if it is given. -/
def readSince (fromisoformat : String → Option Timestamp) :
    Option String → Option (Option Timestamp)
  | none => some none
  | some text => (fromisoformat text).map some

/-- Save a queued synchronisation, publish its message and record who submitted it. -/
def queueSync (request : SyncRequest) (source : VulnerabilitySourceName)
    (since : Option Timestamp) : Program repository SyncResponse := do
  let hex : String ← call .uuid4
  let syncId := "SYNC-" ++ hex
  let now ← call .utcNow
  call (.saveSync { syncId, source, status := .queued, since, startedAt := now })
  call (.publish { syncId, source, since })
  call (.recordAudit
    { actorUserId := some request.user.userId
      actorUsername := some request.user.username
      actorRole := some request.user.role
      action := "intelligence.sync_initiated"
      targetType := "intelligence_sync"
      targetId := some syncId
      requestId := request.requestId
      metadata := [("source", .str (value source))] })
  return .submitted syncId (value source) (value IntelligenceSyncStatus.queued)

/-- The refusal of a source which does not exist. -/
def unknownSource (source : String) : SyncResponse :=
  let names := String.intercalate ", " (knownSources.map fun known => s!"'{value known}'")
  .refused 422 "unknown_source" s!"'{source}' is not a known source; known sources: [{names}]"

/-- The refusal of a source without a connector. -/
def unregisteredSource (source : VulnerabilitySourceName) : SyncResponse :=
  .refused 422 "unregistered_source"
    (s!"'{value source}' has no registered connector " ++
      "(e.g. manual_import is import-only, never synced)")

def submitSync (fromisoformat : String → Option Timestamp) (request : SyncRequest) :
    Program repository SyncResponse :=
  if request.user.role ∈ [Role.researcher, .admin] then
    match (parse request.source : Option VulnerabilitySourceName) with
    | none => .done (unknownSource request.source)
    | some source =>
        if source ∈ knownSources then
          match readSince fromisoformat request.since with
          | none => .done (.refused 422 "invalid_since" "since must be ISO-8601")
          | some since => queueSync request source since
        else .done (unregisteredSource source)
  else .done (.refused 403 "forbidden" (roleRefusal [.researcher, .admin] request.user.role))

end ZeroShield.Intelligence
