import ZeroShield.Platform.World

/-!
# Users and sessions

The tables of users and sessions, and the operations of their repository.  Each operation is one
transaction which reads the clock itself.
-/

namespace ZeroShield.Auth

open Foundation Models Platform

/-- What routes learn about a user. -/
structure User where
  userId : String
  username : String
  role : Role
  active : Bool
  createdAt : DateTime
  updatedAt : DateTime
  deriving DecidableEq

/-- A stored user. -/
structure UserWithCredentials extends User where
  passwordHash : String
  failedLoginAttempts : ℕ := 0
  lockedUntil : Option DateTime := none
  deriving DecidableEq

/-- A stored session: its identifier is the digest of the token, never the token itself. -/
structure SessionRecord where
  sessionId : String
  userId : String
  createdAt : DateTime
  expiresAt : DateTime
  lastUsedAt : DateTime
  ipAddress : Option String
  userAgent : Option String
  deriving DecidableEq

/-- The key of the users. -/
def UserWithCredentials.key (row : UserWithCredentials) : String := row.userId

/-- The stored users and sessions and the audit trail. -/
structure AuthStore where
  users : Table UserWithCredentials.key
  /-- Usernames are unique. -/
  usernames : (users.rows.map fun row => row.username).Nodup
  sessions : Table SessionRecord.sessionId := .empty
  audit : List AuditEvent := []

namespace AuthStore

def getUserByUsername (store : AuthStore) (username : String) : Option UserWithCredentials :=
  store.users.rows.find? fun row => row.username = username

def getUser (store : AuthStore) (userId : String) : Option User :=
  (store.users.lookup userId).map (·.toUser)

/-- Update a user's row, if there is one. -/
def modifyUser (store : AuthStore) (userId : String)
    (f : UserWithCredentials → UserWithCredentials)
    (kept : ∀ row, (f row).userId = row.userId ∧ (f row).username = row.username) : AuthStore :=
  { store with
    users := store.users.modify userId f fun row => (kept row).1
    usernames := by
      have same : (fun row : UserWithCredentials => row.username) ∘
          (fun row => if row.key = userId then f row else row) = fun row => row.username := by
        funext row
        rw [Function.comp_apply, apply_ite fun row : UserWithCredentials => row.username,
          (kept row).2, ite_self]
      change ((store.users.rows.map _).map _).Nodup
      rw [List.map_map, same]
      exact store.usernames }

theorem lookup_modifyUser {store : AuthStore} {userId : String}
    {f : UserWithCredentials → UserWithCredentials}
    (kept : ∀ row, (f row).userId = row.userId ∧ (f row).username = row.username) (other : String) :
    (store.modifyUser userId f kept).users.lookup other =
      (store.users.lookup other).map fun row => if other = userId then f row else row :=
  Table.lookup_modify (fun row => (kept row).1) other

/-- Update role and active flag where they are given. -/
def updateUser (store : AuthStore) (userId : String) (role : Option Role) (active : Option Bool)
    (now : DateTime) : Option User × AuthStore :=
  let later := store.modifyUser userId
    (fun row =>
      { row with
        role := role.getD row.role
        active := active.getD row.active
        updatedAt := now })
    fun _ => ⟨rfl, rfl⟩
  (later.getUser userId, later)

def recordLoginSuccess (store : AuthStore) (userId : String) (now : DateTime) : AuthStore :=
  store.modifyUser userId
    (fun row => { row with failedLoginAttempts := 0, lockedUntil := none, updatedAt := now })
    fun _ => ⟨rfl, rfl⟩

def recordLoginFailure (store : AuthStore) (userId : String) (lockUntil : Option DateTime)
    (now : DateTime) : AuthStore :=
  store.modifyUser userId
    (fun row =>
      { row with
        failedLoginAttempts := row.failedLoginAttempts + 1
        lockedUntil := lockUntil.or row.lockedUntil
        updatedAt := now })
    fun _ => ⟨rfl, rfl⟩

/-- Insert a session, unless its identifier is taken. -/
def createSession (store : AuthStore) (session : SessionRecord) :
    Option SessionRecord × AuthStore :=
  if (store.sessions.lookup session.sessionId).isSome then (none, store)
  else (some session, { store with sessions := store.sessions.upsert session })

def getSessionWithUser (store : AuthStore) (sessionId : String) : Option (SessionRecord × User) :=
  match store.sessions.lookup sessionId with
  | none => none
  | some session =>
      match store.getUser session.userId with
      | none => none
      | some user => some (session, user)

def touchSession (store : AuthStore) (sessionId : String) (now : DateTime) : AuthStore :=
  { store with
    sessions := store.sessions.modify sessionId (fun row => { row with lastUsedAt := now })
      fun _ => rfl }

def deleteSession (store : AuthStore) (sessionId : String) : AuthStore :=
  { store with sessions := store.sessions.restrict fun row => row.sessionId ≠ sessionId }

/-- Delete the sessions which have expired before a point in time. -/
def deleteExpiredSessions (store : AuthStore) (cutoff : DateTime) : AuthStore :=
  { store with sessions := store.sessions.restrict fun row => ¬ row.expiresAt < cutoff }

end AuthStore

/-- The operations of the authentication service. -/
inductive AuthOp
  | getUserByUsername (username : String)
  | getUser (userId : String)
  | updateUser (userId : String) (role : Option Role) (active : Option Bool)
  | recordLoginSuccess (userId : String)
  | recordLoginFailure (userId : String) (lockUntil : Option DateTime)
  | createSession (sessionId userId : String) (expiresAt : DateTime)
      (ipAddress userAgent : Option String)
  | getSessionWithUser (sessionId : String)
  | touchSession (sessionId : String)
  | deleteSession (sessionId : String)
  | deleteExpiredSessions
  | recordAudit (event : AuditEvent)
  | utcNow
  | tokenUrlsafe

/-- What each operation returns. -/
@[reducible]
def AuthOp.Result : AuthOp → Type
  | getUserByUsername _ => Option UserWithCredentials
  | getUser _ => Option User
  | updateUser _ _ _ => Option User
  | createSession _ _ _ _ _ => Option SessionRecord
  | getSessionWithUser _ => Option (SessionRecord × User)
  | utcNow => DateTime
  | tokenUrlsafe => String
  | _ => Unit

/-- The authentication repository as an interface. -/
abbrev authRepository : Interface where
  Op := AuthOp
  Result := AuthOp.Result

/-- What an operation takes from outside the store. -/
structure AuthInput where
  /-- The reading of the clock. -/
  now : DateTime
  /-- The random token, if one is drawn. -/
  token : String := ""

/-- The meaning of the operations. -/
def exec : Semantics authRepository AuthInput AuthStore
  | _, .getUserByUsername username, store => (store.getUserByUsername username, store)
  | _, .getUser userId, store => (store.getUser userId, store)
  | input, .updateUser userId role active, store => store.updateUser userId role active input.now
  | input, .recordLoginSuccess userId, store => ((), store.recordLoginSuccess userId input.now)
  | input, .recordLoginFailure userId lockUntil, store =>
      ((), store.recordLoginFailure userId lockUntil input.now)
  | input, .createSession sessionId userId expiresAt ipAddress userAgent, store =>
      store.createSession
        { sessionId, userId, createdAt := input.now, expiresAt, lastUsedAt := input.now, ipAddress,
          userAgent }
  | _, .getSessionWithUser sessionId, store => (store.getSessionWithUser sessionId, store)
  | input, .touchSession sessionId, store => ((), store.touchSession sessionId input.now)
  | _, .deleteSession sessionId, store => ((), store.deleteSession sessionId)
  | input, .deleteExpiredSessions, store => ((), store.deleteExpiredSessions input.now)
  | _, .recordAudit event, store => ((), { store with audit := store.audit ++ [event] })
  | input, .utcNow, store => (input.now, store)
  | input, .tokenUrlsafe, store => (input.token, store)

/-- Perform one operation and return its result. -/
abbrev call (op : AuthOp) : Program authRepository op.Result :=
  Program.call (I := authRepository) op

end ZeroShield.Auth
