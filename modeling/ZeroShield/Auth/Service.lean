import ZeroShield.Auth.Store

/-!
# The authentication service

Logging in and out, the user of a session and the administration of users, as programs on the
repository.
-/

namespace ZeroShield.Auth

open Foundation Models Platform StringEnum

/-- Twelve hours. -/
def sessionTtl : ℤ := 43200000000

def maxFailedLoginAttempts : ℕ := 5

/-- Fifteen minutes. -/
def lockoutDuration : ℤ := 900000000

/-- The hash functions which the service uses. -/
structure Hashing where
  /-- The SHA-256 digest of a text, in hexadecimal digits. -/
  sha256Hex : String → String
  /-- Whether a password belongs to an Argon2id hash. -/
  verifyPassword : String → String → Bool
  /-- The hash which is compared when the user is unknown. -/
  dummyHash : String

structure LoginRequest where
  username : String
  password : String
  ipAddress : Option String := none
  userAgent : Option String := none
  requestId : Option String := none

structure LoginResult where
  user : User
  rawSessionToken : String
  session : SessionRecord

/-- Why a login was refused. -/
inductive LoginError
  | accountLocked (lockedUntil : DateTime)
  | invalidCredentials
  | accountInactive
  /-- The database refused a session whose identifier is taken. -/
  | sessionNotCreated

/-! ## Logging in -/

/-- Record a failed or successful login of a known user. -/
def auditLogin (user : User) (action : String) (requestId : Option String)
    (metadata : List (String × Json)) : Program authRepository Unit :=
  call (.recordAudit
    { actorUserId := user.userId
      actorUsername := user.username
      actorRole := user.role
      action
      targetType := "user"
      targetId := user.userId
      requestId
      metadata })

/-- The time until which a candidate is locked, if it is; the clock is only read for a lock. -/
def lockOf : Option UserWithCredentials → Program authRepository (Option DateTime)
  | some ⟨_, _, _, some lockedUntil⟩ => do
      let now ← call .utcNow
      return if lockedUntil > now then some lockedUntil else none
  | _ => return none

/-- The time until which a count of failures locks the account. -/
def lockUntilFor (newCount : ℕ) : Program authRepository (Option DateTime) :=
  if newCount ≥ maxFailedLoginAttempts then do
    let now ← call .utcNow
    return some (now + lockoutDuration)
  else return none

/-- Record a failed attempt; whether it locks the account depends on the count read before. -/
def recordFailedAttempt (userId : String) (currentFailures : ℕ) (requestId : Option String) :
    Program authRepository Unit := do
  let newCount := currentFailures + 1
  let lockUntil ← lockUntilFor newCount
  call (.recordLoginFailure userId lockUntil)
  let user ← call (.getUser userId)
  let event (action : String) (metadata : List (String × Json)) : AuditEvent :=
    { actorUserId := userId
      actorUsername := user.map (·.username)
      actorRole := user.map (·.role)
      action
      targetType := "user"
      targetId := userId
      requestId
      metadata }
  call (.recordAudit
    (event "auth.login_failure" [("reason", .str "bad_password"), ("attempt", .int newCount)]))
  match lockUntil with
  | some lockedUntil =>
      call (.recordAudit
        (event "auth.account_locked" [("locked_until", .str lockedUntil.isoformat)]))
  | none => return ()

section Service

variable (hashing : Hashing)

/-- Open a session for a user whose password was right. -/
def openSession (request : LoginRequest) (candidate : User) :
    Program authRepository (Except LoginError LoginResult) := do
  call (.recordLoginSuccess candidate.userId)
  call .deleteExpiredSessions
  let rawToken ← call .tokenUrlsafe
  let now ← call .utcNow
  match ← call (.createSession (hashing.sha256Hex rawToken) candidate.userId (now + sessionTtl)
      request.ipAddress request.userAgent) with
  | none => return .error .sessionNotCreated
  | some session =>
      auditLogin candidate "auth.login_success" request.requestId
        (match request.ipAddress with
        | none | some "" => []
        | some address => [("ip_address", .str address)])
      return .ok { user := candidate, rawSessionToken := rawToken, session }

/-- Refuse or accept a login, knowing the user and the lock which is in force. -/
def decideLogin (request : LoginRequest) (found : Option UserWithCredentials)
    (locked : Option DateTime) : Program authRepository (Except LoginError LoginResult) :=
  -- An unknown user costs a comparison too.
  let passwordHash := (found.map (·.passwordHash)).getD hashing.dummyHash
  let passwordOk := hashing.verifyPassword request.password passwordHash
  match found, locked with
  | some candidate, some lockedUntil => do
      auditLogin candidate.toUser "auth.login_failure" request.requestId
        [("reason", .str "account_locked")]
      return .error (.accountLocked lockedUntil)
  | none, _ => do
      call (.recordAudit
        { actorUserId := none
          actorUsername := request.username
          actorRole := none
          action := "auth.login_failure"
          targetType := "user"
          targetId := none
          requestId := request.requestId
          metadata := [("reason", .str "unknown_username")] })
      return .error .invalidCredentials
  | some candidate, none =>
      if passwordOk = false then do
        recordFailedAttempt candidate.userId candidate.failedLoginAttempts request.requestId
        return .error .invalidCredentials
      else if candidate.active = false then do
        auditLogin candidate.toUser "auth.login_failure" request.requestId
          [("reason", .str "account_inactive")]
        return .error .accountInactive
      else openSession hashing request candidate.toUser

/-- Log a user in. -/
def login (request : LoginRequest) : Program authRepository (Except LoginError LoginResult) := do
  let found ← call (.getUserByUsername request.username)
  let locked ← lockOf found
  decideLogin hashing request found locked

/-! ## Sessions and users -/

def logout (rawSessionToken : String) (actor : Option User) (requestId : Option String) :
    Program authRepository Unit := do
  call (.deleteSession (hashing.sha256Hex rawSessionToken))
  match actor with
  | some user => auditLogin user "auth.logout" requestId []
  | none => return ()

/-- Use a session which was found: an expired one is deleted, a valid one is touched. -/
def useSession (session : SessionRecord) (user : User) :
    Program authRepository (Option User) := do
  let now ← call .utcNow
  if session.expiresAt ≤ now then do
    call (.deleteSession session.sessionId)
    return none
  else if user.active = false then return none
  else do
    call (.touchSession session.sessionId)
    return some user

def getUserForSession (rawSessionToken : String) : Program authRepository (Option User) := do
  match ← call (.getSessionWithUser (hashing.sha256Hex rawSessionToken)) with
  | none => return none
  | some (session, user) => useSession session user

end Service

/-- Record what an administrator changed about a user. -/
def auditUser (actor : User) (action userId : String) (requestId : Option String)
    (previousState newState : Option (List (String × Json))) : Program authRepository Unit :=
  call (.recordAudit
    { actorUserId := actor.userId
      actorUsername := actor.username
      actorRole := actor.role
      action
      targetType := "user"
      targetId := userId
      requestId
      metadata := []
      previousState
      newState })

def updateUserRole (userId : String) (role : Role) (actor : User) (requestId : Option String) :
    Program authRepository (Option User) := do
  let before ← call (.getUser userId)
  match ← call (.updateUser userId (some role) none) with
  | none => return none
  | some updated => do
      auditUser actor "user.role_changed" userId requestId
        (before.map fun user => [("role", .str (value user.role))])
        (some [("role", .str (value updated.role))])
      return some updated

def setUserActive (userId : String) (active : Bool) (actor : User) (requestId : Option String) :
    Program authRepository (Option User) := do
  match ← call (.updateUser userId none (some active)) with
  | none => return none
  | some updated => do
      auditUser actor (if active then "user.reactivated" else "user.deactivated") userId requestId
        none none
      return some updated

end ZeroShield.Auth
