import ZeroShield.Auth.Service

/-!
# Grants

What matters about the stored sessions at a time are the grants: which session identifier stands
for which user, as long as it has not expired.  Housekeeping never changes a grant, logging in adds
one and logging out removes one.
-/

namespace ZeroShield.Auth

open Foundation Models Platform Program

/-! ## Grants and accounts -/

/-- The user and the expiry of a session which has not expired at a time. -/
def grantAt (now : DateTime) (store : AuthStore) (sessionId : String) :
    Option (String × DateTime) :=
  (((store.sessions.lookup sessionId).map fun row => (row.userId, row.expiresAt))).filter
    fun grant => now < grant.2

/-- The role and the active flag of a user. -/
def account (store : AuthStore) (userId : String) : Option (Role × Bool) :=
  (store.users.lookup userId).map fun row => (row.role, row.active)

/-- The user for whom a session stands. -/
def answerAt (now : DateTime) (store : AuthStore) (sessionId : String) : Option User :=
  (grantAt now store sessionId).bind fun grant =>
    (store.getUser grant.1).filter fun user => user.active

section Effects

variable {now : DateTime} {store : AuthStore} {sessionId : String}

/-- Updates which keep role and active flag keep the accounts. -/
theorem account_modifyUser {userId : String} {f : UserWithCredentials → UserWithCredentials}
    (kept : ∀ row, (f row).userId = row.userId ∧ (f row).username = row.username)
    (same : ∀ row, (f row).role = row.role ∧ (f row).active = row.active) (other : String) :
    account (store.modifyUser userId f kept) other = account store other := by
  rw [account, account, AuthStore.lookup_modifyUser, Option.map_map]
  congr 1
  funext row
  by_cases hit : other = userId
  · simp [hit, same row]
  · simp [hit]

/-- What an update of role and active flag does to the accounts. -/
theorem account_updateUser {userId : String} {role : Option Role} {active : Option Bool}
    {time : DateTime} (other : String) :
    account (store.updateUser userId role active time).2 other =
      (account store other).map fun entry =>
        if other = userId then (role.getD entry.1, active.getD entry.2) else entry := by
  rw [account, account, AuthStore.updateUser, AuthStore.lookup_modifyUser, Option.map_map,
    Option.map_map]
  congr 1
  funext row
  by_cases hit : other = userId <;> simp [hit]

theorem grantAt_touchSession {time : DateTime} {touched : String} :
    grantAt now (store.touchSession touched time) sessionId = grantAt now store sessionId := by
  rw [grantAt, grantAt, AuthStore.touchSession, Table.lookup_modify, Option.map_map]
  congr 2
  funext row
  by_cases hit : sessionId = touched <;> simp [hit]

/-- Deleting sessions keeps the grants of those which remain or have expired. -/
theorem grantAt_restrict {sessions : Table SessionRecord.sessionId} {keep : SessionRecord → Bool}
    (same : store.sessions = sessions.restrict keep)
    (gone : ∀ row, sessions.lookup sessionId = some row → keep row = false → row.expiresAt ≤ now) :
    grantAt now store sessionId =
      (((sessions.lookup sessionId).map fun row => (row.userId, row.expiresAt))).filter
        fun grant => now < grant.2 := by
  rw [grantAt, same, Table.lookup_restrict]
  cases found : sessions.lookup sessionId with
  | none => rfl
  | some row =>
      cases kept : keep row with
      | true => simp [Option.filter, kept]
      | false =>
          have expired := gone row found kept
          simp [Option.filter, kept, not_lt.mpr expired]

theorem grantAt_deleteExpiredSessions {cutoff : DateTime} (past : cutoff ≤ now) :
    grantAt now (store.deleteExpiredSessions cutoff) sessionId = grantAt now store sessionId := by
  refine grantAt_restrict rfl fun row _ gone => ?_
  have expired : row.expiresAt < cutoff := by simpa using gone
  exact (expired.trans_le past).le

theorem grantAt_deleteSession {deleted : String} :
    grantAt now (store.deleteSession deleted) sessionId =
      if sessionId = deleted then none else grantAt now store sessionId := by
  rw [grantAt, AuthStore.deleteSession, Table.lookup_restrict]
  cases found : store.sessions.lookup sessionId with
  | none => simp [grantAt, found]
  | some row =>
      have same : row.sessionId = sessionId := Table.key_of_lookup found
      by_cases hit : sessionId = deleted
      · simp [Option.filter, same, hit]
      · simp [grantAt, found, Option.filter, same, hit]

/-- Deleting a session which has expired is housekeeping. -/
theorem grantAt_deleteSession_of_expired {row : SessionRecord} {deleted : String}
    (found : store.sessions.lookup deleted = some row) (expired : row.expiresAt ≤ now) :
    grantAt now (store.deleteSession deleted) sessionId = grantAt now store sessionId := by
  rw [grantAt_deleteSession]
  split
  case isTrue hit =>
    subst hit
    simp [grantAt, found, Option.filter, not_lt.mpr expired]
  case isFalse => rfl

end Effects

/-! ## Quiet programs -/

/-- Operations which change neither the grants nor the accounts and do not look at sessions. -/
def Quiet : AuthOp → Prop
  | .updateUser _ _ _ | .createSession _ _ _ _ _ | .deleteSession _ => False
  | .getSessionWithUser _ | .touchSession _ => False
  | _ => True

/-- The same grants at a time and the same accounts. -/
structure SameRights (now : DateTime) (store later : AuthStore) : Prop where
  grants : ∀ sessionId, grantAt now later sessionId = grantAt now store sessionId
  accounts : ∀ userId, account later userId = account store userId

theorem SameRights.refl {now : DateTime} {store : AuthStore} : SameRights now store store :=
  ⟨fun _ => rfl, fun _ => rfl⟩

theorem SameRights.trans {now : DateTime} {store middle later : AuthStore}
    (first : SameRights now store middle) (second : SameRights now middle later) :
    SameRights now store later :=
  ⟨fun sessionId => (second.grants sessionId).trans (first.grants sessionId),
    fun userId => (second.accounts userId).trans (first.accounts userId)⟩

theorem sameRights_of_quiet {now : DateTime} {input : AuthInput} {store : AuthStore} (op : AuthOp)
    (past : input.now ≤ now) (quiet : Quiet op) : SameRights now store (exec input op store).2 := by
  cases op with
  | updateUser => exact quiet.elim
  | createSession => exact quiet.elim
  | deleteSession => exact quiet.elim
  | getSessionWithUser => exact quiet.elim
  | touchSession => exact quiet.elim
  | recordLoginSuccess userId =>
      refine ⟨fun _ => rfl, fun other => account_modifyUser ?_ ?_ other⟩
      · exact fun _ => ⟨rfl, rfl⟩
      · exact fun _ => ⟨rfl, rfl⟩
  | recordLoginFailure userId lockUntil =>
      refine ⟨fun _ => rfl, fun other => account_modifyUser ?_ ?_ other⟩
      · exact fun _ => ⟨rfl, rfl⟩
      · exact fun _ => ⟨rfl, rfl⟩
  | deleteExpiredSessions =>
      exact ⟨fun _ => grantAt_deleteExpiredSessions past, fun _ => rfl⟩
  | _ => exact ⟨fun _ => rfl, fun _ => rfl⟩

/-- Nothing is promised about results. -/
abbrev Unpromised (op : AuthOp) (_ : op.Result) : Prop := True

/-- A program of quiet operations. -/
abbrev QuietProgram {α : Type} (program : Program authRepository α) : Prop :=
  program.Performs Quiet Unpromised

theorem QuietProgram.sameRights {α : Type} {program : Program authRepository α}
    (quiet : QuietProgram program) {now : DateTime} {input : AuthInput} (past : input.now ≤ now)
    {position : ℕ} {store : AuthStore} :
    SameRights now store (program.run exec (fun _ => input) position store).2.2 :=
  quiet.run_preserves (fun _ _ _ => trivial)
    (fun _ _ _ allowed same => same.trans (sameRights_of_quiet _ past allowed)) .refl

theorem quiet_auditLogin {user : User} {action : String} {requestId : Option String}
    {metadata : List (String × Json)} : QuietProgram (auditLogin user action requestId metadata) :=
  Performs.of_call trivial

theorem quiet_lockOf (found : Option UserWithCredentials) : QuietProgram (lockOf found) := by
  unfold lockOf
  split
  case h_1 => exact Performs.bind (Performs.of_call trivial) fun _ => trivial
  case h_2 => trivial

theorem quiet_lockUntilFor (newCount : ℕ) : QuietProgram (lockUntilFor newCount) := by
  unfold lockUntilFor
  split
  case isTrue => exact Performs.bind (Performs.of_call trivial) fun _ => trivial
  case isFalse => trivial

theorem quiet_recordFailedAttempt {userId : String} {currentFailures : ℕ}
    {requestId : Option String} :
    QuietProgram (recordFailedAttempt userId currentFailures requestId) := by
  refine Performs.bind (quiet_lockUntilFor _) fun lockUntil => ?_
  refine Performs.bind (Performs.of_call trivial) fun _ => ?_
  refine Performs.bind (Performs.of_call trivial) fun user => ?_
  refine Performs.bind (Performs.of_call trivial) fun _ => ?_
  cases lockUntil with
  | none => trivial
  | some lockedUntil => exact Performs.of_call trivial

/-! ## What a login does -/

section Service

variable {hashing : Hashing}

/-- A login which succeeds adds a grant for its token; one which fails changes nothing. -/
def LoginEffect (hashing : Hashing) (input : AuthInput) (now : DateTime) (store later : AuthStore) :
    Except LoginError LoginResult → Prop
  | .error _ => SameRights now store later
  | .ok result =>
      result.rawSessionToken = input.token ∧
        (∀ sessionId, grantAt now later sessionId =
          if sessionId = hashing.sha256Hex input.token then
            (some (result.user.userId, input.now + sessionTtl)).filter fun grant => now < grant.2
          else grantAt now store sessionId) ∧
        ∀ userId, account later userId = account store userId

theorem openSession_effect {request : LoginRequest} {candidate : User} {input : AuthInput}
    {now : DateTime} (past : input.now ≤ now) (position : ℕ) (store : AuthStore) :
    let outcome := (openSession hashing request candidate).run exec (fun _ => input) position store
    LoginEffect hashing input now store outcome.2.2 outcome.1 := by
  have before : SameRights now store
      ((store.recordLoginSuccess candidate.userId input.now).deleteExpiredSessions input.now) :=
    SameRights.trans
      (sameRights_of_quiet (.recordLoginSuccess candidate.userId) past trivial)
      (sameRights_of_quiet .deleteExpiredSessions past trivial)
  rw [openSession, run_call_bind, run_call_bind, run_call_bind, run_call_bind, run_call_bind]
  simp only [exec]
  generalize (store.recordLoginSuccess candidate.userId input.now).deleteExpiredSessions
    input.now = base at before
  unfold AuthStore.createSession
  by_cases taken : (base.sessions.lookup (hashing.sha256Hex input.token)).isSome
  · simp only [taken, if_true]
    exact before
  · simp only [taken, Bool.false_eq_true, if_false]
    refine ⟨rfl, fun sessionId => ?_, before.accounts⟩
    rw [← before.grants sessionId]
    by_cases same : sessionId = hashing.sha256Hex input.token
    · subst same
      rw [if_pos rfl]
      exact congrArg (fun row => (Option.map _ row).filter _) (Table.lookup_upsert base.sessions _)
    · rw [if_neg same]
      exact congrArg (fun row => (Option.map _ row).filter _)
        (Table.lookup_upsert_ne (Ne.symm same))

/-- The prefix of a program leaves the same rights. -/
theorem LoginEffect.after {input : AuthInput} {now : DateTime} {store middle later : AuthStore}
    {result : Except LoginError LoginResult}
    (effect : LoginEffect hashing input now middle later result)
    (same : SameRights now store middle) :
    LoginEffect hashing input now store later result := by
  cases result with
  | error error => exact same.trans effect
  | ok result =>
      refine ⟨effect.1, fun sessionId => ?_, fun userId => ?_⟩
      · rw [effect.2.1, same.grants]
      · rw [effect.2.2, same.accounts]

/-- A quiet program followed by a refusal. -/
theorem LoginEffect.of_refusal {input : AuthInput} {now : DateTime} (past : input.now ≤ now)
    {program : Program authRepository Unit} (quiet : QuietProgram program) (error : LoginError)
    (position : ℕ) (store : AuthStore) :
    let outcome := (program >>= fun _ => pure (Except.error error)).run exec (fun _ => input)
      position store
    LoginEffect hashing input now store outcome.2.2 outcome.1 := by
  rw [run_bind]
  exact quiet.sameRights past

theorem decideLogin_effect {request : LoginRequest} {input : AuthInput} {now : DateTime}
    (past : input.now ≤ now) (found : Option UserWithCredentials) (locked : Option DateTime)
    (position : ℕ) (store : AuthStore) :
    let outcome := (decideLogin hashing request found locked).run exec (fun _ => input)
      position store
    LoginEffect hashing input now store outcome.2.2 outcome.1 := by
  cases found with
  | none => exact LoginEffect.of_refusal past (Performs.of_call trivial) _ position store
  | some candidate =>
      cases locked with
      | some lockedUntil => exact LoginEffect.of_refusal past quiet_auditLogin _ position store
      | none =>
          dsimp only [decideLogin]
          split
          case isTrue =>
            exact LoginEffect.of_refusal past quiet_recordFailedAttempt _ position store
          case isFalse =>
            split
            case isTrue => exact LoginEffect.of_refusal past quiet_auditLogin _ position store
            case isFalse => exact openSession_effect past position store

theorem login_effect {request : LoginRequest} {input : AuthInput} {now : DateTime}
    (past : input.now ≤ now) (position : ℕ) (store : AuthStore) :
    let outcome := (login hashing request).run exec (fun _ => input) position store
    LoginEffect hashing input now store outcome.2.2 outcome.1 := by
  rw [login, run_call_bind, run_bind]
  exact (decideLogin_effect past _ _ _ _).after ((quiet_lockOf _).sameRights past)

/-! ## What the user of a session is -/

/-- The same users and the same grants at a time, and no further sessions. -/
structure Housekept (now : DateTime) (store later : AuthStore) : Prop where
  users : later.users = store.users
  grants : ∀ sessionId, grantAt now later sessionId = grantAt now store sessionId
  kept : ∀ sessionId, (later.sessions.lookup sessionId).isSome →
    (store.sessions.lookup sessionId).isSome

theorem Housekept.refl {now : DateTime} {store : AuthStore} : Housekept now store store :=
  ⟨rfl, fun _ => rfl, fun _ present => present⟩

theorem Housekept.of_restrict {now : DateTime} {store : AuthStore} {keep : SessionRecord → Bool}
    (grants : ∀ sessionId, grantAt now { store with sessions := store.sessions.restrict keep }
      sessionId = grantAt now store sessionId) :
    Housekept now store { store with sessions := store.sessions.restrict keep } := by
  refine ⟨rfl, grants, fun sessionId present => ?_⟩
  rw [Table.lookup_restrict] at present
  cases found : store.sessions.lookup sessionId with
  | none => rw [found] at present; cases present
  | some row => rfl

/-- What is found for a session identifier decides who its user is. -/
theorem answerAt_eq {now : DateTime} {store : AuthStore} {sessionId : String} :
    answerAt now store sessionId =
      match store.getSessionWithUser sessionId with
      | none => none
      | some (session, user) =>
          if session.expiresAt ≤ now then none
          else if user.active = false then none else some user := by
  rw [answerAt, grantAt, AuthStore.getSessionWithUser]
  cases store.sessions.lookup sessionId with
  | none => rfl
  | some session =>
      cases known : store.getUser session.userId with
      | none => by_cases live : now < session.expiresAt <;> simp [Option.filter, live, known]
      | some user =>
          by_cases live : now < session.expiresAt
          · cases active : user.active <;> simp [Option.filter, live, known, active]
          · simp [Option.filter, live, known, not_lt.mp live]

theorem lookup_of_getSessionWithUser {store : AuthStore} {sessionId : String}
    {session : SessionRecord} {user : User}
    (found : store.getSessionWithUser sessionId = some (session, user)) :
    store.sessions.lookup session.sessionId = some session := by
  unfold AuthStore.getSessionWithUser at found
  cases stored : store.sessions.lookup sessionId with
  | none => simp [stored] at found
  | some row =>
      cases known : store.getUser row.userId with
      | none => simp [stored, known] at found
      | some other =>
          simp only [stored, known, Option.some.injEq, Prod.mk.injEq] at found
          obtain ⟨rfl, -⟩ := found
          rw [Table.key_of_lookup stored, stored]

theorem housekept_touchSession {now time : DateTime} {store : AuthStore} {touched : String} :
    Housekept now store (store.touchSession touched time) := by
  refine ⟨rfl, fun _ => grantAt_touchSession, fun sessionId present => ?_⟩
  rwa [AuthStore.touchSession, Table.lookup_modify, Option.isSome_map] at present

theorem useSession_run {session : SessionRecord} {user : User} {input : AuthInput} (position : ℕ)
    {store : AuthStore} (stored : store.sessions.lookup session.sessionId = some session) :
    let outcome := (useSession session user).run exec (fun _ => input) position store
    (outcome.1 = if session.expiresAt ≤ input.now then none
      else if user.active = false then none else some user) ∧
      ∀ now, input.now ≤ now → Housekept now store outcome.2.2 := by
  rw [useSession, run_call_bind]
  by_cases expired : session.expiresAt ≤ input.now
  · rw [if_pos expired, if_pos (show session.expiresAt ≤ (exec input .utcNow store).1 from expired)]
    refine ⟨rfl, fun now past => Housekept.of_restrict fun sessionId => ?_⟩
    exact grantAt_deleteSession_of_expired stored (expired.trans past)
  · rw [if_neg expired, if_neg
      (show ¬ session.expiresAt ≤ (exec input .utcNow store).1 from expired)]
    by_cases active : user.active = false
    · rw [if_pos active, if_pos active]
      exact ⟨rfl, fun _ _ => .refl⟩
    · rw [if_neg active, if_neg active]
      exact ⟨rfl, fun _ _ => housekept_touchSession⟩

/-- The user of a session is the one for whom its grant stands; looking is housekeeping. -/
theorem getUserForSession_run {token : String} {input : AuthInput} (position : ℕ)
    (store : AuthStore) :
    let outcome := (getUserForSession hashing token).run exec (fun _ => input) position store
    outcome.1 = answerAt input.now store (hashing.sha256Hex token) ∧
      ∀ now, input.now ≤ now → Housekept now store outcome.2.2 := by
  rw [getUserForSession, run_call_bind, answerAt_eq]
  simp only [exec]
  cases found : store.getSessionWithUser (hashing.sha256Hex token) with
  | none => exact ⟨rfl, fun _ _ => .refl⟩
  | some pair => exact useSession_run (position + 1) (lookup_of_getSessionWithUser found)

end Service

end ZeroShield.Auth
