import ZeroShield.Auth.Grants
import Mathlib.Data.List.Induction

/-!
# Sessions over whole runs

After any sequence of requests a token stands for a user exactly as long as it was issued less than
the lifetime of a session ago, has not been logged out since and its user is active.
-/

namespace ZeroShield.Auth

open Foundation Models Platform Program

/-- A request to the authentication service; a login comes with the token which would be drawn. -/
inductive AuthRequest
  | login (request : LoginRequest) (drawn : String)
  | logout (rawSessionToken : String) (actor : Option User) (requestId : Option String)
  | updateUserRole (userId : String) (role : Role) (actor : User) (requestId : Option String)
  | setUserActive (userId : String) (active : Bool) (actor : User) (requestId : Option String)
  | getUserForSession (rawSessionToken : String)
  | deleteExpiredSessions

inductive AuthResponse
  | loggedIn (result : Except LoginError LoginResult)
  | user (found : Option User)
  | done

/-- A request at a time. -/
structure Step where
  request : AuthRequest
  now : DateTime

def Step.drawn (step : Step) : Option String :=
  match step.request with
  | .login _ drawn => some drawn
  | _ => none

def Step.input (step : Step) : AuthInput where
  now := step.now
  token := step.drawn.getD ""

/-- A step which only looks at a session or deletes expired ones. -/
def Step.housekeeping (step : Step) : Bool :=
  match step.request with
  | .getUserForSession _ | .deleteExpiredSessions => true
  | _ => false

/-- A step with its response. -/
structure Served where
  step : Step
  response : AuthResponse

/-- A store with what was served so far, newest first. -/
structure Run where
  store : AuthStore
  history : List Served := []

section Service

variable (hashing : Hashing)

def serve : AuthRequest → Program authRepository AuthResponse
  | .login request _ => do return .loggedIn (← login hashing request)
  | .logout rawSessionToken actor requestId => do
      logout hashing rawSessionToken actor requestId
      return .done
  | .updateUserRole userId role actor requestId => do
      return .user (← updateUserRole userId role actor requestId)
  | .setUserActive userId active actor requestId => do
      return .user (← setUserActive userId active actor requestId)
  | .getUserForSession rawSessionToken => do
      return .user (← getUserForSession hashing rawSessionToken)
  | .deleteExpiredSessions => do
      call .deleteExpiredSessions
      return .done

def Run.serve (run : Run) (step : Step) : Run :=
  let outcome := (Auth.serve hashing step.request).run exec (fun _ => step.input) 0 run.store
  { store := outcome.2.2, history := ⟨step, outcome.1⟩ :: run.history }

/-- Serve all steps, one after the other. -/
def serveAll (start : AuthStore) (steps : List Step) : Run :=
  steps.foldl (Run.serve hashing) { store := start }

/-- What a token is answered at a time. -/
def answer (store : AuthStore) (token : String) (now : DateTime) : Option User :=
  ((getUserForSession hashing token).run exec (fun _ => { now }) 0 store).1

end Service

/-! ## What a history says -/

/-- The result of a successful login. -/
def Served.result (served : Served) : Option LoginResult :=
  match served.step.request, served.response with
  | .login _ _, .loggedIn (.ok result) => some result
  | _, _ => none

/-- The token with which a logout happened. -/
def Served.ended (served : Served) : Option String :=
  match served.step.request with
  | .logout rawSessionToken _ _ => some rawSessionToken
  | _ => none

theorem Served.ended_of_result {served : Served} {result : LoginResult}
    (issued : served.result = some result) : served.ended = none := by
  obtain ⟨⟨request, now⟩, response⟩ := served
  cases request with
  | login => rfl
  | _ => cases issued

/-- A token was issued to a user at a time, and no logout with it happened since. -/
def IssuedSince (history : List Served) (token userId : String) (issuedAt : DateTime) : Prop :=
  ∃ later served earlier result, history = later ++ served :: earlier ∧
    served.result = some result ∧ result.rawSessionToken = token ∧ result.user.userId = userId ∧
    served.step.now = issuedAt ∧ ∀ other ∈ later, other.ended ≠ some token

/-- What a served step does to the role and the active flag of a user. -/
def Served.account (served : Served) (userId : String) (before : Option (Role × Bool)) :
    Option (Role × Bool) :=
  match served.step.request with
  | .updateUserRole changed role _ _ =>
      before.map fun entry => if userId = changed then (role, entry.2) else entry
  | .setUserActive changed active _ _ =>
      before.map fun entry => if userId = changed then (entry.1, active) else entry
  | _ => before

/-- The role and the active flag of a user after a history. -/
def accountAfter (start : AuthStore) : List Served → String → Option (Role × Bool)
  | [], userId => account start userId
  | served :: earlier, userId => served.account userId (accountAfter start earlier userId)

/-- What a served step does to the user and the time for which a token was issued. -/
def Served.revise (served : Served) (token : String) (before : Option (String × DateTime)) :
    Option (String × DateTime) :=
  match served.result with
  | some result =>
      if result.rawSessionToken = token then some (result.user.userId, served.step.now) else before
  | none => if served.ended = some token then none else before

/-- The last issue of a token, unless it was logged out since. -/
def issuedFor : List Served → String → Option (String × DateTime)
  | [], _ => none
  | served :: earlier, token => served.revise token (issuedFor earlier token)

/-- The tokens which were issued. -/
def issuedTokens (history : List Served) : List String :=
  history.filterMap fun served => served.result.map (·.rawSessionToken)

theorem IssuedSince.cons {served : Served} {history : List Served} {token userId : String}
    {issuedAt : DateTime} (since : IssuedSince history token userId issuedAt)
    (kept : served.ended ≠ some token) :
    IssuedSince (served :: history) token userId issuedAt := by
  obtain ⟨later, issue, earlier, result, rfl, issued, same, user, time, quiet⟩ := since
  refine ⟨served :: later, issue, earlier, result, rfl, issued, same, user, time, ?_⟩
  intro other member
  rcases List.mem_cons.mp member with rfl | member
  · exact kept
  · exact quiet other member

/-- What `issuedFor` finds was issued and not logged out since. -/
theorem issuedSince_of_issuedFor {history : List Served} {token userId : String}
    {issuedAt : DateTime} (found : issuedFor history token = some (userId, issuedAt)) :
    IssuedSince history token userId issuedAt := by
  induction history with
  | nil => cases found
  | cons served earlier ih =>
      rw [issuedFor, Served.revise] at found
      split at found
      case h_1 result issued =>
        split at found
        case isTrue same =>
          obtain ⟨rfl, rfl⟩ := Prod.mk.inj (Option.some.inj found)
          exact ⟨[], served, earlier, result, rfl, issued, same, rfl, rfl, by simp⟩
        case isFalse => exact (ih found).cons (by simp [Served.ended_of_result issued])
      case h_2 =>
        split at found
        case isTrue => cases found
        case isFalse kept => exact (ih found).cons kept

/-- With distinct tokens the only issue of a token is its last one. -/
theorem issuedFor_of_issuedSince {history : List Served} {token userId : String}
    {issuedAt : DateTime} (distinct : (issuedTokens history).Nodup)
    (since : IssuedSince history token userId issuedAt) :
    issuedFor history token = some (userId, issuedAt) := by
  obtain ⟨later, served, earlier, result, rfl, issued, same, user, time, quiet⟩ := since
  induction later with
  | nil => simp [issuedFor, Served.revise, issued, same, user, time]
  | cons other later ih =>
      have member : token ∈ issuedTokens (later ++ served :: earlier) := by
        refine List.mem_filterMap.mpr ⟨served, by simp, ?_⟩
        rw [issued, Option.map_some, same]
      rw [List.cons_append, issuedFor, Served.revise]
      cases reissued : other.result with
      | none =>
          have rest := ih (by simpa [issuedTokens, reissued] using distinct)
            fun last member => quiet last (List.mem_cons_of_mem _ member)
          simp only [if_neg (quiet other List.mem_cons_self), rest]
      | some issue =>
          have fresh : issue.rawSessionToken ∉ issuedTokens (later ++ served :: earlier) ∧
              (issuedTokens (later ++ served :: earlier)).Nodup := by
            simpa [issuedTokens, reissued] using distinct
          have rest := ih fresh.2 fun last member => quiet last (List.mem_cons_of_mem _ member)
          have differs : issue.rawSessionToken ≠ token := fun equal => fresh.1 (equal ▸ member)
          simp only [if_neg differs, rest]

/-! ## What a step does -/

/-- The grant of an issued token. -/
def toGrant (now : DateTime) (issue : Option (String × DateTime)) : Option (String × DateTime) :=
  (issue.map fun issue => (issue.1, issue.2 + sessionTtl)).filter fun grant => now < grant.2

/-- Operations which do not look at sessions and create only the one expected. -/
def Essential (created : Option String) : AuthOp → Prop
  | .createSession sessionId _ _ _ _ => created = some sessionId
  | .getSessionWithUser _ | .touchSession _ => False
  | _ => True

/-- The token which is drawn is the one of the input. -/
def Drawn (token : String) : (op : AuthOp) → op.Result → Prop
  | .tokenUrlsafe, result => result = token
  | _, _ => True

theorem drawn_exec (input : AuthInput) (op : AuthOp) (store : AuthStore) :
    Drawn input.token op (exec input op store).1 := by
  cases op with
  | tokenUrlsafe => rfl
  | _ => trivial

theorem essential_of_quiet {created : Option String} {op : AuthOp} (quiet : Quiet op) :
    Essential created op := by
  cases op with
  | createSession => exact quiet.elim
  | getSessionWithUser => exact quiet.elim
  | touchSession => exact quiet.elim
  | _ => trivial

theorem QuietProgram.essential {α : Type} {program : Program authRepository α}
    {created : Option String} {token : String} (quiet : QuietProgram program) :
    program.Performs (Essential created) (Drawn token) :=
  quiet.mono (fun _ => essential_of_quiet) fun _ _ _ => trivial

section Service

variable {hashing : Hashing}

theorem essential_login {request : LoginRequest} {token : String} :
    (login hashing request).Performs (Essential (some (hashing.sha256Hex token)))
      (Drawn token) := by
  have refuse {program : Program authRepository Unit} {error : LoginError}
      (quiet : QuietProgram program) :
      (program >>= fun _ => pure (Except.error error) :
          Program authRepository (Except LoginError LoginResult)).Performs
        (Essential (some (hashing.sha256Hex token))) (Drawn token) :=
    quiet.essential.bind fun _ => trivial
  refine Performs.bind (Performs.of_call trivial) fun found => ?_
  refine Performs.bind (quiet_lockOf found).essential fun locked => ?_
  cases found with
  | none => exact refuse (Performs.of_call trivial)
  | some candidate =>
      cases locked with
      | some lockedUntil => exact refuse quiet_auditLogin
      | none =>
          dsimp only [decideLogin]
          split
          case isTrue => exact refuse quiet_recordFailedAttempt
          case isFalse =>
            split
            case isTrue => exact refuse quiet_auditLogin
            case isFalse =>
              refine Performs.bind (Performs.of_call trivial) fun _ => ?_
              refine Performs.bind (Performs.of_call trivial) fun _ => ?_
              refine Performs.call_bind trivial fun drawn same => ?_
              obtain rfl : drawn = token := same
              refine Performs.bind (Performs.of_call trivial) fun now => ?_
              refine Performs.bind (Performs.of_call rfl) fun created => ?_
              cases created with
              | none => trivial
              | some session => exact Performs.bind quiet_auditLogin.essential fun _ => trivial

theorem essential_serve {step : Step} (essential : step.housekeeping = false) :
    (serve hashing step.request).Performs (Essential (step.drawn.map hashing.sha256Hex))
      (Drawn step.input.token) := by
  obtain ⟨request, now⟩ := step
  cases request with
  | login request drawn => exact essential_login.bind fun _ => trivial
  | logout token actor requestId =>
      refine Performs.bind (Performs.bind (Performs.of_call trivial) fun _ => ?_) fun _ => trivial
      cases actor with
      | none => trivial
      | some user => exact quiet_auditLogin.essential
  | updateUserRole userId role actor requestId =>
      refine Performs.bind (Performs.bind (Performs.of_call trivial) fun before => ?_) fun _ =>
        trivial
      refine Performs.bind (Performs.of_call trivial) fun updated => ?_
      cases updated with
      | none => trivial
      | some user => exact Performs.bind (Performs.of_call trivial) fun _ => trivial
  | setUserActive userId active actor requestId =>
      refine Performs.bind (Performs.bind (Performs.of_call trivial) fun updated => ?_) fun _ =>
        trivial
      cases updated with
      | none => trivial
      | some user => exact Performs.bind (Performs.of_call trivial) fun _ => trivial
  | getUserForSession token => cases essential
  | deleteExpiredSessions => cases essential

/-- What a served step does to the accounts and, at a later time, to the grants. -/
structure StepEffect (hashing : Hashing) (now : DateTime) (store later : AuthStore)
    (served : Served) : Prop where
  grants : ∀ token before,
    grantAt now store (hashing.sha256Hex token) = toGrant now before →
      grantAt now later (hashing.sha256Hex token) = toGrant now (served.revise token before)
  accounts : ∀ userId, account later userId = served.account userId (account store userId)
  drawn : ∀ result, served.result = some result → served.step.drawn = some result.rawSessionToken

/-- A step which is neither a login nor an administrative change, and leaves the rights alone. -/
theorem StepEffect.of_sameRights {now : DateTime} {store later : AuthStore} {served : Served}
    (same : SameRights now store later) (noResult : served.result = none)
    (noEnd : served.ended = none)
    (noChange : ∀ userId before, served.account userId before = before) :
    StepEffect hashing now store later served := by
  refine ⟨fun token before start => ?_, fun userId => ?_, fun result issued => ?_⟩
  · rw [same.grants, start, Served.revise, noResult, noEnd]
    rfl
  · rw [same.accounts, noChange]
  · rw [noResult] at issued
    cases issued

theorem SameRights.of_housekept {now : DateTime} {store later : AuthStore}
    (kept : Housekept now store later) : SameRights now store later :=
  ⟨kept.grants, fun userId => by rw [account, account, kept.users]⟩

theorem login_stepEffect (injective : Function.Injective hashing.sha256Hex) {now time : DateTime}
    {request : LoginRequest} {drawn : String} {store later : AuthStore}
    {result : Except LoginError LoginResult}
    (effect : LoginEffect hashing ⟨time, drawn⟩ now store later result) :
    StepEffect hashing now store later ⟨⟨.login request drawn, time⟩, .loggedIn result⟩ := by
  cases result with
  | error error => exact .of_sameRights effect rfl rfl fun _ _ => rfl
  | ok result =>
      obtain ⟨same, grants, accounts⟩ := effect
      refine ⟨fun token before start => ?_, accounts, ?_⟩
      · rw [grants]
        by_cases hit : token = drawn
        · subst hit
          simp [Served.revise, Served.result, same, toGrant]
        · have other : hashing.sha256Hex token ≠ hashing.sha256Hex drawn :=
            fun equal => hit (injective equal)
          have differs : ¬ result.rawSessionToken = token := fun equal => hit (equal ▸ same)
          simp [Served.revise, Served.result, other, differs, start]
      · rintro _ issued
        obtain rfl := Option.some.inj issued
        exact congrArg some same.symm

theorem logout_stepEffect (injective : Function.Injective hashing.sha256Hex) {now time : DateTime}
    {token : String} {actor : Option User} {requestId : Option String} {store later : AuthStore}
    (same : SameRights now (store.deleteSession (hashing.sha256Hex token)) later) :
    StepEffect hashing now store later ⟨⟨.logout token actor requestId, time⟩, .done⟩ := by
  refine ⟨fun other before start => ?_, same.accounts, fun _ issued => by cases issued⟩
  rw [same.grants, grantAt_deleteSession, start]
  by_cases hit : token = other
  · subst hit
    simp [Served.revise, Served.result, Served.ended, toGrant]
  · have differs : ¬ hashing.sha256Hex other = hashing.sha256Hex token :=
      fun equal => hit (injective equal).symm
    simp [Served.revise, Served.result, Served.ended, hit, differs]

theorem update_stepEffect {now : DateTime} {step : Step} {store later : AuthStore}
    {userId : String} {role : Option Role} {active : Option Bool} {response : AuthResponse}
    (same : SameRights now (store.updateUser userId role active step.now).2 later)
    (noResult : (⟨step, response⟩ : Served).result = none)
    (noEnd : (⟨step, response⟩ : Served).ended = none)
    (change : ∀ other before, (⟨step, response⟩ : Served).account other before =
      before.map fun entry =>
        if other = userId then (role.getD entry.1, active.getD entry.2) else entry) :
    StepEffect hashing now store later ⟨step, response⟩ := by
  refine ⟨fun token before start => ?_, fun other => ?_, fun result issued => ?_⟩
  · rw [same.grants, Served.revise, noResult, noEnd]
    exact start
  · rw [same.accounts, account_updateUser, change]
  · rw [noResult] at issued
    cases issued

theorem updateUserRole_run {input : AuthInput} {now : DateTime} (past : input.now ≤ now)
    {userId : String} {role : Role} {actor : User} {requestId : Option String} (position : ℕ)
    (store : AuthStore) :
    SameRights now (store.updateUser userId (some role) none input.now).2
      ((updateUserRole userId role actor requestId).run exec
        (fun _ => input) position store).2.2 := by
  rw [updateUserRole, run_call_bind, run_call_bind]
  simp only [exec]
  cases (store.updateUser userId (some role) none input.now).1 with
  | none => exact .refl
  | some updated => exact sameRights_of_quiet (.recordAudit _) past trivial

theorem setUserActive_run {input : AuthInput} {now : DateTime} (past : input.now ≤ now)
    {userId : String} {active : Bool} {actor : User} {requestId : Option String} (position : ℕ)
    (store : AuthStore) :
    SameRights now (store.updateUser userId none (some active) input.now).2
      ((setUserActive userId active actor requestId).run exec
        (fun _ => input) position store).2.2 := by
  rw [setUserActive, run_call_bind]
  simp only [exec]
  cases (store.updateUser userId none (some active) input.now).1 with
  | none => exact .refl
  | some updated => exact sameRights_of_quiet (.recordAudit _) past trivial

theorem logout_run {input : AuthInput} {now : DateTime} (past : input.now ≤ now) {token : String}
    {actor : Option User} {requestId : Option String} (position : ℕ) (store : AuthStore) :
    SameRights now (store.deleteSession (hashing.sha256Hex token))
      ((logout hashing token actor requestId).run exec (fun _ => input) position store).2.2 := by
  unfold logout
  rw [run_call_bind]
  cases actor with
  | none => exact .refl
  | some user => exact quiet_auditLogin.sameRights past

theorem serve_effect (injective : Function.Injective hashing.sha256Hex) {now : DateTime}
    {step : Step} (past : step.now ≤ now) (run : Run) :
    ∃ response, (run.serve hashing step).history = ⟨step, response⟩ :: run.history ∧
      StepEffect hashing now run.store (run.serve hashing step).store ⟨step, response⟩ := by
  refine ⟨_, rfl, ?_⟩
  obtain ⟨request, time⟩ := step
  cases request with
  | login request drawn =>
      rw [Run.serve, Auth.serve, run_bind]
      exact login_stepEffect injective (login_effect past 0 run.store)
  | logout token actor requestId =>
      rw [Run.serve, Auth.serve, run_bind]
      exact logout_stepEffect injective (logout_run past 0 run.store)
  | updateUserRole userId role actor requestId =>
      rw [Run.serve, Auth.serve, run_bind]
      have same := @updateUserRole_run ⟨time, ""⟩ now past userId role actor requestId 0 run.store
      exact update_stepEffect same rfl rfl fun _ _ => rfl
  | setUserActive userId active actor requestId =>
      rw [Run.serve, Auth.serve, run_bind]
      have same := @setUserActive_run ⟨time, ""⟩ now past userId active actor requestId 0 run.store
      exact update_stepEffect same rfl rfl fun _ _ => rfl
  | getUserForSession token =>
      rw [Run.serve, Auth.serve, run_bind]
      refine .of_sameRights (.of_housekept ?_) rfl rfl fun _ _ => rfl
      exact (getUserForSession_run 0 run.store).2 now past
  | deleteExpiredSessions =>
      exact .of_sameRights (sameRights_of_quiet .deleteExpiredSessions past trivial) rfl rfl
        fun _ _ => rfl

/-! ## Whole runs -/

/-- The tokens which the logins of a run draw. -/
def drawnTokens (steps : List Step) : List String :=
  steps.filterMap Step.drawn

theorem serveAll_concat (start : AuthStore) (steps : List Step) (step : Step) :
    serveAll hashing start (steps ++ [step]) = (serveAll hashing start steps).serve hashing step :=
  List.foldl_append

/-- At any later time the stored sessions grant exactly what the history says was issued and not
logged out, and the accounts are those of the history. -/
theorem rights_serveAll (injective : Function.Injective hashing.sha256Hex) {start : AuthStore}
    (noSessions : start.sessions = .empty) {now : DateTime} {steps : List Step}
    (past : ∀ step ∈ steps, step.now ≤ now) :
    let run := serveAll hashing start steps
    (∀ token, grantAt now run.store (hashing.sha256Hex token) =
        toGrant now (issuedFor run.history token)) ∧
      ∀ userId, account run.store userId = accountAfter start run.history userId := by
  induction steps using List.reverseRecOn with
  | nil => exact ⟨fun token => by simp [serveAll, grantAt, noSessions, issuedFor, toGrant],
      fun _ => rfl⟩
  | append_singleton steps step ih =>
      obtain ⟨grants, accounts⟩ := ih fun other member => past other (by simp [member])
      obtain ⟨response, history, effect⟩ :=
        serve_effect injective (past step (by simp)) (serveAll hashing start steps)
      rw [serveAll_concat]
      dsimp only
      rw [history]
      refine ⟨fun token => effect.grants token _ (grants token), fun userId => ?_⟩
      rw [effect.accounts, accounts, accountAfter]

/-- Issued tokens were drawn, in this order. -/
theorem issuedTokens_serveAll (injective : Function.Injective hashing.sha256Hex)
    (start : AuthStore) (steps : List Step) :
    (issuedTokens (serveAll hashing start steps).history).Sublist (drawnTokens steps).reverse := by
  induction steps using List.reverseRecOn with
  | nil => exact List.nil_sublist _
  | append_singleton steps step ih =>
      obtain ⟨response, history, effect⟩ :=
        serve_effect injective (le_refl step.now) (serveAll hashing start steps)
      rw [serveAll_concat, history]
      cases issued : (⟨step, response⟩ : Served).result with
      | none =>
          have kept : issuedTokens (⟨step, response⟩ :: (serveAll hashing start steps).history) =
              issuedTokens (serveAll hashing start steps).history := by
            simp [issuedTokens, issued]
          rw [kept]
          refine ih.trans ?_
          simp [drawnTokens]
      | some result =>
          have drawn : step.drawn = some result.rawSessionToken := effect.drawn result issued
          simpa [issuedTokens, drawnTokens, issued, drawn] using ih

/-- An essential operation adds no session but the one expected. -/
theorem lookup_exec {created : Option String} {input : AuthInput} {store : AuthStore} (op : AuthOp)
    (essential : Essential created op) {sessionId : String}
    (stored : ((exec input op store).2.sessions.lookup sessionId).isSome) :
    (store.sessions.lookup sessionId).isSome ∨ created = some sessionId := by
  have restricted {keep : SessionRecord → Bool}
      (stored : ((store.sessions.restrict keep).lookup sessionId).isSome) :
      (store.sessions.lookup sessionId).isSome ∨ created = some sessionId := by
    rw [Table.lookup_restrict] at stored
    cases found : store.sessions.lookup sessionId with
    | none => rw [found] at stored; cases stored
    | some row => exact Or.inl rfl
  cases op with
  | getSessionWithUser => exact essential.elim
  | touchSession => exact essential.elim
  | deleteSession deleted => exact restricted stored
  | deleteExpiredSessions => exact restricted stored
  | createSession expected userId expiresAt ipAddress userAgent =>
      by_cases same : expected = sessionId
      · exact Or.inr (same ▸ essential)
      · left
        simp only [exec, AuthStore.createSession] at stored
        split at stored
        case isTrue => exact stored
        case isFalse => rwa [Table.lookup_upsert_ne same] at stored
  | _ => exact Or.inl stored

theorem lookup_serve (run : Run) (step : Step) {sessionId : String}
    (stored : ((run.serve hashing step).store.sessions.lookup sessionId).isSome) :
    (run.store.sessions.lookup sessionId).isSome ∨
      step.drawn.map hashing.sha256Hex = some sessionId := by
  cases housekeeping : step.housekeeping with
  | false =>
      let known (store : AuthStore) : Prop := (store.sessions.lookup sessionId).isSome →
        (run.store.sessions.lookup sessionId).isSome ∨
          step.drawn.map hashing.sha256Hex = some sessionId
      have kept : known (run.serve hashing step).store := by
        refine (essential_serve housekeeping).run_preserves (fun _ => drawn_exec step.input)
          (fun _ op store essential before later => ?_) Or.inl
        exact (lookup_exec _ essential later).elim before Or.inr
      exact kept stored
  | true =>
      obtain ⟨request, time⟩ := step
      cases request with
      | getUserForSession token =>
          rw [Run.serve, Auth.serve, run_bind] at stored
          have kept := (@getUserForSession_run hashing token ⟨time, ""⟩ 0 run.store).2 time le_rfl
          exact Or.inl (kept.kept sessionId stored)
      | deleteExpiredSessions => exact lookup_exec .deleteExpiredSessions trivial stored
      | _ => cases housekeeping

/-- Stored sessions are those of drawn tokens. -/
theorem lookup_serveAll {start : AuthStore} (noSessions : start.sessions = .empty)
    (steps : List Step) (sessionId : String)
    (stored : ((serveAll hashing start steps).store.sessions.lookup sessionId).isSome) :
    ∃ token ∈ drawnTokens steps, hashing.sha256Hex token = sessionId := by
  induction steps using List.reverseRecOn with
  | nil => simp [serveAll, noSessions] at stored
  | append_singleton steps step ih =>
      rw [serveAll_concat] at stored
      rcases lookup_serve _ step stored with earlier | new
      · obtain ⟨token, member, same⟩ := ih earlier
        exact ⟨token,
          by simpa [drawnTokens] using Or.inl (by simpa [drawnTokens] using member), same⟩
      · obtain ⟨token, drawn, same⟩ := Option.map_eq_some_iff.mp new
        exact ⟨token, by simp [drawnTokens, drawn], same⟩

/-! ## Housekeeping is invisible -/

/-- The same users and grants, and the same session under the identifier to be created. -/
structure Alike (now : DateTime) (created : Option String) (left right : AuthStore) : Prop where
  users : left.users = right.users
  grants : ∀ sessionId, grantAt now left sessionId = grantAt now right sessionId
  fresh : ∀ sessionId, created = some sessionId →
    left.sessions.lookup sessionId = right.sessions.lookup sessionId

theorem alike_exec {now : DateTime} {created : Option String} {input : AuthInput}
    (past : input.now ≤ now) {op : AuthOp} {left right : AuthStore}
    (essential : Essential created op)
    (alike : Alike now created left right) :
    (exec input op left).1 = (exec input op right).1 ∧
      Alike now created (exec input op left).2 (exec input op right).2 := by
  have modified (userId : String) (f : UserWithCredentials → UserWithCredentials)
      (kept : ∀ row, (f row).userId = row.userId ∧ (f row).username = row.username) :
      Alike now created (left.modifyUser userId f kept) (right.modifyUser userId f kept) :=
    ⟨by simp only [AuthStore.modifyUser, alike.users], alike.grants, alike.fresh⟩
  cases op with
  | getSessionWithUser => exact essential.elim
  | touchSession => exact essential.elim
  | getUserByUsername username =>
      exact ⟨by simp only [exec, AuthStore.getUserByUsername, alike.users], alike⟩
  | getUser userId => exact ⟨by simp only [exec, AuthStore.getUser, alike.users], alike⟩
  | updateUser userId role active =>
      have later := modified userId
        (fun row =>
          { row with role := role.getD row.role, active := active.getD row.active,
                     updatedAt := input.now }) fun _ => ⟨rfl, rfl⟩
      exact ⟨by simp only [exec, AuthStore.updateUser, AuthStore.getUser, later.users], later⟩
  | recordLoginSuccess userId =>
      refine ⟨rfl, modified userId _ ?_⟩
      exact fun _ => ⟨rfl, rfl⟩
  | recordLoginFailure userId lockUntil =>
      refine ⟨rfl, modified userId _ ?_⟩
      exact fun _ => ⟨rfl, rfl⟩
  | createSession sessionId userId expiresAt ipAddress userAgent =>
      have same := alike.fresh sessionId essential
      simp only [exec, AuthStore.createSession, same]
      split
      case isTrue => exact ⟨rfl, alike⟩
      case isFalse =>
        refine ⟨rfl, alike.users, fun other => ?_, fun other _ => ?_⟩
        · have grants := alike.grants other
          by_cases hit : sessionId = other
          · rw [grantAt, grantAt, Table.lookup_upsert_of_eq hit, Table.lookup_upsert_of_eq hit]
          · rwa [grantAt, grantAt, Table.lookup_upsert_ne hit, Table.lookup_upsert_ne hit]
        · have expected : sessionId = other := by simp_all [Essential]
          rw [Table.lookup_upsert_of_eq expected, Table.lookup_upsert_of_eq expected]
  | deleteSession sessionId =>
      refine ⟨rfl, alike.users, fun other => ?_, fun other expected => ?_⟩
      · simp only [exec, grantAt_deleteSession, alike.grants]
      · simp only [exec, AuthStore.deleteSession, Table.lookup_restrict, alike.fresh other expected]
  | deleteExpiredSessions =>
      refine ⟨rfl, alike.users, fun other => ?_, fun other expected => ?_⟩
      · simp only [exec, grantAt_deleteExpiredSessions past, alike.grants]
      · simp only [exec, AuthStore.deleteExpiredSessions, Table.lookup_restrict,
          alike.fresh other expected]
  | recordAudit event => exact ⟨rfl, alike.users, alike.grants, alike.fresh⟩
  | utcNow => exact ⟨rfl, alike⟩
  | tokenUrlsafe => exact ⟨rfl, alike⟩

/-- Alike stores serve an essential step alike. -/
theorem alike_serve {now : DateTime} {step : Step} (past : step.now ≤ now)
    (essential : step.housekeeping = false) {left right : Run}
    (alike : Alike now (step.drawn.map hashing.sha256Hex) left.store right.store) :
    Alike now (step.drawn.map hashing.sha256Hex) (left.serve hashing step).store
      (right.serve hashing step).store :=
  ((essential_serve essential).run_related (fun _ => drawn_exec step.input)
    (fun _ _ _ _ => alike_exec past) alike).2

/-- Housekeeping leaves a store alike to what it was. -/
theorem alike_housekeeping {now : DateTime} {step : Step} (past : step.now ≤ now)
    (housekeeping : step.housekeeping = true) {left right : Run}
    (alike : Alike now none left.store right.store) :
    Alike now none (left.serve hashing step).store right.store := by
  have kept : Housekept now left.store (left.serve hashing step).store := by
    obtain ⟨request, time⟩ := step
    cases request with
    | getUserForSession token =>
        rw [Run.serve, Auth.serve, run_bind]
        exact (@getUserForSession_run hashing token ⟨time, ""⟩ 0 left.store).2 now past
    | deleteExpiredSessions =>
        exact Housekept.of_restrict fun _ => grantAt_deleteExpiredSessions past
    | _ => cases housekeeping
  exact ⟨kept.users.trans alike.users, fun id => (kept.grants id).trans (alike.grants id),
    fun _ impossible => by cases impossible⟩

/-- Leaving housekeeping out changes neither users nor grants. -/
theorem alike_serveAll (injective : Function.Injective hashing.sha256Hex) {start : AuthStore}
    (noSessions : start.sessions = .empty) {now : DateTime} {steps : List Step}
    (distinct : (drawnTokens steps).Nodup) (past : ∀ step ∈ steps, step.now ≤ now) :
    Alike now none (serveAll hashing start steps).store
      (serveAll hashing start (steps.filter fun step => ¬ step.housekeeping)).store := by
  induction steps using List.reverseRecOn with
  | nil => exact ⟨rfl, fun _ => rfl, fun _ _ => rfl⟩
  | append_singleton steps step ih =>
      have split : (drawnTokens steps ++ step.drawn.toList).Nodup := by
        cases drawn : step.drawn <;> simpa [drawnTokens, drawn] using distinct
      have alike := ih (List.nodup_append.mp split).1 fun other member =>
        past other (by simp [member])
      have last := past step (by simp)
      rw [List.filter_append, serveAll_concat]
      cases housekeeping : step.housekeeping with
      | true => simpa [housekeeping] using alike_housekeeping last housekeeping alike
      | false =>
          have kept : [step].filter (fun step => ¬ step.housekeeping) = [step] := by
            simp [housekeeping]
          rw [kept, serveAll_concat]
          have fresh : Alike now (step.drawn.map hashing.sha256Hex)
              (serveAll hashing start steps).store
              (serveAll hashing start (steps.filter fun step => ¬ step.housekeeping)).store := by
            have absent {others : List Step} (sub : others.Sublist steps) {sessionId : String}
                (created : step.drawn.map hashing.sha256Hex = some sessionId) :
                (serveAll hashing start others).store.sessions.lookup sessionId = none := by
              obtain ⟨token, drawn, rfl⟩ := Option.map_eq_some_iff.mp created
              by_contra stored
              obtain ⟨other, member, same⟩ :=
                lookup_serveAll noSessions others _ (Option.isSome_iff_ne_none.mpr stored)
              have earlier : token ∈ drawnTokens steps :=
                (sub.filterMap Step.drawn).subset (injective same ▸ member)
              have disjoint := (List.nodup_append.mp split).2.2 token earlier token
              simp [drawn] at disjoint
            refine ⟨alike.users, alike.grants, fun sessionId created => ?_⟩
            rw [absent (List.Sublist.refl _) created, absent List.filter_sublist created]
          have later := alike_serve last housekeeping fresh
          exact ⟨later.users, later.grants, fun _ impossible => by cases impossible⟩

theorem answer_eq (store : AuthStore) (token : String) (now : DateTime) :
    answer hashing store token now = answerAt now store (hashing.sha256Hex token) :=
  (@getUserForSession_run hashing token { now } 0 store).1

/-- A token is answered with a user exactly when its grant stands for an active one. -/
theorem answer_eq_some {store : AuthStore} {token : String} {now : DateTime} {user : User} :
    answer hashing store token now = some user ↔
      ∃ expiresAt, grantAt now store (hashing.sha256Hex token) = some (user.userId, expiresAt) ∧
        store.getUser user.userId = some user ∧ user.active = true := by
  rw [answer_eq, answerAt, Option.bind_eq_some_iff]
  constructor
  · rintro ⟨⟨userId, expiresAt⟩, granted, known⟩
    obtain ⟨known, active⟩ := Option.filter_eq_some_iff.mp known
    obtain ⟨row, found, rfl⟩ := Option.map_eq_some_iff.mp known
    obtain rfl : row.key = userId := Table.key_of_lookup found
    exact ⟨expiresAt, granted, known, active⟩
  · rintro ⟨expiresAt, granted, known, active⟩
    exact ⟨_, granted, Option.filter_eq_some_iff.mpr ⟨known, active⟩⟩

theorem account_of_getUser {store : AuthStore} {userId : String} {user : User}
    (known : store.getUser userId = some user) :
    account store userId = some (user.role, user.active) := by
  obtain ⟨row, found, rfl⟩ := Option.map_eq_some_iff.mp known
  rw [account, found, Option.map_some]

theorem getUser_of_account {store : AuthStore} {userId : String} {role : Role}
    (known : account store userId = some (role, true)) :
    ∃ user, store.getUser userId = some user ∧ user.userId = userId ∧ user.active = true := by
  obtain ⟨row, found, same⟩ := Option.map_eq_some_iff.mp known
  refine ⟨row.toUser, by rw [AuthStore.getUser, found, Option.map_some], ?_, ?_⟩
  · have key : row.key = userId := Table.key_of_lookup found
    exact key
  · exact (Prod.mk.inj same).2

theorem toGrant_eq_some {now : DateTime} {issue : Option (String × DateTime)} {userId : String}
    {expiresAt : DateTime} :
    toGrant now issue = some (userId, expiresAt) ↔
      ∃ issuedAt, issue = some (userId, issuedAt) ∧ now < issuedAt + sessionTtl ∧
        expiresAt = issuedAt + sessionTtl := by
  rw [toGrant, Option.filter_eq_some_iff, Option.map_eq_some_iff]
  constructor
  · rintro ⟨⟨⟨user, issuedAt⟩, found, same⟩, live⟩
    obtain ⟨rfl, rfl⟩ := Prod.mk.inj same
    exact ⟨issuedAt, found, by simpa using live, rfl⟩
  · rintro ⟨issuedAt, found, live, rfl⟩
    exact ⟨⟨_, found, rfl⟩, by simpa using live⟩

/-- What a token is answered after a run, in terms of what happened in it. -/
structure SessionValid (hashing : Hashing) (start : AuthStore) (steps : List Step) (token : String)
    (now : DateTime) : Prop where
  /-- A user is returned exactly when the token was issued less than the lifetime of a session ago
  and not logged out since, and the user is active. -/
  answered : (∃ user, answer hashing (serveAll hashing start steps).store token now = some user) ↔
    ∃ userId issuedAt role, IssuedSince
      (serveAll hashing start steps).history token userId issuedAt ∧
      now < issuedAt + sessionTtl ∧
      accountAfter start (serveAll hashing start steps).history userId = some (role, true)
  /-- The user is the one to whom it was issued, with the present role. -/
  user : ∀ user, answer hashing (serveAll hashing start steps).store token now = some user →
    (∃ issuedAt, IssuedSince (serveAll hashing start steps).history token user.userId issuedAt) ∧
      accountAfter start (serveAll hashing start steps).history user.userId = some (user.role, true)
  /-- Without the steps which only look at sessions or clean up, the answer is the same. -/
  housekeeping :
    answer hashing (serveAll hashing start (steps.filter fun step => ¬ step.housekeeping)).store
        token now =
      answer hashing (serveAll hashing start steps).store token now

/-- After every sequence of steps made until now, a session is valid exactly as long as it should
be. -/
theorem sessionValid_of_steps (injective : Function.Injective hashing.sha256Hex)
    {start : AuthStore} (noSessions : start.sessions = .empty) {steps : List Step}
    (distinct : (drawnTokens steps).Nodup) {now : DateTime} (past : ∀ step ∈ steps, step.now ≤ now)
    (token : String) : SessionValid hashing start steps token now := by
  obtain ⟨grants, accounts⟩ := rights_serveAll injective noSessions past
  have issuedDistinct : (issuedTokens (serveAll hashing start steps).history).Nodup :=
    (List.nodup_reverse.mpr distinct).sublist (issuedTokens_serveAll injective start steps)
  have valid (user : User)
      (found : answer hashing (serveAll hashing start steps).store token now = some user) :
      ∃ issuedAt, IssuedSince (serveAll hashing start steps).history token user.userId issuedAt ∧
        now < issuedAt + sessionTtl ∧
        accountAfter start (serveAll hashing start steps).history user.userId =
          some (user.role, true) := by
    obtain ⟨expiresAt, granted, known, active⟩ := answer_eq_some.mp found
    rw [grants, toGrant_eq_some] at granted
    obtain ⟨issuedAt, issued, live, -⟩ := granted
    refine ⟨issuedAt, issuedSince_of_issuedFor issued, live, ?_⟩
    rw [← accounts, account_of_getUser known, active]
  refine ⟨⟨?_, ?_⟩, ?_, ?_⟩
  · rintro ⟨user, found⟩
    obtain ⟨issuedAt, since, live, current⟩ := valid user found
    exact ⟨user.userId, issuedAt, user.role, since, live, current⟩
  · rintro ⟨userId, issuedAt, role, since, live, current⟩
    rw [← accounts] at current
    obtain ⟨user, known, rfl, active⟩ := getUser_of_account current
    have issued := issuedFor_of_issuedSince issuedDistinct since
    refine ⟨user, answer_eq_some.mpr ⟨issuedAt + sessionTtl, ?_, known, active⟩⟩
    rw [grants, toGrant_eq_some]
    exact ⟨issuedAt, issued, live, rfl⟩
  · intro user found
    obtain ⟨issuedAt, since, -, current⟩ := valid user found
    exact ⟨⟨issuedAt, since⟩, current⟩
  · have alike := alike_serveAll injective noSessions distinct past
    rw [answer_eq, answer_eq, answerAt, answerAt, alike.grants]
    simp only [AuthStore.getUser, alike.users]

end Service

namespace Sample

/-- Digests which agree with SHA-256 on the token used below. -/
def hashing : Hashing where
  sha256Hex token :=
    if token = "token-1" then "3f08aace122ee2368432c1ca23a049bc640bafbf00fdf33a52429f38ba12dbf9"
    else "sha256:" ++ token
  verifyPassword password _ := password = "correct-horse-battery"
  dummyHash := "$argon2id$v=19$m=65536,t=3,p=4$dW51c2Vk$dW51c2Vk"

theorem sha256Hex_injective : Function.Injective hashing.sha256Hex := by
  intro left right same
  simp only [hashing] at same
  split at same <;> split at same
  case isTrue.isTrue first second => rw [first, second]
  case isTrue.isFalse => exact absurd (congrArg (fun text => text.toList.head?) same) (by simp)
  case isFalse.isTrue => exact absurd (congrArg (fun text => text.toList.head?) same) (by simp)
  case isFalse.isFalse => exact (String.append_right_inj _).mp same

def alice : UserWithCredentials where
  userId := "USER-1"
  username := "alice"
  role := .researcher
  active := true
  createdAt := 0
  updatedAt := 0
  passwordHash := "$argon2id$v=19$m=65536,t=3,p=4$YWxpY2U$YWxpY2U"

def start : AuthStore where
  users := Table.empty.upsert alice
  usernames := by decide

/-- The administrator's own account. -/
def admin : User where
  userId := "USER-0"
  username := "admin"
  role := .admin
  active := true
  createdAt := 0
  updatedAt := 0

/-- A login, a deactivation with a clean-up in between, a reactivation and a change of role. -/
def steps : List Step :=
  [⟨.login { username := "alice", password := "correct-horse-battery" } "token-1", 10⟩,
    ⟨.setUserActive "USER-1" false admin none, 20⟩, ⟨.deleteExpiredSessions, 30⟩,
    ⟨.getUserForSession "token-1", 40⟩, ⟨.setUserActive "USER-1" true admin none, 50⟩,
    ⟨.updateUserRole "USER-1" .reviewer admin none, 60⟩]

end Sample

/-- A session survives a deactivation which is taken back, and its user has the new role. -/
theorem sessionValid_of_sample :
    SessionValid Sample.hashing Sample.start Sample.steps "token-1" 70 ∧
      (answer Sample.hashing (serveAll Sample.hashing Sample.start Sample.steps).store
        "token-1" 70).map
        (fun user => (user.username, user.role)) = some ("alice", .reviewer) := by
  refine ⟨sessionValid_of_steps Sample.sha256Hex_injective rfl ?_ ?_ "token-1", ?_⟩
  · decide
  · decide
  · decide

end ZeroShield.Auth
