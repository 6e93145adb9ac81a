import ZeroShield.Auth.Lockout

/-!
# Enumerating usernames

A wrong password and an unknown username are refused alike, but failures lock an account only when
it exists.  A sequence of attempts with wrong passwords reveals whether a username exists exactly
when one of them comes while its account is locked.
-/

namespace ZeroShield.Auth

open Foundation Models Platform

/-! ## What a caller observes -/

/-- The response of the login route. -/
inductive LoginResponse
  | loggedIn (user : User) (sessionToken : String)
  | refused (status : ℕ) (error detail : String)
  | internalError

/-- The name of the exception which a login raises, with the response of the route. -/
structure Observation where
  exception : Option String
  response : LoginResponse

def observe : Except LoginError LoginResult → Observation
  | .error (.accountLocked lockedUntil) =>
      ⟨some "AccountLockedError", .refused 423 "account_locked"
        s!"too many failed login attempts; try again after {lockedUntil.isoformat}"⟩
  | .error .accountInactive =>
      ⟨some "AccountInactiveError", .refused 403 "account_inactive"
        "this account has been deactivated"⟩
  | .error .invalidCredentials =>
      ⟨some "InvalidCredentialsError", .refused 401 "invalid_credentials"
        "invalid username or password"⟩
  | .error .sessionNotCreated => ⟨some "IntegrityError", .internalError⟩
  | .ok result => ⟨none, .loggedIn result.user result.rawSessionToken⟩

/-- A login with what its operations take from outside. -/
structure LoginAttempt where
  request : LoginRequest
  input : ℕ → AuthInput

variable (hashing : Hashing)

/-- What a caller observes of attempts which are made one after the other. -/
def observations : List LoginAttempt → AuthStore → List Observation
  | [], _ => []
  | attempt :: attempts, store =>
      let outcome := (login hashing attempt.request).run exec attempt.input 0 store
      observe outcome.1 :: observations attempts outcome.2.2

/-- The attempt with another username. -/
def LoginAttempt.rename (username other : String) (attempt : LoginAttempt) : LoginAttempt :=
  if attempt.request.username = username then
    { attempt with request := { attempt.request with username := other } }
  else attempt

/-- The password of an attempt is not that of the named account. -/
def WrongPassword (store : AuthStore) (attempt : LoginAttempt) : Prop :=
  ∀ row, store.getUserByUsername attempt.request.username = some row →
    hashing.verifyPassword attempt.request.password row.passwordHash = false

/-! ## The row of an account during the attempts -/

/-- The lock which an attempt finds in force; the clock is read after the account. -/
def lockInForce (lockedUntil : Option DateTime) (input : ℕ → AuthInput) : Option DateTime :=
  lockedUntil.filter fun time => time > (input 1).now

/-- How many operations a login performs until it has looked for a lock. -/
def lookedUp (lockedUntil : Option DateTime) : ℕ :=
  if lockedUntil.isSome then 2 else 1

/-- The lock which a failure sets; the clock is read again if there was a lock. -/
def lockSet (failures : ℕ) (lockedUntil : Option DateTime) (input : ℕ → AuthInput) :
    Option DateTime :=
  if failures + 1 ≥ maxFailedLoginAttempts then
    some ((input (lookedUp lockedUntil)).now + lockoutDuration)
  else none

/-- No attempt on an account comes while it is locked: neither before its stored lock ends nor, from
the fifth counted failure on, within fifteen minutes of the attempt before. -/
def NeverLocked : ℕ → Option DateTime → List (ℕ → AuthInput) → Prop
  | _, _, [] => True
  | failures, lockedUntil, input :: inputs =>
      lockInForce lockedUntil input = none ∧
        NeverLocked (failures + 1) ((lockSet failures lockedUntil input).or lockedUntil) inputs

/-- Whether attempts never find a lock can be decided. -/
def decideNeverLocked : (failures : ℕ) → (lockedUntil : Option DateTime) →
    (inputs : List (ℕ → AuthInput)) → Decidable (NeverLocked failures lockedUntil inputs)
  | _, _, [] => isTrue trivial
  | failures, lockedUntil, input :: inputs =>
      have := decideNeverLocked (failures + 1) ((lockSet failures lockedUntil input).or lockedUntil)
        inputs
      inferInstanceAs (Decidable (_ ∧ _))

instance {failures : ℕ} {lockedUntil : Option DateTime} {inputs : List (ℕ → AuthInput)} :
    Decidable (NeverLocked failures lockedUntil inputs) :=
  decideNeverLocked failures lockedUntil inputs

/-- When a failure is recorded: after the clock was read for a new lock, if one is set. -/
def failureRecordedAt (failures : ℕ) (lockedUntil : Option DateTime) (input : ℕ → AuthInput) :
    DateTime :=
  (input (lookedUp lockedUntil + if failures + 1 ≥ maxFailedLoginAttempts then 1 else 0)).now

section Attempt

variable {store : AuthStore} {attempt : LoginAttempt} {row : UserWithCredentials}

theorem login_of_unknown (unknown : store.getUserByUsername attempt.request.username = none) :
    ((login hashing attempt.request).run exec attempt.input 0 store).1 =
        .error .invalidCredentials ∧
      ((login hashing attempt.request).run exec attempt.input 0 store).2.2.users =
        store.users := by
  have read : (login hashing attempt.request).run exec attempt.input 0 store =
      (decideLogin hashing attempt.request (store.getUserByUsername attempt.request.username)
        none).run exec attempt.input 1 store := by
    rw [login, Program.run_call_bind, Program.run_bind]
    simp only [exec, unknown, lockOf]
    rfl
  rw [read, unknown]
  exact ⟨rfl, rfl⟩

/-- An attempt on an account decides knowing the lock which is in force. -/
theorem run_login (found : store.getUserByUsername attempt.request.username = some row) :
    (login hashing attempt.request).run exec attempt.input 0 store =
      (decideLogin hashing attempt.request (some row)
        (lockInForce row.lockedUntil attempt.input)).run exec attempt.input
          (lookedUp row.lockedUntil) store := by
  obtain ⟨user, passwordHash, failures, lock⟩ := row
  rw [login, Program.run_call_bind, Program.run_bind]
  simp only [exec, found]
  cases lock with
  | none => rfl
  | some lock =>
      simp only [lockInForce, Option.filter_some, decide_eq_true_eq]
      rfl

theorem login_of_locked (found : store.getUserByUsername attempt.request.username = some row)
    {lockedUntil : DateTime} (locked : lockInForce row.lockedUntil attempt.input =
      some lockedUntil) :
    ((login hashing attempt.request).run exec attempt.input 0 store).1 =
        .error (.accountLocked lockedUntil) ∧
      ((login hashing attempt.request).run exec attempt.input 0 store).2.2.users =
        store.users := by
  rw [run_login hashing found, locked]
  exact ⟨rfl, rfl⟩

theorem login_of_wrong (found : store.getUserByUsername attempt.request.username = some row)
    (unlocked : lockInForce row.lockedUntil attempt.input = none)
    (wrong : hashing.verifyPassword attempt.request.password row.passwordHash = false) :
    ((login hashing attempt.request).run exec attempt.input 0 store).1 =
        .error .invalidCredentials ∧
      ((login hashing attempt.request).run exec attempt.input 0 store).2.2.users =
        (store.recordLoginFailure row.userId
          (lockSet row.failedLoginAttempts row.lockedUntil attempt.input)
          (failureRecordedAt row.failedLoginAttempts row.lockedUntil attempt.input)).users := by
  rw [run_login hashing found, unlocked]
  simp only [decideLogin, Option.map_some, Option.getD_some, wrong, if_true]
  rw [Program.run_bind]
  refine ⟨rfl, ?_⟩
  unfold recordFailedAttempt lockUntilFor lockSet failureRecordedAt
  by_cases limit : row.failedLoginAttempts + 1 ≥ maxFailedLoginAttempts
  · simp only [if_pos limit]
    rfl
  · simp only [if_neg limit]
    rfl

end Attempt

/-! ## Rows by username -/

section Rows

variable {store later : AuthStore} {username other userId : String} {row : UserWithCredentials}

theorem getUserByUsername_of_users (same : later.users = store.users) (username : String) :
    later.getUserByUsername username = store.getUserByUsername username := by
  rw [AuthStore.getUserByUsername, same]
  rfl

/-- The row after a failure was recorded. -/
def failedRow (lockUntil : Option DateTime) (now : DateTime) (row : UserWithCredentials) :
    UserWithCredentials :=
  { row with
    failedLoginAttempts := row.failedLoginAttempts + 1
    lockedUntil := lockUntil.or row.lockedUntil
    updatedAt := now }

theorem getUserByUsername_of_failure {lockUntil : Option DateTime} {now : DateTime}
    (failed : later.users = (store.recordLoginFailure userId lockUntil now).users) :
    later.getUserByUsername username = (store.getUserByUsername username).map fun row =>
      if row.userId = userId then failedRow lockUntil now row else row := by
  rw [getUserByUsername_of_users failed]
  have kept : (fun row : UserWithCredentials => decide (row.username = username)) ∘
      (fun row => if row.userId = userId then failedRow lockUntil now row else row) =
        fun row => decide (row.username = username) := by
    funext row
    rw [Function.comp_apply]
    split <;> rfl
  change (store.users.rows.map fun row =>
    if row.userId = userId then failedRow lockUntil now row else row).find? _ = _
  rw [List.find?_map, kept]
  rfl

theorem username_of_get (found : store.getUserByUsername username = some row) :
    row.username = username := by
  simpa using List.find?_some found

/-- Accounts with different usernames have different identifiers. -/
theorem userId_ne {found : UserWithCredentials}
    (known : store.getUserByUsername username = some row)
    (stored : store.getUserByUsername other = some found) (different : other ≠ username) :
    found.userId ≠ row.userId := by
  intro same
  have equal : found = row := List.inj_on_of_nodup_map store.users.distinct
    (List.mem_of_find?_eq_some stored) (List.mem_of_find?_eq_some known) same
  rw [← username_of_get known, ← username_of_get stored, equal] at different
  exact different rfl

end Rows

/-! ## Two runs -/

/-- Two stores which agree on all accounts but one; the second store does not know the name which is
used instead. -/
structure Mirrors (username other : String) (row : UserWithCredentials) (left right : AuthStore) :
    Prop where
  known : left.getUserByUsername username = some row
  unknown : right.getUserByUsername other = none
  different : other ≠ username
  others : ∀ name ≠ username, left.getUserByUsername name = right.getUserByUsername name

section Mirrors

variable {hashing} {username other : String} {row : UserWithCredentials} {left right : AuthStore}
  {attempt : LoginAttempt}

/-- A failure recorded for another account in both stores. -/
theorem Mirrors.failure_other {left' right' : AuthStore} {found : UserWithCredentials}
    {name : String} {lockUntil : Option DateTime} {now : DateTime}
    (mirrors : Mirrors username other row left right)
    (stored : left.getUserByUsername name = some found) (elsewhere : name ≠ username)
    (leftFailed : left'.users = (left.recordLoginFailure found.userId lockUntil now).users)
    (rightFailed : right'.users = (right.recordLoginFailure found.userId lockUntil now).users) :
    Mirrors username other row left' right' where
  known := by
    have apart := userId_ne mirrors.known stored elsewhere
    rw [getUserByUsername_of_failure leftFailed, mirrors.known, Option.map_some,
      if_neg apart.symm]
  unknown := by rw [getUserByUsername_of_failure rightFailed, mirrors.unknown, Option.map_none]
  different := mirrors.different
  others := fun name elsewhere => by
    rw [getUserByUsername_of_failure leftFailed, getUserByUsername_of_failure rightFailed,
      mirrors.others name elsewhere]

theorem Mirrors.of_users {left' right' : AuthStore}
    (mirrors : Mirrors username other row left right)
    (leftSame : left'.users = left.users) (rightSame : right'.users = right.users) :
    Mirrors username other row left' right' where
  known := (getUserByUsername_of_users leftSame _).trans mirrors.known
  unknown := (getUserByUsername_of_users rightSame _).trans mirrors.unknown
  different := mirrors.different
  others := fun name elsewhere => by
    rw [getUserByUsername_of_users leftSame, getUserByUsername_of_users rightSame,
      mirrors.others name elsewhere]

/-- A failure recorded for the account which only the first store knows. -/
theorem Mirrors.failure_known {left' right' : AuthStore} {lockUntil : Option DateTime}
    {now : DateTime} (mirrors : Mirrors username other row left right)
    (leftFailed : left'.users = (left.recordLoginFailure row.userId lockUntil now).users)
    (rightSame : right'.users = right.users) :
    Mirrors username other (failedRow lockUntil now row) left' right' where
  known := by
    rw [getUserByUsername_of_failure leftFailed, mirrors.known, Option.map_some, if_pos rfl]
  unknown := (getUserByUsername_of_users rightSame _).trans mirrors.unknown
  different := mirrors.different
  others := fun name elsewhere => by
    rw [getUserByUsername_of_failure leftFailed, getUserByUsername_of_users rightSame,
      ← mirrors.others name elsewhere]
    cases stored : left.getUserByUsername name with
    | none => rfl
    | some found => rw [Option.map_some, if_neg (userId_ne mirrors.known stored elsewhere)]

/-- An attempt on another account is observed alike. -/
theorem Mirrors.step_other (mirrors : Mirrors username other row left right)
    (elsewhere : attempt.request.username ≠ username)
    (wrong : WrongPassword hashing left attempt) :
    ((login hashing attempt.request).run exec attempt.input 0 left).1 =
        ((login hashing attempt.request).run exec attempt.input 0 right).1 ∧
      Mirrors username other row
        ((login hashing attempt.request).run exec attempt.input 0 left).2.2
        ((login hashing attempt.request).run exec attempt.input 0 right).2.2 := by
  have agrees := mirrors.others _ elsewhere
  cases stored : left.getUserByUsername attempt.request.username with
  | none =>
      obtain ⟨leftRefused, leftSame⟩ := login_of_unknown hashing stored
      obtain ⟨rightRefused, rightSame⟩ :=
        login_of_unknown hashing (agrees.symm.trans stored)
      exact ⟨leftRefused.trans rightRefused.symm, mirrors.of_users leftSame rightSame⟩
  | some found =>
      cases lock : lockInForce found.lockedUntil attempt.input with
      | some lockedUntil =>
          obtain ⟨leftLocked, leftSame⟩ := login_of_locked hashing stored lock
          obtain ⟨rightLocked, rightSame⟩ :=
            login_of_locked hashing (agrees.symm.trans stored) lock
          exact ⟨leftLocked.trans rightLocked.symm, mirrors.of_users leftSame rightSame⟩
      | none =>
          have mistaken := wrong found stored
          obtain ⟨leftRefused, leftFailed⟩ := login_of_wrong hashing stored lock mistaken
          obtain ⟨rightRefused, rightFailed⟩ :=
            login_of_wrong hashing (agrees.symm.trans stored) lock mistaken
          exact ⟨leftRefused.trans rightRefused.symm,
            mirrors.failure_other stored elsewhere leftFailed rightFailed⟩

/-- Attempts with wrong passwords keep the passwords. -/
theorem wrongPassword_login (first : LoginAttempt) (mistaken : WrongPassword hashing left first)
    (wrong : WrongPassword hashing left attempt) :
    WrongPassword hashing ((login hashing first.request).run exec first.input 0 left).2.2
      attempt := by
  have of_users {later : AuthStore} (same : later.users = left.users) :
      WrongPassword hashing later attempt := fun row stored =>
    wrong row ((getUserByUsername_of_users same _).symm.trans stored)
  cases stored : left.getUserByUsername first.request.username with
  | none => exact of_users (login_of_unknown hashing stored).2
  | some found =>
      cases lock : lockInForce found.lockedUntil first.input with
      | some lockedUntil => exact of_users (login_of_locked hashing stored lock).2
      | none =>
          intro row later
          rw [getUserByUsername_of_failure
            (login_of_wrong hashing stored lock (mistaken found stored)).2] at later
          obtain ⟨before, read, rfl⟩ := Option.map_eq_some_iff.mp later
          have kept := wrong before read
          split
          · exact kept
          · exact kept

end Mirrors

theorem observe_locked_ne {lockedUntil : DateTime} :
    observe (.error (.accountLocked lockedUntil)) ≠ observe (.error .invalidCredentials) := by
  intro same
  simpa [observe] using congrArg Observation.exception same

/-- Replacing the name of an account by an unknown one is unobservable exactly when no attempt on
the account comes while it is locked. -/
theorem observations_rename_eq_iff {username other : String} {attempts : List LoginAttempt}
    {row : UserWithCredentials} {left right : AuthStore}
    (mirrors : Mirrors username other row left right)
    (wrong : ∀ attempt ∈ attempts, WrongPassword hashing left attempt) :
    observations hashing attempts left =
        observations hashing (attempts.map (.rename username other)) right ↔
      NeverLocked row.failedLoginAttempts row.lockedUntil
        ((attempts.filter (·.request.username = username)).map (·.input)) := by
  induction attempts generalizing row left right with
  | nil => simp [observations, NeverLocked]
  | cons attempt attempts ih =>
      obtain ⟨mistaken, wrong⟩ := List.forall_mem_cons.mp wrong
      have still := fun later member => wrongPassword_login attempt mistaken (wrong later member)
      rw [List.map_cons]
      simp only [observations, List.cons.injEq]
      by_cases named : attempt.request.username = username
      · have found : left.getUserByUsername attempt.request.username = some row := by
          rw [named]
          exact mirrors.known
        have renamed : attempt.rename username other =
            { attempt with request := { attempt.request with username := other } } :=
          if_pos named
        have unregistered :
            right.getUserByUsername (attempt.rename username other).request.username = none := by
          rw [renamed]
          exact mirrors.unknown
        obtain ⟨refused, rightSame⟩ := login_of_unknown hashing unregistered
        rw [refused, List.filter_cons_of_pos (by simpa using named), List.map_cons, NeverLocked]
        cases lock : lockInForce row.lockedUntil attempt.input with
        | some lockedUntil =>
            rw [(login_of_locked hashing found lock).1]
            simp [observe_locked_ne]
        | none =>
            obtain ⟨leftRefused, leftFailed⟩ :=
              login_of_wrong hashing found lock (mistaken row found)
            rw [leftRefused, ih (mirrors.failure_known leftFailed rightSame) still]
            simp [failedRow]
      · have kept : attempt.rename username other = attempt := if_neg named
        obtain ⟨same, later⟩ := mirrors.step_other named mistaken
        rw [kept, same, List.filter_cons_of_neg (by simpa using named), ih later still]
        simp

/-- An unregistered username is told from an account exactly when an attempt on the account comes
while it is locked. -/
theorem enumeration_resistant_iff {store : AuthStore} {attempts : List LoginAttempt}
    {username other : String} {row : UserWithCredentials}
    (known : store.getUserByUsername username = some row)
    (unregistered : store.getUserByUsername other = none)
    (wrong : ∀ attempt ∈ attempts, WrongPassword hashing store attempt) :
    observations hashing attempts store =
        observations hashing (attempts.map (.rename username other)) store ↔
      NeverLocked row.failedLoginAttempts row.lockedUntil
        ((attempts.filter (·.request.username = username)).map (·.input)) := by
  have different : other ≠ username := by
    rintro rfl
    cases known.symm.trans unregistered
  exact observations_rename_eq_iff hashing ⟨known, unregistered, different, fun _ _ => rfl⟩ wrong

namespace Sample

/-- A guess whose operations all read the same time. -/
def guessAt (now : DateTime) : LoginAttempt where
  request := guess
  input := fun _ => { now }

theorem guess_wrong {attempts : List LoginAttempt} (guesses : ∀ attempt ∈ attempts,
    attempt.request = guess) (attempt : LoginAttempt) (member : attempt ∈ attempts) :
    WrongPassword passwords accounts attempt := by
  intro row _
  rw [guesses attempt member]
  rfl

end Sample

/-- Five guesses, and a sixth after the lock has ended, do not tell an account from an unknown
name. -/
theorem enumeration_resistant_of_sample :
    observations Sample.passwords
        ((List.replicate 5 (Sample.guessAt 0)) ++ [Sample.guessAt lockoutDuration])
        Sample.accounts =
      observations Sample.passwords
        (((List.replicate 5 (Sample.guessAt 0)) ++ [Sample.guessAt lockoutDuration]).map
          (.rename "bob" "nobody")) Sample.accounts :=
  (@enumeration_resistant_iff _ _ _ _ _ Sample.bob (by decide) (by decide)
    (Sample.guess_wrong (by simp [Sample.guessAt]))).mpr (by decide)

/-- The sixth guess in a row is refused because the account is locked. -/
theorem not_enumeration_resistant_of_six :
    ¬ ∀ (hashing : Hashing) (store : AuthStore) (attempts : List LoginAttempt)
      (username other : String) (row : UserWithCredentials),
      store.getUserByUsername username = some row → row.active = true →
      store.getUserByUsername other = none →
      (∀ attempt ∈ attempts, WrongPassword hashing store attempt) →
        observations hashing attempts store =
          observations hashing (attempts.map (.rename username other)) store := by
  intro claim
  have same := claim Sample.passwords Sample.accounts (List.replicate 6 (Sample.guessAt 0)) "bob"
    "nobody" Sample.bob (by decide) rfl (by decide) (Sample.guess_wrong (by simp [Sample.guessAt]))
  have sixth := congrArg (fun observed => (observed.map (·.exception)).getLast?) same
  revert sixth
  decide

end ZeroShield.Auth
