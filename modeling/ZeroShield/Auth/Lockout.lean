import ZeroShield.Auth.Service
import ZeroShield.Foundation.Interleaving

/-!
# Lockout under concurrency

Whether a failed attempt locks the account depends on the count which the attempt read before the
password was compared.  As long as no attempt which reaches the limit has read an outdated count,
the limit locks the account however the attempts overlap.  A lock counts from a reading of the clock
before it is written, and so ends that much earlier.
-/

namespace ZeroShield.Auth

open Foundation Models Platform

/-- Logins running side by side. -/
abbrev LoginPool : Type :=
  Pool authRepository AuthStore LoginRequest (Except LoginError LoginResult)

abbrev LoginMove : Type :=
  Move LoginRequest AuthInput

/-- What a login has seen so far. -/
abbrev Seen : Type :=
  List (Event authRepository)

/-- The user which a login has read. -/
def snapshot (past : Seen) : Option UserWithCredentials :=
  past.findSome? fun event =>
    match event with
    | ⟨.getUserByUsername _, found⟩ => found
    | _ => none

theorem snapshot_cons {op : AuthOp} {result : op.Result} {past : Seen}
    (other : ∀ username, op ≠ .getUserByUsername username) :
    snapshot (⟨op, result⟩ :: past) = snapshot past := by
  cases op <;> first | rfl | exact absurd rfl (other _)

/-! ## What a login may do -/

/-- A failure is recorded for the user who was read, with a lock counted from the last reading of
the clock when the count which was read reaches the limit. -/
def LoginAllowed (past : Seen) : AuthOp → Prop
  | .recordLoginFailure userId lockUntil => ∃ found, snapshot past = some found ∧
      found.userId = userId ∧ (maxFailedLoginAttempts ≤ found.failedLoginAttempts + 1 →
        lockUntil.isSome)
  | .updateUser _ _ _ => False
  | _ => True

def loginScript : Protocol authRepository LoginRequest (Except LoginError LoginResult) where
  allowed _ := LoginAllowed
  promised _ _ := True
  finished _ _ _ := True

section Script

variable {request : LoginRequest} {past : Seen}

/-- Operations which a login may perform at any time. -/
def Free : AuthOp → Prop
  | .recordLoginFailure _ _ | .updateUser _ _ _ => False
  | _ => True

theorem loginAllowed_of_free {op : AuthOp} (free : Free op) : LoginAllowed past op := by
  cases op with
  | recordLoginFailure => exact free.elim
  | updateUser => exact free.elim
  | _ => trivial

theorem ensures_of_free {α : Type} {program : Program authRepository α}
    (free : program.Performs Free fun _ _ => True) (past : Seen) :
    loginScript.Ensures request (fun _ _ => True) program past := by
  induction program generalizing past with
  | done value => trivial
  | perform op rest ih =>
      exact ⟨loginAllowed_of_free free.1, fun result _ => ih result (free.2 result trivial) _⟩

/-- Reading the clock does not change what was read. -/
theorem ensures_lockUntilFor {found : UserWithCredentials} (read : snapshot past = some found) :
    loginScript.Ensures request
      (fun past lockUntil => snapshot past = some found ∧
        (maxFailedLoginAttempts ≤ found.failedLoginAttempts + 1 → lockUntil.isSome))
      (lockUntilFor (found.failedLoginAttempts + 1)) past := by
  unfold lockUntilFor
  split
  case isTrue =>
    refine ⟨trivial, fun now _ => ⟨?_, fun _ => rfl⟩⟩
    rw [snapshot_cons (by simp)]
    exact read
  case isFalse below => exact ⟨read, fun reached => absurd reached below⟩

theorem ensures_recordFailedAttempt {found : UserWithCredentials}
    (read : snapshot past = some found) :
    loginScript.Ensures request (fun _ _ => True)
      (recordFailedAttempt found.userId found.failedLoginAttempts request.requestId) past := by
  refine (ensures_lockUntilFor read).bind fun past lockUntil locked => ?_
  refine ⟨⟨found, locked.1, rfl, locked.2⟩, fun _ _ => ?_⟩
  -- What follows only reads the user and writes to the audit trail.
  refine ⟨trivial, fun user _ => ⟨trivial, fun _ _ => ?_⟩⟩
  cases lockUntil with
  | none => trivial
  | some lockedUntil => exact ⟨trivial, fun _ _ => trivial⟩

theorem free_openSession {hashing : Hashing} {candidate : User} :
    (openSession hashing request candidate).Performs Free fun _ _ => True := by
  refine Program.Performs.bind (Program.Performs.of_call trivial) fun _ => ?_
  refine Program.Performs.bind (Program.Performs.of_call trivial) fun _ => ?_
  refine Program.Performs.bind (Program.Performs.of_call trivial) fun rawToken => ?_
  refine Program.Performs.bind (Program.Performs.of_call trivial) fun now => ?_
  refine Program.Performs.bind (Program.Performs.of_call trivial) fun created => ?_
  cases created with
  | none => trivial
  | some session => exact Program.Performs.bind (Program.Performs.of_call trivial) fun _ => trivial

theorem ensures_decideLogin {hashing : Hashing} {found : Option UserWithCredentials}
    (read : snapshot past = found) (locked : Option DateTime) :
    loginScript.Ensures request (fun _ _ => True) (decideLogin hashing request found locked)
      past := by
  cases found with
  | none => exact ⟨trivial, fun _ _ => trivial⟩
  | some candidate =>
      cases locked with
      | some lockedUntil => exact ⟨trivial, fun _ _ => trivial⟩
      | none =>
          dsimp only [decideLogin]
          split
          case isTrue => exact (ensures_recordFailedAttempt read).bind fun _ _ _ => trivial
          case isFalse =>
            split
            case isTrue => exact ⟨trivial, fun _ _ => trivial⟩
            case isFalse => exact ensures_of_free free_openSession past

theorem ensures_lockOf (found : Option UserWithCredentials) (read : snapshot past = found) :
    loginScript.Ensures request (fun past _ => snapshot past = found) (lockOf found) past := by
  unfold lockOf
  split
  case h_1 =>
    refine ⟨trivial, fun now _ => ?_⟩
    exact (snapshot_cons (by simp)).trans read
  case h_2 => exact read

theorem obeys_login (hashing : Hashing) (request : LoginRequest) :
    loginScript.Obeys request (login hashing request) [] := by
  refine ⟨trivial, fun found _ => ?_⟩
  have read : snapshot [⟨.getUserByUsername request.username, found⟩] = found := by
    cases found <;> rfl
  exact (ensures_lockOf found read).bind fun past locked kept => ensures_decideLogin kept locked

end Script

/-! ## Runs -/

/-- The failures which have been recorded for a user. -/
def failures (userId : String) (pool : LoginPool) : ℕ :=
  pool.log.countP fun entry =>
    match entry.2.op with
    | .recordLoginFailure other _ => other = userId
    | _ => false

/-- The user has no successful login. -/
def Failing (userId : String) (pool : LoginPool) : LoginMove → Prop
  | .spawn _ => True
  | .advance index _ =>
      match (pool.threads[index]?).bind Thread.next with
      | some (.recordLoginSuccess other) => other ≠ userId
      | _ => True

/-- A lock counts from at most a delay before it is written. -/
def LockedWithin (userId : String) (delay : ℤ) (pool : LoginPool) : LoginMove → Prop
  | .spawn _ => True
  | .advance index input =>
      match (pool.threads[index]?).bind Thread.next with
      | some (.recordLoginFailure other (some lockUntil)) => other = userId →
          input.now + lockoutDuration - delay ≤ lockUntil
      | _ => True

/-- An attempt which reaches the limit has read a count which reaches it as well. -/
def CountUpToDate (userId : String) (pool : LoginPool) : LoginMove → Prop
  | .spawn _ => True
  | .advance index _ =>
      match pool.threads[index]?, (pool.threads[index]?).bind Thread.next with
      | some thread, some (.recordLoginFailure other _) =>
          match snapshot thread.past, pool.world.users.lookup userId with
          | some found, some row => other = userId →
              maxFailedLoginAttempts ≤ row.failedLoginAttempts + 1 →
                maxFailedLoginAttempts ≤ found.failedLoginAttempts + 1
          | _, _ => True
      | _, _ => True

/-- A run of failing attempts whose locks are written within a delay. -/
def FailingWithin (userId : String) (delay : ℤ) (pool : LoginPool) (move : LoginMove) : Prop :=
  Failing userId pool move ∧ LockedWithin userId delay pool move

/-- A run of such attempts none of which relies on an outdated count. -/
def FailingUpToDate (userId : String) (delay : ℤ) (pool : LoginPool) (move : LoginMove) : Prop :=
  FailingWithin userId delay pool move ∧ CountUpToDate userId pool move

instance {userId : String} {pool : LoginPool} {move : LoginMove} :
    Decidable (Failing userId pool move) := by
  cases move <;> unfold Failing <;> dsimp only
  · infer_instance
  · split <;> infer_instance

instance {userId : String} {delay : ℤ} {pool : LoginPool} {move : LoginMove} :
    Decidable (LockedWithin userId delay pool move) := by
  cases move <;> unfold LockedWithin <;> dsimp only
  · infer_instance
  · split <;> infer_instance

instance {userId : String} {delay : ℤ} {pool : LoginPool} {move : LoginMove} :
    Decidable (FailingWithin userId delay pool move) :=
  inferInstanceAs (Decidable (_ ∧ _))

instance {userId : String} {pool : LoginPool} {move : LoginMove} :
    Decidable (CountUpToDate userId pool move) := by
  cases move <;> unfold CountUpToDate <;> dsimp only
  · infer_instance
  · split
    · split <;> infer_instance
    · infer_instance

instance {userId : String} {delay : ℤ} {pool : LoginPool} {move : LoginMove} :
    Decidable (FailingUpToDate userId delay pool move) :=
  inferInstanceAs (Decidable (_ ∧ _))

/-- Moves from a time on. -/
def Since (now : DateTime) : LoginMove → Prop
  | .spawn _ => True
  | .advance _ input => now ≤ input.now

/-- The account is locked at least until a time, and a login which starts before is refused,
whatever others do meanwhile. -/
structure LockedUntil (hashing : Hashing) (userId : String) (time : DateTime) (store : AuthStore) :
    Prop where
  locked : ∃ row lockedUntil, store.users.lookup userId = some row ∧
    row.lockedUntil = some lockedUntil ∧ time ≤ lockedUntil
  refused : ∀ row (request : LoginRequest) (input : ℕ → AuthInput × (AuthStore → AuthStore)),
    store.users.lookup userId = some row → request.username = row.username →
    (∀ position, (input position).1.now < time) →
      ∃ lockedUntil, ((login hashing request).run exec.disturbed input 0 store).1 =
        .error (.accountLocked lockedUntil)

/-- From every failure on which brings the recorded failures to the limit, the account stays locked
for the whole duration of a lockout, up to a delay. -/
def LocksOut (hashing : Hashing) (userId : String) (guard : LoginPool → LoginMove → Prop)
    (delay : ℤ) (start : AuthStore) : Prop :=
  ∀ pool index input next, Pool.Reaches (login hashing) exec guard (.initial start) pool →
    guard pool (.advance index input) →
    pool.step (login hashing) exec (.advance index input) = some next →
    failures userId pool < failures userId next → maxFailedLoginAttempts ≤ failures userId next →
      ∀ later, Pool.Reaches (login hashing) exec
          (fun pool move => guard pool move ∧ Since input.now move) next later →
        LockedUntil hashing userId (input.now + lockoutDuration - delay) later.world

/-! ## What a step does to the user -/

/-- Operations which leave a user's row alone. -/
def Spares (userId : String) : AuthOp → Prop
  | .recordLoginFailure other _ | .recordLoginSuccess other | .updateUser other _ _ =>
      other ≠ userId
  | _ => True

theorem lookup_exec_of_spares {userId : String} {input : AuthInput} {op : AuthOp}
    {store : AuthStore} (spares : Spares userId op) :
    (exec input op store).2.users.lookup userId = store.users.lookup userId := by
  have spared {other : String} (f : UserWithCredentials → UserWithCredentials)
      (kept : ∀ row, (f row).userId = row.userId ∧ (f row).username = row.username)
      (different : other ≠ userId) :
      (store.modifyUser other f kept).users.lookup userId = store.users.lookup userId := by
    rw [AuthStore.lookup_modifyUser]
    simp [Ne.symm different]
  cases op with
  | recordLoginFailure other lockUntil =>
      refine spared _ ?_ spares
      exact fun _ => ⟨rfl, rfl⟩
  | recordLoginSuccess other =>
      refine spared _ ?_ spares
      exact fun _ => ⟨rfl, rfl⟩
  | updateUser other role active =>
      refine spared _ ?_ spares
      exact fun _ => ⟨rfl, rfl⟩
  | createSession =>
      simp only [exec, AuthStore.createSession]
      split <;> rfl
  | _ => rfl

theorem lookup_recordLoginFailure {store : AuthStore} {userId : String}
    {lockUntil : Option DateTime} {now : DateTime} {row : UserWithCredentials}
    (stored : store.users.lookup userId = some row) :
    (store.recordLoginFailure userId lockUntil now).users.lookup userId =
      some { row with
        failedLoginAttempts := row.failedLoginAttempts + 1
        lockedUntil := lockUntil.or row.lockedUntil
        updatedAt := now } := by
  rw [AuthStore.recordLoginFailure, AuthStore.lookup_modifyUser, stored,
    Option.map_some, if_pos rfl]

section Reachable

variable {hashing : Hashing} {userId : String} {start : AuthStore}
  {guard : LoginPool → LoginMove → Prop} {pool : LoginPool} {delay : ℤ}

/-- Every thread of a reachable pool follows the script. -/
theorem sound_of_reaches (reach : Pool.Reaches (login hashing) exec guard (.initial start) pool) :
    ∀ thread ∈ pool.threads, loginScript.Sound thread :=
  Protocol.sound_of_reaches (obeys_login hashing) (fun _ _ _ => trivial) rfl reach

/-- The next operation of a failing run spares the user or records a failure. -/
theorem spares_or_records {index : ℕ} {input : AuthInput}
    {thread : Thread authRepository LoginRequest (Except LoginError LoginResult)} {op : AuthOp}
    {rest : op.Result → Program authRepository (Except LoginError LoginResult)}
    (sound : loginScript.Sound thread) (selected : pool.threads[index]? = some thread)
    (head : thread.rest = .perform op rest) (failing : Failing userId pool (.advance index input)) :
    Spares userId op ∨ ∃ lockUntil, op = .recordLoginFailure userId lockUntil := by
  have next : (pool.threads[index]?).bind Thread.next = some op := by
    rw [selected, Option.bind_some]
    exact Thread.next_eq_some.mpr ⟨rest, head⟩
  have allowed : LoginAllowed thread.past op := sound.allowed head
  simp only [Failing, next] at failing
  cases op with
  | recordLoginFailure other lockUntil =>
      by_cases same : other = userId
      · subst same
        exact Or.inr ⟨lockUntil, rfl⟩
      · exact Or.inl same
  | recordLoginSuccess other => exact Or.inl failing
  | updateUser => exact allowed.elim
  | _ => exact Or.inl trivial

/-- A lock which is written lasts for the duration of a lockout, up to the delay. -/
theorem lock_of_within {index : ℕ} {input : AuthInput} {lockUntil : DateTime}
    {thread : Thread authRepository LoginRequest (Except LoginError LoginResult)}
    {rest : Unit → Program authRepository (Except LoginError LoginResult)}
    (selected : pool.threads[index]? = some thread)
    (head : thread.rest = .perform (.recordLoginFailure userId (some lockUntil)) rest)
    (within : LockedWithin userId delay pool (.advance index input)) :
    input.now + lockoutDuration - delay ≤ lockUntil := by
  have next : (pool.threads[index]?).bind Thread.next =
      some (.recordLoginFailure userId (some lockUntil)) := by
    rw [selected, Option.bind_some]
    exact Thread.next_eq_some.mpr ⟨rest, head⟩
  simp only [LockedWithin, next] at within
  exact within trivial

theorem failures_of_spares {index : ℕ}
    {thread : Thread authRepository LoginRequest (Except LoginError LoginResult)} {op : AuthOp}
    {rest : op.Result → Program authRepository (Except LoginError LoginResult)}
    {outcome : op.Result × AuthStore} (spares : Spares userId op) :
    failures userId (pool.performed index thread op rest outcome) = failures userId pool := by
  cases op with
  | recordLoginFailure other lockUntil =>
      have different : other ≠ userId := spares
      simp [failures, Pool.performed, different]
  | _ => simp [failures, Pool.performed]

theorem failures_of_record {index : ℕ} {lockUntil : Option DateTime}
    {thread : Thread authRepository LoginRequest (Except LoginError LoginResult)}
    {rest : Unit → Program authRepository (Except LoginError LoginResult)}
    {outcome : Unit × AuthStore} :
    failures userId
        (pool.performed index thread (.recordLoginFailure userId lockUntil) rest outcome) =
      failures userId pool + 1 := by
  simp [failures, Pool.performed]

/-- Without a successful login every recorded failure is counted. -/
theorem counted_of_reaches {first : UserWithCredentials}
    (stored : start.users.lookup userId = some first)
    (reach : Pool.Reaches (login hashing) exec (Failing userId) (.initial start) pool) :
    ∃ row, pool.world.users.lookup userId = some row ∧
      row.failedLoginAttempts = first.failedLoginAttempts + failures userId pool := by
  refine Pool.invariant_of_reaches ⟨first, stored, rfl⟩ (fun _ _ _ known _ => known) ?_ reach
  intro pool index thread op rest input reach known failing selected head
  obtain ⟨row, found, count⟩ := known
  have sound := sound_of_reaches reach thread (List.mem_of_getElem? selected)
  rcases spares_or_records sound selected head failing with spares | ⟨lockUntil, rfl⟩
  · refine ⟨row, ?_, ?_⟩
    · rw [Pool.performed_world, lookup_exec_of_spares spares, found]
    · rw [failures_of_spares spares, count]
  · refine ⟨_, lookup_recordLoginFailure found, ?_⟩
    rw [failures_of_record, ← add_assoc, count]

/-- A lock which is in force is only ever extended. -/
theorem locked_of_reaches {next : LoginPool} {time : DateTime}
    (before : Pool.Reaches (login hashing) exec (FailingWithin userId delay) (.initial start) next)
    (locked : ∃ row lockedUntil, next.world.users.lookup userId = some row ∧
      row.lockedUntil = some lockedUntil ∧ time + lockoutDuration - delay ≤ lockedUntil)
    (reach : Pool.Reaches (login hashing) exec
      (fun pool move => FailingWithin userId delay pool move ∧ Since time move) next pool) :
    ∃ row lockedUntil, pool.world.users.lookup userId = some row ∧
      row.lockedUntil = some lockedUntil ∧ time + lockoutDuration - delay ≤ lockedUntil := by
  refine Pool.invariant_of_reaches locked (fun _ _ _ known _ => known) ?_ reach
  rintro pool index thread op rest input reach ⟨row, lockedUntil, found, lock, late⟩
    ⟨⟨failing, within⟩, since⟩ selected head
  have sound := sound_of_reaches (before.trans (reach.mono fun _ _ guarded => guarded.1)) thread
    (List.mem_of_getElem? selected)
  rcases spares_or_records sound selected head failing with spares | ⟨lockUntil, rfl⟩
  · exact ⟨row, lockedUntil, (lookup_exec_of_spares spares).trans found, lock, late⟩
  · cases lockUntil with
    | none => exact ⟨_, lockedUntil, lookup_recordLoginFailure found, lock, late⟩
    | some lockUntil =>
        have counted := lock_of_within selected head within
        refine ⟨_, lockUntil, lookup_recordLoginFailure found, rfl, le_trans ?_ counted⟩
        exact Int.sub_le_sub_right (Int.add_le_add_right since lockoutDuration) delay

/-- An attempt which brings the recorded failures to the limit locks the account. -/
theorem locked_of_record {first : UserWithCredentials}
    (stored : start.users.lookup userId = some first)
    (reach : Pool.Reaches (login hashing) exec (FailingUpToDate userId delay) (.initial start) pool)
    {index : ℕ} {input : AuthInput}
    (guarded : FailingUpToDate userId delay pool (.advance index input)) {next : LoginPool}
    (step : pool.step (login hashing) exec (.advance index input) = some next)
    (recorded : failures userId pool < failures userId next)
    (limit : maxFailedLoginAttempts ≤ failures userId next) :
    ∃ row lockedUntil, next.world.users.lookup userId = some row ∧
      row.lockedUntil = some lockedUntil ∧ input.now + lockoutDuration - delay ≤ lockedUntil := by
  obtain ⟨⟨failing, within⟩, upToDate⟩ := guarded
  obtain ⟨thread, op, rest, selected, head, rfl⟩ := Pool.step_advance step
  have sound := sound_of_reaches reach thread (List.mem_of_getElem? selected)
  obtain ⟨row, found, count⟩ := counted_of_reaches stored
    (reach.mono fun _ _ guarded => guarded.1.1)
  rcases spares_or_records sound selected head failing with spares | ⟨lockUntil, rfl⟩
  · rw [failures_of_spares spares] at recorded
    exact absurd recorded (lt_irrefl _)
  · obtain ⟨read, snapshot_eq, sameUser, locks⟩ := sound.allowed head
    rw [failures_of_record] at limit
    have reached : maxFailedLoginAttempts ≤ row.failedLoginAttempts + 1 := by omega
    have upToDate : maxFailedLoginAttempts ≤ read.failedLoginAttempts + 1 := by
      have headed : thread.next = some (.recordLoginFailure userId lockUntil) :=
        Thread.next_eq_some.mpr ⟨rest, head⟩
      simp only [CountUpToDate, selected, Option.bind_some, headed, snapshot_eq, found] at upToDate
      exact upToDate trivial reached
    have locking := locks upToDate
    cases lockUntil with
    | none => cases locking
    | some lockUntil =>
        exact ⟨_, lockUntil, lookup_recordLoginFailure found, rfl,
          lock_of_within selected head within⟩

end Reachable

/-! ## Refusals -/

theorem getUserByUsername_of_lookup {store : AuthStore} {userId : String}
    {row : UserWithCredentials} (stored : store.users.lookup userId = some row) :
    store.getUserByUsername row.username = some row := by
  have member := Table.mem_rows_of_lookup stored
  obtain ⟨found, read⟩ : ∃ found, store.getUserByUsername row.username = some found :=
    Option.isSome_iff_exists.mp (List.find?_isSome.mpr ⟨row, member, by simp⟩)
  have same : found.username = row.username := by simpa using List.find?_some read
  rw [read, List.inj_on_of_nodup_map store.usernames (List.mem_of_find?_eq_some read) member same]

/-- A locked user is refused, whatever others do between the operations of the login. -/
theorem refused_of_locked {hashing : Hashing} {request : LoginRequest} {store : AuthStore}
    {row : UserWithCredentials} {lockedUntil : DateTime}
    {input : ℕ → AuthInput × (AuthStore → AuthStore)}
    (read : store.getUserByUsername request.username = some row)
    (lock : row.lockedUntil = some lockedUntil) (early : (input 1).1.now < lockedUntil) :
    ((login hashing request).run exec.disturbed input 0 store).1 =
      .error (.accountLocked lockedUntil) := by
  obtain ⟨user, passwordHash, failedLoginAttempts, _⟩ := row
  subst lock
  have found : (exec.disturbed (input 0) (.getUserByUsername request.username) store).1 =
      some ⟨user, passwordHash, failedLoginAttempts, some lockedUntil⟩ := read
  have inForce (world : AuthStore) :
      ((lockOf (some ⟨user, passwordHash, failedLoginAttempts, some lockedUntil⟩)).run
        exec.disturbed input 1 world).1 = some lockedUntil := if_pos early
  rw [login, Program.run_call_bind, found, Program.run_bind, inForce]
  rfl

theorem lockedUntil_of_locked {hashing : Hashing} {userId : String} {time : DateTime}
    {store : AuthStore} (locked : ∃ row lockedUntil, store.users.lookup userId = some row ∧
      row.lockedUntil = some lockedUntil ∧ time ≤ lockedUntil) :
    LockedUntil hashing userId time store := by
  refine ⟨locked, fun row request input stored named early => ?_⟩
  obtain ⟨other, lockedUntil, found, lock, late⟩ := locked
  obtain rfl : row = other := Option.some.inj (stored.symm.trans found)
  refine ⟨lockedUntil, refused_of_locked ?_ lock ((early 1).trans_le late)⟩
  rw [named]
  exact getUserByUsername_of_lookup stored

/-- However attempts overlap, they lock the account once enough of them are recorded, as
long as no attempt relies on an outdated count.  The lock lasts for the whole duration when no time
passes before it is written, and otherwise ends earlier by the delay. -/
theorem locksOut_of_upToDate (hashing : Hashing) (delay : ℤ) {userId : String} {start : AuthStore}
    {first : UserWithCredentials} (stored : start.users.lookup userId = some first) :
    LocksOut hashing userId (FailingUpToDate userId delay) delay start := by
  intro pool index input next reach guarded step recorded limit later onward
  have locked := locked_of_record stored reach guarded step recorded limit
  have before : Pool.Reaches (login hashing) exec (FailingWithin userId delay) (.initial start)
      next := (reach.mono fun _ _ guarded => guarded.1).step guarded.1 step
  exact lockedUntil_of_locked
    (locked_of_reaches before locked (onward.mono fun _ _ move => ⟨move.1.1, move.2⟩))

namespace Sample

/-- A hash function for one password. -/
def passwords : Hashing where
  sha256Hex token := "sha256:" ++ token
  verifyPassword password _ := password = "correct-horse-battery"
  dummyHash := "$argon2id$v=19$m=65536,t=3,p=4$dW51c2Vk$dW51c2Vk"

def bob : UserWithCredentials where
  userId := "USER-2"
  username := "bob"
  role := .researcher
  active := true
  createdAt := 0
  updatedAt := 0
  passwordHash := "$argon2id$v=19$m=65536,t=3,p=4$Ym9i$Ym9i"

def accounts : AuthStore where
  users := Table.empty.upsert bob
  usernames := by decide

def guess : LoginRequest where
  username := "bob"
  password := "wrong"

/-- Let one login perform some operations. -/
def advance (index count : ℕ) (now : DateTime) : List LoginMove :=
  List.replicate count (.advance index { now })

/-- Five guesses, one after the other. -/
def inTurn : List LoginMove :=
  (List.range 5).flatMap fun index => .spawn guess :: advance index (if index = 4 then 2 else 4) 20

/-- Five guesses which all read the user before the first of them fails. -/
def overlapping : List LoginMove :=
  (List.range 5).flatMap (fun index => .spawn guess :: advance index 1 10) ++
    (List.range 4).flatMap fun index => advance index 3 20

/-- The last move records the fifth failure. -/
def fifth : LoginMove :=
  .advance 4 { now := 20 }

def Fifth (guard : LoginPool → LoginMove → Prop) [∀ pool move, Decidable (guard pool move)]
    (pool : LoginPool) (next : LoginPool) : Prop :=
  guard pool fifth ∧ failures "USER-2" pool < failures "USER-2" next ∧
    maxFailedLoginAttempts ≤ failures "USER-2" next

instance {guard : LoginPool → LoginMove → Prop} [∀ pool move, Decidable (guard pool move)]
    {pool next : LoginPool} : Decidable (Fifth guard pool next) :=
  inferInstanceAs (Decidable (_ ∧ _))

theorem stored : accounts.users.lookup "USER-2" = some bob := by decide

end Sample

/-- Five guesses in turn lock the account. -/
theorem locksOut_of_sample : ∃ pool : LoginPool,
    failures "USER-2" pool = 5 ∧
      LockedUntil Sample.passwords "USER-2" (20 + lockoutDuration) pool.world := by
  obtain ⟨pool, reach, checked⟩ :
      ∃ pool, Pool.Reaches (login Sample.passwords) exec (FailingUpToDate "USER-2" 0)
          (.initial Sample.accounts) pool ∧
        (pool.step (login Sample.passwords) exec Sample.fifth).any (fun next =>
          decide (Sample.Fifth (FailingUpToDate "USER-2" 0) pool next ∧
            failures "USER-2" next = 5)) = true :=
    Pool.exists_reaches Sample.inTurn (by decide)
  obtain ⟨next, step, checked⟩ := (Option.any_eq_true _ _).mp checked
  obtain ⟨⟨guarded, recorded, limit⟩, count⟩ := of_decide_eq_true checked
  refine ⟨next, count, ?_⟩
  exact locksOut_of_upToDate Sample.passwords 0 Sample.stored pool 4
    { now := 20 } next reach guarded
    step recorded limit next .refl

/-- Five guesses which have all read the user before the first one fails never lock the account. -/
theorem not_locksOut_of_overlap :
    ¬ ∀ hashing userId start (first : UserWithCredentials),
      start.users.lookup userId = some first → first.active = true → first.lockedUntil = none →
        LocksOut hashing userId (Failing userId) 0 start := by
  intro claim
  obtain ⟨pool, reach, checked⟩ :
      ∃ pool, Pool.Reaches (login Sample.passwords) exec (Failing "USER-2")
          (.initial Sample.accounts) pool ∧
        (pool.step (login Sample.passwords) exec Sample.fifth).any (fun next =>
          decide (Sample.Fifth (Failing "USER-2") pool next ∧
            (next.world.users.lookup "USER-2").bind (·.lockedUntil) = none)) = true :=
    Pool.exists_reaches Sample.overlapping (by decide)
  obtain ⟨next, step, checked⟩ := (Option.any_eq_true _ _).mp checked
  obtain ⟨⟨guarded, recorded, limit⟩, unlocked⟩ := of_decide_eq_true checked
  obtain ⟨row, lockedUntil, found, lock, -⟩ :=
    (claim Sample.passwords "USER-2" Sample.accounts Sample.bob Sample.stored rfl rfl pool 4
      { now := 20 } next reach guarded step recorded limit next .refl).locked
  rw [found, Option.bind_some, lock] at unlocked
  cases unlocked

end ZeroShield.Auth
