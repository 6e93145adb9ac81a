import ZeroShield.Foundation.Decimal
import ZeroShield.Foundation.Encoding
import ZeroShield.Foundation.Json
import ZeroShield.Foundation.Program

/-!
# Fetching JSON

A request is sent again after a transport error or a status which may pass, with a growing pause in
between.  Any other answer ends the fetch.
-/

namespace ZeroShield.Intelligence

open Foundation

/-- No usable data were obtained from upstream. -/
structure ConnectorFetchError where
  message : String

/-- What ends a fetch other than a body. -/
inductive FetchException
  | connector (error : ConnectorFetchError)
  /-- A body is nested too deeply for the reader. -/
  | recursion
  /-- A power of two is too large for a number with a fraction. -/
  | overflow
  /-- The pause is refused. -/
  | sleep (error : String)

/-- A response, as far as it is read. -/
structure Response where
  statusCode : ℕ
  content : Bytes
  text : String

/-- Why a content is not read as JSON. -/
inductive JsonFailure
  /-- It is not JSON, or has a number with too many digits. -/
  | value (reason : String)
  /-- It is nested too deeply. -/
  | recursion

/-- A request for data. -/
structure Request where
  url : String
  params : Option (List (String × Json)) := none
  headers : Option (List (String × String)) := none

/-- What the fetch does: send a request or wait for a number of seconds. -/
inductive HttpOp
  | get (request : Request)
  | sleep (seconds : Number)

/-- A request is answered or fails on its way; a pause ends or is refused. -/
@[reducible]
def HttpOp.Result : HttpOp → Type
  | get _ => Except String Response
  | sleep _ => Except String Unit

/-- A client as an interface. -/
abbrev http : Interface where
  Op := HttpOp
  Result := HttpOp.Result

/-- Twenty-five mebibytes. -/
def maxResponseBytes : ℕ := 25 * 1024 * 1024

def retryableStatusCodes : List ℕ := [429, 500, 502, 503, 504]

/-- What follows from an answer: another attempt, for which the error is remembered, or an end. -/
inductive Attempted (Body : Type)
  | again (lastError : String)
  | done (result : Except FetchException Body)

section Fetch

variable {Body : Type} (repr : String → String) (json : Bytes → Except JsonFailure Body)
  (request : Request)

/-- Judge the answer to a request; `json` is the reader of JSON. -/
def attempted : Except String Response → Attempted Body
  | .error transportError => .again transportError
  | .ok response =>
      if response.statusCode < 300 then
        if maxResponseBytes < response.content.size then
          .done (.error (.connector
            ⟨s!"response from {request.url} exceeded the {maxResponseBytes}-byte safety " ++
              s!"limit ({response.content.size} bytes) - refusing to parse"⟩))
        else
          match json response.content with
          | .ok body => .done (.ok body)
          | .error (.value reason) =>
              .done (.error (.connector
                ⟨s!"response from {request.url} was not valid JSON: {reason}"⟩))
          | .error .recursion => .done (.error .recursion)
      else if response.statusCode ∉ retryableStatusCodes then
        .done (.error (.connector ⟨s!"request to {request.url} failed with non-retryable status " ++
          s!"{response.statusCode}: {repr (String.ofList (response.text.toList.take 200))}"⟩))
      else
        .again s!"request to {request.url} failed with retryable status {response.statusCode}"

variable (maxRetries : ℕ) (backoffSeconds : Double)

/-- The pause behind an attempt, unless the power of two is too large for the multiplication. -/
def backoff (attempt : ℕ) : Option Number :=
  if floatBound ≤ 2 ^ attempt then none
  else some (backoffSeconds.number.times (2 ^ attempt)).rounded

/-- Wait behind an attempt. -/
def pauseAfter (attempt : ℕ) : Program http (Except FetchException Unit) :=
  match backoff backoffSeconds attempt with
  | none => return .error .overflow
  | some seconds => do
      let slept : Except String Unit ← Program.call (I := http) (.sleep seconds)
      return slept.mapError .sleep

/-- The attempts which are left, from one on. -/
def fetchAttempts : (remaining attempt : ℕ) → (lastError : String) →
    Program http (Except FetchException Body)
  | 0, _, lastError =>
      return .error (.connector
        ⟨s!"request to {request.url} failed after {maxRetries + 1} attempts: {lastError}"⟩)
  | remaining + 1, attempt, _ => do
      let answer : Except String Response ← Program.call (I := http) (.get request)
      match attempted repr json request answer with
      | .done result => return result
      | .again lastError => do
          let paused ←
            if attempt < maxRetries then pauseAfter backoffSeconds attempt else pure (.ok ())
          match paused with
          | .error failure => return .error failure
          | .ok () => fetchAttempts remaining (attempt + 1) lastError

/-- Fetch JSON with a bounded number of attempts. -/
def fetchJson : Program http (Except FetchException Body) :=
  fetchAttempts repr json request maxRetries backoffSeconds (maxRetries + 1) 0 "None"

end Fetch

/-! ## Runs -/

/-- How many requests were sent, and all that was done. -/
structure Connection where
  requests : ℕ := 0
  done : List HttpOp := []

/-- A client whose answer depends on how many requests were sent before, and what becomes of a
pause. -/
def answering (answers : ℕ → Except String Response) (sleeps : Number → Except String Unit) :
    Semantics http Unit Connection
  | _, .get request, connection =>
      (answers connection.requests,
        { requests := connection.requests + 1, done := connection.done ++ [.get request] })
  | _, .sleep seconds, connection =>
      (sleeps seconds, { connection with done := connection.done ++ [.sleep seconds] })

/-- Whether another attempt may succeed after an answer. -/
def isRetryable : Except String Response → Bool
  | .error _ => true
  | .ok response => retryableStatusCodes.contains response.statusCode

/-- The last attempt: each before it is answered so that another one follows, and it is answered
otherwise unless no attempt is left. -/
structure IsLast (answers : ℕ → Except String Response) (maxRetries last : ℕ) : Prop where
  within : last ≤ maxRetries
  before : ∀ index < last, isRetryable (answers index) = true
  exhausted : isRetryable (answers last) = true → last = maxRetries

/-- A number of pauses, each behind a request, and a last request. -/
def attempts (request : Request) (pause : ℕ → Number) (first : ℕ) : ℕ → List HttpOp
  | 0 => [.get request]
  | pauses + 1 =>
      .get request :: .sleep (pause first) :: attempts request pause (first + 1) pauses

/-- The pause which is promised behind an attempt. -/
def promisedPause (backoffSeconds : Double) (attempt : ℕ) : Number :=
  backoffSeconds.number.times (2 ^ attempt)

/-- A response of a bounded size whose status is none of an error. -/
structure Response.Bounded (response : Response) : Prop where
  status : response.statusCode < 300
  size : response.content.size ≤ maxResponseBytes

theorem le_of_retryable : ∀ {code : ℕ}, code ∈ retryableStatusCodes → 300 ≤ code := by
  decide

theorem Response.Bounded.not_retryable {response : Response} (bounded : response.Bounded) :
    isRetryable (.ok response) = false := by
  rw [isRetryable, Bool.eq_false_iff]
  intro listed
  have high := le_of_retryable (List.contains_iff_mem.mp listed)
  exact absurd bounded.status (not_lt.mpr high)

section Exact

variable {Body : Type} (json : Bytes → Except JsonFailure Body) (IsJson : Bytes → Prop)

/-- The body of a bounded response with valid JSON is returned after the last attempt, and every
other answer to it is an error of the connector; the promised pauses stand between the attempts. -/
structure FetchedExactly (request : Request) (backoffSeconds : Double) (last : ℕ)
    (answer : Except String Response) (result : Except FetchException Body)
    (connection : Connection) : Prop where
  calls : connection =
    { requests := last + 1, done := attempts request (promisedPause backoffSeconds) 0 last }
  returned : ∀ response, answer = .ok response → response.Bounded → IsJson response.content →
    ∃ body, json response.content = .ok body ∧ result = .ok body
  raised : (∀ response, answer = .ok response → response.Bounded → ¬IsJson response.content) →
    ∃ error, result = .error (.connector error)

/-- The reader takes a content for JSON exactly when it is, and comes to an end. -/
def ReadsAsJson (content : Bytes) : Prop :=
  match json content with
  | .ok _ => IsJson content
  | .error (.value _) => ¬IsJson content
  | .error .recursion => False

/-- The pause behind an attempt is within the range of doubles and is not refused. -/
structure Pausable (sleeps : Number → Except String Unit) (backoffSeconds : Double)
    (attempt : ℕ) : Prop where
  few : attempt < 1024
  inRange : (promisedPause backoffSeconds attempt).InRange
  slept : sleeps (promisedPause backoffSeconds attempt) = .ok ()

/-- Every pause is possible, and a bounded body is read as what it is. -/
structure Unhindered (sleeps : Number → Except String Unit) (backoffSeconds : Double) (last : ℕ)
    (answer : Except String Response) : Prop where
  pausable : ∀ index < last, Pausable sleeps backoffSeconds index
  reads : ∀ response, answer = .ok response → response.Bounded →
    ReadsAsJson json IsJson response.content

/-- What the last answer is turned into. -/
structure Concludes (answer : Except String Response) (result : Except FetchException Body) :
    Prop where
  read : ∀ response, answer = .ok response → response.Bounded →
    match json response.content with
    | .ok body => result = .ok body
    | .error (.value _) => ∃ error, result = .error (.connector error)
    | .error .recursion => result = .error .recursion
  refused : (∀ response, answer = .ok response → ¬response.Bounded) →
    ∃ error, result = .error (.connector error)

variable {json} {repr : String → String} {request : Request} {maxRetries : ℕ}
  {backoffSeconds : Double} {answers : ℕ → Except String Response}
  {sleeps : Number → Except String Unit}

variable (repr json request) in
/-- Another attempt follows a retryable answer. -/
theorem attempted_again {answer : Except String Response} (retryable : isRetryable answer = true) :
    ∃ lastError, attempted repr json request answer = .again lastError := by
  cases answer with
  | error transportError => exact ⟨transportError, rfl⟩
  | ok response =>
      have code := List.contains_iff_mem.mp retryable
      have high : ¬ response.statusCode < 300 := not_lt.mpr (le_of_retryable code)
      unfold attempted
      dsimp only
      rw [if_neg high, if_neg (not_not_intro code)]
      exact ⟨_, rfl⟩

variable (repr json request) in
/-- Another answer ends the fetch. -/
theorem attempted_done {answer : Except String Response} (final : isRetryable answer = false) :
    ∃ result, attempted repr json request answer = .done result ∧ Concludes json answer result := by
  cases answer with
  | error => cases final
  | ok response =>
      have code : response.statusCode ∉ retryableStatusCodes := by
        intro listed
        rw [isRetryable, List.contains_iff_mem.mpr listed] at final
        cases final
      unfold attempted
      dsimp only
      by_cases bounded : response.Bounded
      · rw [if_pos bounded.status, if_neg (not_lt.mpr bounded.size)]
        have unrefused (refused : ∀ other, Except.ok (ε := String) response = .ok other →
            ¬other.Bounded) : False := refused response rfl bounded
        cases parsed : json response.content with
        | ok body =>
            refine ⟨_, rfl, ?_, fun refused => (unrefused refused).elim⟩
            rintro other ⟨⟩ -
            rw [parsed]
        | error failure =>
            cases failure with
            | value reason =>
                refine ⟨_, rfl, ?_, fun _ => ⟨_, rfl⟩⟩
                rintro other ⟨⟩ -
                rw [parsed]
                exact ⟨_, rfl⟩
            | recursion =>
                refine ⟨_, rfl, ?_, fun refused => (unrefused refused).elim⟩
                rintro other ⟨⟩ -
                rw [parsed]
      · have unbounded {result : Except FetchException Body} :
            (∃ error, result = .error (.connector error)) →
              Concludes json (.ok response) result := by
          intro refused
          refine ⟨?_, fun _ => refused⟩
          rintro other ⟨⟩ within
          exact absurd within bounded
        by_cases low : response.statusCode < 300
        · have large : maxResponseBytes < response.content.size := by
            by_contra small
            exact bounded ⟨low, not_lt.mp small⟩
          rw [if_pos low, if_pos large]
          exact ⟨_, rfl, unbounded ⟨_, rfl⟩⟩
        · rw [if_neg low, if_pos code]
          exact ⟨_, rfl, unbounded ⟨_, rfl⟩⟩

theorem sub_le_two_pow_iff {low high exponent : ℕ} (order : low + 1 < high) :
    2 ^ high - 2 ^ low ≤ 2 ^ exponent ↔ high ≤ exponent := by
  constructor
  · intro large
    by_contra few
    have small : 2 ^ exponent * 2 ≤ 2 ^ high := by
      rw [← Nat.pow_succ]
      exact Nat.pow_le_pow_right (by decide) (by omega)
    have less : 2 ^ low * 2 < 2 ^ high := by
      rw [← Nat.pow_succ]
      exact Nat.pow_lt_pow_right (by decide) order
    omega
  · exact fun many => (Nat.sub_le _ _).trans (Nat.pow_le_pow_right (by decide) many)

theorem floatBound_le_two_pow {exponent : ℕ} : floatBound ≤ 2 ^ exponent ↔ 1024 ≤ exponent := by
  rw [floatBound]
  exact sub_le_two_pow_iff (by decide)

/-- The pause behind an attempt is computed and not refused. -/
def Passes (sleeps : Number → Except String Unit) (backoffSeconds : Double) (attempt : ℕ)
    (seconds : Number) : Prop :=
  backoff backoffSeconds attempt = some seconds ∧ sleeps seconds = .ok ()

theorem Passes.eq {attempt : ℕ} {seconds : Number}
    (passes : Passes sleeps backoffSeconds attempt seconds) :
    seconds = (promisedPause backoffSeconds attempt).rounded := by
  have computed := passes.1
  rw [backoff] at computed
  split at computed
  next => cases computed
  next => exact (Option.some.inj computed).symm

theorem passes_promisedPause_iff {attempt : ℕ} :
    Passes sleeps backoffSeconds attempt (promisedPause backoffSeconds attempt) ↔
      Pausable sleeps backoffSeconds attempt := by
  have computed : backoff backoffSeconds attempt = some (promisedPause backoffSeconds attempt) ↔
      attempt < 1024 ∧ (promisedPause backoffSeconds attempt).InRange := by
    rw [← not_le, ← floatBound_le_two_pow, promisedPause, ← Double.rounded_times_iff, backoff]
    split
    next large => exact iff_of_false nofun fun pausable => pausable.1 large
    next few => rw [Option.some_inj, and_iff_right few]
  constructor
  · rintro ⟨computes, slept⟩
    exact ⟨(computed.mp computes).1, (computed.mp computes).2, slept⟩
  · rintro ⟨few, inRange, slept⟩
    exact ⟨computed.mpr ⟨few, inRange⟩, slept⟩

theorem run_pauseAfter {attempt position : ℕ} {connection : Connection} {seconds : Number}
    (passes : Passes sleeps backoffSeconds attempt seconds) :
    Program.run (answering answers sleeps) (fun _ => ()) (pauseAfter backoffSeconds attempt)
        position connection =
      (.ok (), position + 1, { connection with done := connection.done ++ [.sleep seconds] }) := by
  obtain ⟨computed, slept⟩ := passes
  unfold pauseAfter
  rw [computed]
  dsimp only
  rw [Program.run_call_bind]
  change Program.run _ _ (return Except.mapError FetchException.sleep (sleeps seconds)) _ _ = _
  rw [slept]
  rfl

/-- A pause which does not pass ends the fetch with an error which is none of the connector. -/
theorem run_pauseAfter_of_stuck (answers : ℕ → Except String Response) {attempt : ℕ}
    (position : ℕ) (connection : Connection)
    (stuck : ¬∃ seconds, Passes sleeps backoffSeconds attempt seconds) :
    ∃ failure, (∀ error, failure ≠ FetchException.connector error) ∧ ∃ position' connection',
      Program.run (answering answers sleeps) (fun _ => ()) (pauseAfter backoffSeconds attempt)
          position connection = (.error failure, position', connection') := by
  unfold pauseAfter
  cases computed : backoff backoffSeconds attempt with
  | none => exact ⟨.overflow, nofun, _, _, rfl⟩
  | some seconds =>
      cases slept : sleeps seconds with
      | ok => exact absurd ⟨seconds, computed, slept⟩ stuck
      | error error =>
          refine ⟨.sleep error, nofun, position + 1,
            { connection with done := connection.done ++ [.sleep seconds] }, ?_⟩
          dsimp only
          rw [Program.run_call_bind]
          change Program.run _ _ (return Except.mapError FetchException.sleep (sleeps seconds))
            _ _ = _
          rw [slept]
          rfl

section Attempts

variable {remaining attempt position : ℕ} {lastError : String} {done : List HttpOp}

variable (repr json request)

/-- An answer which is not retryable ends the attempts. -/
theorem run_of_done (final : isRetryable (answers attempt) = false) :
    ∃ result,
      Program.run (answering answers sleeps) (fun _ => ())
          (fetchAttempts repr json request maxRetries backoffSeconds (remaining + 1) attempt
            lastError)
          position { requests := attempt, done } =
        (result, position + 1, { requests := attempt + 1, done := done ++ [.get request] }) ∧
      Concludes json (answers attempt) result := by
  obtain ⟨result, judged, concluded⟩ := attempted_done json repr request final
  refine ⟨result, ?_, concluded⟩
  rw [fetchAttempts, Program.run_call_bind]
  change Program.run _ _ (match attempted repr json request (answers attempt) with
    | .done result => Program.done result
    | .again lastError => _) _ _ = _
  rw [judged]
  rfl

/-- A retryable answer leads to the pause, if one is due, and what follows it. -/
theorem run_of_retryable (retryable : isRetryable (answers attempt) = true) :
    ∃ error,
      Program.run (answering answers sleeps) (fun _ => ())
          (fetchAttempts repr json request maxRetries backoffSeconds (remaining + 1) attempt
            lastError)
          position { requests := attempt, done } =
        Program.run (answering answers sleeps) (fun _ => ())
          ((if attempt < maxRetries then pauseAfter backoffSeconds attempt else pure (.ok ())) >>=
            fun paused => match paused with
              | .error failure => return .error failure
              | .ok () => fetchAttempts repr json request maxRetries backoffSeconds remaining
                  (attempt + 1) error)
          (position + 1) { requests := attempt + 1, done := done ++ [.get request] } := by
  obtain ⟨error, judged⟩ := attempted_again json repr request retryable
  refine ⟨error, ?_⟩
  rw [fetchAttempts, Program.run_call_bind]
  change Program.run _ _ (match attempted repr json request (answers attempt) with
    | .done result => Program.done result
    | .again lastError => _) _ _ = _
  rw [judged]
  by_cases left : attempt < maxRetries
  · dsimp only
    rw [if_pos left, if_pos left]
    rfl
  · dsimp only
    rw [if_neg left, if_neg left]
    rfl

end Attempts

variable (repr json request) in
/-- When every pause passes, the attempts lead to the last one, whose answer decides. -/
theorem run_of_passes {last : ℕ} (isLast : IsLast answers maxRetries last) {pause : ℕ → Number}
    (passes : ∀ index < last, Passes sleeps backoffSeconds index (pause index))
    {pauses attempt remaining : ℕ} (reached : attempt + pauses = last)
    (bound : attempt + remaining = maxRetries) (lastError : String) (position : ℕ)
    (done : List HttpOp) :
    ∃ result position',
      Program.run (answering answers sleeps) (fun _ => ())
          (fetchAttempts repr json request maxRetries backoffSeconds (remaining + 1) attempt
            lastError)
          position { requests := attempt, done } =
        (result, position',
          { requests := last + 1, done := done ++ attempts request pause attempt pauses }) ∧
      Concludes json (answers last) result := by
  induction pauses generalizing attempt remaining lastError position done with
  | zero =>
      obtain rfl : attempt = last := reached
      cases retryable : isRetryable (answers attempt) with
      | false =>
          obtain ⟨result, ran, concluded⟩ := run_of_done json repr request retryable
          exact ⟨result, _, ran, concluded⟩
      | true =>
          obtain rfl := isLast.exhausted retryable
          obtain rfl : remaining = 0 := by omega
          obtain ⟨error, ran⟩ := run_of_retryable json repr request retryable
          rw [if_neg (lt_irrefl _)] at ran
          refine ⟨_, _, ran, ?_, fun _ => ⟨_, rfl⟩⟩
          intro response answered bounded
          rw [answered, bounded.not_retryable] at retryable
          cases retryable
  | succ pauses ih =>
      have before : attempt < last := by omega
      have left : attempt < maxRetries := before.trans_le isLast.within
      obtain ⟨remaining, rfl⟩ := Nat.exists_eq_succ_of_ne_zero (show remaining ≠ 0 by omega)
      obtain ⟨error, ran⟩ := run_of_retryable json repr request (isLast.before attempt before)
      obtain ⟨result, position', continued, concluded⟩ :=
        @ih (attempt + 1) remaining (by omega) (by omega) error (position + 2)
          (done ++ [.get request] ++ [.sleep (pause attempt)])
      refine ⟨result, position', ?_, concluded⟩
      rw [ran, if_pos left, Program.run_bind, run_pauseAfter (passes attempt before)]
      refine continued.trans ?_
      rw [attempts, List.append_assoc, List.append_assoc]
      rfl

variable (repr json request) in
/-- When a pause does not pass, the fetch ends with an error which is none of the connector. -/
theorem run_of_stuck {last : ℕ} (isLast : IsLast answers maxRetries last)
    {pauses attempt remaining : ℕ} (reached : attempt + pauses = last)
    (bound : attempt + remaining = maxRetries)
    (stuck : ∃ index, attempt ≤ index ∧ index < last ∧
      ¬∃ seconds, Passes sleeps backoffSeconds index seconds)
    (lastError : String) (position : ℕ) (done : List HttpOp) :
    ∃ failure, (∀ error, failure ≠ FetchException.connector error) ∧ ∃ position' connection,
      Program.run (answering answers sleeps) (fun _ => ())
          (fetchAttempts repr json request maxRetries backoffSeconds (remaining + 1) attempt
            lastError)
          position { requests := attempt, done } = (.error failure, position', connection) := by
  induction pauses generalizing attempt remaining lastError position done with
  | zero =>
      obtain ⟨index, later, earlier, -⟩ := stuck
      omega
  | succ pauses ih =>
      have before : attempt < last := by omega
      have left : attempt < maxRetries := before.trans_le isLast.within
      obtain ⟨remaining, rfl⟩ := Nat.exists_eq_succ_of_ne_zero (show remaining ≠ 0 by omega)
      obtain ⟨error, ran⟩ := run_of_retryable json repr request (isLast.before attempt before)
      by_cases own : ∃ seconds, Passes sleeps backoffSeconds attempt seconds
      · obtain ⟨seconds, passes⟩ := own
        obtain ⟨index, later, earlier, blocked⟩ := stuck
        have beyond : attempt ≠ index := by
          rintro rfl
          exact blocked ⟨seconds, passes⟩
        obtain ⟨failure, other, position', connection, continued⟩ :=
          @ih (attempt + 1) remaining (by omega) (by omega) ⟨index, by omega, earlier, blocked⟩
            error (position + 2) (done ++ [.get request] ++ [.sleep seconds])
        refine ⟨failure, other, position', connection, ?_⟩
        rw [ran, if_pos left, Program.run_bind, run_pauseAfter passes]
        exact continued
      · obtain ⟨failure, other, position', connection, paused⟩ :=
          run_pauseAfter_of_stuck answers (position + 1)
            { requests := attempt + 1, done := done ++ [.get request] } own
        refine ⟨failure, other, position', connection, ?_⟩
        rw [ran, if_pos left, Program.run_bind, paused]
        rfl

theorem exists_isLast (answers : ℕ → Except String Response) (maxRetries : ℕ) :
    ∃ last, IsLast answers maxRetries last := by
  induction maxRetries with
  | zero => exact ⟨0, le_rfl, nofun, fun _ => rfl⟩
  | succ maxRetries ih =>
      obtain ⟨last, isLast⟩ := ih
      cases retryable : isRetryable (answers last) with
      | false =>
          refine ⟨last, isLast.within.trans (Nat.le_succ _), isLast.before, fun other => ?_⟩
          exact absurd (retryable.symm.trans other) Bool.false_ne_true
      | true =>
          obtain rfl := isLast.exhausted retryable
          refine ⟨last + 1, le_rfl, fun index small => ?_, fun _ => rfl⟩
          rcases Nat.lt_succ_iff_lt_or_eq.mp small with before | rfl
          · exact isLast.before index before
          · exact retryable

theorem attempts_eq_iff {first pauses : ℕ} {pause other : ℕ → Number} :
    attempts request pause first pauses = attempts request other first pauses ↔
      ∀ index < pauses, pause (first + index) = other (first + index) := by
  induction pauses generalizing first with
  | zero => exact iff_of_true rfl nofun
  | succ pauses ih =>
      rw [attempts, attempts, List.cons_inj_right, List.cons_eq_cons, ih, HttpOp.sleep.injEq]
      have shift (index : ℕ) : first + 1 + index = first + (index + 1) := by omega
      simp only [shift]
      constructor
      · rintro ⟨head, tail⟩ index small
        cases index with
        | zero => exact head
        | succ index => exact tail index (Nat.lt_of_succ_lt_succ small)
      · intro each
        exact ⟨each 0 (Nat.succ_pos _),
          fun index small => each (index + 1) (Nat.succ_lt_succ small)⟩

section Conclusion

variable {IsJson : Bytes → Prop} {last : ℕ} {answer : Except String Response}
  {result : Except FetchException Body} {connection : Connection}

/-- The errors of an exact fetch are errors of the connector. -/
theorem FetchedExactly.error_eq {failure : FetchException}
    (exact : FetchedExactly json IsJson request backoffSeconds last answer (.error failure)
      connection) : ∃ error, failure = .connector error := by
  by_cases accepted : ∃ response, answer = .ok response ∧ response.Bounded ∧
      IsJson response.content
  · obtain ⟨response, answered, bounded, valid⟩ := accepted
    obtain ⟨body, -, same⟩ := exact.returned response answered bounded valid
    cases same
  · obtain ⟨error, same⟩ := exact.raised fun response answered bounded valid =>
      accepted ⟨response, answered, bounded, valid⟩
    exact ⟨error, Except.error.inj same⟩

/-- A body is returned by an exact fetch only for JSON. -/
theorem FetchedExactly.isJson {body : Body} {response : Response}
    (exact : FetchedExactly json IsJson request backoffSeconds last (.ok response) (.ok body)
      connection) : IsJson response.content := by
  by_contra invalid
  obtain ⟨error, same⟩ := exact.raised fun other answered _ =>
    Except.ok.inj answered ▸ invalid
  cases same

/-- An exact fetch has read the body of its last answer as what it is. -/
theorem Concludes.readsAsJson (concluded : Concludes json answer result)
    (exact : FetchedExactly json IsJson request backoffSeconds last answer result connection)
    {response : Response} (answered : answer = .ok response) (bounded : response.Bounded) :
    ReadsAsJson json IsJson response.content := by
  have read := concluded.read response answered bounded
  subst answered
  unfold ReadsAsJson
  cases parsed : json response.content with
  | ok body =>
      rw [parsed] at read
      subst read
      exact exact.isJson
  | error failure =>
      rw [parsed] at read
      cases failure with
      | value reason =>
          intro valid
          obtain ⟨body, same, -⟩ := exact.returned response rfl bounded valid
          rw [parsed] at same
          cases same
      | recursion =>
          subst read
          obtain ⟨error, same⟩ := exact.error_eq
          cases same

/-- What is concluded from an answer whose body is read as what it is. -/
theorem Concludes.exact (concluded : Concludes json answer result)
    (reads : ∀ response, answer = .ok response → response.Bounded →
      ReadsAsJson json IsJson response.content) :
    FetchedExactly json IsJson request backoffSeconds last answer result
      { requests := last + 1, done := attempts request (promisedPause backoffSeconds) 0 last } := by
  refine ⟨rfl, fun response answered bounded valid => ?_, fun invalid => ?_⟩
  · have read := concluded.read response answered bounded
    have reading := reads response answered bounded
    unfold ReadsAsJson at reading
    cases parsed : json response.content with
    | ok body =>
        rw [parsed] at read
        exact ⟨body, rfl, read⟩
    | error failure =>
        rw [parsed] at reading
        cases failure with
        | value => exact absurd valid reading
        | recursion => exact reading.elim
  · by_cases accepted : ∃ response, answer = .ok response ∧ response.Bounded
    · obtain ⟨response, answered, bounded⟩ := accepted
      have read := concluded.read response answered bounded
      have reading := reads response answered bounded
      unfold ReadsAsJson at reading
      cases parsed : json response.content with
      | ok body =>
          rw [parsed] at reading
          exact absurd reading (invalid response answered bounded)
      | error failure =>
          rw [parsed] at read reading
          cases failure with
          | value => exact read
          | recursion => exact reading.elim
    · exact concluded.refused fun response answered bounded =>
        accepted ⟨response, answered, bounded⟩

end Conclusion

/-- The fetch is exact when and only when it is unhindered up to its last attempt: every pause is
possible, and a bounded body of the last answer is read as what it is. -/
theorem fetchJson_exact_iff (json : Bytes → Except JsonFailure Body) (IsJson : Bytes → Prop)
    (repr : String → String) (request : Request) (maxRetries : ℕ) (backoffSeconds : Double)
    (answers : ℕ → Except String Response) (sleeps : Number → Except String Unit) :
    ∃ last, IsLast answers maxRetries last ∧ ∃ result position connection,
      Program.run (answering answers sleeps) (fun _ => ())
          (fetchJson repr json request maxRetries backoffSeconds) 0 {} =
        (result, position, connection) ∧
      (FetchedExactly json IsJson request backoffSeconds last (answers last) result connection ↔
        Unhindered json IsJson sleeps backoffSeconds last (answers last)) := by
  obtain ⟨last, isLast⟩ := exists_isLast answers maxRetries
  refine ⟨last, isLast, ?_⟩
  by_cases passing : ∀ index < last, ∃ seconds, Passes sleeps backoffSeconds index seconds
  · have passes (index : ℕ) (before : index < last) : Passes sleeps backoffSeconds index
        (promisedPause backoffSeconds index).rounded := by
      obtain ⟨seconds, own⟩ := passing index before
      exact own.eq ▸ own
    obtain ⟨result, position, ran, concluded⟩ := run_of_passes json repr request isLast passes
      (Nat.zero_add last) (Nat.zero_add maxRetries) "None" 0 []
    refine ⟨result, position, _, ran, ?_⟩
    rw [List.nil_append]
    constructor
    · intro exact
      refine ⟨fun index before => ?_, fun response answered bounded => ?_⟩
      · have same := attempts_eq_iff.mp (congrArg Connection.done exact.calls) index before
        rw [Nat.zero_add] at same
        exact passes_promisedPause_iff.mp (same ▸ passes index before)
      · exact concluded.readsAsJson exact answered bounded
    · rintro ⟨pausable, reads⟩
      have same (index : ℕ) (before : index < last) :
          (promisedPause backoffSeconds index).rounded = promisedPause backoffSeconds index :=
        ((passes_promisedPause_iff.mpr (pausable index before)).eq).symm
      have done : attempts request (fun index => (promisedPause backoffSeconds index).rounded) 0
          last = attempts request (promisedPause backoffSeconds) 0 last := by
        refine attempts_eq_iff.mpr fun index before => ?_
        rw [Nat.zero_add]
        exact same index before
      rw [done]
      exact concluded.exact reads
  · push Not at passing
    obtain ⟨index, before, blocked⟩ := passing
    obtain ⟨failure, other, position, connection, ran⟩ := run_of_stuck json repr request isLast
      (Nat.zero_add last) (Nat.zero_add maxRetries)
      ⟨index, Nat.zero_le _, before, not_exists.mpr blocked⟩ "None" 0 []
    refine ⟨_, position, connection, ran, iff_of_false (fun exact => ?_) fun unhindered => ?_⟩
    · obtain ⟨error, same⟩ := exact.error_eq
      exact other error same
    · exact blocked _ (passes_promisedPause_iff.mpr (unhindered.pausable index before))

end Exact

namespace HttpSample

/-- A response whose content is no JSON, though the reader takes it for a number. -/
def response : Response where
  statusCode := 200
  content := encodeUtf8 "NaN"
  text := "NaN"

/-- A reader at this content. -/
def json (content : Bytes) : Except JsonFailure Number :=
  if content.data = response.content.data then .ok .nan
  else .error (.value "Expecting value: line 1 column 1 (char 0)")

/-- Whether a content is JSON, as far as this content is concerned. -/
def IsJson (content : Bytes) : Prop :=
  content ≠ response.content

def request : Request where
  url := "https://api.first.org/data/v1/epss"

def backoffSeconds : Double where
  number := .finite 1
  held := ⟨by exact_mod_cast isDouble_natCast (show 1 ≤ 2 ^ 53 by decide), by decide +kernel⟩

end HttpSample

/-- A content which is no JSON is returned as a body. -/
theorem not_fetchedExactly_of_nan :
    ¬∃ last, IsLast (fun _ => .ok HttpSample.response) 3 last ∧ ∃ result position connection,
      Program.run (answering (fun _ => .ok HttpSample.response) fun _ => .ok ()) (fun _ => ())
          (fetchJson id HttpSample.json HttpSample.request 3 HttpSample.backoffSeconds) 0 {} =
        (result, position, connection) ∧
      FetchedExactly HttpSample.json HttpSample.IsJson HttpSample.request
        HttpSample.backoffSeconds last (.ok HttpSample.response) result connection := by
  rintro ⟨last, -, result, position, connection, ran, exact⟩
  have isLast : IsLast (fun _ => .ok HttpSample.response) 3 0 := ⟨Nat.zero_le _, nofun, nofun⟩
  have passes : ∀ index < 0, Passes (fun _ => .ok ()) HttpSample.backoffSeconds index .nan := nofun
  obtain ⟨_, _, returned, concluded⟩ :=
    run_of_passes HttpSample.json id HttpSample.request isLast passes
    (Nat.zero_add 0) (Nat.zero_add 3) "None" 0 []
  obtain ⟨rfl, -⟩ := Prod.mk.inj (returned.symm.trans ran)
  have read := concluded.read _ rfl ⟨by decide, by decide +kernel⟩
  obtain ⟨error, same⟩ := exact.raised fun other answered _ =>
    Except.ok.inj answered ▸ not_not_intro rfl
  rw [same, HttpSample.json, if_pos rfl] at read
  cases read

end ZeroShield.Intelligence
