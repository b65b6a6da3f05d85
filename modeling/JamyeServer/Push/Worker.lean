import JamyeServer.Outbox.Worker
import JamyeServer.Text

/-!
# The push delivery queue and its workers

`application/push` over `push_delivery_intents`. A worker claims occurrences under a lease; for each claim it is
authorized, asks the provider and records the outcome. Every statement is one step, so that the tasks of all workers and
the transactions that stop, fence or delete occurrences interleave in any order. What the claims' authorization finds in
other tables, what the provider answers and which requests fail is left open. The reply to a statement may be lost after
the statement took effect; `run_once` then returns an error, and with it the reports of its other tasks are gone.
-/

namespace JamyeServer.Push

open Postgres
open LeaseTable (Result)
open Outbox (checkedAdd durationMilliseconds)

structure Delivery where
  createdAt : Time
  status : DeliveryStatus := .pending
  claimOwner : Option String := none
  claimGeneration : Nat := 0
  leaseExpiresAt : Option Time := none
  attemptCount : Nat := 0
  nextAttemptAt : Option Time := none
  deadlineAt : Option Time := none
  lastErrorCode : Option String := none
  succeededAt : Option Time := none
  failedAt : Option Time := none
  deadLetteredAt : Option Time := none
  deletedAt : Option Time := none
  deriving DecidableEq

inductive PushDeliveryFailureCode
  | authorizationDenied | previewUnavailable | expoRejected | expoUnavailable | expoTimeout
  deriving DecidableEq, Repr

def PushDeliveryFailureCode.asStr : PushDeliveryFailureCode → String
  | authorizationDenied => "authorization_denied"
  | previewUnavailable => "preview_unavailable"
  | expoRejected => "expo_rejected"
  | expoUnavailable => "expo_unavailable"
  | expoTimeout => "expo_timeout"

def deviceNotRegistered : String := "device_not_registered"

namespace Delivery

/-- `push_delivery_claim_state_check`. -/
def claimState (r : Delivery) : Bool :=
  decide (r.status = .claimed) && r.claimOwner.isSome && r.leaseExpiresAt.isSome ||
    decide (r.status ≠ .claimed) && r.claimOwner.isNone && r.leaseExpiresAt.isNone

/-- `push_delivery_terminal_state_check`. -/
def terminalState (r : Delivery) : Bool :=
  match r.status with
  | .pending | .claimed | .retryable => r.succeededAt.isNone && r.failedAt.isNone && r.deadLetteredAt.isNone
  | .succeeded => r.succeededAt.isSome && r.failedAt.isNone && r.deadLetteredAt.isNone
  | .failed => r.succeededAt.isNone && r.failedAt.isSome && r.deadLetteredAt.isNone
  | .deadLetter => r.succeededAt.isNone && r.failedAt.isNone && r.deadLetteredAt.isSome

/-- `push_delivery_terminal_timestamp_check`. -/
def terminalTimestamp (r : Delivery) : Bool :=
  r.succeededAt.all (fun t => decide (r.createdAt ≤ t)) && r.failedAt.all (fun t => decide (r.createdAt ≤ t)) &&
    r.deadLetteredAt.all fun t => decide (r.createdAt ≤ t)

/-- The CHECK constraints on the columns of the queue; the columns are `VARCHAR(128)`. -/
def checks (r : Delivery) : Bool :=
  r.claimOwner.all (fun owner => decide (0 < owner.length) && decide (owner.length ≤ 128)) &&
    r.lastErrorCode.all (fun code => decide (0 < code.length) && decide (code.length ≤ 128)) &&
    r.claimState && r.terminalState && r.terminalTimestamp

/-- `BIGINT` and `INTEGER`. -/
def inRange (r : Delivery) : Bool := decide (r.claimGeneration < 2 ^ 63) && decide (r.attemptCount < 2 ^ 31)

/-- The rows that a claim may take. -/
def claimable (now : Time) (r : Delivery) : Bool :=
  r.deletedAt.isNone &&
    (decide (r.status = .pending ∨ r.status = .retryable) && decide (r.nextAttemptAt.getD r.createdAt ≤ now) ||
      decide (r.status = .claimed) && r.leaseExpiresAt.any fun t => decide (t ≤ now))

def claim (owner : String) (leaseMilliseconds : Nat) (now : Time) (r : Delivery) : Delivery :=
  { r with
    status := .claimed, claimOwner := some owner, claimGeneration := r.claimGeneration + 1,
    leaseExpiresAt := some (now + leaseMilliseconds * 1000), nextAttemptAt := none }

def markSucceeded (now : Time) (r : Delivery) : Delivery :=
  { r with
    status := .succeeded, claimOwner := none, leaseExpiresAt := none, nextAttemptAt := none, lastErrorCode := none,
    succeededAt := some now }

/-- Whether no attempt follows: it was the last allowed one, or the next would come at the deadline or after it. -/
def exhausted (retryMilliseconds maxAttempts : Nat) (now : Time) (r : Delivery) : Bool :=
  decide (maxAttempts ≤ r.attemptCount + 1) || r.deadlineAt.any fun t => decide (t ≤ now + retryMilliseconds * 1000)

def recordFailure (code : PushDeliveryFailureCode) (retryMilliseconds maxAttempts : Nat) (now : Time) (r : Delivery) :
    Delivery :=
  let last := exhausted retryMilliseconds maxAttempts now r
  { r with
    attemptCount := r.attemptCount + 1
    status := if last then .deadLetter else .retryable
    claimOwner := none
    leaseExpiresAt := none
    nextAttemptAt := if last then none else some (now + retryMilliseconds * 1000)
    deadLetteredAt := if last then some now else none
    lastErrorCode := some code.asStr }

/-- The attempt fails for good. -/
def fail (code : String) (now : Time) (r : Delivery) : Delivery :=
  { r with
    status := .failed, claimOwner := none, leaseExpiresAt := none, nextAttemptAt := none, lastErrorCode := some code,
    failedAt := some now }

def terminalizeLiveClaim (now : Time) (r : Delivery) : Delivery :=
  { r.fail deviceNotRegistered now with attemptCount := r.attemptCount + 1 }

/-- The fence of a membership or a group. -/
def terminalizeOccurrence (now : Time) (r : Delivery) : Delivery := r.fail "privacy_revoked" now

/-- The installation has a new owner. -/
def terminalizePriorOccurrence (now : Time) (r : Delivery) : Delivery := r.fail "installation_rebound" now

/-- The message or the topic was deleted. -/
def stop (deletedAt : Time) (r : Delivery) : Delivery :=
  { r with
    deletedAt := r.deletedAt.or (some deletedAt), status := .failed, claimOwner := none, leaseExpiresAt := none,
    failedAt := r.failedAt.or (some deletedAt), lastErrorCode := some "source_deleted" }

def deleteInstallationState (now : Time) (r : Delivery) : Delivery :=
  if r.status.unfinished then
    { r with
      deletedAt := r.deletedAt.or (some now), status := .failed, claimOwner := none, leaseExpiresAt := none,
      nextAttemptAt := none, lastErrorCode := some "installation_deleted", failedAt := r.failedAt.or (some now) }
  else { r with deletedAt := r.deletedAt.or (some now) }

end Delivery

structure PushWorkerConfig where
  claimOwner : String
  batchSize : Nat
  /-- The durations are in nanoseconds. -/
  leaseDuration : Nat
  providerTimeout : Nat
  leaseSafetyMargin : Nat
  retryDelay : Nat
  pollInterval : Nat
  maxAttempts : Nat

def maxPushClaimOwnerChars : Nat := 128

def validateClaimOwner (owner : String) : Bool :=
  !(decide (owner.length = 0) || decide (maxPushClaimOwnerChars < owner.length) || owner.toList.any Text.isControl)

def PushWorkerConfig.validate (c : PushWorkerConfig) : Bool :=
  match checkedAdd c.providerTimeout c.leaseSafetyMargin with
  | none => false
  | some providerBudget =>
    validateClaimOwner c.claimOwner && !(decide (c.batchSize = 0) || decide (c.maxAttempts = 0) ||
      decide (c.providerTimeout = 0) || decide (c.leaseSafetyMargin = 0) || decide (c.leaseDuration ≤ providerBudget) ||
      decide (c.retryDelay = 0) || decide (c.pollInterval = 0))

/-- A configuration that was accepted. -/
structure PushWorker where
  config : PushWorkerConfig
  valid : config.validate = true

structure ClaimedPushDelivery where
  occurrenceId : Uuid
  claimOwner : String
  claimGeneration : Nat
  claimExpiresAt : Time
  attemptCount : Nat

/-- The milliseconds of the lease. -/
def validateClaimRequest (c : PushWorkerConfig) : Option Nat :=
  if validateClaimOwner c.claimOwner = false ∨ c.batchSize = 0 then none
  else (durationMilliseconds c.leaseDuration).filter (· ≠ 0)

def validateClaim (claim : ClaimedPushDelivery) : Bool :=
  decide (0 < claim.claimGeneration) && validateClaimOwner claim.claimOwner

def deliveryClaimFromRow (id : Uuid) (r : Delivery) : Option ClaimedPushDelivery :=
  match r.claimOwner, r.leaseExpiresAt with
  | some owner, some expiresAt => some ⟨id, owner, r.claimGeneration, expiresAt, r.attemptCount⟩
  | _, _ => none

/-- Whether the row is still claimed under this claim. -/
def holds (claim : ClaimedPushDelivery) (now : Time) (r : Delivery) : Bool :=
  r.deletedAt.isNone && decide (r.status = .claimed) && decide (r.claimOwner = some claim.claimOwner) &&
    decide (r.claimGeneration = claim.claimGeneration) && r.leaseExpiresAt.any fun t => decide (now < t)

structure PushWorkerReport where
  claimed : Nat := 0
  succeeded : Nat := 0
  retries : Nat := 0
  deadLettered : Nat := 0
  invalidDestinations : Nat := 0
  authorizationDenied : Nat := 0
  staleClaims : Nat := 0
  deriving DecidableEq

def PushWorkerReport.merge (report other : PushWorkerReport) : PushWorkerReport :=
  { report with
    succeeded := report.succeeded + other.succeeded
    retries := report.retries + other.retries
    deadLettered := report.deadLettered + other.deadLettered
    invalidDestinations := report.invalidDestinations + other.invalidDestinations
    authorizationDenied := report.authorizationDenied + other.authorizationDenied
    staleClaims := report.staleClaims + other.staleClaims }

/-- What the provider answers within its time. -/
inductive ProviderAnswer
  | accepted | deviceNotRegistered | unavailable | rejected | elapsed
  deriving DecidableEq, Repr

/-- How far `process_claim` is. -/
inductive Phase
  | claimed | authorized | denied | previewUnavailable
  | answered (answer : ProviderAnswer)
  /-- It has returned its report, or an error. -/
  | ended (outcome : Option PushWorkerReport)
  deriving DecidableEq

/-- A task of a worker. -/
structure Work where
  worker : PushWorker
  /-- The call of `run_once` that it belongs to. -/
  batch : Nat
  claim : ClaimedPushDelivery
  phase : Phase

/-- What `process_claim` has returned of its occurrence. -/
def Work.outcome (w : Work) : Option (Uuid × PushWorkerReport) :=
  match w.phase with
  | .ended outcome => outcome.map fun report => (w.claim.occurrenceId, report)
  | _ => none

def Work.ended (w : Work) : Bool :=
  match w.phase with
  | .ended _ => true
  | _ => false

/-- The table, the clock and the tasks. -/
structure State where
  now : Time
  ids : List Uuid
  rows : Uuid → Option Delivery
  works : List Work
  batches : Nat
  /-- The requests to the provider by occurrence and generation. -/
  sends : List (Uuid × Nat)
  /-- The outcomes of the last statements of tasks, each with the row that it changed. -/
  outcomes : List (Uuid × PushWorkerReport)
  /-- The reports of the tasks of the calls of `run_once` that have returned; a call returns the sum of its own. -/
  reports : List (Uuid × PushWorkerReport)
  /-- The deletions of messages and topics that are in progress, each with its occurrences and the time it has read. -/
  deletions : List (List Uuid × Time)

inductive Label
  | insert (id : Uuid) (createdAt : Time)
  | tick (time : Time)
  | claim (worker : PushWorker) (locked : List Uuid)
  | authorize (k : Nat) (granted : Bool)
  | previewUnavailable (k : Nat)
  | send (k : Nat) (answer : ProviderAnswer)
  /-- Records the outcome; `current` says whether the installation still has the destination, `answered` whether the
  reply to the statement arrives. -/
  | finish (k : Nat) (current answered : Bool)
  /-- A request of the task fails. -/
  | error (k : Nat)
  /-- All tasks of a call of `run_once` have ended, and it returns. -/
  | report (batch : Nat)
  /-- The process of a worker dies in a call of `run_once`, or the reply to the claim is lost. -/
  | crash (batch : Nat)
  /-- A deletion reads the clock under the lock of the room; the occurrences of what it deletes are in the table. -/
  | delete (ids : List Uuid)
  | stop (j : Nat)
  | fence (ids : List Uuid)
  | rebind (ids : List Uuid)
  | deleteInstallation (ids : List Uuid)
  /-- Retention and the purge of an account. -/
  | purge (id : Uuid)

namespace State

/-- `ORDER BY COALESCE(next_attempt_at, lease_expires_at, created_at), created_at, id`. -/
def claimOrder (s : State) (i j : Uuid) : Bool :=
  match s.rows i, s.rows j with
  | some r, some r' =>
    let x := (r.nextAttemptAt.or r.leaseExpiresAt).getD r.createdAt
    let y := (r'.nextAttemptAt.or r'.leaseExpiresAt).getD r'.createdAt
    decide (x < y) || decide (x = y) && (decide (r.createdAt < r'.createdAt) ||
      decide (r.createdAt = r'.createdAt) && decide (i ≤ j))
  | _, _ => true

/-- The rows of a claim; those that other transactions have locked are skipped. -/
def candidates (s : State) (batchSize : Nat) (locked : List Uuid) : List Uuid :=
  LeaseTable.candidates s.claimOrder (Delivery.claimable s.now) s.ids s.rows batchSize locked

def update (s : State) (p : Uuid → Delivery → Bool) (f : Delivery → Delivery)
    (continue' : (Uuid → Option Delivery) → State) : Result State :=
  LeaseTable.update Delivery.inRange Delivery.checks s.ids s.rows p f continue'

def claims (worker : PushWorker) (batch : Nat) (picked : List Uuid) (rows : Uuid → Option Delivery) : List Work :=
  picked.filterMap fun i => ((rows i).bind (deliveryClaimFromRow i)).map fun claim => ⟨worker, batch, claim, .claimed⟩

def claimDeliveries (s : State) (worker : PushWorker) (locked : List Uuid) : Result State :=
  match validateClaimRequest worker.config with
  | none => .invalidData
  | some lease =>
    let picked := s.candidates worker.config.batchSize locked
    s.update (fun i _ => decide (i ∈ picked)) (Delivery.claim worker.config.claimOwner lease s.now)
      fun rows => { s with rows, works := claims worker s.batches picked rows ++ s.works, batches := s.batches + 1 }

/-- A statement with `WHERE id = $1` that a task ends with; the report depends on the row that it returns, and the task
has it only if the reply arrives. -/
def conclude (s : State) (k : Nat) (w : Work) (answered : Bool) (p : Delivery → Bool) (f : Delivery → Delivery)
    (report : Option Delivery → PushWorkerReport) : Result State :=
  let id := w.claim.occurrenceId
  let outcome := report (((s.rows id).filter p).map f)
  s.update (fun i r => decide (i = id) && p r) f fun rows =>
    { s with
      rows
      works := s.works.set k { w with phase := .ended (if answered then some outcome else none) }
      outcomes := (id, outcome) :: s.outcomes }

def markDeliverySucceeded (s : State) (k : Nat) (w : Work) (answered : Bool) : Result State :=
  if validateClaim w.claim then
    s.conclude k w answered (holds w.claim s.now) (Delivery.markSucceeded s.now) fun returned =>
      if returned.isSome then { succeeded := 1 } else { staleClaims := 1 }
  else .invalidData

/-- `Duration::saturating_mul`. -/
def saturatingMul (duration n : Nat) : Nat := min (duration * n) (2 ^ 64 * 10 ^ 9 - 1)

def recordFailure (s : State) (k : Nat) (w : Work) (answered : Bool) (code : PushDeliveryFailureCode)
    (maxAttempts : Nat) (report : PushWorkerReport) : Result State :=
  let retryDelay := saturatingMul w.worker.config.retryDelay (2 ^ min w.claim.attemptCount 10)
  match durationMilliseconds retryDelay with
  | none => .invalidData
  | some retry =>
    if validateClaim w.claim = false ∨ 2 ^ 31 ≤ maxAttempts ∨ maxAttempts = 0 then .invalidData
    else
      s.conclude k w answered (holds w.claim s.now) (Delivery.recordFailure code retry maxAttempts s.now)
        fun returned =>
          match returned with
          | none => { report with staleClaims := 1 }
          | some r => if r.status = .deadLetter then { report with deadLettered := 1 } else { report with retries := 1 }

/-- `current` says whether the installation is still enabled for its owner and the destination. -/
def disableInvalidDestination (s : State) (k : Nat) (w : Work) (answered current : Bool) : Result State :=
  if validateClaim w.claim then
    s.conclude k w answered (fun r => current && holds w.claim s.now r) (Delivery.terminalizeLiveClaim s.now)
      fun returned => if returned.isSome then { invalidDestinations := 1 } else { staleClaims := 1 }
  else .invalidData

/-- The last statement of `process_claim`. -/
def finish (s : State) (k : Nat) (w : Work) (current answered : Bool) : Result State :=
  match w.phase with
  | .claimed | .authorized | .ended _ => .disabled
  | .denied => s.recordFailure k w answered .authorizationDenied 1 { authorizationDenied := 1 }
  | .previewUnavailable => s.recordFailure k w answered .previewUnavailable w.worker.config.maxAttempts {}
  | .answered .accepted => s.markDeliverySucceeded k w answered
  | .answered .deviceNotRegistered => s.disableInvalidDestination k w answered current
  | .answered .unavailable => s.recordFailure k w answered .expoUnavailable w.worker.config.maxAttempts {}
  | .answered .rejected => s.recordFailure k w answered .expoRejected 1 {}
  | .answered .elapsed => s.recordFailure k w answered .expoTimeout w.worker.config.maxAttempts {}

/-- What `run_once` reports of its tasks: nothing if one of them returned an error. -/
def returned (works : List Work) : List (Uuid × PushWorkerReport) :=
  if works.all fun w => w.outcome.isSome then works.filterMap Work.outcome else []

/-- The tasks of a call of `run_once`. -/
def worksOf (s : State) (batch : Nat) : List Work := s.works.filter fun w => decide (w.batch = batch)

/-- The call of `run_once` is over. -/
def leave (s : State) (batch : Nat) (reports : List (Uuid × PushWorkerReport)) : State :=
  { s with works := s.works.filter fun w => !decide (w.batch = batch), reports := reports ++ s.reports }

/-- Whether an update of another transaction applies to the row. -/
def isLive (ids : List Uuid) (i : Uuid) (r : Delivery) : Bool := decide (i ∈ ids) && r.deletedAt.isNone && r.status.unfinished

def step (s : State) : Label → Result State
  | .insert id createdAt =>
    if id ∈ s.ids ∨ s.now < createdAt then .disabled
    else .next { s with ids := id :: s.ids, rows := Function.update s.rows id (some { createdAt }) }
  | .tick time => if s.now ≤ time then .next { s with now := time } else .disabled
  | .claim worker locked => s.claimDeliveries worker locked
  | .authorize k granted =>
    match s.works[k]? with
    | some w =>
      -- a claim that is not current is denied; a current one may be, by what is found in other tables
      if w.phase = .claimed ∧ (granted = true → (s.rows w.claim.occurrenceId).any (holds w.claim s.now) = true) then
        .next { s with works := s.works.set k { w with phase := if granted then .authorized else .denied } }
      else .disabled
    | none => .disabled
  | .previewUnavailable k =>
    match s.works[k]? with
    | some w =>
      if w.phase = .authorized then .next { s with works := s.works.set k { w with phase := .previewUnavailable } }
      else .disabled
    | none => .disabled
  | .send k answer =>
    match s.works[k]? with
    | some w =>
      if w.phase = .authorized then
        .next { s with
          works := s.works.set k { w with phase := .answered answer }
          sends := (w.claim.occurrenceId, w.claim.claimGeneration) :: s.sends }
      else .disabled
    | none => .disabled
  | .finish k current answered =>
    match s.works[k]? with
    | some w => s.finish k w current answered
    | none => .disabled
  | .error k =>
    match s.works[k]? with
    | some w => if w.ended then .disabled else .next { s with works := s.works.set k { w with phase := .ended none } }
    | none => .disabled
  | .report batch =>
    if (s.worksOf batch).all Work.ended then .next (s.leave batch (returned (s.worksOf batch))) else .disabled
  | .crash batch => .next (s.leave batch [])
  | .delete ids =>
    -- the writers of the occurrences held the lock before
    if ids ⊆ s.ids then .next { s with deletions := (ids, s.now) :: s.deletions } else .disabled
  | .stop j =>
    match s.deletions[j]? with
    | some (ids, deletedAt) => s.update (isLive ids) (Delivery.stop deletedAt) fun rows => { s with rows }
    | none => .disabled
  | .fence ids => s.update (isLive ids) (Delivery.terminalizeOccurrence s.now) fun rows => { s with rows }
  | .rebind ids =>
    s.update (fun i r => isLive ids i r && (decide (r.status ≠ .claimed) || r.leaseExpiresAt.any fun t => decide (t ≤ s.now)))
      (Delivery.terminalizePriorOccurrence s.now) fun rows => { s with rows }
  | .deleteInstallation ids =>
    s.update (fun i r => decide (i ∈ ids) && r.deletedAt.isNone) (Delivery.deleteInstallationState s.now)
      fun rows => { s with rows }
  | .purge id => .next { s with rows := Function.update s.rows id none }

def next (s : State) (lab : Label) : Option State := (s.step lab).state?

/-- An empty table. -/
def init (now : Time) : State := ⟨now, [], fun _ => none, [], 0, [], [], [], []⟩

end State

/-- All that a list of reports says of an occurrence. -/
def totalOf (reports : List (Uuid × PushWorkerReport)) (id : Uuid) : PushWorkerReport :=
  (reports.filter fun x => decide (x.1 = id)).foldr (fun x report => report.merge x.2) {}

/-- What the statements of the tasks did to an occurrence. -/
def State.outcomeOf (s : State) (id : Uuid) : PushWorkerReport := totalOf s.outcomes id

/-- What the workers report of an occurrence. -/
def State.reportOf (s : State) (id : Uuid) : PushWorkerReport := totalOf s.reports id

/-- The worker allows at most this many attempts. -/
def Label.within (attempts : Nat) : Label → Bool
  | .claim worker _ => decide (worker.config.maxAttempts ≤ attempts)
  | _ => true

/-- The runs in which no worker allows more attempts than that. -/
def RunWithin (attempts : Nat) (init : State → Prop) : List (State × Label) → State → Prop :=
  Transition.RunWhere init State.next fun _ _ lab => lab.within attempts = true

/-- The states that such a run reaches from an empty table. -/
def Reachable (attempts : Nat) (s : State) : Prop := ∃ h, RunWithin attempts (fun s => ∃ now, s = .init now) h s

/-- Such a run leads from one state to the other. -/
def Later (attempts : Nat) (s s' : State) : Prop := ∃ h, RunWithin attempts (· = s) h s'

end JamyeServer.Push
