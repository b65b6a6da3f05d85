import JamyeServer.LeaseTable
import JamyeServer.Postgres.Schema
import JamyeServer.Transition
import Mathlib.Data.List.Sort
import Mathlib.Algebra.Group.Nat.Defs

/-!
# The outbox and its workers

Workers claim rows of `outbox_events` under a lease, publish them and record the result. Each statement
runs in a transaction of its own, so it is one step. A claim lives in the memory of a worker until its
result is recorded or the worker dies, and the worker may act on it at any later time.
-/

namespace JamyeServer.Outbox

open Postgres
open LeaseTable (Result)

inductive IntentType
  | conversation | control
  deriving DecidableEq, Repr

inductive AggregateType
  | conversation | membership | group
  deriving DecidableEq, Repr

inductive Status
  | pending | claimed | published | deadLetter
  deriving DecidableEq, Repr

/-- A row with its delivery columns; the durations are in microseconds, as timestamps are. -/
structure OutboxRow extends OutboxEvent where
  intentType : IntentType
  eventType : String
  eventVersion : Int
  aggregateType : AggregateType
  status : Status := .pending
  claimOwner : Option String := none
  claimGeneration : Nat := 0
  claimExpiresAt : Option Time := none
  attemptCount : Nat := 0
  nextAttemptAt : Option Time := none
  deadlineAt : Option Time := none
  lastErrorCode : Option String := none
  publishedAt : Option Time := none
  deadLetteredAt : Option Time := none

namespace OutboxRow

/-- `outbox_claim_state_check`. -/
def claimState (r : OutboxRow) : Bool :=
  if r.status = .claimed then r.claimOwner.isSome && r.claimExpiresAt.isSome
  else r.claimOwner.isNone && r.claimExpiresAt.isNone

/-- `outbox_intent_shape_check`. -/
def intentShape (r : OutboxRow) : Bool :=
  match r.intentType with
  | .conversation => decide (r.aggregateType = .conversation) && r.conversationEventId.isSome
  | .control => decide (r.aggregateType ≠ .conversation) && r.conversationEventId.isNone

/-- `outbox_terminal_state_check`. -/
def terminalState (r : OutboxRow) : Bool :=
  match r.status with
  | .pending | .claimed => r.publishedAt.isNone && r.deadLetteredAt.isNone
  | .published => r.publishedAt.isSome && r.deadLetteredAt.isNone
  | .deadLetter => r.publishedAt.isNone && r.deadLetteredAt.isSome

/-- The CHECK constraints of the table that its types do not already express. -/
def checks (r : OutboxRow) : Bool :=
  decide (0 < r.eventType.length) && decide (0 < r.eventVersion) &&
    r.claimOwner.all (fun owner => decide (0 < owner.length)) && r.claimState && r.intentShape && r.terminalState

end OutboxRow

structure WorkerConfig where
  claimOwner : String
  batchSize : Nat
  leaseDuration : Nat
  publishTimeout : Nat
  leaseSafetyMargin : Nat
  retryDelay : Nat
  maxAttempts : Nat

/-- `Duration::checked_add`, in nanoseconds. -/
def checkedAdd (a b : Nat) : Option Nat := if a + b < 2 ^ 64 * 10 ^ 9 then some (a + b) else none

def durationMilliseconds (duration : Nat) : Option Nat :=
  if duration / 10 ^ 6 < 2 ^ 63 then some (duration / 10 ^ 6) else none

def WorkerConfig.validate (c : WorkerConfig) : Bool :=
  match checkedAdd c.publishTimeout c.leaseSafetyMargin with
  | none => false
  | some publishBudget =>
    !(c.claimOwner.isEmpty || decide (128 < c.claimOwner.utf8ByteSize) || decide (c.batchSize = 0) ||
      decide (c.maxAttempts = 0) || decide (c.leaseDuration ≤ publishBudget) || decide (c.retryDelay = 0))

/-- A worker for the rows of one intent type, with a configuration that was accepted. -/
structure Worker where
  intentType : IntentType
  config : WorkerConfig
  valid : config.validate = true

structure ClaimedOutboxEvent where
  id : Uuid
  payload : OutboxPayload
  claimOwner : String
  claimGeneration : Nat
  claimExpiresAt : Time
  attemptCount : Nat

section Statements

/-- The rows that a claim may take: pending and due, or claimed with an expired lease. -/
def claimable (intentType : IntentType) (now : Time) (r : OutboxRow) : Bool :=
  decide (r.intentType = intentType) &&
    (decide (r.status = .pending) && decide (r.nextAttemptAt.getD r.createdAt ≤ now) ||
      decide (r.status = .claimed) && r.claimExpiresAt.any fun t => decide (t ≤ now))

def OutboxRow.claim (owner : String) (leaseMilliseconds : Nat) (now : Time) (r : OutboxRow) : OutboxRow :=
  { r with
    status := .claimed, claimOwner := some owner, claimGeneration := r.claimGeneration + 1,
    claimExpiresAt := some (now + leaseMilliseconds * 1000), nextAttemptAt := none }

/-- Whether the row is still claimed under this claim. -/
def holds (intentType : IntentType) (claim : ClaimedOutboxEvent) (now : Time) (r : OutboxRow) : Bool :=
  (decide (intentType = .conversation) || decide (r.intentType = .control)) && decide (r.status = .claimed) &&
    decide (r.claimOwner = some claim.claimOwner) && decide (r.claimGeneration = claim.claimGeneration) &&
    r.claimExpiresAt.any fun t => decide (now < t)

def OutboxRow.markPublished (now : Time) (r : OutboxRow) : OutboxRow :=
  { r with
    status := .published, claimOwner := none, claimExpiresAt := none, publishedAt := some now,
    lastErrorCode := none }

/-- Whether a failure is the last one. -/
def exhausted (retryMilliseconds maxAttempts : Nat) (now : Time) (r : OutboxRow) : Bool :=
  decide (maxAttempts ≤ r.attemptCount + 1) || r.deadlineAt.any fun t => decide (t ≤ now + retryMilliseconds * 1000)

def OutboxRow.recordFailure (code : String) (retryMilliseconds maxAttempts : Nat) (now : Time) (r : OutboxRow) :
    OutboxRow :=
  let last := exhausted retryMilliseconds maxAttempts now r
  { r with
    attemptCount := r.attemptCount + 1, status := if last then .deadLetter else .pending,
    claimOwner := none, claimExpiresAt := none,
    nextAttemptAt := if last then none else some (now + retryMilliseconds * 1000),
    deadLetteredAt := if last then some now else none, lastErrorCode := some code }

end Statements

/-- `event_type` of a control intent. -/
def controlEventType : RealtimeControlIntent → String
  | .membershipRevoked _ _ => "membership.revoked"
  | .groupDeleted _ => "group.deleted"

def controlAggregateType : RealtimeControlIntent → AggregateType
  | .membershipRevoked _ _ => .membership
  | .groupDeleted _ => .group

/-- What a worker makes of a row that its claim returns; the claims of a batch are lost together when
one row does not have the shape of its intent type. -/
def claimFromRow (intentType : IntentType) (id : Uuid) (r : OutboxRow) : Option ClaimedOutboxEvent :=
  match intentType, r.claimOwner, r.claimExpiresAt with
  | .conversation, some owner, some expiresAt =>
    if r.conversationEventId.isSome then some ⟨id, r.payload, owner, r.claimGeneration, expiresAt, r.attemptCount⟩
    else none
  | .control, some owner, some expiresAt =>
    match r.payload with
    | .control intent =>
      if r.eventType = controlEventType intent ∧ r.eventVersion = 1 ∧
          r.aggregateType = controlAggregateType intent ∧ r.aggregateId = intent.aggregateId then
        some ⟨id, r.payload, owner, r.claimGeneration, expiresAt, r.attemptCount⟩
      else none
    | .conversation _ => none
  | _, _, _ => none

inductive PublishResult
  | ok | unavailable | timeout
  deriving DecidableEq, Repr

/-- How far a worker is with a claim. -/
inductive Phase
  | claimed
  | published
  | failed (code : String)
  deriving DecidableEq, Repr

def PublishResult.phase : PublishResult → Phase
  | ok => .published
  | unavailable => .failed "redis_unavailable"
  | timeout => .failed "publish_timeout"

/-- A claim in the memory of a worker. -/
structure Work where
  worker : Worker
  claim : ClaimedOutboxEvent
  phase : Phase

inductive Event
  | sent (id : Uuid) (generation : Nat)
  | published (id : Uuid) (generation : Nat)
  | failed (id : Uuid) (generation : Nat) (last : Bool)
  deriving DecidableEq, Repr

/-- The table, the clock and the memory of the workers; `log` has what happened, newest first. -/
structure State where
  now : Time
  ids : List Uuid
  rows : Uuid → Option OutboxRow
  works : List Work
  log : List Event

/-- What other transactions insert. -/
inductive NewOutboxEvent
  | conversation (eventType : String) (valid : 0 < eventType.length) (conversationId eventId : Uuid)
      (event : RealtimeEvent)
  | control (intent : RealtimeControlIntent)

def NewOutboxEvent.row (createdAt : Time) : NewOutboxEvent → OutboxRow
  | conversation eventType _ conversationId eventId event =>
    { aggregateId := conversationId, conversationEventId := some eventId, payload := .conversation event, createdAt,
      intentType := .conversation, eventType, eventVersion := 1, aggregateType := .conversation }
  | control intent =>
    { aggregateId := intent.aggregateId, conversationEventId := none, payload := .control intent, createdAt,
      intentType := .control, eventType := controlEventType intent, eventVersion := 1,
      aggregateType := controlAggregateType intent }

inductive Label
  | insert (id : Uuid) (createdAt : Time) (event : NewOutboxEvent)
  | tick (time : Time)
  | claim (worker : Worker) (locked : List Uuid)
  | publish (k : Nat) (result : PublishResult)
  | record (k : Nat)
  | crash (k : Nat)

namespace State

/-- `ORDER BY COALESCE(next_attempt_at, created_at), created_at, id`. -/
def claimOrder (s : State) (i j : Uuid) : Bool :=
  match s.rows i, s.rows j with
  | some r, some r' =>
    let x := r.nextAttemptAt.getD r.createdAt
    let y := r'.nextAttemptAt.getD r'.createdAt
    decide (x < y) || decide (x = y) && (decide (r.createdAt < r'.createdAt) ||
      decide (r.createdAt = r'.createdAt) && decide (i ≤ j))
  | _, _ => true

/-- The rows of a claim; those that other transactions have locked are skipped. -/
def candidates (s : State) (worker : Worker) (locked : List Uuid) : List Uuid :=
  LeaseTable.candidates s.claimOrder (claimable worker.intentType s.now) s.ids s.rows worker.config.batchSize locked

/-- `UPDATE` of the rows that satisfy `p`. -/
def update (s : State) (p : Uuid → OutboxRow → Bool) (f : OutboxRow → OutboxRow) : Option (Uuid → Option OutboxRow) :=
  if s.ids.all fun i => (s.rows i).all fun r => !p i r || (f r).checks then
    some fun i => (s.rows i).map fun r => if p i r then f r else r
  else none

def claim (s : State) (worker : Worker) (locked : List Uuid) : Result State :=
  match durationMilliseconds worker.config.leaseDuration with
  | none => .disabled
  | some lease =>
    let picked := s.candidates worker locked
    match s.update (fun i _ => decide (i ∈ picked)) (OutboxRow.claim worker.config.claimOwner lease s.now) with
    | none => .violation
    | some rows =>
      let claims := picked.map fun i => (rows i).bind (claimFromRow worker.intentType i)
      let works := if claims.all Option.isSome then claims.reduceOption.map fun c => ⟨worker, c, .claimed⟩ else []
      .next { s with rows, works := works ++ s.works }

/-- The statement that records the result of a claim; a claim that is no longer held changes nothing. -/
def record (s : State) (w : Work) (works : List Work) : Result State :=
  let held := fun i r => decide (i = w.claim.id) && holds w.worker.intentType w.claim s.now r
  match w.phase with
  | .claimed => .disabled
  | .published =>
    match s.update held (OutboxRow.markPublished s.now) with
    | none => .violation
    | some rows => .next { s with
        rows, works
        log := if (s.rows w.claim.id).any (held w.claim.id) then
          .published w.claim.id w.claim.claimGeneration :: s.log else s.log }
  | .failed code =>
    match durationMilliseconds w.worker.config.retryDelay with
    | none => .next { s with works }
    | some retry =>
      if 2 ^ 31 ≤ w.worker.config.maxAttempts then .next { s with works }
      else match s.update held (OutboxRow.recordFailure code retry w.worker.config.maxAttempts s.now) with
        | none => .violation
        | some rows => .next { s with
            rows, works
            log := if (s.rows w.claim.id).any (held w.claim.id) then
              .failed w.claim.id w.claim.claimGeneration
                ((s.rows w.claim.id).any (exhausted retry w.worker.config.maxAttempts s.now)) :: s.log else s.log }

def step (s : State) : Label → Result State
  | .insert id createdAt event =>
    if id ∈ s.ids then .disabled
    else if (event.row createdAt).checks = false then .violation
    else .next { s with ids := id :: s.ids, rows := Function.update s.rows id (some (event.row createdAt)) }
  | .tick time => if s.now ≤ time then .next { s with now := time } else .disabled
  | .claim worker locked => s.claim worker locked
  | .publish k result =>
    match s.works[k]? with
    | some w =>
      if w.phase = .claimed then
        .next { s with
          works := s.works.set k { w with phase := result.phase }
          log := if result = .ok then .sent w.claim.id w.claim.claimGeneration :: s.log else s.log }
      else .disabled
    | none => .disabled
  | .record k =>
    match s.works[k]? with
    | some w => s.record w (s.works.eraseIdx k)
    | none => .disabled
  | .crash k => .next { s with works := s.works.eraseIdx k }

def next (s : State) (lab : Label) : Option State := (s.step lab).state?

/-- An empty table. -/
def init (now : Time) : State := ⟨now, [], fun _ => none, [], []⟩

end State

/-- The states that some run reaches. -/
def Reachable : State → Prop := Transition.Reachable (fun s => ∃ now, s = .init now) State.next

end JamyeServer.Outbox
