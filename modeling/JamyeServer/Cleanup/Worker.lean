import JamyeServer.Outbox.Worker
import JamyeServer.Text

/-!
# The object deletion queue and its workers

`adapters/postgres/account_deletion/cleanup.rs` over `account_object_deletion_intents`. Workers claim intents under a
lease, ask the storage to delete the object and record the result. Each statement runs in a transaction of its own, so
it is one step; a claim lives in the memory of its worker until a result is recorded or the worker dies.
-/

namespace JamyeServer.Cleanup

open Postgres
open LeaseTable (Result)
open Outbox (durationMilliseconds)

inductive Status
  | pending | claimed | retryable | succeeded | failed | deadLetter
  deriving DecidableEq, Repr

inductive FailureCode
  | accessDenied | unavailable | unexpectedResponse | timeout
  deriving DecidableEq, Repr

def FailureCode.asStr : FailureCode → String
  | accessDenied => "access_denied"
  | unavailable => "unavailable"
  | unexpectedResponse => "unexpected_response"
  | timeout => "timeout"

structure DeletionIntent where
  objectKey : String
  createdAt : Time
  status : Status := .pending
  claimOwner : Option String := none
  claimGeneration : Nat := 0
  leaseExpiresAt : Option Time := none
  attemptCount : Nat := 0
  nextAttemptAt : Option Time := none
  deadlineAt : Option Time := none
  lastErrorCode : Option String := none
  succeededAt : Option Time := none
  failedAt : Option Time := none
  deadLetteredAt : Option Time := none
  deriving DecidableEq

/-- `length(value) BETWEEN 1 AND bound AND value = btrim(value)`. -/
def boundedText (bound : Nat) (value : String) : Bool :=
  decide (1 ≤ value.length) && decide (value.length ≤ bound) && decide (value.toList.head? ≠ some ' ') &&
    decide (value.toList.getLast? ≠ some ' ')

namespace DeletionIntent

/-- `account_object_deletion_intents_claim_state_check`. -/
def claimState (r : DeletionIntent) : Bool :=
  decide (r.status = .claimed) && r.claimOwner.isSome && r.leaseExpiresAt.isSome ||
    decide (r.status ≠ .claimed) && r.claimOwner.isNone && r.leaseExpiresAt.isNone

/-- `account_object_deletion_intents_terminal_state_check`. -/
def terminalState (r : DeletionIntent) : Bool :=
  match r.status with
  | .pending | .claimed | .retryable => r.succeededAt.isNone && r.failedAt.isNone && r.deadLetteredAt.isNone
  | .succeeded => r.succeededAt.isSome && r.failedAt.isNone && r.deadLetteredAt.isNone
  | .failed => r.succeededAt.isNone && r.failedAt.isSome && r.deadLetteredAt.isNone
  | .deadLetter => r.succeededAt.isNone && r.failedAt.isNone && r.deadLetteredAt.isSome

/-- `account_object_deletion_intents_terminal_timestamp_check`. -/
def terminalTimestamp (r : DeletionIntent) : Bool :=
  r.succeededAt.all (fun t => decide (r.createdAt ≤ t)) && r.failedAt.all (fun t => decide (r.createdAt ≤ t)) &&
    r.deadLetteredAt.all fun t => decide (r.createdAt ≤ t)

/-- The CHECK constraints of the table that its types do not already express. -/
def checks (r : DeletionIntent) : Bool :=
  boundedText 512 r.objectKey && r.claimOwner.all (boundedText 128) && r.lastErrorCode.all (boundedText 128) &&
    r.claimState && r.terminalState && r.terminalTimestamp

/-- `BIGINT` and `INTEGER`. -/
def inRange (r : DeletionIntent) : Bool := decide (r.claimGeneration < 2 ^ 63) && decide (r.attemptCount < 2 ^ 31)

/-- The rows that a claim may take. -/
def claimable (now : Time) (r : DeletionIntent) : Bool :=
  decide (r.status = .pending ∨ r.status = .retryable) && decide (r.nextAttemptAt.getD r.createdAt ≤ now) ||
    decide (r.status = .claimed) && r.leaseExpiresAt.any fun t => decide (t ≤ now)

def claim (owner : String) (leaseMilliseconds : Nat) (now : Time) (r : DeletionIntent) : DeletionIntent :=
  { r with
    status := .claimed, claimOwner := some owner, claimGeneration := r.claimGeneration + 1,
    leaseExpiresAt := some (now + leaseMilliseconds * 1000), nextAttemptAt := none }

def markDeleted (now : Time) (r : DeletionIntent) : DeletionIntent :=
  { r with
    status := .succeeded, claimOwner := none, leaseExpiresAt := none, nextAttemptAt := none, lastErrorCode := none,
    succeededAt := some now }

/-- Whether no attempt follows: it was the last allowed one, or the next would come at the deadline or after it. -/
def exhausted (retryMilliseconds maxAttempts : Nat) (now : Time) (r : DeletionIntent) : Bool :=
  decide (maxAttempts ≤ r.attemptCount + 1) || r.deadlineAt.any fun t => decide (t ≤ now + retryMilliseconds * 1000)

/-- The `CASE` expressions of the statement. -/
def recordFailure (code : FailureCode) (retryMilliseconds maxAttempts : Nat) (now : Time) (r : DeletionIntent) :
    DeletionIntent :=
  let last := exhausted retryMilliseconds maxAttempts now r
  { r with
    attemptCount := r.attemptCount + 1
    status := if code = .accessDenied then .failed else if last then .deadLetter else .retryable
    claimOwner := none
    leaseExpiresAt := none
    nextAttemptAt := if code = .accessDenied ∨ last = true then none else some (now + retryMilliseconds * 1000)
    failedAt := if code = .accessDenied then some now else none
    deadLetteredAt := if code ≠ .accessDenied ∧ last = true then some now else none
    lastErrorCode := some code.asStr }

end DeletionIntent

structure ClaimRequest where
  claimOwner : String
  batchSize : Nat
  /-- In nanoseconds. -/
  leaseDuration : Nat

structure DeletionClaim where
  intentId : Uuid
  objectKey : String
  claimOwner : String
  claimGeneration : Nat
  leaseExpiresAt : Time
  attemptCount : Nat

def maxClaimOwnerChars : Nat := 128

def validateClaimOwner (owner : String) : Bool :=
  !(decide (owner.length = 0) || decide (maxClaimOwnerChars < owner.length) || !Text.isTrimmed owner.toList ||
    owner.toList.any Text.isControl)

/-- The milliseconds of the lease. -/
def validateClaimRequest (request : ClaimRequest) : Option Nat :=
  if validateClaimOwner request.claimOwner = false ∨ request.batchSize = 0 then none
  else (durationMilliseconds request.leaseDuration).filter (· ≠ 0)

def validateClaim (claim : DeletionClaim) : Bool :=
  decide (0 < claim.claimGeneration) && validateClaimOwner claim.claimOwner

/-- The milliseconds of the delay. -/
def validateFailure (claim : DeletionClaim) (retryDelay maxAttempts : Nat) : Option Nat :=
  if validateClaim claim = false ∨ 2 ^ 31 ≤ maxAttempts ∨ maxAttempts = 0 then none
  else (durationMilliseconds retryDelay).filter (· ≠ 0)

def claimFromRow (id : Uuid) (r : DeletionIntent) : Option DeletionClaim :=
  match r.claimOwner, r.leaseExpiresAt with
  | some owner, some expiresAt =>
    if 0 < r.claimGeneration ∧ validateClaimOwner owner = true then
      some ⟨id, r.objectKey, owner, r.claimGeneration, expiresAt, r.attemptCount⟩
    else none
  | _, _ => none

/-- Whether the row is still claimed under this claim. -/
def holds (claim : DeletionClaim) (now : Time) (id : Uuid) (r : DeletionIntent) : Bool :=
  decide (id = claim.intentId) && decide (r.status = .claimed) && decide (r.claimOwner = some claim.claimOwner) &&
    decide (r.claimGeneration = claim.claimGeneration) && r.leaseExpiresAt.any fun t => decide (now < t)

/-- The table, the clock and the claims that workers hold. -/
structure State where
  now : Time
  ids : List Uuid
  rows : Uuid → Option DeletionIntent
  works : List DeletionClaim

inductive Label
  /-- Another transaction enqueues an object. -/
  | insert (id : Uuid) (objectKey : String) (createdAt : Time) (nextAttemptAt : Option Time)
  | tick (time : Time)
  | claim (request : ClaimRequest) (locked : List Uuid)
  | markDeleted (k : Nat)
  | recordFailure (k : Nat) (code : FailureCode) (retryDelay maxAttempts : Nat)
  | crash (k : Nat)

namespace State

/-- `ORDER BY COALESCE(next_attempt_at, lease_expires_at, created_at), created_at, id`. -/
def claimOrder (s : State) (i j : Uuid) : Bool :=
  match s.rows i, s.rows j with
  | some r, some r' =>
    let x := (r.nextAttemptAt.or r.leaseExpiresAt).getD r.createdAt
    let y := (r'.nextAttemptAt.or r'.leaseExpiresAt).getD r'.createdAt
    decide (x < y) || decide (x = y) && (decide (r.createdAt < r'.createdAt) ||
      decide (r.createdAt = r'.createdAt) && decide (i ≤ j))
  | _, _ => true

/-- The rows of a claim; those that other transactions have locked are skipped. -/
def candidates (s : State) (batchSize : Nat) (locked : List Uuid) : List Uuid :=
  LeaseTable.candidates s.claimOrder (DeletionIntent.claimable s.now) s.ids s.rows batchSize locked

def update (s : State) (p : Uuid → DeletionIntent → Bool) (f : DeletionIntent → DeletionIntent)
    (continue' : (Uuid → Option DeletionIntent) → State) : Result State :=
  LeaseTable.update DeletionIntent.inRange DeletionIntent.checks s.ids s.rows p f continue'

/-- The claims of a batch are lost together when one row cannot be read. -/
def claims (picked : List Uuid) (rows : Uuid → Option DeletionIntent) : List DeletionClaim :=
  if picked.all fun i => ((rows i).bind (claimFromRow i)).isSome then
    picked.filterMap fun i => (rows i).bind (claimFromRow i)
  else []

def claimObjectDeletions (s : State) (request : ClaimRequest) (locked : List Uuid) : Result State :=
  match validateClaimRequest request with
  | none => .invalidData
  | some lease =>
    let picked := s.candidates request.batchSize locked
    s.update (fun i _ => decide (i ∈ picked)) (DeletionIntent.claim request.claimOwner lease s.now)
      fun rows => { s with rows, works := claims picked rows ++ s.works }

def markObjectDeleted (s : State) (claim : DeletionClaim) (works : List DeletionClaim) : Result State :=
  if validateClaim claim then
    s.update (holds claim s.now) (DeletionIntent.markDeleted s.now) fun rows => { s with rows, works }
  else .invalidData

def recordObjectDeletionFailure (s : State) (claim : DeletionClaim) (works : List DeletionClaim) (code : FailureCode)
    (retryDelay maxAttempts : Nat) : Result State :=
  match validateFailure claim retryDelay maxAttempts with
  | none => .invalidData
  | some retry =>
    s.update (holds claim s.now) (DeletionIntent.recordFailure code retry maxAttempts s.now)
      fun rows => { s with rows, works }

def step (s : State) : Label → Result State
  | .insert id objectKey createdAt nextAttemptAt =>
    let row : DeletionIntent := { objectKey, createdAt, nextAttemptAt }
    -- `ON CONFLICT (object_key) DO NOTHING`; `created_at` was read from the clock
    if id ∈ s.ids ∨ (s.ids.any fun i => (s.rows i).any fun r => decide (r.objectKey = objectKey)) ∨ s.now < createdAt ∨
        row.checks = false then .disabled
    else .next { s with ids := id :: s.ids, rows := Function.update s.rows id (some row) }
  | .tick time => if s.now ≤ time then .next { s with now := time } else .disabled
  | .claim request locked => s.claimObjectDeletions request locked
  | .markDeleted k =>
    match s.works[k]? with
    | some claim => s.markObjectDeleted claim (s.works.eraseIdx k)
    | none => .disabled
  | .recordFailure k code retryDelay maxAttempts =>
    match s.works[k]? with
    | some claim => s.recordObjectDeletionFailure claim (s.works.eraseIdx k) code retryDelay maxAttempts
    | none => .disabled
  | .crash k => .next { s with works := s.works.eraseIdx k }

def next (s : State) (lab : Label) : Option State := (s.step lab).state?

/-- An empty table. -/
def init (now : Time) : State := ⟨now, [], fun _ => none, []⟩

end State

/-- The states that some run reaches. -/
def Reachable : State → Prop := Transition.Reachable (fun s => ∃ now, s = .init now) State.next

end JamyeServer.Cleanup
