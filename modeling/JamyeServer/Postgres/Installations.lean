import JamyeServer.Text
import JamyeServer.Postgres.AccountDeletion

/-!
# Push installations

`adapters/postgres/push/mutation.rs` and `feedback.rs` with the transactions of `application/push`. A
device has two keys, its installation id and its destination. Both have an advisory lock, whose number
is the hash of a text.
-/

namespace JamyeServer.Postgres.Push

open ReadCommitted Prog Text

structure UpsertPushInstallationCommand where
  id : Uuid
  userId : Uuid
  installationId : String
  platform : PushPlatform
  provider : PushProviderName
  token : String
  environment : PushEnvironment
  messagePreviewEnabled : Bool

structure UpdatePushInstallationCommand where
  userId : Uuid
  installationId : String
  token : String
  messagePreviewEnabled : Option Bool

structure DeletePushInstallationCommand where
  userId : Uuid
  installationId : String

structure PushInstallationRecord where
  id : Uuid
  userId : Uuid
  ownerEpoch : Nat
  installationId : String
  platform : PushPlatform
  provider : PushProviderName
  token : String
  environment : PushEnvironment
  messagePreviewEnabled : Bool
  lastSeenAt : Time
  disabledAt : Option Time
  deriving DecidableEq, Repr

structure UpsertPushInstallationOutcome where
  installation : PushInstallationRecord
  created : Bool
  deriving DecidableEq, Repr

section Mutation

variable (hashtextextended : String → Nat)

def requireLiveAccount (userId : Uuid) : Sql PushRepositoryError Unit := do
  let found ← selectFor .share Tables.users
    (fun s => s.one Tables.users userId fun u => u.deletedAt.isNone)
    (fun _ i _ u => if u.deletedAt = none then some i else none)
  ensure (found ≠ []) .accountNotFound

def identityKey (installationId : String) : Nat :=
  hashtextextended ("push-installation-identity:" ++ installationId)

def destinationKey (token : String) : Nat := hashtextextended ("push-installation-destination:" ++ token)

def lockIdentity (installationId : String) : Sql PushRepositoryError Unit :=
  advisory (identityKey hashtextextended installationId)

def lockDestination (token : String) : Sql PushRepositoryError Unit :=
  advisory (destinationKey hashtextextended token)

/-- The largest value of a `BIGINT`. -/
def maxBigint : Nat := 2 ^ 63 - 1

def nextOwnerEpoch (current : Nat) (changed : Bool) : Sql PushRepositoryError Nat :=
  if current = 0 then fail .invalidData
  else if changed then
    if current + 1 ≤ maxBigint then ret (current + 1) else fail .invalidData
  else ret current

def installationFromRow (id : Uuid) (r : PushInstallation) : Sql PushRepositoryError PushInstallationRecord := do
  let ownerEpoch ← nextOwnerEpoch r.ownerEpoch false
  ret ⟨id, r.userId, ownerEpoch, r.installationId, r.platform, r.provider, r.token, r.environment,
    r.messagePreviewEnabled, r.lastSeenAt, r.disabledAt⟩

/-- The live rows that match, locked in the order of their ids. -/
def lockMatching (p : Store Row → PushInstallation → Bool) :
    Sql PushRepositoryError (List (Uuid × PushInstallation)) :=
  selectFor .update Tables.pushInstallations
    (fun s => sortIds (s.ids Tables.pushInstallations fun _ r => r.deletedAt.isNone && p s r))
    (fun s i _ r => if r.deletedAt.isNone && p s r then some (i, r) else none)

def PushInstallation.hasIdentity (installationId : String) (r : PushInstallation) : Bool :=
  decide (r.installationId = installationId)

def PushInstallation.hasDestination (environment : PushEnvironment) (token : String) (r : PushInstallation) : Bool :=
  decide (r.environment = environment) && decide (r.token = token)

def insertInstallation (command : UpsertPushInstallationCommand) :
    Sql PushRepositoryError PushInstallationRecord := do
  let now ← clock
  let row : PushInstallation :=
    { userId := command.userId, installationId := command.installationId, platform := command.platform,
      provider := command.provider, token := command.token, environment := command.environment,
      messagePreviewEnabled := command.messagePreviewEnabled, lastSeenAt := now }
  insertRow (.pushInstallations command.id) row [.users command.userId] (.unavailable "push_installation_insert")
  installationFromRow command.id row

/-- The occurrence can still be sent by a worker that claims it now. -/
def PushDeliveryIntent.unleased (now : Time) (r : PushDeliveryIntent) : Bool :=
  decide (r.status = .pending) || decide (r.status = .retryable) ||
    (decide (r.status = .claimed) && r.leaseExpiresAt.any fun expiry => decide (expiry ≤ now))

def PushDeliveryIntent.rebind (now : Time) (r : PushDeliveryIntent) : PushDeliveryIntent :=
  { r with status := .failed, claimOwner := none, leaseExpiresAt := none, nextAttemptAt := none,
           lastErrorCode := some "installation_rebound", failedAt := some now }

/-- The occurrence is of the installation and of an epoch before the given one. -/
def PushDeliveryIntent.prior (installationId : Uuid) (ownerEpoch : Nat) (r : PushDeliveryIntent) : Bool :=
  decide (r.pushInstallationId = installationId) && decide (r.installationOwnerEpoch < ownerEpoch) &&
    r.deletedAt.isNone && r.status.unfinished

-- a claimed row is judged by the clock at the moment at which it is visited
def terminalizePriorOccurrences (installationId : Uuid) (ownerEpoch : Nat) : Sql PushRepositoryError Unit := do
  let _ ← update Tables.pushDeliveryIntents
    (fun s => s.ids Tables.pushDeliveryIntents fun _ r => PushDeliveryIntent.prior installationId ownerEpoch r)
    (fun _ _ now r =>
      if PushDeliveryIntent.prior installationId ownerEpoch r && PushDeliveryIntent.unleased now r then
        some (PushDeliveryIntent.rebind now r, ())
      else none)
    (.unavailable "push_occurrence_terminalize_rebound")
  ret ()

def PushDeliveryIntent.withdraw (now : Time) (r : PushDeliveryIntent) : PushDeliveryIntent :=
  let deleted := { r with deletedAt := coalesce r.deletedAt now, sourceMessageId := none, payload := .empty }
  if r.status.unfinished then
    { deleted with status := .failed, claimOwner := none, leaseExpiresAt := none, nextAttemptAt := none,
                   lastErrorCode := some "installation_deleted", failedAt := coalesce r.failedAt now }
  else deleted

def deleteInstallationState (installationId : Uuid) : Sql PushRepositoryError Unit := do
  let now ← clock
  let _ ← update Tables.pushDeliveryIntents
    (fun s => s.ids Tables.pushDeliveryIntents fun _ r =>
      decide (r.pushInstallationId = installationId) && r.deletedAt.isNone)
    (fun _ _ _ r =>
      if r.pushInstallationId = installationId ∧ r.deletedAt = none then
        some (PushDeliveryIntent.withdraw now r, ())
      else none)
    (.unavailable "push_occurrence_delete_installation")
  let deleted ← update Tables.pushInstallations
    (fun s => s.one Tables.pushInstallations installationId fun r => r.deletedAt.isNone)
    (fun _ i now r =>
      if r.deletedAt = none then some (AccountDeletion.PushInstallation.disable i now r, ()) else none)
    (.unavailable "push_installation_delete")
  ensure (deleted.length = 1) .installationNotFound

/-- `UPDATE push_installations … WHERE id = $1 RETURNING`. -/
def writeInstallation (id : Uuid) (f : Time → PushInstallation → PushInstallation) (operation : String) :
    Sql PushRepositoryError PushInstallation := do
  let rows ← update Tables.pushInstallations (fun s => s.one Tables.pushInstallations id fun _ => true)
    (fun _ _ now r => some (f now r, f now r)) (.unavailable operation)
  ofOption rows.head? (.unavailable operation)

/-- What identifies a device and its owner. -/
structure Binding where
  userId : Uuid
  installationId : String
  platform : PushPlatform
  provider : PushProviderName
  token : String
  environment : PushEnvironment
  deriving DecidableEq, Repr

def PushInstallation.binding (r : PushInstallation) : Binding :=
  ⟨r.userId, r.installationId, r.platform, r.provider, r.token, r.environment⟩

def UpsertPushInstallationCommand.binding (command : UpsertPushInstallationCommand) : Binding :=
  ⟨command.userId, command.installationId, command.platform, command.provider, command.token, command.environment⟩

def PushInstallation.rebind (command : UpsertPushInstallationCommand) (ownerEpoch : Nat) (now : Time)
    (r : PushInstallation) : PushInstallation :=
  { r with userId := command.userId, ownerEpoch := ownerEpoch, installationId := command.installationId,
           platform := command.platform, provider := command.provider, token := command.token,
           environment := command.environment, messagePreviewEnabled := command.messagePreviewEnabled,
           lastSeenAt := now, disabledAt := none }

/-- A destination that stands in another row is given up there. -/
def mergeDestination : Option (Uuid × PushInstallation) → Option (Uuid × PushInstallation) →
    Sql PushRepositoryError Unit
  | some identity, some destination =>
    if identity.1 ≠ destination.1 then deleteInstallationState destination.1 else ret ()
  | _, _ => ret ()

def rebindInstallation (command : UpsertPushInstallationCommand) (current : Uuid × PushInstallation) :
    Sql PushRepositoryError UpsertPushInstallationOutcome := do
  let rebound := decide (PushInstallation.binding current.2 ≠ command.binding)
  let ownerEpoch ← nextOwnerEpoch current.2.ownerEpoch rebound
  let row ← writeInstallation current.1 (PushInstallation.rebind command ownerEpoch) "push_installation_upsert"
  if rebound then terminalizePriorOccurrences current.1 ownerEpoch else ret ()
  let installation ← installationFromRow current.1 row
  ret ⟨installation, false⟩

def upsertInstallation (command : UpsertPushInstallationCommand) :
    Sql PushRepositoryError UpsertPushInstallationOutcome := do
  requireLiveAccount command.userId
  lockIdentity hashtextextended command.installationId
  lockDestination hashtextextended command.token
  let rows ← lockMatching fun _ r => PushInstallation.hasIdentity command.installationId r ||
    PushInstallation.hasDestination command.environment command.token r
  let identity := rows.find? fun row => PushInstallation.hasIdentity command.installationId row.2
  let destination := rows.find? fun row =>
    PushInstallation.hasDestination command.environment command.token row.2
  match identity.or destination with
  | none => do
    let installation ← insertInstallation command
    ret ⟨installation, true⟩
  | some current => do
    mergeDestination identity destination
    rebindInstallation command current

/-- `SELECT environment FROM target`. -/
def targetEnvironment (installationId : String) (s : Store Row) : Option PushEnvironment :=
  ((s.ids Tables.pushInstallations fun _ r =>
    PushInstallation.hasIdentity installationId r && r.deletedAt.isNone).head?).bind
    fun i => (s.get (.pushInstallations i)).map PushInstallation.environment

def PushInstallation.retoken (command : UpdatePushInstallationCommand) (ownerEpoch : Nat) (preview : Bool)
    (now : Time) (r : PushInstallation) : PushInstallation :=
  { r with ownerEpoch := ownerEpoch, token := command.token, messagePreviewEnabled := preview,
           lastSeenAt := now, disabledAt := none }

def retokenInstallation (command : UpdatePushInstallationCommand) (current : Uuid × PushInstallation) :
    Sql PushRepositoryError PushInstallationRecord := do
  let tokenChanged := decide (current.2.token ≠ command.token)
  let ownerEpoch ← nextOwnerEpoch current.2.ownerEpoch tokenChanged
  let preview := command.messagePreviewEnabled.getD current.2.messagePreviewEnabled
  let row ← writeInstallation current.1 (PushInstallation.retoken command ownerEpoch preview)
    "push_installation_update"
  if tokenChanged then terminalizePriorOccurrences current.1 ownerEpoch else ret ()
  installationFromRow current.1 row

def updateInstallation (command : UpdatePushInstallationCommand) :
    Sql PushRepositoryError PushInstallationRecord := do
  requireLiveAccount command.userId
  lockIdentity hashtextextended command.installationId
  lockDestination hashtextextended command.token
  let rows ← lockMatching fun s r => PushInstallation.hasIdentity command.installationId r ||
    (targetEnvironment command.installationId s).any fun environment =>
      PushInstallation.hasDestination environment command.token r
  let current ← ofOption (rows.find? fun row => PushInstallation.hasIdentity command.installationId row.2)
    .installationNotFound
  ensure (current.2.userId = command.userId) .installationNotFound
  match rows.find? fun row => decide (row.1 ≠ current.1) &&
      PushInstallation.hasDestination current.2.environment command.token row.2 with
  | some conflict => deleteInstallationState conflict.1
  | none => ret ()
  retokenInstallation command current

def deleteInstallation (command : DeletePushInstallationCommand) : Sql PushRepositoryError Unit := do
  lockIdentity hashtextextended command.installationId
  let rows ← selectFor .update Tables.pushInstallations
    (fun s => s.ids Tables.pushInstallations fun _ r =>
      PushInstallation.hasIdentity command.installationId r && decide (r.userId = command.userId) && r.deletedAt.isNone)
    (fun _ i _ r =>
      if PushInstallation.hasIdentity command.installationId r && decide (r.userId = command.userId) &&
        r.deletedAt.isNone then some i else none)
  let installationId ← ofOption rows.head? .installationNotFound
  deleteInstallationState installationId

end Mutation

section Feedback

structure PushDeliveryClaim where
  occurrenceId : Uuid
  claimOwner : String
  claimGeneration : Int
  deriving DecidableEq, Repr

structure ExpoPushDestination where
  environment : PushEnvironment
  token : String
  deriving DecidableEq, Repr

structure OccurrenceTopology where
  recipientId : Uuid
  installationId : Uuid
  installationOwnerEpoch : Nat

def maxClaimOwnerChars : Nat := 128

def maxExpoTokenChars : Nat := 512

def validateClaim (claim : PushDeliveryClaim) : Bool :=
  decide (0 < claim.claimGeneration) && decide (claim.claimOwner.length ≠ 0) &&
    decide (claim.claimOwner.length ≤ maxClaimOwnerChars) && !claim.claimOwner.toList.any isControl

def validateDestination (destination : ExpoPushDestination) : Bool :=
  decide (destination.token.length ≠ 0) && decide (destination.token.length ≤ maxExpoTokenChars) &&
    isTrimmed destination.token.toList && !destination.token.toList.any isControl

def occurrenceTopology (occurrenceId : Uuid) : Sql PushRepositoryError (Option OccurrenceTopology) := do
  let row ← select fun s => (s.get (.pushDeliveryIntents occurrenceId)).filter fun r => r.deletedAt.isNone
  match row with
  | none => ret none
  | some r =>
    if r.installationOwnerEpoch = 0 then fail .invalidData
    else ret (some ⟨r.recipientUserId, r.pushInstallationId, r.installationOwnerEpoch⟩)

def isExactInstallation (topology : OccurrenceTopology) (destination : ExpoPushDestination)
    (r : PushInstallation) : Bool :=
  decide (r.userId = topology.recipientId) && decide (r.ownerEpoch = topology.installationOwnerEpoch) &&
    decide (r.provider = .expo) &&
    PushInstallation.hasDestination destination.environment destination.token r &&
    r.disabledAt.isNone && r.deletedAt.isNone

def lockExactInstallation (topology : OccurrenceTopology) (destination : ExpoPushDestination) :
    Sql PushRepositoryError Bool := do
  let found ← selectFor .update Tables.pushInstallations
    (fun s => s.one Tables.pushInstallations topology.installationId (isExactInstallation topology destination))
    (fun _ i _ r => if isExactInstallation topology destination r then some i else none)
  ret (!found.isEmpty)

def PushDeliveryIntent.reject (now : Time) (r : PushDeliveryIntent) : PushDeliveryIntent :=
  { r with status := .failed, attemptCount := r.attemptCount + 1, claimOwner := none, leaseExpiresAt := none,
           nextAttemptAt := none, lastErrorCode := some "device_not_registered", failedAt := some now }

def isLiveClaim (claim : PushDeliveryClaim) (topology : OccurrenceTopology) (now : Time)
    (r : PushDeliveryIntent) : Bool :=
  decide (r.recipientUserId = topology.recipientId) && decide (r.pushInstallationId = topology.installationId) &&
    decide (r.installationOwnerEpoch = topology.installationOwnerEpoch) && decide (r.status = .claimed) &&
    decide (r.claimOwner = some claim.claimOwner) && decide ((r.claimGeneration : Int) = claim.claimGeneration) &&
    (r.leaseExpiresAt.any fun expiry => decide (now < expiry)) && r.deletedAt.isNone

def terminalizeLiveClaim (claim : PushDeliveryClaim) (topology : OccurrenceTopology) :
    Sql PushRepositoryError Bool := do
  let now ← clock
  let rows ← update Tables.pushDeliveryIntents
    (fun s => s.one Tables.pushDeliveryIntents claim.occurrenceId (isLiveClaim claim topology now))
    (fun _ _ _ r => if isLiveClaim claim topology now r then some (PushDeliveryIntent.reject now r, ()) else none)
    (.unavailable "push_invalid_destination_occurrence")
  ret (decide (rows.length = 1))

def disableInstallation (topology : OccurrenceTopology) (destination : ExpoPushDestination) :
    Sql PushRepositoryError Unit := do
  let rows ← update Tables.pushInstallations
    (fun s => s.one Tables.pushInstallations topology.installationId (isExactInstallation topology destination))
    (fun _ _ now r =>
      if isExactInstallation topology destination r then some ({ r with disabledAt := some now }, ()) else none)
    (.unavailable "push_invalid_destination_installation")
  ensure (rows.length = 1) .invalidData

def disableInvalidDestination (claim : PushDeliveryClaim) (destination : ExpoPushDestination) :
    Sql PushRepositoryError Bool := do
  ensure (validateClaim claim) .invalidData
  ensure (validateDestination destination) .invalidData
  let topology ← occurrenceTopology claim.occurrenceId
  match topology with
  | none => ret false
  | some topology => do
    let exact_ ← lockExactInstallation topology destination
    if exact_ then do
      let terminalized ← terminalizeLiveClaim claim topology
      if terminalized then do
        disableInstallation topology destination
        ret true
      else ret false
    else ret false

end Feedback

end JamyeServer.Postgres.Push
