import JamyeServer.Postgres.Auth

/-!
# The privacy fence of push deliveries

`adapters/postgres/push/privacy.rs`: when a membership or a group ends, unfinished deliveries of its
notifications are closed in the same transaction.
-/

namespace JamyeServer.Postgres.Push

open ReadCommitted Prog

inductive PushRepositoryError
  | accountNotFound
  | installationNotFound
  | invalidData
  | unavailable (operation : String)
  deriving DecidableEq, Repr

def privacyRevoked : String := "privacy_revoked"

/-- `ORDER BY id`. -/
def sortIds (is : List Uuid) : List Uuid := is.insertionSort (· ≤ ·)

def inGroup (s : Store Row) (groupId : Uuid) (conversationId : Option Uuid) : Bool :=
  conversationId.any fun c => (s.get (.chatrooms c)).any fun r => decide (r.groupId = groupId)

def lockGroupMemberships (groupId : Uuid) : Sql PushRepositoryError Unit := do
  let _ ← selectFor .update Tables.memberships
    (fun s => sortIds (s.ids Tables.memberships fun _ r => decide (r.groupId = groupId) && r.deletedAt.isNone))
    (fun _ i _ r => if r.groupId = groupId ∧ r.deletedAt = none then some i else none)
  ret ()

def lockMemberNotifications (groupId userId : Uuid) : Sql PushRepositoryError (List Uuid) :=
  selectFor .update Tables.notifications
    (fun s => sortIds (s.ids Tables.notifications fun _ r =>
      inGroup s groupId r.conversationId && decide (r.userId = userId) && r.deletedAt.isNone))
    (fun s i _ r =>
      if inGroup s groupId r.conversationId ∧ r.userId = userId ∧ r.deletedAt = none then some i else none)

def lockGroupNotifications (groupId : Uuid) : Sql PushRepositoryError (List Uuid) :=
  selectFor .update Tables.notifications
    (fun s => sortIds (s.ids Tables.notifications fun _ r =>
      inGroup s groupId r.conversationId && r.deletedAt.isNone))
    (fun s i _ r => if inGroup s groupId r.conversationId ∧ r.deletedAt = none then some i else none)

/-- The occurrence belongs to one of the notifications. -/
def ofNotifications (notificationIds : List Uuid) (r : PushDeliveryIntent) : Bool :=
  r.notificationId.any fun n => decide (n ∈ notificationIds)

def lockInstallations (notificationIds : List Uuid) : Sql PushRepositoryError Unit := do
  let _ ← selectFor .update Tables.pushInstallations
    (fun s => sortIds (s.ids Tables.pushInstallations fun i r => r.deletedAt.isNone &&
      !(s.ids Tables.pushDeliveryIntents fun _ d => ofNotifications notificationIds d &&
        d.deletedAt.isNone && decide (d.pushInstallationId = i)).isEmpty))
    (fun _ i _ r => if r.deletedAt = none then some i else none)
  ret ()

def unfinishedOf (notificationIds : List Uuid) (r : PushDeliveryIntent) : Bool :=
  ofNotifications notificationIds r && r.deletedAt.isNone && r.status.unfinished

def lockLiveOccurrences (notificationIds : List Uuid) : Sql PushRepositoryError (List Uuid) :=
  selectFor .update Tables.pushDeliveryIntents
    (fun s => sortIds (s.ids Tables.pushDeliveryIntents fun _ r => unfinishedOf notificationIds r))
    (fun _ i _ r => if unfinishedOf notificationIds r then some i else none)

def PushDeliveryIntent.terminalize (now : Time) (r : PushDeliveryIntent) : PushDeliveryIntent :=
  { r with status := .failed, claimOwner := none, leaseExpiresAt := none, nextAttemptAt := none,
           lastErrorCode := some privacyRevoked, failedAt := some now }

def terminalizeOccurrences (occurrenceIds : List Uuid) : Sql PushRepositoryError Unit := do
  if occurrenceIds.isEmpty then ret ()
  else do
    let affected ← update Tables.pushDeliveryIntents
      (fun s => s.ids Tables.pushDeliveryIntents fun i r =>
        decide (i ∈ occurrenceIds) && r.deletedAt.isNone && r.status.unfinished)
      (fun _ _ now r =>
        if r.deletedAt.isNone && r.status.unfinished then some (PushDeliveryIntent.terminalize now r, ())
        else none)
      (.unavailable "push_privacy_occurrence_terminalize")
    ensure (affected.length = occurrenceIds.length) .invalidData

def fenceNotificationOccurrences (notificationIds : List Uuid) : Sql PushRepositoryError Unit := do
  if notificationIds.isEmpty then ret ()
  else do
    lockInstallations notificationIds
    let occurrenceIds ← lockLiveOccurrences notificationIds
    terminalizeOccurrences occurrenceIds

def fenceMembershipRevocation (groupId userId : Uuid) : Sql PushRepositoryError Unit := do
  let notificationIds ← lockMemberNotifications groupId userId
  fenceNotificationOccurrences notificationIds

def fenceGroupDeletion (groupId : Uuid) : Sql PushRepositoryError Unit := do
  lockGroupMemberships groupId
  let notificationIds ← lockGroupNotifications groupId
  fenceNotificationOccurrences notificationIds

/-- The rows that the fence writes. -/
def isDelivery : Key → Prop
  | .pushDeliveryIntents _ => True
  | _ => False

lemma touches_lockInstallations (notificationIds : List Uuid) :
    (lockInstallations notificationIds).Touches isDelivery := touches_selectFor.bind fun _ => trivial

lemma touches_terminalizeOccurrences (occurrenceIds : List Uuid) :
    (terminalizeOccurrences occurrenceIds).Touches isDelivery := by
  unfold terminalizeOccurrences
  split
  · trivial
  · exact (touches_change fun _ => trivial).bind fun _ => touches_ensure

lemma touches_fenceNotificationOccurrences (notificationIds : List Uuid) :
    (fenceNotificationOccurrences notificationIds).Touches isDelivery := by
  unfold fenceNotificationOccurrences
  split
  · trivial
  · exact (touches_lockInstallations _).bind fun _ =>
      touches_selectFor.bind fun _ => touches_terminalizeOccurrences _

lemma touches_fenceMembershipRevocation (groupId userId : Uuid) :
    (fenceMembershipRevocation groupId userId).Touches isDelivery :=
  touches_selectFor.bind fun _ => touches_fenceNotificationOccurrences _

end JamyeServer.Postgres.Push
