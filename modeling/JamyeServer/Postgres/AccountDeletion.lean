import JamyeServer.Postgres.Push

/-!
# The start of an account's grace period

`adapters/postgres/account_deletion/preparation.rs` and `grace.rs` with the transaction
`delete_account_grace` of `application/account_deletion`.
-/

namespace JamyeServer.Postgres.AccountDeletion

open ReadCommitted Prog Auth Push

inductive AccountDeletionRepositoryError
  | accountNotFound
  | groupOwnershipTransferRequired
  | invalidData
  | unavailable (operation : String)
  deriving DecidableEq, Repr

structure AccountDeletionMembership where
  membershipId : Uuid
  groupId : Uuid
  deriving DecidableEq, Repr

structure AccountDeletionReport where
  membershipsRemoved : Nat
  cleanupIntentsEnqueued : Nat
  deriving DecidableEq, Repr

def lockAuthenticAccount (userId : Uuid) : Sql AccountDeletionRepositoryError Unit := do
  let found ← selectFor .update Tables.users
    (fun s => s.one Tables.users userId fun u =>
      u.deletedAt.isNone && (s.get (.anonymousAuthorTombstones userId)).isNone)
    (fun s i _ u =>
      if u.deletedAt = none ∧ (s.get (.anonymousAuthorTombstones i)).isNone then some i else none)
  ensure (found ≠ []) .accountNotFound

/-- The user has a live membership of the group. -/
def hasLiveMembership (s : Store Row) (groupId userId : Uuid) : Bool :=
  !(s.ids Tables.memberships fun _ m => decide (m.groupId = groupId) && decide (m.userId = userId) &&
    m.deletedAt.isNone).isEmpty

/-- The groups that the user owns or belongs to: their owner and whether they are live. -/
def lockAffectedGroups (userId : Uuid) : Sql AccountDeletionRepositoryError (List (Uuid × Uuid × Bool)) :=
  selectFor .update Tables.groups
    (fun s => sortIds (s.ids Tables.groups fun i g => decide (g.ownerId = userId) || hasLiveMembership s i userId))
    (fun s i _ g =>
      if g.ownerId = userId ∨ hasLiveMembership s i userId then some (i, g.ownerId, g.deletedAt.isNone)
      else none)

/-- The live memberships of the user, with whether their group was live in the snapshot. -/
def lockTargetMemberships (userId : Uuid) :
    Sql AccountDeletionRepositoryError (List (AccountDeletionMembership × Bool)) :=
  selectFor .update Tables.memberships
    (fun s => sortIds (s.ids Tables.memberships fun _ m => decide (m.userId = userId) && m.deletedAt.isNone &&
      (s.get (.groups m.groupId)).isSome))
    (fun s i _ m =>
      match s.get (.groups m.groupId) with
      | none => none
      | some g =>
        if m.userId = userId ∧ m.deletedAt = none then some (⟨i, m.groupId⟩, g.deletedAt.isNone) else none)

/-- The event at the notification's cursor is about a message or a topic of the user. -/
def sourceMentions (s : Store Row) (userId : Uuid) (r : Notification) : Bool :=
  !(s.ids Tables.conversationEvents fun _ e => decide (some e.conversationId = r.conversationId) &&
    decide (some e.cursor = r.sourceCursor) && e.payload.mentions userId).isEmpty

def eventMentions (s : Store Row) (userId : Uuid) (eventId : Option Uuid) : Bool :=
  eventId.any fun e => (s.get (.conversationEvents e)).any fun r => r.payload.mentions userId

def installationOf (s : Store Row) (userId : Uuid) (id : Uuid) : Bool :=
  (s.get (.pushInstallations id)).any fun r => decide (r.userId = userId)

def notificationOf (s : Store Row) (userId : Uuid) (id : Option Uuid) : Bool :=
  id.any fun n => (s.get (.notifications n)).any fun r => decide (r.userId = userId)

def lockTargetNotifications (userId : Uuid) : Sql AccountDeletionRepositoryError Unit := do
  let affected := fun (s : Store Row) (i : Uuid) (r : Notification) =>
    decide (r.userId = userId) || sourceMentions s userId r ||
      !(s.ids Tables.pushDeliveryIntents fun _ d => decide (d.notificationId = some i) &&
        (s.get (.pushInstallations d.pushInstallationId)).isSome &&
        (decide (d.recipientUserId = userId) || installationOf s userId d.pushInstallationId)).isEmpty
  let _ ← selectFor .update Tables.notifications
    (fun s => sortIds (s.ids Tables.notifications fun i r => affected s i r))
    (fun s i _ r => if affected s i r then some i else none)
  ret ()

def lockReferencedInstallations (userId : Uuid) : Sql AccountDeletionRepositoryError Unit := do
  let affected := fun (s : Store Row) (i : Uuid) (r : PushInstallation) =>
    decide (r.userId = userId) ||
      !(s.ids Tables.pushDeliveryIntents fun _ d => decide (d.pushInstallationId = i) &&
        (d.notificationId.any fun n => (s.get (.notifications n)).isSome) &&
        (decide (d.recipientUserId = userId) || notificationOf s userId d.notificationId ||
          eventMentions s userId d.sourceEventId)).isEmpty
  let _ ← selectFor .update Tables.pushInstallations
    (fun s => sortIds (s.ids Tables.pushInstallations fun i r => affected s i r))
    (fun s i _ r => if affected s i r then some i else none)
  ret ()

/-- The occurrences of notifications and installations that the account's end touches. -/
def referencedOccurrence (userId : Uuid) (s : Store Row) (r : PushDeliveryIntent) : Bool :=
  (r.notificationId.any fun n => (s.get (.notifications n)).isSome) &&
    (s.get (.pushInstallations r.pushInstallationId)).isSome &&
    (decide (r.recipientUserId = userId) || notificationOf s userId r.notificationId ||
      installationOf s userId r.pushInstallationId || eventMentions s userId r.sourceEventId)

def lockReferencedOccurrences (userId : Uuid) : Sql AccountDeletionRepositoryError Unit := do
  let _ ← selectFor .update Tables.pushDeliveryIntents
    (fun s => sortIds (s.ids Tables.pushDeliveryIntents fun _ r => referencedOccurrence userId s r))
    (fun s i _ r => if referencedOccurrence userId s r then some i else none)
  ret ()

def prepareDeletion (userId : Uuid) :
    Sql AccountDeletionRepositoryError (List AccountDeletionMembership) := do
  lockAuthenticAccount userId
  let groups ← lockAffectedGroups userId
  ensure ((groups.any fun g => g.2.2 && decide (g.2.1 = userId)) = false) .groupOwnershipTransferRequired
  let memberships ← lockTargetMemberships userId
  lockTargetNotifications userId
  lockReferencedInstallations userId
  lockReferencedOccurrences userId
  ret ((memberships.filter Prod.snd).map Prod.fst)

def User.markDeleted (now : Time) (u : User) : User :=
  { u with deletedAt := some now, accountPurgeClaimOwner := none, accountPurgeClaimExpiresAt := none }

def markUserDeleted (userId : Uuid) : Sql AccountDeletionRepositoryError Time := do
  let now ← clock
  let marked ← update Tables.users (fun s => s.one Tables.users userId fun u => u.deletedAt.isNone)
    (fun _ _ _ u => if u.deletedAt = none then some (User.markDeleted now u, now) else none)
    (.unavailable "account_grace_user_mark")
  ofOption marked.head? .accountNotFound

def Membership.markDeleted (deletedAt : Time) (m : Membership) : Membership :=
  { m with deletedAt := some deletedAt, accountDeletedAt := some deletedAt }

def markMembershipsDeleted (userId : Uuid) (deletedAt : Time) :
    Sql AccountDeletionRepositoryError (List Uuid) := do
  let rows ← update Tables.memberships
    (fun s => s.ids Tables.memberships fun _ m => decide (m.userId = userId) && m.deletedAt.isNone &&
      (s.get (.groups m.groupId)).isSome)
    (fun s _ _ m =>
      match s.get (.groups m.groupId) with
      | none => none
      | some g =>
        if m.userId = userId ∧ m.deletedAt = none then
          some (Membership.markDeleted deletedAt m, if g.deletedAt = none then some m.groupId else none)
        else none)
    (.unavailable "account_grace_membership_mark")
  ret (rows.filterMap id)

def revokeRefreshSessions (userId : Uuid) (deletedAt : Time) : Sql AccountDeletionRepositoryError Unit := do
  let _ ← update Tables.refreshSessions
    (fun s => s.ids Tables.refreshSessions fun _ r => decide (r.userId = userId) && r.deletedAt.isNone)
    (fun _ _ _ r =>
      if r.userId = userId ∧ r.deletedAt = none then
        some (RefreshSession.delete deletedAt (RefreshSession.revoke deletedAt r), ())
      else none)
    (.unavailable "account_grace_refresh_revoke")
  ret ()

def PushInstallation.disable (id : Uuid) (deletedAt : Time) (r : PushInstallation) : PushInstallation :=
  { r with disabledAt := coalesce r.disabledAt deletedAt, deletedAt := coalesce r.deletedAt deletedAt,
           installationId := "deleted-" ++ uuidText id, token := "deleted-" ++ uuidText id }

def disablePushInstallations (userId : Uuid) (deletedAt : Time) : Sql AccountDeletionRepositoryError Unit := do
  let _ ← update Tables.pushInstallations
    (fun s => s.ids Tables.pushInstallations fun _ r => decide (r.userId = userId) && r.deletedAt.isNone)
    (fun _ i _ r =>
      if r.userId = userId ∧ r.deletedAt = none then some (PushInstallation.disable i deletedAt r, ())
      else none)
    (.unavailable "account_grace_push_disable")
  ret ()

def AuthIdentity.delete (deletedAt : Time) (r : AuthIdentity) : AuthIdentity :=
  { r with deletedAt := coalesce r.deletedAt deletedAt }

def softDeleteAuthIdentities (userId : Uuid) (deletedAt : Time) : Sql AccountDeletionRepositoryError Unit := do
  let _ ← update Tables.authIdentities
    (fun s => s.ids Tables.authIdentities fun _ r => decide (r.userId = userId) && r.deletedAt.isNone)
    (fun _ _ _ r =>
      if r.userId = userId ∧ r.deletedAt = none then some (AuthIdentity.delete deletedAt r, ()) else none)
    (.unavailable "account_grace_identity_mark")
  ret ()

def insertControlIntent (intent : RealtimeControlIntent) : Sql AccountDeletionRepositoryError Unit := do
  let controlId ← fresh
  let now ← clock
  insertRow (.outboxEvents controlId)
    { aggregateId := intent.aggregateId, conversationEventId := none, payload := .control intent,
      createdAt := now } []
    (.unavailable "account_grace_realtime_control")

def appendRealtimeRevocations (userId : Uuid) (liveGroupIds : List Uuid) :
    Sql AccountDeletionRepositoryError Unit :=
  each (fun groupId => insertControlIntent (.membershipRevoked groupId userId)) liveGroupIds

def startGracePeriod (userId : Uuid) : Sql AccountDeletionRepositoryError AccountDeletionReport := do
  let deletedAt ← markUserDeleted userId
  let liveGroupIds ← markMembershipsDeleted userId deletedAt
  revokeRefreshSessions userId deletedAt
  disablePushInstallations userId deletedAt
  softDeleteAuthIdentities userId deletedAt
  appendRealtimeRevocations userId liveGroupIds
  ret ⟨0, 0⟩

inductive AccountDeletionError
  | accountNotFound
  | groupOwnershipTransferRequired
  | databaseUnavailable
  deriving DecidableEq, Repr

def accountDeletionError : AccountDeletionRepositoryError → AccountDeletionError
  | .accountNotFound => .accountNotFound
  | .groupOwnershipTransferRequired => .groupOwnershipTransferRequired
  | .invalidData | .unavailable _ => .databaseUnavailable

/-- The transaction that starts an account's grace period. -/
def deleteAccountGrace (userId : Uuid) : Sql AccountDeletionError AccountDeletionReport := do
  let memberships ← mapError accountDeletionError (prepareDeletion userId)
  let report ← mapError accountDeletionError (startGracePeriod userId)
  each (fun (m : AccountDeletionMembership) => mapError (fun _ => .databaseUnavailable)
    (fenceMembershipRevocation m.groupId userId)) memberships
  ret { report with membershipsRemoved := report.membershipsRemoved + memberships.length }

end JamyeServer.Postgres.AccountDeletion
