import JamyeServer.Text
import JamyeServer.Postgres.AccountDeletion

/-!
# The end of an account's grace period

`adapters/postgres/account_deletion/purge.rs`, `transition.rs` and `payload_scrub.rs`: workers claim
accounts whose grace period is over, replace what stays of them by a tombstone and delete the rest.
-/

namespace JamyeServer.Postgres.AccountPurge

open ReadCommitted Prog Push AccountDeletion Text

structure AccountPurgeClaimRequest where
  claimOwner : String
  grace : Nat
  batchSize : Nat
  leaseDuration : Nat
  deriving DecidableEq

structure AccountPurgeClaim where
  userId : Uuid
  claimOwner : String
  claimGeneration : Nat
  claimExpiresAt : Time
  deriving DecidableEq, Repr

section Claims

def validateRequest (request : AccountPurgeClaimRequest) : Bool :=
  let owner := request.claimOwner.toList
  !(owner.isEmpty || !isTrimmed owner || decide (128 < owner.length) || owner.any isControl ||
    decide (request.grace = 0) || decide (request.batchSize = 0) || decide (request.leaseDuration = 0))

/-- The lease in microseconds, from nanoseconds through whole milliseconds that fit into 64 bits. -/
def leaseMicroseconds (leaseDuration : Nat) : Option Nat :=
  if leaseDuration / 10 ^ 6 < 2 ^ 63 then some (leaseDuration / 10 ^ 6 * 1000) else none

/-- The account's grace period is over and no worker has an unexpired claim of it. -/
def purgeable (grace : Nat) (now : Time) (u : User) : Bool :=
  (u.deletedAt.any fun t => decide (t + grace ≤ now)) &&
    (u.accountPurgeClaimOwner.isNone || u.accountPurgeClaimExpiresAt.any fun t => decide (t ≤ now))

def User.claimPurge (owner : String) (expiresAt : Time) (u : User) : User :=
  { u with accountPurgeClaimOwner := some owner, accountPurgeClaimGeneration := u.accountPurgeClaimGeneration + 1,
           accountPurgeClaimExpiresAt := some expiresAt }

/-- `ORDER BY account.deleted_at, account.id`. -/
def purgeOrder (x y : Option Time × Uuid) : Bool :=
  decide (x.1.getD 0 < y.1.getD 0) || (decide (x.1.getD 0 = y.1.getD 0) && decide (x.2 ≤ y.2))

def purgeCandidates (grace : Nat) (now : Time) (s : Store Row) : List Uuid :=
  (((s.ids Tables.users fun _ u => purgeable grace now u).map fun i =>
    ((s.get (.users i)).bind User.deletedAt, i)).insertionSort fun x y => purgeOrder x y).map Prod.snd

/-- `FOR UPDATE SKIP LOCKED LIMIT`: `pick` says whether a row that is locked by another transaction is
skipped. -/
def claimPurges (owner : String) (grace : Nat) (now expiresAt : Time) :
    Nat → List Uuid → Sql AccountDeletionRepositoryError (List AccountPurgeClaim)
  | 0, _ => ret []
  | _ + 1, [] => ret []
  | n + 1, i :: is => do
    let skip ← pick
    if skip = 0 then claimPurges owner grace now expiresAt (n + 1) is
    else do
      let claimed ← changeRow .update (.users i)
        (fun _ u =>
          if purgeable grace now u then
            some (some (User.claimPurge owner expiresAt u),
              (⟨i, owner, u.accountPurgeClaimGeneration + 1, expiresAt⟩ : AccountPurgeClaim))
          else none)
        (.unavailable "account_purge_claim")
      match claimed with
      | some claim => do
        let claims ← claimPurges owner grace now expiresAt n is
        ret (claim :: claims)
      | none => claimPurges owner grace now expiresAt (n + 1) is

def claimAccountPurges (request : AccountPurgeClaimRequest) :
    Sql AccountDeletionRepositoryError (List AccountPurgeClaim) := do
  ensure (validateRequest request) .invalidData
  let lease ← ofOption (leaseMicroseconds request.leaseDuration) .invalidData
  let s ← snapshot
  let now ← clock
  claimPurges request.claimOwner request.grace now (now + lease) request.batchSize
    (purgeCandidates request.grace now s)

def User.releasePurge (u : User) : User :=
  { u with accountPurgeClaimOwner := none, accountPurgeClaimExpiresAt := none }

/-- The account still has this claim. -/
def claimedAs (claim : AccountPurgeClaim) (u : User) : Bool :=
  decide (u.accountPurgeClaimOwner = some claim.claimOwner) &&
    decide (u.accountPurgeClaimGeneration = claim.claimGeneration) &&
    decide (u.accountPurgeClaimExpiresAt = some claim.claimExpiresAt)

def releaseAccountPurgeClaim (claim : AccountPurgeClaim) : Sql AccountDeletionRepositoryError Bool := do
  let released ← update Tables.users (fun s => s.one Tables.users claim.userId (claimedAs claim))
    (fun _ _ _ u => if claimedAs claim u then some (User.releasePurge u, ()) else none)
    (.unavailable "account_purge_release")
  ret (released.length == 1)

end Claims

def anonymousAuthorNickname : String := "탈퇴한 사용자"

section Scrub

variable (user tombstone : Uuid)

/-- A JSON string that is exactly the id. -/
def replaceText (s : String) : String := if s = uuidText user then uuidText tombstone else s

def replaceId (i : Uuid) : Uuid := if i = user then tombstone else i

def replaceAttachment (a : MessageAttachment) : MessageAttachment :=
  { a with id := replaceId user tombstone a.id, mediaUploadId := replaceId user tombstone a.mediaUploadId,
           contentType := replaceText user tombstone a.contentType,
           filename := a.filename.map (replaceText user tombstone),
           posterMediaId := a.posterMediaId.map (replaceId user tombstone) }

/-- `replace_exact_string` on the payload of an event. -/
def replacePayload : EventPayload → EventPayload
  | .messageCreated m => .messageCreated
      { m with id := replaceId user tombstone m.id, chatroomId := replaceId user tombstone m.chatroomId,
               senderId := m.senderId.map (replaceId user tombstone),
               senderNickname := m.senderNickname.map (replaceText user tombstone),
               senderAvatarUrl := m.senderAvatarUrl.map (replaceText user tombstone),
               clientMsgId := m.clientMsgId.map (replaceId user tombstone),
               body := m.body.map (replaceText user tombstone),
               media := m.media.map (replaceAttachment user tombstone) }
  | .messageDeleted d => .messageDeleted
      { d with messageId := replaceId user tombstone d.messageId, chatroomId := replaceId user tombstone d.chatroomId,
               groupId := replaceId user tombstone d.groupId, deletedBy := replaceId user tombstone d.deletedBy,
               reason := replaceText user tombstone d.reason }
  | .topicCreated t => .topicCreated
      { topicId := replaceId user tombstone t.topicId, groupId := replaceId user tombstone t.groupId,
        chatroomId := replaceId user tombstone t.chatroomId, authorId := replaceId user tombstone t.authorId,
        title := replaceText user tombstone t.title }
  | .topicDeleted t => .topicDeleted
      { t with topicId := replaceId user tombstone t.topicId,
               topicChatroomId := replaceId user tombstone t.topicChatroomId,
               groupId := replaceId user tombstone t.groupId, deletedBy := replaceId user tombstone t.deletedBy,
               announcementMessageId := t.announcementMessageId.map (replaceId user tombstone) }

/-- `anonymize_profile_fields` on the payload of an event. -/
def anonymizePayload : EventPayload → EventPayload
  | .messageCreated m => .messageCreated
      { m with senderNickname := some anonymousAuthorNickname, senderAvatarUrl := none }
  | p => p

def replaceRealtime (e : RealtimeEvent) : RealtimeEvent :=
  { e with eventId := replaceId user tombstone e.eventId, conversationId := replaceId user tombstone e.conversationId,
           data := replacePayload user tombstone e.data }

/-- The strings of a payload, for the search by `LIKE`. -/
def payloadTexts : EventPayload → List String
  | .messageCreated m =>
    [uuidText m.id, uuidText m.chatroomId] ++ (m.senderId.toList ++ m.clientMsgId.toList).map uuidText ++
      m.senderNickname.toList ++ m.senderAvatarUrl.toList ++ m.body.toList ++
      m.media.flatMap fun a => [uuidText a.id, uuidText a.mediaUploadId, a.contentType] ++ a.filename.toList ++
        a.posterMediaId.toList.map uuidText
  | .messageDeleted d => [uuidText d.messageId, uuidText d.chatroomId, uuidText d.groupId, uuidText d.deletedBy, d.reason]
  | .topicCreated t => [uuidText t.topicId, uuidText t.groupId, uuidText t.chatroomId, uuidText t.authorId, t.title]
  | .topicDeleted t => [uuidText t.topicId, uuidText t.topicChatroomId, uuidText t.groupId, uuidText t.deletedBy] ++
      t.announcementMessageId.toList.map uuidText

def mentionsText (texts : List String) : Bool := texts.any (occursIn (uuidText user))

def scrubConversationPayloads : Sql AccountDeletionRepositoryError Unit := do
  let rows ← selectFor .update Tables.conversationEvents
    (fun s => sortIds (s.ids Tables.conversationEvents fun _ r => mentionsText user (payloadTexts r.payload)))
    (fun _ i _ r => if mentionsText user (payloadTexts r.payload) then some (i, r.payload) else none)
  each (fun (row : Uuid × EventPayload) =>
    let payload := replacePayload user tombstone row.2
    if payload = row.2 then ret ()
    else do
      let updated ← update Tables.conversationEvents
        (fun s => s.one Tables.conversationEvents row.1 fun _ => true)
        (fun _ _ _ r => some ({ r with payload := anonymizePayload payload }, ()))
        (.unavailable "account_deletion_conversation_payload_scrub")
      ensure (updated.length = 1) .invalidData) rows

/-- The realtime event that a conversation row of the outbox carries. -/
def OutboxPayload.event? : OutboxPayload → Option RealtimeEvent
  | .conversation e => some e
  | .control _ => none

def realtimeTexts (e : RealtimeEvent) : List String :=
  uuidText e.eventId :: uuidText e.conversationId :: payloadTexts e.data

def scrubOutboxPayloads : Sql AccountDeletionRepositoryError Unit := do
  let mentioned := fun (r : OutboxEvent) =>
    (OutboxPayload.event? r.payload).filter fun e => mentionsText user (realtimeTexts e)
  let rows ← selectFor .update Tables.outboxEvents
    (fun s => sortIds (s.ids Tables.outboxEvents fun _ r => (mentioned r).isSome))
    (fun _ i _ r => (mentioned r).map fun e => (i, e))
  each (fun (row : Uuid × RealtimeEvent) =>
    let event := replaceRealtime user tombstone row.2
    if event = row.2 then ret ()
    else do
      let updated ← update Tables.outboxEvents (fun s => s.one Tables.outboxEvents row.1 fun _ => true)
        (fun _ _ _ r => some ({ r with payload := .conversation { event with data := anonymizePayload event.data } }, ()))
        (.unavailable "account_deletion_outbox_payload_scrub")
      ensure (updated.length = 1) .invalidData) rows

def scrubRetainedPayloads : Sql AccountDeletionRepositoryError Unit := do
  scrubConversationPayloads user tombstone
  scrubOutboxPayloads user tombstone

def anonymizeArgs : NotificationPayload → NotificationPayload
  | .empty => .empty
  | .args type _ groupName topicTitle => .args type anonymousAuthorNickname groupName topicTitle

def scrubRetainedNotificationProfiles : Sql AccountDeletionRepositoryError Unit := do
  let rows ← selectFor .update Tables.notifications
    (fun s => sortIds (s.ids Tables.notifications fun _ r => sourceMentions s user r))
    (fun s i _ r => if sourceMentions s user r then some (i, r.payload) else none)
  each (fun (row : Uuid × NotificationPayload) =>
    if anonymizeArgs row.2 = row.2 then ret ()
    else do
      let updated ← update Tables.notifications (fun s => s.one Tables.notifications row.1 fun _ => true)
        (fun _ _ _ r => some ({ r with payload := anonymizeArgs row.2 }, ()))
        (.unavailable "account_deletion_notification_profile_scrub")
      ensure (updated.length = 1) .invalidData) rows

end Scrub

section Transition

variable (userId tombstoneUserId : Uuid)

def lockPurgeableAccount : Sql AccountDeletionRepositoryError Unit := do
  let locked ← selectFor .update Tables.users
    (fun s => s.one Tables.users userId fun u => u.deletedAt.isSome)
    (fun _ i _ u => if u.deletedAt = none then none else some i)
  ensure (locked ≠ []) .accountNotFound

def createTombstone : Sql AccountDeletionRepositoryError Unit := do
  let now ← clock
  insertRow (.users tombstoneUserId) { nickname := anonymousAuthorNickname, createdAt := now } []
    (.unavailable "account_deletion_tombstone_user_insert")
  let now ← clock
  insertRow (.anonymousAuthorTombstones tombstoneUserId) { createdAt := now } [.users tombstoneUserId]
    (.unavailable "account_deletion_tombstone_insert")

def deleteAccountOccurrences : Sql AccountDeletionRepositoryError Unit := do
  let _ ← delete Tables.pushDeliveryIntents
    (fun s => s.ids Tables.pushDeliveryIntents fun _ r => referencedOccurrence userId s r)
    (fun s _ r => referencedOccurrence userId s r) (.unavailable "account_deletion_occurrence_delete")
  ret ()

def reassignRetainedAuthorship : Sql AccountDeletionRepositoryError Unit := do
  let _ ← update Tables.messages
    (fun s => s.ids Tables.messages fun _ r => decide (r.senderId = some userId))
    (fun _ _ _ r => if r.senderId = some userId then some ({ r with senderId := some tombstoneUserId }, ()) else none)
    (.unavailable "account_deletion_message_author_reassign")
  let _ ← change .update Tables.topics
    (fun s => s.ids Tables.topics fun _ r => decide (r.authorId = userId))
    (fun _ _ _ r => if r.authorId = userId then some (some { r with authorId := tombstoneUserId }, ()) else none)
    (.unavailable "account_deletion_topic_author_reassign")
  let _ ← update Tables.mediaUploads
    (fun s => s.ids Tables.mediaUploads fun _ r => decide (r.userId = userId) && decide (r.status = .bound))
    (fun _ _ _ r =>
      if r.userId = userId ∧ r.status = .bound then some ({ r with userId := tombstoneUserId }, ()) else none)
    (.unavailable "account_deletion_bound_upload_author_reassign")
  let _ ← update Tables.reports
    (fun s => s.ids Tables.reports fun _ r => decide (r.reporterId = userId))
    (fun _ _ _ r => if r.reporterId = userId then some ({ r with reporterId := tombstoneUserId }, ()) else none)
    (.unavailable "account_deletion_report_reporter_reassign")
  let _ ← update Tables.reports
    (fun s => s.ids Tables.reports fun _ r => decide (r.targetUserId = some userId))
    (fun _ _ _ r =>
      if r.targetUserId = some userId then some ({ r with targetUserId := some tombstoneUserId }, ()) else none)
    (.unavailable "account_deletion_report_target_reassign")
  ret ()

def reassignArchivedGroupOwners : Sql AccountDeletionRepositoryError Unit := do
  let _ ← update Tables.groups
    (fun s => s.ids Tables.groups fun _ r => decide (r.ownerId = userId) && r.deletedAt.isSome)
    (fun _ _ _ r =>
      if r.ownerId = userId ∧ r.deletedAt.isSome then some ({ r with ownerId := tombstoneUserId }, ()) else none)
    (.unavailable "account_deletion_archived_group_owner_reassign")
  ret ()

/-- A membership that is over, by itself or with its group. -/
def endedMembership (s : Store Row) (r : Membership) : Bool :=
  decide (r.userId = userId) && (s.get (.groups r.groupId)).any fun g => r.deletedAt.isSome || g.deletedAt.isSome

def deletePurgeableMemberships : Sql AccountDeletionRepositoryError Nat := do
  let deleted ← delete Tables.memberships
    (fun s => s.ids Tables.memberships fun _ r => endedMembership userId s r)
    (fun s _ r => endedMembership userId s r) (.unavailable "account_deletion_purgeable_membership_delete")
  ret deleted.length

def ensureNoLiveMembershipsRemain : Sql AccountDeletionRepositoryError Unit := do
  let remaining ← select fun s =>
    s.ids Tables.memberships fun _ r => decide (r.userId = userId) && r.deletedAt.isNone
  ensure (remaining = []) .invalidData

def MediaStatus.unbound (status : MediaStatus) : Bool := status ≠ .bound

/-- Queues an object for deletion once; the reply says whether the intent is new. -/
def enqueueObjectDeletion (objectKey : String) (nextAttemptAt : Option Time) (operation : String) :
    Sql AccountDeletionRepositoryError (Option Unit) := do
  let id ← fresh
  let now ← clock
  let new ← insertOrSkip (.accountObjectDeletionIntents id) { objectKey, nextAttemptAt, createdAt := now } []
    (.unavailable operation)
  ret (if new then some () else none)

def enqueueAndDeleteUnboundUploads : Sql AccountDeletionRepositoryError Nat := do
  let uploads ← selectFor .update Tables.mediaUploads
    (fun s => sortIds (s.ids Tables.mediaUploads fun _ r => decide (r.userId = userId) && MediaStatus.unbound r.status))
    (fun _ i _ r => if r.userId = userId ∧ MediaStatus.unbound r.status then some (i, r.objectKey) else none)
  let enqueued ← collect (fun (upload : Uuid × String) =>
    enqueueObjectDeletion upload.2 none "account_deletion_cleanup_intent_insert") uploads
  let ids := uploads.map Prod.fst
  if ids = [] then ret enqueued.length
  else do
    let deleted ← delete Tables.mediaUploads
      (fun s => s.ids Tables.mediaUploads fun i r =>
        decide (i ∈ ids) && decide (r.userId = userId) && MediaStatus.unbound r.status)
      (fun _ i r => decide (i ∈ ids) && decide (r.userId = userId) && MediaStatus.unbound r.status)
      (.unavailable "account_deletion_unbound_upload_delete")
    ensure (deleted.length = ids.length) .invalidData
    ret enqueued.length

def enqueueAndDeleteAvatarUploads : Sql AccountDeletionRepositoryError Nat := do
  let uploads ← selectFor .update Tables.userAvatarUploads
    (fun s => sortIds (s.ids Tables.userAvatarUploads fun _ r =>
      decide (r.userId = userId) && decide (r.status ≠ .released)))
    (fun _ _ _ r => if r.userId = userId ∧ r.status ≠ .released then some r else none)
  let enqueued ← collect (fun (upload : UserAvatarUpload) => do
    let now ← clock
    enqueueObjectDeletion upload.objectKey
      (if upload.status = .pending then some (max upload.expiresAt now + 60 * 10 ^ 6) else none)
      "account_deletion_avatar_intent_insert") uploads
  let _ ← delete Tables.userAvatarUploads
    (fun s => s.ids Tables.userAvatarUploads fun _ r => decide (r.userId = userId))
    (fun _ _ r => decide (r.userId = userId)) (.unavailable "account_deletion_avatar_upload_delete")
  ret enqueued.length

def deletePrivateAccountRows : Sql AccountDeletionRepositoryError Unit := do
  let _ ← delete Tables.pushDeliveryIntents
    (fun s => s.ids Tables.pushDeliveryIntents fun _ r => r.reportId.isSome && decide (r.recipientUserId = userId))
    (fun _ _ r => r.reportId.isSome && decide (r.recipientUserId = userId))
    (.unavailable "account_deletion_report_alert_delete")
  let _ ← delete Tables.notifications
    (fun s => s.ids Tables.notifications fun _ r => decide (r.userId = userId))
    (fun _ _ r => decide (r.userId = userId)) (.unavailable "account_deletion_notification_delete")
  let _ ← delete Tables.pushInstallations
    (fun s => s.ids Tables.pushInstallations fun _ r => decide (r.userId = userId))
    (fun _ _ r => decide (r.userId = userId)) (.unavailable "account_deletion_installation_delete")
  let _ ← delete Tables.chatroomReads
    (fun s => s.ids Tables.chatroomReads fun _ r => decide (r.userId = userId))
    (fun _ _ r => decide (r.userId = userId)) (.unavailable "account_deletion_read_delete")
  let _ ← delete Tables.invites
    (fun s => s.ids Tables.invites fun _ r => decide (r.createdBy = userId))
    (fun _ _ r => decide (r.createdBy = userId)) (.unavailable "account_deletion_invite_delete")
  let _ ← delete Tables.userBlocks
    (fun s => s.ids Tables.userBlocks fun i _ => decide (i.1 = userId) || decide (i.2 = userId))
    (fun _ i _ => decide (i.1 = userId) || decide (i.2 = userId)) (.unavailable "account_deletion_block_delete")
  let _ ← delete Tables.refreshSessions
    (fun s => s.ids Tables.refreshSessions fun _ r => decide (r.userId = userId))
    (fun _ _ r => decide (r.userId = userId)) (.unavailable "account_deletion_session_delete")
  let _ ← delete Tables.authIdentities
    (fun s => s.ids Tables.authIdentities fun _ r => decide (r.userId = userId))
    (fun _ _ r => decide (r.userId = userId)) (.unavailable "account_deletion_identity_delete")
  let deleted ← delete Tables.users (fun s => s.one Tables.users userId fun u => u.deletedAt.isSome)
    (fun _ _ u => u.deletedAt.isSome) (.unavailable "account_deletion_user_delete")
  ensure (deleted.length = 1) .accountNotFound

end Transition

def finalizeDeletion (userId : Uuid) : Sql AccountDeletionRepositoryError AccountDeletionReport := do
  lockPurgeableAccount userId
  let tombstoneUserId ← fresh
  createTombstone tombstoneUserId
  deleteAccountOccurrences userId
  reassignRetainedAuthorship userId tombstoneUserId
  scrubRetainedNotificationProfiles userId
  scrubRetainedPayloads userId tombstoneUserId
  reassignArchivedGroupOwners userId tombstoneUserId
  let archived ← deletePurgeableMemberships userId
  ensureNoLiveMembershipsRemain userId
  let unboundIntents ← enqueueAndDeleteUnboundUploads userId
  let avatarIntents ← enqueueAndDeleteAvatarUploads userId
  deletePrivateAccountRows userId
  ret ⟨archived, unboundIntents + avatarIntents⟩

end JamyeServer.Postgres.AccountPurge
