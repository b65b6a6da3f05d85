import JamyeServer.Postgres.Media
import JamyeServer.Postgres.Notifications

/-!
# Sending and deleting messages

`adapters/postgres/message_order.rs`, `adapters/postgres/messaging/send.rs` and `delete.rs` with the transaction
`send_message_http` of `application/transactions`. `filter` masks the text of a message.
-/

namespace JamyeServer.Postgres.Messages

open ReadCommitted Prog Rooms Notifications

inductive MessagingRepositoryError
  | membershipRequired
  | messageNotFound
  | messageAuthorRequired
  | idempotencyConflict
  | databaseUnavailable (operation : String)
  deriving DecidableEq, Repr

/-- What the service fails with; a failure of media or notifications is one of these. -/
inductive MessagingError
  | messageContentRequired
  | mediaNotAvailable
  | repository (error : MessagingRepositoryError)
  | media (error : Media.MediaRepositoryError)
  | notifications (error : NotificationsRepositoryError)
  deriving DecidableEq, Repr

structure SendMessageCommand where
  chatroomId : Uuid
  senderId : Uuid
  clientMsgId : Uuid
  body : Option String
  deriving DecidableEq

inductive PersistMessageOutcome
  | created (message : CanonicalMessage)
  | existing (message : CanonicalMessage) (sourceEventId : Uuid)
  deriving DecidableEq

def PersistMessageOutcome.message : PersistMessageOutcome → CanonicalMessage
  | created message | existing message _ => message

structure MessageDeliveryContext where
  groupId : Uuid
  topicId : Option Uuid
  senderDisplayName : String

section Order

/-- The time of the last message of a room, deleted or not. -/
def latestMessage (s : Store Row) (chatroomId : Uuid) : Option Time :=
  ((s.ids Tables.messages fun _ r => decide (r.chatroomId = chatroomId)).filterMap
    fun i => (s.get (.messages i)).map Message.createdAt).max?

/-- Writers of messages of one room follow each other, and so do the times of the messages. -/
def nextTimestamp {ε : Type} (settings : Settings) (chatroomId : Uuid) : Sql ε Time := do
  advisory (settings.messageOrderHash chatroomId)
  let s ← snapshot
  let now ← clock
  ret ((latestMessage s chatroomId).elim now fun t => max now (t + 1))

end Order

section Events

variable {ε : Type}

/-- A new event of a conversation and the outbox event that carries it. -/
def recordEvent (eventId outboxId conversationId : Uuid) (payload : EventPayload) (eventError outboxError : ε) : Sql ε Nat := do
  let cursor ← nextval
  let now ← clock
  insertRow (.conversationEvents eventId) { cursor, conversationId, payload, occurredAt := now }
    [.chatrooms conversationId] eventError
  let createdAt ← clock
  insertRow (.outboxEvents outboxId)
    { aggregateId := conversationId, conversationEventId := some eventId,
      payload := .conversation ⟨eventId, conversationId, cursor, now, payload⟩, createdAt }
    [.conversationEvents eventId] outboxError
  ret cursor

end Events

section Send

/-- The room, the group, the membership and the account are tested in the snapshot; the last three are locked. -/
def authorize (command : SendMessageCommand) : Sql MessagingRepositoryError Unit := do
  let s ← snapshot
  let authorized ← first (fun (groupId, membershipId) =>
    andThen (Rooms.lockLiveGroup .share groupId) fun _ =>
    andThen (lockLiveMembership .share membershipId groupId command.senderId) fun _ =>
    lockRow .share (.users command.senderId) fun _ u => if u.deletedAt = none then some () else none)
    (if accountLive s command.senderId then accesses s command.chatroomId command.senderId else [])
  ensure authorized.isSome .membershipRequired

/-- A message with the name and the avatar of its sender, as far as there is an account. -/
def canonicalMessage (s : Store Row) (id : Uuid) (r : Message) : CanonicalMessage :=
  let sender := r.senderId.bind fun u => s.get (.users u)
  { id, chatroomId := r.chatroomId, senderId := r.senderId, senderNickname := sender.map displayName,
    senderAvatarUrl := sender.bind displayAvatarUrl, clientMsgId := r.clientMsgId, body := r.body,
    messageType := .user, createdAt := r.createdAt, media := [] }

/-- The stored message of a retry. -/
def existingMessage (command : SendMessageCommand) : Sql MessagingRepositoryError PersistMessageOutcome := do
  let stored ← select fun s =>
    (s.ids Tables.messages fun _ r => decide (r.senderId = some command.senderId) &&
      decide (r.clientMsgId = some command.clientMsgId)).head?.bind fun i =>
        (s.get (.messages i)).map fun r => (r, canonicalMessage s i r)
  let (r, message) ← ofOption stored (.databaseUnavailable "missing_conflict_row")
  ensure (r.deletedAt = none) .idempotencyConflict
  ensure (r.chatroomId = command.chatroomId ∧ r.body = command.body) .idempotencyConflict
  let eventIds ← select fun s => s.ids Tables.conversationEvents fun _ e =>
    decide (e.conversationId = message.chatroomId) && EventPayload.createsMessage message.id e.payload
  match eventIds with
  | [eventId] => ret (.existing message eventId)
  | _ => fail (.databaseUnavailable "non_canonical_existing_event")

def persist (settings : Settings) (command : SendMessageCommand) : Sql MessagingRepositoryError PersistMessageOutcome := do
  authorize command
  let createdAt ← nextTimestamp settings command.chatroomId
  let id ← fresh
  let s ← snapshot
  let row : Message :=
    { chatroomId := command.chatroomId, senderId := some command.senderId, clientMsgId := some command.clientMsgId,
      body := command.body, createdAt }
  let inserted ← insertOrSkip (.messages id) row [.chatrooms command.chatroomId, .users command.senderId]
    (.databaseUnavailable "insert_message")
  if inserted then ret (.created (canonicalMessage s id row)) else existingMessage command

/-- The message, its room, its group and its sender are locked; the topic of the room is locked after them. -/
def deliveryContext (message : CanonicalMessage) : Sql MessagingRepositoryError MessageDeliveryContext := do
  let s ← snapshot
  let found ← match message.senderId, s.get (.chatrooms message.chatroomId) with
    | some senderId, some room =>
      if topicLive s room then
        andThen (lockRow .share (.messages message.id) fun _ r =>
          if r.chatroomId = message.chatroomId ∧ r.senderId = some senderId ∧ r.deletedAt = none then some () else none)
          fun _ =>
        andThen (lockLiveRoom .share message.chatroomId room.groupId) fun _ =>
        andThen (Rooms.lockLiveGroup .share room.groupId) fun _ =>
        lockRow .share (.users senderId) fun _ u => some (room, displayName u)
      else ret none
    | _, _ => ret none
  let (room, senderDisplayName) ← ofOption found (.databaseUnavailable "delivery_context_missing")
  match room.type, room.topicId with
  | .main, none => ret ⟨room.groupId, none, senderDisplayName⟩
  | .topic, some topicId => do
    let topics ← selectFor .share Tables.topics
      (fun s => s.one Tables.topics topicId fun t => decide (t.groupId = room.groupId) && t.deletedAt.isNone)
      (fun _ i _ t => if t.groupId = room.groupId ∧ t.deletedAt = none then some i else none)
    ensure (topics ≠ []) (.databaseUnavailable "delivery_context_topology")
    ret ⟨room.groupId, some topicId, senderDisplayName⟩
  | _, _ => fail (.databaseUnavailable "delivery_context_topology")

structure SendMessageInput where
  chatroomId : Uuid
  clientMsgId : Uuid
  body : Option String
  mediaUploadIds : List Uuid
  deriving DecidableEq

inductive SendMessageOutcome
  | created (message : CanonicalMessage)
  | existing (message : CanonicalMessage)
  deriving DecidableEq

/-- `prepare_http_send`; an idempotency key that is given has been compared with the client's id before. -/
def prepareHttpSend (mask : String → String) (actorId : Uuid) (input : SendMessageInput) :
    Sql MessagingError SendMessageCommand := do
  ensure ((input.body.any fun b => !b.isEmpty) ∨ input.mediaUploadIds ≠ []) .messageContentRequired
  ensure (input.mediaUploadIds.length ≤ Media.maxMediaPerMessage) .mediaNotAvailable
  ret ⟨input.chatroomId, actorId, input.clientMsgId, input.body.map mask⟩

/-- A message that is new gets its event, and the other members are notified. -/
def sendMessageHttp (settings : Settings) (mask : String → String) (actorId : Uuid) (input : SendMessageInput) :
    Sql MessagingError SendMessageOutcome := do
  let command ← prepareHttpSend mask actorId input
  let outcome ← mapError .repository (persist settings command)
  let context ← mapError .repository (deliveryContext outcome.message)
  let attachments ← mapError .media
    (Media.bindAuthoritativeMessageMedia actorId command.chatroomId outcome.message.id input.mediaUploadIds)
  match outcome with
  | .existing message _ => ret (.existing { message with media := attachments })
  | .created message => do
    let message := { message with media := attachments }
    let eventId ← fresh
    let outboxId ← fresh
    let _ ← mapError .repository (recordEvent eventId outboxId message.chatroomId (.messageCreated message)
      (.databaseUnavailable "insert_event") (.databaseUnavailable "insert_outbox"))
    let _ ← mapError .notifications (recordMessageCreated ⟨context.groupId, context.topicId, command.chatroomId, eventId,
      message.id, actorId, context.senderDisplayName⟩)
    ret (.created message)

end Send

section Delete

/-- `deleted_by` of a deletion by an operator. -/
def moderatorActorId : Uuid := 0x00000000000040008000000000000000

structure Removal where
  chatroomId : Uuid
  messageId : Uuid
  groupId : Uuid
  deletedBy : Uuid
  reason : String

/-- A room whose topic is deleted is hidden. -/
def lockLiveChatroom (chatroomId : Uuid) : Sql MessagingRepositoryError Uuid := do
  let s ← snapshot
  let found ← match s.get (.chatrooms chatroomId) with
    | some room =>
      if room.deletedAt.isNone && topicLive s room && ((s.get (.groups room.groupId)).any fun g => g.deletedAt.isNone) then
        andThen (Rooms.lockLiveGroup .update room.groupId) fun _ =>
        andThen (lockLiveRoom .update chatroomId room.groupId) fun _ => ret (some room.groupId)
      else ret none
    | none => ret none
  ofOption found .messageNotFound

def requireMembership (groupId actorId : Uuid) : Sql MessagingRepositoryError Unit := do
  let memberships ← selectFor .share Tables.memberships
    (fun s => s.ids Tables.memberships fun _ r => decide (r.groupId = groupId) && decide (r.userId = actorId) &&
      r.deletedAt.isNone)
    (fun _ i _ r => if r.groupId = groupId ∧ r.userId = actorId ∧ r.deletedAt = none then some i else none)
  ensure (memberships ≠ []) .membershipRequired

def fetchLockedMessage (chatroomId messageId : Uuid) : Sql MessagingRepositoryError Message := do
  let rows ← selectFor .update Tables.messages
    (fun s => s.one Tables.messages messageId fun r => decide (r.chatroomId = chatroomId))
    (fun _ _ _ r => if r.chatroomId = chatroomId then some r else none)
  ofOption rows.head? .messageNotFound

/-- The time of the deletion, or none for a message that its author has deleted before. -/
def lockAuthorizedMessage (actorId chatroomId messageId : Uuid) : Sql MessagingRepositoryError (Option Time) := do
  let row ← fetchLockedMessage chatroomId messageId
  if row.deletedAt.isSome then
    if row.senderId = some actorId then ret none else fail .messageNotFound
  else if row.senderId ≠ some actorId ∨ row.type ≠ .user then fail .messageAuthorRequired
  else do
    let now ← clock
    ret (some now)

structure MediaObjectRow where
  uploadId : Uuid
  objectKey : String
  poster : Option (Uuid × String)

/-- The attachments in the order of their positions. The rows of posters come from the snapshot. -/
def lockMessageMedia (messageId : Uuid) : Sql MessagingRepositoryError (List MediaObjectRow) := do
  let s ← snapshot
  let media := (s.ids Tables.messageMedia fun _ r => decide (r.messageId = messageId)).filterMap fun i =>
    (s.get (.messageMedia i)).map fun r => (r.position, i, r.mediaUploadId)
  collect (fun (_, id, uploadId) =>
    andThen (lockRow .update (.messageMedia id) fun _ r =>
      if r.messageId = messageId ∧ r.mediaUploadId = uploadId then some r.objectKey else none) fun objectKey =>
    lockRow .update (.mediaUploads uploadId) fun _ u =>
      some ⟨uploadId, objectKey, u.posterUploadId.bind fun p => (s.get (.mediaUploads p)).bind fun r =>
        if ((s.get (.mediaUploads uploadId)).bind MediaUpload.posterUploadId) = some p then some (p, r.objectKey) else none⟩)
    (media.insertionSort fun x y => x.1 ≤ y.1)

def MediaObjectRow.objectKeys (row : MediaObjectRow) : List String := row.objectKey :: row.poster.toList.map Prod.snd

def MediaObjectRow.uploadIds (row : MediaObjectRow) : List Uuid := row.uploadId :: row.poster.toList.map Prod.fst

def enqueueObjectDeletions (media : List MediaObjectRow) : Sql MessagingRepositoryError Unit :=
  each (fun objectKey => do
    let id ← fresh
    let now ← clock
    let _ ← insertOrSkip (.accountObjectDeletionIntents id) { objectKey, createdAt := now } []
      (.databaseUnavailable "delete_object_intent_insert")
    ret ()) ((media.flatMap MediaObjectRow.objectKeys).insertionSort (fun a b => a ≤ b)).dedup

def markMediaUploadsDeleted (media : List MediaObjectRow) (deletedAt : Time) : Sql MessagingRepositoryError Unit := do
  let ids := media.flatMap MediaObjectRow.uploadIds
  if ids.isEmpty then ret ()
  else do
    let _ ← update Tables.mediaUploads (fun s => s.ids Tables.mediaUploads fun i _ => decide (i ∈ ids))
      (fun _ i _ r => if i ∈ ids then some ({ r with deletedAt := coalesce r.deletedAt deletedAt }, ()) else none)
      (.databaseUnavailable "delete_media_uploads")
    ret ()

def deleteMessageMedia (messageId : Uuid) : Sql MessagingRepositoryError Unit := do
  let _ ← delete Tables.messageMedia (fun s => s.ids Tables.messageMedia fun _ r => decide (r.messageId = messageId))
    (fun _ _ r => decide (r.messageId = messageId)) (.databaseUnavailable "delete_message_media")
  ret ()

def scrubMessageRow (messageId : Uuid) (deletedAt : Time) : Sql MessagingRepositoryError Unit := do
  let _ ← update Tables.messages (fun s => s.one Tables.messages messageId fun r => r.deletedAt.isNone)
    (fun _ _ _ r => if r.deletedAt = none then some ({ r with deletedAt := some deletedAt, body := none }, ()) else none)
    (.databaseUnavailable "delete_message_scrub")
  ret ()

/-- `jsonb_set` of `body` and `media`. -/
def EventPayload.scrub : EventPayload → EventPayload
  | .messageCreated data => .messageCreated { data with body := none, media := [] }
  | payload => payload

/-- The id stays in the payload, and the event stays live. -/
def scrubMessageCreatedEvents (removal : Removal) : Sql MessagingRepositoryError (List (Uuid × Nat)) :=
  let matching := fun (e : ConversationEvent) =>
    decide (e.conversationId = removal.chatroomId) && EventPayload.createsMessage removal.messageId e.payload
  update Tables.conversationEvents (fun s => s.ids Tables.conversationEvents fun _ e => matching e)
    (fun _ i _ e => if matching e then some ({ e with payload := EventPayload.scrub e.payload }, (i, e.cursor)) else none)
    (.databaseUnavailable "delete_message_event_scrub")

def OutboxPayload.isMessageCreated : OutboxPayload → Bool
  | .conversation ⟨_, _, _, _, .messageCreated _⟩ => true
  | _ => false

def OutboxPayload.scrub : OutboxPayload → OutboxPayload
  | .conversation event => .conversation { event with data := EventPayload.scrub event.data }
  | payload => payload

def scrubMessageCreatedOutbox (events : List (Uuid × Nat)) : Sql MessagingRepositoryError Unit := do
  let matching := fun (o : OutboxEvent) => OutboxPayload.isMessageCreated o.payload &&
    o.conversationEventId.any fun e => decide (e ∈ events.map Prod.fst)
  if events.isEmpty then ret ()
  else do
    let _ ← update Tables.outboxEvents (fun s => s.ids Tables.outboxEvents fun _ o => matching o)
      (fun _ _ _ o => if matching o then some ({ o with payload := OutboxPayload.scrub o.payload }, ()) else none)
      (.databaseUnavailable "delete_message_outbox_scrub")
    ret ()

def DeliveryPayload.withoutMessage : DeliveryPayload → DeliveryPayload
  | .notification type notificationId conversationId _ => .notification type notificationId conversationId none
  | payload => payload

def PushDeliveryIntent.stop (deletedAt : Time) (r : PushDeliveryIntent) : PushDeliveryIntent :=
  { r with deletedAt := coalesce r.deletedAt deletedAt, status := .failed, claimOwner := none, leaseExpiresAt := none,
           failedAt := coalesce r.failedAt deletedAt, lastErrorCode := some "source_deleted", sourceMessageId := none,
           payload := DeliveryPayload.withoutMessage r.payload }

def stopMessagePushOccurrences (messageId : Uuid) (deletedAt : Time) : Sql MessagingRepositoryError Unit := do
  let matching := fun (r : PushDeliveryIntent) =>
    decide (r.sourceMessageId = some messageId) && r.deletedAt.isNone && r.status.unfinished
  let _ ← update Tables.pushDeliveryIntents (fun s => s.ids Tables.pushDeliveryIntents fun _ r => matching r)
    (fun _ _ _ r => if matching r then some (PushDeliveryIntent.stop deletedAt r, ()) else none)
    (.databaseUnavailable "delete_message_push_stop")
  ret ()

def Notification.hide (deletedAt : Time) (r : Notification) : Notification :=
  { r with deletedAt := coalesce r.deletedAt deletedAt, readAt := coalesce r.readAt deletedAt, payload := .empty }

/-- The live notifications of the conversation whose newest source is one of the events. -/
def newestIs (chatroomId : Uuid) (cursors : List Nat) (r : Notification) : Bool :=
  decide (r.conversationId = some chatroomId) && (r.sourceCursor.any fun c => decide (c ∈ cursors)) && r.deletedAt.isNone

def hideMessageNotifications (chatroomId : Uuid) (events : List (Uuid × Nat)) (deletedAt : Time) :
    Sql MessagingRepositoryError Unit := do
  let cursors := events.map Prod.snd
  if cursors.isEmpty then ret ()
  else do
    let _ ← update Tables.notifications (fun s => s.ids Tables.notifications fun _ r => newestIs chatroomId cursors r)
      (fun _ _ _ r => if newestIs chatroomId cursors r then some (Notification.hide deletedAt r, ()) else none)
      (.databaseUnavailable "delete_message_notifications")
    ret ()

def appendMessageDeletedEvent (removal : Removal) (deletedAt : Time) : Sql MessagingRepositoryError Unit := do
  let eventId ← fresh
  let outboxId ← fresh
  let _ ← recordEvent eventId outboxId removal.chatroomId
    (.messageDeleted ⟨removal.messageId, removal.chatroomId, removal.groupId, deletedAt, removal.deletedBy, removal.reason⟩)
    (.databaseUnavailable "delete_event_insert") (.databaseUnavailable "delete_outbox_insert")
  ret ()

/-- What the deletions by the author and by an operator share. -/
def removeMessage (removal : Removal) (deletedAt : Time) : Sql MessagingRepositoryError Unit := do
  let media ← lockMessageMedia removal.messageId
  enqueueObjectDeletions media
  markMediaUploadsDeleted media deletedAt
  deleteMessageMedia removal.messageId
  scrubMessageRow removal.messageId deletedAt
  let createdEvents ← scrubMessageCreatedEvents removal
  scrubMessageCreatedOutbox createdEvents
  stopMessagePushOccurrences removal.messageId deletedAt
  hideMessageNotifications removal.chatroomId createdEvents deletedAt
  appendMessageDeletedEvent removal deletedAt

def deleteMessage (actorId chatroomId messageId : Uuid) : Sql MessagingRepositoryError Unit := do
  let groupId ← lockLiveChatroom chatroomId
  requireMembership groupId actorId
  let deletedAt ← lockAuthorizedMessage actorId chatroomId messageId
  match deletedAt with
  | none => ret ()
  | some deletedAt => removeMessage ⟨chatroomId, messageId, groupId, actorId, "author_deleted"⟩ deletedAt

inductive ModeratorDeleteOutcome
  | deleted (chatroomId groupId : Uuid)
  | alreadyDeleted (chatroomId groupId : Uuid)
  | notUserMessage
  deriving DecidableEq, Repr

def moderatorDeleteMessage (messageId : Uuid) : Sql MessagingRepositoryError ModeratorDeleteOutcome := do
  let chatroomId ← select fun s => (s.get (.messages messageId)).map Message.chatroomId
  let chatroomId ← ofOption chatroomId .messageNotFound
  let groupId ← lockLiveChatroom chatroomId
  let row ← fetchLockedMessage chatroomId messageId
  if row.deletedAt.isSome then ret (.alreadyDeleted chatroomId groupId)
  else if row.type ≠ .user then ret .notUserMessage
  else do
    let deletedAt ← clock
    removeMessage ⟨chatroomId, messageId, groupId, moderatorActorId, "moderator_deleted"⟩ deletedAt
    ret (.deleted chatroomId groupId)

end Delete

end JamyeServer.Postgres.Messages
