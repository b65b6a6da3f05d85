import JamyeServer.Postgres.Topics

/-!
# Deleting a topic

`adapters/postgres/topics/delete.rs`: the author of a topic deletes it with its messages, its announcement and what
was derived from them.
-/

namespace JamyeServer.Postgres.TopicDeletion

open ReadCommitted Prog Rooms Notifications Messages
open Topics (TopicsRepositoryError)

structure DeleteTopicCommand where
  groupId : Uuid
  topicId : Uuid
  actorId : Uuid
  deriving DecidableEq, Repr

section Locks

def lockGroupAndMembership (groupId actorId : Uuid) : Sql TopicsRepositoryError Unit := do
  let live ← selectFor .update Tables.groups (fun s => s.one Tables.groups groupId fun r => r.deletedAt.isNone)
    (fun _ i _ r => if r.deletedAt = none then some i else none)
  ensure (live ≠ []) .groupNotFound
  let memberships ← selectFor .share Tables.memberships
    (fun s => s.ids Tables.memberships fun _ r => decide (r.groupId = groupId) && decide (r.userId = actorId) &&
      r.deletedAt.isNone)
    (fun _ i _ r => if r.groupId = groupId ∧ r.userId = actorId ∧ r.deletedAt = none then some i else none)
  ensure (memberships ≠ []) .membershipRequired

def isTopicRoom (groupId topicId : Uuid) (r : Chatroom) : Bool :=
  decide (r.groupId = groupId) && decide (r.topicId = some topicId) && decide (r.type = .topic)

def isMainRoom (groupId : Uuid) (r : Chatroom) : Bool :=
  decide (r.groupId = groupId) && decide (r.topicId = none) && decide (r.type = .main)

structure TopicTarget where
  authorId : Uuid
  deletedAt : Option Time
  topicChatroomId : Uuid
  mainChatroomId : Uuid

/-- The topic with its room and the main room of its group, also when the topic is deleted. -/
def lockTopicTarget (command : DeleteTopicCommand) : Sql TopicsRepositoryError (Option TopicTarget) := do
  let s ← snapshot
  let topics := s.one Tables.topics command.topicId fun r => decide (r.groupId = command.groupId)
  let rooms := s.ids Tables.chatrooms fun _ r => isTopicRoom command.groupId command.topicId r
  let mains := s.ids Tables.chatrooms fun _ r => isMainRoom command.groupId r
  first (fun (topicId, topicChatroomId, mainChatroomId) =>
    andThen (lockRow .update (.topics topicId) fun _ r => if r.groupId = command.groupId then some r else none) fun topic =>
    andThen (lockRow .update (.chatrooms topicChatroomId) fun _ r =>
      if isTopicRoom command.groupId command.topicId r then some () else none) fun _ =>
    andThen (lockRow .update (.chatrooms mainChatroomId) fun _ r =>
      if isMainRoom command.groupId r then some () else none) fun _ =>
    ret (some ⟨topic.authorId, topic.deletedAt, topicChatroomId, mainChatroomId⟩))
    (topics ×ˢ rooms ×ˢ mains)

/-- The target and the time of the deletion, or none for a topic that its author has deleted before. -/
def lockAuthorizedTopic (command : DeleteTopicCommand) : Sql TopicsRepositoryError (Option (TopicTarget × Time)) := do
  let found ← lockTopicTarget command
  let target ← ofOption found .topicNotFound
  if target.deletedAt.isSome then
    if target.authorId = command.actorId then ret none else fail .topicNotFound
  else if target.authorId ≠ command.actorId then fail .authorRequired
  else do
    let deletedAt ← clock
    ret (some (target, deletedAt))

/-- `ORDER BY created_at, id`. -/
def messageOrder (s : Store Row) (ids : List Uuid) : List Uuid :=
  let createdAt := fun i => (s.get (.messages i)).elim 0 Message.createdAt
  ids.insertionSort fun i j => createdAt i < createdAt j ∨ createdAt i = createdAt j ∧ i ≤ j

def lockMessages (p : Message → Bool) : Sql TopicsRepositoryError (List Uuid) :=
  selectFor .update Tables.messages (fun s => messageOrder s (s.ids Tables.messages fun _ r => p r))
    (fun _ i _ r => if p r then some i else none)

def lockAnnouncementMessages (command : DeleteTopicCommand) (authorId mainChatroomId : Uuid) :
    Sql TopicsRepositoryError (List Uuid) :=
  lockMessages fun r => decide (r.chatroomId = mainChatroomId) && decide (r.senderId = some authorId) &&
    decide (r.type = .user) && r.deletedAt.isNone && decide (r.announcementForTopicId = some command.topicId)

def lockTopicMessages (topicChatroomId : Uuid) : Sql TopicsRepositoryError (List Uuid) :=
  lockMessages fun r => decide (r.chatroomId = topicChatroomId) && r.deletedAt.isNone

end Locks

section Media

/-- The attachments of the messages. The rows of posters come from the snapshot. -/
def lockMessageMedia (messageIds : List Uuid) : Sql TopicsRepositoryError (List MediaObjectRow) := do
  if messageIds.isEmpty then ret []
  else do
    let s ← snapshot
    let media := (s.ids Tables.messageMedia fun _ r => decide (r.messageId ∈ messageIds)).filterMap fun i =>
      (s.get (.messageMedia i)).map fun r => (r.messageId, r.position, i, r.mediaUploadId)
    collect (fun (_, _, id, uploadId) =>
      andThen (lockRow .update (.messageMedia id) fun _ r =>
        if r.messageId ∈ messageIds ∧ r.mediaUploadId = uploadId then some r.objectKey else none) fun objectKey =>
      lockRow .update (.mediaUploads uploadId) fun _ u =>
        some ⟨uploadId, objectKey, u.posterUploadId.bind fun p => (s.get (.mediaUploads p)).bind fun r =>
          if ((s.get (.mediaUploads uploadId)).bind MediaUpload.posterUploadId) = some p then some (p, r.objectKey)
          else none⟩)
      (media.insertionSort fun x y => x.1 < y.1 ∨ x.1 = y.1 ∧ x.2.1 ≤ y.2.1)

def enqueueObjectDeletions (media : List MediaObjectRow) : Sql TopicsRepositoryError Unit :=
  each (fun objectKey => do
    let id ← fresh
    let now ← clock
    let _ ← insertOrSkip (.accountObjectDeletionIntents id) { objectKey, createdAt := now } []
      (.unavailable "topic_delete_object_intent")
    ret ()) ((media.flatMap MediaObjectRow.objectKeys).insertionSort (fun a b => a ≤ b)).dedup

def markMediaUploadsDeleted (media : List MediaObjectRow) (deletedAt : Time) : Sql TopicsRepositoryError Unit := do
  let ids := media.flatMap MediaObjectRow.uploadIds
  if ids.isEmpty then ret ()
  else do
    let _ ← update Tables.mediaUploads (fun s => s.ids Tables.mediaUploads fun i _ => decide (i ∈ ids))
      (fun _ i _ r => if i ∈ ids then some ({ r with deletedAt := coalesce r.deletedAt deletedAt }, ()) else none)
      (.unavailable "topic_delete_media_uploads")
    ret ()

def deleteMessageMedia (messageIds : List Uuid) : Sql TopicsRepositoryError Unit := do
  if messageIds.isEmpty then ret ()
  else do
    let _ ← delete Tables.messageMedia (fun s => s.ids Tables.messageMedia fun _ r => decide (r.messageId ∈ messageIds))
      (fun _ _ r => decide (r.messageId ∈ messageIds)) (.unavailable "topic_delete_message_media")
    ret ()

end Media

section Scrub

def scrubMessages (messageIds : List Uuid) (deletedAt : Time) : Sql TopicsRepositoryError Unit := do
  if messageIds.isEmpty then ret ()
  else do
    let _ ← update Tables.messages (fun s => s.ids Tables.messages fun i _ => decide (i ∈ messageIds))
      (fun _ i _ r =>
        if i ∈ messageIds then some ({ r with deletedAt := coalesce r.deletedAt deletedAt, body := none }, ()) else none)
      (.unavailable "topic_delete_messages")
    ret ()

structure ScrubbedMessageEvent where
  id : Uuid
  conversationId : Uuid
  cursor : Nat

/-- Unlike the deletion of a message, this finds the events in every conversation. -/
def scrubMessageCreatedEvents (messageIds : List Uuid) : Sql TopicsRepositoryError (List ScrubbedMessageEvent) := do
  let matching := fun (e : ConversationEvent) => messageIds.any fun m => EventPayload.createsMessage m e.payload
  if messageIds.isEmpty then return []
  update Tables.conversationEvents (fun s => s.ids Tables.conversationEvents fun _ e => matching e)
    (fun _ i _ e => if matching e then
      some ({ e with payload := EventPayload.scrub e.payload }, ⟨i, e.conversationId, e.cursor⟩) else none)
    (.unavailable "topic_delete_message_event_scrub")

/-- The rows of the outbox that carry one of the events. -/
def updateOutbox (eventIds : List Uuid) (isType : OutboxPayload → Bool) (f : OutboxPayload → OutboxPayload)
    (error : TopicsRepositoryError) : Sql TopicsRepositoryError Unit := do
  let matching := fun (o : OutboxEvent) => isType o.payload &&
    o.conversationEventId.any fun e => decide (e ∈ eventIds)
  if eventIds.isEmpty then ret ()
  else do
    let _ ← update Tables.outboxEvents (fun s => s.ids Tables.outboxEvents fun _ o => matching o)
      (fun _ _ _ o => if matching o then some ({ o with payload := f o.payload }, ()) else none) error
    ret ()

def scrubMessageCreatedOutbox (events : List ScrubbedMessageEvent) : Sql TopicsRepositoryError Unit :=
  updateOutbox (events.map ScrubbedMessageEvent.id) OutboxPayload.isMessageCreated OutboxPayload.scrub
    (.unavailable "topic_delete_message_outbox_scrub")

/-- `jsonb_set` of `title`. -/
def EventPayload.untitle : EventPayload → EventPayload
  | .topicCreated data => .topicCreated { data with title := "" }
  | payload => payload

def scrubTopicCreatedEvents (topicId topicChatroomId : Uuid) : Sql TopicsRepositoryError (List Uuid) :=
  let matching := fun (e : ConversationEvent) =>
    decide (e.conversationId = topicChatroomId) && EventPayload.createsTopic topicId e.payload
  update Tables.conversationEvents (fun s => s.ids Tables.conversationEvents fun _ e => matching e)
    (fun _ i _ e => if matching e then some ({ e with payload := EventPayload.untitle e.payload }, i) else none)
    (.unavailable "topic_delete_topic_event_scrub")

def OutboxPayload.isTopicCreated : OutboxPayload → Bool
  | .conversation ⟨_, _, _, _, .topicCreated _⟩ => true
  | _ => false

def OutboxPayload.untitle : OutboxPayload → OutboxPayload
  | .conversation event => .conversation { event with data := EventPayload.untitle event.data }
  | payload => payload

def scrubTopicCreatedOutbox (eventIds : List Uuid) : Sql TopicsRepositoryError Unit :=
  updateOutbox eventIds OutboxPayload.isTopicCreated OutboxPayload.untitle
    (.unavailable "topic_delete_topic_outbox_scrub")

end Scrub

section Derived

def stopPushOccurrences (messageIds topicEventIds : List Uuid) (deletedAt : Time) : Sql TopicsRepositoryError Unit := do
  let matching := fun (r : PushDeliveryIntent) => r.status.unfinished && r.deletedAt.isNone &&
    ((r.sourceMessageId.any fun m => decide (m ∈ messageIds)) || r.sourceEventId.any fun e => decide (e ∈ topicEventIds))
  let _ ← update Tables.pushDeliveryIntents (fun s => s.ids Tables.pushDeliveryIntents fun _ r => matching r)
    (fun _ _ _ r => if matching r then some (PushDeliveryIntent.stop deletedAt r, ()) else none)
    (.unavailable "topic_delete_push_stop")
  ret ()

def hideNotifications (topicId : Uuid) (target : TopicTarget) (messageEvents : List ScrubbedMessageEvent)
    (deletedAt : Time) : Sql TopicsRepositoryError Unit := do
  let cursors := (messageEvents.filter fun e => decide (e.conversationId = target.mainChatroomId)).map
    ScrubbedMessageEvent.cursor
  let matching := fun (r : Notification) => r.deletedAt.isNone && (decide (r.topicId = some topicId) ||
    decide (r.conversationId = some target.topicChatroomId) ||
    decide (r.conversationId = some target.mainChatroomId) && r.sourceCursor.any fun c => decide (c ∈ cursors))
  let _ ← update Tables.notifications (fun s => s.ids Tables.notifications fun _ r => matching r)
    (fun _ _ _ r => if matching r then some (Notification.hide deletedAt r, ()) else none)
    (.unavailable "topic_delete_notifications")
  ret ()

/-- The tag of a deleted topic is named after its own id. -/
def deleteTopicSideTables (topicId topicChatroomId : Uuid) : Sql TopicsRepositoryError Unit := do
  let isRead := fun (r : ChatroomRead) => decide (r.chatroomId = topicChatroomId) && r.deletedAt.isNone
  let _ ← update Tables.chatroomReads (fun s => s.ids Tables.chatroomReads fun _ r => isRead r)
    (fun _ _ now r => if isRead r then some ({ r with deletedAt := coalesce r.deletedAt now }, ()) else none)
    (.unavailable "topic_delete_reads")
  let _ ← update Tables.topicTags (fun s => s.ids Tables.topicTags fun _ r => decide (r.topicId = topicId))
    (fun _ i now r => if r.topicId = topicId then
      some ({ r with deletedAt := coalesce r.deletedAt now, tag := "deleted-" ++ uuidText i, confidence := none }, ())
      else none)
    (.unavailable "topic_delete_tags")
  ret ()

def scrubTopicRowAndChatroom (topicId topicChatroomId : Uuid) (deletedAt : Time) : Sql TopicsRepositoryError Unit := do
  let _ ← update Tables.topics (fun s => s.one Tables.topics topicId fun r => r.deletedAt.isNone)
    (fun _ _ _ r => if r.deletedAt = none then
      some ({ r with deletedAt := some deletedAt, title := "", body := none }, ()) else none)
    (.unavailable "topic_delete_topic_scrub")
  let _ ← update Tables.chatrooms (fun s => s.one Tables.chatrooms topicChatroomId fun _ => true)
    (fun _ _ _ r => some ({ r with deletedAt := coalesce r.deletedAt deletedAt }, ()))
    (.unavailable "topic_delete_chatroom_scrub")
  ret ()

def appendMessageDeletedEvent (command : DeleteTopicCommand) (mainChatroomId : Uuid) (deletedAt : Time)
    (messageId : Uuid) : Sql TopicsRepositoryError Unit := do
  let eventId ← fresh
  let outboxId ← fresh
  let _ ← recordEvent eventId outboxId mainChatroomId
    (.messageDeleted ⟨messageId, mainChatroomId, command.groupId, deletedAt, command.actorId, "topic_deleted"⟩)
    (.unavailable "topic_delete_announcement_event") (.unavailable "topic_delete_outbox")
  ret ()

def appendTopicDeletedEvent (command : DeleteTopicCommand) (target : TopicTarget) (announcementMessageId : Option Uuid)
    (deletedAt : Time) : Sql TopicsRepositoryError Unit := do
  let eventId ← fresh
  let outboxId ← fresh
  let _ ← recordEvent eventId outboxId target.mainChatroomId
    (.topicDeleted ⟨command.topicId, target.topicChatroomId, command.groupId, deletedAt, command.actorId,
      announcementMessageId⟩)
    (.unavailable "topic_delete_event") (.unavailable "topic_delete_outbox")
  ret ()

end Derived

/-- What becomes of the topic once it is locked. -/
def removeTopic (command : DeleteTopicCommand) (target : TopicTarget) (deletedAt : Time) :
    Sql TopicsRepositoryError Unit := do
  let announcementIds ← lockAnnouncementMessages command target.authorId target.mainChatroomId
  let topicMessageIds ← lockTopicMessages target.topicChatroomId
  let messageIds := (Push.sortIds (topicMessageIds ++ announcementIds)).dedup
  let media ← lockMessageMedia messageIds
  enqueueObjectDeletions media
  markMediaUploadsDeleted media deletedAt
  deleteMessageMedia messageIds
  scrubMessages messageIds deletedAt
  let messageEvents ← scrubMessageCreatedEvents messageIds
  scrubMessageCreatedOutbox messageEvents
  let topicEvents ← scrubTopicCreatedEvents command.topicId target.topicChatroomId
  scrubTopicCreatedOutbox topicEvents
  stopPushOccurrences messageIds topicEvents deletedAt
  hideNotifications command.topicId target messageEvents deletedAt
  deleteTopicSideTables command.topicId target.topicChatroomId
  scrubTopicRowAndChatroom command.topicId target.topicChatroomId deletedAt
  each (appendMessageDeletedEvent command target.mainChatroomId deletedAt) announcementIds
  appendTopicDeletedEvent command target announcementIds.head? deletedAt

def deleteTopic (command : DeleteTopicCommand) : Sql TopicsRepositoryError Unit := do
  lockGroupAndMembership command.groupId command.actorId
  let found ← lockAuthorizedTopic command
  match found with
  | none => ret ()
  | some (target, deletedAt) => removeTopic command target deletedAt

end JamyeServer.Postgres.TopicDeletion
