import JamyeServer.Escaping
import JamyeServer.Postgres.Messages

/-!
# Topics and read markers

`adapters/postgres/topics/mutation.rs` and `query.rs`, `adapters/postgres/chatrooms/mutation.rs` and the transactions
`create_topic_http` and `mark_read_http` of `application/transactions`.
-/

namespace JamyeServer.Postgres.Topics

open ReadCommitted Prog Rooms Notifications Messages

inductive TopicsRepositoryError
  | groupNotFound
  | membershipRequired
  | topicNotFound
  | authorRequired
  | idempotencyConflict
  | invalidData
  | unavailable (operation : String)
  deriving DecidableEq, Repr

inductive TopicsError
  | requestValidation
  | repository (error : TopicsRepositoryError)
  | notifications (error : NotificationsRepositoryError)
  deriving DecidableEq, Repr

/-- How a title is digested, and how a text is masked. -/
structure TopicText where
  fingerprint : String → String
  mask : String → String

structure CreateTopicCommand where
  topicId : Uuid
  topicChatroomId : Uuid
  topicEventId : Uuid
  topicOutboxId : Uuid
  authorReadMarkerId : Uuid
  announcementMessageId : Uuid
  announcementClientMsgId : Uuid
  announcementEventId : Uuid
  announcementOutboxId : Uuid
  groupId : Uuid
  authorId : Uuid
  idempotencyKey : Uuid
  requestFingerprint : String
  title : String
  announcementBody : String

structure TopicTagRecord where
  id : Uuid
  topicId : Uuid
  tag : String
  source : TagSource
  confidence : Option Nat
  deriving DecidableEq, Repr

structure TopicRecord where
  id : Uuid
  groupId : Uuid
  authorId : Uuid
  authorNickname : String
  authorAvatarUrl : Option String
  title : String
  body : Option String
  status : TopicStatus
  tags : List TopicTagRecord
  chatroomId : Uuid
  unread : Bool
  createdAt : Time
  updatedAt : Time
  deriving DecidableEq, Repr

inductive CreateTopicOutcome
  | created (topic : TopicRecord)
  | existing (topic : TopicRecord)
  deriving DecidableEq, Repr

def CreateTopicOutcome.topic : CreateTopicOutcome → TopicRecord
  | created topic | existing topic => topic

structure TopicNotificationContext where
  groupId : Uuid
  topicId : Uuid
  conversationId : Uuid
  sourceEventId : Uuid
  authorId : Uuid
  authorDisplayName : String

section Query

variable (s : Store Row)

/-- The cursor up to which a user has read a room. -/
def lastReadCursor (userId chatroomId : Uuid) : Nat :=
  ((s.ids Tables.chatroomReads fun _ r => decide (r.userId = userId) && decide (r.chatroomId = chatroomId) &&
    r.deletedAt.isNone).head?.bind fun i => (s.get (.chatroomReads i)).map ChatroomRead.lastReadCursor).getD 0

def EventPayload.createsAny : EventPayload → Bool
  | .messageCreated _ | .topicCreated _ => true
  | _ => false

/-- The `EXISTS` that is the same in `list_topics`, `get_topic` and `load_topic`. -/
def unread (userId chatroomId : Uuid) : Bool :=
  !(s.ids Tables.conversationEvents fun _ e => decide (e.conversationId = chatroomId) &&
    EventPayload.createsAny e.payload && e.deletedAt.isNone && decide (lastReadCursor s userId chatroomId < e.cursor)).isEmpty

/-- The live rooms of a topic. -/
def topicChats (topicId : Uuid) : List Uuid :=
  s.ids Tables.chatrooms fun _ c => decide (c.topicId = some topicId) && decide (c.type = .topic) && c.deletedAt.isNone

/-- The live tags of a topic, `ORDER BY tag, id`. -/
def topicTags (topicId : Uuid) : List TopicTagRecord :=
  ((s.ids Tables.topicTags fun _ r => decide (r.topicId = topicId) && r.deletedAt.isNone).filterMap fun i =>
    (s.get (.topicTags i)).map fun r => TopicTagRecord.mk i topicId r.tag r.source r.confidence).insertionSort
      fun x y => x.tag < y.tag ∨ x.tag = y.tag ∧ x.id ≤ y.id

/-- A live topic as its row is selected for a reader, with its tags. -/
def topicRecord (topicId actorId : Uuid) : Option TopicRecord := do
  let t ← (s.get (.topics topicId)).filter fun t => t.deletedAt.isNone
  let chatroomId ← (topicChats s topicId).head?
  let author ← s.get (.users t.authorId)
  some ⟨topicId, t.groupId, t.authorId, displayName author, displayAvatarUrl author, t.title, t.body, t.status,
    topicTags s topicId, chatroomId, unread s actorId chatroomId, t.createdAt, t.updatedAt⟩

def groupLive (groupId : Uuid) : Bool := (s.get (.groups groupId)).any fun g => g.deletedAt.isNone

def isMember (groupId actorId : Uuid) : Bool :=
  !(s.ids Tables.memberships fun _ r => decide (r.groupId = groupId) && decide (r.userId = actorId) && r.deletedAt.isNone &&
    accountLive s r.userId).isEmpty

end Query

section Read

def requireGroupAccess (groupId actorId : Uuid) : Sql TopicsRepositoryError Unit := do
  let (live, member) ← select fun s => (groupLive s groupId, groupLive s groupId && isMember s groupId actorId)
  ensure live .groupNotFound
  ensure member .membershipRequired

def getTopic (groupId topicId actorId : Uuid) : Sql TopicsRepositoryError TopicRecord := do
  requireGroupAccess groupId actorId
  let topic ← select fun s => (topicRecord s topicId actorId).filter fun t => decide (t.groupId = groupId)
  ofOption topic .topicNotFound

/-- `ORDER BY t.created_at DESC, t.id DESC`. -/
def newestFirst (x y : TopicRecord) : Bool := decide (y.createdAt < x.createdAt) || (decide (x.createdAt = y.createdAt) && decide (y.id ≤ x.id))

/-- One page of the topics of a group, after a topic and at a date if they are given. `dateOf` is the date in Seoul. -/
def listTopics (dateOf : Time → Nat) (groupId actorId : Uuid) (after : Option Uuid) (limit : Nat) (date : Option Nat) :
    Sql TopicsRepositoryError (List TopicRecord × Option Uuid) := do
  requireGroupAccess groupId actorId
  let topics ← select fun s =>
    let cursor := after.map fun a => (s.get (.topics a)).filter fun t => decide (t.groupId = groupId) && t.deletedAt.isNone
    let before := fun (t : TopicRecord) => match cursor, after with
      | some (some c), some a => decide (t.createdAt < c.createdAt) || (decide (t.createdAt = c.createdAt) && decide (t.id < a))
      | some none, _ => false
      | _, _ => true
    (((s.ids Tables.topics fun _ t => decide (t.groupId = groupId) && t.deletedAt.isNone).filterMap
      fun i => topicRecord s i actorId).filter fun t => before t && date.all fun d => decide (dateOf t.createdAt = d)).insertionSort
        (fun x y => newestFirst x y)
  let page := topics.take limit
  ret (page, if limit < topics.length then page.getLast?.map TopicRecord.id else none)

end Read

section Create

/-- The live group is locked; the member's name and avatar come from the snapshot after that. -/
def lockGroupAndMembership (groupId actorId : Uuid) : Sql TopicsRepositoryError (String × Option String) := do
  let live ← selectFor .update Tables.groups (fun s => s.one Tables.groups groupId fun r => r.deletedAt.isNone)
    (fun _ i _ r => if r.deletedAt = none then some i else none)
  ensure (live ≠ []) .groupNotFound
  let member ← select fun s => if isMember s groupId actorId then
    (s.get (.users actorId)).map fun u => (u.nickname, u.avatarUrl) else none
  ofOption member .membershipRequired

def loadTopic (topicId actorId : Uuid) : Sql TopicsRepositoryError TopicRecord := do
  let topic ← select fun s => topicRecord s topicId actorId
  let topic ← ofOption topic .topicNotFound
  let tags ← select fun s => topicTags s topicId
  ret { topic with tags }

/-- The topic with the author's idempotency key. -/
def storedTopic (s : Store Row) (authorId idempotencyKey : Uuid) : Option (Uuid × Topic) :=
  (s.ids Tables.topics fun _ t => decide (t.authorId = authorId) && decide (t.idempotencyKey = idempotencyKey)).head?.bind
    fun i => (s.get (.topics i)).map fun t => (i, t)

def existingTopic (command : CreateTopicCommand) : Sql TopicsRepositoryError CreateTopicOutcome := do
  let existing ← select fun s => storedTopic s command.authorId command.idempotencyKey
  let (topicId, t) ← ofOption existing .invalidData
  ensure (t.deletedAt = none) .idempotencyConflict
  ensure (t.groupId = command.groupId ∧ t.requestFingerprint = command.requestFingerprint) .idempotencyConflict
  let topic ← loadTopic topicId command.authorId
  ret (.existing topic)

def mainChatroom (s : Store Row) (groupId : Uuid) : Option Uuid :=
  (s.ids Tables.chatrooms fun _ c => decide (c.groupId = groupId) && decide (c.type = .main)).head?

/-- The rows of a topic that is new: its room, its event, the marker of its author and the announcement. -/
def insertTopicRows (settings : Settings) (command : CreateTopicCommand) (member : String × Option String) (createdAt : Time) :
    Sql TopicsRepositoryError CreateTopicOutcome := do
  let roomCreatedAt ← clock
  insertRow (.chatrooms command.topicChatroomId)
    { groupId := command.groupId, type := .topic, topicId := some command.topicId, createdAt := roomCreatedAt }
    [.groups command.groupId, .topics command.topicId] (.unavailable "topic_chatroom_insert")
  let topicCursor ← recordEvent command.topicEventId command.topicOutboxId command.topicChatroomId
    (.topicCreated ⟨command.topicId, command.groupId, command.topicChatroomId, command.authorId, command.title⟩)
    (.unavailable "topic_event_insert") (.unavailable "topic_outbox_insert")
  let readAt ← clock
  insertRow (.chatroomReads command.authorReadMarkerId)
    { userId := command.authorId, chatroomId := command.topicChatroomId, lastReadCursor := topicCursor, updatedAt := readAt }
    [.users command.authorId, .chatrooms command.topicChatroomId] (.unavailable "topic_author_read_insert")
  let main ← select fun s => mainChatroom s command.groupId
  let mainChatroomId ← ofOption main .invalidData
  let announcedAt ← nextTimestamp settings mainChatroomId
  insertRow (.messages command.announcementMessageId)
    { chatroomId := mainChatroomId, senderId := some command.authorId, clientMsgId := some command.announcementClientMsgId,
      body := some command.announcementBody, createdAt := announcedAt, announcementForTopicId := some command.topicId }
    [.chatrooms mainChatroomId, .users command.authorId, .topics command.topicId] (.unavailable "topic_announcement_insert")
  let _ ← recordEvent command.announcementEventId command.announcementOutboxId mainChatroomId
    (.messageCreated { id := command.announcementMessageId, chatroomId := mainChatroomId, senderId := some command.authorId,
                       senderNickname := some member.1, senderAvatarUrl := member.2,
                       clientMsgId := some command.announcementClientMsgId, body := some command.announcementBody,
                       messageType := .user, createdAt := announcedAt, media := [] })
    (.unavailable "topic_announcement_event_insert") (.unavailable "topic_outbox_insert")
  ret (.created ⟨command.topicId, command.groupId, command.authorId, member.1, member.2, command.title, none, .seed, [],
    command.topicChatroomId, false, createdAt, createdAt⟩)

def createTopic (settings : Settings) (command : CreateTopicCommand) : Sql TopicsRepositoryError CreateTopicOutcome := do
  let member ← lockGroupAndMembership command.groupId command.authorId
  let now ← clock
  let inserted ← insertOrSkip (.topics command.topicId)
    { groupId := command.groupId, authorId := command.authorId, idempotencyKey := command.idempotencyKey,
      requestFingerprint := command.requestFingerprint, title := command.title, createdAt := now, updatedAt := now }
    [.groups command.groupId, .users command.authorId] (.unavailable "topic_insert")
  if inserted then insertTopicRows settings command member now else existingTopic command

/-- The rows of the topic, its room, its event and its author, in a snapshot. -/
def contextRows (s : Store Row) (topic : TopicRecord) : List (Uuid × Uuid) :=
  if (s.get (.topics topic.id)).any fun t => decide (t.groupId = topic.groupId) && decide (t.authorId = topic.authorId) then
    (s.ids Tables.chatrooms fun _ c => decide (c.topicId = some topic.id) && decide (c.groupId = topic.groupId) &&
      decide (c.type = .topic)).flatMap fun c =>
        (s.ids Tables.conversationEvents fun _ e => decide (e.conversationId = c) &&
          EventPayload.createsTopic topic.id e.payload).map fun e => (c, e)
  else []

/-- The rows are locked `FOR SHARE` and tested again. -/
def lockContextRow (topic : TopicRecord) (row : Uuid × Uuid) :
    Sql TopicsRepositoryError (Option (Uuid × Uuid × String)) :=
  andThen (lockRow .share (.topics topic.id) fun _ t =>
    if t.groupId = topic.groupId ∧ t.authorId = topic.authorId then some () else none) fun _ =>
  andThen (lockRow .share (.chatrooms row.1) fun _ c =>
    if c.topicId = some topic.id ∧ c.groupId = topic.groupId ∧ c.type = .topic then some () else none) fun _ =>
  andThen (lockRow .share (.conversationEvents row.2) fun _ e =>
    if e.conversationId = row.1 ∧ EventPayload.createsTopic topic.id e.payload = true then some () else none) fun _ =>
  lockRow .share (.users topic.authorId) fun _ u => some (row.1, row.2, displayName u)

def notificationContext (topic : TopicRecord) : Sql TopicsRepositoryError TopicNotificationContext := do
  let s ← snapshot
  let rows ← collect (lockContextRow topic) (contextRows s topic)
  match rows with
  | [(chatroomId, eventId, authorDisplayName)] =>
    ret ⟨topic.groupId, topic.id, chatroomId, eventId, topic.authorId, authorDisplayName⟩
  | _ => fail .invalidData

/-- The characters in the order in which `announcement_body` replaces them. -/
def linkCharacters : List Char := ['\\', '[', ']', '(', ')']

/-- The five replacements, one after the other. -/
def escapedTitle (title : List Char) : List Char :=
  linkCharacters.foldl (fun escaped character => Escaping.replace character ['\\', character] escaped) title

def opening : List Char := "새로운 주제를 올렸어요: [".toList

/-- What follows the label: the end of the link text and the target, for the displayed ids of group and topic. -/
def closing (group topic : List Char) : List Char :=
  "](/groups/".toList ++ group ++ "/topics/".toList ++ topic ++ "/chat)".toList

def announcementBody (group topic : List Char) (title : String) : String :=
  String.ofList (opening ++ escapedTitle title.toList ++ closing group topic)

/-- `trim`, and a length between 1 and 256. -/
def normalizeTitle (title : String) : Option String :=
  let trimmed := Text.trim title.toList
  if trimmed = [] ∨ 256 < trimmed.length then none else some (String.ofList trimmed)

def prepareCreateTopic (text : TopicText) (authorId groupId idempotencyKey : Uuid) (title : String) :
    Sql TopicsError CreateTopicCommand := do
  let title ← ofOption (normalizeTitle title) .requestValidation
  let topicId ← fresh
  let topicChatroomId ← fresh
  let topicEventId ← fresh
  let topicOutboxId ← fresh
  let authorReadMarkerId ← fresh
  let announcementMessageId ← fresh
  let announcementClientMsgId ← fresh
  let announcementEventId ← fresh
  let announcementOutboxId ← fresh
  ret { topicId, topicChatroomId, topicEventId, topicOutboxId, authorReadMarkerId, announcementMessageId,
        announcementClientMsgId, announcementEventId, announcementOutboxId, groupId, authorId, idempotencyKey,
        requestFingerprint := text.fingerprint title, title,
        announcementBody := text.mask (announcementBody (uuidText groupId).toList (uuidText topicId).toList title) }

/-- The members are notified of the topic whether it is new or not. -/
def createTopicHttp (settings : Settings) (text : TopicText) (authorId groupId idempotencyKey : Uuid) (title : String) :
    Sql TopicsError CreateTopicOutcome := do
  let command ← prepareCreateTopic text authorId groupId idempotencyKey title
  let outcome ← mapError .repository (createTopic settings command)
  let context ← mapError .repository (notificationContext outcome.topic)
  let _ ← mapError .notifications (recordTopicCreated ⟨context.groupId, context.topicId, context.conversationId,
    context.sourceEventId, context.authorId, context.authorDisplayName⟩)
  ret outcome

end Create

section Patch

structure PatchTopicCommand where
  groupId : Uuid
  topicId : Uuid
  actorId : Uuid
  title : Option String
  body : Option String
  deriving DecidableEq

def Topic.patch (title body : Option String) (now : Time) (t : Topic) : Topic :=
  { t with title := title.getD t.title, body := body.or t.body,
           status := if body.isSome then .enriched else t.status,
           updatedAt := if title.isSome || body.isSome then now else t.updatedAt }

def patchTopic (command : PatchTopicCommand) : Sql TopicsRepositoryError TopicRecord := do
  let _ ← lockGroupAndMembership command.groupId command.actorId
  let authors ← selectFor .update Tables.topics
    (fun s => s.one Tables.topics command.topicId fun t => decide (t.groupId = command.groupId) && t.deletedAt.isNone)
    (fun _ _ _ t => if t.groupId = command.groupId ∧ t.deletedAt = none then some t.authorId else none)
  ensure (authors.head? = some command.actorId) .authorRequired
  let _ ← update Tables.topics
    (fun s => s.one Tables.topics command.topicId fun t => decide (t.groupId = command.groupId))
    (fun _ _ now t => if t.groupId = command.groupId then some (Topic.patch command.title command.body now t, ()) else none)
    (.unavailable "topic_patch")
  loadTopic command.topicId command.actorId

end Patch

section MarkRead

inductive ChatroomsRepositoryError
  | membershipRequired
  | cursorInvalid
  | unavailable (operation : String)
  deriving DecidableEq, Repr

inductive ChatroomsError
  | repository (error : ChatroomsRepositoryError)
  | notifications (error : NotificationsRepositoryError)
  deriving DecidableEq, Repr

inductive ReadMarkerAnchor
  | cursor (cursor : Nat)
  | messageId (messageId : Uuid)
  deriving DecidableEq, Repr

structure ReadMarker where
  id : Uuid
  userId : Uuid
  chatroomId : Uuid
  lastReadCursor : Nat
  updatedAt : Time
  deriving DecidableEq, Repr

def authorizeRead (chatroomId userId : Uuid) : Sql ChatroomsRepositoryError Unit := do
  let s ← snapshot
  let authorized ← first (fun (groupId, membershipId) =>
    andThen (lockLiveRoom .share chatroomId groupId) fun _ =>
    andThen (Rooms.lockLiveGroup .share groupId) fun _ =>
    lockLiveMembership .share membershipId groupId userId) (accesses s chatroomId userId)
  ensure authorized.isSome .membershipRequired

def cursorForExistingCursor (chatroomId : Uuid) (cursor : Nat) : Sql ChatroomsRepositoryError Nat := do
  let found ← select fun s => s.ids Tables.conversationEvents fun _ e =>
    decide (e.conversationId = chatroomId) && decide (e.cursor = cursor) && e.deletedAt.isNone
  ensure (found ≠ []) .cursorInvalid
  ret cursor

/-- The one event of a live message. -/
def cursorForMessageAnchor (chatroomId messageId : Uuid) : Sql ChatroomsRepositoryError Nat := do
  let s ← snapshot
  let matching := fun (e : ConversationEvent) =>
    decide (e.conversationId = chatroomId) && EventPayload.createsMessage messageId e.payload && e.deletedAt.isNone
  let live := fun (m : Message) => decide (m.chatroomId = chatroomId) && m.deletedAt.isNone
  let cursors ← collect (fun eventId =>
    andThen (lockRow .share (.messages messageId) fun _ m => if live m then some () else none) fun _ =>
    lockRow .share (.conversationEvents eventId) fun _ e => if matching e then some e.cursor else none)
    (if (s.get (.messages messageId)).any live then s.ids Tables.conversationEvents fun _ e => matching e else [])
  match cursors with
  | [cursor] => ret cursor
  | _ => fail .cursorInvalid

def ChatroomRead.advance (cursor : Nat) (now : Time) (r : ChatroomRead) : ChatroomRead :=
  { r with lastReadCursor := max r.lastReadCursor cursor,
           updatedAt := if r.lastReadCursor < cursor then now else r.updatedAt }

/-- `INSERT … ON CONFLICT (user_id, chatroom_id) DO UPDATE`. -/
def upsertMarker (userId chatroomId : Uuid) (cursor : Nat) : Sql ChatroomsRepositoryError ReadMarker := do
  let id ← fresh
  let now ← clock
  let row : ChatroomRead := { userId, chatroomId, lastReadCursor := cursor, updatedAt := now }
  match ← upsert (.chatroomReads id) row .noKeyUpdate with
  | none => do
    references (.unavailable "read_marker_upsert") [.users userId, .chatrooms chatroomId]
    ret ⟨id, userId, chatroomId, cursor, now⟩
  | some (.chatroomReads j) => do
    let updated ← changeRow .noKeyUpdate (.chatroomReads j)
      (fun now r => some (some (ChatroomRead.advance cursor now r),
        ReadMarker.mk j userId chatroomId (max r.lastReadCursor cursor) (ChatroomRead.advance cursor now r).updatedAt))
      (.unavailable "read_marker_upsert")
    ofOption updated (.unavailable "read_marker_upsert")
  | some _ => fail (.unavailable "read_marker_upsert")

def markRead (userId chatroomId : Uuid) (anchor : ReadMarkerAnchor) : Sql ChatroomsRepositoryError ReadMarker := do
  authorizeRead chatroomId userId
  let cursor ← match anchor with
    | .cursor cursor => cursorForExistingCursor chatroomId cursor
    | .messageId messageId => cursorForMessageAnchor chatroomId messageId
  upsertMarker userId chatroomId cursor

def markReadHttp (userId chatroomId : Uuid) (anchor : ReadMarkerAnchor) : Sql ChatroomsError ReadMarker := do
  let marker ← mapError .repository (markRead userId chatroomId anchor)
  let _ ← mapError .notifications (clearTopicNotifications userId chatroomId)
  ret marker

end MarkRead

end JamyeServer.Postgres.Topics
