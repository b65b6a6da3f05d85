import JamyeServer.Keyset
import JamyeServer.Postgres.Topics
import JamyeServer.Postgres.Groups
import Mathlib.Data.String.Basic

/-!
# The paged lists

`adapters/postgres/{topics,groups,chatrooms,notifications}/query.rs`. Each list is read in one statement: it resolves
the cursor in a subquery, joins what the list shows and reads one row more than the limit. Where the statement joins
the answer to an access row, the columns of that row are the flags that are tested first, and the outer `ORDER BY` is
the order of the page again. The rows of a state are in no order.
-/

namespace JamyeServer

namespace ReadCommitted.Store

variable {Key α β ι : Type} {Row : Key → Type}

/-- `SELECT … FROM T JOIN …`: what `f` makes of each row. -/
def scan (s : Store Row) (T : Table Key ι) (f : (i : ι) → Row (T.key i) → Option α) : List α :=
  s.keys.filterMap fun k => (T.id? k).bind fun i => (s.get (T.key i)).bind (f i)

lemma mem_scan {s : Store Row} {T : Table Key ι} {f : (i : ι) → Row (T.key i) → Option α} {a : α} :
    a ∈ s.scan T f ↔ ∃ i r, s.get (T.key i) = some r ∧ f i r = some a := by
  simp only [scan, List.mem_filterMap, Option.bind_eq_some_iff]
  constructor
  · rintro ⟨k, -, i, -, r, hr, hf⟩
    exact ⟨i, r, hr, hf⟩
  · rintro ⟨i, r, hr, hf⟩
    exact ⟨T.key i, s.complete _ (by simp [hr]), i, (T.id?_eq _ _).mpr rfl, r, hr, hf⟩

/-- What names the row is different in different rows. -/
lemma nodup_scan (s : Store Row) (T : Table Key ι) {f : (i : ι) → Row (T.key i) → Option α} {g : α → β}
    (h : ∀ i r a i' r' a', s.get (T.key i) = some r → f i r = some a → s.get (T.key i') = some r' → f i' r' = some a' →
      g a = g a' → i = i') : ((s.scan T f).map g).Nodup := by
  rw [scan, List.map_filterMap]
  refine List.Nodup.filterMap ?_ s.nodup
  intro k k' b hk hk'
  simp only [Option.mem_def, Option.map_eq_some_iff, Option.bind_eq_some_iff] at hk hk'
  obtain ⟨a, ⟨i, hi, r, hr, hf⟩, hb⟩ := hk
  obtain ⟨a', ⟨i', hi', r', hr', hf'⟩, hb'⟩ := hk'
  rw [(T.id?_eq k i).mp hi, (T.id?_eq k' i').mp hi', h i r a i' r' a' hr hf hr' hf' (hb.trans hb'.symm)]

end ReadCommitted.Store

namespace Postgres.Lists

open ReadCommitted Keyset Rooms Topics
open Notifications (accountLive)

/-- The errors of the four repositories that a list answers. -/
inductive ListError
  | groupNotFound
  | membershipRequired
  | topicNotFound
  | cursorInvalid
  | invalidData
  deriving DecidableEq, Repr

/-- `ORDER BY created_at, id`. -/
abbrev Oldest := Time ×ₗ Uuid

/-- `ORDER BY created_at DESC, id DESC`. -/
abbrev Newest := (Time ×ₗ Uuid)ᵒᵈ

def oldest (createdAt : Time) (id : Uuid) : Oldest := toLex (createdAt, id)

def newest (createdAt : Time) (id : Uuid) : Newest := OrderDual.toDual (toLex (createdAt, id))

/-- A row comparison in the order of the list. -/
def rowAfter {κ α : Type} [LinearOrder κ] (key : α → κ) (place : κ) (a : α) : Bool := decide (place < key a)

/-- A live membership of the user in the live group. -/
def activeMember (s : Store Row) (groupId userId : Uuid) : Bool :=
  groupLive s groupId && !(s.ids Tables.memberships fun _ m => decide (m.groupId = groupId) && decide (m.userId = userId) &&
    m.deletedAt.isNone).isEmpty

def requireAccess (member cursorValid : Bool) : Except ListError Unit :=
  if !member then .error .membershipRequired else if !cursorValid then .error .cursorInvalid else .ok ()

section Chatrooms

structure ListChatroomsQuery where
  groupId : Uuid
  userId : Uuid
  after : Option Uuid
  limit : Nat

structure ChatroomRecord where
  id : Uuid
  groupId : Uuid
  chatroomType : ChatroomType
  topicId : Option Uuid
  createdAt : Time
  deriving DecidableEq, Repr

abbrev ChatroomRow := Uuid × Chatroom

def chatroomKey (row : ChatroomRow) : Oldest := oldest row.2.createdAt row.1

def chatroomRows (s : Store Row) (groupId : Uuid) : List ChatroomRow :=
  s.scan Tables.chatrooms fun i c => if c.groupId = groupId ∧ c.deletedAt = none ∧ topicLive s c = true then some (i, c) else none

def cursorChatroom (s : Store Row) (groupId cursor : Uuid) : Option Oldest :=
  ((s.get (.chatrooms cursor)).filter fun c => decide (c.groupId = groupId) && c.deletedAt.isNone).map fun c =>
    chatroomKey (cursor, c)

def chatroomFromAccessRow (row : ChatroomRow) : Except ListError ChatroomRecord :=
  if row.2.type = .main ∧ row.2.topicId.isSome ∨ row.2.type = .topic ∧ row.2.topicId.isNone then .error .invalidData
  else .ok ⟨row.1, row.2.groupId, row.2.type, row.2.topicId, row.2.createdAt⟩

def listChatrooms (s : Store Row) (query : ListChatroomsQuery) : Except ListError (Page ChatroomRecord Uuid) := do
  let member := activeMember s query.groupId query.userId
  let cursor := query.after.map (cursorChatroom s query.groupId)
  let cursorValid := cursor.all Option.isSome
  let page := if member && cursorValid then
    fetch chatroomKey (rowAfter chatroomKey) cursor query.limit (chatroomRows s query.groupId) else []
  requireAccess member cursorValid
  let items ← page.mapM chatroomFromAccessRow
  pure (cut query.limit ChatroomRecord.id items)

end Chatrooms

section Members

structure ListMembersQuery where
  groupId : Uuid
  actorId : Uuid
  after : Option Uuid
  limit : Nat

structure MemberRecord where
  membershipId : Uuid
  userId : Uuid
  nickname : String
  avatarUrl : Option String
  role : GroupRole
  joinedAt : Time
  deriving DecidableEq, Repr

/-- `CASE WHEN role = 'owner' THEN 0 ELSE 1 END`. -/
def roleRank : GroupRole → Nat
  | .owner => 0
  | .member => 1

def memberPlace (id : Uuid) (m : Membership) : Nat ×ₗ Oldest := toLex (roleRank m.role, oldest m.joinedAt id)

def memberKey (row : MemberRecord) : Nat ×ₗ Oldest := toLex (roleRank row.role, oldest row.joinedAt row.membershipId)

def memberRows (s : Store Row) (groupId : Uuid) : List MemberRecord :=
  s.scan Tables.memberships fun i m =>
    if m.groupId = groupId ∧ m.deletedAt = none then
      ((s.get (.users m.userId)).filter fun u => u.deletedAt.isNone).map fun u =>
        ⟨i, m.userId, u.nickname, u.avatarUrl, m.role, m.joinedAt⟩
    else none

def cursorMembership (s : Store Row) (groupId cursor : Uuid) : Option (Nat ×ₗ Oldest) :=
  ((s.get (.memberships cursor)).filter fun m => decide (m.groupId = groupId) && m.deletedAt.isNone).map (memberPlace cursor)

/-- The roles and the columns of a member are never missing, so that every row is a member. -/
def listMembers (s : Store Row) (query : ListMembersQuery) : Except ListError (Page MemberRecord Uuid) := do
  let live := groupLive s query.groupId
  let member := activeMember s query.groupId query.actorId
  let page := if live && member then
    fetch memberKey (rowAfter memberKey) (query.after.map (cursorMembership s query.groupId)) query.limit
      (memberRows s query.groupId) else []
  if !live then .error .groupNotFound
  else if !member then .error .membershipRequired
  else .ok (cut query.limit MemberRecord.membershipId page)

end Members

section Groups

structure ListGroupsQuery where
  userId : Uuid
  after : Option Uuid
  limit : Nat

structure GroupRecord where
  id : Uuid
  name : String
  ownerId : Uuid
  maxMembers : Nat
  memberCount : Nat
  createdAt : Time
  mainChatroomId : Uuid
  deriving DecidableEq, Repr

def groupKey (row : GroupRecord) : Oldest := oldest row.createdAt row.id

/-- A live membership of the user in the group. -/
def joined (s : Store Row) (groupId userId : Uuid) : Bool :=
  !(s.ids Tables.memberships fun _ m => decide (m.groupId = groupId) && decide (m.userId = userId) && m.deletedAt.isNone).isEmpty

def memberCount (s : Store Row) (groupId : Uuid) : Nat :=
  (s.ids Tables.memberships fun _ m => decide (m.groupId = groupId) && m.deletedAt.isNone).length

def groupRows (s : Store Row) (userId : Uuid) : List GroupRecord :=
  s.scan Tables.groups fun i g =>
    if g.deletedAt = none ∧ joined s i userId = true then
      (mainChatroom s i).map fun main => ⟨i, g.name, g.ownerId, g.maxMembers, memberCount s i, g.createdAt, main⟩
    else none

def cursorGroup (s : Store Row) (userId cursor : Uuid) : Option Oldest :=
  ((s.get (.groups cursor)).filter fun g => g.deletedAt.isNone && joined s cursor userId).map fun g =>
    oldest g.createdAt cursor

def listGroups (s : Store Row) (query : ListGroupsQuery) : Except ListError (Page GroupRecord Uuid) :=
  .ok (cut query.limit GroupRecord.id (fetch groupKey (rowAfter groupKey) (query.after.map (cursorGroup s query.userId))
    query.limit (groupRows s query.userId)))

end Groups

section Topics

structure ListTopicsQuery where
  groupId : Uuid
  actorId : Uuid
  after : Option Uuid
  limit : Nat
  date : Option Nat

def topicKey (row : TopicRecord) : Newest := newest row.createdAt row.id

/-- The topics of the group, on a date in Seoul if one is given. -/
def topicRows (dateOf : Time → Nat) (s : Store Row) (groupId actorId : Uuid) (date : Option Nat) : List TopicRecord :=
  s.scan Tables.topics fun i t =>
    if t.groupId = groupId ∧ (date.all fun d => decide (dateOf t.createdAt = d)) = true then topicRecord s i actorId else none

def cursorTopic (s : Store Row) (groupId cursor : Uuid) : Option Newest :=
  ((s.get (.topics cursor)).filter fun t => decide (t.groupId = groupId) && t.deletedAt.isNone).map fun t =>
    newest t.createdAt cursor

def topicAccess (s : Store Row) (groupId actorId : Uuid) : Except ListError Unit :=
  if !groupLive s groupId then .error .groupNotFound
  else if !(groupLive s groupId && isMember s groupId actorId) then .error .membershipRequired
  else .ok ()

def listTopicPage (dateOf : Time → Nat) (s : Store Row) (query : ListTopicsQuery) : Except ListError (Page TopicRecord Uuid) := do
  topicAccess s query.groupId query.actorId
  pure (cut query.limit TopicRecord.id (fetch topicKey (rowAfter topicKey) (query.after.map (cursorTopic s query.groupId))
    query.limit (topicRows dateOf s query.groupId query.actorId query.date)))

structure ListTopicTagsQuery where
  groupId : Uuid
  topicId : Uuid
  actorId : Uuid
  after : Option Uuid
  limit : Nat

/-- The place of a tag in the collation of the database. -/
def tagKey {C : Type} (collation : String → C) (row : TopicTagRecord) : C ×ₗ Uuid := toLex (collation row.tag, row.id)

def tagRows (s : Store Row) (topicId : Uuid) : List TopicTagRecord :=
  s.scan Tables.topicTags fun i r =>
    if r.topicId = topicId ∧ r.deletedAt = none then some ⟨i, r.topicId, r.tag, r.source, r.confidence⟩ else none

def cursorTag {C : Type} (collation : String → C) (s : Store Row) (topicId cursor : Uuid) : Option (C ×ₗ Uuid) :=
  ((s.get (.topicTags cursor)).filter fun r => decide (r.topicId = topicId) && r.deletedAt.isNone).map fun r =>
    toLex (collation r.tag, cursor)

def listTags {C : Type} [LinearOrder C] (collation : String → C) (s : Store Row) (query : ListTopicTagsQuery) :
    Except ListError (Page TopicTagRecord Uuid) := do
  topicAccess s query.groupId query.actorId
  if !(s.get (.topics query.topicId)).any (fun t => decide (t.groupId = query.groupId) && t.deletedAt.isNone) then
    .error .topicNotFound
  else pure (cut query.limit TopicTagRecord.id (fetch (tagKey collation) (rowAfter (tagKey collation))
    (query.after.map (cursorTag collation s query.topicId)) query.limit (tagRows s query.topicId)))

end Topics

section MessageHistory

structure MessageHistoryQuery where
  chatroomId : Uuid
  userId : Uuid
  before : Option Uuid
  limit : Nat

structure MessageHistoryRecord where
  message : CanonicalMessage
  senderNickname : Option String
  senderAvatarUrl : Option String
  deriving DecidableEq, Repr

def MessageHistoryRecord.id (record : MessageHistoryRecord) : Uuid := record.message.id

/-- A message with its sender. -/
structure MessageRow where
  id : Uuid
  message : Message
  sender : Option User

def messageKey (row : MessageRow) : Newest := newest row.message.createdAt row.id

def messageRows (s : Store Row) (chatroomId : Uuid) : List MessageRow :=
  s.scan Tables.messages fun i m =>
    if m.chatroomId = chatroomId ∧ m.deletedAt = none ∧ ((s.get (.chatrooms m.chatroomId)).all fun c => topicLive s c) = true then
      some ⟨i, m, m.senderId.bind fun u => s.get (.users u)⟩
    else none

def cursorMessage (s : Store Row) (chatroomId cursor : Uuid) : Option Newest :=
  ((s.get (.messages cursor)).filter fun m => decide (m.chatroomId = chatroomId) && m.deletedAt.isNone).map fun m =>
    newest m.createdAt cursor

def messageFromAccessRow (row : MessageRow) : Except ListError MessageHistoryRecord :=
  let senderNickname := row.sender.map displayName
  let senderAvatarUrl := row.sender.bind displayAvatarUrl
  let record : MessageHistoryRecord :=
    ⟨{ id := row.id, chatroomId := row.message.chatroomId, senderId := row.message.senderId, senderNickname, senderAvatarUrl,
       clientMsgId := row.message.clientMsgId, body := row.message.body, messageType := row.message.type,
       createdAt := row.message.createdAt, media := [] }, senderNickname, senderAvatarUrl⟩
  match row.message.type with
  | .user =>
    if row.message.senderId.isNone || row.message.clientMsgId.isNone || senderNickname.isNone then .error .invalidData
    else .ok record
  | .system =>
    if row.message.senderId.isSome || row.message.clientMsgId.isSome || senderNickname.isSome || senderAvatarUrl.isSome then
      .error .invalidData
    else .ok record

/-- An attachment of a message with the poster of its upload. -/
structure MessageMediaRow where
  id : Uuid
  media : MessageMedia
  posterUploadId : Option Uuid

def positive (value : Nat) : Except ListError Nat := if value = 0 then .error .invalidData else .ok value

def positiveOptional : Option Nat → Except ListError (Option Nat)
  | none => .ok none
  | some value => (positive value).map some

/-- The position is an `u8`. -/
def messageAttachmentFromRow (row : MessageMediaRow) : Except ListError MessageAttachment := do
  let byteSize ← positive row.media.byteSize
  let width ← positiveOptional row.media.width
  let height ← positiveOptional row.media.height
  let duration ← positiveOptional row.media.duration
  if 256 ≤ row.media.position then .error .invalidData
  else pure ⟨row.id, row.media.mediaUploadId, row.media.contentType, byteSize, width, height, duration, row.media.filename,
    row.media.position, row.posterUploadId⟩

/-- The live attachments of a live message, `ORDER BY position`. -/
def messageMediaRows (s : Store Row) (messageId : Uuid) : List MessageMediaRow :=
  sorted (fun row => row.media.position) <| s.scan Tables.messageMedia fun i r =>
    if r.messageId = messageId ∧ r.deletedAt = none ∧ ((s.get (.messages messageId)).any fun m => m.deletedAt.isNone) = true then
      ((s.get (.mediaUploads r.mediaUploadId)).filter fun u => u.deletedAt.isNone).map fun u => ⟨i, r, u.posterUploadId⟩
    else none

/-- Each attachment stands where its position says. -/
def inPosition (media : List MessageAttachment) : Bool := media.map MessageAttachment.position = List.range media.length

def hydrateMessageMedia (s : Store Row) (record : MessageHistoryRecord) : Except ListError MessageHistoryRecord := do
  let media ← (messageMediaRows s record.message.id).mapM messageAttachmentFromRow
  if inPosition media then pure { record with message := { record.message with media } } else .error .invalidData

/-- Newest first, before the page is turned around. -/
def messagesBefore (s : Store Row) (query : MessageHistoryQuery) : Except ListError (Page MessageHistoryRecord Uuid) := do
  let member := !(accesses s query.chatroomId query.userId).isEmpty
  let cursor := query.before.map (cursorMessage s query.chatroomId)
  let cursorValid := cursor.all Option.isSome
  let page := if member && cursorValid then
    fetch messageKey (rowAfter messageKey) cursor query.limit (messageRows s query.chatroomId) else []
  requireAccess member cursorValid
  let items ← page.mapM messageFromAccessRow
  let page := cut query.limit MessageHistoryRecord.id items
  let items ← page.items.mapM (hydrateMessageMedia s)
  pure ⟨items, page.nextCursor⟩

def messageHistory (s : Store Row) (query : MessageHistoryQuery) : Except ListError (Page MessageHistoryRecord Uuid) :=
  (messagesBefore s query).map fun page => ⟨page.items.reverse, page.nextCursor⟩

end MessageHistory

section ChatroomMedia

structure ChatroomMediaQuery where
  chatroomId : Uuid
  userId : Uuid
  before : Option Uuid
  limit : Nat

structure ChatroomMediaItem where
  attachment : MessageAttachment
  messageId : Uuid
  messageCreatedAt : Time
  deriving DecidableEq, Repr

def ChatroomMediaItem.id (item : ChatroomMediaItem) : Uuid := item.attachment.id

structure ChatroomMediaRow where
  row : MessageMediaRow
  messageCreatedAt : Time

/-- `type LIKE 'image/%' OR type LIKE 'video/%'`. -/
def isVisual (contentType : String) : Bool :=
  "image/".toList.isPrefixOf contentType.toList || "video/".toList.isPrefixOf contentType.toList

/-- `ORDER BY message.created_at DESC, message.id DESC, media.position ASC`. -/
abbrev MediaPlace := Newest ×ₗ Nat

def mediaPlace (createdAt : Time) (messageId : Uuid) (position : Nat) : MediaPlace := toLex (newest createdAt messageId, position)

def mediaKey (row : ChatroomMediaRow) : MediaPlace := mediaPlace row.messageCreatedAt row.row.media.messageId row.row.media.position

def chatroomMediaRows (s : Store Row) (chatroomId : Uuid) : List ChatroomMediaRow :=
  s.scan Tables.messageMedia fun i r => do
    let message ← (s.get (.messages r.messageId)).filter fun m => decide (m.chatroomId = chatroomId) && m.deletedAt.isNone
    let _ ← (s.get (.chatrooms message.chatroomId)).filter fun c => c.deletedAt.isNone && topicLive s c
    let upload ← (s.get (.mediaUploads r.mediaUploadId)).filter fun u => u.deletedAt.isNone
    if r.deletedAt = none ∧ isVisual r.contentType = true then some ⟨⟨i, r, upload.posterUploadId⟩, message.createdAt⟩ else none

/-- `cursor_item`: the time, the message and the position of the attachment. -/
def cursorItem (s : Store Row) (chatroomId cursor : Uuid) : Option (Time × Uuid × Nat) := do
  let media ← (s.get (.messageMedia cursor)).filter fun r => r.deletedAt.isNone && isVisual r.contentType
  let message ← (s.get (.messages media.messageId)).filter fun m => decide (m.chatroomId = chatroomId) && m.deletedAt.isNone
  some (message.createdAt, media.messageId, media.position)

/-- The comparison of the statement: an older message, or a later position in the message of the cursor. -/
def mediaAfter (cursor : MediaPlace) (row : ChatroomMediaRow) : Bool :=
  decide ((ofLex cursor).1 < newest row.messageCreatedAt row.row.media.messageId) ||
    (decide (row.row.media.messageId = (ofLex (OrderDual.ofDual (ofLex cursor).1)).2) &&
      decide ((ofLex cursor).2 < row.row.media.position))

def chatroomMediaFromAccessRow (row : ChatroomMediaRow) : Except ListError ChatroomMediaItem := do
  let attachment ← messageAttachmentFromRow row.row
  pure ⟨attachment, row.row.media.messageId, row.messageCreatedAt⟩

def chatroomMedia (s : Store Row) (query : ChatroomMediaQuery) : Except ListError (Page ChatroomMediaItem Uuid) := do
  let member := !(accesses s query.chatroomId query.userId).isEmpty
  let cursor := query.before.map fun c => (cursorItem s query.chatroomId c).map fun item => mediaPlace item.1 item.2.1 item.2.2
  let cursorValid := cursor.all Option.isSome
  let page := if member && cursorValid then
    fetch mediaKey mediaAfter cursor query.limit (chatroomMediaRows s query.chatroomId) else []
  requireAccess member cursorValid
  let items ← page.mapM chatroomMediaFromAccessRow
  pure (cut query.limit ChatroomMediaItem.id items)

end ChatroomMedia

section Notifications

structure ListNotificationsQuery where
  userId : Uuid
  after : Option Uuid
  limit : Nat

structure NotificationRecord where
  id : Uuid
  notificationType : NotificationType
  args : NotificationPayload
  topicId : Option Uuid
  conversationId : Option Uuid
  sourceCursor : Option Nat
  readAt : Option Time
  createdAt : Time
  deriving DecidableEq, Repr

/-- A notification and whether the account it comes from is deleted. -/
structure NotificationRow where
  id : Uuid
  notification : Notification
  sourceUserDeleted : Bool

def notificationKey (row : NotificationRow) : Newest := newest row.notification.createdAt row.id

/-- The topic and the room of the notification are still there. -/
def notificationShown (s : Store Row) (n : Notification) : Bool :=
  (n.topicId.all fun t => (s.get (.topics t)).any fun r => r.deletedAt.isNone) &&
    n.conversationId.all fun c => (s.get (.chatrooms c)).any fun room => room.deletedAt.isNone && topicLive s room

/-- The account that the event of the notification names as its sender or its author. -/
def sourceUserDeleted (s : Store Row) (n : Notification) : Bool :=
  ((s.scan Tables.conversationEvents fun _ e =>
      if n.conversationId = some e.conversationId ∧ n.sourceCursor = some e.cursor then some e.payload else none).head?.bind
    fun payload => (payload.senderId.or payload.authorId).bind fun u => s.get (.users u)).any fun u => u.deletedAt.isSome

def notificationRows (s : Store Row) (userId : Uuid) : List NotificationRow :=
  s.scan Tables.notifications fun i n =>
    if n.userId = userId ∧ n.deletedAt = none ∧ notificationShown s n = true then some ⟨i, n, sourceUserDeleted s n⟩ else none

def cursorNotification (s : Store Row) (userId cursor : Uuid) : Option Newest :=
  ((s.get (.notifications cursor)).filter fun n => decide (n.userId = userId) && n.deletedAt.isNone).map fun n =>
    newest n.createdAt cursor

def unreadCount (s : Store Row) (userId : Uuid) : Nat :=
  (s.ids Tables.notifications fun _ n => decide (n.userId = userId) && n.readAt.isNone && n.deletedAt.isNone &&
    notificationShown s n).length

/-- The payloads that are written have few arguments with plain names and scalar values. The name of a deleted account
is not shown. -/
def notificationArgs (payload : NotificationPayload) (sourceUserDeleted : Bool) : NotificationPayload :=
  match payload with
  | .empty => .empty
  | .args type displayName groupName topicTitle =>
    .args type (if sourceUserDeleted then withdrawnName else displayName) groupName topicTitle

def notificationFromRow (row : NotificationRow) : Except ListError NotificationRecord :=
  if row.notification.sourceCursor.any (fun cursor => decide (cursor = 0)) then .error .invalidData
  else .ok ⟨row.id, row.notification.type, notificationArgs row.notification.payload row.sourceUserDeleted,
    row.notification.topicId, row.notification.conversationId, row.notification.sourceCursor, row.notification.readAt,
    row.notification.createdAt⟩

def listNotifications (s : Store Row) (query : ListNotificationsQuery) :
    Except ListError (Page NotificationRecord Uuid × Nat) := do
  let cursor := query.after.map (cursorNotification s query.userId)
  let cursorValid := cursor.all Option.isSome
  let page := if cursorValid then
    fetch notificationKey (rowAfter notificationKey) cursor query.limit (notificationRows s query.userId) else []
  if !cursorValid then .error .cursorInvalid
  else do
    let items ← page.mapM notificationFromRow
    pure (cut query.limit NotificationRecord.id items, unreadCount s query.userId)

end Notifications

end Postgres.Lists

end JamyeServer
