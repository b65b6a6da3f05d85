import JamyeServer.ReadCommitted.Statement
import JamyeServer.Text
import Mathlib.Algebra.Group.Nat.Defs

/-!
# The database schema

The tables of `migrations/` with the columns that the modelled statements read or write. Ids and times
are natural numbers. A column that the trigger `jamye_set_updated_at_if_changed` maintains and nothing
reads is left out. JSON payloads are typed: one constructor for each shape that is written.
-/

namespace JamyeServer.Postgres

open ReadCommitted

abbrev Uuid := Nat
abbrev Time := Nat

/-- How a UUID is printed by a cast to text. A number of more than 128 bits, which is no UUID, has the rest in front. -/
def uuidText (u : Uuid) : String :=
  String.ofList ((if u < 2 ^ 128 then [] else Nat.toDigits 10 (u / 2 ^ 128) ++ [':']) ++ Text.hyphenated (.ofNat 128 u))

structure User where
  nickname : String
  avatarUrl : Option String := none
  createdAt : Time := 0
  deletedAt : Option Time := none
  suspendedAt : Option Time := none
  suspensionReason : Option String := none
  accountPurgeClaimOwner : Option String := none
  accountPurgeClaimGeneration : Nat := 0
  accountPurgeClaimExpiresAt : Option Time := none

structure AuthIdentity where
  userId : Uuid
  provider : String
  providerId : String
  createdAt : Time := 0
  deletedAt : Option Time := none

structure RefreshSession where
  userId : Uuid
  familyId : Uuid
  parentSessionId : Option Uuid
  tokenHash : Nat
  expiresAt : Time
  createdAt : Time := 0
  consumedAt : Option Time := none
  revokedAt : Option Time := none
  deletedAt : Option Time := none
  deriving DecidableEq

inductive GroupRole
  | owner | member
  deriving DecidableEq, Repr

structure Group where
  name : String
  ownerId : Uuid
  maxMembers : Nat := 12
  createdAt : Time := 0
  deletedAt : Option Time := none

structure Membership where
  groupId : Uuid
  userId : Uuid
  role : GroupRole
  joinedAt : Time := 0
  deletedAt : Option Time := none
  accountDeletedAt : Option Time := none

structure Invite where
  groupId : Uuid
  code : String
  createdBy : Uuid
  expiresAt : Option Time
  maxUses : Option Nat
  usedCount : Nat := 0
  createdAt : Time := 0
  deletedAt : Option Time := none

inductive ChatroomType
  | main | topic
  deriving DecidableEq, Repr

structure Chatroom where
  groupId : Uuid
  type : ChatroomType
  topicId : Option Uuid
  createdAt : Time := 0
  deletedAt : Option Time := none

inductive TopicStatus
  | seed | enriched
  deriving DecidableEq, Repr

structure Topic where
  groupId : Uuid
  authorId : Uuid
  idempotencyKey : Uuid
  requestFingerprint : String
  title : String
  body : Option String := none
  status : TopicStatus := .seed
  createdAt : Time := 0
  updatedAt : Time := 0
  deletedAt : Option Time := none

inductive TagSource
  | ai | user
  deriving DecidableEq, Repr

/-- A tag's confidence is a rational number of thousandths. -/
structure TopicTag where
  topicId : Uuid
  tag : String
  source : TagSource
  confidence : Option Nat
  createdAt : Time := 0
  deletedAt : Option Time := none

inductive MessageKind
  | user | system
  deriving DecidableEq, Repr

structure Message where
  chatroomId : Uuid
  senderId : Option Uuid
  clientMsgId : Option Uuid
  body : Option String
  type : MessageKind := .user
  createdAt : Time
  announcementForTopicId : Option Uuid := none
  deletedAt : Option Time := none

structure MessageMedia where
  messageId : Uuid
  mediaUploadId : Uuid
  contentType : String
  objectKey : String
  width : Option Nat := none
  height : Option Nat := none
  byteSize : Nat
  duration : Option Nat
  position : Nat
  filename : Option String
  createdAt : Time
  deletedAt : Option Time := none

inductive MediaScope
  | chat | topic
  deriving DecidableEq, Repr

inductive MediaStatus
  | pending | confirmed | bound | expired
  deriving DecidableEq, Repr

structure MediaUpload where
  userId : Uuid
  objectKey : String
  scope : MediaScope
  targetId : Uuid
  contentType : String
  byteSize : Nat
  duration : Option Nat := none
  filename : Option String := none
  status : MediaStatus := .pending
  boundMessageId : Option Uuid := none
  posterUploadId : Option Uuid := none
  confirmedAt : Option Time := none
  consumedAt : Option Time := none
  expiresAt : Time
  createdAt : Time := 0
  deletedAt : Option Time := none

structure MessageAttachment where
  id : Uuid
  mediaUploadId : Uuid
  contentType : String
  byteSize : Nat
  width : Option Nat
  height : Option Nat
  duration : Option Nat
  filename : Option String
  position : Nat
  posterMediaId : Option Uuid
  deriving DecidableEq, Repr

structure CanonicalMessage where
  id : Uuid
  chatroomId : Uuid
  senderId : Option Uuid
  senderNickname : Option String
  senderAvatarUrl : Option String
  clientMsgId : Option Uuid
  body : Option String
  messageType : MessageKind
  createdAt : Time
  media : List MessageAttachment
  deriving DecidableEq, Repr

structure MessageDeletedData where
  messageId : Uuid
  chatroomId : Uuid
  groupId : Uuid
  deletedAt : Time
  deletedBy : Uuid
  reason : String
  deriving DecidableEq, Repr

structure TopicCreatedData where
  topicId : Uuid
  groupId : Uuid
  chatroomId : Uuid
  authorId : Uuid
  title : String
  deriving DecidableEq, Repr

structure TopicDeletedData where
  topicId : Uuid
  topicChatroomId : Uuid
  groupId : Uuid
  deletedAt : Time
  deletedBy : Uuid
  announcementMessageId : Option Uuid
  deriving DecidableEq, Repr

/-- The payload of a conversation event; the constructor is its `event_type`, in version 1. -/
inductive EventPayload
  | messageCreated (data : CanonicalMessage)
  | messageDeleted (data : MessageDeletedData)
  | topicCreated (data : TopicCreatedData)
  | topicDeleted (data : TopicDeletedData)
  deriving DecidableEq, Repr

namespace EventPayload

/-- `payload ->> 'sender_id'`. -/
def senderId : EventPayload → Option Uuid
  | messageCreated data => data.senderId
  | _ => none

/-- `payload ->> 'author_id'`. -/
def authorId : EventPayload → Option Uuid
  | topicCreated data => some data.authorId
  | _ => none

/-- The event is about a message or a topic of the user. -/
def mentions (user : Uuid) (p : EventPayload) : Bool :=
  p.senderId == some user || p.authorId == some user

end EventPayload

structure ConversationEvent where
  cursor : Nat
  conversationId : Uuid
  payload : EventPayload
  occurredAt : Time
  deletedAt : Option Time := none

/-- The realtime event that the outbox carries. -/
structure RealtimeEvent where
  eventId : Uuid
  conversationId : Uuid
  cursor : Nat
  occurredAt : Time
  data : EventPayload
  deriving DecidableEq, Repr

inductive RealtimeControlIntent
  | membershipRevoked (groupId userId : Uuid)
  | groupDeleted (groupId : Uuid)
  deriving DecidableEq, Repr

def RealtimeControlIntent.aggregateId : RealtimeControlIntent → Uuid
  | membershipRevoked _ userId => userId
  | groupDeleted groupId => groupId

inductive OutboxPayload
  | conversation (event : RealtimeEvent)
  | control (intent : RealtimeControlIntent)
  deriving DecidableEq, Repr

structure OutboxEvent where
  aggregateId : Uuid
  conversationEventId : Option Uuid
  payload : OutboxPayload
  createdAt : Time

structure ChatroomRead where
  userId : Uuid
  chatroomId : Uuid
  lastReadCursor : Nat
  updatedAt : Time
  deletedAt : Option Time := none

inductive NotificationType
  | newTopic | chatUnread | other
  deriving DecidableEq, Repr

/-- `{type}:{topic}` or `{type}:conversation:{conversation}`. -/
inductive DedupKey
  | topic (type : NotificationType) (topicId : Uuid)
  | conversation (type : NotificationType) (conversationId : Uuid)
  deriving DecidableEq, Repr

/-- The name of the actor stands under `author_display_name` for a new topic and under
`sender_display_name` for a message. A hidden notification has the payload `{}`. -/
inductive NotificationPayload
  | empty
  | args (type : NotificationType) (displayName groupName : String) (topicTitle : Option String)
  deriving DecidableEq, Repr

structure Notification where
  userId : Uuid
  topicId : Option Uuid
  conversationId : Option Uuid
  sourceCursor : Option Nat
  type : NotificationType
  payload : NotificationPayload
  dedupKey : Option DedupKey
  readAt : Option Time := none
  createdAt : Time
  deletedAt : Option Time := none

inductive PushEnvironment
  | development | production
  deriving DecidableEq, Repr

inductive PushPlatform
  | ios | android
  deriving DecidableEq, Repr

inductive PushProviderName
  | expo
  deriving DecidableEq, Repr

structure PushInstallation where
  userId : Uuid
  ownerEpoch : Nat := 1
  installationId : String
  platform : PushPlatform
  provider : PushProviderName := .expo
  token : String
  environment : PushEnvironment
  messagePreviewEnabled : Bool := false
  lastSeenAt : Time
  disabledAt : Option Time := none
  deletedAt : Option Time := none

inductive DeliveryStatus
  | pending | claimed | retryable | succeeded | failed | deadLetter
  deriving DecidableEq, Repr

/-- `status IN ('pending', 'claimed', 'retryable')`. -/
def DeliveryStatus.unfinished : DeliveryStatus → Bool
  | pending | claimed | retryable => true
  | succeeded | failed | deadLetter => false

/-- What is left of a deleted occurrence's payload is `{}`. -/
inductive DeliveryPayload
  | empty
  | notification (type : NotificationType) (notificationId conversationId : Uuid)
      (messageId : Option Uuid)
  | report (reportId : Uuid)
  deriving DecidableEq, Repr

structure PushDeliveryIntent where
  notificationId : Option Uuid
  sourceEventId : Option Uuid
  sourceMessageId : Option Uuid
  reportId : Option Uuid := none
  recipientUserId : Uuid
  pushInstallationId : Uuid
  installationOwnerEpoch : Nat
  messagePreviewEnabledSnapshot : Bool
  payload : DeliveryPayload
  status : DeliveryStatus := .pending
  claimOwner : Option String := none
  claimGeneration : Nat := 0
  leaseExpiresAt : Option Time := none
  attemptCount : Nat := 0
  nextAttemptAt : Option Time := none
  lastErrorCode : Option String := none
  failedAt : Option Time := none
  createdAt : Time
  deletedAt : Option Time := none

structure UserBlock where
  createdAt : Time
  deletedAt : Option Time := none

structure AnonymousAuthorTombstone where
  createdAt : Time

structure AccountObjectDeletionIntent where
  objectKey : String
  nextAttemptAt : Option Time := none
  createdAt : Time

inductive AvatarStatus
  | pending | active | released
  deriving DecidableEq, Repr

structure UserAvatarUpload where
  userId : Uuid
  objectKey : String
  byteSize : Nat
  status : AvatarStatus
  expiresAt : Time
  releasedAt : Option Time := none
  deletedAt : Option Time := none

structure Report where
  reporterId : Uuid
  targetUserId : Option Uuid

/-- The primary keys of all tables. -/
inductive Key
  | users (id : Uuid)
  | authIdentities (id : Uuid)
  | refreshSessions (id : Uuid)
  | groups (id : Uuid)
  | memberships (id : Uuid)
  | invites (id : Uuid)
  | chatrooms (id : Uuid)
  | topics (id : Uuid)
  | topicTags (id : Uuid)
  | messages (id : Uuid)
  | messageMedia (id : Uuid)
  | mediaUploads (id : Uuid)
  | conversationEvents (id : Uuid)
  | outboxEvents (id : Uuid)
  | chatroomReads (id : Uuid)
  | notifications (id : Uuid)
  | pushInstallations (id : Uuid)
  | pushDeliveryIntents (id : Uuid)
  | userBlocks (blocker blocked : Uuid)
  | anonymousAuthorTombstones (user : Uuid)
  | accountObjectDeletionIntents (id : Uuid)
  | userAvatarUploads (id : Uuid)
  | reports (id : Uuid)
  deriving DecidableEq, Repr

abbrev Row : Key → Type
  | .users _ => User
  | .authIdentities _ => AuthIdentity
  | .refreshSessions _ => RefreshSession
  | .groups _ => Group
  | .memberships _ => Membership
  | .invites _ => Invite
  | .chatrooms _ => Chatroom
  | .topics _ => Topic
  | .topicTags _ => TopicTag
  | .messages _ => Message
  | .messageMedia _ => MessageMedia
  | .mediaUploads _ => MediaUpload
  | .conversationEvents _ => ConversationEvent
  | .outboxEvents _ => OutboxEvent
  | .chatroomReads _ => ChatroomRead
  | .notifications _ => Notification
  | .pushInstallations _ => PushInstallation
  | .pushDeliveryIntents _ => PushDeliveryIntent
  | .userBlocks _ _ => UserBlock
  | .anonymousAuthorTombstones _ => AnonymousAuthorTombstone
  | .accountObjectDeletionIntents _ => AccountObjectDeletionIntent
  | .userAvatarUploads _ => UserAvatarUpload
  | .reports _ => Report

/-- One entry of a unique index other than a primary key. -/
inductive Idx
  | authIdentity (provider providerId : String)
  | sessionParent (parent : Uuid)
  | sessionToken (tokenHash : Nat)
  | membership (group user : Uuid)
  | inviteCode (code : String)
  | mainChatroom (group : Uuid)
  | topicChatroom (topic : Uuid)
  | topicIdempotency (author key : Uuid)
  | topicTag (topic : Uuid) (tag : String)
  | messageClient (sender clientMsgId : Uuid)
  | messageAnnouncement (topic : Uuid)
  | messageMediaUpload (upload : Uuid)
  | messageMediaObject (objectKey : String)
  | messageMediaPosition (message : Uuid) (position : Nat)
  | mediaObject (objectKey : String)
  | mediaPoster (poster : Uuid)
  | eventCursor (cursor : Nat)
  | chatroomRead (user chatroom : Uuid)
  | notificationDedup (user : Uuid) (key : DedupKey)
  | installation (installationId : String)
  | destination (environment : PushEnvironment) (token : String)
  | delivery (sourceEvent installation : Uuid)
  | reportDelivery (report installation : Uuid)
  | objectDeletion (objectKey : String)
  | avatarObject (objectKey : String)
  | avatarUser (status : AvatarStatus) (user : Uuid)
  deriving DecidableEq, Repr

/-- The entries of a partial index. -/
def indexedIf (c : Bool) (is : List Idx) : List Idx := if c then is else []

/-- The unique-index entries of a row. -/
def index : (k : Key) → Row k → List Idx
  | .authIdentities _, r => indexedIf r.deletedAt.isNone [.authIdentity r.provider r.providerId]
  | .refreshSessions _, r => .sessionToken r.tokenHash :: r.parentSessionId.toList.map .sessionParent
  | .memberships _, r => indexedIf r.deletedAt.isNone [.membership r.groupId r.userId]
  | .invites _, r => indexedIf r.deletedAt.isNone [.inviteCode r.code]
  | .chatrooms _, r =>
    match r.type with
    | .main => [.mainChatroom r.groupId]
    | .topic => r.topicId.toList.map .topicChatroom
  | .topics _, r => [.topicIdempotency r.authorId r.idempotencyKey]
  | .topicTags _, r => indexedIf r.deletedAt.isNone [.topicTag r.topicId r.tag]
  | .messages _, r =>
    (r.senderId.toList.flatMap fun s => r.clientMsgId.toList.map (Idx.messageClient s)) ++
      indexedIf r.deletedAt.isNone (r.announcementForTopicId.toList.map .messageAnnouncement)
  | .messageMedia _, r => [.messageMediaUpload r.mediaUploadId, .messageMediaObject r.objectKey,
      .messageMediaPosition r.messageId r.position]
  | .mediaUploads _, r => .mediaObject r.objectKey :: r.posterUploadId.toList.map .mediaPoster
  | .conversationEvents _, r => [.eventCursor r.cursor]
  | .chatroomReads _, r => indexedIf r.deletedAt.isNone [.chatroomRead r.userId r.chatroomId]
  | .notifications _, r =>
    indexedIf r.deletedAt.isNone (r.dedupKey.toList.map (Idx.notificationDedup r.userId))
  | .pushInstallations _, r =>
    indexedIf r.deletedAt.isNone [.installation r.installationId, .destination r.environment r.token]
  | .pushDeliveryIntents _, r => indexedIf r.deletedAt.isNone
      ((r.sourceEventId.toList.map fun e => .delivery e r.pushInstallationId) ++
        r.reportId.toList.map fun p => .reportDelivery p r.pushInstallationId)
  | .accountObjectDeletionIntents _, r => [.objectDeletion r.objectKey]
  | .userAvatarUploads _, r =>
    .avatarObject r.objectKey :: indexedIf (r.status != .released) [.avatarUser r.status r.userId]
  | _, _ => []

namespace Tables

abbrev users : Table Key Uuid :=
  ⟨.users, fun | .users i => some i | _ => none, by rintro ⟨⟩ <;> simp⟩

abbrev authIdentities : Table Key Uuid :=
  ⟨.authIdentities, fun | .authIdentities i => some i | _ => none, by rintro ⟨⟩ <;> simp⟩

abbrev refreshSessions : Table Key Uuid :=
  ⟨.refreshSessions, fun | .refreshSessions i => some i | _ => none, by rintro ⟨⟩ <;> simp⟩

abbrev groups : Table Key Uuid :=
  ⟨.groups, fun | .groups i => some i | _ => none, by rintro ⟨⟩ <;> simp⟩

abbrev memberships : Table Key Uuid :=
  ⟨.memberships, fun | .memberships i => some i | _ => none, by rintro ⟨⟩ <;> simp⟩

abbrev invites : Table Key Uuid :=
  ⟨.invites, fun | .invites i => some i | _ => none, by rintro ⟨⟩ <;> simp⟩

abbrev chatrooms : Table Key Uuid :=
  ⟨.chatrooms, fun | .chatrooms i => some i | _ => none, by rintro ⟨⟩ <;> simp⟩

abbrev topics : Table Key Uuid :=
  ⟨.topics, fun | .topics i => some i | _ => none, by rintro ⟨⟩ <;> simp⟩

abbrev topicTags : Table Key Uuid :=
  ⟨.topicTags, fun | .topicTags i => some i | _ => none, by rintro ⟨⟩ <;> simp⟩

abbrev messages : Table Key Uuid :=
  ⟨.messages, fun | .messages i => some i | _ => none, by rintro ⟨⟩ <;> simp⟩

abbrev messageMedia : Table Key Uuid :=
  ⟨.messageMedia, fun | .messageMedia i => some i | _ => none, by rintro ⟨⟩ <;> simp⟩

abbrev mediaUploads : Table Key Uuid :=
  ⟨.mediaUploads, fun | .mediaUploads i => some i | _ => none, by rintro ⟨⟩ <;> simp⟩

abbrev conversationEvents : Table Key Uuid :=
  ⟨.conversationEvents, fun | .conversationEvents i => some i | _ => none, by rintro ⟨⟩ <;> simp⟩

abbrev outboxEvents : Table Key Uuid :=
  ⟨.outboxEvents, fun | .outboxEvents i => some i | _ => none, by rintro ⟨⟩ <;> simp⟩

abbrev chatroomReads : Table Key Uuid :=
  ⟨.chatroomReads, fun | .chatroomReads i => some i | _ => none, by rintro ⟨⟩ <;> simp⟩

abbrev notifications : Table Key Uuid :=
  ⟨.notifications, fun | .notifications i => some i | _ => none, by rintro ⟨⟩ <;> simp⟩

abbrev pushInstallations : Table Key Uuid :=
  ⟨.pushInstallations, fun | .pushInstallations i => some i | _ => none, by rintro ⟨⟩ <;> simp⟩

abbrev pushDeliveryIntents : Table Key Uuid :=
  ⟨.pushDeliveryIntents, fun | .pushDeliveryIntents i => some i | _ => none, by rintro ⟨⟩ <;> simp⟩

abbrev userAvatarUploads : Table Key Uuid :=
  ⟨.userAvatarUploads, fun | .userAvatarUploads i => some i | _ => none, by rintro ⟨⟩ <;> simp⟩

abbrev reports : Table Key Uuid :=
  ⟨.reports, fun | .reports i => some i | _ => none, by rintro ⟨⟩ <;> simp⟩

abbrev userBlocks : Table Key (Uuid × Uuid) :=
  ⟨fun i => .userBlocks i.1 i.2, fun | .userBlocks i j => some (i, j) | _ => none, by
    rintro ⟨⟩ ⟨⟩ <;> simp⟩

end Tables

end JamyeServer.Postgres
