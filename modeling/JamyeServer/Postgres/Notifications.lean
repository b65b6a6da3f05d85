import JamyeServer.Postgres.Push
import JamyeServer.Postgres.Rooms
import JamyeServer.Text

/-!
# Notifications of new topics and messages

`adapters/postgres/notifications/events.rs`. A new topic or message notifies the other live members of the group:
one live notification for each user and topic (or conversation), which the newest source refreshes, and one push
occurrence for each source event and installation.
-/

namespace JamyeServer.Postgres.Notifications

open ReadCommitted Prog Rooms

inductive NotificationsRepositoryError
  | invalidData
  | unavailable (operation : String)
  deriving DecidableEq, Repr

structure RecordTopicNotificationCommand where
  groupId : Uuid
  topicId : Uuid
  conversationId : Uuid
  sourceEventId : Uuid
  authorId : Uuid
  authorDisplayName : String

structure RecordMessageNotificationCommand where
  groupId : Uuid
  topicId : Option Uuid
  conversationId : Uuid
  sourceEventId : Uuid
  sourceMessageId : Uuid
  senderId : Uuid
  senderDisplayName : String

structure NotificationFanoutReport where
  notificationCount : Nat
  occurrenceCount : Nat
  deriving DecidableEq, Repr

/-- `topicId` is `none` for a main chatroom. -/
structure Fanout where
  topicId : Option Uuid
  conversationId : Uuid
  sourceEventId : Uuid
  sourceMessageId : Option Uuid
  sourceCursor : Nat
  notificationType : NotificationType
  displayName : String
  groupName : String
  topicTitle : Option String

namespace Fanout

def notificationArgs (fanout : Fanout) : NotificationPayload :=
  .args fanout.notificationType fanout.displayName fanout.groupName fanout.topicTitle

def dedupKey (fanout : Fanout) : DedupKey :=
  match fanout.topicId with
  | some topicId => .topic fanout.notificationType topicId
  | none => .conversation fanout.notificationType fanout.conversationId

/-- The row that is proposed for a user. -/
def notification (fanout : Fanout) (userId : Uuid) (now : Time) : Notification :=
  { userId, topicId := fanout.topicId, conversationId := some fanout.conversationId,
    sourceCursor := some fanout.sourceCursor, type := fanout.notificationType, payload := fanout.notificationArgs,
    dedupKey := some fanout.dedupKey, createdAt := now }

/-- The stored notification is about the same conversation. -/
def refreshes (fanout : Fanout) (r : Notification) : Bool :=
  decide (r.type = fanout.notificationType) && decide (r.topicId = fanout.topicId) &&
    decide (r.conversationId = some fanout.conversationId) && r.deletedAt.isNone

/-- `EXCLUDED.source_cursor > notifications.source_cursor`. -/
def newer (fanout : Fanout) (r : Notification) : Bool := r.sourceCursor.any fun c => decide (c < fanout.sourceCursor)

/-- The `DO UPDATE` of a notification. -/
def refresh (fanout : Fanout) (now : Time) (r : Notification) : Notification :=
  { r with sourceCursor := some (max (r.sourceCursor.getD fanout.sourceCursor) fanout.sourceCursor),
           payload := if fanout.newer r then fanout.notificationArgs else r.payload,
           readAt := if fanout.newer r then none else r.readAt,
           createdAt := if fanout.newer r then now else r.createdAt }

end Fanout

/-- The name is not empty, not too long and without control characters. -/
def validDisplayName (value : String) : Bool :=
  !value.isEmpty && decide (value.length ≤ 64) && !value.toList.any Text.isControl

section Recipients

def lockLiveGroup (groupId : Uuid) : Sql NotificationsRepositoryError Unit := do
  let live ← selectFor .share Tables.groups (fun s => s.one Tables.groups groupId fun r => r.deletedAt.isNone)
    (fun _ i _ r => if r.deletedAt = none then some i else none)
  ensure (live ≠ []) .invalidData

/-- The user has a live account. -/
def accountLive (s : Store Row) (userId : Uuid) : Bool := (s.get (.users userId)).any fun u => u.deletedAt.isNone

/-- The live memberships of live accounts, in the order of their users. -/
def liveMembers (s : Store Row) (groupId : Uuid) : List (Uuid × Uuid) :=
  ((s.ids Tables.memberships fun _ r => decide (r.groupId = groupId) && r.deletedAt.isNone && accountLive s r.userId).filterMap
    fun i => (s.get (.memberships i)).map fun r => (r.userId, i)).insertionSort fun x y => x.1 ≤ y.1

def lockMembership (groupId : Uuid) (member : Uuid × Uuid) : Sql NotificationsRepositoryError (Option Uuid) :=
  andThen (lockLiveMembership .share member.2 groupId member.1) fun _ =>
  lockRow .share (.users member.1) fun _ u => if u.deletedAt = none then some member.1 else none

def lockLiveRecipients (groupId actorId : Uuid) : Sql NotificationsRepositoryError (List Uuid) := do
  lockLiveGroup groupId
  let s ← snapshot
  let members ← collect (lockMembership groupId) (liveMembers s groupId)
  ensure (actorId ∈ members) .invalidData
  ret (members.filter fun u => decide (u ≠ actorId))

/-- A recipient who blocked the sender is left out. -/
def recipientsNotBlocking (recipients : List Uuid) (senderId : Uuid) : Sql NotificationsRepositoryError (List Uuid) := do
  if recipients.isEmpty then ret recipients
  else do
    let blockers ← select fun s => recipients.filter fun u => (s.get (.userBlocks u senderId)).any fun b => b.deletedAt.isNone
    ret (recipients.filter fun u => decide (u ∉ blockers))

end Recipients

section Sources

/-- The conversation of a live topic. -/
def isTopicConversation (s : Store Row) (groupId topicId conversationId : Uuid) : Bool :=
  ((s.get (.topics topicId)).any fun t => decide (t.groupId = groupId) && t.deletedAt.isNone) &&
    (s.get (.chatrooms conversationId)).any fun c => decide (c.groupId = groupId) && decide (c.topicId = some topicId) &&
      decide (c.type = .topic) && c.deletedAt.isNone

def isMainConversation (s : Store Row) (groupId conversationId : Uuid) : Bool :=
  (s.get (.chatrooms conversationId)).any fun c => decide (c.groupId = groupId) && decide (c.type = .main) &&
    c.topicId.isNone && c.deletedAt.isNone

/-- The cursor of an event of the conversation. -/
def eventCursor (s : Store Row) (eventId conversationId : Uuid) (p : EventPayload → Bool) : Option Nat :=
  (s.get (.conversationEvents eventId)).bind fun e =>
    if e.conversationId = conversationId ∧ p e.payload = true then some e.cursor else none

def EventPayload.createsTopic (topicId : Uuid) : EventPayload → Bool
  | .topicCreated data => decide (data.topicId = topicId)
  | _ => false

def EventPayload.createsMessage (messageId : Uuid) : EventPayload → Bool
  | .messageCreated data => decide (data.id = messageId)
  | _ => false

def topicSourceCursor (command : RecordTopicNotificationCommand) : Sql NotificationsRepositoryError Nat := do
  let cursor ← select fun s =>
    if isTopicConversation s command.groupId command.topicId command.conversationId then
      eventCursor s command.sourceEventId command.conversationId (EventPayload.createsTopic command.topicId)
    else none
  ofOption cursor .invalidData

def messageSourceCursor (command : RecordMessageNotificationCommand) : Sql NotificationsRepositoryError Nat := do
  let cursor ← select fun s =>
    let conversation := match command.topicId with
      | some topicId => isTopicConversation s command.groupId topicId command.conversationId
      | none => isMainConversation s command.groupId command.conversationId
    let message := (s.get (.messages command.sourceMessageId)).any fun m =>
      decide (m.chatroomId = command.conversationId) && decide (m.senderId = some command.senderId) &&
        decide (m.type = .user) && m.deletedAt.isNone
    if conversation && message then
      eventCursor s command.sourceEventId command.conversationId (EventPayload.createsMessage command.sourceMessageId)
    else none
  ofOption cursor .invalidData

def notificationContext (groupId : Uuid) (topicId : Option Uuid) :
    Sql NotificationsRepositoryError (String × Option String) := do
  let groupName ← select fun s => ((s.get (.groups groupId)).filter fun g => g.deletedAt.isNone).map Group.name
  let groupName ← ofOption groupName .invalidData
  match topicId with
  | none => ret (groupName, none)
  | some topicId => do
    let title ← select fun s =>
      ((s.get (.topics topicId)).filter fun t => decide (t.groupId = groupId) && t.deletedAt.isNone).map Topic.title
    let title ← ofOption title .invalidData
    ret (groupName, some title)

end Sources

section FanOut

variable (fanout : Fanout)

/-- `INSERT … ON CONFLICT (user_id, dedup_key) DO UPDATE … WHERE … RETURNING id`. -/
def upsertNotification (userId : Uuid) : Sql NotificationsRepositoryError Uuid := do
  let id ← fresh
  let now ← clock
  let stored ← upsert (.notifications id) (fanout.notification userId now) .noKeyUpdate
  match stored with
  | none => do
    references (.unavailable "notification_upsert")
      (.users userId :: .chatrooms fanout.conversationId :: fanout.topicId.toList.map Key.topics)
    ret id
  | some (.notifications j) => do
    let updated ← changeRow .noKeyUpdate (.notifications j)
      (fun now r => if fanout.refreshes r then some (some (fanout.refresh now r), j) else none)
      (.unavailable "notification_upsert")
    ofOption updated .invalidData
  | some _ => fail (.unavailable "notification_upsert")

def upsertNotifications : List Uuid → Sql NotificationsRepositoryError (List (Uuid × Uuid))
  | [] => ret []
  | userId :: userIds => do
    let id ← upsertNotification fanout userId
    let ids ← upsertNotifications userIds
    ret ((userId, id) :: ids)

structure InstallationRow where
  id : Uuid
  userId : Uuid
  ownerEpoch : Nat
  messagePreviewEnabled : Bool

/-- `ORDER BY user_id, id`. -/
def sortInstallations (s : Store Row) (is : List Uuid) : List Uuid :=
  let userOf := fun i => ((s.get (.pushInstallations i)).map PushInstallation.userId).getD 0
  is.insertionSort fun i j => userOf i < userOf j ∨ userOf i = userOf j ∧ i ≤ j

def enabledFor (userIds : List Uuid) (r : PushInstallation) : Bool :=
  decide (r.userId ∈ userIds) && r.disabledAt.isNone && r.deletedAt.isNone

def lockInstallations (userIds : List Uuid) : Sql NotificationsRepositoryError (List InstallationRow) :=
  selectFor .share Tables.pushInstallations
    (fun s => sortInstallations s (s.ids Tables.pushInstallations fun _ r => enabledFor userIds r))
    (fun _ i _ r => if enabledFor userIds r then some ⟨i, r.userId, r.ownerEpoch, r.messagePreviewEnabled⟩ else none)

/-- The occurrence that is proposed for an installation. -/
def Fanout.occurrence (installation : InstallationRow) (notificationId : Uuid) (now : Time) : PushDeliveryIntent :=
  { notificationId := some notificationId, sourceEventId := some fanout.sourceEventId,
    sourceMessageId := fanout.sourceMessageId, recipientUserId := installation.userId,
    pushInstallationId := installation.id, installationOwnerEpoch := installation.ownerEpoch,
    messagePreviewEnabledSnapshot := installation.messagePreviewEnabled,
    payload := .notification fanout.notificationType notificationId fanout.conversationId fanout.sourceMessageId,
    createdAt := now }

/-- `ON CONFLICT (source_event_id, push_installation_id) WHERE deleted_at IS NULL DO NOTHING`. -/
def insertOccurrence (installation : InstallationRow) (notificationId : Uuid) : Sql NotificationsRepositoryError Nat := do
  let id ← fresh
  let now ← clock
  let inserted ← insertOrSkip (.pushDeliveryIntents id) (fanout.occurrence installation notificationId now)
    ([.notifications notificationId, .conversationEvents fanout.sourceEventId, .users installation.userId,
      .pushInstallations installation.id] ++ fanout.sourceMessageId.toList.map Key.messages)
    (.unavailable "notification_occurrence_insert")
  ret inserted.toNat

def insertOccurrences (notificationIds : List (Uuid × Uuid)) :
    List InstallationRow → Sql NotificationsRepositoryError Nat
  | [] => ret 0
  | installation :: installations => do
    ensure (0 < installation.ownerEpoch) .invalidData
    let notificationId ← ofOption (notificationIds.lookup installation.userId) .invalidData
    let inserted ← insertOccurrence fanout installation notificationId
    let count ← insertOccurrences notificationIds installations
    ret (inserted + count)

def fanOut (recipientUserIds : List Uuid) : Sql NotificationsRepositoryError NotificationFanoutReport := do
  if recipientUserIds.isEmpty then ret ⟨0, 0⟩
  else do
    let notificationIds ← upsertNotifications fanout recipientUserIds
    let installations ← lockInstallations recipientUserIds
    let occurrenceCount ← insertOccurrences fanout notificationIds installations
    ret ⟨recipientUserIds.length, occurrenceCount⟩

end FanOut

def recordTopicCreated (command : RecordTopicNotificationCommand) :
    Sql NotificationsRepositoryError NotificationFanoutReport := do
  ensure (validDisplayName command.authorDisplayName) .invalidData
  let recipients ← lockLiveRecipients command.groupId command.authorId
  let sourceCursor ← topicSourceCursor command
  let (groupName, topicTitle) ← notificationContext command.groupId (some command.topicId)
  fanOut ⟨some command.topicId, command.conversationId, command.sourceEventId, none, sourceCursor, .newTopic,
    command.authorDisplayName, groupName, topicTitle⟩ recipients

def recordMessageCreated (command : RecordMessageNotificationCommand) :
    Sql NotificationsRepositoryError NotificationFanoutReport := do
  ensure (validDisplayName command.senderDisplayName) .invalidData
  let members ← lockLiveRecipients command.groupId command.senderId
  let recipients ← recipientsNotBlocking members command.senderId
  let sourceCursor ← messageSourceCursor command
  let (groupName, topicTitle) ← notificationContext command.groupId command.topicId
  fanOut ⟨command.topicId, command.conversationId, command.sourceEventId, some command.sourceMessageId, sourceCursor,
    .chatUnread, command.senderDisplayName, groupName, topicTitle⟩ recipients

/-- The notifications that a read marker covers. -/
def coveredBy (userId conversationId : Uuid) (topicId : Option Uuid) (readCursor : Nat) (r : Notification) : Bool :=
  decide (r.userId = userId) && decide (r.topicId = topicId) && decide (r.conversationId = some conversationId) &&
    (decide (r.type = .newTopic) || decide (r.type = .chatUnread)) &&
    (r.sourceCursor.any fun c => decide (c ≤ readCursor)) && r.readAt.isNone && r.deletedAt.isNone

def lockMember (groupId userId : Uuid) : Sql NotificationsRepositoryError Unit := do
  let s ← snapshot
  let member ← first (lockMembership groupId) ((liveMembers s groupId).filter fun m => decide (m.1 = userId))
  ensure member.isSome .invalidData

def clearTopicNotifications (userId conversationId : Uuid) : Sql NotificationsRepositoryError Nat := do
  let target ← select fun s => (s.get (.chatrooms conversationId)).bind fun room =>
    if room.deletedAt.isNone && topicLive s room then some (room.groupId, room.topicId) else none
  let (groupId, topicId) ← ofOption target .invalidData
  lockLiveGroup groupId
  lockMember groupId userId
  let cursors ← selectFor .share Tables.chatroomReads
    (fun s => s.ids Tables.chatroomReads fun _ r => decide (r.userId = userId) && decide (r.chatroomId = conversationId) &&
      r.deletedAt.isNone)
    (fun _ _ _ r => if r.userId = userId ∧ r.chatroomId = conversationId ∧ r.deletedAt = none then some r.lastReadCursor
      else none)
  let readCursor ← ofOption cursors.head? .invalidData
  let cleared ← update Tables.notifications
    (fun s => s.ids Tables.notifications fun _ r => coveredBy userId conversationId topicId readCursor r)
    (fun _ _ now r => if coveredBy userId conversationId topicId readCursor r then some ({ r with readAt := some now }, ())
      else none) (.unavailable "notification_clear_bounded")
  ret cleared.length

end JamyeServer.Postgres.Notifications
