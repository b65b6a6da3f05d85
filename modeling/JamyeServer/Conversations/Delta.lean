import JamyeServer.Conversations.Wire
import JamyeServer.Keyset

/-!
# Delta pages

`adapters/postgres/messaging/delta.rs`: the events of a room after a cursor, as the two versions of the contract show
them. The previous version knows new messages only; every other event is a marker that names what the client has to
read again.
-/

namespace JamyeServer.Delta

open Postgres Json Wire Keyset

inductive ReconcileScope
  | chatHistory | groupTopics | notifications
  deriving DecidableEq, Repr

structure UnsupportedEventMarker where
  eventId : Uuid
  cursor : String
  reconcileScope : ReconcileScope
  deriving DecidableEq, Repr

inductive DeltaItem
  | known (event : Envelope CanonicalMessage)
  | messageDeleted (event : Envelope MessageDeletedData)
  | topicDeleted (event : Envelope TopicDeletedData)
  | unsupported (marker : UnsupportedEventMarker)
  deriving DecidableEq, Repr

namespace DeltaItem

def cursor : DeltaItem → String
  | known event => event.cursor
  | messageDeleted event => event.cursor
  | topicDeleted event => event.cursor
  | unsupported marker => marker.cursor

def eventId : DeltaItem → Uuid
  | known event => event.eventId
  | messageDeleted event => event.eventId
  | topicDeleted event => event.eventId
  | unsupported marker => marker.eventId

end DeltaItem

structure EventPage where
  items : List DeltaItem
  nextCursor : Option String
  deriving DecidableEq, Repr

inductive ContractProjection
  | current | previous
  deriving DecidableEq, Repr

inductive DeltaError
  | membershipRequired
  | contractUpgradeRequired
  deriving DecidableEq, Repr

/-- A row of `conversation_events`. -/
structure StoredEvent where
  id : Uuid
  cursor : Nat
  conversationId : Uuid
  eventType : String
  eventVersion : Nat
  payload : Json
  occurredAt : Time

structure DeltaQuery where
  conversationId : Uuid
  after : Option Nat
  limit : Nat
  projection : ContractProjection

/-- What the statement finds: whether the user reaches the room, the group and the type of the room, the events, and
which printed ids are those of deleted accounts. -/
structure Snapshot where
  allowed : Bool
  feedGroupId : Option Uuid
  feedChatroomType : Option String
  events : List StoredEvent
  senderDeleted : String → Bool

/-- The columns of the page are all there or, for the row of a page without events, all missing. -/
structure DeltaRow where
  allowed : Bool
  event : Option StoredEvent
  feedGroupId : Option Uuid
  feedChatroomType : Option String

section Rows

/-- The name and the avatar of a deleted sender are not shown. -/
def shownPayload (s : Snapshot) (e : StoredEvent) : Json :=
  if e.eventType = "message.created" ∧ e.eventVersion = 1 ∧ (e.payload.text "sender_id").any s.senderDeleted = true then
    jsonbSet .null ["sender_avatar_url"] (jsonbSet (.str "탈퇴한 사용자") ["sender_nickname"] e.payload)
  else e.payload

def pageRows (s : Snapshot) (query : DeltaQuery) : List StoredEvent :=
  ((sorted StoredEvent.cursor (s.events.filter fun e =>
    decide (e.conversationId = query.conversationId) && decide (query.after.getD 0 < e.cursor) && s.allowed)).take
      (query.limit + 1)).map fun e => { e with payload := shownPayload s e }

/-- `FROM membership_access a LEFT JOIN page p ON TRUE`. -/
def fetchRows (s : Snapshot) (query : DeltaQuery) : List DeltaRow :=
  match pageRows s query with
  | [] => [⟨s.allowed, none, s.feedGroupId, s.feedChatroomType⟩]
  | rows => rows.map fun e => ⟨s.allowed, some e, s.feedGroupId, s.feedChatroomType⟩

structure DeltaEvent where
  event : StoredEvent
  feedGroupId : Uuid
  feedChatroomType : String

def deltaEvent (conversationId : Uuid) (row : DeltaRow) : Option DeltaEvent := do
  let event ← row.event
  let feedGroupId ← row.feedGroupId
  let feedChatroomType ← row.feedChatroomType
  some ⟨{ event with conversationId := conversationId }, feedGroupId, feedChatroomType⟩

end Rows

section Projection

variable (F : Formats)

def startsWith (beginning text : String) : Bool := beginning.toList.isPrefixOf text.toList

def safeReconcileScope (event : StoredEvent) : Except DeltaError ReconcileScope :=
  if startsWith "message." event.eventType then .ok .chatHistory
  else if startsWith "topic." event.eventType then .ok .groupTopics
  else if startsWith "notification." event.eventType then .ok .notifications
  else match event.payload.text "reconcile_scope" with
    | some "chat_history" => .ok .chatHistory
    | some "group_topics" => .ok .groupTopics
    | some "notifications" => .ok .notifications
    | _ => .error .contractUpgradeRequired

/-- The message of a `message.created` event of this version, if it is of this conversation. -/
def createdMessage (event : StoredEvent) : Option CanonicalMessage :=
  if event.eventType = "message.created" ∧ event.eventVersion = 1 then
    (decodeMessage F event.payload).filter fun m => decide (m.chatroomId = event.conversationId)
  else none

def projectV1Event (event : StoredEvent) : Except DeltaError DeltaItem :=
  match createdMessage F event with
  | some message => .ok (.known ⟨1, event.id, message.chatroomId, toString event.cursor, event.occurredAt, message⟩)
  | none => do
    let reconcileScope ← safeReconcileScope event
    pure (.unsupported ⟨event.id, toString event.cursor, reconcileScope⟩)

def deletedMessage (event : StoredEvent) : Option MessageDeletedData :=
  if event.eventType = "message.deleted" ∧ event.eventVersion = 1 then
    (decodeMessageDeleted F event.payload).filter fun data => decide (data.chatroomId = event.conversationId)
  else none

def deletedTopic (event : DeltaEvent) : Option TopicDeletedData :=
  if event.event.eventType = "topic.deleted" ∧ event.event.eventVersion = 1 then
    (decodeTopicDeleted F event.event.payload).filter fun data =>
      decide (data.groupId = event.feedGroupId) && decide (event.feedChatroomType = "main")
  else none

def projectV2Event (event : DeltaEvent) : Except DeltaError DeltaItem :=
  match deletedMessage F event.event with
  | some data => .ok (.messageDeleted ⟨1, event.event.id, event.event.conversationId, toString event.event.cursor,
      event.event.occurredAt, data⟩)
  | none =>
    match deletedTopic F event with
    | some data => .ok (.topicDeleted ⟨1, event.event.id, event.event.conversationId, toString event.event.cursor,
        event.event.occurredAt, data⟩)
    | none => projectV1Event F event.event

def projectEvent (projection : ContractProjection) (event : DeltaEvent) : Except DeltaError DeltaItem :=
  match projection with
  | .current => projectV2Event F event
  | .previous => projectV1Event F event.event

def page (s : Snapshot) (query : DeltaQuery) : Except DeltaError EventPage :=
  let rows := fetchRows s query
  if rows.head?.any fun row => !row.allowed then .error .membershipRequired
  else do
    let events := rows.filterMap (deltaEvent query.conversationId)
    let items ← (events.take query.limit).mapM (projectEvent F query.projection)
    pure ⟨items, if query.limit < events.length then items.getLast?.map DeltaItem.cursor else none⟩

end Projection

section Versions

variable {F : Formats}

/-- The types of the events that the server writes. -/
def writtenTypes : List String := ["message.created", "message.deleted", "topic.created", "topic.deleted"]

/-- What the previous version shows in place of an item of the current one. -/
def downgrade : DeltaItem → DeltaItem
  | .messageDeleted event => .unsupported ⟨event.eventId, event.cursor, .chatHistory⟩
  | .topicDeleted event => .unsupported ⟨event.eventId, event.cursor, .groupTopics⟩
  | item => item

@[simp] lemma downgrade_eventId (item : DeltaItem) : (downgrade item).eventId = item.eventId := by
  cases item <;> rfl

@[simp] lemma downgrade_cursor (item : DeltaItem) : (downgrade item).cursor = item.cursor := by
  cases item <;> rfl

lemma safeReconcileScope_written {event : StoredEvent} (h : event.eventType ∈ writtenTypes) :
    ∃ scope, safeReconcileScope event = .ok scope := by
  simp only [writtenTypes, List.mem_cons, List.not_mem_nil, or_false] at h
  rcases h with h | h | h | h
  · exact ⟨.chatHistory, if_pos (by rw [h]; decide)⟩
  · exact ⟨.chatHistory, if_pos (by rw [h]; decide)⟩
  · exact ⟨.groupTopics, (if_neg (by rw [h]; decide)).trans (if_pos (by rw [h]; decide))⟩
  · exact ⟨.groupTopics, (if_neg (by rw [h]; decide)).trans (if_pos (by rw [h]; decide))⟩

lemma createdMessage_of_type {event : StoredEvent} (h : event.eventType ≠ "message.created") : createdMessage F event = none :=
  if_neg fun hc => h hc.1

/-- A marker of the previous version. -/
lemma projectV1Event_marker {event : StoredEvent} {scope : ReconcileScope} (htype : event.eventType ≠ "message.created")
    (hscope : safeReconcileScope event = .ok scope) :
    projectV1Event F event = .ok (.unsupported ⟨event.id, toString event.cursor, scope⟩) := by
  rw [projectV1Event, createdMessage_of_type htype]
  simp only [hscope]
  rfl

/-- The previous version never shows a deletion. -/
lemma projectV1Event_written {event : StoredEvent} (h : event.eventType ∈ writtenTypes) :
    ∃ item, projectV1Event F event = .ok item ∧ downgrade item = item := by
  obtain ⟨scope, hscope⟩ := safeReconcileScope_written h
  unfold projectV1Event
  cases createdMessage F event with
  | some message => exact ⟨_, rfl, rfl⟩
  | none =>
    rw [hscope]
    exact ⟨_, rfl, rfl⟩

/-- One event in the two versions. -/
lemma project_versions {event : DeltaEvent} (h : event.event.eventType ∈ writtenTypes) :
    ∃ item, projectEvent F .current event = .ok item ∧ projectEvent F .previous event = .ok (downgrade item) := by
  simp only [projectEvent, projectV2Event]
  cases hmessage : deletedMessage F event.event with
  | some data =>
    have htype : event.event.eventType = "message.deleted" := by
      unfold deletedMessage at hmessage
      split_ifs at hmessage with hc
      exact hc.1
    refine ⟨_, rfl, projectV1Event_marker (by rw [htype]; decide) (if_pos (by rw [htype]; decide))⟩
  | none =>
    cases htopic : deletedTopic F event with
    | some data =>
      have htype : event.event.eventType = "topic.deleted" := by
        unfold deletedTopic at htopic
        split_ifs at htopic with hc
        exact hc.1
      refine ⟨_, rfl, projectV1Event_marker (by rw [htype]; decide) ?_⟩
      exact (if_neg (by rw [htype]; decide)).trans (if_pos (by rw [htype]; decide))
    | none =>
      obtain ⟨item, hitem, hsame⟩ := projectV1Event_written (F := F) h
      exact ⟨item, hitem, by rw [hsame]; exact hitem⟩

lemma mapM_versions {events : List DeltaEvent} (h : ∀ event ∈ events, event.event.eventType ∈ writtenTypes) :
    ∃ items, events.mapM (projectEvent F .current) = .ok items ∧
      events.mapM (projectEvent F .previous) = .ok (items.map downgrade) := by
  induction events with
  | nil => exact ⟨[], rfl, rfl⟩
  | cons event rest ih =>
    obtain ⟨item, hcurrent, hprevious⟩ := project_versions (F := F) (h event List.mem_cons_self)
    obtain ⟨items, hcurrents, hpreviouses⟩ := ih fun e he => h e (List.mem_cons_of_mem _ he)
    refine ⟨item :: items, ?_, ?_⟩
    · rw [List.mapM_cons, hcurrent, hcurrents]
      rfl
    · rw [List.mapM_cons, hprevious, hpreviouses]
      rfl

lemma deltaEvents_written {s : Snapshot} (query : DeltaQuery) (h : ∀ e ∈ s.events, e.eventType ∈ writtenTypes) :
    ∀ event ∈ (fetchRows s query).filterMap (deltaEvent query.conversationId), event.event.eventType ∈ writtenTypes := by
  have hrows : ∀ e ∈ pageRows s query, e.eventType ∈ writtenTypes := by
    intro e he
    obtain ⟨e', he', rfl⟩ := List.mem_map.mp he
    exact h e' (List.mem_of_mem_filter (mem_sorted.mp (List.mem_of_mem_take he')))
  intro event hevent
  obtain ⟨row, hrow, hdelta⟩ := List.mem_filterMap.mp hevent
  simp only [deltaEvent, Option.bind_eq_bind, Option.bind_eq_some_iff, Option.some.injEq] at hdelta
  obtain ⟨e, he, -, -, -, -, rfl⟩ := hdelta
  unfold fetchRows at hrow
  split at hrow
  · rw [List.mem_singleton.mp hrow] at he
    cases he
  · obtain ⟨e', he', rfl⟩ := List.mem_map.mp hrow
    cases he
    exact hrows e he'

lemma fetchRows_allowed (s : Snapshot) (query : DeltaQuery) :
    ((fetchRows s query).head?.any fun row => !row.allowed) = !s.allowed := by
  unfold fetchRows
  split
  · rfl
  · rename_i rows hrows
    cases hp : pageRows s query with
    | nil => exact absurd hp (hrows)
    | cons e rest => rfl

/-- The page of a member whose events can be projected. -/
lemma page_of_items {s : Snapshot} (query : DeltaQuery) {items : List DeltaItem} (ha : s.allowed = true)
    (h : (((fetchRows s query).filterMap (deltaEvent query.conversationId)).take query.limit).mapM
      (projectEvent F query.projection) = .ok items) :
    page F s query = .ok ⟨items, if query.limit < ((fetchRows s query).filterMap (deltaEvent query.conversationId)).length then
      items.getLast?.map DeltaItem.cursor else none⟩ := by
  have hallowed := fetchRows_allowed s query
  rw [ha] at hallowed
  unfold page
  rw [if_neg (by rw [hallowed]; decide)]
  simp only [h]
  rfl

/-- For all events that the server can have written and every request of a member, both versions have a page: of the same
length, with the same next cursor and with the same ids and cursors; the previous version shows markers in place of
deletions and is otherwise the same. -/
theorem delta_versions_agree (F : Formats) (s : Snapshot) (hwritten : ∀ e ∈ s.events, e.eventType ∈ writtenTypes)
    (conversationId : Uuid) (after : Option Nat) (limit : Nat) :
    if s.allowed then
      ∃ current previous, page F s ⟨conversationId, after, limit, .current⟩ = .ok current ∧
        page F s ⟨conversationId, after, limit, .previous⟩ = .ok previous ∧
        previous.items.length = current.items.length ∧ previous.nextCursor = current.nextCursor ∧
        previous.items.map (fun item => (item.eventId, item.cursor)) = current.items.map (fun item => (item.eventId, item.cursor)) ∧
        previous.items = current.items.map downgrade
    else ∀ projection, page F s ⟨conversationId, after, limit, projection⟩ = .error .membershipRequired := by
  cases ha : s.allowed with
  | false =>
    rw [if_neg (by decide)]
    intro projection
    have hallowed := fetchRows_allowed s ⟨conversationId, after, limit, projection⟩
    rw [ha] at hallowed
    rw [page, if_pos (by rw [hallowed]; rfl)]
  | true =>
    rw [if_pos rfl]
    have hevents : ∀ event ∈ ((fetchRows s ⟨conversationId, after, limit, .current⟩).filterMap
        (deltaEvent conversationId)).take limit, event.event.eventType ∈ writtenTypes :=
      fun event he => deltaEvents_written ⟨conversationId, after, limit, .current⟩ hwritten event (List.mem_of_mem_take he)
    obtain ⟨items, hcurrent, hprevious⟩ := mapM_versions (F := F) hevents
    refine ⟨_, _, page_of_items ⟨conversationId, after, limit, .current⟩ ha hcurrent,
      page_of_items ⟨conversationId, after, limit, .previous⟩ ha hprevious, List.length_map .., ?_, ?_, rfl⟩
    · simp only [List.getLast?_map, Option.map_map, Function.comp_def, downgrade_cursor]
      rfl
    · simp only [List.map_map, Function.comp_def, downgrade_eventId, downgrade_cursor]

/-- A message of user 1 in the room 6, and its deletion. -/
def deletedHello : Snapshot where
  allowed := true
  feedGroupId := some 8
  feedChatroomType := some "main"
  events :=
    [⟨2, 5, 6, "message.created", 1,
        messageJson plainFormats ⟨4, 6, some 1, some "n", none, some 7, none, .user, 3, []⟩, 3⟩,
     ⟨3, 9, 6, "message.deleted", 1, messageDeletedJson plainFormats ⟨4, 6, 8, 5, 1, "author"⟩, 5⟩]
  senderDeleted _ := false

theorem deletedHello_versions :
    (∀ e ∈ deletedHello.events, e.eventType ∈ writtenTypes) ∧
      ∃ current previous, page plainFormats deletedHello ⟨6, none, 20, .current⟩ = .ok current ∧
        page plainFormats deletedHello ⟨6, none, 20, .previous⟩ = .ok previous ∧
        previous.items = current.items.map downgrade ∧ current.items.length = 2 ∧ previous.items ≠ current.items := by
  have hwritten : ∀ e ∈ deletedHello.events, e.eventType ∈ writtenTypes := by
    intro e he
    simp only [deletedHello, List.mem_cons, List.not_mem_nil, or_false] at he
    rcases he with rfl | rfl
    · decide
    · decide
  have h := delta_versions_agree plainFormats deletedHello hwritten 6 none 20
  rw [if_pos (show deletedHello.allowed = true from rfl)] at h
  obtain ⟨current, previous, hcurrent, hprevious, -, -, -, hitems⟩ := h
  have hshown : page plainFormats deletedHello ⟨6, none, 20, .current⟩ = .ok ⟨[
      .known ⟨1, 2, 6, "5", 3, ⟨4, 6, some 1, some "n", none, some 7, none, .user, 3, []⟩⟩,
      .messageDeleted ⟨1, 3, 6, "9", 5, ⟨4, 6, 8, 5, 1, "author"⟩⟩], none⟩ := rfl
  rw [hcurrent] at hshown
  cases hshown
  refine ⟨hwritten, _, previous, hcurrent, hprevious, hitems, rfl, ?_⟩
  rw [hitems]
  decide

end Versions

end JamyeServer.Delta
