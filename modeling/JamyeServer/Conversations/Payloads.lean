import JamyeServer.Conversations.Wire
import JamyeServer.Postgres.AccountPurge
import JamyeServer.Postgres.TopicDeletion
import JamyeServer.Transition

/-!
# The payloads of the outbox stay readable

Every event is written with a row of the outbox that carries it as JSON. Deletions of messages and topics and the purge
of accounts edit these payloads in place: `messaging/delete.rs`, `topics/delete.rs` and
`account_deletion/payload_scrub.rs`. Whatever the edits and their order, the realtime side reads the event that was
written, as the variant of its type.
-/

namespace JamyeServer.Wire

open Postgres Postgres.Messages Postgres.TopicDeletion Postgres.AccountPurge Json Transition

section Edits

/-- `jsonb_set(jsonb_set(payload, '{data,body}', 'null'), '{data,media}', '[]')`. -/
def scrubMessageCreated (payload : Json) : Json := jsonbSet (.arr []) ["data", "media"] (jsonbSet .null ["data", "body"] payload)

/-- `jsonb_set(payload, '{data,title}', '""')`. -/
def scrubTopicCreated (payload : Json) : Json := jsonbSet (.str "") ["data", "title"] payload

def endsWith (ending key : String) : Bool := ending.toList.isSuffixOf key.toList

def isNicknameKey (key : String) : Bool :=
  decide (key = "nickname") || decide (key = "display_name") || endsWith "_nickname" key || endsWith "_display_name" key

def isAvatarKey (key : String) : Bool := decide (key = "avatar_url") || endsWith "_avatar_url" key

/-- What `anonymize_profile_fields` puts under a key. -/
def profileField (key : String) : Option Json :=
  if isNicknameKey key then some (.str anonymousAuthorNickname) else if isAvatarKey key then some .null else none

/-- `scrub_payload_rows`, for one payload: it is anonymized if a string of it was replaced. Rows whose text does not
contain the id hold no such string. -/
def scrubPayload (original replacement : String) (payload : Json) : Json :=
  if hasExact original payload then override profileField (replaceExact original replacement payload) else payload

end Edits

section Typed

variable {F : Formats} {e : RealtimeEvent}

/-- The edit of a deleted message is the edit of the typed payload. -/
lemma scrubMessageCreated_eventJson (h : eventType e.data = "message.created") :
    scrubMessageCreated (eventJson F e) = eventJson F { e with data := EventPayload.scrub e.data } := by
  cases hdata : e.data with
  | messageCreated m =>
    simp [scrubMessageCreated, eventJson, hdata, dataJson, messageJson, EventPayload.scrub, jsonbSet, setField, lookup,
      List.lookup_cons, ofOption, eventType]
  | messageDeleted d => simp [eventType, hdata] at h
  | topicCreated d => simp [eventType, hdata] at h
  | topicDeleted d => simp [eventType, hdata] at h

lemma scrubTopicCreated_eventJson (h : eventType e.data = "topic.created") :
    scrubTopicCreated (eventJson F e) = eventJson F { e with data := EventPayload.untitle e.data } := by
  cases hdata : e.data with
  | topicCreated d =>
    simp [scrubTopicCreated, eventJson, hdata, dataJson, topicCreatedJson, EventPayload.untitle, jsonbSet, setField, lookup,
      List.lookup_cons, eventType]
  | messageDeleted d => simp [eventType, hdata] at h
  | messageCreated d => simp [eventType, hdata] at h
  | topicDeleted d => simp [eventType, hdata] at h

end Typed

section Replace

variable (F : Formats) (user tombstone : Uuid)

/-- A string that is exactly the id of the user. -/
def replacedText (text : String) : String := if text = F.uuid user then F.uuid tombstone else text

def replacedAttachment (a : MessageAttachment) : MessageAttachment :=
  { a with id := replaceId user tombstone a.id, mediaUploadId := replaceId user tombstone a.mediaUploadId,
           contentType := replacedText F user tombstone a.contentType,
           filename := a.filename.map (replacedText F user tombstone),
           posterMediaId := a.posterMediaId.map (replaceId user tombstone) }

/-- `replace_exact_string` on the data of an event. -/
def replacedPayload : EventPayload → EventPayload
  | .messageCreated m => .messageCreated
      { m with id := replaceId user tombstone m.id, chatroomId := replaceId user tombstone m.chatroomId,
               senderId := m.senderId.map (replaceId user tombstone),
               senderNickname := m.senderNickname.map (replacedText F user tombstone),
               senderAvatarUrl := m.senderAvatarUrl.map (replacedText F user tombstone),
               clientMsgId := m.clientMsgId.map (replaceId user tombstone),
               body := m.body.map (replacedText F user tombstone),
               media := m.media.map (replacedAttachment F user tombstone) }
  | .messageDeleted d => .messageDeleted
      { d with messageId := replaceId user tombstone d.messageId, chatroomId := replaceId user tombstone d.chatroomId,
               groupId := replaceId user tombstone d.groupId, deletedBy := replaceId user tombstone d.deletedBy,
               reason := replacedText F user tombstone d.reason }
  | .topicCreated t => .topicCreated
      { topicId := replaceId user tombstone t.topicId, groupId := replaceId user tombstone t.groupId,
        chatroomId := replaceId user tombstone t.chatroomId, authorId := replaceId user tombstone t.authorId,
        title := replacedText F user tombstone t.title }
  | .topicDeleted t => .topicDeleted
      { t with topicId := replaceId user tombstone t.topicId,
               topicChatroomId := replaceId user tombstone t.topicChatroomId,
               groupId := replaceId user tombstone t.groupId, deletedBy := replaceId user tombstone t.deletedBy,
               announcementMessageId := t.announcementMessageId.map (replaceId user tombstone) }

def replacedEvent (e : RealtimeEvent) : RealtimeEvent :=
  { e with eventId := replaceId user tombstone e.eventId, conversationId := replaceId user tombstone e.conversationId,
           data := replacedPayload F user tombstone e.data }

variable {F user tombstone}

lemma uuid_injective {u v : Uuid} (h : F.uuid u = F.uuid v) : u = v := by
  have hu := F.parse_uuid u
  rw [h, F.parse_uuid] at hu
  exact (Option.some.inj hu).symm

lemma uuid_ne_of_hyphen {text : String} {u : Uuid} (h : '-' ∉ text.toList) : text ≠ F.uuid u := by
  rintro rfl
  exact h (F.uuid_hyphen u)

lemma time_ne_uuid (t : Time) (u : Uuid) : F.time t ≠ F.uuid u := fun h => F.uuid_colon u (h ▸ F.time_colon t)

lemma cursor_ne_uuid (n : Nat) (u : Uuid) : toString n ≠ F.uuid u := by
  refine uuid_ne_of_hyphen fun h => ?_
  exact absurd (Text.isDigit_of_mem_toString h) (by decide)

lemma replaceExact_uuidJson (u : Uuid) :
    replaceExact (F.uuid user) (F.uuid tombstone) (uuidJson F u) = uuidJson F (replaceId user tombstone u) := by
  by_cases h : u = user
  · simp [uuidJson, replaceExact, replaceId, h]
  · have hne : F.uuid u ≠ F.uuid user := fun heq => h (uuid_injective heq)
    simp [uuidJson, replaceExact, replaceId, h, hne]

lemma replaceExact_str (text : String) :
    replaceExact (F.uuid user) (F.uuid tombstone) (.str text) = .str (replacedText F user tombstone text) := by
  simp [replaceExact, replacedText]

lemma replacedText_of_ne {text : String} (h : text ≠ F.uuid user) : replacedText F user tombstone text = text := if_neg h

lemma replaceExact_timeJson (t : Time) : replaceExact (F.uuid user) (F.uuid tombstone) (timeJson F t) = timeJson F t := by
  rw [timeJson, replaceExact_str, replacedText_of_ne (time_ne_uuid t user)]

lemma replaceExact_natJson (n : Nat) : replaceExact (F.uuid user) (F.uuid tombstone) (natJson n) = natJson n := rfl

lemma replaceExact_ofOption {α : Type} {f : α → Json} {g : α → α}
    (h : ∀ a, replaceExact (F.uuid user) (F.uuid tombstone) (f a) = f (g a)) (value : Option α) :
    replaceExact (F.uuid user) (F.uuid tombstone) (ofOption f value) = ofOption f (value.map g) := by
  cases value with
  | none => rfl
  | some a => exact h a

lemma replaceExact_attachmentJson (a : MessageAttachment) :
    replaceExact (F.uuid user) (F.uuid tombstone) (attachmentJson F a) = attachmentJson F (replacedAttachment F user tombstone a) := by
  have hnat : ∀ value : Option Nat, replaceExact (F.uuid user) (F.uuid tombstone) (ofOption natJson value) = ofOption natJson value :=
    fun value => (replaceExact_ofOption (g := id) (fun n => replaceExact_natJson n) value).trans (by simp)
  simp only [attachmentJson, replaceExact, replaceFields, replaceExact_uuidJson, replaceExact_natJson, hnat, replacedAttachment,
    replaceExact_ofOption replaceExact_str, replaceExact_ofOption replaceExact_uuidJson, replacedText]

lemma kindText_ne (kind : MessageKind) (u : Uuid) : kindText kind ≠ F.uuid u :=
  uuid_ne_of_hyphen (by cases kind <;> decide)

lemma eventType_ne (payload : EventPayload) (u : Uuid) : eventType payload ≠ F.uuid u :=
  uuid_ne_of_hyphen (by cases payload <;> simp only [eventType] <;> decide)

lemma replaceExact_dataJson (payload : EventPayload) :
    replaceExact (F.uuid user) (F.uuid tombstone) (dataJson F payload) = dataJson F (replacedPayload F user tombstone payload) := by
  cases payload with
  | messageCreated m =>
    have hkind : replacedText F user tombstone (kindText m.messageType) = kindText m.messageType :=
      replacedText_of_ne (kindText_ne m.messageType user)
    have hmedia := replaceItems_map m.media (@replaceExact_attachmentJson F user tombstone)
    simp only [dataJson, messageJson, replaceExact, replaceFields, replaceExact_uuidJson, replaceExact_timeJson, replacedPayload,
      replaceExact_ofOption replaceExact_str, replaceExact_ofOption replaceExact_uuidJson, hmedia, List.map_map,
      Function.comp_def]
    rw [← replacedText, hkind]
  | messageDeleted d =>
    simp only [dataJson, messageDeletedJson, replaceExact, replaceFields, replaceExact_uuidJson, replaceExact_timeJson,
      replacedPayload, replacedText]
  | topicCreated t =>
    simp only [dataJson, topicCreatedJson, replaceExact, replaceFields, replaceExact_uuidJson, replacedPayload, replacedText]
  | topicDeleted t =>
    simp only [dataJson, topicDeletedJson, replaceExact, replaceFields, replaceExact_uuidJson, replaceExact_timeJson,
      replacedPayload, replaceExact_ofOption replaceExact_uuidJson]

lemma eventType_replacedPayload (payload : EventPayload) : eventType (replacedPayload F user tombstone payload) = eventType payload := by
  cases payload <;> rfl

/-- Replacing the id of a user in the JSON is replacing it in the event. -/
lemma replaceExact_eventJson (e : RealtimeEvent) :
    replaceExact (F.uuid user) (F.uuid tombstone) (eventJson F e) = eventJson F (replacedEvent F user tombstone e) := by
  have htype : replacedText F user tombstone (eventType e.data) = eventType e.data :=
    replacedText_of_ne (eventType_ne e.data user)
  have hcursor : replacedText F user tombstone (toString e.cursor) = toString e.cursor :=
    replacedText_of_ne (cursor_ne_uuid e.cursor user)
  simp only [eventJson, replaceExact, replaceFields, replaceExact_natJson, replaceExact_uuidJson, replaceExact_timeJson,
    replaceExact_dataJson, replacedEvent, eventType_replacedPayload]
  rw [← replacedText, ← replacedText, htype, hcursor]

end Replace

section Anonymize

variable {F : Formats}

lemma override_uuidJson (u : Uuid) : override profileField (uuidJson F u) = uuidJson F u := rfl

lemma override_timeJson (t : Time) : override profileField (timeJson F t) = timeJson F t := rfl

lemma override_natJson (n : Nat) : override profileField (natJson n) = natJson n := rfl

lemma override_ofOption {α : Type} {f : α → Json} (h : ∀ a, override profileField (f a) = f a) (value : Option α) :
    override profileField (ofOption f value) = ofOption f value := by
  cases value with
  | none => rfl
  | some a => exact h a

lemma override_str (text : String) : override profileField (.str text) = .str text := rfl

/-- No member of an attachment is about a profile. -/
lemma override_attachmentJson (a : MessageAttachment) : override profileField (attachmentJson F a) = attachmentJson F a := by
  have hkeys : ∀ key ∈ ["id", "media_upload_id", "type", "byte_size", "width", "height", "duration", "filename", "position",
      "poster_media_id"], profileField key = none := by decide
  rw [attachmentJson, override, overrideFields_of_keys]
  · simp only [List.map_cons, List.map_nil, override_uuidJson, override_natJson, override_str,
    override_ofOption override_uuidJson, override_ofOption override_natJson, override_ofOption override_str]
  · exact hkeys

/-- Only a message has profile members: the name and the avatar of its sender. -/
lemma override_dataJson (payload : EventPayload) :
    override profileField (dataJson F payload) = dataJson F (anonymizePayload payload) := by
  cases payload with
  | messageCreated m =>
    have hfirst : ∀ key ∈ ["id", "chatroom_id", "sender_id"], profileField key = none := by decide
    have hlast : ∀ key ∈ ["client_msg_id", "body", "type", "created_at", "media"], profileField key = none := by decide
    have hmedia : overrideItems profileField (m.media.map (attachmentJson F)) = m.media.map (attachmentJson F) :=
      overrideItems_map m.media override_attachmentJson
    have hname : profileField "sender_nickname" = some (.str anonymousAuthorNickname) := if_pos (by decide)
    have havatar : profileField "sender_avatar_url" = some .null := (if_neg (by decide)).trans (if_pos (by decide))
    simp only [List.forall_mem_cons] at hfirst hlast
    simp only [dataJson, messageJson, override, overrideFields, hfirst, hlast, hname, havatar, Option.getD_none, Option.getD_some,
      override_uuidJson, override_timeJson, override_ofOption override_uuidJson, override_ofOption override_str, hmedia,
      anonymizePayload]
    rfl
  | messageDeleted d =>
    have hkeys : ∀ key ∈ ["message_id", "chatroom_id", "group_id", "deleted_at", "deleted_by", "reason"], profileField key = none := by
      decide
    rw [dataJson, messageDeletedJson, override, overrideFields_of_keys]
    · simp only [List.map_cons, List.map_nil, override_uuidJson, override_timeJson, override_str, anonymizePayload, dataJson,
      messageDeletedJson]
    · exact hkeys
  | topicCreated t =>
    have hkeys : ∀ key ∈ ["topic_id", "group_id", "chatroom_id", "author_id", "title"], profileField key = none := by decide
    rw [dataJson, topicCreatedJson, override, overrideFields_of_keys]
    · simp only [List.map_cons, List.map_nil, override_uuidJson, override_str, anonymizePayload, dataJson, topicCreatedJson]
    · exact hkeys
  | topicDeleted t =>
    have hkeys : ∀ key ∈ ["topic_id", "topic_chatroom_id", "group_id", "deleted_at", "deleted_by", "announcement_message_id"],
        profileField key = none := by decide
    rw [dataJson, topicDeletedJson, override, overrideFields_of_keys]
    · simp only [List.map_cons, List.map_nil, override_uuidJson, override_timeJson, override_ofOption override_uuidJson,
      anonymizePayload, dataJson, topicDeletedJson]
    · exact hkeys

lemma eventType_anonymizePayload (payload : EventPayload) : eventType (anonymizePayload payload) = eventType payload := by
  cases payload <;> rfl

lemma override_eventJson (e : RealtimeEvent) :
    override profileField (eventJson F e) = eventJson F { e with data := anonymizePayload e.data } := by
  have hkeys : ∀ key ∈ ["version", "type", "event_id", "conversation_id", "cursor", "occurred_at", "data"],
      profileField key = none := by decide
  rw [eventJson, override, overrideFields_of_keys]
  · simp only [List.map_cons, List.map_nil, override_natJson, override_str, override_uuidJson, override_timeJson, override_dataJson,
    eventJson, eventType_anonymizePayload]
  · exact hkeys

/-- The purge of an account is an edit of the event. -/
lemma scrubPayload_eventJson (user tombstone : Uuid) (e : RealtimeEvent) :
    scrubPayload (F.uuid user) (F.uuid tombstone) (eventJson F e) = eventJson F e ∨
      scrubPayload (F.uuid user) (F.uuid tombstone) (eventJson F e) =
        eventJson F { replacedEvent F user tombstone e with data := anonymizePayload (replacedPayload F user tombstone e.data) } := by
  unfold scrubPayload
  split
  · rw [replaceExact_eventJson, override_eventJson]
    exact .inr rfl
  · exact .inl rfl

end Anonymize

section Outbox

namespace RealtimeServerEvent

def eventType : RealtimeServerEvent → String
  | messageCreated _ => "message.created"
  | topicCreated _ => "topic.created"
  | messageDeleted _ => "message.deleted"
  | topicDeleted _ => "topic.deleted"

def eventId : RealtimeServerEvent → Uuid
  | messageCreated e => e.eventId
  | topicCreated e => e.eventId
  | messageDeleted e => e.eventId
  | topicDeleted e => e.eventId

def conversationId : RealtimeServerEvent → Uuid
  | messageCreated e => e.conversationId
  | topicCreated e => e.conversationId
  | messageDeleted e => e.conversationId
  | topicDeleted e => e.conversationId

def cursor : RealtimeServerEvent → String
  | messageCreated e => e.cursor
  | topicCreated e => e.cursor
  | messageDeleted e => e.cursor
  | topicDeleted e => e.cursor

end RealtimeServerEvent

/-- A row of `conversation_events`. -/
structure EventRow where
  id : Uuid
  conversationId : Uuid
  cursor : Nat
  eventType : String

/-- A row of `outbox_events` with the intent `conversation`. -/
structure OutboxRow where
  eventType : String
  conversationEventId : Uuid
  payload : Json

structure OutboxState where
  events : List EventRow
  outbox : List OutboxRow

/-- What the transactions do to these rows. A message that is sent, a topic that is created and each deletion record
their events with `record`; a deletion also empties the payloads of the events that it found in the conversation. -/
inductive OutboxLabel
  | record (event : RealtimeEvent) (fits : PayloadFits event.data)
  | scrubMessageCreatedOutbox (eventIds : List Uuid)
  | scrubTopicCreatedOutbox (eventIds : List Uuid)
  | scrubRetainedPayloads (userId tombstoneUserId : Uuid)

/-- `UPDATE outbox_events SET payload = … WHERE event_type = … AND conversation_event_id = ANY(…)`. -/
def updateOutbox (type : String) (eventIds : List Uuid) (f : Json → Json) (row : OutboxRow) : OutboxRow :=
  if row.eventType = type ∧ row.conversationEventId ∈ eventIds then { row with payload := f row.payload } else row

/-- The id of an event is new. UUIDs are drawn so that the id of an account is not that of an event or of a room. -/
def OutboxState.step (F : Formats) (s : OutboxState) : OutboxLabel → Option OutboxState
  | .record e _ =>
    if s.events.any fun row => decide (row.id = e.eventId) then none
    else some ⟨⟨e.eventId, e.conversationId, e.cursor, eventType e.data⟩ :: s.events,
      ⟨eventType e.data, e.eventId, eventJson F e⟩ :: s.outbox⟩
  | .scrubMessageCreatedOutbox ids => some { s with outbox := s.outbox.map (updateOutbox "message.created" ids scrubMessageCreated) }
  | .scrubTopicCreatedOutbox ids => some { s with outbox := s.outbox.map (updateOutbox "topic.created" ids scrubTopicCreated) }
  | .scrubRetainedPayloads user tombstone =>
    if s.events.any fun row => decide (row.id = user) || decide (row.conversationId = user) then none
    else some { s with outbox := s.outbox.map fun row =>
      { row with payload := scrubPayload (F.uuid user) (F.uuid tombstone) row.payload } }

def OutboxState.init (s : OutboxState) : Prop := s = ⟨[], []⟩

section Transactions

open ReadCommitted

/-- A row of `conversation_events` as the transactions have it. -/
def eventRow (id : Uuid) (r : ConversationEvent) : EventRow := ⟨id, r.conversationId, r.cursor, eventType r.payload⟩

def outboxRow (F : Formats) (r : OutboxEvent) : Option OutboxRow :=
  match r.payload, r.conversationEventId with
  | .conversation event, some eventId => some ⟨eventType event.data, eventId, eventJson F event⟩
  | _, _ => none

variable {ε ε₁ β ω : Type} {sys : System Row Nat Idx ε β ω} {C : Contract sys} {l l' L : Local Row Nat}
  {g g' G : Shared Row Nat β ω}

/-- The four writers record their events with `recordEvent`: the two rows that it writes are those of a `record`. -/
theorem OutboxState.record_of_recordEvent (F : Formats) {s : OutboxState} {eventId outboxId conversationId : Uuid}
    {payload : EventPayload} {eventError outboxError : ε₁} {cursor : Nat} (fits : PayloadFits payload)
    (h : Runs C (recordEvent eventId outboxId conversationId payload eventError outboxError) l g (.ok cursor) l' g' L G)
    (hnew : ∀ row ∈ s.events, row.id ≠ eventId) :
    ∃ r o row now, l'.writes = ⟨.outboxEvents outboxId, some o⟩ :: ⟨.conversationEvents eventId, some r⟩ :: l.writes ∧
      outboxRow F o = some row ∧
      s.step F (.record ⟨eventId, conversationId, cursor, now, payload⟩ fits) =
        some ⟨eventRow eventId r :: s.events, row :: s.outbox⟩ := by
  unfold recordEvent at h
  obtain ⟨cursor', l₁, g₁, h₁, r₁⟩ := h.bind
  obtain ⟨now, l₂, g₂, h₂, r₂⟩ := r₁.bind
  obtain ⟨_, l₃, g₃, h₃, r₃⟩ := r₂.bind
  obtain ⟨createdAt, l₄, g₄, h₄, r₄⟩ := r₃.bind
  obtain ⟨_, l₅, g₅, h₅, r₅⟩ := r₄.bind
  obtain ⟨hl₁, -⟩ := h₁.nextval
  obtain ⟨hl₂, -⟩ := h₂.clock
  obtain ⟨hl₄, -⟩ := h₄.clock
  obtain ⟨rfl, rfl⟩ := r₅.ret
  have hold : (s.events.any fun row => decide (row.id = eventId)) = false := by
    simpa [List.any_eq_false] using hnew
  have hwrites := congrArg Local.writes h₅.insertRow.frame
  have hwrites₃ := congrArg Local.writes h₃.insertRow.frame
  dsimp only at hwrites hwrites₃
  rw [hl₄, hwrites₃, hl₂, hl₁] at hwrites
  refine ⟨_, _, _, now, hwrites, rfl, ?_⟩
  simp only [OutboxState.step, hold]
  rfl

end Transactions

variable {F : Formats} {s s' : OutboxState}

/-- The row carries the event, which is the one of its row in `conversation_events`. -/
structure Carries (F : Formats) (s : OutboxState) (row : OutboxRow) (e : RealtimeEvent) : Prop where
  payload : row.payload = eventJson F e
  fits : PayloadFits e.data
  type : row.eventType = eventType e.data
  id : row.conversationEventId = e.eventId
  event : ⟨e.eventId, e.conversationId, e.cursor, eventType e.data⟩ ∈ s.events

def Readable (F : Formats) (s : OutboxState) : Prop := ∀ row ∈ s.outbox, ∃ e, Carries F s row e

/-- An edit of some payloads that keeps what identifies an event keeps the outbox readable. -/
lemma Readable.edit (h : Readable F s) {f : OutboxRow → OutboxRow}
    (hf : ∀ row ∈ s.outbox, ∀ e, Carries F s row e → ∃ e', Carries F s (f row) e') :
    Readable F { s with outbox := s.outbox.map f } := by
  intro row hrow
  obtain ⟨old, hold, rfl⟩ := List.mem_map.mp hrow
  obtain ⟨e, he⟩ := h old hold
  obtain ⟨e', he'⟩ := hf old hold e he
  exact ⟨e', he'.payload, he'.fits, he'.type, he'.id, he'.event⟩

/-- An edit of the data of an event. -/
lemma Carries.edit {row : OutboxRow} {e : RealtimeEvent} (h : Carries F s row e) {data : EventPayload} {payload : Json}
    (hpayload : payload = eventJson F { e with data := data }) (hfits : PayloadFits data)
    (htype : eventType data = eventType e.data) :
    Carries F s { row with payload := payload } { e with data := data } :=
  ⟨hpayload, hfits, h.type.trans htype.symm, h.id, by rw [htype]; exact h.event⟩

lemma payloadFits_replaced {user tombstone : Uuid} {payload : EventPayload} (h : PayloadFits payload) :
    PayloadFits (anonymizePayload (replacedPayload F user tombstone payload)) := by
  cases payload with
  | messageCreated m =>
    intro a ha
    obtain ⟨b, hb, rfl⟩ := List.mem_map.mp ha
    obtain ⟨h₁, h₂, h₃, h₄, h₅⟩ := h b hb
    exact ⟨h₁, h₂, h₃, h₄, h₅⟩
  | messageDeleted d => trivial
  | topicCreated t => trivial
  | topicDeleted t => trivial

theorem Readable.step (h : Readable F s) {l : OutboxLabel} (hstep : s.step F l = some s') : Readable F s' := by
  cases l with
  | record e fits =>
    simp only [OutboxState.step] at hstep
    split_ifs at hstep with hnew
    cases hstep
    intro row hrow
    rcases List.mem_cons.mp hrow with rfl | hrow
    · exact ⟨e, rfl, fits, rfl, rfl, List.mem_cons_self⟩
    · obtain ⟨e', he'⟩ := h row hrow
      exact ⟨e', he'.payload, he'.fits, he'.type, he'.id, List.mem_cons_of_mem _ he'.event⟩
  | scrubMessageCreatedOutbox ids =>
    cases hstep
    refine h.edit fun row _ e he => ?_
    unfold updateOutbox
    split_ifs with hmatch
    · have htype : eventType e.data = "message.created" := he.type ▸ hmatch.1
      have hdata : eventType (EventPayload.scrub e.data) = eventType e.data ∧ PayloadFits (EventPayload.scrub e.data) := by
        cases hd : e.data with
        | messageCreated m => exact ⟨rfl, List.forall_mem_nil _⟩
        | messageDeleted d => exact ⟨rfl, trivial⟩
        | topicCreated t => exact ⟨rfl, trivial⟩
        | topicDeleted t => exact ⟨rfl, trivial⟩
      exact ⟨_, he.edit (by rw [he.payload, scrubMessageCreated_eventJson htype]) hdata.2 hdata.1⟩
    · exact ⟨e, he⟩
  | scrubTopicCreatedOutbox ids =>
    cases hstep
    refine h.edit fun row _ e he => ?_
    unfold updateOutbox
    split_ifs with hmatch
    · have htype : eventType e.data = "topic.created" := he.type ▸ hmatch.1
      have hdata : eventType (EventPayload.untitle e.data) = eventType e.data ∧ PayloadFits (EventPayload.untitle e.data) := by
        have hfits := he.fits
        cases hd : e.data with
        | messageCreated m => exact ⟨rfl, by rw [hd] at hfits; exact hfits⟩
        | messageDeleted d => exact ⟨rfl, trivial⟩
        | topicCreated t => exact ⟨rfl, trivial⟩
        | topicDeleted t => exact ⟨rfl, trivial⟩
      exact ⟨_, he.edit (by rw [he.payload, scrubTopicCreated_eventJson htype]) hdata.2 hdata.1⟩
    · exact ⟨e, he⟩
  | scrubRetainedPayloads user tombstone =>
    simp only [OutboxState.step] at hstep
    split_ifs at hstep with hids
    cases hstep
    refine h.edit fun row _ e he => ?_
    have hdistinct : e.eventId ≠ user ∧ e.conversationId ≠ user := by
      simp only [List.any_eq_true, Bool.or_eq_true, decide_eq_true_eq, not_exists, not_and, not_or] at hids
      exact hids _ he.event
    have hreplaced : replacedEvent F user tombstone e = { e with data := replacedPayload F user tombstone e.data } := by
      simp [replacedEvent, replaceId, hdistinct.1, hdistinct.2]
    rcases scrubPayload_eventJson user tombstone e with hsame | hedit
    · exact ⟨e, by rw [he.payload, hsame], he.fits, he.type, he.id, he.event⟩
    · rw [hreplaced] at hedit
      exact ⟨_, he.edit (by rw [he.payload, hedit]) (payloadFits_replaced he.fits)
        ((eventType_anonymizePayload _).trans (eventType_replacedPayload _))⟩

lemma readable_of_run {h : List (OutboxState × OutboxLabel)} (hrun : Run OutboxState.init (OutboxState.step F) h s) :
    Readable F s := by
  refine hrun.invariant (I := fun _ s => Readable F s) ?_ fun _ _ _ _ _ hr _ hstep => hr.step hstep
  rintro s rfl
  exact List.forall_mem_nil _

/-- After every sequence of writes, deletions and purges, every payload of the outbox is read as the variant of its
type, with the id, the conversation and the cursor of its row in `conversation_events`. -/
theorem outbox_payload_decodes (F : Formats) {h : List (OutboxState × OutboxLabel)} {s : OutboxState}
    (hrun : Run OutboxState.init (OutboxState.step F) h s) (row : OutboxRow) (hrow : row ∈ s.outbox) :
    ∃ stored ∈ s.events, stored.id = row.conversationEventId ∧ stored.eventType = row.eventType ∧
      ∃ event, RealtimeServerEvent.decode F row.payload = some event ∧ event.eventType = row.eventType ∧
        event.eventId = stored.id ∧ event.conversationId = stored.conversationId ∧ event.cursor = toString stored.cursor := by
  obtain ⟨e, he⟩ := readable_of_run hrun row hrow
  refine ⟨_, he.event, he.id.symm, he.type.symm, received e, ?_, ?_⟩
  · rw [he.payload, decode_eventJson he.fits]
  · rw [he.type]
    unfold received
    cases hd : e.data <;> exact ⟨rfl, rfl, rfl, rfl⟩

/-- User 1 says hello in the room 6. -/
def helloEvent : RealtimeEvent :=
  ⟨5, 6, 9, 3, .messageCreated ⟨4, 6, some 1, some "n", none, some 7, some "hello", .user, 3, []⟩⟩

def purgedHello : OutboxState :=
  ⟨[⟨5, 6, 9, "message.created"⟩],
    [⟨"message.created", 5, scrubPayload (plainFormats.uuid 1) (plainFormats.uuid 2) (eventJson plainFormats helloEvent)⟩]⟩

theorem purgedHello_decodes :
    (∃ h, Run OutboxState.init (OutboxState.step plainFormats) h purgedHello) ∧
      ∃ stored ∈ purgedHello.events, stored.id = 5 ∧ stored.eventType = "message.created" ∧
        ∃ event, RealtimeServerEvent.decode plainFormats
            (scrubPayload (plainFormats.uuid 1) (plainFormats.uuid 2) (eventJson plainFormats helloEvent)) = some event ∧
          event.eventType = "message.created" ∧ event.eventId = stored.id ∧ event.conversationId = stored.conversationId ∧
          event.cursor = toString stored.cursor := by
  have hstart : Run OutboxState.init (OutboxState.step plainFormats) [] ⟨[], []⟩ := .start rfl
  have hsent := hstart.next (l := .record helloEvent (List.forall_mem_nil _)) rfl
  have hpurged : Run OutboxState.init (OutboxState.step plainFormats) _ purgedHello :=
    hsent.next (l := .scrubRetainedPayloads 1 2) rfl
  exact ⟨⟨_, hpurged⟩, outbox_payload_decodes plainFormats hpurged _ List.mem_cons_self⟩

end Outbox

end JamyeServer.Wire
