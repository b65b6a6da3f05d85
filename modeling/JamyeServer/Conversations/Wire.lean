import JamyeServer.Json
import JamyeServer.Postgres.Schema

/-!
# Events as JSON

The structs of `domain/messaging/model.rs` as `serde` writes and reads them. The structs that the writers of
`topics/mutation.rs` declare for themselves have the same members. The untagged `RealtimeServerEvent` takes the first
variant that decodes, and every struct denies unknown members.
-/

namespace JamyeServer.Wire

open Postgres Json

/-- How ids and times are printed and parsed: a UUID in its hyphenated form, a time as RFC 3339. -/
structure Formats where
  uuid : Uuid → String
  parseUuid : String → Option Uuid
  time : Time → String
  parseTime : String → Option Time
  parse_uuid : ∀ u, parseUuid (uuid u) = some u
  parse_time : ∀ t, parseTime (time t) = some t
  uuid_hyphen : ∀ u, '-' ∈ (uuid u).toList
  uuid_colon : ∀ u, ':' ∉ (uuid u).toList
  time_colon : ∀ t, ':' ∈ (time t).toList

variable (F : Formats)

section Encode

def uuidJson (u : Uuid) : Json := .str (F.uuid u)

def timeJson (t : Time) : Json := .str (F.time t)

def natJson (n : Nat) : Json := .num n

def kindText : MessageKind → String
  | .user => "user"
  | .system => "system"

def attachmentJson (a : MessageAttachment) : Json := .obj
  [("id", uuidJson F a.id), ("media_upload_id", uuidJson F a.mediaUploadId), ("type", .str a.contentType),
   ("byte_size", natJson a.byteSize), ("width", ofOption natJson a.width), ("height", ofOption natJson a.height),
   ("duration", ofOption natJson a.duration), ("filename", ofOption .str a.filename), ("position", natJson a.position),
   ("poster_media_id", ofOption (uuidJson F) a.posterMediaId)]

def messageJson (m : CanonicalMessage) : Json := .obj
  [("id", uuidJson F m.id), ("chatroom_id", uuidJson F m.chatroomId), ("sender_id", ofOption (uuidJson F) m.senderId),
   ("sender_nickname", ofOption .str m.senderNickname), ("sender_avatar_url", ofOption .str m.senderAvatarUrl),
   ("client_msg_id", ofOption (uuidJson F) m.clientMsgId), ("body", ofOption .str m.body),
   ("type", .str (kindText m.messageType)), ("created_at", timeJson F m.createdAt),
   ("media", .arr (m.media.map (attachmentJson F)))]

def messageDeletedJson (d : MessageDeletedData) : Json := .obj
  [("message_id", uuidJson F d.messageId), ("chatroom_id", uuidJson F d.chatroomId), ("group_id", uuidJson F d.groupId),
   ("deleted_at", timeJson F d.deletedAt), ("deleted_by", uuidJson F d.deletedBy), ("reason", .str d.reason)]

def topicCreatedJson (d : TopicCreatedData) : Json := .obj
  [("topic_id", uuidJson F d.topicId), ("group_id", uuidJson F d.groupId), ("chatroom_id", uuidJson F d.chatroomId),
   ("author_id", uuidJson F d.authorId), ("title", .str d.title)]

def topicDeletedJson (d : TopicDeletedData) : Json := .obj
  [("topic_id", uuidJson F d.topicId), ("topic_chatroom_id", uuidJson F d.topicChatroomId), ("group_id", uuidJson F d.groupId),
   ("deleted_at", timeJson F d.deletedAt), ("deleted_by", uuidJson F d.deletedBy),
   ("announcement_message_id", ofOption (uuidJson F) d.announcementMessageId)]

def eventType : EventPayload → String
  | .messageCreated _ => "message.created"
  | .messageDeleted _ => "message.deleted"
  | .topicCreated _ => "topic.created"
  | .topicDeleted _ => "topic.deleted"

/-- The payload of a conversation event. -/
def dataJson : EventPayload → Json
  | .messageCreated m => messageJson F m
  | .messageDeleted d => messageDeletedJson F d
  | .topicCreated d => topicCreatedJson F d
  | .topicDeleted d => topicDeletedJson F d

/-- The payload of an outbox event. -/
def eventJson (e : RealtimeEvent) : Json := .obj
  [("version", natJson 1), ("type", .str (eventType e.data)), ("event_id", uuidJson F e.eventId),
   ("conversation_id", uuidJson F e.conversationId), ("cursor", .str (toString e.cursor)),
   ("occurred_at", timeJson F e.occurredAt), ("data", dataJson F e.data)]

end Encode

section Decode

def decodeUuid : Json → Option Uuid
  | .str s => F.parseUuid s
  | _ => none

def decodeTime : Json → Option Time
  | .str s => F.parseTime s
  | _ => none

def decodeKind : Json → Option MessageKind
  | .str s => if s = "user" then some .user else if s = "system" then some .system else none
  | _ => none

/-- The members of an object, if they are all known. -/
def members (keys : List String) : Json → Option (List (String × Json))
  | .obj fields => if known keys fields then some fields else none
  | _ => none

/-- The bounds are those of `u8`, `u32` and `u64`. -/
def decodeAttachment (j : Json) : Option MessageAttachment := do
  let fields ← members ["id", "media_upload_id", "type", "byte_size", "width", "height", "duration", "filename", "position",
    "poster_media_id"] j
  let id ← requiredField (decodeUuid F) "id" fields
  let mediaUploadId ← requiredField (decodeUuid F) "media_upload_id" fields
  let contentType ← requiredField string "type" fields
  let byteSize ← requiredField (natural (2 ^ 64)) "byte_size" fields
  let width ← optionalField (natural (2 ^ 32)) "width" fields
  let height ← optionalField (natural (2 ^ 32)) "height" fields
  let duration ← optionalField (natural (2 ^ 64)) "duration" fields
  let filename ← optionalField string "filename" fields
  let position ← requiredField (natural (2 ^ 8)) "position" fields
  let posterMediaId ← optionalField (decodeUuid F) "poster_media_id" fields
  some ⟨id, mediaUploadId, contentType, byteSize, width, height, duration, filename, position, posterMediaId⟩

def decodeMessage (j : Json) : Option CanonicalMessage := do
  let fields ← members ["id", "chatroom_id", "sender_id", "sender_nickname", "sender_avatar_url", "client_msg_id", "body",
    "type", "created_at", "media"] j
  let id ← requiredField (decodeUuid F) "id" fields
  let chatroomId ← requiredField (decodeUuid F) "chatroom_id" fields
  let senderId ← optionalField (decodeUuid F) "sender_id" fields
  let senderNickname ← optionalField string "sender_nickname" fields
  let senderAvatarUrl ← optionalField string "sender_avatar_url" fields
  let clientMsgId ← optionalField (decodeUuid F) "client_msg_id" fields
  let body ← optionalField string "body" fields
  let messageType ← requiredField decodeKind "type" fields
  let createdAt ← requiredField (decodeTime F) "created_at" fields
  let media ← requiredField (array (decodeAttachment F)) "media" fields
  some ⟨id, chatroomId, senderId, senderNickname, senderAvatarUrl, clientMsgId, body, messageType, createdAt, media⟩

def decodeMessageDeleted (j : Json) : Option MessageDeletedData := do
  let fields ← members ["message_id", "chatroom_id", "group_id", "deleted_at", "deleted_by", "reason"] j
  let messageId ← requiredField (decodeUuid F) "message_id" fields
  let chatroomId ← requiredField (decodeUuid F) "chatroom_id" fields
  let groupId ← requiredField (decodeUuid F) "group_id" fields
  let deletedAt ← requiredField (decodeTime F) "deleted_at" fields
  let deletedBy ← requiredField (decodeUuid F) "deleted_by" fields
  let reason ← requiredField string "reason" fields
  some ⟨messageId, chatroomId, groupId, deletedAt, deletedBy, reason⟩

def decodeTopicCreated (j : Json) : Option TopicCreatedData := do
  let fields ← members ["topic_id", "group_id", "chatroom_id", "author_id", "title"] j
  let topicId ← requiredField (decodeUuid F) "topic_id" fields
  let groupId ← requiredField (decodeUuid F) "group_id" fields
  let chatroomId ← requiredField (decodeUuid F) "chatroom_id" fields
  let authorId ← requiredField (decodeUuid F) "author_id" fields
  let title ← requiredField string "title" fields
  some ⟨topicId, groupId, chatroomId, authorId, title⟩

def decodeTopicDeleted (j : Json) : Option TopicDeletedData := do
  let fields ← members ["topic_id", "topic_chatroom_id", "group_id", "deleted_at", "deleted_by", "announcement_message_id"] j
  let topicId ← requiredField (decodeUuid F) "topic_id" fields
  let topicChatroomId ← requiredField (decodeUuid F) "topic_chatroom_id" fields
  let groupId ← requiredField (decodeUuid F) "group_id" fields
  let deletedAt ← requiredField (decodeTime F) "deleted_at" fields
  let deletedBy ← requiredField (decodeUuid F) "deleted_by" fields
  let announcementMessageId ← optionalField (decodeUuid F) "announcement_message_id" fields
  some ⟨topicId, topicChatroomId, groupId, deletedAt, deletedBy, announcementMessageId⟩

/-- The four event structs: they differ in the one tag of their type and in their data. -/
structure Envelope (α : Type) where
  version : Nat
  eventId : Uuid
  conversationId : Uuid
  cursor : String
  occurredAt : Time
  data : α
  deriving DecidableEq, Repr

def decodeEnvelope {α : Type} (name : String) (decodeData : Json → Option α) (j : Json) : Option (Envelope α) := do
  let fields ← members ["version", "type", "event_id", "conversation_id", "cursor", "occurred_at", "data"] j
  let version ← requiredField (natural (2 ^ 8)) "version" fields
  let _ ← requiredField (tag name) "type" fields
  let eventId ← requiredField (decodeUuid F) "event_id" fields
  let conversationId ← requiredField (decodeUuid F) "conversation_id" fields
  let cursor ← requiredField string "cursor" fields
  let occurredAt ← requiredField (decodeTime F) "occurred_at" fields
  let data ← requiredField decodeData "data" fields
  some ⟨version, eventId, conversationId, cursor, occurredAt, data⟩

inductive RealtimeServerEvent
  | messageCreated (event : Envelope CanonicalMessage)
  | topicCreated (event : Envelope TopicCreatedData)
  | messageDeleted (event : Envelope MessageDeletedData)
  | topicDeleted (event : Envelope TopicDeletedData)
  deriving DecidableEq, Repr

def RealtimeServerEvent.decode (j : Json) : Option RealtimeServerEvent :=
  ((decodeEnvelope F "message.created" (decodeMessage F) j).map .messageCreated).or <|
  ((decodeEnvelope F "topic.created" (decodeTopicCreated F) j).map .topicCreated).or <|
  ((decodeEnvelope F "message.deleted" (decodeMessageDeleted F) j).map .messageDeleted).or <|
  (decodeEnvelope F "topic.deleted" (decodeTopicDeleted F) j).map .topicDeleted

end Decode

section RoundTrip

/-- The numbers of an attachment are of the widths of its struct. -/
structure Fits (a : MessageAttachment) : Prop where
  byteSize : a.byteSize < 2 ^ 64
  width : ∀ n, a.width = some n → n < 2 ^ 32
  height : ∀ n, a.height = some n → n < 2 ^ 32
  duration : ∀ n, a.duration = some n → n < 2 ^ 64
  position : a.position < 2 ^ 8

/-- The attachments of a message fit. -/
def PayloadFits : EventPayload → Prop
  | .messageCreated m => ∀ a ∈ m.media, Fits a
  | _ => True

@[simp] lemma decodeUuid_uuidJson (u : Uuid) : decodeUuid F (uuidJson F u) = some u := F.parse_uuid u

@[simp] lemma decodeTime_timeJson (t : Time) : decodeTime F (timeJson F t) = some t := F.parse_time t

@[simp] lemma decodeKind_kindText (kind : MessageKind) : decodeKind (.str (kindText kind)) = some kind := by
  cases kind <;> rfl

variable {F}

lemma members_obj {keys : List String} {fields : List (String × Json)} (h : known keys fields = true) :
    members keys (.obj fields) = some fields :=
  if_pos h

lemma optional_uuid {key : String} {fields : List (String × Json)} {value : Option Uuid}
    (hfield : lookup key fields = some (ofOption (uuidJson F) value)) : optionalField (decodeUuid F) key fields = some value :=
  optional_ofOption hfield (fun _ h => by cases h) fun u _ => decodeUuid_uuidJson F u

lemma optional_natural {bound : Nat} {key : String} {fields : List (String × Json)} {value : Option Nat}
    (hfield : lookup key fields = some (ofOption natJson value)) (h : ∀ n, value = some n → n < bound) :
    optionalField (natural bound) key fields = some value :=
  optional_ofOption hfield (fun _ h => by cases h) fun n hn => natural_num (h n hn)

lemma required_uuid {key : String} {fields : List (String × Json)} {u : Uuid}
    (hfield : lookup key fields = some (uuidJson F u)) : requiredField (decodeUuid F) key fields = some u :=
  required_of_lookup hfield (decodeUuid_uuidJson F u)

lemma required_time {key : String} {fields : List (String × Json)} {t : Time}
    (hfield : lookup key fields = some (timeJson F t)) : requiredField (decodeTime F) key fields = some t :=
  required_of_lookup hfield (decodeTime_timeJson F t)

lemma required_natural {bound : Nat} {key : String} {fields : List (String × Json)} {n : Nat}
    (hfield : lookup key fields = some (natJson n)) (h : n < bound) : requiredField (natural bound) key fields = some n :=
  required_of_lookup hfield (natural_num h)

lemma decodeAttachment_attachmentJson {a : MessageAttachment} (h : Fits a) :
    decodeAttachment F (attachmentJson F a) = some a := by
  have hfields : members ["id", "media_upload_id", "type", "byte_size", "width", "height", "duration", "filename", "position",
      "poster_media_id"] (attachmentJson F a) = some _ := members_obj (by simp [known])
  simp only [decodeAttachment, hfields, Option.bind_eq_bind, Option.bind_some]
  rw [required_uuid rfl, Option.bind_some, required_uuid rfl, Option.bind_some, required_string rfl, Option.bind_some,
    required_natural rfl h.byteSize, Option.bind_some, optional_natural rfl h.width, Option.bind_some,
    optional_natural rfl h.height, Option.bind_some, optional_natural rfl h.duration, Option.bind_some, optional_string rfl,
    Option.bind_some, required_natural rfl h.position, Option.bind_some, optional_uuid rfl, Option.bind_some]

lemma decodeMessage_messageJson {m : CanonicalMessage} (h : ∀ a ∈ m.media, Fits a) :
    decodeMessage F (messageJson F m) = some m := by
  have hfields : members ["id", "chatroom_id", "sender_id", "sender_nickname", "sender_avatar_url", "client_msg_id", "body",
      "type", "created_at", "media"] (messageJson F m) = some _ := members_obj (by simp [known])
  have hmedia : array (decodeAttachment F) (.arr (m.media.map (attachmentJson F))) = some m.media :=
    mapM_map m.media fun a ha => decodeAttachment_attachmentJson (h a ha)
  simp only [decodeMessage, hfields, Option.bind_eq_bind, Option.bind_some]
  rw [required_uuid rfl, Option.bind_some, required_uuid rfl, Option.bind_some, optional_uuid rfl, Option.bind_some,
    optional_string rfl, Option.bind_some, optional_string rfl, Option.bind_some, optional_uuid rfl, Option.bind_some,
    optional_string rfl, Option.bind_some, required_of_lookup rfl (decodeKind_kindText _), Option.bind_some, required_time rfl,
    Option.bind_some, required_of_lookup rfl hmedia, Option.bind_some]

lemma decodeMessageDeleted_json (d : MessageDeletedData) : decodeMessageDeleted F (messageDeletedJson F d) = some d := by
  have hfields : members ["message_id", "chatroom_id", "group_id", "deleted_at", "deleted_by", "reason"]
      (messageDeletedJson F d) = some _ := members_obj (by simp [known])
  simp only [decodeMessageDeleted, hfields, Option.bind_eq_bind, Option.bind_some]
  rw [required_uuid rfl, Option.bind_some, required_uuid rfl, Option.bind_some, required_uuid rfl, Option.bind_some,
    required_time rfl, Option.bind_some, required_uuid rfl, Option.bind_some, required_string rfl, Option.bind_some]

lemma decodeTopicCreated_json (d : TopicCreatedData) : decodeTopicCreated F (topicCreatedJson F d) = some d := by
  have hfields : members ["topic_id", "group_id", "chatroom_id", "author_id", "title"] (topicCreatedJson F d) = some _ :=
    members_obj (by simp [known])
  simp only [decodeTopicCreated, hfields, Option.bind_eq_bind, Option.bind_some]
  rw [required_uuid rfl, Option.bind_some, required_uuid rfl, Option.bind_some, required_uuid rfl, Option.bind_some,
    required_uuid rfl, Option.bind_some, required_string rfl, Option.bind_some]

lemma decodeTopicDeleted_json (d : TopicDeletedData) : decodeTopicDeleted F (topicDeletedJson F d) = some d := by
  have hfields : members ["topic_id", "topic_chatroom_id", "group_id", "deleted_at", "deleted_by", "announcement_message_id"]
      (topicDeletedJson F d) = some _ := members_obj (by simp [known])
  simp only [decodeTopicDeleted, hfields, Option.bind_eq_bind, Option.bind_some]
  rw [required_uuid rfl, Option.bind_some, required_uuid rfl, Option.bind_some, required_uuid rfl, Option.bind_some,
    required_time rfl, Option.bind_some, required_uuid rfl, Option.bind_some, optional_uuid rfl, Option.bind_some]

/-- The envelope of an event around its data. -/
def envelope {α : Type} (e : RealtimeEvent) (data : α) : Envelope α :=
  ⟨1, e.eventId, e.conversationId, toString e.cursor, e.occurredAt, data⟩

lemma decodeEnvelope_eventJson {α : Type} {name : String} {decodeData : Json → Option α} (e : RealtimeEvent) :
    decodeEnvelope F name decodeData (eventJson F e) =
      if eventType e.data = name then (decodeData (dataJson F e.data)).map (envelope e) else none := by
  have hfields : members ["version", "type", "event_id", "conversation_id", "cursor", "occurred_at", "data"]
      (eventJson F e) = some _ := members_obj (by simp [known])
  simp only [decodeEnvelope, hfields, Option.bind_eq_bind, Option.bind_some]
  rw [required_natural rfl (by decide), Option.bind_some]
  by_cases htype : eventType e.data = name
  · rw [required_of_lookup rfl (a := ()) (by simp [tag, htype]), Option.bind_some, required_uuid rfl, Option.bind_some,
      required_uuid rfl, Option.bind_some, required_string rfl, Option.bind_some, required_time rfl, Option.bind_some, if_pos htype]
    change ((some (dataJson F e.data)).bind decodeData).bind _ = _
    rw [Option.bind_some]
    cases decodeData (dataJson F e.data) <;> rfl
  · have htag : requiredField (tag name) "type" [("version", natJson 1), ("type", .str (eventType e.data)),
        ("event_id", uuidJson F e.eventId), ("conversation_id", uuidJson F e.conversationId), ("cursor", .str (toString e.cursor)),
        ("occurred_at", timeJson F e.occurredAt), ("data", dataJson F e.data)] = none := by
      change (some (Json.str (eventType e.data))).bind (tag name) = none
      simp [tag, htype]
    rw [htag, if_neg htype]
    rfl

/-- The event as it is read back. -/
def received (e : RealtimeEvent) : RealtimeServerEvent :=
  match e.data with
  | .messageCreated m => .messageCreated (envelope e m)
  | .messageDeleted d => .messageDeleted (envelope e d)
  | .topicCreated d => .topicCreated (envelope e d)
  | .topicDeleted d => .topicDeleted (envelope e d)

/-- What is written is read back as the variant of its type. -/
theorem decode_eventJson {e : RealtimeEvent} (h : PayloadFits e.data) : RealtimeServerEvent.decode F (eventJson F e) = some (received e) := by
  unfold RealtimeServerEvent.decode received
  simp only [decodeEnvelope_eventJson]
  cases hdata : e.data with
  | messageCreated m =>
    rw [hdata] at h
    simp [eventType, dataJson, decodeMessage_messageJson h]
  | messageDeleted d => simp [eventType, dataJson, decodeMessageDeleted_json]
  | topicCreated d => simp [eventType, dataJson, decodeTopicCreated_json]
  | topicDeleted d => simp [eventType, dataJson, decodeTopicDeleted_json]

end RoundTrip

section Plain

/-- The number behind a fixed beginning. -/
def parseAfter (beginning text : List Char) : Option Nat :=
  if beginning.isPrefixOf text then
    let digits := text.drop beginning.length
    if digits.all Char.isDigit && !digits.isEmpty then some (Nat.ofDigitChars 10 digits 0) else none
  else none

lemma parseAfter_append (beginning : List Char) (n : Nat) : parseAfter beginning (beginning ++ Nat.toDigits 10 n) = some n := by
  have hbegins : beginning.isPrefixOf (beginning ++ Nat.toDigits 10 n) = true :=
    List.isPrefixOf_iff_prefix.mpr (List.prefix_append ..)
  have hdigits : ∀ c ∈ Nat.toDigits 10 n, c.isDigit = true := fun c hc =>
    Nat.isDigit_of_mem_toDigits (by decide) (by decide) hc
  have hne : Nat.toDigits 10 n ≠ [] := Nat.toDigits_ne_nil
  simp only [parseAfter, hbegins, if_true, List.drop_left]
  rw [if_pos (by simpa [List.all_eq_true, hne] using hdigits), Nat.ofDigitChars_toDigits (by decide) (by decide)]

def uuidBeginning : List Char := "00000000-0000-0000-0000-00000000000".toList

def timeBeginning : List Char := "1970-01-01T00:00:0".toList

/-- The ids and the seconds with one digit, as they are printed. -/
def plainFormats : Formats where
  uuid u := String.ofList (uuidBeginning ++ Nat.toDigits 10 u)
  parseUuid text := parseAfter uuidBeginning text.toList
  time t := String.ofList (timeBeginning ++ Nat.toDigits 10 t ++ ['Z'])
  parseTime text := if text.toList.getLast? = some 'Z' then parseAfter timeBeginning text.toList.dropLast else none
  parse_uuid u := by rw [String.toList_ofList, parseAfter_append]
  parse_time t := by
    rw [String.toList_ofList, if_pos List.getLast?_concat, List.dropLast_concat, parseAfter_append]
  uuid_hyphen u := by
    rw [String.toList_ofList]
    exact List.mem_append_left _ (by decide)
  uuid_colon u := by
    rw [String.toList_ofList, List.mem_append, not_or]
    refine ⟨by decide, fun h => ?_⟩
    exact absurd (Nat.isDigit_of_mem_toDigits (by decide) (by decide) h) (by decide)
  time_colon t := by
    rw [String.toList_ofList, List.append_assoc]
    exact List.mem_append_left _ (by decide)

end Plain

end JamyeServer.Wire
