import JamyeServer.Postgres.Lists

/-!
# What the lists answer

For each list: what it shows a reader, the place of its items in the order, and the page that it answers to a cursor.
-/

namespace JamyeServer.Pagination

open ReadCommitted Keyset Postgres Postgres.Rooms Postgres.Topics Postgres.Lists

/-- What the constraints of `migrations/` say of the rows. -/
structure Checks (s : Store Row) : Prop where
  chatroom : ∀ i c, s.get (.chatrooms i) = some c → (c.type = .topic ↔ c.topicId.isSome = true)
  message : ∀ i m, s.get (.messages i) = some m → (m.type = .user ↔ m.senderId.isSome = true) ∧
    (m.type = .user ↔ m.clientMsgId.isSome = true)
  sender : ∀ i m u, s.get (.messages i) = some m → m.senderId = some u → (s.get (.users u)).isSome = true
  media : ∀ i r, s.get (.messageMedia i) = some r → r.byteSize ≠ 0 ∧ r.width ≠ some 0 ∧ r.height ≠ some 0 ∧
    r.duration ≠ some 0 ∧ r.position ≤ 3
  position : ∀ i j r r', s.get (.messageMedia i) = some r → s.get (.messageMedia j) = some r' →
    r.messageId = r'.messageId → r.position = r'.position → i = j
  sourceCursor : ∀ i n, s.get (.notifications i) = some n → n.sourceCursor ≠ some 0

/-- The attachments of a message are bound in the order of their positions, and all go when their message goes. -/
structure Constraints (s : Store Row) : Prop extends Checks s where
  attachments : ∀ i, (messageMediaRows s i).map (fun row => row.media.position) = List.range (messageMediaRows s i).length

variable {s : Store Row}

lemma oldest_id {t t' : Time} {i i' : Uuid} (h : oldest t i = oldest t' i') : i = i' := by
  exact congrArg (fun k => (ofLex k).2) h

lemma newest_id {t t' : Time} {i i' : Uuid} (h : newest t i = newest t' i') : i = i' := by
  exact congrArg (fun k => (ofLex (OrderDual.ofDual k)).2) h

lemma rowAfter_iff {κ α : Type} [LinearOrder κ] {key : α → κ} {cursor : Option (Option κ)} {rows : List α} :
    ∀ place, cursor = some (some place) → ∀ a ∈ rows, (rowAfter key place a = true ↔ place < key a) :=
  fun _ _ _ _ => by simp [rowAfter]

/-- A list that tests its cursor: it is refused, or the page holds what comes after it. -/
lemma checkedPage_eq {κ α β : Type} [LinearOrder κ] {key : α → κ} {after : κ → α → Bool} {key' : β → κ}
    {convert : α → Except ListError β} {f : α → β} {rows : List α} (cursor : Option (Option κ)) (hkeys : (rows.map key).Nodup)
    (hafter : ∀ place, cursor = some (some place) → ∀ a ∈ rows, (after place a = true ↔ place < key a))
    (hconvert : ∀ a ∈ rows, convert a = .ok (f a)) (hkey : ∀ a, key' (f a) = key a) (limit : Nat) (id : β → Uuid) :
    (do
      requireAccess true (cursor.all Option.isSome)
      let items ← (if cursor.all Option.isSome then fetch key after cursor limit rows else []).mapM convert
      pure (cut limit id items)) =
      if cursor.all Option.isSome then .ok (cut limit id (rest key' cursor (rows.map f))) else .error .cursorInvalid := by
  have hpage := page_eq hkeys hafter hconvert hkey limit id
  rcases cursor with _ | _ | place
  · exact hpage
  · rfl
  · exact hpage

section Chatrooms

def chatroomRecord (row : ChatroomRow) : ChatroomRecord := ⟨row.1, row.2.groupId, row.2.type, row.2.topicId, row.2.createdAt⟩

def chatroomPlace (record : ChatroomRecord) : Oldest := oldest record.createdAt record.id

def visibleChatrooms (s : Store Row) (groupId : Uuid) : List ChatroomRecord := (chatroomRows s groupId).map chatroomRecord

lemma mem_chatroomRows {groupId : Uuid} {row : ChatroomRow} (h : row ∈ chatroomRows s groupId) :
    s.get (.chatrooms row.1) = some row.2 ∧ row.2.groupId = groupId ∧ row.2.deletedAt = none := by
  obtain ⟨i, c, hc, hrow⟩ := Store.mem_scan.mp h
  split_ifs at hrow with hp
  cases hrow
  exact ⟨hc, hp.1, hp.2.1⟩

lemma chatroomRows_keys (groupId : Uuid) : ((chatroomRows s groupId).map chatroomKey).Nodup := by
  refine Store.nodup_scan s _ fun i r a i' r' a' _ ha _ ha' hk => ?_
  split_ifs at ha with hp
  split_ifs at ha' with hp'
  cases ha
  cases ha'
  exact oldest_id hk

lemma chatroomFromAccessRow_ok (hs : Constraints s) {groupId : Uuid} {row : ChatroomRow} (h : row ∈ chatroomRows s groupId) :
    chatroomFromAccessRow row = .ok (chatroomRecord row) := by
  have hshape := hs.chatroom _ _ (mem_chatroomRows h).1
  unfold chatroomFromAccessRow
  cases ht : row.2.type <;> cases hi : row.2.topicId <;> simp_all [chatroomRecord]

/-- A cursor that names no live room of the group is refused. -/
theorem listChatrooms_eq (hs : Constraints s) (query : ListChatroomsQuery)
    (hmember : activeMember s query.groupId query.userId = true) :
    listChatrooms s query =
      if (query.after.map (cursorChatroom s query.groupId)).all Option.isSome then
        .ok (cut query.limit ChatroomRecord.id
        (rest chatroomPlace (query.after.map (cursorChatroom s query.groupId)) (visibleChatrooms s query.groupId)))
      else .error .cursorInvalid := by
  unfold listChatrooms
  simp only [hmember, Bool.true_and]
  exact checkedPage_eq _ (chatroomRows_keys query.groupId) rowAfter_iff (fun _ h => chatroomFromAccessRow_ok hs h)
    (fun _ => rfl) query.limit ChatroomRecord.id

end Chatrooms

section Members

lemma memberRows_keys (groupId : Uuid) : ((memberRows s groupId).map memberKey).Nodup := by
  refine Store.nodup_scan s _ fun i r a i' r' a' _ ha _ ha' hk => ?_
  split_ifs at ha with hp
  split_ifs at ha' with hp'
  obtain ⟨u, -, rfl⟩ := Option.map_eq_some_iff.mp ha
  obtain ⟨u', -, rfl⟩ := Option.map_eq_some_iff.mp ha'
  exact oldest_id (congrArg (fun k => (ofLex k).2) hk)

lemma groupLive_of_activeMember {groupId userId : Uuid} (h : activeMember s groupId userId = true) : groupLive s groupId = true :=
  (Bool.and_eq_true_iff.mp h).1

/-- A cursor that names no live membership of the group is answered with an empty page. -/
theorem listMembers_eq (query : ListMembersQuery) (hmember : activeMember s query.groupId query.actorId = true) :
    listMembers s query = .ok (cut query.limit MemberRecord.membershipId
      (rest memberKey (query.after.map (cursorMembership s query.groupId)) (memberRows s query.groupId))) := by
  have hlive := groupLive_of_activeMember hmember
  simp only [listMembers, hlive, hmember]
  exact congrArg Except.ok (cut_fetch (memberRows_keys _) rowAfter_iff _ _)

end Members

section Groups

lemma groupRows_keys (userId : Uuid) : ((groupRows s userId).map groupKey).Nodup := by
  refine Store.nodup_scan s _ fun i r a i' r' a' _ ha _ ha' hk => ?_
  split_ifs at ha with hp
  split_ifs at ha' with hp'
  obtain ⟨m, -, rfl⟩ := Option.map_eq_some_iff.mp ha
  obtain ⟨m', -, rfl⟩ := Option.map_eq_some_iff.mp ha'
  exact oldest_id hk

theorem listGroups_eq (query : ListGroupsQuery) :
    listGroups s query = .ok (cut query.limit GroupRecord.id
      (rest groupKey (query.after.map (cursorGroup s query.userId)) (groupRows s query.userId))) :=
  congrArg _ (cut_fetch (groupRows_keys _) rowAfter_iff _ _)

end Groups

section Topics

lemma topicRecord_id {topicId actorId : Uuid} {record : TopicRecord} (h : topicRecord s topicId actorId = some record) :
    record.id = topicId := by
  simp only [topicRecord, Option.bind_eq_bind, Option.bind_eq_some_iff, Option.some.injEq] at h
  obtain ⟨-, -, -, -, -, -, rfl⟩ := h
  rfl

lemma topicRows_keys (dateOf : Time → Nat) (groupId actorId : Uuid) (date : Option Nat) :
    ((topicRows dateOf s groupId actorId date).map topicKey).Nodup := by
  refine Store.nodup_scan s _ fun i r a i' r' a' _ ha _ ha' hk => ?_
  split_ifs at ha with hp
  split_ifs at ha' with hp'
  rw [← topicRecord_id ha, ← topicRecord_id ha']
  exact newest_id hk

theorem listTopicPage_eq {dateOf : Time → Nat} (query : ListTopicsQuery)
    (haccess : topicAccess s query.groupId query.actorId = .ok ()) :
    listTopicPage dateOf s query = .ok (cut query.limit TopicRecord.id
      (rest topicKey (query.after.map (cursorTopic s query.groupId))
        (topicRows dateOf s query.groupId query.actorId query.date))) := by
  simp only [listTopicPage, haccess]
  exact congrArg _ (cut_fetch (topicRows_keys ..) rowAfter_iff _ _)

lemma tagRows_keys {C : Type} (collation : String → C) (topicId : Uuid) :
    ((tagRows s topicId).map (tagKey collation)).Nodup := by
  refine Store.nodup_scan s _ fun i r a i' r' a' _ ha _ ha' hk => ?_
  split_ifs at ha with hp
  split_ifs at ha' with hp'
  cases ha
  cases ha'
  exact congrArg (fun k => (ofLex k).2) hk

/-- The topic that the tags belong to is a live topic of the group. -/
def topicFound (s : Store Row) (groupId topicId : Uuid) : Bool :=
  (s.get (.topics topicId)).any fun t => decide (t.groupId = groupId) && t.deletedAt.isNone

theorem listTags_eq {C : Type} [LinearOrder C] {collation : String → C} (query : ListTopicTagsQuery)
    (haccess : topicAccess s query.groupId query.actorId = .ok ())
    (htopic : topicFound s query.groupId query.topicId = true) :
    listTags collation s query = .ok (cut query.limit TopicTagRecord.id
      (rest (tagKey collation) (query.after.map (cursorTag collation s query.topicId)) (tagRows s query.topicId))) := by
  unfold topicFound at htopic
  simp only [listTags, haccess, htopic]
  exact congrArg _ (cut_fetch (tagRows_keys _ _) rowAfter_iff _ _)

end Topics

section Media

/-- The attachment that a row is. -/
def attachment (row : MessageMediaRow) : MessageAttachment :=
  ⟨row.id, row.media.mediaUploadId, row.media.contentType, row.media.byteSize, row.media.width, row.media.height,
    row.media.duration, row.media.filename, row.media.position, row.posterUploadId⟩

lemma positiveOptional_ok {value : Option Nat} (h : value ≠ some 0) : positiveOptional value = .ok value := by
  rcases value with _ | _ | n
  · rfl
  · simp at h
  · rfl

lemma messageAttachmentFromRow_ok (hs : Constraints s) {row : MessageMediaRow}
    (h : s.get (.messageMedia row.id) = some row.media) : messageAttachmentFromRow row = .ok (attachment row) := by
  obtain ⟨hsize, hwidth, hheight, hduration, hposition⟩ := hs.media _ _ h
  have hsmall : ¬ 256 ≤ row.media.position := by omega
  simp only [messageAttachmentFromRow, positive, hsize, positiveOptional_ok hwidth, positiveOptional_ok hheight,
    positiveOptional_ok hduration, hsmall, if_false]
  rfl

end Media

section MessageHistory

/-- The record before its attachments are read. -/
def bareRecord (row : MessageRow) : MessageHistoryRecord :=
  ⟨{ id := row.id, chatroomId := row.message.chatroomId, senderId := row.message.senderId,
     senderNickname := row.sender.map displayName, senderAvatarUrl := row.sender.bind displayAvatarUrl,
     clientMsgId := row.message.clientMsgId, body := row.message.body, messageType := row.message.type,
     createdAt := row.message.createdAt, media := [] },
    row.sender.map displayName, row.sender.bind displayAvatarUrl⟩

/-- The record with its attachments. -/
def hydrated (s : Store Row) (record : MessageHistoryRecord) : MessageHistoryRecord :=
  { record with message := { record.message with media := (messageMediaRows s record.message.id).map attachment } }

def messagePlace (record : MessageHistoryRecord) : Newest := newest record.message.createdAt record.message.id

def visibleMessages (s : Store Row) (chatroomId : Uuid) : List MessageHistoryRecord :=
  ((messageRows s chatroomId).map bareRecord).map (hydrated s)

lemma mem_messageRows {chatroomId : Uuid} {row : MessageRow} (h : row ∈ messageRows s chatroomId) :
    s.get (.messages row.id) = some row.message ∧ row.message.chatroomId = chatroomId ∧ row.message.deletedAt = none ∧
      row.sender = row.message.senderId.bind fun u => s.get (.users u) := by
  obtain ⟨i, m, hm, hrow⟩ := Store.mem_scan.mp h
  split_ifs at hrow with hp
  cases hrow
  exact ⟨hm, hp.1, hp.2.1, rfl⟩

lemma messageRows_keys (chatroomId : Uuid) : ((messageRows s chatroomId).map messageKey).Nodup := by
  refine Store.nodup_scan s _ fun i r a i' r' a' _ ha _ ha' hk => ?_
  split_ifs at ha with hp
  split_ifs at ha' with hp'
  cases ha
  cases ha'
  exact newest_id hk

lemma messageFromAccessRow_ok (hs : Constraints s) {chatroomId : Uuid} {row : MessageRow}
    (h : row ∈ messageRows s chatroomId) : messageFromAccessRow row = .ok (bareRecord row) := by
  obtain ⟨hm, -, -, hsender⟩ := mem_messageRows h
  obtain ⟨hid, hclient⟩ := hs.message _ _ hm
  cases htype : row.message.type with
  | user =>
    rw [htype] at hid hclient
    obtain ⟨u, hu⟩ := Option.isSome_iff_exists.mp (hid.mp rfl)
    have hclient' := hclient.mp rfl
    obtain ⟨user, huser⟩ := Option.isSome_iff_exists.mp (hs.sender _ _ u hm hu)
    have hrow : row.sender = some user := by simp [hsender, hu, huser]
    simp [messageFromAccessRow, bareRecord, htype, hu, hrow, Option.isNone_iff_eq_none, Option.isSome_iff_ne_none.mp hclient']
  | system =>
    rw [htype] at hid hclient
    have hu : row.message.senderId = none := by simpa using hid
    have hc : row.message.clientMsgId = none := by simpa using hclient
    have hrow : row.sender = none := by simp [hsender, hu]
    simp [messageFromAccessRow, bareRecord, htype, hu, hc, hrow]

lemma mem_messageMediaRows {messageId : Uuid} {row : MessageMediaRow} (h : row ∈ messageMediaRows s messageId) :
    s.get (.messageMedia row.id) = some row.media := by
  obtain ⟨i, r, hr, hrow⟩ := Store.mem_scan.mp (mem_sorted.mp h)
  split_ifs at hrow with hp
  obtain ⟨u, -, rfl⟩ := Option.map_eq_some_iff.mp hrow
  exact hr

/-- A state without attachments. -/
lemma Constraints.of_no_media
    (hchatroom : ∀ i c, s.get (.chatrooms i) = some c → (c.type = .topic ↔ c.topicId.isSome = true))
    (hmessage : ∀ i m, s.get (.messages i) = some m →
      (m.type = .user ↔ m.senderId.isSome = true) ∧ (m.type = .user ↔ m.clientMsgId.isSome = true))
    (hsender : ∀ i m u, s.get (.messages i) = some m → m.senderId = some u → (s.get (.users u)).isSome = true)
    (hmedia : ∀ i, s.get (.messageMedia i) = none) (hnotifications : ∀ i, s.get (.notifications i) = none) :
    Constraints s := by
  have hrows : ∀ i, messageMediaRows s i = [] := by
    intro i
    refine List.eq_nil_iff_forall_not_mem.mpr fun row hrow => ?_
    have hget := mem_messageMediaRows hrow
    rw [hmedia] at hget
    cases hget
  refine ⟨⟨hchatroom, hmessage, hsender, fun i r h => ?_, fun i j r r' h => ?_, fun i n h => ?_⟩, fun i => ?_⟩
  · rw [hmedia] at h
    cases h
  · rw [hmedia] at h
    cases h
  · rw [hnotifications] at h
    cases h
  · simp [hrows]

lemma hydrateMessageMedia_ok (hs : Constraints s) (record : MessageHistoryRecord) :
    hydrateMessageMedia s record = .ok (hydrated s record) := by
  have hmedia : (messageMediaRows s record.message.id).mapM messageAttachmentFromRow =
      .ok ((messageMediaRows s record.message.id).map attachment) :=
    mapM_ok fun a ha => messageAttachmentFromRow_ok hs (mem_messageMediaRows ha)
  have hposition : inPosition ((messageMediaRows s record.message.id).map attachment) = true := by
    have h := hs.attachments record.message.id
    simpa [inPosition, attachment, Function.comp_def] using h
  unfold hydrateMessageMedia
  rw [hmedia]
  simp only [bind, Except.bind, hposition]
  rfl

/-- A cursor that names no live message of the room is refused. -/
theorem messagesBefore_eq (hs : Constraints s) (query : MessageHistoryQuery)
    (hmember : accesses s query.chatroomId query.userId ≠ []) :
    messagesBefore s query =
      if (query.before.map (cursorMessage s query.chatroomId)).all Option.isSome then
        .ok (cut query.limit MessageHistoryRecord.id
        (rest messagePlace (query.before.map (cursorMessage s query.chatroomId)) (visibleMessages s query.chatroomId)))
      else .error .cursorInvalid := by
  have hm : (!(accesses s query.chatroomId query.userId).isEmpty) = true := by simpa using hmember
  have hread := checkedPage_eq (query.before.map (cursorMessage s query.chatroomId)) (messageRows_keys query.chatroomId)
    rowAfter_iff (fun _ h => messageFromAccessRow_ok hs h)
    (fun _ => rfl : ∀ row, messagePlace (bareRecord row) = messageKey row) query.limit MessageHistoryRecord.id
  calc messagesBefore s query
      = (do
          requireAccess true ((query.before.map (cursorMessage s query.chatroomId)).all Option.isSome)
          let items ← (if (query.before.map (cursorMessage s query.chatroomId)).all Option.isSome then
            fetch messageKey (rowAfter messageKey) (query.before.map (cursorMessage s query.chatroomId)) query.limit
              (messageRows s query.chatroomId) else []).mapM messageFromAccessRow
          pure (cut query.limit MessageHistoryRecord.id items)) >>= (fun page => do
            let items ← page.items.mapM (hydrateMessageMedia s)
            pure ⟨items, page.nextCursor⟩) := by
        simp only [messagesBefore, hm, Bool.true_and, bind_assoc, pure_bind]
    _ = _ := by
        rw [hread]
        split
        · rw [visibleMessages, rest_map (fun _ => rfl : ∀ record, messagePlace (hydrated s record) = messagePlace record), cut_map]
          change ((cut query.limit MessageHistoryRecord.id _).items.mapM (hydrateMessageMedia s) >>= fun items => _) = _
          rw [mapM_ok fun a _ => hydrateMessageMedia_ok hs a]
          rfl
        · rfl

end MessageHistory

section ChatroomMedia

/-- An attachment as the gallery shows it. -/
def chatroomMediaItem (row : ChatroomMediaRow) : ChatroomMediaItem :=
  ⟨attachment row.row, row.row.media.messageId, row.messageCreatedAt⟩

def chatroomMediaPlace (item : ChatroomMediaItem) : MediaPlace :=
  mediaPlace item.messageCreatedAt item.messageId item.attachment.position

def visibleMedia (s : Store Row) (chatroomId : Uuid) : List ChatroomMediaItem :=
  (chatroomMediaRows s chatroomId).map chatroomMediaItem

lemma mem_chatroomMediaRows {chatroomId : Uuid} {row : ChatroomMediaRow} (h : row ∈ chatroomMediaRows s chatroomId) :
    s.get (.messageMedia row.row.id) = some row.row.media ∧ row.row.media.deletedAt = none ∧
      isVisual row.row.media.contentType = true ∧ ∃ message, s.get (.messages row.row.media.messageId) = some message ∧
        message.chatroomId = chatroomId ∧ message.deletedAt = none ∧ message.createdAt = row.messageCreatedAt := by
  obtain ⟨i, r, hr, hrow⟩ := Store.mem_scan.mp h
  simp only [Option.bind_eq_bind, Option.bind_eq_some_iff, Option.filter_eq_some_iff] at hrow
  obtain ⟨message, ⟨hm, hlive⟩, -, -, upload, -, hrow⟩ := hrow
  split_ifs at hrow with hp
  cases hrow
  simp only [Bool.and_eq_true, decide_eq_true_eq, Option.isNone_iff_eq_none] at hlive
  exact ⟨hr, hp.1, hp.2, message, hm, hlive.1, hlive.2, rfl⟩

/-- Two attachments of one message have different positions. -/
lemma chatroomMediaRows_keys (hs : Constraints s) (chatroomId : Uuid) : ((chatroomMediaRows s chatroomId).map mediaKey).Nodup := by
  refine Store.nodup_scan s _ fun i r a i' r' a' hr ha hr' ha' hk => ?_
  simp only [Option.bind_eq_bind, Option.bind_eq_some_iff] at ha ha'
  obtain ⟨_, _, _, _, _, _, ha⟩ := ha
  obtain ⟨_, _, _, _, _, _, ha'⟩ := ha'
  split_ifs at ha with hp
  split_ifs at ha' with hp'
  cases ha
  cases ha'
  have hmessage : r.messageId = r'.messageId := newest_id (congrArg (fun k => (ofLex k).1) hk)
  have hposition : r.position = r'.position := congrArg (fun k => (ofLex k).2) hk
  exact hs.position i i' r r' hr hr' hmessage hposition

/-- The comparison of the statement is the order of the list, because a message has one time. -/
lemma mediaAfter_iff {chatroomId cursor : Uuid} {item : Time × Uuid × Nat} (hcursor : cursorItem s chatroomId cursor = some item)
    {row : ChatroomMediaRow} (h : row ∈ chatroomMediaRows s chatroomId) :
    mediaAfter (mediaPlace item.1 item.2.1 item.2.2) row = true ↔ mediaPlace item.1 item.2.1 item.2.2 < mediaKey row := by
  obtain ⟨-, -, -, message, hm, -, -, htime⟩ := mem_chatroomMediaRows h
  simp only [cursorItem, Option.bind_eq_bind, Option.bind_eq_some_iff, Option.filter_eq_some_iff, Option.some.injEq] at hcursor
  obtain ⟨media, -, message', ⟨hm', -⟩, rfl⟩ := hcursor
  have hsame : row.row.media.messageId = media.messageId →
      newest message'.createdAt media.messageId = newest row.messageCreatedAt row.row.media.messageId := by
    intro hid
    rw [hid, hm'] at hm
    cases hm
    rw [hid, htime]
  rw [mediaKey, mediaPlace, mediaPlace, Prod.Lex.toLex_lt_toLex]
  simp only [mediaAfter, Bool.or_eq_true, Bool.and_eq_true, decide_eq_true_eq]
  refine or_congr Iff.rfl (and_congr_left fun _ => ⟨hsame, fun heq => ?_⟩)
  exact (newest_id heq).symm

lemma chatroomMediaFromAccessRow_ok (hs : Constraints s) {chatroomId : Uuid} {row : ChatroomMediaRow}
    (h : row ∈ chatroomMediaRows s chatroomId) : chatroomMediaFromAccessRow row = .ok (chatroomMediaItem row) := by
  unfold chatroomMediaFromAccessRow
  rw [messageAttachmentFromRow_ok hs (mem_chatroomMediaRows h).1]
  rfl

def cursorMedia (s : Store Row) (chatroomId cursor : Uuid) : Option MediaPlace :=
  (cursorItem s chatroomId cursor).map fun item => mediaPlace item.1 item.2.1 item.2.2

/-- A cursor that names no live attachment of a live message of the room is refused. -/
theorem chatroomMedia_eq (hs : Constraints s) (query : ChatroomMediaQuery)
    (hmember : accesses s query.chatroomId query.userId ≠ []) :
    chatroomMedia s query =
      if (query.before.map (cursorMedia s query.chatroomId)).all Option.isSome then
        .ok (cut query.limit ChatroomMediaItem.id
        (rest chatroomMediaPlace (query.before.map (cursorMedia s query.chatroomId)) (visibleMedia s query.chatroomId)))
      else .error .cursorInvalid := by
  have hm : (!(accesses s query.chatroomId query.userId).isEmpty) = true := by simpa using hmember
  unfold chatroomMedia
  simp only [hm, Bool.true_and]
  refine checkedPage_eq _ (chatroomMediaRows_keys hs query.chatroomId) ?_ (fun _ h => chatroomMediaFromAccessRow_ok hs h)
    (fun _ => rfl) query.limit ChatroomMediaItem.id
  intro place hplace row hrow
  obtain ⟨c, -, hc⟩ := Option.map_eq_some_iff.mp hplace
  obtain ⟨item, hitem, rfl⟩ := Option.map_eq_some_iff.mp hc
  exact mediaAfter_iff hitem hrow

end ChatroomMedia

section Notifications

/-- A notification as the list shows it. -/
def notificationRecord (row : NotificationRow) : NotificationRecord :=
  ⟨row.id, row.notification.type, notificationArgs row.notification.payload row.sourceUserDeleted, row.notification.topicId,
    row.notification.conversationId, row.notification.sourceCursor, row.notification.readAt, row.notification.createdAt⟩

def notificationPlace (record : NotificationRecord) : Newest := newest record.createdAt record.id

def visibleNotifications (s : Store Row) (userId : Uuid) : List NotificationRecord :=
  (notificationRows s userId).map notificationRecord

lemma mem_notificationRows {userId : Uuid} {row : NotificationRow} (h : row ∈ notificationRows s userId) :
    s.get (.notifications row.id) = some row.notification ∧ row.notification.userId = userId ∧
      row.notification.deletedAt = none := by
  obtain ⟨i, n, hn, hrow⟩ := Store.mem_scan.mp h
  split_ifs at hrow with hp
  cases hrow
  exact ⟨hn, hp.1, hp.2.1⟩

lemma notificationRows_keys (userId : Uuid) : ((notificationRows s userId).map notificationKey).Nodup := by
  refine Store.nodup_scan s _ fun i r a i' r' a' _ ha _ ha' hk => ?_
  split_ifs at ha with hp
  split_ifs at ha' with hp'
  cases ha
  cases ha'
  exact newest_id hk

lemma notificationFromRow_ok (hs : Constraints s) {userId : Uuid} {row : NotificationRow} (h : row ∈ notificationRows s userId) :
    notificationFromRow row = .ok (notificationRecord row) := by
  have hcursor := hs.sourceCursor _ _ (mem_notificationRows h).1
  have hno : row.notification.sourceCursor.any (fun cursor => decide (cursor = 0)) = false := by
    cases hc : row.notification.sourceCursor with
    | none => rfl
    | some cursor =>
      rw [hc] at hcursor
      simpa using hcursor
  simp [notificationFromRow, hno, notificationRecord]

/-- A cursor that names no live notification of the user is refused. -/
theorem listNotifications_eq (hs : Constraints s) (query : ListNotificationsQuery) :
    listNotifications s query =
      if (query.after.map (cursorNotification s query.userId)).all Option.isSome then
        .ok (cut query.limit NotificationRecord.id
        (rest notificationPlace (query.after.map (cursorNotification s query.userId)) (visibleNotifications s query.userId)),
        unreadCount s query.userId)
      else .error .cursorInvalid := by
  have hpage : ∀ cursor, (do
      let items ← (fetch notificationKey (rowAfter notificationKey) cursor query.limit
        (notificationRows s query.userId)).mapM notificationFromRow
      pure (cut query.limit NotificationRecord.id items)) =
        .ok (cut query.limit NotificationRecord.id (rest notificationPlace cursor (visibleNotifications s query.userId))) :=
    fun cursor => page_eq (notificationRows_keys query.userId) rowAfter_iff (fun _ h => notificationFromRow_ok hs h)
      (fun _ => rfl) query.limit NotificationRecord.id
  unfold listNotifications
  generalize query.after.map (cursorNotification s query.userId) = cursor
  have hread := congrArg (fun page => page >>= fun p => pure (p, unreadCount s query.userId)) (hpage cursor)
  simp only [bind_assoc, pure_bind] at hread
  rcases cursor with _ | _ | place
  · exact hread
  · rfl
  · exact hread

end Notifications

end JamyeServer.Pagination
