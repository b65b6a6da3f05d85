import JamyeServer.Pagination.Answers

/-!
# The lists are read completely

A client that follows the cursors of the chatrooms, the members, the message history, the media gallery or the
notifications reads every item that it may see once and in order, whatever the limit. The history stays complete
while messages are sent.
-/

namespace JamyeServer.Pagination

open ReadCommitted Keyset Postgres Postgres.Rooms Postgres.Topics Postgres.Lists

section Lists

variable {s : Store Row}

lemma chatroom_pages (groupId userId : Uuid) (limit : Nat) :
    Pages (fun s after => listChatrooms s ⟨groupId, userId, after, limit⟩)
      (fun s => Constraints s ∧ activeMember s groupId userId = true) (fun s => visibleChatrooms s groupId) chatroomPlace
      ChatroomRecord.id limit where
  keys s _ := by
    rw [visibleChatrooms, List.map_map]
    exact chatroomRows_keys groupId
  first s hs := listChatrooms_eq hs.1 _ hs.2
  next s hs a ha := by
    obtain ⟨row, hrow, rfl⟩ := List.mem_map.mp ha
    obtain ⟨hget, hgroup, hlive⟩ := mem_chatroomRows hrow
    have hcursor : cursorChatroom s groupId row.1 = some (chatroomPlace (chatroomRecord row)) := by
      simp [cursorChatroom, hget, hgroup, hlive, Option.filter, chatroomKey, chatroomPlace, chatroomRecord]
    refine (listChatrooms_eq hs.1 _ hs.2).trans ?_
    rw [Option.map_some, show cursorChatroom s groupId (chatroomRecord row).id = _ from hcursor]
    rfl

lemma member_pages (groupId actorId : Uuid) (limit : Nat) :
    Pages (fun s after => listMembers s ⟨groupId, actorId, after, limit⟩)
      (fun s => activeMember s groupId actorId = true) (fun s => memberRows s groupId) memberKey
      MemberRecord.membershipId limit where
  keys s _ := memberRows_keys groupId
  first s hs := listMembers_eq _ hs
  next s hs a ha := by
    obtain ⟨i, m, hm, hrow⟩ := Store.mem_scan.mp ha
    split_ifs at hrow with hp
    obtain ⟨u, -, rfl⟩ := Option.map_eq_some_iff.mp hrow
    have hget : s.get (.memberships i) = some m := hm
    have hcursor : cursorMembership s groupId i = some (memberPlace i m) := by
      simp [cursorMembership, hget, hp.1, hp.2, Option.filter]
    refine (listMembers_eq _ hs).trans ?_
    rw [Option.map_some, hcursor]
    rfl

lemma message_pages (chatroomId userId : Uuid) (limit : Nat) :
    Pages (fun s before => messagesBefore s ⟨chatroomId, userId, before, limit⟩)
      (fun s => Constraints s ∧ accesses s chatroomId userId ≠ []) (fun s => visibleMessages s chatroomId) messagePlace
      MessageHistoryRecord.id limit where
  keys s _ := by
    rw [visibleMessages, List.map_map, List.map_map]
    exact messageRows_keys chatroomId
  first s hs := messagesBefore_eq hs.1 _ hs.2
  next s hs a ha := by
    obtain ⟨bare, hbare, rfl⟩ := List.mem_map.mp ha
    obtain ⟨row, hrow, rfl⟩ := List.mem_map.mp hbare
    obtain ⟨hget, hroom, hlive, -⟩ := mem_messageRows hrow
    have hcursor : cursorMessage s chatroomId row.id = some (messagePlace (hydrated s (bareRecord row))) := by
      simp [cursorMessage, hget, hroom, hlive, Option.filter, messagePlace, hydrated, bareRecord]
    refine (messagesBefore_eq hs.1 _ hs.2).trans ?_
    rw [Option.map_some, show cursorMessage s chatroomId (hydrated s (bareRecord row)).id = _ from hcursor]
    rfl

lemma media_pages (chatroomId userId : Uuid) (limit : Nat) :
    Pages (fun s before => chatroomMedia s ⟨chatroomId, userId, before, limit⟩)
      (fun s => Constraints s ∧ accesses s chatroomId userId ≠ []) (fun s => visibleMedia s chatroomId) chatroomMediaPlace
      ChatroomMediaItem.id limit where
  keys s hs := by
    rw [visibleMedia, List.map_map]
    exact chatroomMediaRows_keys hs.1 chatroomId
  first s hs := chatroomMedia_eq hs.1 _ hs.2
  next s hs a ha := by
    obtain ⟨row, hrow, rfl⟩ := List.mem_map.mp ha
    obtain ⟨hget, hlive, hvisual, message, hm, hroom, hmlive, htime⟩ := mem_chatroomMediaRows hrow
    have hcursor : cursorMedia s chatroomId row.row.id = some (chatroomMediaPlace (chatroomMediaItem row)) := by
      simp [cursorMedia, cursorItem, hget, hlive, hvisual, hm, hroom, hmlive, htime, Option.filter, chatroomMediaPlace,
        chatroomMediaItem, attachment]
    refine (chatroomMedia_eq hs.1 _ hs.2).trans ?_
    rw [Option.map_some, show cursorMedia s chatroomId (chatroomMediaItem row).id = _ from hcursor]
    rfl

lemma notification_pages (userId : Uuid) (limit : Nat) :
    Pages (fun s after => (listNotifications s ⟨userId, after, limit⟩).map Prod.fst) Constraints
      (fun s => visibleNotifications s userId) notificationPlace NotificationRecord.id limit where
  keys s _ := by
    rw [visibleNotifications, List.map_map]
    exact notificationRows_keys userId
  first s hs := by rw [listNotifications_eq hs]; rfl
  next s hs a ha := by
    obtain ⟨row, hrow, rfl⟩ := List.mem_map.mp ha
    obtain ⟨hget, huser, hlive⟩ := mem_notificationRows hrow
    have hcursor : cursorNotification s userId row.id = some (notificationPlace (notificationRecord row)) := by
      simp [cursorNotification, hget, huser, hlive, Option.filter, notificationPlace, notificationRecord]
    rw [listNotifications_eq hs, Option.map_some, show cursorNotification s userId (notificationRecord row).id = _ from hcursor]
    rfl

end Lists

section Sending

/-- Between the two states only messages were sent: they come with attachments of their own, and what the messages
that were there show is as before. -/
structure MessagesSent (s s' : Store Row) : Prop where
  constraints : Constraints s'
  chatrooms : Store.Same Tables.chatrooms s s'
  groups : Store.Same Tables.groups s s'
  memberships : Store.Same Tables.memberships s s'
  topics : Store.Same Tables.topics s s'
  users : Store.Same Tables.users s s'
  messages : ∀ i m, s.get (.messages i) = some m → s'.get (.messages i) = some m
  media : ∀ i r, s.get (.messageMedia i) = some r → s'.get (.messageMedia i) = some r
  newMedia : ∀ i r, s'.get (.messageMedia i) = some r → s.get (.messageMedia i) = some r ∨ s.get (.messages r.messageId) = none
  uploads : ∀ i r, s.get (.messageMedia i) = some r →
    (s'.get (.mediaUploads r.mediaUploadId)).map (fun u => (u.deletedAt, u.posterUploadId)) =
      (s.get (.mediaUploads r.mediaUploadId)).map fun u => (u.deletedAt, u.posterUploadId)

variable {s s' : Store Row}

lemma MessagesSent.refl (hs : Constraints s) : MessagesSent s s :=
  ⟨hs, fun _ => rfl, fun _ => rfl, fun _ => rfl, fun _ => rfl, fun _ => rfl, fun _ _ h => h, fun _ _ h => h,
    fun _ _ h => .inl h, fun _ _ _ => rfl⟩

lemma mem_messageMediaRows_iff {messageId : Uuid} {row : MessageMediaRow} :
    row ∈ messageMediaRows s messageId ↔ s.get (.messageMedia row.id) = some row.media ∧ row.media.messageId = messageId ∧
      row.media.deletedAt = none ∧ ((s.get (.messages messageId)).any fun m => m.deletedAt.isNone) = true ∧
      (s.get (.mediaUploads row.media.mediaUploadId)).map (fun u => (u.deletedAt, u.posterUploadId)) =
        some (none, row.posterUploadId) := by
  rw [messageMediaRows, mem_sorted, Store.mem_scan]
  constructor
  · rintro ⟨i, r, hr, hrow⟩
    split_ifs at hrow with hp
    obtain ⟨u, hu, rfl⟩ := Option.map_eq_some_iff.mp hrow
    obtain ⟨hget, hlive⟩ := Option.filter_eq_some_iff.mp hu
    exact ⟨hr, hp.1, hp.2.1, hp.2.2, by simp [hget, Option.isNone_iff_eq_none.mp hlive]⟩
  · rintro ⟨hr, hm, hd, hl, hu⟩
    obtain ⟨u, hget, heq⟩ := Option.map_eq_some_iff.mp hu
    simp only [Prod.mk.injEq] at heq
    exact ⟨row.id, row.media, hr, by simp [hm, hd, hl, hget, heq.1, heq.2, Option.filter]⟩

lemma messageMediaRows_strict (hs : Checks s) (messageId : Uuid) :
    (messageMediaRows s messageId).Pairwise fun a b => a.media.position < b.media.position := by
  refine sorted_strict (Store.nodup_scan s _ fun i r a i' r' a' hr ha hr' ha' hk => ?_)
  split_ifs at ha with hp
  split_ifs at ha' with hp'
  obtain ⟨u, -, rfl⟩ := Option.map_eq_some_iff.mp ha
  obtain ⟨u', -, rfl⟩ := Option.map_eq_some_iff.mp ha'
  exact hs.position i i' r r' hr hr' (hp.1.trans hp'.1.symm) hk

/-- A message shows the attachments that it has shown, if it and they are as before. -/
lemma messageMediaRows_congr (hs : Checks s) (hs' : Checks s') {i : Uuid}
    (hmessage : s'.get (.messages i) = s.get (.messages i))
    (hmedia : ∀ j r, r.messageId = i → (s'.get (.messageMedia j) = some r ↔ s.get (.messageMedia j) = some r))
    (huploads : ∀ j r, s.get (.messageMedia j) = some r →
      (s'.get (.mediaUploads r.mediaUploadId)).map (fun u => (u.deletedAt, u.posterUploadId)) =
        (s.get (.mediaUploads r.mediaUploadId)).map fun u => (u.deletedAt, u.posterUploadId)) :
    messageMediaRows s' i = messageMediaRows s i := by
  refine eq_of_strict (messageMediaRows_strict hs' i) (messageMediaRows_strict hs i) fun row => ?_
  rw [mem_messageMediaRows_iff, mem_messageMediaRows_iff, hmessage]
  constructor
  · rintro ⟨hr, hid, hd, hl, hu⟩
    have hold := (hmedia _ _ hid).mp hr
    exact ⟨hold, hid, hd, hl, (huploads _ _ hold).symm.trans hu⟩
  · rintro ⟨hr, hid, hd, hl, hu⟩
    exact ⟨(hmedia _ _ hid).mpr hr, hid, hd, hl, (huploads _ _ hr).trans hu⟩

/-- The attachments of a message that was there are as before. -/
lemma MessagesSent.messageMediaRows_eq (hs : Constraints s) (h : MessagesSent s s') {i : Uuid} {m : Message}
    (hm : s.get (.messages i) = some m) : messageMediaRows s' i = messageMediaRows s i := by
  refine messageMediaRows_congr hs.toChecks h.constraints.toChecks ((h.messages i m hm).trans hm.symm) (fun j r hid => ?_)
    h.uploads
  refine ⟨fun hr => ?_, h.media j r⟩
  rcases h.newMedia _ _ hr with hold | hnew
  · exact hold
  · rw [hid, hm] at hnew
    cases hnew

lemma topicLive_same (htopics : Store.Same Tables.topics s s') (room : Chatroom) : topicLive s' room = topicLive s room := by
  unfold topicLive
  cases room.topicId with
  | none => rfl
  | some t => rw [Option.all_some, Option.all_some, show s'.get (.topics t) = s.get (.topics t) from htopics t]

/-- The messages that were there are still shown, as before. -/
lemma MessagesSent.visible (hs : Constraints s) (h : MessagesSent s s') (chatroomId : Uuid) :
    ∀ a ∈ visibleMessages s chatroomId, a ∈ visibleMessages s' chatroomId := by
  intro a ha
  obtain ⟨bare, hbare, rfl⟩ := List.mem_map.mp ha
  obtain ⟨row, hrow, rfl⟩ := List.mem_map.mp hbare
  obtain ⟨i, m, hm, hrow⟩ := Store.mem_scan.mp hrow
  split_ifs at hrow with hp
  cases hrow
  have hm' : s'.get (.messages i) = some m := h.messages i m hm
  have hroom : s'.get (.chatrooms m.chatroomId) = s.get (.chatrooms m.chatroomId) := h.chatrooms _
  have hsender : (m.senderId.bind fun u => s'.get (.users u)) = m.senderId.bind fun u => s.get (.users u) := by
    cases m.senderId with
    | none => rfl
    | some u => exact h.users u
  have hrow' : (⟨i, m, m.senderId.bind fun u => s.get (.users u)⟩ : MessageRow) ∈ messageRows s' chatroomId := by
    refine Store.mem_scan.mpr ⟨i, m, hm', ?_⟩
    rw [hroom, hsender]
    simp only [topicLive_same h.topics]
    exact if_pos hp
  refine List.mem_map.mpr ⟨_, List.mem_map_of_mem hrow', ?_⟩
  simp only [hydrated, bareRecord, h.messageMediaRows_eq hs hm]

lemma accesses_of_same (hchatrooms : Store.Same Tables.chatrooms s s') (hgroups : Store.Same Tables.groups s s')
    (hmemberships : Store.Same Tables.memberships s s') (htopics : Store.Same Tables.topics s s') {chatroomId userId : Uuid}
    (h : accesses s chatroomId userId ≠ []) : accesses s' chatroomId userId ≠ [] := by
  unfold accesses at h ⊢
  rw [show s'.get (.chatrooms chatroomId) = s.get (.chatrooms chatroomId) from hchatrooms chatroomId]
  cases hroom : s.get (.chatrooms chatroomId) with
  | none => simp [hroom] at h
  | some room =>
    simp only [hroom] at h ⊢
    rw [topicLive_same htopics, show s'.get (.groups room.groupId) = s.get (.groups room.groupId) from hgroups room.groupId]
    split_ifs at h ⊢ with hlive
    · obtain ⟨x, hx⟩ := List.exists_mem_of_ne_nil _ h
      obtain ⟨m, hm, rfl⟩ := List.mem_map.mp hx
      obtain ⟨r, hr, hp⟩ := Store.mem_ids.mp hm
      exact List.ne_nil_of_mem (List.mem_map_of_mem (Store.mem_ids.mpr ⟨r, (hmemberships m).trans hr, hp⟩))
    · exact absurd rfl h

end Sending

section Complete

variable {s : Store Row} {limit : Nat}

/-- Following the cursors from the first page ends, and the pages together are the items in order, each once. -/
def ReadsAll {α κ : Type} [LinearOrder κ] (page : Store Row → Option Uuid → Except ListError (Page α Uuid)) (place : α → κ)
    (items : List α) (s : Store Row) : Prop :=
  ∃ pages, Walk page Eq s pages s .done ∧ pages.flatten = sorted place items ∧ (sorted place items).Nodup

lemma readsAll_of_pages {α κ : Type} [LinearOrder κ] {page : Store Row → Option Uuid → Except ListError (Page α Uuid)}
    {good : Store Row → Prop} {visible : Store Row → List α} {place : α → κ} {id : α → Uuid}
    (h : Pages page good visible place id limit) (hlimit : 1 ≤ limit) (hgood : good s) : ReadsAll page place (visible s) s := by
  obtain ⟨pages, hw, hall⟩ := h.walk_fixed hlimit hgood
  exact ⟨pages, hw, hall, (sorted_strict (h.keys s hgood)).imp fun hlt heq => absurd (congrArg place heq) (ne_of_lt hlt)⟩

/-- A room's messages, oldest first. -/
def timeline (s : Store Row) (chatroomId : Uuid) : List MessageHistoryRecord :=
  (sorted messagePlace (visibleMessages s chatroomId)).reverse

/-- The pages of the history go back in time, and each of them is in the order of time. -/
lemma messageHistory_readsAll (hs : Constraints s) (hlimit : 1 ≤ limit) {chatroomId userId : Uuid}
    (hmember : accesses s chatroomId userId ≠ []) :
    ∃ pages, Walk (fun s before => messageHistory s ⟨chatroomId, userId, before, limit⟩) Eq s pages s .done ∧
      pages.reverse.flatten = timeline s chatroomId ∧ (timeline s chatroomId).Nodup := by
  obtain ⟨pages, hw, hall, hnodup⟩ := readsAll_of_pages (message_pages chatroomId userId limit) hlimit ⟨hs, hmember⟩
  refine ⟨pages.map List.reverse, hw.map List.reverse, ?_, List.nodup_reverse.mpr hnodup⟩
  rw [timeline, ← hall, List.reverse_flatten]

/-- While messages are sent, the pages read so far hold the latest of the messages of the start, and at the end all. -/
lemma messageHistory_growing (hs : Constraints s) (hlimit : 1 ≤ limit) {chatroomId userId : Uuid}
    (hmember : accesses s chatroomId userId ≠ []) {pages : List (List MessageHistoryRecord)} {s' : Store Row}
    {client : Client Uuid}
    (hw : Walk (fun s before => messageHistory s ⟨chatroomId, userId, before, limit⟩) MessagesSent s pages s' client) :
    pages.reverse.flatten.filter (fun a => decide (a ∈ visibleMessages s chatroomId)) <:+ timeline s chatroomId ∧
      (client = .done →
        pages.reverse.flatten.filter (fun a => decide (a ∈ visibleMessages s chatroomId)) = timeline s chatroomId) := by
  obtain ⟨rows, hrows, rfl⟩ := Walk.of_map hw
  have hkeep : ∀ s s', Constraints s ∧ accesses s chatroomId userId ≠ [] → MessagesSent s s' →
      (Constraints s' ∧ accesses s' chatroomId userId ≠ []) ∧
        ∀ a ∈ visibleMessages s chatroomId, a ∈ visibleMessages s' chatroomId :=
    fun s s' hg h => ⟨⟨h.constraints, accesses_of_same h.chatrooms h.groups h.memberships h.topics hg.2⟩, h.visible hg.1 chatroomId⟩
  obtain ⟨hread, hdone⟩ := (message_pages chatroomId userId limit).walk_growing hlimit ⟨hs, hmember⟩ hkeep hrows
  have hturn : (rows.map List.reverse).reverse.flatten = rows.flatten.reverse := by
    rw [List.reverse_flatten]
  rw [hturn, List.filter_reverse, timeline]
  exact ⟨List.reverse_suffix.mpr hread, fun h => congrArg List.reverse (hdone h)⟩

/-- In every state, every reader that follows the cursors reads what it may see, in order and each item once, whatever
the limit; a reader without access is refused. The history stays complete while messages are sent. -/
theorem lists_read_completely (s : Store Row) (hs : Constraints s) (limit : Nat) (hlimit : 1 ≤ limit) :
    (∀ groupId userId, if activeMember s groupId userId then
        ReadsAll (fun s after => listChatrooms s ⟨groupId, userId, after, limit⟩) chatroomPlace (visibleChatrooms s groupId) s
      else listChatrooms s ⟨groupId, userId, none, limit⟩ = .error .membershipRequired) ∧
    (∀ groupId actorId, if activeMember s groupId actorId then
        ReadsAll (fun s after => listMembers s ⟨groupId, actorId, after, limit⟩) memberKey (memberRows s groupId) s
      else listMembers s ⟨groupId, actorId, none, limit⟩ =
        .error (if groupLive s groupId then .membershipRequired else .groupNotFound)) ∧
    (∀ chatroomId userId, if (accesses s chatroomId userId).isEmpty then
        messageHistory s ⟨chatroomId, userId, none, limit⟩ = .error .membershipRequired ∧
          chatroomMedia s ⟨chatroomId, userId, none, limit⟩ = .error .membershipRequired
      else
        (∃ pages, Walk (fun s before => messageHistory s ⟨chatroomId, userId, before, limit⟩) Eq s pages s .done ∧
          pages.reverse.flatten = timeline s chatroomId ∧ (timeline s chatroomId).Nodup) ∧
        ReadsAll (fun s before => chatroomMedia s ⟨chatroomId, userId, before, limit⟩) chatroomMediaPlace
          (visibleMedia s chatroomId) s) ∧
    (∀ userId, ReadsAll (fun s after => (listNotifications s ⟨userId, after, limit⟩).map Prod.fst) notificationPlace
      (visibleNotifications s userId) s) ∧
    (∀ chatroomId userId pages s' client, accesses s chatroomId userId ≠ [] →
      Walk (fun s before => messageHistory s ⟨chatroomId, userId, before, limit⟩) MessagesSent s pages s' client →
      pages.reverse.flatten.filter (fun a => decide (a ∈ visibleMessages s chatroomId)) <:+ timeline s chatroomId ∧
        (client = .done →
          pages.reverse.flatten.filter (fun a => decide (a ∈ visibleMessages s chatroomId)) = timeline s chatroomId)) := by
  refine ⟨fun groupId userId => ?_, fun groupId actorId => ?_, fun chatroomId userId => ?_, fun userId => ?_,
    fun chatroomId userId pages s' client hmember hw => messageHistory_growing hs hlimit hmember hw⟩
  · by_cases hmember : activeMember s groupId userId = true
    · rw [if_pos hmember]
      exact readsAll_of_pages (chatroom_pages groupId userId limit) hlimit ⟨hs, hmember⟩
    · rw [if_neg hmember]
      simp [listChatrooms, requireAccess, hmember]
  · by_cases hmember : activeMember s groupId actorId = true
    · rw [if_pos hmember]
      exact readsAll_of_pages (member_pages groupId actorId limit) hlimit hmember
    · rw [if_neg hmember]
      cases hlive : groupLive s groupId <;> simp [listMembers, hlive, hmember]
  · by_cases hnone : (accesses s chatroomId userId).isEmpty = true
    · rw [if_pos hnone]
      constructor
      · simp [messageHistory, messagesBefore, requireAccess, hnone]
        rfl
      · simp [chatroomMedia, requireAccess, hnone]
    · rw [if_neg hnone]
      have hmember : accesses s chatroomId userId ≠ [] := fun h => hnone (List.isEmpty_iff.mpr h)
      exact ⟨messageHistory_readsAll hs hlimit hmember,
        readsAll_of_pages (media_pages chatroomId userId limit) hlimit ⟨hs, hmember⟩⟩
  · exact readsAll_of_pages (notification_pages userId limit) hlimit hs

/-- User 1 is a member of group 10 with the main room 20, where the messages 30 and 31 were sent at one time. -/
def twoMessages : Store Row := Store.empty.apply
  [⟨.messages 31, some { chatroomId := 20, senderId := some 1, clientMsgId := some 41, body := some "b", createdAt := 5 }⟩,
   ⟨.messages 30, some { chatroomId := 20, senderId := some 1, clientMsgId := some 40, body := some "a", createdAt := 5 }⟩,
   ⟨.chatrooms 20, some { groupId := 10, type := .main, topicId := none }⟩,
   ⟨.memberships 11, some { groupId := 10, userId := 1, role := .owner }⟩,
   ⟨.groups 10, some { name := "g", ownerId := 1 }⟩,
   ⟨.users 1, some { nickname := "n" }⟩]

lemma twoMessages_message {i : Uuid} {m : Message} (h : twoMessages.get (.messages i) = some m) :
    i ≠ 32 ∧ m.type = .user ∧ m.senderId = some 1 ∧ m.clientMsgId.isSome = true := by
  by_cases h31 : i = 31
  · subst h31
    simp only [twoMessages, Store.apply_cons, Store.get_set_self, Option.some.injEq] at h
    subst h
    exact ⟨by decide, rfl, rfl, rfl⟩
  · by_cases h30 : i = 30
    · subst h30
      simp [twoMessages] at h
      subst h
      exact ⟨by decide, rfl, rfl, rfl⟩
    · simp [twoMessages, h31, h30] at h

lemma twoMessages_constraints : Constraints twoMessages := by
  refine .of_no_media (fun i c h => ?_) (fun i m h => ?_) (fun i m u h hu => ?_) (fun i => ?_) fun i => ?_
  · by_cases hi : i = 20
    · subst hi
      simp [twoMessages] at h
      subst h
      simp
    · simp [twoMessages, hi] at h
  · obtain ⟨-, ht, hsender, hclient⟩ := twoMessages_message h
    simp [ht, hsender, hclient]
  · obtain ⟨-, -, hsender, -⟩ := twoMessages_message h
    rw [hsender] at hu
    cases hu
    simp [twoMessages]
  · simp [twoMessages]
  · simp [twoMessages]

/-- A third message was sent later. -/
def threeMessages : Store Row := twoMessages.set
  ⟨.messages 32, some { chatroomId := 20, senderId := some 1, clientMsgId := some 42, body := some "c", createdAt := 6 }⟩

lemma threeMessages_get (k : Key) (h : k ≠ .messages 32) : threeMessages.get k = twoMessages.get k :=
  Store.get_set_of_ne _ _ h

lemma threeMessages_constraints : Constraints threeMessages := by
  have hmessage : ∀ {i m}, threeMessages.get (.messages i) = some m →
      m.type = .user ∧ m.senderId = some 1 ∧ m.clientMsgId.isSome = true := by
    intro i m h
    by_cases hi : i = 32
    · subst hi
      rw [threeMessages, Store.get_set_self, Option.some.injEq] at h
      subst h
      exact ⟨rfl, rfl, rfl⟩
    · rw [threeMessages_get (.messages i) (by simpa using hi)] at h
      exact (twoMessages_message h).2
  refine .of_no_media (fun i c h => ?_) (fun i m h => ?_) (fun i m u h hu => ?_) (fun i => ?_) fun i => ?_
  · rw [threeMessages_get (.chatrooms i) nofun] at h
    exact twoMessages_constraints.chatroom i c h
  · obtain ⟨ht, hsender, hclient⟩ := hmessage h
    simp [ht, hsender, hclient]
  · obtain ⟨-, hsender, -⟩ := hmessage h
    rw [hsender] at hu
    cases hu
    rw [threeMessages_get (.users 1) nofun]
    simp [twoMessages]
  · rw [threeMessages_get (.messageMedia i) nofun]
    simp [twoMessages]
  · rw [threeMessages_get (.notifications i) nofun]
    simp [twoMessages]

lemma threeMessages_sent : MessagesSent twoMessages threeMessages := by
  have hmedia : ∀ i, twoMessages.get (.messageMedia i) = none := by
    intro i
    simp [twoMessages]
  refine ⟨threeMessages_constraints, fun i => threeMessages_get (.chatrooms i) nofun,
    fun i => threeMessages_get (.groups i) nofun, fun i => threeMessages_get (.memberships i) nofun,
    fun i => threeMessages_get (.topics i) nofun, fun i => threeMessages_get (.users i) nofun,
    fun i m h => ?_, fun i r h => ?_, fun i r h => ?_, fun i r h => ?_⟩
  · rw [threeMessages_get (.messages i) (by simpa using (twoMessages_message h).1), h]
  · rw [hmedia] at h
    cases h
  · rw [threeMessages_get (.messageMedia i) nofun, hmedia] at h
    cases h
  · rw [hmedia] at h
    cases h

/-- The messages are read one at a time; the second time the third one is sent after the first page. -/
theorem twoMessages_read_completely :
    accesses twoMessages 20 1 ≠ [] ∧ (visibleMessages twoMessages 20).length = 2 ∧
      (∃ pages, Walk (fun s before => messageHistory s ⟨20, 1, before, 1⟩) Eq twoMessages pages twoMessages .done ∧
        pages.reverse.flatten = timeline twoMessages 20 ∧ (timeline twoMessages 20).Nodup) ∧
      (visibleMessages threeMessages 20).length = 3 ∧
      ∃ pages, Walk (fun s before => messageHistory s ⟨20, 1, before, 1⟩) MessagesSent twoMessages pages threeMessages .done ∧
        pages.reverse.flatten.filter (fun a => decide (a ∈ visibleMessages twoMessages 20)) = timeline twoMessages 20 := by
  have hmember : (accesses twoMessages 20 1).isEmpty = false := by decide
  have hne : accesses twoMessages 20 1 ≠ [] := by simpa using hmember
  have hall := lists_read_completely twoMessages twoMessages_constraints 1 (by decide)
  have h := hall.2.2.1 20 1
  rw [if_neg (by simp [hmember])] at h
  have hfirst : ∃ p, messageHistory twoMessages ⟨20, 1, none, 1⟩ = .ok p ∧ p.nextCursor = some 31 := ⟨_, rfl, rfl⟩
  have hsecond : ∃ p, messageHistory threeMessages ⟨20, 1, some 31, 1⟩ = .ok p ∧ p.nextCursor = none := ⟨_, rfl, rfl⟩
  obtain ⟨p₁, hp₁, hnext₁⟩ := hfirst
  obtain ⟨p₂, hp₂, hnext₂⟩ := hsecond
  have hwalk₁ : Walk (fun s before => messageHistory s ⟨20, 1, before, 1⟩) MessagesSent twoMessages ([] ++ [p₁.items])
      threeMessages (Client.follow p₁.nextCursor) := Walk.start.turn rfl hp₁ threeMessages_sent
  rw [hnext₁] at hwalk₁
  have hwalk := hwalk₁.turn rfl hp₂ (MessagesSent.refl threeMessages_constraints)
  rw [hnext₂] at hwalk
  exact ⟨hne, by decide, h.1, by decide, _, hwalk, (hall.2.2.2.2 20 1 _ _ _ hne hwalk).2 rfl⟩

end Complete

end JamyeServer.Pagination
