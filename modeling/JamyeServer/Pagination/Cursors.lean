import JamyeServer.Pagination.Answers

/-!
# Cursors whose row is gone

A cursor names the last row of a page. When that row is deleted or leaves the list before the next page is asked for,
the list either says so or goes on behind the place where the row stood. The lists that look the row up without
testing that they found it answer an empty page instead.
-/

namespace JamyeServer.Pagination

open ReadCommitted Keyset Postgres Postgres.Rooms Postgres.Topics Postgres.Lists

/-- A paged list. -/
structure Endpoint where
  Query : Type
  Item : Type
  Place : Type
  [order : LinearOrder Place]
  after : Query → Option Uuid
  limit : Query → Nat
  id : Item → Uuid
  place : Item → Place
  answer : Store Row → Query → Except ListError (Page Item Uuid)
  /-- What the actor may see, without a cursor. -/
  visible : Store Row → Query → List Item
  /-- The place that the statement looks up for the cursor. -/
  lookup : Store Row → Query → Uuid → Option Place
  /-- Where the row stands, be it live or deleted. -/
  standsAt : Store Row → Uuid → Option Place

attribute [instance] Endpoint.order

namespace Endpoint

variable (E : Endpoint)

/-- The visible items after the row of a cursor: after its place in the table, or after where it stood when the cursor
was handed out if the row is gone. -/
def itemsAfter (s : Store Row) (query : E.Query) (row : E.Item) : List E.Item :=
  beyond E.place ((E.standsAt s (E.id row)).getD (E.place row)) (sorted E.place (E.visible s query))

/-- The page is an explicit cursor error, or it holds the items as far as its limit goes and is the last page only if
it holds them all. -/
def Keeps (s : Store Row) (query : E.Query) (items : List E.Item) : Prop :=
  E.answer s query = .error .cursorInvalid ∨ ∃ page, E.answer s query = .ok page ∧
    (∀ a ∈ items.take (E.limit query), a ∈ page.items) ∧ (page.nextCursor = none → ∀ a ∈ items, a ∈ page.items)

/-- The cursor of `row` was handed out and is sent back after the row has left the list, while items after it are
there. -/
structure Stale (s₀ s : Store Row) (query₀ query : E.Query) (row : E.Item) : Prop where
  handed : ∃ page, E.answer s₀ query₀ = .ok page ∧ row ∈ page.items ∧ page.nextCursor = some (E.id row)
  after : E.after query = some (E.id row)
  limit : 1 ≤ E.limit query
  left : E.id row ∉ (E.visible s query).map E.id
  items : E.itemsAfter s query row ≠ []

/-- How a list answers when it has something to show. `checked` lists test that they found the row of the cursor. -/
structure Spec (checked : Bool) : Prop where
  lookup_eq : ∀ s query c k, E.lookup s query c = some k → E.standsAt s c = some k
  refused : ∀ s query c, Constraints s → E.visible s query ≠ [] → E.after query = some c → E.lookup s query c = none →
    checked = true → E.answer s query = .error .cursorInvalid
  empty : ∀ s query c, E.visible s query ≠ [] → E.after query = some c → E.lookup s query c = none →
    checked = false → E.answer s query = .ok ⟨[], none⟩
  next : ∀ s query c k, Constraints s → E.visible s query ≠ [] → E.after query = some c → E.lookup s query c = some k →
    ∃ page, E.answer s query = .ok page ∧
      (∀ a, a ∈ page.items ↔ a ∈ (cut (E.limit query) E.id (beyond E.place k (sorted E.place (E.visible s query)))).items) ∧
      page.nextCursor = (cut (E.limit query) E.id (beyond E.place k (sorted E.place (E.visible s query)))).nextCursor

variable {E} {checked : Bool} {s : Store Row} {query : E.Query} {row : E.Item}

lemma visible_of_itemsAfter (h : E.itemsAfter s query row ≠ []) : E.visible s query ≠ [] := by
  intro hnil
  apply h
  simp [itemsAfter, hnil, sorted, beyond]

/-- What a page of these items holds. -/
lemma cut_holds {α : Type} {limit : Nat} (hlimit : 1 ≤ limit) (id : α → Uuid) (items : List α) :
    (∀ a ∈ items.take limit, a ∈ (cut limit id items).items) ∧
      ((cut limit id items).nextCursor = none → ∀ a ∈ items, a ∈ (cut limit id items).items) := by
  by_cases hlen : limit < items.length
  · have hcut : cut limit id items = ⟨items.take limit, (items.take limit).getLast?.map id⟩ := by simp [cut, hlen]
    rw [hcut]
    refine ⟨fun a ha => ha, fun hnone => ?_⟩
    have hnil : items.take limit = [] := by simpa using hnone
    have hlength := congrArg List.length hnil
    rw [List.length_take, List.length_nil] at hlength
    omega
  · have hcut : cut limit id items = ⟨items, none⟩ := by simp [cut, hlen]
    rw [hcut]
    exact ⟨fun a ha => List.mem_of_mem_take ha, fun _ a ha => ha⟩

/-- The list meets its reader's expectation exactly when it tests its cursor or finds its row. -/
theorem Spec.keeps_iff (h : E.Spec checked) (hs : Constraints s) (hlimit : 1 ≤ E.limit query)
    (hafter : E.after query = some (E.id row)) (hitems : E.itemsAfter s query row ≠ []) :
    E.Keeps s query (E.itemsAfter s query row) ↔ checked = true ∨ (E.lookup s query (E.id row)).isSome = true := by
  have hvisible := visible_of_itemsAfter hitems
  cases hfound : E.lookup s query (E.id row) with
  | some k =>
    refine iff_of_true ?_ (.inr rfl)
    obtain ⟨page, hpage, hmem, hnext⟩ := h.next s query _ k hs hvisible hafter hfound
    have hrest : E.itemsAfter s query row = beyond E.place k (sorted E.place (E.visible s query)) := by
      rw [itemsAfter, h.lookup_eq s query _ k hfound, Option.getD_some]
    rw [hrest]
    obtain ⟨hfirst, hall⟩ := cut_holds hlimit E.id (beyond E.place k (sorted E.place (E.visible s query)))
    exact .inr ⟨page, hpage, fun a ha => (hmem a).mpr (hfirst a ha), fun hn a ha => (hmem a).mpr (hall (hnext ▸ hn) a ha)⟩
  | none =>
    cases hc : checked with
    | true => exact iff_of_true (.inl (h.refused s query _ hs hvisible hafter hfound hc)) (.inl rfl)
    | false =>
      refine iff_of_false ?_ (by simp)
      have hanswer := h.empty s query _ hvisible hafter hfound hc
      rintro (herror | ⟨page, hpage, -, hlast⟩)
      · rw [hanswer] at herror
        cases herror
      · rw [hanswer] at hpage
        cases hpage
        obtain ⟨a, ha⟩ := List.exists_mem_of_ne_nil _ hitems
        exact absurd (hlast rfl a ha) (List.not_mem_nil)

lemma Spec.of_unchecked (hlookup : ∀ s query c k, E.lookup s query c = some k → E.standsAt s c = some k)
    (h : ∀ s query, E.visible s query ≠ [] → E.answer s query =
      .ok (cut (E.limit query) E.id (rest E.place ((E.after query).map (E.lookup s query)) (E.visible s query)))) :
    E.Spec false where
  lookup_eq := hlookup
  refused _ _ _ _ _ _ _ hc := by cases hc
  empty s query c hv ha hl _ := by
    rw [h s query hv, ha, Option.map_some, hl]
    rfl
  next s query c k _ hv ha hl := by
    refine ⟨_, h s query hv, fun a => ?_, ?_⟩
    · rw [ha, Option.map_some, hl]
      rfl
    · rw [ha, Option.map_some, hl]
      rfl

/-- `turn` is what a list does to the items of its page. -/
lemma Spec.of_checked {turn : List E.Item → List E.Item} (hturn : ∀ items a, a ∈ turn items ↔ a ∈ items)
    (hlookup : ∀ s query c k, E.lookup s query c = some k → E.standsAt s c = some k)
    (h : ∀ s query, Constraints s → E.visible s query ≠ [] → E.answer s query =
      (if ((E.after query).map (E.lookup s query)).all Option.isSome then
        Except.ok (cut (E.limit query) E.id (rest E.place ((E.after query).map (E.lookup s query)) (E.visible s query)))
      else .error .cursorInvalid).map fun page => ⟨turn page.items, page.nextCursor⟩) :
    E.Spec true where
  lookup_eq := hlookup
  refused s query c hs hv ha hl _ := by
    rw [h s query hs hv, ha, Option.map_some, hl]
    rfl
  empty _ _ _ _ _ _ hc := by cases hc
  next s query c k hs hv ha hl := by
    have hanswer := h s query hs hv
    rw [ha, Option.map_some, hl] at hanswer
    exact ⟨_, hanswer, fun a => hturn _ a, rfl⟩

end Endpoint

section Endpoints

/-- The lists of the server. -/
inductive ListName
  | topics | topicTags | groups | members | chatrooms | messageHistory | chatroomMedia | notifications
  deriving DecidableEq, Repr

/-- The lists that test that they found the row of their cursor. -/
def ListName.checksCursor : ListName → Bool
  | topics | topicTags | groups | members => false
  | chatrooms | messageHistory | chatroomMedia | notifications => true

def topicsEndpoint (dateOf : Time → Nat) : Endpoint where
  Query := ListTopicsQuery
  Item := TopicRecord
  Place := Newest
  after := ListTopicsQuery.after
  limit := ListTopicsQuery.limit
  id := TopicRecord.id
  place := topicKey
  answer := listTopicPage dateOf
  visible s query := if (topicAccess s query.groupId query.actorId).isOk then
    topicRows dateOf s query.groupId query.actorId query.date else []
  lookup s query c := cursorTopic s query.groupId c
  standsAt s c := (s.get (.topics c)).map fun t => newest t.createdAt c

def topicTagsEndpoint {C : Type} [LinearOrder C] (collation : String → C) : Endpoint where
  Query := ListTopicTagsQuery
  Item := TopicTagRecord
  Place := C ×ₗ Uuid
  after := ListTopicTagsQuery.after
  limit := ListTopicTagsQuery.limit
  id := TopicTagRecord.id
  place := tagKey collation
  answer := listTags collation
  visible s query := if (topicAccess s query.groupId query.actorId).isOk && topicFound s query.groupId query.topicId then
    tagRows s query.topicId else []
  lookup s query c := cursorTag collation s query.topicId c
  standsAt s c := (s.get (.topicTags c)).map fun r => toLex (collation r.tag, c)

def groupsEndpoint : Endpoint where
  Query := ListGroupsQuery
  Item := GroupRecord
  Place := Oldest
  after := ListGroupsQuery.after
  limit := ListGroupsQuery.limit
  id := GroupRecord.id
  place := groupKey
  answer := listGroups
  visible s query := groupRows s query.userId
  lookup s query c := cursorGroup s query.userId c
  standsAt s c := (s.get (.groups c)).map fun g => oldest g.createdAt c

def membersEndpoint : Endpoint where
  Query := ListMembersQuery
  Item := MemberRecord
  Place := Nat ×ₗ Oldest
  after := ListMembersQuery.after
  limit := ListMembersQuery.limit
  id := MemberRecord.membershipId
  place := memberKey
  answer := listMembers
  visible s query := if activeMember s query.groupId query.actorId then memberRows s query.groupId else []
  lookup s query c := cursorMembership s query.groupId c
  standsAt s c := (s.get (.memberships c)).map (memberPlace c)

def chatroomsEndpoint : Endpoint where
  Query := ListChatroomsQuery
  Item := ChatroomRecord
  Place := Oldest
  after := ListChatroomsQuery.after
  limit := ListChatroomsQuery.limit
  id := ChatroomRecord.id
  place := chatroomPlace
  answer := listChatrooms
  visible s query := if activeMember s query.groupId query.userId then visibleChatrooms s query.groupId else []
  lookup s query c := cursorChatroom s query.groupId c
  standsAt s c := (s.get (.chatrooms c)).map fun room => chatroomKey (c, room)

def messageHistoryEndpoint : Endpoint where
  Query := MessageHistoryQuery
  Item := MessageHistoryRecord
  Place := Newest
  after := MessageHistoryQuery.before
  limit := MessageHistoryQuery.limit
  id := MessageHistoryRecord.id
  place := messagePlace
  answer := messageHistory
  visible s query := if (accesses s query.chatroomId query.userId).isEmpty then [] else visibleMessages s query.chatroomId
  lookup s query c := cursorMessage s query.chatroomId c
  standsAt s c := (s.get (.messages c)).map fun m => newest m.createdAt c

def chatroomMediaEndpoint : Endpoint where
  Query := ChatroomMediaQuery
  Item := ChatroomMediaItem
  Place := MediaPlace
  after := ChatroomMediaQuery.before
  limit := ChatroomMediaQuery.limit
  id := ChatroomMediaItem.id
  place := chatroomMediaPlace
  answer := chatroomMedia
  visible s query := if (accesses s query.chatroomId query.userId).isEmpty then [] else visibleMedia s query.chatroomId
  lookup s query c := cursorMedia s query.chatroomId c
  standsAt s c := do
    let media ← s.get (.messageMedia c)
    let message ← s.get (.messages media.messageId)
    some (mediaPlace message.createdAt media.messageId media.position)

def notificationsEndpoint : Endpoint where
  Query := ListNotificationsQuery
  Item := NotificationRecord
  Place := Newest
  after := ListNotificationsQuery.after
  limit := ListNotificationsQuery.limit
  id := NotificationRecord.id
  place := notificationPlace
  answer s query := (listNotifications s query).map Prod.fst
  visible s query := visibleNotifications s query.userId
  lookup s query c := cursorNotification s query.userId c
  standsAt s c := (s.get (.notifications c)).map fun n => newest n.createdAt c

/-- Tags are ordered by the collation of the database. -/
def endpoint {C : Type} [LinearOrder C] (dateOf : Time → Nat) (collation : String → C) : ListName → Endpoint
  | .topics => topicsEndpoint dateOf
  | .topicTags => topicTagsEndpoint collation
  | .groups => groupsEndpoint
  | .members => membersEndpoint
  | .chatrooms => chatroomsEndpoint
  | .messageHistory => messageHistoryEndpoint
  | .chatroomMedia => chatroomMediaEndpoint
  | .notifications => notificationsEndpoint

/-- A row that passes a test is still the row. -/
lemma map_of_filter {α κ : Type} {o : Option α} {p : α → Bool} {f : α → κ} {k : κ} (h : (o.filter p).map f = some k) :
    o.map f = some k := by
  obtain ⟨a, ha, rfl⟩ := Option.map_eq_some_iff.mp h
  rw [(Option.filter_eq_some_iff.mp ha).1, Option.map_some]

lemma topicAccess_of_isOk {s : Store Row} {groupId actorId : Uuid} (h : (topicAccess s groupId actorId).isOk = true) :
    topicAccess s groupId actorId = .ok () := by
  cases haccess : topicAccess s groupId actorId with
  | ok _ => rfl
  | error e =>
    rw [haccess] at h
    cases h

lemma cond_of_ne_nil {α : Type} {c : Prop} [Decidable c] {items : List α} (h : (if c then items else []) ≠ []) : c := by
  by_contra hc
  exact h (if_neg hc)

lemma except_map_id {α : Type} (x : Except ListError (Page α Uuid)) : x.map (fun page => ⟨page.items, page.nextCursor⟩) = x := by
  cases x <;> rfl

lemma topics_spec (dateOf : Time → Nat) : (topicsEndpoint dateOf).Spec false := by
  refine .of_unchecked (fun s query c k h => map_of_filter h) fun s query hv => ?_
  have hok := cond_of_ne_nil hv
  have hvisible : (topicsEndpoint dateOf).visible s query = topicRows dateOf s query.groupId query.actorId query.date := if_pos hok
  rw [hvisible]
  exact listTopicPage_eq query (topicAccess_of_isOk hok)

lemma topicTags_spec {C : Type} [LinearOrder C] (collation : String → C) : (topicTagsEndpoint collation).Spec false := by
  refine .of_unchecked (fun s query c k h => map_of_filter h) fun s query hv => ?_
  have hok := cond_of_ne_nil hv
  have hvisible : (topicTagsEndpoint collation).visible s query = tagRows s query.topicId := if_pos hok
  obtain ⟨haccess, htopic⟩ := Bool.and_eq_true_iff.mp hok
  rw [hvisible]
  exact listTags_eq query (topicAccess_of_isOk haccess) htopic

lemma groups_spec : groupsEndpoint.Spec false :=
  .of_unchecked (fun _ _ _ _ h => map_of_filter h) fun _ query _ => listGroups_eq query

lemma members_spec : membersEndpoint.Spec false := by
  refine .of_unchecked (fun s query c k h => map_of_filter h) fun s query hv => ?_
  have hmember := cond_of_ne_nil hv
  have hvisible : membersEndpoint.visible s query = memberRows s query.groupId := if_pos hmember
  rw [hvisible]
  exact listMembers_eq query hmember

lemma chatrooms_spec : chatroomsEndpoint.Spec true := by
  refine .of_checked (fun _ _ => Iff.rfl) (fun s query c k h => map_of_filter h) fun s query hs hv => ?_
  have hmember := cond_of_ne_nil hv
  have hvisible : chatroomsEndpoint.visible s query = visibleChatrooms s query.groupId := if_pos hmember
  rw [hvisible, except_map_id]
  exact listChatrooms_eq hs query hmember

lemma messageHistory_spec : messageHistoryEndpoint.Spec true := by
  have hturn : ∀ (items : List MessageHistoryRecord) (a : MessageHistoryRecord), a ∈ List.reverse items ↔ a ∈ items :=
    fun _ _ => List.mem_reverse
  refine .of_checked hturn (fun s query c k h => map_of_filter h) fun s query hs hv => ?_
  have hmember : accesses s query.chatroomId query.userId ≠ [] := fun hnil => hv (if_pos (List.isEmpty_iff.mpr hnil))
  have hvisible : messageHistoryEndpoint.visible s query = visibleMessages s query.chatroomId :=
    if_neg fun h => hmember (List.isEmpty_iff.mp h)
  rw [hvisible]
  exact congrArg (Except.map fun page => (⟨page.items.reverse, page.nextCursor⟩ : Page MessageHistoryRecord Uuid))
    (messagesBefore_eq hs query hmember)

lemma cursorMedia_standsAt {s : Store Row} {chatroomId c : Uuid} {k : MediaPlace} (h : cursorMedia s chatroomId c = some k) :
    chatroomMediaEndpoint.standsAt s c = some k := by
  obtain ⟨item, hitem, rfl⟩ := Option.map_eq_some_iff.mp h
  simp only [cursorItem, Option.bind_eq_bind, Option.bind_eq_some_iff, Option.filter_eq_some_iff, Option.some.injEq] at hitem
  obtain ⟨media, ⟨hmedia, -⟩, message, ⟨hmessage, -⟩, rfl⟩ := hitem
  simp [chatroomMediaEndpoint, hmedia, hmessage]

lemma chatroomMedia_spec : chatroomMediaEndpoint.Spec true := by
  refine .of_checked (fun _ _ => Iff.rfl) (fun s query c k h => cursorMedia_standsAt h) fun s query hs hv => ?_
  have hmember : accesses s query.chatroomId query.userId ≠ [] := fun hnil => hv (if_pos (List.isEmpty_iff.mpr hnil))
  have hvisible : chatroomMediaEndpoint.visible s query = visibleMedia s query.chatroomId :=
    if_neg fun h => hmember (List.isEmpty_iff.mp h)
  rw [hvisible, except_map_id]
  exact chatroomMedia_eq hs query hmember

lemma notifications_spec : notificationsEndpoint.Spec true := by
  refine .of_checked (fun _ _ => Iff.rfl) (fun s query c k h => map_of_filter h) fun s query hs _ => ?_
  rw [except_map_id]
  change (listNotifications s query).map Prod.fst = _
  rw [listNotifications_eq hs query]
  split
  · rename_i hfound
    exact (if_pos hfound).symm
  · rename_i hlost
    exact (if_neg hlost).symm

lemma endpoint_spec {C : Type} [LinearOrder C] (dateOf : Time → Nat) (collation : String → C) (name : ListName) :
    (endpoint dateOf collation name).Spec name.checksCursor := by
  cases name with
  | topics => exact topics_spec dateOf
  | topicTags => exact topicTags_spec collation
  | groups => exact groups_spec
  | members => exact members_spec
  | chatrooms => exact chatrooms_spec
  | messageHistory => exact messageHistory_spec
  | chatroomMedia => exact chatroomMedia_spec
  | notifications => exact notifications_spec

/-- A cursor that was handed out comes back when its row has left the list: whatever the two states are, the next page is
an explicit error or goes on with the items after the row exactly if the list tests its cursor or still finds the row. -/
theorem next_page_keeps_iff {C : Type} [LinearOrder C] (dateOf : Time → Nat) (collation : String → C) (name : ListName)
    (s₀ s : Store Row) (query₀ query : (endpoint dateOf collation name).Query) (row : (endpoint dateOf collation name).Item)
    (hs : Constraints s) (hstale : (endpoint dateOf collation name).Stale s₀ s query₀ query row) :
    (endpoint dateOf collation name).Keeps s query ((endpoint dateOf collation name).itemsAfter s query row) ↔
      name.checksCursor = true ∨
        ((endpoint dateOf collation name).lookup s query ((endpoint dateOf collation name).id row)).isSome = true :=
  (endpoint_spec dateOf collation name).keeps_iff hs hstale.limit hstale.after hstale.items

end Endpoints

section Example

/-- User 1 is a member of group 10, where the topic 31 is newer than the topic 30; `deletedAt` is when 31 and its room
were deleted. -/
def twoTopics (deletedAt : Option Time) : Store Row := Store.empty.apply
  [⟨.topics 31, some { groupId := 10, authorId := 1, idempotencyKey := 51, requestFingerprint := "", title := "b",
                       createdAt := 4, deletedAt }⟩,
   ⟨.topics 30, some { groupId := 10, authorId := 1, idempotencyKey := 50, requestFingerprint := "", title := "a",
                       createdAt := 3 }⟩,
   ⟨.chatrooms 41, some { groupId := 10, type := .topic, topicId := some 31, createdAt := 2, deletedAt }⟩,
   ⟨.chatrooms 40, some { groupId := 10, type := .topic, topicId := some 30, createdAt := 3 }⟩,
   ⟨.memberships 11, some { groupId := 10, userId := 1, role := .owner }⟩,
   ⟨.groups 10, some { name := "g", ownerId := 1 }⟩,
   ⟨.users 1, some { nickname := "n" }⟩]

def newerTopic : TopicRecord := ⟨31, 10, 1, "n", none, "b", none, .seed, [], 41, false, 4, 0⟩

/-- The first page of the topics shows 31 and gives its cursor. After the deletion of 31 the page after that cursor is
empty and the last, although the topic 30 is there. -/
theorem topics_after_deleted_topic :
    (topicsEndpoint fun t => t).Stale (twoTopics none) (twoTopics (some 9)) ⟨10, 1, none, 1, none⟩ ⟨10, 1, some 31, 1, none⟩
        newerTopic ∧
      listTopicPage (fun t => t) (twoTopics (some 9)) ⟨10, 1, some 31, 1, none⟩ = .ok ⟨[], none⟩ ∧
      ¬ (topicsEndpoint fun t => t).Keeps (twoTopics (some 9)) ⟨10, 1, some 31, 1, none⟩
        ((topicsEndpoint fun t => t).itemsAfter (twoTopics (some 9)) ⟨10, 1, some 31, 1, none⟩ newerTopic) := by
  have hempty : listTopicPage (fun t => t) (twoTopics (some 9)) ⟨10, 1, some 31, 1, none⟩ = .ok ⟨[], none⟩ := rfl
  have hitems : (topicsEndpoint fun t => t).itemsAfter (twoTopics (some 9)) ⟨10, 1, some 31, 1, none⟩ newerTopic ≠ [] := by
    have hlength : ((topicsEndpoint fun t => t).itemsAfter (twoTopics (some 9)) ⟨10, 1, some 31, 1, none⟩ newerTopic).length = 1 :=
      rfl
    intro hnil
    rw [hnil] at hlength
    cases hlength
  refine ⟨⟨⟨⟨[newerTopic], some 31⟩, rfl, List.mem_singleton_self _, rfl⟩, rfl, Nat.le_refl 1, ?_, hitems⟩, hempty, ?_⟩
  · have hids : ((topicsEndpoint fun t => t).visible (twoTopics (some 9)) ⟨10, 1, some 31, 1, none⟩).map
        (topicsEndpoint fun t => t).id = [30] := rfl
    rw [hids]
    change (31 : Nat) ∉ [30]
    decide
  · rintro (herror | ⟨page, hpage, -, hlast⟩)
    · rw [show (topicsEndpoint fun t => t).answer _ _ = _ from hempty] at herror
      cases herror
    · rw [show (topicsEndpoint fun t => t).answer _ _ = _ from hempty] at hpage
      cases hpage
      obtain ⟨a, ha⟩ := List.exists_mem_of_ne_nil _ hitems
      exact absurd (hlast rfl a ha) List.not_mem_nil

lemma twoTopics_constraints (deletedAt : Option Time) : Constraints (twoTopics deletedAt) := by
  have hmessage : ∀ {i}, (twoTopics deletedAt).get (.messages i) = none := by
    intro i
    simp [twoTopics]
  refine .of_no_media (fun i c h => ?_) (fun i m h => ?_) (fun i m u h _ => ?_) (fun i => ?_) fun i => ?_
  · by_cases h41 : i = 41
    · subst h41
      simp [twoTopics] at h
      subst h
      simp
    · by_cases h40 : i = 40
      · subst h40
        simp [twoTopics] at h
        subst h
        simp
      · simp [twoTopics, h41, h40] at h
  · rw [hmessage] at h
    cases h
  · rw [hmessage] at h
    cases h
  · simp [twoTopics]
  · simp [twoTopics]

/-- The list of the rooms tests its cursor: after the deletion of the room 41 it refuses it. -/
theorem chatrooms_after_deleted_room :
    chatroomsEndpoint.Stale (twoTopics none) (twoTopics (some 9)) ⟨10, 1, none, 1⟩ ⟨10, 1, some 41, 1⟩
        ⟨41, 10, .topic, some 31, 2⟩ ∧
      chatroomsEndpoint.Keeps (twoTopics (some 9)) ⟨10, 1, some 41, 1⟩
        (chatroomsEndpoint.itemsAfter (twoTopics (some 9)) ⟨10, 1, some 41, 1⟩ ⟨41, 10, .topic, some 31, 2⟩) := by
  have hstale : chatroomsEndpoint.Stale (twoTopics none) (twoTopics (some 9)) ⟨10, 1, none, 1⟩ ⟨10, 1, some 41, 1⟩
      ⟨41, 10, .topic, some 31, 2⟩ := by
    refine ⟨⟨⟨[⟨41, 10, .topic, some 31, 2⟩], some 41⟩, rfl, List.mem_singleton_self _, rfl⟩, rfl, Nat.le_refl 1, ?_, ?_⟩
    · have hids : (chatroomsEndpoint.visible (twoTopics (some 9)) ⟨10, 1, some 41, 1⟩).map chatroomsEndpoint.id = [40] := rfl
      rw [hids]
      change (41 : Nat) ∉ [40]
      decide
    · intro hnil
      have hlength := congrArg List.length hnil
      cases hlength
  exact ⟨hstale, (next_page_keeps_iff (fun t => t) (fun tag : String => tag) .chatrooms _ _ _ _ _ (twoTopics_constraints _)
    hstale).mpr (.inl rfl)⟩

end Example

end JamyeServer.Pagination
