import JamyeServer.CursorLog
import JamyeServer.Conversations.Delta
import JamyeServer.Events.Topics
import JamyeServer.Postgres.Lists

/-!
# Reading a conversation by its last cursor

The events of a conversation commit in the order of their cursors. A client that asks for the delta after the last cursor
it has received gets every event once and in order, whatever commits between its requests.
-/

namespace JamyeServer.Events

open ReadCommitted Postgres Topics Rooms Notifications Keyset CursorLog Wire Delta

variable {settings : Settings} {text : TopicText} {ticks : Time → Time → Bool} {g : Shared} {room : Uuid}

section Runs

/-- Every transaction ends as the contract says. -/
theorem programs : (contract settings text ticks).Programs := by
  intro job g hg r l' g' h
  cases r with
  | error e => exact trivial
  | ok out =>
    have hrun : Runs (contract settings text ticks) (program settings text job) (Local.begin g) g (.ok out) l' g' l' g' :=
      ⟨h, .refl⟩
    cases job with
    | send actorId input =>
      obtain ⟨outcome, l₁, g₁, h₁, r₁⟩ := Runs.bind hrun
      obtain ⟨-, rfl⟩ := r₁.ret
      exact commit_sendMessageHttp h₁.mapError rfl hg
    | deleteMessage actorId chatroomId messageId =>
      obtain ⟨outcome, l₁, g₁, h₁, r₁⟩ := Runs.bind hrun
      obtain ⟨-, rfl⟩ := r₁.ret
      exact ⟨none, rows_deleteMessage h₁.mapError rfl hg, paired_none⟩
    | moderatorDelete messageId =>
      obtain ⟨outcome, l₁, g₁, h₁, r₁⟩ := Runs.bind hrun
      obtain ⟨-, rfl⟩ := r₁.ret
      exact ⟨none, rows_moderatorDeleteMessage h₁.mapError rfl hg, paired_none⟩
    | createTopic authorId groupId idempotencyKey title =>
      obtain ⟨outcome, l₁, g₁, h₁, r₁⟩ := Runs.bind hrun
      obtain ⟨-, rfl⟩ := r₁.ret
      exact commit_createTopicHttp h₁.mapError rfl hg
    | deleteTopic command =>
      obtain ⟨outcome, l₁, g₁, h₁, r₁⟩ := Runs.bind hrun
      obtain ⟨-, rfl⟩ := r₁.ret
      exact ⟨none, rows_deleteTopic h₁.mapError rfl hg, paired_none⟩

lemma sound_of_reachable {s : State} (h : (system settings text ticks).Reachable Starts s) :
    Sound (contract settings text ticks) s :=
  reachable_sound (fun _ _ _ _ _ _ _ => ⟨trivial, fun _ _ => trivial⟩) programs h

/-- An event is never lost and never moved. -/
lemma event_kept (hg : History (contract settings text ticks) g) {n m : Nat} (hnm : n ≤ m) (hm : m ≤ g.csn) {i : Uuid}
    {r : ConversationEvent} (hr : (g.version n).get (.conversationEvents i) = some r) :
    ∃ r', (g.version m).get (.conversationEvents i) = some r' ∧ SamePlace r r' := by
  refine hg.stable (P := fun s => ∃ r', s.get (.conversationEvents i) = some r' ∧ SamePlace r r') ?_ hnm hm ⟨r, hr, .refl r⟩
  rintro g₁ e - hcommit ⟨r₁, hr₁, hsame⟩
  obtain ⟨own, hrows, -⟩ := hcommit.ok
  have hrow := hrows (.conversationEvents i)
  rw [hr₁] at hrow
  obtain ⟨r', hr', hsame'⟩ := hrow
  exact ⟨r', hr', hsame.trans hsame'⟩

/-- An event that is new in a version comes after all events of its conversation in the versions before. -/
lemma event_last (hg : History (contract settings text ticks) g) {n m : Nat} (hnm : n ≤ m) (hm : m ≤ g.csn) {i j : Uuid}
    {r r' : ConversationEvent} (hr : (g.version n).get (.conversationEvents i) = some r)
    (hr' : (g.version m).get (.conversationEvents j) = some r') (hnew : (g.version n).get (.conversationEvents j) = none)
    (hroom : r.conversationId = r'.conversationId) : r.cursor < r'.cursor := by
  obtain ⟨e, g₁, hn₁, hm₁, -, -, hcommit, hnone, hsome, hlater⟩ :=
    hg.commit_of_change (P := fun s => s.get (.conversationEvents j) = none) hnm hm hnew (by rw [hr']; exact Option.some_ne_none _)
  obtain ⟨hbefore, hafter⟩ := hlater.version_commit
  obtain ⟨r₁, hr₁⟩ := Option.ne_none_iff_exists'.mp hsome
  obtain ⟨own, hrows, -⟩ := hcommit.ok
  have hrow := hrows (.conversationEvents j)
  rw [hnone] at hrow
  have hlast := (hrow r₁ hr₁).1.last
  obtain ⟨r₀, hr₀, hcursor₀, hroom₀, -⟩ := event_kept hg hn₁ (by omega) hr
  rw [hbefore] at hr₀
  rw [← hafter] at hr₁
  obtain ⟨r₂, hr₂, hcursor₂, hroom₂, -⟩ := event_kept hg hm₁ hm hr₁
  obtain rfl : r₂ = r' := Option.some.inj (hr₂.symm.trans hr')
  rw [hcursor₂, ← hcursor₀]
  exact hlast i r₀ hr₀ (hroom₀.trans (hroom.trans hroom₂))

end Runs

section Conversation

/-- The events of a conversation with their cursors. -/
def roomEvents (s : Store Row) (room : Uuid) : List (Uuid × Nat) :=
  s.scan Tables.conversationEvents fun i e => if e.conversationId = room then some (i, e.cursor) else none

lemma mem_roomEvents {s : Store Row} {a : Uuid × Nat} : a ∈ roomEvents s room ↔
    ∃ r, s.get (.conversationEvents a.1) = some r ∧ r.conversationId = room ∧ r.cursor = a.2 := by
  rw [roomEvents, Store.mem_scan]
  constructor
  · rintro ⟨i, r, hr, hf⟩
    split at hf
    · cases hf
      exact ⟨r, hr, ‹_›, rfl⟩
    · cases hf
  · rintro ⟨r, hr, hroom, hcursor⟩
    exact ⟨a.1, r, hr, by rw [if_pos hroom, hcursor]⟩

/-- No two events have the same cursor. -/
lemma roomEvents_nodup {s : Store Row} (h : Unique index s) : ((roomEvents s room).map Prod.snd).Nodup := by
  refine Store.nodup_scan s Tables.conversationEvents fun i r a i' r' a' hr hf hr' hf' heq => ?_
  split at hf
  · split at hf'
    · cases hf
      cases hf'
      have hcursor : r.cursor = r'.cursor := heq
      have hkey := h (.conversationEvents i) (.conversationEvents i') (.eventCursor r.cursor)
        (by rw [show s.get (.conversationEvents i) = some r from hr]; exact List.mem_singleton_self _)
        (by rw [show s.get (.conversationEvents i') = some r' from hr', hcursor]; exact List.mem_singleton_self _)
      exact Key.conversationEvents.inj hkey
    · cases hf'
  · cases hf

/-- The events of a conversation in the order of their cursors. -/
def timeline (s : Store Row) (room : Uuid) : List (Uuid × Nat) := sorted Prod.snd (roomEvents s room)

/-- The conversation is a log that grows. -/
lemma roomEvents_grows (hg : History (contract settings text ticks) g) :
    Grows Prod.snd (fun n => roomEvents (g.version n) room) g.csn where
  nodup n hn := by
    obtain ⟨g₁, hg₁, -, hdb, -⟩ := hg.version hn
    rw [← hdb]
    exact roomEvents_nodup hg₁.unique
  kept n m hnm hm a ha := by
    obtain ⟨r, hr, hroom, hcursor⟩ := mem_roomEvents.mp ha
    obtain ⟨r', hr', hcursor', hroom', -⟩ := event_kept hg hnm hm hr
    exact mem_roomEvents.mpr ⟨r', hr', hroom'.trans hroom, hcursor'.trans hcursor⟩
  last n m hnm hm a ha hnew b hb := by
    obtain ⟨r', hr', hroom', hcursor'⟩ := mem_roomEvents.mp ha
    obtain ⟨r, hr, hroom, hcursor⟩ := mem_roomEvents.mp hb
    rw [← hcursor, ← hcursor']
    refine event_last hg hnm hm hr hr' ?_ (hroom.trans hroom'.symm)
    cases hbase : (g.version n).get (.conversationEvents a.1) with
    | none => rfl
    | some r₀ =>
      obtain ⟨r₁, hr₁, hcursor₁, hroom₁, -⟩ := event_kept hg hnm hm hbase
      obtain rfl : r₁ = r' := Option.some.inj (hr₁.symm.trans hr')
      exact (hnew (mem_roomEvents.mpr ⟨r₀, hbase, hroom₁.symm.trans hroom', hcursor₁.symm.trans hcursor'⟩)).elim

end Conversation

section Pages

variable (F : Formats)

def storedEvent (i : Uuid) (e : ConversationEvent) : StoredEvent :=
  ⟨i, e.cursor, e.conversationId, eventType e.payload, 1, dataJson F e.payload, e.occurredAt⟩

def chatroomTypeText : ChatroomType → String
  | .main => "main"
  | .topic => "topic"

/-- What the statement of a delta page finds in a state. -/
def deltaSnapshot (s : Store Row) (userId chatroomId : Uuid) : Snapshot where
  allowed := accountLive s userId && !(accesses s chatroomId userId).isEmpty
  feedGroupId := (s.get (.chatrooms chatroomId)).map Chatroom.groupId
  feedChatroomType := (s.get (.chatrooms chatroomId)).map fun c => chatroomTypeText c.type
  events := s.scan Tables.conversationEvents fun i e => some (storedEvent F i e)
  senderDeleted := fun printed => (s.ids Tables.users fun i u => decide (F.uuid i = printed) && u.deletedAt.isSome) ≠ []

variable {F} {s : Store Row} {userId : Uuid}

/-- The place of an event, as a client sees it. -/
def shown (event : Uuid × Nat) : Uuid × String := (event.1, toString event.2)

lemma written_deltaSnapshot : ∀ e ∈ (deltaSnapshot F s userId room).events, e.eventType ∈ writtenTypes := by
  intro e he
  obtain ⟨i, r, -, hf⟩ := Store.mem_scan.mp he
  cases hf
  cases hp : r.payload <;> simp [storedEvent, hp, eventType, writtenTypes]

/-- The rows of a page are the events of the conversation after the cursor. -/
lemma pageRows_eq (h : Unique index s) (query : DeltaQuery) (hroom : query.conversationId = room)
    (hallowed : (deltaSnapshot F s userId room).allowed = true) :
    (pageRows (deltaSnapshot F s userId room) query).map (fun e => (e.id, e.cursor)) =
      (beyond Prod.snd (query.after.getD 0) (timeline s room)).take (query.limit + 1) := by
  have hrows : ((deltaSnapshot F s userId room).events.filter fun e => decide (e.conversationId = query.conversationId) &&
      decide (query.after.getD 0 < e.cursor) && (deltaSnapshot F s userId room).allowed).map (fun e => (e.id, e.cursor)) =
      beyond Prod.snd (query.after.getD 0) (roomEvents s room) := by
    subst hroom
    simp only [hallowed, Bool.and_true]
    simp only [deltaSnapshot, roomEvents, Store.scan, beyond, List.filter_filterMap, List.map_filterMap]
    refine List.filterMap_congr fun k _ => ?_
    cases k with
    | conversationEvents i =>
      cases hr : s.get (.conversationEvents i) with
      | none => simp [hr]
      | some r =>
        by_cases hc : r.conversationId = query.conversationId <;> by_cases hp : query.after.getD 0 < r.cursor <;>
          simp [hr, storedEvent, hc, hp, Option.filter]
    | _ => rfl
  rw [pageRows, List.map_map, timeline, ← sorted_beyond (roomEvents_nodup h), ← hrows,
    sorted_map (f := fun e : StoredEvent => (e.id, e.cursor)) (fun _ => rfl), List.map_take]
  rfl

/-- A member's room is there. -/
lemma feed_of_allowed (hallowed : (deltaSnapshot F s userId room).allowed = true) :
    ∃ groupId type, (deltaSnapshot F s userId room).feedGroupId = some groupId ∧
      (deltaSnapshot F s userId room).feedChatroomType = some type := by
  simp only [deltaSnapshot, Bool.and_eq_true, Bool.not_eq_true', List.isEmpty_eq_false_iff] at hallowed ⊢
  have haccess := hallowed.2
  unfold accesses at haccess
  split at haccess
  · exact (haccess rfl).elim
  · rename_i c hc
    rw [hc]
    exact ⟨_, _, rfl, rfl⟩

lemma deltaEvents_eq (query : DeltaQuery) (hallowed : (deltaSnapshot F s userId room).allowed = true) :
    ((fetchRows (deltaSnapshot F s userId room) query).filterMap (deltaEvent query.conversationId)).map
      (fun e => (e.event.id, e.event.cursor)) =
      (pageRows (deltaSnapshot F s userId room) query).map fun e => (e.id, e.cursor) := by
  obtain ⟨groupId, type, hgroup, htype⟩ := feed_of_allowed hallowed
  unfold fetchRows
  split
  · rename_i hnil
    simp [hnil, deltaEvent]
  · rw [List.filterMap_map, List.map_filterMap, ← List.filterMap_eq_map]
    refine List.filterMap_congr fun e _ => ?_
    simp [deltaEvent, hgroup, htype]

lemma projectEvent_shown {projection : ContractProjection} {event : DeltaEvent} {item : DeltaItem}
    (h : projectEvent F projection event = .ok item) :
    (item.eventId, item.cursor) = shown (event.event.id, event.event.cursor) := by
  have hv1 : ∀ {item}, projectV1Event F event.event = .ok item →
      (item.eventId, item.cursor) = shown (event.event.id, event.event.cursor) := by
    intro item hitem
    unfold projectV1Event at hitem
    split at hitem
    · cases hitem
      rfl
    · cases hscope : safeReconcileScope event.event with
      | error e =>
        rw [hscope] at hitem
        cases hitem
      | ok scope =>
        rw [hscope] at hitem
        cases hitem
        rfl
  cases projection with
  | previous => exact hv1 h
  | current =>
    change projectV2Event F event = .ok item at h
    unfold projectV2Event at h
    split at h
    · cases h
      rfl
    · split at h
      · cases h
        rfl
      · exact hv1 h

lemma mapM_shown {projection : ContractProjection} {events : List DeltaEvent} {items : List DeltaItem}
    (h : events.mapM (projectEvent F projection) = .ok items) :
    items.map (fun item => (item.eventId, item.cursor)) = (events.map fun e => (e.event.id, e.event.cursor)).map shown := by
  induction events generalizing items with
  | nil =>
    cases h
    rfl
  | cons event rest ih =>
    rw [List.mapM_cons] at h
    cases hitem : projectEvent F projection event with
    | error e =>
      rw [hitem] at h
      cases h
    | ok item =>
      cases hitems : rest.mapM (projectEvent F projection) with
      | error e =>
        rw [hitem, hitems] at h
        cases h
      | ok items' =>
        rw [hitem, hitems] at h
        cases h
        rw [List.map_cons, List.map_cons, List.map_cons, projectEvent_shown hitem, ih hitems]

/-- All events that the server writes can be shown. -/
lemma items_of_written (query : DeltaQuery) : ∃ items,
    (((fetchRows (deltaSnapshot F s userId room) query).filterMap (deltaEvent query.conversationId)).take query.limit).mapM
      (projectEvent F query.projection) = .ok items := by
  obtain ⟨items, hcurrent, hprevious⟩ := mapM_versions (F := F) fun event hevent =>
    deltaEvents_written query written_deltaSnapshot event (List.mem_of_mem_take hevent)
  cases query.projection with
  | current => exact ⟨items, hcurrent⟩
  | previous => exact ⟨_, hprevious⟩

/-- A member is answered with the events of the conversation after the cursor, up to the limit. -/
lemma page_shown (h : Unique index s) (query : DeltaQuery) (hroom : query.conversationId = room) (hlimit : 1 ≤ query.limit)
    (hallowed : (deltaSnapshot F s userId room).allowed = true) :
    ∃ answer, page F (deltaSnapshot F s userId room) query = .ok answer ∧
      answer.items.map (fun item => (item.eventId, item.cursor)) =
        ((beyond Prod.snd (query.after.getD 0) (timeline s room)).take query.limit).map shown ∧
      answer.nextCursor.isSome = decide (query.limit < (beyond Prod.snd (query.after.getD 0) (timeline s room)).length) := by
  obtain ⟨items, hitems⟩ : ∃ items, (((fetchRows (deltaSnapshot F s userId room) query).filterMap
      (deltaEvent query.conversationId)).take query.limit).mapM (projectEvent F query.projection) = .ok items :=
    items_of_written query
  have hevents := (deltaEvents_eq query hallowed).trans (pageRows_eq h query hroom hallowed)
  have hplaces : items.map (fun item => (item.eventId, item.cursor)) =
      ((beyond Prod.snd (query.after.getD 0) (timeline s room)).take query.limit).map shown := by
    rw [mapM_shown hitems, List.map_take, hevents, List.take_take, Nat.min_eq_left (Nat.le_succ _)]
  have hlength : query.limit < ((fetchRows (deltaSnapshot F s userId room) query).filterMap
      (deltaEvent query.conversationId)).length ↔
        query.limit < (beyond Prod.snd (query.after.getD 0) (timeline s room)).length := by
    rw [← List.length_map (f := fun e : DeltaEvent => (e.event.id, e.event.cursor)), hevents, List.length_take]
    omega
  refine ⟨_, page_of_items query hallowed hitems, hplaces, ?_⟩
  dsimp only
  by_cases hmore : query.limit < (beyond Prod.snd (query.after.getD 0) (timeline s room)).length
  · have hne : items ≠ [] := by
      rintro rfl
      have hzero := congrArg List.length hplaces
      simp only [List.map_nil, List.length_nil, List.length_map, List.length_take] at hzero
      omega
    rw [if_pos (hlength.mpr hmore), decide_eq_true hmore, Option.isSome_map, List.getLast?_isSome.mpr hne]
  · rw [if_neg fun hlt => hmore (hlength.mp hlt), decide_eq_false hmore]
    rfl

end Pages

section Readers

variable (F : Formats) (g : Shared) (userId room : Uuid)

/-- What a client has received when it last read version `n`. Each request names the last cursor of what was received so
far, with any limit, in any version of the contract and at any later moment; `more` says whether the last page had a
next cursor. -/
inductive Reads : Nat → List DeltaItem → Bool → Prop
  | start : Reads 0 [] true
  | read {n m limit : Nat} {received : List DeltaItem} {more : Bool} {after : Option Nat} {projection : ContractProjection}
      {answer : EventPage} : Reads n received more → n ≤ m → m ≤ g.csn → 1 ≤ limit →
      received.getLast?.map DeltaItem.cursor = after.map toString →
      page F (deltaSnapshot F (g.version m) userId room) ⟨room, after, limit, projection⟩ = .ok answer →
      Reads m (received ++ answer.items) answer.nextCursor.isSome

variable {F g userId room}

/-- A request names the cursor of the last event received, or none before the first. -/
lemma beyond_eq_rest {received : List DeltaItem} {events rows : List (Uuid × Nat)} {after : Option Nat}
    (hpositive : ∀ a ∈ rows, 0 < a.2)
    (hshown : received.map (fun item => (item.eventId, item.cursor)) = events.map shown)
    (hafter : received.getLast?.map DeltaItem.cursor = after.map toString) :
    beyond Prod.snd (after.getD 0) (sorted Prod.snd rows) = rest Prod.snd (place Prod.snd events) rows := by
  have hlast : received.getLast?.map (fun item => (item.eventId, item.cursor)) = events.getLast?.map shown := by
    rw [← List.getLast?_map, hshown, List.getLast?_map]
  have hcursor : after.map toString = events.getLast?.map fun a => toString a.2 := by
    have hsnd := congrArg (Option.map Prod.snd) hlast
    simp only [Option.map_map] at hsnd
    exact hafter.symm.trans hsnd
  cases hevents : events.getLast? with
  | none =>
    rw [hevents] at hcursor
    obtain rfl : after = none := Option.map_eq_none_iff.mp hcursor
    simp only [place, hevents, rest, Option.map_none, Option.getD_none, beyond]
    exact List.filter_eq_self.mpr fun a ha => decide_eq_true (hpositive a (mem_sorted.mp ha))
  | some a =>
    rw [hevents] at hcursor
    obtain ⟨c, rfl, hc⟩ := Option.map_eq_some_iff.mp hcursor
    obtain rfl := Text.toString_injective hc
    simp [place, hevents, rest]

/-- A client is a reader of the log of the conversation. -/
lemma Reads.resumes (hg : History (contract settings text ticks) g) {n : Nat} {received : List DeltaItem} {more : Bool}
    (h : Reads F g userId room n received more) : ∃ events : List (Uuid × Nat),
      received.map (fun item => (item.eventId, item.cursor)) = events.map shown ∧
        Resumes Prod.snd (fun n => roomEvents (g.version n) room) g.csn n events more := by
  induction h with
  | start => exact ⟨[], rfl, .start⟩
  | @read n m limit received more after projection answer _ hnm hm hlimit hafter hpage ih =>
    obtain ⟨events, hshown, hresumes⟩ := ih
    obtain ⟨g₁, hg₁, -, hdb, -⟩ := hg.version hm
    have hunique : Unique index (g.version m) := hdb ▸ hg₁.unique
    have hallowed : (deltaSnapshot F (g.version m) userId room).allowed = true := by
      by_contra hnot
      have hhead := fetchRows_allowed (deltaSnapshot F (g.version m) userId room) ⟨room, after, limit, projection⟩
      rw [Bool.eq_false_of_not_eq_true hnot] at hhead
      rw [page, if_pos (by rw [hhead]; rfl)] at hpage
      cases hpage
    obtain ⟨answer', hpage', hitems, hmore⟩ := page_shown hunique ⟨room, after, limit, projection⟩ rfl hlimit hallowed
    obtain rfl : answer' = answer := Except.ok.inj (hpage'.symm.trans hpage)
    -- the request names the cursor of the last event, or none before the first
    have hrest : beyond Prod.snd (after.getD 0) (timeline (g.version m) room) =
        rest Prod.snd (place Prod.snd events) (roomEvents (g.version m) room) :=
      beyond_eq_rest (fun a ha => by
        obtain ⟨r, hr, -, hcursor⟩ := mem_roomEvents.mp ha
        rw [← hdb] at hr
        exact hcursor ▸ (cursor_drawn hg₁ hr).1) hshown hafter
    rw [hrest] at hitems hmore
    refine ⟨events ++ (rest Prod.snd (place Prod.snd events) (roomEvents (g.version m) room)).take limit, ?_, ?_⟩
    · rw [List.map_append, List.map_append, hshown, hitems]
    · rw [hmore]
      exact hresumes.read hnm hm hlimit

/-- In every run: what a client has received is, at every later moment, the beginning of the conversation in the order of
the cursors, each event once, so that no event ever commits behind the reader; a page without a next cursor ends with the
last event; and a member is always answered. -/
theorem delta_reader_never_misses {s : State} (hs : (system settings text ticks).Reachable Starts s) {n : Nat}
    {received : List DeltaItem} {more : Bool} (hreads : Reads F s.shared userId room n received more) :
    (∀ m, n ≤ m → m ≤ s.shared.csn → received.map (fun item => (item.eventId, item.cursor)) =
        ((timeline (s.shared.version m) room).take received.length).map shown) ∧
      (more = false → received.map (fun item => (item.eventId, item.cursor)) =
        (timeline (s.shared.version n) room).map shown) ∧
      ∀ m, m ≤ s.shared.csn → (deltaSnapshot F (s.shared.version m) userId room).allowed = true → ∀ after limit projection,
        1 ≤ limit → ∃ answer, page F (deltaSnapshot F (s.shared.version m) userId room) ⟨room, after, limit, projection⟩ =
          .ok answer := by
  have hg := (sound_of_reachable hs).history
  obtain ⟨events, hshown, hresumes⟩ := hreads.resumes hg
  obtain ⟨hfirst, hall⟩ := hresumes.received_first (roomEvents_grows hg)
  have hlength : received.length = events.length := by
    have := congrArg List.length hshown
    simpa using this
  refine ⟨fun m hnm hm => ?_, fun hmore => ?_, fun m hm hallowed after limit projection hlimit => ?_⟩
  · rw [hshown, hlength, timeline, ← hfirst m hnm hm]
  · rw [hshown, timeline, ← hall hmore]
  · obtain ⟨g₁, hg₁, -, hdb, -⟩ := hg.version hm
    obtain ⟨answer, hpage, -⟩ := page_shown (hdb ▸ hg₁.unique) ⟨room, after, limit, projection⟩ rfl hlimit hallowed
    exact ⟨answer, hpage⟩

end Readers

section Sample

open Conversations (sampleStore starts_sampleStore)

abbrev sampleSystem := system ⟨100, 1000, id⟩ ⟨id, id⟩ fun t t' => decide (t ≤ t')

lemma starts_sample : Starts ⟨sampleStore, [], 0, 0, [30]⟩ where
  log := rfl
  unique := starts_sampleStore.unique
  cursors i r hr := by
    have hnone : sampleStore.get (.conversationEvents i) = none := Store.get_apply_of_notMem _ (by simp)
    rw [hnone] at hr
    cases hr
  rooms i hi := by
    by_contra hused
    refine hi (Store.get_apply_of_notMem _ ?_)
    simpa using hused

/-- The member reads after the first of two messages and again after the second. -/
def readerSchedule : List (Label Job) := Label.serial 1 [
  (.send 1 ⟨30, 8, some "hello", []⟩, 300, 74),
  (.send 1 ⟨30, 9, some "world", []⟩, 400, 75)]

def sampleRead (s : State) (version : Nat) (after : Option Nat) : Option (List (Uuid × String) × Bool) :=
  match page plainFormats (deltaSnapshot plainFormats (s.shared.version version) 2 30) ⟨30, after, 1, .current⟩ with
  | .ok answer => some (answer.items.map fun item => (item.eventId, item.cursor), answer.nextCursor.isSome)
  | .error _ => none

lemma of_sampleRead {s : State} {version : Nat} {after : Option Nat} {places : List (Uuid × String)} {more : Bool}
    (h : sampleRead s version after = some (places, more)) : ∃ answer,
      page plainFormats (deltaSnapshot plainFormats (s.shared.version version) 2 30) ⟨30, after, 1, .current⟩ = .ok answer ∧
        answer.items.map (fun item => (item.eventId, item.cursor)) = places ∧ answer.nextCursor.isSome = more := by
  unfold sampleRead at h
  split at h
  · rename_i answer hpage
    cases h
    exact ⟨answer, hpage, rfl, rfl⟩
  · cases h

/-- The two requests of the member end with the whole conversation. -/
theorem member_reads_both_messages : ∃ s : State, sampleSystem.Reachable Starts s ∧ ∃ received,
    Reads plainFormats s.shared 2 30 2 received false ∧ received.length = 2 ∧
      received.map (fun item => (item.eventId, item.cursor)) = (timeline (s.shared.version 2) 30).map shown := by
  have hrun : (sampleSystem.run ⟨⟨sampleStore, [], 0, 0, [30]⟩, []⟩ readerSchedule).any (fun s =>
      decide (s.shared.csn = 2) && decide (sampleRead s 1 none = some ([(344, "1")], false)) &&
        decide (sampleRead s 2 (some 1) = some ([(444, "2")], false))) = true := by
    decide +kernel
  obtain ⟨s, hs, hreads⟩ := (Option.any_eq_true _ _).mp hrun
  simp only [Bool.and_eq_true, decide_eq_true_eq] at hreads
  obtain ⟨⟨hcsn, hfirst⟩, hsecond⟩ := hreads
  have hreach := System.reachable_of_run _ starts_sample hs
  obtain ⟨answer₁, hpage₁, hitems₁, hmore₁⟩ := of_sampleRead hfirst
  obtain ⟨answer₂, hpage₂, hitems₂, hmore₂⟩ := of_sampleRead hsecond
  have hread₁ := Reads.start.read (Nat.zero_le 1) (by omega) (Nat.le_refl 1) rfl hpage₁
  rw [List.nil_append] at hread₁
  have hcursor : answer₁.items.getLast?.map DeltaItem.cursor = (some 1).map toString := by
    have hlast := congrArg (fun places => places.getLast?.map Prod.snd) hitems₁
    rw [List.getLast?_map, Option.map_map] at hlast
    exact hlast
  have hread₂ := hread₁.read (Nat.le_succ 1) (by omega) (Nat.le_refl 1) hcursor hpage₂
  rw [hmore₂] at hread₂
  have hlength := congrArg List.length (congrArg₂ (· ++ ·) hitems₁ hitems₂)
  exact ⟨s, hreach, _, hread₂, by simpa using hlength, (delta_reader_never_misses hreach hread₂).2.1 rfl⟩

end Sample

end JamyeServer.Events
