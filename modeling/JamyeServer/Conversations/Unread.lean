import JamyeServer.Conversations.System

/-!
# Unread topics

The flag of a topic counts the events of its room above the reader's marker. The deletion of a message empties its
event and leaves it there, so the event of a deleted message keeps the topic unread.
-/

namespace JamyeServer.Conversations

open ReadCommitted Postgres Messages Topics Notifications

section Flag

variable (s : Store Row) (userId chatroomId : Uuid)

/-- A live event of the room above the reader's marker. -/
def isAbove (e : ConversationEvent) : Bool :=
  decide (e.conversationId = chatroomId) && e.deletedAt.isNone && decide (lastReadCursor s userId chatroomId < e.cursor)

/-- The event of a message that is live in the room. -/
def ofLiveMessage (e : ConversationEvent) : Bool :=
  match e.payload with
  | .messageCreated data =>
    (s.get (.messages data.id)).any fun r => decide (r.chatroomId = chatroomId) && r.deletedAt.isNone
  | _ => false

/-- The event of a message that is not live in the room any more. -/
def ofDeletedMessage (e : ConversationEvent) : Bool :=
  match e.payload with
  | .messageCreated _ => !ofLiveMessage s chatroomId e
  | _ => false

def ofTopic (e : ConversationEvent) : Bool :=
  match e.payload with
  | .topicCreated _ => true
  | _ => false

/-- Some event above the marker satisfies `p`. -/
def someAbove (p : ConversationEvent → Bool) : Bool :=
  !(s.ids Tables.conversationEvents fun _ e => isAbove s userId chatroomId e && p e).isEmpty

/-- The creation of the topic is above the marker. -/
def topicCreationAbove : Bool := someAbove s userId chatroomId ofTopic

/-- A message that is still live in the room is above the marker. -/
def liveMessageAbove : Bool := someAbove s userId chatroomId (ofLiveMessage s chatroomId)

/-- A message that has been deleted is above the marker. -/
def deletedMessageAbove : Bool := someAbove s userId chatroomId (ofDeletedMessage s chatroomId)

/-- What the flag is for: the creation or a live message is above the marker. -/
def isUnread : Bool := topicCreationAbove s userId chatroomId || liveMessageAbove s userId chatroomId

variable {s userId chatroomId}

lemma someAbove_iff {p : ConversationEvent → Bool} : someAbove s userId chatroomId p = true ↔
    ∃ i e, s.get (.conversationEvents i) = some e ∧ isAbove s userId chatroomId e = true ∧ p e = true := by
  simp only [someAbove, Bool.not_eq_true', List.isEmpty_eq_false_iff_exists_mem, Store.mem_ids, Bool.and_eq_true]

lemma unread_iff_someAbove :
    unread s userId chatroomId = someAbove s userId chatroomId fun e => EventPayload.createsAny e.payload := by
  rw [Bool.eq_iff_iff, someAbove_iff]
  simp only [unread, isAbove, Bool.not_eq_true', List.isEmpty_eq_false_iff_exists_mem, Store.mem_ids, Bool.and_eq_true]
  grind

/-- An event that counts is one of the three. -/
lemma createsAny_eq (s : Store Row) (chatroomId : Uuid) (e : ConversationEvent) : EventPayload.createsAny e.payload =
    (ofTopic e || ofLiveMessage s chatroomId e || ofDeletedMessage s chatroomId e) := by
  unfold EventPayload.createsAny ofTopic ofDeletedMessage ofLiveMessage
  cases e.payload with
  | messageCreated data =>
    dsimp only
    cases Option.any _ (s.get (.messages data.id)) <;> rfl
  | _ => rfl

lemma unread_eq : unread s userId chatroomId = (isUnread s userId chatroomId || deletedMessageAbove s userId chatroomId) := by
  rw [unread_iff_someAbove, Bool.eq_iff_iff, isUnread, topicCreationAbove, liveMessageAbove, deletedMessageAbove]
  simp only [Bool.or_eq_true, someAbove_iff, createsAny_eq s chatroomId]
  grind

/-- The flag is right unless the messages above the marker are all deleted. -/
lemma unread_right_iff : unread s userId chatroomId = isUnread s userId chatroomId ↔
    (deletedMessageAbove s userId chatroomId = true → isUnread s userId chatroomId = true) := by
  rw [unread_eq]
  cases isUnread s userId chatroomId <;> cases deletedMessageAbove s userId chatroomId <;> simp

end Flag

section Answers

/-- The topics that a call answers with, and for which reader. A topic that the call creates itself is not among them:
its creation is what the marker of its author stands at. -/
def answers : Job → Outcome → List (Uuid × TopicRecord)
  | .createTopic authorId _ _ _, .topic (.existing topic) => [(authorId, topic)]
  | .patchTopic command, .record topic => [(command.actorId, topic)]
  | .getTopic _ _ actorId, .record topic => [(actorId, topic)]
  | .listTopics _ actorId _ _ _, .page topics _ => topics.map fun topic => (actorId, topic)
  | _, _ => []

/-- The state that a statement of a transaction sees: a version from its lifetime with its own writes so far. -/
def SeenBy (e : Entry) (g : Shared) (s : Store Row) : Prop :=
  ∃ n ws ws', e.ran.start ≤ n ∧ n ≤ g.csn ∧ e.ran.writes = ws' ++ ws ∧ s = (g.version n).apply ws

/-- The flags of all topics that a call answers with come from a state that it saw. -/
structure Ok (e : Entry) (g : Shared) : Prop where
  answers : ∀ reader topic, (reader, topic) ∈ answers e.job e.out →
    ∃ s, SeenBy e g s ∧ topic.unread = unread s reader topic.chatroomId

variable {server : Server} {ticks : Time → Time → Bool} {l l' L : Local} {g g' G : Shared}

def contract (server : Server) (ticks : Time → Time → Bool) : Contract (system server ticks) where
  Init := Starts
  log_init _ hg := hg.log
  unique_init _ hg := hg.unique
  Ok := Ok

/-- A snapshot of a transaction is a state that it sees. -/
lemma seenBy_of_select {e : Entry} {g₁ : Shared} (hran : e.ran = L) (hg : Evolve (contract server ticks) l g L G)
    (hl : l.start ≤ g.csn) (h₁ : Later (contract server ticks) g g₁) (h₂ : Later (contract server ticks) g₁ G) :
    SeenBy e G ((G.version g₁.csn).apply l.writes) := by
  obtain ⟨ws, hws⟩ := hg.writes
  refine ⟨g₁.csn, l.writes, ws, ?_, h₂.csn_le, by rw [hran, hws], rfl⟩
  rw [hran, hg.start_eq]
  exact Nat.le_trans hl h₁.csn_le

lemma topicRecord_unread {s : Store Row} {topicId actorId : Uuid} {topic : TopicRecord}
    (h : topicRecord s topicId actorId = some topic) : topic.unread = unread s actorId topic.chatroomId := by
  simp only [topicRecord, Option.bind_eq_bind, Option.bind_eq_some_iff, Option.some.injEq] at h
  obtain ⟨t, -, chatroomId, -, author, -, rfl⟩ := h
  rfl

lemma loadTopic_seen {topicId actorId : Uuid} {topic : TopicRecord} {e : Entry}
    (h : Runs (contract server ticks) (loadTopic topicId actorId) l g (.ok topic) l' g' L G) (hran : e.ran = L)
    (hl : l.start ≤ g.csn) : ∃ s, SeenBy e G s ∧ topic.unread = unread s actorId topic.chatroomId := by
  unfold loadTopic at h
  obtain ⟨found, l₁, g₁, h₁, r₁⟩ := h.bind
  obtain ⟨topic', l₂, g₂, h₂, r₂⟩ := r₁.bind
  obtain ⟨hfound, rfl⟩ := h₂.ofOption
  obtain ⟨tags, l₃, g₃, h₃, r₃⟩ := r₂.bind
  obtain ⟨rfl, rfl⟩ := r₃.ret
  obtain ⟨gs, hgs, hgs', -, hq⟩ := h₁.select
  refine ⟨_, seenBy_of_select hran h₁.evolve hl hgs (hgs'.trans h₁.rest.later), ?_⟩
  have hunread : topic'.unread = unread _ actorId topic'.chatroomId := topicRecord_unread (hq.symm.trans hfound)
  exact hunread

lemma createTopic_answers {authorId groupId idempotencyKey : Uuid} {title : String} {topic : TopicRecord} {e : Entry}
    (h : Runs (contract server ticks) (createTopicHttp server.settings server.text authorId groupId idempotencyKey title)
      l g (.ok (.existing topic)) l' g' L G) (hran : e.ran = L) (hl : Coherent index l g) :
    ∃ s, SeenBy e G s ∧ topic.unread = unread s authorId topic.chatroomId := by
  unfold createTopicHttp at h
  obtain ⟨command, l₁, g₁, h₁, r₁⟩ := h.bind
  obtain ⟨outcome, l₂, g₂, h₂, r₂⟩ := r₁.bind
  obtain ⟨context, l₃, g₃, h₃, r₃⟩ := r₂.bind
  obtain ⟨report, l₄, g₄, h₄, r₄⟩ := r₃.bind
  obtain ⟨rfl, rfl⟩ := r₄.ret
  have hauthor : command.authorId = authorId := by
    unfold prepareCreateTopic at h₁
    obtain ⟨title', _, _, -, s₁⟩ := h₁.bind
    obtain ⟨a₁, _, _, -, s₂⟩ := s₁.bind
    obtain ⟨a₂, _, _, -, s₃⟩ := s₂.bind
    obtain ⟨a₃, _, _, -, s₄⟩ := s₃.bind
    obtain ⟨a₄, _, _, -, s₅⟩ := s₄.bind
    obtain ⟨a₅, _, _, -, s₆⟩ := s₅.bind
    obtain ⟨a₆, _, _, -, s₇⟩ := s₆.bind
    obtain ⟨a₇, _, _, -, s₈⟩ := s₇.bind
    obtain ⟨a₈, _, _, -, s₉⟩ := s₈.bind
    obtain ⟨a₉, _, _, -, s₁₀⟩ := s₉.bind
    obtain ⟨rfl, -⟩ := s₁₀.ret
    rfl
  have hrun := h₂.mapError
  unfold createTopic at hrun
  obtain ⟨member, l₅, g₅, h₅, r₅⟩ := hrun.bind
  obtain ⟨now, l₆, g₆, h₆, r₆⟩ := r₅.bind
  obtain ⟨inserted, l₇, g₇, h₇, r₇⟩ := r₆.bind
  split at r₇
  · obtain ⟨created, hout⟩ := insertTopicRows_created r₇
    cases hout
  · unfold existingTopic at r₇
    obtain ⟨found, l₈, g₈, h₈, r₈⟩ := r₇.bind
    obtain ⟨⟨topicId, row⟩, l₉, g₉, h₉, r₉⟩ := r₈.bind
    obtain ⟨_, l₁₀, g₁₀, h₁₀, r₁₀⟩ := r₉.bind
    obtain ⟨_, l₁₁, g₁₁, h₁₁, r₁₁⟩ := r₁₀.bind
    obtain ⟨topic', l₁₂, g₁₂, h₁₂, r₁₂⟩ := r₁₁.bind
    obtain ⟨hout, -⟩ := r₁₂.ret
    cases hout
    have hev := (((((h₁.returns.evolve.trans h₅.returns.evolve).trans h₆.returns.evolve).trans h₇.returns.evolve).trans
      h₈.returns.evolve).trans h₉.returns.evolve).trans (h₁₀.returns.evolve.trans h₁₁.returns.evolve)
    rw [← hauthor]
    exact loadTopic_seen h₁₂ hran (hev.coherent hl).start_le

lemma patchTopic_answers {command : PatchTopicCommand} {topic : TopicRecord} {e : Entry}
    (h : Runs (contract server ticks) (patchTopic command) l g (.ok topic) l' g' L G) (hran : e.ran = L)
    (hl : Coherent index l g) : ∃ s, SeenBy e G s ∧ topic.unread = unread s command.actorId topic.chatroomId := by
  unfold patchTopic at h
  obtain ⟨_, l₁, g₁, h₁, r₁⟩ := h.bind
  obtain ⟨_, l₂, g₂, h₂, r₂⟩ := r₁.bind
  obtain ⟨_, l₃, g₃, h₃, r₃⟩ := r₂.bind
  obtain ⟨_, l₄, g₄, h₄, r₄⟩ := r₃.bind
  have hev := (h₁.returns.evolve.trans h₂.returns.evolve).trans (h₃.returns.evolve.trans h₄.returns.evolve)
  exact loadTopic_seen r₄ hran (hev.coherent hl).start_le

lemma getTopic_answers {groupId topicId actorId : Uuid} {topic : TopicRecord} {e : Entry}
    (h : Runs (contract server ticks) (getTopic groupId topicId actorId) l g (.ok topic) l' g' L G) (hran : e.ran = L)
    (hl : Coherent index l g) : ∃ s, SeenBy e G s ∧ topic.unread = unread s actorId topic.chatroomId := by
  unfold getTopic at h
  obtain ⟨_, l₁, g₁, h₁, r₁⟩ := h.bind
  obtain ⟨found, l₂, g₂, h₂, r₂⟩ := r₁.bind
  obtain ⟨hfound, -⟩ := r₂.ofOption
  obtain ⟨gs, hgs, hgs', -, hq⟩ := h₂.select
  refine ⟨_, seenBy_of_select hran h₂.evolve (h₁.returns.evolve.coherent hl).start_le hgs (hgs'.trans h₂.rest.later), ?_⟩
  exact topicRecord_unread (Option.filter_eq_some_iff.mp (hq.symm.trans hfound)).1

lemma listTopics_answers {groupId actorId : Uuid} {after : Option Uuid} {limit : Nat} {date : Option Nat}
    {page : List TopicRecord × Option Uuid} {topic : TopicRecord} {e : Entry}
    (h : Runs (contract server ticks) (listTopics server.dateOf groupId actorId after limit date) l g (.ok page) l' g' L G)
    (hran : e.ran = L) (hl : Coherent index l g) (htopic : topic ∈ page.1) :
    ∃ s, SeenBy e G s ∧ topic.unread = unread s actorId topic.chatroomId := by
  unfold listTopics at h
  obtain ⟨_, l₁, g₁, h₁, r₁⟩ := h.bind
  obtain ⟨topics, l₂, g₂, h₂, r₂⟩ := r₁.bind
  obtain ⟨rfl, -⟩ := r₂.ret
  obtain ⟨gs, hgs, hgs', -, rfl⟩ := h₂.select
  refine ⟨_, seenBy_of_select hran h₂.evolve (h₁.returns.evolve.coherent hl).start_le hgs (hgs'.trans h₂.rest.later), ?_⟩
  have hmem := List.mem_of_mem_take htopic
  rw [List.mem_insertionSort, List.mem_filter, List.mem_filterMap] at hmem
  obtain ⟨⟨i, -, hrecord⟩, -⟩ := hmem
  exact topicRecord_unread hrecord

/-- Every transaction ends as the contract says. -/
theorem programs : (contract server ticks).Programs := by
  intro job g hg r l' g' h
  cases r with
  | error e => exact trivial
  | ok out =>
    have hrun : Runs (contract server ticks) (program server job) (Local.begin g) g (.ok out) l' g' l' g' := ⟨h, .refl⟩
    have hl : Coherent index (Local.begin g) g := hg.coherent_begin
    refine ⟨fun reader topic hmem => ?_⟩
    change (reader, topic) ∈ answers job out at hmem
    cases job with
    | createTopic authorId groupId idempotencyKey title =>
      obtain ⟨outcome, l₁, g₁, h₁, r₁⟩ := hrun.bind
      obtain ⟨rfl, rfl⟩ := r₁.ret
      cases outcome with
      | created topic' => cases hmem
      | existing topic' =>
        obtain ⟨rfl, rfl⟩ := Prod.mk.inj (List.mem_singleton.mp hmem)
        exact createTopic_answers h₁.mapError rfl hl
    | patchTopic command =>
      obtain ⟨topic', l₁, g₁, h₁, r₁⟩ := hrun.bind
      obtain ⟨rfl, rfl⟩ := r₁.ret
      obtain ⟨rfl, rfl⟩ := Prod.mk.inj (List.mem_singleton.mp hmem)
      exact patchTopic_answers h₁.mapError rfl hl
    | getTopic groupId topicId actorId =>
      obtain ⟨topic', l₁, g₁, h₁, r₁⟩ := hrun.bind
      obtain ⟨rfl, rfl⟩ := r₁.ret
      obtain ⟨rfl, rfl⟩ := Prod.mk.inj (List.mem_singleton.mp hmem)
      exact getTopic_answers h₁.mapError rfl hl
    | listTopics groupId actorId after limit date =>
      obtain ⟨page, l₁, g₁, h₁, r₁⟩ := hrun.bind
      obtain ⟨rfl, rfl⟩ := r₁.ret
      obtain ⟨topic', htopic, heq⟩ := List.mem_map.mp hmem
      obtain ⟨rfl, rfl⟩ := Prod.mk.inj heq
      exact listTopics_answers h₁.mapError rfl hl htopic
    | sendMessage | deleteMessage | moderatorDeleteMessage | markRead | redeem | register => cases hmem

lemma sound_of_reachable {s : State} (h : (system server ticks).Reachable Starts s) : Sound (contract server ticks) s :=
  reachable_sound (fun _ _ _ _ _ _ _ => ⟨trivial, fun _ _ => trivial⟩) programs h

/-- In every run, the flag of a topic in an answer is right in the state that the call reads if and only if that state
has no deleted message above the reader's marker, unless the topic's creation or a live message is above it too. -/
theorem unread_right_iff_in_answers {s : State} (hs : (system server ticks).Reachable Starts s) {k : Nat} {e : Entry}
    (he : s.shared.log[k]? = some e) {reader : Uuid} {topic : TopicRecord} (ht : (reader, topic) ∈ answers e.job e.out) :
    ∃ store, (∃ n ws ws', e.ran.start ≤ n ∧ n ≤ k ∧ e.ran.writes = ws' ++ ws ∧
        store = (s.shared.version n).apply ws) ∧ topic.unread = unread store reader topic.chatroomId ∧
      ((topic.unread = true ↔ topicCreationAbove store reader topic.chatroomId = true ∨
          liveMessageAbove store reader topic.chatroomId = true) ↔
        (deletedMessageAbove store reader topic.chatroomId = true →
          topicCreationAbove store reader topic.chatroomId = true ∨
            liveMessageAbove store reader topic.chatroomId = true)) := by
  obtain ⟨g₁, -, rfl, hc, hlater⟩ := (sound_of_reachable hs).history.entry he
  obtain ⟨store, ⟨n, ws, ws', hn, hn', hws, rfl⟩, hunread⟩ := hc.ok.answers reader topic ht
  have hversion : s.shared.version n = g₁.version n := by
    rw [hlater.version (Nat.le_trans hn' (by rw [Shared.csn_commit]; exact Nat.le_succ _)), Shared.version_commit _ _ hn']
  refine ⟨_, ⟨n, ws, ws', hn, hn', hws, rfl⟩, by rw [hversion, hunread], ?_⟩
  rw [hversion, hunread, ← Bool.or_eq_true, ← isUnread, ← Bool.eq_iff_iff]
  exact unread_right_iff

end Answers

section Sample

/-- A topic is opened and read, a message is sent and deleted, and the member looks at the topic before and after. -/
def unreadSchedule : List (Label Job) := Label.serial 1 [
  (.createTopic 1 10 7 "topic", 100, 78),
  (.markRead 2 101 (.cursor 1), 200, 30),
  (.sendMessage 1 ⟨101, 8, some "hello", []⟩, 300, 79),
  (.getTopic 10 100 2, 400, 2),
  (.deleteMessage 1 101 310, 500, 44),
  (.getTopic 10 100 2, 600, 2)]

/-- What the member is told, and what holds at that time. -/
def unreadSummary (k : Nat) (s : State) : Option (Bool × Bool × Bool × Bool) := do
  let e ← s.shared.log[k]?
  match e.job, e.out with
  | .getTopic _ _ reader, .record topic =>
    let store := s.shared.version k
    some (topic.unread, topicCreationAbove store reader topic.chatroomId, liveMessageAbove store reader topic.chatroomId,
      deletedMessageAbove store reader topic.chatroomId)
  | _, _ => none

lemma of_unreadSummary {k : Nat} {s : State} {flags : Bool × Bool × Bool × Bool} (h : unreadSummary k s = some flags) :
    ∃ e reader topic, s.shared.log[k]? = some e ∧ (reader, topic) ∈ answers e.job e.out ∧ flags = (topic.unread,
      topicCreationAbove (s.shared.version k) reader topic.chatroomId,
      liveMessageAbove (s.shared.version k) reader topic.chatroomId,
      deletedMessageAbove (s.shared.version k) reader topic.chatroomId) := by
  simp only [unreadSummary, Option.bind_eq_bind, Option.bind_eq_some_iff] at h
  obtain ⟨e, he, h⟩ := h
  split at h
  · rename_i groupId topicId reader topic hjob hout
    refine ⟨e, reader, topic, he, ?_, (Option.some.inj h).symm⟩
    rw [hjob, hout]
    exact List.mem_singleton_self _
  · cases h

/-- After the deletion nothing that is live is above the marker, and still the topic is unread. -/
theorem topic_unread_after_deletion : ∃ s : State, sampleSystem.Reachable Starts s ∧ ∃ e reader topic,
    s.shared.log[5]? = some e ∧ (reader, topic) ∈ answers e.job e.out ∧
      ¬ (topic.unread = true ↔ topicCreationAbove (s.shared.version 5) reader topic.chatroomId = true ∨
        liveMessageAbove (s.shared.version 5) reader topic.chatroomId = true) := by
  have hrun : (sampleSystem.run ⟨⟨sampleStore, [], 0, 0, []⟩, []⟩ unreadSchedule).bind (unreadSummary 5) =
      some (true, false, false, true) := by
    decide +kernel
  obtain ⟨s, hs, hsummary⟩ := Option.bind_eq_some_iff.mp hrun
  obtain ⟨e, reader, topic, he, hmem, hflags⟩ := of_unreadSummary hsummary
  refine ⟨s, System.reachable_of_run _ starts_sampleStore hs, e, reader, topic, he, hmem, ?_⟩
  simp only [Prod.mk.injEq] at hflags
  rw [← hflags.1, ← hflags.2.1, ← hflags.2.2.1]
  decide

/-- Before the deletion the flag of the same topic is right. -/
theorem unread_right_iff_before_deletion : ∃ s : State, sampleSystem.Reachable Starts s ∧ ∃ e reader topic,
    s.shared.log[3]? = some e ∧ (reader, topic) ∈ answers e.job e.out ∧ topic.unread = true ∧ ∃ store,
      ((topic.unread = true ↔ topicCreationAbove store reader topic.chatroomId = true ∨
          liveMessageAbove store reader topic.chatroomId = true) ↔
        (deletedMessageAbove store reader topic.chatroomId = true →
          topicCreationAbove store reader topic.chatroomId = true ∨
            liveMessageAbove store reader topic.chatroomId = true)) := by
  have hrun : (sampleSystem.run ⟨⟨sampleStore, [], 0, 0, []⟩, []⟩ unreadSchedule).bind (unreadSummary 3) =
      some (true, false, true, false) := by
    decide +kernel
  obtain ⟨s, hs, hsummary⟩ := Option.bind_eq_some_iff.mp hrun
  obtain ⟨e, reader, topic, he, hmem, hflags⟩ := of_unreadSummary hsummary
  have hreach := System.reachable_of_run _ starts_sampleStore hs
  obtain ⟨store, -, -, hright⟩ := unread_right_iff_in_answers hreach he hmem
  simp only [Prod.mk.injEq] at hflags
  exact ⟨s, hreach, e, reader, topic, he, hmem, hflags.1.symm, store, hright⟩

end Sample

end JamyeServer.Conversations
