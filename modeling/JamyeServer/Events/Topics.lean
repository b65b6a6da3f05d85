import JamyeServer.Events.Writers

/-!
# What the writers of topics commit

A topic gets a room of its own, whose identifier nobody else knows before the commit; everything else happens in the main
room of the group, which is locked `FOR UPDATE`.
-/

namespace JamyeServer.Events

open ReadCommitted Prog Postgres Rooms Messages Topics TopicDeletion
open Notifications (EventPayload.createsMessage recordTopicCreated)

variable {settings : Settings} {text : TopicText} {ticks : Time → Time → Bool} {l l' L : Local} {g g' G : Shared} {ε : Type}
  {own : Option (Uuid × Uuid)}

section Create

lemma touches_nextTimestamp {room : Uuid} {P : Key → Prop} : (nextTimestamp settings room : Sql ε Time).Touches P :=
  ⟨trivial, fun _ => ⟨trivial, fun _ => ⟨trivial, fun _ => trivial⟩⟩⟩

/-- The room of the topic is new. -/
lemma prepareCreateTopic_room {authorId groupId idempotencyKey : Uuid} {title : String} {command : CreateTopicCommand}
    (h : Runs (contract settings text ticks) (prepareCreateTopic text authorId groupId idempotencyKey title)
      l g (.ok command) l' g' L G) (hg : History (contract settings text ticks) g) :
    command.groupId = groupId ∧ command.topicChatroomId ∈ l'.drawn ∧
      ∀ n, n ≤ G.csn → (G.version n).get (.chatrooms command.topicChatroomId) = none := by
  unfold prepareCreateTopic at h
  obtain ⟨title', l₁, g₁, h₁, r₁⟩ := h.bind
  obtain ⟨topicId, l₂, g₂, h₂, r₂⟩ := r₁.bind
  obtain ⟨topicChatroomId, l₃, g₃, h₃, r₃⟩ := r₂.bind
  have hg₂ := (h₁.returns.evolve.trans h₂.returns.evolve).later.history hg
  have hdrawn : topicChatroomId ∈ l₃.drawn := by
    rw [h₃.fresh.1]
    exact List.mem_cons_self
  have hnew := (drawnRooms.fresh hg₂ h₃).2
  have hlast := r₃.returns.evolve.drawn hdrawn
  obtain ⟨_, _, _, -, r₄⟩ := r₃.bind
  obtain ⟨_, _, _, -, r₅⟩ := r₄.bind
  obtain ⟨_, _, _, -, r₆⟩ := r₅.bind
  obtain ⟨_, _, _, -, r₇⟩ := r₆.bind
  obtain ⟨_, _, _, -, r₈⟩ := r₇.bind
  obtain ⟨_, _, _, -, r₉⟩ := r₈.bind
  obtain ⟨_, _, _, -, r₁₀⟩ := r₉.bind
  obtain ⟨rfl, -⟩ := r₁₀.ret
  exact ⟨rfl, hlast, hnew⟩

lemma lockGroupAndMembership_locks {groupId actorId : Uuid} {member : String × Option String}
    (h : Runs (contract settings text ticks) (Topics.lockGroupAndMembership groupId actorId) l g (.ok member) l' g' L G) :
    (.groups groupId, .update) ∈ l'.locks := by
  unfold Topics.lockGroupAndMembership at h
  obtain ⟨live, l₁, g₁, h₁, r₁⟩ := h.bind
  obtain ⟨_, l₂, g₂, h₂, r₂⟩ := r₁.bind
  obtain ⟨hlive, rfl⟩ := h₂.ensure
  obtain ⟨gs, -, -, hlocked⟩ := h₁.selectFor (by decide)
  obtain ⟨i, hi⟩ := List.exists_mem_of_ne_nil live hlive
  obtain ⟨j, hj, t, r, -, hlock, -, hf⟩ := hlocked.mem i hi
  have hj' : j = groupId := (Store.mem_one.mp hj).1
  subst hj'
  exact r₂.returns.evolve.locks hlock

/-- The main room that the announcement goes to is in the group that is locked. -/
lemma mainChatroom_seen {s : Store Row} {groupId room : Uuid} (h : mainChatroom s groupId = some room) :
    ∃ c, s.get (.chatrooms room) = some c ∧ c.groupId = groupId ∧ c.type = .main := by
  have hmem := List.mem_of_head? h
  obtain ⟨c, hc, hp⟩ := Store.mem_ids.mp hmem
  simp only [Bool.and_eq_true, decide_eq_true_eq] at hp
  exact ⟨c, hc, hp.1, hp.2⟩

/-- A topic is created with its room and an announcement in the main room. -/
lemma commit_insertTopicRows {command : CreateTopicCommand} {member : String × Option String} {createdAt : Time}
    {outcome : CreateTopicOutcome}
    (h : Runs (contract settings text ticks) (insertTopicRows settings command member createdAt) l g (.ok outcome) l' g' L G)
    (hg : History (contract settings text ticks) g)
    (hfree : ∀ (s : Store Row) k, ¬ Outside k → (s.apply l.writes).get k = s.get k)
    (hlock : (.groups command.groupId, .update) ∈ l.locks) (hdrawn : command.topicChatroomId ∈ l.drawn)
    (hnew : ∀ n, n ≤ G.csn → (G.version n).get (.chatrooms command.topicChatroomId) = none)
    (hrows : ∀ own, Rows (Appends settings own L G) G l) :
    Rows (Appends settings (some (command.announcementEventId, command.announcementMessageId)) L G) G l' ∧
      Paired (some (command.announcementEventId, command.announcementMessageId)) l' G := by
  have hholds : Holds settings l g command.topicChatroomId := by
    refine .inl ⟨hdrawn, ?_⟩
    rw [Shared.db, ← h.evolve.later.version (Nat.le_refl _)]
    exact hnew _ h.evolve.later.csn_le
  have hL : command.topicChatroomId ∈ L.drawn := h.evolve.drawn hdrawn
  unfold insertTopicRows at h
  obtain ⟨roomCreatedAt, l₁, g₁, h₁, r₁⟩ := h.bind
  obtain ⟨_, l₂, g₂, h₂, r₂⟩ := r₁.bind
  obtain ⟨topicCursor, l₃, g₃, h₃, r₃⟩ := r₂.bind
  obtain ⟨readAt, l₄, g₄, h₄, r₄⟩ := r₃.bind
  obtain ⟨_, l₅, g₅, h₅, r₅⟩ := r₄.bind
  obtain ⟨main, l₆, g₆, h₆, r₆⟩ := r₅.bind
  obtain ⟨mainChatroomId, l₇, g₇, h₇, r₇⟩ := r₆.bind
  obtain ⟨announcedAt, l₈, g₈, h₈, r₈⟩ := r₇.bind
  obtain ⟨_, l₉, g₉, h₉, r₉⟩ := r₈.bind
  obtain ⟨_, l₁₀, g₁₀, h₁₀, r₁₀⟩ := r₉.bind
  obtain ⟨-, rfl⟩ := r₁₀.ret
  obtain ⟨rfl, -⟩ := h₁.clock
  have hrows₂ : Rows (Appends settings (some (command.announcementEventId, command.announcementMessageId)) L G) G l₂ := by
    refine (keeps_insertRow fun base hbase => ?_).rows h₂ (hrows _)
    cases base with
    | none => exact fun _ => hL
    | some c =>
      obtain ⟨c', heq, -⟩ := hbase
      cases heq
  have hev₂ := h₁.returns.evolve.trans h₂.returns.evolve
  have hrows₃ := (rows_recordEvent h₃ (hev₂.later.history hg) (hholds.evolve hev₂)
    (fun _ hm => (Bool.false_ne_true hm).elim) hrows₂).1
  have hrows₅ := (keeps_insertRow fun _ _ => trivial).rows h₅ (keeps_clock.rows h₄ hrows₃)
  have hrows₈ := (keeps_of_touches touches_nextTimestamp).rows h₈ (keeps_ofOption.rows h₇ (keeps_select.rows h₆ hrows₅))
  -- the row of the new room is the only one that the transaction has written, and it is not a main room
  have hinsert := h₂.insertRow
  have hframe : ∀ (s : Store Row) j, (s.apply l₅.writes).get (.chatrooms j) = (s.apply l₂.writes).get (.chatrooms j) := fun s j => by
    rw [h₅.get_of_touches (P := Outside) (touches_insertRow trivial) id, h₄.get_of_touches (P := Outside) ⟨trivial, fun _ => trivial⟩ id,
      h₃.get_of_touches (P := fun k => ∀ i, k ≠ .chatrooms i) (touches_recordEvent (fun _ h => by cases h) fun _ h => by cases h)
        fun h => h j rfl]
  have hmessages : ∀ (s : Store Row) j, (s.apply l₇.writes).get (.messages j) = s.get (.messages j) := fun s j => by
    rw [h₇.writes_eq touches_ofOption, h₆.writes_eq touches_select, h₅.get_of_touches (P := Outside) (touches_insertRow trivial) id,
      h₄.get_of_touches (P := Outside) ⟨trivial, fun _ => trivial⟩ id,
      h₃.get_of_touches (P := fun k => ∀ i, k ≠ .messages i) (touches_recordEvent (fun _ h => by cases h) fun _ h => by cases h)
        (fun h => h j rfl), hinsert.get_of_ne _ (fun heq => by cases heq)]
    exact hfree s _ id
  have hseen : ∃ n, n ≤ g₇.csn ∧ SeenAt G n mainChatroomId command.groupId := by
    obtain ⟨gs, -, hgs', -, rfl⟩ := h₆.select
    obtain ⟨c, hc, hgroup, htype⟩ := mainChatroom_seen h₇.ofOption.1
    rw [hframe] at hc
    refine ⟨gs.csn, Nat.le_trans hgs'.csn_le h₇.returns.evolve.later.csn_le, c, ?_, hgroup⟩
    by_cases hroom : mainChatroomId = command.topicChatroomId
    · subst hroom
      rw [hinsert.get] at hc
      cases hc
      cases htype
    · rw [hinsert.get_of_ne _ (fun heq => hroom (Key.chatrooms.inj heq)), hfree _ _ id] at hc
      exact hc
  obtain ⟨n, hn, hseen⟩ := hseen
  have hev₇ := (hev₂.trans (h₃.returns.evolve.trans h₄.returns.evolve)).trans
    ((h₅.returns.evolve.trans h₆.returns.evolve).trans h₇.returns.evolve)
  have hev₉ := hev₇.trans (h₈.returns.evolve.trans h₉.returns.evolve)
  obtain ⟨hmain, hmessage⟩ := nextTimestamp_holds h₈ (hev₇.later.history hg) hn hseen (.inl (hev₇.locks hlock)) hmessages
  have hrows₉ := (keeps_insertRow (keeps_insertMessage (hmessage _ rfl rfl) ⟨_, rfl⟩)).rows h₉ hrows₈
  obtain ⟨hrows₁₀, hbefore, r, hr, hroom, hpayload⟩ := rows_recordEvent h₁₀ (hev₉.later.history hg)
    (hmain.evolve h₉.returns.evolve) (fun m hm => by rw [← of_decide_eq_true hm]) hrows₉
  refine ⟨hrows₁₀, ?_⟩
  rintro i m ⟨⟩
  have habsent := h₉.insertRow.absent
  rw [h₈.writes_eq touches_nextTimestamp, hmessages] at habsent
  have hget := h₉.insertRow.get G.db
  rw [← h₁₀.get_of_touches (P := fun k => ∀ i, k ≠ .messages i)
    (touches_recordEvent (fun _ h => by cases h) fun _ h => by cases h) (fun h => h _ rfl)] at hget
  refine ⟨event_absent hrows₉ hbefore, habsent, r, _, hr, ?_, hget, hroom.symm⟩
  rw [hpayload]
  exact decide_eq_true rfl

lemma commit_createTopic {command : CreateTopicCommand} {outcome : CreateTopicOutcome}
    (h : Runs (contract settings text ticks) (createTopic settings command) l g (.ok outcome) l' g' L G)
    (hw : l.writes = []) (hg : History (contract settings text ticks) g) (hdrawn : command.topicChatroomId ∈ l.drawn)
    (hnew : ∀ n, n ≤ G.csn → (G.version n).get (.chatrooms command.topicChatroomId) = none) :
    ∃ own, Rows (Appends settings own L G) G l' ∧ Paired own l' G := by
  unfold createTopic at h
  obtain ⟨member, l₁, g₁, h₁, r₁⟩ := h.bind
  obtain ⟨now, l₂, g₂, h₂, r₂⟩ := r₁.bind
  obtain ⟨inserted, l₃, g₃, h₃, r₃⟩ := r₂.bind
  obtain ⟨rfl, -⟩ := h₂.clock
  have hlocks : (Topics.lockGroupAndMembership command.groupId command.authorId).Touches fun _ => False :=
    touches_selectFor.bind fun _ => touches_ensure.bind fun _ => touches_select.bind fun _ => touches_ofOption
  have hw₁ := (h₁.writes_eq hlocks).trans hw
  have hrows₃ : ∀ own, Rows (Appends settings own L G) G l₃ := fun own =>
    (keeps_insertOrSkip fun _ _ => trivial).rows h₃ (rows_start hw₁)
  have hev := (h₁.returns.evolve.trans h₂.returns.evolve).trans h₃.returns.evolve
  split at r₃
  · refine ⟨_, commit_insertTopicRows r₃ (hev.later.history hg) (fun s k hk => ?_)
      ((h₂.returns.evolve.trans h₃.returns.evolve).locks (lockGroupAndMembership_locks h₁)) (hev.drawn hdrawn) hnew hrows₃⟩
    rw [h₃.get_of_touches (P := Outside) (touches_insertOrSkip trivial) hk, hw₁, Store.apply_nil]
  · exact ⟨none, (keeps_of_touches Conversations.touches_existingTopic).rows r₃ (hrows₃ none), paired_none⟩

/-- What is paired stays so when events and messages are not touched. -/
lemma Paired.frame (h : Paired own l G) (hframe : ∀ k, ¬ Outside k → (G.db.apply l'.writes).get k = (G.db.apply l.writes).get k) :
    Paired own l' G := by
  intro i m hown
  obtain ⟨hevent, hmessage, r, row, hr, hcreates, hrow, hroom⟩ := h i m hown
  exact ⟨hevent, hmessage, r, row, (hframe _ id).trans hr, hcreates, (hframe _ id).trans hrow, hroom⟩

lemma commit_createTopicHttp {authorId groupId idempotencyKey : Uuid} {title : String} {outcome : CreateTopicOutcome}
    (h : Runs (contract settings text ticks) (createTopicHttp settings text authorId groupId idempotencyKey title)
      l g (.ok outcome) l' g' L G) (hw : l.writes = []) (hg : History (contract settings text ticks) g) :
    ∃ own, Rows (Appends settings own L G) G l' ∧ Paired own l' G := by
  unfold createTopicHttp at h
  obtain ⟨command, l₁, g₁, h₁, r₁⟩ := h.bind
  obtain ⟨outcome', l₂, g₂, h₂, r₂⟩ := r₁.bind
  obtain ⟨context, l₃, g₃, h₃, r₃⟩ := r₂.bind
  obtain ⟨report, l₄, g₄, h₄, r₄⟩ := r₃.bind
  obtain ⟨-, rfl⟩ := r₄.ret
  have hcontext : (Topics.notificationContext outcome'.topic).Touches fun _ => False := by
    refine Touches.bind (p := snapshot) ⟨trivial, fun _ => trivial⟩ fun s => Touches.bind (touches_collect fun _ _ => ?_)
      fun rows => ?_
    · exact touches_andThen touches_lockRow fun _ => touches_andThen touches_lockRow fun _ =>
        touches_andThen touches_lockRow fun _ => touches_lockRow
    · split <;> trivial
  obtain ⟨-, hdrawn, hnew⟩ := prepareCreateTopic_room h₁ hg
  obtain ⟨own, hrows₂, hpaired⟩ := commit_createTopic h₂.mapError ((h₁.writes_eq Conversations.touches_prepareCreateTopic).trans hw)
    (h₁.returns.evolve.later.history hg) hdrawn hnew
  have hrows₃ := (keeps_of_touches hcontext).rows h₃.mapError hrows₂
  have hrecord : ∀ {command}, (recordTopicCreated command).Touches Outside :=
    Notifications.touches_recordTopicCreated (fun _ => trivial) fun _ => trivial
  refine ⟨own, (keeps_outside hrecord).rows h₄.mapError hrows₃, hpaired.frame fun k hk => ?_⟩
  rw [h₄.mapError.get_of_touches hrecord hk, h₃.mapError.writes_eq hcontext]

end Create

section Delete

lemma lockGroup_locks {groupId actorId : Uuid} {u : Unit}
    (h : Runs (contract settings text ticks) (TopicDeletion.lockGroupAndMembership groupId actorId) l g (.ok u) l' g' L G) :
    (.groups groupId, .update) ∈ l'.locks := by
  unfold TopicDeletion.lockGroupAndMembership at h
  obtain ⟨live, l₁, g₁, h₁, r₁⟩ := h.bind
  obtain ⟨_, l₂, g₂, h₂, r₂⟩ := r₁.bind
  obtain ⟨hlive, rfl⟩ := h₂.ensure
  obtain ⟨gs, -, -, hlocked⟩ := h₁.selectFor (by decide)
  obtain ⟨i, hi⟩ := List.exists_mem_of_ne_nil live hlive
  obtain ⟨j, hj, t, r, -, hlock, -, hf⟩ := hlocked.mem i hi
  have hj' : j = groupId := (Store.mem_one.mp hj).1
  subst hj'
  exact r₂.returns.evolve.locks hlock

/-- The main room of the target is in the group of the topic. -/
lemma lockTopicTarget_room {command : DeleteTopicCommand} {target : TopicTarget}
    (h : Runs (contract settings text ticks) (lockTopicTarget command) l g (.ok (some target)) l' g' L G)
    (hw : l.writes = []) : ∃ n, n ≤ g'.csn ∧ SeenAt G n target.mainChatroomId command.groupId := by
  unfold lockTopicTarget at h
  obtain ⟨s, l₁, g₁, h₁, r₁⟩ := h.bind
  obtain ⟨gs, -, hgs', -, rfl⟩ := h₁.snapshot
  refine ⟨gs.csn, Nat.le_trans hgs'.csn_le r₁.returns.evolve.later.csn_le, ?_⟩
  obtain ⟨⟨topicId, topicRoom, mainRoom⟩, hmem, l₂, g₂, g₃, -, h₂, -⟩ := r₁.first_some
  obtain ⟨topic, l₃, g₄, -, r₃⟩ := runs_andThen h₂
  obtain ⟨_, l₄, g₅, -, r₄⟩ := runs_andThen r₃
  obtain ⟨_, l₅, g₆, -, r₅⟩ := runs_andThen r₄
  obtain ⟨heq, -⟩ := r₅.ret
  cases heq
  obtain ⟨c, hc, hmain⟩ := Store.mem_ids.mp (List.pair_mem_product.mp (List.pair_mem_product.mp hmem).2).2
  rw [hw, Store.apply_nil] at hc
  simp only [isMainRoom, Bool.and_eq_true, decide_eq_true_eq] at hmain
  exact ⟨c, hc, hmain.1.1⟩

lemma touches_lockAuthorizedTopic {command : DeleteTopicCommand} :
    (lockAuthorizedTopic command).Touches fun _ => False := by
  refine Touches.bind ⟨trivial, fun _ => touches_first fun _ _ => touches_andThen touches_lockRow fun _ =>
    touches_andThen touches_lockRow fun _ => touches_andThen touches_lockRow fun _ => trivial⟩ fun _ =>
      touches_ofOption.bind fun target => ?_
  split
  · split <;> trivial
  · split
    · trivial
    · exact ⟨trivial, fun _ => trivial⟩

/-- The time comes with the target that was locked. -/
lemma lockAuthorizedTopic_room {command : DeleteTopicCommand} {target : TopicTarget} {deletedAt : Time}
    (h : Runs (contract settings text ticks) (lockAuthorizedTopic command) l g (.ok (some (target, deletedAt))) l' g' L G)
    (hw : l.writes = []) : ∃ n, n ≤ g'.csn ∧ SeenAt G n target.mainChatroomId command.groupId := by
  unfold lockAuthorizedTopic at h
  obtain ⟨found, l₁, g₁, h₁, r₁⟩ := h.bind
  obtain ⟨target', l₂, g₂, h₂, r₂⟩ := r₁.bind
  obtain ⟨rfl, rfl⟩ := h₂.ofOption
  obtain ⟨n, hn, hseen⟩ := lockTopicTarget_room h₁ hw
  refine ⟨n, Nat.le_trans hn r₁.returns.evolve.later.csn_le, ?_⟩
  split at r₂
  · split at r₂
    · obtain ⟨heq, -⟩ := r₂.ret
      cases heq
    · exact (Runs.not_fail r₂).elim
  · split at r₂
    · exact (Runs.not_fail r₂).elim
    · obtain ⟨now, l₃, g₃, h₃, r₃⟩ := r₂.bind
      obtain ⟨heq, -⟩ := r₃.ret
      cases heq
      exact hseen

lemma rows_appendEvent {room : Uuid} {payload : EventPayload} {e₁ e₂ : ε} {p : Sql ε Unit} {u : Unit}
    (hp : p = do
      let eventId ← fresh
      let outboxId ← fresh
      let _ ← recordEvent eventId outboxId room payload e₁ e₂
      ret ())
    (h : Runs (contract settings text ticks) p l g (.ok u) l' g' L G) (hg : History (contract settings text ticks) g)
    (hholds : Holds settings l g room) (hpayload : ∀ m, EventPayload.createsMessage m payload = false)
    (hrows : Rows (Appends settings own L G) G l) : Rows (Appends settings own L G) G l' := by
  subst hp
  obtain ⟨eventId, l₁, g₁, h₁, r₁⟩ := h.bind
  obtain ⟨outboxId, l₂, g₂, h₂, r₂⟩ := r₁.bind
  obtain ⟨cursor, l₃, g₃, h₃, r₃⟩ := r₂.bind
  obtain ⟨-, rfl⟩ := r₃.ret
  have hev := h₁.returns.evolve.trans h₂.returns.evolve
  refine (rows_recordEvent h₃ (hev.later.history hg) (hholds.evolve hev) (fun m hm => ?_)
    (keeps_fresh.rows h₂ (keeps_fresh.rows h₁ hrows))).1
  rw [hpayload m] at hm
  exact (Bool.false_ne_true hm).elim

/-- All announcements are deleted in the main room, which is held. -/
lemma rows_announcements {command : DeleteTopicCommand} {room : Uuid} {deletedAt : Time} {ids : List Uuid} {u : Unit}
    (h : Runs (contract settings text ticks) (each (TopicDeletion.appendMessageDeletedEvent command room deletedAt) ids)
      l g (.ok u) l' g' L G) (hg : History (contract settings text ticks) g) (hholds : Holds settings l g room)
    (hrows : Rows (Appends settings own L G) G l) : Rows (Appends settings own L G) G l' := by
  induction ids generalizing l g with
  | nil => exact keeps_ret.rows h hrows
  | cons i ids ih =>
    obtain ⟨_, l₁, g₁, h₁, r₁⟩ := Runs.bind h
    have hev := h₁.returns.evolve
    exact ih r₁ (hev.later.history hg) (hholds.evolve hev) (rows_appendEvent rfl h₁ hg hholds (fun _ => rfl) hrows)

/-- The room of a topic is hidden and stays in its group. -/
lemma keeps_scrubTopicRowAndChatroom {C : Contract (system settings text ticks)} {topicId topicChatroomId : Uuid}
    {deletedAt : Time} : (scrubTopicRowAndChatroom topicId topicChatroomId deletedAt).Keeps C (Appends settings own L G) := by
  refine Keeps.bind (keeps_outside (touches_change fun _ => trivial)) fun _ =>
    Keeps.bind (keeps_update fun s i base t r r' a hr hf => ?_) fun _ => keeps_ret
  cases hf
  cases base with
  | none => exact fun _ => hr (Option.some_ne_none _)
  | some c =>
    obtain ⟨c', heq, hgroup⟩ := hr
    cases heq
    exact ⟨_, rfl, hgroup⟩

lemma touches_enqueueObjectDeletions {media : List MediaObjectRow} :
    (TopicDeletion.enqueueObjectDeletions media).Touches Outside :=
  touches_each fun _ _ => ⟨trivial, fun _ => ⟨trivial, fun _ => (touches_insertOrSkip trivial).bind fun _ => trivial⟩⟩

lemma touches_markMediaUploadsDeleted {media : List MediaObjectRow} {deletedAt : Time} :
    (TopicDeletion.markMediaUploadsDeleted media deletedAt).Touches Outside := by
  unfold TopicDeletion.markMediaUploadsDeleted
  dsimp only
  split
  · trivial
  · exact (touches_change fun _ => trivial).bind fun _ => trivial

lemma touches_deleteMessageMedia {messageIds : List Uuid} : (TopicDeletion.deleteMessageMedia messageIds).Touches Outside := by
  unfold TopicDeletion.deleteMessageMedia
  split
  · trivial
  · exact (touches_change fun _ => trivial).bind fun _ => trivial

lemma keeps_scrubMessages {C : Contract (system settings text ticks)} {messageIds : List Uuid} {deletedAt : Time} :
    (scrubMessages messageIds deletedAt).Keeps C (Appends settings own L G) := by
  unfold scrubMessages
  split
  · exact keeps_ret
  · refine Keeps.bind (keeps_messages fun s i t m m' a hf => ?_) fun _ => keeps_ret
    split at hf
    · cases hf
      exact ⟨rfl, rfl⟩
    · cases hf

lemma touches_lockMessageMedia {messageIds : List Uuid} :
    (TopicDeletion.lockMessageMedia messageIds).Touches fun _ => False := by
  unfold TopicDeletion.lockMessageMedia
  split
  · trivial
  · exact ⟨trivial, fun _ => touches_collect fun _ _ => touches_andThen touches_lockRow fun _ => touches_lockRow⟩

lemma touches_updateOutbox {eventIds : List Uuid} {isType : OutboxPayload → Bool} {f : OutboxPayload → OutboxPayload}
    {error : TopicsRepositoryError} : (updateOutbox eventIds isType f error).Touches Outside := by
  unfold updateOutbox
  dsimp only
  split
  · trivial
  · exact (touches_change fun _ => trivial).bind fun _ => trivial

lemma keeps_scrubEvents {C : Contract (system settings text ticks)} {messageIds : List Uuid} :
    (TopicDeletion.scrubMessageCreatedEvents messageIds).Keeps C (Appends settings own L G) := by
  unfold TopicDeletion.scrubMessageCreatedEvents
  dsimp only
  split
  · exact keeps_ret
  · refine keeps_events fun s i t r r' a hf => ?_
    split at hf
    · cases hf
      exact ⟨rfl, rfl, fun m => createsMessage_scrub m _⟩
    · cases hf

lemma createsMessage_untitle (m : Uuid) (payload : EventPayload) :
    EventPayload.createsMessage m (EventPayload.untitle payload) = EventPayload.createsMessage m payload := by
  cases payload <;> rfl

lemma keeps_scrubTopicCreatedEvents {C : Contract (system settings text ticks)} {topicId topicChatroomId : Uuid} :
    (scrubTopicCreatedEvents topicId topicChatroomId).Keeps C (Appends settings own L G) := by
  refine keeps_events fun s i t r r' a hf => ?_
  split at hf
  · cases hf
    exact ⟨rfl, rfl, fun m => createsMessage_untitle m _⟩
  · cases hf

lemma touches_deleteTopicSideTables {topicId topicChatroomId : Uuid} :
    (deleteTopicSideTables topicId topicChatroomId).Touches Outside :=
  (touches_change fun _ => trivial).bind fun _ => (touches_change fun _ => trivial).bind fun _ => trivial

lemma touches_stopPushOccurrences {messageIds topicEventIds : List Uuid} {deletedAt : Time} :
    (stopPushOccurrences messageIds topicEventIds deletedAt).Touches Outside :=
  (touches_change fun _ => trivial).bind fun _ => trivial

lemma touches_hideNotifications {topicId : Uuid} {target : TopicTarget} {events : List ScrubbedMessageEvent} {deletedAt : Time} :
    (hideNotifications topicId target events deletedAt).Touches Outside :=
  (touches_change fun _ => trivial).bind fun _ => trivial

lemma rows_removeTopic {command : DeleteTopicCommand} {target : TopicTarget} {deletedAt : Time} {u : Unit}
    (h : Runs (contract settings text ticks) (removeTopic command target deletedAt) l g (.ok u) l' g' L G)
    (hg : History (contract settings text ticks) g) (hholds : Holds settings l g target.mainChatroomId)
    (hrows : Rows (Appends settings own L G) G l) : Rows (Appends settings own L G) G l' := by
  unfold removeTopic at h
  obtain ⟨announcementIds, l₁, g₁, h₁, r₁⟩ := h.bind
  obtain ⟨topicMessageIds, l₂, g₂, h₂, r₂⟩ := r₁.bind
  obtain ⟨media, l₃, g₃, h₃, r₃⟩ := r₂.bind
  obtain ⟨_, l₄, g₄, h₄, r₄⟩ := r₃.bind
  obtain ⟨_, l₅, g₅, h₅, r₅⟩ := r₄.bind
  obtain ⟨_, l₆, g₆, h₆, r₆⟩ := r₅.bind
  obtain ⟨_, l₇, g₇, h₇, r₇⟩ := r₆.bind
  obtain ⟨messageEvents, l₈, g₈, h₈, r₈⟩ := r₇.bind
  obtain ⟨_, l₉, g₉, h₉, r₉⟩ := r₈.bind
  obtain ⟨topicEvents, l₁₀, g₁₀, h₁₀, r₁₀⟩ := r₉.bind
  obtain ⟨_, l₁₁, g₁₁, h₁₁, r₁₁⟩ := r₁₀.bind
  obtain ⟨_, l₁₂, g₁₂, h₁₂, r₁₂⟩ := r₁₁.bind
  obtain ⟨_, l₁₃, g₁₃, h₁₃, r₁₃⟩ := r₁₂.bind
  obtain ⟨_, l₁₄, g₁₄, h₁₄, r₁₄⟩ := r₁₃.bind
  obtain ⟨_, l₁₅, g₁₅, h₁₅, r₁₅⟩ := r₁₄.bind
  obtain ⟨_, l₁₆, g₁₆, h₁₆, r₁₆⟩ := r₁₅.bind
  have hrows₃ := (keeps_of_touches touches_lockMessageMedia).rows h₃ (keeps_selectFor.rows h₂ (keeps_selectFor.rows h₁ hrows))
  have hrows₄ := (keeps_outside touches_enqueueObjectDeletions).rows h₄ hrows₃
  have hrows₅ := (keeps_outside touches_markMediaUploadsDeleted).rows h₅ hrows₄
  have hrows₆ := (keeps_outside touches_deleteMessageMedia).rows h₆ hrows₅
  have hrows₇ := keeps_scrubMessages.rows h₇ hrows₆
  have hrows₈ := keeps_scrubEvents.rows h₈ hrows₇
  have hrows₉ := (keeps_outside touches_updateOutbox).rows h₉ hrows₈
  have hrows₁₀ := keeps_scrubTopicCreatedEvents.rows h₁₀ hrows₉
  have hrows₁₁ := (keeps_outside touches_updateOutbox).rows h₁₁ hrows₁₀
  have hrows₁₂ := (keeps_outside touches_stopPushOccurrences).rows h₁₂ hrows₁₁
  have hrows₁₃ := (keeps_outside touches_hideNotifications).rows h₁₃ hrows₁₂
  have hrows₁₄ := (keeps_outside touches_deleteTopicSideTables).rows h₁₄ hrows₁₃
  have hrows₁₅ := keeps_scrubTopicRowAndChatroom.rows h₁₅ hrows₁₄
  have hev := (((h₁.returns.evolve.trans h₂.returns.evolve).trans (h₃.returns.evolve.trans h₄.returns.evolve)).trans
    ((h₅.returns.evolve.trans h₆.returns.evolve).trans (h₇.returns.evolve.trans h₈.returns.evolve))).trans
    (((h₉.returns.evolve.trans h₁₀.returns.evolve).trans (h₁₁.returns.evolve.trans h₁₂.returns.evolve)).trans
      ((h₁₃.returns.evolve.trans h₁₄.returns.evolve).trans h₁₅.returns.evolve))
  have hrows₁₆ := rows_announcements h₁₆ (hev.later.history hg) (hholds.evolve hev) hrows₁₅
  have hev₁₆ := hev.trans h₁₆.returns.evolve
  exact rows_appendEvent rfl r₁₆ (hev₁₆.later.history hg) (hholds.evolve hev₁₆) (fun _ => rfl) hrows₁₆

lemma rows_deleteTopic {command : DeleteTopicCommand} {u : Unit}
    (h : Runs (contract settings text ticks) (TopicDeletion.deleteTopic command) l g (.ok u) l' g' L G) (hw : l.writes = [])
    (hg : History (contract settings text ticks) g) : Rows (Appends settings own L G) G l' := by
  unfold TopicDeletion.deleteTopic at h
  obtain ⟨_, l₁, g₁, h₁, r₁⟩ := h.bind
  obtain ⟨found, l₂, g₂, h₂, r₂⟩ := r₁.bind
  have hlocks : (TopicDeletion.lockGroupAndMembership command.groupId command.actorId).Touches fun _ => False :=
    touches_selectFor.bind fun _ => touches_ensure.bind fun _ => touches_selectFor.bind fun _ => touches_ensure
  have hrows₁ : Rows (Appends settings own L G) G l₁ := (keeps_of_touches hlocks).rows h₁ (rows_start hw)
  have hrows₂ := (keeps_of_touches touches_lockAuthorizedTopic).rows h₂ hrows₁
  have hev := h₁.returns.evolve.trans h₂.returns.evolve
  have hg₂ := hev.later.history hg
  cases found with
  | none => exact keeps_ret.rows r₂ hrows₂
  | some x =>
    obtain ⟨target, deletedAt⟩ := x
    obtain ⟨n, hn, hseen⟩ := lockAuthorizedTopic_room h₂ ((h₁.writes_eq hlocks).trans hw)
    have hholds := holds_of_update hseen hg₂ hn h₂.rest.later (h₂.returns.evolve.locks (lockGroup_locks h₁))
    exact rows_removeTopic r₂ hg₂ hholds hrows₂

end Delete

end JamyeServer.Events
