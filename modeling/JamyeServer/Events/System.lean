import JamyeServer.ReadCommitted.Effects
import JamyeServer.Postgres.Frames
import JamyeServer.Postgres.Indexes
import JamyeServer.Postgres.TopicDeletion

/-!
# Writers of events

The five transactions that append events to conversations. Each one holds the room of a new event until it commits:
the room is its own, or it has locked the group of the room `FOR UPDATE`, or `FOR SHARE` together with the advisory
lock of the room. Two transactions never hold one room at the same time.
-/

namespace JamyeServer.Events

open ReadCommitted Postgres Messages Topics TopicDeletion
open Notifications (EventPayload.createsMessage)

inductive Job
  | send (actorId : Uuid) (input : SendMessageInput)
  | deleteMessage (actorId chatroomId messageId : Uuid)
  | moderatorDelete (messageId : Uuid)
  | createTopic (authorId groupId idempotencyKey : Uuid) (title : String)
  | deleteTopic (command : DeleteTopicCommand)
  deriving DecidableEq

inductive Outcome
  | message (outcome : SendMessageOutcome)
  | done
  | moderated (outcome : ModeratorDeleteOutcome)
  | topic (outcome : CreateTopicOutcome)
  deriving DecidableEq

inductive Failure
  | messaging (error : MessagingError)
  | messagingRepository (error : MessagingRepositoryError)
  | topics (error : TopicsError)
  | topicsRepository (error : TopicsRepositoryError)
  deriving DecidableEq

def program (settings : Settings) (text : TopicText) : Job → Sql Failure Outcome
  | .send actorId input => do
    let outcome ← Prog.mapError .messaging (sendMessageHttp settings text.mask actorId input)
    .ret (.message outcome)
  | .deleteMessage actorId chatroomId messageId => do
    Prog.mapError .messagingRepository (Messages.deleteMessage actorId chatroomId messageId)
    .ret .done
  | .moderatorDelete messageId => do
    let outcome ← Prog.mapError .messagingRepository (moderatorDeleteMessage messageId)
    .ret (.moderated outcome)
  | .createTopic authorId groupId idempotencyKey title => do
    let outcome ← Prog.mapError .topics (createTopicHttp settings text authorId groupId idempotencyKey title)
    .ret (.topic outcome)
  | .deleteTopic command => do
    Prog.mapError .topicsRepository (TopicDeletion.deleteTopic command)
    .ret .done

/-- The server; `ticks` says how its clock may move. -/
def system (settings : Settings) (text : TopicText) (ticks : Time → Time → Bool) :
    System Row Nat Idx Failure Job Outcome where
  index := index
  prog := program settings text
  ticks := ticks

abbrev Entry := ReadCommitted.Entry Row Nat Job Outcome
abbrev Shared := ReadCommitted.Shared Row Nat Job Outcome
abbrev State := ReadCommitted.State Row Nat Failure Job Outcome
abbrev Local := ReadCommitted.Local Row Nat

/-- A server at its start: nothing is committed yet, the cursors in the table were drawn from the sequence, and the
identifiers of the rooms are in use. -/
structure Starts (g : Shared) : Prop where
  log : g.log = []
  unique : Unique index g.init
  cursors : ∀ i r, g.init.get (.conversationEvents i) = some r → 0 < r.cursor ∧ r.cursor ≤ g.sequence
  rooms : ∀ i, g.init.get (.chatrooms i) ≠ none → i ∈ g.used

section Holding

/-- The transaction holds the room. -/
def Holds (settings : Settings) (l : Local) (g : Shared) (room : Uuid) : Prop :=
  room ∈ l.drawn ∧ g.db.get (.chatrooms room) = none ∨
    ∃ c, g.db.get (.chatrooms room) = some c ∧ ((.groups c.groupId, .update) ∈ l.locks ∨
      (.groups c.groupId, .share) ∈ l.locks ∧ settings.messageOrderHash room ∈ l.advisory)

/-- A new event comes after all events of its conversation, and the transaction holds the room. -/
structure NewEvent (settings : Settings) (l : Local) (g : Shared) (r : ConversationEvent) : Prop where
  last : ∀ j r', g.db.get (.conversationEvents j) = some r' → r'.conversationId = r.conversationId → r'.cursor < r.cursor
  positive : 0 < r.cursor
  drawn : r.cursor ≤ g.sequence
  holds : Holds settings l g r.conversationId

/-- A new message is younger than all messages of its room, and the transaction holds the room. -/
structure NewMessage (settings : Settings) (l : Local) (g : Shared) (m : Message) : Prop where
  last : ∀ j m', g.db.get (.messages j) = some m' → m'.chatroomId = m.chatroomId → m'.createdAt < m.createdAt
  holds : Holds settings l g m.chatroomId

/-- The same place in the same conversation, and the same message; the payload may have been scrubbed. -/
structure SamePlace (r r' : ConversationEvent) : Prop where
  cursor : r'.cursor = r.cursor
  room : r'.conversationId = r.conversationId
  message : ∀ m, EventPayload.createsMessage m r'.payload = EventPayload.createsMessage m r.payload

lemma SamePlace.refl (r : ConversationEvent) : SamePlace r r := ⟨rfl, rfl, fun _ => rfl⟩

lemma SamePlace.trans {r r' r'' : ConversationEvent} (h : SamePlace r r') (h' : SamePlace r' r'') : SamePlace r r'' :=
  ⟨h'.cursor.trans h.cursor, h'.room.trans h.room, fun m => (h'.message m).trans (h.message m)⟩

/-- What a transaction may do to events, messages and rooms: no event or message is lost or moved, new ones come last,
only the event and the message of `own` are a new message, rooms stay in their groups, and new rooms have new
identifiers. -/
def Appends (settings : Settings) (own : Option (Uuid × Uuid)) (l : Local) (g : Shared) :
    (k : Key) → Option (Row k) → Option (Row k) → Prop
  | .conversationEvents _, some r, v => ∃ r', v = some r' ∧ SamePlace r r'
  | .conversationEvents i, none, v => ∀ r, v = some r → NewEvent settings l g r ∧
      ∀ m, EventPayload.createsMessage m r.payload = true → own = some (i, m)
  | .messages _, some m, v => ∃ m', v = some m' ∧ m'.chatroomId = m.chatroomId ∧ m'.createdAt = m.createdAt
  | .messages i, none, v => ∀ m, v = some m → NewMessage settings l g m ∧ ∃ j, own = some (j, i)
  | .chatrooms _, some c, v => ∃ c', v = some c' ∧ c'.groupId = c.groupId
  | .chatrooms i, none, v => v ≠ none → i ∈ l.drawn
  | _, _, _ => True

/-- A new message comes with its event. -/
def Paired (own : Option (Uuid × Uuid)) (l : Local) (g : Shared) : Prop :=
  ∀ i m, own = some (i, m) → g.db.get (.conversationEvents i) = none ∧ g.db.get (.messages m) = none ∧
    ∃ r row, (g.view l).get (.conversationEvents i) = some r ∧ EventPayload.createsMessage m r.payload = true ∧
      (g.view l).get (.messages m) = some row ∧ row.chatroomId = r.conversationId

lemma paired_none {l : Local} {g : Shared} : Paired none l g := fun _ _ h => by cases h

/-- What a transaction commits. -/
def Commit (settings : Settings) (l : Local) (g : Shared) : Prop :=
  ∃ own, Rows (Appends settings own l g) g l ∧ Paired own l g

def contract (settings : Settings) (text : TopicText) (ticks : Time → Time → Bool) : Contract (system settings text ticks) where
  Init := Starts
  log_init _ hg := hg.log
  unique_init _ hg := hg.unique
  Ok e g := Commit settings e.ran g

variable {settings : Settings} {text : TopicText} {ticks : Time → Time → Bool} {l l' L o : Local} {g g' G : Shared}
  {room : Uuid}

lemma Holds.mono (h : Holds settings l g room) (hlocks : l.locks ⊆ l'.locks) (hadvisory : l.advisory ⊆ l'.advisory)
    (hdrawn : l.drawn ⊆ l'.drawn) (hdb : g'.db = g.db) : Holds settings l' g' room := by
  rw [Holds, hdb]
  rcases h with ⟨hd, hnone⟩ | ⟨c, hc, hlock | ⟨hlock, hadv⟩⟩
  · exact .inl ⟨hdrawn hd, hnone⟩
  · exact .inr ⟨c, hc, .inl (hlocks hlock)⟩
  · exact .inr ⟨c, hc, .inr ⟨hlocks hlock, hadvisory hadv⟩⟩

/-- Two transactions do not hold one room. -/
lemma Holds.exclusive (h : Holds settings l g room) (hc : Compat index l o) : ¬ Holds settings o g room := by
  rintro (⟨hd', hnone'⟩ | ⟨c', hc', hheld'⟩)
  · rcases h with ⟨hd, -⟩ | ⟨c, hc₁, -⟩
    · exact hc.drawn room hd hd'
    · rw [hnone'] at hc₁
      cases hc₁
  · rcases h with ⟨-, hnone⟩ | ⟨c, hc₁, hheld⟩
    · rw [hnone] at hc'
      cases hc'
    · obtain rfl : c = c' := Option.some.inj (hc₁.symm.trans hc')
      rcases hheld with hu | ⟨hs, ha⟩ <;> rcases hheld' with hu' | ⟨hs', ha'⟩
      · cases hc.locks _ _ _ hu hu'
      · cases hc.locks _ _ _ hu hs'
      · cases hc.locks _ _ _ hs hu'
      · exact hc.advisory _ ha ha'

lemma Holds.commit {e : Entry} (h : Holds settings l g room) (hcommit : Commits (contract settings text ticks) e g)
    (hc : Compat index l e.ran) : Holds settings l (g.commit e) room := by
  obtain ⟨own, hrows, -⟩ := hcommit.ok
  have hroom : Appends settings own e.ran g (.chatrooms room) (g.db.get (.chatrooms room))
      ((g.commit e).db.get (.chatrooms room)) := by
    rw [Shared.db_commit]
    exact hrows (.chatrooms room)
  rcases h with ⟨hd, hnone⟩ | ⟨c, hget, hheld⟩
  · refine .inl ⟨hd, ?_⟩
    rw [hnone] at hroom
    by_contra hne
    exact hc.drawn room hd (hroom hne)
  · rw [hget] at hroom
    obtain ⟨c', hget', hgroup⟩ := hroom
    refine .inr ⟨c', hget', ?_⟩
    rw [hgroup]
    exact hheld

/-- A room that is held stays held. -/
lemma Holds.evolve (h : Holds settings l g room) (hev : Evolve (contract settings text ticks) l g l' g') :
    Holds settings l' g' room := by
  induction hev with
  | refl => exact h
  | other hev hi ih =>
    cases hi with
    | shift hs _ => exact ih.mono (List.Subset.refl _) (List.Subset.refl _) (List.Subset.refl _) hs.db
    | commit hcommit hc _ _ _ => exact ih.commit hcommit hc
  | own hev hgrow hs ih =>
    have hown := Evolve.refl.own (C := contract settings text ticks) hgrow hs
    exact ih.mono hown.locks hown.advisory hown.drawn hs.db

/-- While a room is held, its conversation gets no events from others. -/
lemma Holds.events (h : Holds settings l g room) (hev : Evolve (contract settings text ticks) l g l' g') {j : Uuid}
    {r : ConversationEvent} (hr : g'.db.get (.conversationEvents j) = some r) (hroom : r.conversationId = room) :
    ∃ r₀, g.db.get (.conversationEvents j) = some r₀ ∧ SamePlace r₀ r := by
  induction hev generalizing r with
  | refl => exact ⟨r, hr, .refl r⟩
  | @other l₁ g₁ g₂ hev hi ih =>
    cases hi with
    | shift hs _ =>
      rw [hs.db] at hr
      exact ih hr hroom
    | @commit e hcommit hc _ _ _ =>
      obtain ⟨own, hrows, -⟩ := hcommit.ok
      have hrow := hrows (.conversationEvents j)
      rw [Shared.db_commit, Shared.view] at hr
      rw [hr] at hrow
      cases hbase : g₁.db.get (.conversationEvents j) with
      | none =>
        rw [hbase] at hrow
        have hnew : Holds settings e.ran g₁ r.conversationId := (hrow r rfl).1.holds
        rw [hroom] at hnew
        exact ((h.evolve hev).exclusive hc hnew).elim
      | some r₁ =>
        rw [hbase] at hrow
        obtain ⟨r', heq, hsame⟩ := hrow
        cases heq
        obtain ⟨r₀, hr₀, hsame₀⟩ := ih hbase (hsame.room.symm.trans hroom)
        exact ⟨r₀, hr₀, hsame₀.trans hsame⟩
  | own hev _ hs ih =>
    rw [hs.db] at hr
    exact ih hr hroom

/-- While a room is held, it gets no messages from others. -/
lemma Holds.messages (h : Holds settings l g room) (hev : Evolve (contract settings text ticks) l g l' g') {j : Uuid}
    {m : Message} (hm : g'.db.get (.messages j) = some m) (hroom : m.chatroomId = room) :
    ∃ m₀, g.db.get (.messages j) = some m₀ ∧ m₀.chatroomId = room ∧ m₀.createdAt = m.createdAt := by
  induction hev generalizing m with
  | refl => exact ⟨m, hm, hroom, rfl⟩
  | @other l₁ g₁ g₂ hev hi ih =>
    cases hi with
    | shift hs _ =>
      rw [hs.db] at hm
      exact ih hm hroom
    | @commit e hcommit hc _ _ _ =>
      obtain ⟨own, hrows, -⟩ := hcommit.ok
      have hrow := hrows (.messages j)
      rw [Shared.db_commit, Shared.view] at hm
      rw [hm] at hrow
      cases hbase : g₁.db.get (.messages j) with
      | none =>
        rw [hbase] at hrow
        have hnew : Holds settings e.ran g₁ m.chatroomId := (hrow m rfl).1.holds
        rw [hroom] at hnew
        exact ((h.evolve hev).exclusive hc hnew).elim
      | some m₁ =>
        rw [hbase] at hrow
        obtain ⟨m', heq, hsame, htime⟩ := hrow
        cases heq
        obtain ⟨m₀, hm₀, hroom₀, htime₀⟩ := ih hbase (hsame.symm.trans hroom)
        exact ⟨m₀, hm₀, hroom₀, htime₀.trans htime.symm⟩
  | own hev _ hs ih =>
    rw [hs.db] at hm
    exact ih hm hroom

/-- The cursors in the table were drawn from the sequence. -/
lemma cursor_drawn (hg : History (contract settings text ticks) g) {j : Uuid} {r : ConversationEvent}
    (hr : g.db.get (.conversationEvents j) = some r) : 0 < r.cursor ∧ r.cursor ≤ g.sequence := by
  induction hg generalizing r with
  | @init g hinit =>
    refine hinit.cursors j r ?_
    simpa [Shared.db, Shared.version, hinit.log] using hr
  | shift _ hs ih =>
    rw [hs.db] at hr
    exact ⟨(ih hr).1, Nat.le_trans (ih hr).2 hs.sequence⟩
  | @commit g e hg hcommit ih =>
    obtain ⟨own, hrows, -⟩ := hcommit.ok
    have hrow := hrows (.conversationEvents j)
    rw [Shared.db_commit, Shared.view] at hr
    rw [hr] at hrow
    cases hbase : g.db.get (.conversationEvents j) with
    | none =>
      rw [hbase] at hrow
      exact ⟨(hrow r rfl).1.positive, (hrow r rfl).1.drawn⟩
    | some r₁ =>
      rw [hbase] at hrow
      obtain ⟨r', heq, hsame⟩ := hrow
      cases heq
      rw [hsame.cursor]
      exact ih hbase

/-- A message stays in its room and keeps its time. -/
lemma message_kept (hg : History (contract settings text ticks) g) {n m : Nat} (hnm : n ≤ m) (hm : m ≤ g.csn) {i : Uuid}
    {row : Message} (hrow : (g.version n).get (.messages i) = some row) :
    ∃ row', (g.version m).get (.messages i) = some row' ∧ row'.chatroomId = row.chatroomId ∧
      row'.createdAt = row.createdAt := by
  refine hg.stable (P := fun s => ∃ row', s.get (.messages i) = some row' ∧ row'.chatroomId = row.chatroomId ∧
    row'.createdAt = row.createdAt) ?_ hnm hm ⟨row, hrow, rfl, rfl⟩
  rintro g₁ e - hcommit ⟨row₁, hrow₁, hroom, htime⟩
  obtain ⟨own, hrows, -⟩ := hcommit.ok
  have hkept := hrows (.messages i)
  rw [hrow₁] at hkept
  obtain ⟨row', hrow', hroom', htime'⟩ := hkept
  exact ⟨row', hrow', hroom'.trans hroom, htime'.trans htime⟩

/-- A room stays in its group. -/
lemma room_kept (hg : History (contract settings text ticks) g) {n : Nat} (hn : n ≤ g.csn) {c : Chatroom}
    (hc : (g.version n).get (.chatrooms room) = some c) :
    ∃ c', g.db.get (.chatrooms room) = some c' ∧ c'.groupId = c.groupId := by
  refine hg.stable (P := fun s => ∃ c', s.get (.chatrooms room) = some c' ∧ c'.groupId = c.groupId) ?_ hn (Nat.le_refl _)
    ⟨c, hc, rfl⟩
  rintro g₁ e - hcommit ⟨c₁, hc₁, hgroup⟩
  obtain ⟨own, hrows, -⟩ := hcommit.ok
  have hrow := hrows (.chatrooms room)
  rw [hc₁] at hrow
  obtain ⟨c', hc', hgroup'⟩ := hrow
  exact ⟨c', hc', hgroup'.trans hgroup⟩

lemma drawnRooms : DrawnKeys (contract settings text ticks) Key.chatrooms where
  init _ hg := hg.rooms
  insert e g hcommit i hnone hsome := by
    obtain ⟨own, hrows, -⟩ := hcommit.ok
    have hrow := hrows (.chatrooms i)
    rw [hnone] at hrow
    exact hrow hsome

end Holding

section Recording

variable {settings : Settings} {text : TopicText} {ticks : Time → Time → Bool} {l l' L : Local} {g g' G : Shared} {ε : Type}

open Prog

variable {own : Option (Uuid × Uuid)}

/-- An event that is recorded while its room is held comes after all events of its conversation. -/
lemma rows_recordEvent {eventId outboxId room : Uuid} {payload : EventPayload} {e₁ e₂ : ε} {cursor : Nat}
    (h : Runs (contract settings text ticks) (recordEvent eventId outboxId room payload e₁ e₂) l g (.ok cursor) l' g' L G)
    (hg : History (contract settings text ticks) g) (hholds : Holds settings l g room)
    (hown : ∀ m, EventPayload.createsMessage m payload = true → own = some (eventId, m))
    (hrows : Rows (Appends settings own L G) G l) :
    Rows (Appends settings own L G) G l' ∧ (G.db.apply l.writes).get (.conversationEvents eventId) = none ∧
      ∃ r, (G.db.apply l'.writes).get (.conversationEvents eventId) = some r ∧ r.conversationId = room ∧
        r.payload = payload := by
  unfold recordEvent at h
  obtain ⟨cursor', l₁, g₁, h₁, r₁⟩ := h.bind
  obtain ⟨now, l₂, g₂, h₂, r₂⟩ := r₁.bind
  obtain ⟨rfl, hlt, hle⟩ := h₁.nextval
  obtain ⟨rfl, -⟩ := h₂.clock
  have hnew : ∀ r : ConversationEvent, r.cursor = cursor' → r.conversationId = room → NewEvent settings L G r := by
    rintro r hcursor rfl
    refine ⟨fun j r' hr' hroom => ?_, by omega, ?_, hholds.evolve h.evolve⟩
    · obtain ⟨r₀, hr₀, hsame⟩ := hholds.events h.evolve hr' hroom
      rw [hcursor, hsame.cursor]
      exact Nat.lt_of_le_of_lt (cursor_drawn hg hr₀).2 hlt
    · rw [hcursor]
      exact Nat.le_trans hle h₁.rest.later.sequence_le
  obtain ⟨_, l₃, g₃, h₃, r₃⟩ := r₂.bind
  have hrows₃ : Rows (Appends settings own L G) G l₃ := by
    refine (keeps_insertRow fun base hbase => ?_).rows h₃ hrows
    cases base with
    | none =>
      rintro r ⟨⟩
      exact ⟨hnew _ rfl rfl, hown⟩
    | some r₀ =>
      obtain ⟨r', heq, -⟩ := hbase
      cases heq
  obtain ⟨createdAt, l₄, g₄, h₄, r₄⟩ := r₃.bind
  obtain ⟨_, l₅, g₅, h₅, r₅⟩ := r₄.bind
  obtain ⟨rfl, -⟩ := h₄.clock
  obtain ⟨-, rfl⟩ := r₅.ret
  have hget := h₃.insertRow.get G.db
  rw [← h₅.insertRow.get_of_ne _ (fun heq => by cases heq)] at hget
  exact ⟨(keeps_insertRow fun _ _ => trivial).rows h₅ hrows₃, h₃.insertRow.absent, _, hget, rfl, rfl⟩

end Recording

end JamyeServer.Events
