import JamyeServer.Conversations.Replay
import JamyeServer.Events.System

/-!
# What the writers of events commit

Most statements write other tables than events, messages and rooms. The time of a message and the cursor of an event are
drawn after the locks have been taken, so that the room is held from then to the commit.
-/

namespace JamyeServer.Events

open ReadCommitted Prog Postgres Rooms Messages Topics TopicDeletion Notifications

variable {settings : Settings} {text : TopicText} {ticks : Time → Time → Bool} {l l' L : Local} {g g' G : Shared}
  {C : Contract (system settings text ticks)} {ε : Type} {own : Option (Uuid × Uuid)}

section Outside

/-- The rows of other tables than events, messages and rooms. -/
def Outside : Key → Prop
  | .conversationEvents _ | .messages _ | .chatrooms _ => False
  | _ => True

lemma appends_of_outside {k : Key} (hk : Outside k) (base v : Option (Row k)) : Appends settings own L G k base v := by
  cases k <;> first | exact hk.elim | trivial

lemma keeps_outside {α : Type} {p : Sql ε α} (h : p.Touches Outside) : p.Keeps C (Appends settings own L G) :=
  keeps_of_free (h.mono fun _ hk base v => appends_of_outside hk base v)

lemma appends_refl (k : Key) (v : Option (Row k)) : Appends settings own L G k v v := by
  cases k with
  | conversationEvents i =>
    cases v with
    | none => exact fun r hr => by cases hr
    | some r => exact ⟨r, rfl, .refl r⟩
  | messages i =>
    cases v with
    | none => exact fun m hm => by cases hm
    | some m => exact ⟨m, rfl, rfl, rfl⟩
  | chatrooms i =>
    cases v with
    | none => exact fun hne => (hne rfl).elim
    | some c => exact ⟨c, rfl, rfl⟩
  | _ => trivial

lemma rows_start (hw : l.writes = []) : Rows (Appends settings own L G) G l :=
  rows_of_empty hw fun k => appends_refl k _

end Outside

section Locks

lemma runs_andThen {α β : Type} {p : Sql ε (Option α)} {f : α → Sql ε (Option β)} {b : β}
    (h : Runs C (andThen p f) l g (.ok (some b)) l' g' L G) :
    ∃ a l₁ g₁, Runs C p l g (.ok (some a)) l₁ g₁ L G ∧ Runs C (f a) l₁ g₁ (.ok (some b)) l' g' L G := by
  unfold andThen at h
  obtain ⟨x, l₁, g₁, h₁, r₁⟩ := h.bind
  cases x with
  | none =>
    obtain ⟨hb, -⟩ := r₁.ret
    cases hb
  | some a => exact ⟨a, l₁, g₁, h₁, r₁⟩

lemma lockLiveGroup_locks {m : LockMode} {groupId : Uuid} {u : Unit}
    (h : Runs C (Rooms.lockLiveGroup m groupId : Sql ε _) l g (.ok (some u)) l' g' L G) : (.groups groupId, m) ∈ l'.locks := by
  rcases h.lockRow with ⟨ha, -, -⟩ | ⟨t, r, -, rfl, -, -⟩
  · cases ha
  · exact List.mem_cons_self

variable {room : Uuid}

/-- A room that was seen in a snapshot, and how its group has been locked since. -/
def SeenAt (G : Shared) (n : Nat) (room groupId : Uuid) : Prop :=
  ∃ c, (G.version n).get (.chatrooms room) = some c ∧ c.groupId = groupId

/-- The room is there now, in the same group. -/
lemma SeenAt.now {n : Nat} {groupId : Uuid} (h : SeenAt G n room groupId) (hg : History (contract settings text ticks) g)
    (hn : n ≤ g.csn) (hG : Later (contract settings text ticks) g G) :
    ∃ c, g.db.get (.chatrooms room) = some c ∧ c.groupId = groupId := by
  obtain ⟨c, hc, rfl⟩ := h
  rw [hG.version hn] at hc
  exact room_kept hg hn hc

lemma holds_of_update {n : Nat} {groupId : Uuid} (h : SeenAt G n room groupId)
    (hg : History (contract settings text ticks) g) (hn : n ≤ g.csn) (hG : Later (contract settings text ticks) g G)
    (hlock : (.groups groupId, .update) ∈ l.locks) : Holds settings l g room := by
  obtain ⟨c, hc, rfl⟩ := h.now hg hn hG
  exact .inr ⟨c, hc, .inl hlock⟩

/-- A send locks the group of the room `FOR SHARE`. -/
lemma authorize_locks {command : SendMessageCommand} {u : Unit}
    (h : Runs C (authorize command) l g (.ok u) l' g' L G) (hw : l.writes = []) :
    ∃ n groupId, n ≤ g'.csn ∧ SeenAt G n command.chatroomId groupId ∧ (.groups groupId, .share) ∈ l'.locks := by
  unfold authorize at h
  obtain ⟨s, l₁, g₁, h₁, r₁⟩ := h.bind
  obtain ⟨authorized, l₂, g₂, h₂, r₂⟩ := r₁.bind
  obtain ⟨hsome, rfl⟩ := r₂.ensure
  obtain ⟨gs, -, hgs', -, rfl⟩ := h₁.snapshot
  obtain ⟨a, rfl⟩ := Option.isSome_iff_exists.mp hsome
  obtain ⟨⟨groupId, membershipId⟩, hmem, l₃, g₃, g₄, -, h₃, -⟩ := h₂.first_some
  obtain ⟨_, l₄, g₅, h₄, h₅⟩ := runs_andThen h₃
  refine ⟨gs.csn, groupId, ?_, ?_, h₅.returns.evolve.locks (lockLiveGroup_locks h₄)⟩
  · exact Nat.le_trans hgs'.csn_le (Nat.le_trans h₂.returns.evolve.later.csn_le r₂.returns.evolve.later.csn_le)
  · rw [hw, Store.apply_nil] at hmem
    split at hmem
    · unfold accesses at hmem
      split at hmem
      · cases hmem
      · rename_i c hc
        split at hmem
        · obtain ⟨m, -, heq⟩ := List.mem_map.mp hmem
          cases heq
          exact ⟨c, hc, rfl⟩
        · cases hmem
    · cases hmem

/-- The deletion of a message locks the group of the room `FOR UPDATE`. -/
lemma lockLiveChatroom_locks {groupId : Uuid} (h : Runs C (lockLiveChatroom room) l g (.ok groupId) l' g' L G)
    (hw : l.writes = []) : ∃ n, n ≤ g'.csn ∧ SeenAt G n room groupId ∧ (.groups groupId, .update) ∈ l'.locks := by
  unfold lockLiveChatroom at h
  obtain ⟨s, l₁, g₁, h₁, r₁⟩ := h.bind
  obtain ⟨gs, -, hgs', -, rfl⟩ := h₁.snapshot
  refine ⟨gs.csn, Nat.le_trans hgs'.csn_le r₁.returns.evolve.later.csn_le, ?_⟩
  rw [hw, Store.apply_nil] at r₁
  dsimp only at r₁
  split at r₁
  · rename_i c hc
    split at r₁
    · obtain ⟨found, l₂, g₂, h₂, r₂⟩ := r₁.bind
      obtain ⟨rfl, rfl⟩ := r₂.ofOption
      obtain ⟨_, l₃, g₃, h₃, r₃⟩ := runs_andThen h₂
      obtain ⟨_, l₄, g₄, h₄, r₄⟩ := runs_andThen r₃
      obtain ⟨heq, -⟩ := r₄.ret
      cases heq
      exact ⟨⟨c, hc, rfl⟩, r₃.returns.evolve.locks (lockLiveGroup_locks h₃)⟩
    · exact (Runs.not_fail r₁).elim
  · exact (Runs.not_fail r₁).elim

end Locks

section Send

/-- The next time is later than those of all messages of the room. -/
lemma lt_nextTimestamp {s : Store Row} {room i : Uuid} {now : Time} {m : Message} (hm : s.get (.messages i) = some m)
    (hroom : m.chatroomId = room) : m.createdAt < (latestMessage s room).elim now fun t => max now (t + 1) := by
  have hmem : m.createdAt ∈ (s.ids Tables.messages fun _ r => decide (r.chatroomId = room)).filterMap
      fun i => (s.get (.messages i)).map Message.createdAt := by
    refine List.mem_filterMap.mpr ⟨i, Store.mem_ids.mpr ⟨m, hm, decide_eq_true hroom⟩, ?_⟩
    rw [hm]
    rfl
  cases hlatest : latestMessage s room with
  | none =>
    rw [latestMessage, List.max?_eq_none_iff] at hlatest
    rw [hlatest] at hmem
    cases hmem
  | some t =>
    have hle : m.createdAt ≤ t := (List.max?_eq_some_iff.mp hlatest).2 _ hmem
    exact Nat.lt_of_lt_of_le (Nat.lt_succ_of_le hle) (Nat.le_max_right _ _)

/-- After the time of a message has been drawn, the room is held and gets no later message. -/
lemma nextTimestamp_holds {room groupId : Uuid} {n : Nat} {t : Time}
    (h : Runs (contract settings text ticks) (nextTimestamp settings room : Sql ε _) l g (.ok t) l' g' L G)
    (hg : History (contract settings text ticks) g) (hn : n ≤ g.csn) (hseen : SeenAt G n room groupId)
    (hlock : (.groups groupId, .update) ∈ l.locks ∨ (.groups groupId, .share) ∈ l.locks)
    (hfree : ∀ (s : Store Row) i, (s.apply l.writes).get (.messages i) = s.get (.messages i)) :
    Holds settings l' g' room ∧ ∀ m : Message, m.chatroomId = room → m.createdAt = t → NewMessage settings L G m := by
  have hG := h.evolve.later.history hg
  unfold nextTimestamp at h
  obtain ⟨_, l₁, g₁, h₁, r₁⟩ := h.bind
  obtain ⟨s, l₂, g₂, h₂, r₂⟩ := r₁.bind
  obtain ⟨now, l₃, g₃, h₃, r₃⟩ := r₂.bind
  obtain ⟨rfl, rfl⟩ := r₃.ret
  obtain ⟨gs, hgs, hgs', -, rfl⟩ := h₂.snapshot
  have hl₁ := h₁.advisory
  have hg₁ := h₁.returns.evolve.later.history hg
  have hholds : Holds settings l₁ g₁ room := by
    obtain ⟨c, hc, rfl⟩ := hseen.now hg₁ (Nat.le_trans hn h₁.returns.evolve.later.csn_le) h₁.rest.later
    refine .inr ⟨c, hc, ?_⟩
    rw [hl₁]
    exact hlock.imp id fun hshare => ⟨hshare, List.mem_cons_self⟩
  refine ⟨hholds.evolve r₁.returns.evolve, fun m hroom htime => ⟨fun j m' hm' hroom' => ?_, ?_⟩⟩
  · obtain ⟨m₀, hm₀, hroom₀, htime₀⟩ := hholds.messages h₁.rest hm' (hroom'.trans hroom)
    rw [Shared.db, ← h₁.rest.later.version (Nat.le_refl _)] at hm₀
    obtain ⟨m₁, hm₁, hroom₁, htime₁⟩ := message_kept hG hgs.csn_le (hgs'.trans h₂.rest.later).csn_le hm₀
    have hsee : ((G.version gs.csn).apply l₁.writes).get (.messages j) = some m₁ := by
      rw [hl₁]
      exact (hfree _ j).trans hm₁
    rw [htime, ← htime₀, ← htime₁]
    exact lt_nextTimestamp hsee (hroom₁.trans hroom₀)
  · rw [hroom]
    exact hholds.evolve h₁.rest

/-- A message that is added while its room is held. -/
lemma keeps_insertMessage {id : Uuid} {row : Message} (hnew : NewMessage settings L G row) (hown : ∃ j, own = some (j, id)) :
    ∀ base, Appends settings own L G (.messages id) base none → Appends settings own L G (.messages id) base (some row) := by
  intro base hbase
  cases base with
  | none =>
    rintro m ⟨⟩
    exact ⟨hnew, hown⟩
  | some m₀ =>
    obtain ⟨m', heq, -⟩ := hbase
    cases heq

/-- What a send leaves that has stored its message: the room is held, and the message is new or it was there before. -/
structure Persists (settings : Settings) (room : Uuid) (outcome : PersistMessageOutcome) (l' : Local) (g' : Shared) (L : Local)
    (G : Shared) : Prop where
  stored : ∀ message eventId, outcome = .existing message eventId → ∀ own, Rows (Appends settings own L G) G l'
  created : ∀ message, outcome = .created message → message.chatroomId = room ∧ Holds settings l' g' room ∧
    G.db.get (.messages message.id) = none ∧
    (∃ row, (G.db.apply l'.writes).get (.messages message.id) = some row ∧ row.chatroomId = room) ∧
    ∀ eventId, Rows (Appends settings (some (eventId, message.id)) L G) G l'

lemma persist_persists {command : SendMessageCommand} {outcome : PersistMessageOutcome}
    (h : Runs (contract settings text ticks) (persist settings command) l g (.ok outcome) l' g' L G)
    (hw : l.writes = []) (hg : History (contract settings text ticks) g) :
    Persists settings command.chatroomId outcome l' g' L G := by
  unfold persist at h
  obtain ⟨_, l₁, g₁, h₁, r₁⟩ := h.bind
  obtain ⟨createdAt, l₂, g₂, h₂, r₂⟩ := r₁.bind
  obtain ⟨id, l₃, g₃, h₃, r₃⟩ := r₂.bind
  obtain ⟨s, l₄, g₄, h₄, r₄⟩ := r₃.bind
  obtain ⟨inserted, l₅, g₅, h₅, r₅⟩ := r₄.bind
  obtain ⟨n, groupId, hn, hseen, hlock⟩ := authorize_locks h₁ hw
  have hw₁ : l₁.writes = [] := (h₁.writes_eq touches_authorize).trans hw
  have hg₁ := h₁.returns.evolve.later.history hg
  obtain ⟨hholds, hnew⟩ := nextTimestamp_holds h₂ hg₁ hn hseen (.inr hlock) fun s i => by rw [hw₁, Store.apply_nil]
  have hw₄ : l₄.writes = [] := by
    rw [h₄.writes_eq ⟨trivial, fun _ => trivial⟩, h₃.writes_eq ⟨trivial, fun _ => trivial⟩,
      h₂.writes_eq ⟨trivial, fun _ => ⟨trivial, fun _ => ⟨trivial, fun _ => trivial⟩⟩⟩, hw₁]
  rcases h₅.insertOrSkip with ⟨rfl, hinsert⟩ | ⟨rfl, rfl, -⟩
  · obtain ⟨rfl, rfl⟩ := r₅.ret
    refine ⟨fun _ _ heq => (by cases heq), fun message heq => ?_⟩
    cases heq
    refine ⟨rfl, ?_, ?_, ⟨_, hinsert.get _, rfl⟩, fun eventId => ?_⟩
    · exact hholds.evolve ((h₃.returns.evolve.trans h₄.returns.evolve).trans (h₅.returns.evolve.trans r₅.returns.evolve))
    · have habsent := hinsert.absent
      rw [hw₄, Store.apply_nil] at habsent
      exact habsent
    · exact (keeps_insertOrSkip (keeps_insertMessage (hnew _ rfl rfl) ⟨eventId, rfl⟩)).rows h₅ (rows_start hw₄)
  · obtain ⟨message, eventId, rfl⟩ := existingMessage_existing r₅
    refine ⟨fun _ _ _ own => rows_start ?_, fun _ heq => (by cases heq)⟩
    rw [r₅.writes_eq touches_existingMessage, hw₄]

/-- An event that the transaction does not see is not there. -/
lemma event_absent {i : Uuid} (hrows : Rows (Appends settings own L G) G l)
    (h : (G.db.apply l.writes).get (.conversationEvents i) = none) : G.db.get (.conversationEvents i) = none := by
  have hrow := hrows (.conversationEvents i)
  rw [h] at hrow
  cases hbase : G.db.get (.conversationEvents i) with
  | none => rfl
  | some r =>
    rw [hbase] at hrow
    obtain ⟨r', heq, -⟩ := hrow
    cases heq

lemma commit_sendMessageHttp {actorId : Uuid} {input : SendMessageInput} {outcome : SendMessageOutcome}
    (h : Runs (contract settings text ticks) (sendMessageHttp settings text.mask actorId input) l g (.ok outcome) l' g' L G)
    (hw : l.writes = []) (hg : History (contract settings text ticks) g) :
    ∃ own, Rows (Appends settings own L G) G l' ∧ Paired own l' G := by
  unfold sendMessageHttp at h
  obtain ⟨command, l₁, g₁, h₁, r₁⟩ := h.bind
  obtain ⟨stored, l₂, g₂, h₂, r₂⟩ := r₁.bind
  obtain ⟨context, l₃, g₃, h₃, r₃⟩ := r₂.bind
  obtain ⟨attachments, l₄, g₄, h₄, r₄⟩ := r₃.bind
  have hw₁ := (h₁.writes_eq (touches_ensure.bind fun _ => touches_ensure.bind fun _ => trivial)).trans hw
  have hg₁ := h₁.returns.evolve.later.history hg
  have hpersists := persist_persists h₂.mapError hw₁ hg₁
  have hrows₄ : ∀ {own}, Rows (Appends settings own L G) G l₂ → Rows (Appends settings own L G) G l₄ := fun hrows =>
    (keeps_outside (Media.touches_bindAuthoritativeMessageMedia (fun _ => trivial) fun _ => trivial)).rows h₄.mapError
      ((keeps_outside touches_deliveryContext).rows h₃.mapError hrows)
  cases stored with
  | existing message eventId =>
    exact ⟨none, keeps_ret.rows r₄ (hrows₄ (hpersists.stored message eventId rfl none)), paired_none⟩
  | created message =>
    obtain ⟨hroom, hholds, habsent, ⟨row, hrow, hrowRoom⟩, hrows₂⟩ := hpersists.created message rfl
    obtain ⟨eventId, l₅, g₅, h₅, r₅⟩ := r₄.bind
    obtain ⟨outboxId, l₆, g₆, h₆, r₆⟩ := r₅.bind
    obtain ⟨cursor, l₇, g₇, h₇, r₇⟩ := r₆.bind
    obtain ⟨_, l₈, g₈, h₈, r₈⟩ := r₇.bind
    obtain ⟨-, rfl⟩ := r₈.ret
    have hrows₆ := keeps_fresh.rows h₆ (keeps_fresh.rows h₅ (hrows₄ (hrows₂ eventId)))
    have hev := (h₃.returns.evolve.trans h₄.returns.evolve).trans (h₅.returns.evolve.trans h₆.returns.evolve)
    have hholds₆ : Holds settings l₆ g₆ message.chatroomId := by
      rw [hroom]
      exact hholds.evolve hev
    obtain ⟨hrows₇, hbefore, r, hr, hrRoom, hpayload⟩ := rows_recordEvent h₇.mapError
      ((h₂.returns.evolve.trans hev).later.history hg₁) hholds₆
      (fun m hm => by rw [← of_decide_eq_true hm]) hrows₆
    have hframe : ∀ k, ¬ Outside k → (G.db.apply l'.writes).get k = (G.db.apply l₇.writes).get k := fun k hk =>
      h₈.mapError.get_of_touches (touches_recordMessageCreated (fun _ => trivial) fun _ => trivial) hk _
    have hmessage : (G.db.apply l'.writes).get (.messages message.id) = some row := by
      rw [hframe _ id, h₇.mapError.get_of_touches (P := fun k => ∀ i, k ≠ .messages i)
        (touches_recordEvent (fun _ heq => by cases heq) fun _ heq => by cases heq) (fun hne => hne _ rfl),
        h₆.writes_eq ⟨trivial, fun _ => trivial⟩, h₅.writes_eq ⟨trivial, fun _ => trivial⟩,
        h₄.mapError.get_of_touches (P := Outside)
          (Media.touches_bindAuthoritativeMessageMedia (fun _ => trivial) fun _ => trivial) id,
        h₃.mapError.get_of_touches (P := Outside) touches_deliveryContext id]
      exact hrow
    refine ⟨some (eventId, message.id), (keeps_outside (touches_recordMessageCreated (fun _ => trivial) fun _ => trivial)).rows
      h₈.mapError hrows₇, ?_⟩
    rintro i m ⟨⟩
    refine ⟨event_absent hrows₆ hbefore, habsent, r, row, (hframe _ id).trans hr, ?_, hmessage, ?_⟩
    · rw [hpayload]
      exact decide_eq_true rfl
    · rw [hrRoom, hrowRoom, hroom]

end Send

section Delete

/-- A statement that leaves events where they are. -/
lemma keeps_events {α : Type} {q : Store Row → List Uuid} {error : ε}
    {f : Store Row → Uuid → Time → ConversationEvent → Option (ConversationEvent × α)}
    (hf : ∀ s i t r r' a, f s i t r = some (r', a) → SamePlace r r') :
    (update Tables.conversationEvents q f error : Sql ε (List α)).Keeps C (Appends settings own L G) := by
  refine keeps_update fun s i base t r r' a hr hr' => ?_
  have hsame := hf s i t r r' a hr'
  cases base with
  | none =>
    rintro r'' ⟨⟩
    obtain ⟨⟨hlast, hpositive, hdrawn, hholds⟩, hown⟩ := hr r rfl
    rw [← hsame.cursor] at hpositive hdrawn
    rw [← hsame.room] at hholds
    refine ⟨⟨fun j r₁ hr₁ hroom₁ => ?_, hpositive, hdrawn, hholds⟩, fun m hm => hown m ?_⟩
    · rw [hsame.cursor]
      exact hlast j r₁ hr₁ (hroom₁.trans hsame.room)
    · rw [← hsame.message]
      exact hm
  | some r₀ =>
    obtain ⟨r₁, heq, hsame₀⟩ := hr
    cases heq
    exact ⟨r', rfl, hsame₀.trans hsame⟩

/-- A statement that leaves messages where they are. -/
lemma keeps_messages {α : Type} {q : Store Row → List Uuid} {error : ε}
    {f : Store Row → Uuid → Time → Message → Option (Message × α)}
    (hf : ∀ s i t m m' a, f s i t m = some (m', a) → m'.chatroomId = m.chatroomId ∧ m'.createdAt = m.createdAt) :
    (update Tables.messages q f error : Sql ε (List α)).Keeps C (Appends settings own L G) := by
  refine keeps_update fun s i base t m m' a hm hm' => ?_
  obtain ⟨hroom, htime⟩ := hf s i t m m' a hm'
  cases base with
  | none =>
    rintro m'' ⟨⟩
    obtain ⟨⟨hlast, hholds⟩, hown⟩ := hm m rfl
    rw [← hroom] at hholds
    refine ⟨⟨fun j m₁ hm₁ hroom₁ => ?_, hholds⟩, hown⟩
    rw [htime]
    exact hlast j m₁ hm₁ (hroom₁.trans hroom)
  | some m₀ =>
    obtain ⟨m₁, heq, hroom₀, htime₀⟩ := hm
    cases heq
    exact ⟨m', rfl, hroom.trans hroom₀, htime.trans htime₀⟩

lemma createsMessage_scrub (m : Uuid) (payload : EventPayload) :
    EventPayload.createsMessage m (EventPayload.scrub payload) = EventPayload.createsMessage m payload := by
  cases payload <;> rfl

lemma keeps_scrubMessageRow {messageId : Uuid} {deletedAt : Time} :
    (scrubMessageRow messageId deletedAt).Keeps C (Appends settings own L G) := by
  refine Keeps.bind (keeps_messages fun s i t m m' a hf => ?_) fun _ => keeps_ret
  split at hf
  · cases hf
    exact ⟨rfl, rfl⟩
  · cases hf

lemma rows_removeMessage {removal : Removal} {deletedAt : Time} {u : Unit}
    (h : Runs (contract settings text ticks) (removeMessage removal deletedAt) l g (.ok u) l' g' L G)
    (hg : History (contract settings text ticks) g) (hholds : Holds settings l g removal.chatroomId)
    (hrows : Rows (Appends settings own L G) G l) : Rows (Appends settings own L G) G l' := by
  unfold removeMessage at h
  obtain ⟨media, l₁, g₁, h₁, r₁⟩ := h.bind
  obtain ⟨_, l₂, g₂, h₂, r₂⟩ := r₁.bind
  obtain ⟨_, l₃, g₃, h₃, r₃⟩ := r₂.bind
  obtain ⟨_, l₄, g₄, h₄, r₄⟩ := r₃.bind
  obtain ⟨_, l₅, g₅, h₅, r₅⟩ := r₄.bind
  obtain ⟨events, l₆, g₆, h₆, r₆⟩ := r₅.bind
  obtain ⟨_, l₇, g₇, h₇, r₇⟩ := r₆.bind
  obtain ⟨_, l₈, g₈, h₈, r₈⟩ := r₇.bind
  obtain ⟨_, l₉, g₉, h₉, r₉⟩ := r₈.bind
  obtain ⟨eventId, l₁₀, g₁₀, h₁₀, r₁₀⟩ := r₉.bind
  obtain ⟨outboxId, l₁₁, g₁₁, h₁₁, r₁₁⟩ := r₁₀.bind
  obtain ⟨cursor, l₁₂, g₁₂, h₁₂, r₁₂⟩ := r₁₁.bind
  obtain ⟨-, rfl⟩ := r₁₂.ret
  have hrows₁ := (keeps_of_touches touches_lockMessageMedia).rows h₁ hrows
  have hrows₂ := (keeps_outside (touches_enqueueObjectDeletions fun _ => trivial)).rows h₂ hrows₁
  have hrows₃ := (keeps_outside (touches_markMediaUploadsDeleted fun _ => trivial)).rows h₃ hrows₂
  have hrows₄ := (keeps_outside (touches_deleteMessageMedia fun _ => trivial)).rows h₄ hrows₃
  have hrows₅ := keeps_scrubMessageRow.rows h₅ hrows₄
  have hrows₆ : Rows (Appends settings own L G) G l₆ := by
    refine (keeps_events fun s i t r r' a hf => ?_).rows h₆ hrows₅
    split at hf
    · cases hf
      exact ⟨rfl, rfl, fun m => createsMessage_scrub m _⟩
    · cases hf
  have hrows₇ := (keeps_outside (touches_scrubMessageCreatedOutbox fun _ => trivial)).rows h₇ hrows₆
  have hrows₈ := (keeps_outside (touches_stopMessagePushOccurrences fun _ => trivial)).rows h₈ hrows₇
  have hrows₉ := (keeps_outside (touches_hideMessageNotifications fun _ => trivial)).rows h₉ hrows₈
  have hrows₁₁ := keeps_fresh.rows h₁₁ (keeps_fresh.rows h₁₀ hrows₉)
  have hev := (((h₁.returns.evolve.trans h₂.returns.evolve).trans (h₃.returns.evolve.trans h₄.returns.evolve)).trans
    ((h₅.returns.evolve.trans h₆.returns.evolve).trans (h₇.returns.evolve.trans h₈.returns.evolve))).trans
    ((h₉.returns.evolve.trans h₁₀.returns.evolve).trans h₁₁.returns.evolve)
  exact (rows_recordEvent h₁₂ (hev.later.history hg) (hholds.evolve hev) (fun _ hm => (Bool.false_ne_true hm).elim) hrows₁₁).1

lemma rows_deleteMessage {actorId chatroomId messageId : Uuid} {u : Unit}
    (h : Runs (contract settings text ticks) (Messages.deleteMessage actorId chatroomId messageId) l g (.ok u) l' g' L G)
    (hw : l.writes = []) (hg : History (contract settings text ticks) g) : Rows (Appends settings own L G) G l' := by
  unfold Messages.deleteMessage at h
  obtain ⟨groupId, l₁, g₁, h₁, r₁⟩ := h.bind
  obtain ⟨_, l₂, g₂, h₂, r₂⟩ := r₁.bind
  obtain ⟨deletedAt, l₃, g₃, h₃, r₃⟩ := r₂.bind
  have hlockMessage : (Messages.lockAuthorizedMessage actorId chatroomId messageId).Touches fun _ => False := by
    refine touches_fetchLockedMessage.bind fun row => ?_
    split
    · split <;> trivial
    · split
      · trivial
      · exact ⟨trivial, fun _ => trivial⟩
  have hrows₁ : Rows (Appends settings own L G) G l₁ := (keeps_of_touches touches_lockLiveChatroom).rows h₁ (rows_start hw)
  have hrows₂ := (keeps_of_touches touches_requireMembership).rows h₂ hrows₁
  have hrows₃ := (keeps_of_touches hlockMessage).rows h₃ hrows₂
  obtain ⟨n, hn, hseen, hlock⟩ := lockLiveChatroom_locks h₁ hw
  have hg₁ := h₁.returns.evolve.later.history hg
  have hholds := (holds_of_update hseen hg₁ hn h₁.rest.later hlock).evolve (h₂.returns.evolve.trans h₃.returns.evolve)
  cases deletedAt with
  | none => exact keeps_ret.rows r₃ hrows₃
  | some deletedAt => exact rows_removeMessage r₃ ((h₂.returns.evolve.trans h₃.returns.evolve).later.history hg₁) hholds hrows₃

lemma rows_moderatorDeleteMessage {messageId : Uuid} {outcome : ModeratorDeleteOutcome}
    (h : Runs (contract settings text ticks) (moderatorDeleteMessage messageId) l g (.ok outcome) l' g' L G)
    (hw : l.writes = []) (hg : History (contract settings text ticks) g) : Rows (Appends settings own L G) G l' := by
  unfold moderatorDeleteMessage at h
  obtain ⟨found, l₁, g₁, h₁, r₁⟩ := h.bind
  obtain ⟨chatroomId, l₂, g₂, h₂, r₂⟩ := r₁.bind
  obtain ⟨groupId, l₃, g₃, h₃, r₃⟩ := r₂.bind
  obtain ⟨row, l₄, g₄, h₄, r₄⟩ := r₃.bind
  have hrows₂ : Rows (Appends settings own L G) G l₂ := keeps_ofOption.rows h₂ (keeps_select.rows h₁ (rows_start hw))
  have hrows₃ := (keeps_of_touches touches_lockLiveChatroom).rows h₃ hrows₂
  have hrows₄ := (keeps_of_touches touches_fetchLockedMessage).rows h₄ hrows₃
  have hw₂ : l₂.writes = [] := by rw [h₂.writes_eq touches_ofOption, h₁.writes_eq touches_select, hw]
  obtain ⟨n, hn, hseen, hlock⟩ := lockLiveChatroom_locks h₃ hw₂
  have hg₃ := ((h₁.returns.evolve.trans h₂.returns.evolve).trans h₃.returns.evolve).later.history hg
  have hholds := (holds_of_update hseen hg₃ hn h₃.rest.later hlock).evolve h₄.returns.evolve
  split at r₄
  · exact keeps_ret.rows r₄ hrows₄
  · split at r₄
    · exact keeps_ret.rows r₄ hrows₄
    · obtain ⟨deletedAt, l₅, g₅, h₅, r₅⟩ := r₄.bind
      obtain ⟨_, l₆, g₆, h₆, r₆⟩ := r₅.bind
      obtain ⟨-, rfl⟩ := r₆.ret
      exact rows_removeMessage h₆ ((h₄.returns.evolve.trans h₅.returns.evolve).later.history hg₃)
        (hholds.evolve h₅.returns.evolve) (keeps_clock.rows h₅ hrows₄)

end Delete

end JamyeServer.Events
