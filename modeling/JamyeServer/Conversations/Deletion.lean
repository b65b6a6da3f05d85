import JamyeServer.Conversations.System
import JamyeServer.Postgres.Authorization
import JamyeServer.Postgres.Frames

/-!
# Deleted messages and the notifications of others

All unread messages of a conversation share one notification of each recipient, which knows its newest source only.
The deletion of that source hides the notification, and with it what it says of the messages before.
-/

namespace JamyeServer.Conversations

open ReadCommitted Prog Postgres Rooms Messages

section Effect

/-- The cursors of the events with which the message was created. -/
def createdCursors (s : Store Row) (chatroomId messageId : Uuid) : List Nat :=
  (s.ids Tables.conversationEvents fun _ e => decide (e.conversationId = chatroomId) &&
    Notifications.EventPayload.createsMessage messageId e.payload).filterMap fun i =>
      (s.get (.conversationEvents i)).map ConversationEvent.cursor

/-- The rows that a deletion leaves as they are. -/
def isKept : Key → Prop
  | .groups _ | .memberships _ | .chatrooms _ | .topics _ | .pushInstallations _ | .chatroomReads _ => True
  | _ => False

/-- What the deletion of a message does to notifications, and what it does not do to other messages. -/
structure Deletes (s s' : Store Row) (chatroomId messageId : Uuid) (deletedAt : Time) : Prop where
  notifications : ∀ i, s'.get (.notifications i) = (s.get (.notifications i)).map fun r =>
    if newestIs chatroomId (createdCursors s chatroomId messageId) r then Notification.hide deletedAt r else r
  occurrences : ∀ i r, s.get (.pushDeliveryIntents i) = some r → r.sourceMessageId ≠ some messageId →
    s'.get (.pushDeliveryIntents i) = some r
  messages : ∀ i, i ≠ messageId → s'.get (.messages i) = s.get (.messages i)
  kept : ∀ k, isKept k → s'.get k = s.get k

variable {server : Server} {ticks : Time → Time → Bool} {C : Contract (system server ticks)} {l l' L : Local}
  {g g' G : Shared} {s : Store Row}

lemma scrubMessageCreatedEvents_alone {removal : Removal} {events : List (Uuid × Nat)}
    (h : Runs C (scrubMessageCreatedEvents removal) l g (.ok events) l' g' L G) (hG : G.csn = g.csn)
    (hs : s = G.db.apply l.writes) (c : Nat) :
    c ∈ events.map Prod.snd ↔ c ∈ createdCursors s removal.chatroomId removal.messageId := by
  obtain ⟨-, -, hret, hall⟩ := h.alone_update hG (fun s => s.nodup_ids _ _) hs
  simp only [createdCursors, List.mem_map, List.mem_filterMap, Option.map_eq_some_iff]
  constructor
  · rintro ⟨a, ha, rfl⟩
    obtain ⟨i, hi, t, r, r', hr, hf⟩ := hret a ha
    split at hf
    · cases hf
      exact ⟨i, hi, r, hr, rfl⟩
    · cases hf
  · rintro ⟨i, hi, r, hr, rfl⟩
    obtain ⟨t, hin⟩ := hall i hi r hr
    obtain ⟨r', hr', htest⟩ := Store.mem_ids.mp hi
    rw [hr] at hr'
    cases hr'
    exact ⟨(i, r.cursor), hin _ _ (if_pos htest), rfl⟩

lemma mem_createdCursors_congr {s' : Store Row} (h : ∀ i, s.get (.conversationEvents i) = s'.get (.conversationEvents i))
    {chatroomId messageId : Uuid} {c : Nat} :
    c ∈ createdCursors s chatroomId messageId ↔ c ∈ createdCursors s' chatroomId messageId := by
  simp only [createdCursors, List.mem_filterMap, Store.mem_ids]
  constructor
  · rintro ⟨i, ⟨r, hr, htest⟩, hc⟩
    exact ⟨i, ⟨r, (h i).symm.trans hr, htest⟩, by rw [← h i]; exact hc⟩
  · rintro ⟨i, ⟨r, hr, htest⟩, hc⟩
    exact ⟨i, ⟨r, (h i).trans hr, htest⟩, by rw [h i]; exact hc⟩

lemma newestIs_congr {chatroomId : Uuid} {cursors cursors' : List Nat} (h : ∀ c, c ∈ cursors ↔ c ∈ cursors')
    (r : Notification) : newestIs chatroomId cursors r = newestIs chatroomId cursors' r := by
  simp only [newestIs, h]

lemma hideMessageNotifications_alone {chatroomId : Uuid} {events : List (Uuid × Nat)} {deletedAt : Time}
    (h : Runs C (hideMessageNotifications chatroomId events deletedAt) l g (.ok ()) l' g' L G) (hG : G.csn = g.csn)
    (hs : s = G.db.apply l.writes) (i : Uuid) :
    (G.db.apply l'.writes).get (.notifications i) = (s.get (.notifications i)).map fun r =>
      if newestIs chatroomId (events.map Prod.snd) r then Notification.hide deletedAt r else r := by
  unfold hideMessageNotifications at h
  dsimp only at h
  split at h
  · rename_i hempty
    obtain ⟨-, rfl⟩ := h.ret
    rw [← hs]
    rw [List.isEmpty_iff] at hempty
    cases hr : s.get (.notifications i) with
    | none => rfl
    | some r =>
      have hnot : newestIs chatroomId (events.map Prod.snd) r = false := by
        rw [hempty]
        simp [newestIs]
      rw [Option.map_some, if_neg (by rw [hnot]; decide)]
  · obtain ⟨_, l₁, g₁, h₁, r₁⟩ := h.bind
    obtain ⟨-, rfl⟩ := r₁.ret
    obtain ⟨hin, hout, -, -⟩ := h₁.alone_update hG (fun s => s.nodup_ids _ _) hs
    by_cases hi : i ∈ s.ids Tables.notifications fun _ r => newestIs chatroomId (events.map Prod.snd) r
    · obtain ⟨r, hr, htest⟩ := Store.mem_ids.mp hi
      obtain ⟨t, hget⟩ := hin i hi r hr
      refine hget.trans ?_
      change _ = Option.map _ (s.get (Tables.notifications.key i))
      rw [hr, Option.map_some, if_pos htest, if_pos htest]
      rfl
    · refine (hout i hi).trans ?_
      change s.get (.notifications i) = _
      cases hr : s.get (.notifications i) with
      | none => rfl
      | some r =>
        have hnot : ¬ newestIs chatroomId (events.map Prod.snd) r = true := fun htest =>
          hi (Store.mem_ids.mpr ⟨r, hr, htest⟩)
        rw [Option.map_some, if_neg hnot]

lemma stopMessagePushOccurrences_alone {messageId : Uuid} {deletedAt : Time}
    (h : Runs C (stopMessagePushOccurrences messageId deletedAt) l g (.ok ()) l' g' L G) (hG : G.csn = g.csn)
    (hs : s = G.db.apply l.writes) {i : Uuid} {r : PushDeliveryIntent} (hr : s.get (.pushDeliveryIntents i) = some r)
    (hne : r.sourceMessageId ≠ some messageId) : (G.db.apply l'.writes).get (.pushDeliveryIntents i) = some r := by
  unfold stopMessagePushOccurrences at h
  dsimp only at h
  obtain ⟨_, l₁, g₁, h₁, r₁⟩ := h.bind
  obtain ⟨-, rfl⟩ := r₁.ret
  obtain ⟨-, hout, -, -⟩ := h₁.alone_update hG (fun s => s.nodup_ids _ _) hs
  refine (hout i fun hi => ?_).trans hr
  obtain ⟨r', hr', htest⟩ := Store.mem_ids.mp hi
  change s.get (.pushDeliveryIntents i) = some r' at hr'
  rw [hr] at hr'
  cases hr'
  simp only [Bool.and_eq_true, decide_eq_true_eq] at htest
  exact hne htest.1.1

lemma scrubMessageRow_alone {messageId : Uuid} {deletedAt : Time}
    (h : Runs C (scrubMessageRow messageId deletedAt) l g (.ok ()) l' g' L G) (hG : G.csn = g.csn)
    (hs : s = G.db.apply l.writes) {i : Uuid} (hi : i ≠ messageId) :
    (G.db.apply l'.writes).get (.messages i) = s.get (.messages i) := by
  unfold scrubMessageRow at h
  obtain ⟨_, l₁, g₁, h₁, r₁⟩ := h.bind
  obtain ⟨-, rfl⟩ := r₁.ret
  obtain ⟨-, hout, -, -⟩ := h₁.alone_update hG (fun s => s.nodup_one _ _ _) hs
  exact hout i fun hin => hi (Store.mem_one.mp hin).1

/-- A step that writes one table leaves the rows of the others. -/
lemma get_of_table {ε α ι : Type} {p : Sql ε α} {r : Except ε α} {key : ι → Key} (h : Runs C p l g r l' g' L G)
    (hp : p.Touches fun k => ∃ i, k = key i) {k : Key} (hk : ∀ i, k ≠ key i) :
    (G.db.apply l'.writes).get k = (G.db.apply l.writes).get k :=
  h.get_of_touches hp (fun ⟨i, hi⟩ => hk i hi) _

lemma removeMessage_alone {removal : Removal} {deletedAt : Time}
    (h : Runs C (removeMessage removal deletedAt) l g (.ok ()) l' g' L G) (hG : G.csn = g.csn) :
    Deletes (G.db.apply l.writes) (G.db.apply l'.writes) removal.chatroomId removal.messageId deletedAt := by
  unfold removeMessage at h
  obtain ⟨media, l₁, g₁, h₁, r₁⟩ := h.bind
  obtain ⟨_, l₂, g₂, h₂, r₂⟩ := r₁.bind
  obtain ⟨_, l₃, g₃, h₃, r₃⟩ := r₂.bind
  obtain ⟨_, l₄, g₄, h₄, r₄⟩ := r₃.bind
  obtain ⟨_, l₅, g₅, h₅, r₅⟩ := r₄.bind
  obtain ⟨events, l₆, g₆, h₆, r₆⟩ := r₅.bind
  obtain ⟨_, l₇, g₇, h₇, r₇⟩ := r₆.bind
  obtain ⟨_, l₈, g₈, h₈, r₈⟩ := r₇.bind
  obtain ⟨_, l₉, g₉, h₉, r₉⟩ := r₈.bind
  have hG₄ := h₄.alone_csn (h₃.alone_csn (h₂.alone_csn (h₁.alone_csn hG)))
  have hG₅ := h₅.alone_csn hG₄
  have hG₇ := h₇.alone_csn (h₆.alone_csn hG₅)
  have hG₈ := h₈.alone_csn hG₇
  -- what each step leaves
  have f₁ : ∀ k, _ := fun k => h₁.get_of_touches (P := fun _ => False) touches_lockMessageMedia not_false (k := k) G.db
  have f₂ := fun k => get_of_table (k := k) h₂ (touches_enqueueObjectDeletions fun i => ⟨i, rfl⟩)
  have f₃ := fun k => get_of_table (k := k) h₃ (touches_markMediaUploadsDeleted fun i => ⟨i, rfl⟩)
  have f₄ := fun k => get_of_table (k := k) h₄ (touches_deleteMessageMedia fun i => ⟨i, rfl⟩)
  have hmedia : ∀ k, (∀ i, k ≠ .accountObjectDeletionIntents i) → (∀ i, k ≠ .mediaUploads i) → (∀ i, k ≠ .messageMedia i) →
      (G.db.apply l₄.writes).get k = (G.db.apply l.writes).get k := by
    intro k hk₂ hk₃ hk₄
    rw [f₄ k hk₄, f₃ k hk₃, f₂ k hk₂, f₁]
  have f₅ := fun k => get_of_table (k := k) h₅ (touches_scrubMessageRow fun i => ⟨i, rfl⟩)
  have f₆ := fun k => get_of_table (k := k) h₆ (touches_scrubMessageCreatedEvents fun i => ⟨i, rfl⟩)
  have f₇ := fun k => get_of_table (k := k) h₇ (touches_scrubMessageCreatedOutbox fun i => ⟨i, rfl⟩)
  have f₈ := fun k => get_of_table (k := k) h₈ (touches_stopMessagePushOccurrences fun i => ⟨i, rfl⟩)
  have f₉ := fun k => get_of_table (k := k) h₉ (touches_hideMessageNotifications fun i => ⟨i, rfl⟩)
  have f₁₀ := fun k (hk : ¬ ((∃ i, k = Key.conversationEvents i) ∨ ∃ i, k = Key.outboxEvents i)) =>
    r₉.get_of_touches (P := fun k => (∃ i, k = Key.conversationEvents i) ∨ ∃ i, k = Key.outboxEvents i)
      (touches_appendMessageDeletedEvent (fun i => .inl ⟨i, rfl⟩) fun i => .inr ⟨i, rfl⟩) hk G.db
  refine ⟨fun i => ?_, fun i r hr hne => ?_, fun i hi => ?_, fun k hk => ?_⟩
  · have hsame : (G.db.apply l₈.writes).get (.notifications i) = (G.db.apply l.writes).get (.notifications i) := by
      rw [f₈ (.notifications i) nofun, f₇ (.notifications i) nofun, f₆ (.notifications i) nofun, f₅ (.notifications i) nofun,
        hmedia (.notifications i) nofun nofun nofun]
    have hevents : ∀ j, (G.db.apply l₅.writes).get (.conversationEvents j) =
        (G.db.apply l.writes).get (.conversationEvents j) := by
      intro j
      rw [f₅ (.conversationEvents j) nofun, hmedia (.conversationEvents j) nofun nofun nofun]
    have hcursors : ∀ c, c ∈ events.map Prod.snd ↔
        c ∈ createdCursors (G.db.apply l.writes) removal.chatroomId removal.messageId := by
      intro c
      rw [scrubMessageCreatedEvents_alone h₆ hG₅ rfl c]
      exact mem_createdCursors_congr hevents
    rw [f₁₀ (.notifications i) (by simp), hideMessageNotifications_alone h₉ hG₈ rfl i, hsame]
    simp only [newestIs_congr hcursors]
  · rw [f₁₀ (.pushDeliveryIntents i) (by simp), f₉ (.pushDeliveryIntents i) nofun]
    refine stopMessagePushOccurrences_alone h₈ hG₇ rfl ?_ hne
    rw [f₇ (.pushDeliveryIntents i) nofun, f₆ (.pushDeliveryIntents i) nofun, f₅ (.pushDeliveryIntents i) nofun,
      hmedia (.pushDeliveryIntents i) nofun nofun nofun]
    exact hr
  · rw [f₁₀ (.messages i) (by simp), f₉ (.messages i) nofun, f₈ (.messages i) nofun, f₇ (.messages i) nofun,
      f₆ (.messages i) nofun, scrubMessageRow_alone h₅ hG₄ rfl hi, hmedia (.messages i) nofun nofun nofun]
  · have hne : ∀ {ι : Type} {key : ι → Key}, (∀ i, ¬ isKept (key i)) → ∀ i, k ≠ key i := by
      rintro ι key hkey i rfl
      exact hkey i hk
    rw [f₁₀ k, f₉ k (hne nofun), f₈ k (hne nofun), f₇ k (hne nofun), f₆ k (hne nofun), f₅ k (hne nofun),
      hmedia k (hne nofun) (hne nofun) (hne nofun)]
    rintro (⟨i, rfl⟩ | ⟨i, rfl⟩) <;> exact hk

lemma fetchLockedMessage_alone {chatroomId messageId : Uuid} {row : Message}
    (h : Runs C (fetchLockedMessage chatroomId messageId) l g (.ok row) l' g' L G) (hG : G.csn = g.csn)
    (hs : s = G.db.apply l.writes) : s.get (.messages messageId) = some row ∧ row.chatroomId = chatroomId := by
  unfold fetchLockedMessage at h
  obtain ⟨rows, l₁, g₁, h₁, r₁⟩ := h.bind
  obtain ⟨hhead, -⟩ := r₁.ofOption
  obtain ⟨hmem, -, -, -⟩ := h₁.alone_selectFor hG (by decide) hs
  obtain ⟨i, hi, t, r, hr, hf⟩ := hmem row (List.mem_of_head? hhead)
  obtain ⟨rfl, -⟩ := Store.mem_one.mp hi
  split at hf
  · rename_i hroom
    cases hf
    exact ⟨hr, hroom⟩
  · cases hf

lemma deleteMessage_alone {actorId chatroomId messageId : Uuid} {row : Message}
    (h : Runs C (deleteMessage actorId chatroomId messageId) l g (.ok ()) l' g' L G) (hG : G.csn = g.csn)
    (hrow : (G.db.apply l.writes).get (.messages messageId) = some row) (hlive : row.deletedAt = none) :
    ∃ t, Deletes (G.db.apply l.writes) (G.db.apply l'.writes) row.chatroomId messageId t := by
  unfold deleteMessage at h
  obtain ⟨groupId, l₁, g₁, h₁, r₁⟩ := h.bind
  obtain ⟨_, l₂, g₂, h₂, r₂⟩ := r₁.bind
  obtain ⟨deletedAt, l₃, g₃, h₃, r₃⟩ := r₂.bind
  have hG₂ := h₂.alone_csn (h₁.alone_csn hG)
  have hw₁ := h₁.writes_eq touches_lockLiveChatroom
  have hw₂ := h₂.writes_eq touches_requireMembership
  have hG₃ := h₃.alone_csn hG₂
  unfold Messages.lockAuthorizedMessage at h₃
  obtain ⟨row', l₄, g₄, h₄, r₄⟩ := h₃.bind
  have hw₄ := h₄.writes_eq touches_fetchLockedMessage
  obtain ⟨hrow', hroom⟩ := fetchLockedMessage_alone h₄ hG₂ (s := G.db.apply l.writes) (by rw [hw₂, hw₁])
  rw [hrow] at hrow'
  cases hrow'
  rw [if_neg (by rw [hlive]; simp)] at r₄
  split at r₄
  · exact (Runs.not_fail r₄).elim
  · obtain ⟨now, l₅, g₅, h₅, r₅⟩ := Runs.bind r₄
    obtain ⟨rfl, -⟩ := h₅.clock
    obtain ⟨rfl, rfl⟩ := r₅.ret
    have hdel := removeMessage_alone r₃ hG₃
    rw [hw₄, hw₂, hw₁] at hdel
    rw [hroom]
    exact ⟨now, hdel⟩

lemma moderatorDeleteMessage_alone {messageId chatroomId groupId : Uuid} {row : Message}
    (h : Runs C (moderatorDeleteMessage messageId) l g (.ok (.deleted chatroomId groupId)) l' g' L G) (hG : G.csn = g.csn)
    (hrow : (G.db.apply l.writes).get (.messages messageId) = some row) :
    ∃ t, Deletes (G.db.apply l.writes) (G.db.apply l'.writes) row.chatroomId messageId t := by
  unfold moderatorDeleteMessage at h
  obtain ⟨found, l₁, g₁, h₁, r₁⟩ := h.bind
  obtain ⟨room, l₂, g₂, h₂, r₂⟩ := r₁.bind
  obtain ⟨hfound, rfl⟩ := h₂.ofOption
  obtain ⟨groupId', l₃, g₃, h₃, r₃⟩ := r₂.bind
  obtain ⟨row', l₄, g₄, h₄, r₄⟩ := r₃.bind
  obtain ⟨hq, hw₁, -⟩ := h₁.alone_select hG
  have hG₁ := h₁.alone_csn hG
  have hG₃ := h₃.alone_csn (h₂.alone_csn hG₁)
  have hw₃ := h₃.writes_eq touches_lockLiveChatroom
  have hw₄ := h₄.writes_eq touches_fetchLockedMessage
  obtain ⟨hrow', hroom⟩ := fetchLockedMessage_alone h₄ hG₃ (s := G.db.apply l.writes) (by rw [hw₃, hw₁])
  rw [hrow] at hrow'
  cases hrow'
  split at r₄
  · cases r₄.ret.1
  · split at r₄
    · cases r₄.ret.1
    · obtain ⟨now, l₅, g₅, h₅, r₅⟩ := Runs.bind r₄
      obtain ⟨rfl, -⟩ := h₅.clock
      obtain ⟨_, l₆, g₆, h₆, r₆⟩ := r₅.bind
      obtain ⟨-, rfl⟩ := r₆.ret
      have hdel := removeMessage_alone h₆ (h₅.alone_csn (h₄.alone_csn hG₃))
      rw [hw₄, hw₃, hw₁] at hdel
      rw [hroom]
      exact ⟨now, hdel⟩

end Effect

section Spares

/-- The message is live in the room. -/
def liveIn (s : Store Row) (chatroomId messageId : Uuid) : Bool :=
  (s.get (.messages messageId)).any fun r => decide (r.chatroomId = chatroomId) && r.deletedAt.isNone

/-- The message of another one is live in the room and above the reader's marker. -/
def unreadBy (s : Store Row) (userId chatroomId messageId : Uuid) : Bool :=
  liveIn s chatroomId messageId && ((s.get (.messages messageId)).any fun r => decide (r.senderId ≠ some userId)) &&
    (createdCursors s chatroomId messageId).any fun c => decide (Topics.lastReadCursor s userId chatroomId < c)

/-- An unread notification of the conversation. -/
def isUnreadOf (chatroomId : Uuid) (r : Notification) : Bool :=
  decide (r.conversationId = some chatroomId) && r.deletedAt.isNone && r.readAt.isNone

/-- An occurrence of the message that is still to be sent. -/
def isPendingOf (messageId : Uuid) (r : PushDeliveryIntent) : Bool :=
  decide (r.sourceMessageId = some messageId) && r.deletedAt.isNone && r.status.unfinished

/-- The other messages keep their unread notifications and their occurrences. -/
structure Spares (s s' : Store Row) (chatroomId messageId : Uuid) : Prop where
  notifications : ∀ n, n ≠ messageId → ∀ i r, s.get (.notifications i) = some r → isUnreadOf chatroomId r = true →
    unreadBy s r.userId chatroomId n = true →
    ∃ r', s'.get (.notifications i) = some r' ∧ r'.deletedAt = none ∧ r'.readAt = none ∧ r'.payload = r.payload
  occurrences : ∀ n, n ≠ messageId → liveIn s chatroomId n = true → ∀ i r, s.get (.pushDeliveryIntents i) = some r →
    isPendingOf n r = true → Push.authorizable s i = true → Push.authorizable s' i = true

/-- A notification whose newest source is the message stands for this message alone: its recipient has read the other
messages of the conversation, and it carries no occurrence of another message that may still be sent. -/
def StandsAlone (s : Store Row) (chatroomId messageId : Uuid) : Prop :=
  ∀ i r, s.get (.notifications i) = some r → newestIs chatroomId (createdCursors s chatroomId messageId) r = true →
    (r.readAt = none → ∀ n, n ≠ messageId → unreadBy s r.userId chatroomId n = false) ∧
    ∀ n, n ≠ messageId → liveIn s chatroomId n = true → ∀ j o, s.get (.pushDeliveryIntents j) = some o →
      o.notificationId = some i → isPendingOf n o = true → Push.authorizable s j = false

variable {s s' : Store Row} {chatroomId messageId : Uuid} {deletedAt : Time}

lemma Deletes.memberships (h : Deletes s s' chatroomId messageId deletedAt) (groupId userId : Uuid) :
    (Push.memberships s' groupId userId).isEmpty = (Push.memberships s groupId userId).isEmpty := by
  have hmem : ∀ i, i ∈ Push.memberships s' groupId userId ↔ i ∈ Push.memberships s groupId userId := by
    intro i
    rw [Push.memberships, Store.mem_ids, Push.memberships, Store.mem_ids, h.kept (Tables.memberships.key i) trivial]
  rw [Bool.eq_iff_iff, List.isEmpty_iff, List.isEmpty_iff, List.eq_nil_iff_forall_not_mem, List.eq_nil_iff_forall_not_mem]
  simp only [hmem]

lemma Deletes.topicLive (h : Deletes s s' chatroomId messageId deletedAt) (room : Chatroom) :
    Rooms.topicLive s' room = Rooms.topicLive s room := by
  unfold Rooms.topicLive
  cases room.topicId with
  | none => rfl
  | some t => rw [Option.all_some, Option.all_some, h.kept (.topics t) trivial]

/-- The occurrence of another message may still be sent as long as its notification is not hidden. -/
lemma Deletes.authorizable (h : Deletes s s' chatroomId messageId deletedAt) {i n j : Uuid} {o : PushDeliveryIntent}
    {r : Notification} (hn : n ≠ messageId) (ho : s.get (.pushDeliveryIntents j) = some o) (hsource : o.sourceMessageId = some n)
    (hi : o.notificationId = some i) (hr : s.get (.notifications i) = some r)
    (hnot : newestIs chatroomId (createdCursors s chatroomId messageId) r = false) (hauth : Push.authorizable s j = true) :
    Push.authorizable s' j = true := by
  unfold Push.authorizable at hauth ⊢
  obtain ⟨topology, htop, hrest⟩ := (Option.any_eq_true _ _).mp hauth
  obtain ⟨intent, notification, conversation, hjoin⟩ := Push.deliveryTopology_eq_some.mp htop
  obtain rfl : o = intent := Option.some.inj (ho.symm.trans hjoin.intent)
  obtain rfl : i = topology.notificationId := Option.some.inj (hi.symm.trans hjoin.notificationId)
  obtain rfl : r = notification := Option.some.inj (hr.symm.trans hjoin.notification)
  have ho' : s'.get (.pushDeliveryIntents j) = some o := by
    refine h.occurrences j o ho ?_
    rw [hsource]
    exact fun heq => hn (Option.some.inj heq)
  have hr' : s'.get (.notifications topology.notificationId) = some r := by
    rw [h.notifications, hr, Option.map_some, if_neg (by rw [hnot]; decide)]
  have hroom : s'.get (.chatrooms topology.conversationId) = some conversation :=
    (h.kept (.chatrooms _) trivial).trans hjoin.conversation
  have htop' : Push.deliveryTopology s' j = some topology := Push.deliveryTopology_eq_some.mpr
    ⟨o, r, conversation, ho', hjoin.intent_live, hjoin.notificationId, hr', hjoin.notification_live, hjoin.conversationId, hroom,
      hjoin.conversation_live, (h.topicLive _).trans hjoin.topic_live, hjoin.groupId, hjoin.recipientId, hjoin.installationId⟩
  rw [htop', Option.any_some]
  rw [Push.DeliveryTopology.deliverable, Push.liveGroup] at hrest ⊢
  rw [h.kept (.groups topology.groupId) trivial, h.memberships, hr', h.kept (.pushInstallations topology.installationId) trivial, ho']
  rw [hr, ho] at hrest
  simp only [Option.any_some, Push.messageLive, hsource, Option.all_some] at hrest ⊢
  rw [h.messages n hn]
  exact hrest

/-- The deletion hides the notification. -/
lemma Deletes.hides (h : Deletes s s' chatroomId messageId deletedAt) {i : Uuid} {r r' : Notification}
    (hr : s.get (.notifications i) = some r)
    (hnewest : newestIs chatroomId (createdCursors s chatroomId messageId) r = true)
    (hr' : s'.get (.notifications i) = some r') : r'.deletedAt ≠ none := by
  rw [h.notifications, hr, Option.map_some, if_pos hnewest] at hr'
  cases hr'
  simp only [newestIs, Bool.and_eq_true, Option.isNone_iff_eq_none] at hnewest
  simp [Notification.hide, hnewest.2, coalesce]

lemma Deletes.spares_iff (h : Deletes s s' chatroomId messageId deletedAt) :
    Spares s s' chatroomId messageId ↔ StandsAlone s chatroomId messageId := by
  constructor
  · intro hspares i r hr hnewest
    refine ⟨fun hread n hn => ?_, fun n hn hlive j o ho hi hpending => ?_⟩
    · rw [← Bool.not_eq_true]
      intro hunread
      have hof : isUnreadOf chatroomId r = true := by
        simp only [newestIs, Bool.and_eq_true] at hnewest
        simp only [isUnreadOf, hnewest.1.1, hnewest.2, hread, Option.isNone_none, Bool.and_true]
      obtain ⟨r', hr', hlive, -⟩ := hspares.notifications n hn i r hr hof hunread
      exact h.hides hr hnewest hr' hlive
    · rw [← Bool.not_eq_true]
      intro hauth
      have hauth' := hspares.occurrences n hn hlive j o ho hpending hauth
      obtain ⟨topology, htop, -⟩ := (Option.any_eq_true _ _).mp hauth'
      obtain ⟨o', r', room, hjoin⟩ := Push.deliveryTopology_eq_some.mp htop
      simp only [isPendingOf, Bool.and_eq_true, decide_eq_true_eq] at hpending
      have ho' : s'.get (.pushDeliveryIntents j) = some o := by
        refine h.occurrences j o ho ?_
        rw [hpending.1.1]
        exact fun heq => hn (Option.some.inj heq)
      obtain rfl : o = o' := Option.some.inj (ho'.symm.trans hjoin.intent)
      obtain rfl : i = topology.notificationId := Option.some.inj (hi.symm.trans hjoin.notificationId)
      exact h.hides hr hnewest hjoin.notification hjoin.notification_live
  · intro halone
    refine ⟨fun n hn i r hr hof hunread => ?_, fun n hn hlive j o ho hpending hauth => ?_⟩
    · simp only [isUnreadOf, Bool.and_eq_true, Option.isNone_iff_eq_none] at hof
      have hnot : newestIs chatroomId (createdCursors s chatroomId messageId) r = false := by
        rw [← Bool.not_eq_true]
        intro hnewest
        rw [(halone i r hr hnewest).1 hof.2 n hn] at hunread
        cases hunread
      refine ⟨r, ?_, hof.1.2, hof.2, rfl⟩
      rw [h.notifications, hr, Option.map_some, if_neg (by rw [hnot]; decide)]
    · have hsource : o.sourceMessageId = some n := by
        simp only [isPendingOf, Bool.and_eq_true, decide_eq_true_eq] at hpending
        exact hpending.1.1
      obtain ⟨topology, htop, -⟩ := (Option.any_eq_true _ _).mp hauth
      obtain ⟨o', r, room, hjoin⟩ := Push.deliveryTopology_eq_some.mp htop
      obtain rfl : o = o' := Option.some.inj (ho.symm.trans hjoin.intent)
      refine h.authorizable hn ho hsource hjoin.notificationId hjoin.notification ?_ hauth
      rw [← Bool.not_eq_true]
      intro hnewest
      rw [(halone _ r hjoin.notification hnewest).2 n hn hlive j o ho hjoin.notificationId hpending] at hauth
      cases hauth

end Spares

section Runs

/-- The message that a call deletes. -/
def deletion : Job → Outcome → Option Uuid
  | .deleteMessage _ _ messageId, .done => some messageId
  | .moderatorDeleteMessage messageId, .moderated (.deleted _ _) => some messageId
  | _, _ => none

/-- What a deletion does when nothing else is committed from its beginning to its end. -/
def DeletesAlone (e : Entry) (g : Shared) : Prop :=
  e.ran.start = g.csn → ∀ messageId row, deletion e.job e.out = some messageId → g.db.get (.messages messageId) = some row →
    row.deletedAt = none → ∃ t, Deletes g.db (g.db.apply e.ran.writes) row.chatroomId messageId t

def deletionContract (server : Server) (ticks : Time → Time → Bool) : Contract (system server ticks) where
  Init := Starts
  log_init _ hg := hg.log
  unique_init _ hg := hg.unique
  Ok := DeletesAlone

variable {server : Server} {ticks : Time → Time → Bool}

lemma deletion_programs : (deletionContract server ticks).Programs := by
  intro job g hg r l' g' h
  cases r with
  | error e => exact trivial
  | ok out =>
    have hrun : Runs (deletionContract server ticks) (program server job) (Local.begin g) g (.ok out) l' g' l' g' :=
      ⟨h, .refl⟩
    intro hstart messageId row hdel hrow hlive
    change deletion job out = some messageId at hdel
    have hG : g'.csn = g.csn := hstart.symm.trans hrun.evolve.start_eq
    cases job with
    | deleteMessage actorId chatroomId messageId' =>
      obtain ⟨_, l₁, g₁, h₁, r₁⟩ := hrun.bind
      obtain ⟨rfl, rfl⟩ := r₁.ret
      cases hdel
      exact deleteMessage_alone h₁.mapError hG hrow hlive
    | moderatorDeleteMessage messageId' =>
      obtain ⟨outcome, l₁, g₁, h₁, r₁⟩ := hrun.bind
      obtain ⟨rfl, rfl⟩ := r₁.ret
      cases outcome with
      | deleted chatroomId groupId =>
        cases hdel
        exact moderatorDeleteMessage_alone h₁.mapError hG hrow
      | alreadyDeleted | notUserMessage => cases hdel
    | createTopic | patchTopic | getTopic | listTopics | sendMessage | markRead | redeem | register => cases hdel

/-- In every run, a deletion that runs alone spares the other messages of the conversation if and only if each
notification whose newest source is the deleted message stands for this message alone. -/
theorem deletion_spares_iff_standsAlone {s : State} (hs : (system server ticks).Reachable Starts s) {k : Nat} {e : Entry}
    (he : s.shared.log[k]? = some e) (halone : e.ran.start = k) {messageId : Uuid} {row : Message}
    (hdel : deletion e.job e.out = some messageId) (hrow : (s.shared.version k).get (.messages messageId) = some row)
    (hlive : row.deletedAt = none) :
    Spares (s.shared.version k) (s.shared.version (k + 1)) row.chatroomId messageId ↔
      StandsAlone (s.shared.version k) row.chatroomId messageId := by
  have hsound : Sound (deletionContract server ticks) s :=
    reachable_sound (fun _ _ _ _ _ _ _ => ⟨trivial, fun _ _ => trivial⟩) deletion_programs hs
  obtain ⟨g₁, -, rfl, hc, hlater⟩ := hsound.history.entry he
  obtain ⟨hbefore, hafter⟩ := hlater.version_commit
  rw [hbefore] at hrow ⊢
  rw [hafter]
  obtain ⟨t, hdeletes⟩ := hc.ok halone messageId row hdel hrow hlive
  exact hdeletes.spares_iff

end Runs

section Sample

/-- Two messages are sent to a member with a device, and the second one is deleted before the first one is read. -/
def deletionSchedule : List (Label Job) := Label.serial 1 [
  (.register 2 "device" .ios "ExponentPushToken[a]" .production true, 40, 10),
  (.sendMessage 1 ⟨30, 8, some "first", []⟩, 100, 84),
  (.sendMessage 1 ⟨30, 9, some "second", []⟩, 200, 85),
  (.deleteMessage 1 30 210, 500, 48)]

/-- The last call deletes the message 210 alone. Before it the member has an unread notification and has not read the
message 110; after it that notification is gone. -/
def deletionSummary (s : State) : Bool :=
  (s.shared.log[3]?.any fun e => decide (deletion e.job e.out = some 210) && decide (e.ran.start = 3)) &&
    (((s.shared.version 3).get (.messages 210)).any fun r => decide (r.chatroomId = 30) && r.deletedAt.isNone) &&
    (((s.shared.version 3).get (.notifications 168)).any fun r => isUnreadOf 30 r && unreadBy (s.shared.version 3) r.userId 30 110) &&
    !((s.shared.version 4).get (.notifications 168)).any fun r => r.deletedAt.isNone

lemma deletion_sample : ∃ s : State, sampleSystem.Reachable Starts s ∧ deletionSummary s = true := by
  have hrun : (sampleSystem.run ⟨⟨sampleStore, [], 0, 0, []⟩, []⟩ deletionSchedule).any deletionSummary = true := by
    decide +kernel
  obtain ⟨s, hs, hsummary⟩ := (Option.any_eq_true _ _).mp hrun
  exact ⟨s, System.reachable_of_run _ starts_sampleStore hs, hsummary⟩

lemma of_deletionSummary {s : State} (h : deletionSummary s = true) : ∃ e row, s.shared.log[3]? = some e ∧ e.ran.start = 3 ∧
    deletion e.job e.out = some 210 ∧ (s.shared.version 3).get (.messages 210) = some row ∧ row.deletedAt = none ∧
    ¬ Spares (s.shared.version 3) (s.shared.version 4) row.chatroomId 210 := by
  simp only [deletionSummary, Bool.and_eq_true, Option.any_eq_true, decide_eq_true_eq, Option.isNone_iff_eq_none,
    Bool.not_eq_true'] at h
  obtain ⟨⟨⟨⟨e, he, hdel, hstart⟩, row, hrow, hroom, hlive⟩, r, hr, hof, hunread⟩, hhidden⟩ := h
  refine ⟨e, row, he, hstart, hdel, hrow, hlive, fun hspares => ?_⟩
  rw [hroom] at hspares
  obtain ⟨r', hr', hlive', -⟩ := hspares.notifications 110 (by decide) 168 r hr hof hunread
  rw [hr', Option.any_some, hlive'] at hhidden
  cases hhidden

/-- The deletion of the second message hides the notification although the first one is unread. -/
theorem deletion_hides_unread : ∃ s : State, sampleSystem.Reachable Starts s ∧ ∃ e row, s.shared.log[3]? = some e ∧
    e.ran.start = 3 ∧ deletion e.job e.out = some 210 ∧ (s.shared.version 3).get (.messages 210) = some row ∧
    row.deletedAt = none ∧ ¬ Spares (s.shared.version 3) (s.shared.version 4) row.chatroomId 210 := by
  obtain ⟨s, hs, hsummary⟩ := deletion_sample
  exact ⟨s, hs, of_deletionSummary hsummary⟩

/-- There the notification stands for both messages. -/
theorem deletion_spares_iff_in_sample : ∃ s : State, sampleSystem.Reachable Starts s ∧ ∃ e row,
    s.shared.log[3]? = some e ∧ e.ran.start = 3 ∧ deletion e.job e.out = some 210 ∧
    (s.shared.version 3).get (.messages 210) = some row ∧ row.deletedAt = none ∧
    ¬ StandsAlone (s.shared.version 3) row.chatroomId 210 := by
  obtain ⟨s, hs, hsummary⟩ := deletion_sample
  obtain ⟨e, row, he, hstart, hdel, hrow, hlive, hspares⟩ := of_deletionSummary hsummary
  refine ⟨s, hs, e, row, he, hstart, hdel, hrow, hlive, fun halone => hspares ?_⟩
  exact (deletion_spares_iff_standsAlone hs he hstart hdel hrow hlive).mpr halone

end Sample

end JamyeServer.Conversations
