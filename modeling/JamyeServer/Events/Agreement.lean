import JamyeServer.Events.Readers

/-!
# Messages and their events

A message and the event that reports it are stored in one transaction, and both are drawn while the room is held. Whatever
the clock does, the messages of a room have the order of their events.
-/

namespace JamyeServer.Events

open ReadCommitted Postgres Topics Notifications

variable {settings : Settings} {text : TopicText} {ticks : Time → Time → Bool} {g : Shared}

/-- The event reports that the message was created. -/
def Reports (s : Store Row) (i : Uuid) (r : ConversationEvent) (m : Uuid) : Prop :=
  s.get (.conversationEvents i) = some r ∧ EventPayload.createsMessage m r.payload = true

/-- Every message is reported by one event of its room, and the messages of a room have the order of their events. -/
structure Agree (s : Store Row) : Prop where
  stored : ∀ i r m, Reports s i r m → ∃ row, s.get (.messages m) = some row ∧ row.chatroomId = r.conversationId
  reported : ∀ m row, s.get (.messages m) = some row → ∃ i r, Reports s i r m
  once : ∀ i i' r r' m, Reports s i r m → Reports s i' r' m → i = i'
  ordered : ∀ i i' r r' m m' row row', Reports s i r m → Reports s i' r' m' → s.get (.messages m) = some row →
    s.get (.messages m') = some row' → r.conversationId = r'.conversationId →
    (r.cursor < r'.cursor ↔ row.createdAt < row'.createdAt)

section Step

variable {own : Option (Uuid × Uuid)} {l : Local} {i m : Uuid} {r : ConversationEvent} {row : Message}

/-- A report after a commit was there before, or it is the one of the new message. -/
lemma Reports.cases (hrows : Rows (Appends settings own l g) g l) (h : Reports (g.view l) i r m) :
    (∃ r₀, Reports g.db i r₀ m ∧ SamePlace r₀ r) ∨
      g.db.get (.conversationEvents i) = none ∧ NewEvent settings l g r ∧ own = some (i, m) := by
  obtain ⟨hr, hcreates⟩ := h
  have hrow := hrows (.conversationEvents i)
  rw [Shared.view] at hr
  rw [hr] at hrow
  cases hbase : g.db.get (.conversationEvents i) with
  | none =>
    rw [hbase] at hrow
    obtain ⟨hnew, hown⟩ := hrow r rfl
    exact .inr ⟨rfl, hnew, hown m hcreates⟩
  | some r₀ =>
    rw [hbase] at hrow
    obtain ⟨r', heq, hsame⟩ := hrow
    cases heq
    exact .inl ⟨r₀, ⟨hbase, (hsame.message m).symm.trans hcreates⟩, hsame⟩

lemma Reports.commit (hrows : Rows (Appends settings own l g) g l) {r₀ : ConversationEvent} (h : Reports g.db i r₀ m) :
    ∃ r, Reports (g.view l) i r m ∧ SamePlace r₀ r := by
  obtain ⟨hr, hcreates⟩ := h
  have hrow := hrows (.conversationEvents i)
  rw [hr] at hrow
  obtain ⟨r, hr', hsame⟩ := hrow
  exact ⟨r, ⟨hr', (hsame.message m).trans hcreates⟩, hsame⟩

/-- A message after a commit was there before, or it is the new one. -/
lemma message_cases (hrows : Rows (Appends settings own l g) g l) (h : (g.view l).get (.messages m) = some row) :
    (∃ row₀, g.db.get (.messages m) = some row₀ ∧ row.chatroomId = row₀.chatroomId ∧ row.createdAt = row₀.createdAt) ∨
      g.db.get (.messages m) = none ∧ NewMessage settings l g row ∧ ∃ j, own = some (j, m) := by
  have hrow := hrows (.messages m)
  rw [Shared.view] at h
  rw [h] at hrow
  cases hbase : g.db.get (.messages m) with
  | none =>
    rw [hbase] at hrow
    exact .inr ⟨rfl, hrow row rfl⟩
  | some row₀ =>
    rw [hbase] at hrow
    obtain ⟨row', heq, hsame⟩ := hrow
    cases heq
    exact .inl ⟨row₀, rfl, hsame⟩

/-- The message of an older report was there before. -/
lemma Agree.row_of_report (h : Agree g.db) (hrows : Rows (Appends settings own l g) g l) {r₀ : ConversationEvent}
    (hreports : Reports g.db i r₀ m) (hrow : (g.view l).get (.messages m) = some row) :
    ∃ row₀, g.db.get (.messages m) = some row₀ ∧ row₀.chatroomId = r₀.conversationId ∧ row.createdAt = row₀.createdAt := by
  obtain ⟨row₀, hrow₀, hroom₀⟩ := h.stored i r₀ m hreports
  rcases message_cases hrows hrow with ⟨row₁, hrow₁, -, htime⟩ | ⟨hnone, -⟩
  · obtain rfl : row₁ = row₀ := Option.some.inj (hrow₁.symm.trans hrow₀)
    exact ⟨row₁, hrow₁, hroom₀, htime⟩
  · rw [hnone] at hrow₀
    cases hrow₀

/-- The new event comes after an older one of its room, and so does its message. -/
lemma Agree.new_after (h : Agree g.db) (hrows : Rows (Appends settings own l g) g l) (hpaired : Paired own l g)
    {i' m' : Uuid} {r₀ r' : ConversationEvent} {row' : Message} (hreports : Reports g.db i r₀ m) (hsame : SamePlace r₀ r)
    (hnew : NewEvent settings l g r') (hown : own = some (i', m')) (hr' : Reports (g.view l) i' r' m')
    (hrow : (g.view l).get (.messages m) = some row) (hrow' : (g.view l).get (.messages m') = some row')
    (hroom : r.conversationId = r'.conversationId) : r.cursor < r'.cursor ∧ row.createdAt < row'.createdAt := by
  have hroom₀ : r₀.conversationId = r'.conversationId := hsame.room.symm.trans hroom
  constructor
  · rw [hsame.cursor]
    exact hnew.last i r₀ hreports.1 hroom₀
  · obtain ⟨row₀, hrow₀, hroomRow, htime⟩ := h.row_of_report hrows hreports hrow
    obtain ⟨-, habsent, r₁, row₁, hr₁, -, hrow₁, hroom₁⟩ := hpaired i' m' hown
    obtain rfl : r₁ = r' := Option.some.inj (hr₁.symm.trans hr'.1)
    obtain rfl : row₁ = row' := Option.some.inj (hrow₁.symm.trans hrow')
    rcases message_cases hrows hrow' with ⟨row₂, hrow₂, -⟩ | ⟨-, hlast, -⟩
    · rw [habsent] at hrow₂
      cases hrow₂
    · rw [htime]
      exact hlast.last m row₀ hrow₀ (hroomRow.trans (hroom₀.trans hroom₁.symm))

/-- A commit keeps the agreement. -/
lemma Agree.commit (h : Agree g.db) (hcommit : Commit settings l g) : Agree (g.view l) := by
  obtain ⟨own, hrows, hpaired⟩ := hcommit
  refine ⟨fun i r m hr => ?_, fun m row hrow => ?_, fun i i' r r' m hr hr' => ?_,
    fun i i' r r' m m' row row' hr hr' hrow hrow' hroom => ?_⟩
  · rcases hr.cases hrows with ⟨r₀, hr₀, hsame⟩ | ⟨-, -, hown⟩
    · obtain ⟨row₀, hrow₀, hroom₀⟩ := h.stored i r₀ m hr₀
      have hkept := hrows (.messages m)
      rw [hrow₀] at hkept
      obtain ⟨row, hrow, hroom, -⟩ := hkept
      exact ⟨row, hrow, hroom.trans (hroom₀.trans hsame.room.symm)⟩
    · obtain ⟨-, -, r₁, row₁, hr₁, -, hrow₁, hroom₁⟩ := hpaired i m hown
      obtain rfl : r₁ = r := Option.some.inj (hr₁.symm.trans hr.1)
      exact ⟨row₁, hrow₁, hroom₁⟩
  · rcases message_cases hrows hrow with ⟨row₀, hrow₀, -⟩ | ⟨-, -, j, hown⟩
    · obtain ⟨i, r₀, hr₀⟩ := h.reported m row₀ hrow₀
      obtain ⟨r, hr, -⟩ := hr₀.commit hrows
      exact ⟨i, r, hr⟩
    · obtain ⟨-, -, r, -, hr, hcreates, -⟩ := hpaired j m hown
      exact ⟨j, r, hr, hcreates⟩
  · -- a new report is of a new message, which no older event reports
    have habsurd : ∀ {j j' r₀}, Reports g.db j r₀ m → own = some (j', m) → False := by
      intro j j' r₀ hold hown
      obtain ⟨row₀, hrow₀, -⟩ := h.stored j r₀ m hold
      rw [(hpaired j' m hown).2.1] at hrow₀
      cases hrow₀
    rcases hr.cases hrows with ⟨r₀, hr₀, -⟩ | ⟨-, -, hown⟩ <;> rcases hr'.cases hrows with ⟨r₀', hr₀', -⟩ | ⟨-, -, hown'⟩
    · exact h.once i i' r₀ r₀' m hr₀ hr₀'
    · exact (habsurd hr₀ hown').elim
    · exact (habsurd hr₀' hown).elim
    · rw [hown] at hown'
      cases hown'
      rfl
  · rcases hr.cases hrows with ⟨r₀, hr₀, hsame⟩ | ⟨-, hnew, hown⟩ <;>
      rcases hr'.cases hrows with ⟨r₀', hr₀', hsame'⟩ | ⟨-, hnew', hown'⟩
    · obtain ⟨row₀, hrow₀, -, htime⟩ := h.row_of_report hrows hr₀ hrow
      obtain ⟨row₀', hrow₀', -, htime'⟩ := h.row_of_report hrows hr₀' hrow'
      rw [hsame.cursor, hsame'.cursor, htime, htime']
      exact h.ordered i i' r₀ r₀' m m' row₀ row₀' hr₀ hr₀' hrow₀ hrow₀' (hsame.room.symm.trans (hroom.trans hsame'.room))
    · obtain ⟨hcursor, htime⟩ := h.new_after hrows hpaired hr₀ hsame hnew' hown' hr' hrow hrow' hroom
      exact ⟨fun _ => htime, fun _ => hcursor⟩
    · obtain ⟨hcursor, htime⟩ := h.new_after hrows hpaired hr₀' hsame' hnew hown hr hrow' hrow hroom.symm
      exact ⟨fun hlt => (Nat.lt_asymm hlt hcursor).elim, fun hlt => (Nat.lt_asymm hlt htime).elim⟩
    · rw [hown] at hown'
      cases hown'
      obtain rfl : r = r' := Option.some.inj (hr.1.symm.trans hr'.1)
      obtain rfl : row = row' := Option.some.inj (hrow.symm.trans hrow')
      exact ⟨fun hlt => (Nat.lt_irrefl _ hlt).elim, fun hlt => (Nat.lt_irrefl _ hlt).elim⟩

end Step

/-- The first version stays the same. -/
lemma reachable_agree {s : State} (hs : (system settings text ticks).Reachable (fun g => Starts g ∧ Agree g.init) s) :
    (system settings text ticks).Reachable Starts s ∧ Agree s.shared.init := by
  induction hs with
  | init hg => exact ⟨.init hg.1, hg.2⟩
  | @step s s' lab _ _ hstep ih =>
    refine ⟨ih.1.step lab trivial hstep, ?_⟩
    have hinit : s'.shared.init = s.shared.init := by
      cases lab with
      | start id job =>
        unfold System.step at hstep
        dsimp only at hstep
        split at hstep
        · cases hstep
        · cases hstep
          rfl
      | exec id choice =>
        unfold System.step at hstep
        dsimp only at hstep
        split at hstep
        · obtain ⟨x, hx, rfl⟩ := Option.map_eq_some_iff.mp hstep
          have hshift : Shift (system settings text ticks) s.shared x.2.2 := (exec_grow hx).2
          exact hshift.init
        · cases hstep
      | commit id =>
        unfold System.step at hstep
        dsimp only at hstep
        split at hstep
        · cases hstep
          rfl
        · cases hstep
      | abort id =>
        cases hstep
        rfl
      | tick time =>
        unfold System.step at hstep
        dsimp only at hstep
        split at hstep
        · cases hstep
          rfl
        · cases hstep
    rw [hinit]
    exact ih.2

/-- In every run: in all versions, every message is reported by exactly one event, which is in its room, every such event
has its message, and the messages of a room have the order of their events, although the times come from a clock that may
stand still or go back. -/
theorem messages_have_order_of_events {s : State}
    (hs : (system settings text ticks).Reachable (fun g => Starts g ∧ Agree g.init) s) {n : Nat} (hn : n ≤ s.shared.csn) :
    Agree (s.shared.version n) := by
  obtain ⟨hreach, hinit⟩ := reachable_agree hs
  have hg := (sound_of_reachable hreach).history
  refine hg.stable (P := Agree) (fun g₁ e _ hcommit h => h.commit hcommit.ok) (Nat.zero_le n) hn ?_
  simpa [Shared.version] using hinit

lemma agree_sampleStore : Agree Conversations.sampleStore := by
  have hevents : ∀ i, Conversations.sampleStore.get (.conversationEvents i) = none := fun i =>
    Store.get_apply_of_notMem _ (by simp)
  have hmessages : ∀ i, Conversations.sampleStore.get (.messages i) = none := fun i =>
    Store.get_apply_of_notMem _ (by simp)
  refine ⟨fun i r m hr => ?_, fun m row hrow => ?_, fun i i' r r' m hr => ?_, fun i i' r r' m m' row row' hr => ?_⟩
  · cases (hevents i).symm.trans hr.1
  · cases (hmessages m).symm.trans hrow
  · cases (hevents i).symm.trans hr.1
  · cases (hevents i).symm.trans hr.1

/-- Two messages of one moment. -/
theorem two_messages_have_order_of_events : ∃ s : State,
    sampleSystem.Reachable (fun g => Starts g ∧ Agree g.init) s ∧ s.shared.csn = 2 ∧
      ((s.shared.version 2).ids Tables.messages fun _ _ => true).length = 2 ∧ Agree (s.shared.version 2) := by
  have hrun : (sampleSystem.run ⟨⟨Conversations.sampleStore, [], 0, 0, [30]⟩, []⟩ readerSchedule).any (fun s =>
      decide (s.shared.csn = 2) && decide (((s.shared.version 2).ids Tables.messages fun _ _ => true).length = 2)) = true := by
    decide +kernel
  obtain ⟨s, hs, hstate⟩ := (Option.any_eq_true _ _).mp hrun
  simp only [Bool.and_eq_true, decide_eq_true_eq] at hstate
  have hreach : sampleSystem.Reachable (fun g => Starts g ∧ Agree g.init) s :=
    System.reachable_of_run _ ⟨starts_sample, agree_sampleStore⟩ hs
  exact ⟨s, hreach, hstate.1, hstate.2, messages_have_order_of_events hreach (Nat.le_of_eq hstate.1.symm)⟩

end JamyeServer.Events
