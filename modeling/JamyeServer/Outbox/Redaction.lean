import JamyeServer.Outbox.Fencing
import JamyeServer.Postgres.Messages
import JamyeServer.Transition
import Mathlib.Data.List.ReduceOption

/-!
# Deleted messages in the outbox

Deleting a message empties its `message.created` events in the outbox and appends a `message.deleted` event. Workers
publish what they read when they claimed a row, so a copy that was claimed before the deletion keeps the old content.
-/

namespace JamyeServer.Outbox

open Postgres Transition
open LeaseTable (Result)
open Messages (OutboxPayload.scrub)

/-- The outbox, with the room of every message and whether it is live, the `message.created` events with their messages
and the events that reached Redis, newest first. -/
structure Feed where
  outbox : State
  messages : Uuid → Option (Uuid × Bool)
  createdEvents : List (Uuid × Uuid)
  published : List RealtimeEvent

inductive FeedLabel
  /-- A message is sent: its event and the outbox row in one transaction. -/
  | send (message : CanonicalMessage) (eventId outboxId : Uuid) (cursor : Nat) (occurredAt createdAt : Time)
  /-- A message is deleted by its author or an operator. -/
  | delete (data : MessageDeletedData) (eventId outboxId : Uuid) (cursor : Nat) (occurredAt createdAt : Time)
  /-- Another transaction appends an event that is not about a message. -/
  | append (id : Uuid) (createdAt : Time) (event : NewOutboxEvent)
  | tick (time : Time)
  | claim (worker : Worker) (locked : List Uuid)
  /-- The publisher returns a result; an event may have reached Redis even when it reports a failure. -/
  | publish (k : Nat) (result : PublishResult) (delivered : Bool)
  | record (k : Nat)
  | crash (k : Nat)

def NewOutboxEvent.aboutMessage : NewOutboxEvent → Bool
  | conversation _ _ _ _ event =>
    match event.data with
    | .messageCreated _ | .messageDeleted _ => true
    | _ => false
  | control _ => false

/-- `scrub_message_created_outbox`, for the events that `scrub_message_created_events` returned. -/
def OutboxRow.scrub (events : List Uuid) (r : OutboxRow) : OutboxRow :=
  if r.eventType = "message.created" ∧ (r.conversationEventId.any fun e => decide (e ∈ events)) = true then
    { r with payload := OutboxPayload.scrub r.payload }
  else r

def State.scrub (events : List Uuid) (s : State) : State := { s with rows := fun id => (s.rows id).map (·.scrub events) }

lemma messageCreated_pos : 0 < "message.created".length := by decide

lemma messageDeleted_pos : 0 < "message.deleted".length := by decide

def createdEvent (message : CanonicalMessage) (eventId : Uuid) (cursor : Nat) (occurredAt : Time) : NewOutboxEvent :=
  .conversation "message.created" messageCreated_pos message.chatroomId eventId
    ⟨eventId, message.chatroomId, cursor, occurredAt, .messageCreated message⟩

def deletedEvent (data : MessageDeletedData) (eventId : Uuid) (cursor : Nat) (occurredAt : Time) : NewOutboxEvent :=
  .conversation "message.deleted" messageDeleted_pos data.chatroomId eventId
    ⟨eventId, data.chatroomId, cursor, occurredAt, .messageDeleted data⟩

namespace Feed

/-- The events of the message that is deleted. -/
def eventsOf (f : Feed) (messageId : Uuid) : List Uuid :=
  (f.createdEvents.filter fun e => decide (e.2 = messageId)).map Prod.fst

/-- What a claim in memory publishes. -/
def deliver (f : Feed) (k : Nat) : List RealtimeEvent :=
  match f.outbox.works[k]? with
  | some w =>
    match w.claim.payload with
    | .conversation event => event :: f.published
    | .control _ => f.published
  | none => f.published

def step (f : Feed) : FeedLabel → Option Feed
  | .send message eventId outboxId cursor occurredAt createdAt =>
    if f.messages message.id = none ∧ eventId ∉ f.createdEvents.map Prod.fst then
      (f.outbox.step (.insert outboxId createdAt (createdEvent message eventId cursor occurredAt))).state?.map fun outbox =>
        { f with
          outbox, messages := Function.update f.messages message.id (some (message.chatroomId, true))
          createdEvents := (eventId, message.id) :: f.createdEvents }
    else none
  | .delete data eventId outboxId cursor occurredAt createdAt =>
    if f.messages data.messageId = some (data.chatroomId, true) then
      ((f.outbox.scrub (f.eventsOf data.messageId)).step
        (.insert outboxId createdAt (deletedEvent data eventId cursor occurredAt))).state?.map fun outbox =>
          { f with outbox, messages := Function.update f.messages data.messageId (some (data.chatroomId, false)) }
    else none
  | .append id createdAt event =>
    if event.aboutMessage then none
    else (f.outbox.step (.insert id createdAt event)).state?.map fun outbox => { f with outbox }
  | .tick time => (f.outbox.step (.tick time)).state?.map fun outbox => { f with outbox }
  | .claim worker locked => (f.outbox.step (.claim worker locked)).state?.map fun outbox => { f with outbox }
  | .publish k result delivered =>
    if result = .ok ∧ delivered = false then none
    else (f.outbox.step (.publish k result)).state?.map fun outbox =>
      { f with outbox, published := if delivered then f.deliver k else f.published }
  | .record k => (f.outbox.step (.record k)).state?.map fun outbox => { f with outbox }
  | .crash k => (f.outbox.step (.crash k)).state?.map fun outbox => { f with outbox }

def init (f : Feed) : Prop :=
  ∃ now, f.outbox = .init now ∧ f.messages = (fun _ => none) ∧ f.createdEvents = [] ∧ f.published = []

end Feed

/-- The event creates the message and still has its body or attachments. -/
def carries (messageId : Uuid) (event : RealtimeEvent) : Prop :=
  ∃ data, event.data = .messageCreated data ∧ data.id = messageId ∧ (data.body ≠ none ∨ data.media ≠ [])

def deletes (messageId : Uuid) (event : RealtimeEvent) : Prop :=
  ∃ data, event.data = .messageDeleted data ∧ data.messageId = messageId

/-- No content of a message is published after its deletion was. -/
def Redacted (published : List RealtimeEvent) : Prop :=
  ∀ messageId before event later, published = later ++ event :: before → deletes messageId event →
    ∀ e ∈ later, ¬ carries messageId e

/-- A deletion is published only when no worker still holds an unpublished copy with the content of that message. -/
def NoCopyHeld (_ : List (Feed × FeedLabel)) (f : Feed) : FeedLabel → Prop
  | .publish k _ true => ∀ w event messageId, f.outbox.works[k]? = some w → w.claim.payload = .conversation event →
      deletes messageId event → ∀ w' ∈ f.outbox.works, w'.phase = .claimed →
        ∀ event', w'.claim.payload = .conversation event' → ¬ carries messageId event'
  | _ => True

section Steps

variable {s s' : State}

/-- Rows after a step have their contents from before; a new claim has the content of a row. -/
structure SameContents (s s' : State) : Prop where
  rows : ∀ id r', s'.rows id = some r' → ∃ r, s.rows id = some r ∧ r'.payload = r.payload ∧ r'.eventType = r.eventType ∧
    r'.conversationEventId = r.conversationEventId
  works : ∀ w ∈ s'.works, (∃ w' ∈ s.works, w.claim = w'.claim ∧ (w.phase = .claimed → w'.phase = .claimed)) ∨
    ∃ id r, s.rows id = some r ∧ w.claim.payload = r.payload

lemma rows_of_update {p : Uuid → OutboxRow → Bool} {f : OutboxRow → OutboxRow} {rows : Uuid → Option OutboxRow}
    (h : s.update p f = some rows)
    (hf : ∀ r, (f r).payload = r.payload ∧ (f r).eventType = r.eventType ∧
      (f r).conversationEventId = r.conversationEventId) (id : Uuid) (r' : OutboxRow) (hr' : rows id = some r') :
    ∃ r, s.rows id = some r ∧ r'.payload = r.payload ∧ r'.eventType = r.eventType ∧
      r'.conversationEventId = r.conversationEventId := by
  rw [update_eq h id] at hr'
  obtain ⟨r, hr, rfl⟩ := Option.map_eq_some_iff.mp hr'
  refine ⟨r, hr, ?_⟩
  split
  · exact hf r
  · exact ⟨rfl, rfl, rfl⟩

lemma payload_of_claimFromRow {intentType : IntentType} {id : Uuid} {r : OutboxRow} {c : ClaimedOutboxEvent}
    (h : claimFromRow intentType id r = some c) : c.payload = r.payload := by
  unfold claimFromRow at h
  split at h
  · split at h
    · obtain rfl := Option.some.inj h
      rfl
    · cases h
  · split at h
    · split at h
      · obtain rfl := Option.some.inj h
        rfl
      · cases h
    · cases h
  · cases h

lemma sameContents_claim {worker : Worker} {locked : List Uuid} (h : s.claim worker locked = .next s') :
    SameContents s s' := by
  unfold State.claim at h
  split at h
  · cases h
  dsimp only at h
  split at h
  · cases h
  next rows hup =>
    obtain rfl := Result.next.inj h
    have hrows := rows_of_update hup fun _ => ⟨rfl, rfl, rfl⟩
    refine ⟨hrows, fun w hw => ?_⟩
    rcases List.mem_append.mp hw with hw | hw
    · split at hw
      · obtain ⟨c, hc, rfl⟩ := List.mem_map.mp hw
        obtain ⟨id, -, hc⟩ := List.mem_map.mp (List.reduceOption_mem_iff.mp hc)
        obtain ⟨r', hr', hc⟩ := Option.bind_eq_some_iff.mp hc
        obtain ⟨r, hr, hpayload, -⟩ := hrows id r' hr'
        exact .inr ⟨id, r, hr, (payload_of_claimFromRow hc).trans hpayload⟩
      · cases hw
    · exact .inl ⟨w, hw, rfl, id⟩

lemma sameContents_record {k : Nat} {w : Work} (h : s.record w (s.works.eraseIdx k) = .next s') : SameContents s s' := by
  have hworks : ∀ w ∈ s.works.eraseIdx k, (∃ w' ∈ s.works, w.claim = w'.claim ∧
      (w.phase = .claimed → w'.phase = .claimed)) ∨ ∃ id r, s.rows id = some r ∧ w.claim.payload = r.payload :=
    fun w hw => .inl ⟨w, List.mem_of_mem_eraseIdx hw, rfl, id⟩
  unfold State.record at h
  dsimp only at h
  split at h
  · cases h
  · split at h
    · cases h
    next rows hup =>
      obtain rfl := Result.next.inj h
      exact ⟨rows_of_update hup (fun _ => ⟨rfl, rfl, rfl⟩), hworks⟩
  · split at h
    · obtain rfl := Result.next.inj h
      exact ⟨fun id r hr => ⟨r, hr, rfl, rfl, rfl⟩, hworks⟩
    split at h
    · obtain rfl := Result.next.inj h
      exact ⟨fun id r hr => ⟨r, hr, rfl, rfl, rfl⟩, hworks⟩
    split at h
    · cases h
    next rows hup =>
      obtain rfl := Result.next.inj h
      exact ⟨rows_of_update hup (fun _ => ⟨rfl, rfl, rfl⟩), hworks⟩

lemma sameContents_publish {k : Nat} {result : PublishResult} (h : s.step (.publish k result) = .next s') :
    ∃ w, s.works[k]? = some w ∧ w.phase = .claimed ∧ SameContents s s' := by
  simp only [State.step] at h
  split at h
  next w hw =>
    split at h
    next hphase =>
      obtain rfl := Result.next.inj h
      refine ⟨w, hw, hphase, fun id r hr => ⟨r, hr, rfl, rfl, rfl⟩, fun w' hw' => ?_⟩
      rcases List.mem_or_eq_of_mem_set hw' with hw' | rfl
      · exact .inl ⟨w', hw', rfl, id⟩
      · exact .inl ⟨w, List.mem_of_getElem? hw, rfl, fun _ => hphase⟩
    · cases h
  · cases h

end Steps

namespace Feed

def Gone (f : Feed) (messageId : Uuid) : Prop := ∃ room, f.messages messageId = some (room, false)

/-- The content of a message is in rows of live messages only, and once a deletion was published in no claim that is
still to be published. -/
structure Inv (f : Feed) : Prop where
  createdRow : ∀ id r event data, f.outbox.rows id = some r → r.payload = .conversation event →
    event.data = .messageCreated data → r.eventType = "message.created" ∧
      ∃ eventId, r.conversationEventId = some eventId ∧ (eventId, data.id) ∈ f.createdEvents
  liveRow : ∀ id r event messageId, f.outbox.rows id = some r → r.payload = .conversation event →
    carries messageId event → ∃ room, f.messages messageId = some (room, true)
  deletedRow : ∀ id r event messageId, f.outbox.rows id = some r → r.payload = .conversation event →
    deletes messageId event → f.Gone messageId
  deletedWork : ∀ w ∈ f.outbox.works, ∀ event messageId, w.claim.payload = .conversation event →
    deletes messageId event → f.Gone messageId
  deletedPublished : ∀ event ∈ f.published, ∀ messageId, deletes messageId event → f.Gone messageId
  noCopy : ∀ event ∈ f.published, ∀ messageId, deletes messageId event → ∀ w ∈ f.outbox.works, w.phase = .claimed →
    ∀ event', w.claim.payload = .conversation event' → ¬ carries messageId event'
  redacted : Redacted f.published

lemma Inv.init {f : Feed} (h : f.init) : Inv f := by
  obtain ⟨now, houtbox, -, -, hpublished⟩ := h
  have hrows : ∀ id, f.outbox.rows id = none := fun id => by rw [houtbox]; rfl
  have hworks : f.outbox.works = [] := by rw [houtbox]; rfl
  refine ⟨?_, ?_, ?_, ?_, ?_, ?_, ?_⟩
  · intro id r event data hr
    rw [hrows] at hr
    cases hr
  · intro id r event messageId hr
    rw [hrows] at hr
    cases hr
  · intro id r event messageId hr
    rw [hrows] at hr
    cases hr
  · simp [hworks]
  · simp [hpublished]
  · simp [hpublished]
  · intro messageId before event later heq
    rw [hpublished] at heq
    simp at heq

section Invariant

variable {f : Feed} {outbox : State}

/-- No message is both live and gone. -/
lemma Gone.not_live {messageId room : Uuid} (h : f.Gone messageId) : f.messages messageId ≠ some (room, true) := by
  obtain ⟨room', hroom⟩ := h
  rw [hroom]
  simp

/-- What a claim of the next state carries was carried before by a claim that is still to be published, or by a row. -/
lemma Inv.no_new_copy (h : Inv f) (hsame : SameContents f.outbox outbox) {messageId : Uuid} (hgone : f.Gone messageId)
    (hold : ∀ w ∈ f.outbox.works, w.phase = .claimed → ∀ event', w.claim.payload = .conversation event' →
      ¬ carries messageId event') :
    ∀ w ∈ outbox.works, w.phase = .claimed → ∀ event', w.claim.payload = .conversation event' →
      ¬ carries messageId event' := by
  intro w hw hphase event' hpayload hcarries
  rcases hsame.works w hw with ⟨w', hw', hclaim, hphase'⟩ | ⟨id, r, hr, hrow⟩
  · rw [hclaim] at hpayload
    exact hold w' hw' (hphase' hphase) event' hpayload hcarries
  · obtain ⟨room, hlive⟩ := h.liveRow id r event' messageId hr (hrow.symm.trans hpayload) hcarries
    exact hgone.not_live hlive

/-- The steps that write no content. -/
lemma Inv.of_sameContents (h : Inv f) (hsame : SameContents f.outbox outbox) : Inv { f with outbox } := by
  refine ⟨?_, ?_, ?_, ?_, h.deletedPublished, ?_, h.redacted⟩
  · intro id r' event data hr' hpayload hdata
    obtain ⟨r, hr, hp, ht, he⟩ := hsame.rows id r' hr'
    rw [ht, he]
    exact h.createdRow id r event data hr (hp.symm.trans hpayload) hdata
  · intro id r' event messageId hr' hpayload
    obtain ⟨r, hr, hp, -⟩ := hsame.rows id r' hr'
    exact h.liveRow id r event messageId hr (hp.symm.trans hpayload)
  · intro id r' event messageId hr' hpayload
    obtain ⟨r, hr, hp, -⟩ := hsame.rows id r' hr'
    exact h.deletedRow id r event messageId hr (hp.symm.trans hpayload)
  · intro w hw event messageId hpayload
    rcases hsame.works w hw with ⟨w', hw', hclaim, -⟩ | ⟨id, r, hr, hrow⟩
    · rw [hclaim] at hpayload
      exact h.deletedWork w' hw' event messageId hpayload
    · exact h.deletedRow id r event messageId hr (hrow.symm.trans hpayload)
  · intro event hevent messageId hdeletes
    exact h.no_new_copy hsame (h.deletedPublished event hevent messageId hdeletes)
      (h.noCopy event hevent messageId hdeletes)

/-- An insert leaves the other rows and the claims alone. -/
lemma insert_state {s : State} {id : Uuid} {createdAt : Time} {event : NewOutboxEvent}
    (h : (s.step (.insert id createdAt event)).state? = some outbox) :
    outbox.works = s.works ∧ ∀ i r, outbox.rows i = some r → r = event.row createdAt ∨ s.rows i = some r := by
  simp only [State.step] at h
  split at h
  · cases h
  split at h
  · cases h
  obtain rfl := Option.some.inj h
  refine ⟨rfl, fun i r hr => ?_⟩
  dsimp only at hr
  by_cases hi : i = id
  · subst hi
    rw [Function.update_self] at hr
    exact .inl (Option.some.inj hr).symm
  · rw [Function.update_of_ne hi] at hr
    exact .inr hr

lemma Inv.append (h : Inv f) {id : Uuid} {createdAt : Time} {event : NewOutboxEvent} (habout : event.aboutMessage = false)
    (hs : (f.outbox.step (.insert id createdAt event)).state? = some outbox) : Inv { f with outbox } := by
  obtain ⟨hworks, hrows⟩ := insert_state hs
  have hnew : ∀ e, (event.row createdAt).payload = .conversation e →
      (∀ data, e.data ≠ .messageCreated data) ∧ ∀ data, e.data ≠ .messageDeleted data := by
    intro e he
    cases event with
    | control intent => cases he
    | conversation eventType valid conversationId eventId e' =>
      obtain rfl : e' = e := by injection he
      constructor
      · intro data hdata
        simp [NewOutboxEvent.aboutMessage, hdata] at habout
      · intro data hdata
        simp [NewOutboxEvent.aboutMessage, hdata] at habout
  refine ⟨?_, ?_, ?_, ?_, h.deletedPublished, ?_, h.redacted⟩
  · intro i r e data hr hpayload hdata
    rcases hrows i r hr with rfl | hr
    · exact absurd hdata ((hnew e hpayload).1 data)
    · exact h.createdRow i r e data hr hpayload hdata
  · rintro i r e messageId hr hpayload ⟨data, hdata, hid⟩
    rcases hrows i r hr with rfl | hr
    · exact absurd hdata ((hnew e hpayload).1 data)
    · exact h.liveRow i r e messageId hr hpayload ⟨data, hdata, hid⟩
  · rintro i r e messageId hr hpayload ⟨data, hdata, hid⟩
    rcases hrows i r hr with rfl | hr
    · exact absurd hdata ((hnew e hpayload).2 data)
    · exact h.deletedRow i r e messageId hr hpayload ⟨data, hdata, hid⟩
  · rw [hworks]
    exact h.deletedWork
  · rw [hworks]
    exact h.noCopy

lemma Inv.send (h : Inv f) {message : CanonicalMessage} {eventId outboxId : Uuid} {cursor : Nat}
    {occurredAt createdAt : Time} (hfresh : f.messages message.id = none)
    (hs : (f.outbox.step (.insert outboxId createdAt (createdEvent message eventId cursor occurredAt))).state? =
      some outbox) :
    Inv { f with
      outbox, messages := Function.update f.messages message.id (some (message.chatroomId, true))
      createdEvents := (eventId, message.id) :: f.createdEvents } := by
  obtain ⟨hworks, hrows⟩ := insert_state hs
  have hgone : ∀ {messageId}, f.Gone messageId →
      ∃ room, Function.update f.messages message.id (some (message.chatroomId, true)) messageId = some (room, false) := by
    rintro messageId ⟨room, hroom⟩
    have hne : messageId ≠ message.id := by
      rintro rfl
      rw [hfresh] at hroom
      cases hroom
    exact ⟨room, (Function.update_of_ne hne _ _).trans hroom⟩
  refine ⟨?_, ?_, ?_, ?_, ?_, ?_, h.redacted⟩
  · intro i r e data hr hpayload hdata
    rcases hrows i r hr with rfl | hr
    · obtain rfl : _ = e := by injection hpayload
      obtain rfl : message = data := by injection hdata
      exact ⟨rfl, eventId, rfl, List.mem_cons_self⟩
    · obtain ⟨htype, e', he', hmem⟩ := h.createdRow i r e data hr hpayload hdata
      exact ⟨htype, e', he', List.mem_cons_of_mem _ hmem⟩
  · rintro i r e messageId hr hpayload ⟨data, hdata, hid, hcontent⟩
    by_cases hm : messageId = message.id
    · subst hm
      exact ⟨message.chatroomId, Function.update_self _ _ _⟩
    · rcases hrows i r hr with rfl | hr
      · obtain rfl : _ = e := by injection hpayload
        obtain rfl : message = data := by injection hdata
        exact absurd hid.symm hm
      · obtain ⟨room, hroom⟩ := h.liveRow i r e messageId hr hpayload ⟨data, hdata, hid, hcontent⟩
        exact ⟨room, (Function.update_of_ne hm _ _).trans hroom⟩
  · rintro i r e messageId hr hpayload ⟨data, hdata, hid⟩
    rcases hrows i r hr with rfl | hr
    · obtain rfl : _ = e := by injection hpayload
      cases hdata
    · exact hgone (h.deletedRow i r e messageId hr hpayload ⟨data, hdata, hid⟩)
  · intro w hw e messageId hpayload hdeletes
    rw [hworks] at hw
    exact hgone (h.deletedWork w hw e messageId hpayload hdeletes)
  · intro e he messageId hdeletes
    exact hgone (h.deletedPublished e he messageId hdeletes)
  · rw [hworks]
    exact h.noCopy

lemma created_of_scrub {payload : EventPayload} {data : CanonicalMessage}
    (h : Messages.EventPayload.scrub payload = .messageCreated data) :
    ∃ data₀, payload = .messageCreated data₀ ∧ data = { data₀ with body := none, media := [] } := by
  cases payload with
  | messageCreated data₀ =>
    injection h with h
    exact ⟨data₀, rfl, h.symm⟩
  | messageDeleted data₀ => cases h
  | topicCreated data₀ => cases h
  | topicDeleted data₀ => cases h

lemma deleted_of_scrub {payload : EventPayload} {data : MessageDeletedData}
    (h : Messages.EventPayload.scrub payload = .messageDeleted data) : payload = .messageDeleted data := by
  cases payload with
  | messageCreated data₀ => cases h
  | messageDeleted data₀ => exact h
  | topicCreated data₀ => cases h
  | topicDeleted data₀ => cases h

/-- A scrubbed payload has the message it creates or deletes, and no content. -/
lemma data_scrub {payload : OutboxPayload} {event : RealtimeEvent}
    (h : OutboxPayload.scrub payload = .conversation event) :
    ∃ event₀, payload = .conversation event₀ ∧ (∀ messageId, ¬ carries messageId event) ∧
      (∀ data, event.data = .messageCreated data → ∃ data₀, event₀.data = .messageCreated data₀ ∧ data₀.id = data.id) ∧
      ∀ messageId, deletes messageId event → deletes messageId event₀ := by
  cases payload with
  | control intent => cases h
  | conversation event₀ =>
    have hdata : event.data = Messages.EventPayload.scrub event₀.data := by
      injection h with h
      rw [← h]
    refine ⟨event₀, rfl, ?_, ?_, ?_⟩
    · rintro messageId ⟨data, hd, -, hcontent⟩
      obtain ⟨data₀, -, rfl⟩ := created_of_scrub (hdata.symm.trans hd)
      simp at hcontent
    · intro data hd
      obtain ⟨data₀, hd₀, rfl⟩ := created_of_scrub (hdata.symm.trans hd)
      exact ⟨data₀, hd₀, rfl⟩
    · rintro messageId ⟨data, hd, hid⟩
      exact ⟨data, deleted_of_scrub (hdata.symm.trans hd), hid⟩

/-- A row of the scrubbed table: untouched, or emptied because its event is one of the message. -/
lemma row_scrub {s : State} {events : List Uuid} {i : Uuid} {r : OutboxRow} (hr : (s.scrub events).rows i = some r) :
    ∃ r₀, s.rows i = some r₀ ∧ r.eventType = r₀.eventType ∧ r.conversationEventId = r₀.conversationEventId ∧
      (r = r₀ ∧ ¬ (r₀.eventType = "message.created" ∧ (r₀.conversationEventId.any fun e => decide (e ∈ events)) = true) ∨
        r.payload = OutboxPayload.scrub r₀.payload) := by
  obtain ⟨r₀, hr₀, rfl⟩ := Option.map_eq_some_iff.mp hr
  refine ⟨r₀, hr₀, ?_⟩
  unfold OutboxRow.scrub
  split
  next => exact ⟨rfl, rfl, .inr rfl⟩
  next hno => exact ⟨rfl, rfl, .inl ⟨rfl, hno⟩⟩

lemma mem_eventsOf {eventId messageId : Uuid} (h : (eventId, messageId) ∈ f.createdEvents) :
    eventId ∈ f.eventsOf messageId :=
  List.mem_map.mpr ⟨(eventId, messageId), List.mem_filter.mpr ⟨h, decide_eq_true rfl⟩, rfl⟩

lemma Inv.delete (h : Inv f) {data : MessageDeletedData} {eventId outboxId : Uuid} {cursor : Nat}
    {occurredAt createdAt : Time}
    (hs : ((f.outbox.scrub (f.eventsOf data.messageId)).step
      (.insert outboxId createdAt (deletedEvent data eventId cursor occurredAt))).state? = some outbox) :
    Inv { f with outbox, messages := Function.update f.messages data.messageId (some (data.chatroomId, false)) } := by
  obtain ⟨hworks, hrows⟩ := insert_state hs
  have hworks : outbox.works = f.outbox.works := hworks
  have hgone : ∀ {messageId}, f.Gone messageId →
      ∃ room, Function.update f.messages data.messageId (some (data.chatroomId, false)) messageId =
        some (room, false) := by
    rintro messageId ⟨room, hroom⟩
    by_cases hm : messageId = data.messageId
    · subst hm
      exact ⟨data.chatroomId, Function.update_self _ _ _⟩
    · exact ⟨room, (Function.update_of_ne hm _ _).trans hroom⟩
  refine ⟨?_, ?_, ?_, ?_, ?_, ?_, h.redacted⟩
  · intro i r e created hr hpayload hcreated
    rcases hrows i r hr with rfl | hr
    · obtain rfl : _ = e := by injection hpayload
      cases hcreated
    · obtain ⟨r₀, hr₀, htype, hevent, ⟨rfl, -⟩ | hscrub⟩ := row_scrub hr
      · exact h.createdRow i r e created hr₀ hpayload hcreated
      · obtain ⟨e₀, hpayload₀, -, hcreates, -⟩ := data_scrub (hscrub.symm.trans hpayload)
        obtain ⟨created₀, hcreated₀, hid⟩ := hcreates created hcreated
        rw [htype, hevent, ← hid]
        exact h.createdRow i r₀ e₀ created₀ hr₀ hpayload₀ hcreated₀
  · intro i r e messageId hr hpayload hcarries
    rcases hrows i r hr with rfl | hr
    · obtain rfl : _ = e := by injection hpayload
      obtain ⟨created, hcreated, -⟩ := hcarries
      cases hcreated
    · obtain ⟨r₀, hr₀, -, -, ⟨rfl, hno⟩ | hscrub⟩ := row_scrub hr
      · -- a row that still has content is of another message
        have hm : messageId ≠ data.messageId := by
          rintro rfl
          obtain ⟨created, hcreated, hid, -⟩ := hcarries
          obtain ⟨htype, eventId, hevent, hmem⟩ := h.createdRow i r e created hr₀ hpayload hcreated
          rw [hid] at hmem
          exact hno ⟨htype, by rw [hevent]; exact decide_eq_true (mem_eventsOf hmem)⟩
        obtain ⟨room, hroom⟩ := h.liveRow i r e messageId hr₀ hpayload hcarries
        exact ⟨room, (Function.update_of_ne hm _ _).trans hroom⟩
      · obtain ⟨-, -, hnone, -⟩ := data_scrub (hscrub.symm.trans hpayload)
        exact absurd hcarries (hnone messageId)
  · intro i r e messageId hr hpayload hdeletes
    rcases hrows i r hr with rfl | hr
    · obtain rfl : _ = e := by injection hpayload
      obtain ⟨data', hdata, rfl⟩ := hdeletes
      obtain rfl : data = data' := by injection hdata
      exact ⟨data.chatroomId, Function.update_self _ _ _⟩
    · obtain ⟨r₀, hr₀, -, -, ⟨rfl, -⟩ | hscrub⟩ := row_scrub hr
      · exact hgone (h.deletedRow i r e messageId hr₀ hpayload hdeletes)
      · obtain ⟨e₀, hpayload₀, -, -, hdel⟩ := data_scrub (hscrub.symm.trans hpayload)
        exact hgone (h.deletedRow i r₀ e₀ messageId hr₀ hpayload₀ (hdel messageId hdeletes))
  · intro w hw e messageId hpayload hdeletes
    rw [hworks] at hw
    exact hgone (h.deletedWork w hw e messageId hpayload hdeletes)
  · intro e he messageId hdeletes
    exact hgone (h.deletedPublished e he messageId hdeletes)
  · rw [hworks]
    exact h.noCopy

lemma Redacted.cons {event : RealtimeEvent} {published : List RealtimeEvent} (h : Redacted published)
    (hevent : ∀ e ∈ published, ∀ messageId, deletes messageId e → ¬ carries messageId event) :
    Redacted (event :: published) := by
  intro messageId before e later heq hdeletes
  cases later with
  | nil => exact fun e' he' => absurd he' List.not_mem_nil
  | cons e' later =>
    rw [List.cons_append, List.cons.injEq] at heq
    intro e'' he''
    rcases List.mem_cons.mp he'' with rfl | he''
    · rw [← heq.1]
      exact hevent e (by simp [heq.2]) messageId hdeletes
    · exact h messageId before e later heq.2 hdeletes e'' he''

lemma Inv.publish (h : Inv f) {k : Nat} {result : PublishResult} {delivered : Bool}
    (hcond : NoCopyHeld [] f (.publish k result delivered))
    (hs : f.outbox.step (.publish k result) = .next outbox) :
    Inv { f with outbox, published := if delivered then f.deliver k else f.published } := by
  obtain ⟨w, hw, hphase, hsame⟩ := sameContents_publish hs
  have hinv := h.of_sameContents hsame
  have hdeliver : f.deliver k = match w.claim.payload with
      | .conversation event => event :: f.published
      | .control _ => f.published := by
    rw [deliver, hw]
  cases delivered with
  | false => exact hinv
  | true =>
    rw [if_pos rfl, hdeliver]
    cases hpayload : w.claim.payload with
    | control intent => exact hinv
    | conversation event =>
      have hmem := List.mem_of_getElem? hw
      refine ⟨hinv.createdRow, hinv.liveRow, hinv.deletedRow, hinv.deletedWork, ?_, ?_, ?_⟩
      · intro e he messageId hdeletes
        rcases List.mem_cons.mp he with rfl | he
        · exact h.deletedWork w hmem e messageId hpayload hdeletes
        · exact hinv.deletedPublished e he messageId hdeletes
      · intro e he messageId hdeletes
        rcases List.mem_cons.mp he with rfl | he
        · exact h.no_new_copy hsame (h.deletedWork w hmem e messageId hpayload hdeletes)
            (hcond w e messageId hw hpayload hdeletes)
        · exact hinv.noCopy e he messageId hdeletes
      · exact Redacted.cons h.redacted fun e he messageId hdeletes =>
          h.noCopy e he messageId hdeletes w hmem hphase event hpayload

lemma Inv.step (h : Inv f) {f' : Feed} {lab : FeedLabel} {history : List (Feed × FeedLabel)}
    (hcond : NoCopyHeld history f lab) (hs : f.step lab = some f') : Inv f' := by
  cases lab with
  | send message eventId outboxId cursor occurredAt createdAt =>
    simp only [Feed.step] at hs
    split at hs
    next hfresh =>
      obtain ⟨outbox, houtbox, rfl⟩ := Option.map_eq_some_iff.mp hs
      exact h.send hfresh.1 houtbox
    · cases hs
  | delete data eventId outboxId cursor occurredAt createdAt =>
    simp only [Feed.step] at hs
    split at hs
    · obtain ⟨outbox, houtbox, rfl⟩ := Option.map_eq_some_iff.mp hs
      exact h.delete houtbox
    · cases hs
  | append id createdAt event =>
    simp only [Feed.step] at hs
    split at hs
    · cases hs
    next habout =>
      obtain ⟨outbox, houtbox, rfl⟩ := Option.map_eq_some_iff.mp hs
      exact h.append ((Bool.not_eq_true _).mp habout) houtbox
  | tick time =>
    obtain ⟨outbox, houtbox, rfl⟩ := Option.map_eq_some_iff.mp hs
    have hnext := Result.state?_eq_some houtbox
    simp only [State.step] at hnext
    split at hnext
    · obtain rfl := Result.next.inj hnext
      exact h.of_sameContents ⟨fun id r hr => ⟨r, hr, rfl, rfl, rfl⟩, fun w hw => .inl ⟨w, hw, rfl, id⟩⟩
    · cases hnext
  | claim worker locked =>
    obtain ⟨outbox, houtbox, rfl⟩ := Option.map_eq_some_iff.mp hs
    exact h.of_sameContents (sameContents_claim (Result.state?_eq_some houtbox))
  | publish k result delivered =>
    simp only [Feed.step] at hs
    split at hs
    · cases hs
    obtain ⟨outbox, houtbox, rfl⟩ := Option.map_eq_some_iff.mp hs
    exact h.publish hcond (Result.state?_eq_some houtbox)
  | record k =>
    obtain ⟨outbox, houtbox, rfl⟩ := Option.map_eq_some_iff.mp hs
    have hnext := Result.state?_eq_some houtbox
    simp only [State.step] at hnext
    split at hnext
    next w hw => exact h.of_sameContents (sameContents_record hnext)
    next => cases hnext
  | crash k =>
    simp only [Feed.step] at hs
    obtain ⟨outbox, houtbox, rfl⟩ := Option.map_eq_some_iff.mp hs
    obtain rfl := Result.next.inj (Result.state?_eq_some houtbox)
    exact h.of_sameContents
      ⟨fun id r hr => ⟨r, hr, rfl, rfl, rfl⟩, fun w hw => .inl ⟨w, List.mem_of_mem_eraseIdx hw, rfl, id⟩⟩

end Invariant

end Feed

/-- In every run in which each deletion is published while no worker holds an unpublished copy with the content of the
message, no content is published after the deletion. -/
theorem published_content_is_redacted {f : Feed} {history : List (Feed × FeedLabel)}
    (hrun : RunWhere Feed.init Feed.step NoCopyHeld history f) : Redacted f.published := by
  have hinv : Feed.Inv f := hrun.invariant (fun f hf => Feed.Inv.init hf)
    fun _ f lab f' _ ih hcond hs => Feed.Inv.step ih hcond hs
  exact hinv.redacted

section Example

/-- A worker of the conversation outbox with a lease of ten seconds. -/
def feedWorker (claimOwner : String) (batchSize : Nat) (valid : WorkerConfig.validate
    ⟨claimOwner, batchSize, 10 * 10 ^ 9, 10 ^ 9, 10 ^ 9, 10 ^ 9, 5⟩ = true) : Worker :=
  ⟨.conversation, ⟨claimOwner, batchSize, 10 * 10 ^ 9, 10 ^ 9, 10 ^ 9, 10 ^ 9, 5⟩, valid⟩

def helloMessage : CanonicalMessage :=
  { id := 1, chatroomId := 2, senderId := some 3, senderNickname := none, senderAvatarUrl := none, clientMsgId := none,
    body := some "hello", messageType := .user, createdAt := 0, media := [] }

def helloDeleted : MessageDeletedData := ⟨1, 2, 4, 10, 3, "author_deleted"⟩

def emptyFeed : Feed := ⟨.init 0, fun _ => none, [], []⟩

/-- The first worker claims the message and stalls; the message is deleted, a second worker publishes the deletion, and
the first one goes on. -/
def stalledCopy : List FeedLabel :=
  [.send helloMessage 11 12 1 0 0, .claim (feedWorker "worker-1" 1 (by decide)) [], .tick 10,
    .delete helloDeleted 13 14 2 10 10, .claim (feedWorker "worker-2" 1 (by decide)) [],
    .publish 0 .ok true, .publish 1 .ok true]

/-- The same without the stall: the first worker has recorded its result before the message is deleted. -/
def promptCopy : List FeedLabel :=
  [.send helloMessage 11 12 1 0 0, .claim (feedWorker "worker-1" 1 (by decide)) [], .publish 0 .ok true,
    .record 0, .tick 10, .delete helloDeleted 13 14 2 10 10,
    .claim (feedWorker "worker-2" 1 (by decide)) [], .publish 0 .ok true]

/-- A deletion is published only by the one worker that holds a claim at all. -/
def singleCopy (f : Feed) : FeedLabel → Bool
  | .publish _ _ true => decide (f.outbox.works.length ≤ 1)
  | _ => true

lemma noCopyHeld_of_singleCopy (history : List (Feed × FeedLabel)) (f : Feed) (lab : FeedLabel)
    (h : singleCopy f lab = true) : NoCopyHeld history f lab := by
  cases lab with
  | publish k result delivered =>
    cases delivered with
    | false => trivial
    | true =>
      intro w event messageId hw hpayload hdeletes w' hw' _ event' hpayload' hcarries
      have hlen : f.outbox.works.length ≤ 1 := of_decide_eq_true h
      obtain ⟨a, ha⟩ := List.length_eq_one_iff.mp (le_antisymm hlen (List.length_pos_of_mem hw'))
      rw [ha] at hw hw'
      have hwa := List.mem_singleton.mp (List.mem_of_getElem? hw)
      have hwa' := List.mem_singleton.mp hw'
      rw [hwa] at hpayload
      rw [hwa', hpayload] at hpayload'
      obtain rfl : event = event' := by injection hpayload'
      obtain ⟨data, hdata, -⟩ := hdeletes
      obtain ⟨data', hdata', -⟩ := hcarries
      rw [hdata] at hdata'
      cases hdata'
  | _ => trivial

lemma emptyFeed_init : Feed.init emptyFeed := ⟨0, rfl, rfl, rfl, rfl⟩

theorem published_content_is_redacted_for_prompt_copy :
    ∃ f history, RunWhere Feed.init Feed.step NoCopyHeld history f ∧ f.published =
      [⟨13, 2, 2, 10, .messageDeleted helloDeleted⟩, ⟨11, 2, 1, 0, .messageCreated helloMessage⟩] ∧
        Redacted f.published := by
  have hrun : (execWhere Feed.step singleCopy emptyFeed promptCopy).any (fun f => decide (f.published =
      [⟨13, 2, 2, 10, .messageDeleted helloDeleted⟩, ⟨11, 2, 1, 0, .messageCreated helloMessage⟩])) = true := by
    decide
  obtain ⟨f, hf, hpublished⟩ := (Option.any_eq_true _ _).mp hrun
  have hwhere := RunWhere.execWhere noCopyHeld_of_singleCopy (.start emptyFeed_init) hf
  exact ⟨f, _, hwhere, of_decide_eq_true hpublished, published_content_is_redacted hwhere⟩

/-- The stalled worker publishes the content after the deletion. -/
theorem stalled_copy_is_published :
    ∃ f history, Run Feed.init Feed.step history f ∧ ¬ Redacted f.published := by
  have hrun : (exec Feed.step emptyFeed stalledCopy).any (fun f => decide (f.published =
      [⟨11, 2, 1, 0, .messageCreated helloMessage⟩, ⟨13, 2, 2, 10, .messageDeleted helloDeleted⟩])) = true := by
    decide
  obtain ⟨f, hf, hpublished⟩ := (Option.any_eq_true _ _).mp hrun
  refine ⟨f, _, (Run.exec (.start emptyFeed_init) hf), ?_⟩
  rw [of_decide_eq_true hpublished]
  intro hredacted
  refine hredacted 1 [] _ [_] rfl ⟨helloDeleted, rfl, rfl⟩ _ List.mem_cons_self ?_
  exact ⟨helloMessage, rfl, rfl, .inl (by decide)⟩

end Example

end JamyeServer.Outbox
