import JamyeServer.Realtime.Hub
import JamyeServer.Postgres.Rooms

/-!
# Delivery of published events

`AuthorizedRealtimeDelivery::publish` reads who follows the conversation, asks the database which of them may, chooses
the recipients and puts the payload into their queues one by one. Between these steps other tasks enter the hub, other
transactions commit and sockets come and go.
-/

namespace JamyeServer.Realtime

open Postgres ReadCommitted Transition

def socketBufferCapacity : Nat := 128

/-- `is_authorized` of `adapters/postgres/realtime`. -/
def isAuthorized (db : Store Row) (userId conversationId : Uuid) : Bool :=
  !(Rooms.accesses db conversationId userId).isEmpty && (db.get (.users userId)).any fun r => r.deletedAt.isNone

/-- `authorized_users` of `adapters/postgres/realtime_revocations`, the same test for many users at once. -/
def authorizedUsers (db : Store Row) (conversationId : Uuid) (candidates : Finset Uuid) : Finset Uuid :=
  candidates.filter fun userId => isAuthorized db userId conversationId

inductive DeliveryAuthorizationError
  | unavailable
  deriving DecidableEq, Repr

/-- How far one call of `publish` is. The recipients hold the senders that were cloned for them. -/
inductive Publish
  | querying (conversationId : Uuid) (payload : String) (candidates : Finset Uuid)
  | choosing (conversationId : Uuid) (payload : String) (authorized : Finset Uuid)
  | sending (payload : String) (recipients disconnected : List SocketId) (delivered : Nat)
  | done (result : Except DeliveryAuthorizationError Nat)

structure Delivery where
  hub : Hub := {}
  outbound : SocketId → List String := fun _ => []
  closed : Finset SocketId := ∅
  publishes : List Publish := []
  db : Store Row

inductive DeliveryLabel
  /-- A critical section of some other task. -/
  | hub (op : HubOp)
  /-- Other transactions commit. -/
  | commit (db : Store Row)
  /-- A call begins; it is known by its place among the calls so far. -/
  | publish (p : Nat) (conversationId : Uuid) (payload : String)
  | query (p : Nat)
  | queryFailed (p : Nat)
  | choose (p : Nat) (order : List SocketId)
  | send (p : Nat)
  | cleanup (p : Nat)
  /-- The task of the socket takes the first payload of its queue. -/
  | receive (k : SocketId)
  /-- The task of the socket ends and drops its receivers. -/
  | close (k : SocketId)

namespace Delivery

def setPublish (s : Delivery) (p : Nat) (phase : Publish) : Delivery :=
  { s with publishes := s.publishes.set p phase }

inductive TrySendError
  | closed | full
  deriving DecidableEq, Repr

/-- `try_send` on the outbound channel of a socket. -/
def trySend (s : Delivery) (k : SocketId) (payload : String) : Except TrySendError Delivery :=
  if k ∈ s.closed then .error .closed
  else if socketBufferCapacity ≤ (s.outbound k).length then .error .full
  else .ok { s with outbound := Function.update s.outbound k (s.outbound k ++ [payload]) }

/-- One round of the loop over the recipients. -/
def sendNext (s : Delivery) (p : Nat) (payload : String) (k : SocketId) (rest disconnected : List SocketId)
    (delivered : Nat) : Delivery :=
  match s.trySend k payload with
  | .ok s' => s'.setPublish p (.sending payload rest disconnected (delivered + 1))
  | .error .closed => s.setPublish p (.sending payload rest (disconnected ++ [k]) delivered)
  | .error .full => s.setPublish p (.sending payload rest disconnected delivered)

/-- The first critical section of `publish`; without followers it is over. -/
def begun (s : Delivery) (conversationId : Uuid) (payload : String) : Publish :=
  let candidates := s.hub.inner.subscribedUsers conversationId
  if candidates = ∅ then .done (.ok 0) else .querying conversationId payload candidates

def step (s : Delivery) : DeliveryLabel → Option Delivery
  | .hub op => (s.hub.step op).map fun hub => { s with hub := hub }
  | .commit db => some { s with db := db }
  | .publish p conversationId payload =>
    if p = s.publishes.length then some { s with publishes := s.publishes ++ [s.begun conversationId payload] }
    else none
  | .query p =>
    match s.publishes[p]? with
    | some (.querying conversationId payload candidates) =>
      some (s.setPublish p (.choosing conversationId payload (authorizedUsers s.db conversationId candidates)))
    | _ => none
  | .queryFailed p =>
    match s.publishes[p]? with
    | some (.querying _ _ _) => some (s.setPublish p (.done (.error .unavailable)))
    | _ => none
  | .choose p order =>
    match s.publishes[p]? with
    | some (.choosing conversationId payload authorized) =>
      if Hub.Visits order (s.hub.inner.recipients conversationId authorized) then
        some (s.setPublish p (.sending payload order [] 0))
      else none
    | _ => none
  | .send p =>
    match s.publishes[p]? with
    | some (.sending payload (k :: rest) disconnected delivered) => some (s.sendNext p payload k rest disconnected delivered)
    | _ => none
  | .cleanup p =>
    match s.publishes[p]? with
    | some (.sending payload [] (k :: rest) delivered) =>
      some ({ s with hub := s.hub.setInner (s.hub.inner.removeSocket k).2 }.setPublish p
        (.sending payload [] rest delivered))
    | some (.sending _ [] [] delivered) => some (s.setPublish p (.done (.ok delivered)))
    | _ => none
  | .receive k =>
    match s.outbound k with
    | [] => none
    | _ :: rest => some { s with outbound := Function.update s.outbound k rest }
  | .close k => some { s with closed := insert k s.closed }

def Init (s : Delivery) : Prop := ∃ db, s = { db := db }

abbrev Runs := Run Init step

section Histories

variable {l : List (Delivery × DeliveryLabel)} {e : Delivery × DeliveryLabel} {p : Nat} {conversationId : Uuid}
  {payload : String} {k : SocketId} {userId : Uuid}

/-- The call has read who follows the conversation. -/
def Started (l : List (Delivery × DeliveryLabel)) (p : Nat) (conversationId : Uuid) (payload : String)
    (candidates : Finset Uuid) : Prop :=
  ∃ later s earlier, l = later ++ (s, .publish p conversationId payload) :: earlier ∧
    candidates = s.hub.inner.subscribedUsers conversationId

/-- After that it has asked the database which of these users may. -/
def Queried (l : List (Delivery × DeliveryLabel)) (p : Nat) (conversationId : Uuid) (payload : String)
    (authorized : Finset Uuid) : Prop :=
  ∃ later s earlier candidates, l = later ++ (s, .query p) :: earlier ∧
    Started earlier p conversationId payload candidates ∧ authorized = authorizedUsers s.db conversationId candidates

/-- After that it has chosen the socket, which follows the conversation for one of the authorized users. -/
def Chosen (l : List (Delivery × DeliveryLabel)) (p : Nat) (conversationId : Uuid) (payload : String) (k : SocketId)
    (userId : Uuid) : Prop :=
  ∃ later s order earlier authorized, l = later ++ (s, .choose p order) :: earlier ∧
    Queried earlier p conversationId payload authorized ∧ userId ∈ authorized ∧
    s.hub.inner.Registered k userId ∧ s.hub.inner.Subscribed k conversationId

lemma Started.cons {candidates : Finset Uuid} (h : Started l p conversationId payload candidates) :
    Started (e :: l) p conversationId payload candidates := by
  obtain ⟨later, s, earlier, rfl, hc⟩ := h
  exact ⟨e :: later, s, earlier, rfl, hc⟩

lemma Queried.cons {authorized : Finset Uuid} (h : Queried l p conversationId payload authorized) :
    Queried (e :: l) p conversationId payload authorized := by
  obtain ⟨later, s, earlier, candidates, rfl, hc⟩ := h
  exact ⟨e :: later, s, earlier, candidates, rfl, hc⟩

lemma Chosen.cons (h : Chosen l p conversationId payload k userId) :
    Chosen (e :: l) p conversationId payload k userId := by
  obtain ⟨later, s, order, earlier, authorized, rfl, hc⟩ := h
  exact ⟨e :: later, s, order, earlier, authorized, rfl, hc⟩

/-- The database told the call, between its start and its choice of the recipients, that the user is authorized. -/
def AuthorizedDuring (l : List (Delivery × DeliveryLabel)) (p : Nat) (conversationId : Uuid) (payload : String)
    (userId : Uuid) : Prop :=
  ∃ l₄ l₃ l₂ l₁ s₃ s₂ s₁ order,
    l = l₄ ++ (s₃, .choose p order) :: (l₃ ++ (s₂, .query p) :: (l₂ ++ (s₁, .publish p conversationId payload) :: l₁)) ∧
    userId ∈ s₁.hub.inner.subscribedUsers conversationId ∧ isAuthorized s₂.db userId conversationId = true

lemma Chosen.authorizedDuring (h : Chosen l p conversationId payload k userId) :
    AuthorizedDuring l p conversationId payload userId := by
  obtain ⟨l₄, s₃, order, l', authorized, rfl, ⟨l₃, s₂, l'', candidates, rfl, ⟨l₂, s₁, l₁, rfl, rfl⟩, rfl⟩, hu, -⟩ := h
  obtain ⟨hmem, hauth⟩ := Finset.mem_filter.mp hu
  exact ⟨l₄, l₃, l₂, l₁, s₃, s₂, s₁, order, rfl, hmem, hauth⟩

/-- What the phase of a call tells about the past. -/
def PhaseOk (l : List (Delivery × DeliveryLabel)) (p : Nat) : Publish → Prop
  | .querying conversationId payload candidates => Started l p conversationId payload candidates
  | .choosing conversationId payload authorized => Queried l p conversationId payload authorized
  | .sending payload recipients _ _ => ∀ k ∈ recipients, ∃ conversationId userId, Chosen l p conversationId payload k userId
  | _ => True

lemma PhaseOk.cons {phase : Publish} (h : PhaseOk l p phase) : PhaseOk (e :: l) p phase := by
  cases phase with
  | querying c payload candidates => exact Started.cons h
  | choosing c payload authorized => exact Queried.cons h
  | sending payload recipients disconnected delivered =>
    intro k hk
    obtain ⟨c, u, hc⟩ := h k hk
    exact ⟨c, u, hc.cons⟩
  | done result => trivial

structure Inv (l : List (Delivery × DeliveryLabel)) (s : Delivery) : Prop where
  agree : s.hub.Inv
  phases : ∀ p phase, s.publishes[p]? = some phase → PhaseOk l p phase
  queues : ∀ k, ∀ payload ∈ s.outbound k, ∃ p conversationId userId, Chosen l p conversationId payload k userId

end Histories

section Steps

variable {l : List (Delivery × DeliveryLabel)} {s s' : Delivery} {lab : DeliveryLabel} {p : Nat} {k : SocketId}

lemma inv_init (h : Init s) : Inv [] s := by
  obtain ⟨db, rfl⟩ := h
  exact ⟨Hub.inv_init, fun _ _ h => by simp at h, fun _ => List.forall_mem_nil _⟩

lemma Inv.cons {e : Delivery × DeliveryLabel} (h : Inv l s) : Inv (e :: l) s := by
  refine ⟨h.agree, fun p phase hp => (h.phases p phase hp).cons, fun k payload hk => ?_⟩
  obtain ⟨p, c, u, hc⟩ := h.queues k payload hk
  exact ⟨p, c, u, hc.cons⟩

lemma Inv.setPublish {phase : Publish} (h : Inv l s) (hp : PhaseOk l p phase) : Inv l (s.setPublish p phase) := by
  refine ⟨h.agree, fun q other hq => ?_, h.queues⟩
  rcases getElem?_of_set hq with ⟨rfl, rfl⟩ | ⟨-, hq⟩
  · exact hp
  · exact h.phases q other hq

lemma Inv.setHub {hub : Hub} (h : Inv l s) (hi : hub.Inv) : Inv l { s with hub := hub } := ⟨hi, h.phases, h.queues⟩

lemma Inv.setOutbound {queue : List String} (h : Inv l s)
    (hq : ∀ payload ∈ queue, ∃ p c u, Chosen l p c payload k u) :
    Inv l { s with outbound := Function.update s.outbound k queue } := by
  refine ⟨h.agree, h.phases, fun j payload hj => ?_⟩
  by_cases hk : j = k
  · subst hk
    simp only [Function.update_self] at hj
    exact hq payload hj
  · simp only [Function.update_of_ne hk] at hj
    exact h.queues j payload hj

/-- What a step puts into a queue comes from the recipient that a call of `publish` sends to next. -/
lemma sendNext_spec (s : Delivery) (p : Nat) (payload : String) (k : SocketId) (rest disconnected : List SocketId)
    (delivered : Nat) :
    ∃ d n, (s.sendNext p payload k rest disconnected delivered = s.setPublish p (.sending payload rest d n)) ∨
      s.sendNext p payload k rest disconnected delivered =
        ({ s with outbound := Function.update s.outbound k (s.outbound k ++ [payload]) } : Delivery).setPublish p
          (.sending payload rest d n) := by
  unfold sendNext trySend
  split_ifs
  · exact ⟨_, _, .inl rfl⟩
  · exact ⟨_, _, .inl rfl⟩
  · exact ⟨_, _, .inr rfl⟩

/-- What one step can do. A payload that is sent is dropped, or it goes to the end of the queue. -/
inductive Moves (s : Delivery) : DeliveryLabel → Delivery → Prop
  | hub {op : HubOp} {hub : Hub} (run : s.hub.step op = some hub) : Moves s (.hub op) { s with hub := hub }
  | commit (db : Store Row) : Moves s (.commit db) { s with db := db }
  | publish (conversationId : Uuid) (payload : String) : Moves s (.publish s.publishes.length conversationId payload)
      { s with publishes := s.publishes ++ [s.begun conversationId payload] }
  | query {p : Nat} {conversationId : Uuid} {payload : String} {candidates : Finset Uuid}
      (phase : s.publishes[p]? = some (.querying conversationId payload candidates)) : Moves s (.query p)
      (s.setPublish p (.choosing conversationId payload (authorizedUsers s.db conversationId candidates)))
  | queryFailed (p : Nat) : Moves s (.queryFailed p) (s.setPublish p (.done (.error .unavailable)))
  | choose {p : Nat} {order : List SocketId} {conversationId : Uuid} {payload : String} {authorized : Finset Uuid}
      (phase : s.publishes[p]? = some (.choosing conversationId payload authorized))
      (visits : Hub.Visits order (s.hub.inner.recipients conversationId authorized)) : Moves s (.choose p order)
      (s.setPublish p (.sending payload order [] 0))
  | drop {p : Nat} {payload : String} {k : SocketId} {rest disconnected d : List SocketId} {delivered n : Nat}
      (phase : s.publishes[p]? = some (.sending payload (k :: rest) disconnected delivered)) : Moves s (.send p)
      (s.setPublish p (.sending payload rest d n))
  | put {p : Nat} {payload : String} {k : SocketId} {rest disconnected d : List SocketId} {delivered n : Nat}
      (phase : s.publishes[p]? = some (.sending payload (k :: rest) disconnected delivered)) : Moves s (.send p)
      (({ s with outbound := Function.update s.outbound k (s.outbound k ++ [payload]) } : Delivery).setPublish p
        (.sending payload rest d n))
  | cleanup {p : Nat} (payload : String) (k : SocketId) (rest : List SocketId) (delivered : Nat) : Moves s (.cleanup p)
      ({ s with hub := s.hub.setInner (s.hub.inner.removeSocket k).2 }.setPublish p (.sending payload [] rest delivered))
  | finish (p delivered : Nat) : Moves s (.cleanup p) (s.setPublish p (.done (.ok delivered)))
  | receive {k : SocketId} {first : String} {rest : List String} (queue : s.outbound k = first :: rest) : Moves s (.receive k)
      { s with outbound := Function.update s.outbound k rest }
  | close (k : SocketId) : Moves s (.close k) { s with closed := insert k s.closed }

lemma moves_of_step (hs : s.step lab = some s') : Moves s lab s' := by
  cases lab with
  | hub op =>
    obtain ⟨hub, hop, rfl⟩ := Option.map_eq_some_iff.mp hs
    exact .hub hop
  | commit db =>
    cases hs
    exact .commit db
  | publish p c payload =>
    simp only [Delivery.step] at hs
    split_ifs at hs with hp
    cases hs
    rw [hp]
    exact .publish c payload
  | query p =>
    simp only [Delivery.step] at hs
    split at hs <;> cases hs
    exact .query ‹_›
  | queryFailed p =>
    simp only [Delivery.step] at hs
    split at hs <;> cases hs
    exact .queryFailed p
  | choose p order =>
    simp only [Delivery.step] at hs
    split at hs
    · split_ifs at hs with hv
      cases hs
      exact .choose ‹_› hv
    · cases hs
  | send p =>
    simp only [Delivery.step] at hs
    split at hs
    · next payload k rest disconnected delivered hp =>
      cases hs
      obtain ⟨d, n, he | he⟩ := sendNext_spec s p payload k rest disconnected delivered
      · rw [he]
        exact .drop hp
      · rw [he]
        exact .put hp
    · cases hs
  | cleanup p =>
    simp only [Delivery.step] at hs
    split at hs
    · cases hs
      exact .cleanup _ _ _ _
    · cases hs
      exact .finish p _
    · cases hs
  | receive k =>
    simp only [Delivery.step] at hs
    split at hs
    · cases hs
    · cases hs
      exact .receive ‹_›
  | close k =>
    cases hs
    exact .close k

/-- The recipients that a call has left are those that it had chosen. -/
lemma Inv.rest_chosen {p : Nat} {payload : String} {k : SocketId} {rest disconnected : List SocketId} {delivered : Nat}
    (h : Inv l s) (hp : s.publishes[p]? = some (.sending payload (k :: rest) disconnected delivered)) :
    ∀ j ∈ rest, ∃ c u, Chosen ((s, .send p) :: l) p c payload j u := by
  intro j hj
  obtain ⟨c, u, hc⟩ := h.phases p _ hp j (List.mem_cons_of_mem _ hj)
  exact ⟨c, u, hc.cons⟩

lemma Inv.step (h : Inv l s) (hs : s.step lab = some s') : Inv ((s, lab) :: l) s' := by
  cases moves_of_step hs with
  | hub run => exact h.cons.setHub (h.agree.step run)
  | commit db => exact ⟨h.agree, h.cons.phases, h.cons.queues⟩
  | publish c payload =>
    refine ⟨h.agree, fun q phase hq => ?_, h.cons.queues⟩
    rcases getElem?_of_snoc hq with ⟨rfl, rfl⟩ | hq
    · unfold begun
      by_cases hc : s.hub.inner.subscribedUsers c = ∅
      · simp only [hc, if_true]
        trivial
      · simp only [hc, if_false]
        exact ⟨[], s, l, rfl, rfl⟩
    · exact h.cons.phases q phase hq
  | query phase => exact h.cons.setPublish ⟨[], s, l, _, rfl, h.phases _ _ phase, rfl⟩
  | queryFailed p => exact h.cons.setPublish trivial
  | @choose p order c payload authorized phase visits =>
    refine h.cons.setPublish fun k hk => ?_
    have hmem : k ∈ s.hub.inner.recipients c authorized := by
      rw [← visits.2]
      exact List.mem_toFinset.mpr hk
    obtain ⟨hsub, u, hu, hreg⟩ := h.agree.agree.mem_recipients.mp hmem
    exact ⟨c, u, [], s, order, l, authorized, rfl, h.phases p _ phase, hu, hreg, hsub⟩
  | drop phase => exact h.cons.setPublish (h.rest_chosen phase)
  | @put p payload k rest disconnected d delivered n phase =>
    refine Inv.setPublish (h.cons.setOutbound fun q hq => ?_) (h.rest_chosen phase)
    rcases List.mem_append.mp hq with hq | hq
    · exact h.cons.queues k q hq
    · obtain rfl := List.mem_singleton.mp hq
      obtain ⟨c, u, hc⟩ := h.phases p _ phase k List.mem_cons_self
      exact ⟨p, c, u, hc.cons⟩
  | cleanup payload k rest delivered =>
    have hi : (s.hub.setInner (s.hub.inner.removeSocket k).2).Inv := h.agree.setInner h.agree.agree.removeSocket
      fun j hj => (RegistryState.sockets_removeSocket_ne_none.mp hj).2
    exact (h.cons.setHub hi).setPublish (List.forall_mem_nil _)
  | finish p delivered => exact h.cons.setPublish trivial
  | @receive k first rest queue =>
    refine h.cons.setOutbound fun payload hp => h.cons.queues k payload ?_
    rw [queue]
    exact List.mem_cons_of_mem _ hp
  | close k => exact ⟨h.agree, h.cons.phases, h.cons.queues⟩

lemma runs_inv (hr : Runs l s) : Inv l s := by
  refine RunWhere.invariant ?_ ?_ hr
  · intro s hs
    exact inv_init hs
  · intro l s lab s' _ hi _ hs
    exact hi.step hs

/-- Only the loop of a call of `publish` puts a payload into a queue, that of its next recipient. -/
lemma put_of_step {payload : String} (hs : s.step lab = some s') (hput : s'.outbound k = s.outbound k ++ [payload]) :
    ∃ p rest disconnected delivered, lab = .send p ∧
      s.publishes[p]? = some (.sending payload (k :: rest) disconnected delivered) := by
  have same : s'.outbound = s.outbound → False := by
    intro he
    have := congrArg List.length hput
    simp [he] at this
  cases moves_of_step hs with
  | @put p text j rest disconnected d delivered n phase =>
    by_cases hk : k = j
    · subst hk
      simp only [Delivery.setPublish, Function.update_self, List.append_cancel_left_eq, List.cons.injEq,
        and_true] at hput
      subst hput
      exact ⟨p, rest, disconnected, delivered, rfl, phase⟩
    · simp [Delivery.setPublish, hk] at hput
  | @receive j first rest queue =>
    have := congrArg List.length hput
    by_cases hk : k = j
    · subst hk
      simp only [Function.update_self, queue, List.cons_append, List.length_cons, List.length_append,
        List.length_nil] at this
      omega
    · simp [hk] at this
  | _ => exact (same rfl).elim

/-- A payload enters the queue of a socket only from a call of `publish` that read the followers of the conversation,
then found the user of the socket authorized among them, then saw the socket follow the conversation for this user.
Every payload that waits for a socket came so, and its user was authorized at a moment of that call. -/
theorem payload_only_to_authorized (hr : Runs l s) :
    (∀ lab s' k payload, s.step lab = some s' → s'.outbound k = s.outbound k ++ [payload] →
      ∃ p conversationId userId, lab = .send p ∧ Chosen l p conversationId payload k userId ∧
        AuthorizedDuring l p conversationId payload userId) ∧
    ∀ k, ∀ payload ∈ s.outbound k, ∃ p conversationId userId, Chosen l p conversationId payload k userId ∧
      AuthorizedDuring l p conversationId payload userId := by
  have hi := runs_inv hr
  constructor
  · intro lab s' k payload hs hput
    obtain ⟨p, rest, disconnected, delivered, rfl, hp⟩ := put_of_step hs hput
    have hph := hi.phases p _ hp
    obtain ⟨c, u, hc⟩ := hph k List.mem_cons_self
    exact ⟨p, c, u, rfl, hc, hc.authorizedDuring⟩
  · intro k payload hk
    obtain ⟨p, c, u, hc⟩ := hi.queues k payload hk
    exact ⟨p, c, u, hc, hc.authorizedDuring⟩

/-- A group 5 with the room 7 and the member 1. -/
def roomOfOne : Store Row :=
  Store.empty.apply [
    ⟨.users 1, some { nickname := "a" }⟩,
    ⟨.groups 5, some { name := "g", ownerId := 1 }⟩,
    ⟨.memberships 3, some { groupId := 5, userId := 1, role := .owner }⟩,
    ⟨.chatrooms 7, some { groupId := 5, type := .main, topicId := none }⟩]

/-- The socket 10 follows the room of its user when an event is published; the socket 11 follows it without right. -/
def publishToRoom : List DeliveryLabel :=
  [.hub (.register 1 10), .hub (.register 2 11), .hub (.subscribe 10 7), .hub (.subscribe 11 7), .publish 0 7 "event",
    .query 0, .choose 0 [10], .send 0, .cleanup 0]

theorem payload_only_to_authorized_room :
    ∃ l s, Runs l s ∧ s.outbound 10 = ["event"] ∧ s.outbound 11 = [] ∧
      ∃ p conversationId userId, Chosen l p conversationId "event" 10 userId ∧
        AuthorizedDuring l p conversationId "event" userId := by
  have hex : (exec step { db := roomOfOne } publishToRoom).isSome = true := by decide
  obtain ⟨s, hs⟩ := Option.isSome_iff_exists.mp hex
  have hr : Runs _ s := Run.exec (.start ⟨roomOfOne, rfl⟩) hs
  have hq : (exec step { db := roomOfOne } publishToRoom).map (fun s => (s.outbound 10, s.outbound 11)) =
      some (["event"], []) := by decide
  simp only [hs, Option.map_some, Option.some.injEq, Prod.mk.injEq] at hq
  refine ⟨_, s, hr, hq.1, hq.2, (payload_only_to_authorized hr).2 10 "event" ?_⟩
  rw [hq.1]
  exact List.mem_singleton.mpr rfl

end Steps

end Delivery

end JamyeServer.Realtime
