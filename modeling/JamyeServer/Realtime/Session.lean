import JamyeServer.Realtime.Delivery

/-!
# Sessions and controls of one API node

The task of a socket runs the loop of `run_socket_with_runtime`: a biased `select!` that polls its branches in order,
and the handlers of what a branch yields. A control that a worker has published evicts sockets in two moves: it removes
them from the registry under the mutex, then sends a notice to each. Tasks run on several threads, so every step below
may fall between any two steps of another task, also between two branches of one `select!`.
-/

namespace JamyeServer.Realtime

open Postgres ReadCommitted Transition

inductive RealtimeEvictionReason
  | membershipRevoked | groupDeleted
  deriving DecidableEq, Repr

def RealtimeEvictionReason.asStr : RealtimeEvictionReason → String
  | .membershipRevoked => "membership_revoked"
  | .groupDeleted => "group_deleted"

inductive RealtimeControlIntent
  | membershipRevoked (groupId userId : Uuid)
  | groupDeleted (groupId : Uuid)
  deriving DecidableEq, Repr

namespace RealtimeControlIntent

def groupId : RealtimeControlIntent → Uuid
  | .membershipRevoked groupId _ => groupId
  | .groupDeleted groupId => groupId

def reason : RealtimeControlIntent → RealtimeEvictionReason
  | .membershipRevoked _ _ => .membershipRevoked
  | .groupDeleted _ => .groupDeleted

/-- The sockets that the control evicts. -/
def targets (s : RegistryState) (conversationIds : List Uuid) : RealtimeControlIntent → Finset SocketId
  | .membershipRevoked _ userId => s.followersOf userId conversationIds
  | .groupDeleted _ => s.followers conversationIds

end RealtimeControlIntent

def closeMembershipRequired : Nat := 4001
def closeProtocolError : Nat := 4400
def closeRealtimeAuthExpired : Nat := 4401
def closeInternalError : Nat := 1011
def closeGoingAway : Nat := 1001
def closeMessageTooBig : Nat := 1009
def maxNonceBytes : Nat := 128

inductive ClientFrame
  | subscribe (requestId conversationId : Uuid)
  | unsubscribe (requestId conversationId : Uuid)
  | ping (nonce : String)
  deriving DecidableEq, Repr

inductive ServerControlFrame
  | subscribed (requestId conversationId : Uuid)
  | unsubscribed (requestId conversationId : Uuid)
  | pong (nonce : String)
  deriving DecidableEq, Repr

/-- What the peer sends. A text that is no frame is `text none`, and the end of the stream counts as a close. -/
inductive ClientMessage
  | text (frame : Option ClientFrame)
  | ping | pong | close | binary
  | error (capacity : Bool)
  deriving DecidableEq, Repr

inductive Outgoing
  | control (frame : ServerControlFrame)
  | event (payload : String)
  | pong
  deriving DecidableEq, Repr

/-- Why a session ends. -/
inductive Cause
  | shutdown | expiry | heartbeat | peerClose | failedWrite
  | evicted | senderGone | protocolError | messageTooBig | denied | internalError
  deriving DecidableEq, Repr

/-- How a session ends: `close` is the code and the reason of the close frame it attempts, if it attempts one. -/
structure Ending where
  cause : Cause
  close : Option (Nat × String)
  deriving DecidableEq, Repr

def protocolError : Ending := ⟨.protocolError, some (closeProtocolError, "protocol_error")⟩
def internalError : Ending := ⟨.internalError, some (closeInternalError, "internal_error")⟩

/-- The branches of `select!` in their order. -/
inductive Branch
  | shutdown | expiry | heartbeat | evictions | receiver | outbound
  deriving DecidableEq, Repr

/-- Where the task of a socket stands. `cleaning` is about to remove the socket and then to attempt its close frame;
`over` has attempted it and left the loop; `gone` has dropped its receivers and its guard. -/
inductive Phase
  | polling (branch : Branch)
  | authorizing (requestId conversationId : Uuid)
  | entering (requestId conversationId : Uuid)
  | leaving (requestId conversationId : Uuid)
  | writing (message : Outgoing)
  | cleaning (ending : Ending)
  | «over» (ending : Ending)
  | gone (ending : Ending)
  deriving DecidableEq, Repr

/-- Where the loop goes with a message of the peer. -/
def Phase.received : ClientMessage → Phase
  | .text none => .cleaning protocolError
  | .text (some (.subscribe requestId conversationId)) => .authorizing requestId conversationId
  | .text (some (.unsubscribe requestId conversationId)) => .leaving requestId conversationId
  | .text (some (.ping nonce)) =>
    if maxNonceBytes < nonce.utf8ByteSize then .cleaning protocolError else .writing (.control (.pong nonce))
  | .ping => .writing .pong
  | .pong => .polling .shutdown
  | .close => .over ⟨.peerClose, none⟩
  | .binary => .cleaning protocolError
  | .error true => .cleaning ⟨.messageTooBig, some (closeMessageTooBig, "message_too_big")⟩
  | .error false => .cleaning protocolError

structure Session where
  userId : Uuid
  contractVersion : String
  phase : Phase := .polling .shutdown
  deriving DecidableEq

/-- How far the application of a control is. -/
inductive Control
  | fetched (intent : RealtimeControlIntent) (conversationIds : List Uuid)
  | notifying (reason : RealtimeEvictionReason) (senders : List SocketId)

/-- The loop is not left yet. -/
def Phase.inLoop : Phase → Bool
  | .over _ | .gone _ => false
  | _ => true

/-- `evictions` are the notices waiting in the eviction channels, which hold one each. `evicted` records the reason for
which a control removed the socket while its session was running. -/
structure Node extends Delivery where
  sessions : SocketId → Option Session := fun _ => none
  evictions : SocketId → Option RealtimeEvictionReason := fun _ => none
  controls : List Control := []
  evicted : SocketId → Option RealtimeEvictionReason := fun _ => none

inductive SessionAct
  | pollShutdown
  /-- Polls the timer at hand, which has fired or not. -/
  | pollTimer (fired : Bool)
  | pollEvictions
  /-- Polls the stream of the peer, which may have nothing yet. -/
  | pollReceiver (message : Option ClientMessage)
  | pollOutbound
  /-- The authorization query is answered or fails. -/
  | authorize (answered : Bool)
  | enter
  | leave
  | written (ok : Bool)
  | cleanup
  | finish

inductive NodeLabel
  | connect (userId : Uuid) (id : SocketId) (contractVersion : String)
  | session (k : SocketId) (act : SessionAct)
  | publishing (label : DeliveryLabel)
  /-- A control arrives and its conversations are read. -/
  | apply (intent : RealtimeControlIntent)
  | evict (c : Nat) (order : List SocketId)
  | notify (c : Nat)
  | shutdown

/-- `conversation_ids` of `adapters/postgres/realtime_revocations`. -/
def conversationIds (db : Store Row) (groupId : Uuid) : List Uuid :=
  db.ids Tables.chatrooms fun _ r => decide (r.groupId = groupId)

/-- The steps of a publish and the commits of other transactions; the hub is entered by sessions and controls. -/
def DeliveryLabel.background : DeliveryLabel → Bool
  | .hub _ | .receive _ | .close _ => false
  | _ => true

def Publish.holds (k : SocketId) : Publish → Bool
  | .sending _ recipients _ _ => decide (k ∈ recipients)
  | _ => false

def Control.holds (k : SocketId) : Control → Bool
  | .notifying _ senders => decide (k ∈ senders)
  | .fetched _ _ => false

namespace Node

def setPhase (s : Node) (k : SocketId) (σ : Session) (phase : Phase) : Node :=
  { s with sessions := Function.update s.sessions k (some { σ with phase := phase }) }

def setInner (s : Node) (inner : RegistryState) : Node := { s with hub := s.hub.setInner inner }

/-- Some sender of the outbound channel is alive. -/
def outboundOpen (s : Node) (k : SocketId) : Bool :=
  (s.hub.inner.sockets k).isSome || s.publishes.any (Publish.holds k)

/-- Some sender of the eviction channel is alive. -/
def evictionsOpen (s : Node) (k : SocketId) : Bool :=
  (s.hub.inner.sockets k).isSome || s.controls.any (Control.holds k)

/-- The task of the socket is in its loop. -/
def running (s : Node) (k : SocketId) : Bool := (s.sessions k).any fun σ => σ.phase.inLoop

variable (allowed : String → String → Bool)

/-- One step of the task of a socket; `allowed` is the filter of events by contract version. -/
def stepSession (s : Node) (k : SocketId) (σ : Session) (act : SessionAct) : Option Node :=
  match act, σ.phase with
  | .pollShutdown, .polling .shutdown =>
    some (s.setPhase k σ (if s.hub.shutdown then .cleaning ⟨.shutdown, some (closeGoingAway, "server_shutdown")⟩
      else .polling .expiry))
  | .pollTimer fired, .polling .expiry =>
    some (s.setPhase k σ (if fired then
        .cleaning ⟨.expiry, some (closeRealtimeAuthExpired, "realtime_auth_expired")⟩
      else .polling .heartbeat))
  | .pollTimer fired, .polling .heartbeat =>
    some (s.setPhase k σ (if fired then .cleaning ⟨.heartbeat, some (closeProtocolError, "heartbeat_timeout")⟩
      else .polling .evictions))
  | .pollEvictions, .polling .evictions =>
    match s.evictions k with
    | some reason =>
      some ({ s with evictions := Function.update s.evictions k none }.setPhase k σ
        (.over ⟨.evicted, some (closeMembershipRequired, reason.asStr)⟩))
    | none => some (s.setPhase k σ (if s.evictionsOpen k then .polling .receiver else .over ⟨.senderGone, none⟩))
  | .pollReceiver none, .polling .receiver => some (s.setPhase k σ (.polling .outbound))
  | .pollReceiver (some message), .polling .receiver => some (s.setPhase k σ (.received message))
  | .pollOutbound, .polling .outbound =>
    match s.outbound k with
    | payload :: rest =>
      some ({ s with outbound := Function.update s.outbound k rest }.setPhase k σ
        (if allowed payload σ.contractVersion then .writing (.event payload) else .polling .shutdown))
    | [] => some (s.setPhase k σ (if s.outboundOpen k then .polling .shutdown else .over ⟨.senderGone, none⟩))
  | .authorize answered, .authorizing requestId conversationId =>
    some (s.setPhase k σ (if answered then
        if isAuthorized s.db σ.userId conversationId then .entering requestId conversationId
        else .cleaning ⟨.denied, some (closeMembershipRequired, "membership_required")⟩
      else .cleaning internalError))
  | .enter, .entering requestId conversationId =>
    let result := s.hub.inner.subscribe k conversationId
    some ((s.setInner result.2).setPhase k σ
      (if result.1 then .writing (.control (.subscribed requestId conversationId)) else .over internalError))
  | .leave, .leaving requestId conversationId =>
    let result := s.hub.inner.unsubscribe k conversationId
    some ((s.setInner result.2).setPhase k σ
      (if result.1 then .writing (.control (.unsubscribed requestId conversationId)) else .over internalError))
  | .written ok, .writing _ => some (s.setPhase k σ (if ok then .polling .shutdown else .over ⟨.failedWrite, none⟩))
  | .cleanup, .cleaning ending => some ((s.setInner (s.hub.inner.removeSocket k).2).setPhase k σ (.over ending))
  | .finish, .over ending =>
    some ({ s with
      hub := (s.hub.setInner (s.hub.inner.removeSocket k).2).dropSession k
      closed := insert k s.closed }.setPhase k σ (.gone ending))
  | _, _ => none

def step (s : Node) : NodeLabel → Option Node
  | .connect userId id contractVersion =>
    if id ∈ s.hub.issued then none
    else match s.hub.registerSocket userId id with
      | .error _ => some s
      | .ok hub =>
        some { s with hub := hub, sessions := Function.update s.sessions id (some ⟨userId, contractVersion, .polling .shutdown⟩) }
  | .session k act => (s.sessions k).bind fun σ => s.stepSession allowed k σ act
  | .publishing label =>
    if label.background then (s.toDelivery.step label).map fun d => { s with toDelivery := d } else none
  | .apply intent => some { s with controls := s.controls ++ [.fetched intent (conversationIds s.db intent.groupId)] }
  | .evict c order =>
    match s.controls[c]? with
    | some (.fetched intent ids) =>
      if Hub.Visits order (intent.targets s.hub.inner ids) then
        let removed := (s.hub.inner.removeAll order).1
        some { s with
          hub := s.hub.setInner (s.hub.inner.removeAll order).2
          controls := s.controls.set c (.notifying intent.reason removed)
          evicted := fun k => if k ∈ removed ∧ s.running k then some intent.reason else s.evicted k }
      else none
    | _ => none
  | .notify c =>
    match s.controls[c]? with
    | some (.notifying reason (k :: rest)) =>
      -- `try_send` on a channel of capacity one.
      some { s with
        evictions := if k ∈ s.closed ∨ (s.evictions k).isSome then s.evictions
          else Function.update s.evictions k (some reason)
        controls := s.controls.set c (.notifying reason rest) }
    | _ => none
  | .shutdown => some { s with hub := s.hub.beginShutdown }

def Init (s : Node) : Prop := ∃ db, s = { db := db }

/-- What one step can do. -/
inductive Moves (s : Node) : NodeLabel → Node → Prop
  | refused (userId : Uuid) (id : SocketId) (contractVersion : String) : Moves s (.connect userId id contractVersion) s
  | connect {userId : Uuid} {id : SocketId} {contractVersion : String} {hub : Hub} (fresh : id ∉ s.hub.issued)
      (registered : s.hub.registerSocket userId id = .ok hub) : Moves s (.connect userId id contractVersion)
      { s with hub := hub, sessions := Function.update s.sessions id (some ⟨userId, contractVersion, .polling .shutdown⟩) }
  | session {k : SocketId} {σ : Session} {act : SessionAct} {s' : Node} (found : s.sessions k = some σ)
      (run : s.stepSession allowed k σ act = some s') : Moves s (.session k act) s'
  | publishing {label : DeliveryLabel} {d : Delivery} (background : label.background = true)
      (run : s.toDelivery.step label = some d) : Moves s (.publishing label) { s with toDelivery := d }
  | apply (intent : RealtimeControlIntent) : Moves s (.apply intent)
      { s with controls := s.controls ++ [.fetched intent (conversationIds s.db intent.groupId)] }
  | evict {c : Nat} {order : List SocketId} {intent : RealtimeControlIntent} {ids : List Uuid}
      (control : s.controls[c]? = some (.fetched intent ids))
      (visits : Hub.Visits order (intent.targets s.hub.inner ids)) : Moves s (.evict c order)
      { s with
        hub := s.hub.setInner (s.hub.inner.removeAll order).2
        controls := s.controls.set c (.notifying intent.reason (s.hub.inner.removeAll order).1)
        evicted := fun k => if k ∈ (s.hub.inner.removeAll order).1 ∧ s.running k then some intent.reason else s.evicted k }
  | notify {c : Nat} {reason : RealtimeEvictionReason} {k : SocketId} {rest : List SocketId}
      (control : s.controls[c]? = some (.notifying reason (k :: rest))) : Moves s (.notify c)
      { s with
        evictions := if k ∈ s.closed ∨ (s.evictions k).isSome then s.evictions
          else Function.update s.evictions k (some reason)
        controls := s.controls.set c (.notifying reason rest) }
  | shutdown : Moves s .shutdown { s with hub := s.hub.beginShutdown }

lemma moves_of_step {s s' : Node} {lab : NodeLabel} (hs : s.step allowed lab = some s') : Moves allowed s lab s' := by
  cases lab with
  | connect userId id version =>
    simp only [step] at hs
    split_ifs at hs with hid
    split at hs
    · cases hs
      exact .refused userId id version
    · cases hs
      exact .connect hid ‹_›
  | session k act =>
    obtain ⟨σ, hσ, hs⟩ := Option.bind_eq_some_iff.mp hs
    exact .session hσ hs
  | publishing label =>
    simp only [step] at hs
    split_ifs at hs with hb
    obtain ⟨d, hd, rfl⟩ := Option.map_eq_some_iff.mp hs
    exact .publishing hb hd
  | apply intent =>
    cases hs
    exact .apply intent
  | evict c order =>
    simp only [step] at hs
    split at hs
    · split_ifs at hs with hv
      cases hs
      exact .evict ‹_› hv
    · cases hs
  | notify c =>
    simp only [step] at hs
    split at hs
    · cases hs
      exact .notify ‹_›
    · cases hs
  | shutdown =>
    cases hs
    exact .shutdown

section Frames

variable {allowed} {s s' : Node} {k : SocketId} {σ : Session} {act : SessionAct}

/-- A step of one task changes its own session and its own channels. -/
lemma stepSession_frame (hs : s.stepSession allowed k σ act = some s') :
    s'.db = s.db ∧ s'.controls = s.controls ∧ s'.evicted = s.evicted ∧ s'.publishes = s.publishes ∧
    (∀ j, j ≠ k → s'.sessions j = s.sessions j ∧ s'.evictions j = s.evictions j) ∧
    ∃ phase, s'.sessions k = some { σ with phase := phase } := by
  unfold stepSession at hs
  split at hs <;> try split at hs
  all_goals cases hs
  all_goals refine ⟨rfl, rfl, rfl, rfl, fun j hj => ⟨Function.update_of_ne hj _ _, ?_⟩, _, Function.update_self _ _ _⟩
  all_goals first
    | rfl
    | exact Function.update_of_ne hj _ _

lemma stepSession_issued (hs : s.stepSession allowed k σ act = some s') : s'.hub.issued = s.hub.issued := by
  unfold stepSession at hs
  split at hs <;> try split at hs
  all_goals cases hs
  all_goals rfl

/-- What a step of one task does to the registry. -/
lemma stepSession_registry (hs : s.stepSession allowed k σ act = some s') :
    s'.hub.inner = s.hub.inner ∨
    (∃ r c, σ.phase = .entering r c ∧ s'.hub.inner = (s.hub.inner.subscribe k c).2) ∨
    (∃ c, s'.hub.inner = (s.hub.inner.unsubscribe k c).2) ∨
    s'.hub.inner = (s.hub.inner.removeSocket k).2 := by
  unfold stepSession at hs
  split at hs <;> try split at hs
  all_goals cases hs
  all_goals first
    | exact .inl rfl
    | exact .inr (.inl ⟨_, _, ‹_›, rfl⟩)
    | exact .inr (.inr (.inl ⟨_, rfl⟩))
    | exact .inr (.inr (.inr rfl))

lemma received_ne_entering (message : ClientMessage) (r c : Uuid) : Phase.received message ≠ .entering r c := by
  intro h
  unfold Phase.received at h
  split at h <;> try split at h
  all_goals cases h

/-- A task is about to enter a conversation only when the database has just said that it may. -/
lemma stepSession_entering {r c : Uuid} (hs : s.stepSession allowed k σ act = some s')
    (hp : s'.sessions k = some { σ with phase := .entering r c }) :
    isAuthorized s.db σ.userId c = true ∧ s'.hub = s.hub := by
  unfold stepSession at hs
  split at hs <;> try split at hs
  all_goals cases hs
  all_goals simp only [setPhase, setInner, Function.update_self, Option.some.injEq, Session.mk.injEq, true_and] at hp
  all_goals try split_ifs at hp
  all_goals first
    | cases hp; done
    | exact absurd hp (received_ne_entering _ _ _)
    | cases hp; exact ⟨‹_›, rfl⟩

/-- What a step of a publish or a commit does to the hub and to the database. -/
lemma step_background {d d' : Delivery} {label : DeliveryLabel} (hb : label.background = true)
    (hs : d.step label = some d') :
    (d'.hub = d.hub ∨ ∃ k, d'.hub = d.hub.setInner (d.hub.inner.removeSocket k).2) ∧
      (d'.db = d.db ∨ label = .commit d'.db) ∧ d'.closed = d.closed := by
  cases Delivery.moves_of_step hs with
  | hub run => cases hb
  | receive queue => cases hb
  | close k => cases hb
  | commit db => exact ⟨.inl rfl, .inr rfl, rfl⟩
  | cleanup payload k rest delivered => exact ⟨.inr ⟨k, rfl⟩, .inl rfl, rfl⟩
  | _ => exact ⟨.inl rfl, .inl rfl, rfl⟩

end Frames

section Registry

variable {allowed} {s s' : Node} {lab : NodeLabel}

/-- A registration, or a step after which no socket is new and only a socket that was about to enter a conversation
follows another one. -/
lemma step_registry (hs : s.step allowed lab = some s') :
    (∃ userId id version, lab = .connect userId id version ∧ id ∉ s.hub.issued ∧
      s.hub.registerSocket userId id = .ok s'.hub ∧
      s'.sessions = Function.update s.sessions id (some ⟨userId, version, .polling .shutdown⟩) ∧
      s'.db = s.db ∧ s'.controls = s.controls) ∨
    (s.hub.inner.Changes s'.hub.inner
        (fun k c => ∃ σ r, s.sessions k = some σ ∧ σ.phase = .entering r c) ∧
      s'.hub.issued = s.hub.issued ∧
      (∀ k σ', s'.sessions k = some σ' → ∃ σ, s.sessions k = some σ ∧ σ'.userId = σ.userId) ∧
      (∀ k σ, s.sessions k = some σ → ∃ σ', s'.sessions k = some σ' ∧ σ'.userId = σ.userId)) := by
  have hsame : ∀ k σ, s.sessions k = some σ → ∃ σ', s.sessions k = some σ' ∧ σ'.userId = σ.userId :=
    fun k σ h => ⟨σ, h, rfl⟩
  have hsame' : ∀ k σ', s.sessions k = some σ' → ∃ σ, s.sessions k = some σ ∧ σ'.userId = σ.userId :=
    fun k σ h => ⟨σ, h, rfl⟩
  cases moves_of_step allowed hs with
  | refused userId id version => exact .inr ⟨.refl _, rfl, hsame', hsame⟩
  | connect fresh registered => exact .inl ⟨_, _, _, rfl, fresh, registered, rfl, rfl, rfl⟩
  | @session k σ act s' hσ run =>
    obtain ⟨-, -, -, -, hother, phase, hk⟩ := stepSession_frame run
    refine .inr ⟨?_, stepSession_issued run, fun j σ' hj => ?_, fun j σ' hj => ?_⟩
    · rcases stepSession_registry run with he | ⟨r, c, hp, he⟩ | ⟨c, he⟩ | he
      · rw [he]
        exact .refl _
      · rw [he]
        exact RegistryState.changes_subscribe ⟨σ, r, hσ, hp⟩
      · rw [he]
        exact RegistryState.changes_unsubscribe
      · rw [he]
        exact RegistryState.changes_removeSocket
    · by_cases hjk : j = k
      · subst hjk
        rw [hk] at hj
        cases hj
        exact ⟨σ, hσ, rfl⟩
      · rw [(hother j hjk).1] at hj
        exact ⟨σ', hj, rfl⟩
    · by_cases hjk : j = k
      · subst hjk
        rw [hσ] at hj
        cases hj
        exact ⟨_, hk, rfl⟩
      · exact ⟨σ', by rw [(hother j hjk).1, hj], rfl⟩
  | publishing background run =>
    rcases (step_background background run).1 with he | ⟨k, he⟩
    · rw [he]
      exact .inr ⟨.refl _, rfl, hsame', hsame⟩
    · rw [he]
      exact .inr ⟨RegistryState.changes_removeSocket, rfl, hsame', hsame⟩
  | apply intent => exact .inr ⟨.refl _, rfl, hsame', hsame⟩
  | evict control visits => exact .inr ⟨RegistryState.changes_removeAll, rfl, hsame', hsame⟩
  | notify control => exact .inr ⟨.refl _, rfl, hsame', hsame⟩
  | shutdown => exact .inr ⟨.refl _, rfl, hsame', hsame⟩

/-- The registry agrees with itself, its ids were drawn, and every socket has the session of its user. -/
structure Sound (s : Node) : Prop where
  agree : s.hub.inner.Agree
  drawn : ∀ k u, s.hub.inner.Registered k u → k ∈ s.hub.issued
  users : ∀ k u, s.hub.inner.Registered k u → ∃ σ, s.sessions k = some σ ∧ σ.userId = u

lemma sound_init (h : Init s) : s.Sound := by
  obtain ⟨db, rfl⟩ := h
  refine ⟨RegistryState.agree_empty, ?_, ?_⟩
  all_goals
    rintro k u ⟨socket, hk, -⟩
    cases hk

lemma Sound.step (h : s.Sound) (hs : s.step allowed lab = some s') : s'.Sound := by
  obtain ⟨userId, id, version, -, hid, hr, hsess, -, -⟩ | ⟨hc, hissued, -, hkeep⟩ := step_registry hs
  · obtain ⟨-, hfull, he⟩ := Hub.registerSocket_ok hr
    have hfresh : s.hub.inner.sockets id = none := by
      by_contra hne
      obtain ⟨socket, hk⟩ := Option.ne_none_iff_exists'.mp hne
      exact hid (h.drawn id _ ⟨socket, hk, rfl⟩)
    refine ⟨?_, fun k u hk => ?_, fun k u hk => ?_⟩
    · rw [he]
      exact h.agree.insertSocket hfull hfresh
    · rw [he] at hk ⊢
      rw [RegistryState.registered_insertSocket] at hk
      split_ifs at hk with hki
      · exact hki ▸ Finset.mem_insert_self _ _
      · exact Finset.mem_insert_of_mem (h.drawn k u hk)
    · rw [he, RegistryState.registered_insertSocket] at hk
      rw [hsess]
      split_ifs at hk with hki
      · subst hki
        exact ⟨_, Function.update_self _ _ _, hk.symm⟩
      · rw [Function.update_of_ne hki]
        exact h.users k u hk
  · refine ⟨hc.agree h.agree, fun k u hk => hissued ▸ h.drawn k u (hc.registered k u hk), fun k u hk => ?_⟩
    obtain ⟨σ, hσ, hu⟩ := h.users k u (hc.registered k u hk)
    obtain ⟨σ', hσ', hu'⟩ := hkeep k σ hσ
    exact ⟨σ', hσ', hu'.trans hu⟩

end Registry

end Node

end JamyeServer.Realtime
