import JamyeServer.Realtime.Registry
import JamyeServer.Transition

/-!
# The hub of one API node

`LocalRealtimeHub` guards the registry with one mutex. Every stretch of code that holds it is one step, taken by
whichever task comes next. A session guard belongs to the task of one socket and is dropped once, when the task is
over; the socket may have left the registry long before.
-/

namespace JamyeServer.Realtime

open Postgres

inductive RegisterError
  | full | shuttingDown
  deriving DecidableEq, Repr

/-- `guards` are the sessions whose guard is still alive, `issued` the socket ids drawn so far; `underflow` tells that
the counter was lowered at zero. -/
structure Hub where
  inner : RegistryState := {}
  shutdown : Bool := false
  activeSessions : Nat := 0
  underflow : Bool := false
  guards : Finset SocketId := ∅
  issued : Finset SocketId := ∅

namespace Hub

def registerSocket (h : Hub) (userId : Uuid) (id : SocketId) : Except RegisterError Hub :=
  if h.shutdown then .error .shuttingDown
  else if h.inner.full userId then .error .full
  else .ok { h with
    inner := h.inner.insertSocket userId id
    activeSessions := h.activeSessions + 1
    guards := insert id h.guards
    issued := insert id h.issued }

/-- `drop` of `SocketSession`. -/
def dropSession (h : Hub) (id : SocketId) : Hub :=
  { h with
    activeSessions := h.activeSessions - 1
    underflow := h.underflow || decide (h.activeSessions = 0)
    guards := h.guards.erase id }

def setInner (h : Hub) (inner : RegistryState) : Hub := { h with inner := inner }

def beginShutdown (h : Hub) : Hub := { h with shutdown := true }

section Fields

variable (h : Hub) (inner : RegistryState) (id : SocketId)

@[simp] lemma setInner_inner : (h.setInner inner).inner = inner := rfl

@[simp] lemma setInner_shutdown : (h.setInner inner).shutdown = h.shutdown := rfl

@[simp] lemma setInner_guards : (h.setInner inner).guards = h.guards := rfl

@[simp] lemma setInner_issued : (h.setInner inner).issued = h.issued := rfl

@[simp] lemma beginShutdown_inner : h.beginShutdown.inner = h.inner := rfl

@[simp] lemma beginShutdown_issued : h.beginShutdown.issued = h.issued := rfl

@[simp] lemma dropSession_inner : (h.dropSession id).inner = h.inner := rfl

@[simp] lemma dropSession_issued : (h.dropSession id).issued = h.issued := rfl

@[simp] lemma dropSession_shutdown : (h.dropSession id).shutdown = h.shutdown := rfl

end Fields

/-- The order in which a hash set gives its elements. -/
def Visits (order : List SocketId) (set : Finset SocketId) : Prop := order.Nodup ∧ order.toFinset = set

instance (order : List SocketId) (set : Finset SocketId) : Decidable (Visits order set) :=
  inferInstanceAs (Decidable (_ ∧ _))

end Hub

/-- The critical sections. `register` brings the id that will be drawn; a publish only reads the registry in its
critical sections and removes closed sockets with `cleanup`. -/
inductive HubOp
  | register (userId : Uuid) (id : SocketId)
  | subscribe (id : SocketId) (conversationId : Uuid)
  | unsubscribe (id : SocketId) (conversationId : Uuid)
  | cleanup (id : SocketId)
  | evictUser (userId : Uuid) (conversationIds : List Uuid) (order : List SocketId)
  | evictConversations (conversationIds : List Uuid) (order : List SocketId)
  | subscribedUsers (conversationId : Uuid)
  | recipients (conversationId : Uuid) (authorizedUsers : Finset Uuid)
  | shutdown
  | dropSession (id : SocketId)

namespace Hub

/-- One critical section; `none` where it cannot be the next one: a drawn id is new, a set is visited in one of its
orders and a guard is dropped once. -/
def step (h : Hub) : HubOp → Option Hub
  | .register userId id =>
    if id ∈ h.issued then none
    else match h.registerSocket userId id with
      | .error _ => some h
      | .ok h' => some h'
  | .subscribe id c => some (h.setInner (h.inner.subscribe id c).2)
  | .unsubscribe id c => some (h.setInner (h.inner.unsubscribe id c).2)
  | .cleanup id => some (h.setInner (h.inner.removeSocket id).2)
  | .evictUser userId cs order =>
    if Visits order (h.inner.followersOf userId cs) then some (h.setInner (h.inner.removeAll order).2) else none
  | .evictConversations cs order =>
    if Visits order (h.inner.followers cs) then some (h.setInner (h.inner.removeAll order).2) else none
  | .subscribedUsers _ => some h
  | .recipients _ _ => some h
  | .shutdown => some h.beginShutdown
  | .dropSession id => if id ∈ h.guards then some (h.dropSession id) else none

/-- What holds of the hub between any two critical sections. -/
structure Inv (h : Hub) : Prop where
  agree : h.inner.Agree
  sessions : h.activeSessions = h.guards.card
  noUnderflow : h.underflow = false
  drawn : ∀ id, h.inner.sockets id ≠ none → id ∈ h.issued
  guarded : h.guards ⊆ h.issued

variable {h h' : Hub} {userId : Uuid} {id : SocketId} {inner : RegistryState}

lemma inv_init : Inv {} := ⟨RegistryState.agree_empty, rfl, rfl, fun _ hs => absurd rfl hs, Finset.Subset.refl _⟩

/-- What a successful registration found and what it leaves. -/
lemma registerSocket_ok (hr : h.registerSocket userId id = .ok h') :
    h.shutdown = false ∧ h.inner.full userId = false ∧
      h' = { h with
        inner := h.inner.insertSocket userId id
        activeSessions := h.activeSessions + 1
        guards := insert id h.guards
        issued := insert id h.issued } := by
  unfold registerSocket at hr
  split_ifs at hr with h₁ h₂
  simp only [Except.ok.injEq] at hr
  exact ⟨by simpa using h₁, by simpa using h₂, hr.symm⟩

lemma Inv.registerSocket (hi : h.Inv) (hfresh : id ∉ h.issued) (hr : h.registerSocket userId id = .ok h') :
    h'.Inv := by
  obtain ⟨-, hfull, rfl⟩ := registerSocket_ok hr
  have hnone : h.inner.sockets id = none := by
    by_contra hs
    exact hfresh (hi.drawn id hs)
  have hguard : id ∉ h.guards := fun hg => hfresh (hi.guarded hg)
  refine ⟨hi.agree.insertSocket hfull hnone, ?_, hi.noUnderflow, fun k hk => ?_, ?_⟩
  · simp [hi.sessions, Finset.card_insert_of_notMem hguard]
  · by_cases h : k = id
    · simp [h]
    · refine Finset.mem_insert_of_mem (hi.drawn k ?_)
      simpa [RegistryState.insertSocket, h] using hk
  · exact Finset.insert_subset_insert _ hi.guarded

/-- A section that draws no id and takes no guard. -/
lemma Inv.setInner (hi : h.Inv) (hagree : inner.Agree)
    (hsub : ∀ k, inner.sockets k ≠ none → h.inner.sockets k ≠ none) : (h.setInner inner).Inv :=
  ⟨hagree, hi.sessions, hi.noUnderflow, fun k hk => hi.drawn k (hsub k hk), hi.guarded⟩

lemma Inv.dropSession (hi : h.Inv) (hg : id ∈ h.guards) : (h.dropSession id).Inv := by
  have hpos : h.activeSessions ≠ 0 := by
    rw [hi.sessions]
    exact Finset.card_ne_zero_of_mem hg
  refine ⟨hi.agree, ?_, ?_, hi.drawn, (Finset.erase_subset _ _).trans hi.guarded⟩
  · simp [Hub.dropSession, hi.sessions, Finset.card_erase_of_mem hg]
  · simp [Hub.dropSession, hi.noUnderflow, hpos]

end Hub

namespace RegistryState

variable {s : RegistryState} {id k : SocketId} {c : Uuid}

lemma sockets_subscribe_ne_none : (s.subscribe id c).2.sockets k ≠ none ↔ s.sockets k ≠ none := by
  cases hs : s.sockets id with
  | none => rw [subscribe_of_none hs]
  | some socket => by_cases h : k = id <;> simp [subscribe, hs, h]

lemma sockets_unsubscribe_ne_none : (s.unsubscribe id c).2.sockets k ≠ none ↔ s.sockets k ≠ none := by
  cases hs : s.sockets id with
  | none => rw [unsubscribe_of_none hs]
  | some socket => by_cases h : k = id <;> simp [unsubscribe, hs, h]

lemma sockets_removeSocket_ne_none : (s.removeSocket id).2.sockets k ≠ none ↔ k ≠ id ∧ s.sockets k ≠ none := by
  by_cases h : k = id <;> simp [sockets_removeSocket, h]

lemma sockets_removeAll_ne_none {ids : List SocketId} :
    (s.removeAll ids).2.sockets k ≠ none ↔ k ∉ ids ∧ s.sockets k ≠ none := by
  by_cases h : k ∈ ids <;> simp [sockets_removeAll, h]

end RegistryState

namespace Hub

variable {h h' : Hub} {op : HubOp}

open RegistryState

/-- What a critical section can do: it registers a new socket, changes the maps for the sockets that are there, begins
the shutdown, drops a guard or leaves the hub as it is. -/
lemma step_cases (hs : h.step op = some h') :
    (∃ userId id, op = .register userId id ∧ id ∉ h.issued ∧ h.registerSocket userId id = .ok h') ∨
    (∃ inner, h' = h.setInner inner ∧ (h.inner.Agree → inner.Agree) ∧
      ∀ k, inner.sockets k ≠ none → h.inner.sockets k ≠ none) ∨
    (op = .shutdown ∧ h' = h.beginShutdown) ∨
    (∃ id, op = .dropSession id ∧ id ∈ h.guards ∧ h' = h.dropSession id) ∨
    h' = h := by
  cases op with
  | register userId id =>
    simp only [step] at hs
    split_ifs at hs with hid
    cases hr : h.registerSocket userId id with
    | error e =>
      rw [hr] at hs
      cases hs
      exact .inr (.inr (.inr (.inr rfl)))
    | ok r =>
      rw [hr] at hs
      cases hs
      exact .inl ⟨userId, id, rfl, hid, hr⟩
  | subscribe id c =>
    cases hs
    exact .inr (.inl ⟨_, rfl, fun ha => ha.subscribe, fun k hk => sockets_subscribe_ne_none.mp hk⟩)
  | unsubscribe id c =>
    cases hs
    exact .inr (.inl ⟨_, rfl, fun ha => ha.unsubscribe, fun k hk => sockets_unsubscribe_ne_none.mp hk⟩)
  | cleanup id =>
    cases hs
    exact .inr (.inl ⟨_, rfl, fun ha => ha.removeSocket, fun k hk => (sockets_removeSocket_ne_none.mp hk).2⟩)
  | evictUser userId cs order =>
    simp only [step] at hs
    split_ifs at hs
    cases hs
    exact .inr (.inl ⟨_, rfl, fun ha => ha.removeAll order, fun k hk => (sockets_removeAll_ne_none.mp hk).2⟩)
  | evictConversations cs order =>
    simp only [step] at hs
    split_ifs at hs
    cases hs
    exact .inr (.inl ⟨_, rfl, fun ha => ha.removeAll order, fun k hk => (sockets_removeAll_ne_none.mp hk).2⟩)
  | subscribedUsers c =>
    cases hs
    exact .inr (.inr (.inr (.inr rfl)))
  | recipients c users =>
    cases hs
    exact .inr (.inr (.inr (.inr rfl)))
  | shutdown =>
    cases hs
    exact .inr (.inr (.inl ⟨rfl, rfl⟩))
  | dropSession id =>
    simp only [step] at hs
    split_ifs at hs with hg
    cases hs
    exact .inr (.inr (.inr (.inl ⟨id, rfl, hg, rfl⟩)))

lemma Inv.step (hi : h.Inv) (hs : h.step op = some h') : h'.Inv := by
  obtain ⟨userId, id, -, hid, hr⟩ | ⟨inner, rfl, ha, hsub⟩ | ⟨-, rfl⟩ | ⟨id, -, hg, rfl⟩ | rfl := step_cases hs
  · exact hi.registerSocket hid hr
  · exact hi.setInner (ha hi.agree) hsub
  · exact ⟨hi.agree, hi.sessions, hi.noUnderflow, hi.drawn, hi.guarded⟩
  · exact hi.dropSession hg
  · exact hi

/-- After the shutdown has begun a step registers nothing. -/
lemma step_after_shutdown (hd : h.shutdown = true) (hs : h.step op = some h') :
    h'.shutdown = true ∧ ∀ k, h'.inner.sockets k ≠ none → h.inner.sockets k ≠ none := by
  obtain ⟨userId, id, -, -, hr⟩ | ⟨inner, rfl, -, hsub⟩ | ⟨-, rfl⟩ | ⟨id, -, -, rfl⟩ | rfl := step_cases hs
  · have := (registerSocket_ok hr).1
    rw [hd] at this
    cases this
  · exact ⟨hd, hsub⟩
  · exact ⟨rfl, fun k hk => hk⟩
  · exact ⟨hd, fun k hk => hk⟩
  · exact ⟨hd, fun k hk => hk⟩

open Transition

/-- The hub starts empty. -/
def Init (h : Hub) : Prop := h = {}

/-- Every sequence of critical sections. -/
abbrev Runs := Run Init step

lemma runs_start : Runs [] ({} : Hub) := .start rfl

lemma runs_inv {l : List (Hub × HubOp)} (hr : Runs l h) : h.Inv := by
  refine RunWhere.invariant (I := fun _ h => h.Inv) ?_ ?_ hr
  · rintro _ rfl
    exact inv_init
  · intro _ _ _ _ _ hi _ hs
    exact hi.step hs

/-- A socket that is there after the shutdown began was there when it began. -/
lemma runs_after_shutdown {l : List (Hub × HubOp)} (hr : Runs l h) :
    ∀ e ∈ l, e.1.shutdown = true →
      h.shutdown = true ∧ ∀ k, h.inner.sockets k ≠ none → e.1.inner.sockets k ≠ none := by
  refine RunWhere.invariant (I := fun l h => ∀ e ∈ l, e.1.shutdown = true →
    h.shutdown = true ∧ ∀ k, h.inner.sockets k ≠ none → e.1.inner.sockets k ≠ none) ?_ ?_ hr
  · intro _ _
    exact List.forall_mem_nil _
  · intro l h op h' _ ih _ hs e he hd
    rcases List.mem_cons.mp he with rfl | he
    · exact step_after_shutdown hd hs
    · obtain ⟨hdown, hsub⟩ := ih e he hd
      obtain ⟨hdown', hsub'⟩ := step_after_shutdown hdown hs
      exact ⟨hdown', fun k hk => hsub k (hsub' k hk)⟩

/-- In every state that critical sections can lead to, in any order, the indexes agree with the sockets, hold no empty
set and respect the limit, the counter counts the guards that are alive without ever having been lowered at zero, and
no socket has been registered since the shutdown began. -/
theorem hub_invariant {l : List (Hub × HubOp)} (hr : Runs l h) :
    (∀ u id, id ∈ h.inner.users.members u ↔ h.inner.Registered id u) ∧
    (∀ c id, id ∈ h.inner.conversations.members c ↔ h.inner.Subscribed id c) ∧
    (∀ u sockets, h.inner.users u = some sockets → sockets.Nonempty ∧ sockets.card ≤ 8) ∧
    (∀ c sockets, h.inner.conversations c = some sockets → sockets.Nonempty) ∧
    h.activeSessions = h.guards.card ∧ h.underflow = false ∧
    (∀ e ∈ l, e.1.shutdown = true → ∀ id, h.inner.sockets id ≠ none → e.1.inner.sockets id ≠ none) := by
  have hi := runs_inv hr
  refine ⟨hi.agree.users_iff, hi.agree.conversations_iff, fun u sockets hu => ?_, hi.agree.conversations_noneEmpty,
    hi.sessions, hi.noUnderflow, fun e he hd => (runs_after_shutdown hr e he hd).2⟩
  have hcard := hi.agree.limit u
  rw [Index.members, hu] at hcard
  exact ⟨hi.agree.users_noneEmpty u sockets hu, hcard⟩

/-- One of two sockets of a user is evicted, the other outlives the shutdown, and a third comes too late. -/
def shutdownOps : List HubOp :=
  [.register 1 10, .register 1 11, .subscribe 10 7, .subscribe 11 8, .evictUser 1 [7] [10], .dropSession 10, .shutdown,
    .register 1 12]

theorem hub_invariant_shutdown : ∃ h,
    exec step {} shutdownOps = some h ∧ h.inner.sockets 11 ≠ none ∧ h.inner.sockets 12 = none ∧
    h.activeSessions = h.guards.card ∧ h.guards.card = 1 ∧
    ∀ e ∈ history step {} shutdownOps, e.1.shutdown = true → ∀ id, h.inner.sockets id ≠ none →
      e.1.inner.sockets id ≠ none := by
  have hex : (exec step {} shutdownOps).isSome = true := by decide
  obtain ⟨h, hh⟩ := Option.isSome_iff_exists.mp hex
  have hinv := hub_invariant (runs_start.exec hh)
  have h₁ : ((exec step {} shutdownOps).all fun h => (h.inner.sockets 11).isSome && (h.inner.sockets 12).isNone &&
    decide (h.guards.card = 1)) = true := by decide
  simp only [hh, Option.all_some, Bool.and_eq_true, decide_eq_true_eq] at h₁
  refine ⟨h, hh, ?_, Option.isNone_iff_eq_none.mp h₁.1.2, hinv.2.2.2.2.1, h₁.2, ?_⟩
  · exact Option.isSome_iff_ne_none.mp h₁.1.1
  · simpa using hinv.2.2.2.2.2.2

end Hub

end JamyeServer.Realtime
