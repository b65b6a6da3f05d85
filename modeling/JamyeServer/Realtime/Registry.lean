import JamyeServer.Index
import JamyeServer.Postgres.Schema
import Mathlib.Data.Finset.Union
import Mathlib.Data.Finset.Option

/-!
# The registry of sockets

`RegistryState` of `transport/realtime/registry.rs` with what its operations do to it. The senders of a socket are
known by its id: a socket has one outbound channel and one eviction channel, made when it is registered. The order in
which a hash set gives its elements is an argument of the operations that visit one.
-/

namespace JamyeServer.Realtime

open Postgres

def maxSocketsPerUser : Nat := 8

abbrev SocketId := Uuid

structure SocketState where
  userId : Uuid
  conversations : Finset Uuid := ∅
  deriving DecidableEq

structure RegistryState where
  sockets : SocketId → Option SocketState := fun _ => none
  users : Index Uuid SocketId := fun _ => none
  conversations : Index Uuid SocketId := fun _ => none

namespace RegistryState

/-- The user has no place for another socket. -/
def full (s : RegistryState) (userId : Uuid) : Bool :=
  (s.users userId).any fun sockets => decide (maxSocketsPerUser ≤ sockets.card)

def insertSocket (s : RegistryState) (userId : Uuid) (id : SocketId) : RegistryState :=
  { s with sockets := Function.update s.sockets id (some ⟨userId, ∅⟩), users := s.users.add userId id }

def subscribe (s : RegistryState) (id : SocketId) (conversationId : Uuid) : Bool × RegistryState :=
  match s.sockets id with
  | none => (false, s)
  | some socket =>
    (true, { s with
      sockets := Function.update s.sockets id
        (some { socket with conversations := insert conversationId socket.conversations })
      conversations := s.conversations.add conversationId id })

def unsubscribe (s : RegistryState) (id : SocketId) (conversationId : Uuid) : Bool × RegistryState :=
  match s.sockets id with
  | none => (false, s)
  | some socket =>
    (true, { s with
      sockets := Function.update s.sockets id
        (some { socket with conversations := socket.conversations.erase conversationId })
      conversations := s.conversations.drop conversationId id })

def removeSocket (s : RegistryState) (id : SocketId) : Option SocketState × RegistryState :=
  match s.sockets id with
  | none => (none, s)
  | some socket =>
    (some socket,
      { sockets := Function.update s.sockets id none
        users := s.users.drop socket.userId id
        conversations := s.conversations.dropAll socket.conversations id })

/-- The sockets of a user that follow one of the conversations. -/
def followersOf (s : RegistryState) (userId : Uuid) (conversationIds : List Uuid) : Finset SocketId :=
  (s.users.members userId).filter fun id =>
    (s.sockets id).any fun socket => conversationIds.any fun c => decide (c ∈ socket.conversations)

/-- The sockets that follow one of the conversations. -/
def followers (s : RegistryState) (conversationIds : List Uuid) : Finset SocketId :=
  conversationIds.toFinset.biUnion s.conversations.members

/-- Removes the sockets one after another and keeps the eviction senders of those that were there. -/
def removeAll (s : RegistryState) : List SocketId → List SocketId × RegistryState
  | [] => ([], s)
  | id :: ids =>
    match s.removeSocket id with
    | (none, s') => s'.removeAll ids
    | (some _, s') => (id :: (s'.removeAll ids).1, (s'.removeAll ids).2)

/-- The users that follow the conversation with one of their sockets. -/
def subscribedUsers (s : RegistryState) (conversationId : Uuid) : Finset Uuid :=
  (s.conversations.members conversationId).biUnion fun id => ((s.sockets id).map SocketState.userId).toFinset

/-- The sockets that a payload of the conversation goes to. -/
def recipients (s : RegistryState) (conversationId : Uuid) (authorizedUsers : Finset Uuid) : Finset SocketId :=
  (s.conversations.members conversationId).filter fun id =>
    (s.sockets id).any fun socket => decide (socket.userId ∈ authorizedUsers)

def Registered (s : RegistryState) (id : SocketId) (userId : Uuid) : Prop :=
  ∃ socket, s.sockets id = some socket ∧ socket.userId = userId

def Subscribed (s : RegistryState) (id : SocketId) (conversationId : Uuid) : Prop :=
  ∃ socket, s.sockets id = some socket ∧ conversationId ∈ socket.conversations

/-- The three maps tell the same, none holds an empty set and no user has more sockets than allowed. -/
structure Agree (s : RegistryState) : Prop where
  users_iff : ∀ u id, id ∈ s.users.members u ↔ s.Registered id u
  conversations_iff : ∀ c id, id ∈ s.conversations.members c ↔ s.Subscribed id c
  users_noneEmpty : s.users.NoneEmpty
  conversations_noneEmpty : s.conversations.NoneEmpty
  limit : ∀ u, (s.users.members u).card ≤ maxSocketsPerUser

section Changes

variable {s s' : RegistryState} {id k : SocketId} {u c userId conversationId : Uuid}

lemma registered_insertSocket : (s.insertSocket userId id).Registered k u ↔
    if k = id then u = userId else s.Registered k u := by
  by_cases h : k = id
  · subst h
    simp [Registered, insertSocket, eq_comm]
  · simp [Registered, insertSocket, h]

lemma subscribed_insertSocket : (s.insertSocket userId id).Subscribed k c ↔ k ≠ id ∧ s.Subscribed k c := by
  by_cases h : k = id
  · subst h
    simp [Subscribed, insertSocket]
  · simp [Subscribed, insertSocket, h]

lemma subscribe_of_none (h : s.sockets id = none) : s.subscribe id conversationId = (false, s) := by
  simp [subscribe, h]

lemma registered_subscribe : (s.subscribe id conversationId).2.Registered k u ↔ s.Registered k u := by
  cases hs : s.sockets id with
  | none => rw [subscribe_of_none hs]
  | some socket =>
    by_cases h : k = id
    · subst h
      simp [Registered, subscribe, hs]
    · simp [Registered, subscribe, hs, h]

lemma subscribed_subscribe : (s.subscribe id conversationId).2.Subscribed k c ↔
    s.Subscribed k c ∨ (k = id ∧ c = conversationId ∧ s.sockets id ≠ none) := by
  cases hs : s.sockets id with
  | none => simp [subscribe_of_none hs]
  | some socket =>
    by_cases h : k = id
    · subst h
      simp [Subscribed, subscribe, hs, or_comm]
    · simp [Subscribed, subscribe, hs, h]

lemma unsubscribe_of_none (h : s.sockets id = none) : s.unsubscribe id conversationId = (false, s) := by
  simp [unsubscribe, h]

lemma registered_unsubscribe : (s.unsubscribe id conversationId).2.Registered k u ↔ s.Registered k u := by
  cases hs : s.sockets id with
  | none => rw [unsubscribe_of_none hs]
  | some socket =>
    by_cases h : k = id
    · subst h
      simp [Registered, unsubscribe, hs]
    · simp [Registered, unsubscribe, hs, h]

lemma subscribed_unsubscribe : (s.unsubscribe id conversationId).2.Subscribed k c ↔
    s.Subscribed k c ∧ ¬(k = id ∧ c = conversationId) := by
  cases hs : s.sockets id with
  | none =>
    rw [unsubscribe_of_none hs]
    constructor
    · rintro ⟨socket, hk, hc⟩
      refine ⟨⟨socket, hk, hc⟩, ?_⟩
      rintro ⟨rfl, -⟩
      simp [hs] at hk
    · exact And.left
  | some socket =>
    by_cases h : k = id
    · subst h
      simp [Subscribed, unsubscribe, hs, and_comm]
    · simp [Subscribed, unsubscribe, hs, h]

lemma sockets_removeSocket : (s.removeSocket id).2.sockets = Function.update s.sockets id none := by
  cases hs : s.sockets id with
  | none => simp [removeSocket, hs]
  | some socket => simp [removeSocket, hs]

lemma registered_removeSocket : (s.removeSocket id).2.Registered k u ↔ k ≠ id ∧ s.Registered k u := by
  by_cases h : k = id
  · simp [Registered, sockets_removeSocket, h]
  · simp [Registered, sockets_removeSocket, h]

lemma subscribed_removeSocket : (s.removeSocket id).2.Subscribed k c ↔ k ≠ id ∧ s.Subscribed k c := by
  by_cases h : k = id
  · simp [Subscribed, sockets_removeSocket, h]
  · simp [Subscribed, sockets_removeSocket, h]

lemma removeAll_cons (ids : List SocketId) :
    (s.removeAll (id :: ids)).2 = ((s.removeSocket id).2.removeAll ids).2 := by
  cases hs : s.sockets id with
  | none => simp [removeAll, removeSocket, hs]
  | some socket => simp [removeAll, removeSocket, hs]

/-- What every operation does to the maps follows from what it does to the sockets. -/
lemma sockets_removeAll (ids : List SocketId) :
    (s.removeAll ids).2.sockets k = if k ∈ ids then none else s.sockets k := by
  induction ids generalizing s with
  | nil => simp [removeAll]
  | cons i ids ih =>
    rw [removeAll_cons, ih, sockets_removeSocket]
    by_cases hk : k ∈ ids
    · simp [hk]
    · by_cases hi : k = i
      · simp [hi]
      · simp [hk, hi]

lemma mem_removeAll {ids : List SocketId} : k ∈ (s.removeAll ids).1 ↔ k ∈ ids ∧ s.sockets k ≠ none := by
  induction ids generalizing s with
  | nil => simp [removeAll]
  | cons i ids ih =>
    cases hs : s.sockets i with
    | none =>
      have hr : s.removeSocket i = (none, s) := by simp [removeSocket, hs]
      simp only [removeAll, hr, ih, List.mem_cons]
      constructor
      · rintro ⟨hk, hne⟩
        exact ⟨.inr hk, hne⟩
      · rintro ⟨rfl | hk, hne⟩
        · exact absurd hs hne
        · exact ⟨hk, hne⟩
    | some socket =>
      have hr : (s.removeSocket i).1 = some socket := by simp [removeSocket, hs]
      have hr' : s.removeAll (i :: ids) =
          (i :: ((s.removeSocket i).2.removeAll ids).1, ((s.removeSocket i).2.removeAll ids).2) := by
        simp [removeAll, removeSocket, hs]
      rw [hr']
      simp only [List.mem_cons, ih, sockets_removeSocket]
      by_cases hi : k = i
      · subst hi
        simp [hs]
      · simp [hi]

end Changes

section Agreement

variable {s : RegistryState} {id k : SocketId} {u c userId conversationId : Uuid}

lemma agree_empty : Agree {} where
  users_iff := by simp [Registered]
  conversations_iff := by simp [Subscribed]
  users_noneEmpty := by simp [Index.NoneEmpty]
  conversations_noneEmpty := by simp [Index.NoneEmpty]
  limit := by simp [Index.members]

lemma Agree.insertSocket (h : s.Agree) (hfull : s.full userId = false) (hfresh : s.sockets id = none) :
    (s.insertSocket userId id).Agree where
  users_iff u k := by
    rw [registered_insertSocket]
    simp only [RegistryState.insertSocket, Index.mem_members_add, h.users_iff]
    by_cases hk : k = id
    · subst hk
      simp [Registered, hfresh]
    · simp [hk]
  conversations_iff c k := by
    rw [subscribed_insertSocket]
    simp only [RegistryState.insertSocket, h.conversations_iff]
    by_cases hk : k = id
    · subst hk
      simp [Subscribed, hfresh]
    · simp [hk]
  users_noneEmpty := Index.noneEmpty_add h.users_noneEmpty
  conversations_noneEmpty := h.conversations_noneEmpty
  limit u := by
    simp only [RegistryState.insertSocket, Index.members_add]
    split_ifs with hu
    · subst hu
      have hlt : (s.users.members u).card < maxSocketsPerUser := by
        unfold full at hfull
        unfold Index.members
        cases hm : s.users u with
        | none => simp [maxSocketsPerUser]
        | some sockets => simpa [hm] using hfull
      exact (Finset.card_insert_le _ _).trans hlt
    · exact h.limit u

lemma Agree.subscribe (h : s.Agree) : (s.subscribe id conversationId).2.Agree := by
  cases hs : s.sockets id with
  | none => rwa [subscribe_of_none hs]
  | some socket =>
    have husers : (s.subscribe id conversationId).2.users = s.users := by simp [RegistryState.subscribe, hs]
    have hconv : (s.subscribe id conversationId).2.conversations = s.conversations.add conversationId id := by
      simp [RegistryState.subscribe, hs]
    refine ⟨fun u k => ?_, fun c k => ?_, ?_, ?_, ?_⟩
    · rw [registered_subscribe, husers, h.users_iff]
    · rw [subscribed_subscribe, hconv, Index.mem_members_add, h.conversations_iff]
      simp [hs, or_comm, and_comm]
    · rw [husers]
      exact h.users_noneEmpty
    · rw [hconv]
      exact Index.noneEmpty_add h.conversations_noneEmpty
    · rw [husers]
      exact h.limit

lemma Agree.unsubscribe (h : s.Agree) : (s.unsubscribe id conversationId).2.Agree := by
  cases hs : s.sockets id with
  | none => rwa [unsubscribe_of_none hs]
  | some socket =>
    have husers : (s.unsubscribe id conversationId).2.users = s.users := by simp [RegistryState.unsubscribe, hs]
    have hconv : (s.unsubscribe id conversationId).2.conversations = s.conversations.drop conversationId id := by
      simp [RegistryState.unsubscribe, hs]
    refine ⟨fun u k => ?_, fun c k => ?_, ?_, ?_, ?_⟩
    · rw [registered_unsubscribe, husers, h.users_iff]
    · rw [subscribed_unsubscribe, hconv, Index.mem_members_drop, h.conversations_iff]
      simp [and_comm]
    · rw [husers]
      exact h.users_noneEmpty
    · rw [hconv]
      exact Index.noneEmpty_drop h.conversations_noneEmpty
    · rw [husers]
      exact h.limit

lemma Agree.removeSocket (h : s.Agree) : (s.removeSocket id).2.Agree := by
  cases hs : s.sockets id with
  | none =>
    have : s.removeSocket id = (none, s) := by simp [RegistryState.removeSocket, hs]
    rwa [this]
  | some socket =>
    have husers : (s.removeSocket id).2.users = s.users.drop socket.userId id := by
      simp [RegistryState.removeSocket, hs]
    have hconv : (s.removeSocket id).2.conversations = s.conversations.dropAll socket.conversations id := by
      simp [RegistryState.removeSocket, hs]
    refine ⟨fun u k => ?_, fun c k => ?_, ?_, ?_, fun u => ?_⟩
    · rw [registered_removeSocket, husers, Index.mem_members_drop, h.users_iff]
      by_cases hk : k = id
      · subst hk
        simp [Registered, hs, eq_comm]
      · simp [hk]
    · rw [subscribed_removeSocket, hconv, Index.mem_members_dropAll, h.conversations_iff]
      by_cases hk : k = id
      · subst hk
        simp [Subscribed, hs]
      · simp [hk]
    · rw [husers]
      exact Index.noneEmpty_drop h.users_noneEmpty
    · rw [hconv]
      exact Index.noneEmpty_dropAll h.conversations_noneEmpty
    · rw [husers]
      refine (Finset.card_le_card fun k hk => ?_).trans (h.limit u)
      exact (Index.mem_members_drop.mp hk).1

lemma Agree.removeAll (h : s.Agree) (ids : List SocketId) : (s.removeAll ids).2.Agree := by
  induction ids generalizing s with
  | nil => exact h
  | cons i ids ih =>
    rw [removeAll_cons]
    exact ih h.removeSocket

lemma Agree.mem_followersOf (h : s.Agree) {conversationIds : List Uuid} :
    k ∈ s.followersOf userId conversationIds ↔
      s.Registered k userId ∧ ∃ c ∈ conversationIds, s.Subscribed k c := by
  simp only [followersOf, Finset.mem_filter, h.users_iff]
  refine and_congr_right fun hk => ?_
  obtain ⟨socket, hs, -⟩ := hk
  simp [hs, Subscribed]

lemma Agree.mem_recipients (h : s.Agree) {authorizedUsers : Finset Uuid} :
    k ∈ s.recipients conversationId authorizedUsers ↔
      s.Subscribed k conversationId ∧ ∃ u ∈ authorizedUsers, s.Registered k u := by
  simp only [recipients, Finset.mem_filter, h.conversations_iff]
  refine and_congr_right fun hk => ?_
  obtain ⟨socket, hs, -⟩ := hk
  simp [hs, Registered]

end Agreement

/-- No socket is new, and a socket follows nothing new but what `enters` says. -/
structure Changes (s s' : RegistryState) (enters : SocketId → Uuid → Prop) : Prop where
  agree : s.Agree → s'.Agree
  registered : ∀ k u, s'.Registered k u → s.Registered k u
  subscribed : ∀ k c, s'.Subscribed k c → s.Subscribed k c ∨ enters k c

section Changes

variable {s : RegistryState} {id : SocketId} {conversationId : Uuid} {enters : SocketId → Uuid → Prop}

lemma Changes.refl (s : RegistryState) : s.Changes s enters := ⟨fun h => h, fun _ _ h => h, fun _ _ h => .inl h⟩

lemma changes_subscribe (h : enters id conversationId) : s.Changes (s.subscribe id conversationId).2 enters := by
  refine ⟨Agree.subscribe, fun k u hk => registered_subscribe.mp hk, fun k c hk => ?_⟩
  rcases subscribed_subscribe.mp hk with hk | ⟨rfl, rfl, -⟩
  · exact .inl hk
  · exact .inr h

lemma changes_unsubscribe : s.Changes (s.unsubscribe id conversationId).2 enters :=
  ⟨Agree.unsubscribe, fun _ _ hk => registered_unsubscribe.mp hk, fun _ _ hk => .inl (subscribed_unsubscribe.mp hk).1⟩

lemma changes_removeSocket : s.Changes (s.removeSocket id).2 enters :=
  ⟨Agree.removeSocket, fun _ _ hk => (registered_removeSocket.mp hk).2,
    fun _ _ hk => .inl (subscribed_removeSocket.mp hk).2⟩

lemma registered_removeAll {ids : List SocketId} {k : SocketId} {u : Uuid} :
    (s.removeAll ids).2.Registered k u ↔ k ∉ ids ∧ s.Registered k u := by
  by_cases h : k ∈ ids <;> simp [Registered, sockets_removeAll, h]

lemma subscribed_removeAll {ids : List SocketId} {k : SocketId} {c : Uuid} :
    (s.removeAll ids).2.Subscribed k c ↔ k ∉ ids ∧ s.Subscribed k c := by
  by_cases h : k ∈ ids <;> simp [Subscribed, sockets_removeAll, h]

lemma changes_removeAll {ids : List SocketId} : s.Changes (s.removeAll ids).2 enters :=
  ⟨fun h => h.removeAll ids, fun _ _ hk => (registered_removeAll.mp hk).2,
    fun _ _ hk => .inl (subscribed_removeAll.mp hk).2⟩

end Changes

end RegistryState

end JamyeServer.Realtime
