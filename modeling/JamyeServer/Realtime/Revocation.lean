import JamyeServer.Realtime.Session

/-!
# Revoked members and their subscriptions

A `membership_revoked` control removes the sockets of the user that follow a conversation of the group. A subscribe
frame asks the database first and enters the registry later, so its answer may be older than the eviction.
-/

namespace JamyeServer.Realtime

open Postgres ReadCommitted Transition

section Database

variable {db db' : Store Row} {groupId userId conversationId : Uuid}

def isMember (db : Store Row) (groupId userId : Uuid) : Bool :=
  !(db.ids Tables.memberships fun _ m =>
    decide (m.groupId = groupId) && decide (m.userId = userId) && m.deletedAt.isNone).isEmpty

def roomGroup (db : Store Row) (conversationId : Uuid) : Option Uuid :=
  (db.get (.chatrooms conversationId)).map Chatroom.groupId

/-- Rooms neither move to another group nor disappear: no statement of the server writes their group or deletes them. -/
def RoomsStay (db db' : Store Row) : Prop := ∀ c g, roomGroup db c = some g → roomGroup db' c = some g

lemma isMember_of_authorized (h : isAuthorized db userId conversationId = true) :
    ∃ g, roomGroup db conversationId = some g ∧ isMember db g userId = true := by
  simp only [isAuthorized, Bool.and_eq_true, Bool.not_eq_true', List.isEmpty_eq_false_iff] at h
  have h := h.1
  unfold Rooms.accesses at h
  cases hr : db.get (.chatrooms conversationId) with
  | none => simp [hr] at h
  | some room =>
    simp only [hr] at h
    split_ifs at h
    · refine ⟨room.groupId, by simp [roomGroup, hr], ?_⟩
      simpa [isMember] using h
    · exact absurd rfl h

lemma mem_conversationIds : conversationId ∈ conversationIds db groupId ↔ roomGroup db conversationId = some groupId := by
  simp [conversationIds, Store.mem_ids, roomGroup]

end Database

namespace Node

abbrev History := List (Node × NodeLabel)

/-- The user is no member of the group now, nor was in the states of the history. -/
def Absent (l : History) (s : Node) (groupId userId : Uuid) : Prop :=
  (∀ e ∈ l, isMember e.1.db groupId userId = false) ∧ isMember s.db groupId userId = false

/-- The control `c` for the user and the group has read the conversations, and the user was no member then or since. -/
def Fetched (l : History) (s : Node) (c : Nat) (groupId userId : Uuid) : Prop :=
  ∃ l₁ s₀ l₀, l = l₁ ++ (s₀, .apply (.membershipRevoked groupId userId)) :: l₀ ∧ s₀.controls.length = c ∧
    isMember s₀.db groupId userId = false ∧ Absent l₁ s groupId userId

/-- A control for the user and the group has been applied, and the user has not been a member since it arrived. -/
def Applied (l : History) (s : Node) (groupId userId : Uuid) : Prop :=
  ∃ l₁ s₁ c order ids l₀, l = l₁ ++ (s₁, .evict c order) :: l₀ ∧
    s₁.controls[c]? = some (.fetched (.membershipRevoked groupId userId) ids) ∧ Fetched l₀ s₁ c groupId userId ∧
    Absent l₁ s groupId userId

/-- What is assumed of the transactions of other requests. -/
def KeepsRooms (s : Node) : NodeLabel → Prop
  | .publishing (.commit db) => RoomsStay s.db db
  | _ => True

/-- When a control evicts a user from the conversations of a group, no other socket of the user stands between the
answer to its subscribe frame for one of them and its entry. -/
def NotOvertaken (s : Node) : NodeLabel → Prop
  | .evict c order => ∀ groupId userId ids, s.controls[c]? = some (.fetched (.membershipRevoked groupId userId) ids) →
      ∀ k σ r conversationId, s.sessions k = some σ → σ.userId = userId → σ.phase = .entering r conversationId →
        conversationId ∈ ids → s.hub.inner.sockets k ≠ none → k ∈ order
  | _ => True

/-- The socket of the user follows the conversation, or is about to. -/
def Heads (s : Node) (userId : Uuid) (k : SocketId) (conversationId : Uuid) : Prop :=
  s.hub.inner.Registered k userId ∧ (s.hub.inner.Subscribed k conversationId ∨
    ∃ σ r, s.sessions k = some σ ∧ σ.userId = userId ∧ σ.phase = .entering r conversationId)

section Histories

variable {l : History} {s s' : Node} {lab : NodeLabel} {groupId userId : Uuid} {c : Nat}

lemma Absent.before (h : Absent ((s, lab) :: l) s' groupId userId) : Absent l s groupId userId :=
  ⟨fun e he => h.1 e (List.mem_cons_of_mem _ he), h.1 (s, lab) List.mem_cons_self⟩

/-- A control that has read the conversations did so before the last step or in it. -/
lemma Fetched.before (h : Fetched ((s, lab) :: l) s' c groupId userId) :
    isMember s.db groupId userId = false ∧
      (Fetched l s c groupId userId ∨ lab = .apply (.membershipRevoked groupId userId) ∧ s.controls.length = c) := by
  obtain ⟨l₁, s₀, l₀, he, hc, hm, ha⟩ := h
  cases l₁ with
  | nil =>
    simp only [List.nil_append, List.cons.injEq, Prod.mk.injEq] at he
    obtain ⟨⟨rfl, rfl⟩, -⟩ := he
    exact ⟨hm, .inr ⟨rfl, hc⟩⟩
  | cons e l₁ =>
    simp only [List.cons_append, List.cons.injEq] at he
    obtain ⟨rfl, rfl⟩ := he
    exact ⟨ha.before.2, .inl ⟨l₁, s₀, l₀, rfl, hc, hm, ha.before⟩⟩

lemma Applied.before (h : Applied ((s, lab) :: l) s' groupId userId) :
    (Applied l s groupId userId) ∨
      ∃ c order ids, lab = .evict c order ∧ s.controls[c]? = some (.fetched (.membershipRevoked groupId userId) ids) ∧
        Fetched l s c groupId userId := by
  obtain ⟨l₁, s₁, c, order, ids, l₀, he, hc, hf, ha⟩ := h
  cases l₁ with
  | nil =>
    simp only [List.nil_append, List.cons.injEq, Prod.mk.injEq] at he
    obtain ⟨⟨rfl, rfl⟩, rfl⟩ := he
    exact .inr ⟨c, order, ids, rfl, hc, hf⟩
  | cons e l₁ =>
    simp only [List.cons_append, List.cons.injEq] at he
    obtain ⟨rfl, rfl⟩ := he
    exact .inl ⟨l₁, s₁, c, order, ids, l₀, rfl, hc, hf, ha.before⟩

lemma Applied.absent (h : Applied l s groupId userId) : isMember s.db groupId userId = false := by
  obtain ⟨_, _, _, _, _, _, _, _, _, ha⟩ := h
  exact ha.2

end Histories

section Steps

variable {allowed : String → String → Bool} {l : History} {s s' : Node} {lab : NodeLabel} {groupId userId : Uuid}
  {k : SocketId} {conversationId : Uuid}

/-- The database changes only by commits. -/
lemma step_db (hs : s.step allowed lab = some s') : s'.db = s.db ∨ lab = .publishing (.commit s'.db) := by
  cases moves_of_step allowed hs with
  | session found run => exact .inl (stepSession_frame run).1
  | publishing background run =>
    rcases (step_background background run).2.1 with he | he
    · exact .inl he
    · exact .inr (congrArg NodeLabel.publishing he)
  | _ => exact .inl rfl

lemma step_rooms (hs : s.step allowed lab = some s') (hc : KeepsRooms s lab) : RoomsStay s.db s'.db := by
  rcases step_db hs with he | he
  · rw [he]
    exact fun _ _ h => h
  · rw [he] at hc
    exact hc

/-- A control that has read the conversations after a step had done so before it, or reads them in it. -/
lemma step_fetched {c : Nat} {intent : RealtimeControlIntent} {ids : List Uuid} (hs : s.step allowed lab = some s')
    (hc : s'.controls[c]? = some (.fetched intent ids)) :
    s.controls[c]? = some (.fetched intent ids) ∨ s'.db = s.db ∧ ids = conversationIds s.db intent.groupId := by
  cases moves_of_step allowed hs with
  | session found run =>
    rw [(stepSession_frame run).2.1] at hc
    exact .inl hc
  | apply intent =>
    rcases getElem?_of_snoc hc with ⟨-, he⟩ | hc
    · cases he
      exact .inr ⟨rfl, rfl⟩
    · exact .inl hc
  | evict control visits =>
    rcases getElem?_of_set hc with ⟨-, he⟩ | ⟨-, hc⟩
    · cases he
    · exact .inl hc
  | notify control =>
    rcases getElem?_of_set hc with ⟨-, he⟩ | ⟨-, hc⟩
    · cases he
    · exact .inl hc
  | _ => exact .inl hc

/-- The session of a socket is about to enter a conversation because it was before or because the database has just
said that it may. -/
lemma step_entering {σ : Session} {r : Uuid} (hs : s.step allowed lab = some s') (hσ : s'.sessions k = some σ)
    (hp : σ.phase = .entering r conversationId) :
    s.sessions k = some σ ∨ isAuthorized s.db σ.userId conversationId = true ∧ s'.hub = s.hub := by
  cases moves_of_step allowed hs with
  | @connect userId id version hub fresh registered =>
    by_cases hk : k = id
    · subst hk
      simp only [Function.update_self, Option.some.injEq] at hσ
      subst hσ
      cases hp
    · simp only [Function.update_of_ne hk] at hσ
      exact .inl hσ
  | @session j τ act s' hτ run =>
    obtain ⟨-, -, -, -, hother, phase, hj⟩ := stepSession_frame run
    by_cases hk : k = j
    · subst hk
      rw [hj] at hσ
      obtain rfl := Option.some.inj hσ
      simp only at hp
      subst hp
      have ha := stepSession_entering run hj
      exact .inr ha
    · rw [(hother k hk).1] at hσ
      exact .inl hσ
  | _ => exact .inl hσ

/-- A socket heads for a conversation after a step because it did before, or because the database has just said that
its user may. -/
lemma heads_of_step (hi : s.Sound) (hs : s.step allowed lab = some s') (hh : Heads s' userId k conversationId) :
    Heads s userId k conversationId ∨ isAuthorized s.db userId conversationId = true := by
  obtain ⟨hreg, hh⟩ := hh
  obtain ⟨u, id, version, -, hid, hr, hsess, -, -⟩ | ⟨hc, -, -, -⟩ := step_registry hs
  · obtain ⟨-, -, he⟩ := Hub.registerSocket_ok hr
    rw [he, RegistryState.registered_insertSocket] at hreg
    rw [he, RegistryState.subscribed_insertSocket] at hh
    rcases hh with ⟨hk, hsub⟩ | ⟨σ, r, hσ, hu, hp⟩
    · rw [if_neg hk] at hreg
      exact .inl ⟨hreg, .inl hsub⟩
    · rw [hsess] at hσ
      by_cases hk : k = id
      · subst hk
        rw [Function.update_self] at hσ
        obtain rfl := Option.some.inj hσ
        cases hp
      · rw [if_neg hk] at hreg
        rw [Function.update_of_ne hk] at hσ
        exact .inl ⟨hreg, .inr ⟨σ, r, hσ, hu, hp⟩⟩
  · have hreg' := hc.registered k userId hreg
    rcases hh with hsub | ⟨σ, r, hσ, hu, hp⟩
    · rcases hc.subscribed k conversationId hsub with hsub | ⟨σ, r, hσ, hp⟩
      · exact .inl ⟨hreg', .inl hsub⟩
      · obtain ⟨τ, hτ, hu⟩ := hi.users k userId hreg'
        rw [hσ] at hτ
        obtain rfl := Option.some.inj hτ
        exact .inl ⟨hreg', .inr ⟨σ, r, hσ, hu, hp⟩⟩
    · rcases step_entering hs hσ hp with hσ | ⟨ha, -⟩
      · exact .inl ⟨hreg', .inr ⟨σ, r, hσ, hu, hp⟩⟩
      · rw [hu] at ha
        exact .inr ha

/-- What the controls promise along a run whose evictions overtake no subscribe frame. -/
structure Guarded (l : History) (s : Node) : Prop where
  sound : s.Sound
  rooms : ∀ u k c, Heads s u k c → ∃ g, roomGroup s.db c = some g
  fetched : ∀ c g u ids, s.controls[c]? = some (.fetched (.membershipRevoked g u) ids) → Fetched l s c g u →
    ∀ k conversationId, Heads s u k conversationId → roomGroup s.db conversationId = some g → conversationId ∈ ids
  applied : ∀ g u, Applied l s g u → ∀ k conversationId, Heads s u k conversationId →
    roomGroup s.db conversationId ≠ some g

lemma not_heads_init (h : Init s) : ¬Heads s userId k conversationId := by
  obtain ⟨db, rfl⟩ := h
  rintro ⟨⟨socket, hk, -⟩, -⟩
  cases hk

lemma guarded_init (h : Init s) : Guarded [] s :=
  ⟨sound_init h, fun _ _ _ hh => absurd hh (not_heads_init h), fun _ _ _ _ _ _ _ _ hh => absurd hh (not_heads_init h),
    fun _ _ _ _ _ hh => absurd hh (not_heads_init h)⟩

/-- A socket that heads for a conversation of a group which its user has left did so before the step, and the
conversation was one of the group. -/
lemma Guarded.heads_before (h : Guarded l s) (hs : s.step allowed lab = some s') (hrooms : KeepsRooms s lab)
    (habsent : isMember s.db groupId userId = false) (hh : Heads s' userId k conversationId)
    (hg : roomGroup s'.db conversationId = some groupId) :
    Heads s userId k conversationId ∧ roomGroup s.db conversationId = some groupId := by
  rcases heads_of_step h.sound hs hh with hh | ha
  · obtain ⟨g, hg'⟩ := h.rooms userId k conversationId hh
    have := step_rooms hs hrooms _ _ hg'
    rw [hg] at this
    obtain rfl := Option.some.inj this
    exact ⟨hh, hg'⟩
  · obtain ⟨g, hg', hm⟩ := isMember_of_authorized ha
    have := step_rooms hs hrooms _ _ hg'
    rw [hg] at this
    obtain rfl := Option.some.inj this
    rw [habsent] at hm
    cases hm

/-- The control that evicts the user leaves none of the user's sockets on its way to a conversation it has read. -/
lemma evict_targets {c : Nat} {order : List SocketId} {ids : List Uuid} (hi : s.Sound)
    (hs : s.step allowed (.evict c order) = some s')
    (hc : s.controls[c]? = some (.fetched (.membershipRevoked groupId userId) ids))
    (hover : NotOvertaken s (.evict c order)) (hh : Heads s userId k conversationId) (hids : conversationId ∈ ids) :
    ¬Heads s' userId k conversationId := by
  simp only [step, hc] at hs
  split_ifs at hs with hv
  cases hs
  have horder : k ∈ order := by
    rcases hh.2 with hsub | ⟨σ, r, hσ, hu, hp⟩
    · rw [← List.mem_toFinset, hv.2]
      exact hi.agree.mem_followersOf.mpr ⟨hh.1, conversationId, hids, hsub⟩
    · obtain ⟨socket, hk, -⟩ := hh.1
      exact hover groupId userId ids hc k σ r conversationId hσ hu hp hids (by simp [hk])
  intro hh'
  exact (RegistryState.registered_removeAll.mp hh'.1).1 horder

lemma Guarded.step (h : Guarded l s) (hcond : KeepsRooms s lab ∧ NotOvertaken s lab)
    (hs : s.step allowed lab = some s') : Guarded ((s, lab) :: l) s' := by
  refine ⟨h.sound.step hs, fun u k c hh => ?_, fun c g u ids hc hf k conversationId hh hg => ?_,
    fun g u ha k conversationId hh hg => ?_⟩
  · rcases heads_of_step h.sound hs hh with hh | ha
    · obtain ⟨g, hg⟩ := h.rooms u k c hh
      exact ⟨g, step_rooms hs hcond.1 _ _ hg⟩
    · obtain ⟨g, hg, -⟩ := isMember_of_authorized ha
      exact ⟨g, step_rooms hs hcond.1 _ _ hg⟩
  · obtain ⟨habsent, hf⟩ := hf.before
    obtain ⟨hh', hg'⟩ := h.heads_before hs hcond.1 habsent hh hg
    rcases step_fetched hs hc with hc | ⟨-, rfl⟩
    · rcases hf with hf | ⟨-, hlen⟩
      · exact h.fetched c g u ids hc hf k conversationId hh' hg'
      · rw [List.getElem?_eq_none hlen.le] at hc
        cases hc
    · exact mem_conversationIds.mpr hg'
  · rcases ha.before with ha' | ⟨c, order, ids, rfl, hc, hf⟩
    · obtain ⟨hh', hg'⟩ := h.heads_before hs hcond.1 ha'.absent hh hg
      exact h.applied g u ha' k conversationId hh' hg'
    · have habsent : isMember s.db g u = false := by
        obtain ⟨_, _, _, _, _, _, hf⟩ := hf
        exact hf.2
      obtain ⟨hh', hg'⟩ := h.heads_before hs hcond.1 habsent hh hg
      exact evict_targets h.sound hs hc hcond.2 hh' (h.fetched c g u ids hc hf k conversationId hh' hg') hh

/-- The runs in which rooms stay and no eviction overtakes a subscribe frame that has been authorized before it. -/
abbrev RunsNotOvertaken (allowed : String → String → Bool) :=
  RunWhere Init (step allowed) fun _ s lab => KeepsRooms s lab ∧ NotOvertaken s lab

/-- In every run whose evictions overtake no authorized subscribe frame: once a `membership_revoked` control has been
applied, and while the user has not become a member again, no registered socket of the user follows a conversation of
the group. -/
theorem revoked_user_follows_nothing (hr : RunsNotOvertaken allowed l s) (ha : Applied l s groupId userId)
    (hreg : s.hub.inner.Registered k userId) (hsub : s.hub.inner.Subscribed k conversationId) :
    roomGroup s.db conversationId ≠ some groupId := by
  have hg : Guarded l s := by
    refine RunWhere.invariant ?_ ?_ hr
    · intro s hs
      exact guarded_init hs
    · intro l s lab s' _ hg hcond hs
      exact hg.step hcond hs
  exact hg.applied groupId userId ha k conversationId ⟨hreg, .inl hsub⟩

end Steps

section Overtaken

/-- The member of `Delivery.roomOfOne` has left. -/
def roomOfNone : Store Row :=
  Delivery.roomOfOne.set ⟨.memberships 3, some { groupId := 5, userId := 1, role := .owner, deletedAt := some 1 }⟩

/-- The socket 10 of the user 1 asks to follow the room 7 and is told that it may. -/
def askToFollow : List NodeLabel :=
  [.connect 1 10 "2", .session 10 .pollShutdown, .session 10 (.pollTimer false), .session 10 (.pollTimer false),
    .session 10 .pollEvictions, .session 10 (.pollReceiver (some (.text (some (.subscribe 0 7))))),
    .session 10 (.authorize true)]

/-- A step that neither commits nor evicts. -/
def quiet : NodeLabel → Bool
  | .connect _ _ _ | .session _ _ => true
  | _ => false

lemma quiet_spec {s : Node} {lab : NodeLabel} (h : quiet lab = true) : KeepsRooms s lab ∧ NotOvertaken s lab := by
  cases lab <;> first
    | exact ⟨trivial, trivial⟩
    | cases h

def allowAll : String → String → Bool := fun _ _ => true

def told : Node := (execWhere (step allowAll) (fun _ => quiet) { db := Delivery.roomOfOne } askToFollow).get (by decide)
def left : Node := (told.step allowAll (.publishing (.commit roomOfNone))).get (by decide)
def read : Node := (left.step allowAll (.apply (.membershipRevoked 5 1))).get (by decide)
def evictedNode : Node := (read.step allowAll (.evict 0 [])).get (by decide)
def entered : Node := (evictedNode.step allowAll (.session 10 .enter)).get (by decide)

lemma step_told : told.step allowAll (.publishing (.commit roomOfNone)) = some left := (Option.some_get _).symm
lemma step_left : left.step allowAll (.apply (.membershipRevoked 5 1)) = some read := (Option.some_get _).symm
lemma step_read : read.step allowAll (.evict 0 []) = some evictedNode := (Option.some_get _).symm
lemma step_evicted : evictedNode.step allowAll (.session 10 .enter) = some entered := (Option.some_get _).symm

lemma roomsStay_left : RoomsStay told.db roomOfNone := by
  have hdb : told.db = Delivery.roomOfOne := rfl
  intro c g h
  rw [← h, hdb]
  simp only [roomGroup, roomOfNone]
  rw [Store.get_set_mk_of_ne _ _ (by simp)]

lemma runs_told : RunWhere Init (step allowAll) (fun _ s lab => KeepsRooms s lab)
    (history (step allowAll) { db := Delivery.roomOfOne } askToFollow ++ []) told :=
  RunWhere.execWhere (fun _ _ _ h => (quiet_spec h).1) (.start ⟨_, rfl⟩) (Option.some_get _).symm

/-- The answer to a subscribe frame is overtaken by the revocation and its eviction: the frame enters afterwards. -/
theorem revoked_user_follows_overtaken :
    ¬∀ (allowed : String → String → Bool) (l : History) (s : Node) (groupId userId k conversationId : Uuid),
      RunWhere Init (step allowed) (fun _ s lab => KeepsRooms s lab) l s → Applied l s groupId userId →
      s.hub.inner.Registered k userId → s.hub.inner.Subscribed k conversationId →
      roomGroup s.db conversationId ≠ some groupId := by
  intro h
  have hr₁ := runs_told.step (NodeLabel.publishing (.commit roomOfNone)) roomsStay_left step_told
  have hr₂ := hr₁.step (NodeLabel.apply (.membershipRevoked 5 1)) trivial step_left
  have hr₃ := hr₂.step (NodeLabel.evict 0 []) trivial step_read
  have hr₄ := hr₃.step (NodeLabel.session 10 .enter) trivial step_evicted
  refine h allowAll _ entered 5 1 10 7 hr₄ ?_ ?_ ?_ (by decide)
  · refine ⟨[_], read, 0, [], [7], _, rfl, rfl, ⟨[], left, _, rfl, rfl, rfl, List.forall_mem_nil _, rfl⟩, ?_, rfl⟩
    intro e he
    obtain rfl := List.mem_singleton.mp he
    rfl
  · exact ⟨⟨1, {7}⟩, rfl, rfl⟩
  · exact ⟨⟨1, {7}⟩, rfl, Finset.mem_singleton_self 7⟩

/-- The user 1 has left the group 5 and is a member of the group 6 with the room 8. -/
def otherRoom : Store Row :=
  roomOfNone.apply [
    ⟨.groups 6, some { name := "h", ownerId := 1 }⟩,
    ⟨.memberships 4, some { groupId := 6, userId := 1, role := .owner }⟩,
    ⟨.chatrooms 8, some { groupId := 6, type := .main, topicId := none }⟩]

/-- After the control for the group 5 has been applied, the user follows the room 8. -/
def followOther : List NodeLabel :=
  [.connect 1 11 "2", .session 11 .pollShutdown, .session 11 (.pollTimer false), .session 11 (.pollTimer false),
    .session 11 .pollEvictions, .session 11 (.pollReceiver (some (.text (some (.subscribe 0 8))))),
    .session 11 (.authorize true), .session 11 .enter]

def controlRead : Node := { db := otherRoom, controls := [.fetched (.membershipRevoked 5 1) [7]] }
def controlApplied : Node := (controlRead.step allowAll (.evict 0 [])).get (by decide)
def followsOther : Node := (execWhere (step allowAll) (fun _ => quiet) controlApplied followOther).get (by decide)

theorem revoked_user_follows_nothing_elsewhere :
    ∃ l, RunsNotOvertaken allowAll l followsOther ∧ Applied l followsOther 5 1 ∧
      followsOther.hub.inner.Registered 11 1 ∧ followsOther.hub.inner.Subscribed 11 8 ∧
      roomGroup followsOther.db 8 ≠ some 5 := by
  have hr₁ : RunsNotOvertaken allowAll [({ db := otherRoom }, .apply (.membershipRevoked 5 1))] controlRead :=
    .step _ (.start ⟨otherRoom, rfl⟩) ⟨trivial, trivial⟩ rfl
  have hover : NotOvertaken controlRead (.evict 0 []) := by
    intro _ _ _ _ k σ _ _ hσ
    cases hσ
  have hr₂ : RunsNotOvertaken allowAll [(controlRead, .evict 0 []),
      ({ db := otherRoom }, .apply (.membershipRevoked 5 1))] controlApplied :=
    .step _ hr₁ ⟨trivial, hover⟩ (Option.some_get _).symm
  have hex : execWhere (step allowAll) (fun _ => quiet) controlApplied followOther = some followsOther :=
    (Option.some_get _).symm
  have hr₃ : RunsNotOvertaken allowAll (history (step allowAll) controlApplied followOther ++ _) followsOther :=
    RunWhere.execWhere (fun _ _ _ h => quiet_spec h) hr₂ hex
  have ha : Applied (history (step allowAll) controlApplied followOther ++ [(controlRead, .evict 0 []),
      ({ db := otherRoom }, .apply (.membershipRevoked 5 1))]) followsOther 5 1 :=
    ⟨_, controlRead, 0, [], [7], _, rfl, rfl, ⟨[], _, [], rfl, rfl, by decide, List.forall_mem_nil _,
      by decide⟩, by decide, by decide⟩
  have hreg : followsOther.hub.inner.Registered 11 1 := ⟨⟨1, {8}⟩, rfl, rfl⟩
  have hsub : followsOther.hub.inner.Subscribed 11 8 := ⟨⟨1, {8}⟩, rfl, Finset.mem_singleton_self 8⟩
  exact ⟨_, hr₃, ha, hreg, hsub, revoked_user_follows_nothing hr₃ ha hreg hsub⟩

end Overtaken

end Node

end JamyeServer.Realtime
