import JamyeServer.Realtime.Revocation

/-!
# The close frames of evicted sockets

A control drops the outbound sender of a socket when it removes the socket, and sends the notice afterwards. The task
of the socket learns of its eviction from whichever it polls first, or from a registry that no longer knows it.
-/

namespace JamyeServer.Realtime

open Postgres ReadCommitted Transition

/-- The session ends for a reason of its own. -/
def Cause.another : Cause → Bool
  | .shutdown | .expiry | .heartbeat | .peerClose | .failedWrite => true
  | _ => false

/-- The task will poll its eviction channel before it can learn of its removal in another way, or it ends anyhow. -/
def Phase.awaits : Phase → Bool
  | .polling .receiver | .polling .outbound | .authorizing _ _ | .entering _ _ | .leaving _ _ => false
  | .polling _ | .writing _ | .over _ | .gone _ => true
  | .cleaning ending => ending.cause.another

/-- The session of a socket that was evicted for the reason is well on its way to tell it, or ends for another one. -/
def Phase.Tells (reason : RealtimeEvictionReason) : Phase → Prop
  | .over ending | .gone ending =>
    ending.cause.another = true ∨ ending.close = some (closeMembershipRequired, reason.asStr)
  | phase => phase.awaits = true

namespace Node

/-- A removal finds the task where it will poll its eviction channel next, and the task does not poll the channel
between its removal and the notice. -/
def Undisturbed (s : Node) : NodeLabel → Prop
  | .evict _ order => ∀ k ∈ order, ∀ σ, s.sessions k = some σ → σ.phase.awaits = true
  | .session k .pollEvictions => ∀ control ∈ s.controls, control.holds k = false
  | _ => True

/-- The socket has left the registry for good. -/
def Left (s : Node) (k : SocketId) : Prop := s.hub.inner.sockets k = none ∧ k ∈ s.hub.issued

/-- A control still has to notify the socket. -/
def Holds (s : Node) (c : Nat) (reason : RealtimeEvictionReason) (k : SocketId) : Prop :=
  ∃ senders, s.controls[c]? = some (.notifying reason senders) ∧ k ∈ senders

structure Notices (s : Node) : Prop where
  sessions_drawn : ∀ k σ, s.sessions k = some σ → k ∈ s.hub.issued
  evicted_left : ∀ k reason, s.evicted k = some reason → s.Left k
  held : ∀ c reason k, s.Holds c reason k →
    s.Left k ∧ s.evictions k = none ∧ ∀ other, s.evicted k = some other → other = reason
  once : ∀ c reason c' reason' k, s.Holds c reason k → s.Holds c' reason' k → c' = c
  nodup : ∀ (c : Nat) reason (senders : List SocketId), s.controls[c]? = some (.notifying reason senders) → senders.Nodup
  waiting_left : ∀ k reason, s.evictions k = some reason → s.Left k
  closed_gone : ∀ k ∈ s.closed, s.Left k ∧ ∃ σ ending, s.sessions k = some σ ∧ σ.phase = .gone ending
  tells : ∀ k reason, s.evicted k = some reason → ∃ σ, s.sessions k = some σ ∧ σ.phase.Tells reason ∧
    (σ.phase.inLoop = true → (∃ c, s.Holds c reason k) ∨ s.evictions k = some reason)

section Steps

variable {allowed : String → String → Bool} {s s' : Node} {lab : NodeLabel} {k : SocketId} {σ : Session}
  {act : SessionAct} {reason : RealtimeEvictionReason}

lemma Left.step (h : s.Left k) (hs : s.step allowed lab = some s') : s'.Left k := by
  obtain ⟨u, id, version, -, hid, hr, -⟩ | ⟨hc, hissued, -⟩ := step_registry hs
  · obtain ⟨-, -, he⟩ := Hub.registerSocket_ok hr
    have hk : k ≠ id := by
      rintro rfl
      exact hid h.2
    rw [Left, he]
    exact ⟨by simpa [RegistryState.insertSocket, hk] using h.1, Finset.mem_insert_of_mem h.2⟩
  · refine ⟨?_, hissued ▸ h.2⟩
    by_contra hne
    obtain ⟨socket, hk⟩ := Option.ne_none_iff_exists'.mp hne
    obtain ⟨old, hold, -⟩ := hc.registered k socket.userId ⟨socket, hk, rfl⟩
    rw [h.1] at hold
    cases hold

/-- A step of one task takes at most its own notice and closes at most its own receivers, when it ends. -/
lemma stepSession_channels (hs : s.stepSession allowed k σ act = some s') :
    (s'.evictions k = s.evictions k ∨ s'.evictions k = none) ∧
    (s'.closed = s.closed ∨ s'.closed = insert k s.closed ∧ s'.hub.inner.sockets k = none ∧
      ∃ ending, s'.sessions k = some { σ with phase := .gone ending }) := by
  unfold stepSession at hs
  split at hs <;> try split at hs
  all_goals cases hs
  all_goals refine ⟨?_, ?_⟩
  all_goals first
    | exact .inl rfl
    | exact .inr (Function.update_self _ _ _)
    | exact .inr ⟨rfl, by simp [setPhase, RegistryState.sockets_removeSocket], _, Function.update_self _ _ _⟩

lemma stepSession_gone {ending : Ending} (hp : σ.phase = .gone ending) : s.stepSession allowed k σ act = none := by
  unfold stepSession
  rw [hp]
  split <;> simp_all

lemma phase_of_setPhase {phase phase' : Phase} (h : (s.setPhase k σ phase).sessions k = some { σ with phase := phase' }) :
    phase' = phase := by
  simp only [setPhase, Function.update_self, Option.some.injEq, Session.mk.injEq, true_and] at h
  exact h.symm

/-- A task that tells the reason goes on to tell it, if it does not poll its channel too early. -/
lemma stepSession_tells {phase : Phase} (hs : s.stepSession allowed k σ act = some s') (ht : σ.phase.Tells reason)
    (hn : σ.phase.inLoop = true → (∃ c, s.Holds c reason k) ∨ s.evictions k = some reason)
    (hu : Undisturbed s (.session k act)) (hp : s'.sessions k = some { σ with phase := phase }) :
    phase.Tells reason ∧ (phase.inLoop = true → s'.evictions k = s.evictions k ∧ σ.phase.inLoop = true) := by
  cases hph : σ.phase with
  | polling branch =>
    rw [hph] at ht hn
    cases branch with
    | shutdown =>
      cases act <;> simp only [stepSession, hph, reduceCtorEq] at hs
      cases hs
      cases phase_of_setPhase hp
      split_ifs <;> exact ⟨rfl, fun _ => ⟨rfl, rfl⟩⟩
    | expiry =>
      cases act <;> simp only [stepSession, hph, reduceCtorEq] at hs
      cases hs
      cases phase_of_setPhase hp
      split_ifs <;> exact ⟨rfl, fun _ => ⟨rfl, rfl⟩⟩
    | heartbeat =>
      cases act <;> simp only [stepSession, hph, reduceCtorEq] at hs
      cases hs
      cases phase_of_setPhase hp
      split_ifs <;> exact ⟨rfl, fun _ => ⟨rfl, rfl⟩⟩
    | evictions =>
      cases act <;> simp only [stepSession, hph, reduceCtorEq] at hs
      rcases hn rfl with ⟨c, senders, hc, hk⟩ | hn
      · have := hu _ (List.mem_of_getElem? hc)
        simp [Control.holds, hk] at this
      · simp only [hn] at hs
        cases hs
        cases phase_of_setPhase hp
        exact ⟨.inr rfl, fun h => by cases h⟩
    | receiver => cases ht
    | outbound => cases ht
  | writing message =>
    cases act <;> simp only [stepSession, hph, reduceCtorEq] at hs
    cases hs
    cases phase_of_setPhase hp
    split_ifs
    · exact ⟨rfl, fun _ => ⟨rfl, rfl⟩⟩
    · exact ⟨.inl rfl, fun h => by cases h⟩
  | cleaning ending =>
    rw [hph] at ht
    cases act <;> simp only [stepSession, hph, reduceCtorEq] at hs
    cases hs
    cases phase_of_setPhase hp
    exact ⟨.inl ht, fun h => by cases h⟩
  | «over» ending =>
    rw [hph] at ht
    cases act <;> simp only [stepSession, hph, reduceCtorEq] at hs
    cases hs
    cases phase_of_setPhase hp
    exact ⟨ht, fun h => by cases h⟩
  | gone ending => cases (stepSession_gone hph).symm.trans hs
  | authorizing r c =>
    rw [hph] at ht
    cases ht
  | entering r c =>
    rw [hph] at ht
    cases ht
  | leaving r c =>
    rw [hph] at ht
    cases ht

lemma notices_init (h : Init s) : s.Notices := by
  obtain ⟨db, rfl⟩ := h
  have hno : ∀ c reason k, ¬Holds ({ db := db } : Node) c reason k := by
    rintro c reason k ⟨senders, hc, -⟩
    cases hc
  refine ⟨?_, ?_, fun c r k hh => absurd hh (hno c r k), fun c r _ _ k hh => absurd hh (hno c r k), ?_, ?_, ?_, ?_⟩
  · intro k σ h
    cases h
  · intro k r h
    cases h
  · intro c r senders h
    cases h
  · intro k r h
    cases h
  · intro k hk
    exact absurd hk (Finset.notMem_empty k)
  · intro k r h
    cases h

/-- A step that leaves the channels, the evicted sockets and their sessions alone. -/
lemma Notices.transfer (h : s.Notices) (hleft : ∀ k, s.Left k → s'.Left k)
    (hholds : ∀ c reason k, s'.Holds c reason k ↔ s.Holds c reason k)
    (hnodup : ∀ (c : Nat) reason (senders : List SocketId), s'.controls[c]? = some (.notifying reason senders) →
      senders.Nodup)
    (hevicted : s'.evicted = s.evicted) (hevictions : s'.evictions = s.evictions) (hclosed : s'.closed = s.closed)
    (hsessions : ∀ k, s.Left k → s'.sessions k = s.sessions k)
    (hdrawn : ∀ k σ, s'.sessions k = some σ → k ∈ s'.hub.issued) : s'.Notices := by
  refine ⟨hdrawn, fun k r hk => ?_, fun c r k hk => ?_, fun c r c' r' k hk hk' => ?_, hnodup, fun k r hk => ?_,
    fun k hk => ?_, fun k r hk => ?_⟩
  · rw [hevicted] at hk
    exact hleft k (h.evicted_left k r hk)
  · obtain ⟨hl, hn, ho⟩ := h.held c r k ((hholds c r k).mp hk)
    rw [hevicted, hevictions]
    exact ⟨hleft k hl, hn, ho⟩
  · exact h.once c r c' r' k ((hholds c r k).mp hk) ((hholds c' r' k).mp hk')
  · rw [hevictions] at hk
    exact hleft k (h.waiting_left k r hk)
  · rw [hclosed] at hk
    obtain ⟨hl, hg⟩ := h.closed_gone k hk
    rw [hsessions k hl]
    exact ⟨hleft k hl, hg⟩
  · rw [hevicted] at hk
    obtain ⟨σ, hσ, ht, hn⟩ := h.tells k r hk
    refine ⟨σ, by rw [hsessions k (h.evicted_left k r hk), hσ], ht, fun hl => ?_⟩
    rcases hn hl with ⟨c, hc⟩ | hn
    · exact .inl ⟨c, (hholds c r k).mpr hc⟩
    · exact .inr (by rw [hevictions, hn])

lemma Notices.stepSession (h : s.Notices) (hσ : s.sessions k = some σ) (hs : s.stepSession allowed k σ act = some s')
    (hleft : ∀ j, s.Left j → s'.Left j) (hu : Undisturbed s (.session k act)) : s'.Notices := by
  obtain ⟨-, hcontrols, hevicted, -, hother, phase, hk⟩ := stepSession_frame hs
  obtain ⟨hnotice, hclosed⟩ := stepSession_channels hs
  have hissued := stepSession_issued hs
  have hholds : ∀ c r j, s'.Holds c r j ↔ s.Holds c r j := by
    intro c r j
    rw [Holds, hcontrols]
    exact Iff.rfl
  have hless : ∀ j r, s'.evictions j = some r → s.evictions j = some r := by
    intro j r hj
    by_cases hjk : j = k
    · subst hjk
      rcases hnotice with he | he
      · rwa [he] at hj
      · rw [he] at hj
        cases hj
    · rwa [(hother j hjk).2] at hj
  have hnotGone : ∀ j ∈ s.closed, j ≠ k := by
    rintro j hj rfl
    obtain ⟨-, τ, ending, hτ, hp⟩ := h.closed_gone j hj
    rw [hσ] at hτ
    obtain rfl := Option.some.inj hτ
    rw [stepSession_gone hp] at hs
    cases hs
  refine ⟨fun j τ hj => ?_, fun j r hj => ?_, fun c r j hj => ?_, fun c r c' r' j hj hj' => ?_,
    fun c r senders hc => h.nodup c r senders (hcontrols ▸ hc), fun j r hj => hleft j (h.waiting_left j r (hless j r hj)),
    fun j hj => ?_, fun j r hj => ?_⟩
  · rw [hissued]
    by_cases hjk : j = k
    · exact hjk ▸ h.sessions_drawn k σ hσ
    · rw [(hother j hjk).1] at hj
      exact h.sessions_drawn j τ hj
  · rw [hevicted] at hj
    exact hleft j (h.evicted_left j r hj)
  · obtain ⟨hl, hn, ho⟩ := h.held c r j ((hholds c r j).mp hj)
    refine ⟨hleft j hl, ?_, by rwa [hevicted]⟩
    by_contra hne
    obtain ⟨r', hr'⟩ := Option.ne_none_iff_exists'.mp hne
    rw [hless j r' hr'] at hn
    cases hn
  · exact h.once c r c' r' j ((hholds c r j).mp hj) ((hholds c' r' j).mp hj')
  · rcases hclosed with he | ⟨he, hnone, ending, hgone⟩
    · rw [he] at hj
      obtain ⟨hl, hg⟩ := h.closed_gone j hj
      rw [(hother j (hnotGone j hj)).1]
      exact ⟨hleft j hl, hg⟩
    · rw [he] at hj
      rcases Finset.mem_insert.mp hj with rfl | hj
      · exact ⟨⟨hnone, hissued ▸ h.sessions_drawn j σ hσ⟩, _, ending, hgone, rfl⟩
      · obtain ⟨hl, hg⟩ := h.closed_gone j hj
        rw [(hother j (hnotGone j hj)).1]
        exact ⟨hleft j hl, hg⟩
  · rw [hevicted] at hj
    obtain ⟨τ, hτ, ht, hn⟩ := h.tells j r hj
    by_cases hjk : j = k
    · subst hjk
      rw [hσ] at hτ
      obtain rfl := Option.some.inj hτ
      obtain ⟨ht', hn'⟩ := stepSession_tells hs ht hn hu hk
      refine ⟨_, hk, ht', fun hl => ?_⟩
      obtain ⟨he, hl'⟩ := hn' hl
      rw [he]
      rcases hn hl' with ⟨c, hc⟩ | hn
      · exact .inl ⟨c, (hholds c r j).mpr hc⟩
      · exact .inr hn
    · rw [(hother j hjk).1, (hother j hjk).2]
      refine ⟨τ, hτ, ht, fun hl => ?_⟩
      rcases hn hl with ⟨c, hc⟩ | hn
      · exact .inl ⟨c, (hholds c r j).mpr hc⟩
      · exact .inr hn

/-- The senders that a control takes out of the registry, each once. -/
lemma nodup_removeAll {r : RegistryState} {order : List SocketId} (h : order.Nodup) : (r.removeAll order).1.Nodup := by
  induction order generalizing r with
  | nil => exact List.nodup_nil
  | cons i ids ih =>
    obtain ⟨hi, hids⟩ := List.nodup_cons.mp h
    cases hs : r.sockets i with
    | none =>
      have he : (r.removeAll (i :: ids)).1 = (r.removeAll ids).1 := by
        simp [RegistryState.removeAll, RegistryState.removeSocket, hs]
      rw [he]
      exact ih hids
    | some socket =>
      have he : (r.removeAll (i :: ids)).1 = i :: ((r.removeSocket i).2.removeAll ids).1 := by
        simp [RegistryState.removeAll, RegistryState.removeSocket, hs]
      rw [he]
      exact List.nodup_cons.mpr ⟨fun hm => hi (RegistryState.mem_removeAll.mp hm).1, ih hids⟩

lemma running_iff : s.running k = true ↔ ∃ σ, s.sessions k = some σ ∧ σ.phase.inLoop = true := by
  rw [running, Option.any_eq_true]

lemma tells_of_awaits {phase : Phase} (ha : phase.awaits = true) (hl : phase.inLoop = true) : phase.Tells reason := by
  cases phase <;> first
    | exact ha
    | cases hl

/-- Taking the sockets out of the registry leaves each of them with a notice to come. -/
lemma Notices.evict {c : Nat} {order : List SocketId} (h : s.Notices) (hsound : s.Sound)
    (hs : s.step allowed (.evict c order) = some s') (hleft : ∀ j, s.Left j → s'.Left j)
    (hu : Undisturbed s (.evict c order)) : s'.Notices := by
  simp only [step] at hs
  split at hs
  case h_2 => cases hs
  next intent ids hc =>
  split_ifs at hs with hv
  cases hs
  have hpresent : ∀ k ∈ (s.hub.inner.removeAll order).1, k ∈ order ∧ ∃ σ, s.sessions k = some σ ∧ ¬s.Left k := by
    intro k hk
    obtain ⟨hk, hne⟩ := RegistryState.mem_removeAll.mp hk
    obtain ⟨socket, hsocket⟩ := Option.ne_none_iff_exists'.mp hne
    obtain ⟨σ, hσ, -⟩ := hsound.users k socket.userId ⟨socket, hsocket, rfl⟩
    exact ⟨hk, σ, hσ, fun hl => hne hl.1⟩
  have hnew : ∀ k ∈ (s.hub.inner.removeAll order).1, s.evicted k = none ∧ s.evictions k = none ∧
      ∀ c r, ¬s.Holds c r k := by
    intro k hk
    obtain ⟨-, σ, hσ, hl⟩ := hpresent k hk
    refine ⟨?_, ?_, fun c r hh => hl (h.held c r k hh).1⟩
    · by_contra hne
      obtain ⟨r, hr⟩ := Option.ne_none_iff_exists'.mp hne
      exact hl (h.evicted_left k r hr)
    · by_contra hne
      obtain ⟨r, hr⟩ := Option.ne_none_iff_exists'.mp hne
      exact hl (h.waiting_left k r hr)
  have hgone : ∀ k ∈ (s.hub.inner.removeAll order).1,
      (s.hub.inner.removeAll order).2.sockets k = none ∧ k ∈ s.hub.issued := by
    intro k hk
    obtain ⟨hk', σ, hσ, -⟩ := hpresent k hk
    exact ⟨by simp [RegistryState.sockets_removeAll, hk'], h.sessions_drawn k σ hσ⟩
  have hclt : c < s.controls.length := (List.getElem?_eq_some_iff.mp hc).1
  -- A control holds a sender after the step if it is this one with a socket it has removed, or another as before.
  have hholds : ∀ c' r k, (∃ senders, (s.controls.set c (.notifying intent.reason
      (s.hub.inner.removeAll order).1))[c']? = some (.notifying r senders) ∧ k ∈ senders) →
      (c' = c ∧ r = intent.reason ∧ k ∈ (s.hub.inner.removeAll order).1) ∨ (c' ≠ c ∧ s.Holds c' r k) := by
    rintro c' r k ⟨senders, hc', hk⟩
    rcases getElem?_of_set hc' with ⟨rfl, he⟩ | ⟨hne, hc'⟩
    · cases he
      exact .inl ⟨rfl, rfl, hk⟩
    · exact .inr ⟨hne, senders, hc', hk⟩
  refine ⟨h.sessions_drawn, fun k r hk => ?_, fun c' r k hk => ?_, fun c₁ r₁ c₂ r₂ k h₁ h₂ => ?_,
    fun c' r senders hc' => ?_, fun k r hk => hleft k (h.waiting_left k r hk), fun k hk => ?_, fun k r hk => ?_⟩
  · by_cases hrem : k ∈ (s.hub.inner.removeAll order).1
    · exact hgone k hrem
    · refine hleft k (h.evicted_left k r ?_)
      simpa [hrem] using hk
  · rcases hholds c' r k hk with ⟨rfl, rfl, hrem⟩ | ⟨-, hk⟩
    · refine ⟨hgone k hrem, (hnew k hrem).2.1, fun other ho => ?_⟩
      by_cases hrun : s.running k = true
      · simp only [hrem, hrun, and_self, if_true, Option.some.injEq] at ho
        exact ho.symm
      · simp only [hrun, Bool.false_eq_true, and_false, if_false, (hnew k hrem).1] at ho
        cases ho
    · obtain ⟨hl, hn, ho⟩ := h.held c' r k hk
      refine ⟨hleft k hl, hn, fun other hother => ho other ?_⟩
      have hrem : k ∉ (s.hub.inner.removeAll order).1 := fun hrem => (hnew k hrem).2.2 c' r hk
      simpa [hrem] using hother
  · rcases hholds c₁ r₁ k h₁ with ⟨rfl, -, hrem⟩ | ⟨hne₁, h₁⟩
    · rcases hholds c₂ r₂ k h₂ with ⟨rfl, -, -⟩ | ⟨-, h₂⟩
      · rfl
      · exact absurd h₂ ((hnew k hrem).2.2 c₂ r₂)
    · rcases hholds c₂ r₂ k h₂ with ⟨-, -, hrem⟩ | ⟨-, h₂⟩
      · exact absurd h₁ ((hnew k hrem).2.2 c₁ r₁)
      · exact h.once c₁ r₁ c₂ r₂ k h₁ h₂
  · rcases getElem?_of_set hc' with ⟨rfl, he⟩ | ⟨-, hc'⟩
    · cases he
      exact nodup_removeAll hv.1
    · exact h.nodup c' r senders hc'
  · obtain ⟨hl, hg⟩ := h.closed_gone k hk
    exact ⟨hleft k hl, hg⟩
  · by_cases hnow : k ∈ (s.hub.inner.removeAll order).1 ∧ s.running k = true
    · simp only [hnow, and_self, if_true, Option.some.injEq] at hk
      subst hk
      obtain ⟨σ, hσ, hl⟩ := running_iff.mp hnow.2
      refine ⟨σ, hσ, tells_of_awaits (hu k (hpresent k hnow.1).1 σ hσ) hl, fun _ => .inl ⟨c, _, ?_, hnow.1⟩⟩
      exact List.getElem?_set_self hclt
    · simp only [hnow, if_false] at hk
      obtain ⟨σ, hσ, ht, hn⟩ := h.tells k r hk
      refine ⟨σ, hσ, ht, fun hl => ?_⟩
      rcases hn hl with ⟨c', senders, hc', hks⟩ | hn
      · have hne : c' ≠ c := by
          rintro rfl
          rw [hc] at hc'
          cases hc'
        exact .inl ⟨c', senders, by rw [List.getElem?_set_ne (Ne.symm hne)]; exact hc', hks⟩
      · exact .inr hn

/-- The notice finds its channel empty, or nobody there to read it. -/
lemma Notices.notify {c : Nat} (h : s.Notices) (hs : s.step allowed (.notify c) = some s')
    (hleft : ∀ j, s.Left j → s'.Left j) : s'.Notices := by
  simp only [step] at hs
  split at hs
  case h_2 => cases hs
  next reason k rest hc =>
  cases hs
  obtain ⟨hkleft, hempty, hreason⟩ := h.held c reason k ⟨_, hc, List.mem_cons_self⟩
  have hnodup := List.nodup_cons.mp (h.nodup c reason _ hc)
  have hclt : c < s.controls.length := (List.getElem?_eq_some_iff.mp hc).1
  have hholds : ∀ c' r j, (∃ senders, (s.controls.set c (.notifying reason rest))[c']? = some (.notifying r senders) ∧
      j ∈ senders) → s.Holds c' r j ∧ j ≠ k := by
    rintro c' r j ⟨senders, hc', hj⟩
    rcases getElem?_of_set hc' with ⟨rfl, he⟩ | ⟨hne, hc'⟩
    · cases he
      refine ⟨⟨_, hc, List.mem_cons_of_mem _ hj⟩, ?_⟩
      rintro rfl
      exact hnodup.1 hj
    · refine ⟨⟨senders, hc', hj⟩, ?_⟩
      rintro rfl
      exact hne (h.once c reason c' r j ⟨_, hc, List.mem_cons_self⟩ ⟨senders, hc', hj⟩)
  have hother : ∀ j, j ≠ k → (if k ∈ s.closed ∨ (s.evictions k).isSome then s.evictions
      else Function.update s.evictions k (some reason)) j = s.evictions j := by
    intro j hj
    split_ifs
    · rfl
    · exact Function.update_of_ne hj _ _
  have hself : k ∉ s.closed → (if k ∈ s.closed ∨ (s.evictions k).isSome then s.evictions
      else Function.update s.evictions k (some reason)) k = some reason := by
    intro hk
    simp [hk, hempty]
  refine ⟨h.sessions_drawn, fun j r hj => hleft j (h.evicted_left j r hj), fun c' r j hj => ?_,
    fun c₁ r₁ c₂ r₂ j h₁ h₂ => h.once c₁ r₁ c₂ r₂ j (hholds c₁ r₁ j h₁).1 (hholds c₂ r₂ j h₂).1,
    fun c' r senders hc' => ?_, fun j r hj => ?_, fun j hj => ?_, fun j r hj => ?_⟩
  · obtain ⟨hj, hne⟩ := hholds c' r j hj
    obtain ⟨hl, hn, ho⟩ := h.held c' r j hj
    exact ⟨hleft j hl, (hother j hne).trans hn, ho⟩
  · rcases getElem?_of_set hc' with ⟨rfl, he⟩ | ⟨-, hc'⟩
    · cases he
      exact hnodup.2
    · exact h.nodup c' r senders hc'
  · by_cases hjk : j = k
    · exact hjk ▸ hleft k hkleft
    · exact hleft j (h.waiting_left j r ((hother j hjk).symm.trans hj))
  · obtain ⟨hl, hg⟩ := h.closed_gone j hj
    exact ⟨hleft j hl, hg⟩
  · obtain ⟨σ, hσ, ht, hn⟩ := h.tells j r hj
    refine ⟨σ, hσ, ht, fun hl => ?_⟩
    by_cases hjk : j = k
    · subst hjk
      obtain rfl := hreason r hj
      refine .inr (hself fun hclosed => ?_)
      obtain ⟨-, τ, ending, hτ, hp⟩ := h.closed_gone j hclosed
      rw [hσ] at hτ
      obtain rfl := Option.some.inj hτ
      rw [hp] at hl
      cases hl
    · rcases hn hl with ⟨c', senders, hc', hks⟩ | hn
      · by_cases hcc : c' = c
        · subst hcc
          rw [hc] at hc'
          cases hc'
          rcases List.mem_cons.mp hks with rfl | hks
          · exact absurd rfl hjk
          · exact .inl ⟨c', rest, List.getElem?_set_self hclt, hks⟩
        · exact .inl ⟨c', senders, by rw [List.getElem?_set_ne (Ne.symm hcc)]; exact hc', hks⟩
      · exact .inr ((hother j hjk).trans hn)

lemma Notices.step (h : s.Notices) (hsound : s.Sound) (hu : Undisturbed s lab) (hs : s.step allowed lab = some s') :
    s'.Notices := by
  have hleft : ∀ j, s.Left j → s'.Left j := fun j hj => hj.step hs
  cases moves_of_step allowed hs with
  | refused userId id version => exact h
  | @connect userId id version hub fresh registered =>
    obtain ⟨-, -, rfl⟩ := Hub.registerSocket_ok registered
    refine h.transfer hleft (fun _ _ _ => Iff.rfl) h.nodup rfl rfl rfl (fun k hk => ?_) fun k σ hk => ?_
    · refine Function.update_of_ne ?_ _ _
      rintro rfl
      exact fresh hk.2
    · by_cases hkid : k = id
      · exact hkid ▸ Finset.mem_insert_self _ _
      · simp only [Function.update_of_ne hkid] at hk
        exact Finset.mem_insert_of_mem (h.sessions_drawn k σ hk)
  | session found run => exact h.stepSession found run hleft hu
  | @publishing label d background run =>
    have hissued : d.hub.issued = s.hub.issued := by
      obtain ⟨_, _, _, he, -⟩ | ⟨-, hi, -⟩ := step_registry hs
      · cases he
      · exact hi
    exact h.transfer hleft (fun _ _ _ => Iff.rfl) h.nodup rfl rfl (step_background background run).2.2 (fun _ _ => rfl)
      fun k σ hk => hissued ▸ h.sessions_drawn k σ hk
  | apply intent =>
    refine h.transfer hleft (fun c r k => ⟨?_, ?_⟩) (fun c r senders hc => ?_) rfl rfl rfl (fun _ _ => rfl) h.sessions_drawn
    · rintro ⟨senders, hc, hk⟩
      rcases getElem?_of_snoc hc with ⟨-, he⟩ | hc
      · cases he
      · exact ⟨senders, hc, hk⟩
    · rintro ⟨senders, hc, hk⟩
      refine ⟨senders, ?_, hk⟩
      rw [List.getElem?_append_left (List.getElem?_eq_some_iff.mp hc).1]
      exact hc
    · rcases getElem?_of_snoc hc with ⟨-, he⟩ | hc
      · cases he
      · exact h.nodup c r senders hc
  | evict control visits => exact h.evict hsound hs hleft hu
  | notify control => exact h.notify hs hleft
  | shutdown =>
    cases hs
    exact h.transfer hleft (fun _ _ _ => Iff.rfl) h.nodup rfl rfl rfl (fun _ _ => rfl) h.sessions_drawn

/-- The runs whose evictions disturb no session. -/
abbrev RunsUndisturbed (allowed : String → String → Bool) := RunWhere Init (Node.step allowed) fun _ => Undisturbed

variable {l : History}

lemma runs_notices (hr : RunsUndisturbed allowed l s) : s.Sound ∧ s.Notices := by
  refine RunWhere.invariant (I := fun _ s => s.Sound ∧ s.Notices) ?_ ?_ hr
  · intro s hs
    exact ⟨sound_init hs, notices_init hs⟩
  · intro l s lab s' _ hi hu hs
    exact ⟨hi.1.step hs, hi.2.step hi.1 hu hs⟩

/-- The task of the socket, left to itself, attempts the close frame of the eviction. -/
def EndsTelling (allowed : String → String → Bool) (s : Node) (k : SocketId) (reason : RealtimeEvictionReason) : Prop :=
  ∃ (acts : List SessionAct) (s' : Node), Transition.exec (Node.step allowed) s (acts.map (NodeLabel.session k)) = some s' ∧
    (s'.sessions k).map Session.phase = some (.over ⟨.evicted, some (closeMembershipRequired, reason.asStr)⟩)

lemma EndsTelling.of_step (act : SessionAct) (hσ : s.sessions k = some σ) (hs : s.stepSession allowed k σ act = some s')
    (h : EndsTelling allowed s' k reason) : EndsTelling allowed s k reason := by
  obtain ⟨acts, t, ht, hp⟩ := h
  refine ⟨act :: acts, t, ?_, hp⟩
  simp only [List.map_cons, exec_cons, Node.step, hσ, Option.bind_some, hs]
  exact ht

lemma endsTelling_evictions (hσ : s.sessions k = some σ) (hp : σ.phase = .polling .evictions)
    (hn : s.evictions k = some reason) : EndsTelling allowed s k reason := by
  have hs : ∃ s', s.stepSession allowed k σ .pollEvictions = some s' ∧ (s'.sessions k).map Session.phase =
      some (.over ⟨.evicted, some (closeMembershipRequired, reason.asStr)⟩) := by
    simp only [stepSession, hp, hn]
    exact ⟨_, rfl, by simp [setPhase]⟩
  obtain ⟨s', hs, hover⟩ := hs
  exact .of_step _ hσ hs ⟨[], s', rfl, hover⟩

lemma endsTelling_heartbeat (hσ : s.sessions k = some σ) (hp : σ.phase = .polling .heartbeat)
    (hn : s.evictions k = some reason) : EndsTelling allowed s k reason := by
  have hs : s.stepSession allowed k σ (.pollTimer false) = some (s.setPhase k σ (.polling .evictions)) := by
    simp [stepSession, hp]
  exact .of_step _ hσ hs (endsTelling_evictions (Function.update_self _ _ _) rfl hn)

lemma endsTelling_expiry (hσ : s.sessions k = some σ) (hp : σ.phase = .polling .expiry)
    (hn : s.evictions k = some reason) : EndsTelling allowed s k reason := by
  have hs : s.stepSession allowed k σ (.pollTimer false) = some (s.setPhase k σ (.polling .heartbeat)) := by
    simp [stepSession, hp]
  exact .of_step _ hσ hs (endsTelling_heartbeat (Function.update_self _ _ _) rfl hn)

lemma endsTelling_shutdown (hσ : s.sessions k = some σ) (hp : σ.phase = .polling .shutdown)
    (hn : s.evictions k = some reason) (hd : s.hub.shutdown = false) : EndsTelling allowed s k reason := by
  have hs : s.stepSession allowed k σ .pollShutdown = some (s.setPhase k σ (.polling .expiry)) := by
    simp [stepSession, hp, hd]
  exact .of_step _ hσ hs (endsTelling_expiry (Function.update_self _ _ _) rfl hn)

lemma endsTelling_writing {message : Outgoing} (hσ : s.sessions k = some σ) (hp : σ.phase = .writing message)
    (hn : s.evictions k = some reason) (hd : s.hub.shutdown = false) : EndsTelling allowed s k reason := by
  have hs : s.stepSession allowed k σ (.written true) = some (s.setPhase k σ (.polling .shutdown)) := by
    simp [stepSession, hp]
  exact .of_step _ hσ hs (endsTelling_shutdown (Function.update_self _ _ _) rfl hn hd)

/-- In every run whose evictions disturb no session, a session whose socket was evicted while it ran ends with a close
frame with code 4001 and the reason of the eviction, unless it ends for another reason; and once the notice is sent, it
comes to this by itself when nothing else ends it. -/
theorem evicted_session_tells (hr : RunsUndisturbed allowed l s) (he : s.evicted k = some reason) :
    ∃ σ, s.sessions k = some σ ∧
      (∀ ending, σ.phase = .over ending ∨ σ.phase = .gone ending →
        ending.cause.another = true ∨ ending.close = some (4001, reason.asStr)) ∧
      (σ.phase.inLoop = true → (∀ ending, σ.phase ≠ .cleaning ending) → s.hub.shutdown = false →
        (∀ c r, ¬s.Holds c r k) → EndsTelling allowed s k reason) := by
  obtain ⟨-, hi⟩ := runs_notices hr
  obtain ⟨σ, hσ, ht, hn⟩ := hi.tells k reason he
  refine ⟨σ, hσ, fun ending hp => ?_, fun hl hclean hd hno => ?_⟩
  · rcases hp with hp | hp
    all_goals
      rw [hp] at ht
      exact ht
  · have hn : s.evictions k = some reason := by
      rcases hn hl with ⟨c, hc⟩ | hn
      · exact absurd hc (hno c reason)
      · exact hn
    cases hp : σ.phase with
    | polling branch =>
      cases branch with
      | shutdown => exact endsTelling_shutdown hσ hp hn hd
      | expiry => exact endsTelling_expiry hσ hp hn
      | heartbeat => exact endsTelling_heartbeat hσ hp hn
      | evictions => exact endsTelling_evictions hσ hp hn
      | receiver =>
        rw [hp] at ht
        cases ht
      | outbound =>
        rw [hp] at ht
        cases ht
    | writing message => exact endsTelling_writing hσ hp hn hd
    | cleaning ending => exact absurd hp (hclean ending)
    | «over» ending =>
      rw [hp] at hl
      cases hl
    | gone ending =>
      rw [hp] at hl
      cases hl
    | authorizing r c =>
      rw [hp] at ht
      cases ht
    | entering r c =>
      rw [hp] at ht
      cases ht
    | leaving r c =>
      rw [hp] at ht
      cases ht

end Steps

section Disturbed

/-- The socket 10 follows the room 7 and its task is back at the first branch of the loop. -/
def followRoom : List NodeLabel := askToFollow ++ [.session 10 .enter, .session 10 (.written true)]

/-- The control for the user 1 removes the socket and sends the notice before the task polls again. -/
def evictAndNotify : List NodeLabel :=
  followRoom ++ [.publishing (.commit roomOfNone), .apply (.membershipRevoked 5 1), .evict 0 [10], .notify 0,
    .session 10 .pollShutdown, .session 10 (.pollTimer false), .session 10 (.pollTimer false),
    .session 10 .pollEvictions]

/-- The task polls all its branches after the removal and before the notice. -/
def evictAndPoll : List NodeLabel :=
  followRoom ++ [.publishing (.commit roomOfNone), .apply (.membershipRevoked 5 1), .evict 0 [10],
    .session 10 .pollShutdown, .session 10 (.pollTimer false), .session 10 (.pollTimer false),
    .session 10 .pollEvictions, .session 10 (.pollReceiver none), .session 10 .pollOutbound, .notify 0]

/-- `Undisturbed` as a check. -/
def undisturbed (s : Node) : NodeLabel → Bool
  | .evict _ order => order.all fun k => (s.sessions k).all fun σ => σ.phase.awaits
  | .session k .pollEvictions => s.controls.all fun control => !control.holds k
  | _ => true

lemma undisturbed_spec {s : Node} {lab : NodeLabel} (h : undisturbed s lab = true) : Undisturbed s lab := by
  cases lab with
  | evict c order =>
    simp only [undisturbed, List.all_eq_true] at h
    intro k hk σ hσ
    simpa [hσ] using h k hk
  | session k act =>
    cases act with
    | pollEvictions =>
      simp only [undisturbed, List.all_eq_true, Bool.not_eq_true'] at h
      exact h
    | _ => trivial
  | _ => trivial

def toldNode : Node :=
  (execWhere (step allowAll) undisturbed { db := Delivery.roomOfOne } evictAndNotify).get (by decide)
def cutNode : Node := (Transition.exec (step allowAll) { db := Delivery.roomOfOne } evictAndPoll).get (by decide)

/-- The task finds its eviction channel empty and its outbound channel without senders: it leaves without a word. -/
theorem evicted_session_cut :
    ¬∀ (allowed : String → String → Bool) (l : History) (s : Node) (k : SocketId) (reason : RealtimeEvictionReason)
      (σ : Session) (ending : Ending), Run Init (step allowed) l s → s.evicted k = some reason →
      s.sessions k = some σ → σ.phase = .over ending →
      ending.cause.another = true ∨ ending.close = some (4001, reason.asStr) := by
  intro h
  have hex : Transition.exec (step allowAll) { db := Delivery.roomOfOne } evictAndPoll = some cutNode :=
    (Option.some_get _).symm
  have hr : Run Init (step allowAll) _ cutNode := Run.exec (.start ⟨_, rfl⟩) hex
  have hσ : cutNode.sessions 10 = some ⟨1, "2", .over ⟨.senderGone, none⟩⟩ := by decide
  have := h allowAll _ cutNode 10 .membershipRevoked _ ⟨.senderGone, none⟩ hr (by decide) hσ rfl
  revert this
  decide

theorem evicted_session_tells_revoked :
    ∃ l σ, RunsUndisturbed allowAll l toldNode ∧ toldNode.evicted 10 = some .membershipRevoked ∧
      toldNode.sessions 10 = some σ ∧ σ.phase = .over ⟨.evicted, some (4001, "membership_revoked")⟩ ∧
      ∀ ending, σ.phase = .over ending ∨ σ.phase = .gone ending →
        ending.cause.another = true ∨ ending.close = some (4001, "membership_revoked") := by
  have hex : execWhere (step allowAll) undisturbed { db := Delivery.roomOfOne } evictAndNotify = some toldNode :=
    (Option.some_get _).symm
  have hr : RunsUndisturbed allowAll _ toldNode :=
    RunWhere.execWhere (fun _ _ _ h => undisturbed_spec h) (.start ⟨_, rfl⟩) hex
  have he : toldNode.evicted 10 = some .membershipRevoked := by decide
  obtain ⟨σ, hσ, ht, -⟩ := evicted_session_tells hr he
  have hp : (toldNode.sessions 10).map Session.phase = some (.over ⟨.evicted, some (4001, "membership_revoked")⟩) := by
    decide
  rw [hσ, Option.map_some, Option.some.injEq] at hp
  exact ⟨_, σ, hr, he, hσ, hp, ht⟩

end Disturbed

end Node

end JamyeServer.Realtime
