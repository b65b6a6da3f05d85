import JamyeServer.Installations.Changes
import JamyeServer.Purge.Frames

/-!
# The end of an account

The installations of the account are deleted, and the occurrences of its notifications are closed. None of the statements
meets a unique index.
-/

namespace JamyeServer.Installations

open ReadCommitted Postgres Auth Push AccountDeletion Prog

variable {hashtextextended : String → Nat} {ticks : Time → Time → Bool} {l l' L : Local} {g g' G : Shared} {userId : Uuid}

section Fence

variable {C : Contract (system hashtextextended ticks)} {ids : List Uuid}

lemma keeps_terminalizeOccurrences : (terminalizeOccurrences ids).Keeps C Quiet := by
  unfold terminalizeOccurrences
  split
  · exact keeps_ret
  · refine Keeps.bind (keeps_update fun s j base t r r' a hr hf => ?_) fun _ => keeps_ensure
    split at hf
    · cases hf
      exact OccurrenceStep.close hr (.inr rfl)
    · cases hf

lemma keeps_fenceMembershipRevocation {groupId : Uuid} : (fenceMembershipRevocation groupId userId).Keeps C Quiet := by
  refine keeps_selectFor.bind fun notificationIds => ?_
  unfold fenceNotificationOccurrences
  split
  · exact keeps_ret
  · exact Keeps.bind (keeps_selectFor.bind fun _ => keeps_ret) fun _ => keeps_selectFor.bind fun _ =>
      keeps_terminalizeOccurrences

/-- The occurrences are locked and open. -/
structure Fenced (ids : List Uuid) (l : Local) (G : Shared) : Prop where
  nodup : ids.Nodup
  open_ : ∀ j ∈ ids, (.pushDeliveryIntents j, .update) ∈ l.locks ∧
    ∃ r, (G.db.apply l.writes).get (.pushDeliveryIntents j) = some r ∧ r.deletedAt.isNone && r.status.unfinished

lemma lockLiveOccurrences_fenced {notificationIds : List Uuid}
    (h : Runs C (lockLiveOccurrences notificationIds) l g (.ok ids) l' g' L G) : Fenced ids l' G := by
  constructor
  · unfold lockLiveOccurrences selectFor at h
    obtain ⟨s, l₁, g₁, h₁, h₂⟩ := h.bind
    refine (h₂.lockRows_sublist fun i t r j hf => ?_).nodup ?_
    · dsimp only at hf
      split at hf
      · cases hf
        rfl
      · cases hf
    · exact (List.perm_insertionSort _ _).nodup_iff.mpr (s.nodup_ids ..)
  · intro j hj
    obtain ⟨gs, -, -, hlocked⟩ := h.selectFor nofun
    obtain ⟨i, -, t, r, -, hlock, hget, hf⟩ := hlocked.mem j hj
    split at hf
    swap
    · cases hf
    rename_i hopen
    cases hf
    refine ⟨hlock, r, ?_, ?_⟩
    · rw [hlocked.frame]
      exact hget
    · simp only [unfinishedOf, Bool.and_eq_true] at hopen ⊢
      exact ⟨hopen.1.2, hopen.2⟩

lemma terminalizeOccurrences_not_error {e : PushRepositoryError} (hl : Coherent index l g) (hids : Fenced ids l G) :
    ¬ Runs C (terminalizeOccurrences ids) l g (.error e) l' g' L G := by
  intro h
  unfold terminalizeOccurrences at h
  split at h
  · exact Runs.not_ret_error h
  rcases h.bind_error with h₁ | ⟨as, l₁, g₁, h₁, h₂⟩
  · refine Runs.update_not_error hl (fun s => s.nodup_ids ..) (fun s j t r r' a hf => ?_) h₁
    split at hf
    · cases hf
      exact List.Subset.refl _
    · cases hf
  -- all rows are still there and open, so the count of written rows is the count of the locked ones
  have hrow : ∀ j ∈ ids, ∃ r, (∀ n, g.csn ≤ n → n ≤ G.csn →
      ((G.version n).apply l.writes).get (.pushDeliveryIntents j) = some r) ∧
      (r.deletedAt.isNone && r.status.unfinished) = true := by
    intro j hj
    obtain ⟨hlock, r, hr, hopen⟩ := hids.open_ j hj
    refine ⟨r, fun n hn hn' => ?_, hopen⟩
    rw [← hr]
    refine Store.get_apply_congr ?_
    rw [h₁.evolve.version_locked hlock (by decide) hn hn', ← h₁.evolve.db_locked hlock (by decide)]
  have hmode : LockMode.noKeyUpdate ≠ .keyShare := by decide
  have hlength : as.length = ids.length := by
    unfold Prog.update Prog.change at h₁
    obtain ⟨s, l₂, g₂, h₃, r₃⟩ := h₁.bind
    obtain ⟨is, l₃, g₃, h₄, h₅⟩ := r₃.bind
    obtain ⟨gs, hgs, hgs', rfl, rfl⟩ := h₃.snapshot
    obtain ⟨hp, rfl⟩ := h₄.shuffle
    have hgs₃ : gs.csn ≤ G.csn := ((hgs'.trans h₄.returns.evolve.later).trans h₅.evolve.later).csn_le
    have hmem : ∀ j, j ∈ is ↔ j ∈ ids := by
      intro j
      rw [hp.mem_iff, Store.mem_ids]
      constructor
      · rintro ⟨r, -, hcond⟩
        simp only [Bool.and_eq_true, decide_eq_true_eq] at hcond
        exact hcond.1.1
      · intro hj
        obtain ⟨r, hr, hopen⟩ := hrow j hj
        refine ⟨r, hr _ hgs.csn_le hgs₃, ?_⟩
        rw [Bool.and_assoc, hopen, decide_eq_true hj]
        rfl
    have hnd : is.Nodup := hp.nodup_iff.mpr (Store.nodup_ids ..)
    rw [h₅.changeRows_length Tables.pushDeliveryIntents.key_injective hmode hnd fun j hj => ?_]
    · exact ((List.perm_ext_iff_of_nodup hnd hids.nodup).mpr hmem).length_eq
    · obtain ⟨r, hr, hopen⟩ := hrow j ((hmem j).mp hj)
      refine ⟨r, fun n hn hn' => hr n ?_ hn', fun t => ?_⟩
      · exact Nat.le_trans (h₃.returns.evolve.trans h₄.returns.evolve).later.csn_le hn
      · dsimp only
        rw [if_pos hopen]
        exact Option.some_ne_none _
  rw [hlength] at h₂
  have hfalse := h₂.failsIn (P := fun _ => False) (by unfold ensure; rw [if_pos rfl]; trivial)
  exact hfalse

lemma fenceMembershipRevocation_not_error {groupId : Uuid} {e : PushRepositoryError} (hl : Coherent index l g) :
    ¬ Runs C (fenceMembershipRevocation groupId userId) l g (.error e) l' g' L G := by
  intro h
  unfold fenceMembershipRevocation fenceNotificationOccurrences at h
  rcases h.bind_error with h₁ | ⟨notificationIds, l₁, g₁, h₁, r₁⟩
  · exact (h₁.failsIn (P := fun _ => False) failsIn_selectFor).elim
  split at r₁
  · exact Runs.not_ret_error r₁
  rcases r₁.bind_error with h₂ | ⟨_, l₂, g₂, h₂, r₂⟩
  · exact (h₂.failsIn (P := fun _ => False) (failsIn_selectFor.bind fun _ => trivial)).elim
  rcases r₂.bind_error with h₃ | ⟨ids, l₃, g₃, h₃, h₄⟩
  · exact (h₃.failsIn (P := fun _ => False) failsIn_selectFor).elim
  have hev := (h₁.returns.evolve.trans h₂.returns.evolve).trans h₃.returns.evolve
  exact terminalizeOccurrences_not_error (hev.coherent hl) (lockLiveOccurrences_fenced h₃) h₄

end Fence

section Grace

variable {C : Contract (system hashtextextended ticks)}

lemma failsIn_prepareDeletion :
    (prepareDeletion userId).FailsIn fun e => e = .accountNotFound ∨ e = .groupOwnershipTransferRequired :=
  FailsIn.bind (failsIn_selectFor.bind fun _ => failsIn_ensure (.inl rfl)) fun _ => failsIn_selectFor.bind fun _ =>
    (failsIn_ensure (.inr rfl)).bind fun _ => failsIn_selectFor.bind fun _ =>
      FailsIn.bind (failsIn_selectFor.bind fun _ => trivial) fun _ =>
        FailsIn.bind (failsIn_selectFor.bind fun _ => trivial) fun _ =>
          FailsIn.bind (failsIn_selectFor.bind fun _ => trivial) fun _ => trivial

lemma keeps_disablePushInstallations {deletedAt : Time} : (disablePushInstallations userId deletedAt).Keeps C Quiet := by
  refine Keeps.bind (keeps_update fun s i base t r r' a hr hf => ?_) fun _ => keeps_ret
  split at hf
  · rename_i hcond
    cases hf
    exact Recedes.delete hr hcond.2 rfl coalesce_ne_none
  · cases hf

lemma keeps_startGracePeriod : (startGracePeriod userId).Keeps C Quiet := by
  refine Keeps.bind (keeps_clock.bind fun _ => (keeps_update fun _ _ _ _ _ _ _ _ _ => trivial).bind fun _ =>
    keeps_ofOption) fun _ => ?_
  refine Keeps.bind ((keeps_update fun _ _ _ _ _ _ _ _ _ => trivial).bind fun _ => keeps_ret) fun _ => ?_
  refine Keeps.bind ((keeps_update fun _ _ _ _ _ _ _ _ _ => trivial).bind fun _ => keeps_ret) fun _ => ?_
  refine keeps_disablePushInstallations.bind fun _ => ?_
  refine Keeps.bind ((keeps_update fun _ _ _ _ _ _ _ _ _ => trivial).bind fun _ => keeps_ret) fun _ => ?_
  refine Keeps.bind (keeps_each fun _ _ => ?_) fun _ => keeps_ret
  exact keeps_fresh.bind fun _ => keeps_clock.bind fun _ => keeps_insertRow fun _ _ => trivial

lemma keeps_deleteAccountGrace : (deleteAccountGrace userId).Keeps C Quiet :=
  Purge.keeps_prepareDeletion.mapError.bind fun _ => keeps_startGracePeriod.mapError.bind fun _ =>
    (keeps_each fun _ _ => keeps_fenceMembershipRevocation.mapError).bind fun _ => keeps_ret

/-- The statements that mark rows as deleted add no index entries. -/
lemma markUserDeleted_error {e : AccountDeletionRepositoryError} (hl : Coherent index l g)
    (h : Runs C (markUserDeleted userId) l g (.error e) l' g' L G) : e = .accountNotFound := by
  unfold markUserDeleted at h
  rcases h.bind_error with h₁ | ⟨now, l₁, g₁, h₁, r₁⟩
  · exact (Runs.not_op_error h₁).elim
  rcases r₁.bind_error with h₂ | ⟨marked, l₂, g₂, h₂, h₃⟩
  · refine (Runs.update_not_error (h₁.returns.evolve.coherent hl) (fun s => s.nodup_one ..)
      (fun s j t r r' a hf => ?_) h₂).elim
    exact List.nil_subset _
  · exact h₃.failsIn (P := fun e => e = .accountNotFound) (failsIn_ofOption rfl)

/-- A statement that only takes index entries away does not fail. -/
lemma changes_not_error {ε α β : Type} {T : Table Key Uuid} {q : Store Row → List Uuid}
    {f : Store Row → (i : Uuid) → Time → Row (T.key i) → Option (Row (T.key i) × α)} {error e : ε}
    (result : List α → β) (hl : Coherent index l g) (hq : ∀ s, (q s).Nodup)
    (hf : ∀ s i t r r' a, f s i t r = some (r', a) → index (T.key i) r' ⊆ index (T.key i) r) :
    ¬ Runs C (update T q f error >>= fun rows => ret (result rows)) l g (.error e) l' g' L G := by
  intro h
  rcases h.bind_error with h₁ | ⟨rows, l₁, g₁, h₁, h₂⟩
  · exact Runs.update_not_error hl hq hf h₁
  · exact Runs.not_ret_error h₂

lemma markMembershipsDeleted_not_error {e : AccountDeletionRepositoryError} {deletedAt : Time} (hl : Coherent index l g) :
    ¬ Runs C (markMembershipsDeleted userId deletedAt) l g (.error e) l' g' L G := by
  refine changes_not_error (List.filterMap id) hl (fun s => s.nodup_ids ..) fun s j t r r' a hf => ?_
  split at hf
  · cases hf
  split at hf
  · cases hf
    exact List.nil_subset _
  · cases hf

lemma revokeRefreshSessions_not_error {e : AccountDeletionRepositoryError} {deletedAt : Time} (hl : Coherent index l g) :
    ¬ Runs C (revokeRefreshSessions userId deletedAt) l g (.error e) l' g' L G := by
  refine changes_not_error (fun _ => ()) hl (fun s => s.nodup_ids ..) fun s j t r r' a hf => ?_
  split at hf
  · cases hf
    exact List.Subset.refl _
  · cases hf

lemma disablePushInstallations_not_error {e : AccountDeletionRepositoryError} {deletedAt : Time}
    (hl : Coherent index l g) : ¬ Runs C (disablePushInstallations userId deletedAt) l g (.error e) l' g' L G := by
  refine changes_not_error (fun _ => ()) hl (fun s => s.nodup_ids ..) fun s j t r r' a hf => ?_
  split at hf
  · cases hf
    exact index_disable_subset j deletedAt r
  · cases hf

lemma softDeleteAuthIdentities_not_error {e : AccountDeletionRepositoryError} {deletedAt : Time}
    (hl : Coherent index l g) : ¬ Runs C (softDeleteAuthIdentities userId deletedAt) l g (.error e) l' g' L G := by
  refine changes_not_error (fun _ => ()) hl (fun s => s.nodup_ids ..) fun s j t r r' a hf => ?_
  split at hf
  · rename_i hcond
    cases hf
    have hnil : index (.authIdentities j) (AuthIdentity.delete deletedAt r) = [] := by
      simp [index, indexedIf, AuthIdentity.delete, hcond.2, coalesce]
    change index (.authIdentities j) (AuthIdentity.delete deletedAt r) ⊆ _
    rw [hnil]
    exact List.nil_subset _
  · cases hf

end Grace

section Outbox

/-- The transaction names the control events that it adds by identifiers that it has drawn. -/
def OwnOutbox (l : Local) : Prop := ∀ w ∈ l.writes, ∀ i, w.key = .outboxEvents i → i ∈ l.drawn

/-- The rows of other tables. -/
def NotOutbox : Key → Prop
  | .outboxEvents _ => False
  | _ => True

lemma OwnOutbox.of_touches {ε α : Type} {C : Contract (system hashtextextended ticks)} {p : Sql ε α} {r : Except ε α}
    (h : OwnOutbox l) (hrun : Runs C p l g r l' g' L G) (hp : p.Touches NotOutbox) : OwnOutbox l' := by
  obtain ⟨ws, hws, hall⟩ := hrun.touches hp
  intro w hw i hi
  rw [hws] at hw
  rcases List.mem_append.mp hw with hw | hw
  · have hnot := hall w hw
    rw [hi] at hnot
    exact hnot.elim
  · exact hrun.returns.evolve.drawn (h w hw i hi)

variable {intent : RealtimeControlIntent}

lemma insertControlIntent_own (h : OwnOutbox l)
    (hrun : Runs (contract hashtextextended ticks) (insertControlIntent intent) l g (.ok ()) l' g' L G) : OwnOutbox l' := by
  have hev := hrun.returns.evolve
  unfold insertControlIntent at hrun
  obtain ⟨i, l₁, g₁, h₁, r₁⟩ := hrun.bind
  obtain ⟨now, l₂, g₂, h₂, h₃⟩ := r₁.bind
  obtain ⟨rfl, -⟩ := h₂.clock
  have hdrawn : i ∈ l'.drawn := by
    refine (h₂.returns.evolve.trans h₃.returns.evolve).drawn ?_
    rw [h₁.fresh.1]
    exact List.mem_cons_self
  obtain ⟨v, hw⟩ : ∃ v, l'.writes = ⟨.outboxEvents i, v⟩ :: l₂.writes := ⟨_, by rw [h₃.insertRow.frame]⟩
  intro w hmem j hj
  rw [hw, h₁.fresh.1] at hmem
  rcases List.mem_cons.mp hmem with rfl | hmem
  · cases hj
    exact hdrawn
  · exact hev.drawn (h w hmem j hj)

lemma insertControlIntent_not_error {e : AccountDeletionRepositoryError} (h : OwnOutbox l) (hl : Coherent index l g)
    (hg : History (contract hashtextextended ticks) g) :
    ¬ Runs (contract hashtextextended ticks) (insertControlIntent intent) l g (.error e) l' g' L G := by
  intro hrun
  unfold insertControlIntent at hrun
  rcases hrun.bind_error with h₁ | ⟨i, l₁, g₁, h₁, r₁⟩
  · exact Runs.not_op_error h₁
  rcases r₁.bind_error with h₂ | ⟨now, l₂, g₂, h₂, h₃⟩
  · exact Runs.not_op_error h₂
  obtain ⟨rfl, -⟩ := h₂.clock
  obtain ⟨rfl, ga, gb, hga, hnew, -, -⟩ := h₁.fresh
  have hunwritten : Key.outboxEvents i ∉ l.writes.map Write.key := by
    intro hmem
    obtain ⟨w, hw, hkey⟩ := List.mem_map.mp hmem
    exact hnew (hga.used (hl.drawn i (h w hw i hkey)))
  rcases h₃.insertRow_error with ⟨n, hn, hn', hcollision⟩ | ⟨p, hp, -⟩
  · rcases collision_ne_none hcollision with htaken | ⟨k, -, x, hx, -⟩
    · refine htaken ?_
      change ((Shared.version G n).apply l.writes).get _ = none
      rw [Store.get_apply_of_notMem _ hunwritten]
      exact (drawnOutbox.fresh hg h₁).2 n (Nat.le_trans hn' h₃.rest.later.csn_le)
    · cases hx
  · cases hp

lemma each_insertControlIntent_own {intents : List Uuid} {f : Uuid → RealtimeControlIntent} (h : OwnOutbox l)
    (hrun : Runs (contract hashtextextended ticks) (each (fun i => insertControlIntent (f i)) intents) l g (.ok ()) l' g'
      L G) : OwnOutbox l' := by
  induction intents generalizing l g with
  | nil =>
    obtain ⟨-, rfl⟩ := hrun.ret
    exact h
  | cons i intents ih =>
    obtain ⟨_, l₁, g₁, h₁, h₂⟩ := hrun.bind
    exact ih (insertControlIntent_own h h₁) h₂

lemma each_insertControlIntent_not_error {intents : List Uuid} {f : Uuid → RealtimeControlIntent}
    {e : AccountDeletionRepositoryError} (h : OwnOutbox l) (hl : Coherent index l g)
    (hg : History (contract hashtextextended ticks) g) :
    ¬ Runs (contract hashtextextended ticks) (each (fun i => insertControlIntent (f i)) intents) l g (.error e) l' g'
      L G := by
  induction intents generalizing l g with
  | nil => exact Runs.not_ret_error
  | cons i intents ih =>
    intro hrun
    rcases hrun.bind_error with h₁ | ⟨_, l₁, g₁, h₁, h₂⟩
    · exact insertControlIntent_not_error h hl hg h₁
    · exact ih (insertControlIntent_own h h₁) (h₁.returns.evolve.coherent hl) (h₁.returns.evolve.later.history hg) h₂

end Outbox

section Account

lemma touches_prepareDeletion : (prepareDeletion userId).Touches NotOutbox :=
  Touches.bind (touches_selectFor.bind fun _ => touches_ensure) fun _ => touches_selectFor.bind fun _ =>
    touches_ensure.bind fun _ => touches_selectFor.bind fun _ =>
      Touches.bind (touches_selectFor.bind fun _ => trivial) fun _ =>
        Touches.bind (touches_selectFor.bind fun _ => trivial) fun _ =>
          Touches.bind (touches_selectFor.bind fun _ => trivial) fun _ => trivial

lemma touches_markUserDeleted : (markUserDeleted userId).Touches NotOutbox :=
  ⟨trivial, fun _ => (touches_change fun _ => trivial).bind fun _ => touches_ofOption⟩

lemma touches_markMembershipsDeleted {deletedAt : Time} :
    (markMembershipsDeleted userId deletedAt).Touches NotOutbox :=
  (touches_change fun _ => trivial).bind fun _ => trivial

lemma touches_revokeRefreshSessions {deletedAt : Time} : (revokeRefreshSessions userId deletedAt).Touches NotOutbox :=
  (touches_change fun _ => trivial).bind fun _ => trivial

lemma touches_disablePushInstallations {deletedAt : Time} :
    (disablePushInstallations userId deletedAt).Touches NotOutbox :=
  (touches_change fun _ => trivial).bind fun _ => trivial

lemma touches_softDeleteAuthIdentities {deletedAt : Time} :
    (softDeleteAuthIdentities userId deletedAt).Touches NotOutbox :=
  (touches_change fun _ => trivial).bind fun _ => trivial

lemma startGracePeriod_own {report : AccountDeletionReport} (h : OwnOutbox l)
    (hrun : Runs (contract hashtextextended ticks) (startGracePeriod userId) l g (.ok report) l' g' L G) :
    OwnOutbox l' := by
  unfold startGracePeriod at hrun
  obtain ⟨deletedAt, l₁, g₁, h₁, r₁⟩ := hrun.bind
  obtain ⟨groupIds, l₂, g₂, h₂, r₂⟩ := r₁.bind
  obtain ⟨_, l₃, g₃, h₃, r₃⟩ := r₂.bind
  obtain ⟨_, l₄, g₄, h₄, r₄⟩ := r₃.bind
  obtain ⟨_, l₅, g₅, h₅, r₅⟩ := r₄.bind
  obtain ⟨_, l₆, g₆, h₆, h₇⟩ := r₅.bind
  obtain ⟨-, rfl⟩ := h₇.ret
  refine each_insertControlIntent_own ?_ h₆
  exact ((((h.of_touches h₁ touches_markUserDeleted).of_touches h₂ touches_markMembershipsDeleted).of_touches h₃
    touches_revokeRefreshSessions).of_touches h₄ touches_disablePushInstallations).of_touches h₅
      touches_softDeleteAuthIdentities

lemma startGracePeriod_error {e : AccountDeletionRepositoryError} (h : OwnOutbox l) (hl : Coherent index l g)
    (hg : History (contract hashtextextended ticks) g)
    (hrun : Runs (contract hashtextextended ticks) (startGracePeriod userId) l g (.error e) l' g' L G) :
    e = .accountNotFound := by
  unfold startGracePeriod at hrun
  rcases hrun.bind_error with h₁ | ⟨deletedAt, l₁, g₁, h₁, r₁⟩
  · exact markUserDeleted_error hl h₁
  have hl₁ := h₁.returns.evolve.coherent hl
  rcases r₁.bind_error with h₂ | ⟨groupIds, l₂, g₂, h₂, r₂⟩
  · exact (markMembershipsDeleted_not_error hl₁ h₂).elim
  have hl₂ := h₂.returns.evolve.coherent hl₁
  rcases r₂.bind_error with h₃ | ⟨_, l₃, g₃, h₃, r₃⟩
  · exact (revokeRefreshSessions_not_error hl₂ h₃).elim
  have hl₃ := h₃.returns.evolve.coherent hl₂
  rcases r₃.bind_error with h₄ | ⟨_, l₄, g₄, h₄, r₄⟩
  · exact (disablePushInstallations_not_error hl₃ h₄).elim
  have hl₄ := h₄.returns.evolve.coherent hl₃
  rcases r₄.bind_error with h₅ | ⟨_, l₅, g₅, h₅, r₅⟩
  · exact (softDeleteAuthIdentities_not_error hl₄ h₅).elim
  have hl₅ := h₅.returns.evolve.coherent hl₄
  rcases r₅.bind_error with h₆ | ⟨_, l₆, g₆, h₆, h₇⟩
  · have hown : OwnOutbox l₅ := ((((h.of_touches h₁ touches_markUserDeleted).of_touches h₂
      touches_markMembershipsDeleted).of_touches h₃ touches_revokeRefreshSessions).of_touches h₄
        touches_disablePushInstallations).of_touches h₅ touches_softDeleteAuthIdentities
    have hev := (((h₁.returns.evolve.trans h₂.returns.evolve).trans h₃.returns.evolve).trans h₄.returns.evolve).trans
      h₅.returns.evolve
    exact (each_insertControlIntent_not_error hown hl₅ (hev.later.history hg) h₆).elim
  · exact (Runs.not_ret_error h₇).elim

lemma touches_fences {ms : List AccountDeletionMembership} :
    (each (fun (m : AccountDeletionMembership) => mapError (fun _ => AccountDeletionError.databaseUnavailable)
      (fenceMembershipRevocation m.groupId userId)) ms).Touches NotOutbox := by
  refine touches_each fun m _ => ((touches_fenceMembershipRevocation _ _).mono fun k hk => ?_).mapError
  cases k with
  | pushDeliveryIntents i => trivial
  | _ => exact hk.elim

lemma fences_not_error {ms : List AccountDeletionMembership} {e : AccountDeletionError} (hl : Coherent index l g) :
    ¬ Runs (contract hashtextextended ticks) (each (fun (m : AccountDeletionMembership) =>
      mapError (fun _ => AccountDeletionError.databaseUnavailable) (fenceMembershipRevocation m.groupId userId)) ms) l g
      (.error e) l' g' L G := by
  induction ms generalizing l g with
  | nil => exact Runs.not_ret_error
  | cons m ms ih =>
    intro hrun
    rcases hrun.bind_error with h₁ | ⟨_, l₁, g₁, h₁, h₂⟩
    · obtain ⟨e', -, h₁⟩ := h₁.mapError_error
      exact fenceMembershipRevocation_not_error hl h₁
    · exact ih (h₁.returns.evolve.coherent hl) h₂

lemma deleteAccountGrace_own {report : AccountDeletionReport} (h : OwnOutbox l)
    (hrun : Runs (contract hashtextextended ticks) (deleteAccountGrace userId) l g (.ok report) l' g' L G) :
    OwnOutbox l' := by
  unfold deleteAccountGrace at hrun
  obtain ⟨ms, l₁, g₁, h₁, r₁⟩ := hrun.bind
  obtain ⟨report', l₂, g₂, h₂, r₂⟩ := r₁.bind
  obtain ⟨_, l₃, g₃, h₃, h₄⟩ := r₂.bind
  obtain ⟨-, rfl⟩ := h₄.ret
  exact (startGracePeriod_own (h.of_touches h₁ touches_prepareDeletion.mapError) h₂.mapError).of_touches h₃ touches_fences

lemma deleteAccountGrace_error {e : AccountDeletionError} (h : OwnOutbox l) (hl : Coherent index l g)
    (hg : History (contract hashtextextended ticks) g)
    (hrun : Runs (contract hashtextextended ticks) (deleteAccountGrace userId) l g (.error e) l' g' L G) :
    e ≠ .databaseUnavailable := by
  unfold deleteAccountGrace at hrun
  rcases hrun.bind_error with h₁ | ⟨ms, l₁, g₁, h₁, r₁⟩
  · obtain ⟨e', rfl, hprepare⟩ := h₁.mapError_error
    rcases hprepare.failsIn failsIn_prepareDeletion with rfl | rfl <;> exact nofun
  have hl₁ := h₁.returns.evolve.coherent hl
  rcases r₁.bind_error with h₂ | ⟨report, l₂, g₂, h₂, r₂⟩
  · obtain ⟨e', rfl, hstart⟩ := h₂.mapError_error
    rw [startGracePeriod_error (h.of_touches h₁ touches_prepareDeletion.mapError) hl₁
      (h₁.returns.evolve.later.history hg) hstart]
    exact nofun
  rcases r₂.bind_error with h₃ | ⟨_, l₃, g₃, h₃, h₄⟩
  · exact (fences_not_error (h₂.returns.evolve.coherent hl₁) h₃).elim
  · exact (Runs.not_ret_error h₄).elim

end Account

end JamyeServer.Installations
