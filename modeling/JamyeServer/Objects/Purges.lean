import JamyeServer.Objects.Releases
import JamyeServer.Purge.Frames

/-!
# The purge of an account

The uploads of the account that are bound get another owner, those that are not go, and so do its avatars. While the row
of the account is locked, nobody registers an avatar for it.
-/

namespace JamyeServer.Objects

open ReadCommitted Postgres Media Messages Prog AccountDeletion AccountPurge

variable {settings : Settings} {mask : String → String} {publicBaseUrl : String} {ticks : Time → Time → Bool}
  {l l' L : Local} {g g' G : Shared} {ε α : Type} {userId tombstoneUserId : Uuid}

section Locks

/-- An avatar of a user whose row is locked was there before, and it was released then only if it still is. -/
lemma avatar_of_locked (hev : Evolve (contract settings mask publicBaseUrl ticks) l g L G)
    (hG : History (contract settings mask publicBaseUrl ticks) G) (hlock : (.users userId, .update) ∈ l.locks) {n : Nat}
    (hn : g.csn ≤ n) (hn' : n ≤ G.csn) {i : Uuid} {b : UserAvatarUpload} (hb : G.db.get (.userAvatarUploads i) = some b)
    (huser : b.userId = userId) :
    ∃ r, (G.version n).get (.userAvatarUploads i) = some r ∧ r.userId = userId ∧ (r.status = .released → b.status = .released) := by
  have hexists : ∀ n, g.csn ≤ n → n ≤ G.csn → ∃ r, (G.version n).get (.userAvatarUploads i) = some r ∧ r.userId = userId := by
    intro n hn hn'
    by_contra hnot
    obtain ⟨e, l₁, g₁, -, -, hev', hc, hcompat, -, -, hbefore, hafter⟩ :=
      hev.commit_of_change (P := fun s => ¬ ∃ r, s.get (.userAvatarUploads i) = some r ∧ r.userId = userId) hn hn'
        (Nat.le_refl _) hnot (not_not.mpr ⟨b, hb, huser⟩)
    obtain ⟨r, hr, hruser⟩ := not_not.mp hafter
    have hstep := hc.ok.avatars i
    rw [hr] at hstep
    generalize hv : g₁.db.get (.userAvatarUploads i) = v at hstep
    cases hstep with
    | same => exact hbefore ⟨r, hv, hruser⟩
    | registered status objectKey fresh lock =>
      have hconflict := hcompat.locks _ _ _ (hev'.locks hlock) (hruser ▸ lock)
      cases hconflict
    | changed objectKey userId' released => exact hbefore ⟨_, hv, userId'.symm.trans hruser⟩
  obtain ⟨r, hr, hruser⟩ := hexists n hn hn'
  refine ⟨r, hr, hruser, fun hreleased => ?_⟩
  by_contra hactive
  obtain ⟨e, g₁, hn₁, hn₂, -, -, hc, ⟨r₁, hr₁, hstatus⟩, hafter, hlater⟩ :=
    hG.commit_of_change (P := fun s => ∃ r, s.get (.userAvatarUploads i) = some r ∧ r.status = .released) hn' (Nat.le_refl _)
      ⟨r, hr, hreleased⟩ fun ⟨r', hr', hstatus⟩ => hactive (by cases hr'.symm.trans hb; exact hstatus)
  -- the row is there after that commit, and a released avatar is not changed back
  obtain ⟨r₂, hr₂, -⟩ := hexists (g₁.csn + 1) (by omega) hn₂
  rw [hlater.version_commit.2] at hr₂
  have hstep := hc.ok.avatars i
  rw [hr₁, hr₂] at hstep
  refine hafter ⟨r₂, hr₂, ?_⟩
  cases hstep with
  | same => exact hstatus
  | changed objectKey userId' released => exact released hstatus

end Locks

section Statements

/-- The statements that queue the unbound uploads of an account and delete them. -/
structure DropsUploads (l l' : Local) (G : Shared) : Prop where
  own : OwnIntents l → OwnIntents l'
  frame : ∀ (s : Store Row) k, (∀ i, k ≠ .mediaUploads i) → (∀ j, k ≠ .accountObjectDeletionIntents j) →
    (s.apply l'.writes).get k = (s.apply l.writes).get k
  kept : ∀ j x, (G.db.apply l.writes).get (.accountObjectDeletionIntents j) = some x →
    (G.db.apply l'.writes).get (.accountObjectDeletionIntents j) = some x
  row : ∀ i, (G.db.apply l'.writes).get (.mediaUploads i) = (G.db.apply l.writes).get (.mediaUploads i) ∨
    ∃ b, (G.db.apply l.writes).get (.mediaUploads i) = some b ∧ b.status ≠ .bound ∧
      (G.db.apply l'.writes).get (.mediaUploads i) = none ∧ HasIntent (G.db.apply l'.writes) b.objectKey
  added : ∀ j x, (G.db.apply l'.writes).get (.accountObjectDeletionIntents j) = some x →
    (G.db.apply l.writes).get (.accountObjectDeletionIntents j) = some x ∨
      ∃ i b, (G.db.apply l.writes).get (.mediaUploads i) = some b ∧ b.status ≠ .bound ∧ b.objectKey = x.objectKey ∧
        (G.db.apply l'.writes).get (.mediaUploads i) = none

lemma unbound_iff {status : MediaStatus} : MediaStatus.unbound status = true ↔ status ≠ .bound := by
  simp [MediaStatus.unbound]

lemma drops_enqueueAndDeleteUnboundUploads {n : Nat}
    (h : Runs (contract settings mask publicBaseUrl ticks) (enqueueAndDeleteUnboundUploads userId) l g (.ok n) l' g' L G)
    (hg : History (contract settings mask publicBaseUrl ticks) g) (hl : Coherent index l g) (hown : OwnIntents l) :
    DropsUploads l l' G := by
  unfold enqueueAndDeleteUnboundUploads at h
  obtain ⟨uploads, l₁, g₁, h₁, r₁⟩ := h.bind
  obtain ⟨enqueued, l₂, g₂, h₂, r₂⟩ := r₁.bind
  obtain ⟨gs, -, -, hrows⟩ := h₁.selectFor (by decide)
  have hw₁ : l₁.writes = l.writes := by rw [hrows.frame]
  have hown₁ := hown.of_touches h₁ (P := fun _ => False) touches_selectFor fun _ => id
  have henqueues : Enqueues (uploads.map Prod.snd) l₁ l₂ G :=
    enqueues_collect (fun upload l g a l' g' hrun hg hl hown => enqueues_one hrun hg hl hown) h₂
      (h₁.returns.evolve.later.history hg) (h₁.returns.evolve.coherent hl) hown₁
  have hbefore : ∀ (s : Store Row) i, (s.apply l₂.writes).get (.mediaUploads i) = (s.apply l.writes).get (.mediaUploads i) :=
    fun s i => by rw [henqueues.frame s _ (fun _ h => by cases h), hw₁]
  have hfound : ∀ x ∈ uploads, (.mediaUploads x.1, .update) ∈ l₁.locks ∧ ∃ b, (G.db.apply l.writes).get (.mediaUploads x.1) = some b ∧
      b.objectKey = x.2 ∧ b.userId = userId ∧ b.status ≠ .bound := by
    intro x hx
    obtain ⟨i, -, t, r, -, hlock, hr, hf⟩ := hrows.mem x hx
    split at hf
    · rename_i hcond
      cases hf
      exact ⟨hlock, r, hr, rfl, hcond.1, unbound_iff.mp hcond.2⟩
    · cases hf
  dsimp only at r₂
  split at r₂
  · rename_i hempty
    obtain ⟨-, rfl⟩ := r₂.ret
    have hnil : uploads = [] := List.map_eq_nil_iff.mp hempty
    rw [hnil] at henqueues
    refine ⟨fun _ => henqueues.own hown₁, fun s k _ hk => by rw [henqueues.frame s k hk, hw₁], fun j x hx => ?_,
      fun i => .inl (hbefore _ i), fun j x hx => ?_⟩
    · exact henqueues.kept j x (by rwa [hw₁])
    · rcases henqueues.added j x hx with hold | hkey
      · rw [hw₁] at hold
        exact .inl hold
      · cases hkey
  obtain ⟨deleted, l₃, g₃, h₃, r₃⟩ := r₂.bind
  obtain ⟨_, l₄, g₄, h₄, r₄⟩ := r₃.bind
  obtain ⟨-, rfl⟩ := h₄.ensure
  obtain ⟨-, rfl⟩ := r₄.ret
  obtain ⟨gs', ws, hgs, hgs', hch⟩ := h₃.delete fun s => s.nodup_ids ..
  have hintents : ∀ j, (G.db.apply l'.writes).get (.accountObjectDeletionIntents j) =
      (G.db.apply l₂.writes).get (.accountObjectDeletionIntents j) := fun j => hch.get_of_ne _ fun i _ h => by cases h
  -- the rows of the list are locked, so that the deletion meets all of them
  have hdeleted : ∀ x ∈ uploads, (G.db.apply l'.writes).get (.mediaUploads x.1) = none := by
    intro x hx
    obtain ⟨hlock, b, hb, -, huser, hstatus⟩ := hfound x hx
    have hlock₂ := h₂.returns.evolve.locks hlock
    have hversion : ∀ n, g₂.csn ≤ n → n ≤ G.csn → ((G.version n).apply l₂.writes).get (.mediaUploads x.1) = some b := by
      intro n hn hn'
      rw [view_locked h₃ hlock₂ (by decide) hn hn', hbefore, hb]
    have hcsn : gs'.csn ≤ G.csn := Nat.le_trans hgs'.csn_le h₃.rest.later.csn_le
    have htest : (decide (x.1 ∈ uploads.map Prod.fst) && decide (b.userId = userId) && MediaStatus.unbound b.status) = true := by
      simp [huser, unbound_iff.mpr hstatus, List.mem_map_of_mem (f := Prod.fst) hx]
    rcases hch.get (Store.mem_ids.mpr ⟨b, hversion _ hgs.csn_le hcsn, htest⟩) with ⟨n, hn, hn', hmissing⟩ | ⟨t, r, -, -, hr, hafter⟩
    · have hsome := hversion n (Nat.le_trans hgs.csn_le hn) (Nat.le_trans hn' h₃.rest.later.csn_le)
      change ((G.version n).apply l₂.writes).get (.mediaUploads x.1) = none at hmissing
      rw [hsome] at hmissing
      cases hmissing
    · obtain rfl : r = b := Option.some.inj (hr.symm.trans ((hbefore _ _).trans hb))
      refine hafter.trans ?_
      rw [if_pos htest]
      rfl
  have hown₂ := (henqueues.own hown₁).of_touches h₃ (P := fun k => ∃ i, k = .mediaUploads i) (touches_change fun i => ⟨i, rfl⟩)
    (by rintro j ⟨i, hi⟩; cases hi)
  refine ⟨fun _ => hown₂, fun s k hk hk' => ?_, fun j x hx => ?_, fun i => ?_, fun j x hx => ?_⟩
  · rw [hch.get_of_ne s fun i _ => hk i, henqueues.frame s k hk', hw₁]
  · rw [hintents]
    exact henqueues.kept j x (by rwa [hw₁])
  · rcases hch.row i with hsame | ⟨j, -, hkey, t, r, v, a, -, hr, hf, hafter⟩
    · exact .inl (hsame.trans (hbefore _ i))
    · obtain rfl := Tables.mediaUploads.key_injective hkey
      split at hf
      · rename_i hcond
        cases hf
        simp only [Bool.and_eq_true, decide_eq_true_eq] at hcond
        obtain ⟨x, hx, rfl⟩ := List.mem_map.mp hcond.1.1
        obtain ⟨-, b, hb, hobject, -, hstatus⟩ := hfound x hx
        obtain ⟨j, y, hy, hkey⟩ := henqueues.queued x.2 (List.mem_map_of_mem hx)
        exact .inr ⟨b, hb, hstatus, hafter, j, y, (hintents j).trans hy, hkey.trans hobject.symm⟩
      · cases hf
  · rw [hintents] at hx
    rcases henqueues.added j x hx with hold | hkey
    · rw [hw₁] at hold
      exact .inl hold
    · obtain ⟨y, hy, hkey⟩ := List.mem_map.mp hkey
      obtain ⟨-, b, hb, hobject, -, hstatus⟩ := hfound y hy
      exact .inr ⟨y.1, b, hb, hstatus, hobject.trans hkey, hdeleted y hy⟩

/-- The statements that queue the avatars of an account and delete them. -/
structure DropsAvatars (l l' : Local) (G : Shared) : Prop where
  own : OwnIntents l → OwnIntents l'
  frame : ∀ (s : Store Row) k, (∀ i, k ≠ .userAvatarUploads i) → (∀ j, k ≠ .accountObjectDeletionIntents j) →
    (s.apply l'.writes).get k = (s.apply l.writes).get k
  kept : ∀ j x, (G.db.apply l.writes).get (.accountObjectDeletionIntents j) = some x →
    (G.db.apply l'.writes).get (.accountObjectDeletionIntents j) = some x
  row : ∀ i, (G.db.apply l'.writes).get (.userAvatarUploads i) = G.db.get (.userAvatarUploads i) ∨
    ∃ b, G.db.get (.userAvatarUploads i) = some b ∧ (G.db.apply l'.writes).get (.userAvatarUploads i) = none ∧
      (b.status ≠ .released → HasIntent (G.db.apply l'.writes) b.objectKey)
  added : ∀ j x, (G.db.apply l'.writes).get (.accountObjectDeletionIntents j) = some x →
    (G.db.apply l.writes).get (.accountObjectDeletionIntents j) = some x ∨
      ∃ i b, G.db.get (.userAvatarUploads i) = some b ∧ b.objectKey = x.objectKey ∧
        (G.db.apply l'.writes).get (.userAvatarUploads i) = none

lemma drops_enqueueAndDeleteAvatarUploads {n : Nat}
    (h : Runs (contract settings mask publicBaseUrl ticks) (enqueueAndDeleteAvatarUploads userId) l g (.ok n) l' g' L G)
    (hg : History (contract settings mask publicBaseUrl ticks) g) (hl : Coherent index l g) (hown : OwnIntents l)
    (hlock : (.users userId, .update) ∈ l.locks)
    (hw : ∀ (s : Store Row) i, (s.apply l.writes).get (.userAvatarUploads i) = s.get (.userAvatarUploads i)) :
    DropsAvatars l l' G := by
  have hG := h.evolve.later.history hg
  have hev := h.evolve
  unfold enqueueAndDeleteAvatarUploads at h
  obtain ⟨uploads, l₁, g₁, h₁, r₁⟩ := h.bind
  obtain ⟨enqueued, l₂, g₂, h₂, r₂⟩ := r₁.bind
  obtain ⟨deleted, l₃, g₃, h₃, r₃⟩ := r₂.bind
  obtain ⟨-, rfl⟩ := r₃.ret
  obtain ⟨gs, hgs, hgs', hrows⟩ := h₁.selectFor (by decide)
  have hw₁ : l₁.writes = l.writes := by rw [hrows.frame]
  have hown₁ := hown.of_touches h₁ (P := fun _ => False) touches_selectFor fun _ => id
  have henqueues : Enqueues (uploads.map UserAvatarUpload.objectKey) l₁ l₂ G := by
    refine enqueues_collect (fun upload l g a l' g' hrun hg hl hown => ?_) h₂ (h₁.returns.evolve.later.history hg)
      (h₁.returns.evolve.coherent hl) hown₁
    obtain ⟨now, l₃, g₃, h₃, r₃⟩ := hrun.bind
    obtain ⟨rfl, -⟩ := h₃.clock
    exact enqueues_one r₃ (h₃.returns.evolve.later.history hg) (h₃.returns.evolve.coherent hl) hown
  have hw₂ : ∀ (s : Store Row) i, (s.apply l₂.writes).get (.userAvatarUploads i) = s.get (.userAvatarUploads i) :=
    fun s i => by rw [henqueues.frame s _ (fun _ h => by cases h), hw₁, hw]
  obtain ⟨gd, ws, hgd, hgd', hch⟩ := h₃.delete fun s => s.nodup_ids ..
  have hg₁ : g₁.csn ≤ G.csn := h₁.rest.later.csn_le
  have hg₃ : g₃.csn ≤ G.csn := h₃.rest.later.csn_le
  have hgg₂ : g.csn ≤ g₂.csn := (h₁.returns.evolve.trans h₂.returns.evolve).later.csn_le
  have hintents : ∀ j, (G.db.apply l'.writes).get (.accountObjectDeletionIntents j) =
      (G.db.apply l₂.writes).get (.accountObjectDeletionIntents j) := fun j => hch.get_of_ne _ fun i _ h => by cases h
  -- no avatar of the account is registered meanwhile, so that the first statement finds all that the last one deletes
  have hqueued : ∀ i b, G.db.get (.userAvatarUploads i) = some b → b.userId = userId → b.status ≠ .released →
      b.objectKey ∈ uploads.map UserAvatarUpload.objectKey := by
    intro i b hb huser hlive
    obtain ⟨r, hr, hruser, hreleased⟩ := avatar_of_locked hev hG hlock hgs.csn_le (Nat.le_trans hgs'.csn_le hg₁) hb huser
    have hmem : i ∈ Push.sortIds (((G.version gs.csn).apply l.writes).ids Tables.userAvatarUploads fun _ r =>
        decide (r.userId = userId) && decide (r.status ≠ .released)) := by
      rw [Push.sortIds, List.mem_insertionSort]
      refine Store.mem_ids.mpr ⟨r, (hw _ i).trans hr, ?_⟩
      simpa [hruser] using fun h => hlive (hreleased h)
    rcases hrows.each i hmem with ⟨n, hn, hn', hmissing⟩ | ⟨t, r', -, -, hr', hall⟩
    · obtain ⟨r', hr', -⟩ := avatar_of_locked hev hG hlock (Nat.le_trans hgs.csn_le hn) (Nat.le_trans hn' hg₁) hb huser
      change ((G.version n).apply l.writes).get (.userAvatarUploads i) = none at hmissing
      rw [hw, hr'] at hmissing
      cases hmissing
    · change (G.db.apply l.writes).get (.userAvatarUploads i) = some r' at hr'
      rw [hw, hb] at hr'
      cases hr'
      exact List.mem_map_of_mem (hall b (if_pos ⟨huser, hlive⟩))
  have hdeleted : ∀ i b, G.db.get (.userAvatarUploads i) = some b → b.userId = userId →
      (G.db.apply l'.writes).get (.userAvatarUploads i) = none := by
    intro i b hb huser
    obtain ⟨r, hr, hruser, -⟩ := avatar_of_locked hev hG hlock (Nat.le_trans hgg₂ hgd.csn_le) (Nat.le_trans hgd'.csn_le hg₃) hb huser
    rcases hch.get (Store.mem_ids.mpr ⟨r, (hw₂ _ i).trans hr, decide_eq_true hruser⟩) with
      ⟨n, hn, hn', hmissing⟩ | ⟨t, r', -, -, hr', hafter⟩
    · obtain ⟨r', hr', -⟩ := avatar_of_locked hev hG hlock (Nat.le_trans hgg₂ (Nat.le_trans hgd.csn_le hn))
        (Nat.le_trans hn' hg₃) hb huser
      change ((G.version n).apply l₂.writes).get (.userAvatarUploads i) = none at hmissing
      rw [hw₂, hr'] at hmissing
      cases hmissing
    · change (G.db.apply l₂.writes).get (.userAvatarUploads i) = some r' at hr'
      rw [hw₂, hb] at hr'
      cases hr'
      refine hafter.trans ?_
      rw [if_pos (decide_eq_true huser)]
      rfl
  have hown₂ := (henqueues.own hown₁).of_touches h₃ (P := fun k => ∃ i, k = .userAvatarUploads i)
    (touches_change fun i => ⟨i, rfl⟩) (by rintro j ⟨i, hi⟩; cases hi)
  refine ⟨fun _ => hown₂, fun s k hk hk' => ?_, fun j x hx => ?_, fun i => ?_, fun j x hx => ?_⟩
  · rw [hch.get_of_ne s fun i _ => hk i, henqueues.frame s k hk', hw₁]
  · rw [hintents]
    exact henqueues.kept j x (by rwa [hw₁])
  · rcases hch.row i with hsame | ⟨j, -, hkey, t, r, v, a, -, hr, hf, hafter⟩
    · exact .inl (hsame.trans (hw₂ _ i))
    · obtain rfl := Tables.userAvatarUploads.key_injective hkey
      change (G.db.apply l₂.writes).get (.userAvatarUploads j) = some r at hr
      rw [hw₂] at hr
      split at hf
      · rename_i hcond
        cases hf
        refine .inr ⟨r, hr, hafter, fun hlive => ?_⟩
        obtain ⟨j, y, hy, hkey⟩ := henqueues.queued _ (hqueued _ r hr (of_decide_eq_true hcond) hlive)
        exact ⟨j, y, (hintents j).trans hy, hkey⟩
      · cases hf
  · rw [hintents] at hx
    rcases henqueues.added j x hx with hold | hkey
    · rw [hw₁] at hold
      exact .inl hold
    · obtain ⟨y, hy, hkey⟩ := List.mem_map.mp hkey
      obtain ⟨i, -, t, r, -, -, hr, hf⟩ := hrows.mem y hy
      change (G.db.apply l.writes).get (.userAvatarUploads i) = some r at hr
      rw [hw] at hr
      split at hf
      · rename_i hcond
        cases hf
        exact .inr ⟨i, y, hr, hkey, hdeleted i y hr hcond.1⟩
      · cases hf

/-- The bound uploads of the account get another owner. -/
structure Reassigns (l l' : Local) (G : Shared) : Prop where
  own : OwnIntents l → OwnIntents l'
  frame : ∀ (s : Store Row) k, ¬ Apart k → (∀ i, k ≠ .mediaUploads i) → (s.apply l'.writes).get k = (s.apply l.writes).get k
  row : ∀ i, (G.db.apply l'.writes).get (.mediaUploads i) = (G.db.apply l.writes).get (.mediaUploads i) ∨
    ∃ b t, (G.db.apply l.writes).get (.mediaUploads i) = some b ∧ b.status = .bound ∧
      (G.db.apply l'.writes).get (.mediaUploads i) = some { b with userId := t }

lemma reassigns_reassignRetainedAuthorship {u : Unit}
    (h : Runs (contract settings mask publicBaseUrl ticks) (reassignRetainedAuthorship userId tombstoneUserId) l g (.ok u) l' g' L G) :
    Reassigns l l' G := by
  unfold reassignRetainedAuthorship at h
  obtain ⟨_, l₁, g₁, h₁, r₁⟩ := h.bind
  obtain ⟨_, l₂, g₂, h₂, r₂⟩ := r₁.bind
  obtain ⟨_, l₃, g₃, h₃, r₃⟩ := r₂.bind
  have hrest : ∀ (s : Store Row) k, ¬ Apart k → (s.apply l'.writes).get k = (s.apply l₃.writes).get k := fun s k hk =>
    r₃.get_of_touches (P := Apart) ((touches_change fun _ => trivial).bind fun _ =>
      (touches_change fun _ => trivial).bind fun _ => trivial) hk s
  have hfirst : ∀ (s : Store Row) k, ¬ Apart k → (s.apply l₂.writes).get k = (s.apply l.writes).get k := fun s k hk => by
    rw [h₂.get_of_touches (P := Apart) (touches_change fun _ => trivial) hk,
      h₁.get_of_touches (P := Apart) (touches_change fun _ => trivial) hk]
  obtain ⟨gs, ws, -, -, hch⟩ := h₃.update fun s => s.nodup_ids ..
  refine ⟨fun hown => ?_, fun s k hk hk' => ?_, fun i => ?_⟩
  · refine OwnIntents.of_touches ?_ r₃ (P := Apart) ((touches_change fun _ => trivial).bind fun _ =>
      (touches_change fun _ => trivial).bind fun _ => trivial) fun _ => id
    refine OwnIntents.of_touches ?_ h₃ (P := fun k => ∃ i, k = .mediaUploads i) (touches_change fun i => ⟨i, rfl⟩)
      (by rintro j ⟨i, hi⟩; cases hi)
    exact (hown.of_touches h₁ (P := Apart) (touches_change fun _ => trivial) fun _ => id).of_touches h₂ (P := Apart)
      (touches_change fun _ => trivial) fun _ => id
  · rw [hrest s k hk, hch.get_of_ne s fun i _ => hk' i, hfirst s k hk]
  · rw [hrest _ (.mediaUploads i) id]
    rcases hch.row i with hsame | ⟨j, -, hkey, t, r, v, a, -, hr, hf, hafter⟩
    · exact .inl (hsame.trans (hfirst _ _ id))
    · obtain rfl := Tables.mediaUploads.key_injective hkey
      obtain ⟨x, hx, heq⟩ := Option.map_eq_some_iff.mp hf
      split at hx
      · rename_i hcond
        cases hx
        cases heq
        exact .inr ⟨r, tombstoneUserId, (hfirst _ _ id).symm.trans hr, hcond.2, hafter⟩
      · cases hx

end Statements

section Purge

open Purge (touches_deleteAccountOccurrences touches_scrubRetainedNotificationProfiles touches_scrubRetainedPayloads)

/-- The statements of a purge, one after another; what stands between them is about other tables. -/
lemma frees_of_statements {l₁ l₂ l₃ l₄ l₅ : Local} (hown : OwnIntents l₁)
    (hfirst : ∀ (s : Store Row) k, ¬ Apart k → (s.apply l₁.writes).get k = s.get k) (hreassigns : Reassigns l₁ l₂ G)
    (hown₃ : OwnIntents l₂ → OwnIntents l₃)
    (hmiddle : ∀ (s : Store Row) k, ¬ Apart k → (s.apply l₃.writes).get k = (s.apply l₂.writes).get k)
    (huploads : DropsUploads l₃ l₄ G) (havatars : DropsAvatars l₄ l₅ G) (hown' : OwnIntents l₅ → OwnIntents l)
    (hlast : ∀ (s : Store Row) k, ¬ Apart k → (s.apply l.writes).get k = (s.apply l₅.writes).get k) : Frees l G := by
  have hbefore : ∀ k, ¬ Apart k → (∀ i, k ≠ .mediaUploads i) → (G.db.apply l₃.writes).get k = G.db.get k := fun k hk hk' => by
    rw [hmiddle _ k hk, hreassigns.frame _ k hk hk', hfirst _ k hk]
  have hupload : ∀ i, (G.view l).get (.mediaUploads i) = (G.db.apply l₄.writes).get (.mediaUploads i) := fun i =>
    (hlast _ _ id).trans (havatars.frame _ _ (fun _ h => by cases h) fun _ h => by cases h)
  have hreassigned : ∀ i, (G.db.apply l₃.writes).get (.mediaUploads i) = G.db.get (.mediaUploads i) ∨
      ∃ b t, G.db.get (.mediaUploads i) = some b ∧ b.status = .bound ∧
        (G.db.apply l₃.writes).get (.mediaUploads i) = some { b with userId := t } := by
    intro i
    rw [hmiddle _ (.mediaUploads i) id]
    have hrow := hreassigns.row i
    rw [hfirst _ (.mediaUploads i) id] at hrow
    exact hrow
  -- an upload that is not bound has not been reassigned before
  have hunbound : ∀ {i b}, (G.db.apply l₃.writes).get (.mediaUploads i) = some b → b.status ≠ .bound →
      G.db.get (.mediaUploads i) = some b := by
    intro i b hb hstatus
    rcases hreassigned i with hsame | ⟨b', t, -, hbound, hafter⟩
    · rw [← hsame]
      exact hb
    · rw [hafter] at hb
      cases hb
      exact (hstatus hbound).elim
  have hintents : ∀ j, (G.view l).get (.accountObjectDeletionIntents j) =
      (G.db.apply l₅.writes).get (.accountObjectDeletionIntents j) := fun j => hlast _ _ id
  have hintent : ∀ key, HasIntent (G.db.apply l₅.writes) key → HasIntent (G.view l) key := fun key ⟨j, x, hx, hkey⟩ =>
    ⟨j, x, (hintents j).trans hx, hkey⟩
  refine ⟨hown' (havatars.own (huploads.own (hown₃ (hreassigns.own hown)))), fun m => ?_, fun i => ?_, fun i => ?_,
    fun i hnone hsome => ?_, fun j x hx => ?_, fun j x hx => ?_, fun i b hb hlive hreleased => ?_⟩
  · have hframe := havatars.frame G.db (.messageMedia m) (fun _ h => by cases h) fun _ h => by cases h
    have hframe' := huploads.frame G.db (.messageMedia m) (fun _ h => by cases h) fun _ h => by cases h
    exact (hlast _ _ id).trans (hframe.trans (hframe'.trans (hbefore _ id fun _ h => by cases h)))
  · rw [hupload]
    rcases huploads.row i with hsame | ⟨b, hb, hstatus, hafter, j, x, hx, hkey⟩
    · rcases hreassigned i with hsame' | ⟨b, t, hb, -, hafter⟩
      · exact .inl (hsame.trans hsame')
      · exact .inr (.inl ⟨b, t, hb, hsame.trans hafter⟩)
    · exact .inr (.inr ⟨b, hunbound hb hstatus, hstatus, hafter, hintent _ ⟨j, x, havatars.kept j x hx, hkey⟩⟩)
  · rw [Shared.view, hlast _ (.userAvatarUploads i) id]
    rcases havatars.row i with hsame | ⟨b, hb, hafter, -⟩
    · rw [hsame]
      exact .same _
    · rw [hb, hafter]
      exact .removed b
  · rw [Shared.view, hlast _ (.userAvatarUploads i) id] at hsome
    rcases havatars.row i with hsame | ⟨b, hb, -⟩
    · rw [hsame] at hsome
      exact (hsome hnone).elim
    · rw [hnone] at hb
      cases hb
  · rw [hintents]
    refine havatars.kept j x (huploads.kept j x ?_)
    rw [hbefore _ id fun _ h => by cases h]
    exact hx
  · rw [hintents] at hx
    rcases havatars.added j x hx with hx | ⟨i, b, hb, hkey, hafter⟩
    · rcases huploads.added j x hx with hx | ⟨i, b, hb, hstatus, hkey, hafter⟩
      · rw [hbefore _ id fun _ h => by cases h] at hx
        exact .inl hx
      · refine .inr (.upload i b (hunbound hb hstatus) hkey fun r hr => ?_)
        rw [hupload, hafter] at hr
        cases hr
    · refine .inr (.avatar i b hb hkey fun r hr => ?_)
      rw [Shared.view, hlast _ (.userAvatarUploads i) id, hafter] at hr
      cases hr
  · rw [Shared.view, hlast _ (.userAvatarUploads i) id] at hreleased
    rcases havatars.row i with hsame | ⟨b', hb', -, hqueued⟩
    · rw [hsame] at hreleased
      exact (hlive (hreleased b hb)).elim
    · rw [hb] at hb'
      cases hb'
      exact hintent _ (hqueued hlive)

lemma touches_createTombstone : (createTombstone tombstoneUserId).Touches Apart :=
  ⟨trivial, fun _ => (touches_insertRow trivial).bind fun _ => ⟨trivial, fun _ => touches_insertRow trivial⟩⟩

lemma touches_deletePrivateAccountRows : (deletePrivateAccountRows userId).Touches Apart := by
  refine (touches_change fun _ => trivial).bind fun _ => (touches_change fun _ => trivial).bind fun _ => ?_
  refine (touches_change fun _ => trivial).bind fun _ => (touches_change fun _ => trivial).bind fun _ => ?_
  refine (touches_change fun _ => trivial).bind fun _ => (touches_change fun _ => trivial).bind fun _ => ?_
  refine (touches_change fun _ => trivial).bind fun _ => (touches_change fun _ => trivial).bind fun _ => ?_
  exact (touches_change fun _ => trivial).bind fun _ => touches_ensure

lemma ok_finalizeDeletion {e : Entry} {report : AccountDeletionReport}
    (h : Runs (contract settings mask publicBaseUrl ticks) (finalizeDeletion userId) l g (.ok report) e.ran g' L G)
    (hw : l.writes = []) (hg : History (contract settings mask publicBaseUrl ticks) g) (hl : Coherent index l g) : Ok e G := by
  have hG := h.evolve.later.history hg
  unfold finalizeDeletion at h
  obtain ⟨_, l₁, g₁, h₁, r₁⟩ := h.bind
  obtain ⟨tombstoneUserId, l₂, g₂, h₂, r₂⟩ := r₁.bind
  obtain ⟨_, l₃, g₃, h₃, r₃⟩ := r₂.bind
  obtain ⟨_, l₄, g₄, h₄, r₄⟩ := r₃.bind
  obtain ⟨_, l₅, g₅, h₅, r₅⟩ := r₄.bind
  obtain ⟨_, l₆, g₆, h₆, r₆⟩ := r₅.bind
  obtain ⟨_, l₇, g₇, h₇, r₇⟩ := r₆.bind
  obtain ⟨_, l₈, g₈, h₈, r₈⟩ := r₇.bind
  obtain ⟨archived, l₉, g₉, h₉, r₉⟩ := r₈.bind
  obtain ⟨_, l₁₀, g₁₀, h₁₀, r₁₀⟩ := r₉.bind
  obtain ⟨_, l₁₁, g₁₁, h₁₁, r₁₁⟩ := r₁₀.bind
  obtain ⟨_, l₁₂, g₁₂, h₁₂, r₁₂⟩ := r₁₁.bind
  have hlock : (.users userId, .update) ∈ l₁.locks := by
    unfold lockPurgeableAccount at h₁
    obtain ⟨found, l', g', h', r'⟩ := h₁.bind
    obtain ⟨hfound, rfl⟩ := r'.ensure
    obtain ⟨gs, -, -, hrows⟩ := h'.selectFor (by decide)
    obtain ⟨a, ha⟩ := List.exists_mem_of_ne_nil _ hfound
    obtain ⟨i, hi, t, r, -, hlock, -, -⟩ := hrows.mem a ha
    obtain rfl := (Store.mem_one.mp hi).1
    exact hlock
  have hw₁ : l₁.writes = [] := (h₁.writes_eq (touches_selectFor.bind fun _ => touches_ensure)).trans hw
  have hw₂ : l₂.writes = [] := by
    rw [h₂.fresh.1]
    exact hw₁
  have hoccurrences : (deleteAccountOccurrences userId).Touches Apart := touches_deleteAccountOccurrences fun _ => trivial
  have hprofiles : (scrubRetainedNotificationProfiles userId).Touches Apart :=
    touches_scrubRetainedNotificationProfiles fun _ => trivial
  have hpayloads : (scrubRetainedPayloads userId tombstoneUserId).Touches Apart :=
    touches_scrubRetainedPayloads (fun _ => trivial) fun _ => trivial
  have howners : (reassignArchivedGroupOwners userId tombstoneUserId).Touches Apart :=
    (touches_change fun _ => trivial).bind fun _ => trivial
  have hmemberships : (deletePurgeableMemberships userId).Touches Apart :=
    (touches_change fun _ => trivial).bind fun _ => trivial
  have hremain : (ensureNoLiveMembershipsRemain userId).Touches Apart := touches_select.bind fun _ => touches_ensure
  have hprivate : (deletePrivateAccountRows userId).Touches Apart := touches_deletePrivateAccountRows
  have hown₄ : OwnIntents l₄ :=
    ((ownIntents_nil hw₂).of_touches h₃ touches_createTombstone fun _ => id).of_touches h₄ hoccurrences fun _ => id
  have hfirst : ∀ (s : Store Row) k, ¬ Apart k → (s.apply l₄.writes).get k = s.get k := fun s k hk => by
    rw [h₄.get_of_touches hoccurrences hk, h₃.get_of_touches touches_createTombstone hk, hw₂, Store.apply_nil]
  have hreassigns := reassigns_reassignRetainedAuthorship h₅
  have hown₁₀ : OwnIntents l₅ → OwnIntents l₁₀ := fun hown =>
    ((((hown.of_touches h₆ hprofiles fun _ => id).of_touches h₇ hpayloads fun _ => id).of_touches h₈ howners
      fun _ => id).of_touches h₉ hmemberships fun _ => id).of_touches h₁₀ hremain fun _ => id
  have hmiddle : ∀ (s : Store Row) k, ¬ Apart k → (s.apply l₁₀.writes).get k = (s.apply l₅.writes).get k := fun s k hk => by
    rw [h₁₀.get_of_touches hremain hk, h₉.get_of_touches hmemberships hk, h₈.get_of_touches howners hk,
      h₇.get_of_touches hpayloads hk, h₆.get_of_touches hprofiles hk]
  have hlocked := (((h₂.returns.evolve.trans h₃.returns.evolve).trans (h₄.returns.evolve.trans h₅.returns.evolve)).trans
    ((h₆.returns.evolve.trans h₇.returns.evolve).trans (h₈.returns.evolve.trans h₉.returns.evolve))).trans
    h₁₀.returns.evolve
  have hev₁₀ := h₁.returns.evolve.trans hlocked
  have hev₁₁ := hev₁₀.trans h₁₁.returns.evolve
  have huploads := drops_enqueueAndDeleteUnboundUploads h₁₁ (hev₁₀.later.history hg) (hev₁₀.coherent hl)
    (hown₁₀ (hreassigns.own hown₄))
  have havatars := drops_enqueueAndDeleteAvatarUploads h₁₂ (hev₁₁.later.history hg) (hev₁₁.coherent hl)
    (huploads.own (hown₁₀ (hreassigns.own hown₄))) ((hlocked.trans h₁₁.returns.evolve).locks hlock) ?_
  · exact (frees_of_statements hown₄ hfirst hreassigns hown₁₀ hmiddle huploads havatars
      (fun hown => hown.of_touches r₁₂ (hprivate.bind fun _ => trivial) fun _ => id)
      fun s k hk => r₁₂.get_of_touches (hprivate.bind fun _ => trivial) hk s).ok hG
  · intro s i
    rw [huploads.frame s _ (fun _ h => by cases h) (fun _ h => by cases h), hmiddle s _ id,
      hreassigns.frame s _ id (fun _ h => by cases h), hfirst s _ id]

end Purge

end JamyeServer.Objects
