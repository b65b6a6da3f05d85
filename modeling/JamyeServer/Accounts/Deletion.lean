import JamyeServer.Accounts.Sessions

/-!
# The start of a grace period under interference

The deletion holds its account `FOR UPDATE` from the beginning. New sessions need `FOR KEY SHARE` on
their account and new identities come with a new account, so the deletion sees all that the account has.
-/

namespace JamyeServer.Accounts

open ReadCommitted Postgres Auth AccountDeletion Push Prog

variable {settings : Settings} {ticks : Time → Time → Bool} {C : Contract (system settings ticks)}
  {l l' L : Local Row Nat} {g g' gs G : Shared} {userId : Uuid}

section Frames

lemma touches_insertControlIntent (intent : RealtimeControlIntent) :
    (insertControlIntent intent).Touches fun k => ¬ isAccount k :=
  ⟨trivial, fun _ => ⟨trivial, fun _ => touches_insertRow id⟩⟩

lemma touches_markMembershipsDeleted (deletedAt : Time) :
    (markMembershipsDeleted userId deletedAt).Touches fun k => ¬ isAccount k :=
  (touches_change fun _ => id).bind fun _ => trivial

lemma touches_disablePushInstallations (deletedAt : Time) :
    (disablePushInstallations userId deletedAt).Touches fun k => ¬ isAccount k :=
  (touches_change fun _ => id).bind fun _ => trivial

lemma touches_prepareDeletion : (prepareDeletion userId).Touches fun _ => False := by
  unfold prepareDeletion
  refine Touches.bind (touches_selectFor.bind fun _ => touches_ensure) fun _ => ?_
  refine touches_selectFor.bind fun _ => touches_ensure.bind fun _ => touches_selectFor.bind fun _ => ?_
  refine Touches.bind (touches_selectFor.bind fun _ => trivial) fun _ => ?_
  refine Touches.bind (touches_selectFor.bind fun _ => trivial) fun _ => ?_
  exact Touches.bind (touches_selectFor.bind fun _ => trivial) fun _ => trivial

end Frames

/-- The deletion has its account, which is live, locked. -/
structure HoldsAccount (userId : Uuid) (l : Local Row Nat) (G : Shared) (u : User) : Prop where
  lock : (.users userId, .update) ∈ l.locks
  row : G.db.get (.users userId) = some u
  live : u.deletedAt = none

lemma prepareDeletion_runs {ms : List AccountDeletionMembership}
    (h : Runs C (prepareDeletion userId) (Local.begin g) g (.ok ms) l' g' L G) :
    l'.writes = [] ∧ ∃ u, HoldsAccount userId l' G u := by
  have hwrites : l'.writes = [] := by
    obtain ⟨ws, hws, hnone⟩ := h.touches touches_prepareDeletion
    cases ws with
    | nil => exact hws
    | cons w ws => exact (hnone w List.mem_cons_self).elim
  refine ⟨hwrites, ?_⟩
  unfold prepareDeletion at h
  obtain ⟨x, l₁, g₁, h₁, h₂⟩ := h.bind
  unfold lockAuthenticAccount at h₁
  obtain ⟨found, l₃, g₃, h₃, h₄⟩ := h₁.bind
  obtain ⟨hfound, rfl⟩ := h₄.ensure
  obtain ⟨gs, -, -, hlk⟩ := h₃.selectFor nofun
  obtain ⟨i, hi⟩ := List.exists_mem_of_ne_nil _ hfound
  obtain ⟨j, hj, t, u, -, hlock, hget, hf⟩ := hlk.mem i hi
  obtain ⟨rfl, -⟩ := Store.mem_one.mp hj
  split at hf
  · rename_i hlive
    exact ⟨u, h₂.returns.evolve.locks hlock, hget, hlive.1⟩
  · cases hf

section Held

variable {u : User}

lemma HoldsAccount.evolve (hu : HoldsAccount userId l G u) (h : Evolve C l g l' g') :
    HoldsAccount userId l' G u := ⟨h.locks hu.lock, hu.row, hu.live⟩

/-- While the account is held, its row is the same in every version. -/
lemma HoldsAccount.version (hu : HoldsAccount userId l G u) (h : Evolve C l g L G) {n : Nat} (hn : g.csn ≤ n)
    (hn' : n ≤ G.csn) : (G.version n).get (.users userId) = some u := by
  have hlock : ∀ m, g.csn ≤ m → m ≤ G.csn → (G.version m).get (.users userId) = g.db.get (.users userId) :=
    fun m hm hm' => h.version_locked hu.lock nofun hm hm'
  rw [hlock n hn hn', ← hlock G.csn h.later.csn_le (Nat.le_refl _)]
  exact hu.row

/-- No session of a held account appears. -/
lemma HoldsAccount.session (hC : Fits C) (hu : HoldsAccount userId l G u) (h : Evolve C l g L G) {n : Nat}
    (hn : g.csn ≤ n) (hn' : n ≤ G.csn) {i : Uuid} {r : RefreshSession}
    (hr : G.db.get (.refreshSessions i) = some r) (hru : r.userId = userId) :
    ∃ r₀, (G.version n).get (.refreshSessions i) = some r₀ ∧ r₀.userId = userId := by
  by_contra hnot
  obtain ⟨e, l₁, g₁, -, -, hl₁, hc, hcp, -, -, hbefore, hafter⟩ :=
    h.commit_of_change (P := fun s => ¬ ∃ r₀, s.get (.refreshSessions i) = some r₀ ∧ r₀.userId = userId)
      hn hn' (Nat.le_refl _) hnot (not_not_intro ⟨r, hr, hru⟩)
  obtain ⟨r₁, hr₁, hru₁⟩ := not_not.mp hafter
  rcases (hC.ok _ _ hc.ok).sessionStep.source hr₁ with ⟨r₀, hr₀, hages⟩ | ⟨-, hshare, -, -⟩
  · exact hbefore ⟨r₀, hr₀, hages.userId.symm.trans hru₁⟩
  · rw [hru₁] at hshare
    have hno := hcp.locks _ _ _ (hl₁.locks hu.lock) hshare
    cases hno

/-- No identity of a held account appears, and those that it has are live. -/
lemma HoldsAccount.identity (hC : Fits C) (hg : History C g) (hu : HoldsAccount userId l G u)
    (h : Evolve C l g L G) {n : Nat} (hn : g.csn ≤ n) (hn' : n ≤ G.csn) {i : Uuid} {r : AuthIdentity}
    (hr : G.db.get (.authIdentities i) = some r) (hru : r.userId = userId) :
    ∃ r₀, (G.version n).get (.authIdentities i) = some r₀ ∧ r₀.userId = userId ∧ r₀.deletedAt = none := by
  have hG : History C G := h.later.history hg
  have hthere : ∃ r₀, (G.version n).get (.authIdentities i) = some r₀ ∧ r₀.userId = userId := by
    by_contra hnot
    obtain ⟨e, g₁, hng₁, hg₁, -, -, hc, hbefore, hafter, hlater⟩ :=
      hG.commit_of_change (P := fun s => ¬ ∃ r₀, s.get (.authIdentities i) = some r₀ ∧ r₀.userId = userId)
        hn' (Nat.le_refl _) hnot (not_not_intro ⟨r, hr, hru⟩)
    obtain ⟨r₁, hr₁, hru₁⟩ := not_not.mp hafter
    rcases (hC.ok _ _ hc.ok).accountStep.identity hr₁ with ⟨r₀, hr₀, hr₀u, -⟩ | ⟨-, hnouser, -⟩
    · exact hbefore ⟨r₀, hr₀, hr₀u.symm.trans hru₁⟩
    · have hrow := hu.version h (Nat.le_trans hn hng₁) (Nat.le_of_lt hg₁)
      rw [hlater.version_commit.1, ← hru₁, hnouser] at hrow
      cases hrow
  obtain ⟨r₀, hr₀, hr₀u⟩ := hthere
  refine ⟨r₀, hr₀, hr₀u, ?_⟩
  obtain ⟨g₁, hg₁, -, hdb, -⟩ := hG.version hn'
  have hrow := hu.version h hn hn'
  rw [← hdb] at hr₀ hrow
  exact ((hC.wellFormed hg₁).identityLive i r₀ u hr₀ (hr₀u ▸ hrow)).mpr hu.live

lemma HoldsAccount.markUserDeleted (hu : HoldsAccount userId l G u) (hl : l.writes = []) {deletedAt : Time}
    (h : Runs C (markUserDeleted userId) l g (.ok deletedAt) l' g' L G) :
    (G.db.apply l'.writes).get (.users userId) = some (User.markDeleted deletedAt u) ∧
      ∀ s : Store Row, ∀ k, k ≠ .users userId → (s.apply l'.writes).get k = s.get k := by
  have hempty : ∀ s : Store Row, s.apply l.writes = s := fun s => by rw [hl, Store.apply_nil]
  unfold AccountDeletion.markUserDeleted at h
  obtain ⟨now, l₁, g₁, h₁, hrest⟩ := h.bind
  obtain ⟨marked, l₂, g₂, h₂, h₃⟩ := hrest.bind
  obtain ⟨rfl, -⟩ := h₁.clock
  obtain ⟨hhead, rfl⟩ := h₃.ofOption
  obtain ⟨gs, ws, -, -, hch⟩ := h₂.update fun s => s.nodup_one ..
  constructor
  · obtain ⟨i, hi, t, u', v, -, -, hget, hf, hafter⟩ := hch.returned (List.mem_of_head? hhead)
    obtain ⟨rfl, -⟩ := Store.mem_one.mp hi
    dsimp only at hget
    rw [hempty, hu.row] at hget
    cases hget
    rw [if_pos hu.live] at hf
    cases hf
    exact hafter
  · intro s k hk
    have hk' := hch.get_of_ne s (k := k) fun i hi => by
      obtain ⟨rfl, -⟩ := Store.mem_one.mp hi
      exact hk
    dsimp only at hk'
    rwa [hempty] at hk'

lemma HoldsAccount.revokeRefreshSessions (hC : Fits C) (hg : History C g) (hu : HoldsAccount userId l G u)
    {deletedAt : Time} {r : Unit} (h : Runs C (revokeRefreshSessions userId deletedAt) l g (.ok r) l' g' L G)
    (hl : ∀ (s : Store Row) i, (s.apply l.writes).get (.refreshSessions i) = s.get (.refreshSessions i)) :
    SessionsRevoked (G.db.apply l.writes) (G.db.apply l'.writes) ∧
      (∀ i r, G.db.get (.refreshSessions i) = some r → r.userId = userId →
        ∃ r', (G.db.apply l'.writes).get (.refreshSessions i) = some r' ∧ r'.deletedAt ≠ none) ∧
      ∀ s : Store Row, ∀ k, (∀ i, k ≠ .refreshSessions i) → (s.apply l'.writes).get k = (s.apply l.writes).get k := by
  have hG : History C G := h.evolve.later.history hg
  unfold AccountDeletion.revokeRefreshSessions at h
  obtain ⟨as, l₁, g₁, h₁, h₂⟩ := h.bind
  obtain ⟨-, rfl⟩ := h₂.ret
  obtain ⟨gs, ws, hgs, hgs', hch⟩ := h₁.update fun s => s.nodup_ids ..
  have hgsG : gs.csn ≤ G.csn := (hgs'.trans h₁.rest.later).csn_le
  have hsessions := sessionsRevoked_of_changed hch fun i t r x hx => by
    split at hx
    · cases hx
      exact revoked_delete _ _ _
    · cases hx
  refine ⟨hsessions, fun i r hr hru => ?_, fun s k hk => hch.get_of_ne s fun i _ => hk i⟩
  have hdb : (G.db.apply l.writes).get (.refreshSessions i) = some r := (hl _ i).trans hr
  by_cases hdel : r.deletedAt = none
  · -- the session is in the snapshot of the statement and is still live when the statement visits it
    obtain ⟨r₀, hr₀, hr₀u⟩ := hu.session hC h₁.evolve hgs.csn_le hgsG hr hru
    have hsnap : ((G.version gs.csn).apply l.writes).get (.refreshSessions i) = some r₀ := (hl _ i).trans hr₀
    obtain ⟨r₁, hr₁, hages⟩ := hC.ages hG hgsG (Nat.le_refl _) hr₀
    obtain rfl : r₁ = r := Option.some.inj (hr₁.symm.trans hr)
    have hdel₀ : r₀.deletedAt = none := by
      by_contra hne
      exact hages.deletedAt hne hdel
    have hin : i ∈ ((G.version gs.csn).apply l.writes).ids Tables.refreshSessions fun _ r =>
        decide (r.userId = userId) && r.deletedAt.isNone :=
      Store.mem_ids.mpr ⟨r₀, hsnap, by simp [hr₀u, hdel₀]⟩
    rcases hch.get hin with hmiss | ⟨t, r₂, -, -, hget, hafter⟩
    · refine absurd hmiss (hC.session_not_missing hG (Nat.le_refl _) h₁.rest.later.csn_le ?_)
      exact fun hnone => by simp [hsnap] at hnone
    · obtain rfl : r₂ = r₁ := Option.some.inj (hget.symm.trans hdb)
      rw [if_pos ⟨hru, hdel⟩] at hafter
      exact ⟨_, hafter, nofun⟩
  · rcases hsessions i with hsame | ⟨r₁, r', hr₁, hr', hrev⟩
    · exact ⟨r, hsame.trans hdb, hdel⟩
    · obtain rfl : r₁ = r := Option.some.inj (hr₁.symm.trans hdb)
      exact ⟨r', hr', hrev.deletedAt hdel⟩

lemma HoldsAccount.softDeleteAuthIdentities (hC : Fits C) (hg : History C g) (hu : HoldsAccount userId l G u)
    {deletedAt : Time} {r : Unit} (h : Runs C (softDeleteAuthIdentities userId deletedAt) l g (.ok r) l' g' L G)
    (hl : ∀ (s : Store Row) i, (s.apply l.writes).get (.authIdentities i) = s.get (.authIdentities i)) :
    (∀ i r, G.db.get (.authIdentities i) = some r → r.userId = userId →
        (G.db.apply l'.writes).get (.authIdentities i) = some (AuthIdentity.delete deletedAt r)) ∧
      (∀ i, (∀ r, G.db.get (.authIdentities i) = some r → r.userId ≠ userId) →
        (G.db.apply l'.writes).get (.authIdentities i) = G.db.get (.authIdentities i)) ∧
      ∀ s : Store Row, ∀ k, (∀ i, k ≠ .authIdentities i) → (s.apply l'.writes).get k = (s.apply l.writes).get k := by
  have hG : History C G := h.evolve.later.history hg
  unfold AccountDeletion.softDeleteAuthIdentities at h
  obtain ⟨as, l₁, g₁, h₁, h₂⟩ := h.bind
  obtain ⟨-, rfl⟩ := h₂.ret
  obtain ⟨gs, ws, hgs, hgs', hch⟩ := h₁.update fun s => s.nodup_ids ..
  have hgsG : gs.csn ≤ G.csn := (hgs'.trans h₁.rest.later).csn_le
  refine ⟨fun i r hr hru => ?_, fun i hi => ?_, fun s k hk => hch.get_of_ne s fun i _ => hk i⟩
  · have hlive : ∀ m, g.csn ≤ m → m ≤ G.csn → ∃ r₀, (G.version m).get (.authIdentities i) = some r₀ ∧
        r₀.userId = userId ∧ r₀.deletedAt = none :=
      fun m hm hm' => hu.identity hC hg h₁.evolve hm hm' hr hru
    obtain ⟨r₀, hr₀, hr₀u, hr₀d⟩ := hlive gs.csn hgs.csn_le hgsG
    obtain ⟨r₁, hr₁, -, hr₁d⟩ := hlive G.csn h₁.evolve.later.csn_le (Nat.le_refl _)
    obtain rfl : r₁ = r := Option.some.inj (hr₁.symm.trans hr)
    have hin : i ∈ ((G.version gs.csn).apply l.writes).ids Tables.authIdentities fun _ r =>
        decide (r.userId = userId) && r.deletedAt.isNone :=
      Store.mem_ids.mpr ⟨r₀, (hl _ i).trans hr₀, by simp [hr₀u, hr₀d]⟩
    rcases hch.get hin with ⟨m, hm, hm', hmiss⟩ | ⟨t, r₂, -, -, hget, hafter⟩
    · obtain ⟨r₂, hr₂, -⟩ := hlive m (Nat.le_trans hgs.csn_le hm) (Nat.le_trans hm' h₁.rest.later.csn_le)
      rw [show ((G.version m).apply l.writes).get (.authIdentities i) = some r₂ from (hl _ i).trans hr₂] at hmiss
      cases hmiss
    · obtain rfl : r₂ = r₁ := Option.some.inj (hget.symm.trans ((hl _ i).trans hr))
      rw [if_pos ⟨hru, hr₁d⟩] at hafter
      exact hafter
  · rcases hch.row i with hsame | ⟨j, -, hj, t, r, v, a, -, hget, hf, -⟩
    · exact hsame.trans (hl _ i)
    · obtain rfl : j = i := by simpa using hj
      have hne := hi r ((hl _ j).symm.trans hget)
      rw [if_neg fun hc => hne hc.1] at hf
      cases hf

end Held

/-- A deletion marks the account and everything that signs in to it. -/
lemma Fits.deleteAccountGrace (hC : Fits C) (hg : History C g) {report : AccountDeletionReport}
    (h : Runs C (deleteAccountGrace userId) (Local.begin g) g (.ok report) L g' L G) :
    ∃ u now, Deleted userId L G u now := by
  unfold AccountDeletion.deleteAccountGrace at h
  obtain ⟨ms, l₁, g₁, hr₁, hrest⟩ := h.bind
  obtain ⟨report', l₂, g₂, hr₂, hrest⟩ := hrest.bind
  obtain ⟨x, l₃, g₃, hr₃, hr₄⟩ := hrest.bind
  obtain ⟨-, rfl⟩ := hr₄.ret
  obtain ⟨hw₁, u, hu⟩ := prepareDeletion_runs hr₁.mapError
  have hgrace := hr₂.mapError
  unfold startGracePeriod at hgrace
  obtain ⟨deletedAt, m₁, n₁, h₁, hrest⟩ := hgrace.bind
  obtain ⟨groups, m₂, n₂, h₂, hrest⟩ := hrest.bind
  obtain ⟨x₃, m₃, n₃, h₃, hrest⟩ := hrest.bind
  obtain ⟨x₄, m₄, n₄, h₄, hrest⟩ := hrest.bind
  obtain ⟨x₅, m₅, n₅, h₅, hrest⟩ := hrest.bind
  obtain ⟨x₆, m₆, n₆, h₆, h₇⟩ := hrest.bind
  obtain ⟨-, rfl⟩ := h₇.ret
  have hg₂ : History C n₂ :=
    ((hr₁.returns.evolve.trans h₁.returns.evolve).trans h₂.returns.evolve).later.history hg
  have hg₄ : History C n₄ := (h₃.returns.evolve.trans h₄.returns.evolve).later.history hg₂
  have hu₂ : HoldsAccount userId m₂ G u := hu.evolve (h₁.returns.evolve.trans h₂.returns.evolve)
  have hu₄ : HoldsAccount userId m₄ G u := hu₂.evolve (h₃.returns.evolve.trans h₄.returns.evolve)
  have hlock : (.users userId, .update) ∈ L.locks := (hu₄.evolve h₅.evolve).lock
  -- the statements on other tables
  have f₂ : ∀ (s : Store Row) k, isAccount k → (s.apply m₂.writes).get k = (s.apply m₁.writes).get k :=
    fun s k hk => h₂.get_of_touches (touches_markMembershipsDeleted deletedAt) (not_not_intro hk) s
  have f₄ : ∀ (s : Store Row) k, isAccount k → (s.apply m₄.writes).get k = (s.apply m₃.writes).get k :=
    fun s k hk => h₄.get_of_touches (touches_disablePushInstallations deletedAt) (not_not_intro hk) s
  have f₆ : ∀ (s : Store Row) k, isAccount k → (s.apply L.writes).get k = (s.apply m₅.writes).get k := by
    intro s k hk
    have hfence : ¬ isDelivery k := by
      cases k <;> first | exact id | exact hk.elim
    rw [hr₃.get_of_touches (touches_each fun m _ => (touches_fenceMembershipRevocation m.groupId userId).mapError) hfence s]
    exact h₆.get_of_touches (touches_each fun i _ => touches_insertControlIntent _) (not_not_intro hk) s
  -- the statements on accounts, sessions and identities
  obtain ⟨huser, hkeep₁⟩ := hu.markUserDeleted hw₁ h₁
  have hkeep₂ : ∀ (s : Store Row) k, isAccount k → k ≠ .users userId → (s.apply m₂.writes).get k = s.get k :=
    fun s k hk hne => (f₂ s k hk).trans (hkeep₁ s k hne)
  obtain ⟨hsessions, hall, hkeep₃⟩ :=
    hu₂.revokeRefreshSessions hC hg₂ h₃ fun s i => hkeep₂ s (.refreshSessions i) trivial fun h => by cases h
  have hkeep₄ : ∀ (s : Store Row) k, isAccount k → (∀ i, k ≠ .refreshSessions i) →
      (s.apply m₄.writes).get k = (s.apply m₂.writes).get k :=
    fun s k hk hne => (f₄ s k hk).trans (hkeep₃ s k hne)
  obtain ⟨hown, hothers, hkeep₅⟩ := hu₄.softDeleteAuthIdentities hC hg₄ h₅ fun s i =>
    (hkeep₄ s (.authIdentities i) trivial fun _ h => by cases h).trans
      (hkeep₂ s (.authIdentities i) trivial fun h => by cases h)
  have hsession : ∀ i, (G.view L).get (.refreshSessions i) = (G.db.apply m₃.writes).get (.refreshSessions i) := by
    intro i
    rw [Shared.view, f₆ _ (.refreshSessions i) trivial, hkeep₅ _ (.refreshSessions i) (fun _ h => by cases h),
      f₄ _ (.refreshSessions i) trivial]
  have husers : ∀ i, (G.view L).get (.users i) = (G.db.apply m₁.writes).get (.users i) := by
    intro i
    rw [Shared.view, f₆ _ (.users i) trivial, hkeep₅ _ (.users i) (fun _ h => by cases h),
      hkeep₄ _ (.users i) trivial (fun _ h => by cases h), f₂ _ (.users i) trivial]
  refine ⟨u, deletedAt, ⟨hu.row, hu.live, (husers userId).trans huser, fun i hi => ?_, fun i r hr hru => ?_,
    fun i hi => ?_⟩, fun i => ?_, fun i r hr hru => ?_, hlock⟩
  · exact (husers i).trans (hkeep₁ _ _ (by simpa using hi))
  · exact (f₆ _ (.authIdentities i) trivial).trans (hown i r hr hru)
  · exact (f₆ _ (.authIdentities i) trivial).trans (hothers i hi)
  · have hi := hsessions i
    rwa [hkeep₂ _ (.refreshSessions i) trivial (fun h => by cases h), ← hsession] at hi
  · obtain ⟨r', hr', hdel⟩ := hall i r hr hru
    exact ⟨r', (hsession i).trans hr', hdel⟩

end JamyeServer.Accounts
