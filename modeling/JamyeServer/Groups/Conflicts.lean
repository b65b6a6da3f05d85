import JamyeServer.Groups.Mutations
import JamyeServer.Accounts.Errors

/-!
# The unique index of live memberships

No redemption and no restore fails because of it. A redemption checks the memberships again under the
locks of the group and the account, and a restore holds the account and skips the groups in which it has
a live membership.
-/

namespace JamyeServer.Groups

open ReadCommitted Prog Postgres Auth Groups AccountDeletion

variable {settings : Settings} {ticks : Time → Time → Bool} {C : Contract (system settings ticks)}
  {l l' L : Local Row Nat} {g g' G : Shared} {H T actor memberId : Uuid} {code : String} {now : Time}

/-- A row that has the index entry of a live membership. -/
lemma live_of_violation {s : Store Row} {m : Uuid} {r : Membership} {k : Key} (hlive : r.deletedAt = none)
    (h : violation index s (.memberships m) (entries index (.memberships m) (some r)) = some k) :
    ∃ m', k = .memberships m' ∧ m' ≠ m ∧ LiveMember s m' r.groupId r.userId := by
  obtain ⟨hne, x, hx, hmem⟩ := violation_eq_some h
  obtain rfl : x = .membership r.groupId r.userId := by
    simpa [entries, index, indexedIf, hlive] using hx
  cases hget : s.get k with
  | none => simp [entries, hget] at hmem
  | some row =>
    rw [hget] at hmem
    obtain ⟨j, rfl⟩ : ∃ j, k = .memberships j := by
      cases k with
      | memberships j => exact ⟨j, rfl⟩
      | chatrooms m =>
        simp only [entries, Option.elim_some, index] at hmem
        split at hmem <;> simp at hmem
      | _ => simp [entries, index, indexedIf] at hmem
    by_cases hd : row.deletedAt = none
    · simp only [entries, Option.elim_some, index, indexedIf, hd, Option.isNone_none, if_true, List.mem_singleton,
        Idx.membership.injEq] at hmem
      exact ⟨j, rfl, by simpa using hne, row, hget, hmem.1.symm, hmem.2.symm, hd⟩
    · rw [← Option.isNone_iff_eq_none, Bool.not_eq_true] at hd
      simp [entries, index, indexedIf, hd] at hmem

section Redemption

/-- An insertion meets the index when the user is a member. -/
lemma insertMembership_conflict (hl : l.writes = []) {role : GroupRole} {operation : String}
    (h : Runs C (insertMembership memberId H T role operation) l g (.error .membershipConflict) l' g' L G) :
    ∃ n m, g.csn ≤ n ∧ n ≤ G.csn ∧ LiveMember (G.version n) m H T := by
  unfold insertMembership at h
  rcases h.bind_error with h₁ | ⟨t, l₁, g₁, h₁, hrest⟩
  · exact (Runs.not_op_error h₁).elim
  obtain ⟨rfl, -⟩ := h₁.clock
  rcases hrest.bind_error with h₂ | ⟨found, l₂, g₂, h₂, h₃⟩
  · exact (Runs.not_op_error h₂).elim
  cases found with
  | none => exact (h₃.failsIn (P := (· ≠ .membershipConflict)) (failsIn_references nofun) rfl).elim
  | some k =>
    have herror := h₃.fail
    split at herror
    · cases herror
    rename_i hk
    obtain ⟨hnone, -⟩ | ⟨-, -, n, hn, hn', hcol⟩ := h₂.insert
    · cases hnone
    rw [hl, Store.apply_nil] at hcol
    unfold collision at hcol
    split at hcol
    · exact absurd (Option.some.inj hcol) hk
    obtain ⟨m, -, -, hlive⟩ := live_of_violation (r := ⟨H, T, role, t, none, none⟩) rfl hcol.symm
    exact ⟨n, m, Nat.le_trans h₁.returns.evolve.later.csn_le hn, Nat.le_trans hn' h₂.rest.later.csn_le, hlive⟩

/-- A user with a live account whose membership is not found is no member. -/
lemma not_live_of_memberships {s : Store Row} (hu : ∃ u, s.get (.users T) = some u ∧ u.deletedAt = none)
    (h : memberships s H T = []) (m : Uuid) : ¬ LiveMember s m H T := by
  rintro ⟨r, hr, hgroup, huser, hlive⟩
  have hmem : (m, r.role) ∈ memberships s H T := mem_memberships.mpr ⟨r, ⟨hr, huser ▸ hu⟩, hgroup, huser, hlive, rfl⟩
  rw [h] at hmem
  cases hmem

/-- The rest of a redemption does not meet the index: the user, who was no member at the second check, does not
become one. -/
lemma joinWith_error (hC : Obeys C) (hl : l.writes = []) {group : GroupRecord} {h₀ : Group}
    (hheld : HoldsGroup H group h₀ l G) (huser : (.users actor, .share) ∈ l.locks)
    (haccount : ∃ u, G.db.get (.users actor) = some u ∧ u.deletedAt = none) {error : GroupsRepositoryError}
    (h : Runs C (joinWith ⟨memberId, actor, code, now⟩ group H) l g (.error error) l' g' L G) :
    error ≠ .membershipConflict := by
  rintro rfl
  unfold joinWith at h
  rcases h.bind_error with h₁ | ⟨locked, l₁, g₁, h₁, hrest₁⟩
  · exact h₁.failsIn (P := (· ≠ .membershipConflict)) failsIn_selectFor rfl
  rcases hrest₁.bind_error with h₂ | ⟨p, l₂, g₂, h₂, hrest₂⟩
  · exact h₂.failsIn (P := (· ≠ .membershipConflict)) (failsIn_ofOption nofun) rfl
  rcases hrest₂.bind_error with h₃ | ⟨_, l₃, g₃, h₃, hrest₃⟩
  · exact h₃.failsIn (P := (· ≠ .membershipConflict)) (failsIn_ensure nofun) rfl
  rcases hrest₃.bind_error with h₄ | ⟨existing, l₄, g₄, h₄, hrest₄⟩
  · exact h₄.failsIn (P := (· ≠ .membershipConflict)) failsIn_select rfl
  obtain ⟨hp, rfl⟩ := h₂.ofOption
  obtain ⟨-, rfl⟩ := h₃.ensure
  obtain ⟨hl₁, -, -, -, -⟩ := lockInvite_holds hl h₁ hp
  have hheld₁ : HoldsGroup H group h₀ l₃ G := hheld.mono h₁.returns.evolve.locks
  have huser₁ : (.users actor, .share) ∈ l₃.locks := h₁.returns.evolve.locks huser
  obtain ⟨hl₄, -, -, hnone⟩ := membership_runs hC hl₁ hheld₁ h₄
  by_cases hsome : existing.isSome = true
  · rw [if_pos hsome] at hrest₄
    exact Runs.not_ret_error hrest₄
  rw [if_neg hsome] at hrest₄
  obtain ⟨n, hn, hn', hempty⟩ := hnone (Option.not_isSome_iff_eq_none.mp hsome)
  rcases hrest₄.bind_error with h₅ | ⟨_, l₅, g₅, h₅, hrest₅⟩
  · exact h₅.failsIn (P := (· ≠ .membershipConflict)) (failsIn_ensure nofun) rfl
  rcases hrest₅.bind_error with h₆ | ⟨_, l₆, g₆, h₆, hrest₆⟩
  · exact h₆.failsIn (P := (· ≠ .membershipConflict)) (failsIn_ensure nofun) rfl
  rcases hrest₆.bind_error with h₇ | ⟨count, l₇, g₇, h₇, hrest₇⟩
  · exact h₇.failsIn (P := (· ≠ .membershipConflict)) failsIn_select rfl
  rcases hrest₇.bind_error with h₈ | ⟨_, l₈, g₈, h₈, h₉⟩
  · exact h₈.failsIn (P := (· ≠ .membershipConflict)) (failsIn_ensure nofun) rfl
  have hlater : Later C g₄ g₈ := ((h₅.returns.evolve.trans h₆.returns.evolve).trans
    (h₇.returns.evolve.trans h₈.returns.evolve)).later
  obtain ⟨-, rfl⟩ := h₅.ensure
  obtain ⟨-, rfl⟩ := h₆.ensure
  obtain ⟨-, rfl⟩ := h₈.ensure
  obtain ⟨gs, -, -, rfl, -⟩ := h₇.select
  unfold join at h₉
  rcases h₉.bind_error with h₁₀ | ⟨_, l₁₀, g₁₀, -, hrest₁₀⟩
  swap
  · refine hrest₁₀.failsIn (P := (· ≠ .membershipConflict)) ?_ rfl
    exact .bind (failsIn_change nofun) fun _ => .bind (failsIn_ensure nofun) fun _ => trivial
  have hl₇ : ({ l₆ with snapshots := gs.csn :: l₆.snapshots } : Local Row Nat).writes = [] := hl₄
  obtain ⟨k, m, hk, hk', hlive⟩ := insertMembership_conflict hl₇ h₁₀
  have hgroup : G.db.get (.groups H) ≠ none := by rw [hheld.row]; exact nofun
  have haccount₁ : ∃ u, (G.version n).get (.users actor) = some u ∧ u.deletedAt = none := by
    rw [h₄.evolve.version_locked huser₁ nofun hn (Nat.le_trans hn' h₄.rest.later.csn_le),
      ← h₄.evolve.db_locked huser₁ nofun]
    exact haccount
  exact absent_stable hC h₄.evolve hheld₁.lock huser₁ hgroup hn (not_live_of_memberships haccount₁ hempty m)
    (Nat.le_trans hn' (Nat.le_trans hlater.csn_le hk)) hk' hlive

lemma redeemInvite_error (hC : Obeys C) (hl : l.writes = []) {error : GroupsRepositoryError}
    (h : Runs C (redeemInvite ⟨memberId, actor, code, now⟩) l g (.error error) l' g' L G) :
    error ≠ .membershipConflict := by
  rw [redeemInvite_eq] at h
  rcases h.bind_error with h₁ | ⟨_, l₁, g₁, h₁, hrest₁⟩
  · exact h₁.failsIn (P := (· ≠ .membershipConflict)) (.bind failsIn_selectFor fun _ => failsIn_ensure nofun)
  rcases hrest₁.bind_error with h₂ | ⟨found, l₂, g₂, h₂, hrest₂⟩
  · exact h₂.failsIn (P := (· ≠ .membershipConflict)) failsIn_select
  rcases hrest₂.bind_error with h₃ | ⟨H, l₃, g₃, h₃, hrest₃⟩
  · exact h₃.failsIn (P := (· ≠ .membershipConflict)) (failsIn_ofOption nofun)
  rcases hrest₃.bind_error with h₄ | ⟨group, l₄, g₄, h₄, hrest₄⟩
  · exact h₄.failsIn (P := (· ≠ .membershipConflict)) (.bind failsIn_selectFor fun _ => failsIn_ofOption nofun)
  rcases hrest₄.bind_error with h₅ | ⟨existing, l₅, g₅, h₅, hrest₅⟩
  · exact h₅.failsIn (P := (· ≠ .membershipConflict)) failsIn_select
  obtain ⟨hl₁, huser, haccount⟩ := requireLiveAccount_holds hl h₁
  obtain ⟨gs, -, -, rfl, -⟩ := h₂.select
  obtain ⟨-, rfl⟩ := h₃.ofOption
  have hl₂ : ({ l₁ with snapshots := gs.csn :: l₁.snapshots } : Local Row Nat).writes = [] := hl₁
  obtain ⟨hl₄, hsub₄, h₀, hheld⟩ := lockLiveGroup_holds hl₂ h₄
  obtain ⟨hl₅, hlocks₅, -, -⟩ := membership_runs hC hl₄ hheld h₅
  by_cases hsome : existing.isSome = true
  · rw [if_pos hsome] at hrest₅
    exact (Runs.not_ret_error hrest₅).elim
  rw [if_neg hsome] at hrest₅
  have hheld₅ : HoldsGroup H group h₀ l₅ G := hheld.mono (hlocks₅ ▸ List.Subset.refl _)
  exact joinWith_error hC hl₅ hheld₅ (hlocks₅ ▸ hsub₄ huser) haccount hrest₅

lemma redeem_error (hC : Obeys C) {error : GroupsError}
    (h : Runs C (redeem actor code now) (Local.begin g) g (.error error) l' g' L G) :
    error ≠ .repository .membershipConflict := by
  rcases h.bind_error with h₁ | ⟨_, l₁, g₁, h₁, hrest₁⟩
  · exact h₁.failsIn (P := (· ≠ .repository .membershipConflict)) (failsIn_ensure nofun)
  obtain ⟨-, rfl⟩ := h₁.ensure
  rcases hrest₁.bind_error with h₂ | ⟨memberId, l₂, g₂, h₂, h₃⟩
  · exact (Runs.not_op_error h₂).elim
  have hl₂ : l₂.writes = [] := by rw [h₂.fresh.1]; rfl
  obtain ⟨error, rfl, h₄⟩ := h₃.mapError_error
  have hne := redeemInvite_error hC hl₂ h₄
  simpa using hne

end Redemption

section Restore

variable {identity : NewProviderIdentity} {grace : Nat}

/-- The memberships that a restore revives have no live one beside them. -/
lemma restoreAccount_error (hC : Obeys C) (hg : History C g) (hl : l.writes = []) (hlock : (.users T, .update) ∈ l.locks)
    {identityId : Uuid} {session : NewRefreshSession} {error : AuthRepositoryError}
    (h : Runs C (restoreAccount identityId T session) l g (.error error) l' g' L G) :
    error ≠ .unavailable "membership_restore" := by
  have hG : History C G := h.evolve.later.history hg
  unfold restoreAccount at h
  rcases h.bind_error with h₁ | ⟨_, l₁, g₁, h₁, hrest₁⟩
  · exact h₁.failsIn (P := (· ≠ .unavailable "membership_restore")) (.bind failsIn_select fun _ => failsIn_ensure nofun)
  rcases hrest₁.bind_error with h₂ | ⟨_, l₂, g₂, h₂, hrest₂⟩
  · exact h₂.failsIn (P := (· ≠ .unavailable "membership_restore")) (failsIn_change (by decide))
  rcases hrest₂.bind_error with h₃ | ⟨_, l₃, g₃, h₃, hrest₃⟩
  · exact h₃.failsIn (P := (· ≠ .unavailable "membership_restore")) (failsIn_change (by decide))
  rcases hrest₃.bind_error with h₄ | ⟨_, l₄, g₄, h₄, hrest₄⟩
  swap
  · refine hrest₄.failsIn (P := (· ≠ .unavailable "membership_restore")) (.bind ?_ fun _ => trivial)
    exact .bind failsIn_op fun _ => failsIn_insertRow (by decide)
  intro _
  have hframe : ∀ (s : Store Row) (k : Key), ¬ isAccount k → (s.apply l₃.writes).get k = s.get k := by
    intro s k hk
    rw [h₃.get_of_touches (P := isAccount) (touches_change fun _ => trivial) hk,
      h₂.get_of_touches (P := isAccount) (touches_change fun _ => trivial) hk,
      h₁.get_of_touches (P := isAccount) (touches_select.bind fun _ => touches_ensure) hk, hl, Store.apply_nil]
  have hlock₃ : (.users T, .update) ∈ l₃.locks :=
    ((h₁.returns.evolve.trans h₂.returns.evolve).trans h₃.returns.evolve).locks hlock
  obtain ⟨gs, before, m, as, ws, l₄, g₄, hgs, hnew, -, hch, t, r, r', a, n, k, hrow, hf, hn, hn', hv⟩ :=
    h₄.update_error fun s => s.nodup_ids ..
  split at hf
  swap
  · cases hf
  rename_i hrestorable
  cases hf
  obtain ⟨huser, hdel, hflag, -, hnone⟩ := membershipRestorable_iff.mp hrestorable
  have hnG : n ≤ G.csn := Nat.le_trans hn' h₄.rest.later.csn_le
  obtain ⟨m', rfl, hne, r₁, hr₁, hgroup₁, huser₁, hlive₁⟩ := live_of_violation (by rfl) hv
  have hother : ∀ j ∈ before, Key.memberships m ≠ .memberships j := by
    rintro j hj heq
    cases heq
    exact hnew hj
  rw [hch.get_of_ne _ hother] at hrow
  dsimp only at hrow
  rw [hframe _ _ id] at hrow
  have hws : l₄.writes = ws ++ l₃.writes := by rw [hch.frame]
  rw [hws, Store.apply_append] at hr₁
  by_cases hmem : Key.memberships m' ∈ ws.map Write.key
  · -- a row that the same statement has revived
    obtain ⟨w, hw, hkey⟩ := List.mem_map.mp hmem
    obtain ⟨j, hj, t', r₂, v, a', -, -, hr₂, hf₂, -, rfl⟩ := hch.mem w hw
    cases hkey
    dsimp only at hr₂
    rw [hframe _ _ id] at hr₂
    rw [Store.get_apply_of_mem_nodup _ hch.nodup hw] at hr₁
    obtain ⟨⟨r₃, b⟩, hf₃, hx⟩ := Option.map_eq_some_iff.mp hf₂
    cases hx
    cases hr₁
    split at hf₃
    swap
    · cases hf₃
    rename_i hrestorable₂
    cases hf₃
    obtain ⟨huser₂, hdel₂, hflag₂, -⟩ := membershipRestorable_iff.mp hrestorable₂
    have hwf := wellFormed_of_history hC hG
    exact hne (hwf.once m' m r₂ r hr₂ hrow hgroup₁ huser₁ (.inr hflag₂) (.inr hflag))
  · -- a row that was live when the statement began
    rw [Store.get_apply_of_notMem _ hmem, hframe _ _ id] at hr₁
    have hseen := live_since hC h₃.rest hlock₃ hgs.csn_le hn hnG ⟨r₁, hr₁, hgroup₁, huser₁.trans huser, hlive₁⟩
    obtain ⟨r₂, hr₂, hpair⟩ := hseen
    refine hnone m' ⟨r₂, (hframe _ _ id).trans hr₂, ?_⟩
    rw [huser]
    exact hpair

lemma exchange_error (hC : Obeys C) (hg : History C g) {error : Failure}
    (h : Runs C (program settings (.purge (.account (.exchange identity now)))) (Local.begin g) g (.error error) l' g' L G) :
    error ≠ .purge (.account (.auth (.databaseUnavailable "membership_restore"))) := by
  rintro rfl
  rcases h.bind_error with h₁ | ⟨_, l₁, g₁, -, h₂⟩
  swap
  · exact Runs.not_ret_error h₂
  obtain ⟨error₁, herror₁, h₁⟩ := h₁.mapError_error
  cases herror₁
  rcases h₁.bind_error with h₃ | ⟨_, l₁, g₁, -, h₂⟩
  swap
  · exact Runs.not_ret_error h₂
  obtain ⟨error₂, herror₂, h₃⟩ := h₃.mapError_error
  cases herror₂
  rcases h₃.bind_error with h₄ | ⟨_, l₁, g₁, -, h₂⟩
  swap
  · exact Runs.not_ret_error h₂
  obtain ⟨error₃, herror₃, h₄⟩ := h₄.mapError_error
  cases herror₃
  obtain ⟨session, l₅, g₅, l₆, g₆, hg₅, hl₅, h₅⟩ := Accounts.createOrRestoreSession_error (by decide) h₄
  rw [restoreDeletedIdentityRecord_eq] at h₅
  rcases h₅.bind_error with h₆ | ⟨y, l₇, g₇, h₆, h₇⟩
  · exact h₆.failsIn (P := (· ≠ .unavailable "membership_restore")) Accounts.identityRestoreLookup_failsIn rfl
  cases y with
  | none => exact Runs.not_ret_error h₇
  | some p =>
    obtain ⟨hl₇, hlock, -⟩ := identityRestoreLookup_locks hl₅ h₆
    exact restoreAccount_error hC ((hg₅.trans h₆.returns.evolve.later).history hg) hl₇ hlock h₇ rfl

end Restore

lemma fails (hC : Obeys C) (hg : History C g) {job : Job} {error : Failure}
    (h : Runs C (program settings job) (Local.begin g) g (.error error) l' g' L G) : MayFail job error := by
  unfold MayFail
  split
  · rcases h.bind_error with h₁ | ⟨_, l₁, g₁, -, h₂⟩
    · obtain ⟨error₁, rfl, h₃⟩ := h₁.mapError_error
      have hne := redeem_error hC h₃
      simpa using hne
    · exact (Runs.not_ret_error h₂).elim
  · exact exchange_error hC hg h
  · trivial

lemma answers {job : Job} {out : Outcome} (h : Runs C (program settings job) l g (.ok out) L g' L G) :
    Answers ⟨job, out, L⟩ := by
  rintro actorId code now rfl
  obtain ⟨record, l₁, g₁, -, h₂⟩ := h.bind
  exact ⟨record, h₂.ret.1⟩

lemma obeys_contract : Obeys (contract settings ticks) := ⟨fun _ h => h, fun _ _ h => h.1⟩

/-- Every transaction ends as the contract says. -/
theorem programs : (contract settings ticks).Programs := by
  intro job g hg r l' g' h
  cases r with
  | ok out =>
    have hrun : Runs (contract settings ticks) (program settings job) (Local.begin g) g (.ok out) l' g' l' g' := ⟨h, .refl⟩
    exact ⟨commits obeys_contract hg hrun, answers hrun⟩
  | error error => exact fails obeys_contract hg ⟨h, .refl⟩

end JamyeServer.Groups
