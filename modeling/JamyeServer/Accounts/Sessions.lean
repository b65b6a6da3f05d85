import JamyeServer.Accounts.Invariants

/-!
# Refresh, logout and suspension under interference

Each of these transactions, run alone while commits that are `Ok` happen between its requests, commits
what `Ok` says.
-/

namespace JamyeServer.Accounts

open ReadCommitted Postgres Auth Moderation

variable {settings : Settings} {ticks : Time → Time → Bool} {C : Contract (system settings ticks)}
  {l l' L : Local Row Nat} {g g' gs G : Shared}

/-- The tables of accounts, identities and sessions. -/
def isAccount : Key → Prop
  | .users _ | .authIdentities _ | .refreshSessions _ => True
  | _ => False

lemma revoked_revoke (now : Time) (r : RefreshSession) : Revoked r (RefreshSession.revoke now r) :=
  ⟨rfl, rfl, rfl, rfl, rfl, nofun, id⟩

lemma revoked_delete (time now : Time) (r : RefreshSession) :
    Revoked r (RefreshSession.delete time (RefreshSession.revoke now r)) :=
  ⟨rfl, rfl, rfl, rfl, rfl, nofun, fun _ => nofun⟩

lemma Fits.session_not_missing (hC : Fits C) (hG : History C G) (hg : gs.csn ≤ g.csn) (hg' : g'.csn ≤ G.csn)
    {i : Uuid} (hi : ((G.version gs.csn).apply l.writes).get (.refreshSessions i) ≠ none) :
    ¬ Missing l g g' G (.refreshSessions i) := by
  refine not_missing (fun m hm hm' hne => ?_) hg hg' hi
  obtain ⟨r, hr⟩ := Option.ne_none_iff_exists'.mp hne
  obtain ⟨r', hr', -⟩ := hC.ages hG hm hm' hr
  simp [hr']

section Revocation

variable {is : List Uuid} {as : List Unit} {ws : List (Write Row)}
  {f : Uuid → Nat → RefreshSession → Option (RefreshSession × Unit)}

lemma sessionsRevoked_of_changed
    (h : ChangedRows C .noKeyUpdate Key.refreshSessions
      (fun i t r => (f i t r).map fun x => (some x.1, x.2)) is l gs as ws l' g' G)
    (hf : ∀ i t r x, f i t r = some x → Revoked r x.1) :
    SessionsRevoked (G.db.apply l.writes) (G.db.apply l'.writes) := by
  intro i
  rcases h.row i with hsame | ⟨j, -, hj, t, r, v, a, -, hget, hfj, hafter⟩
  · exact .inl hsame
  · obtain rfl : j = i := by simpa using hj
    obtain ⟨x, hx, hv⟩ := Option.map_eq_some_iff.mp hfj
    cases hv
    exact .inr ⟨r, x.1, hget, hafter, hf j t r x hx⟩

/-- A revocation reaches every session of its snapshot that it is for. -/
lemma Fits.revokedSince (hC : Fits C) (hG : History C G)
    (h : ChangedRows C .noKeyUpdate Key.refreshSessions
      (fun i t r => (f i t r).map fun x => (some x.1, x.2)) is l gs as ws l' g' G) (hgs : gs.csn ≤ G.csn)
    (hg' : g'.csn ≤ G.csn) {scope : RefreshSession → Prop}
    (hl : ∀ (s : Store Row) i, (s.apply l.writes).get (.refreshSessions i) = s.get (.refreshSessions i))
    (hf : ∀ i t r x, f i t r = some x → Revoked r x.1)
    (hfound : ∀ i r, (G.version gs.csn).get (.refreshSessions i) = some r → scope r →
      r.revokedAt = none → i ∈ is)
    (hnone : ∀ i t r₀ r, Ages r₀ r → scope r₀ → f i t r = none → r.revokedAt ≠ none) :
    RevokedSince (G.db.apply l'.writes) (G.version gs.csn) scope := by
  intro i r hr hscope
  obtain ⟨r₁, hr₁, hages⟩ := hC.ages hG hgs (Nat.le_refl _) hr
  have hdb : (G.db.apply l.writes).get (.refreshSessions i) = some r₁ := (hl _ i).trans hr₁
  by_cases hrev : r.revokedAt = none
  · have hin : i ∈ is := hfound i r hr hscope hrev
    have hsnap : ((G.version gs.csn).apply l.writes).get (.refreshSessions i) ≠ none := by simp [hl, hr]
    rcases h.get hin with hmiss | ⟨t, r₂, -, -, hget, hafter⟩
    · exact absurd hmiss (hC.session_not_missing hG (Nat.le_refl _) hg' hsnap)
    · obtain rfl : r₂ = r₁ := Option.some.inj (hget.symm.trans hdb)
      cases hfi : f i t r₂ with
      | none =>
        rw [hfi] at hafter
        exact ⟨r₂, hafter, hnone i t r r₂ hages hscope hfi⟩
      | some x =>
        rw [hfi] at hafter
        exact ⟨x.1, hafter, (hf i t r₂ x hfi).revokedAt⟩
  · rcases sessionsRevoked_of_changed h hf i with hsame | ⟨r₂, r', -, hr', hrevoked⟩
    · exact ⟨r₁, hsame.trans hdb, hages.revokedAt hrev⟩
    · exact ⟨r', hr', hrevoked.revokedAt⟩

end Revocation

lemma logout_ok {sessionId : Uuid} {now : Time} {r : Unit}
    (h : Runs C (logout sessionId now) (Local.begin g) g (.ok r) L g' L G) :
    SessionsRevoked G.db (G.view L) ∧ AccountsKept G.db (G.view L) := by
  have hrun := h.mapError
  unfold revokeSessionRecord at hrun
  obtain ⟨as, l₁, g₁, h₁, h₂⟩ := hrun.bind
  obtain ⟨-, rfl⟩ := h₂.ret
  obtain ⟨gs, ws, -, -, hch⟩ := h₁.update fun s => s.nodup_one ..
  refine ⟨sessionsRevoked_of_changed hch fun i t r x hf => ?_, fun i => hch.get_of_ne _ nofun,
    fun i => hch.get_of_ne _ nofun⟩
  split at hf
  · cases hf
    exact revoked_delete _ _ _
  · cases hf

/-- The sessions of the account that a snapshot shows are revoked; nothing else changes. -/
lemma Fits.revokeUserSessions (hC : Fits C) (hG : History C G) {userId : Uuid} {operation : String}
    {r : Unit} (h : Runs C (revokeUserSessions userId operation) l g (.ok r) l' g' L G)
    (hl : ∀ (s : Store Row) i, (s.apply l.writes).get (.refreshSessions i) = s.get (.refreshSessions i)) :
    ∃ n, g.csn ≤ n ∧ l'.snapshots = n :: l.snapshots ∧
      SessionsRevoked (G.db.apply l.writes) (G.db.apply l'.writes) ∧
      RevokedSince (G.db.apply l'.writes) (G.version n) (fun r => r.userId = userId) ∧
      ∀ k, (∀ i, k ≠ .refreshSessions i) → (G.db.apply l'.writes).get k = (G.db.apply l.writes).get k := by
  unfold Moderation.revokeUserSessions at h
  obtain ⟨as, l₁, g₁, h₁, h₂⟩ := h.bind
  obtain ⟨-, rfl⟩ := h₂.ret
  obtain ⟨gs, ws, hgs₀, hgs, hch⟩ := h₁.update fun s => s.nodup_ids ..
  have hlater : Later C g₁ G := h₁.rest.later
  have hrevoked : ∀ (i : Uuid) (t : Nat) (r : RefreshSession) (x : RefreshSession × Unit),
      (if r.userId = userId ∧ r.revokedAt = none then some (RefreshSession.revoke t r, ()) else none) = some x →
        Revoked r x.1 := by
    intro i t r x hx
    split at hx
    · cases hx
      exact revoked_revoke t r
    · cases hx
  have hsessions := sessionsRevoked_of_changed hch hrevoked
  refine ⟨gs.csn, hgs₀.csn_le, by rw [hch.frame], hsessions, ?_, fun k hk => ?_⟩
  · refine hC.revokedSince hG hch (hgs.trans hlater).csn_le hlater.csn_le hl hrevoked ?_ ?_
    · intro i r hr hu hrev
      refine Store.mem_ids.mpr ⟨r, (hl _ i).trans hr, ?_⟩
      simp [hu, hrev]
    · intro i t r₀ r hages hu hnone hrev
      simp [hages.userId, hu, hrev] at hnone
  · exact hch.get_of_ne _ fun i _ => hk i

/-- The account of a suspension is there and its row is the one that the suspension writes. -/
lemma Fits.suspendUser (hC : Fits C) (hg : History C g) {command : SuspendUserCommand} {r : Unit}
    (h : Runs C (suspendUser command) (Local.begin g) g (.ok r) L g' L G) :
    ∃ u u' n, Suspended command.userId L G u u' n := by
  have hG : History C G := h.evolve.later.history hg
  unfold Moderation.suspendUser at h
  obtain ⟨as, l₁, g₁, h₁, hrest⟩ := h.bind
  obtain ⟨x, l₂, g₂, h₂, h₃⟩ := hrest.bind
  obtain ⟨hlen, rfl⟩ := h₂.ensure
  obtain ⟨gs, ws, -, -, hch⟩ := h₁.update fun s => s.nodup_one ..
  obtain ⟨a, ha⟩ : ∃ a, a ∈ as := List.exists_mem_of_length_pos (by omega)
  obtain ⟨i, hi, t, u, v, -, -, hu, hf, hafter⟩ := hch.returned ha
  obtain ⟨rfl, -⟩ := Store.mem_one.mp hi
  split at hf
  swap
  · cases hf
  cases hf
  have hkeep : ∀ (s : Store Row) k, (∀ i, k ≠ .users i) → (s.apply l₂.writes).get k = s.get k := by
    intro s k hk
    exact hch.get_of_ne s fun i _ => hk i
  obtain ⟨n, -, hn, hsessions, hall, hother⟩ := hC.revokeUserSessions hG h₃ fun s i => hkeep s _ nofun
  refine ⟨u, User.suspend command.reason t u, n, ⟨?_, ?_, fun j hj => ?_, fun j => ?_⟩, nofun, rfl, ?_, ?_, ?_⟩
  · exact hu
  · exact (hother (.users command.userId) nofun).trans hafter
  · refine (hother (.users j) nofun).trans (hch.get_of_ne _ fun k hk => ?_)
    obtain ⟨rfl, -⟩ := Store.mem_one.mp hk
    simpa using hj
  · exact (hother (.authIdentities j) nofun).trans (hkeep _ _ nofun)
  · intro j
    have hj := hsessions j
    rwa [hkeep G.db (.refreshSessions j) nofun] at hj
  · rw [hn]
    rfl
  · exact hall

lemma Fits.unsuspendUser (hC : Fits C) (hg : History C g) {userId : Uuid} {r : Unit}
    (h : Runs C (unsuspendUser userId) (Local.begin g) g (.ok r) L g' L G) :
    (∃ u n, Unsuspended userId L G u n) ∨
      Store.Same Tables.refreshSessions G.db (G.view L) ∧ AccountsKept G.db (G.view L) := by
  have hG : History C G := h.evolve.later.history hg
  unfold Moderation.unsuspendUser at h
  obtain ⟨s, l₁, g₁, h₁, hrest⟩ := h.bind
  obtain ⟨as, l₂, g₂, h₂, hrest⟩ := hrest.bind
  obtain ⟨x, l₃, g₃, h₃, h₄⟩ := hrest.bind
  obtain ⟨-, rfl⟩ := h₃.ensure
  obtain ⟨gs, -, -, rfl, rfl⟩ := h₁.snapshot
  unfold Moderation.unsuspendUser.updateFound at h₂
  obtain ⟨ws, hch⟩ := h₂.changeRows Tables.users.key_injective (by decide) (Store.nodup_one ..)
  have hkeep : ∀ (s : Store Row) k, (∀ i, k ≠ .users i) → (s.apply l₃.writes).get k = s.get k := by
    intro s k hk
    exact hch.get_of_ne s fun i _ => hk i
  split at h₄
  · -- nothing was suspended, and nothing is written
    rename_i hempty
    obtain ⟨-, rfl⟩ := h₄.ret
    have hws : ws = [] := by
      by_contra hne
      obtain ⟨w, hw⟩ := List.exists_mem_of_ne_nil _ hne
      obtain ⟨i, -, t, u, v, a, -, -, -, -, ha, -⟩ := hch.mem w hw
      rw [List.isEmpty_iff.mp hempty] at ha
      cases ha
    have hview : G.view L = G.db := by
      rw [Shared.view, hch.frame, hws]
      rfl
    rw [hview]
    exact .inr ⟨fun _ => rfl, fun _ => rfl, fun _ => rfl⟩
  · rename_i hempty
    obtain ⟨a, ha⟩ := List.exists_mem_of_ne_nil as (by simpa using hempty)
    obtain ⟨i, hi, t, u, v, -, hlock, hu, hf, hafter⟩ := hch.returned ha
    obtain ⟨rfl, -⟩ := Store.mem_one.mp hi
    split at hf
    swap
    · cases hf
    rename_i hsusp
    cases hf
    have hsession : ∀ j i, Key.refreshSessions j ≠ .users i := by simp
    have hidentity : ∀ j i, Key.authIdentities j ≠ .users i := by simp
    obtain ⟨n, hgn, hn, hsessions, hall, hother⟩ :=
      hC.revokeUserSessions hG h₄ fun s j => hkeep s _ (hsession j)
    refine .inl ⟨u, n, ⟨?_, ?_, fun j hj => ?_, fun j => ?_⟩, ?_, ?_, ?_, ?_, fun m hm hm' => ?_⟩
    · exact hu
    · exact (hother (.users i) (by simp)).trans hafter
    · refine (hother (.users j) (by simp)).trans (hch.get_of_ne _ fun k hk => ?_)
      obtain ⟨rfl, -⟩ := Store.mem_one.mp hk
      simpa using hj
    · exact (hother (.authIdentities j) (by simp)).trans (hkeep _ _ (hidentity j))
    · exact Option.isSome_iff_ne_none.mp hsusp
    · intro j
      have hj := hsessions j
      rwa [hkeep G.db (.refreshSessions j) (hsession j)] at hj
    · rw [hn]
      rfl
    · exact hall
    · have hversion := h₄.evolve.version_locked hlock (by decide) (Nat.le_trans hgn hm) hm'
      rw [hversion, ← h₄.evolve.db_locked hlock (by decide)]
      exact hu

lemma sessionInserted_of_row {id : Uuid} {row : RefreshSession} {parents : List Key}
    (h : InsertedRow (.refreshSessions id) row (.users row.userId :: parents) l l' G)
    (hkeep : (G.db.apply l.writes).get (.refreshSessions id) = G.db.get (.refreshSessions id))
    (hconsumed : row.consumedAt = none) (hrevoked : row.revokedAt = none) (hdeleted : row.deletedAt = none) :
    SessionInserted G.db (G.view l') l' id row := by
  have huser := h.parents (.users row.userId) List.mem_cons_self
  exact ⟨hkeep.symm.trans h.absent, h.get _, hconsumed, hrevoked, hdeleted, huser.1, huser.2⟩

lemma insertRefreshSession_runs {id userId familyId : Uuid} {parentSessionId : Option Uuid} {tokenHash : Nat}
    {expiresAt : Time} {r : Unit}
    (h : Runs C (insertRefreshSession id userId familyId parentSessionId tokenHash expiresAt) l g (.ok r) l' g' L G) :
    ∃ now, InsertedRow (.refreshSessions id)
      { userId, familyId, parentSessionId, tokenHash, expiresAt, createdAt := now }
      (.users userId :: parentSessionId.toList.map .refreshSessions) l l' G := by
  unfold insertRefreshSession at h
  obtain ⟨now, l₁, g₁, h₁, h₂⟩ := h.bind
  obtain ⟨rfl, -⟩ := h₁.clock
  exact ⟨now, h₂.insertRow⟩

/-- What a refresh knows of the session that it has locked: `s` is the snapshot of the lock. -/
structure LocksSession (tokenHash : Nat) (s db : Store Row) (locks : List (Key × LockMode))
    (x : LockedSession) (r : RefreshSession) (u : User) : Prop where
  found : s.get (.refreshSessions x.id) ≠ none
  account : s.get (.users r.userId) = some u
  live : u.deletedAt = none
  row : db.get (.refreshSessions x.id) = some r
  lock : (.refreshSessions x.id, .update) ∈ locks
  token : r.tokenHash = tokenHash
  undeleted : r.deletedAt = none
  userId : x.userId = r.userId
  familyId : x.familyId = r.familyId
  consumed : x.consumed = r.consumedAt.isSome
  revoked : x.revoked = r.revokedAt.isSome
  suspended : x.suspended = u.suspendedAt.isSome

lemma refreshLock_runs {tokenHash : Nat} {x : Option LockedSession} (hl : l.writes = [])
    (h : Runs C (refreshLock tokenHash) l g (.ok x) l' g' L G) :
    ∃ n, n ≤ g'.csn ∧ l' = { l with snapshots := n :: l.snapshots, locks := l'.locks } ∧
      ∀ y, x = some y → ∃ r u, LocksSession tokenHash (G.version n) G.db l'.locks y r u := by
  unfold refreshLock at h
  obtain ⟨found, l₁, g₁, h₁, h₂⟩ := h.bind
  obtain ⟨rfl, rfl⟩ := h₂.ret
  obtain ⟨gs, -, hgs, hlk⟩ := h₁.selectFor nofun
  have hlast : gs.csn ≤ g'.csn := (hgs.trans h₂.returns.evolve.later).csn_le
  refine ⟨gs.csn, hlast, by rw [hlk.frame], fun y hy => ?_⟩
  obtain ⟨i, hi, t, r, -, hlock, hget, hf⟩ := hlk.mem y (List.mem_of_head? hy)
  simp only [hl, Store.apply_nil] at hi hget hf
  obtain ⟨r₀, hr₀, -⟩ := Store.mem_ids.mp hi
  split at hf
  · cases hf
  · rename_i u hu
    split at hf
    · rename_i hc
      cases hf
      exact ⟨r, u, by simp [hr₀], hu, hc.2.2, hget, hlock, hc.1, hc.2.1, rfl, rfl, rfl, rfl, rfl⟩
    · cases hf

section Refresh

variable {tokenHash n : Nat} {now : Time} {locks : List (Key × LockMode)} {y : LockedSession} {r : RefreshSession}
  {u : User}

lemma Fits.revokeFamily (hC : Fits C) (hG : History C G)
    (hy : LocksSession tokenHash (G.version n) G.db locks y r u) (hcons : y.consumed = true) {as : List Unit}
    (hl : l.writes = []) (hng : n ≤ g.csn)
    (h : Runs C (.update Tables.refreshSessions
      (fun s => s.ids Tables.refreshSessions fun _ r => decide (r.familyId = y.familyId))
      (fun _ _ _ r => if r.familyId = y.familyId then some (RefreshSession.revoke now r, ()) else none)
      (AuthRepositoryError.unavailable "refresh_family_revoke")) l g (.ok as) l' g' L G) :
    ∃ n, Reused tokenHash l' G y.id r n := by
  obtain ⟨gs, ws, hgs₀, hgs, hch⟩ := h.update fun s => s.nodup_ids ..
  have hempty : ∀ s : Store Row, s.apply l.writes = s := fun s => by rw [hl, Store.apply_nil]
  have hrevoked : ∀ (i : Uuid) (t : Nat) (r : RefreshSession) (x : RefreshSession × Unit),
      (if r.familyId = y.familyId then some (RefreshSession.revoke now r, ()) else none) = some x →
        Revoked r x.1 := by
    intro i t r x hx
    split at hx
    · cases hx
      exact revoked_revoke now r
    · cases hx
  have hsessions := sessionsRevoked_of_changed hch hrevoked
  have hlater : Later C g' G := h.rest.later
  refine ⟨gs.csn, hy.row, hy.token, ?_, ?_, by rw [hch.frame]; rfl, ?_, ?_, fun i => ?_, fun i => ?_⟩
  · rw [hy.consumed] at hcons
    exact Option.isSome_iff_ne_none.mp hcons
  · intro i
    have hi := hsessions i
    dsimp only at hi
    rwa [hempty] at hi
  · obtain ⟨r₀, hr₀⟩ := Option.ne_none_iff_exists'.mp hy.found
    obtain ⟨r₁, hr₁, -⟩ := hC.ages hG (Nat.le_trans hng hgs₀.csn_le) (hgs.trans hlater).csn_le hr₀
    simp [hr₁]
  · refine hC.revokedSince hG hch (hgs.trans hlater).csn_le hlater.csn_le (fun s i => by rw [hempty]) hrevoked ?_ ?_
    · intro i r₁ hr₁ hf _
      refine Store.mem_ids.mpr ⟨r₁, by rw [hempty]; exact hr₁, ?_⟩
      simp [hf, hy.familyId]
    · intro i t r₀ r₁ hages hf hnone
      simp [hages.familyId, hf, hy.familyId] at hnone
  · have hi := hch.get_of_ne G.db (k := .users i) nofun
    dsimp only at hi
    rwa [hempty] at hi
  · have hi := hch.get_of_ne G.db (k := .authIdentities i) nofun
    dsimp only at hi
    rwa [hempty] at hi

lemma Fits.rotate (hC : Fits C) (hG : History C G)
    (hy : LocksSession tokenHash (G.version n) G.db locks y r u) (hsusp : y.suspended ≠ true)
    (hcons : y.consumed ≠ true) (hrev : y.revoked ≠ true) {as : List Unit} {x : Unit} {l₁ : Local Row Nat}
    {g₁ : Shared} {childId : Uuid} {token : Nat} {expiresAt : Time} (hl : l.writes = []) (hn : n ∈ l.snapshots)
    (hng : n ≤ g.csn)
    (h₁ : Runs C (.update Tables.refreshSessions (fun s => s.one Tables.refreshSessions y.id fun _ => true)
      (fun _ _ _ r => some (RefreshSession.consume now r, ())) (AuthRepositoryError.unavailable "refresh_consume"))
      l g (.ok as) l₁ g₁ L G)
    (h₂ : Runs C (insertRefreshSession childId y.userId y.familyId (some y.id) token expiresAt) l₁ g₁ (.ok x)
      l' g' L G) :
    ∃ child, Rotated tokenHash l' G y.id childId r child n u ∧ child.userId = y.userId := by
  obtain ⟨gs, ws, hgs, hgs', hch⟩ := h₁.update fun s => s.nodup_one ..
  obtain ⟨time, hins⟩ := insertRefreshSession_runs h₂
  have hempty : ∀ s : Store Row, s.apply l.writes = s := fun s => by rw [hl, Store.apply_nil]
  have hg₁ : Later C g₁ G := h₁.rest.later
  have hgsG : gs.csn ≤ G.csn := (hgs'.trans hg₁).csn_le
  -- the session is still there when it is consumed
  obtain ⟨r₀, hr₀⟩ := Option.ne_none_iff_exists'.mp hy.found
  obtain ⟨r₁, hr₁, -⟩ := hC.ages hG (Nat.le_trans hng hgs.csn_le) hgsG hr₀
  have hsnap : ((G.version gs.csn).apply l.writes).get (.refreshSessions y.id) = some r₁ := by rw [hempty, hr₁]
  have hin : y.id ∈ ((G.version gs.csn).apply l.writes).one Tables.refreshSessions y.id fun _ => true :=
    Store.mem_one.mpr ⟨rfl, r₁, hsnap, rfl⟩
  have hconsumed : (G.db.apply l₁.writes).get (.refreshSessions y.id) = some (RefreshSession.consume now r) := by
    rcases hch.get hin with hmiss | ⟨t, r₂, -, -, hget, hafter⟩
    · refine absurd hmiss (hC.session_not_missing hG (Nat.le_refl _) hg₁.csn_le ?_)
      exact fun hnone => by simp [hsnap] at hnone
    · dsimp only at hget
      rw [hempty, hy.row] at hget
      cases hget
      exact hafter
  have hkeep : ∀ k, k ≠ .refreshSessions y.id → (G.db.apply l₁.writes).get k = G.db.get k := by
    intro k hk
    have hk' := hch.get_of_ne G.db (k := k) fun i hi => by
      obtain ⟨rfl, -⟩ := Store.mem_one.mp hi
      exact hk
    dsimp only at hk'
    rwa [hempty] at hk'
  have hne : childId ≠ y.id := by
    rintro rfl
    have habsent := hins.absent
    rw [hconsumed] at habsent
    cases habsent
  have hother : ∀ k, k ≠ .refreshSessions childId → (G.view l').get k = (G.db.apply l₁.writes).get k :=
    fun k hk => hins.get_of_ne _ hk
  have hinserted := sessionInserted_of_row hins (hkeep _ (by simpa using hne)) rfl rfl rfl
  refine ⟨_, ⟨⟨hinserted, ?_, ?_, ?_, ?_, ?_, ?_, ?_, ?_, rfl⟩, ?_, ?_, ?_, ?_, ?_, ?_, ?_⟩, rfl⟩
  · exact hy.row
  · simpa [hy.consumed] using hcons
  · simpa [hy.revoked] using hrev
  · exact hy.undeleted
  · exact ⟨now, (hother _ (by simpa using hne.symm)).trans hconsumed⟩
  · intro i hi hi'
    rw [hother _ (by simpa using hi'), hkeep _ (by simpa using hi)]
  · exact hy.userId
  · exact hy.familyId
  · exact hy.token
  · have hsub : l₁.snapshots = gs.csn :: l.snapshots := by rw [hch.frame]
    have hsub' : l'.snapshots = l₁.snapshots := by rw [hins.frame]
    rw [hsub', hsub]
    exact List.mem_cons_of_mem _ hn
  · exact hy.found
  · exact hy.account
  · exact hy.live
  · simpa [hy.suspended] using hsusp
  · constructor
    · exact fun i => (hother (.users i) nofun).trans (hkeep (.users i) nofun)
    · exact fun i => (hother (.authIdentities i) nofun).trans (hkeep (.authIdentities i) nofun)

end Refresh

/-- A refresh commits the revocation of a family, or consumes the session and adds its child. -/
lemma Fits.refresh (hC : Fits C) (hg : History C g) {tokenHash : Nat} {now : Time} {c : RefreshCommit}
    (h : Runs C (refreshWithClientIp settings tokenHash now) (Local.begin g) g (.ok c) L g' L G) :
    match c with
    | .rotated issued => ∃ parentId parent child n u,
        Rotated tokenHash L G parentId issued.sessionId parent child n u ∧ child.userId = issued.userId
    | .reused => ∃ sessionId session n, Reused tokenHash L G sessionId session n := by
  have hG : History C G := h.evolve.later.history hg
  unfold refreshWithClientIp at h
  obtain ⟨token, l₁, g₁, h₁, hrest⟩ := h.bind
  obtain ⟨childId, l₂, g₂, h₂, hrest⟩ := hrest.bind
  obtain ⟨x, l₃, g₃, h₃, h₄⟩ := hrest.bind
  obtain ⟨rfl, -⟩ := h₁.fresh
  obtain ⟨rfl, -⟩ := h₂.fresh
  have hrun := h₃.mapError
  unfold rotateSessionRecord at hrun
  obtain ⟨found, l₅, g₅, h₅, h₆⟩ := hrun.bind
  obtain ⟨n, hn, hl₅, hfound⟩ := refreshLock_runs rfl h₅
  have hw₅ : l₅.writes = [] := by rw [hl₅]; rfl
  cases found with
  | none =>
    obtain ⟨rfl, -⟩ := h₆.ret
    exact (Runs.not_fail h₄).elim
  | some y =>
    obtain ⟨r, u, hy⟩ := hfound y rfl
    change Runs C (if y.suspended then _ else _) _ _ _ _ _ _ _ at h₆
    by_cases hsusp : y.suspended = true
    · rw [if_pos hsusp] at h₆
      obtain ⟨rfl, -⟩ := h₆.ret
      exact (Runs.not_fail h₄).elim
    rw [if_neg hsusp] at h₆
    by_cases hcons : y.consumed = true
    · rw [if_pos hcons] at h₆
      obtain ⟨as, l₇, g₇, h₇, h₈⟩ := h₆.bind
      obtain ⟨rfl, rfl⟩ := h₈.ret
      obtain ⟨rfl, rfl⟩ := h₄.ret
      obtain ⟨n', hreused⟩ := hC.revokeFamily hG hy hcons hw₅ hn h₇
      exact ⟨y.id, r, n', hreused⟩
    rw [if_neg hcons] at h₆
    by_cases hinv : y.revoked ∨ y.expiresAt ≤ now
    · rw [if_pos hinv] at h₆
      obtain ⟨rfl, -⟩ := h₆.ret
      exact (Runs.not_fail h₄).elim
    rw [if_neg hinv] at h₆
    obtain ⟨as, l₇, g₇, h₇, hrest⟩ := h₆.bind
    obtain ⟨x, l₈, g₈, h₈, h₉⟩ := hrest.bind
    obtain ⟨rfl, rfl⟩ := h₉.ret
    obtain ⟨rfl, rfl⟩ := h₄.ret
    have hn₅ : n ∈ l₅.snapshots := by rw [hl₅]; exact List.mem_cons_self
    obtain ⟨child, hrot, huser⟩ := hC.rotate hG hy hsusp hcons (fun hr => hinv (.inl hr)) hw₅ hn₅ hn h₇ h₈
    exact ⟨y.id, r, child, n, u, hrot, huser⟩

end JamyeServer.Accounts
