import JamyeServer.Accounts.Sessions
import JamyeServer.Postgres.Restores

/-!
# Sign-in under interference

A sign-in restores the principal's deleted account, uses the live one, or creates one. Each part reads
its own snapshot; `SignedIn` says what the parts have seen when the sign-in commits.
-/

namespace JamyeServer.Accounts

open ReadCommitted Postgres Auth

variable {settings : Settings} {ticks : Time → Time → Bool} {C : Contract (system settings ticks)}
  {l l' L : Local Row Nat} {g g' gs G : Shared} {identity : NewProviderIdentity} {grace : Nat}

section Restore

/-- Identities and their accounts do not vanish. -/
lemma Fits.unrestorable (hC : Fits C) (hG : History C G) {i : Uuid} (h : Unrestorable C identity grace g G i)
    (hi : (G.version g.csn).get (.authIdentities i) ≠ none) :
    ∃ r u t, Clocked C g G t ∧ G.db.get (.authIdentities i) = some r ∧ G.db.get (.users r.userId) = some u ∧
      restorable identity grace t r u = false := by
  rcases h with ⟨m, hm, hm', hmissing⟩ | ⟨m, r, hm, hm', hr, hmissing⟩ | hrest
  · obtain ⟨r, hr⟩ := Option.ne_none_iff_exists'.mp hi
    obtain ⟨r', hr', -⟩ := hC.identity_stays hG hm hm' hr
    rw [hmissing] at hr'
    cases hr'
  · obtain ⟨g₁, hg₁, -, hdb, -⟩ := hG.version hm'
    rw [← hdb] at hr hmissing
    exact absurd hmissing ((hC.wellFormed hg₁).identityUser i r hr)
  · exact hrest

/-- The sign-in adds its session and no other. -/
structure AddsSession (session : NewRefreshSession) (userId : Uuid) (l : Local Row Nat) (G : Shared)
    (row : RefreshSession) : Prop where
  inserted : SessionInserted G.db (G.view l) l session.id row
  only : Store.SameBut Tables.refreshSessions session.id G.db (G.view l)
  userId : row.userId = userId
  familyId : row.familyId = session.familyId
  parentSessionId : row.parentSessionId = session.parentSessionId

lemma addsSession_of_runs {session : NewRefreshSession} {userId : Uuid} {r : Unit}
    (hl : ∀ i, (G.db.apply l.writes).get (.refreshSessions i) = G.db.get (.refreshSessions i))
    (h : Runs C (insertRefreshSession session.id userId session.familyId session.parentSessionId session.tokenHash
      session.expiresAt) l g (.ok r) l' g' L G) :
    (∃ row, AddsSession session userId l' G row) ∧
      ∀ k, (∀ i, k ≠ .refreshSessions i) → (G.view l').get k = (G.db.apply l.writes).get k := by
  obtain ⟨now, hins⟩ := insertRefreshSession_runs h
  refine ⟨⟨_, sessionInserted_of_row hins (hl _) rfl rfl rfl, fun i hi => ?_, rfl, rfl, rfl⟩, fun k hk => ?_⟩
  · exact (hins.get_of_ne _ (by simpa using hi)).trans (hl i)
  · exact hins.get_of_ne _ (hk _)

lemma ensureNotSuspended_runs {userId : Uuid} {x : Unit}
    (h : Runs C (ensureNotSuspended userId) l g (.ok x) l' g' L G) :
    ∃ n, g.csn ≤ n ∧ n ≤ g'.csn ∧ l' = { l with snapshots := n :: l.snapshots } ∧
      ∀ u, ((G.version n).apply l.writes).get (.users userId) = some u → u.suspendedAt = none := by
  unfold ensureNotSuspended at h
  obtain ⟨y, l₁, g₁, h₁, h₂⟩ := h.bind
  obtain ⟨gs, hgs, hgs', rfl, rfl⟩ := h₁.select
  obtain ⟨hne, rfl⟩ := h₂.ensure
  refine ⟨gs.csn, hgs.csn_le, (hgs'.trans h₂.returns.evolve.later).csn_le, rfl, fun u hu => ?_⟩
  simpa [hu] using hne

lemma restoreDeletedIdentityRecord_runs (hl : l.writes = [])
    {session : NewRefreshSession} {x : Option IssuedSession}
    (h : Runs C (restoreDeletedIdentityRecord identity session grace) l g (.ok x) l' g' L G) :
    (x = none → ∃ n, l' = { l with snapshots := n :: l.snapshots, locks := l'.locks } ∧
      NothingToRestore C identity grace g n G) ∧
    ∀ issued, x = some issued → ∃ id r u n g₁ row, issued = ⟨r.userId, session.id⟩ ∧ Later C g g₁ ∧
      HoldsDeleted C identity grace n g₁ L G id r u ∧
      AccountRestored G.db (G.view l') grace identity g₁.now id r u ∧ AddsSession session r.userId l' G row := by
  unfold restoreDeletedIdentityRecord at h
  obtain ⟨y, l₁, g₁, h₁, h₂⟩ := h.bind
  obtain ⟨n, hl₁, hnone, hsome⟩ := identityRestoreLookup_runs hl h₁
  cases y with
  | none =>
    obtain ⟨rfl, rfl⟩ := h₂.ret
    exact ⟨fun _ => ⟨n, hl₁, hnone rfl⟩, nofun⟩
  | some p =>
    obtain ⟨id, r, u, gk, rfl, hgk, hgk', hheld⟩ := hsome p rfl
    obtain ⟨x₂, l₂, g₂, h₃, hrest⟩ := h₂.bind
    obtain ⟨x₃, l₃, g₃, h₄, hrest⟩ := hrest.bind
    obtain ⟨x₄, l₄, g₄, h₅, hrest⟩ := hrest.bind
    obtain ⟨x₅, l₅, g₅, h₆, hrest⟩ := hrest.bind
    obtain ⟨x₆, l₆, g₆, h₇, h₈⟩ := hrest.bind
    obtain ⟨rfl, rfl⟩ := h₈.ret
    refine ⟨nofun, fun issued hx => ?_⟩
    cases hx
    have hw₁ : ∀ s : Store Row, s.apply l₁.writes = s := fun s => by rw [hl₁, hl, Store.apply_nil]
    obtain ⟨n₂, hn₂, hn₂', rfl, hunsuspended⟩ := ensureNotSuspended_runs h₃
    have hk₂ : gk.csn ≤ g₂.csn := (hgk'.trans h₃.returns.evolve.later).csn_le
    have hk₃ : gk.csn ≤ g₃.csn := Nat.le_trans hk₂ h₄.returns.evolve.later.csn_le
    obtain ⟨huser, hkeep₃, -⟩ := h₄.update_one (r := u) (a := ())
      (fun m hm hm' => by
        dsimp only
        rw [hw₁]
        exact hheld.account.version (Nat.le_trans hk₂ hm) hm') rfl fun _ _ => rfl
    dsimp only at hkeep₃
    simp only [hw₁] at hkeep₃
    obtain ⟨hidentity, hkeep₄, -⟩ := h₅.update_one (r := r) (a := ())
      (fun m hm hm' => by
        rw [hkeep₃ _ (.authIdentities id) nofun]
        exact hheld.identity.version (Nat.le_trans hk₃ hm) hm') rfl fun _ _ => rfl
    have hkeep₅ : ∀ k, isAccount k → (G.db.apply l₅.writes).get k = (G.db.apply l₄.writes).get k := fun k hk =>
      h₆.get_of_touches (P := fun k => ¬ isAccount k) (Prog.touches_change fun _ h => h) (not_not_intro hk) G.db
    have hkeep : ∀ k, isAccount k → k ≠ .authIdentities id → k ≠ .users r.userId →
        (G.db.apply l₅.writes).get k = G.db.get k := by
      intro k hk hki hku
      rw [hkeep₅ k hk, hkeep₄ _ k hki, hkeep₃ _ k hku]
    obtain ⟨⟨row, hadds⟩, hother⟩ := addsSession_of_runs (fun i => hkeep (.refreshSessions i) trivial nofun nofun) h₇
    refine ⟨id, r, u, n, gk, row, rfl, hgk, hheld, ?_, hadds⟩
    refine ⟨hheld.identity.db, hheld.account.db, hheld.restorable, ?_, ?_, fun i hi => ?_, ?_, fun i hi => ?_⟩
    · refine hunsuspended u ?_
      rw [hw₁]
      exact hheld.account.version (Nat.le_trans hgk'.csn_le hn₂) (Nat.le_trans hn₂' h₃.rest.later.csn_le)
    · rw [hother (.users r.userId) nofun, hkeep₅ (.users r.userId) trivial, hkeep₄ _ (.users r.userId) nofun]
      exact huser
    · exact (hother (.users i) nofun).trans (hkeep (.users i) trivial nofun (by simpa using hi))
    · rw [hother (.authIdentities id) nofun, hkeep₅ (.authIdentities id) trivial]
      exact hidentity
    · exact (hother (.authIdentities i) nofun).trans (hkeep (.authIdentities i) trivial (by simpa using hi) nofun)

end Restore

/-- What the lookup of a live identity returns. -/
lemma liveIn_of_lookup {s : Store Row} {userId : Uuid} (h : identityLookup identity s = some userId) :
    LiveIn s identity userId := by
  unfold identityLookup at h
  obtain ⟨i, hi, hmap⟩ := Option.bind_eq_some_iff.mp h
  obtain ⟨r, hr, rfl⟩ := Option.map_eq_some_iff.mp hmap
  obtain ⟨r₁, hr₁, hp⟩ := Store.mem_ids.mp (List.mem_of_head? hi)
  obtain rfl : r₁ = r := Option.some.inj (hr₁.symm.trans hr)
  simp only [Bool.and_eq_true, beq_iff_eq, Option.isNone_iff_eq_none, User.live, Option.any_eq_true_iff_get] at hp
  obtain ⟨⟨⟨hprov, hpid⟩, hdel⟩, hu, hlive⟩ := hp
  exact ⟨⟨i, r₁, hr, hprov, hpid, hdel, rfl⟩, _, (Option.some_get hu).symm, hlive⟩

/-- The sign-in has found the account and has written nothing that lasts. -/
structure FoundAccount (identity : NewProviderIdentity) (userId : Uuid) (l : Local Row Nat) (g G : Shared) :
    Prop where
  lookup : ∃ n ∈ l.snapshots, n ≤ g.csn ∧ LiveIn (G.version n) identity userId
  kept : ∀ k, (G.db.apply l.writes).get k = G.db.get k
  account : ∀ n, ((G.version n).apply l.writes).get (.users userId) = (G.version n).get (.users userId)

/-- The sign-in has added an account and its identity. -/
structure AddedAccount (identity : NewProviderIdentity) (userId : Uuid) (l : Local Row Nat) (G : Shared)
    (identityId : Uuid) (u : User) (r : AuthIdentity) : Prop where
  account : AccountCreated G.db (G.db.apply l.writes) identity userId identityId u r
  row : ∀ s : Store Row, (s.apply l.writes).get (.users userId) = some u
  sessions : ∀ i, (G.db.apply l.writes).get (.refreshSessions i) = G.db.get (.refreshSessions i)

/-- A session that lost the race for the identity takes the winner's account and drops its own. -/
lemma convergence_runs (hC : Fits C) (hG : History C G) {spec userId : Uuid} {u : User}
    (h : Runs C (do
      let canonical ← Prog.select (identityLookup identity)
      let canonicalUserId ← Prog.ofOption canonical (AuthRepositoryError.unavailable "identity_convergence")
      let _ ← Prog.delete Tables.users (fun s => s.one Tables.users spec fun _ => true)
        (fun _ _ _ => true) (.unavailable "speculative_user_cleanup")
      .ret canonicalUserId) l g (.ok userId) l' g' L G)
    (habsent : G.db.get (.users spec) = none)
    (hspec : ∀ s : Store Row, (s.apply l.writes).get (.users spec) = some u)
    (hkeep : ∀ (s : Store Row) k, k ≠ .users spec → (s.apply l.writes).get k = s.get k) :
    (∃ ns, l'.snapshots = ns ++ l.snapshots) ∧ FoundAccount identity userId l' g' G := by
  obtain ⟨canonical, l₁, g₁, h₁, hrest⟩ := h.bind
  obtain ⟨userId', l₂, g₂, h₂, hrest⟩ := hrest.bind
  obtain ⟨deleted, l₃, g₃, h₃, h₄⟩ := hrest.bind
  obtain ⟨gs, hgs, hgs', rfl, rfl⟩ := h₁.select
  obtain ⟨hlook, rfl⟩ := h₂.ofOption
  obtain ⟨rfl, rfl⟩ := h₄.ret
  obtain ⟨gd, ws, hgd, hgd', hch⟩ := h₃.delete fun s => s.nodup_one ..
  have hgsG : gs.csn ≤ G.csn := (hgs'.trans h₁.rest.later).csn_le
  obtain ⟨⟨i, r, hr, hprov, hpid, hdel, hru⟩, v, hv, hlive⟩ := liveIn_of_lookup hlook
  rw [hkeep _ (.authIdentities i) nofun] at hr
  -- the winner's account is not the one that was just added: that one is not committed
  have hne : userId ≠ spec := by
    rintro rfl
    obtain ⟨gv, hgv, -, hdb, -⟩ := hG.version hgsG
    have huser := (hC.wellFormed hgv).identityUser i r (by rw [hdb]; exact hr)
    rw [hru, hdb] at huser
    exact hC.user_ne_none hG hgsG (Nat.le_refl _) huser habsent
  have hlast : ∀ (s : Store Row) k, k ≠ .users spec → (s.apply l'.writes).get k = s.get k := by
    intro s k hk
    have hk' := hch.get_of_ne s (k := k) fun j hj => by
      obtain ⟨rfl, -⟩ := Store.mem_one.mp hj
      exact hk
    exact hk'.trans (hkeep s k hk)
  refine ⟨⟨[gd.csn, gs.csn], by rw [hch.frame]; rfl⟩, ⟨gs.csn, ?_, ?_, ⟨i, r, hr, hprov, hpid, hdel, hru⟩, v, ?_, hlive⟩,
    fun k => ?_, fun n => ?_⟩
  · rw [hch.frame]
    exact List.mem_cons_of_mem _ List.mem_cons_self
  · exact (hgs'.trans h₂.returns.evolve.later |>.trans h₃.returns.evolve.later |>.trans h₄.returns.evolve.later).csn_le
  · rwa [hkeep _ (.users userId) (by simpa using hne)] at hv
  · by_cases hk : k = .users spec
    · subst hk
      have hin : spec ∈ ((G.version gd.csn).apply l.writes).one Tables.users spec fun _ => true :=
        Store.mem_one.mpr ⟨rfl, u, hspec _, rfl⟩
      rw [habsent]
      rcases hch.get hin with ⟨n, -, -, hmiss⟩ | ⟨t, r', -, -, -, hafter⟩
      · rw [show ((G.version n).apply l.writes).get (.users spec) = some u from hspec _] at hmiss
        cases hmiss
      · exact hafter
    · exact hlast _ k hk
  · exact hlast _ (.users userId) (by simpa using hne)

lemma exchangeAccount_runs (hC : Fits C) (hG : History C G) (hl : l.writes = []) {userId : Uuid}
    (h : Runs C (exchangeAccount identity) l g (.ok userId) l' g' L G) :
    (∃ ns, l'.snapshots = ns ++ l.snapshots) ∧
      (FoundAccount identity userId l' g' G ∨ ∃ identityId u r, AddedAccount identity userId l' G identityId u r) := by
  have hempty : ∀ s : Store Row, s.apply l.writes = s := fun s => by rw [hl, Store.apply_nil]
  unfold exchangeAccount at h
  obtain ⟨y, l₁, g₁, h₁, h₂⟩ := h.bind
  obtain ⟨gs, hgs, hgs', rfl, rfl⟩ := h₁.select
  rw [hempty] at h₂
  have hg₁ : Later C g₁ g' := h₂.returns.evolve.later
  cases hlook : identityLookup identity (G.version gs.csn) with
  | some userId' =>
    rw [hlook] at h₂
    obtain ⟨rfl, rfl⟩ := h₂.ret
    refine ⟨⟨[gs.csn], rfl⟩, .inl ⟨⟨gs.csn, List.mem_cons_self, (hgs'.trans hg₁).csn_le, liveIn_of_lookup hlook⟩, ?_, ?_⟩⟩
    · exact fun k => by rw [hempty]
    · exact fun n => by rw [hempty]
  | none =>
    rw [hlook] at h₂
    obtain ⟨spec, l₂, g₂, h₃, hrest⟩ := h₂.bind
    obtain ⟨now, l₃, g₃, h₄, hrest⟩ := hrest.bind
    obtain ⟨x₅, l₄, g₄, h₅, hrest⟩ := hrest.bind
    obtain ⟨identityId, l₅, g₅, h₆, hrest⟩ := hrest.bind
    obtain ⟨now', l₆, g₆, h₇, hrest⟩ := hrest.bind
    obtain ⟨claimed, l₇, g₇, h₈, h₉⟩ := hrest.bind
    obtain ⟨rfl, -⟩ := h₃.fresh
    obtain ⟨rfl, -⟩ := h₄.clock
    have hins := h₅.insertRow
    obtain ⟨rfl, -⟩ := h₆.fresh
    obtain ⟨rfl, -⟩ := h₇.clock
    have habsent : G.db.get (.users spec) = none := by
      have habsent := hins.absent
      dsimp only at habsent
      rwa [hempty] at habsent
    have hkeep : ∀ (s : Store Row) k, k ≠ .users spec → (s.apply l₄.writes).get k = s.get k := by
      intro s k hk
      have hk' := hins.get_of_ne s hk
      dsimp only at hk'
      rwa [hempty] at hk'
    have hsnap : l₄.snapshots = gs.csn :: l.snapshots := by rw [hins.frame]
    rcases h₈.insertOrSkip with ⟨rfl, hid⟩ | ⟨rfl, rfl, -⟩
    · obtain ⟨rfl, rfl⟩ := h₉.ret
      have hother : ∀ k, k ≠ .authIdentities identityId → ∀ s : Store Row,
          (s.apply l'.writes).get k = (s.apply l₄.writes).get k := fun k hk s => hid.get_of_ne s hk
      have huser : ∀ s : Store Row, (s.apply l'.writes).get (.users userId) = some
          { nickname := identity.nickname, avatarUrl := identity.avatarUrl, createdAt := now } :=
        fun s => (hother (.users userId) nofun s).trans (hins.get s)
      refine ⟨⟨[gs.csn], by rw [hid.frame]; exact hsnap⟩, .inr ⟨identityId, _, _, ⟨habsent, huser G.db, rfl, rfl,
        fun i hi => ?_, ?_, hid.get G.db, rfl, rfl, rfl, rfl, fun i hi => ?_⟩, huser, fun i => ?_⟩⟩
      · rw [hother (.users i) nofun, hkeep _ (.users i) (by simpa using hi)]
      · have hnone := hid.absent
        dsimp only at hnone
        rwa [hkeep _ (.authIdentities identityId) nofun] at hnone
      · rw [hother (.authIdentities i) (by simpa using hi), hkeep _ (.authIdentities i) nofun]
      · rw [hother (.refreshSessions i) nofun, hkeep _ (.refreshSessions i) nofun]
    · rw [if_neg Bool.false_ne_true] at h₉
      obtain ⟨⟨ns, hns⟩, hfound⟩ := convergence_runs hC hG h₉ habsent (fun s => hins.get s) hkeep
      refine ⟨⟨ns ++ [gs.csn], ?_⟩, .inl hfound⟩
      rw [hns, List.append_assoc]
      exact congrArg (ns ++ ·) hsnap

lemma ensureNotSuspendedForExchange_runs {userId : Uuid} {x : Unit}
    (h : Runs C (ensureNotSuspendedForExchange userId) l g (.ok x) l' g' L G)
    (hthere : ∀ n, g.csn ≤ n → n ≤ G.csn → ((G.version n).apply l.writes).get (.users userId) ≠ none) :
    (∃ n, l' = { l with snapshots := n :: l.snapshots, locks := l'.locks }) ∧
      (.users userId, .share) ∈ l'.locks ∧
      ∃ u, (G.db.apply l.writes).get (.users userId) = some u ∧ u.suspendedAt = none := by
  unfold ensureNotSuspendedForExchange at h
  obtain ⟨suspended, l₁, g₁, h₁, h₂⟩ := h.bind
  obtain ⟨hne, rfl⟩ := h₂.ensure
  obtain ⟨gs, hgs, hgs', hlk⟩ := h₁.selectFor nofun
  have hg₁ : Later C g₁ G := h₁.rest.later
  refine ⟨⟨gs.csn, by rw [hlk.frame]⟩, ?_⟩
  obtain ⟨v, hv⟩ := Option.ne_none_iff_exists'.mp (hthere gs.csn hgs.csn_le (hgs'.trans hg₁).csn_le)
  have hin : userId ∈ ((G.version gs.csn).apply l.writes).one Tables.users userId fun _ => true :=
    Store.mem_one.mpr ⟨rfl, v, hv, rfl⟩
  rcases hlk.each userId hin with ⟨n, hn, hn', hmiss⟩ | ⟨t, u, -, hlock, hget, hall⟩
  · exact absurd hmiss (hthere n (Nat.le_trans hgs.csn_le hn) (Nat.le_trans hn' hg₁.csn_le))
  · refine ⟨hlock, u, hget, ?_⟩
    -- every row that the statement returns is this one
    have hone : ∀ b ∈ suspended, b = u.suspendedAt.isSome := by
      intro b hb
      obtain ⟨i, hi, t', u', -, -, hget', hf⟩ := hlk.mem b hb
      obtain ⟨rfl, -⟩ := Store.mem_one.mp hi
      obtain rfl : u' = u := Option.some.inj (hget'.symm.trans hget)
      exact (Option.some.inj hf).symm
    have hmem := hall _ rfl
    cases suspended with
    | nil => cases hmem
    | cons b bs =>
      have hb := hone b List.mem_cons_self
      simpa [hb] using hne

/-- No other session has the family of a sign-in. -/
lemma Fits.newFamily (hC : Fits C) (hg : History C g) {familyId : Uuid} {ε₁ : Type}
    (h : Runs C .fresh l g (.ok familyId : Except ε₁ _) l' g' L G) :
    familyId ∈ L.drawn ∧ ∀ i r, G.db.get (.refreshSessions i) = some r → r.familyId ≠ familyId := by
  obtain ⟨rfl, g₁, g₂, hg₁, hnew, hshift, hev⟩ := h.fresh
  refine ⟨hev.drawn List.mem_cons_self, fun i r hr hf => ?_⟩
  have hnone : ¬ ∃ i r, g₂.db.get (.refreshSessions i) = some r ∧ r.familyId = familyId := by
    rintro ⟨j, r₁, hr₁, hf₁⟩
    rw [hshift.db] at hr₁
    exact hnew (hf₁ ▸ (hC.wellFormed (hg₁.history hg)).families j r₁ hr₁)
  have hfirst : G.version g₂.csn = g₂.db := hev.later.version (Nat.le_refl _)
  obtain ⟨e, l₁, g₃, -, -, hl₁, hc, hcp, -, -, hbefore, hafter⟩ :=
    hev.commit_of_change (P := fun s => ¬ ∃ i r, s.get (.refreshSessions i) = some r ∧ r.familyId = familyId)
      (Nat.le_refl _) hev.later.csn_le (Nat.le_refl _) (by rw [hfirst]; exact hnone)
      (not_not_intro ⟨i, r, hr, hf⟩)
  obtain ⟨j, r₁, hr₁, hf₁⟩ := not_not.mp hafter
  rcases (hC.ok _ _ hc.ok).sessionStep.source hr₁ with ⟨r₀, hr₀, hages⟩ | ⟨-, -, -, hd | ⟨k, r₀, hr₀, hf₀⟩⟩
  · exact hbefore ⟨j, r₀, hr₀, hages.familyId.symm.trans hf₁⟩
  · rw [hf₁] at hd
    exact hcp.drawn familyId (hl₁.drawn List.mem_cons_self) hd
  · exact hbefore ⟨k, r₀, hr₀, hf₀.trans hf₁⟩

/-- What a sign-in commits, with what it has seen on the way. -/
inductive SignedIn (C : Contract (system settings ticks)) (grace : Nat) (identity : NewProviderIdentity)
    (L : Local Row Nat) (g G : Shared) : AuthExchangeOutput → Prop
  | restored (sessionId : Uuid) (row : RefreshSession) (identityId : Uuid) (r : AuthIdentity) (u : User) (n : Nat)
      (g₁ : Shared) (issued : SessionIssued G.db (G.view L) L sessionId row) (owner : row.userId = r.userId)
      (account : AccountRestored G.db (G.view L) grace identity g₁.now identityId r u)
      (later : Later C g g₁) (held : HoldsDeleted C identity grace n g₁ L G identityId r u) :
      SignedIn C grace identity L g G ⟨⟨r.userId, sessionId⟩, true⟩
  | found (userId sessionId : Uuid) (row : RefreshSession) (n : Nat) (u : User)
      (issued : SessionIssued G.db (G.view L) L sessionId row) (owner : row.userId = userId)
      (snapshot : n ∈ L.snapshots) (lookup : LiveIn (G.version n) identity userId)
      (account : G.db.get (.users userId) = some u) (unsuspended : u.suspendedAt = none)
      (kept : AccountsKept G.db (G.view L)) (userLock : (.users userId, .share) ∈ L.locks) :
      SignedIn C grace identity L g G ⟨⟨userId, sessionId⟩, false⟩
  | created (userId sessionId : Uuid) (row : RefreshSession) (identityId : Uuid) (u : User)
      (r : AuthIdentity) (n : Nat) (issued : SessionIssued G.db (G.view L) L sessionId row)
      (owner : row.userId = userId) (account : AccountCreated G.db (G.view L) identity userId identityId u r)
      (snapshot : L.snapshots.getLast? = some n) (lookup : NothingToRestore C identity grace g n G) :
      SignedIn C grace identity L g G ⟨⟨userId, sessionId⟩, false⟩

lemma SignedIn.exchanged {output : AuthExchangeOutput} (h : SignedIn C grace identity L g G output) :
    Exchanged grace identity L G output := by
  cases h with
  | restored sessionId row identityId r u n g₁ issued owner account later held =>
    exact .restored _ _ _ _ _ _ issued owner account held.identity.lock held.account.lock
  | found userId sessionId row n u issued owner snapshot lookup account unsuspended kept userLock =>
    exact .found _ _ _ _ _ issued owner snapshot lookup account unsuspended kept userLock
  | created userId sessionId row identityId u r n issued owner account snapshot lookup =>
    exact .created _ _ _ _ _ _ issued owner account

lemma AddsSession.issued {session : NewRefreshSession} {userId : Uuid} {row : RefreshSession}
    (h : AddsSession session userId L G row) (hroot : session.parentSessionId = none)
    (hfamily : session.familyId ∈ L.drawn ∧
      ∀ i r, G.db.get (.refreshSessions i) = some r → r.familyId ≠ session.familyId) :
    SessionIssued G.db (G.view L) L session.id row :=
  ⟨h.inserted, h.only, h.parentSessionId.trans hroot, by rw [h.familyId]; exact hfamily.1,
    fun i r hr => by rw [h.familyId]; exact hfamily.2 i r hr⟩

/-- A sign-in that did not restore an account uses the one it has found or creates one. -/
lemma createSessionRecord_runs (hC : Fits C) (hG : History C G) {session : NewRefreshSession}
    {issued : IssuedSession} (hl : l.writes = []) (hroot : session.parentSessionId = none)
    (hfamily : session.familyId ∈ L.drawn ∧
      ∀ i r, G.db.get (.refreshSessions i) = some r → r.familyId ≠ session.familyId)
    {n : Nat} (hn : l.snapshots = [n]) (hlookup : NothingToRestore C identity grace gs n G)
    (h : Runs C (createSessionRecord identity session) l g (.ok issued) L g' L G) :
    SignedIn C grace identity L gs G ⟨issued, false⟩ := by
  unfold createSessionRecord at h
  obtain ⟨userId, l₁, g₁, h₁, hrest⟩ := h.bind
  obtain ⟨x, l₂, g₂, h₂, hrest⟩ := hrest.bind
  obtain ⟨y, l₃, g₃, h₃, h₄⟩ := hrest.bind
  obtain ⟨rfl, rfl⟩ := h₄.ret
  obtain ⟨⟨ns, hns⟩, hfound | ⟨identityId, u, r, hadded⟩⟩ := exchangeAccount_runs hC hG hl h₁
  · obtain ⟨m, hm, hmg, hlive⟩ := hfound.lookup
    have hthere : ∀ k, g₁.csn ≤ k → k ≤ G.csn → ((G.version k).apply l₁.writes).get (.users userId) ≠ none := by
      intro k hk hk'
      obtain ⟨u, hu, -⟩ := hlive.account
      rw [hfound.account]
      exact hC.user_ne_none hG (Nat.le_trans hmg hk) hk' (by simp [hu])
    obtain ⟨⟨k, hl₂⟩, hlock, u, hu, hsusp⟩ := ensureNotSuspendedForExchange_runs h₂ hthere
    have hkeep : ∀ k, (G.db.apply l₂.writes).get k = G.db.get k := by
      rw [hl₂]
      exact hfound.kept
    obtain ⟨⟨row, hadds⟩, hother⟩ := addsSession_of_runs (fun i => hkeep _) h₃
    refine .found userId session.id row m u (hadds.issued hroot hfamily) hadds.userId ?_ hlive ?_ hsusp
      ⟨fun i => ?_, fun i => ?_⟩ (h₃.returns.evolve.locks hlock)
    · refine h₃.returns.evolve.snapshots ?_
      rw [hl₂]
      exact List.mem_cons_of_mem _ hm
    · rw [← hfound.kept]
      exact hu
    · exact (hother (.users i) nofun).trans (hkeep _)
    · exact (hother (.authIdentities i) nofun).trans (hkeep _)
  · obtain ⟨⟨k, hl₂⟩, -, v, hv, hsusp⟩ := ensureNotSuspendedForExchange_runs h₂ fun m _ _ => by
      rw [hadded.row]
      exact nofun
    have hw₂ : l₂.writes = l₁.writes := by rw [hl₂]
    obtain ⟨⟨row, hadds⟩, hother⟩ := addsSession_of_runs (fun i => by rw [hw₂]; exact hadded.sessions i) h₃
    rw [hw₂] at hother
    have ha := hadded.account
    refine .created userId session.id row identityId u r n (hadds.issued hroot hfamily) hadds.userId ?_ ?_ hlookup
    · refine ⟨ha.noUser, ?_, ha.live, ha.unsuspended, fun i hi => ?_, ha.noIdentity, ?_, ha.owner, ha.provider,
        ha.providerId, ha.liveIdentity, fun i hi => ?_⟩
      · exact (hother (.users userId) nofun).trans ha.newUser
      · exact (hother (.users i) nofun).trans (ha.users i hi)
      · exact (hother (.authIdentities identityId) nofun).trans ha.newIdentity
      · exact (hother (.authIdentities i) nofun).trans (ha.identities i hi)
    · obtain ⟨now, hins⟩ := insertRefreshSession_runs h₃
      have hsnap : L.snapshots = k :: (ns ++ [n]) := by
        rw [hins.frame, hl₂]
        exact congrArg (k :: ·) (hns.trans (by rw [hn]))
      rw [hsnap, ← List.cons_append, List.getLast?_concat]

theorem Fits.signedIn (hC : Fits C) (hg : History C g) {now : Time} {output : AuthExchangeOutput}
    (h : Runs C (createOrRestoreSession settings identity now) (Local.begin g) g (.ok output) L g' L G) :
    SignedIn C settings.accountPurgeGrace identity L g G output := by
  have hG : History C G := h.evolve.later.history hg
  unfold createOrRestoreSession at h
  obtain ⟨tokenHash, l₁, g₁, h₁, hrest⟩ := h.bind
  obtain ⟨sessionId, l₂, g₂, h₂, hrest⟩ := hrest.bind
  obtain ⟨familyId, l₃, g₃, h₃, hrest⟩ := hrest.bind
  obtain ⟨restored, l₄, g₄, h₄, h₅⟩ := hrest.bind
  have hg₂ : History C g₂ := (h₁.returns.evolve.later.trans h₂.returns.evolve.later).history hg
  have hg₃ : Later C g g₃ :=
    (h₁.returns.evolve.later.trans h₂.returns.evolve.later).trans h₃.returns.evolve.later
  have hfamily := hC.newFamily hg₂ h₃
  obtain ⟨rfl, -⟩ := h₁.fresh
  obtain ⟨rfl, -⟩ := h₂.fresh
  obtain ⟨rfl, -⟩ := h₃.fresh
  obtain ⟨hnone, hsome⟩ := restoreDeletedIdentityRecord_runs rfl h₄.mapError
  cases restored with
  | some issued =>
    obtain ⟨rfl, rfl⟩ := h₅.ret
    obtain ⟨id, r, u, n, gk, row, rfl, hgk, hheld, haccount, hadds⟩ := hsome issued rfl
    exact .restored sessionId row id r u n gk (hadds.issued rfl hfamily) hadds.userId haccount (hg₃.trans hgk) hheld
  | none =>
    obtain ⟨n, hl₄, gk, t, hgk, hnothing⟩ := hnone rfl
    obtain ⟨issued, l₅, g₅, h₆, h₇⟩ := h₅.bind
    obtain ⟨rfl, rfl⟩ := h₇.ret
    have hlookup : NothingToRestore C identity settings.accountPurgeGrace g n G :=
      ⟨gk, t, hg₃.trans hgk, hnothing⟩
    exact createSessionRecord_runs hC hG (by rw [hl₄]; rfl) rfl hfamily (by rw [hl₄]; rfl) hlookup h₆.mapError

end JamyeServer.Accounts
