import JamyeServer.Accounts.Reuse

/-!
# Suspension

A suspension marks the account and revokes its sessions; its end revokes them again. A sign-in looks at
the account under a lock, a refresh only in the snapshot in which it finds its session.
-/

namespace JamyeServer.Accounts

open ReadCommitted Postgres Auth Moderation

variable {settings : Settings} {ticks : Time → Time → Bool}

def IsSuspended (s : Store Row) (userId : Uuid) : Prop :=
  ∃ u, s.get (.users userId) = some u ∧ u.suspendedAt ≠ none

/-- The commit at position `k` suspends the account. -/
def SuspendedAt (g : Shared) (k : Nat) (userId : Uuid) : Prop :=
  ∃ e command, g.log[k]? = some e ∧ e.job = .suspend command ∧ command.userId = userId

/-- The commit at position `k` ends a suspension of the account. -/
def UnsuspendedAt (g : Shared) (k : Nat) (userId : Uuid) : Prop :=
  (∃ e, g.log[k]? = some e ∧ e.job = .unsuspend userId) ∧ IsSuspended (g.version k) userId ∧
    ¬ IsSuspended (g.version (k + 1)) userId

/-- The entry is a sign-in, with or without a restored account, or a refresh that gives the account a
session. -/
def GivesSession (e : Entry) (userId : Uuid) : Prop :=
  (∃ output, e.out = .exchanged output ∧ output.issued.userId = userId) ∨
    ∃ issued, e.out = .refreshed (.rotated issued) ∧ issued.userId = userId

/-- The commit at position `k` rotates the session. -/
def RotatesSession (g : Shared) (k : Nat) (sessionId : Uuid) : Prop :=
  ∃ e tokenHash now issued, g.log[k]? = some e ∧ e.job = .refresh tokenHash now ∧
    e.out = .refreshed (.rotated issued) ∧
    ∃ r, (g.version k).get (.refreshSessions sessionId) = some r ∧ r.tokenHash = tokenHash

/-- A transaction that begins between a suspension and its end gives no session. -/
def RefusedFromBegin (g : Shared) : Prop :=
  ∀ (i k : Nat) userId e, SuspendedAt g i userId → g.log[k]? = some e → GivesSession e userId → i < e.ran.start →
    ∃ m, i < m ∧ m < e.ran.start ∧ UnsuspendedAt g m userId

/-- A transaction that begins after a suspension gives no session before a commit ends the suspension. -/
def RefusedUntilEnd (g : Shared) : Prop :=
  ∀ (i k : Nat) userId e, SuspendedAt g i userId → g.log[k]? = some e → GivesSession e userId → i < e.ran.start →
    ∃ m, i < m ∧ m < k ∧ UnsuspendedAt g m userId

/-- The sessions that were there when a suspension ended do not rotate afterwards. -/
def EndRevokesAll (g : Shared) : Prop :=
  ∀ i k userId sessionId r, UnsuspendedAt g i userId →
    (g.version i).get (.refreshSessions sessionId) = some r → r.userId = userId → i < k →
    ¬ RotatesSession g k sessionId

/-- The sessions in the snapshot of the revocation that ends a suspension do not rotate afterwards. -/
def EndRevokesSeen (g : Shared) : Prop :=
  ∀ (i k : Nat) userId e n sessionId r, UnsuspendedAt g i userId → g.log[i]? = some e →
    e.ran.snapshots.head? = some n → (g.version n).get (.refreshSessions sessionId) = some r →
    r.userId = userId → i < k → ¬ RotatesSession g k sessionId

/-- When a commit ends a suspension, no session of the account has rotated since the snapshot of its revocation. -/
def NoRotationBeforeEnd (e : Entry) (g : Shared) : Prop :=
  ∀ userId n k sessionId r, e.job = .unsuspend userId → IsSuspended g.db userId → e.ran.snapshots.head? = some n →
    n ≤ k → (g.version k).get (.refreshSessions sessionId) = some r → r.userId = userId → ¬ RotatesSession g k sessionId

/-- When a commit gives an account a session, no suspension of the account has ended since the transaction began. -/
def NoEndSince (e : Entry) (g : Shared) : Prop :=
  ∀ userId m, GivesSession e userId → e.ran.start ≤ m → ¬ UnsuspendedAt g m userId

/-- The end of a suspension is apart from the rotations of the account's sessions and from its sign-ins. -/
def EndsApart (e : Entry) (g : Shared) : Prop := NoRotationBeforeEnd e g ∧ NoEndSince e g

section Steps

variable {e : Entry} {g : Shared}

/-- Only `unsuspend_user` ends a suspension. -/
lemma Ok.unsuspend_of_change (h : Ok settings e g) {userId : Uuid} (hbefore : IsSuspended g.db userId)
    (hafter : ¬ IsSuspended (g.view e.ran) userId) : e.job = .unsuspend userId := by
  obtain ⟨u, hu, hsusp⟩ := hbefore
  have hnot : ∀ u', (g.view e.ran).get (.users userId) = some u' → u'.suspendedAt = none := by
    intro u' hu'
    by_contra hne
    exact hafter ⟨u', hu', hne⟩
  have hchange := h.userChange userId
  generalize (g.view e.ran).get (.users userId) = after at hchange hnot
  rw [hu] at hchange
  cases hchange with
  | same => exact absurd (hnot u rfl) hsusp
  | restored _ hnone => exact absurd hnone hsusp
  | suspended _ u' hne => exact absurd (hnot u' rfl) hne
  | unsuspended _ hjob => exact hjob
  | deleted _ now => exact absurd (hnot _ rfl) hsusp

end Steps

section Histories

variable {C : Contract (system settings ticks)} {g : Shared} {userId : Uuid}

/-- Between a suspension and a version in which the account is there and not suspended, a commit ended
the suspension. -/
lemma Fits.unsuspendedAt (hC : Fits C) (h : History C g) {i n : Nat} (hin : i < n) (hn : n ≤ g.csn)
    (hi : SuspendedAt g i userId) (hnot : ¬ IsSuspended (g.version n) userId) :
    ∃ m, i < m ∧ m < n ∧ UnsuspendedAt g m userId := by
  obtain ⟨e, command, he, hjob, rfl⟩ := hi
  obtain ⟨g₁, hg₁, rfl, hc, hlater⟩ := h.entry he
  have hsusp : IsSuspended (g.version (g₁.csn + 1)) command.userId := by
    obtain ⟨u, u', m, hs⟩ := (hC.ok _ _ hc.ok).suspend hjob
    rw [hlater.version_commit.2]
    exact ⟨u', hs.account.newUser, hs.suspended⟩
  obtain ⟨e', g₂, hg₂, hlt, he', -, hc', hbefore, hafter, hlater'⟩ :=
    h.commit_of_change (P := fun s => IsSuspended s command.userId) hin hn hsusp hnot
  refine ⟨g₂.csn, hg₂, hlt, ⟨e', he', (hC.ok _ _ hc'.ok).unsuspend_of_change hbefore hafter⟩, ?_, ?_⟩
  · rwa [hlater'.version_commit.1]
  · rwa [hlater'.version_commit.2]

/-- A sign-in commits while the account is not suspended. -/
lemma Ok.not_suspended {e : Entry} (h : Ok settings e g) {output : AuthExchangeOutput} (hout : e.out = .exchanged output) :
    ¬ IsSuspended g.db output.issued.userId := by
  obtain ⟨identity, now, -, hex⟩ := h.exchanged hout
  rintro ⟨u, hu, hsusp⟩
  cases hex with
  | restored sessionId row now identityId r v issued owner account =>
    obtain rfl : u = v := Option.some.inj (hu.symm.trans account.userRow)
    exact hsusp account.unsuspended
  | found _ _ row n v issued owner snapshot lookup account unsuspended =>
    obtain rfl : u = v := Option.some.inj (hu.symm.trans account)
    exact hsusp unsuspended
  | created newId sessionId row identityId v r issued owner account =>
    rw [account.noUser] at hu
    cases hu

/-- A commit that gives an account a session has seen the account without a suspension. -/
lemma Fits.not_suspended (hC : Fits C) {e : Entry} (hc : Commits C e g) (hgives : GivesSession e userId) :
    ∃ n, e.ran.start ≤ n ∧ n ≤ g.csn ∧ ¬ IsSuspended (g.version n) userId := by
  have hok := hC.ok _ _ hc.ok
  rcases hgives with ⟨output, hout, rfl⟩ | ⟨issued, hout, rfl⟩
  · exact ⟨g.csn, hc.coherent.start_le, Nat.le_refl _, hok.not_suspended hout⟩
  · obtain ⟨tokenHash, now, parentId, parent, child, n, u, -, hrot, huser⟩ := hok.rotated hout
    have hn := hc.coherent.snapshots n hrot.snapshot
    refine ⟨n, hn.1, hn.2, ?_⟩
    rintro ⟨v, hv, hsusp⟩
    rw [← huser, hrot.rotated.childUser, hrot.account] at hv
    cases hv
    exact hsusp hrot.unsuspended

lemma Fits.refusedUntilEnd (hC : Fits C) (h : History C g) : RefusedUntilEnd g := by
  intro i k userId e hi he hgives hstart
  obtain ⟨g₁, -, rfl, hc, hlater⟩ := h.entry he
  obtain ⟨n, hn, hn', hnot⟩ := hC.not_suspended hc hgives
  have hk : g₁.csn ≤ g.csn := Nat.le_of_lt (List.getElem?_eq_some_iff.mp he).1
  have hversion : g.version n = g₁.version n := by
    rw [hlater.version (by simp only [Shared.csn_commit]; omega), Shared.version_commit _ _ hn']
  obtain ⟨m, him, hmn, hm⟩ := hC.unsuspendedAt h (Nat.lt_of_lt_of_le hstart hn) (Nat.le_trans hn' hk) hi
    (by rw [hversion]; exact hnot)
  exact ⟨m, him, Nat.lt_of_lt_of_le hmn hn', hm⟩

lemma UnsuspendedAt.earlier {g₁ : Shared} {m : Nat} (h : UnsuspendedAt g m userId) (hlater : Later C g₁ g)
    (hm : m < g₁.csn) : UnsuspendedAt g₁ m userId := by
  obtain ⟨⟨e, he, hjob⟩, hbefore, hafter⟩ := h
  obtain ⟨es, hes⟩ := hlater.log
  rw [hes, List.getElem?_append_left hm] at he
  rw [hlater.version (Nat.le_of_lt hm)] at hbefore
  rw [hlater.version hm] at hafter
  exact ⟨⟨e, he, hjob⟩, hbefore, hafter⟩

/-- A transaction during which no suspension of the account ends gives it a session only if the suspension has ended
before the transaction began. -/
lemma Fits.refusedFromBegin (hC : Fits C) (h : History C g) (hassume : ∀ e g₁, Commits C e g₁ → NoEndSince e g₁) :
    RefusedFromBegin g := by
  intro i k userId e hi he hgives hstart
  obtain ⟨m, him, hmk, hm⟩ := hC.refusedUntilEnd h i k userId e hi he hgives hstart
  refine ⟨m, him, ?_, hm⟩
  by_contra hge
  obtain ⟨g₁, -, rfl, hc, hlater⟩ := h.entry he
  exact hassume e g₁ hc userId m hgives (Nat.le_of_not_lt hge) (hm.earlier ((Later.refl.commit hc).trans hlater) hmk)

/-- A session that is revoked or deleted does not rotate later. -/
lemma Fits.not_rotates (hC : Fits C) (h : History C g) {i k : Nat} {sessionId : Uuid}
    {r : RefreshSession} (hr : (g.version i).get (.refreshSessions sessionId) = some r)
    (hend : r.revokedAt ≠ none ∨ r.deletedAt ≠ none) (hik : i ≤ k) : ¬ RotatesSession g k sessionId := by
  rintro ⟨e, tokenHash, now, issued, he, hjob, hout, r', hr', ht⟩
  obtain ⟨e₁, g₁, p, c, parent, child, n, u, -, rfl, hg₁, hlater, hrot⟩ :=
    hC.rotated h ⟨e, now, issued, he, hjob, hout⟩
  have hk : g₁.csn ≤ g.csn := Nat.le_of_lt (List.getElem?_eq_some_iff.mp he).1
  obtain ⟨r₁, hr₁, hages⟩ := hC.ages h hik hk hr
  obtain rfl : r₁ = r' := Option.some.inj (hr₁.symm.trans hr')
  rw [hlater.version_commit.1] at hr₁
  -- the rotated session is the one that has the token
  have htoken : .sessionToken tokenHash ∈
      entries index (.refreshSessions sessionId) (g₁.db.get (.refreshSessions sessionId)) := by
    simp [entries, hr₁, index, ht]
  have htoken' : .sessionToken tokenHash ∈ entries index (.refreshSessions p) (g₁.db.get (.refreshSessions p)) := by
    simp [entries, hrot.rotated.locked, index, hrot.token]
  obtain rfl : sessionId = p := by simpa using hg₁.unique _ _ _ htoken htoken'
  obtain rfl : r₁ = parent := Option.some.inj (hr₁.symm.trans hrot.rotated.locked)
  rcases hend with hrev | hdel
  · exact hages.revokedAt hrev hrot.rotated.unrevoked
  · exact hages.deletedAt hdel hrot.rotated.undeleted

/-- The commit that ends a suspension, with the state that it met. -/
lemma Fits.unsuspended (hC : Fits C) (h : History C g) {i : Nat} (hend : UnsuspendedAt g i userId) :
    ∃ e g₁ u n, g.log[i]? = some e ∧ g₁.csn = i ∧ History C g₁ ∧ Commits C e g₁ ∧ Later C (g₁.commit e) g ∧
      e.job = .unsuspend userId ∧ Unsuspended userId e.ran g₁ u n := by
  obtain ⟨⟨e, he, hjob⟩, hbefore, hafter⟩ := hend
  obtain ⟨g₁, hg₁, rfl, hc, hlater⟩ := h.entry he
  rw [hlater.version_commit.1] at hbefore
  rw [hlater.version_commit.2] at hafter
  rcases (hC.ok _ _ hc.ok).unsuspend hjob with ⟨u, n, hs⟩ | ⟨-, hkept⟩
  · exact ⟨e, g₁, u, n, he, rfl, hg₁, hc, hlater, hjob, hs⟩
  · obtain ⟨u, hu, hsusp⟩ := hbefore
    exact absurd ⟨u, (hkept.users userId).trans hu, hsusp⟩ hafter

lemma Fits.endRevokesSeen (hC : Fits C) (h : History C g) : EndRevokesSeen g := by
  rintro i k userId e n sessionId r hend he hn hr hu hik
  obtain ⟨e', g₁, u, m, he', rfl, -, hc, hlater, -, hs⟩ := hC.unsuspended h hend
  obtain rfl : e' = e := Option.some.inj (he'.symm.trans he)
  obtain rfl : n = m := Option.some.inj (hn.symm.trans hs.snapshot)
  have hn' : n ≤ g₁.csn := (hc.coherent.snapshots n (List.mem_of_head? hn)).2
  rw [((Later.refl.commit hc).trans hlater).version hn'] at hr
  obtain ⟨r', hr', hrev⟩ := hs.all sessionId r hr hu
  rw [← hlater.version_commit.2] at hr'
  exact hC.not_rotates h hr' (.inl hrev) hik

/-- A session that an account gets while the end of its suspension revokes its sessions comes from a rotation. -/
lemma Fits.rotates_of_new (hC : Fits C) (h : History C g) {ran : Local Row Nat} {u : User} {n : Nat} (hn : n ≤ g.csn)
    (hs : Unsuspended userId ran g u n) {sessionId : Uuid} {r : RefreshSession}
    (hr : g.db.get (.refreshSessions sessionId) = some r) (hu : r.userId = userId)
    (hnew : (g.version n).get (.refreshSessions sessionId) = none) :
    ∃ k p parent, n ≤ k ∧ (g.version k).get (.refreshSessions p) = some parent ∧ parent.userId = userId ∧
      RotatesSession g k p := by
  obtain ⟨e, g₁, hng₁, hg₁, he, -, hc, hbefore, hafter, hlater⟩ :=
    h.commit_of_change (P := fun s => s.get (.refreshSessions sessionId) = none) hn (Nat.le_refl _) hnew
      (by rw [show g.version g.csn = g.db from rfl, hr]; exact nofun)
  obtain ⟨r₁, hr₁⟩ := Option.ne_none_iff_exists'.mp hafter
  have hu₁ : r₁.userId = userId := by
    rw [← hlater.version_commit.2] at hr₁
    obtain ⟨r₂, hr₂, hages⟩ := hC.ages h hg₁ (Nat.le_refl _) hr₁
    obtain rfl : r₂ = r := Option.some.inj (hr₂.symm.trans hr)
    exact hages.userId.symm.trans hu
  have hok := hC.ok _ _ hc.ok
  rcases hok.new_session hbefore hr₁ with
    ⟨output, hout, hissued, -⟩ | ⟨tokenHash, now, issued, p, parent, m, v, hjob, hout, hrot⟩
  · -- the account is suspended and locked, so no sign-in commits
    have hheld := hs.held g₁.csn hng₁ (Nat.le_of_lt hg₁)
    rw [hlater.version_commit.1, ← hu₁, hissued] at hheld
    exact absurd ⟨u, hheld, hs.suspended⟩ (hok.not_suspended hout)
  · have hparent : (g.version g₁.csn).get (.refreshSessions p) = some parent := by
      rw [hlater.version_commit.1]
      exact hrot.rotated.locked
    exact ⟨g₁.csn, p, parent, hng₁, hparent, hrot.rotated.childUser.symm.trans hu₁, e, tokenHash, now, issued, he, hjob,
      hout, parent, hparent, hrot.token⟩

/-- The end of a suspension that no rotation overtakes revokes every session of the account. -/
lemma Fits.endRevokesAll (hC : Fits C) (h : History C g) (hassume : ∀ e g₁, Commits C e g₁ → NoRotationBeforeEnd e g₁) :
    EndRevokesAll g := by
  intro i k userId sessionId r hend hr hu hik
  obtain ⟨e, g₁, u, n, he, rfl, hg₁, hc, hlater, hjob, hs⟩ := hC.unsuspended h hend
  have hn : n ≤ g₁.csn := (hc.coherent.snapshots n (List.mem_of_head? hs.snapshot)).2
  have hversion : g.version n = g₁.version n := ((Later.refl.commit hc).trans hlater).version hn
  rw [hlater.version_commit.1] at hr
  cases hseen : (g₁.version n).get (.refreshSessions sessionId) with
  | some r₀ =>
    obtain ⟨r₁, hr₁, hages⟩ := hC.ages hg₁ hn (Nat.le_refl _) hseen
    obtain rfl : r₁ = r := Option.some.inj (hr₁.symm.trans hr)
    exact hC.endRevokesSeen h g₁.csn k userId e n sessionId r₀ hend he hs.snapshot (by rw [hversion]; exact hseen)
      (hages.userId.symm.trans hu) hik
  | none =>
    obtain ⟨m, p, parent, hm, hparent, hpu, hrotates⟩ := hC.rotates_of_new hg₁ hn hs hr hu hseen
    have hsuspended : IsSuspended g₁.db userId := ⟨u, hs.account.userRow, hs.suspended⟩
    exact absurd hrotates (hassume e g₁ hc userId n m p parent hjob hsuspended hs.snapshot hm hparent hpu)

end Histories

/-- If no rotation of an account's sessions commits between the snapshot of the revocation that ends a suspension and its
commit, and no suspension of the account ends while a sign-in or refresh of the account is running, then a transaction that
begins during a suspension gives no session, and the sessions from before the end of a suspension never rotate after it. -/
theorem suspension_ends_sessions {s : State}
    (h : (system settings ticks).ReachableWhere (CommitsWhere EndsApart) Starts s) :
    RefusedFromBegin s.shared ∧ EndRevokesAll s.shared := by
  have hinit : ∀ g, Starts g → Starts g := fun _ hg => hg
  have hist : History (contract settings ticks Starts hinit EndsApart) s.shared := reachableWhere_history h
  have hfits : Fits (contract settings ticks Starts hinit EndsApart) := fits_contract
  exact ⟨hfits.refusedFromBegin hist fun e g₁ hc => hc.assume.2, hfits.endRevokesAll hist fun e g₁ hc => hc.assume.1⟩

section Races

/-- A sign-in begins while the account is suspended and looks it up; then it waits for the end of the
suspension and finds the account without one. -/
def waitingSignIn : List (Label Job) := List.flatten [
  [.start 1 (.exchange ⟨"google", "principal", "nickname", none⟩ 0)], Label.requests 1 10 19, [.commit 1],
  [.start 2 (.suspend ⟨16, none⟩)], Label.requests 2 30 10, [.commit 2],
  [.start 3 (.exchange ⟨"google", "principal", "nickname", none⟩ 0)], Label.requests 3 50 7,
  [.start 4 (.unsuspend 16)], Label.requests 4 70 5, [.commit 4], Label.requests 3 57 6, [.commit 3]]

/-- A rotation of token 10 to 30 is in progress when a suspension takes its snapshot, so the suspension
misses token 30. Its rotation to 70 begins before the suspension commits and is still in progress when
the end of the suspension takes its snapshot, so that one misses token 70. -/
def rotationChain : List (Label Job) := List.flatten [
  [.start 1 (.exchange ⟨"google", "principal", "nickname", none⟩ 0)], Label.requests 1 10 19, [.commit 1],
  [.start 2 (.refresh 10 0)], Label.requests 2 30 14,
  [.start 3 (.suspend ⟨16, none⟩)], Label.requests 3 50 7, [.commit 2],
  [.start 4 (.refresh 30 0)], Label.requests 4 70 5, Label.requests 3 57 4, [.commit 3],
  [.start 5 (.unsuspend 16)], Label.requests 5 90 6, Label.requests 4 75 9, [.commit 4], Label.requests 5 96 4, [.commit 5],
  [.start 6 (.refresh 70 0)], Label.requests 6 110 14, [.commit 6]]

lemma waitingSignIn_runs :
    ((system sampleSettings fun _ _ => true).run ⟨emptyServer, []⟩ waitingSignIn).map
      (fun s => ((outcomes s.shared).drop 1, (s.shared.log[3]?).map fun e => e.ran.start)) =
    some ([(.suspend ⟨16, none⟩, .done), (.unsuspend 16, .done),
      (.exchange ⟨"google", "principal", "nickname", none⟩ 0, .exchanged ⟨⟨16, 51⟩, false⟩)], some 2) := by
  decide

/-- What `rotationChain` leads to: the account and its last session around the end of the suspension. -/
def rotationChainEnd (s : State) : Bool :=
  decide ((outcomes s.shared).drop 4 =
    [(.unsuspend 16, .done), (.refresh 70 0, .refreshed (.rotated ⟨16, 111⟩))]) &&
  decide (((s.shared.version 4).get (.users 16)).map (fun u => u.suspendedAt) = some (some 0)) &&
  decide (((s.shared.version 5).get (.users 16)).map (fun u => u.suspendedAt) = some none) &&
  decide (((s.shared.version 4).get (.refreshSessions 71)).map (fun r => r.userId) = some 16) &&
  decide (((s.shared.version 5).get (.refreshSessions 71)).map (fun r => r.tokenHash) = some 70)

lemma rotationChain_runs :
    ((system sampleSettings fun _ _ => true).run ⟨emptyServer, []⟩ rotationChain).any rotationChainEnd = true := by
  decide

theorem suspension_races :
    (¬ ∀ s : State, (system sampleSettings fun _ _ => true).Reachable Starts s → RefusedFromBegin s.shared) ∧
      ¬ ∀ s : State, (system sampleSettings fun _ _ => true).Reachable Starts s → EndRevokesAll s.shared := by
  constructor
  · intro hall
    obtain ⟨s, hs, hend⟩ := Option.map_eq_some_iff.mp waitingSignIn_runs
    simp only [Prod.mk.injEq, Option.map_eq_some_iff] at hend
    obtain ⟨hlog, e, he, hstart⟩ := hend
    have hentry : ∀ k x, (outcomes s.shared)[k + 1]? = some x ↔ ((outcomes s.shared).drop 1)[k]? = some x := by
      intro k x
      rw [List.getElem?_drop, Nat.add_comm]
    obtain ⟨e₁, he₁, hjob₁, -⟩ := entry_of_outcomes ((hentry 0 _).mpr (by rw [hlog]; rfl))
    obtain ⟨e₃, he₃, -, hout₃⟩ := entry_of_outcomes ((hentry 2 _).mpr (by rw [hlog]; rfl))
    obtain rfl : e₃ = e := Option.some.inj (he₃.symm.trans he)
    have hreach := (system sampleSettings fun _ _ => true).reachable_of_run starts_empty hs
    obtain ⟨m, hm, hm', -⟩ := hall s hreach 1 3 16 e₃ ⟨e₁, _, he₁, hjob₁, rfl⟩ he
      (.inl ⟨_, hout₃, rfl⟩) (by omega)
    omega
  · intro hall
    obtain ⟨s, hs, hend⟩ := (Option.any_eq_true _ _).mp rotationChain_runs
    simp only [rotationChainEnd, Bool.and_eq_true, decide_eq_true_eq, Option.map_eq_some_iff] at hend
    obtain ⟨⟨⟨⟨hlog, u, hu, hsusp⟩, u', hu', hsusp'⟩, r, hr, hru⟩, r', hr', ht⟩ := hend
    have hentry : ∀ k x, (outcomes s.shared)[k + 4]? = some x ↔ ((outcomes s.shared).drop 4)[k]? = some x := by
      intro k x
      rw [List.getElem?_drop, Nat.add_comm]
    obtain ⟨e₄, he₄, hjob₄, -⟩ := entry_of_outcomes ((hentry 0 _).mpr (by rw [hlog]; rfl))
    obtain ⟨e₅, he₅, hjob₅, hout₅⟩ := entry_of_outcomes ((hentry 1 _).mpr (by rw [hlog]; rfl))
    have hreach := (system sampleSettings fun _ _ => true).reachable_of_run starts_empty hs
    have hended : UnsuspendedAt s.shared 4 16 := by
      refine ⟨⟨e₄, he₄, hjob₄⟩, ⟨u, hu, by simp [hsusp]⟩, ?_⟩
      rintro ⟨v, hv, hne⟩
      obtain rfl : v = u' := Option.some.inj (hv.symm.trans hu')
      exact hne hsusp'
    exact hall s hreach 4 5 16 71 r hended hr hru (by decide) ⟨e₅, 70, 0, _, he₅, hjob₅, hout₅, r', hr', ht⟩

/-- Passes if nothing has rotated since the snapshot of the revocation that ends a suspension, and no suspension has ended
since the transaction began. -/
def testEnds (e : Entry) (g : Shared) : Bool :=
  (match e.job with
    | .unsuspend _ => e.ran.snapshots.head?.all (unrotated g)
    | _ => true) &&
  (g.log.drop e.ran.start).all fun e' => match e'.job with
    | .unsuspend _ => false
    | _ => true

lemma endsApart_of_test (e : Entry) (g : Shared) (h : testEnds e g = true) : EndsApart e g := by
  simp only [testEnds, Bool.and_eq_true] at h
  refine ⟨?_, ?_⟩
  · rintro userId n k sessionId r hjob - hn hk - - ⟨e', tokenHash, now, issued, he', -, hout, -⟩
    have hrotated := h.1
    simp only [hjob, hn, Option.all_some] at hrotated
    exact not_rotated_of_unrotated hrotated hk he' hout
  · rintro userId m - hm ⟨⟨e', he', hjob⟩, -⟩
    rw [show m = e.ran.start + (m - e.ran.start) by omega, ← List.getElem?_drop] at he'
    have hended := List.all_eq_true.mp h.2 e' (List.mem_of_getElem? he')
    rw [hjob] at hended
    cases hended

/-- An account is suspended, the suspension ends and the account signs in again. -/
def suspensionSchedule : List (Label Job) := Label.serial 1 [
  (.exchange ⟨"google", "principal", "nickname", none⟩ 0, 10, 19),
  (.suspend ⟨16, none⟩, 30, 10),
  (.unsuspend 16, 50, 5),
  (.exchange ⟨"google", "principal", "nickname", none⟩ 0, 70, 12)]

theorem suspension_ends_sessions_in_schedule : ∃ s : State,
    (system sampleSettings fun _ _ => true).ReachableWhere (CommitsWhere EndsApart) Starts s ∧
      SuspendedAt s.shared 1 16 ∧ UnsuspendedAt s.shared 2 16 ∧ RefusedFromBegin s.shared ∧ EndRevokesAll s.shared := by
  have hrun : ((system sampleSettings fun _ _ => true).runWhere (fun s => s.testCommit testEnds) ⟨emptyServer, []⟩
      suspensionSchedule).map (fun s => ((outcomes s.shared).drop 1,
        ((s.shared.version 2).get (.users 16)).map (fun u => u.suspendedAt),
        ((s.shared.version 3).get (.users 16)).map fun u => u.suspendedAt)) =
      some ([(.suspend ⟨16, none⟩, .done), (.unsuspend 16, .done),
        (.exchange ⟨"google", "principal", "nickname", none⟩ 0, .exchanged ⟨⟨16, 71⟩, false⟩)], some (some 0), some none) := by
    decide
  obtain ⟨s, hs, hend⟩ := Option.map_eq_some_iff.mp hrun
  simp only [Prod.mk.injEq, Option.map_eq_some_iff] at hend
  obtain ⟨hlog, ⟨u, hu, hsusp⟩, u', hu', hsusp'⟩ := hend
  have hentry : ∀ k x, (outcomes s.shared)[k + 1]? = some x ↔ ((outcomes s.shared).drop 1)[k]? = some x := by
    intro k x
    rw [List.getElem?_drop, Nat.add_comm]
  obtain ⟨e₁, he₁, hjob₁, -⟩ := entry_of_outcomes ((hentry 0 _).mpr (by rw [hlog]; rfl))
  obtain ⟨e₂, he₂, hjob₂, -⟩ := entry_of_outcomes ((hentry 1 _).mpr (by rw [hlog]; rfl))
  have hreach : (system sampleSettings fun _ _ => true).ReachableWhere (CommitsWhere EndsApart) Starts s := by
    refine System.reachableWhere_of_run _ (fun s lab htest id t out hlab hf hp => ?_) starts_empty hs
    exact endsApart_of_test _ _ (State.of_testCommit htest hlab hf hp)
  refine ⟨s, hreach, ⟨e₁, _, he₁, hjob₁, rfl⟩, ⟨⟨e₂, he₂, hjob₂⟩, ⟨u, hu, by simp [hsusp]⟩, ?_⟩,
    suspension_ends_sessions hreach⟩
  rintro ⟨v, hv, hne⟩
  obtain rfl : v = u' := Option.some.inj (hv.symm.trans hu')
  exact hne hsusp'

end Races

end JamyeServer.Accounts
