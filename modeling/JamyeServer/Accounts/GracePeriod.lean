import JamyeServer.Accounts.Suspension

/-!
# Sessions of deleted accounts

The start of a grace period deletes the sessions of the account. A sign-in that had found the account
before that waits for the account's row, then looks only at its suspension and adds a session.
-/

namespace JamyeServer.Accounts

open ReadCommitted Postgres Auth AccountDeletion

variable {settings : Settings} {ticks : Time → Time → Bool}

/-- A deleted account has no session that is neither revoked nor deleted. -/
def NoLiveSessions (s : Store Row) : Prop :=
  ∀ i r u, s.get (.refreshSessions i) = some r → s.get (.users r.userId) = some u → u.deletedAt ≠ none →
    r.revokedAt ≠ none ∨ r.deletedAt ≠ none

/-- The commit at position `k` restores the account. -/
def RestoredAt (g : Shared) (k : Nat) (userId : Uuid) : Prop :=
  ∃ e issued, g.log[k]? = some e ∧ e.out = .exchanged ⟨issued, true⟩ ∧ issued.userId = userId

/-- The sessions that an account had before it was restored do not rotate afterwards. -/
def RestoredWithoutSessions (g : Shared) : Prop :=
  ∀ i k userId sessionId r, RestoredAt g i userId → (g.version i).get (.refreshSessions sessionId) = some r →
    r.userId = userId → i < k → ¬ RotatesSession g k sessionId

/-- When a sign-in commits, the account that it has locked `FOR SHARE` is not deleted. -/
def SignsInToLive (e : Entry) (g : Shared) : Prop :=
  ∀ identity now userId u, e.job = .exchange identity now → (.users userId, .share) ∈ e.ran.locks →
    g.db.get (.users userId) = some u → u.deletedAt = none

section Steps

variable {e : Entry} {g : Shared}

/-- Only `start_grace_period` deletes an account. -/
lemma Ok.deleted_of_change (h : Ok settings e g) {userId : Uuid} {u' : User}
    (hu' : (g.view e.ran).get (.users userId) = some u') (hdel : u'.deletedAt ≠ none) :
    (∃ u, g.db.get (.users userId) = some u ∧ u.deletedAt = u'.deletedAt) ∨ e.job = .deleteAccount userId := by
  have hchange := h.userChange userId
  rw [hu'] at hchange
  generalize g.db.get (.users userId) = before at hchange
  cases hchange with
  | same => exact .inl ⟨u', rfl, rfl⟩
  | restored u => exact absurd rfl hdel
  | created _ hlive => exact absurd hlive hdel
  | suspended u _ _ heq => exact .inl ⟨u, rfl, heq.symm⟩
  | unsuspended u => exact .inl ⟨u, rfl, rfl⟩
  | deleted u now hjob => exact .inr hjob

lemma NoLiveSessions.step (hs : NoLiveSessions g.db) (h : Ok settings e g) (hlive : SignsInToLive e g) :
    NoLiveSessions (g.view e.ran) := by
  intro i r u hr hu hdel
  -- the account was deleted before, or it is deleted by this commit
  rcases h.deleted_of_change hu hdel with ⟨v, hv, hvdel⟩ | hjob
  · rw [← hvdel] at hdel
    cases hb : g.db.get (.refreshSessions i) with
    | some r₀ =>
      obtain ⟨r₁, hr₁, hages⟩ := h.sessionStep.ages hb
      obtain rfl : r₁ = r := Option.some.inj (hr₁.symm.trans hr)
      rcases hs i r₀ v hb (hages.userId ▸ hv) hdel with hrev | hrdel
      · exact .inl (hages.revokedAt hrev)
      · exact .inr (hages.deletedAt hrdel)
    | none =>
      rcases h.new_session hb hr with ⟨output, hout, hru, -⟩ | ⟨_, _, _, p, parent, _, _, -, -, hrot⟩
      · obtain ⟨identity, now, hjob, hex⟩ := h.exchanged hout
        cases hex with
        | restored sessionId row now identityId r₁ u₁ _ _ account =>
          rw [hru, account.newUser] at hu
          cases hu
          exact absurd rfl (hvdel ▸ hdel)
        | found userId sessionId row n u₁ _ _ _ _ _ _ _ userLock =>
          rw [hru] at hv
          exact absurd (hlive identity now userId v hjob userLock hv) hdel
        | created userId sessionId row identityId u₁ r₁ _ _ account =>
          rw [hru, account.noUser] at hv
          cases hv
      · -- a rotation needs a live session of the account
        have hpu : r.userId = parent.userId := hrot.rotated.childUser
        rcases hs p parent v hrot.rotated.locked (hpu ▸ hv) hdel with hrev | hrdel
        · exact absurd hrot.rotated.unrevoked hrev
        · exact absurd hrot.rotated.undeleted hrdel
  · obtain ⟨v, now, hd⟩ := h.deleteAccount hjob
    rcases hd.sessions i with hsame | ⟨r₀, r₁, hr₀, hr₁, hrev⟩
    · obtain ⟨r', hr', hrdel⟩ := hd.all i r (hsame.symm.trans hr) rfl
      obtain rfl : r' = r := Option.some.inj (hr'.symm.trans hr)
      exact .inr hrdel
    · obtain rfl : r₁ = r := Option.some.inj (hr₁.symm.trans hr)
      exact .inl hrev.revokedAt

end Steps

/-- A server at its start, on which no deleted account has a live session. -/
structure StartsQuiet (g : Shared) : Prop extends Starts g where
  noLiveSessions : NoLiveSessions g.init

lemma Fits.restoredWithoutSessions {C : Contract (system settings ticks)} {g : Shared} (hC : Fits C)
    (h : History C g) (hquiet : ∀ n, n ≤ g.csn → NoLiveSessions (g.version n)) : RestoredWithoutSessions g := by
  rintro i k userId sessionId r ⟨e, issued, he, hout, rfl⟩ hr hru hik
  obtain ⟨g₁, -, rfl, hc, hlater⟩ := h.entry he
  have hi : g₁.csn ≤ g.csn := Nat.le_of_lt (List.getElem?_eq_some_iff.mp he).1
  obtain ⟨identity, now, -, hex⟩ := (hC.ok _ _ hc.ok).exchanged hout
  cases hex with
  | restored sid row now identityId r₁ u _ _ account =>
    -- the account is deleted until this commit
    have hdel : u.deletedAt ≠ none := by
      intro hnone
      have hrest := account.restorable
      simp [Auth.restorable, hnone] at hrest
    have hu : (g.version g₁.csn).get (.users r.userId) = some u := by
      rw [hru, hlater.version_commit.1]
      exact account.userRow
    exact hC.not_rotates h hr (hquiet _ hi sessionId r u hr hu hdel) (Nat.le_of_lt hik)

/-- If the accounts that sign-ins have locked are not deleted when they commit, a deleted account never
has a live session, and the sessions it had never rotate after it is restored. -/
theorem grace_period_ends_sessions {s : State}
    (h : (system settings ticks).ReachableWhere (CommitsWhere SignsInToLive) StartsQuiet s) :
    NoLiveSessions s.shared.db ∧ RestoredWithoutSessions s.shared := by
  have hinit : ∀ g, StartsQuiet g → Starts g := fun g hg => hg.toStarts
  have hfits : Fits (contract settings ticks StartsQuiet hinit SignsInToLive) := fits_contract
  have hquiet : ∀ g, History (contract settings ticks StartsQuiet hinit SignsInToLive) g → NoLiveSessions g.db := by
    intro g hg
    refine hg.invariant (fun g₀ hg₀ => hg₀.noLiveSessions) fun g₁ e _ hc hs => ?_
    exact hs.step (hfits.ok _ _ hc.ok) hc.assume
  have hist : History (contract settings ticks StartsQuiet hinit SignsInToLive) s.shared := reachableWhere_history h
  refine ⟨hquiet _ hist, hfits.restoredWithoutSessions hist fun n hn => ?_⟩
  obtain ⟨g₁, hg₁, -, hdb, -⟩ := hist.version hn
  rw [← hdb]
  exact hquiet g₁ hg₁

section LateSignIn

/-- A second sign-in finds the account; then the account is deleted, and the sign-in goes on. -/
def lateSignIn : List (Label Job) := List.flatten [
  [.start 1 (.exchange ⟨"google", "principal", "nickname", none⟩ 0)], Label.requests 1 10 19, [.commit 1],
  [.start 2 (.exchange ⟨"google", "principal", "nickname", none⟩ 0)], Label.requests 2 50 7,
  [.start 3 (.deleteAccount 16)], Label.requests 3 100 26, [.commit 3], Label.requests 2 57 6, [.commit 2]]

/-- The account is restored and the late session rotates. -/
def lateRotation : List (Label Job) := List.flatten [
  lateSignIn, [.start 4 (.exchange ⟨"google", "principal", "nickname", none⟩ 0)], Label.requests 4 200 22, [.commit 4],
  [.start 5 (.refresh 50 0)], Label.requests 5 300 14, [.commit 5]]

/-- What `lateSignIn` leads to: the session is live and its account is deleted. -/
def lateSignInEnd (s : State) : Bool :=
  decide ((s.shared.db.get (.refreshSessions 51)).map (fun r => (r.userId, r.revokedAt, r.deletedAt)) =
    some (16, none, none)) &&
  decide ((s.shared.db.get (.users 16)).map (fun u => u.deletedAt) = some (some 0))

/-- What `lateRotation` leads to. -/
def lateRotationEnd (s : State) : Bool :=
  decide ((outcomes s.shared).drop 3 =
    [(.exchange ⟨"google", "principal", "nickname", none⟩ 0, .exchanged ⟨⟨16, 201⟩, true⟩),
      (.refresh 50 0, .refreshed (.rotated ⟨16, 301⟩))]) &&
  decide (((s.shared.version 3).get (.refreshSessions 51)).map (fun r => r.userId) = some 16) &&
  decide (((s.shared.version 4).get (.refreshSessions 51)).map (fun r => r.tokenHash) = some 50)

lemma startsQuiet_empty : StartsQuiet emptyServer := ⟨starts_empty, fun _ _ _ h => nomatch h⟩

theorem late_sign_in_keeps_session :
    (¬ ∀ s : State, (system sampleSettings fun _ _ => true).Reachable StartsQuiet s → NoLiveSessions s.shared.db) ∧
      ¬ ∀ s : State, (system sampleSettings fun _ _ => true).Reachable StartsQuiet s →
        RestoredWithoutSessions s.shared := by
  constructor
  · intro hall
    have hrun : ((system sampleSettings fun _ _ => true).run ⟨emptyServer, []⟩ lateSignIn).any lateSignInEnd = true := by
      decide
    obtain ⟨s, hs, hend⟩ := (Option.any_eq_true _ _).mp hrun
    simp only [lateSignInEnd, Bool.and_eq_true, decide_eq_true_eq, Option.map_eq_some_iff, Prod.mk.injEq] at hend
    obtain ⟨⟨r, hr, hru, hrev, hdel⟩, u, hu, hudel⟩ := hend
    have hreach := (system sampleSettings fun _ _ => true).reachable_of_run startsQuiet_empty hs
    rcases hall s hreach 51 r u hr (by rwa [hru]) (by simp [hudel]) with hne | hne
    · exact hne hrev
    · exact hne hdel
  · intro hall
    have hrun : ((system sampleSettings fun _ _ => true).run ⟨emptyServer, []⟩ lateRotation).any lateRotationEnd =
        true := by
      decide
    obtain ⟨s, hs, hend⟩ := (Option.any_eq_true _ _).mp hrun
    simp only [lateRotationEnd, Bool.and_eq_true, decide_eq_true_eq, Option.map_eq_some_iff] at hend
    obtain ⟨⟨hlog, r, hr, hru⟩, r', hr', ht⟩ := hend
    have hentry : ∀ k x, (outcomes s.shared)[k + 3]? = some x ↔ ((outcomes s.shared).drop 3)[k]? = some x := by
      intro k x
      rw [List.getElem?_drop, Nat.add_comm]
    obtain ⟨e₃, he₃, -, hout₃⟩ := entry_of_outcomes ((hentry 0 _).mpr (by rw [hlog]; rfl))
    obtain ⟨e₄, he₄, hjob₄, hout₄⟩ := entry_of_outcomes ((hentry 1 _).mpr (by rw [hlog]; rfl))
    have hreach := (system sampleSettings fun _ _ => true).reachable_of_run startsQuiet_empty hs
    exact hall s hreach 3 4 16 51 r ⟨e₃, ⟨16, 201⟩, he₃, hout₃, rfl⟩ hr hru (by decide)
      ⟨e₄, 50, 0, _, he₄, hjob₄, hout₄, r', hr', ht⟩

/-- Passes if the accounts that a sign-in has locked `FOR SHARE` are not deleted. -/
def testSignIn (e : Entry) (g : Shared) : Bool :=
  match e.job with
  | .exchange _ _ => e.ran.locks.all fun x =>
    match x with
    | (.users userId, .share) => (g.db.get (.users userId)).all fun u => u.deletedAt.isNone
    | _ => true
  | _ => true

lemma signsInToLive_of_test (e : Entry) (g : Shared) (h : testSignIn e g = true) : SignsInToLive e g := by
  intro identity now userId u hjob hlock hu
  simp only [testSignIn, hjob, List.all_eq_true] at h
  simpa [hu] using h _ hlock

/-- The account is used by two sign-ins, deleted and restored. -/
def graceSchedule : List (Label Job) := List.flatten [
  [.start 1 (.exchange ⟨"google", "principal", "nickname", none⟩ 0)], Label.requests 1 10 19, [.commit 1],
  [.start 2 (.exchange ⟨"google", "principal", "nickname", none⟩ 0)], Label.requests 2 50 12, [.commit 2],
  [.start 3 (.deleteAccount 16)], Label.requests 3 100 30, [.commit 3],
  [.start 4 (.exchange ⟨"google", "principal", "nickname", none⟩ 0)], Label.requests 4 200 22, [.commit 4]]

theorem grace_period_ends_sessions_in_schedule : ∃ s : State,
    (system sampleSettings fun _ _ => true).ReachableWhere (CommitsWhere SignsInToLive) StartsQuiet s ∧
      RestoredAt s.shared 3 16 ∧ NoLiveSessions s.shared.db ∧ RestoredWithoutSessions s.shared := by
  have hrun : ((system sampleSettings fun _ _ => true).runWhere (fun s => s.testCommit testSignIn) ⟨emptyServer, []⟩
      graceSchedule).map (fun s => (outcomes s.shared)[3]?) =
      some (some (.exchange ⟨"google", "principal", "nickname", none⟩ 0, .exchanged ⟨⟨16, 201⟩, true⟩)) := by
    decide
  obtain ⟨s, hs, hlog⟩ := Option.map_eq_some_iff.mp hrun
  obtain ⟨e, he, -, hout⟩ := entry_of_outcomes hlog
  have hreach : (system sampleSettings fun _ _ => true).ReachableWhere (CommitsWhere SignsInToLive) StartsQuiet s := by
    refine System.reachableWhere_of_run _ (fun s lab htest id t out hlab hf hp => ?_) startsQuiet_empty hs
    exact signsInToLive_of_test _ _ (State.of_testCommit htest hlab hf hp)
  exact ⟨s, hreach, ⟨e, _, he, hout, rfl⟩, grace_period_ends_sessions hreach⟩

end LateSignIn

end JamyeServer.Accounts
