import JamyeServer.Accounts.Families

/-!
# Reused tokens

A refresh with a consumed token revokes the family of the token: every session of the family that the
`UPDATE` sees in its snapshot. A rotation that commits after this snapshot adds a session that the
`UPDATE` does not see.
-/

namespace JamyeServer.Accounts

open ReadCommitted Postgres Auth

variable {settings : Settings} {ticks : Time → Time → Bool}

/-- The token belongs to a session of the family. -/
def TokenIn (s : Store Row) (tokenHash familyId : Nat) : Prop :=
  ∃ i r, s.get (.refreshSessions i) = some r ∧ r.tokenHash = tokenHash ∧ r.familyId = familyId

/-- The commit at position `k` is that of a reused token of the family. -/
def ReusedAt (g : Shared) (k familyId : Nat) : Prop :=
  ∃ e tokenHash now, g.log[k]? = some e ∧ e.job = .refresh tokenHash now ∧ e.out = .refreshed .reused ∧
    TokenIn (g.version k) tokenHash familyId

/-- The commit at position `k` rotates a token of the family. -/
def RotatedAt (g : Shared) (k familyId : Nat) : Prop :=
  ∃ e tokenHash now issued, g.log[k]? = some e ∧ e.job = .refresh tokenHash now ∧
    e.out = .refreshed (.rotated issued) ∧ TokenIn (g.version k) tokenHash familyId

/-- After a reuse no token of the family rotates. -/
def ReuseEndsFamily (g : Shared) : Prop :=
  ∀ familyId j k, ReusedAt g j familyId → j < k → ¬ RotatedAt g k familyId

/-- No rotation of the token's family has committed since the snapshot of the revocation. -/
def NoRotationSince (e : Entry) (g : Shared) : Prop :=
  ∀ tokenHash now familyId n k, e.job = .refresh tokenHash now → e.out = .refreshed .reused →
    TokenIn g.db tokenHash familyId → e.ran.snapshots.head? = some n → n ≤ k → ¬ RotatedAt g k familyId

section Histories

variable {C : Contract (system settings ticks)} {g : Shared}

/-- The token of a family belongs to one session. -/
lemma family_of_token (h : History C g) {i : Uuid} {r : RefreshSession} {tokenHash familyId : Nat}
    (hr : g.db.get (.refreshSessions i) = some r) (ht : r.tokenHash = tokenHash)
    (hf : TokenIn g.db tokenHash familyId) : r.familyId = familyId := by
  obtain ⟨j, r', hr', ht', hf'⟩ := hf
  have hi : .sessionToken tokenHash ∈ entries index (.refreshSessions i) (g.db.get (.refreshSessions i)) := by
    simp [entries, hr, index, ht]
  have hj : .sessionToken tokenHash ∈ entries index (.refreshSessions j) (g.db.get (.refreshSessions j)) := by
    simp [entries, hr', index, ht']
  obtain rfl : i = j := by simpa using h.unique _ _ _ hi hj
  obtain rfl : r = r' := Option.some.inj (hr.symm.trans hr')
  exact hf'

/-- A session of the family that was not there before comes from a rotation. -/
lemma Fits.rotatedAt_of_new (hC : Fits C) (h : History C g) {n familyId : Nat} (hn : n ≤ g.csn) {i j : Uuid}
    {r r₀ : RefreshSession} (hr₀ : (g.version n).get (.refreshSessions j) = some r₀)
    (hf₀ : r₀.familyId = familyId) (hr : g.db.get (.refreshSessions i) = some r) (hf : r.familyId = familyId)
    (hnew : (g.version n).get (.refreshSessions i) = none) : ∃ k, n ≤ k ∧ RotatedAt g k familyId := by
  obtain ⟨e, g₁, hng₁, hg₁, he, -, hc, hbefore, hafter, hlater⟩ :=
    h.commit_of_change (P := fun s => s.get (.refreshSessions i) = none) hn (Nat.le_refl _) hnew
      (by rw [show g.version g.csn = g.db from rfl, hr]; exact nofun)
  refine ⟨g₁.csn, hng₁, ?_⟩
  obtain ⟨r₁, hr₁⟩ := Option.ne_none_iff_exists'.mp hafter
  have hf₁ : r₁.familyId = familyId := by
    rw [← hlater.version_commit.2] at hr₁
    obtain ⟨r₂, hr₂, hages⟩ := hC.ages h hg₁ (Nat.le_refl _) hr₁
    obtain rfl : r₂ = r := Option.some.inj (hr₂.symm.trans hr)
    exact hages.familyId.symm.trans hf
  rcases (hC.ok _ _ hc.ok).new_session hbefore hr₁ with
    ⟨output, -, -, hs⟩ | ⟨tokenHash, now, issued, p, parent, m, u, hjob, hout, hrot⟩
  · -- a sign-in starts another family
    obtain ⟨r₂, hr₂, hages⟩ := hC.ages h hng₁ (Nat.le_of_lt hg₁) hr₀
    rw [hlater.version_commit.1] at hr₂
    exact absurd (hages.familyId.trans (hf₀.trans hf₁.symm)) (hs.newFamily j r₂ hr₂)
  · refine ⟨e, tokenHash, now, issued, he, hjob, hout, p, parent, ?_, hrot.token, hrot.rotated.childFamily.symm.trans hf₁⟩
    rw [hlater.version_commit.1]
    exact hrot.rotated.locked

/-- The family is there and all its sessions are revoked. -/
structure FamilyRevoked (s : Store Row) (familyId : Uuid) : Prop where
  nonempty : ∃ i r, s.get (.refreshSessions i) = some r ∧ r.familyId = familyId
  revoked : ∀ i r, s.get (.refreshSessions i) = some r → r.familyId = familyId → r.revokedAt ≠ none

lemma FamilyRevoked.step {before after : Store Row} {ran : Local Row Nat} {familyId : Uuid}
    (hf : FamilyRevoked before familyId) (h : SessionStep before after ran) : FamilyRevoked after familyId := by
  obtain ⟨j, rj, hj, hjf⟩ := hf.nonempty
  obtain ⟨rj', hj', hjages⟩ := h.ages hj
  refine ⟨⟨j, rj', hj', hjages.familyId.trans hjf⟩, fun i r' hr' hrf => ?_⟩
  have hold : ∀ r, before.get (.refreshSessions i) = some r → r'.revokedAt ≠ none := by
    intro r hr
    obtain ⟨r₁, hr₁, hages⟩ := h.ages hr
    obtain rfl : r₁ = r' := Option.some.inj (hr₁.symm.trans hr')
    exact hages.revokedAt (hf.revoked i r hr (hages.familyId.symm.trans hrf))
  cases hb : before.get (.refreshSessions i) with
  | some r => exact hold r hb
  | none =>
    cases h with
    | issue sessionId row h =>
      have hi : i = sessionId := by
        by_contra hne
        rw [h.only i hne, hb] at hr'
        cases hr'
      subst hi
      obtain rfl : row = r' := Option.some.inj (h.inserted.symm.trans hr')
      exact absurd (hjf.trans hrf.symm) (h.newFamily j rj hj)
    | rotate parentId childId parent child h =>
      have hp : i ≠ parentId := by
        rintro rfl
        rw [h.locked] at hb
        cases hb
      have hi : i = childId := by
        by_contra hne
        rw [h.only i hp hne, hb] at hr'
        cases hr'
      subst hi
      obtain rfl : child = r' := Option.some.inj (h.inserted.symm.trans hr')
      exact absurd h.unrevoked (hf.revoked parentId parent h.locked (h.childFamily.symm.trans hrf))
    | revoke h =>
      rcases h i with hsame | ⟨r, -, hr, -⟩
      · rw [hsame, hb] at hr'
        cases hr'
      · rw [hb] at hr
        cases hr

/-- A reuse revokes its whole family, when no rotation has come in between. -/
lemma Fits.familyRevoked_of_reused (hC : Fits C) (h : History C g) {e : Entry} {tokenHash : Nat}
    {sessionId : Uuid} {session : RefreshSession} {n : Nat} (hn : n ≤ g.csn)
    (hre : Reused tokenHash e.ran g sessionId session n)
    (hno : ∀ k, n ≤ k → ¬ RotatedAt g k session.familyId) : FamilyRevoked (g.view e.ran) session.familyId := by
  obtain ⟨r₀, hr₀⟩ := Option.ne_none_iff_exists'.mp hre.found
  have hf₀ : r₀.familyId = session.familyId := by
    obtain ⟨r₁, hr₁, hages⟩ := hC.ages h hn (Nat.le_refl _) hr₀
    obtain rfl : r₁ = session := Option.some.inj (hr₁.symm.trans hre.locked)
    exact hages.familyId.symm
  have hback : ∀ i r', (g.view e.ran).get (.refreshSessions i) = some r' →
      ∃ r, g.db.get (.refreshSessions i) = some r ∧ r'.familyId = r.familyId := by
    intro i r' hr'
    rcases hre.sessions i with hsame | ⟨r, r₁, hr, hr₁, hrev⟩
    · exact ⟨r', hsame.symm.trans hr', rfl⟩
    · obtain rfl : r₁ = r' := Option.some.inj (hr₁.symm.trans hr')
      exact ⟨r, hr, hrev.familyId⟩
  constructor
  · rcases hre.sessions sessionId with hsame | ⟨r, r₁, hr, hr₁, hrev⟩
    · exact ⟨sessionId, session, hsame.trans hre.locked, rfl⟩
    · obtain rfl : r = session := Option.some.inj (hr.symm.trans hre.locked)
      exact ⟨sessionId, r₁, hr₁, hrev.familyId⟩
  · intro i r' hr' hf'
    obtain ⟨r, hr, hrf⟩ := hback i r' hr'
    cases hv : (g.version n).get (.refreshSessions i) with
    | some r₁ =>
      obtain ⟨r₂, hr₂, hages⟩ := hC.ages h hn (Nat.le_refl _) hv
      obtain rfl : r₂ = r := Option.some.inj (hr₂.symm.trans hr)
      obtain ⟨r₃, hr₃, hrev⟩ := hre.family i r₁ hv (hages.familyId.symm.trans (hrf.symm.trans hf'))
      obtain rfl : r₃ = r' := Option.some.inj (hr₃.symm.trans hr')
      exact hrev
    | none =>
      obtain ⟨k, hk, hrot⟩ := hC.rotatedAt_of_new h hn hr₀ hf₀ hr (hrf.symm.trans hf') hv
      exact absurd hrot (hno k hk)

end Histories

/-- If no rotation of a family commits between the snapshot of a revocation and its commit, no token of
the family rotates after the revocation. -/
theorem reuse_ends_family {s : State}
    (h : (system settings ticks).ReachableWhere (CommitsWhere NoRotationSince) Starts s) :
    ReuseEndsFamily s.shared := by
  have hinit : ∀ g, Starts g → Starts g := fun _ hg => hg
  have hist : History (contract settings ticks Starts hinit NoRotationSince) s.shared := reachableWhere_history h
  have hfits : Fits (contract settings ticks Starts hinit NoRotationSince) := fits_contract
  rintro familyId j k ⟨e, tokenHash, now, he, hjob, hout, htoken⟩ hjk
    ⟨e', tokenHash', now', issued, he', hjob', hout', htoken'⟩
  obtain ⟨g₁, hg₁, rfl, hc, hlater⟩ := hist.entry he
  obtain ⟨g₂, hg₂, rfl, hc', hlater'⟩ := hist.entry he'
  rw [hlater.version_commit.1] at htoken
  rw [hlater'.version_commit.1] at htoken'
  obtain ⟨token, time, sessionId, session, n, hjob₁, hre⟩ := (hfits.ok _ _ hc.ok).reused hout
  rw [hjob] at hjob₁
  cases hjob₁
  have hf : session.familyId = familyId := family_of_token hg₁ hre.locked hre.token htoken
  have hn : n ≤ g₁.csn := (hc.coherent.snapshots n (List.mem_of_head? hre.snapshot)).2
  have hrevoked : FamilyRevoked (g₁.view e.ran) familyId := by
    rw [← hf]
    refine hfits.familyRevoked_of_reused hg₁ hn hre fun m hm => ?_
    rw [hf]
    exact hc.assume tokenHash now familyId n m hjob hout htoken hre.snapshot hm
  -- the family stays revoked until the other commit, which needs a session that is not
  have hk : g₂.csn ≤ s.shared.csn := Nat.le_of_lt (List.getElem?_eq_some_iff.mp he').1
  rw [← hlater.version_commit.2] at hrevoked
  have hlast : FamilyRevoked (s.shared.version g₂.csn) familyId :=
    hist.stable (P := fun d => FamilyRevoked d familyId)
      (fun g₃ e₃ _ hc₃ hP => hP.step (hfits.ok _ _ hc₃.ok).sessionStep) hjk hk hrevoked
  rw [hlater'.version_commit.1] at hlast
  obtain ⟨token, time, parentId, parent, child, n', u, hjob₁, hrot, -⟩ := (hfits.ok _ _ hc'.ok).rotated hout'
  rw [hjob'] at hjob₁
  cases hjob₁
  have hf' : parent.familyId = familyId := family_of_token hg₂ hrot.rotated.locked hrot.token htoken'
  exact hlast.revoked parentId parent hrot.rotated.locked hf' hrot.rotated.unrevoked

section Race

/-- A sign-in and one rotation make a family with the tokens 10 (consumed) and 30. A rotation of 30 to
50 is in progress when token 10 comes again; the revocation takes its snapshot before that rotation
commits. Then token 50 rotates. -/
def reuseRace : List (Label Job) := List.flatten [
  [.start 1 (.exchange ⟨"google", "principal", "nickname", none⟩ 0)], Label.requests 1 10 19, [.commit 1],
  [.start 2 (.refresh 10 0)], Label.requests 2 30 14, [.commit 2],
  [.start 3 (.refresh 30 0)], Label.requests 3 50 14,
  [.start 4 (.refresh 10 0)], Label.requests 4 70 8, [.commit 3], Label.requests 4 80 7, [.commit 4],
  [.start 5 (.refresh 50 0)], Label.requests 5 90 14, [.commit 5]]

/-- What `reuseRace` leads to. -/
def reuseRaceEnd (s : State) : List (Job × Outcome) × Option (Nat × Uuid) × Option (Nat × Uuid) :=
  (outcomes s.shared,
    ((s.shared.version 3).get (.refreshSessions 11)).map fun r => (r.tokenHash, r.familyId),
    ((s.shared.version 4).get (.refreshSessions 51)).map fun r => (r.tokenHash, r.familyId))

/-- After `reuseRace` a token of a revoked family has rotated. -/
theorem reuse_race_rotates : ¬ ∀ s : State,
    (system sampleSettings fun _ _ => true).Reachable Starts s → ReuseEndsFamily s.shared := by
  intro hall
  have hrun : ((system sampleSettings fun _ _ => true).run ⟨emptyServer, []⟩ reuseRace).map reuseRaceEnd =
      some ([(.exchange ⟨"google", "principal", "nickname", none⟩ 0, .exchanged ⟨⟨16, 11⟩, false⟩),
        (.refresh 10 0, .refreshed (.rotated ⟨16, 31⟩)), (.refresh 30 0, .refreshed (.rotated ⟨16, 51⟩)),
        (.refresh 10 0, .refreshed .reused), (.refresh 50 0, .refreshed (.rotated ⟨16, 91⟩))],
        some (10, 12), some (50, 12)) := by
    decide
  obtain ⟨s, hs, hend⟩ := Option.map_eq_some_iff.mp hrun
  simp only [reuseRaceEnd, Prod.mk.injEq, Option.map_eq_some_iff] at hend
  obtain ⟨hlog, ⟨r, hr, ht, hf⟩, r', hr', ht', hf'⟩ := hend
  obtain ⟨e, he, hjob, hout⟩ := entry_of_outcomes (k := 3) (by rw [hlog]; rfl)
  obtain ⟨e', he', hjob', hout'⟩ := entry_of_outcomes (k := 4) (by rw [hlog]; rfl)
  refine hall s ((system sampleSettings fun _ _ => true).reachable_of_run starts_empty hs) 12 3 4 ?_ (by decide) ?_
  · exact ⟨e, 10, 0, he, hjob, hout, 11, r, hr, ht, hf⟩
  · exact ⟨e', 50, 0, _, he', hjob', hout', 51, r', hr', ht', hf'⟩

/-- Passes if no commit from position `n` on is a rotation. -/
def unrotated (g : Shared) (n : Nat) : Bool :=
  (g.log.drop n).all fun e => match e.out with
    | .refreshed (.rotated _) => false
    | _ => true

lemma not_rotated_of_unrotated {g : Shared} {n k : Nat} {e : Entry} {issued : IssuedSession} (h : unrotated g n = true)
    (hk : n ≤ k) (he : g.log[k]? = some e) : e.out ≠ .refreshed (.rotated issued) := by
  intro hout
  have hmem : e ∈ g.log.drop n := by
    rw [show k = n + (k - n) by omega, ← List.getElem?_drop] at he
    exact List.mem_of_getElem? he
  have hfalse := List.all_eq_true.mp h e hmem
  rw [hout] at hfalse
  cases hfalse

/-- Passes if nothing has rotated since the snapshot of a revocation. -/
def testReuse (e : Entry) (g : Shared) : Bool :=
  e.out != .refreshed .reused || e.ran.snapshots.head?.all (unrotated g)

lemma noRotationSince_of_test (e : Entry) (g : Shared) (h : testReuse e g = true) : NoRotationSince e g := by
  rintro tokenHash now familyId n k - hout - hn hk ⟨e', _, _, issued, he', -, hout', -⟩
  simp only [testReuse, hout, hn, Bool.or_eq_true, bne_self_eq_false, Bool.false_eq_true, false_or,
    Option.all_some] at h
  exact not_rotated_of_unrotated h hk he' hout'

/-- Token 10 is rotated and comes again, with nothing in between. -/
def reuseSchedule : List (Label Job) := List.flatten [
  [.start 1 (.exchange ⟨"google", "principal", "nickname", none⟩ 0)], Label.requests 1 10 19, [.commit 1],
  [.start 2 (.refresh 10 0)], Label.requests 2 30 14, [.commit 2],
  [.start 3 (.refresh 10 0)], Label.requests 3 50 14, [.commit 3]]

theorem reuse_ends_family_after_schedule : ∃ s : State,
    (system sampleSettings fun _ _ => true).ReachableWhere (CommitsWhere NoRotationSince) Starts s ∧
      ReusedAt s.shared 2 12 ∧ ReuseEndsFamily s.shared := by
  have hrun : ((system sampleSettings fun _ _ => true).runWhere (fun s => s.testCommit testReuse) ⟨emptyServer, []⟩
      reuseSchedule).map (fun s => ((outcomes s.shared)[2]?,
        ((s.shared.version 2).get (.refreshSessions 11)).map fun r => (r.tokenHash, r.familyId))) =
      some (some (.refresh 10 0, .refreshed .reused), some (10, 12)) := by
    decide
  obtain ⟨s, hs, hend⟩ := Option.map_eq_some_iff.mp hrun
  simp only [Prod.mk.injEq, Option.map_eq_some_iff] at hend
  obtain ⟨hlog, r, hr, ht, hf⟩ := hend
  obtain ⟨e, he, hjob, hout⟩ := entry_of_outcomes hlog
  have hreach : (system sampleSettings fun _ _ => true).ReachableWhere (CommitsWhere NoRotationSince) Starts s := by
    refine System.reachableWhere_of_run _ (fun s lab htest id t out hlab hf hp => ?_) starts_empty hs
    exact noRotationSince_of_test _ _ (State.of_testCommit htest hlab hf hp)
  exact ⟨s, hreach, ⟨e, 10, 0, he, hjob, hout, 11, r, hr, ht, hf⟩, reuse_ends_family hreach⟩

end Race

end JamyeServer.Accounts
