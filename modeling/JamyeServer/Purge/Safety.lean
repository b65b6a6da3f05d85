import JamyeServer.Purge.Commits

/-!
# Purges are due

A claim fixes the deletion that it has seen: until the account is purged, its row keeps that time of
deletion. So whoever finalizes a claim, and however late, purges an account that was due when it was
claimed.
-/

namespace JamyeServer.Purge

open ReadCommitted Postgres Auth AccountDeletion AccountPurge

variable {settings : Settings} {ticks : Time → Time → Bool} {g : Shared}

/-- The commit at position `n` purges the account. -/
def PurgedAt (g : Shared) (n : Nat) (userId : Uuid) : Prop :=
  ∃ e claim, g.log[n]? = some e ∧ e.job = .finalize claim ∧ claim.userId = userId

/-- The account is live in the version before commit `n`. -/
def LiveAt (g : Shared) (n : Nat) (userId : Uuid) : Prop :=
  ∃ u, (g.version n).get (.users userId) = some u ∧ u.deletedAt = none

/-- What holds of the purges so far: the account's last deletion was the grace period old, an account that
was live once has been deleted again before, and one tombstone takes the place of the account, for good. -/
structure PurgesSafe (grace : Nat) (g : Shared) : Prop where
  due : ∀ n userId, PurgedAt g n userId → DueAt grace g.now ((g.version n).get (.users userId))
  deletedAgain : ∀ k n userId, PurgedAt g n userId → k ≤ n → LiveAt g k userId →
    ∃ j, k ≤ j ∧ j < n ∧ LiveAt g j userId ∧ ∀ m, j < m → m ≤ n → ¬ LiveAt g m userId
  replaced : ∀ n userId, PurgedAt g n userId → Replaced userId (g.version n) (g.version (n + 1))
  gone : ∀ n m userId, PurgedAt g n userId → n < m → m ≤ g.csn → (g.version m).get (.users userId) = none
  tombstones : ∀ n m i, n ≤ m → m ≤ g.csn → (g.version n).get (.anonymousAuthorTombstones i) ≠ none →
    (g.version m).get (.anonymousAuthorTombstones i) ≠ none
  once : ∀ n m userId, PurgedAt g n userId → PurgedAt g m userId → n = m

section Claims

/-- A claimed account is purged or still has the deletion of the claim. -/
def KeepsDeletion (d : Time) (u : Option User) : Prop := ∀ v, u = some v → v.deletedAt = some d

/-- One commit keeps the deletion of a claim that is in the log. -/
lemma KeepsDeletion.step {grace : Nat} {e : Entry} {userId : Uuid} {d : Time} {before after : Option User}
    {v : User} {n : Nat} (hstep : UserStep grace e g userId before after) (h : KeepsDeletion d before)
    (hn : n ≤ g.csn) (hv : (g.version n).get (.users userId) = some v) (hd : v.deletedAt = some d)
    (hclaim : ∀ now, ClaimsDue grace g userId now → DueAt grace now ((g.version n).get (.users userId))) :
    KeepsDeletion d after := by
  cases hstep with
  | absent => exact nofun
  | @kept u u' hsame =>
    intro w hw
    cases hw
    rw [hsame]
    exact h u rfl
  | created _ _ hnew =>
    have hnone := hnew n hn
    rw [hv] at hnone
    cases hnone
  | @deleted u u' hlive =>
    have hdel := h u rfl
    rw [hlive] at hdel
    cases hdel
  | @restored u u' d' now hdel hopen hclaims =>
    obtain ⟨w, t, hw, ht, hdue⟩ := hclaim now hclaims
    rw [hv] at hw
    cases hw
    rw [hd] at ht
    cases ht
    have hdd := h u rfl
    rw [hdel] at hdd
    cases hdd
    exact absurd hopen (Nat.not_lt.mpr hdue)
  | purged _ _ => exact nofun

/-- The deletion that a claim has seen is due, and stays until the account is purged. -/
lemma claim_keepsDeletion (hticks : ∀ t t', ticks t t' = true → t ≤ t') (h : History (contract settings ticks) g)
    {k : Nat} {e : Entry} {claim : AccountPurgeClaim} (he : g.log[k]? = some e) (hclaim : ClaimedBy e claim) :
    ∃ d, d + settings.accountPurgeGrace ≤ g.now ∧
      ∀ m, k ≤ m → m ≤ g.csn → KeepsDeletion d ((g.version m).get (.users claim.userId)) := by
  obtain ⟨g₁, -, rfl, hc, hlater⟩ := h.entry he
  obtain ⟨request, hjob⟩ := hc.ok.claimJob claim hclaim
  obtain ⟨-, ⟨v, d, hv, hd, hdue⟩, hafter⟩ := hc.ok.claims request hjob claim hclaim
  obtain ⟨hversion, hversion'⟩ := hlater.version_commit
  have hgrace : request.grace = settings.accountPurgeGrace := hc.assume.1 request hjob
  have hnow : g₁.now ≤ g.now := (hlater.now_le hticks : (g₁.commit e).now ≤ g.now)
  have hrow : (g.version g₁.csn).get (.users claim.userId) = some v := by rwa [hversion]
  have hfirst : KeepsDeletion d ((g.version g₁.csn).get (.users claim.userId)) := by
    intro w hw
    rw [hrow] at hw
    cases hw
    exact hd
  have hsecond : KeepsDeletion d ((g.version (g₁.csn + 1)).get (.users claim.userId)) := by
    intro w hw
    rw [hversion'] at hw
    rw [hw, hv] at hafter
    exact (Option.some.inj hafter).trans hd
  rw [hgrace] at hdue
  refine ⟨d, Nat.le_trans hdue hnow, fun m hm hm' => ?_⟩
  rcases Nat.lt_or_ge g₁.csn m with hlt | hge
  · by_contra hnot
    obtain ⟨e', g₂, hle, -, -, hg₂, hc', hP, hP', hlater'⟩ := h.commit_of_change
      (P := fun s => KeepsDeletion d (s.get (.users claim.userId))) hlt hm' hsecond hnot
    -- the claim is in the log of the commit that is supposed to change the deletion
    have hold : ∀ n, n ≤ g₂.csn → g.version n = g₂.version n := by
      intro n hn
      rw [hlater'.version (by rw [Shared.csn_commit]; omega), Shared.version_commit _ _ hn]
    have hentry : g₂.log[g₁.csn]? = some e := by
      obtain ⟨es, hes⟩ := hlater'.log
      rw [hes, Shared.commit, List.append_assoc, List.getElem?_append_left hle] at he
      exact he
    refine hP' (KeepsDeletion.step (hc'.ok.users claim.userId) hP (Nat.le_of_lt hle) ?_ hd fun now hclaims => ?_)
    · rw [← hold _ (Nat.le_of_lt hle)]
      exact hrow
    · exact hclaims _ e claim hentry hclaim rfl
  · have hm₁ : m = g₁.csn := Nat.le_antisymm hge hm
    rw [hm₁]
    exact hfirst

end Claims

section Purges

variable {userId : Uuid} {n m : Nat}

lemma purged_entry (h : History (contract settings ticks) g) (hp : PurgedAt g n userId) :
    n < g.csn ∧ (∃ u, (g.version n).get (.users userId) = some u) ∧
      Replaced userId (g.version n) (g.version (n + 1)) := by
  obtain ⟨e, claim, he, hjob, rfl⟩ := hp
  obtain ⟨g₁, -, rfl, hc, hlater⟩ := h.entry he
  obtain ⟨⟨u, hu, -⟩, hreplaced⟩ := hc.ok.finalized claim hjob
  obtain ⟨hversion, hversion'⟩ := hlater.version_commit
  refine ⟨(List.getElem?_eq_some_iff.mp he).1, ⟨u, ?_⟩, ?_⟩
  · rwa [hversion]
  · rwa [hversion, hversion']

lemma purged_due (hticks : ∀ t t', ticks t t' = true → t ≤ t') (h : History (contract settings ticks) g)
    (hp : PurgedAt g n userId) : DueAt settings.accountPurgeGrace g.now ((g.version n).get (.users userId)) := by
  obtain ⟨hn, ⟨u, hu⟩, -⟩ := purged_entry h hp
  obtain ⟨e, claim, he, hjob, rfl⟩ := hp
  obtain ⟨g₁, -, rfl, hc, hlater⟩ := h.entry he
  obtain ⟨k, e', he', hclaim⟩ := hc.assume.2 claim hjob
  have hk : k < g₁.csn := (List.getElem?_eq_some_iff.mp he').1
  obtain ⟨es, hes⟩ := hlater.log
  have hclaimed : g.log[k]? = some e' := by
    rw [hes, Shared.commit, List.append_assoc, List.getElem?_append_left hk]
    exact he'
  obtain ⟨d, hdue, hkeeps⟩ := claim_keepsDeletion hticks h hclaimed hclaim
  exact ⟨u, d, hu, hkeeps _ (Nat.le_of_lt hk) (Nat.le_of_lt hn) u hu, hdue⟩

lemma purged_gone (h : History (contract settings ticks) g) (hp : PurgedAt g n userId) (hnm : n < m) (hm : m ≤ g.csn) :
    (g.version m).get (.users userId) = none := by
  obtain ⟨hn, ⟨u, hu⟩, hreplaced⟩ := purged_entry h hp
  by_contra hnot
  obtain ⟨e, g₁, hle, -, -, -, hc, hP, hP', hlater⟩ := h.commit_of_change
    (P := fun s => s.get (.users userId) = none) hnm hm hreplaced.gone hnot
  have hstep := hc.ok.users userId
  rw [hP] at hstep
  revert hP'
  generalize (g₁.view e.ran).get (.users userId) = after at hstep
  intro hP'
  cases hstep with
  | absent => exact hP' rfl
  | created _ _ hnew =>
    -- the id of an account is not used again
    have hnone := hnew n (Nat.le_of_lt hle)
    rw [← Shared.version_commit _ e (Nat.le_of_lt hle),
      ← hlater.version (by rw [Shared.csn_commit]; omega), hu] at hnone
    cases hnone

lemma exists_last {P : Nat → Prop} {k n : Nat} (hkn : k ≤ n) (hk : P k) (hn : ¬ P n) :
    ∃ j, k ≤ j ∧ j < n ∧ P j ∧ ∀ m, j < m → m ≤ n → ¬ P m := by
  induction hkn with
  | refl => exact absurd hk hn
  | @step n hkn ih =>
    by_cases hPn : P n
    · refine ⟨n, hkn, Nat.lt_succ_self n, hPn, fun m hm hm' => ?_⟩
      obtain rfl : m = n + 1 := by omega
      exact hn
    · obtain ⟨j, hj, hjn, hPj, hlast⟩ := ih hPn
      refine ⟨j, hj, Nat.lt_succ_of_lt hjn, hPj, fun m hm hm' => ?_⟩
      rcases Nat.lt_or_ge n m with hlt | hge
      · obtain rfl : m = n + 1 := by omega
        exact hn
      · exact hlast m hm hge

/-- The purges in a history are safe. -/
theorem purgesSafe_of_history (hticks : ∀ t t', ticks t t' = true → t ≤ t') (h : History (contract settings ticks) g) :
    PurgesSafe settings.accountPurgeGrace g where
  due n userId hp := purged_due hticks h hp
  deletedAgain k n userId hp hkn hlive := by
    refine exists_last (P := fun j => LiveAt g j userId) hkn hlive ?_
    rintro ⟨u, hu, hnone⟩
    obtain ⟨v, d, hv, hd, -⟩ := purged_due hticks h hp
    rw [hu] at hv
    cases hv
    rw [hnone] at hd
    cases hd
  replaced n userId hp := (purged_entry h hp).2.2
  gone n m userId hp := purged_gone h hp
  tombstones n m i hnm hm hn :=
    h.stable (P := fun s => s.get (.anonymousAuthorTombstones i) ≠ none)
      (fun g₁ e _ hc hP => hc.ok.tombstones i hP) hnm hm hn
  once n m userId hp hp' := by
    obtain ⟨hn, ⟨u, hu⟩, -⟩ := purged_entry h hp
    obtain ⟨hm, ⟨v, hv⟩, -⟩ := purged_entry h hp'
    rcases Nat.lt_trichotomy n m with hlt | heq | hgt
    · have hgone := purged_gone h hp hlt (Nat.le_of_lt hm)
      rw [hv] at hgone
      cases hgone
    · exact heq
    · have hgone := purged_gone h hp' hgt (Nat.le_of_lt hn)
      rw [hu] at hgone
      cases hgone

end Purges

/-- In every run with workers that keep to their discipline and a clock that does not go back, purges are
safe. -/
theorem purge_waits_for_grace_period (hticks : ∀ t t', ticks t t' = true → t ≤ t') {s : State}
    (h : (system settings ticks).ReachableWhere (WorkersDisciplined settings) Starts s) :
    PurgesSafe settings.accountPurgeGrace s.shared := by
  refine purgesSafe_of_history hticks (reachable_sound (C := contract settings ticks) ?_
    (programs_contract hticks) h).history
  intro s₁ id t out hcond hf hp
  exact ⟨hcond id t out rfl hf hp, fun _ _ => trivial⟩

section Sample

/-- Passes if the worker has claimed the account that it purges, with the grace period of the server. -/
def testDiscipline (settings : Settings) (e : Entry) (g : Shared) : Bool :=
  match e.job with
  | .claim request => decide (request.grace = settings.accountPurgeGrace)
  | .finalize claim => g.log.any fun e' =>
    match e'.out with
    | .claimed claims => decide (claim ∈ claims)
    | _ => false
  | _ => true

lemma disciplined_of_test {e : Entry} (h : testDiscipline settings e g = true) : Disciplined settings e g := by
  constructor
  · intro request hjob
    simpa [testDiscipline, hjob] using h
  · intro claim hjob
    simp only [testDiscipline, hjob, List.any_eq_true] at h
    obtain ⟨e', hmem, hclaimed⟩ := h
    obtain ⟨n, hn, hentry⟩ := List.mem_iff_getElem.mp hmem
    refine ⟨n, e', List.getElem?_eq_some_iff.mpr ⟨hn, hentry⟩, ?_⟩
    split at hclaimed
    · rename_i claims hout
      exact ⟨claims, hout, of_decide_eq_true hclaimed⟩
    · cases hclaimed

def sampleSettings : Settings := ⟨100, 1000, id⟩

/-- A sign-in, the deletion of the account, its claim after the grace period and the purge. -/
def purgeSchedule : List (Label Job) := List.flatten [
  [.start 1 (.account (.exchange ⟨"google", "principal", "nickname", none⟩ 0))], Label.requests 1 10 19, [.commit 1],
  [.start 2 (.account (.deleteAccount 16))], Label.requests 2 100 26, [.commit 2, .tick 150],
  [.start 3 (.claim ⟨"worker", 100, 10, 10 ^ 9⟩)], Label.requests 3 200 6, [.commit 3],
  [.start 4 (.finalize ⟨16, "worker", 1, 1000150⟩)], Label.requests 4 300 45, [.commit 4]]

theorem purge_waits_for_grace_period_in_schedule : ∃ s : State,
    (system sampleSettings fun t t' => decide (t ≤ t')).ReachableWhere (WorkersDisciplined sampleSettings) Starts s ∧
      PurgedAt s.shared 3 16 ∧ PurgesSafe 100 s.shared := by
  have hrun : ((system sampleSettings fun t t' => decide (t ≤ t')).runWhere
      (fun s => s.testCommit (testDiscipline sampleSettings)) ⟨⟨.empty, [], 0, 0, []⟩, []⟩ purgeSchedule).map
      (fun s => s.shared.log[3]?.map fun e => e.job) = some (some (.finalize ⟨16, "worker", 1, 1000150⟩)) := by
    decide
  obtain ⟨s, hs, hlog⟩ := Option.map_eq_some_iff.mp hrun
  obtain ⟨e, he, hjob⟩ := Option.map_eq_some_iff.mp hlog
  have hstart : Starts ⟨.empty, [], 0, 0, []⟩ := ⟨rfl, fun k k' i h => by simp [entries] at h, nofun⟩
  have hreach : (system sampleSettings fun t t' => decide (t ≤ t')).ReachableWhere
      (WorkersDisciplined sampleSettings) Starts s := by
    refine System.reachableWhere_of_run _ (fun s lab htest id t out hlab hf hp => ?_) hstart hs
    exact disciplined_of_test (State.of_testCommit htest hlab hf hp)
  exact ⟨s, hreach, ⟨e, _, he, hjob, rfl⟩, purge_waits_for_grace_period (fun _ _ => of_decide_eq_true) hreach⟩

end Sample

end JamyeServer.Purge
