import JamyeServer.Cleanup.Worker
import Mathlib.Logic.Relation

/-!
# Leases of object deletions

Only the worker that holds the current generation of an intent's claim, under a lease that lasts, records a result. An
intent that has succeeded, failed or been given up stays as it is, and every statement respects the CHECK constraints.
-/

namespace JamyeServer.Cleanup

open Postgres
open LeaseTable (Result)

/-- No further attempt is made in this status. -/
def Status.terminal : Status → Bool
  | succeeded | failed | deadLetter => true
  | pending | claimed | retryable => false

/-- A claim takes the row: nobody holds an unexpired lease of it and its next attempt is due. -/
structure Taken (s : State) (request : ClaimRequest) (r r' : DeletionIntent) : Prop where
  free : r.status = .pending ∨ r.status = .retryable ∨
    r.status = .claimed ∧ ∃ t, r.leaseExpiresAt = some t ∧ t ≤ s.now
  due : ∀ t, r.nextAttemptAt = some t → t ≤ s.now
  claimed : ∃ lease, r' = r.claim request.claimOwner lease s.now

/-- The claim holds the row: it has the current generation, and the lease lasts. -/
structure Held (s : State) (claim : DeletionClaim) (id : Uuid) (r : DeletionIntent) : Prop where
  id : claim.intentId = id
  status : r.status = .claimed
  owner : r.claimOwner = some claim.claimOwner
  generation : r.claimGeneration = claim.claimGeneration
  lease : ∃ t, r.leaseExpiresAt = some t ∧ s.now < t

/-- A failure ends the attempt: without access for good, at the last allowed attempt or before the deadline as a dead
letter, and otherwise until the retry. -/
structure Ended (s : State) (code : FailureCode) (retry maxAttempts : Nat) (r r' : DeletionIntent) : Prop where
  denied : code = .accessDenied → r'.status = .failed
  last : code ≠ .accessDenied → (maxAttempts ≤ r.attemptCount + 1 ∨ ∃ t, r.deadlineAt = some t ∧
    t ≤ s.now + retry * 1000) → r'.status = .deadLetter
  retried : code ≠ .accessDenied → ¬ (maxAttempts ≤ r.attemptCount + 1 ∨ ∃ t, r.deadlineAt = some t ∧
    t ≤ s.now + retry * 1000) → r'.status = .retryable ∧ r'.nextAttemptAt = some (s.now + retry * 1000)
  counted : r'.attemptCount = r.attemptCount + 1

/-- The ways in which a step changes a row. -/
inductive Change (s : State) (id : Uuid) (r r' : DeletionIntent) : Label → Prop
  | claim {request : ClaimRequest} {locked : List Uuid} : Taken s request r r' → Change s id r r' (.claim request locked)
  | markDeleted {k : Nat} {claim : DeletionClaim} : s.works[k]? = some claim → Held s claim id r →
      r'.status = .succeeded → Change s id r r' (.markDeleted k)
  | recordFailure {k : Nat} {claim : DeletionClaim} {code : FailureCode} {retryDelay maxAttempts retry : Nat} :
      s.works[k]? = some claim → Held s claim id r → Outbox.durationMilliseconds retryDelay = some retry →
      Ended s code retry maxAttempts r r' → Change s id r r' (.recordFailure k code retryDelay maxAttempts)

/-- Some run leads from one state to the other. -/
def Later : State → State → Prop := Relation.ReflTransGen fun s s' => ∃ lab, s.step lab = .next s'

/-- What holds of every reachable state of the queue. -/
structure Leased (s : State) : Prop where
  changes : ∀ lab s' id r, s.step lab = .next s' → s.rows id = some r →
    ∃ r', s'.rows id = some r' ∧ (r' = r ∨ Change s id r r' lab)
  holder : ∀ (k k' : Nat) (c c' : DeletionClaim), s.works[k]? = some c → s.works[k']? = some c' →
    c.intentId = c'.intentId → c.claimGeneration = c'.claimGeneration → k = k'
  terminal : ∀ s' id r, Later s s' → s.rows id = some r → r.status.terminal = true → s'.rows id = some r
  checks : ∀ id r, s.rows id = some r → r.checks = true
  violations : ∀ lab, s.step lab ≠ .violation

section Rows

variable {s s' : State} {p : Uuid → DeletionIntent → Bool} {f : DeletionIntent → DeletionIntent}
  {next : (Uuid → Option DeletionIntent) → State} {r : DeletionIntent} {now : Time}

lemma boundedText_of_validateClaimOwner {owner : String} (h : validateClaimOwner owner = true) :
    boundedText 128 owner = true := by
  simp only [validateClaimOwner, Bool.not_eq_true', Bool.or_eq_false_iff, decide_eq_false_iff_not,
    Bool.not_eq_false'] at h
  obtain ⟨⟨⟨hzero, hmax⟩, htrim⟩, -⟩ := h
  obtain ⟨hhead, hlast⟩ := (Text.isTrimmed_iff _).mp htrim
  have hspace : Text.isWhitespace ' ' = true := by decide
  simp only [boundedText, Bool.and_eq_true, decide_eq_true_eq]
  unfold maxClaimOwnerChars at hmax
  refine ⟨⟨⟨by omega, by omega⟩, fun h => ?_⟩, fun h => ?_⟩
  · rw [hhead ' ' h] at hspace
    cases hspace
  · rw [hlast ' ' h] at hspace
    cases hspace

lemma boundedText_asStr (code : FailureCode) : boundedText 128 code.asStr = true := by
  cases code <;> decide

lemma claimable_free (h : r.claimable now = true) :
    r.status = .pending ∨ r.status = .retryable ∨
      r.status = .claimed ∧ ∃ t, r.leaseExpiresAt = some t ∧ t ≤ now := by
  simp only [DeletionIntent.claimable, Bool.or_eq_true, Bool.and_eq_true, decide_eq_true_eq] at h
  rcases h with ⟨hp | hr, -⟩ | ⟨hc, he⟩
  · exact .inl hp
  · exact .inr (.inl hr)
  · obtain ⟨t, ht, hle⟩ := (Option.any_eq_true _ _).mp he
    exact .inr (.inr ⟨hc, t, ht, of_decide_eq_true hle⟩)

lemma claimable_due (hnext : r.status = .claimed → r.nextAttemptAt = none) (h : r.claimable now = true) (t : Time)
    (ht : r.nextAttemptAt = some t) : t ≤ now := by
  simp only [DeletionIntent.claimable, Bool.or_eq_true, Bool.and_eq_true, decide_eq_true_eq] at h
  rcases h with ⟨-, hdue⟩ | ⟨hc, -⟩
  · rw [ht] at hdue
    exact hdue
  · rw [hnext hc] at ht
    cases ht

lemma claimable_not_terminal (h : r.claimable now = true) : r.status.terminal = false := by
  rcases claimable_free h with hs | hs | ⟨hs, -⟩ <;> rw [hs] <;> rfl

lemma held_of_holds {claim : DeletionClaim} {id : Uuid} (h : holds claim s.now id r = true) : Held s claim id r := by
  simp only [holds, Bool.and_eq_true, decide_eq_true_eq] at h
  obtain ⟨⟨⟨⟨hid, hs⟩, ho⟩, hg⟩, he⟩ := h
  obtain ⟨t, ht, hlt⟩ := (Option.any_eq_true _ _).mp he
  exact ⟨hid.symm, hs, ho, hg, t, ht, of_decide_eq_true hlt⟩

lemma exhausted_iff {retry maxAttempts : Nat} :
    r.exhausted retry maxAttempts now = true ↔
      maxAttempts ≤ r.attemptCount + 1 ∨ ∃ t, r.deadlineAt = some t ∧ t ≤ now + retry * 1000 := by
  simp only [DeletionIntent.exhausted, Bool.or_eq_true, decide_eq_true_eq, Option.any_eq_true]

lemma ended_recordFailure (code : FailureCode) (retry maxAttempts : Nat) (r : DeletionIntent) :
    Ended s code retry maxAttempts r (r.recordFailure code retry maxAttempts s.now) where
  denied hc := by simp [DeletionIntent.recordFailure, hc]
  last hc hlast := by
    rw [← exhausted_iff] at hlast
    simp [DeletionIntent.recordFailure, hc, hlast]
  retried hc hlast := by
    rw [← exhausted_iff] at hlast
    simp [DeletionIntent.recordFailure, hc, hlast]
  counted := rfl

lemma claimFromRow_eq {id : Uuid} {c : DeletionClaim} (h : claimFromRow id r = some c) :
    c.intentId = id ∧ c.claimGeneration = r.claimGeneration := by
  unfold claimFromRow at h
  split at h
  · split at h
    · obtain rfl := Option.some.inj h
      exact ⟨rfl, rfl⟩
    · cases h
  · cases h

/-- The claims that a batch returns are of its rows, with the generation that the rows now have. -/
lemma mem_claims {picked : List Uuid} {rows : Uuid → Option DeletionIntent} {c : DeletionClaim}
    (h : c ∈ State.claims picked rows) :
    c.intentId ∈ picked ∧ ∃ r, rows c.intentId = some r ∧ c.claimGeneration = r.claimGeneration := by
  unfold State.claims at h
  split at h
  · obtain ⟨i, hi, hc⟩ := List.mem_filterMap.mp h
    obtain ⟨r, hr, hc⟩ := Option.bind_eq_some_iff.mp hc
    obtain ⟨rfl, hg⟩ := claimFromRow_eq hc
    exact ⟨hi, r, hr, hg⟩
  · cases h

lemma pairwise_claims {picked : List Uuid} (hnodup : picked.Nodup) (rows : Uuid → Option DeletionIntent) :
    (State.claims picked rows).Pairwise fun c c' => c.intentId ≠ c'.intentId := by
  unfold State.claims
  split
  · rw [List.pairwise_filterMap]
    refine hnodup.imp fun hne c hc c' hc' => ?_
    obtain ⟨r, -, hc⟩ := Option.bind_eq_some_iff.mp hc
    obtain ⟨r', -, hc'⟩ := Option.bind_eq_some_iff.mp hc'
    rw [(claimFromRow_eq hc).1, (claimFromRow_eq hc').1]
    exact hne
  · exact .nil

end Rows

section Checks

variable {r : DeletionIntent} {now : Time}

lemma checks_claim {owner : String} {lease : Nat} (hr : r.checks = true) (ht : r.status.terminal = false)
    (howner : boundedText 128 owner = true) : (r.claim owner lease now).checks = true := by
  cases hs : r.status <;>
    simp_all [DeletionIntent.checks, DeletionIntent.claim, DeletionIntent.claimState, DeletionIntent.terminalState,
      DeletionIntent.terminalTimestamp, Status.terminal]

lemma checks_markDeleted (hr : r.checks = true) (hs : r.status = .claimed) (hcreated : r.createdAt ≤ now) :
    (r.markDeleted now).checks = true := by
  simp_all [DeletionIntent.checks, DeletionIntent.markDeleted, DeletionIntent.claimState, DeletionIntent.terminalState,
    DeletionIntent.terminalTimestamp]

lemma checks_recordFailure {code : FailureCode} {retry maxAttempts : Nat} (hr : r.checks = true)
    (hs : r.status = .claimed) (hcreated : r.createdAt ≤ now) :
    (r.recordFailure code retry maxAttempts now).checks = true := by
  have hcode := boundedText_asStr code
  by_cases hc : code = .accessDenied
  · simp_all [DeletionIntent.checks, DeletionIntent.recordFailure, DeletionIntent.claimState,
      DeletionIntent.terminalState, DeletionIntent.terminalTimestamp]
  · cases hlast : r.exhausted retry maxAttempts now <;>
      simp_all [DeletionIntent.checks, DeletionIntent.recordFailure, DeletionIntent.claimState,
        DeletionIntent.terminalState, DeletionIntent.terminalTimestamp]

end Checks

/-- The invariant of the queue: claims in memory are of generations that the row has had, each held once. -/
structure Inv (s : State) : Prop where
  nodup : s.ids.Nodup
  ids : ∀ id r, s.rows id = some r → id ∈ s.ids
  checks : ∀ id r, s.rows id = some r → r.checks = true
  created : ∀ id r, s.rows id = some r → r.createdAt ≤ s.now
  next : ∀ id r, s.rows id = some r → r.status = .claimed → r.nextAttemptAt = none
  works : ∀ c ∈ s.works, ∃ r, s.rows c.intentId = some r ∧ c.claimGeneration ≤ r.claimGeneration
  unique : s.works.Pairwise fun c c' => c.intentId = c'.intentId → c.claimGeneration ≠ c'.claimGeneration

/-- What an update must keep of a row. -/
structure Keeps (r r' : DeletionIntent) : Prop where
  checks : r'.checks = true
  created : r'.createdAt = r.createdAt
  next : r'.status = .claimed → r'.nextAttemptAt = none
  generation : r.claimGeneration ≤ r'.claimGeneration

namespace Inv

variable {s s' : State}

lemma init (now : Time) : Inv (.init now) where
  nodup := List.nodup_nil
  ids := by simp [State.init]
  checks := by simp [State.init]
  created := by simp [State.init]
  next := by simp [State.init]
  works := by simp [State.init]
  unique := .nil

lemma insert (h : Inv s) {id : Uuid} {row : DeletionIntent} (hid : id ∉ s.ids) (hchecks : row.checks = true)
    (hcreated : row.createdAt ≤ s.now) (hstatus : row.status = .pending) :
    Inv { s with ids := id :: s.ids, rows := Function.update s.rows id (some row) } := by
  have hrow : ∀ {i r}, Function.update s.rows id (some row) i = some r →
      i = id ∧ r = row ∨ s.rows i = some r := by
    intro i r hr
    by_cases hi : i = id
    · subst hi
      rw [Function.update_self] at hr
      exact .inl ⟨rfl, (Option.some.inj hr).symm⟩
    · rw [Function.update_of_ne hi] at hr
      exact .inr hr
  refine ⟨List.nodup_cons.mpr ⟨hid, h.nodup⟩, fun i r hr => ?_, fun i r hr => ?_, fun i r hr => ?_,
    fun i r hr hs => ?_, fun c hc => ?_, h.unique⟩
  · rcases hrow hr with ⟨rfl, -⟩ | hr
    · exact List.mem_cons_self
    · exact List.mem_cons_of_mem _ (h.ids i r hr)
  · rcases hrow hr with ⟨-, rfl⟩ | hr
    · exact hchecks
    · exact h.checks i r hr
  · rcases hrow hr with ⟨-, rfl⟩ | hr
    · exact hcreated
    · exact h.created i r hr
  · rcases hrow hr with ⟨-, rfl⟩ | hr
    · rw [hstatus] at hs
      cases hs
    · exact h.next i r hr hs
  · obtain ⟨r, hr, hg⟩ := h.works c hc
    have hne : c.intentId ≠ id := fun he => hid (he ▸ h.ids _ r hr)
    exact ⟨r, (Function.update_of_ne hne _ _).trans hr, hg⟩

/-- An update of some rows, with the claims that are in memory after it. -/
lemma update (h : Inv s) {p : Uuid → DeletionIntent → Bool} {f : DeletionIntent → DeletionIntent}
    {rows : Uuid → Option DeletionIntent} {works : List DeletionClaim}
    (hrows : rows = fun i => (s.rows i).map fun r => if p i r then f r else r)
    (hf : ∀ i r, s.rows i = some r → p i r = true → Keeps r (f r))
    (hworks : ∀ c ∈ works, c ∈ s.works ∨ ∃ r, rows c.intentId = some r ∧ c.claimGeneration = r.claimGeneration)
    (hunique : works.Pairwise fun c c' => c.intentId = c'.intentId → c.claimGeneration ≠ c'.claimGeneration) :
    Inv { s with rows, works } := by
  have hrow : ∀ {i r'}, rows i = some r' → ∃ r, s.rows i = some r ∧ (r' = r ∨ Keeps r r') := by
    intro i r' hr'
    rw [hrows] at hr'
    obtain ⟨r, hr, rfl⟩ := Option.map_eq_some_iff.mp hr'
    refine ⟨r, hr, ?_⟩
    split
    next hp => exact .inr (hf i r hr hp)
    next => exact .inl rfl
  refine ⟨h.nodup, fun i r' hr' => ?_, fun i r' hr' => ?_, fun i r' hr' => ?_, fun i r' hr' => ?_, fun c hc => ?_,
    hunique⟩
  · obtain ⟨r, hr, -⟩ := hrow hr'
    exact h.ids i r hr
  · obtain ⟨r, hr, rfl | hk⟩ := hrow hr'
    · exact h.checks i r' hr
    · exact hk.checks
  · obtain ⟨r, hr, rfl | hk⟩ := hrow hr'
    · exact h.created i r' hr
    · exact hk.created.trans_le (h.created i r hr)
  · obtain ⟨r, hr, rfl | hk⟩ := hrow hr'
    · exact h.next i r' hr
    · exact hk.next
  · rcases hworks c hc with hc | ⟨r, hr, hg⟩
    · obtain ⟨r, hr, hg⟩ := h.works c hc
      cases hr' : rows c.intentId with
      | none =>
        rw [hrows] at hr'
        simp [hr] at hr'
      | some r' =>
        refine ⟨r', hr', ?_⟩
        obtain ⟨r₀, hr₀, rfl | hk⟩ := hrow hr'
        · obtain rfl : r' = r := Option.some.inj (hr₀.symm.trans hr)
          exact hg
        · obtain rfl : r₀ = r := Option.some.inj (hr₀.symm.trans hr)
          exact hg.trans hk.generation
    · exact ⟨r, hr, hg.le⟩

lemma keeps_claim (h : Inv s) {owner : String} {batchSize lease : Nat} {locked : List Uuid}
    (howner : boundedText 128 owner = true) (i : Uuid) (r : DeletionIntent) (hr : s.rows i = some r)
    (hp : decide (i ∈ s.candidates batchSize locked) = true) : Keeps r (r.claim owner lease s.now) := by
  obtain ⟨-, r₀, hr₀, hc⟩ := LeaseTable.mem_candidates (of_decide_eq_true hp)
  obtain rfl : r₀ = r := Option.some.inj (hr₀.symm.trans hr)
  exact ⟨checks_claim (h.checks i r₀ hr) (claimable_not_terminal hc) howner, rfl, fun _ => rfl, Nat.le_succ _⟩

lemma keeps_markDeleted (h : Inv s) (claim : DeletionClaim) (i : Uuid) (r : DeletionIntent) (hr : s.rows i = some r)
    (hp : holds claim s.now i r = true) : Keeps r (r.markDeleted s.now) :=
  ⟨checks_markDeleted (h.checks i r hr) (held_of_holds hp).status (h.created i r hr), rfl, fun _ => rfl, le_rfl⟩

lemma keeps_recordFailure (h : Inv s) (claim : DeletionClaim) (code : FailureCode) (retry maxAttempts : Nat) (i : Uuid)
    (r : DeletionIntent) (hr : s.rows i = some r) (hp : holds claim s.now i r = true) :
    Keeps r (r.recordFailure code retry maxAttempts s.now) := by
  refine ⟨checks_recordFailure (h.checks i r hr) (held_of_holds hp).status (h.created i r hr), rfl, fun hs => ?_, le_rfl⟩
  -- a failure never leaves the intent claimed
  unfold DeletionIntent.recordFailure at hs
  dsimp only at hs
  split at hs
  · cases hs
  split at hs <;> cases hs

lemma owner_of_validateClaimRequest {request : ClaimRequest} {lease : Nat}
    (h : validateClaimRequest request = some lease) : boundedText 128 request.claimOwner = true := by
  unfold validateClaimRequest at h
  split at h
  · cases h
  next hvalid =>
    rw [not_or, Bool.not_eq_false] at hvalid
    exact boundedText_of_validateClaimOwner hvalid.1

lemma claim (h : Inv s) {request : ClaimRequest} {locked : List Uuid}
    (hs : s.claimObjectDeletions request locked = .next s') : Inv s' := by
  unfold State.claimObjectDeletions at hs
  split at hs
  · cases hs
  next lease hvalid =>
    obtain rfl := LeaseTable.update_next hs
    refine h.update rfl (h.keeps_claim (owner_of_validateClaimRequest hvalid)) ?_ ?_
    · intro c hc
      rcases List.mem_append.mp hc with hc | hc
      · exact .inr (mem_claims hc).2
      · exact .inl hc
    · refine List.pairwise_append.mpr ⟨?_, h.unique, ?_⟩
      · refine (pairwise_claims (LeaseTable.nodup_candidates h.nodup) _).imp fun hne he => ?_
        exact absurd he hne
      · -- the new claim has a generation that the row did not have before
        intro c hc c' hc' he hg
        obtain ⟨hpicked, r', hr', hgen⟩ := mem_claims hc
        obtain ⟨r, hr, hle⟩ := h.works c' hc'
        rw [← he] at hr
        simp only [hr, Option.map_some, hpicked, decide_true, if_true, Option.some.injEq] at hr'
        rw [← hr'] at hgen
        have hnew : c.claimGeneration = r.claimGeneration + 1 := hgen
        omega

lemma erase (h : Inv s) (k : Nat) : (s.works.eraseIdx k).Pairwise
    fun c c' => c.intentId = c'.intentId → c.claimGeneration ≠ c'.claimGeneration :=
  h.unique.sublist (List.eraseIdx_sublist _ _)

lemma step (h : Inv s) {lab : Label} (hs : s.step lab = .next s') : Inv s' := by
  cases lab with
  | insert id objectKey createdAt nextAttemptAt =>
    simp only [State.step] at hs
    split at hs
    · cases hs
    next hfresh =>
      obtain rfl := Result.next.inj hs
      simp only [not_or, Bool.not_eq_false, not_lt] at hfresh
      exact h.insert hfresh.1 hfresh.2.2.2 hfresh.2.2.1 rfl
  | tick time =>
    simp only [State.step] at hs
    split at hs
    next hle =>
      obtain rfl := Result.next.inj hs
      exact ⟨h.nodup, h.ids, h.checks, fun id r hr => (h.created id r hr).trans hle, h.next, h.works, h.unique⟩
    · cases hs
  | claim request locked => exact h.claim hs
  | markDeleted k =>
    simp only [State.step] at hs
    split at hs
    next c hc =>
      unfold State.markObjectDeleted at hs
      split at hs
      · obtain rfl := LeaseTable.update_next hs
        exact h.update rfl (h.keeps_markDeleted c) (fun c hc => .inl (List.mem_of_mem_eraseIdx hc)) (h.erase k)
      · cases hs
    · cases hs
  | recordFailure k code retryDelay maxAttempts =>
    simp only [State.step] at hs
    split at hs
    next c hc =>
      unfold State.recordObjectDeletionFailure at hs
      split at hs
      · cases hs
      next retry hvalid =>
        obtain rfl := LeaseTable.update_next hs
        exact h.update rfl (h.keeps_recordFailure c code retry maxAttempts)
          (fun c hc => .inl (List.mem_of_mem_eraseIdx hc)) (h.erase k)
    · cases hs
  | crash k =>
    obtain rfl := Result.next.inj hs
    exact ⟨h.nodup, h.ids, h.checks, h.created, h.next, fun c hc => h.works c (List.mem_of_mem_eraseIdx hc), h.erase k⟩

end Inv

lemma Reachable.inv {s : State} (h : Reachable s) : Inv s := by
  refine h.invariant (fun s hs => ?_) fun s lab s' hinv hs => ?_
  · obtain ⟨now, rfl⟩ := hs
    exact .init now
  · exact hinv.step (Result.state?_eq_some hs)

section Steps

variable {s s' : State} {id : Uuid} {r : DeletionIntent}

/-- A row after an update is the old one, or it satisfied the condition and was changed. -/
lemma row_of_update {p : Uuid → DeletionIntent → Bool} {f : DeletionIntent → DeletionIntent}
    {P : DeletionIntent → Prop} (hr : s.rows id = some r) (hf : p id r = true → P (f r)) :
    ∃ r', (s.rows id).map (fun r => if p id r then f r else r) = some r' ∧ (r' = r ∨ P r') := by
  refine ⟨if p id r then f r else r, by rw [hr, Option.map_some], ?_⟩
  split
  next hp => exact .inr (hf hp)
  next => exact .inl rfl

lemma retry_of_validateFailure {claim : DeletionClaim} {retryDelay maxAttempts retry : Nat}
    (h : validateFailure claim retryDelay maxAttempts = some retry) :
    Outbox.durationMilliseconds retryDelay = some retry := by
  unfold validateFailure at h
  split at h
  · cases h
  · exact (Option.filter_eq_some_iff.mp h).1

/-- What one step does to a row. -/
lemma step_row (h : Inv s) {lab : Label} (hs : s.step lab = .next s') (hr : s.rows id = some r) :
    ∃ r', s'.rows id = some r' ∧ (r' = r ∨ Change s id r r' lab) := by
  cases lab with
  | insert i objectKey createdAt nextAttemptAt =>
    simp only [State.step] at hs
    split at hs
    · cases hs
    next hfresh =>
      obtain rfl := Result.next.inj hs
      simp only [not_or] at hfresh
      have hne : id ≠ i := fun he => hfresh.1 (he ▸ h.ids id r hr)
      exact ⟨r, (Function.update_of_ne hne _ _).trans hr, .inl rfl⟩
  | tick time =>
    simp only [State.step] at hs
    split at hs
    · obtain rfl := Result.next.inj hs
      exact ⟨r, hr, .inl rfl⟩
    · cases hs
  | claim request locked =>
    simp only [State.step, State.claimObjectDeletions] at hs
    split at hs
    · cases hs
    next lease hvalid =>
      obtain rfl := LeaseTable.update_next hs
      refine row_of_update (p := fun i _ => decide (i ∈ s.candidates request.batchSize locked)) hr fun hp => ?_
      obtain ⟨-, r₀, hr₀, hc⟩ := LeaseTable.mem_candidates (of_decide_eq_true hp)
      obtain rfl : r₀ = r := Option.some.inj (hr₀.symm.trans hr)
      exact .claim ⟨claimable_free hc, claimable_due (h.next id r₀ hr) hc, lease, rfl⟩
  | markDeleted k =>
    simp only [State.step] at hs
    split at hs
    next c hc =>
      unfold State.markObjectDeleted at hs
      split at hs
      · obtain rfl := LeaseTable.update_next hs
        exact row_of_update hr fun hp => .markDeleted hc (held_of_holds hp) rfl
      · cases hs
    · cases hs
  | recordFailure k code retryDelay maxAttempts =>
    simp only [State.step] at hs
    split at hs
    next c hc =>
      unfold State.recordObjectDeletionFailure at hs
      split at hs
      · cases hs
      next retry hvalid =>
        obtain rfl := LeaseTable.update_next hs
        refine row_of_update hr fun hp => ?_
        exact .recordFailure hc (held_of_holds hp) (retry_of_validateFailure hvalid)
          (ended_recordFailure code retry maxAttempts r)
    · cases hs
  | crash k =>
    obtain rfl := Result.next.inj hs
    exact ⟨r, hr, .inl rfl⟩

/-- A row that changes was not in a terminal status. -/
lemma Change.not_terminal {r' : DeletionIntent} {lab : Label} (h : Change s id r r' lab) :
    r.status.terminal = false := by
  cases h with
  | claim htaken => rcases htaken.free with hs | hs | ⟨hs, -⟩ <;> rw [hs] <;> rfl
  | markDeleted _ hheld _ => rw [hheld.status]; rfl
  | recordFailure _ hheld _ _ => rw [hheld.status]; rfl

lemma Inv.terminal_stays (h : Inv s) (hlater : Later s s') (hr : s.rows id = some r)
    (ht : r.status.terminal = true) : s'.rows id = some r := by
  suffices hboth : Inv s' ∧ s'.rows id = some r from hboth.2
  induction hlater with
  | refl => exact ⟨h, hr⟩
  | tail _ hstep ih =>
    obtain ⟨hinv, hrow⟩ := ih
    obtain ⟨lab, hs⟩ := hstep
    refine ⟨hinv.step hs, ?_⟩
    obtain ⟨r', hr', rfl | hchange⟩ := step_row hinv hs hrow
    · exact hr'
    · rw [hchange.not_terminal] at ht
      cases ht

lemma Inv.no_violation (h : Inv s) (lab : Label) : s.step lab ≠ .violation := by
  cases lab with
  | insert i objectKey createdAt nextAttemptAt =>
    simp only [State.step]
    split <;> exact nofun
  | tick time =>
    simp only [State.step]
    split <;> exact nofun
  | claim request locked =>
    simp only [State.step, State.claimObjectDeletions]
    split
    · exact nofun
    next lease hvalid =>
      refine LeaseTable.update_ne_violation fun i r hr hp => ?_
      exact (h.keeps_claim (Inv.owner_of_validateClaimRequest hvalid) i r hr hp).checks
  | markDeleted k =>
    simp only [State.step]
    split
    · unfold State.markObjectDeleted
      split
      · exact LeaseTable.update_ne_violation fun i r hr hp => (h.keeps_markDeleted _ i r hr hp).checks
      · exact nofun
    · exact nofun
  | recordFailure k code retryDelay maxAttempts =>
    simp only [State.step]
    split
    · unfold State.recordObjectDeletionFailure
      split
      · exact nofun
      · exact LeaseTable.update_ne_violation fun i r hr hp => (h.keeps_recordFailure _ code _ maxAttempts i r hr hp).checks
    · exact nofun
  | crash k => exact nofun

end Steps

/-- In every run of any number of workers: rows change under a claim of a due row or by the one holder of the current
generation while the lease lasts, terminal rows stay, and no statement violates a CHECK. -/
theorem object_deletions_are_leased {s : State} (h : Reachable s) : Leased s where
  changes lab s' id r hs hr := step_row h.inv hs hr
  holder k k' c c' hc hc' hid hg := by
    obtain ⟨hk, hck⟩ := List.getElem?_eq_some_iff.mp hc
    obtain ⟨hk', hck'⟩ := List.getElem?_eq_some_iff.mp hc'
    have hpair := List.pairwise_iff_getElem.mp h.inv.unique
    rcases Nat.lt_trichotomy k k' with hlt | heq | hlt
    · refine absurd ?_ (hpair k k' hk hk' hlt ?_) <;> rw [hck, hck']
      · exact hg
      · exact hid
    · exact heq
    · refine absurd ?_ (hpair k' k hk' hk hlt ?_) <;> rw [hck, hck']
      · exact hg.symm
      · exact hid.symm
  terminal s' id r hlater hr ht := h.inv.terminal_stays hlater hr ht
  checks := h.inv.checks
  violations := h.inv.no_violation

section Example

/-- One object, claimed for a minute and given a single attempt, which times out. -/
def singleAttempt : List Label :=
  [.tick 10, .insert 1 "chat/1/2" 10 none, .tick 20, .claim ⟨"worker", 8, 60 * 10 ^ 9⟩ [],
    .recordFailure 0 .timeout (30 * 10 ^ 9) 1]

theorem object_deletions_are_leased_after_single_attempt :
    ∃ s, Transition.exec State.next (.init 0) singleAttempt = some s ∧ Leased s := by
  cases hrun : Transition.exec State.next (.init 0) singleAttempt with
  | none =>
    have hsome : (Transition.exec State.next (.init 0) singleAttempt).isSome = true := by decide
    rw [hrun] at hsome
    cases hsome
  | some s => exact ⟨s, rfl, object_deletions_are_leased (Transition.reachable_of_exec ⟨0, rfl⟩ hrun)⟩

/-- The last allowed attempt ends as a dead letter. -/
theorem last_attempt_is_dead_lettered :
    ∃ s r, Reachable s ∧ Transition.exec State.next (.init 0) singleAttempt = some s ∧ s.rows 1 = some r ∧ r.attemptCount = 1 ∧
      r.status = .deadLetter ∧ r.status ≠ .failed := by
  cases hrun : Transition.exec State.next (.init 0) singleAttempt with
  | none =>
    have hsome : (Transition.exec State.next (.init 0) singleAttempt).isSome = true := by decide
    rw [hrun] at hsome
    cases hsome
  | some s =>
    have hrow : ((Transition.exec State.next (.init 0) singleAttempt).bind fun s => s.rows 1).map
        (fun r => (r.attemptCount, r.status)) = some (1, .deadLetter) := by decide
    rw [hrun, Option.bind_some] at hrow
    obtain ⟨r, hr, hboth⟩ := Option.map_eq_some_iff.mp hrow
    rw [Prod.mk.injEq] at hboth
    refine ⟨s, r, Transition.reachable_of_exec ⟨0, rfl⟩ hrun, rfl, hr, hboth.1, hboth.2, ?_⟩
    rw [hboth.2]
    decide

end Example

end JamyeServer.Cleanup
