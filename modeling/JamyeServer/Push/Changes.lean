import JamyeServer.Push.Worker
import Mathlib.Algebra.Order.BigOperators.Group.List
import Mathlib.Algebra.Order.Group.Nat
import Mathlib.Data.List.Perm.Subperm

/-!
# What the statements do to a push delivery

All changes of a row in one list, with the outcome of each: none violates a CHECK, and the outcomes go on agreeing with
the row. What is reported of them can only be less.
-/

namespace JamyeServer.Push

open Postgres

/-- The outcomes of its tasks agree with the row. -/
structure Tallied (attempts : Nat) (r : Delivery) (report : PushWorkerReport) : Prop where
  succeeded : report.succeeded = if r.status = .succeeded then 1 else 0
  deadLettered : report.deadLettered = if r.status = .deadLetter then 1 else 0
  invalid : report.invalidDestinations =
    if r.status = .failed ∧ r.lastErrorCode = some deviceNotRegistered then 1 else 0
  counted : r.attemptCount = report.retries + report.deadLettered + report.invalidDestinations
  bounded : r.attemptCount ≤ attempts
  unfinished : r.status.unfinished = true → r.attemptCount = 0 ∨ r.attemptCount < attempts

section Rows

variable {r : Delivery} {now : Time}

lemma claimable_unfinished (h : r.claimable now = true) : r.status.unfinished = true ∧ r.deletedAt = none := by
  simp only [Delivery.claimable, Bool.and_eq_true, Bool.or_eq_true, decide_eq_true_eq, Option.isNone_iff_eq_none] at h
  obtain ⟨hdeleted, ⟨hs | hs, -⟩ | ⟨hs, -⟩⟩ := h
  all_goals
    rw [hs]
    exact ⟨rfl, hdeleted⟩

lemma holds_claimed {claim : ClaimedPushDelivery} (h : holds claim now r = true) :
    r.status = .claimed ∧ r.deletedAt = none := by
  simp only [holds, Bool.and_eq_true, decide_eq_true_eq, Option.isNone_iff_eq_none] at h
  exact ⟨h.1.1.1.2, h.1.1.1.1⟩

lemma isLive_unfinished {ids : List Uuid} {i : Uuid} (h : State.isLive ids i r = true) :
    i ∈ ids ∧ r.status.unfinished = true ∧ r.deletedAt = none := by
  simp only [State.isLive, Bool.and_eq_true, decide_eq_true_eq, Option.isNone_iff_eq_none] at h
  exact ⟨h.1.1, h.2, h.1.2⟩

end Rows

/-- What a statement may do to a row. -/
inductive Change (now : Time) (attempts : Nat) (r : Delivery) : Delivery → PushWorkerReport → Prop
  | claim {owner : String} {lease : Nat} : r.status.unfinished = true → r.deletedAt = none →
      validateClaimOwner owner = true → Change now attempts r (r.claim owner lease now) {}
  | succeeded : r.status = .claimed → r.deletedAt = none →
      Change now attempts r (r.markSucceeded now) { succeeded := 1 }
  | failed {code : PushDeliveryFailureCode} {retry maxAttempts : Nat} : r.status = .claimed → r.deletedAt = none →
      0 < maxAttempts → maxAttempts ≤ attempts → ∀ report : PushWorkerReport,
      (report.succeeded = 0 ∧ report.invalidDestinations = 0 ∧
        if r.exhausted retry maxAttempts now then report.deadLettered = 1 ∧ report.retries = 0
        else report.deadLettered = 0 ∧ report.retries = 1) →
      Change now attempts r (r.recordFailure code retry maxAttempts now) report
  | disabled : r.status = .claimed → r.deletedAt = none → 0 < attempts →
      Change now attempts r (r.terminalizeLiveClaim now) { invalidDestinations := 1 }
  | fenced {code : String} : r.status.unfinished = true → r.deletedAt = none →
      (code = "privacy_revoked" ∨ code = "installation_rebound") → Change now attempts r (r.fail code now) {}
  | stopped {deletedAt : Time} : r.status.unfinished = true → r.deletedAt = none → r.createdAt ≤ deletedAt →
      Change now attempts r (r.stop deletedAt) {}
  | removed : r.deletedAt = none → Change now attempts r (r.deleteInstallationState now) {}

namespace Change

variable {now : Time} {attempts : Nat} {r r' : Delivery} {report : PushWorkerReport}

lemma generation (h : Change now attempts r r' report) : r.claimGeneration ≤ r'.claimGeneration := by
  cases h with
  | claim => exact Nat.le_succ _
  | removed =>
    unfold Delivery.deleteInstallationState
    split <;> exact Nat.le_refl _
  | _ => exact Nat.le_refl _

lemma createdAt (h : Change now attempts r r' report) : r'.createdAt = r.createdAt := by
  cases h with
  | removed =>
    unfold Delivery.deleteInstallationState
    split <;> rfl
  | _ => rfl

lemma not_deleted (h : Change now attempts r r' report) : r.deletedAt = none := by
  cases h <;> assumption

/-- A row that has come to an end can only be hidden. -/
lemma ended (h : Change now attempts r r' report) (hr : r.status.unfinished = false) :
    ∃ deletedAt, r' = { r with deletedAt } := by
  cases h with
  | claim hs | fenced hs | stopped hs => cases hr.symm.trans hs
  | succeeded hs | failed hs | disabled hs =>
    rw [hs] at hr
    cases hr
  | removed =>
    refine ⟨r.deletedAt.or (some now), ?_⟩
    rw [Delivery.deleteInstallationState, if_neg (by rw [hr]; exact Bool.false_ne_true)]

lemma length_asStr (code : PushDeliveryFailureCode) : 0 < code.asStr.length ∧ code.asStr.length ≤ 128 := by
  cases code <;> decide

lemma length_owner {owner : String} (h : validateClaimOwner owner = true) : 0 < owner.length ∧ owner.length ≤ 128 := by
  simp only [validateClaimOwner, Bool.not_eq_true', Bool.or_eq_false_iff, decide_eq_false_iff_not] at h
  obtain ⟨⟨hzero, hmax⟩, -⟩ := h
  unfold maxPushClaimOwnerChars at hmax
  omega

lemma checks_fail {code : String} (hr : r.checks = true) (hs : r.status.unfinished = true)
    (hcode : 0 < code.length ∧ code.length ≤ 128) (hcreated : r.createdAt ≤ now) : (r.fail code now).checks = true := by
  cases hstatus : r.status <;>
    simp_all [Delivery.checks, Delivery.fail, Delivery.claimState, Delivery.terminalState, Delivery.terminalTimestamp,
      DeliveryStatus.unfinished]

/-- No statement violates a CHECK. -/
lemma checks (h : Change now attempts r r' report) (hr : r.checks = true) (hcreated : r.createdAt ≤ now) :
    r'.checks = true := by
  cases h with
  | claim hs _ howner =>
    have hlength := length_owner howner
    cases hstatus : r.status <;>
      simp_all [Delivery.checks, Delivery.claim, Delivery.claimState, Delivery.terminalState, Delivery.terminalTimestamp,
        DeliveryStatus.unfinished]
  | succeeded hs =>
    simp_all [Delivery.checks, Delivery.markSucceeded, Delivery.claimState, Delivery.terminalState,
      Delivery.terminalTimestamp]
  | @failed code retry maxAttempts hs =>
    have hcode := length_asStr code
    cases hlast : r.exhausted retry maxAttempts now <;>
      simp_all [Delivery.checks, Delivery.recordFailure, Delivery.claimState, Delivery.terminalState,
        Delivery.terminalTimestamp]
  | disabled hs =>
    have hunfinished : r.status.unfinished = true := by
      rw [hs]
      rfl
    have hchecks : (r.fail deviceNotRegistered now).checks = true :=
      checks_fail hr hunfinished (by decide) hcreated
    exact hchecks
  | fenced hs _ hcode => exact checks_fail hr hs (by rcases hcode with rfl | rfl <;> decide) hcreated
  | @stopped deletedAt hs _ hle =>
    have hcode : 0 < "source_deleted".length ∧ "source_deleted".length ≤ 128 := by decide
    cases hstatus : r.status <;>
      simp_all [Delivery.checks, Delivery.stop, Delivery.claimState, Delivery.terminalState, Delivery.terminalTimestamp,
        DeliveryStatus.unfinished]
  | removed =>
    have hcode : 0 < "installation_deleted".length ∧ "installation_deleted".length ≤ 128 := by decide
    cases hstatus : r.status <;>
      simp_all [Delivery.checks, Delivery.deleteInstallationState, Delivery.claimState, Delivery.terminalState,
        Delivery.terminalTimestamp, DeliveryStatus.unfinished]

end Change

namespace Tallied

variable {now : Time} {attempts : Nat} {r r' : Delivery} {t report : PushWorkerReport}

/-- Nothing has been reported of a row that is not finished but its retries. -/
lemma none_ended (h : Tallied attempts r t) (hs : r.status.unfinished = true) :
    t.succeeded = 0 ∧ t.deadLettered = 0 ∧ t.invalidDestinations = 0 := by
  refine ⟨?_, ?_, ?_⟩
  · rw [h.succeeded, if_neg]
    intro heq
    rw [heq] at hs
    cases hs
  · rw [h.deadLettered, if_neg]
    intro heq
    rw [heq] at hs
    cases hs
  · rw [h.invalid, if_neg]
    rintro ⟨heq, -⟩
    rw [heq] at hs
    cases hs

/-- A failure that is not reported by a worker. -/
lemma fail (h : Tallied attempts r t) (hs : r.status.unfinished = true) {r' : Delivery} {code : String}
    (hcode : code ≠ deviceNotRegistered) (hstatus : r'.status = .failed) (hlast : r'.lastErrorCode = some code)
    (hcount : r'.attemptCount = r.attemptCount) : Tallied attempts r' t := by
  obtain ⟨hsucceeded, hdead, hinvalid⟩ := h.none_ended hs
  refine ⟨?_, ?_, ?_, hcount.trans h.counted, hcount ▸ h.bounded, fun hun => ?_⟩
  · rw [hsucceeded, hstatus]
    rfl
  · rw [hdead, hstatus]
    rfl
  · rw [hinvalid, if_neg]
    rintro ⟨-, heq⟩
    exact hcode (Option.some.inj (hlast.symm.trans heq))
  · rw [hstatus] at hun
    cases hun

lemma change (h : Tallied attempts r t) (hchange : Change now attempts r r' report) :
    Tallied attempts r' (t.merge report) := by
  cases hchange with
  | claim hs =>
    obtain ⟨hsucceeded, hdead, hinvalid⟩ := h.none_ended hs
    have hlive := h.unfinished hs
    exact ⟨hsucceeded, hdead, hinvalid, h.counted, h.bounded, fun _ => hlive⟩
  | succeeded hs =>
    have hunfinished : r.status.unfinished = true := by
      rw [hs]
      rfl
    obtain ⟨hsucceeded, hdead, hinvalid⟩ := h.none_ended hunfinished
    refine ⟨?_, hdead, hinvalid, h.counted, h.bounded, fun hun => by cases hun⟩
    change t.succeeded + 1 = 1
    rw [hsucceeded]
  | @failed code retry maxAttempts hs _ hpositive hle report hreport =>
    have hunfinished : r.status.unfinished = true := by
      rw [hs]
      rfl
    obtain ⟨hsucceeded, hdead, hinvalid⟩ := h.none_ended hunfinished
    have hcounted := h.counted
    have hlive := h.unfinished hunfinished
    obtain ⟨hsucceeded', hinvalid', hlast⟩ := hreport
    cases hex : r.exhausted retry maxAttempts now with
    | true =>
      rw [hex, if_pos rfl] at hlast
      refine ⟨?_, ?_, ?_, ?_, ?_, fun hun => ?_⟩
      · simp [PushWorkerReport.merge, Delivery.recordFailure, hex, hsucceeded, hsucceeded']
      · simp [PushWorkerReport.merge, Delivery.recordFailure, hex, hdead, hlast.1]
      · simp [PushWorkerReport.merge, Delivery.recordFailure, hex, hinvalid, hinvalid']
      · simp only [PushWorkerReport.merge, Delivery.recordFailure, hlast.1, hlast.2, hinvalid']
        omega
      · simp only [Delivery.recordFailure]
        omega
      · simp [Delivery.recordFailure, hex, DeliveryStatus.unfinished] at hun
    | false =>
      rw [hex, if_neg Bool.false_ne_true] at hlast
      have hmore : r.attemptCount + 1 < maxAttempts := by
        simp only [Delivery.exhausted, Bool.or_eq_false_iff, decide_eq_false_iff_not] at hex
        omega
      refine ⟨?_, ?_, ?_, ?_, ?_, fun _ => .inr ?_⟩
      · simp [PushWorkerReport.merge, Delivery.recordFailure, hex, hsucceeded, hsucceeded']
      · simp [PushWorkerReport.merge, Delivery.recordFailure, hex, hdead, hlast.1]
      · simp [PushWorkerReport.merge, Delivery.recordFailure, hex, hinvalid, hinvalid']
      · simp only [PushWorkerReport.merge, Delivery.recordFailure, hlast.1, hlast.2, hinvalid']
        omega
      · simp only [Delivery.recordFailure]
        omega
      · simp only [Delivery.recordFailure]
        omega
  | disabled hs _ hpositive =>
    have hunfinished : r.status.unfinished = true := by
      rw [hs]
      rfl
    obtain ⟨hsucceeded, hdead, hinvalid⟩ := h.none_ended hunfinished
    have hcounted := h.counted
    have hlive := h.unfinished hunfinished
    refine ⟨?_, ?_, ?_, ?_, ?_, fun hun => by cases hun⟩
    · exact hsucceeded
    · exact hdead
    · simp [PushWorkerReport.merge, Delivery.terminalizeLiveClaim, Delivery.fail, hinvalid]
    · simp only [PushWorkerReport.merge, Delivery.terminalizeLiveClaim, Delivery.fail]
      omega
    · simp only [Delivery.terminalizeLiveClaim, Delivery.fail]
      omega
  | fenced hs _ hcode =>
    refine h.fail hs (fun heq => ?_) rfl rfl rfl
    rcases hcode with rfl | rfl
    · exact absurd heq (by decide)
    · exact absurd heq (by decide)
  | stopped hs => exact h.fail hs (by decide) rfl rfl rfl
  | removed =>
    cases hs : r.status.unfinished with
    | true =>
      rw [Delivery.deleteInstallationState, if_pos hs]
      exact h.fail hs (by decide : "installation_deleted" ≠ deviceNotRegistered) rfl rfl rfl
    | false =>
      rw [Delivery.deleteInstallationState, if_neg (by rw [hs]; exact Bool.false_ne_true)]
      exact ⟨h.succeeded, h.deadLettered, h.invalid, h.counted, h.bounded, h.unfinished⟩

end Tallied

section Reports

variable {id : Uuid} {l l' : List (Uuid × PushWorkerReport)} {t t' report : PushWorkerReport} {attempts : Nat} {r : Delivery}

lemma totalOf_cons (x : Uuid × PushWorkerReport) (l : List (Uuid × PushWorkerReport)) (id : Uuid) :
    totalOf (x :: l) id = if x.1 = id then (totalOf l id).merge x.2 else totalOf l id := by
  rw [totalOf, List.filter_cons]
  by_cases hx : x.1 = id
  · rw [if_pos (decide_eq_true hx), if_pos hx]
    rfl
  · rw [if_neg (by simpa using hx), if_neg hx]
    rfl

/-- The task had lost its claim. -/
structure Silent (report : PushWorkerReport) : Prop where
  succeeded : report.succeeded = 0
  retries : report.retries = 0
  deadLettered : report.deadLettered = 0
  invalid : report.invalidDestinations = 0

lemma silent_empty : Silent {} := ⟨rfl, rfl, rfl, rfl⟩

lemma Tallied.silent (h : Tallied attempts r t) (hreport : Silent report) : Tallied attempts r (t.merge report) := by
  obtain ⟨hsucceeded, hretries, hdead, hinvalid⟩ := hreport
  refine ⟨?_, ?_, ?_, ?_, h.bounded, h.unfinished⟩
  · simp only [PushWorkerReport.merge, hsucceeded, Nat.add_zero, h.succeeded]
  · simp only [PushWorkerReport.merge, hdead, Nat.add_zero, h.deadLettered]
  · simp only [PushWorkerReport.merge, hinvalid, Nat.add_zero, h.invalid]
  · simp only [PushWorkerReport.merge, hretries, hdead, hinvalid, Nat.add_zero]
    exact h.counted

lemma Tallied.once (h : Tallied attempts r t) : t.succeeded + t.deadLettered + t.invalidDestinations ≤ 1 := by
  rw [h.succeeded, h.deadLettered, h.invalid]
  cases r.status <;> simp
  split <;> omega

/-- One report says no more than another. -/
structure Within (t t' : PushWorkerReport) : Prop where
  succeeded : t.succeeded ≤ t'.succeeded
  retries : t.retries ≤ t'.retries
  deadLettered : t.deadLettered ≤ t'.deadLettered
  invalid : t.invalidDestinations ≤ t'.invalidDestinations

/-- A count that adds up can only grow with the list. -/
lemma totalOf_mono {count : PushWorkerReport → Nat} (hempty : count {} = 0)
    (hmerge : ∀ t t' : PushWorkerReport, count (t.merge t') = count t + count t') (h : l.Subperm l') (id : Uuid) :
    count (totalOf l id) ≤ count (totalOf l' id) := by
  have hsum : ∀ l, count (totalOf l id) = ((l.filter fun x => decide (x.1 = id)).map fun x => count x.2).sum := by
    intro l
    unfold totalOf
    induction l.filter fun x => decide (x.1 = id) with
    | nil => exact hempty
    | cons x xs ih => rw [List.foldr_cons, hmerge, ih, List.map_cons, List.sum_cons, Nat.add_comm]
  obtain ⟨l₀, hperm, hsub⟩ := h
  rw [hsum l, hsum l', ← ((hperm.filter _).map _).sum_eq]
  exact ((hsub.filter _).map _).sum_le_sum fun _ _ => Nat.zero_le _

lemma within_of_subperm (h : l.Subperm l') (id : Uuid) : Within (totalOf l id) (totalOf l' id) :=
  ⟨totalOf_mono rfl (fun _ _ => rfl) h id, totalOf_mono rfl (fun _ _ => rfl) h id, totalOf_mono rfl (fun _ _ => rfl) h id,
    totalOf_mono rfl (fun _ _ => rfl) h id⟩

/-- What the workers report of an occurrence is in its row. -/
structure Reported (r : Delivery) (report : PushWorkerReport) : Prop where
  succeeded : report.succeeded ≠ 0 → r.status = .succeeded
  deadLettered : report.deadLettered ≠ 0 → r.status = .deadLetter
  invalid : report.invalidDestinations ≠ 0 → r.status = .failed ∧ r.lastErrorCode = some deviceNotRegistered
  counted : report.retries + report.deadLettered + report.invalidDestinations ≤ r.attemptCount

lemma Tallied.reported (h : Tallied attempts r t) (hle : Within report t) : Reported r report := by
  obtain ⟨hsucceeded, hretries, hdead, hinvalid⟩ := hle
  refine ⟨fun hne => ?_, fun hne => ?_, fun hne => ?_, ?_⟩
  · by_contra hstatus
    have hzero := h.succeeded
    rw [if_neg hstatus] at hzero
    omega
  · by_contra hstatus
    have hzero := h.deadLettered
    rw [if_neg hstatus] at hzero
    omega
  · by_contra hstatus
    have hzero := h.invalid
    rw [if_neg hstatus] at hzero
    omega
  · rw [h.counted]
    omega

end Reports

end JamyeServer.Push
