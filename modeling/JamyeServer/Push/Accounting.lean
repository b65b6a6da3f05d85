import JamyeServer.Push.Changes

/-!
# The account of push deliveries

What the tasks of all workers did to an occurrence is what the table says of it: one success or one end as a dead letter
or at an invalid destination, and as many failed attempts as the row counts. What `run_once` reports of it is part of
that, for the reports of a call are lost when one of its tasks fails. An occurrence that has come to an end stays so.
-/

namespace JamyeServer.Push

open Postgres
open LeaseTable (Result)

section Effects

/-- What a step does to the row of an occurrence, and the outcome. -/
inductive Effect (attempts : Nat) (s s' : State) (id : Uuid) : Prop
  | same (report : PushWorkerReport) : Silent report → s'.rows id = s.rows id →
      s'.outcomeOf id = (s.outcomeOf id).merge report → Effect attempts s s' id
  | changed {r r' : Delivery} {report : PushWorkerReport} : s.rows id = some r → s'.rows id = some r' →
      Change s.now attempts r r' report → s'.outcomeOf id = (s.outcomeOf id).merge report → Effect attempts s s' id
  | inserted (createdAt : Time) : id ∉ s.ids → id ∈ s'.ids → createdAt ≤ s.now → s'.rows id = some { createdAt } →
      s'.outcomeOf id = s.outcomeOf id → Effect attempts s s' id
  | purged : s'.rows id = none → s'.outcomeOf id = s.outcomeOf id → Effect attempts s s' id

variable {attempts : Nat} {s s' : State} {p : Uuid → Delivery → Bool} {f : Delivery → Delivery}

lemma effect_refl (hrows : s'.rows = s.rows) (houtcomes : s'.outcomes = s.outcomes) (id : Uuid) :
    Effect attempts s s' id := by
  refine .same {} silent_empty (by rw [hrows]) ?_
  rw [State.outcomeOf, houtcomes]
  rfl

lemma effect_update (hrows : s'.rows = fun i => (s.rows i).map fun r => if p i r then f r else r)
    (houtcomes : s'.outcomes = s.outcomes)
    (hf : ∀ i r, s.rows i = some r → p i r = true → Change s.now attempts r (f r) {}) (id : Uuid) :
    Effect attempts s s' id := by
  have hreport : s'.outcomeOf id = (s.outcomeOf id).merge {} := by
    rw [State.outcomeOf, houtcomes]
    rfl
  have hrow : s'.rows id = (s.rows id).map fun r => if p id r then f r else r := congrFun hrows id
  cases hr : s.rows id with
  | none => exact .same {} silent_empty (by rw [hrow, hr]; rfl) hreport
  | some r =>
    rw [hr, Option.map_some] at hrow
    cases hp : p id r with
    | true => exact .changed hr (by rw [hrow, if_pos hp]) (hf id r hr hp) hreport
    | false => exact .same {} silent_empty (by rw [hrow, hr, hp]; rfl) hreport

lemma conclude_next {k : Nat} {w : Work} {answered : Bool} {p : Delivery → Bool}
    {report : Option Delivery → PushWorkerReport} (hs : s.conclude k w answered p f report = .next s') :
    ∃ outcome, outcome = report (((s.rows w.claim.occurrenceId).filter p).map f) ∧
      s' = { s with
        rows := fun i => (s.rows i).map fun r => if decide (i = w.claim.occurrenceId) && p r then f r else r
        works := s.works.set k { w with phase := .ended (if answered then some outcome else none) }
        outcomes := (w.claim.occurrenceId, outcome) :: s.outcomes } := by
  simp only [State.conclude] at hs
  exact ⟨_, rfl, LeaseTable.update_next hs⟩

/-- The outcome of a task is what it did to the row. -/
lemma effect_conclude {k : Nat} {w : Work} {answered : Bool} {p : Delivery → Bool}
    {report : Option Delivery → PushWorkerReport} (hs : s.conclude k w answered p f report = .next s')
    (hstale : Silent (report none))
    (hf : ∀ r, s.rows w.claim.occurrenceId = some r → p r = true → Change s.now attempts r (f r) (report (some (f r))))
    (id : Uuid) : Effect attempts s s' id := by
  obtain ⟨outcome, rfl, hnext⟩ := conclude_next hs
  generalize w.claim.occurrenceId = i at hf hnext
  have hrow : s'.rows id = (s.rows id).map fun r => if decide (id = i) && p r then f r else r := by rw [hnext]
  have hreport : s'.outcomeOf id = if i = id then (s.outcomeOf id).merge (report (((s.rows i).filter p).map f))
      else s.outcomeOf id := by
    rw [State.outcomeOf, hnext]
    exact totalOf_cons _ _ id
  by_cases hid : i = id
  · subst hid
    rw [if_pos rfl] at hreport
    cases hr : s.rows i with
    | none =>
      rw [hr] at hrow hreport
      exact .same _ hstale (hrow.trans hr.symm) hreport
    | some r =>
      rw [hr] at hrow hreport
      cases hp : p r with
      | true =>
        rw [Option.filter_some, if_pos hp] at hreport
        exact .changed hr (by simp [hrow, hp]) (hf r hr hp) hreport
      | false =>
        rw [Option.filter_some, if_neg (by rw [hp]; exact Bool.false_ne_true)] at hreport
        exact .same _ hstale (by simp [hrow, hp, hr]) hreport
  · rw [if_neg hid] at hreport
    refine .same {} silent_empty ?_ hreport
    rw [hrow, decide_eq_false (Ne.symm hid)]
    simp

lemma effect_recordFailure {k maxAttempts : Nat} {w : Work} {answered : Bool} {code : PushDeliveryFailureCode}
    {report : PushWorkerReport} (hs : s.recordFailure k w answered code maxAttempts report = .next s')
    (hle : maxAttempts ≤ attempts) (hreport : Silent report) (id : Uuid) : Effect attempts s s' id := by
  obtain ⟨hsucceeded, hretries, hdead, hinvalid⟩ := hreport
  unfold State.recordFailure at hs
  dsimp only at hs
  split at hs
  · cases hs
  next retry _ =>
    split at hs
    · cases hs
    next hvalid =>
      simp only [not_or, Bool.not_eq_false, Nat.not_le] at hvalid
      refine effect_conclude hs ⟨hsucceeded, hretries, hdead, hinvalid⟩ (fun r _ hp => ?_) id
      obtain ⟨hclaimed, hdeleted⟩ := holds_claimed hp
      refine .failed hclaimed hdeleted (Nat.pos_of_ne_zero hvalid.2.2) hle _ ?_
      cases hex : r.exhausted retry maxAttempts s.now <;>
        simp [Delivery.recordFailure, hex, hsucceeded, hretries, hdead, hinvalid]

lemma effect_finish {k : Nat} {w : Work} {current answered : Bool} (hs : s.finish k w current answered = .next s')
    (hpositive : 0 < w.worker.config.maxAttempts) (hle : w.worker.config.maxAttempts ≤ attempts) (id : Uuid) :
    Effect attempts s s' id := by
  have hone : 1 ≤ attempts := Nat.le_trans hpositive hle
  unfold State.finish at hs
  split at hs
  · cases hs
  · cases hs
  · cases hs
  · exact effect_recordFailure hs hone ⟨rfl, rfl, rfl, rfl⟩ id
  · exact effect_recordFailure hs hle silent_empty id
  · unfold State.markDeliverySucceeded at hs
    split at hs
    · refine effect_conclude hs ⟨rfl, rfl, rfl, rfl⟩ (fun r _ hp => ?_) id
      obtain ⟨hclaimed, hdeleted⟩ := holds_claimed hp
      exact .succeeded hclaimed hdeleted
    · cases hs
  · unfold State.disableInvalidDestination at hs
    split at hs
    · refine effect_conclude hs ⟨rfl, rfl, rfl, rfl⟩ (fun r _ hp => ?_) id
      obtain ⟨hclaimed, hdeleted⟩ := holds_claimed ((Bool.and_eq_true _ _).mp hp).2
      exact .disabled hclaimed hdeleted hone
    · cases hs
  · exact effect_recordFailure hs hle silent_empty id
  · exact effect_recordFailure hs hone silent_empty id
  · exact effect_recordFailure hs hle silent_empty id

end Effects

/-- The invariant of the table and the outcomes. -/
structure TableInv (attempts : Nat) (s : State) : Prop where
  nodup : s.ids.Nodup
  ids : ∀ id r, s.rows id = some r → id ∈ s.ids
  checks : ∀ id r, s.rows id = some r → r.checks = true
  created : ∀ id r, s.rows id = some r → r.createdAt ≤ s.now
  tallied : ∀ id r, s.rows id = some r → Tallied attempts r (s.outcomeOf id)
  once : ∀ id, (s.outcomeOf id).succeeded + (s.outcomeOf id).deadLettered + (s.outcomeOf id).invalidDestinations ≤ 1
  fresh : ∀ id, id ∉ s.ids → Silent (s.outcomeOf id)
  deletions : ∀ x ∈ s.deletions, ∀ id ∈ x.1, id ∈ s.ids ∧ ∀ r, s.rows id = some r → r.createdAt ≤ x.2

def Work.key (w : Work) : Uuid × Nat := (w.claim.occurrenceId, w.claim.claimGeneration)

/-- The request to the provider is still to come. -/
def Phase.early : Phase → Bool
  | claimed | authorized => true
  | _ => false

/-- The invariant of the tasks: each generation of an occurrence has one task and at most one request. -/
structure TaskInv (attempts : Nat) (s : State) : Prop where
  limits : ∀ w ∈ s.works, 0 < w.worker.config.maxAttempts ∧ w.worker.config.maxAttempts ≤ attempts
  works : ∀ w ∈ s.works, w.claim.occurrenceId ∈ s.ids ∧
    ∀ r, s.rows w.claim.occurrenceId = some r → w.claim.claimGeneration ≤ r.claimGeneration
  unique : (s.works.map Work.key).Nodup
  sent : ∀ x ∈ s.sends, x.1 ∈ s.ids ∧ ∀ r, s.rows x.1 = some r → x.2 ≤ r.claimGeneration
  unsent : ∀ w ∈ s.works, w.phase.early = true → w.key ∉ s.sends
  sends : s.sends.Nodup

/-- What the workers have reported, or hold in tasks that have ended, are outcomes; each is reported once. -/
def ReportInv (s : State) : Prop := (s.works.filterMap Work.outcome ++ s.reports).Subperm s.outcomes

section Steps

variable {attempts : Nat} {s s' : State} {id : Uuid}

/-- The limit of a worker whose configuration was accepted. -/
lemma maxAttempts_pos (worker : PushWorker) : 0 < worker.config.maxAttempts := by
  have hvalid := worker.valid
  unfold PushWorkerConfig.validate at hvalid
  split at hvalid
  · cases hvalid
  · simp only [Bool.and_eq_true, Bool.not_eq_true', Bool.or_eq_false_iff, decide_eq_false_iff_not] at hvalid
    exact Nat.pos_of_ne_zero hvalid.2.1.1.1.1.1.2

lemma owner_valid {worker : PushWorker} {lease : Nat} (h : validateClaimRequest worker.config = some lease) :
    validateClaimOwner worker.config.claimOwner = true := by
  unfold validateClaimRequest at h
  split at h
  · cases h
  next hvalid =>
    rw [not_or, Bool.not_eq_false] at hvalid
    exact hvalid.1

lemma change_claim {worker : PushWorker} {lease : Nat} (hvalid : validateClaimRequest worker.config = some lease)
    {locked : List Uuid} {i : Uuid} {r : Delivery} (hr : s.rows i = some r)
    (hp : decide (i ∈ s.candidates worker.config.batchSize locked) = true) :
    Change s.now attempts r (r.claim worker.config.claimOwner lease s.now) {} := by
  obtain ⟨-, r₀, hr₀, hc⟩ := LeaseTable.mem_candidates (of_decide_eq_true hp)
  obtain rfl : r₀ = r := Option.some.inj (hr₀.symm.trans hr)
  obtain ⟨hunfinished, hdeleted⟩ := claimable_unfinished hc
  exact .claim hunfinished hdeleted (owner_valid hvalid)

/-- The occurrences of a deletion are older than the time that it has read. -/
lemma change_stop (h : TableInv attempts s) {j : Nat} {ids : List Uuid} {deletedAt : Time}
    (hj : s.deletions[j]? = some (ids, deletedAt)) {i : Uuid} {r : Delivery} (hr : s.rows i = some r)
    (hp : State.isLive ids i r = true) : Change s.now attempts r (r.stop deletedAt) {} := by
  obtain ⟨hmem, hunfinished, hdeleted⟩ := isLive_unfinished hp
  exact .stopped hunfinished hdeleted ((h.deletions _ (List.mem_of_getElem? hj) i hmem).2 r hr)

/-- What one step does to an occurrence. -/
lemma step_effect (htable : TableInv attempts s) (h : TaskInv attempts s) {lab : Label} (hs : s.step lab = .next s')
    (id : Uuid) : Effect attempts s s' id := by
  cases lab with
  | insert i createdAt =>
    simp only [State.step] at hs
    split at hs
    · cases hs
    next hfresh =>
      obtain rfl := Result.next.inj hs
      rw [not_or, Nat.not_lt] at hfresh
      by_cases hid : id = i
      · subst hid
        exact .inserted createdAt hfresh.1 List.mem_cons_self hfresh.2 (Function.update_self _ _ _) rfl
      · exact .same {} silent_empty (Function.update_of_ne hid _ _) rfl
  | tick time =>
    simp only [State.step] at hs
    split at hs
    · have hnext := Result.next.inj hs
      exact effect_refl (by rw [← hnext]) (by rw [← hnext]) id
    · cases hs
  | claim worker locked =>
    simp only [State.step, State.claimDeliveries] at hs
    split at hs
    · cases hs
    next lease hvalid =>
      have hnext := LeaseTable.update_next hs
      exact effect_update (by rw [hnext]) (by rw [hnext]) (fun i r hr hp => change_claim hvalid hr hp) id
  | authorize k granted =>
    simp only [State.step] at hs
    split at hs
    · split at hs
      · have hnext := Result.next.inj hs
        exact effect_refl (by rw [← hnext]) (by rw [← hnext]) id
      · cases hs
    · cases hs
  | previewUnavailable k =>
    simp only [State.step] at hs
    split at hs
    · split at hs
      · have hnext := Result.next.inj hs
        exact effect_refl (by rw [← hnext]) (by rw [← hnext]) id
      · cases hs
    · cases hs
  | send k answer =>
    simp only [State.step] at hs
    split at hs
    · split at hs
      · have hnext := Result.next.inj hs
        exact effect_refl (by rw [← hnext]) (by rw [← hnext]) id
      · cases hs
    · cases hs
  | finish k current answered =>
    simp only [State.step] at hs
    split at hs
    next w hw =>
      obtain ⟨hpositive, hle⟩ := h.limits w (List.mem_of_getElem? hw)
      exact effect_finish hs hpositive hle id
    · cases hs
  | error k =>
    simp only [State.step] at hs
    split at hs
    · split at hs
      · cases hs
      · have hnext := Result.next.inj hs
        exact effect_refl (by rw [← hnext]) (by rw [← hnext]) id
    · cases hs
  | report batch =>
    simp only [State.step] at hs
    split at hs
    · have hnext := Result.next.inj hs
      exact effect_refl (by rw [← hnext]; rfl) (by rw [← hnext]; rfl) id
    · cases hs
  | crash batch =>
    have hnext := Result.next.inj hs
    exact effect_refl (by rw [← hnext]; rfl) (by rw [← hnext]; rfl) id
  | delete ids =>
    simp only [State.step] at hs
    split at hs
    · have hnext := Result.next.inj hs
      exact effect_refl (by rw [← hnext]) (by rw [← hnext]) id
    · cases hs
  | stop j =>
    simp only [State.step] at hs
    split at hs
    next ids deletedAt hj =>
      have hnext := LeaseTable.update_next hs
      exact effect_update (by rw [hnext]) (by rw [hnext]) (fun i r hr hp => change_stop htable hj hr hp) id
    · cases hs
  | fence ids =>
    simp only [State.step] at hs
    have hnext := LeaseTable.update_next hs
    refine effect_update (by rw [hnext]) (by rw [hnext]) (fun i r hr hp => ?_) id
    obtain ⟨-, hunfinished, hdeleted⟩ := isLive_unfinished hp
    exact .fenced hunfinished hdeleted (.inl rfl)
  | rebind ids =>
    simp only [State.step] at hs
    have hnext := LeaseTable.update_next hs
    refine effect_update (by rw [hnext]) (by rw [hnext]) (fun i r hr hp => ?_) id
    obtain ⟨-, hunfinished, hdeleted⟩ := isLive_unfinished ((Bool.and_eq_true _ _).mp hp).1
    exact .fenced hunfinished hdeleted (.inr rfl)
  | deleteInstallation ids =>
    simp only [State.step] at hs
    have hnext := LeaseTable.update_next hs
    refine effect_update (by rw [hnext]) (by rw [hnext]) (fun i r hr hp => ?_) id
    exact .removed (Option.isNone_iff_eq_none.mp ((Bool.and_eq_true _ _).mp hp).2)
  | purge i =>
    obtain rfl := Result.next.inj hs
    by_cases hid : id = i
    · subst hid
      exact .purged (Function.update_self _ _ _) rfl
    · exact .same {} silent_empty (Function.update_of_ne hid _ _) rfl

/-- A task ends with one statement. -/
lemma finish_conclude {k : Nat} {w : Work} {current answered : Bool} (hs : s.finish k w current answered = .next s') :
    w.outcome = none ∧ ∃ p f report, s.conclude k w answered p f report = .next s' := by
  have hfailure : ∀ {code maxAttempts report}, s.recordFailure k w answered code maxAttempts report = .next s' →
      ∃ p f report, s.conclude k w answered p f report = .next s' := by
    intro code maxAttempts report hs
    unfold State.recordFailure at hs
    dsimp only at hs
    split at hs
    · cases hs
    · split at hs
      · cases hs
      · exact ⟨_, _, _, hs⟩
  unfold State.finish at hs
  unfold Work.outcome
  split at hs
  · cases hs
  · cases hs
  · cases hs
  next hphase =>
    rw [hphase]
    exact ⟨rfl, hfailure hs⟩
  next hphase =>
    rw [hphase]
    exact ⟨rfl, hfailure hs⟩
  next hphase =>
    unfold State.markDeliverySucceeded at hs
    rw [hphase]
    split at hs
    · exact ⟨rfl, _, _, _, hs⟩
    · cases hs
  next hphase =>
    unfold State.disableInvalidDestination at hs
    rw [hphase]
    split at hs
    · exact ⟨rfl, _, _, _, hs⟩
    · cases hs
  next hphase =>
    rw [hphase]
    exact ⟨rfl, hfailure hs⟩
  next hphase =>
    rw [hphase]
    exact ⟨rfl, hfailure hs⟩
  next hphase =>
    rw [hphase]
    exact ⟨rfl, hfailure hs⟩

/-- Time does not go back, occurrences get new identifiers, and a deletion reads the clock when its occurrences are in the
table. -/
structure Frame (s s' : State) : Prop where
  now : s.now ≤ s'.now
  ids : s'.ids = s.ids ∨ ∃ i, i ∉ s.ids ∧ s'.ids = i :: s.ids
  deletions : s'.deletions = s.deletions ∨ ∃ ids, ids ⊆ s.ids ∧ s'.deletions = (ids, s.now) :: s.deletions

lemma Frame.of_eq (hnow : s'.now = s.now) (hids : s'.ids = s.ids) (hdeletions : s'.deletions = s.deletions) : Frame s s' :=
  ⟨hnow.ge, .inl hids, .inl hdeletions⟩

lemma Frame.subset (h : Frame s s') : s.ids ⊆ s'.ids := by
  rcases h.ids with heq | ⟨i, -, heq⟩ <;> rw [heq]
  · exact List.Subset.refl _
  · exact List.subset_cons_self _ _

lemma step_frame {lab : Label} (hs : s.step lab = .next s') : Frame s s' := by
  cases lab with
  | insert i createdAt =>
    simp only [State.step] at hs
    split at hs
    · cases hs
    next hfresh =>
      obtain rfl := Result.next.inj hs
      rw [not_or] at hfresh
      exact ⟨Nat.le_refl _, .inr ⟨i, hfresh.1, rfl⟩, .inl rfl⟩
  | tick time =>
    simp only [State.step] at hs
    split at hs
    next hle =>
      obtain rfl := Result.next.inj hs
      exact ⟨hle, .inl rfl, .inl rfl⟩
    · cases hs
  | claim worker locked =>
    simp only [State.step, State.claimDeliveries] at hs
    split at hs
    · cases hs
    · rw [LeaseTable.update_next hs]
      exact .of_eq rfl rfl rfl
  | finish k current answered =>
    simp only [State.step] at hs
    split at hs
    · obtain ⟨-, p, f, report, hs⟩ := finish_conclude hs
      obtain ⟨outcome, -, rfl⟩ := conclude_next hs
      exact .of_eq rfl rfl rfl
    · cases hs
  | delete ids =>
    simp only [State.step] at hs
    split at hs
    next hsub =>
      obtain rfl := Result.next.inj hs
      exact ⟨Nat.le_refl _, .inl rfl, .inr ⟨ids, hsub, rfl⟩⟩
    · cases hs
  | stop j =>
    simp only [State.step] at hs
    split at hs
    · rw [LeaseTable.update_next hs]
      exact .of_eq rfl rfl rfl
    · cases hs
  | fence ids | rebind ids | deleteInstallation ids =>
    simp only [State.step] at hs
    rw [LeaseTable.update_next hs]
    exact .of_eq rfl rfl rfl
  | crash batch | purge i =>
    obtain rfl := Result.next.inj hs
    exact .of_eq rfl rfl rfl
  | report batch =>
    simp only [State.step] at hs
    split at hs
    · obtain rfl := Result.next.inj hs
      exact .of_eq rfl rfl rfl
    · cases hs
  | authorize k granted | previewUnavailable k | send k answer =>
    simp only [State.step] at hs
    split at hs
    · split at hs
      · obtain rfl := Result.next.inj hs
        exact .of_eq rfl rfl rfl
      · cases hs
    · cases hs
  | error k =>
    simp only [State.step] at hs
    split at hs
    · split at hs
      · cases hs
      · obtain rfl := Result.next.inj hs
        exact .of_eq rfl rfl rfl
    · cases hs

lemma Silent.merge {t report : PushWorkerReport} (h : Silent t) (h' : Silent report) : Silent (t.merge report) := by
  refine ⟨?_, ?_, ?_, ?_⟩
  · simp only [PushWorkerReport.merge, h.succeeded, h'.succeeded]
  · simp only [PushWorkerReport.merge, h.retries, h'.retries]
  · simp only [PushWorkerReport.merge, h.deadLettered, h'.deadLettered]
  · simp only [PushWorkerReport.merge, h.invalid, h'.invalid]

lemma tallied_new {createdAt : Time} {report : PushWorkerReport} (h : Silent report) :
    Tallied attempts { createdAt } report :=
  ⟨h.succeeded, h.deadLettered, h.invalid, by rw [h.retries, h.deadLettered, h.invalid], Nat.zero_le _, fun _ => .inl rfl⟩

lemma TableInv.step (h : TableInv attempts s) (htasks : TaskInv attempts s) {lab : Label} (hs : s.step lab = .next s') :
    TableInv attempts s' := by
  have hframe := step_frame hs
  have hsub := hframe.subset
  obtain ⟨hnow, hids, hdeletions⟩ := hframe
  have heffect := step_effect h htasks hs
  refine ⟨?_, fun id r hr => ?_, fun id r hr => ?_, fun id r hr => ?_, fun id r hr => ?_, fun id => ?_, fun id hid => ?_,
    fun x hx id hid => ?_⟩
  · rcases hids with heq | ⟨i, hi, heq⟩ <;> rw [heq]
    · exact h.nodup
    · exact List.nodup_cons.mpr ⟨hi, h.nodup⟩
  · cases heffect id with
    | same report _ hrow => exact hsub (h.ids id r (hrow ▸ hr))
    | changed hr₀ => exact hsub (h.ids id _ hr₀)
    | inserted _ _ hmem => exact hmem
    | purged hnone => cases hnone.symm.trans hr
  · cases heffect id with
    | same report _ hrow => exact h.checks id r (hrow ▸ hr)
    | changed hr₀ hr' hchange =>
      cases hr.symm.trans hr'
      exact hchange.checks (h.checks id _ hr₀) (h.created id _ hr₀)
    | inserted createdAt _ _ _ hnew =>
      cases hr.symm.trans hnew
      rfl
    | purged hnone => cases hnone.symm.trans hr
  · cases heffect id with
    | same report _ hrow => exact Nat.le_trans (h.created id r (hrow ▸ hr)) hnow
    | changed hr₀ hr' hchange =>
      cases hr.symm.trans hr'
      rw [hchange.createdAt]
      exact Nat.le_trans (h.created id _ hr₀) hnow
    | inserted createdAt _ _ hle hnew =>
      cases hr.symm.trans hnew
      exact Nat.le_trans hle hnow
    | purged hnone => cases hnone.symm.trans hr
  · cases heffect id with
    | same report hsilent hrow hreport =>
      rw [hreport]
      exact (h.tallied id r (hrow ▸ hr)).silent hsilent
    | changed hr₀ hr' hchange hreport =>
      cases hr.symm.trans hr'
      rw [hreport]
      exact (h.tallied id _ hr₀).change hchange
    | inserted createdAt hfresh _ _ hnew hreport =>
      cases hr.symm.trans hnew
      rw [hreport]
      exact tallied_new (h.fresh id hfresh)
    | purged hnone => cases hnone.symm.trans hr
  · cases heffect id with
    | same report hsilent _ hreport =>
      rw [hreport]
      simp only [PushWorkerReport.merge, hsilent.succeeded, hsilent.deadLettered, hsilent.invalid, Nat.add_zero]
      exact h.once id
    | changed hr₀ _ hchange hreport =>
      rw [hreport]
      exact ((h.tallied id _ hr₀).change hchange).once
    | inserted createdAt _ _ _ _ hreport =>
      rw [hreport]
      exact h.once id
    | purged _ hreport =>
      rw [hreport]
      exact h.once id
  · have hid₀ : id ∉ s.ids := fun hmem => hid (hsub hmem)
    cases heffect id with
    | same report hsilent _ hreport =>
      rw [hreport]
      exact (h.fresh id hid₀).merge hsilent
    | changed hr₀ => exact (hid₀ (h.ids id _ hr₀)).elim
    | inserted createdAt _ hmem => exact (hid hmem).elim
    | purged _ hreport =>
      rw [hreport]
      exact h.fresh id hid₀
  · have hx' : x ∈ s.deletions ∨ x.1 ⊆ s.ids ∧ x.2 = s.now := by
      rcases hdeletions with heq | ⟨ids, hin, heq⟩ <;> rw [heq] at hx
      · exact .inl hx
      · rcases List.mem_cons.mp hx with rfl | hx
        · exact .inr ⟨hin, rfl⟩
        · exact .inl hx
    have hold : id ∈ s.ids ∧ ∀ r, s.rows id = some r → r.createdAt ≤ x.2 := by
      rcases hx' with hx | ⟨hin, htime⟩
      · exact h.deletions x hx id hid
      · exact ⟨hin hid, fun r hr => htime ▸ h.created id r hr⟩
    refine ⟨hsub hold.1, fun r hr => ?_⟩
    cases heffect id with
    | same report _ hrow => exact hold.2 r (hrow ▸ hr)
    | changed hr₀ hr' hchange =>
      cases hr.symm.trans hr'
      rw [hchange.createdAt]
      exact hold.2 _ hr₀
    | inserted createdAt hfresh => exact (hfresh hold.1).elim
    | purged hnone => cases hnone.symm.trans hr

/-- The generation of a row does not fall. -/
lemma Effect.generation (h : Effect attempts s s' id) (hid : id ∈ s.ids) {r' : Delivery} (hr' : s'.rows id = some r') :
    ∃ r, s.rows id = some r ∧ r.claimGeneration ≤ r'.claimGeneration := by
  cases h with
  | same report _ hrow => exact ⟨r', hrow ▸ hr', Nat.le_refl _⟩
  | changed hr₀ hr₁ hchange =>
    cases hr'.symm.trans hr₁
    exact ⟨_, hr₀, hchange.generation⟩
  | inserted _ hfresh => exact (hfresh hid).elim
  | purged hnone => cases hnone.symm.trans hr'

/-- No task is new, and none is back before its request to the provider. -/
structure Kept (works works' : List Work) : Prop where
  keys : (works'.map Work.key).Sublist (works.map Work.key)
  tasks : ∀ w' ∈ works', ∃ w ∈ works, w'.worker = w.worker ∧ w'.claim = w.claim ∧
    (w'.phase.early = true → w.phase.early = true)

lemma kept_of_sublist {works works' : List Work} (h : works'.Sublist works) : Kept works works' :=
  ⟨h.map _, fun w hw => ⟨w, h.subset hw, rfl, rfl, id⟩⟩

/-- A task goes on to its next phase. -/
lemma kept_set {works : List Work} {k : Nat} {w : Work} {phase : Phase} (hw : works[k]? = some w)
    (hphase : phase.early = true → w.phase.early = true) : Kept works (works.set k { w with phase }) := by
  have hkeys : (works.set k { w with phase }).map Work.key = works.map Work.key := by
    rw [List.map_set]
    obtain ⟨hk, hget⟩ := List.getElem?_eq_some_iff.mp hw
    refine List.ext_getElem (by simp) fun j hj hj' => ?_
    rw [List.getElem_set]
    split
    next heq =>
      subst heq
      simp only [List.getElem_map, hget]
      rfl
    next => rfl
  refine ⟨hkeys ▸ List.Sublist.refl _, fun w' hw' => ?_⟩
  rcases List.mem_or_eq_of_mem_set hw' with hw' | rfl
  · exact ⟨w', hw', rfl, rfl, id⟩
  · exact ⟨w, List.mem_of_getElem? hw, rfl, rfl, hphase⟩

namespace TaskInv

/-- A step that starts no task and asks no provider. -/
lemma frame (h : TaskInv attempts s) (hids : s.ids ⊆ s'.ids)
    (hrows : ∀ {id r'}, id ∈ s.ids → s'.rows id = some r' → ∃ r, s.rows id = some r ∧ r.claimGeneration ≤ r'.claimGeneration)
    (hworks : Kept s.works s'.works) (hsends : s'.sends = s.sends) : TaskInv attempts s' := by
  refine ⟨fun w' hw' => ?_, fun w' hw' => ?_, h.unique.sublist hworks.keys, fun x hx => ?_, fun w' hw' hearly => ?_,
    hsends ▸ h.sends⟩
  · obtain ⟨w, hw, hworker, -⟩ := hworks.tasks w' hw'
    rw [hworker]
    exact h.limits w hw
  · obtain ⟨w, hw, -, hclaim, -⟩ := hworks.tasks w' hw'
    obtain ⟨hmem, hgen⟩ := h.works w hw
    rw [hclaim]
    refine ⟨hids hmem, fun r' hr' => ?_⟩
    obtain ⟨r, hr, hle⟩ := hrows hmem hr'
    exact Nat.le_trans (hgen r hr) hle
  · rw [hsends] at hx
    obtain ⟨hmem, hgen⟩ := h.sent x hx
    refine ⟨hids hmem, fun r' hr' => ?_⟩
    obtain ⟨r, hr, hle⟩ := hrows hmem hr'
    exact Nat.le_trans (hgen r hr) hle
  · obtain ⟨w, hw, -, hclaim, hphase⟩ := hworks.tasks w' hw'
    have hkey : w'.key = w.key := by
      unfold Work.key
      rw [hclaim]
    rw [hsends, hkey]
    exact h.unsent w hw (hphase hearly)

variable {k : Nat} {w : Work} {phase : Phase}

/-- The provider is asked once for a generation. -/
lemma send (h : TaskInv attempts s) (hw : s.works[k]? = some w) (hphase : w.phase = .authorized) (answer : ProviderAnswer) :
    TaskInv attempts { s with works := s.works.set k { w with phase := .answered answer }, sends := w.key :: s.sends } := by
  have hmem : w ∈ s.works := List.mem_of_getElem? hw
  have hunsent : w.key ∉ s.sends := h.unsent w hmem (by rw [hphase]; rfl)
  have hadvance : TaskInv attempts { s with works := s.works.set k { w with phase := .answered answer } } :=
    h.frame (List.Subset.refl _) (fun _ hr => ⟨_, hr, Nat.le_refl _⟩) (kept_set hw fun hearly => by cases hearly) rfl
  refine ⟨hadvance.limits, hadvance.works, hadvance.unique, fun x hx => ?_, fun w' hw' hearly => ?_,
    List.nodup_cons.mpr ⟨hunsent, h.sends⟩⟩
  · rcases List.mem_cons.mp hx with rfl | hx
    · exact h.works w hmem
    · exact h.sent x hx
  · -- another task has another key
    obtain ⟨j, hj⟩ := List.mem_iff_getElem?.mp hw'
    obtain ⟨hk, -⟩ := List.getElem?_eq_some_iff.mp hw
    by_cases hjk : k = j
    · subst hjk
      rw [List.getElem?_set_self hk] at hj
      cases hj
      cases hearly
    · rw [List.getElem?_set_ne hjk] at hj
      intro hin
      rcases List.mem_cons.mp hin with hkey | hin
      · refine hjk ((List.getElem?_inj (by simpa using hk) h.unique).mp ?_)
        rw [List.getElem?_map, List.getElem?_map, hw, hj, Option.map_some, Option.map_some, hkey]
      · exact h.unsent w' (List.mem_of_getElem? hj) hearly hin

/-- The tasks of a batch are of its rows, with the generation that the rows now have. -/
lemma mem_claims {worker : PushWorker} {batch : Nat} {picked : List Uuid} {rows : Uuid → Option Delivery}
    (h : w ∈ State.claims worker batch picked rows) :
    w.worker = worker ∧ w.phase = .claimed ∧ w.claim.occurrenceId ∈ picked ∧
      ∃ r, rows w.claim.occurrenceId = some r ∧ w.claim.claimGeneration = r.claimGeneration := by
  obtain ⟨i, hi, hw⟩ := List.mem_filterMap.mp h
  obtain ⟨claim, hclaim, rfl⟩ := Option.map_eq_some_iff.mp hw
  obtain ⟨r, hr, hc⟩ := Option.bind_eq_some_iff.mp hclaim
  unfold deliveryClaimFromRow at hc
  split at hc
  · cases hc
    exact ⟨rfl, rfl, hi, r, hr, rfl⟩
  · cases hc

lemma nodup_claims {worker : PushWorker} {batch : Nat} {picked : List Uuid} (hnodup : picked.Nodup)
    (rows : Uuid → Option Delivery) : ((State.claims worker batch picked rows).map Work.key).Nodup := by
  rw [State.claims, List.map_filterMap]
  refine hnodup.filterMap fun i i' key hkey hkey' => ?_
  have hfst : ∀ {j}, key ∈ Option.map Work.key (((rows j).bind (deliveryClaimFromRow j)).map fun claim =>
      ⟨worker, batch, claim, .claimed⟩) → key.1 = j := by
    intro j hj
    obtain ⟨w, hw, rfl⟩ := Option.map_eq_some_iff.mp hj
    obtain ⟨claim, hclaim, rfl⟩ := Option.map_eq_some_iff.mp hw
    obtain ⟨r, -, hc⟩ := Option.bind_eq_some_iff.mp hclaim
    unfold deliveryClaimFromRow at hc
    split at hc
    · cases hc
      rfl
    · cases hc
  exact (hfst hkey).symm.trans (hfst hkey')

/-- New tasks have generations that nobody has had before. -/
lemma claim (h : TaskInv attempts s) (htable : TableInv attempts s) {worker : PushWorker} {locked : List Uuid}
    (hle : worker.config.maxAttempts ≤ attempts) (hs : s.step (.claim worker locked) = .next s') : TaskInv attempts s' := by
  have heffect := step_effect htable h hs
  simp only [State.step, State.claimDeliveries] at hs
  split at hs
  · cases hs
  next lease hvalid =>
    have hnext := LeaseTable.update_next hs
    -- the row of a new task had the generation before
    have hrow : ∀ {i r'}, i ∈ s.candidates worker.config.batchSize locked → s'.rows i = some r' →
        ∃ r, s.rows i = some r ∧ r'.claimGeneration = r.claimGeneration + 1 := by
      intro i r' hi hr'
      obtain ⟨-, r, hr, -⟩ := LeaseTable.mem_candidates hi
      rw [hnext] at hr'
      simp only [hr, Option.map_some, hi, decide_true, if_true, Option.some.injEq] at hr'
      exact ⟨r, hr, by rw [← hr']; rfl⟩
    have hnew : ∀ w ∈ State.claims worker s.batches (s.candidates worker.config.batchSize locked) s'.rows,
        w.worker = worker ∧ ∃ r r', s.rows w.claim.occurrenceId = some r ∧ s'.rows w.claim.occurrenceId = some r' ∧
          w.claim.claimGeneration = r'.claimGeneration ∧ r'.claimGeneration = r.claimGeneration + 1 := by
      intro w hw
      obtain ⟨hworker, -, hpicked, r', hr', hgen⟩ := mem_claims hw
      obtain ⟨r, hr, hsucc⟩ := hrow hpicked hr'
      exact ⟨hworker, r, r', hr, hr', hgen, hsucc⟩
    have hworks : s'.works = State.claims worker s.batches (s.candidates worker.config.batchSize locked) s'.rows ++ s.works := by
      rw [hnext]
    have hold : TaskInv attempts { s' with works := s.works } := by
      exact h.frame (by rw [hnext]; exact List.Subset.refl _) (fun hid hr' => (heffect _).generation hid hr')
        (kept_of_sublist (List.Sublist.refl _)) (by rw [hnext])
    refine ⟨fun w hw => ?_, fun w hw => ?_, ?_, hold.sent, fun w hw hearly => ?_, hold.sends⟩
    · rw [hworks] at hw
      rcases List.mem_append.mp hw with hw | hw
      · rw [(hnew w hw).1]
        exact ⟨maxAttempts_pos worker, hle⟩
      · exact hold.limits w hw
    · rw [hworks] at hw
      rcases List.mem_append.mp hw with hw | hw
      · obtain ⟨-, r, r', hr, hr', hgen, -⟩ := hnew w hw
        refine ⟨?_, fun r₁ hr₁ => ?_⟩
        · rw [hnext]
          exact htable.ids _ r hr
        · cases hr₁.symm.trans hr'
          exact hgen.le
      · exact hold.works w hw
    · rw [hworks, List.map_append]
      refine List.nodup_append.mpr ⟨nodup_claims (LeaseTable.nodup_candidates htable.nodup) _, h.unique, fun x hx y hy hxy => ?_⟩
      obtain ⟨w, hw, rfl⟩ := List.mem_map.mp hx
      obtain ⟨w', hw', rfl⟩ := List.mem_map.mp hy
      obtain ⟨-, r, r', hr, -, hgen, hsucc⟩ := hnew w hw
      obtain ⟨hid, hgeneration⟩ := Prod.mk.inj hxy
      rw [hid] at hr
      have hle' := (h.works w' hw').2 r hr
      omega
    · rw [hworks] at hw
      rcases List.mem_append.mp hw with hw | hw
      · intro hsent
        obtain ⟨-, r, r', hr, hr', hgen, hsucc⟩ := hnew w hw
        have hsends : s'.sends = s.sends := by rw [hnext]
        rw [hsends] at hsent
        have hle' := (h.sent _ hsent).2 r hr
        have hkey : w.key.2 = w.claim.claimGeneration := rfl
        omega
      · exact hold.unsent w hw hearly

end TaskInv

/-- What a step does to the tasks and reports of them. -/
inductive Tasks (s : State) : Label → State → Prop
  | same {lab : Label} {s' : State} : s'.works = s.works → s'.sends = s.sends → s'.outcomes = s.outcomes →
      s'.reports = s.reports → Tasks s lab s'
  | claimed {worker : PushWorker} {locked : List Uuid} {s' : State} :
      s'.works = State.claims worker s.batches (s.candidates worker.config.batchSize locked) s'.rows ++ s.works →
      s'.outcomes = s.outcomes → s'.reports = s.reports → Tasks s (.claim worker locked) s'
  | moved {lab : Label} {k : Nat} {w : Work} {phase : Phase} : s.works[k]? = some w → w.outcome = none →
      ({ w with phase } : Work).outcome = none → (phase.early = true → w.phase.early = true) →
      Tasks s lab { s with works := s.works.set k { w with phase } }
  | sent {lab : Label} {k : Nat} {w : Work} (answer : ProviderAnswer) : s.works[k]? = some w → w.phase = .authorized →
      Tasks s lab { s with works := s.works.set k { w with phase := .answered answer }, sends := w.key :: s.sends }
  | concluded {lab : Label} {s' : State} {k : Nat} {w : Work} {report : PushWorkerReport} (answered : Bool) :
      s.works[k]? = some w → w.outcome = none →
      s'.works = s.works.set k { w with phase := .ended (if answered then some report else none) } →
      s'.sends = s.sends → s'.outcomes = (w.claim.occurrenceId, report) :: s.outcomes → s'.reports = s.reports →
      Tasks s lab s'
  | left {lab : Label} {batch : Nat} {reports : List (Uuid × PushWorkerReport)} :
      (reports = [] ∨ reports = (s.worksOf batch).filterMap Work.outcome) → Tasks s lab (s.leave batch reports)

lemma Work.outcome_of_phase {w : Work} {phase : Phase} (h : w.phase = phase)
    (hphase : ∀ outcome, phase ≠ .ended outcome) : w.outcome = none := by
  unfold Work.outcome
  split
  next outcome heq => exact (hphase outcome (h.symm.trans heq)).elim
  next => rfl

lemma Work.outcome_of_not_ended {w : Work} (h : ¬ w.ended = true) : w.outcome = none := by
  refine Work.outcome_of_phase rfl fun outcome heq => h ?_
  rw [Work.ended, heq]

lemma step_tasks {lab : Label} (hs : s.step lab = .next s') : Tasks s lab s' := by
  cases lab with
  | claim worker locked =>
    simp only [State.step, State.claimDeliveries] at hs
    split at hs
    · cases hs
    · have hnext := LeaseTable.update_next hs
      exact .claimed (by rw [hnext]) (by rw [hnext]) (by rw [hnext])
  | authorize k granted =>
    simp only [State.step] at hs
    split at hs
    next w hw =>
      split at hs
      next hguard =>
        obtain rfl := Result.next.inj hs
        refine .moved hw (Work.outcome_of_phase hguard.1 fun _ => Phase.noConfusion)
          (Work.outcome_of_phase rfl fun _ => ?_) fun _ => ?_
        · cases granted <;> exact Phase.noConfusion
        · rw [hguard.1]
          rfl
      · cases hs
    · cases hs
  | previewUnavailable k =>
    simp only [State.step] at hs
    split at hs
    next w hw =>
      split at hs
      next hphase =>
        obtain rfl := Result.next.inj hs
        exact .moved hw (Work.outcome_of_phase hphase fun _ => Phase.noConfusion) rfl fun hearly => by cases hearly
      · cases hs
    · cases hs
  | send k answer =>
    simp only [State.step] at hs
    split at hs
    next w hw =>
      split at hs
      next hphase =>
        obtain rfl := Result.next.inj hs
        exact .sent answer hw hphase
      · cases hs
    · cases hs
  | finish k current answered =>
    simp only [State.step] at hs
    split at hs
    next w hw =>
      obtain ⟨hnone, p, f, report, hs⟩ := finish_conclude hs
      obtain ⟨outcome, -, rfl⟩ := conclude_next hs
      exact .concluded answered hw hnone rfl rfl rfl rfl
    · cases hs
  | error k =>
    simp only [State.step] at hs
    split at hs
    next w hw =>
      split at hs
      · cases hs
      next hended =>
        obtain rfl := Result.next.inj hs
        exact .moved hw (Work.outcome_of_not_ended hended) rfl fun hearly => by cases hearly
    · cases hs
  | report batch =>
    simp only [State.step] at hs
    split at hs
    · obtain rfl := Result.next.inj hs
      refine .left ?_
      unfold State.returned
      split
      · exact .inr rfl
      · exact .inl rfl
    · cases hs
  | crash batch =>
    obtain rfl := Result.next.inj hs
    exact .left (.inl rfl)
  | insert i createdAt | tick time | delete ids =>
    simp only [State.step] at hs
    split at hs <;> cases hs
    exact .same rfl rfl rfl rfl
  | stop j =>
    simp only [State.step] at hs
    split at hs
    · have hnext := LeaseTable.update_next hs
      exact .same (by rw [hnext]) (by rw [hnext]) (by rw [hnext]) (by rw [hnext])
    · cases hs
  | fence ids | rebind ids | deleteInstallation ids =>
    simp only [State.step] at hs
    have hnext := LeaseTable.update_next hs
    exact .same (by rw [hnext]) (by rw [hnext]) (by rw [hnext]) (by rw [hnext])
  | purge i =>
    obtain rfl := Result.next.inj hs
    exact .same rfl rfl rfl rfl

lemma TaskInv.step (h : TaskInv attempts s) (htable : TableInv attempts s) {lab : Label}
    (hin : lab.within attempts = true) (hs : s.step lab = .next s') : TaskInv attempts s' := by
  have heffect := step_effect htable h hs
  have hsub := (step_frame hs).subset
  have hframe : Kept s.works s'.works → s'.sends = s.sends → TaskInv attempts s' :=
    h.frame hsub fun hid hr' => (heffect _).generation hid hr'
  cases step_tasks hs with
  | same hworks hsends => exact hframe (kept_of_sublist (hworks ▸ List.Sublist.refl _)) hsends
  | claimed => exact h.claim htable (of_decide_eq_true hin) hs
  | moved hw _ _ hphase => exact hframe (kept_set hw hphase) rfl
  | sent answer hw hphase => exact h.send hw hphase answer
  | concluded answered hw _ hworks hsends =>
    exact hframe (hworks ▸ kept_set hw fun hearly => by cases hearly) hsends
  | left => exact hframe (kept_of_sublist List.filter_sublist) rfl

/-- The outcomes that the tasks hold, when one that had none goes on. -/
lemma outcomes_set {works : List Work} {k : Nat} {w : Work} (hw : works[k]? = some w) (hnone : w.outcome = none)
    (w' : Work) : ((works.set k w').filterMap Work.outcome).Perm (w'.outcome.toList ++ works.filterMap Work.outcome) := by
  induction works generalizing k with
  | nil => cases hw
  | cons w₀ works ih =>
    cases k with
    | zero =>
      obtain rfl := Option.some.inj hw
      rw [List.set_cons_zero, List.filterMap_cons_none hnone]
      cases hout : w'.outcome with
      | none => rw [List.filterMap_cons_none hout, Option.toList_none, List.nil_append]
      | some x => rw [List.filterMap_cons_some hout, Option.toList_some, List.singleton_append]
    | succ k =>
      rw [List.getElem?_cons_succ] at hw
      rw [List.set_cons_succ]
      cases hout : w₀.outcome with
      | none =>
        rw [List.filterMap_cons_none hout, List.filterMap_cons_none hout]
        exact ih hw
      | some x =>
        rw [List.filterMap_cons_some hout, List.filterMap_cons_some hout]
        exact ((ih hw).cons x).trans List.perm_middle.symm

lemma ReportInv.step (h : ReportInv s) {lab : Label} (hs : s.step lab = .next s') : ReportInv s' := by
  unfold ReportInv at h ⊢
  cases step_tasks hs with
  | same hworks _ houtcomes hreports =>
    rw [hworks, houtcomes, hreports]
    exact h
  | @claimed worker locked _ hworks houtcomes hreports =>
    have hnew : (State.claims worker s.batches (s.candidates worker.config.batchSize locked) s'.rows).filterMap
        Work.outcome = [] := by
      refine List.filterMap_eq_nil_iff.mpr fun w hw => ?_
      exact Work.outcome_of_phase (TaskInv.mem_claims hw).2.1 fun _ => Phase.noConfusion
    rw [hworks, houtcomes, hreports, List.filterMap_append, hnew, List.nil_append]
    exact h
  | moved hw hnone hnone' =>
    refine (((outcomes_set hw hnone _).append_right _).subperm).trans ?_
    rw [hnone', Option.toList_none, List.nil_append]
    exact h
  | sent answer hw hphase =>
    have hnone := Work.outcome_of_phase hphase fun _ => Phase.noConfusion
    exact (((outcomes_set hw hnone _).append_right _).subperm).trans h
  | @concluded _ _ k w report answered hw hnone hworks _ houtcomes hreports =>
    rw [hworks, houtcomes, hreports]
    refine (((outcomes_set hw hnone _).append_right _).subperm).trans ?_
    cases answered with
    | true => exact (List.subperm_cons _).mpr h
    | false => exact h.trans (List.sublist_cons_self _ _).subperm
  | @left _ batch reports hreports =>
    rcases hreports with rfl | rfl
    · exact ((List.filter_sublist.filterMap _).append_right _).subperm.trans h
    · -- the tasks of the call and the others are all tasks
      refine List.Perm.subperm ?_ |>.trans h
      have hall := ((List.filter_append_perm (fun w : Work => decide (w.batch = batch)) s.works).filterMap
        Work.outcome).append_right s.reports
      rw [List.filterMap_append] at hall
      refine List.Perm.trans ?_ hall
      change ((s.works.filter fun w => !decide (w.batch = batch)).filterMap Work.outcome ++
        ((s.worksOf batch).filterMap Work.outcome ++ s.reports)).Perm _
      rw [← List.append_assoc]
      exact List.perm_append_comm.append_right _

/-- A row that has come to an end is hidden at most, and a hidden row stays as it is, until it is purged. -/
lemma Effect.ended (h : Effect attempts s s' id) {r : Delivery} (hr : s.rows id = some r) (hid : id ∈ s.ids) :
    (r.status.unfinished = false → s'.rows id = none ∨ ∃ deletedAt, s'.rows id = some { r with deletedAt }) ∧
      (r.deletedAt ≠ none → s'.rows id = none ∨ s'.rows id = some r) := by
  cases h with
  | same report _ hrow => exact ⟨fun _ => .inr ⟨r.deletedAt, hrow.trans hr⟩, fun _ => .inr (hrow.trans hr)⟩
  | changed hr₀ hr' hchange =>
    cases hr.symm.trans hr₀
    refine ⟨fun hended => ?_, fun hdeleted => (hdeleted hchange.not_deleted).elim⟩
    obtain ⟨deletedAt, rfl⟩ := hchange.ended hended
    exact .inr ⟨deletedAt, hr'⟩
  | inserted _ hfresh => exact (hfresh hid).elim
  | purged hnone => exact ⟨fun _ => .inl hnone, fun _ => .inl hnone⟩

/-- No task violates a CHECK with its last statement. -/
lemma conclude_ne_violation {k : Nat} {w : Work} {answered : Bool} {p : Delivery → Bool} {f : Delivery → Delivery}
    {report : Option Delivery → PushWorkerReport}
    (h : ∀ r, s.rows w.claim.occurrenceId = some r → p r = true → (f r).checks = true) :
    s.conclude k w answered p f report ≠ .violation := by
  simp only [State.conclude]
  refine LeaseTable.update_ne_violation fun j r hr hp => ?_
  rw [Bool.and_eq_true, decide_eq_true_eq] at hp
  exact h r (hp.1 ▸ hr) hp.2

lemma TableInv.finish_ne_violation (h : TableInv attempts s) (k : Nat) (w : Work) (current answered : Bool) :
    s.finish k w current answered ≠ .violation := by
  have hfailure : ∀ code maxAttempts report, s.recordFailure k w answered code maxAttempts report ≠ .violation := by
    intro code maxAttempts report
    unfold State.recordFailure
    dsimp only
    split
    · exact nofun
    next retry _ =>
      split
      · exact nofun
      next hvalid =>
        simp only [not_or] at hvalid
        refine conclude_ne_violation fun r hr hp => ?_
        obtain ⟨hclaimed, hdeleted⟩ := holds_claimed hp
        have hchange : Change s.now maxAttempts r (r.recordFailure code retry maxAttempts s.now)
            (if r.exhausted retry maxAttempts s.now then { deadLettered := 1 } else { retries := 1 }) :=
          .failed hclaimed hdeleted (Nat.pos_of_ne_zero hvalid.2.2) (Nat.le_refl _) _ (by split <;> simp)
        exact hchange.checks (h.checks _ r hr) (h.created _ r hr)
  unfold State.finish
  split
  · exact nofun
  · exact nofun
  · exact nofun
  · exact hfailure _ _ _
  · exact hfailure _ _ _
  · unfold State.markDeliverySucceeded
    split
    · refine conclude_ne_violation fun r hr hp => ?_
      obtain ⟨hclaimed, hdeleted⟩ := holds_claimed hp
      have hchange : Change s.now attempts r (r.markSucceeded s.now) { succeeded := 1 } := .succeeded hclaimed hdeleted
      exact hchange.checks (h.checks _ r hr) (h.created _ r hr)
    · exact nofun
  · unfold State.disableInvalidDestination
    split
    · refine conclude_ne_violation fun r hr hp => ?_
      obtain ⟨hclaimed, hdeleted⟩ := holds_claimed ((Bool.and_eq_true _ _).mp hp).2
      have hchange : Change s.now 1 r (r.terminalizeLiveClaim s.now) { invalidDestinations := 1 } :=
        .disabled hclaimed hdeleted Nat.one_pos
      exact hchange.checks (h.checks _ r hr) (h.created _ r hr)
    · exact nofun
  · exact hfailure _ _ _
  · exact hfailure _ _ _
  · exact hfailure _ _ _

lemma TableInv.no_violation (h : TableInv attempts s) (lab : Label) : s.step lab ≠ .violation := by
  have hchecks : ∀ {i r r' report}, s.rows i = some r → Change s.now attempts r r' report → r'.checks = true :=
    fun hr hchange => hchange.checks (h.checks _ _ hr) (h.created _ _ hr)
  cases lab with
  | claim worker locked =>
    simp only [State.step, State.claimDeliveries]
    split
    · exact nofun
    next lease hvalid => exact LeaseTable.update_ne_violation fun i r hr hp => hchecks hr (change_claim hvalid hr hp)
  | finish k current answered =>
    simp only [State.step]
    split
    · exact h.finish_ne_violation _ _ _ _
    · exact nofun
  | stop j =>
    simp only [State.step]
    split
    next ids deletedAt hj => exact LeaseTable.update_ne_violation fun i r hr hp => hchecks hr (change_stop h hj hr hp)
    · exact nofun
  | fence ids =>
    simp only [State.step]
    refine LeaseTable.update_ne_violation fun i r hr hp => ?_
    obtain ⟨-, hunfinished, hdeleted⟩ := isLive_unfinished hp
    exact hchecks hr (.fenced hunfinished hdeleted (.inl rfl))
  | rebind ids =>
    simp only [State.step]
    refine LeaseTable.update_ne_violation fun i r hr hp => ?_
    obtain ⟨-, hunfinished, hdeleted⟩ := isLive_unfinished ((Bool.and_eq_true _ _).mp hp).1
    exact hchecks hr (.fenced hunfinished hdeleted (.inr rfl))
  | deleteInstallation ids =>
    simp only [State.step]
    refine LeaseTable.update_ne_violation fun i r hr hp => ?_
    exact hchecks hr (.removed (Option.isNone_iff_eq_none.mp ((Bool.and_eq_true _ _).mp hp).2))
  | crash batch | purge i => exact nofun
  | insert i createdAt | tick time | report batch | delete ids =>
    simp only [State.step]
    split <;> exact nofun
  | authorize k granted | previewUnavailable k | send k answer | error k =>
    simp only [State.step]
    split
    · split <;> exact nofun
    · exact nofun

end Steps

/-- What every step keeps. -/
structure Inv (attempts : Nat) (s : State) : Prop where
  table : TableInv attempts s
  tasks : TaskInv attempts s
  reports : ReportInv s

lemma Inv.init (attempts : Nat) (now : Time) : Inv attempts (.init now) := by
  refine ⟨⟨List.nodup_nil, ?_, ?_, ?_, ?_, ?_, fun _ _ => silent_empty, ?_⟩,
    ⟨?_, ?_, List.nodup_nil, ?_, ?_, List.nodup_nil⟩, List.Subperm.refl _⟩ <;>
    simp [State.init, State.outcomeOf, totalOf]

lemma Inv.step {attempts : Nat} {s s' : State} (h : Inv attempts s) {lab : Label} (hin : lab.within attempts = true)
    (hs : s.step lab = .next s') : Inv attempts s' :=
  ⟨h.table.step h.tasks hs, h.tasks.step h.table hin hs, h.reports.step hs⟩

lemma Reachable.inv {attempts : Nat} {s : State} (h : Reachable attempts s) : Inv attempts s := by
  obtain ⟨_, hrun⟩ := h
  refine hrun.invariant (I := fun _ s => Inv attempts s) (fun s hs => ?_) fun _ s lab s' _ hinv hin hs => ?_
  · obtain ⟨now, rfl⟩ := hs
    exact Inv.init attempts now
  · exact hinv.step hin (Result.state?_eq_some hs)

/-- A purged occurrence does not come back. -/
lemma Effect.none_stays {attempts : Nat} {s s' : State} {id : Uuid} (h : Effect attempts s s' id) (hid : id ∈ s.ids)
    (hnone : s.rows id = none) : s'.rows id = none := by
  cases h with
  | same report _ hrow => exact hrow.trans hnone
  | changed hr => cases hnone.symm.trans hr
  | inserted _ hfresh => exact (hfresh hid).elim
  | purged hnone' => exact hnone'

/-- What every step keeps of an occurrence, unless it purges it, a run keeps. -/
lemma Inv.kept {attempts : Nat} {s s' : State} {id : Uuid} {P : Delivery → Prop} (h : Inv attempts s)
    (hlater : Later attempts s s')
    (hstep : ∀ {s s' r}, Effect attempts s s' id → id ∈ s.ids → s.rows id = some r → P r →
      s'.rows id = none ∨ ∃ r', s'.rows id = some r' ∧ P r') {r : Delivery} (hr : s.rows id = some r) (hP : P r) :
    s'.rows id = none ∨ ∃ r', s'.rows id = some r' ∧ P r' := by
  obtain ⟨_, hrun⟩ := hlater
  suffices hall : Inv attempts s' ∧ id ∈ s'.ids ∧ (s'.rows id = none ∨ ∃ r', s'.rows id = some r' ∧ P r') from hall.2.2
  refine hrun.invariant (I := fun _ s => Inv attempts s ∧ id ∈ s.ids ∧ (s.rows id = none ∨ ∃ r, s.rows id = some r ∧ P r))
    (fun s₀ hs₀ => ?_) fun _ s₁ lab s₂ _ hinv hin hs => ?_
  · subst hs₀
    exact ⟨h, h.table.ids id r hr, .inr ⟨r, hr, hP⟩⟩
  · obtain ⟨hinv, hid, hrow⟩ := hinv
    have hs := Result.state?_eq_some hs
    have heffect := step_effect hinv.table hinv.tasks hs id
    refine ⟨hinv.step hin hs, (step_frame hs).subset hid, ?_⟩
    rcases hrow with hnone | ⟨r₁, hr₁, hP₁⟩
    · exact .inl (heffect.none_stays hid hnone)
    · exact hstep heffect hid hr₁ hP₁

lemma Inv.reported {attempts : Nat} {s : State} (h : Inv attempts s) (id : Uuid) :
    Within (s.reportOf id) (s.outcomeOf id) :=
  within_of_subperm ((List.sublist_append_right _ _).subperm.trans h.reports) id

section Example

end Example

end JamyeServer.Push
