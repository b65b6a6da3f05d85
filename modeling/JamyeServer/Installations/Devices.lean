import JamyeServer.Installations.Deletion

/-!
# One row for each device

In every schedule the live rows have distinct installation ids and distinct destinations, and the epoch of a row grows
whenever its device or its owner changes.
-/

namespace JamyeServer.Installations

open ReadCommitted Postgres Push AccountDeletion Prog

variable {hashtextextended : String → Nat} {ticks : Time → Time → Bool} {l l' L : Local} {g g' G : Shared}

section Programs

lemma Leaves.ok {job : Job} {outcome : Outcome} (h : Leaves hashtextextended ticks L G)
    (houtbox : OwnOutbox L) : Ok hashtextextended ticks ⟨job, outcome, L⟩ G where
  installations := h.installations
  occurrences j := h.occurrences (.pushDeliveryIntents j)
  rebound := h.rebound
  outbox i hnone hsome := by
    by_cases hmem : Key.outboxEvents i ∈ L.writes.map Write.key
    · obtain ⟨w, hw, hkey⟩ := List.mem_map.mp hmem
      exact houtbox w hw i hkey
    · rw [Shared.view, Store.get_apply_of_notMem _ hmem] at hsome
      exact absurd hnone hsome

lemma ownOutbox_of_empty (hw : l.writes = []) : OwnOutbox l := by
  intro w hmem
  rw [hw] at hmem
  cases hmem

lemma touches_deleteInstallationState {i : Uuid} : (deleteInstallationState i).Touches NotOutbox :=
  ⟨trivial, fun _ => (touches_change fun _ => trivial).bind fun _ => (touches_change fun _ => trivial).bind fun _ =>
    touches_ensure⟩

lemma touches_writeInstallation {i : Uuid} {f : Time → PushInstallation → PushInstallation} {operation : String} :
    (writeInstallation i f operation).Touches NotOutbox :=
  (touches_change fun _ => trivial).bind fun _ => touches_ofOption

lemma touches_terminalizePriorOccurrences {i : Uuid} {ownerEpoch : Nat} :
    (terminalizePriorOccurrences i ownerEpoch).Touches NotOutbox :=
  (touches_change fun _ => trivial).bind fun _ => trivial

lemma touches_nextOwnerEpoch {current : Nat} {changed : Bool} : (nextOwnerEpoch current changed).Touches NotOutbox := by
  unfold nextOwnerEpoch
  split
  · trivial
  split
  · split <;> trivial
  · trivial

lemma touches_installationFromRow {i : Uuid} {r : PushInstallation} : (installationFromRow i r).Touches NotOutbox :=
  touches_nextOwnerEpoch.bind fun _ => trivial

lemma touches_requireLiveAccount {userId : Uuid} : (requireLiveAccount userId).Touches NotOutbox :=
  touches_selectFor.bind fun _ => touches_ensure

lemma touches_rebindInstallation {command : UpsertPushInstallationCommand} {current : Uuid × PushInstallation} :
    (rebindInstallation command current).Touches NotOutbox := by
  refine touches_nextOwnerEpoch.bind fun _ => touches_writeInstallation.bind fun _ => ?_
  split
  · exact touches_terminalizePriorOccurrences.bind fun _ => touches_installationFromRow.bind fun _ => trivial
  · exact Touches.bind trivial fun _ => touches_installationFromRow.bind fun _ => trivial

lemma touches_upsertInstallation {command : UpsertPushInstallationCommand} :
    (upsertInstallation hashtextextended command).Touches NotOutbox := by
  refine touches_requireLiveAccount.bind fun _ => ⟨trivial, fun _ => ⟨trivial, fun _ =>
    touches_selectFor.bind fun rows => ?_⟩⟩
  dsimp only
  split
  · exact Touches.bind ⟨trivial, fun _ => (touches_insertRow trivial).bind fun _ => touches_installationFromRow⟩
      fun _ => trivial
  · refine Touches.bind ?_ fun _ => touches_rebindInstallation
    unfold mergeDestination
    split
    · split
      · exact touches_deleteInstallationState
      · trivial
    · trivial

lemma touches_retokenInstallation {command : UpdatePushInstallationCommand} {current : Uuid × PushInstallation} :
    (retokenInstallation command current).Touches NotOutbox := by
  refine touches_nextOwnerEpoch.bind fun _ => touches_writeInstallation.bind fun _ => ?_
  split
  · exact touches_terminalizePriorOccurrences.bind fun _ => touches_installationFromRow
  · exact Touches.bind trivial fun _ => touches_installationFromRow

lemma touches_updateInstallation {command : UpdatePushInstallationCommand} :
    (updateInstallation hashtextextended command).Touches NotOutbox := by
  refine touches_requireLiveAccount.bind fun _ => ⟨trivial, fun _ => ⟨trivial, fun _ => touches_selectFor.bind fun rows =>
    touches_ofOption.bind fun current => touches_ensure.bind fun _ => ?_⟩⟩
  split
  · exact touches_deleteInstallationState.bind fun _ => touches_retokenInstallation
  · exact Touches.bind trivial fun _ => touches_retokenInstallation

lemma touches_deleteInstallation {command : DeletePushInstallationCommand} :
    (deleteInstallation hashtextextended command).Touches NotOutbox :=
  ⟨trivial, fun _ => touches_selectFor.bind fun _ => touches_ofOption.bind fun _ => touches_deleteInstallationState⟩

lemma touches_disableInvalidDestination {claim : PushDeliveryClaim} {destination : ExpoPushDestination} :
    (disableInvalidDestination claim destination).Touches NotOutbox := by
  refine touches_ensure.bind fun _ => touches_ensure.bind fun _ => Touches.bind ?_ fun topology => ?_
  · refine touches_select.bind fun row => ?_
    cases row with
    | none => trivial
    | some r =>
      dsimp only
      split <;> trivial
  · cases topology with
    | none => trivial
    | some topology =>
      refine Touches.bind (touches_selectFor.bind fun _ => trivial) fun exact_ => ?_
      cases exact_ with
      | false => trivial
      | true =>
        refine Touches.bind ⟨trivial, fun _ => (touches_change fun _ => trivial).bind fun _ => trivial⟩ fun done => ?_
        cases done with
        | false => trivial
        | true =>
          exact Touches.bind ((touches_change fun _ => trivial).bind fun _ => touches_ensure) fun _ => trivial

lemma upsert_ends {userId : Uuid} {installationId : String} {platform : PushPlatform} {token : String}
    {environment : PushEnvironment} {preview : Bool} {r : Except PushRepositoryError UpsertPushInstallationOutcome}
    (hw : l.writes = []) (hl : Coherent index l g) (hg : History (contract hashtextextended ticks) g)
    (h : Runs (contract hashtextextended ticks)
      (upsert hashtextextended userId installationId platform token environment preview) l g r l' g' L G) :
    match r with
    | .ok _ => Leaves hashtextextended ticks l' G ∧ OwnOutbox l'
    | .error e => ∀ operation, e ≠ .unavailable operation := by
  have hG := h.evolve.later.history hg
  unfold upsert at h
  cases r with
  | ok outcome =>
    obtain ⟨id, l₁, g₁, h₁, h₂⟩ := h.bind
    have hl₁ := h₁.fresh.1
    have hw₁ : l₁.writes = [] := by
      rw [hl₁]
      exact hw
    refine ⟨upsertInstallation_leaves hw₁ ?_ hG h₂, (ownOutbox_of_empty hw₁).of_touches h₂ touches_upsertInstallation⟩
    rw [hl₁]
    exact List.mem_cons_self
  | error e =>
    intro operation
    rcases h.bind_error with h₁ | ⟨id, l₁, g₁, h₁, h₂⟩
    · exact (Runs.not_op_error h₁).elim
    have hw₁ : l₁.writes = [] := by
      rw [h₁.fresh.1]
      exact hw
    exact upsertInstallation_error hw₁ (h₁.returns.evolve.coherent hl) (drawnInstallations.fresh hg h₁).2 hG h₂

lemma quiet_ok {job : Job} {outcome : Outcome} (h : Rows Quiet G L) (houtbox : OwnOutbox L) :
    Ok hashtextextended ticks ⟨job, outcome, L⟩ G := (Leaves.of_quiet h).ok houtbox

lemma mayFail_push {e : PushRepositoryError} (h : ∀ operation, e ≠ .unavailable operation) : MayFail (.push e) :=
  ⟨fun operation heq => h operation (Failure.push.inj heq), nofun⟩

lemma mayFail_deletion {e : AccountDeletionError} (h : e ≠ .databaseUnavailable) : MayFail (.deletion e) :=
  ⟨nofun, fun heq => h (Failure.deletion.inj heq)⟩

/-- A transaction that maps its errors and wraps its result ends as the call that it wraps. -/
lemma ends_of_call {ε α : Type} {p : Sql ε α} {fail : ε → Failure} {f : α → Outcome} {r : Except Failure Outcome}
    {job : Job} (h : Runs (contract hashtextextended ticks) (mapError fail p >>= fun a => ret (f a)) l g r L G L G)
    (hok : ∀ a g', Runs (contract hashtextextended ticks) p l g (.ok a) L g' L G →
      Ok hashtextextended ticks ⟨job, f a, L⟩ G)
    (herror : ∀ e g', Runs (contract hashtextextended ticks) p l g (.error e) L g' L G → MayFail (fail e)) :
    (contract hashtextextended ticks).Ends job r L G := by
  cases r with
  | ok out =>
    obtain ⟨a, l₁, g₁, h₁, h₂⟩ := h.bind
    obtain ⟨rfl, rfl⟩ := h₂.ret
    exact hok a g₁ h₁.mapError
  | error e =>
    rcases h.bind_error with h₁ | ⟨a, l₁, g₁, h₁, h₂⟩
    · obtain ⟨e', rfl, hrun⟩ := h₁.mapError_error
      exact herror e' G hrun
    · exact (Runs.not_ret_error h₂).elim

/-- Every transaction ends as the contract says. -/
lemma programs : (contract hashtextextended ticks).Programs := by
  intro job g hg r L G h
  have hrun : Runs (contract hashtextextended ticks) (program hashtextextended job) (Local.begin g) g r L G L G :=
    ⟨h, .refl⟩
  have hl : Coherent index (Local.begin g) g := hg.coherent_begin
  have hG : History (contract hashtextextended ticks) G := hrun.evolve.later.history hg
  have hown : OwnOutbox (Local.begin g) := ownOutbox_of_empty rfl
  cases job with
  | upsert userId installationId platform token environment preview =>
    refine ends_of_call hrun (fun outcome g' hcall => ?_) fun e g' hcall => mayFail_push (upsert_ends rfl hl hg hcall)
    obtain ⟨hleaves, hown⟩ := upsert_ends rfl hl hg hcall
    exact hleaves.ok hown
  | update userId installationId token preview =>
    refine ends_of_call hrun (fun record g' hcall => ?_) fun e g' hcall => mayFail_push fun operation =>
      updateInstallation_error rfl hl hG hcall
    exact (updateInstallation_leaves rfl hG hcall).ok (hown.of_touches hcall touches_updateInstallation)
  | delete userId installationId =>
    refine ends_of_call (f := fun _ => .deleted) hrun (fun _ g' hcall => ?_) fun e g' hcall => mayFail_push ?_
    · exact (deleteInstallation_leaves rfl hcall).ok (hown.of_touches hcall touches_deleteInstallation)
    · rw [deleteInstallation_error hl hcall]
      exact fun _ => nofun
  | disableDestination claim destination =>
    refine ends_of_call hrun (fun disabled g' hcall => ?_) fun e g' hcall => mayFail_push ?_
    · exact quiet_ok (keeps_disableInvalidDestination.rows hcall (rows_quiet_begin rfl))
        (hown.of_touches hcall touches_disableInvalidDestination)
    · rw [disableInvalidDestination_error hl hcall]
      exact fun _ => nofun
  | deleteAccount userId =>
    refine ends_of_call hrun (fun report g' hcall => ?_) fun e g' hcall =>
      mayFail_deletion (deleteAccountGrace_error hown hl hg hcall)
    exact quiet_ok (keeps_deleteAccountGrace.rows hcall (rows_quiet_begin rfl)) (deleteAccountGrace_own hown hcall)

end Programs

section Devices

/-- How a row of the installations may look later: its epoch has not gone back, and it has grown when the row is live with
another binding. -/
structure Follows (r r' : PushInstallation) : Prop where
  ownerEpoch : r.ownerEpoch ≤ r'.ownerEpoch
  live : r'.deletedAt = none → r.deletedAt = none
  rebound : r'.deletedAt = none → PushInstallation.binding r' ≠ PushInstallation.binding r → r.ownerEpoch < r'.ownerEpoch

lemma Follows.step {i : Uuid} {r r' : PushInstallation} {v : Option PushInstallation} (h : Follows r r')
    (hstep : InstallationStep hashtextextended l i (some r') v) : ∃ r'', v = some r'' ∧ Follows r r'' := by
  cases hstep with
  | same => exact ⟨r', rfl, h⟩
  | @kept _ r'' binding ownerEpoch deletedAt =>
    refine ⟨r'', rfl, ownerEpoch ▸ h.ownerEpoch, fun hlive => h.live (deletedAt ▸ hlive), fun hlive hne => ?_⟩
    rw [ownerEpoch]
    exact h.rebound (deletedAt ▸ hlive) (binding ▸ hne)
  | @rebound _ r'' ownerEpoch before after holds =>
    exact ⟨r'', rfl, Nat.le_of_lt (Nat.lt_of_le_of_lt h.ownerEpoch ownerEpoch), fun _ => h.live before,
      fun _ _ => Nat.lt_of_le_of_lt h.ownerEpoch ownerEpoch⟩
  | @deleted _ r'' ownerEpoch before after =>
    exact ⟨r'', rfl, ownerEpoch ▸ h.ownerEpoch, fun hlive => absurd hlive after, fun hlive => absurd hlive after⟩

lemma follows_of_history (hG : History (contract hashtextextended ticks) G) {n m : Nat} {i : Uuid}
    {r r' : PushInstallation} (hnm : n ≤ m) (hm : m ≤ G.csn) (hr : (G.version n).get (.pushInstallations i) = some r)
    (hr' : (G.version m).get (.pushInstallations i) = some r') : Follows r r' := by
  obtain ⟨r'', hr'', hfollows⟩ := hG.stable
    (P := fun s => ∃ r'', s.get (.pushInstallations i) = some r'' ∧ Follows r r'')
    (fun g₁ e _ hc ⟨r'', hr'', h⟩ => by
      have hstep := hc.ok.installations i
      rw [hr''] at hstep
      exact h.step hstep)
    hnm hm ⟨r, hr, Nat.le_refl _, id, fun _ hne => absurd rfl hne⟩
  rw [hr'] at hr''
  cases hr''
  exact hfollows

/-- After a rebind the occurrences of earlier epochs are closed, except those that a worker held at its time. -/
lemma leased_of_history (hG : History (contract hashtextextended ticks) G) {n m : Nat} {i j : Uuid}
    {r r' : PushInstallation} {o : PushDeliveryIntent} (hnm : n < m) (hm : m ≤ G.csn)
    (hr : (G.version n).get (.pushInstallations i) = some r)
    (hr' : (G.version (n + 1)).get (.pushInstallations i) = some r') (hlive : r'.deletedAt = none)
    (hne : PushInstallation.binding r' ≠ PushInstallation.binding r)
    (ho : (G.version m).get (.pushDeliveryIntents j) = some o) (hprior : PushDeliveryIntent.prior i r'.ownerEpoch o) :
    Leased ticks r'.lastSeenAt o := by
  have hn : n + 1 ≤ G.csn := Nat.le_trans hnm hm
  have hepoch := (follows_of_history hG (Nat.le_succ n) hn hr hr').rebound hlive hne
  have ho' := occurrence_of_later hG hnm hm (not_closed_of_prior hprior) ho
  have he : G.log[n]? = some (G.log.get ⟨n, hn⟩) := List.getElem?_eq_getElem hn
  obtain ⟨g₁, -, rfl, hc, hlater⟩ := hG.entry he
  obtain ⟨hbefore, hafter⟩ := hlater.version_commit
  rw [hbefore] at hr
  rw [hafter] at hr' ho'
  exact hc.ok.rebound i r r' hr hr' hepoch j o ho' hprior

lemma sound_of_reachable {s : State} (h : (system hashtextextended ticks).Reachable Starts s) :
    Sound (contract hashtextextended ticks) s :=
  reachable_sound (fun _ _ _ _ _ _ _ => ⟨trivial, fun _ _ => trivial⟩) programs h

/-- In every version that registrations, changes, deletions, disabled destinations and deleted accounts commit in any
interleaving, live rows differ in their installation ids and in their destinations. The epoch of a row never goes back; it
grows whenever the row gets another owner or another device and stays live, and no occurrence of an earlier epoch is open
after that but those whose lease ran on. No call fails in a unique index. -/
theorem devices_consistent {s : State} (hs : (system hashtextextended ticks).Reachable Starts s) :
    (∀ n, n ≤ s.shared.csn → ∀ i j r r', (s.shared.version n).get (.pushInstallations i) = some r →
      (s.shared.version n).get (.pushInstallations j) = some r' → r.deletedAt = none → r'.deletedAt = none →
      (r'.installationId = r.installationId ∨ r'.environment = r.environment ∧ r'.token = r.token) → i = j) ∧
    (∀ n m, n ≤ m → m ≤ s.shared.csn → ∀ i r r', (s.shared.version n).get (.pushInstallations i) = some r →
      (s.shared.version m).get (.pushInstallations i) = some r' → r.ownerEpoch ≤ r'.ownerEpoch ∧
        (r'.deletedAt = none → PushInstallation.binding r' ≠ PushInstallation.binding r →
          r.ownerEpoch < r'.ownerEpoch)) ∧
    (∀ n m, n < m → m ≤ s.shared.csn → ∀ i r r', (s.shared.version n).get (.pushInstallations i) = some r →
      (s.shared.version (n + 1)).get (.pushInstallations i) = some r' → r'.deletedAt = none →
      PushInstallation.binding r' ≠ PushInstallation.binding r →
      ∀ j o, (s.shared.version m).get (.pushDeliveryIntents j) = some o →
        PushDeliveryIntent.prior i r'.ownerEpoch o → Leased ticks r'.lastSeenAt o) ∧
    ∀ t ∈ s.txs, ∀ e, t.prog = .fail e → MayFail e := by
  have hsound := sound_of_reachable hs
  have hg := hsound.history
  refine ⟨?_, ?_, ?_, ?_⟩
  · intro n hn i j r r' hr hr' hlive hlive' hkey
    obtain ⟨g₁, hg₁, -, hdb, -⟩ := hg.version hn
    rw [← hdb] at hr hr'
    exact eq_of_shared_key hg₁.unique hr hr' hlive hlive' hkey
  · intro n m hnm hm i r r' hr hr'
    have hfollows := follows_of_history hg hnm hm hr hr'
    exact ⟨hfollows.ownerEpoch, hfollows.rebound⟩
  · intro n m hnm hm i r r' hr hr' hlive hne j o ho hprior
    exact leased_of_history hg hnm hm hr hr' hlive hne ho hprior
  · exact fun t ht e hp => hsound.fails ht hp

end Devices

section Sample

abbrev sampleSystem := system String.length fun t t' => decide (t ≤ t')

def sampleDevice : PushInstallation where
  userId := 1
  installationId := "device"
  platform := .ios
  token := "token"
  environment := .production
  lastSeenAt := 0

def sampleOccurrence : PushDeliveryIntent where
  notificationId := none
  sourceEventId := none
  sourceMessageId := none
  recipientUserId := 1
  pushInstallationId := 10
  installationOwnerEpoch := 1
  messagePreviewEnabledSnapshot := false
  payload := .empty
  createdAt := 0

/-- Two users, and a device of the first one for which an occurrence waits. -/
def sampleDevices : Store Row :=
  (((Store.empty.set ⟨.users 1, some { nickname := "first" }⟩).set ⟨.users 2, some { nickname := "second" }⟩).set
    ⟨.pushInstallations 10, some sampleDevice⟩).set ⟨.pushDeliveryIntents 20, some sampleOccurrence⟩

lemma starts_sampleDevices : Starts ⟨sampleDevices, [], 0, 0, [10]⟩ where
  log := rfl
  unique := unique_of_keys (by decide)
  installations i hi := by
    have hmem := sampleDevices.complete _ hi
    have hkeys : ∀ k ∈ sampleDevices.keys, k = .pushInstallations 10 ∨ ∀ j, k ≠ .pushInstallations j := by
      intro k hk
      have hcases : k ∈ [Key.pushDeliveryIntents 20, .pushInstallations 10, .users 2, .users 1] := hk
      simp only [List.mem_cons, List.not_mem_nil, or_false] at hcases
      rcases hcases with rfl | rfl | rfl | rfl
      · exact .inr fun _ => nofun
      · exact .inl rfl
      · exact .inr fun _ => nofun
      · exact .inr fun _ => nofun
    rcases hkeys _ hmem with heq | hne
    · cases heq
      exact List.mem_cons_self
    · exact absurd rfl (hne i)
  outbox i hi := absurd rfl hi

/-- The second user registers the device with a new token and deletes it then. -/
def deviceSchedule : List (Label Job) := Label.serial 1 [
  (.upsert 2 "device" .ios "other" .production true, 11, 19),
  (.delete 2 "device", 50, 15)]

/-- What a store says of the device: its binding, its epoch and whether its row is live. -/
def deviceSummary (s : Store Row) : Option (Binding × Nat × Bool) :=
  (s.get (.pushInstallations 10)).map fun r => (PushInstallation.binding r, r.ownerEpoch, r.deletedAt.isNone)

def sampleBinding (userId : Uuid) (installationId token : String) : Binding :=
  ⟨userId, installationId, .ios, .expo, token, .production⟩

lemma run_deviceSchedule : ∃ s : State, sampleSystem.Reachable Starts s ∧ s.shared.csn = 2 ∧
    deviceSummary (s.shared.version 0) = some (sampleBinding 1 "device" "token", 1, true) ∧
    deviceSummary (s.shared.version 1) = some (sampleBinding 2 "device" "other", 2, true) ∧
    deviceSummary (s.shared.version 2) = some (sampleBinding 2 ("deleted-" ++ uuidText 10) ("deleted-" ++ uuidText 10), 2, false) := by
  have hrun : (sampleSystem.run ⟨⟨sampleDevices, [], 0, 0, [10]⟩, []⟩ deviceSchedule).map (fun s =>
      (s.shared.csn, [0, 1, 2].map fun n => deviceSummary (s.shared.version n))) =
      some (2, [some (sampleBinding 1 "device" "token", 1, true), some (sampleBinding 2 "device" "other", 2, true),
        some (sampleBinding 2 ("deleted-" ++ uuidText 10) ("deleted-" ++ uuidText 10), 2, false)]) := by
    decide
  obtain ⟨s, hs, hsummary⟩ := Option.map_eq_some_iff.mp hrun
  simp only [Prod.mk.injEq, List.map_cons, List.map_nil, List.cons.injEq, and_true] at hsummary
  exact ⟨s, System.reachable_of_run _ starts_sampleDevices hs, hsummary⟩

/-- A deletion takes the installation id and the token of the row away and leaves its epoch. -/
theorem deletion_keeps_ownerEpoch : ¬ ∀ s : State, sampleSystem.Reachable Starts s → ∀ n m, n ≤ m → m ≤ s.shared.csn →
    ∀ i r r', (s.shared.version n).get (.pushInstallations i) = some r →
      (s.shared.version m).get (.pushInstallations i) = some r' →
      PushInstallation.binding r' ≠ PushInstallation.binding r → r.ownerEpoch < r'.ownerEpoch := by
  intro hclaim
  obtain ⟨s, hreach, hcsn, -, hbefore, hafter⟩ := run_deviceSchedule
  obtain ⟨r, hr, hsummary⟩ := Option.map_eq_some_iff.mp hbefore
  obtain ⟨r', hr', hsummary'⟩ := Option.map_eq_some_iff.mp hafter
  simp only [Prod.mk.injEq] at hsummary hsummary'
  have hlt := hclaim s hreach 1 2 (by decide) (Nat.le_of_eq hcsn.symm) 10 r r' hr hr' (by
    rw [hsummary.1, hsummary'.1]
    decide)
  rw [hsummary.2.1, hsummary'.2.1] at hlt
  exact absurd hlt (by decide)

theorem devices_consistent_in_schedule : ∃ s : State, sampleSystem.Reachable Starts s ∧
    ∃ r r', (s.shared.version 0).get (.pushInstallations 10) = some r ∧
      (s.shared.version 1).get (.pushInstallations 10) = some r' ∧ r.ownerEpoch < r'.ownerEpoch ∧
      ∀ j o, (s.shared.version 2).get (.pushDeliveryIntents j) = some o →
        PushDeliveryIntent.prior 10 r'.ownerEpoch o → o.status = .claimed := by
  obtain ⟨s, hreach, hcsn, hbefore, hafter, -⟩ := run_deviceSchedule
  obtain ⟨r, hr, hsummary⟩ := Option.map_eq_some_iff.mp hbefore
  obtain ⟨r', hr', hsummary'⟩ := Option.map_eq_some_iff.mp hafter
  simp only [Prod.mk.injEq] at hsummary hsummary'
  have hlive : r'.deletedAt = none := Option.isNone_iff_eq_none.mp hsummary'.2.2
  have hne : PushInstallation.binding r' ≠ PushInstallation.binding r := by
    rw [hsummary.1, hsummary'.1]
    decide
  obtain ⟨-, hepoch, hleased, -⟩ := devices_consistent hreach
  refine ⟨s, hreach, r, r', hr, hr', (hepoch 0 1 (by decide) (by omega) 10 r r' hr hr').2 hlive hne, ?_⟩
  exact fun j o ho hprior => (hleased 0 2 (by decide) (by omega) 10 r r' hr hr' hlive hne j o ho hprior).claimed

end Sample

end JamyeServer.Installations
