import JamyeServer.Installations.System
import JamyeServer.ReadCommitted.Locked

/-!
# The statements on installations

What each statement finds and leaves, while the transactions of other devices commit.
-/

namespace JamyeServer.Installations

open ReadCommitted Postgres Push Prog

variable {hashtextextended : String → Nat} {ticks : Time → Time → Bool} {l l' L : Local} {g g' G : Shared}

section Entries

lemma index_eq_nil_of_deleted {i : Uuid} {r : PushInstallation} (h : r.deletedAt ≠ none) :
    index (.pushInstallations i) r = [] := by
  cases hd : r.deletedAt with
  | none => exact absurd hd h
  | some t => simp [index, indexedIf, hd]

lemma mem_index_installation (i : Uuid) {r : PushInstallation} {x : Idx} : x ∈ index (.pushInstallations i) r ↔
    r.deletedAt = none ∧ (x = .installation r.installationId ∨ x = .destination r.environment r.token) := by
  simp [index, mem_indexedIf]

lemma coalesce_ne_none {v : Option Time} {t : Time} : coalesce v t ≠ none := by
  cases v <;> simp [coalesce]

lemma index_disable_subset (i : Uuid) (t : Time) (r : PushInstallation) :
    index (.pushInstallations i) (AccountDeletion.PushInstallation.disable i t r) ⊆ index (.pushInstallations i) r := by
  rw [index_eq_nil_of_deleted (r := AccountDeletion.PushInstallation.disable i t r) coalesce_ne_none]
  exact List.nil_subset _

lemma index_eq_nil_of_withdrawn {j : Uuid} {r : PushDeliveryIntent} (h : r.deletedAt ≠ none) :
    index (.pushDeliveryIntents j) r = [] := by
  cases hd : r.deletedAt with
  | none => exact absurd hd h
  | some t => simp [index, indexedIf, hd]

lemma withdraw_deletedAt {t : Time} {r : PushDeliveryIntent} : (PushDeliveryIntent.withdraw t r).deletedAt ≠ none := by
  unfold PushDeliveryIntent.withdraw
  cases r.status.unfinished <;> exact coalesce_ne_none

lemma index_withdraw_subset (j : Uuid) {t : Time} {r : PushDeliveryIntent} :
    index (.pushDeliveryIntents j) (PushDeliveryIntent.withdraw t r) ⊆ index (.pushDeliveryIntents j) r := by
  rw [index_eq_nil_of_withdrawn withdraw_deletedAt]
  exact List.nil_subset _

/-- An index entry of a device belongs to a live row with its key. -/
lemma installation_of_entry {s : Store Row} {k : Key} {x : Idx} {r : PushInstallation}
    (hx : x = .installation r.installationId ∨ x = .destination r.environment r.token)
    (h : x ∈ entries index k (s.get k)) : ∃ j r', k = .pushInstallations j ∧ s.get (.pushInstallations j) = some r' ∧
      r'.deletedAt = none ∧
      (r'.installationId = r.installationId ∨ r'.environment = r.environment ∧ r'.token = r.token) := by
  have hk : ∃ j, k = .pushInstallations j := by
    have hof := isOf_of_mem_entries h
    rcases hx with rfl | rfl <;> exact hof
  obtain ⟨j, rfl⟩ := hk
  cases hrow : s.get (.pushInstallations j) with
  | none =>
    rw [hrow] at h
    cases h
  | some r' =>
    rw [hrow] at h
    obtain ⟨hlive, hx'⟩ := (mem_index_installation j).mp h
    refine ⟨j, r', rfl, hrow, hlive, ?_⟩
    rcases hx with rfl | rfl
    · rcases hx' with hx' | hx'
      · exact .inl (Idx.installation.inj hx').symm
      · cases hx'
    · rcases hx' with hx' | hx'
      · cases hx'
      · obtain ⟨he, ht⟩ := Idx.destination.inj hx'
        exact .inr ⟨he.symm, ht.symm⟩

/-- Two live rows do not share an installation id or a destination. -/
lemma eq_of_shared_key {s : Store Row} (hs : Unique index s) {i j : Uuid} {r r' : PushInstallation}
    (hr : s.get (.pushInstallations i) = some r) (hr' : s.get (.pushInstallations j) = some r')
    (hlive : r.deletedAt = none) (hlive' : r'.deletedAt = none)
    (h : r'.installationId = r.installationId ∨ r'.environment = r.environment ∧ r'.token = r.token) : i = j := by
  have hmem : ∀ x, (x = .installation r.installationId ∨ x = .destination r.environment r.token) →
      x ∈ entries index (.pushInstallations i) (s.get (.pushInstallations i)) := by
    intro x hx
    rw [hr]
    exact (mem_index_installation i).mpr ⟨hlive, hx⟩
  have hmem' : ∀ x, (x = .installation r'.installationId ∨ x = .destination r'.environment r'.token) →
      x ∈ entries index (.pushInstallations j) (s.get (.pushInstallations j)) := by
    intro x hx
    rw [hr']
    exact (mem_index_installation j).mpr ⟨hlive', hx⟩
  rcases h with h | ⟨he, ht⟩
  · exact Key.pushInstallations.inj (hs _ _ (.installation r.installationId) (hmem _ (.inl rfl)) (hmem' _ (.inl (h ▸ rfl))))
  · exact Key.pushInstallations.inj (hs _ _ (.destination r.environment r.token) (hmem _ (.inr rfl))
      (hmem' _ (.inr (by rw [he, ht]))))

end Entries

section Occurrences

/-- Occurrences are closed, and not added. -/
def Closes : (k : Key) → Option (Row k) → Option (Row k) → Prop
  | .pushDeliveryIntents _, base, v => OccurrenceStep base v
  | _, _, _ => True

lemma OccurrenceStep.close {base : Option PushDeliveryIntent} {r r' : PushDeliveryIntent}
    (h : OccurrenceStep base (some r)) (hr' : Closed r') : OccurrenceStep base (some r') := by
  cases h with
  | same => exact .closed hr'
  | closed => exact .closed hr'

/-- A row that is open in the transaction's view is the database's. -/
lemma OccurrenceStep.eq_of_open {base : Option PushDeliveryIntent} {r : PushDeliveryIntent}
    (h : OccurrenceStep base (some r)) (hr : ¬ Closed r) : base = some r := by
  cases h with
  | same => rfl
  | closed closed => exact absurd closed hr

lemma not_closed_of_prior {i : Uuid} {ownerEpoch : Nat} {o : PushDeliveryIntent}
    (h : PushDeliveryIntent.prior i ownerEpoch o) : ¬ Closed o := by
  simp only [PushDeliveryIntent.prior, Bool.and_eq_true] at h
  rintro (hdeleted | hfinished)
  · exact hdeleted (Option.isNone_iff_eq_none.mp h.1.2)
  · rw [hfinished] at h
    cases h.2

lemma rows_closes_begin (hw : l.writes = []) : Rows Closes G l := by
  refine rows_of_empty hw fun k => ?_
  cases k <;> first | exact .same _ | trivial

lemma keeps_terminalizePriorOccurrences {C : Contract (system hashtextextended ticks)} {i : Uuid} {ownerEpoch : Nat} :
    (terminalizePriorOccurrences i ownerEpoch).Keeps C Closes := by
  refine Keeps.bind (keeps_update fun s j base t r r' a hr hf => ?_) fun _ => keeps_ret
  split at hf
  · cases hf
    exact OccurrenceStep.close hr (.inr rfl)
  · cases hf

lemma keeps_deleteInstallationState {C : Contract (system hashtextextended ticks)} {i : Uuid} :
    (deleteInstallationState i).Keeps C Closes := by
  refine keeps_clock.bind fun now => Keeps.bind (keeps_update fun s j base t r r' a hr hf => ?_) fun _ =>
    (keeps_update fun _ _ _ _ _ _ _ _ _ => trivial).bind fun _ => keeps_ensure
  split at hf
  · cases hf
    exact OccurrenceStep.close hr (.inl withdraw_deletedAt)
  · cases hf

lemma unleased_mono {t t' : Time} {o : PushDeliveryIntent} (h : t ≤ t') (ho : PushDeliveryIntent.unleased t o) :
    PushDeliveryIntent.unleased t' o := by
  simp only [PushDeliveryIntent.unleased, Bool.or_eq_true, Bool.and_eq_true, Option.any_eq_true, decide_eq_true_eq] at ho ⊢
  rcases ho with ho | ⟨hs, expiry, he, hle⟩
  · exact .inl ho
  · exact .inr ⟨hs, expiry, he, Nat.le_trans hle h⟩

lemma claimed_of_prior {i : Uuid} {ownerEpoch : Nat} {t : Time} {o : PushDeliveryIntent}
    (hprior : PushDeliveryIntent.prior i ownerEpoch o) (ho : PushDeliveryIntent.unleased t o = false) :
    o.status = .claimed := by
  simp only [PushDeliveryIntent.prior, Bool.and_eq_true] at hprior
  have hunfinished := hprior.2
  cases hs : o.status <;> simp_all [DeliveryStatus.unfinished, PushDeliveryIntent.unleased]

lemma Leased.of_prior {i : Uuid} {ownerEpoch : Nat} {t₀ t : Time} {o : PushDeliveryIntent}
    (hprior : PushDeliveryIntent.prior i ownerEpoch o) (ho : PushDeliveryIntent.unleased t o = false)
    (ht : (∀ t t', ticks t t' → t ≤ t') → t₀ ≤ t) : Leased ticks t₀ o where
  claimed := claimed_of_prior hprior ho
  lease hticks expiry hexpiry := by
    by_contra hle
    have hearly : PushDeliveryIntent.unleased t₀ o := by
      simp [PushDeliveryIntent.unleased, claimed_of_prior hprior ho, hexpiry, Nat.le_of_not_lt hle]
    rw [unleased_mono (ht hticks) hearly] at ho
    cases ho

/-- Of the occurrences of earlier epochs only those stay open whose lease has not run out when the statement visits them. -/
lemma terminalizePriorOccurrences_ok {i : Uuid} {ownerEpoch : Nat}
    (h : Runs (contract hashtextextended ticks) (terminalizePriorOccurrences i ownerEpoch) l g (.ok ()) l' g' L G)
    (hG : History (contract hashtextextended ticks) G) (hrows : Rows Closes G l) {j : Uuid} {o : PushDeliveryIntent}
    (ho : (G.db.apply l'.writes).get (.pushDeliveryIntents j) = some o)
    (hprior : PushDeliveryIntent.prior i ownerEpoch o) :
    ∃ t, Clocked (contract hashtextextended ticks) g g' t ∧ PushDeliveryIntent.unleased t o = false := by
  unfold terminalizePriorOccurrences at h
  obtain ⟨as, l₁, g₁, h₁, h₂⟩ := h.bind
  obtain ⟨-, rfl⟩ := h₂.ret
  obtain ⟨gs, ws, hgs, hgs', hch⟩ := h₁.update fun s => s.nodup_ids ..
  have hg₁ : Later (contract hashtextextended ticks) g₁ g' := h₂.returns.evolve.later
  have hrebound : ∀ t, ¬ PushDeliveryIntent.prior i ownerEpoch (PushDeliveryIntent.rebind t o) := fun t hp =>
    not_closed_of_prior hp (.inr rfl)
  have hunwritten : (G.db.apply l.writes).get (.pushDeliveryIntents j) = some o := by
    rcases hch.row j with hsame | ⟨j', -, hj', t, r, v, a, -, -, hf, hv⟩
    · exact hsame.symm.trans ho
    · obtain ⟨⟨r', b⟩, hf', heq⟩ := Option.map_eq_some_iff.mp hf
      cases heq
      cases hj'
      rw [ho] at hv
      cases hv
      split at hf'
      · cases hf'
        exact absurd (.inr rfl) (not_closed_of_prior hprior)
      · cases hf'
  have hbase : G.db.get (.pushDeliveryIntents j) = some o := by
    have hstep : OccurrenceStep _ _ := hrows (.pushDeliveryIntents j)
    rw [hunwritten] at hstep
    exact hstep.eq_of_open (not_closed_of_prior hprior)
  -- the occurrence has been in every version, so the statement finds and visits it
  have hseen : ∀ n, n ≤ G.csn → ((G.version n).apply l.writes).get (.pushDeliveryIntents j) = some o := by
    intro n hn
    have hold := occurrence_of_later hG hn (Nat.le_refl _) (not_closed_of_prior hprior) hbase
    rw [Store.get_apply_congr (hold.trans hbase.symm)]
    exact hunwritten
  have hcsn : gs.csn ≤ G.csn := (hgs'.trans h₁.rest.later).csn_le
  rcases hch.get (Store.mem_ids.mpr ⟨o, hseen _ hcsn, hprior⟩) with ⟨n, -, hn', hmiss⟩ | ⟨t, r, ht, -, hget, hafter⟩
  · have hsome := hseen n (Nat.le_trans hn' h₁.rest.later.csn_le)
    rw [hmiss] at hsome
    cases hsome
  · obtain rfl : r = o := Option.some.inj (hget.symm.trans hunwritten)
    refine ⟨t, ht.mono hgs hg₁, ?_⟩
    by_contra hleased
    rw [Bool.not_eq_false] at hleased
    simp only [hprior, hleased, Bool.and_true, if_true, Option.map_some, Option.getD_some] at hafter
    rw [ho] at hafter
    exact hrebound t (Option.some.inj hafter ▸ hprior)

lemma terminalizePriorOccurrences_not_error {C : Contract (system hashtextextended ticks)} {i : Uuid} {ownerEpoch : Nat}
    {e : PushRepositoryError} (hl : Coherent index l g) :
    ¬ Runs C (terminalizePriorOccurrences i ownerEpoch) l g (.error e) l' g' L G := by
  intro h
  rcases h.bind_error with h₁ | ⟨as, l₁, g₁, h₁, h₂⟩
  · refine Runs.update_not_error hl (fun s => s.nodup_ids ..) (fun s j t r r' a hf => ?_) h₁
    split at hf
    · cases hf
      exact List.Subset.refl _
    · cases hf
  · exact Runs.not_ret_error h₂

end Occurrences

section Epoch

lemma nextOwnerEpoch_ok {C : Contract (system hashtextextended ticks)} {current ownerEpoch : Nat} {changed : Bool}
    (h : Runs C (nextOwnerEpoch current changed) l g (.ok ownerEpoch) l' g' L G) :
    l' = l ∧ ownerEpoch = if changed then current + 1 else current := by
  unfold nextOwnerEpoch at h
  split at h
  · exact (Runs.not_fail h).elim
  split at h
  · rename_i hchanged
    split at h
    · obtain ⟨rfl, rfl⟩ := h.ret
      exact ⟨rfl, by rw [if_pos hchanged]⟩
    · exact (Runs.not_fail h).elim
  · rename_i hchanged
    obtain ⟨rfl, rfl⟩ := h.ret
    exact ⟨rfl, by rw [if_neg hchanged]⟩

lemma failsIn_nextOwnerEpoch {current : Nat} {changed : Bool} :
    (nextOwnerEpoch current changed).FailsIn fun e => e = .invalidData := by
  unfold nextOwnerEpoch
  split
  · exact rfl
  split
  · split
    · trivial
    · exact rfl
  · trivial

lemma installationFromRow_ok {C : Contract (system hashtextextended ticks)} {i : Uuid} {r : PushInstallation}
    {record : PushInstallationRecord} (h : Runs C (installationFromRow i r) l g (.ok record) l' g' L G) : l' = l := by
  unfold installationFromRow at h
  obtain ⟨ownerEpoch, l₁, g₁, h₁, h₂⟩ := h.bind
  rw [h₂.ret.2, (nextOwnerEpoch_ok h₁).1]

lemma failsIn_installationFromRow {i : Uuid} {r : PushInstallation} :
    (installationFromRow i r).FailsIn fun e => e = .invalidData :=
  failsIn_nextOwnerEpoch.bind fun _ => trivial

end Epoch

section Matching

lemma requireLiveAccount_ok {C : Contract (system hashtextextended ticks)} {userId : Uuid}
    (h : Runs C (requireLiveAccount userId) l g (.ok ()) l' g' L G) :
    l'.writes = l.writes ∧ l'.advisory = l.advisory ∧ (.users userId, .share) ∈ l'.locks ∧
      (G.db.apply l.writes).get (.users userId) ≠ none := by
  unfold requireLiveAccount at h
  obtain ⟨found, l₁, g₁, h₁, h₂⟩ := h.bind
  obtain ⟨hfound, rfl⟩ := h₂.ensure
  obtain ⟨gs, -, -, hlocked⟩ := h₁.selectFor nofun
  obtain ⟨a, ha⟩ := List.exists_mem_of_ne_nil _ hfound
  obtain ⟨i, hi, t, u, -, hlock, hget, -⟩ := hlocked.mem a ha
  obtain ⟨rfl, -⟩ := Store.mem_one.mp hi
  refine ⟨by rw [hlocked.frame], by rw [hlocked.frame], hlock, ?_⟩
  rw [hget]
  exact nofun

lemma requireLiveAccount_error {C : Contract (system hashtextextended ticks)} {userId : Uuid} {e : PushRepositoryError}
    (h : Runs C (requireLiveAccount userId) l g (.error e) l' g' L G) : e = .accountNotFound :=
  h.failsIn (P := fun e => e = .accountNotFound) (failsIn_selectFor.bind fun _ => failsIn_ensure rfl)

/-- What the rows that a transaction has locked say: they are live and match, and no other live row does from then on. -/
structure Matched (hashtextextended : String → Nat) (p : Store Row → PushInstallation → Bool)
    (rows : List (Uuid × PushInstallation)) (s : Store Row) (l : Local) (g G : Shared) : Prop where
  locked : ∀ i r, (i, r) ∈ rows → (.pushInstallations i, .update) ∈ l.locks ∧
    G.db.get (.pushInstallations i) = some r ∧ r.deletedAt = none ∧ p s r
  complete : ∀ n i r, g.csn ≤ n → n ≤ G.csn → (G.version n).get (.pushInstallations i) = some r → r.deletedAt = none →
    p s r → (identityKey hashtextextended r.installationId ∈ l.advisory ∨
      destinationKey hashtextextended r.token ∈ l.advisory) → (i, r) ∈ rows

lemma Matched.later {p : Store Row → PushInstallation → Bool} {rows : List (Uuid × PushInstallation)} {s : Store Row}
    (h : Matched hashtextextended p rows s l g G) (hg : Later (contract hashtextextended ticks) g g') :
    Matched hashtextextended p rows s l g' G :=
  { h with complete := fun n i r hn => h.complete n i r (Nat.le_trans hg.csn_le hn) }

lemma lockMatching_ok {p : Store Row → PushInstallation → Bool} {rows : List (Uuid × PushInstallation)}
    (h : Runs (contract hashtextextended ticks) (lockMatching p) l g (.ok rows) l' g' L G)
    (hG : History (contract hashtextextended ticks) G) (hw : l.writes = [])
    (hp : ∀ s r r', PushInstallation.binding r = PushInstallation.binding r' → p s r = p s r') :
    l'.writes = [] ∧ l'.advisory = l.advisory ∧ ∃ n, g.csn ≤ n ∧ n ≤ G.csn ∧
      Matched hashtextextended p rows (G.version n) l' g' G := by
  obtain ⟨gs, hgs, hgs', hlocked⟩ := h.selectFor nofun
  have hadvisory : l'.advisory = l.advisory := by rw [hlocked.frame]
  have hcsn : gs.csn ≤ G.csn := (hgs'.trans h.rest.later).csn_le
  refine ⟨by rw [hlocked.frame]; exact hw, hadvisory, gs.csn, hgs.csn_le, hcsn, fun i r hr => ?_,
    fun n i r hn hn' hr hlive hmatch hkey => ?_⟩
  · obtain ⟨j, -, t, r', -, hlock, hget, hf⟩ := hlocked.mem _ hr
    rw [hw, Store.apply_nil] at hf hget
    split at hf
    · rename_i hcond
      cases hf
      rw [Bool.and_eq_true] at hcond
      exact ⟨hlock, hget, Option.isNone_iff_eq_none.mp hcond.1, hcond.2⟩
    · cases hf
  · rw [hadvisory] at hkey
    obtain ⟨r₀, hr₀, hlive₀, hbinding, -⟩ := isBound_of_later h.evolve hkey hgs.csn_le
      (Nat.le_trans hgs'.csn_le hn) hn' ⟨r, hr, hlive, rfl, rfl⟩
    have hfound : i ∈ sortIds ((G.version gs.csn).ids Tables.pushInstallations fun _ r =>
        r.deletedAt.isNone && p (G.version gs.csn) r) := by
      refine (List.perm_insertionSort _ _).mem_iff.mpr (Store.mem_ids.mpr ⟨r₀, hr₀, ?_⟩)
      rw [hlive₀, hp _ _ _ hbinding, hmatch]
      rfl
    have heach := hlocked.each i (by rw [hw, Store.apply_nil]; exact hfound)
    rcases heach with ⟨m, hm, hm', hmiss⟩ | ⟨t, r₁, -, hlock, hget, hin⟩
    · rw [hw, Store.apply_nil] at hmiss
      refine absurd hmiss (installation_stays hG hm (Nat.le_trans hm' h.rest.later.csn_le) ?_)
      rw [hr₀]
      exact nofun
    · rw [hw, Store.apply_nil] at hget hin
      -- the row is locked, so its latest version is the one at hand
      have hsame : G.db.get (.pushInstallations i) = some r := by
        rw [h.rest.db_locked hlock nofun, ← h.rest.version_locked hlock nofun hn hn']
        exact hr
      obtain rfl : r₁ = r := Option.some.inj (hget.symm.trans hsame)
      refine hin (i, r₁) ?_
      rw [hlive, hmatch]
      rfl

end Matching

section Writes

/-- The transaction has not written the row. -/
def Unwritten (l : Local) (i : Uuid) : Prop :=
  ∀ s : Store Row, (s.apply l.writes).get (.pushInstallations i) = s.get (.pushInstallations i)

/-- The row is locked and not written yet: the transaction sees it in every version from now on. -/
lemma locked_row {C : Contract (system hashtextextended ticks)} {i : Uuid} {r : PushInstallation} (hev : Evolve C l g L G)
    (hlock : (.pushInstallations i, .update) ∈ l.locks)
    (hunwritten : Unwritten l i)
    (hr : G.db.get (.pushInstallations i) = some r) (n : Nat) (hn : g.csn ≤ n) (hn' : n ≤ G.csn) :
    ((G.version n).apply l.writes).get (.pushInstallations i) = some r := by
  rw [hunwritten, hev.version_locked hlock nofun hn hn', ← hev.db_locked hlock nofun]
  exact hr

/-- The transaction has deleted the row. -/
def GivenUp (G : Shared) (l : Local) (i : Uuid) : Prop :=
  ∃ b r, G.db.get (.pushInstallations i) = some b ∧ b.deletedAt = none ∧ r.deletedAt ≠ none ∧
    r.ownerEpoch = b.ownerEpoch ∧ ∀ s : Store Row, (s.apply l.writes).get (.pushInstallations i) = some r

/-- Of the installations only this one is written. -/
def SameOthers (i : Uuid) (l l' : Local) : Prop :=
  ∀ (s : Store Row) j, j ≠ i →
    (s.apply l'.writes).get (.pushInstallations j) = (s.apply l.writes).get (.pushInstallations j)

lemma deleteInstallationState_ok {C : Contract (system hashtextextended ticks)} {i : Uuid} {r : PushInstallation}
    (h : Runs C (deleteInstallationState i) l g (.ok ()) l' g' L G) (hlock : (.pushInstallations i, .update) ∈ l.locks)
    (hunwritten : Unwritten l i)
    (hr : G.db.get (.pushInstallations i) = some r) (hlive : r.deletedAt = none) :
    GivenUp G l' i ∧ SameOthers i l l' := by
  unfold deleteInstallationState at h
  obtain ⟨now, l₁, g₁, h₁, r₁⟩ := h.bind
  obtain ⟨rfl, -⟩ := h₁.clock
  obtain ⟨as, l₂, g₂, h₂, r₂⟩ := r₁.bind
  obtain ⟨bs, l₃, g₃, h₃, h₄⟩ := r₂.bind
  obtain ⟨-, rfl⟩ := h₄.ensure
  obtain ⟨gs, ws, -, -, hch⟩ := h₂.update fun s => s.nodup_ids ..
  have hframe : ∀ (s : Store Row) j,
      (s.apply l₂.writes).get (.pushInstallations j) = (s.apply l₁.writes).get (.pushInstallations j) :=
    fun s j => hch.get_of_ne s fun _ _ => nofun
  have hlock₂ := h₂.returns.evolve.locks hlock
  obtain ⟨s, t, v, a, -, hf, hafter, -, -, hothers⟩ := h₃.update_one_at
    (locked_row h₃.evolve hlock₂ (fun s => (hframe s i).trans (hunwritten s)) hr) (by rw [hlive]; rfl)
    (fun s t => by rw [if_pos hlive]; exact nofun)
  rw [if_pos hlive] at hf
  cases hf
  refine ⟨⟨r, AccountDeletion.PushInstallation.disable i t r, hr, hlive, coalesce_ne_none, rfl, hafter⟩,
    fun s j hj => (hothers s _ fun heq => hj ?_).trans (hframe s j)⟩
  cases heq
  rfl

lemma deleteInstallationState_error {C : Contract (system hashtextextended ticks)} {i : Uuid} {e : PushRepositoryError}
    (h : Runs C (deleteInstallationState i) l g (.error e) l' g' L G) (hl : Coherent index l g) :
    e = .installationNotFound := by
  unfold deleteInstallationState at h
  rcases h.bind_error with h₁ | ⟨now, l₁, g₁, h₁, r₁⟩
  · exact (Runs.not_op_error h₁).elim
  have hl₁ := h₁.returns.evolve.coherent hl
  rcases r₁.bind_error with h₂ | ⟨as, l₂, g₂, h₂, r₂⟩
  · refine (Runs.update_not_error hl₁ (fun s => s.nodup_ids ..) (fun s j t r r' a hf => ?_) h₂).elim
    split at hf
    · cases hf
      exact index_withdraw_subset j
    · cases hf
  have hl₂ := h₂.returns.evolve.coherent hl₁
  rcases r₂.bind_error with h₃ | ⟨bs, l₃, g₃, h₃, h₄⟩
  · refine (Runs.update_not_error hl₂ (fun s => s.nodup_one ..) (fun s j t r r' a hf => ?_) h₃).elim
    split at hf
    · cases hf
      exact index_disable_subset j t r
    · cases hf
  exact h₄.failsIn (P := fun x => x = .installationNotFound) (failsIn_ensure rfl)

lemma writeInstallation_ok {C : Contract (system hashtextextended ticks)} {i : Uuid} {r row : PushInstallation}
    {f : Time → PushInstallation → PushInstallation} {operation : String}
    (h : Runs C (writeInstallation i f operation) l g (.ok row) l' g' L G)
    (hlock : (.pushInstallations i, .update) ∈ l.locks)
    (hunwritten : Unwritten l i)
    (hr : G.db.get (.pushInstallations i) = some r) :
    ∃ t, Clocked C g g' t ∧ (∀ s : Store Row, (s.apply l'.writes).get (.pushInstallations i) = some (f t r)) ∧
      SameOthers i l l' := by
  unfold writeInstallation at h
  obtain ⟨as, l₁, g₁, h₁, h₂⟩ := h.bind
  obtain ⟨-, rfl⟩ := h₂.ofOption
  obtain ⟨s, t, v, a, ht, hf, hafter, -, -, hothers⟩ := h₁.update_one_at
    (locked_row h₁.evolve hlock hunwritten hr) rfl fun s t => nofun
  cases hf
  refine ⟨t, ht.mono .refl h₂.returns.evolve.later, hafter, fun s j hj => hothers s _ fun heq => hj ?_⟩
  cases heq
  rfl

/-- A write of a locked row fails only when another live row has one of the device's keys. -/
lemma writeInstallation_error {C : Contract (system hashtextextended ticks)} {i : Uuid} {r : PushInstallation}
    {f : Time → PushInstallation → PushInstallation} {operation : String} {e : PushRepositoryError}
    (h : Runs C (writeInstallation i f operation) l g (.error e) l' g' L G)
    (hlock : (.pushInstallations i, .update) ∈ l.locks)
    (hunwritten : Unwritten l i)
    (hr : G.db.get (.pushInstallations i) = some r) :
    ∃ t n j r', g.csn ≤ n ∧ n ≤ G.csn ∧ j ≠ i ∧
      ((G.version n).apply l.writes).get (.pushInstallations j) = some r' ∧ r'.deletedAt = none ∧
      (r'.installationId = (f t r).installationId ∨
        r'.environment = (f t r).environment ∧ r'.token = (f t r).token) := by
  unfold writeInstallation at h
  rcases h.bind_error with h₁ | ⟨as, l₁, g₁, h₁, h₂⟩
  · obtain ⟨s, t, r₀, r', a, n, k, hr₀, hf, hn, hn', hviolation⟩ := h₁.update_one_error
    rw [hunwritten, hr] at hr₀
    cases hr₀
    cases hf
    obtain ⟨hne, x, hx, hentry⟩ := violation_eq_some hviolation
    obtain ⟨j, r', rfl, hr', hmatch⟩ := installation_of_entry ((mem_index_installation i).mp hx).2 hentry
    exact ⟨t, n, j, r', hn, Nat.le_trans hn' h₁.rest.later.csn_le, fun heq => hne (heq ▸ rfl), hr', hmatch⟩
  · obtain ⟨s, t, v, a, -, -, -, ha, -, -⟩ := h₁.update_one_at
      (locked_row h₁.evolve hlock hunwritten hr) rfl fun s t => nofun
    cases as with
    | nil => cases ha
    | cons b bs => exact (Runs.not_ret_error h₂).elim

end Writes

end JamyeServer.Installations
