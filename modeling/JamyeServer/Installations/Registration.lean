import JamyeServer.Installations.Statements

/-!
# Registration of a device

A device is known by its installation id and by its destination, which may stand in two rows. The registration keeps one
of them and gives up the other, so neither key meets a unique index.
-/

namespace JamyeServer.Installations

open ReadCommitted Postgres Push Prog

variable {hashtextextended : String → Nat} {ticks : Time → Time → Bool} {l l' L : Local} {g g' G : Shared}

section Rebind

/-- What a transaction relies on that writes the keys of a device into the row `i`: it holds their locks, and it has
deleted every other row that has one of them. -/
structure Owns (hashtextextended : String → Nat) (i : Uuid) (r : PushInstallation) (b : Binding) (l : Local)
    (g G : Shared) : Prop where
  holds : Holds hashtextextended l b
  lock : (.pushInstallations i, .update) ∈ l.locks
  row : G.db.get (.pushInstallations i) = some r
  live : r.deletedAt = none
  unwritten : Unwritten l i
  others : ∀ j, j ≠ i → Unwritten l j ∨ GivenUp G l j
  alone : ∀ n j r', g.csn ≤ n → n ≤ G.csn → (G.version n).get (.pushInstallations j) = some r' → r'.deletedAt = none →
    (r'.installationId = b.installationId ∨ r'.environment = b.environment ∧ r'.token = b.token) → j ≠ i → GivenUp G l j
  closes : Rows Closes G l

variable {i : Uuid} {r row : PushInstallation} {b : Binding} {f : Time → PushInstallation → PushInstallation}
  {operation : String} {ownerEpoch : Nat}

lemma Owns.later (h : Owns hashtextextended i r b l g G) (hg : Later (contract hashtextextended ticks) g g') :
    Owns hashtextextended i r b l g' G :=
  { h with alone := fun n j r' hn => h.alone n j r' (Nat.le_trans hg.csn_le hn) }

lemma Owns.write_not_error {e : PushRepositoryError} (h : Owns hashtextextended i r b l g G)
    (hf : ∀ t, PushInstallation.binding (f t r) = b) :
    ¬ Runs (contract hashtextextended ticks) (writeInstallation i f operation) l g (.error e) l' g' L G := by
  intro hrun
  obtain ⟨t, n, j, r', hn, hn', hne, hr', hlive, hmatch⟩ := writeInstallation_error hrun h.lock h.unwritten h.row
  have hkeys : r'.installationId = b.installationId ∨ r'.environment = b.environment ∧ r'.token = b.token := by
    rw [← hf t]
    exact hmatch
  have hgiven : GivenUp G l j := by
    rcases h.others j hne with hsame | hgiven
    · rw [hsame] at hr'
      exact h.alone n j r' hn hn' hr' hlive hkeys hne
    · exact hgiven
  obtain ⟨b', r'', -, -, hdead, -, hget⟩ := hgiven
  rw [hget] at hr'
  cases hr'
  exact hdead hlive

/-- How the new version of the row comes from the one that was locked. -/
structure Rebinds (r : PushInstallation) (b : Binding) (epoch : Nat) (f : Time → PushInstallation → PushInstallation) :
    Prop where
  binding : ∀ t, PushInstallation.binding (f t r) = b
  ownerEpoch : ∀ t, (f t r).ownerEpoch = epoch
  deletedAt : ∀ t, (f t r).deletedAt = r.deletedAt
  lastSeenAt : ∀ t, (f t r).lastSeenAt = t
  changed : PushInstallation.binding r ≠ b → r.ownerEpoch < epoch
  same : PushInstallation.binding r = b → epoch = r.ownerEpoch

/-- What a call that changes devices leaves. -/
structure Leaves (hashtextextended : String → Nat) (ticks : Time → Time → Bool) (l : Local) (G : Shared) : Prop where
  installations : ∀ i, InstallationStep hashtextextended l i (G.db.get (.pushInstallations i))
    ((G.db.apply l.writes).get (.pushInstallations i))
  occurrences : Rows Closes G l
  rebound : ∀ i b r, G.db.get (.pushInstallations i) = some b →
    (G.db.apply l.writes).get (.pushInstallations i) = some r → b.ownerEpoch < r.ownerEpoch →
      ∀ j o, (G.db.apply l.writes).get (.pushDeliveryIntents j) = some o →
        PushDeliveryIntent.prior i r.ownerEpoch o → Leased ticks r.lastSeenAt o

lemma GivenUp.step {j : Uuid} (h : GivenUp G l j) : InstallationStep hashtextextended L j (G.db.get (.pushInstallations j))
    ((G.db.apply l.writes).get (.pushInstallations j)) := by
  obtain ⟨b, r, hb, hlive, hdead, hepoch, hget⟩ := h
  rw [hb, hget]
  exact .deleted hepoch hlive hdead

/-- The call deletes one row and writes no other. -/
lemma Leaves.of_givenUp (hw : l.writes = []) (hgiven : GivenUp G l' i) (hothers : SameOthers i l l')
    (hcloses : Rows Closes G l') : Leaves hashtextextended ticks l' G := by
  have hsame : ∀ j, j ≠ i → (G.db.apply l'.writes).get (.pushInstallations j) = G.db.get (.pushInstallations j) := by
    intro j hj
    rw [hothers _ j hj, hw, Store.apply_nil]
  refine ⟨fun j => ?_, hcloses, fun j b' r' hb' hr' hepoch => ?_⟩
  · by_cases hj : j = i
    · exact hj ▸ hgiven.step
    · rw [hsame j hj]
      exact .same _
  · exfalso
    by_cases hj : j = i
    · subst hj
      obtain ⟨b'', r'', hb'', -, -, heq, hget⟩ := hgiven
      rw [hb'] at hb''
      cases hb''
      rw [hget] at hr'
      cases hr'
      exact Nat.lt_irrefl _ (heq ▸ hepoch)
    · rw [hsame j hj, hb'] at hr'
      cases hr'
      exact Nat.lt_irrefl _ hepoch

lemma Owns.leaves {l₁ : Local} {g₁ : Shared} (h : Owns hashtextextended i r b l g G)
    (hf : Rebinds r b ownerEpoch f) (hG : History (contract hashtextextended ticks) G)
    (hwrite : Runs (contract hashtextextended ticks) (writeInstallation i f operation) l g (.ok row) l₁ g₁ L G)
    (hclose : Runs (contract hashtextextended ticks)
      (if PushInstallation.binding r ≠ b then terminalizePriorOccurrences i ownerEpoch else ret ()) l₁ g₁ (.ok ()) l' g'
      L G) :
    Leaves hashtextextended ticks l' G := by
  obtain ⟨t, ht, hrow, hothers⟩ := writeInstallation_ok hwrite h.lock h.unwritten h.row
  have hholds : Holds hashtextextended l' b :=
    ⟨(hwrite.returns.evolve.trans hclose.returns.evolve).advisory h.holds.identity,
      (hwrite.returns.evolve.trans hclose.returns.evolve).advisory h.holds.destination⟩
  have hcloses₁ : Rows Closes G l₁ :=
    ((keeps_update fun _ _ _ _ _ _ _ _ _ => trivial).bind fun _ => keeps_ofOption).rows hwrite h.closes
  have hcloses : Rows Closes G l' := by
    refine Keeps.rows ?_ hclose hcloses₁
    split
    · exact keeps_terminalizePriorOccurrences
    · exact keeps_ret
  have hsame : ∀ (s : Store Row) j,
      (s.apply l'.writes).get (.pushInstallations j) = (s.apply l₁.writes).get (.pushInstallations j) := by
    intro s j
    refine hclose.get_of_touches (P := isDelivery) ?_ (by exact id) s
    split
    · exact (touches_change fun _ => trivial).bind fun _ => trivial
    · trivial
  refine ⟨fun j => ?_, hcloses, fun j b' r' hb' hr' hepoch k o ho hprior => ?_⟩
  · rw [hsame]
    by_cases hj : j = i
    · subst hj
      rw [h.row, hrow]
      by_cases hb : PushInstallation.binding r = b
      · exact .kept ((hf.binding t).trans hb.symm) ((hf.ownerEpoch t).trans (hf.same hb)) (hf.deletedAt t)
      · refine .rebound ?_ h.live ((hf.deletedAt t).trans h.live) ((hf.binding t).symm ▸ hholds)
        rw [hf.ownerEpoch]
        exact hf.changed hb
    · rw [hothers _ j hj]
      rcases h.others j hj with hunwritten | hgiven
      · rw [hunwritten]
        exact .same _
      · exact hgiven.step
  · rw [hsame] at hr'
    by_cases hj : j = i
    · subst hj
      rw [h.row] at hb'
      rw [hrow] at hr'
      cases hb'
      cases hr'
      rw [hf.ownerEpoch] at hepoch hprior
      have hb : PushInstallation.binding r ≠ b := by
        intro hb
        rw [hf.same hb] at hepoch
        exact Nat.lt_irrefl _ hepoch
      rw [if_pos hb] at hclose
      obtain ⟨t', ht', hleased⟩ := terminalizePriorOccurrences_ok hclose hG hcloses₁ ho hprior
      rw [hf.lastSeenAt]
      refine .of_prior hprior hleased fun hticks => ?_
      obtain ⟨ga, -, hga, rfl⟩ := ht
      obtain ⟨gb, hgb, -, rfl⟩ := ht'
      exact (hga.trans hgb).now_le hticks
    · exfalso
      rw [hothers _ j hj] at hr'
      rcases h.others j hj with hunwritten | ⟨b'', r'', hb'', -, -, heq, hget⟩
      · rw [hunwritten, hb'] at hr'
        cases hr'
        exact Nat.lt_irrefl _ hepoch
      · rw [hb'] at hb''
        cases hb''
        rw [hget] at hr'
        cases hr'
        exact Nat.lt_irrefl _ (heq ▸ hepoch)

end Rebind

section Merge

/-- The row has one of the keys of the device. -/
def SharesKey (b : Binding) (r : PushInstallation) : Prop :=
  r.installationId = b.installationId ∨ r.environment = b.environment ∧ r.token = b.token

variable {p : Store Row → PushInstallation → Bool} {rows : List (Uuid × PushInstallation)} {s : Store Row} {i : Uuid}
  {r : PushInstallation} {b : Binding}

lemma unwritten_of_empty (hw : l.writes = []) (j : Uuid) : Unwritten l j := fun s => by rw [hw, Store.apply_nil]

/-- The transaction gives up the row: it is deleted, and the others stay as they are. -/
lemma Matched.giveUp (hm : Matched hashtextextended p rows s l g G) (hw : l.writes = []) (hi : (i, r) ∈ rows)
    (h : Runs (contract hashtextextended ticks) (deleteInstallationState i) l g (.ok ()) l' g' L G) :
    GivenUp G l' i ∧ (∀ j, j ≠ i → Unwritten l' j) ∧ Rows Closes G l' := by
  obtain ⟨hlock, hr, hlive, -⟩ := hm.locked i r hi
  obtain ⟨hgiven, hothers⟩ := deleteInstallationState_ok h hlock (unwritten_of_empty hw i) hr hlive
  refine ⟨hgiven, fun j hj s => (hothers s j hj).trans (unwritten_of_empty hw j s), ?_⟩
  exact keeps_deleteInstallationState.rows h (rows_closes_begin hw)

/-- The locked row gets the keys of the device when all other rows with one of them are given up. -/
lemma Matched.owns (hm : Matched hashtextextended p rows s l g G)
    (hev : Evolve (contract hashtextextended ticks) l g l' g') (hholds : Holds hashtextextended l b)
    (hp : ∀ r', SharesKey b r' → p s r') (hi : (i, r) ∈ rows) (hunwritten : Unwritten l' i)
    (hothers : ∀ j, j ≠ i → Unwritten l' j ∨ GivenUp G l' j)
    (hrows : ∀ j r', (j, r') ∈ rows → SharesKey b r' → j ≠ i → GivenUp G l' j) (hcloses : Rows Closes G l') :
    Owns hashtextextended i r b l' g' G := by
  obtain ⟨hlock, hr, hlive, -⟩ := hm.locked i r hi
  refine ⟨⟨hev.advisory hholds.identity, hev.advisory hholds.destination⟩, hev.locks hlock, hr, hlive, hunwritten,
    hothers, fun n j r' hn hn' hr' hlive' hkey hne => ?_, hcloses⟩
  refine hrows j r' (hm.complete n j r' (Nat.le_trans hev.later.csn_le hn) hn' hr' hlive' (hp r' hkey) ?_) hkey hne
  rcases hkey with hkey | ⟨-, hkey⟩
  · rw [hkey]
    exact .inl hholds.identity
  · rw [hkey]
    exact .inr hholds.destination

/-- Locked rows that share a key are one row. -/
lemma Matched.eq (hm : Matched hashtextextended p rows s l g G) (hG : Unique index G.db) {j : Uuid} {r' : PushInstallation}
    (hi : (i, r) ∈ rows) (hj : (j, r') ∈ rows) (h : SharesKey (PushInstallation.binding r) r') : i = j := by
  obtain ⟨-, hr, hlive, -⟩ := hm.locked i r hi
  obtain ⟨-, hr', hlive', -⟩ := hm.locked j r' hj
  exact eq_of_shared_key hG hr hr' hlive hlive' h

end Merge

section Upsert

variable {command : UpsertPushInstallationCommand}

/-- The rows that a registration locks. -/
def matching (command : UpsertPushInstallationCommand) (_ : Store Row) (r : PushInstallation) : Bool :=
  PushInstallation.hasIdentity command.installationId r ||
    PushInstallation.hasDestination command.environment command.token r

lemma matching_iff {s : Store Row} {r : PushInstallation} : matching command s r ↔ SharesKey command.binding r := by
  simp [matching, SharesKey, PushInstallation.hasIdentity, PushInstallation.hasDestination,
    UpsertPushInstallationCommand.binding]

variable {rows : List (Uuid × PushInstallation)} {s : Store Row} {current : Uuid × PushInstallation}

lemma mergeDestination_owns {l₁ : Local} {g₁ : Shared} (hm : Matched hashtextextended (matching command) rows s l g G)
    (hG : Unique index G.db) (hw : l.writes = []) (hholds : Holds hashtextextended l command.binding)
    (hcurrent : (rows.find? fun row => PushInstallation.hasIdentity command.installationId row.2).or
      (rows.find? fun row => PushInstallation.hasDestination command.environment command.token row.2) = some current)
    (h : Runs (contract hashtextextended ticks) (mergeDestination
      (rows.find? fun row => PushInstallation.hasIdentity command.installationId row.2)
      (rows.find? fun row => PushInstallation.hasDestination command.environment command.token row.2)) l g (.ok ()) l₁ g₁
      L G) :
    Owns hashtextextended current.1 current.2 command.binding l₁ g₁ G := by
  have hev := h.returns.evolve
  generalize hx : (rows.find? fun row => PushInstallation.hasIdentity command.installationId row.2) = identity at h hcurrent
  generalize hy : (rows.find? fun row =>
    PushInstallation.hasDestination command.environment command.token row.2) = destination at h hcurrent
  have hidentity : ∀ j r', (j, r') ∈ rows → r'.installationId = command.installationId →
      ∃ x, identity = some x ∧ x.1 = j := by
    intro j r' hj heq
    cases identity with
    | none =>
      have hnot := List.find?_eq_none.mp hx (j, r') hj
      exact absurd (decide_eq_true heq) hnot
    | some x =>
      have hfound := List.find?_some hx
      have hxkey : x.2.installationId = command.installationId := of_decide_eq_true hfound
      exact ⟨x, rfl, hm.eq hG (List.mem_of_find?_eq_some hx) hj (.inl (heq.trans hxkey.symm))⟩
  have hdestination : ∀ j r', (j, r') ∈ rows → r'.environment = command.environment → r'.token = command.token →
      ∃ y, destination = some y ∧ y.1 = j := by
    intro j r' hj he ht
    cases destination with
    | none =>
      have hnot := List.find?_eq_none.mp hy (j, r') hj
      simp [PushInstallation.hasDestination, he, ht] at hnot
    | some y =>
      have hykey := List.find?_some hy
      simp only [PushInstallation.hasDestination, Bool.and_eq_true, decide_eq_true_eq] at hykey
      exact ⟨y, rfl, hm.eq hG (List.mem_of_find?_eq_some hy) hj (.inr ⟨he.trans hykey.1.symm, ht.trans hykey.2.symm⟩)⟩
  have hmem : current ∈ rows := by
    cases identity with
    | none => exact List.mem_of_find?_eq_some (hy.trans hcurrent)
    | some x => exact List.mem_of_find?_eq_some (hx.trans hcurrent)
  -- the call gives up the row of the destination when the identity stands in another one
  by_cases hmerge : ∃ x y, identity = some x ∧ destination = some y ∧ x.1 ≠ y.1
  · obtain ⟨x, y, rfl, rfl, hne⟩ := hmerge
    cases hcurrent
    rw [mergeDestination, if_pos hne] at h
    obtain ⟨hgiven, hunwritten, hcloses⟩ := hm.giveUp hw (List.mem_of_find?_eq_some hy) h
    refine hm.owns hev hholds (fun r' => matching_iff.mpr) hmem (hunwritten _ hne) (fun j _ => ?_)
      (fun j r' hj hkey hji => ?_) hcloses
    · by_cases hj : j = y.1
      · exact .inr (hj ▸ hgiven)
      · exact .inl (hunwritten j hj)
    · rcases hkey with hkey | ⟨he, ht⟩
      · obtain ⟨x', hx', rfl⟩ := hidentity j r' hj hkey
        cases hx'
        exact absurd rfl hji
      · obtain ⟨y', hy', rfl⟩ := hdestination j r' hj he ht
        cases hy'
        exact hgiven
  · have hl : l₁ = l := by
      rcases identity with _ | x <;> rcases destination with _ | y
      · exact h.ret.2
      · exact h.ret.2
      · exact h.ret.2
      · have heq : x.1 = y.1 := by
          by_contra hne
          exact hmerge ⟨x, y, rfl, rfl, hne⟩
        rw [mergeDestination, if_neg (not_not_intro heq)] at h
        exact h.ret.2
    subst hl
    refine hm.owns hev hholds (fun r' => matching_iff.mpr) hmem (unwritten_of_empty hw _)
      (fun j _ => .inl (unwritten_of_empty hw j)) (fun j r' hj hkey hji => ?_) (rows_closes_begin hw)
    exfalso
    rcases hkey with hkey | ⟨he, ht⟩
    · obtain ⟨x', rfl, rfl⟩ := hidentity j r' hj hkey
      cases hcurrent
      exact hji rfl
    · obtain ⟨y', rfl, rfl⟩ := hdestination j r' hj he ht
      cases identity with
      | none =>
        cases hcurrent
        exact hji rfl
      | some x =>
        cases hcurrent
        exact hmerge ⟨_, _, rfl, rfl, fun heq => hji heq.symm⟩

lemma mergeDestination_error {C : Contract (system hashtextextended ticks)}
    {identity destination : Option (Uuid × PushInstallation)} {e : PushRepositoryError} (hl : Coherent index l g)
    (h : Runs C (mergeDestination identity destination) l g (.error e) l' g' L G) : e = .installationNotFound := by
  unfold mergeDestination at h
  split at h
  · split at h
    · exact deleteInstallationState_error h hl
    · exact (Runs.not_ret_error h).elim
  · exact (Runs.not_ret_error h).elim

lemma rebinds_rebind {r : PushInstallation} {ownerEpoch : Nat}
    (h : ownerEpoch = if decide (PushInstallation.binding r ≠ command.binding) then r.ownerEpoch + 1 else r.ownerEpoch) :
    Rebinds r command.binding ownerEpoch (PushInstallation.rebind command ownerEpoch) where
  binding _ := rfl
  ownerEpoch _ := rfl
  deletedAt _ := rfl
  lastSeenAt _ := rfl
  changed hne := by
    rw [h, if_pos (decide_eq_true hne)]
    exact Nat.lt_succ_self _
  same heq := by
    rw [h, if_neg (by simpa using heq)]

lemma rebindInstallation_leaves {outcome : UpsertPushInstallationOutcome}
    (howns : Owns hashtextextended current.1 current.2 command.binding l g G)
    (hG : History (contract hashtextextended ticks) G)
    (h : Runs (contract hashtextextended ticks) (rebindInstallation command current) l g (.ok outcome) l' g' L G) :
    Leaves hashtextextended ticks l' G := by
  unfold rebindInstallation at h
  obtain ⟨ownerEpoch, l₁, g₁, h₁, r₁⟩ := h.bind
  obtain ⟨rfl, hepoch⟩ := nextOwnerEpoch_ok h₁
  obtain ⟨row, l₂, g₂, h₂, r₂⟩ := r₁.bind
  have howns₁ := howns.later h₁.returns.evolve.later
  split at r₂
  all_goals
    rename_i hbranch
    obtain ⟨_, l₃, g₃, h₃, r₃⟩ := r₂.bind
    obtain ⟨installation, l₄, g₄, h₄, h₅⟩ := r₃.bind
    obtain ⟨-, rfl⟩ := h₅.ret
    obtain rfl := installationFromRow_ok h₄
    have hclose : Runs (contract hashtextextended ticks)
        (if PushInstallation.binding current.2 ≠ command.binding then terminalizePriorOccurrences current.1 ownerEpoch
          else ret ()) l₂ g₂ (.ok ()) l' g₃ L G := by
      first
      | rw [if_pos (of_decide_eq_true hbranch)]
        exact h₃
      | rw [if_neg (by simpa using hbranch)]
        exact h₃
    exact howns₁.leaves (rebinds_rebind hepoch) hG h₂ hclose

lemma rebindInstallation_error {e : PushRepositoryError} {operation : String}
    (howns : Owns hashtextextended current.1 current.2 command.binding l g G) (hl : Coherent index l g)
    (h : Runs (contract hashtextextended ticks) (rebindInstallation command current) l g (.error e) l' g' L G) :
    e ≠ .unavailable operation := by
  have hinvalid : e = .invalidData → e ≠ .unavailable operation := by
    rintro rfl
    exact nofun
  unfold rebindInstallation at h
  rcases h.bind_error with h₁ | ⟨ownerEpoch, l₁, g₁, h₁, r₁⟩
  · exact hinvalid (h₁.failsIn failsIn_nextOwnerEpoch)
  obtain ⟨rfl, -⟩ := nextOwnerEpoch_ok h₁
  have hl₁ := h₁.returns.evolve.coherent hl
  rcases r₁.bind_error with h₂ | ⟨row, l₂, g₂, h₂, r₂⟩
  · exact ((howns.later h₁.returns.evolve.later).write_not_error (fun _ => rfl) h₂).elim
  have hl₂ := h₂.returns.evolve.coherent hl₁
  split at r₂
  · rcases r₂.bind_error with h₃ | ⟨_, l₃, g₃, h₃, r₃⟩
    · exact (terminalizePriorOccurrences_not_error hl₂ h₃).elim
    · exact hinvalid (r₃.failsIn (failsIn_installationFromRow.bind fun _ => trivial))
  · rcases r₂.bind_error with h₃ | ⟨_, l₃, g₃, h₃, r₃⟩
    · exact (Runs.not_ret_error h₃).elim
    · exact hinvalid (r₃.failsIn (failsIn_installationFromRow.bind fun _ => trivial))

lemma insertInstallation_leaves {record : PushInstallationRecord} (hw : l.writes = [])
    (hholds : Holds hashtextextended l command.binding) (hid : command.id ∈ l.drawn)
    (h : Runs (contract hashtextextended ticks) (insertInstallation command) l g (.ok record) l' g' L G) :
    Leaves hashtextextended ticks l' G := by
  have hev := h.returns.evolve
  unfold insertInstallation at h
  obtain ⟨now, l₁, g₁, h₁, r₁⟩ := h.bind
  obtain ⟨rfl, -⟩ := h₁.clock
  obtain ⟨_, l₂, g₂, h₂, h₃⟩ := r₁.bind
  obtain rfl := installationFromRow_ok h₃
  have hrow := h₂.insertRow
  have hcloses : Rows Closes G l' := (keeps_insertRow fun _ _ => trivial).rows h₂ (rows_closes_begin hw)
  have habsent : G.db.get (.pushInstallations command.id) = none := by
    have habsent := hrow.absent
    rwa [hw, Store.apply_nil] at habsent
  have hothers : ∀ j, j ≠ command.id →
      (G.db.apply l'.writes).get (.pushInstallations j) = G.db.get (.pushInstallations j) := by
    intro j hj
    rw [hrow.get_of_ne _ fun heq => hj (Key.pushInstallations.inj heq), hw, Store.apply_nil]
  refine ⟨fun j => ?_, hcloses, fun j b r hb hr hepoch => ?_⟩
  · by_cases hj : j = command.id
    · subst hj
      rw [habsent, hrow.get]
      exact .created (hev.drawn hid) ⟨hev.advisory hholds.identity, hev.advisory hholds.destination⟩
    · rw [hothers j hj]
      exact .same _
  · by_cases hj : j = command.id
    · subst hj
      rw [habsent] at hb
      cases hb
    · rw [hothers j hj, hb] at hr
      cases hr
      exact absurd hepoch (Nat.lt_irrefl _)

/-- No row that the registration could meet has a key of the device, and its account is locked. -/
lemma insertInstallation_error {e : PushRepositoryError} {operation : String} (hw : l.writes = [])
    (hfresh : ∀ n, n ≤ G.csn → (G.version n).get (.pushInstallations command.id) = none)
    (huser : (.users command.userId, .share) ∈ l.locks) (hrow : G.db.get (.users command.userId) ≠ none)
    (halone : ∀ n j r, g.csn ≤ n → n ≤ G.csn → (G.version n).get (.pushInstallations j) = some r → r.deletedAt = none →
      ¬ SharesKey command.binding r)
    (h : Runs (contract hashtextextended ticks) (insertInstallation command) l g (.error e) l' g' L G) :
    e ≠ .unavailable operation := by
  unfold insertInstallation at h
  rcases h.bind_error with h₁ | ⟨now, l₁, g₁, h₁, r₁⟩
  · exact (Runs.not_op_error h₁).elim
  obtain ⟨rfl, -⟩ := h₁.clock
  have hg₁ := h₁.returns.evolve.later.csn_le
  rcases r₁.bind_error with h₂ | ⟨_, l₂, g₂, h₂, h₃⟩
  · exfalso
    have hG : g'.csn ≤ G.csn := h₂.rest.later.csn_le
    rcases h₂.insertRow_error with ⟨n, hn, hn', hcollision⟩ | ⟨p, hp, n, hn, hn', hmissing⟩
    · rw [hw, Store.apply_nil] at hcollision
      rcases collision_ne_none hcollision with htaken | ⟨k, -, x, hx, hentry⟩
      · exact htaken (hfresh n (Nat.le_trans hn' hG))
      · change x ∈ index (.pushInstallations command.id) (⟨command.userId, 1, command.installationId, command.platform,
          command.provider, command.token, command.environment, command.messagePreviewEnabled, now, none, none⟩ :
            PushInstallation) at hx
        obtain ⟨j, r, -, hr, hlive, hkey⟩ := installation_of_entry ((mem_index_installation command.id).mp hx).2 hentry
        exact halone n j r (Nat.le_trans hg₁ hn) (Nat.le_trans hn' hG) hr hlive hkey
    · obtain rfl := List.mem_singleton.mp hp
      have hset : ∀ (s : Store Row) (v : PushInstallation),
          (s.set ⟨.pushInstallations command.id, some v⟩).get (.users command.userId) = s.get (.users command.userId) :=
        fun s v => Store.get_set_mk_of_ne s _ nofun
      rw [hw, Store.apply_cons, Store.apply_nil, hset,
        h₂.evolve.version_locked huser nofun hn (Nat.le_trans hn' hG), ← h₂.evolve.db_locked huser nofun] at hmissing
      exact hrow hmissing
  · rw [h₃.failsIn failsIn_installationFromRow]
    exact nofun

/-- The transaction, with the keys of a device locked. -/
def lockedKeys (hashtextextended : String → Nat) (installationId token : String) (l : Local) : Local :=
  { l with
    advisory := destinationKey hashtextextended token :: identityKey hashtextextended installationId :: l.advisory }

lemma lockKeys_eq {C : Contract (system hashtextextended ticks)} {installationId token : String} {l₁ l₂ : Local}
    {g₁ g₂ : Shared} (h₁ : Runs C (lockIdentity hashtextextended installationId) l g (.ok ()) l₁ g₁ L G)
    (h₂ : Runs C (lockDestination hashtextextended token) l₁ g₁ (.ok ()) l₂ g₂ L G) :
    l₂ = lockedKeys hashtextextended installationId token l := by
  rw [h₂.advisory, h₁.advisory]
  rfl

lemma matching_congr (s : Store Row) (r r' : PushInstallation)
    (h : PushInstallation.binding r = PushInstallation.binding r') : matching command s r = matching command s r' := by
  simp only [PushInstallation.binding, Binding.mk.injEq] at h
  obtain ⟨-, hid, -, -, ht, he⟩ := h
  simp only [matching, PushInstallation.hasIdentity, PushInstallation.hasDestination, hid, ht, he]

lemma upsertInstallation_leaves {outcome : UpsertPushInstallationOutcome} (hw : l.writes = []) (hid : command.id ∈ l.drawn)
    (hG : History (contract hashtextextended ticks) G)
    (h : Runs (contract hashtextextended ticks) (upsertInstallation hashtextextended command) l g (.ok outcome) l' g' L G) :
    Leaves hashtextextended ticks l' G := by
  unfold upsertInstallation at h
  obtain ⟨_, l₁, g₁, h₁, r₁⟩ := h.bind
  obtain ⟨_, l₂, g₂, h₂, r₂⟩ := r₁.bind
  obtain ⟨_, l₃, g₃, h₃, r₃⟩ := r₂.bind
  obtain ⟨rows, l₄, g₄, h₄, r₄⟩ := r₃.bind
  have hl₃ := lockKeys_eq h₂ h₃
  have hw₃ : l₃.writes = [] := by
    rw [hl₃]
    exact (requireLiveAccount_ok h₁).1.trans hw
  obtain ⟨hw₄, hadvisory, m, -, -, hm⟩ := lockMatching_ok h₄ hG hw₃ matching_congr
  have hholds : Holds hashtextextended l₄ command.binding := by
    constructor <;> rw [hadvisory, hl₃] <;> simp [lockedKeys, UpsertPushInstallationCommand.binding]
  have hid₄ : command.id ∈ l₄.drawn :=
    (((h₁.returns.evolve.trans h₂.returns.evolve).trans h₃.returns.evolve).trans h₄.returns.evolve).drawn hid
  dsimp only at r₄
  split at r₄
  · obtain ⟨record, l₅, g₅, h₅, h₆⟩ := r₄.bind
    obtain ⟨-, rfl⟩ := h₆.ret
    exact insertInstallation_leaves hw₄ hholds hid₄ h₅
  · rename_i current hcurrent
    obtain ⟨_, l₅, g₅, h₅, h₆⟩ := r₄.bind
    exact rebindInstallation_leaves (mergeDestination_owns hm hG.unique hw₄ hholds hcurrent h₅) hG h₆

lemma upsertInstallation_error {e : PushRepositoryError} {operation : String} (hw : l.writes = [])
    (hl : Coherent index l g) (hfresh : ∀ n, n ≤ G.csn → (G.version n).get (.pushInstallations command.id) = none)
    (hG : History (contract hashtextextended ticks) G)
    (h : Runs (contract hashtextextended ticks) (upsertInstallation hashtextextended command) l g (.error e) l' g' L G) :
    e ≠ .unavailable operation := by
  unfold upsertInstallation at h
  rcases h.bind_error with h₁ | ⟨_, l₁, g₁, h₁, r₁⟩
  · rw [requireLiveAccount_error h₁]
    rintro ⟨⟩
  rcases r₁.bind_error with h₂ | ⟨_, l₂, g₂, h₂, r₂⟩
  · exact (Runs.not_op_error h₂).elim
  rcases r₂.bind_error with h₃ | ⟨_, l₃, g₃, h₃, r₃⟩
  · exact (Runs.not_op_error h₃).elim
  rcases r₃.bind_error with h₄ | ⟨rows, l₄, g₄, h₄, r₄⟩
  · exact (h₄.failsIn (P := fun _ => False) failsIn_selectFor).elim
  have hl₃ := lockKeys_eq h₂ h₃
  obtain ⟨hw₁, -, huser, hrow⟩ := requireLiveAccount_ok h₁
  have hw₃ : l₃.writes = [] := by
    rw [hl₃]
    exact hw₁.trans hw
  obtain ⟨hw₄, hadvisory, m, -, -, hm⟩ := lockMatching_ok h₄ hG hw₃ matching_congr
  have hholds : Holds hashtextextended l₄ command.binding := by
    constructor <;> rw [hadvisory, hl₃] <;> simp [lockedKeys, UpsertPushInstallationCommand.binding]
  have hev := (h₂.returns.evolve.trans h₃.returns.evolve).trans h₄.returns.evolve
  have hcoherent := hev.coherent (h₁.returns.evolve.coherent hl)
  dsimp only at r₄
  split at r₄
  · rename_i hnone
    rcases r₄.bind_error with h₅ | ⟨record, l₅, g₅, h₅, h₆⟩
    swap
    · exact (Runs.not_ret_error h₆).elim
    rw [hw, Store.apply_nil] at hrow
    refine insertInstallation_error hw₄ hfresh (hev.locks huser) hrow (fun n j r hn hn' hr hlive hkey => ?_) h₅
    have hin : (j, r) ∈ rows := by
      refine hm.complete n j r hn hn' hr hlive ((matching_iff (s := G.version m)).mpr hkey) ?_
      rcases hkey with hkey | ⟨-, hkey⟩
      · rw [hkey]
        exact .inl hholds.identity
      · rw [hkey]
        exact .inr hholds.destination
    obtain ⟨hidentity, hdestination⟩ := Option.or_eq_none_iff.mp hnone
    rcases hkey with hkey | ⟨he, ht⟩
    · exact List.find?_eq_none.mp hidentity (j, r) hin (decide_eq_true hkey)
    · refine List.find?_eq_none.mp hdestination (j, r) hin ?_
      simpa [PushInstallation.hasDestination] using ⟨he, ht⟩
  · rename_i current hcurrent
    rcases r₄.bind_error with h₅ | ⟨_, l₅, g₅, h₅, h₆⟩
    · rw [mergeDestination_error hcoherent h₅]
      rintro ⟨⟩
    · exact rebindInstallation_error (mergeDestination_owns hm hG.unique hw₄ hholds hcurrent h₅)
        (h₅.returns.evolve.coherent hcoherent) h₆

end Upsert

end JamyeServer.Installations
