import JamyeServer.Installations.Registration

/-!
# Changes of a registered device

A new token, the end of a registration, and a destination that the provider no longer knows.
-/

namespace JamyeServer.Installations

open ReadCommitted Postgres Push Prog

variable {hashtextextended : String → Nat} {ticks : Time → Time → Bool} {l l' L : Local} {g g' G : Shared}

section Update

variable {command : UpdatePushInstallationCommand} {rows : List (Uuid × PushInstallation)} {s : Store Row}
  {current : Uuid × PushInstallation}

/-- The device with its new token. -/
def withToken (token : String) (r : PushInstallation) : Binding := { PushInstallation.binding r with token := token }

lemma withToken_eq_binding {token : String} {r : PushInstallation} :
    PushInstallation.binding r = withToken token r ↔ r.token = token := by
  simp [withToken, PushInstallation.binding]

/-- The rows that a new token locks. -/
def targeted (command : UpdatePushInstallationCommand) (s : Store Row) (r : PushInstallation) : Bool :=
  PushInstallation.hasIdentity command.installationId r ||
    (targetEnvironment command.installationId s).any fun environment =>
      PushInstallation.hasDestination environment command.token r

lemma targeted_congr (s : Store Row) (r r' : PushInstallation)
    (h : PushInstallation.binding r = PushInstallation.binding r') : targeted command s r = targeted command s r' := by
  simp only [PushInstallation.binding, Binding.mk.injEq] at h
  obtain ⟨-, hid, -, -, ht, he⟩ := h
  simp only [targeted, PushInstallation.hasIdentity, PushInstallation.hasDestination, hid, ht, he]

/-- The environment that the statement looks up is the one of the live row with the identity. -/
lemma targetEnvironment_eq {installationId : String} {i : Uuid} {r : PushInstallation} (hs : Unique index s)
    (hr : s.get (.pushInstallations i) = some r) (hlive : r.deletedAt = none) (hid : r.installationId = installationId) :
    targetEnvironment installationId s = some r.environment := by
  unfold targetEnvironment
  have hmem : i ∈ s.ids Tables.pushInstallations fun _ r =>
      PushInstallation.hasIdentity installationId r && r.deletedAt.isNone :=
    Store.mem_ids.mpr ⟨r, hr, by simp [PushInstallation.hasIdentity, hid, hlive]⟩
  cases hids : s.ids Tables.pushInstallations fun _ r =>
      PushInstallation.hasIdentity installationId r && r.deletedAt.isNone with
  | nil =>
    rw [hids] at hmem
    cases hmem
  | cons j js =>
    have hj : j ∈ s.ids Tables.pushInstallations fun _ r =>
        PushInstallation.hasIdentity installationId r && r.deletedAt.isNone := by
      rw [hids]
      exact List.mem_cons_self
    obtain ⟨r', hr', hcond⟩ := Store.mem_ids.mp hj
    simp only [PushInstallation.hasIdentity, Bool.and_eq_true, decide_eq_true_eq, Option.isNone_iff_eq_none] at hcond
    obtain rfl := eq_of_shared_key hs hr hr' hlive hcond.2 (.inl (hcond.1.trans hid.symm))
    simp [hr]

lemma rebinds_retoken {r : PushInstallation} {ownerEpoch : Nat} {preview : Bool}
    (h : ownerEpoch = if decide (r.token ≠ command.token) then r.ownerEpoch + 1 else r.ownerEpoch) :
    Rebinds r (withToken command.token r) ownerEpoch (PushInstallation.retoken command ownerEpoch preview) where
  binding _ := rfl
  ownerEpoch _ := rfl
  deletedAt _ := rfl
  lastSeenAt _ := rfl
  changed hne := by
    have hchanged : r.token ≠ command.token := fun heq => hne (withToken_eq_binding.mpr heq)
    rw [h, if_pos (decide_eq_true hchanged)]
    exact Nat.lt_succ_self _
  same heq := by
    rw [h, if_neg (by simpa using withToken_eq_binding.mp heq)]

lemma retokenInstallation_leaves {record : PushInstallationRecord}
    (howns : Owns hashtextextended current.1 current.2 (withToken command.token current.2) l g G)
    (hG : History (contract hashtextextended ticks) G)
    (h : Runs (contract hashtextextended ticks) (retokenInstallation command current) l g (.ok record) l' g' L G) :
    Leaves hashtextextended ticks l' G := by
  unfold retokenInstallation at h
  obtain ⟨ownerEpoch, l₁, g₁, h₁, r₁⟩ := h.bind
  obtain ⟨rfl, hepoch⟩ := nextOwnerEpoch_ok h₁
  obtain ⟨row, l₂, g₂, h₂, r₂⟩ := r₁.bind
  have howns₁ := howns.later h₁.returns.evolve.later
  split at r₂
  all_goals
    rename_i hbranch
    obtain ⟨_, l₃, g₃, h₃, h₄⟩ := r₂.bind
    obtain rfl := installationFromRow_ok h₄
    have hclose : Runs (contract hashtextextended ticks)
        (if PushInstallation.binding current.2 ≠ withToken command.token current.2 then
          terminalizePriorOccurrences current.1 ownerEpoch else ret ()) l₂ g₂ (.ok ()) l' g₃ L G := by
      first
      | rw [if_pos fun heq => of_decide_eq_true hbranch (withToken_eq_binding.mp heq)]
        exact h₃
      | rw [if_neg (not_not_intro (withToken_eq_binding.mpr (by simpa using hbranch)))]
        exact h₃
    exact howns₁.leaves (rebinds_retoken hepoch) hG h₂ hclose

lemma retokenInstallation_error {e : PushRepositoryError} {operation : String}
    (howns : Owns hashtextextended current.1 current.2 (withToken command.token current.2) l g G)
    (hl : Coherent index l g)
    (h : Runs (contract hashtextextended ticks) (retokenInstallation command current) l g (.error e) l' g' L G) :
    e ≠ .unavailable operation := by
  have hinvalid : e = .invalidData → e ≠ .unavailable operation := by
    rintro rfl
    exact nofun
  unfold retokenInstallation at h
  rcases h.bind_error with h₁ | ⟨ownerEpoch, l₁, g₁, h₁, r₁⟩
  · exact hinvalid (h₁.failsIn failsIn_nextOwnerEpoch)
  obtain ⟨rfl, -⟩ := nextOwnerEpoch_ok h₁
  have hl₁ := h₁.returns.evolve.coherent hl
  rcases r₁.bind_error with h₂ | ⟨row, l₂, g₂, h₂, r₂⟩
  · exact ((howns.later h₁.returns.evolve.later).write_not_error (fun _ => rfl) h₂).elim
  have hl₂ := h₂.returns.evolve.coherent hl₁
  split at r₂
  · rcases r₂.bind_error with h₃ | ⟨_, l₃, g₃, h₃, r₃⟩
    · exact (terminalizePriorOccurrences_not_error hl₂ h₃).elim
    · exact hinvalid (r₃.failsIn failsIn_installationFromRow)
  · rcases r₂.bind_error with h₃ | ⟨_, l₃, g₃, h₃, r₃⟩
    · exact (Runs.not_ret_error h₃).elim
    · exact hinvalid (r₃.failsIn failsIn_installationFromRow)

/-- A locked row with the new destination, other than the one that gets it. -/
abbrev conflict (command : UpdatePushInstallationCommand) (rows : List (Uuid × PushInstallation))
    (current : Uuid × PushInstallation) : Option (Uuid × PushInstallation) :=
  rows.find? fun row => decide (row.1 ≠ current.1) &&
    PushInstallation.hasDestination current.2.environment command.token row.2

/-- The row of the conflict is given up, and then the current row is alone with its new keys. -/
lemma conflict_owns {l₁ : Local} {g₁ : Shared} (hm : Matched hashtextextended (targeted command) rows s l g G)
    (hG : Unique index G.db) (hw : l.writes = [])
    (hholds : Holds hashtextextended l (withToken command.token current.2))
    (htarget : targetEnvironment command.installationId s = some current.2.environment)
    (hcurrent : rows.find? (fun row => PushInstallation.hasIdentity command.installationId row.2) = some current)
    (hev : Evolve (contract hashtextextended ticks) l g l₁ g₁)
    (h : ∀ x, conflict command rows current = some x →
      Runs (contract hashtextextended ticks) (deleteInstallationState x.1) l g (.ok ()) l₁ g₁ L G)
    (hnone : conflict command rows current = none → l₁ = l) :
    Owns hashtextextended current.1 current.2 (withToken command.token current.2) l₁ g₁ G := by
  have hmem : current ∈ rows := List.mem_of_find?_eq_some hcurrent
  have hid : current.2.installationId = command.installationId := by
    have hfound := List.find?_some hcurrent
    exact of_decide_eq_true hfound
  have hp : ∀ r', SharesKey (withToken command.token current.2) r' → targeted command s r' := by
    rintro r' (hkey | ⟨he, ht⟩)
    · have hsame : r'.installationId = command.installationId := hkey.trans hid
      simp [targeted, PushInstallation.hasIdentity, hsame]
    · have he' : r'.environment = current.2.environment := he
      have ht' : r'.token = command.token := ht
      simp [targeted, htarget, PushInstallation.hasDestination, he', ht']
  have hshared : ∀ j r', (j, r') ∈ rows → SharesKey (withToken command.token current.2) r' → j ≠ current.1 →
      r'.environment = current.2.environment ∧ r'.token = command.token := by
    rintro j r' hj (hkey | hkey) hji
    · exact absurd (hm.eq hG hmem hj (.inl hkey)).symm hji
    · exact hkey
  cases hx : conflict command rows current with
  | none =>
    obtain rfl := hnone hx
    refine hm.owns hev hholds hp hmem (unwritten_of_empty hw _) (fun j _ => .inl (unwritten_of_empty hw j))
      (fun j r' hj hkey hji => ?_) (rows_closes_begin hw)
    have hnot := List.find?_eq_none.mp hx (j, r') hj
    obtain ⟨he, ht⟩ := hshared j r' hj hkey hji
    exact absurd (by simp [PushInstallation.hasDestination, he, ht, hji]) hnot
  | some x =>
    obtain ⟨hgiven, hunwritten, hcloses⟩ := hm.giveUp hw (List.mem_of_find?_eq_some hx) (h x hx)
    have hfound := List.find?_some hx
    simp only [PushInstallation.hasDestination, Bool.and_eq_true, decide_eq_true_eq] at hfound
    refine hm.owns hev hholds hp hmem (hunwritten _ (Ne.symm hfound.1)) (fun j _ => ?_) (fun j r' hj hkey hji => ?_)
      hcloses
    · by_cases hj : j = x.1
      · exact .inr (hj ▸ hgiven)
      · exact .inl (hunwritten j hj)
    · obtain ⟨he, ht⟩ := hshared j r' hj hkey hji
      have heq := hm.eq hG (List.mem_of_find?_eq_some hx) hj
        (.inr ⟨he.trans hfound.2.1.symm, ht.trans hfound.2.2.symm⟩)
      exact heq ▸ hgiven

/-- What the transaction has when it comes to the conflict. -/
structure Prepares (hashtextextended : String → Nat) (command : UpdatePushInstallationCommand)
    (rows : List (Uuid × PushInstallation)) (current : Uuid × PushInstallation) (s : Store Row) (l : Local) (g G : Shared) :
    Prop where
  matched : Matched hashtextextended (targeted command) rows s l g G
  writes : l.writes = []
  holds : Holds hashtextextended l (withToken command.token current.2)
  target : targetEnvironment command.installationId s = some current.2.environment

lemma lockMatching_prepares {l₁ : Local} {g₁ : Shared} (hG : History (contract hashtextextended ticks) G)
    (hw : l.writes = [])
    (hl : l' = lockedKeys hashtextextended command.installationId command.token l)
    (h : Runs (contract hashtextextended ticks) (lockMatching (targeted command)) l' g' (.ok rows) l₁ g₁ L G)
    (hcurrent : rows.find? (fun row => PushInstallation.hasIdentity command.installationId row.2) = some current) :
    ∃ s, Prepares hashtextextended command rows current s l₁ g₁ G := by
  have hid : current.2.installationId = command.installationId := by
    have hfound := List.find?_some hcurrent
    exact of_decide_eq_true hfound
  have hidentity : identityKey hashtextextended current.2.installationId ∈ l'.advisory := by
    rw [hl, hid]
    simp [lockedKeys]
  obtain ⟨hw₁, hadvisory, n, hn, hn', hm⟩ := lockMatching_ok h hG (by rw [hl]; exact hw) targeted_congr
  refine ⟨G.version n, hm, hw₁, ⟨?_, ?_⟩, ?_⟩
  · rw [hadvisory]
    exact hidentity
  · rw [hadvisory, hl]
    exact List.mem_cons_self
  · obtain ⟨-, hr, hlive, -⟩ := hm.locked current.1 current.2 (List.mem_of_find?_eq_some hcurrent)
    obtain ⟨r₀, hr₀, hlive₀, hbinding, -⟩ := isBound_of_later h.evolve (.inl hidentity) hn hn' (Nat.le_refl _)
      ⟨current.2, hr, hlive, rfl, rfl⟩
    obtain ⟨g₀, hg₀, -, hdb, -⟩ := hG.version hn'
    rw [targetEnvironment_eq (hdb ▸ hg₀.unique) hr₀ hlive₀ ((congrArg Binding.installationId hbinding).trans hid)]
    exact congrArg some (congrArg Binding.environment hbinding)

lemma updateInstallation_leaves {record : PushInstallationRecord} (hw : l.writes = [])
    (hG : History (contract hashtextextended ticks) G)
    (h : Runs (contract hashtextextended ticks) (updateInstallation hashtextextended command) l g (.ok record) l' g' L G) :
    Leaves hashtextextended ticks l' G := by
  unfold updateInstallation at h
  obtain ⟨_, l₁, g₁, h₁, r₁⟩ := h.bind
  obtain ⟨_, l₂, g₂, h₂, r₂⟩ := r₁.bind
  obtain ⟨_, l₃, g₃, h₃, r₃⟩ := r₂.bind
  obtain ⟨rows, l₄, g₄, h₄, r₄⟩ := r₃.bind
  obtain ⟨current, l₅, g₅, h₅, r₅⟩ := r₄.bind
  obtain ⟨_, l₆, g₆, h₆, r₆⟩ := r₅.bind
  obtain ⟨hcurrent, rfl⟩ := h₅.ofOption
  obtain ⟨-, rfl⟩ := h₆.ensure
  obtain ⟨s, hs⟩ := lockMatching_prepares hG ((requireLiveAccount_ok h₁).1.trans hw) (lockKeys_eq h₂ h₃) h₄ hcurrent
  have hm := hs.matched.later (h₅.returns.evolve.trans h₆.returns.evolve).later
  split at r₆
  · rename_i x hx
    obtain ⟨_, l₇, g₇, h₇, h₈⟩ := r₆.bind
    refine retokenInstallation_leaves (conflict_owns (L := L) hm hG.unique hs.writes hs.holds hs.target hcurrent
      h₇.returns.evolve (fun y hy => ?_) fun hnone => ?_) hG h₈
    · obtain rfl : x = y := Option.some.inj (hx.symm.trans hy)
      exact h₇
    · cases hx.symm.trans hnone
  · rename_i hx
    obtain ⟨_, l₇, g₇, h₇, h₈⟩ := r₆.bind
    refine retokenInstallation_leaves (conflict_owns (L := L) hm hG.unique hs.writes hs.holds hs.target hcurrent
      h₇.returns.evolve (fun y hy => ?_) fun _ => h₇.ret.2) hG h₈
    cases hx.symm.trans hy

lemma updateInstallation_error {e : PushRepositoryError} {operation : String} (hw : l.writes = [])
    (hl : Coherent index l g) (hG : History (contract hashtextextended ticks) G)
    (h : Runs (contract hashtextextended ticks) (updateInstallation hashtextextended command) l g (.error e) l' g' L G) :
    e ≠ .unavailable operation := by
  have hnotFound : e = .installationNotFound → e ≠ .unavailable operation := by
    rintro rfl
    exact nofun
  unfold updateInstallation at h
  rcases h.bind_error with h₁ | ⟨_, l₁, g₁, h₁, r₁⟩
  · rw [requireLiveAccount_error h₁]
    exact nofun
  rcases r₁.bind_error with h₂ | ⟨_, l₂, g₂, h₂, r₂⟩
  · exact (Runs.not_op_error h₂).elim
  rcases r₂.bind_error with h₃ | ⟨_, l₃, g₃, h₃, r₃⟩
  · exact (Runs.not_op_error h₃).elim
  rcases r₃.bind_error with h₄ | ⟨rows, l₄, g₄, h₄, r₄⟩
  · exact (h₄.failsIn (P := fun _ => False) failsIn_selectFor).elim
  rcases r₄.bind_error with h₅ | ⟨current, l₅, g₅, h₅, r₅⟩
  · exact hnotFound (h₅.failsIn (P := fun e => e = .installationNotFound) (failsIn_ofOption rfl))
  rcases r₅.bind_error with h₆ | ⟨_, l₆, g₆, h₆, r₆⟩
  · exact hnotFound (h₆.failsIn (P := fun e => e = .installationNotFound) (failsIn_ensure rfl))
  have hev := ((((h₁.returns.evolve.trans h₂.returns.evolve).trans h₃.returns.evolve).trans h₄.returns.evolve).trans
    h₅.returns.evolve).trans h₆.returns.evolve
  have hl₆ := hev.coherent hl
  obtain ⟨hcurrent, rfl⟩ := h₅.ofOption
  obtain ⟨-, rfl⟩ := h₆.ensure
  obtain ⟨s, hs⟩ := lockMatching_prepares hG ((requireLiveAccount_ok h₁).1.trans hw) (lockKeys_eq h₂ h₃) h₄ hcurrent
  have hm := hs.matched.later (h₅.returns.evolve.trans h₆.returns.evolve).later
  split at r₆
  · rename_i x hx
    rcases r₆.bind_error with h₇ | ⟨_, l₇, g₇, h₇, h₈⟩
    · exact hnotFound (deleteInstallationState_error h₇ hl₆)
    refine retokenInstallation_error (conflict_owns (L := L) hm hG.unique hs.writes hs.holds hs.target hcurrent
      h₇.returns.evolve (fun y hy => ?_) fun hnone => ?_) (h₇.returns.evolve.coherent hl₆) h₈
    · obtain rfl : x = y := Option.some.inj (hx.symm.trans hy)
      exact h₇
    · cases hx.symm.trans hnone
  · rename_i hx
    rcases r₆.bind_error with h₇ | ⟨_, l₇, g₇, h₇, h₈⟩
    · exact (Runs.not_ret_error h₇).elim
    refine retokenInstallation_error (conflict_owns (L := L) hm hG.unique hs.writes hs.holds hs.target hcurrent
      h₇.returns.evolve (fun y hy => ?_) fun _ => h₇.ret.2) (h₇.returns.evolve.coherent hl₆) h₈
    cases hx.symm.trans hy

end Update

section Delete

variable {command : DeletePushInstallationCommand}

lemma deleteInstallation_leaves (hw : l.writes = [])
    (h : Runs (contract hashtextextended ticks) (deleteInstallation hashtextextended command) l g (.ok ()) l' g' L G) :
    Leaves hashtextextended ticks l' G := by
  unfold deleteInstallation at h
  obtain ⟨_, l₁, g₁, h₁, r₁⟩ := h.bind
  obtain ⟨rows, l₂, g₂, h₂, r₂⟩ := r₁.bind
  obtain ⟨i, l₃, g₃, h₃, h₄⟩ := r₂.bind
  obtain ⟨hhead, rfl⟩ := h₃.ofOption
  have hw₁ : l₁.writes = [] := by
    rw [h₁.advisory]
    exact hw
  obtain ⟨gs, -, -, hlocked⟩ := h₂.selectFor nofun
  have hw₃ : l₃.writes = [] := by
    rw [hlocked.frame]
    exact hw₁
  obtain ⟨j, -, t, r, -, hlock, hr, hf⟩ := hlocked.mem i (List.mem_of_mem_head? hhead)
  rw [hw₁, Store.apply_nil] at hr
  split at hf
  swap
  · cases hf
  rename_i hcond
  cases hf
  rw [Bool.and_eq_true] at hcond
  obtain ⟨hgiven, hothers⟩ := deleteInstallationState_ok h₄ hlock (unwritten_of_empty hw₃ _) hr
    (Option.isNone_iff_eq_none.mp hcond.2)
  exact .of_givenUp hw₃ hgiven hothers (keeps_deleteInstallationState.rows h₄ (rows_closes_begin hw₃))

lemma deleteInstallation_error {e : PushRepositoryError} (hl : Coherent index l g)
    (h : Runs (contract hashtextextended ticks) (deleteInstallation hashtextextended command) l g (.error e) l' g' L G) :
    e = .installationNotFound := by
  unfold deleteInstallation at h
  rcases h.bind_error with h₁ | ⟨_, l₁, g₁, h₁, r₁⟩
  · exact (Runs.not_op_error h₁).elim
  rcases r₁.bind_error with h₂ | ⟨rows, l₂, g₂, h₂, r₂⟩
  · exact (h₂.failsIn (P := fun _ => False) failsIn_selectFor).elim
  rcases r₂.bind_error with h₃ | ⟨i, l₃, g₃, h₃, h₄⟩
  · exact h₃.failsIn (P := fun e => e = .installationNotFound) (failsIn_ofOption rfl)
  exact deleteInstallationState_error h₄
    (((h₁.returns.evolve.trans h₂.returns.evolve).trans h₃.returns.evolve).coherent hl)

end Delete

section Quiet

/-- How a call without the locks of a device may change its row: it keeps the binding or deletes the row. -/
inductive Recedes : Option PushInstallation → Option PushInstallation → Prop
  | same (v : Option PushInstallation) : Recedes v v
  | kept {b r : PushInstallation} (binding : PushInstallation.binding r = PushInstallation.binding b)
      (ownerEpoch : r.ownerEpoch = b.ownerEpoch) (deletedAt : r.deletedAt = b.deletedAt) : Recedes (some b) (some r)
  | deleted {b r : PushInstallation} (ownerEpoch : r.ownerEpoch = b.ownerEpoch) (before : b.deletedAt = none)
      (after : r.deletedAt ≠ none) : Recedes (some b) (some r)

/-- What calls without the locks of a device keep. -/
def Quiet : (k : Key) → Option (Row k) → Option (Row k) → Prop
  | .pushInstallations _, base, v => Recedes base v
  | .pushDeliveryIntents _, base, v => OccurrenceStep base v
  | _, _, _ => True

lemma Recedes.keep {base : Option PushInstallation} {r r' : PushInstallation} (h : Recedes base (some r))
    (hb : PushInstallation.binding r' = PushInstallation.binding r) (he : r'.ownerEpoch = r.ownerEpoch)
    (hd : r'.deletedAt = r.deletedAt) : Recedes base (some r') := by
  cases h with
  | same => exact .kept hb he hd
  | kept binding ownerEpoch deletedAt => exact .kept (hb.trans binding) (he.trans ownerEpoch) (hd.trans deletedAt)
  | deleted ownerEpoch before after => exact .deleted (he.trans ownerEpoch) before (hd ▸ after)

lemma Recedes.delete {base : Option PushInstallation} {r r' : PushInstallation} (h : Recedes base (some r))
    (hlive : r.deletedAt = none) (he : r'.ownerEpoch = r.ownerEpoch) (hd : r'.deletedAt ≠ none) :
    Recedes base (some r') := by
  cases h with
  | same => exact .deleted he hlive hd
  | kept binding ownerEpoch deletedAt => exact .deleted (he.trans ownerEpoch) (deletedAt.symm.trans hlive) hd
  | deleted ownerEpoch before after => exact absurd hlive after

lemma Recedes.step {i : Uuid} {base v : Option PushInstallation} (h : Recedes base v) :
    InstallationStep hashtextextended l i base v := by
  cases h with
  | same => exact .same _
  | kept binding ownerEpoch deletedAt => exact .kept binding ownerEpoch deletedAt
  | deleted ownerEpoch before after => exact .deleted ownerEpoch before after

lemma Recedes.ownerEpoch_eq {b r : PushInstallation} (h : Recedes (some b) (some r)) : r.ownerEpoch = b.ownerEpoch := by
  cases h with
  | same => rfl
  | kept binding ownerEpoch deletedAt => exact ownerEpoch
  | deleted ownerEpoch before after => exact ownerEpoch

lemma rows_quiet_begin (hw : l.writes = []) : Rows Quiet G l := by
  refine rows_of_empty hw fun k => ?_
  cases k <;> first | exact .same _ | trivial

lemma Leaves.of_quiet (h : Rows Quiet G l) : Leaves hashtextextended ticks l G where
  installations i := Recedes.step (h (.pushInstallations i))
  occurrences k := by
    cases k with
    | pushDeliveryIntents j => exact h (.pushDeliveryIntents j)
    | _ => trivial
  rebound i b r hb hr hepoch := by
    have hstep : Recedes _ _ := h (.pushInstallations i)
    rw [hb, hr] at hstep
    rw [hstep.ownerEpoch_eq] at hepoch
    exact absurd hepoch (Nat.lt_irrefl _)

variable {claim : PushDeliveryClaim} {destination : ExpoPushDestination} {topology : OccurrenceTopology}

lemma keeps_terminalizeLiveClaim {C : Contract (system hashtextextended ticks)} :
    (terminalizeLiveClaim claim topology).Keeps C Quiet := by
  refine keeps_clock.bind fun now => Keeps.bind (keeps_update fun s j base t r r' a hr hf => ?_) fun _ => keeps_ret
  split at hf
  · cases hf
    exact OccurrenceStep.close hr (.inr rfl)
  · cases hf

lemma keeps_disableInstallation {C : Contract (system hashtextextended ticks)} :
    (disableInstallation topology destination).Keeps C Quiet := by
  refine Keeps.bind (keeps_update fun s i base t r r' a hr hf => ?_) fun _ => keeps_ensure
  split at hf
  · cases hf
    exact Recedes.keep hr rfl rfl rfl
  · cases hf

lemma terminalizeLiveClaim_not_error {C : Contract (system hashtextextended ticks)} {e : PushRepositoryError}
    (hl : Coherent index l g) : ¬ Runs C (terminalizeLiveClaim claim topology) l g (.error e) l' g' L G := by
  intro h
  unfold terminalizeLiveClaim at h
  rcases h.bind_error with h₁ | ⟨now, l₁, g₁, h₁, r₁⟩
  · exact Runs.not_op_error h₁
  rcases r₁.bind_error with h₂ | ⟨rows, l₂, g₂, h₂, h₃⟩
  · refine Runs.update_not_error (h₁.returns.evolve.coherent hl) (fun s => s.nodup_one ..) (fun s j t r r' a hf => ?_) h₂
    split at hf
    · cases hf
      exact List.Subset.refl _
    · cases hf
  · exact Runs.not_ret_error h₃

lemma disableInstallation_error {C : Contract (system hashtextextended ticks)} {e : PushRepositoryError}
    (hl : Coherent index l g) (h : Runs C (disableInstallation topology destination) l g (.error e) l' g' L G) :
    e = .invalidData := by
  unfold disableInstallation at h
  rcases h.bind_error with h₁ | ⟨rows, l₁, g₁, h₁, h₂⟩
  · refine (Runs.update_not_error hl (fun s => s.nodup_one ..) (fun s j t r r' a hf => ?_) h₁).elim
    split at hf
    · cases hf
      exact List.Subset.refl _
    · cases hf
  · exact h₂.failsIn (P := fun e => e = .invalidData) (failsIn_ensure rfl)

lemma keeps_disableInvalidDestination {C : Contract (system hashtextextended ticks)} :
    (disableInvalidDestination claim destination).Keeps C Quiet := by
  refine keeps_ensure.bind fun _ => keeps_ensure.bind fun _ => Keeps.bind ?_ fun topology => ?_
  · refine keeps_select.bind fun row => ?_
    cases row with
    | none => exact keeps_ret
    | some r =>
      dsimp only
      split
      · exact keeps_fail
      · exact keeps_ret
  · cases topology with
    | none => exact keeps_ret
    | some topology =>
      refine (keeps_selectFor.bind fun _ => keeps_ret).bind fun exact_ => ?_
      cases exact_ with
      | false => exact keeps_ret
      | true =>
        refine keeps_terminalizeLiveClaim.bind fun terminalized => ?_
        cases terminalized with
        | false => exact keeps_ret
        | true => exact keeps_disableInstallation.bind fun _ => keeps_ret

lemma disableInvalidDestination_error {C : Contract (system hashtextextended ticks)} {e : PushRepositoryError}
    (hl : Coherent index l g) (h : Runs C (disableInvalidDestination claim destination) l g (.error e) l' g' L G) :
    e = .invalidData := by
  unfold disableInvalidDestination at h
  rcases h.bind_error with h₁ | ⟨_, l₁, g₁, h₁, r₁⟩
  · exact h₁.failsIn (P := fun e => e = .invalidData) (failsIn_ensure rfl)
  rcases r₁.bind_error with h₂ | ⟨_, l₂, g₂, h₂, r₂⟩
  · exact h₂.failsIn (P := fun e => e = .invalidData) (failsIn_ensure rfl)
  have hl₂ := (h₁.returns.evolve.trans h₂.returns.evolve).coherent hl
  rcases r₂.bind_error with h₃ | ⟨topology, l₃, g₃, h₃, r₃⟩
  · refine h₃.failsIn (P := fun e => e = .invalidData) (failsIn_select.bind fun row => ?_)
    cases row with
    | none => trivial
    | some r =>
      dsimp only
      split
      · exact rfl
      · trivial
  have hl₃ := h₃.returns.evolve.coherent hl₂
  cases topology with
  | none => exact (Runs.not_ret_error r₃).elim
  | some topology =>
    rcases r₃.bind_error with h₄ | ⟨exact_, l₄, g₄, h₄, r₄⟩
    · exact (h₄.failsIn (P := fun _ => False) (failsIn_selectFor.bind fun _ => trivial)).elim
    have hl₄ := h₄.returns.evolve.coherent hl₃
    cases exact_ with
    | false => exact (Runs.not_ret_error r₄).elim
    | true =>
      rcases r₄.bind_error with h₅ | ⟨terminalized, l₅, g₅, h₅, r₅⟩
      · exact (terminalizeLiveClaim_not_error hl₄ h₅).elim
      have hl₅ := h₅.returns.evolve.coherent hl₄
      cases terminalized with
      | false => exact (Runs.not_ret_error r₅).elim
      | true =>
        rcases r₅.bind_error with h₆ | ⟨_, l₆, g₆, h₆, h₇⟩
        · exact disableInstallation_error hl₅ h₆
        · exact (Runs.not_ret_error h₇).elim

end Quiet

end JamyeServer.Installations
