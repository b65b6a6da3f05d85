import JamyeServer.Avatars.Commits
import JamyeServer.Postgres.Indexes

/-!
# Avatars do not meet a unique index

A user has at most one pending and at most one active upload. The transactions make room in the index before
they write, and nobody else writes uploads of the user then, so none of them fails there.
-/

namespace JamyeServer.Avatars

open ReadCommitted Postgres Avatars Prog

variable {publicBaseUrl : String} {ticks : Time → Time → Bool} {l l' L : Local} {g g' G : Shared} {userId : Uuid}

section Entries

lemma mem_index_upload (i : Uuid) {r : UserAvatarUpload} {x : Idx} : x ∈ index (.userAvatarUploads i) r ↔
    x = .avatarObject r.objectKey ∨ r.status ≠ .released ∧ x = .avatarUser r.status r.userId := by
  simp [index, mem_indexedIf]

lemma upload_of_mem_entries {s : Store Row} {k : Key} {x : Idx} (h : x ∈ entries index k (s.get k))
    (hx : (∃ objectKey, x = .avatarObject objectKey) ∨ ∃ status userId, x = .avatarUser status userId) :
    ∃ i r, k = .userAvatarUploads i ∧ s.get (.userAvatarUploads i) = some r ∧
      (x = .avatarObject r.objectKey ∨ r.status ≠ .released ∧ x = .avatarUser r.status r.userId) := by
  have hk : ∃ i, k = .userAvatarUploads i := by
    have hof := isOf_of_mem_entries h
    rcases hx with ⟨objectKey, rfl⟩ | ⟨status, userId, rfl⟩
    · exact hof
    · exact hof
  obtain ⟨i, rfl⟩ := hk
  cases hrow : s.get (.userAvatarUploads i) with
  | none =>
    rw [hrow] at h
    cases h
  | some r =>
    rw [hrow] at h
    exact ⟨i, r, rfl, hrow, (mem_index_upload i).mp h⟩

/-- No version of the uploads has another one with this status, once all of them are released. -/
lemma Released.no_entry {status : AvatarStatus} {l₀ l₁ : Local} {g₁ : Shared} {n : Nat} {i : Uuid} {r : UserAvatarUpload}
    (h : Released userId status true l₀ l₁ G) (hstatus : status ≠ .released)
    (hev : Evolve (contract publicBaseUrl ticks) l₁ g₁ L G) (hlock : (.users userId, .update) ∈ l₁.locks)
    (hn : g₁.csn ≤ n) (hn' : n ≤ G.csn) (hr : ((G.version n).apply l₁.writes).get (.userAvatarUploads i) = some r)
    (huser : r.userId = userId) : r.status ≠ status := by
  rcases h.cases i with ⟨r', t, -, -, -, -, ht⟩ | ⟨hsame, hnone⟩
  · rw [ht] at hr
    cases hr
    exact fun h => hstatus h.symm
  · rw [hsame] at hr
    intro hs
    cases hnone r ((uploads_stable hev hlock hn hn' (Nat.le_refl _) i huser).mp hr) huser hs

/-- The objects of all uploads that a transaction sees are named after them. -/
lemma Released.minted {status : AvatarStatus} {released : Bool} {l₀ l₁ : Local} {n : Nat}
    (h : Released userId status released l₀ l₁ G) (hg : History (contract publicBaseUrl ticks) G) (hn : n ≤ G.csn) :
    Minted ((G.version n).apply l₁.writes) := by
  intro i r hr
  rcases h.cases i with ⟨r', t, hr', -, -, -, ht⟩ | ⟨hsame, -⟩
  · rw [ht] at hr
    cases hr
    exact minted_of_history hg (Nat.le_refl _) i r' hr'
  · rw [hsame] at hr
    exact minted_of_history hg hn i r hr

/-- A new version of an upload of the user does not collide with any other row. -/
lemma Released.no_collision {status : AvatarStatus} {l₀ l₁ : Local} {g₁ : Shared} {n : Nat} {i : Uuid}
    {r : UserAvatarUpload} {k : Key} {x : Idx} (h : Released userId status true l₀ l₁ G) (hstatus : status ≠ .released)
    (hg : History (contract publicBaseUrl ticks) G) (hev : Evolve (contract publicBaseUrl ticks) l₁ g₁ L G)
    (hlock : (.users userId, .update) ∈ l₁.locks) (hn : g₁.csn ≤ n) (hn' : n ≤ G.csn) (huser : r.userId = userId)
    (hr : r.status = status) (hkey : r.objectKey = mintAvatarObjectKey r.userId i) (hne : k ≠ .userAvatarUploads i)
    (hx : x ∈ index (.userAvatarUploads i) r) : x ∉ entries index k (((G.version n).apply l₁.writes).get k) := by
  intro hentry
  rcases (mem_index_upload i).mp hx with rfl | ⟨-, rfl⟩
  · obtain ⟨j, r', rfl, hr', hobject | ⟨-, hobject⟩⟩ := upload_of_mem_entries hentry (.inl ⟨_, rfl⟩)
    · have hminted := h.minted hg hn' j r' hr'
      rw [← Idx.avatarObject.inj hobject, hkey] at hminted
      exact hne (congrArg Key.userAvatarUploads (mintAvatarObjectKey_injective hminted).symm)
    · cases hobject
  · obtain ⟨j, r', -, hr', hobject | ⟨-, hobject⟩⟩ := upload_of_mem_entries hentry (.inr ⟨_, _, rfl⟩)
    · cases hobject
    · obtain ⟨hactive, huser'⟩ := Idx.avatarUser.inj hobject
      exact h.no_entry hstatus hev hlock hn hn' hr' (huser'.symm.trans huser) (hactive.symm.trans hr)

end Entries

section Create

variable {command : CreateAvatarIntentCommand}

lemma createIntent_error {e : AvatarRepositoryError}
    (h : Runs (contract publicBaseUrl ticks) (createIntent command) l g (.error e) l' g' L G) (hl : Coherent index l g)
    (hw : l.writes = []) (hg : History (contract publicBaseUrl ticks) G)
    (hfresh : ∀ n, n ≤ G.csn → (G.version n).get (.userAvatarUploads command.id) = none)
    (hkey : command.objectKey = mintAvatarObjectKey command.userId command.id) : ∀ operation, e ≠ .unavailable operation := by
  unfold createIntent at h
  rcases h.bind_error with h₁ | ⟨_, l₁, g₁, h₁, r₁⟩
  · rw [lockLiveUser_error h₁]
    exact fun _ => nofun
  obtain ⟨hlock, hwrites, u, hu, -⟩ := lockLiveUser_ok h₁
  have hl₁ := h₁.returns.evolve.coherent hl
  rcases r₁.bind_error with h₂ | ⟨released, l₂, g₂, h₂, r₂⟩
  · exact (releaseRows_not_error hl₁ h₂).elim
  rcases r₂.bind_error with h₃ | ⟨_, l₃, g₃, h₃, r₃⟩
  · exact (enqueueObjectDeletions_not_error h₃).elim
  have hreleased := (releaseRows_releases h₂ hlock (hwrites.trans hw)).enqueue h₃
  have hl₃ : (.users command.userId, .update) ∈ l₃.locks := (h₂.returns.evolve.trans h₃.returns.evolve).locks hlock
  rcases r₃.bind_error with h₄ | ⟨_, l₄, g₄, h₄, r₄⟩
  · have he : e = .invalidData := h₄.failsIn (P := fun x => x = .invalidData) (failsIn_ensure rfl)
    rw [he]
    exact fun _ => nofun
  obtain ⟨-, rfl⟩ := h₄.ensure
  rcases r₄.bind_error with h₅ | ⟨now, l₅, g₅, h₅, r₅⟩
  · exact (Runs.not_op_error h₅).elim
  obtain ⟨rfl, -⟩ := h₅.clock
  rcases r₅.bind_error with h₆ | ⟨_, l₆, g₆, h₆, r₆⟩
  swap
  · exact (Runs.not_ret_error r₆).elim
  exfalso
  have hG : g'.csn ≤ G.csn := h₆.rest.later.csn_le
  rcases h₆.insertRow_error with ⟨n, hn, hn', hcollision⟩ | ⟨p, hp, n, hn, hn', hmissing⟩
  · rcases collision_ne_none hcollision with htaken | ⟨k, hne, x, hx, hentry⟩
    · rcases hreleased.cases command.id with ⟨r, t, hr, -⟩ | ⟨hsame, -⟩
      · have hnone : G.db.get (.userAvatarUploads command.id) = none := hfresh _ (Nat.le_refl _)
        rw [hnone] at hr
        cases hr
      · rw [hsame, hfresh n (Nat.le_trans hn' hG)] at htaken
        exact htaken rfl
    · exact hreleased.no_collision nofun hg h₆.evolve hl₃ hn (Nat.le_trans hn' hG) rfl rfl hkey hne hx hentry
  · -- the parent of the new row is the user, whose row is locked
    obtain rfl := List.mem_singleton.mp hp
    have hrow : (G.version n).get (.users command.userId) = some u := by
      rw [h₆.evolve.version_locked hl₃ nofun hn (Nat.le_trans hn' hG), ← h₆.evolve.db_locked hl₃ nofun]
      rw [hw, Store.apply_nil] at hu
      exact hu
    have hset : ∀ s : Store Row, ∀ v : UserAvatarUpload,
        (s.set ⟨.userAvatarUploads command.id, some v⟩).get (.users command.userId) = s.get (.users command.userId) :=
      fun s v => Store.get_set_mk_of_ne s _ nofun
    rw [Store.apply_cons, hset, hreleased.users, hwrites, hw, Store.apply_nil, hrow] at hmissing
    cases hmissing

lemma createUpload_fails {actorId : Uuid} {contentType : String} {byteSize : Nat} {e : AvatarError}
    (h : Runs (contract publicBaseUrl ticks) (program publicBaseUrl (.createUpload actorId contentType byteSize))
      l g (.error e) L G L G) (hl : Coherent index l g) (hw : l.writes = [])
    (hg : History (contract publicBaseUrl ticks) g) : MayFail e := by
  have hG := h.evolve.later.history hg
  unfold program createUpload at h
  rcases h.bind_error with h₁ | ⟨record, l₁, g₁, h₁, r₁⟩
  swap
  · exact (Runs.not_ret_error r₁).elim
  rcases h₁.bind_error with h₂ | ⟨_, l₂, g₂, h₂, r₂⟩
  · have he : e = .requestValidation := h₂.failsIn (P := fun x => x = .requestValidation) (failsIn_ensure rfl)
    rw [he]
    exact fun _ => ⟨nofun, nofun⟩
  obtain ⟨-, rfl⟩ := h₂.ensure
  rcases r₂.bind_error with h₃ | ⟨uploadId, l₃, g₃, h₃, r₃⟩
  · exact (Runs.not_op_error h₃).elim
  obtain ⟨e', rfl, hrun⟩ := r₃.mapError_error
  have hg₂ := h₂.returns.evolve.later.history hg
  have hl₃ := h₃.returns.evolve.coherent (h₂.returns.evolve.coherent hl)
  have herror := createIntent_error hrun hl₃ (by rw [h₃.fresh.1]; exact hw) hG (drawnKeys.fresh hg₂ h₃).2 rfl
  exact fun operation => ⟨fun he => herror operation (AvatarError.avatar.inj he), nofun⟩

end Create

section Activate

variable {command : ActivateAvatarCommand}

lemma activatePending_error {e : AvatarRepositoryError} {r : UserAvatarUpload}
    (h : Runs (contract publicBaseUrl ticks) (activatePending command) l g (.error e) l' g' L G) (hl : Coherent index l g)
    (hw : l.writes = []) (hg : History (contract publicBaseUrl ticks) G)
    (hlock : (.users command.actorId, .update) ∈ l.locks)
    (hrow : G.db.get (.userAvatarUploads command.uploadId) = some r) (huser : r.userId = command.actorId)
    (hstatus : r.status = .pending) : ∀ operation, e ≠ .unavailable operation := by
  unfold activatePending at h
  rcases h.bind_error with h₁ | ⟨released, l₁, g₁, h₁, r₁⟩
  · exact (releaseRows_not_error hl h₁).elim
  rcases r₁.bind_error with h₂ | ⟨_, l₂, g₂, h₂, r₂⟩
  · exact (enqueueObjectDeletions_not_error h₂).elim
  have hev := h₁.returns.evolve.trans h₂.returns.evolve
  have hreleased := (releaseRows_releases h₁ hlock hw).enqueue h₂
  have hl₂ := hev.locks hlock
  rcases r₂.bind_error with h₃ | ⟨_, l₃, g₃, h₃, r₃⟩
  · exfalso
    have hpending := hreleased.other command.uploadId fun r' hr' _ hactive => by
      rw [hrow] at hr'
      cases hr'
      rw [hstatus] at hactive
      cases hactive
    obtain ⟨s, t, r₀, r', a, n, k, hr₀, hf, hn, hn', hviolation⟩ := h₃.update_one_error
    rw [hpending, hrow] at hr₀
    cases hr₀
    cases hf
    have hn'' : n ≤ G.csn := Nat.le_trans hn' h₃.rest.later.csn_le
    obtain ⟨hne, x, hx, hentry⟩ := violation_eq_some hviolation
    exact hreleased.no_collision (r := { r with status := .active }) nofun hg h₃.evolve hl₂ hn hn'' huser rfl
      (minted_of_history hg (Nat.le_refl _) _ r hrow) hne hx hentry
  rcases r₃.bind_error with h₄ | ⟨profile, l₄, g₄, h₄, r₄⟩
  · exact (updateUser_not_error (h₃.returns.evolve.coherent (hev.coherent hl)) h₄).elim
  have he : e = .uploadNotFound := r₄.failsIn (P := fun x => x = .uploadNotFound) (failsIn_ofOption rfl)
  rw [he]
  exact fun _ => nofun

lemma finalize_fails {actorId uploadId : Uuid} {e : AvatarError}
    (h : Runs (contract publicBaseUrl ticks) (program publicBaseUrl (.finalize actorId uploadId)) l g (.error e) L G L G)
    (hl : Coherent index l g) (hw : l.writes = []) (hg : History (contract publicBaseUrl ticks) g) : MayFail e := by
  have hG := h.evolve.later.history hg
  unfold program finalize at h
  rcases h.bind_error with h₁ | ⟨record, l₁, g₁, h₁, r₁⟩
  swap
  · exact (Runs.not_ret_error r₁).elim
  obtain ⟨e', rfl, hrun⟩ := h₁.mapError_error
  suffices herror : ∀ operation, e' ≠ .unavailable operation from
    fun operation => ⟨fun he => herror operation (AvatarError.avatar.inj he), fun he => by cases he⟩
  unfold activate at hrun
  rcases hrun.bind_error with h₂ | ⟨_, l₂, g₂, h₂, r₂⟩
  · rw [lockLiveUser_error h₂]
    exact fun _ h => by cases h
  rcases r₂.bind_error with h₃ | ⟨rows, l₃, g₃, h₃, r₃⟩
  · exact (h₃.failsIn (P := fun _ => False) failsIn_selectFor).elim
  rcases r₃.bind_error with h₄ | ⟨row, l₄, g₄, h₄, r₄⟩
  · have he : e' = .uploadNotFound := h₄.failsIn (P := fun x => x = .uploadNotFound) (failsIn_ofOption rfl)
    rw [he]
    exact fun _ h => by cases h
  obtain ⟨hhead, rfl⟩ := h₄.ofOption
  obtain ⟨hlock, hwrites, -⟩ := lockLiveUser_ok h₂
  obtain ⟨gs, -, -, hrows⟩ := h₃.selectFor (by decide)
  have hw₄ : l₄.writes = [] := by rw [hrows.frame, hwrites, hw]
  obtain ⟨i, hi, t, r, -, -, hr, hf⟩ := hrows.mem row (List.mem_of_mem_head? hhead)
  obtain rfl := (Store.mem_one.mp hi).1
  have hev := (h₂.returns.evolve.trans h₃.returns.evolve).trans h₄.returns.evolve
  have hl₄ := h₄.returns.evolve.locks (h₃.returns.evolve.locks hlock)
  rw [hwrites, hw, Store.apply_nil] at hr
  split at r₄
  · split at hf
    · rename_i hmatch
      have hstatus : r.status = .pending := (Prod.mk.inj (Option.some.inj hf)).1
      exact activatePending_error r₄ (hev.coherent hl) hw₄ hG hl₄ hr hmatch.1 hstatus
    · cases hf
  · have he : e' = .uploadNotFound := by
      refine r₄.failsIn (P := fun x => x = .uploadNotFound) ?_
      exact failsIn_select.bind fun _ => failsIn_ofOption rfl
    rw [he]
    exact fun _ h => by cases h
  · rw [r₄.fail]
    exact fun _ h => by cases h
  · rw [r₄.fail]
    exact fun _ h => by cases h

end Activate

section Profile

lemma releaseActiveForProfileChange_not_error {ε : Type} {newAvatarUrl : Option String} {error e : ε}
    (hl : Coherent index l g) : ¬ Runs (contract publicBaseUrl ticks)
      (releaseActiveForProfileChange userId newAvatarUrl error) l g (.error e) l' g' L G := by
  intro h
  unfold releaseActiveForProfileChange at h
  rcases h.bind_error with h₁ | ⟨found, l₁, g₁, h₁, r₁⟩
  · exact h₁.failsIn (P := fun _ => False) failsIn_selectFor
  rcases r₁.bind_error with h₂ | ⟨released, l₂, g₂, h₂, r₂⟩
  · refine release_not_error (h₁.returns.evolve.coherent hl) (fun s => s.nodup_ids ..) ?_ h₂
    intro s i t r x hx
    split at hx
    · cases hx
      rfl
    · cases hx
  · exact enqueueObjectDeletions_not_error r₂

lemma updateProfile_fails {patch : ProfilePatch} {e : AvatarError}
    (h : Runs (contract publicBaseUrl ticks) (program publicBaseUrl (.updateProfile userId patch)) l g (.error e) L G L G)
    (hl : Coherent index l g) : MayFail e := by
  unfold program updateProfile at h
  rcases h.bind_error with h₁ | ⟨record, l₁, g₁, h₁, r₁⟩
  swap
  · exact (Runs.not_ret_error r₁).elim
  rcases h₁.bind_error with h₂ | ⟨profile, l₂, g₂, h₂, r₂⟩
  · obtain ⟨e', rfl, hrun⟩ := h₂.mapError_error
    exfalso
    unfold updateProfileRecord at hrun
    by_cases hpatch : patch.avatarUrl = .unchanged
    · rw [if_pos hpatch] at hrun
      rcases hrun.bind_error with h₃ | ⟨_, l₃, g₃, h₃, r₃⟩
      · exact Runs.not_ret_error h₃
      · exact updateUser_not_error (h₃.returns.evolve.coherent hl) r₃
    · rw [if_neg hpatch] at hrun
      rcases hrun.bind_error with h₃ | ⟨_, l₃, g₃, h₃, r₃⟩
      · exact releaseActiveForProfileChange_not_error hl h₃
      · exact updateUser_not_error (h₃.returns.evolve.coherent hl) r₃
  · have he : e = .profileNotFound := r₂.failsIn (P := fun x => x = .profileNotFound) (failsIn_ofOption rfl)
    rw [he]
    exact fun _ => ⟨nofun, nofun⟩

end Profile

/-- Every transaction ends as the contract says. -/
theorem programs : (contract publicBaseUrl ticks).Programs := by
  intro job g hg r l' g' h
  have hl : Coherent index (Local.begin g) g := hg.coherent_begin
  cases r with
  | ok out =>
    have hrun : Runs (contract publicBaseUrl ticks) (program publicBaseUrl job) (Local.begin g) g (.ok out) l' g' l' g' :=
      ⟨h, .refl⟩
    have hg' := hrun.evolve.later.history hg
    cases job with
    | createUpload actorId contentType byteSize => exact createUpload_commits hrun rfl hg' _
    | finalize actorId uploadId => exact finalize_commits hrun rfl hg' _
    | updateProfile userId patch => exact updateProfile_commits hrun rfl hg' _
  | error e =>
    have hrun : Runs (contract publicBaseUrl ticks) (program publicBaseUrl job) (Local.begin g) g (.error e) l' g' l' g' :=
      ⟨h, .refl⟩
    cases job with
    | createUpload actorId contentType byteSize => exact createUpload_fails hrun hl rfl hg
    | finalize actorId uploadId => exact finalize_fails hrun hl rfl hg
    | updateProfile userId patch => exact updateProfile_fails hrun hl

/-- How the status of an upload may move. -/
inductive Moves : AvatarStatus → AvatarStatus → Prop
  | kept (status : AvatarStatus) : Moves status status
  | activated : Moves .pending .active
  | replaced : Moves .active .released
  | discarded : Moves .pending .released

lemma UploadStep.moves {e : Entry} {i : Uuid} {v v' : Option UserAvatarUpload} (h : UploadStep e i v v')
    {r : UserAvatarUpload} (hr : v = some r) : ∃ r', v' = some r' ∧ r'.userId = r.userId ∧ Moves r.status r'.status := by
  cases h with
  | same => exact ⟨r, hr, rfl, .kept _⟩
  | created => cases hr
  | @activated r₀ status lock =>
    cases hr
    refine ⟨_, rfl, rfl, ?_⟩
    rw [status]
    exact .activated
  | @released r₀ t status lock =>
    cases hr
    refine ⟨_, rfl, rfl, ?_⟩
    change Moves r.status .released
    cases hs : r.status with
    | pending => exact .discarded
    | active => exact .replaced
    | released => exact absurd hs status

lemma sound_of_reachable {s : State} (h : (system publicBaseUrl ticks).Reachable Starts s) :
    Sound (contract publicBaseUrl ticks) s :=
  reachable_sound (fun _ _ _ _ _ _ _ => ⟨trivial, fun _ _ => trivial⟩) programs h

/-- In every state that intents, activations and profile changes reach in any interleaving, a user has at most one
pending and at most one active upload; uploads move from pending to active to released or from pending to
released; the profile of a user with an active upload shows it; and no call fails in a unique index. -/
theorem avatars_consistent {s : State} (hs : (system publicBaseUrl ticks).Reachable Starts s) :
    (∀ i j r r', s.shared.db.get (.userAvatarUploads i) = some r → s.shared.db.get (.userAvatarUploads j) = some r' →
      r.userId = r'.userId → r.status = r'.status → r.status ≠ .released → i = j) ∧
    (∀ n, n < s.shared.csn → ∀ i, ((s.shared.version n).get (.userAvatarUploads i) = none →
        ∀ r', (s.shared.version (n + 1)).get (.userAvatarUploads i) = some r' → r'.status = .pending) ∧
      ∀ r, (s.shared.version n).get (.userAvatarUploads i) = some r →
        ∃ r', (s.shared.version (n + 1)).get (.userAvatarUploads i) = some r' ∧ r'.userId = r.userId ∧
          Moves r.status r'.status) ∧
    (∀ i r, s.shared.db.get (.userAvatarUploads i) = some r → r.status = .active →
      ∃ u, s.shared.db.get (.users r.userId) = some u ∧ u.avatarUrl = some (avatarPublicUrl publicBaseUrl i)) ∧
    ∀ t ∈ s.txs, ∀ operation, t.prog ≠ .fail (.avatar (.unavailable operation)) ∧
      t.prog ≠ .fail (.profile (.unavailable operation)) := by
  have hsound := sound_of_reachable hs
  have hg := hsound.history
  refine ⟨?_, ?_, shown_of_history hg, ?_⟩
  · intro i j r r' hi hj huser hstatus hlive
    have hentry : ∀ {i r}, s.shared.db.get (.userAvatarUploads i) = some r → r.status ≠ .released →
        .avatarUser r.status r.userId ∈ entries index (.userAvatarUploads i) (s.shared.db.get (.userAvatarUploads i)) := by
      intro i r hr hlive
      rw [hr]
      exact (mem_index_upload i).mpr (.inr ⟨hlive, rfl⟩)
    have hkeys := hg.unique (.userAvatarUploads i) (.userAvatarUploads j) (.avatarUser r.status r.userId) (hentry hi hlive)
      (by rw [huser, hstatus]; exact hentry hj (hstatus ▸ hlive))
    cases hkeys
    rfl
  · intro n hn i
    have he : s.shared.log[n]? = some (s.shared.log.get ⟨n, hn⟩) := List.getElem?_eq_getElem hn
    obtain ⟨g₁, -, rfl, hc, hlater⟩ := hg.entry he
    obtain ⟨hbefore, hafter⟩ := hlater.version_commit
    rw [hbefore, hafter]
    have hstep := hc.ok.uploads i
    constructor
    · intro hnone r' hr'
      rw [hnone, hr'] at hstep
      cases hstep with
      | created status => exact status
    · exact fun r hr => hstep.moves hr
  · intro t ht operation
    constructor
    · exact fun hp => (hsound.fails ht hp operation).1 rfl
    · exact fun hp => (hsound.fails ht hp operation).2 rfl

section Sample

abbrev sampleSystem := system "https://server/" fun t t' => decide (t ≤ t')

/-- One user with an identity. -/
def sampleUsers : Store Row :=
  (Store.empty.set ⟨.users 1, some { nickname := "user" }⟩).set
    ⟨.authIdentities 2, some { userId := 1, provider := "google", providerId := "subject" }⟩

lemma starts_sampleUsers : Starts ⟨sampleUsers, [], 0, 0, []⟩ where
  log := rfl
  unique k k' x hk hk' := by
    have hkey : ∀ k, x ∈ entries index k (sampleUsers.get k) → k = .authIdentities 2 := by
      intro k hx
      by_contra hne
      rw [sampleUsers, Store.get_set_mk_of_ne _ _ hne] at hx
      by_cases huser : k = .users 1
      · subst huser
        rw [Store.get_set_self] at hx
        cases hx
      · rw [Store.get_set_mk_of_ne _ _ huser] at hx
        cases hx
    rw [hkey k hk, hkey k' hk']
  uploads i := rfl

/-- A user replaces the first avatar by a second one. -/
def avatarSchedule : List (Label Job) := Label.serial 1 [
  (.createUpload 1 "image/jpeg" 1000, 10, 8),
  (.finalize 1 10, 50, 17),
  (.createUpload 1 "image/jpeg" 1000, 100, 8),
  (.finalize 1 100, 150, 24)]

theorem avatars_consistent_in_schedule : ∃ s : State, sampleSystem.Reachable Starts s ∧
    (∃ r, s.shared.db.get (.userAvatarUploads 100) = some r ∧ r.status = .active ∧
      ∃ u, s.shared.db.get (.users r.userId) = some u ∧
        u.avatarUrl = some (avatarPublicUrl "https://server/" 100)) ∧
    ∀ i r, s.shared.db.get (.userAvatarUploads i) = some r → r.userId = 1 → r.status = .active → i = 100 := by
  have hrun : (sampleSystem.run ⟨⟨sampleUsers, [], 0, 0, []⟩, []⟩ avatarSchedule).map
      (fun s => (s.shared.db.get (.userAvatarUploads 100)).map fun r => (r.userId, r.status)) =
        some (some (1, .active)) := by
    decide
  obtain ⟨s, hs, hrow⟩ := Option.map_eq_some_iff.mp hrun
  obtain ⟨r, hr, hpair⟩ := Option.map_eq_some_iff.mp hrow
  obtain ⟨huser, hstatus⟩ := Prod.mk.inj hpair
  have hreach := System.reachable_of_run _ starts_sampleUsers hs
  obtain ⟨honce, -, hshown, -⟩ := avatars_consistent hreach
  refine ⟨s, hreach, ⟨r, hr, hstatus, hshown 100 r hr hstatus⟩, fun i r' hr' huser' hstatus' => ?_⟩
  exact honce i 100 r' r hr' hr (huser'.trans huser.symm) (hstatus'.trans hstatus.symm) (by rw [hstatus']; nofun)

end Sample

end JamyeServer.Avatars
