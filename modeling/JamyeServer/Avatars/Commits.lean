import JamyeServer.Avatars.Statements

/-!
# What the transactions on avatars commit
-/

namespace JamyeServer.Avatars

open ReadCommitted Postgres Avatars Prog

variable {publicBaseUrl : String} {ticks : Time → Time → Bool} {l l' L : Local} {g g' G : Shared} {userId : Uuid}

section Release

variable {ε : Type} {status : AvatarStatus}

lemma releaseRows_releases {error : ε} {as : List (String × Time)}
    (h : Runs (contract publicBaseUrl ticks) (releaseRows userId status error) l g (.ok as) l' g' L G)
    (hlock : (.users userId, .update) ∈ l.locks) (hw : l.writes = []) : Released userId status true l l' G := by
  obtain ⟨gs, -, -, hreleased⟩ := update_releases status (c := fun _ => true) h (fun s => s.nodup_ids ..)
    (fun s i r hr huser hstatus _ => Store.mem_ids.mpr ⟨r, hr, by simp [huser, hstatus]⟩)
    (fun s i t r => by simp) hlock (fun s i => by rw [hw, Store.apply_nil])
  exact hreleased

lemma releaseRows_not_error {error e : ε} (hl : Coherent index l g) :
    ¬ Runs (contract publicBaseUrl ticks) (releaseRows userId status error) l g (.error e) l' g' L G := by
  refine release_not_error hl (fun s => s.nodup_ids ..) ?_
  intro s i t r x hx
  split at hx
  · cases hx
    rfl
  · cases hx

/-- An upload after all uploads of a user with one status have been released. -/
lemma Released.cases {released : Bool} (h : Released userId status released l l' G) (i : Uuid) :
    (∃ r t, G.db.get (.userAvatarUploads i) = some r ∧ r.userId = userId ∧ r.status = status ∧ released = true ∧
      ∀ s : Store Row, (s.apply l'.writes).get (.userAvatarUploads i) = some (UserAvatarUpload.release t r)) ∨
    (∀ s : Store Row, (s.apply l'.writes).get (.userAvatarUploads i) = s.get (.userAvatarUploads i)) ∧
      ∀ r, G.db.get (.userAvatarUploads i) = some r → r.userId = userId → r.status = status → released = false := by
  by_cases hrow : ∃ r, G.db.get (.userAvatarUploads i) = some r ∧ r.userId = userId ∧ r.status = status ∧ released = true
  · obtain ⟨r, hr, huser, hstatus, hreleased⟩ := hrow
    obtain ⟨t, ht⟩ := h.row i r hr huser hstatus hreleased
    exact .inl ⟨r, t, hr, huser, hstatus, hreleased, ht⟩
  · have hnone : ∀ r, G.db.get (.userAvatarUploads i) = some r → r.userId = userId → r.status = status →
        released = false := fun r hr huser hstatus => by
      by_contra hreleased
      exact hrow ⟨r, hr, huser, hstatus, by simpa using hreleased⟩
    exact .inr ⟨h.other i hnone, hnone⟩

end Release

section Create

variable {command : CreateAvatarIntentCommand}

/-- What a new upload leaves: the pending uploads of the user are released, the new one is pending. -/
structure Created (command : CreateAvatarIntentCommand) (l' : Local) (G : Shared) : Prop where
  lock : (.users command.userId, .update) ∈ l'.locks
  absent : G.db.get (.userAvatarUploads command.id) = none
  row : ∃ r, (G.db.apply l'.writes).get (.userAvatarUploads command.id) = some r ∧ r.userId = command.userId ∧
    r.status = .pending ∧ r.objectKey = command.objectKey
  other : ∀ i, i ≠ command.id →
    (G.db.apply l'.writes).get (.userAvatarUploads i) = G.db.get (.userAvatarUploads i) ∨
      ∃ r t, G.db.get (.userAvatarUploads i) = some r ∧ r.userId = command.userId ∧ r.status = .pending ∧
        (G.db.apply l'.writes).get (.userAvatarUploads i) = some (UserAvatarUpload.release t r)
  users : ∀ i, (G.db.apply l'.writes).get (.users i) = G.db.get (.users i)

lemma createIntent_ok {record : AvatarIntentRecord}
    (h : Runs (contract publicBaseUrl ticks) (createIntent command) l g (.ok record) l' g' L G) (hw : l.writes = []) :
    Created command l' G := by
  unfold createIntent at h
  obtain ⟨_, l₁, g₁, h₁, r₁⟩ := h.bind
  obtain ⟨released, l₂, g₂, h₂, r₂⟩ := r₁.bind
  obtain ⟨_, l₃, g₃, h₃, r₃⟩ := r₂.bind
  obtain ⟨_, l₄, g₄, h₄, r₄⟩ := r₃.bind
  obtain ⟨-, rfl⟩ := h₄.ensure
  obtain ⟨now, l₅, g₅, h₅, r₅⟩ := r₄.bind
  obtain ⟨rfl, -⟩ := h₅.clock
  obtain ⟨_, l₆, g₆, h₆, r₆⟩ := r₅.bind
  obtain ⟨-, rfl⟩ := r₆.ret
  obtain ⟨hlock, hwrites, -⟩ := lockLiveUser_ok h₁
  have hreleased := (releaseRows_releases h₂ hlock (hwrites.trans hw)).enqueue h₃
  have hinsert := h₆.insertRow
  have hlocks := ((h₂.returns.evolve.trans h₃.returns.evolve).trans (h₄.returns.evolve.trans h₅.returns.evolve)).trans
    h₆.returns.evolve
  refine ⟨hlocks.locks hlock, ?_, ⟨_, hinsert.get _, rfl, rfl, rfl⟩, fun i hi => ?_, fun i => ?_⟩
  · have habsent := hinsert.absent
    rcases hreleased.cases command.id with ⟨r, t, -, -, -, -, ht⟩ | ⟨hsame, -⟩
    · rw [ht] at habsent
      cases habsent
    · rw [← hsame]
      exact habsent
  · have hne : Key.userAvatarUploads i ≠ .userAvatarUploads command.id := fun h => hi (by cases h; rfl)
    rw [hinsert.get_of_ne _ hne]
    rcases hreleased.cases i with ⟨r, t, hr, huser, hstatus, -, ht⟩ | ⟨hsame, -⟩
    · exact .inr ⟨r, t, hr, huser, hstatus, ht _⟩
    · exact .inl (hsame _)
  · have hne : Key.users i ≠ .userAvatarUploads command.id := nofun
    rw [hinsert.get_of_ne _ hne, hreleased.users, hwrites, hw, Store.apply_nil]

lemma Created.ok {e : Entry} (h : Created command e.ran G) (hg : History (contract publicBaseUrl ticks) G)
    (hdrawn : command.id ∈ e.ran.drawn) (hkey : command.objectKey = mintAvatarObjectKey command.userId command.id) :
    Ok publicBaseUrl e G where
  users i := by rw [Shared.view, h.users]
  uploads i := by
    rw [Shared.view]
    by_cases hi : i = command.id
    · subst hi
      obtain ⟨r, hr, huser, hstatus, hobject⟩ := h.row
      rw [h.absent, hr]
      exact .created hstatus hdrawn (by rw [hobject, huser, hkey]) (huser ▸ h.lock)
    · rcases h.other i hi with hsame | ⟨r, t, hr, huser, hstatus, hafter⟩
      · rw [hsame]
        exact .same _
      · rw [hr, hafter]
        exact .released (by rw [hstatus]; decide) (huser ▸ h.lock)
  shown i r hr hactive := by
    rw [Shared.view] at hr ⊢
    rw [h.users]
    by_cases hi : i = command.id
    · subst hi
      obtain ⟨r', hr', -, hstatus, -⟩ := h.row
      rw [hr] at hr'
      cases hr'
      rw [hactive] at hstatus
      cases hstatus
    · rcases h.other i hi with hsame | ⟨r', t, -, -, -, hafter⟩
      · rw [hsame] at hr
        exact shown_of_history hg i r hr hactive
      · rw [hafter] at hr
        cases hr
        cases hactive

lemma createUpload_commits {actorId : Uuid} {contentType : String} {byteSize : Nat} {out : Outcome}
    (h : Runs (contract publicBaseUrl ticks) (program publicBaseUrl (.createUpload actorId contentType byteSize))
      l g (.ok out) L G L G) (hw : l.writes = []) (hg : History (contract publicBaseUrl ticks) G) (job : Job) :
    Ok publicBaseUrl ⟨job, out, L⟩ G := by
  unfold program createUpload at h
  obtain ⟨record, l₁, g₁, h₁, r₁⟩ := h.bind
  obtain ⟨-, rfl⟩ := r₁.ret
  obtain ⟨_, l₂, g₂, h₂, r₂⟩ := h₁.bind
  obtain ⟨-, rfl⟩ := h₂.ensure
  obtain ⟨uploadId, l₃, g₃, h₃, r₃⟩ := r₂.bind
  have hdrawn : uploadId ∈ l₃.drawn := by
    rw [h₃.fresh.1]
    exact List.mem_cons_self
  have hcreated := createIntent_ok r₃.mapError (by rw [h₃.fresh.1]; exact hw)
  exact hcreated.ok hg (r₃.returns.evolve.drawn hdrawn) rfl

end Create

lemma ok_of_no_writes {e : Entry} (hw : e.ran.writes = []) (hg : History (contract publicBaseUrl ticks) G) :
    Ok publicBaseUrl e G := by
  have hview : G.view e.ran = G.db := by rw [Shared.view, hw, Store.apply_nil]
  exact ⟨fun i => by rw [hview], fun i => by rw [hview]; exact .same _, by rw [hview]; exact shown_of_history hg⟩

/-- What a commit leaves that replaces the active avatar of a user: no other upload of the user is active. -/
structure Replaced (userId : Uuid) (url : Option String) (uploadId : Option Uuid) (l' : Local) (G : Shared) : Prop where
  lock : (.users userId, .update) ∈ l'.locks
  row : ∀ i, uploadId = some i → url = some (avatarPublicUrl publicBaseUrl i) ∧
    ∃ r, G.db.get (.userAvatarUploads i) = some r ∧ r.userId = userId ∧ r.status = .pending ∧
      (G.db.apply l'.writes).get (.userAvatarUploads i) = some { r with status := .active }
  other : ∀ i, uploadId ≠ some i →
    (G.db.apply l'.writes).get (.userAvatarUploads i) = G.db.get (.userAvatarUploads i) ∧
      (∀ r, G.db.get (.userAvatarUploads i) = some r → r.userId = userId → r.status = .active →
        url = some (avatarPublicUrl publicBaseUrl i)) ∨
      ∃ r t, G.db.get (.userAvatarUploads i) = some r ∧ r.userId = userId ∧ r.status = .active ∧
        (G.db.apply l'.writes).get (.userAvatarUploads i) = some (UserAvatarUpload.release t r)
  users : ∀ i, i ≠ userId → (G.db.apply l'.writes).get (.users i) = G.db.get (.users i)
  user : ∃ u u', G.db.get (.users userId) = some u ∧ (G.db.apply l'.writes).get (.users userId) = some u' ∧
    u'.deletedAt = u.deletedAt ∧ u'.avatarUrl = url

lemma Replaced.ok {url : Option String} {uploadId : Option Uuid} {e : Entry}
    (h : @Replaced publicBaseUrl userId url uploadId e.ran G)
    (hg : History (contract publicBaseUrl ticks) G) : Ok publicBaseUrl e G where
  users i := by
    rw [Shared.view]
    by_cases hi : i = userId
    · subst hi
      obtain ⟨u, u', hu, hu', hdeleted, -⟩ := h.user
      rw [hu, hu', Option.map_some, Option.map_some, hdeleted]
    · rw [h.users i hi]
  uploads i := by
    rw [Shared.view]
    by_cases hi : uploadId = some i
    · obtain ⟨-, r, hr, huser, hstatus, hafter⟩ := h.row i hi
      rw [hr, hafter]
      exact .activated hstatus (huser ▸ h.lock)
    · rcases h.other i hi with ⟨hsame, -⟩ | ⟨r, t, hr, huser, hstatus, hafter⟩
      · rw [hsame]
        exact .same _
      · rw [hr, hafter]
        exact .released (by rw [hstatus]; decide) (huser ▸ h.lock)
  shown i r hr hactive := by
    rw [Shared.view] at hr ⊢
    obtain ⟨u, u', hu, hu', -, hurl⟩ := h.user
    by_cases hi : uploadId = some i
    · obtain ⟨hshown, r', -, huser, -, hafter⟩ := h.row i hi
      rw [hafter] at hr
      cases hr
      refine ⟨u', ?_, hurl.trans hshown⟩
      change (G.db.apply e.ran.writes).get (.users r'.userId) = some u'
      rw [huser]
      exact hu'
    · rcases h.other i hi with ⟨hsame, hkept⟩ | ⟨r', t, -, -, -, hafter⟩
      · rw [hsame] at hr
        by_cases huser : r.userId = userId
        · rw [huser]
          exact ⟨u', hu', hurl.trans (hkept r hr huser hactive)⟩
        · rw [h.users _ huser]
          exact shown_of_history hg i r hr hactive
      · rw [hafter] at hr
        cases hr
        cases hactive

section Activate

variable {command : ActivateAvatarCommand}

/-- The upload that a locked user activates stays as it is until the end. -/
lemma activatePending_ok {profile : UserProfile} {r : UserAvatarUpload}
    (h : Runs (contract publicBaseUrl ticks) (activatePending command) l g (.ok profile) l' g' L G) (hw : l.writes = [])
    (hlock : (.users command.actorId, .update) ∈ l.locks) (hrow : G.db.get (.userAvatarUploads command.uploadId) = some r)
    (huser : r.userId = command.actorId) (hstatus : r.status = .pending)
    (hurl : command.publicUrl = avatarPublicUrl publicBaseUrl command.uploadId) :
    @Replaced publicBaseUrl command.actorId (some command.publicUrl) (some command.uploadId) l' G := by
  unfold activatePending at h
  obtain ⟨released, l₁, g₁, h₁, r₁⟩ := h.bind
  obtain ⟨_, l₂, g₂, h₂, r₂⟩ := r₁.bind
  obtain ⟨_, l₃, g₃, h₃, r₃⟩ := r₂.bind
  obtain ⟨profile', l₄, g₄, h₄, r₄⟩ := r₃.bind
  obtain ⟨rfl, rfl⟩ := r₄.ofOption
  have hreleased := (releaseRows_releases h₁ hlock hw).enqueue h₂
  have hpending := hreleased.other command.uploadId fun r' hr' _ hactive => by
    rw [hrow] at hr'
    cases hr'
    rw [hstatus] at hactive
    cases hactive
  have hl₂ : (.users command.actorId, .update) ∈ l₂.locks :=
    (h₁.returns.evolve.trans h₂.returns.evolve).locks hlock
  obtain ⟨hafter, hframe, -⟩ := h₃.update_one (r := r) (v := { r with status := .active }) (a := ())
    (fun n hn hn' => by
      rw [hpending]
      exact (uploads_stable h₃.evolve hl₂ hn hn' (Nat.le_refl _) _ huser).mpr hrow) rfl fun _ _ => rfl
  obtain ⟨⟨u, hu, -, hu'⟩, hframe'⟩ := updateUser_ok h₄
  have husers : ∀ i, (G.db.apply l₃.writes).get (.users i) = G.db.get (.users i) := fun i => by
    rw [hframe _ (.users i) nofun, hreleased.users, hw, Store.apply_nil]
  refine ⟨((h₃.returns.evolve.trans h₄.returns.evolve).locks hl₂), ?_, fun i hi => ?_, fun i hi => ?_, ?_⟩
  · rintro i ⟨⟩
    refine ⟨congrArg some hurl, r, hrow, huser, hstatus, ?_⟩
    rw [hframe' _ (.userAvatarUploads command.uploadId) nofun]
    exact hafter
  · have hne : Key.userAvatarUploads i ≠ .userAvatarUploads command.uploadId := fun h => hi (by cases h; rfl)
    rw [hframe' _ (.userAvatarUploads i) nofun, hframe _ _ hne]
    rcases hreleased.cases i with ⟨r', t, hr', huser', hstatus', -, ht⟩ | ⟨hsame, hnone⟩
    · exact .inr ⟨r', t, hr', huser', hstatus', ht _⟩
    · refine .inl ⟨hsame _, fun r' hr' huser' hactive => ?_⟩
      cases hnone r' hr' huser' hactive
  · rw [hframe' _ _ (fun h => hi (by cases h; rfl)), husers]
  · rw [husers] at hu
    exact ⟨u, _, hu, hu', rfl, rfl⟩

lemma finalize_commits {actorId uploadId : Uuid} {out : Outcome}
    (h : Runs (contract publicBaseUrl ticks) (program publicBaseUrl (.finalize actorId uploadId)) l g (.ok out) L G L G)
    (hw : l.writes = []) (hg : History (contract publicBaseUrl ticks) G) (job : Job) :
    Ok publicBaseUrl ⟨job, out, L⟩ G := by
  unfold program finalize at h
  obtain ⟨profile, l₁, g₁, h₁, r₁⟩ := h.bind
  obtain ⟨-, rfl⟩ := r₁.ret
  have hrun := h₁.mapError
  unfold activate at hrun
  obtain ⟨_, l₂, g₂, h₂, r₂⟩ := hrun.bind
  obtain ⟨rows, l₃, g₃, h₃, r₃⟩ := r₂.bind
  obtain ⟨row, l₄, g₄, h₄, r₄⟩ := r₃.bind
  obtain ⟨hhead, rfl⟩ := h₄.ofOption
  obtain ⟨hlock, hwrites, -⟩ := lockLiveUser_ok h₂
  obtain ⟨gs, -, -, hrows⟩ := h₃.selectFor nofun
  have hw₄ : l₄.writes = [] := by rw [hrows.frame, hwrites, hw]
  obtain ⟨i, hi, t, r, -, -, hr, hf⟩ := hrows.mem row (List.mem_of_mem_head? hhead)
  obtain rfl := (Store.mem_one.mp hi).1
  split at r₄
  · split at hf
    · rename_i hmatch
      have hstatus : r.status = .pending := (Prod.mk.inj (Option.some.inj hf)).1
      have hl₄ := h₄.returns.evolve.locks (h₃.returns.evolve.locks hlock)
      rw [hwrites, hw, Store.apply_nil] at hr
      exact (activatePending_ok r₄ hw₄ hl₄ hr hmatch.1 hstatus rfl).ok hg
    · cases hf
  · refine ok_of_no_writes ?_ hg
    unfold loadProfile at r₄
    obtain ⟨x, l₅, g₅, h₅, r₅⟩ := r₄.bind
    obtain ⟨-, rfl⟩ := r₅.ofOption
    obtain ⟨_, -, -, rfl, -⟩ := h₅.select
    exact hw₄
  · exact (Runs.not_fail r₄).elim
  · exact (Runs.not_fail r₄).elim

end Activate

section Profile

variable {ε : Type} {patch : ProfilePatch}

lemma touches_releaseActiveForProfileChange {newAvatarUrl : Option String} {error : ε} :
    (releaseActiveForProfileChange userId newAvatarUrl error).Touches fun k => ∀ i, k ≠ .users i :=
  touches_selectFor.bind fun _ => (touches_change fun _ _ => nofun).bind fun _ =>
    touches_enqueueObjectDeletions.mono (by rintro _ ⟨i, rfl⟩ j; nofun)

/-- A user that is live in the end was live all the time, so its row has been locked. -/
lemma releaseActiveForProfileChange_ok {newAvatarUrl : Option String} {error : ε} {x : Unit} {u : User}
    (h : Runs (contract publicBaseUrl ticks) (releaseActiveForProfileChange userId newAvatarUrl error) l g (.ok x) l' g' L G)
    (hw : l.writes = []) (hg : History (contract publicBaseUrl ticks) G) (hu : G.db.get (.users userId) = some u)
    (hlive : u.deletedAt = none) :
    (.users userId, .update) ∈ l'.locks ∧ ∃ released, Released userId .active released l l' G ∧
      (released = false → u.avatarUrl = newAvatarUrl) := by
  unfold releaseActiveForProfileChange at h
  obtain ⟨found, l₁, g₁, h₁, r₁⟩ := h.bind
  obtain ⟨released, l₂, g₂, h₂, r₂⟩ := r₁.bind
  obtain ⟨gs, hgs, hgs', hrows⟩ := h₁.selectFor nofun
  have hG : g₁.csn ≤ G.csn := h₁.rest.later.csn_le
  have hlive' : ∀ n, n ≤ G.csn → ∃ r, (G.version n).get (.users userId) = some r ∧ r.deletedAt = none := by
    intro n hn
    have hsame := user_deletedAt hg hn (Nat.le_refl _) userId
    change (G.db.get (.users userId)).map User.deletedAt = _ at hsame
    rw [hu, Option.map_some, hlive] at hsame
    exact Option.map_eq_some_iff.mp hsame.symm
  have hlock : (.users userId, .update) ∈ l₁.locks := by
    obtain ⟨r, hr, hdeleted⟩ := hlive' gs.csn (Nat.le_trans hgs'.csn_le hG)
    have hmem : userId ∈ ((G.version gs.csn).apply l.writes).one Tables.users userId fun u => u.deletedAt.isNone := by
      rw [hw, Store.apply_nil]
      exact Store.mem_one.mpr ⟨rfl, r, hr, by rw [hdeleted]; rfl⟩
    rcases hrows.each userId hmem with ⟨n, hn, hn', hmissing⟩ | ⟨t, r', -, hlock, -⟩
    · obtain ⟨r', hr', -⟩ := hlive' n (Nat.le_trans hn' hG)
      change ((G.version n).apply l.writes).get (.users userId) = none at hmissing
      rw [hw, Store.apply_nil, hr'] at hmissing
      cases hmissing
    · exact hlock
  have hw₁ : l₁.writes = [] := by rw [hrows.frame, hw]
  obtain ⟨gs₂, hgs₂, hgs₂', hreleased⟩ := update_releases .active (c := fun s => newAvatarUrl.isNone ||
      decide ((s.get (.users userId)).bind User.avatarUrl ≠ newAvatarUrl)) h₂ (fun s => s.nodup_ids ..)
    (fun s i r hr huser hstatus hc => Store.mem_ids.mpr ⟨r, hr, by simp only [huser, hstatus, hc, decide_true, Bool.and_self]⟩)
    (fun s i t r => rfl) hlock (fun s i => by rw [hw₁, Store.apply_nil])
  have hsnap : (G.version gs₂.csn).get (.users userId) = some u := by
    have hle : gs₂.csn ≤ G.csn := Nat.le_trans hgs₂'.csn_le h₂.rest.later.csn_le
    rw [h₂.evolve.version_locked hlock nofun hgs₂.csn_le hle, ← h₂.evolve.db_locked hlock nofun]
    exact hu
  refine ⟨(h₂.returns.evolve.trans r₂.returns.evolve).locks hlock, _, ⟨fun i r hr huser hstatus hc => ?_,
    fun i hi => (hreleased.enqueue r₂).other i hi, fun s i => ?_⟩, fun hc => ?_⟩
  · exact (hreleased.enqueue r₂).row i r hr huser hstatus hc
  · rw [(hreleased.enqueue r₂).users, hw₁, hw]
  · rw [hw₁, Store.apply_nil, hsnap] at hc
    simp only [Option.bind_some, Bool.or_eq_false_iff, decide_eq_false_iff_not, ne_eq, not_not] at hc
    exact hc.2

lemma updateProfile_commits {out : Outcome}
    (h : Runs (contract publicBaseUrl ticks) (program publicBaseUrl (.updateProfile userId patch)) l g (.ok out) L G L G)
    (hw : l.writes = []) (hg : History (contract publicBaseUrl ticks) G) (job : Job) :
    Ok publicBaseUrl ⟨job, out, L⟩ G := by
  unfold program updateProfile at h
  obtain ⟨profile, l₁, g₁, h₁, r₁⟩ := h.bind
  obtain ⟨-, rfl⟩ := r₁.ret
  obtain ⟨profile', l₂, g₂, h₂, r₂⟩ := h₁.bind
  obtain ⟨rfl, rfl⟩ := r₂.ofOption
  have hrun := h₂.mapError
  unfold updateProfileRecord at hrun
  by_cases hpatch : patch.avatarUrl = .unchanged
  · rw [if_pos hpatch] at hrun
    obtain ⟨_, l₃, g₃, h₃, r₃⟩ := hrun.bind
    obtain ⟨-, rfl⟩ := h₃.ret
    obtain ⟨⟨u, hu, -, hu'⟩, hframe⟩ := updateUser_ok r₃
    rw [hw, Store.apply_nil] at hu
    have huploads : ∀ i, (G.db.apply L.writes).get (.userAvatarUploads i) = G.db.get (.userAvatarUploads i) := fun i => by
      rw [hframe _ (.userAvatarUploads i) (fun h => by cases h), hw, Store.apply_nil]
    have husers : ∀ i, ∃ f : User → User, (G.db.apply L.writes).get (.users i) = (G.db.get (.users i)).map f ∧
        ∀ v, (f v).deletedAt = v.deletedAt ∧ (f v).avatarUrl = v.avatarUrl := by
      intro i
      by_cases hi : i = userId
      · subst hi
        exact ⟨User.patch patch, by rw [hu', hu, Option.map_some], fun v => ⟨rfl, by simp [User.patch, hpatch]⟩⟩
      · refine ⟨id, ?_, fun v => ⟨rfl, rfl⟩⟩
        rw [hframe _ (.users i) (fun h => hi (by cases h; rfl)), hw, Store.apply_nil, Option.map_id_fun, id]
    constructor
    · intro i
      obtain ⟨f, hf, hsame⟩ := husers i
      rw [Shared.view, hf, Option.map_map]
      exact congrArg (fun h => (G.db.get (.users i)).map h) (funext fun v => (hsame v).1)
    · intro i
      rw [Shared.view, huploads]
      exact .same _
    · intro i r hr hactive
      rw [Shared.view] at hr ⊢
      rw [huploads] at hr
      obtain ⟨v, hv, hurl⟩ := shown_of_history hg i r hr hactive
      obtain ⟨f, hf, hsame⟩ := husers r.userId
      exact ⟨f v, by rw [hf, hv, Option.map_some], (hsame v).2.trans hurl⟩
  · rw [if_neg hpatch] at hrun
    obtain ⟨_, l₃, g₃, h₃, r₃⟩ := hrun.bind
    obtain ⟨⟨u, hu, hlive, hu'⟩, hframe⟩ := updateUser_ok r₃
    rw [h₃.get_of_touches touches_releaseActiveForProfileChange (fun h => h userId rfl), hw, Store.apply_nil] at hu
    obtain ⟨hlock, released, hreleased, hkept⟩ := releaseActiveForProfileChange_ok h₃ hw hg hu hlive
    have hreplaced : @Replaced publicBaseUrl userId patch.avatarUrl.value none L G := by
      refine ⟨r₃.returns.evolve.locks hlock, fun _ h => (Option.some_ne_none _ h.symm).elim, fun i _ => ?_, fun i hi => ?_, u, _, hu, hu', rfl, ?_⟩
      · rw [hframe _ (.userAvatarUploads i) (fun h => by cases h)]
        rcases hreleased.cases i with ⟨r, t, hr, huser, hstatus, -, ht⟩ | ⟨hsame, hnone⟩
        · exact .inr ⟨r, t, hr, huser, hstatus, ht _⟩
        · refine .inl ⟨hsame _, fun r hr huser hactive => ?_⟩
          obtain ⟨u₁, hu₁, hshown⟩ := shown_of_history hg i r hr hactive
          rw [huser, hu] at hu₁
          cases hu₁
          rw [← hshown, hkept (hnone r hr huser hactive)]
      · rw [hframe _ (.users i) (fun h => hi (by cases h; rfl)), hreleased.users, hw, Store.apply_nil]
      · simp [User.patch, hpatch]
    exact hreplaced.ok hg

end Profile

end JamyeServer.Avatars
