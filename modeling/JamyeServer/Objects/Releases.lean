import JamyeServer.Objects.Deletions

/-!
# The releases of avatars

An avatar is replaced when another one is uploaded or activated, or when the profile shows another picture. The statement
that releases it returns its object, and the object is queued for deletion.
-/

namespace JamyeServer.Objects

open ReadCommitted Postgres Media Messages Prog
open Postgres.Avatars (mintAvatarObjectKey AvatarRepositoryError CreateAvatarIntentCommand ActivateAvatarCommand)

variable {settings : Settings} {mask : String → String} {publicBaseUrl : String} {ticks : Time → Time → Bool}
  {l l' L : Local} {g g' G : Shared} {ε α : Type}

/-- What a transaction leaves that takes uploads and avatars out of use, but adds no upload and changes no attachment: an
upload stays as it is but for its owner, or it was not bound and goes. -/
structure Frees (l : Local) (G : Shared) : Prop where
  own : OwnIntents l
  attachments : ∀ m, (G.view l).get (.messageMedia m) = G.db.get (.messageMedia m)
  uploads : ∀ i, (G.view l).get (.mediaUploads i) = G.db.get (.mediaUploads i) ∨
    (∃ b t, G.db.get (.mediaUploads i) = some b ∧ (G.view l).get (.mediaUploads i) = some { b with userId := t }) ∨
    ∃ b, G.db.get (.mediaUploads i) = some b ∧ b.status ≠ .bound ∧ (G.view l).get (.mediaUploads i) = none ∧
      HasIntent (G.view l) b.objectKey
  avatars : ∀ i, AvatarStep l i (G.db.get (.userAvatarUploads i)) ((G.view l).get (.userAvatarUploads i))
  newAvatars : ∀ i, G.db.get (.userAvatarUploads i) = none → (G.view l).get (.userAvatarUploads i) ≠ none →
    ∀ n, n ≤ G.csn → (G.version n).get (.userAvatarUploads i) = none
  kept : ∀ j x, G.db.get (.accountObjectDeletionIntents j) = some x →
    (G.view l).get (.accountObjectDeletionIntents j) = some x
  added : ∀ j x, (G.view l).get (.accountObjectDeletionIntents j) = some x →
    G.db.get (.accountObjectDeletionIntents j) = some x ∨ Discards G.db (G.view l) x.objectKey
  released : ∀ i b, G.db.get (.userAvatarUploads i) = some b → b.status ≠ .released →
    Released ((G.view l).get (.userAvatarUploads i)) → HasIntent (G.view l) b.objectKey

section Frees

lemma Frees.gone (h : Frees l G) {i : Uuid} {b : MediaUpload} (hb : G.db.get (.mediaUploads i) = some b)
    (hlive : b.deletedAt = none) (hdiscarded : Discarded ((G.view l).get (.mediaUploads i))) :
    b.status ≠ .bound ∧ HasIntent (G.view l) b.objectKey := by
  rcases h.uploads i with hsame | ⟨b', t, hb', hafter⟩ | ⟨b', hb', hstatus, -, hintent⟩
  · rw [hsame] at hdiscarded
    exact (hdiscarded b hb hlive).elim
  · rw [hb] at hb'
    cases hb'
    exact (hdiscarded _ hafter hlive).elim
  · rw [hb] at hb'
    cases hb'
    exact ⟨hstatus, hintent⟩

lemma Frees.ok {e : Entry} (h : Frees e.ran G) (hG : History (contract settings mask publicBaseUrl ticks) G) : Ok e G where
  uploads i := by
    rcases h.uploads i with hsame | ⟨b, t, hb, hafter⟩ | ⟨b, hb, hstatus, hafter, -⟩
    · rw [hsame]
      exact .same _
    · rw [hb, hafter]
      exact .kept rfl rfl rfl rfl rfl id
    · rw [hb, hafter]
      exact .removed (by simpa using mt (consistent_of_history hG i b hb).1.mpr hstatus)
  avatars := h.avatars
  newUploads i hnone hsome := by
    rcases h.uploads i with hsame | ⟨b, t, hb, -⟩ | ⟨b, hb, -⟩
    · rw [hsame] at hsome
      exact (hsome hnone).elim
    · rw [hnone] at hb
      cases hb
    · rw [hnone] at hb
      cases hb
  newAvatars := h.newAvatars
  attachments m row hrow := by
    rw [h.attachments] at hrow
    exact .inl hrow
  ownIntents := h.own
  intents := h.kept
  discards := h.added
  detached i b hb hlive hdiscarded m row hrow := by
    have hunbound : b.boundMessageId = none := by
      simpa using mt (consistent_of_history hG i b hb).1.mpr (h.gone hb hlive hdiscarded).1
    rw [h.attachments] at hrow
    obtain ⟨u, hu, hbound, -, -, hposter⟩ := (bound_of_history hG (Nat.le_refl _) m row hrow).upload
    change G.db.get (.mediaUploads row.mediaUploadId) = some u at hu
    constructor
    · rintro rfl
      rw [hb] at hu
      cases hu
      rw [hunbound] at hbound
      cases hbound
    · intro r hr hlink
      have hsame : u.posterUploadId = some i := by
        rcases h.uploads row.mediaUploadId with hsame | ⟨b', t, hb', hafter⟩ | ⟨b', -, -, hafter, -⟩
        · rw [hsame, hu] at hr
          cases hr
          exact hlink
        · rw [hu] at hb'
          cases hb'
          rw [hafter] at hr
          cases hr
          exact hlink
        · rw [hafter] at hr
          cases hr
      obtain ⟨r', hr', hbound', -⟩ := hposter i hsame
      change G.db.get (.mediaUploads i) = some r' at hr'
      rw [hb] at hr'
      cases hr'
      rw [hunbound] at hbound'
      cases hbound'
  uploadIntents i b hb hlive hdiscarded := (h.gone hb hlive hdiscarded).2
  avatarIntents := h.released

end Frees

section Statements

/-- A statement that releases avatars of one status: it returns their objects. -/
structure Releases (status : AvatarStatus) (objs : List (String × Time)) (l l' : Local) (G : Shared) : Prop where
  own : OwnIntents l → OwnIntents l'
  frame : ∀ (s : Store Row) k, (∀ i, k ≠ .userAvatarUploads i) → (s.apply l'.writes).get k = (s.apply l.writes).get k
  row : ∀ i, (G.db.apply l'.writes).get (.userAvatarUploads i) = (G.db.apply l.writes).get (.userAvatarUploads i) ∨
    ∃ b t, (G.db.apply l.writes).get (.userAvatarUploads i) = some b ∧ b.status = status ∧
      (b.objectKey, b.expiresAt) ∈ objs ∧
      (G.db.apply l'.writes).get (.userAvatarUploads i) = some (Postgres.Avatars.UserAvatarUpload.release t b)
  returned : ∀ x ∈ objs, ∃ i b t, (G.db.apply l.writes).get (.userAvatarUploads i) = some b ∧ b.objectKey = x.1 ∧
    (G.db.apply l'.writes).get (.userAvatarUploads i) = some (Postgres.Avatars.UserAvatarUpload.release t b)

lemma releases_update {status : AvatarStatus} {q : Store Row → List Uuid}
    {f : Store Row → (i : Uuid) → Nat → UserAvatarUpload → Option (UserAvatarUpload × (String × Time))} {error : ε}
    {objs : List (String × Time)} (hnd : ∀ s, (q s).Nodup)
    (hf : ∀ s i t r x, f s i t r = some x → r.status = status ∧
      x = (Postgres.Avatars.UserAvatarUpload.release t r, (r.objectKey, r.expiresAt)))
    (h : Runs (contract settings mask publicBaseUrl ticks) (update Tables.userAvatarUploads q f error) l g (.ok objs) l' g' L G) :
    Releases status objs l l' G := by
  obtain ⟨g₁, ws, h₁, h₂, hch⟩ := h.update hnd
  have hchange : ∀ {s i t r v a}, (f s i t r).map (fun x => (some x.1, x.2)) = some (v, a) → r.status = status ∧
      v = some (Postgres.Avatars.UserAvatarUpload.release t r) ∧ a = (r.objectKey, r.expiresAt) := by
    intro s i t r v a hmap
    obtain ⟨x, hx, heq⟩ := Option.map_eq_some_iff.mp hmap
    obtain ⟨hstatus, rfl⟩ := hf _ _ _ _ _ hx
    cases heq
    exact ⟨hstatus, rfl, rfl⟩
  have hown : OwnIntents l → OwnIntents l' := fun hl =>
    hl.of_touches h (P := fun k => ∃ i, k = .userAvatarUploads i) (touches_change fun i => ⟨i, rfl⟩)
      (by rintro j ⟨i, hi⟩; cases hi)
  refine ⟨hown, fun s k hk => hch.get_of_ne s fun i _ => hk i, fun i => ?_, fun x hx => ?_⟩
  · have hw : l'.writes = ws ++ l.writes := by rw [hch.frame]
    by_cases hmem : Key.userAvatarUploads i ∈ ws.map Write.key
    · obtain ⟨w, hwrite, hkey⟩ := List.mem_map.mp hmem
      obtain ⟨j, -, t, r, v, a, -, -, hr, hv, ha, rfl⟩ := hch.mem w hwrite
      obtain rfl := Tables.userAvatarUploads.key_injective hkey
      obtain ⟨hstatus, rfl, rfl⟩ := hchange hv
      refine .inr ⟨r, t, hr, hstatus, ha, ?_⟩
      rw [hw, Store.apply_append]
      exact Store.get_apply_of_mem_nodup _ hch.nodup hwrite
    · rw [hw, Store.apply_append, Store.get_apply_of_notMem _ hmem]
      exact .inl rfl
  · obtain ⟨i, -, t, r, v, -, -, hr, hv, hafter⟩ := hch.returned hx
    obtain ⟨-, rfl, rfl⟩ := hchange hv
    exact ⟨i, r, t, hr, rfl, hafter⟩

/-- The avatars of a user with one status are released and their objects queued. -/
lemma frees_of_release {status : AvatarStatus} {objs : List (String × Time)} {l₁ l₂ l₃ : Local} (hw : l₁.writes = [])
    (hreleases : Releases status objs l₁ l₂ G) (henqueues : Enqueues (objs.map Prod.fst) l₂ l₃ G)
    (hown : OwnIntents l₃ → OwnIntents l)
    (hframe : ∀ k, ¬ Apart k → (∀ i, k ≠ .userAvatarUploads i) → (G.view l).get k = (G.db.apply l₃.writes).get k)
    (havatars : ∀ i, AvatarStep l i (G.db.get (.userAvatarUploads i)) ((G.view l).get (.userAvatarUploads i)))
    (hnew : ∀ i, G.db.get (.userAvatarUploads i) = none → (G.view l).get (.userAvatarUploads i) ≠ none →
      ∀ n, n ≤ G.csn → (G.version n).get (.userAvatarUploads i) = none)
    (hreleased : ∀ i b, G.db.get (.userAvatarUploads i) = some b →
      (Released ((G.view l).get (.userAvatarUploads i)) ↔ Released ((G.db.apply l₃.writes).get (.userAvatarUploads i)))) :
    Frees l G := by
  have hview : ∀ k, ¬ Apart k → (∀ i, k ≠ .userAvatarUploads i) → (∀ j, k ≠ .accountObjectDeletionIntents j) →
      (G.view l).get k = G.db.get k := fun k hk hk' hk'' => by
    rw [hframe k hk hk', henqueues.frame _ k hk'', hreleases.frame _ k hk', hw, Store.apply_nil]
  have hintents : ∀ j, (G.view l).get (.accountObjectDeletionIntents j) =
      (G.db.apply l₃.writes).get (.accountObjectDeletionIntents j) := fun j =>
    hframe _ id fun _ h => by cases h
  have hbefore : ∀ k, (∀ i, k ≠ .userAvatarUploads i) → (G.db.apply l₂.writes).get k = G.db.get k := fun k hk => by
    rw [hreleases.frame _ k hk, hw, Store.apply_nil]
  have hafter : ∀ i, (G.db.apply l₃.writes).get (.userAvatarUploads i) = (G.db.apply l₂.writes).get (.userAvatarUploads i) :=
    fun i => henqueues.frame _ _ fun _ h => by cases h
  have hdb : ∀ i, (G.db.apply l₁.writes).get (.userAvatarUploads i) = G.db.get (.userAvatarUploads i) := fun i => by
    rw [hw, Store.apply_nil]
  refine ⟨hown (henqueues.own (hreleases.own (ownIntents_nil hw))), fun m => hview _ id (fun _ h => by cases h) (fun _ h => by cases h),
    fun i => .inl (hview _ id (fun _ h => by cases h) (fun _ h => by cases h)), havatars, hnew, fun j x hx => ?_, fun j x hx => ?_,
    fun i b hb hlive hrel => ?_⟩
  · rw [hintents]
    refine henqueues.kept j x ?_
    rw [hbefore _ (fun _ h => by cases h)]
    exact hx
  · rw [hintents] at hx
    rcases henqueues.added j x hx with hold | hkey
    · rw [hbefore _ (fun _ h => by cases h)] at hold
      exact .inl hold
    · obtain ⟨y, hy, hkey⟩ := List.mem_map.mp hkey
      obtain ⟨i, b, t, hb, hobject, hrow⟩ := hreleases.returned y hy
      rw [hdb] at hb
      refine .inr (.avatar i b hb (hobject.trans hkey) ((hreleased i b hb).mpr fun r hr => ?_))
      rw [hafter, hrow] at hr
      cases hr
      rfl
  · have hrel' := (hreleased i b hb).mp hrel
    rw [hafter] at hrel'
    rcases hreleases.row i with hsame | ⟨b', t, hb', -, hobj, -⟩
    · rw [hsame, hdb] at hrel'
      exact (hlive (hrel' b hb)).elim
    · rw [hdb, hb] at hb'
      cases hb'
      obtain ⟨j, x, hx, hkey⟩ := henqueues.queued b.objectKey (List.mem_map.mpr ⟨_, hobj, rfl⟩)
      exact ⟨j, x, (hintents j).trans hx, hkey⟩

lemma Releases.avatarStep {status : AvatarStatus} {objs : List (String × Time)} {l₁ l₂ : Local} (hw : l₁.writes = [])
    (h : Releases status objs l₁ l₂ G) (i : Uuid) :
    AvatarStep l i (G.db.get (.userAvatarUploads i)) ((G.db.apply l₂.writes).get (.userAvatarUploads i)) := by
  rcases h.row i with hsame | ⟨b, t, hb, -, -, hafter⟩
  · rw [hsame, hw, Store.apply_nil]
    exact .same _
  · rw [hw, Store.apply_nil] at hb
    rw [hb, hafter]
    exact .changed rfl rfl fun _ => rfl

lemma Releases.some_of_some {status : AvatarStatus} {objs : List (String × Time)} {l₁ l₂ : Local} (hw : l₁.writes = [])
    (h : Releases status objs l₁ l₂ G) {i : Uuid} (hnone : G.db.get (.userAvatarUploads i) = none) :
    (G.db.apply l₂.writes).get (.userAvatarUploads i) = none := by
  rcases h.row i with hsame | ⟨b, t, hb, -⟩
  · rw [hsame, hw, Store.apply_nil, hnone]
  · rw [hw, Store.apply_nil, hnone] at hb
    cases hb

end Statements

section Profile

open Postgres.Avatars

lemma releases_releaseRows {userId : Uuid} {status : AvatarStatus} {error : ε} {objs : List (String × Time)}
    (h : Runs (contract settings mask publicBaseUrl ticks) (releaseRows userId status error) l g (.ok objs) l' g' L G) :
    Releases status objs l l' G := by
  refine releases_update (fun s => s.nodup_ids ..) (fun s i t r x hx => ?_) h
  split at hx
  · rename_i hcond
    cases hx
    exact ⟨hcond.2, rfl⟩
  · cases hx

lemma touches_updateUser {userId : Uuid} {f : User → User} {error : ε} : (updateUser userId f error).Touches Apart :=
  (touches_change fun _ => trivial).bind fun _ => trivial

lemma ok_updateProfile {e : Entry} {userId : Uuid} {patch : ProfilePatch} {profile : UserProfile}
    (h : Runs (contract settings mask publicBaseUrl ticks) (updateProfile userId patch) l g (.ok profile) e.ran g' L G)
    (hw : l.writes = []) (hg : History (contract settings mask publicBaseUrl ticks) g) (hl : Coherent index l g) : Ok e G := by
  have hG := h.evolve.later.history hg
  unfold updateProfile at h
  obtain ⟨found, l₁, g₁, h₁, r₁⟩ := h.bind
  obtain ⟨-, heq⟩ := r₁.ofOption
  have hrun := h₁.mapError
  rw [← heq] at hrun
  unfold updateProfileRecord at hrun
  by_cases hpatch : patch.avatarUrl = .unchanged
  · rw [if_pos hpatch] at hrun
    obtain ⟨_, l₂, g₂, h₂, r₂⟩ := hrun.bind
    obtain ⟨-, rfl⟩ := h₂.ret
    exact ok_of_touches hw r₂ touches_updateUser
  · rw [if_neg hpatch] at hrun
    obtain ⟨_, l₂, g₂, h₂, r₂⟩ := hrun.bind
    unfold releaseActiveForProfileChange at h₂
    obtain ⟨_, l₃, g₃, h₃, r₃⟩ := h₂.bind
    obtain ⟨objs, l₄, g₄, h₄, r₄⟩ := r₃.bind
    have hw₃ := (h₃.writes_eq touches_selectFor).trans hw
    have hreleases : Releases .active objs l₃ l₄ G := by
      refine releases_update (fun s => s.nodup_ids ..) (fun s i t r x hx => ?_) h₄
      split at hx
      · rename_i hcond
        cases hx
        exact ⟨hcond.2.1, rfl⟩
      · cases hx
    have hevolve := h₃.returns.evolve.trans h₄.returns.evolve
    have henqueues := enqueues_ofAvatars r₄ (hevolve.later.history hg) (hevolve.coherent hl)
      (hreleases.own (ownIntents_nil hw₃))
    have hframe : ∀ k, ¬ Apart k → (G.view e.ran).get k = (G.db.apply l₂.writes).get k := fun k hk =>
      r₂.get_of_touches touches_updateUser hk _
    have havatars : ∀ i, (G.view e.ran).get (.userAvatarUploads i) = (G.db.apply l₄.writes).get (.userAvatarUploads i) :=
      fun i => (hframe _ id).trans (henqueues.frame _ _ fun _ h => by cases h)
    refine (frees_of_release hw₃ hreleases henqueues (fun hown => hown.of_touches r₂ touches_updateUser fun _ => id)
      (fun k hk _ => hframe k hk) (fun i => ?_) (fun i hnone hsome => ?_) fun i b hb => ?_).ok hG
    · rw [havatars]
      exact hreleases.avatarStep hw₃ i
    · rw [havatars, hreleases.some_of_some hw₃ hnone] at hsome
      exact (hsome rfl).elim
    · rw [hframe _ id]

lemma lockLiveUser_locks {userId : Uuid} {u : Unit}
    (h : Runs (contract settings mask publicBaseUrl ticks) (lockLiveUser userId) l g (.ok u) l' g' L G) :
    (.users userId, .update) ∈ l'.locks ∧ l'.writes = l.writes := by
  unfold lockLiveUser at h
  obtain ⟨found, l₁, g₁, h₁, r₁⟩ := h.bind
  obtain ⟨hfound, rfl⟩ := r₁.ensure
  obtain ⟨gs, -, -, hrows⟩ := h₁.selectFor (by decide)
  obtain ⟨a, ha⟩ := List.exists_mem_of_ne_nil _ hfound
  obtain ⟨i, hi, t, r, -, hlock, -, -⟩ := hrows.mem a ha
  obtain rfl := (Store.mem_one.mp hi).1
  exact ⟨hlock, by rw [hrows.frame]⟩

lemma frees_createIntent {command : CreateAvatarIntentCommand} {record : AvatarIntentRecord}
    (h : Runs (contract settings mask publicBaseUrl ticks) (createIntent command) l g (.ok record) l' g' L G)
    (hw : l.writes = []) (hg : History (contract settings mask publicBaseUrl ticks) g) (hl : Coherent index l g)
    (hdrawn : command.id ∈ l.drawn) (hkey : command.objectKey = mintAvatarObjectKey command.userId command.id)
    (hnew : ∀ n, n ≤ G.csn → (G.version n).get (.userAvatarUploads command.id) = none) : Frees l' G := by
  unfold createIntent at h
  obtain ⟨_, l₁, g₁, h₁, r₁⟩ := h.bind
  obtain ⟨objs, l₂, g₂, h₂, r₂⟩ := r₁.bind
  obtain ⟨_, l₃, g₃, h₃, r₃⟩ := r₂.bind
  obtain ⟨_, l₄, g₄, h₄, r₄⟩ := r₃.bind
  obtain ⟨now, l₅, g₅, h₅, r₅⟩ := r₄.bind
  obtain ⟨_, l₆, g₆, h₆, r₆⟩ := r₅.bind
  obtain ⟨-, rfl⟩ := h₄.ensure
  obtain ⟨rfl, -⟩ := h₅.clock
  obtain ⟨-, rfl⟩ := r₆.ret
  obtain ⟨hlock, hwrites⟩ := lockLiveUser_locks h₁
  have hw₁ := hwrites.trans hw
  have hreleases := releases_releaseRows h₂
  have hevolve := h₁.returns.evolve.trans h₂.returns.evolve
  have henqueues := enqueues_ofAvatars h₃ (hevolve.later.history hg) (hevolve.coherent hl)
    (hreleases.own (ownIntents_nil hw₁))
  have hinsert := h₆.insertRow
  have hrest := (h₂.returns.evolve.trans h₃.returns.evolve).trans
    ((h₄.returns.evolve.trans h₅.returns.evolve).trans h₆.returns.evolve)
  have hne : ∀ i, i ≠ command.id → (G.view l').get (.userAvatarUploads i) =
      (G.db.apply l₅.writes).get (.userAvatarUploads i) := fun i hi =>
    hinsert.get_of_ne _ fun h => hi (by cases h; rfl)
  have hreleased : ∀ i, (G.db.apply l₅.writes).get (.userAvatarUploads i) =
      (G.db.apply l₂.writes).get (.userAvatarUploads i) := fun i => henqueues.frame _ _ fun _ h => by cases h
  have hold : G.db.get (.userAvatarUploads command.id) = none := hnew G.csn (Nat.le_refl _)
  refine frees_of_release hw₁ hreleases henqueues (fun hown w hmem j hj => ?_)
    (fun k _ hk => hinsert.get_of_ne _ (hk _)) (fun i => ?_) (fun i hnone hsome => ?_) fun i b hb => ?_
  · rw [hinsert.frame] at hmem ⊢
    rcases List.mem_cons.mp hmem with rfl | hmem
    · cases hj
    · exact hown w hmem j hj
  · by_cases hi : i = command.id
    · subst hi
      have hrow : (G.view l').get (.userAvatarUploads command.id) = _ := hinsert.get _
      rw [hold, hrow]
      exact .registered rfl hkey ((h₁.returns.evolve.trans hrest).drawn hdrawn) (hrest.locks hlock)
    · rw [hne i hi, hreleased]
      exact hreleases.avatarStep hw₁ i
  · by_cases hi : i = command.id
    · subst hi
      exact hnew
    · rw [hne i hi, hreleased, hreleases.some_of_some hw₁ hnone] at hsome
      exact (hsome rfl).elim
  · rw [hne i fun hi => ?_]
    rw [hi, hold] at hb
    cases hb

lemma ok_createAvatar {e : Entry} {actorId : Uuid} {contentType : String} {byteSize : Nat} {record : AvatarIntentRecord}
    (h : Runs (contract settings mask publicBaseUrl ticks) (Postgres.Avatars.createUpload actorId contentType byteSize)
      l g (.ok record) e.ran g' L G)
    (hw : l.writes = []) (hg : History (contract settings mask publicBaseUrl ticks) g) (hl : Coherent index l g) : Ok e G := by
  have hG := h.evolve.later.history hg
  unfold Postgres.Avatars.createUpload at h
  obtain ⟨_, l₁, g₁, h₁, r₁⟩ := h.bind
  obtain ⟨-, rfl⟩ := h₁.ensure
  obtain ⟨uploadId, l₂, g₂, h₂, r₂⟩ := r₁.bind
  have hg₁ := h₁.returns.evolve.later.history hg
  have hdrawn : uploadId ∈ l₂.drawn := by
    rw [h₂.fresh.1]
    exact List.mem_cons_self
  refine (frees_createIntent r₂.mapError (by rw [h₂.fresh.1]; exact hw) (h₂.returns.evolve.later.history hg₁)
    ((h₁.returns.evolve.trans h₂.returns.evolve).coherent hl) hdrawn rfl ?_).ok hG
  exact (drawnAvatars.fresh hg₁ h₂).2

lemma frees_activatePending {command : ActivateAvatarCommand} {profile : UserProfile} {r : UserAvatarUpload}
    (h : Runs (contract settings mask publicBaseUrl ticks) (activatePending command) l g (.ok profile) l' g' L G)
    (hw : l.writes = []) (hg : History (contract settings mask publicBaseUrl ticks) g) (hl : Coherent index l g)
    (hrow : G.db.get (.userAvatarUploads command.uploadId) = some r) (hstatus : r.status = .pending) : Frees l' G := by
  unfold activatePending at h
  obtain ⟨objs, l₁, g₁, h₁, r₁⟩ := h.bind
  obtain ⟨_, l₂, g₂, h₂, r₂⟩ := r₁.bind
  obtain ⟨_, l₃, g₃, h₃, r₃⟩ := r₂.bind
  obtain ⟨found, l₄, g₄, h₄, r₄⟩ := r₃.bind
  obtain ⟨-, rfl⟩ := r₄.ofOption
  have hreleases := releases_releaseRows h₁
  have henqueues := enqueues_ofAvatars h₂ (h₁.returns.evolve.later.history hg) (h₁.returns.evolve.coherent hl)
    (hreleases.own (ownIntents_nil hw))
  have hupdate : (update Tables.userAvatarUploads
      (fun s => s.one Tables.userAvatarUploads command.uploadId fun _ => true)
      (fun _ _ _ (r : UserAvatarUpload) => some ({ r with status := .active }, ())) (AvatarRepositoryError.unavailable "avatar_activate")
      : Sql AvatarRepositoryError (List Unit)).Touches fun k => Apart k ∨ ∃ i, k = .userAvatarUploads i :=
    touches_change fun i => .inr ⟨i, rfl⟩
  obtain ⟨gs, ws, -, -, hch⟩ := h₃.update fun s => s.nodup_one ..
  have huser : ∀ k, ¬ Apart k → (G.view l').get k = (G.db.apply l₃.writes).get k := fun k hk =>
    h₄.get_of_touches touches_updateUser hk _
  have hne : ∀ i, i ≠ command.uploadId → (G.view l').get (.userAvatarUploads i) =
      (G.db.apply l₂.writes).get (.userAvatarUploads i) := fun i hi => by
    rw [huser _ id]
    refine hch.get_of_ne _ fun j hj hkey => hi ?_
    rw [← (Store.mem_one.mp hj).1]
    exact Tables.userAvatarUploads.key_injective hkey
  have hreleased : ∀ i, (G.db.apply l₂.writes).get (.userAvatarUploads i) =
      (G.db.apply l₁.writes).get (.userAvatarUploads i) := fun i => henqueues.frame _ _ fun _ h => by cases h
  -- the upload itself was not active, so that it is not released here
  have hpending : (G.db.apply l₂.writes).get (.userAvatarUploads command.uploadId) = some r := by
    rw [hreleased]
    rcases hreleases.row command.uploadId with hsame | ⟨b, t, hb, hactive, -⟩
    · rw [hsame, hw, Store.apply_nil, hrow]
    · rw [hw, Store.apply_nil, hrow] at hb
      cases hb
      rw [hstatus] at hactive
      cases hactive
  have hactivated : ∃ r', (G.view l').get (.userAvatarUploads command.uploadId) = some r' ∧ r'.objectKey = r.objectKey ∧
      r'.userId = r.userId ∧ r'.status ≠ .released := by
    rw [huser _ id]
    rcases hch.row command.uploadId with hsame | ⟨j, -, hkey, t, b, v, a, -, hb, hf, hafter⟩
    · refine ⟨r, hsame.trans hpending, rfl, rfl, ?_⟩
      rw [hstatus]
      decide
    · obtain rfl := Tables.userAvatarUploads.key_injective hkey
      obtain rfl : b = r := Option.some.inj (hb.symm.trans hpending)
      cases hf
      exact ⟨_, hafter, rfl, rfl, fun h => by cases h⟩
  obtain ⟨r', hr', hkey, huserId, hlive⟩ := hactivated
  refine frees_of_release hw hreleases henqueues (fun hown => ?_) (fun k hk hk' => ?_) (fun i => ?_)
    (fun i hnone hsome => ?_) fun i b hb => ?_
  · exact (hown.of_touches h₃ hupdate (by rintro j (h | ⟨i, hi⟩); exacts [h, by cases hi])).of_touches h₄ touches_updateUser
      fun _ => id
  · rw [huser k hk]
    exact hch.get_of_ne _ fun j _ => hk' j
  · by_cases hi : i = command.uploadId
    · subst hi
      rw [hrow, hr']
      exact .changed hkey huserId fun h => by rw [hstatus] at h; cases h
    · rw [hne i hi, hreleased]
      exact hreleases.avatarStep hw i
  · rw [hne i (fun hi => by rw [hi, hrow] at hnone; cases hnone), hreleased, hreleases.some_of_some hw hnone] at hsome
    exact (hsome rfl).elim
  · by_cases hi : i = command.uploadId
    · subst hi
      rw [hr', hpending]
      refine ⟨fun h => (hlive (h r' rfl)).elim, fun h => ?_⟩
      have hrel := h r rfl
      rw [hstatus] at hrel
      cases hrel
    · rw [hne i hi]

lemma ok_finalizeAvatar {e : Entry} {actorId uploadId : Uuid} {profile : UserProfile}
    (h : Runs (contract settings mask publicBaseUrl ticks) (Postgres.Avatars.finalize publicBaseUrl actorId uploadId)
      l g (.ok profile) e.ran g' L G)
    (hw : l.writes = []) (hg : History (contract settings mask publicBaseUrl ticks) g) (hl : Coherent index l g) : Ok e G := by
  have hG := h.evolve.later.history hg
  have hrun := Runs.mapError h
  unfold activate at hrun
  obtain ⟨_, l₁, g₁, h₁, r₁⟩ := hrun.bind
  obtain ⟨rows, l₂, g₂, h₂, r₂⟩ := r₁.bind
  obtain ⟨row, l₃, g₃, h₃, r₃⟩ := r₂.bind
  obtain ⟨hhead, rfl⟩ := h₃.ofOption
  have hw₁ := (lockLiveUser_locks h₁).2.trans hw
  have hw₂ := (h₂.writes_eq touches_selectFor).trans hw₁
  obtain ⟨gs, -, -, hrows⟩ := h₂.selectFor (by decide)
  obtain ⟨i, hi, t, r, -, -, hr, hf⟩ := hrows.mem row (List.mem_of_mem_head? hhead)
  obtain rfl := (Store.mem_one.mp hi).1
  have hevolve := (h₁.returns.evolve.trans h₂.returns.evolve).trans h₃.returns.evolve
  split at r₃
  · split at hf
    · have hstatus : r.status = .pending := (Prod.mk.inj (Option.some.inj hf)).1
      rw [hw₁, Store.apply_nil] at hr
      exact (frees_activatePending r₃ hw₂ (hevolve.later.history hg) (hevolve.coherent hl) hr hstatus).ok hG
    · cases hf
  · exact ok_of_touches hw₂ r₃ (touches_select.bind fun _ => touches_ofOption)
  · exact (Runs.not_fail r₃).elim
  · exact (Runs.not_fail r₃).elim

end Profile

end JamyeServer.Objects
