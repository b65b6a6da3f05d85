import JamyeServer.Attachments.Order
import JamyeServer.Objects.Deletions

/-!
# Registering, confirming and sending uploads

These transactions take no object out of use. A send binds uploads that have not been bound before, each with its poster,
or it takes the poster from the upload.
-/

namespace JamyeServer.Objects

open ReadCommitted Postgres Media Messages Prog Rooms

variable {settings : Settings} {mask : String → String} {publicBaseUrl : String} {ticks : Time → Time → Bool}
  {l l' L : Local} {g g' G : Shared} {ε α : Type}

section Quiet

/-- What a transaction leaves that discards nothing. -/
structure Quiet (l : Local) (G : Shared) : Prop where
  own : OwnIntents l
  frame : ∀ k, ¬ Apart k → (∀ i, k ≠ .mediaUploads i) → (∀ i, k ≠ .messageMedia i) → (G.view l).get k = G.db.get k
  uploads : ∀ i, UploadStep l.drawn i (G.db.get (.mediaUploads i)) ((G.view l).get (.mediaUploads i))
  newUploads : ∀ i, G.db.get (.mediaUploads i) = none → (G.view l).get (.mediaUploads i) ≠ none →
    ∀ n, n ≤ G.csn → (G.version n).get (.mediaUploads i) = none
  live : ∀ i b, G.db.get (.mediaUploads i) = some b → b.deletedAt = none →
    ∃ r, (G.view l).get (.mediaUploads i) = some r ∧ r.deletedAt = none
  attachments : ∀ m row, (G.view l).get (.messageMedia m) = some row →
    G.db.get (.messageMedia m) = some row ∨ Attaches G.db (G.view l) row

lemma Quiet.ok {e : Entry} (h : Quiet e.ran G) : Ok e G := by
  have havatars : ∀ i, (G.view e.ran).get (.userAvatarUploads i) = G.db.get (.userAvatarUploads i) := fun i =>
    h.frame _ id (fun _ h => by cases h) fun _ h => by cases h
  have hintents : ∀ j, (G.view e.ran).get (.accountObjectDeletionIntents j) = G.db.get (.accountObjectDeletionIntents j) :=
    fun j => h.frame _ id (fun _ h => by cases h) fun _ h => by cases h
  have hlive : ∀ i b, G.db.get (.mediaUploads i) = some b → b.deletedAt = none →
      ¬ Discarded ((G.view e.ran).get (.mediaUploads i)) := fun i b hb hb' hdiscarded => by
    obtain ⟨r, hr, hnone⟩ := h.live i b hb hb'
    exact hdiscarded r hr hnone
  refine ⟨h.uploads, fun i => ?_, h.newUploads, fun i hnone hsome => ?_, h.attachments, h.own, fun j x hx => ?_, fun j x hx => ?_,
    fun i b hb hb' hdiscarded => (hlive i b hb hb' hdiscarded).elim, fun i b hb hb' hdiscarded => (hlive i b hb hb' hdiscarded).elim,
    fun i b hb hactive hreleased => ?_⟩
  · rw [havatars]
    exact .same _
  · rw [havatars] at hsome
    exact (hsome hnone).elim
  · rw [hintents]
    exact hx
  · rw [hintents] at hx
    exact .inl hx
  · rw [havatars] at hreleased
    exact (hactive (hreleased b hb)).elim

end Quiet

section Register

lemma touches_lockAccess {chatroomId actorId : Uuid} {s : Store Row} {P : Key → Prop} :
    (lockAccess chatroomId actorId s).Touches P :=
  touches_first fun _ _ => touches_andThen touches_lockRow fun _ => touches_andThen touches_lockRow fun _ => touches_lockRow

lemma quiet_createUploadIntent {command : CreateUploadIntentCommand} {u : Unit}
    (h : Runs (contract settings mask publicBaseUrl ticks) (createUploadIntent command) l g (.ok u) l' g' L G)
    (hw : l.writes = []) (hdrawn : command.id ∈ l.drawn)
    (hkey : command.objectKey = mintObjectKey command.targetId command.id)
    (hnew : ∀ n, n ≤ G.csn → (G.version n).get (.mediaUploads command.id) = none) : Quiet l' G := by
  unfold createUploadIntent at h
  obtain ⟨s, l₁, g₁, h₁, r₁⟩ := h.bind
  obtain ⟨authorized, l₂, g₂, h₂, r₂⟩ := r₁.bind
  obtain ⟨_, l₃, g₃, h₃, r₃⟩ := r₂.bind
  obtain ⟨now, l₄, g₄, h₄, r₄⟩ := r₃.bind
  obtain ⟨-, rfl⟩ := h₃.ensure
  obtain ⟨rfl, -⟩ := h₄.clock
  have hinsert := r₄.insertRow
  have hevolve := (h₁.returns.evolve.trans h₂.returns.evolve).trans ((h₃.returns.evolve.trans h₄.returns.evolve).trans
    r₄.returns.evolve)
  have hw₄ : l₄.writes = [] := by
    rw [h₂.writes_eq touches_lockAccess]
    exact (h₁.writes_eq ⟨trivial, fun _ => trivial⟩).trans hw
  have hne : ∀ k, k ≠ .mediaUploads command.id → (G.view l').get k = G.db.get k := fun k hk => by
    rw [Shared.view, hinsert.get_of_ne _ hk, hw₄, Store.apply_nil]
  have hrow : (G.view l').get (.mediaUploads command.id) = _ := hinsert.get _
  have hold : G.db.get (.mediaUploads command.id) = none := hnew G.csn (Nat.le_refl _)
  refine ⟨fun w hmem j hj => ?_, fun k _ hk _ => hne k (hk _), fun i => ?_, fun i hnone hsome => ?_, fun i b hb hlive => ?_,
    fun m row hm => ?_⟩
  · rw [hinsert.frame] at hmem ⊢
    rcases List.mem_cons.mp hmem with rfl | hmem
    · cases hj
    · rw [hw₄] at hmem
      cases hmem
  · by_cases hi : i = command.id
    · subst hi
      rw [hold, hrow]
      exact .registered rfl rfl rfl hkey (hevolve.drawn hdrawn)
    · rw [hne _ fun h => hi (by cases h; rfl)]
      exact .same _
  · by_cases hi : i = command.id
    · subst hi
      exact hnew
    · rw [hne _ fun h => hi (by cases h; rfl)] at hsome
      exact (hsome hnone).elim
  · refine ⟨b, ?_, hlive⟩
    rw [hne _ fun h => ?_]
    · exact hb
    · cases h
      rw [hold] at hb
      cases hb
  · rw [hne _ fun h => by cases h] at hm
    exact .inl hm

lemma ok_createUpload {e : Entry} {actorId targetId : Uuid} {contentType : String} {byteSize : Nat} {filename : Option String}
    {id : Uuid} (h : Runs (contract settings mask publicBaseUrl ticks)
      (Media.createUpload actorId targetId contentType byteSize filename) l g (.ok id) e.ran g' L G)
    (hw : l.writes = []) (hg : History (contract settings mask publicBaseUrl ticks) g) : Ok e G := by
  unfold Media.createUpload at h
  obtain ⟨_, l₁, g₁, h₁, r₁⟩ := h.bind
  obtain ⟨-, rfl⟩ := h₁.ensure
  obtain ⟨uploadId, l₂, g₂, h₂, r₂⟩ := r₁.bind
  obtain ⟨_, l₃, g₃, h₃, r₃⟩ := r₂.bind
  obtain ⟨-, heq⟩ := r₃.ret
  have hg₁ := h₁.returns.evolve.later.history hg
  have hdrawn : uploadId ∈ l₂.drawn := by
    rw [h₂.fresh.1]
    exact List.mem_cons_self
  have hquiet := quiet_createUploadIntent h₃.mapError (by rw [h₂.fresh.1]; exact hw) hdrawn rfl (drawnUploads.fresh hg₁ h₂).2
  rw [← heq] at hquiet
  exact hquiet.ok

lemma touches_lockAuthorizedUpload {actorId uploadId : Uuid} {P : Key → Prop} :
    (lockAuthorizedUpload actorId uploadId).Touches P :=
  ⟨trivial, fun _ => touches_ofOption.bind fun _ => touches_lockAccess.bind fun _ => touches_ensure.bind fun _ =>
    touches_lockRow.bind fun _ => touches_ofOption.bind fun _ => trivial⟩

lemma touches_prepareUploadFinalize {actorId uploadId : Uuid} {posterUploadId : Option Uuid} {P : Key → Prop} :
    (prepareUploadFinalize actorId uploadId posterUploadId).Touches P := by
  refine touches_lockAuthorizedUpload.mapError.bind fun ⟨upload, targetId⟩ => ?_
  dsimp only
  split
  · refine touches_ensure.bind fun _ => touches_ensure.bind fun _ => touches_ofOption.bind fun kind => ?_
    cases posterUploadId with
    | none => trivial
    | some p =>
      refine Touches.bind (Touches.mapError (touches_select.bind fun found => ?_)) fun _ => touches_ofOption.bind fun _ =>
        touches_ensure.bind fun _ => trivial
      cases found with
      | none => trivial
      | some x => exact touches_ofOption.bind fun _ => trivial
  · exact touches_ensure.bind fun _ => touches_ensure.bind fun _ => touches_ensure.bind fun _ => trivial
  · trivial

lemma touches_ofExcept {x : Except MediaRepositoryError α} {P : Key → Prop} : (ofExcept x).Touches P := by
  cases x with
  | ok a => trivial
  | error e => trivial

lemma ok_finalizeUpload {e : Entry} {command : FinalizeUploadCommand} {record : ConfirmedUploadRecord}
    (h : Runs (contract settings mask publicBaseUrl ticks) (finalizeUpload command) l g (.ok record) e.ran g' L G)
    (hw : l.writes = []) (hg : History (contract settings mask publicBaseUrl ticks) g) : Ok e G := by
  have hG := h.evolve.later.history hg
  unfold finalizeUpload at h
  obtain ⟨upload, l₁, g₁, h₁, r₁⟩ := h.bind
  dsimp only at r₁
  obtain ⟨_, l₂, g₂, h₂, r₂⟩ := r₁.bind
  obtain ⟨_, l₃, g₃, h₃, r₃⟩ := r₂.bind
  obtain ⟨_, l₄, g₄, h₄, r₄⟩ := r₃.bind
  obtain ⟨duration, l₅, g₅, h₅, r₅⟩ := r₄.bind
  obtain ⟨_, l₆, g₆, h₆, r₆⟩ := r₅.bind
  obtain ⟨confirmed, l₇, g₇, h₇, r₇⟩ := r₆.bind
  have hw₆ : l₆.writes = [] := by
    rw [h₆.writes_eq touches_ensure, h₅.writes_eq touches_ofExcept, h₄.writes_eq touches_ensure,
      h₃.writes_eq touches_ensure, h₂.writes_eq touches_ensure, h₁.writes_eq touches_lockAuthorizedUpload, hw]
  have hw' : e.ran.writes = l₇.writes := r₇.writes_eq (touches_ofOption.bind fun _ => touches_references.bind fun _ => trivial)
  obtain ⟨gs, ws, -, -, hch⟩ := h₇.update fun s => s.nodup_one ..
  have hview : ∀ k, (∀ i, k ≠ .mediaUploads i) → (G.view e.ran).get k = G.db.get k := fun k hk => by
    rw [Shared.view, hw', hch.get_of_ne _ fun i _ => hk i, hw₆, Store.apply_nil]
  -- the upload was pending, so that it is not bound
  have hrow : ∀ i, (G.view e.ran).get (.mediaUploads i) = G.db.get (.mediaUploads i) ∨
      ∃ b t, G.db.get (.mediaUploads i) = some b ∧ b.boundMessageId = none ∧
        (G.view e.ran).get (.mediaUploads i) = some (MediaUpload.confirm duration command.posterUploadId t b) := by
    intro i
    rw [Shared.view, hw']
    rcases hch.row i with hsame | ⟨j, -, hkey, t, r, v, a, -, hr, hf, hafter⟩
    · refine .inl (hsame.trans ?_)
      rw [hw₆, Store.apply_nil]
    · obtain rfl := Tables.mediaUploads.key_injective hkey
      change (G.db.apply l₆.writes).get (.mediaUploads j) = some r at hr
      rw [hw₆, Store.apply_nil] at hr
      obtain ⟨x, hx, heq⟩ := Option.map_eq_some_iff.mp hf
      split at hx
      · rename_i hcond
        cases hx
        cases heq
        simp only [Bool.and_eq_true, decide_eq_true_eq] at hcond
        have hunbound : r.boundMessageId = none := by
          simpa [hcond.1] using (consistent_of_history hG j r hr).1
        exact .inr ⟨r, t, hr, hunbound, hafter⟩
      · cases hx
  have hown : OwnIntents e.ran := by
    refine OwnIntents.of_touches ?_ r₇ (P := fun _ => False) (touches_ofOption.bind fun _ => touches_references.bind fun _ => trivial)
      fun _ => id
    exact (ownIntents_nil hw₆).of_touches h₇ (P := fun k => ∃ i, k = .mediaUploads i) (touches_change fun i => ⟨i, rfl⟩)
      (by rintro j ⟨i, hi⟩; cases hi)
  refine Quiet.ok ⟨hown, fun k _ hk _ => hview k hk, fun i => ?_, fun i hnone hsome => ?_, fun i b hb hlive => ?_, fun m row hm => ?_⟩
  · rcases hrow i with hsame | ⟨b, t, hb, hunbound, hafter⟩
    · rw [hsame]
      exact .same _
    · rw [hb, hafter]
      refine .changed hunbound rfl rfl rfl ?_
      simp [MediaUpload.confirm, hunbound]
  · rcases hrow i with hsame | ⟨b, t, hb, -⟩
    · rw [hsame] at hsome
      exact (hsome hnone).elim
    · rw [hnone] at hb
      cases hb
  · rcases hrow i with hsame | ⟨b', t, hb', -, hafter⟩
    · exact ⟨b, hsame.trans hb, hlive⟩
    · rw [hb] at hb'
      cases hb'
      exact ⟨_, hafter, hlive⟩
  · rw [hview _ fun _ h => by cases h] at hm
    exact .inl hm

end Register

section Binding

variable {actorId chatroomId messageId : Uuid} {consumedAt : Time}

/-- An upload that the transaction has bound to the message: it was free before. -/
structure BoundHere (messageId : Uuid) (b r : MediaUpload) : Prop where
  free : b.boundMessageId = none
  live : b.deletedAt = none
  bound : r.boundMessageId = some messageId
  status : r.status = .bound
  deleted : r.deletedAt = none
  objectKey : r.objectKey = b.objectKey
  targetId : r.targetId = b.targetId

/-- What a send leaves after some of its uploads. -/
structure Binds (messageId : Uuid) (l : Local) (G : Shared) : Prop where
  own : OwnIntents l
  frame : ∀ k, ¬ Apart k → (∀ i, k ≠ .mediaUploads i) → (∀ i, k ≠ .messageMedia i) → (G.view l).get k = G.db.get k
  uploads : ∀ i, (G.view l).get (.mediaUploads i) = G.db.get (.mediaUploads i) ∨
    ∃ b r, G.db.get (.mediaUploads i) = some b ∧ (G.view l).get (.mediaUploads i) = some r ∧ BoundHere messageId b r
  attachments : ∀ m row, (G.view l).get (.messageMedia m) = some row →
    G.db.get (.messageMedia m) = some row ∨ Attaches G.db (G.view l) row

lemma Binds.quiet (h : Binds messageId l G) : Quiet l G where
  own := h.own
  frame := h.frame
  uploads i := by
    rcases h.uploads i with hsame | ⟨b, r, hb, hr, hbound⟩
    · rw [hsame]
      exact .same _
    · rw [hb, hr]
      refine .changed hbound.free hbound.objectKey hbound.targetId (hbound.deleted.trans hbound.live.symm) ?_
      simp [hbound.status, hbound.bound]
  newUploads i hnone hsome := by
    rcases h.uploads i with hsame | ⟨b, r, hb, -⟩
    · rw [hsame] at hsome
      exact (hsome hnone).elim
    · rw [hnone] at hb
      cases hb
  live i b hb hlive := by
    rcases h.uploads i with hsame | ⟨b', r, -, hr, hbound⟩
    · exact ⟨b, hsame.trans hb, hlive⟩
    · exact ⟨r, hr, hbound.deleted⟩
  attachments := h.attachments

/-- A bound upload stays bound; it may lose its poster. -/
def Advances (s s' : Store Row) : Prop :=
  ∀ i r, s.get (.mediaUploads i) = some r → r.boundMessageId ≠ none → ∃ r', s'.get (.mediaUploads i) = some r' ∧
    r'.boundMessageId = r.boundMessageId ∧ r'.deletedAt = r.deletedAt ∧ r'.objectKey = r.objectKey ∧
      (r'.posterUploadId = r.posterUploadId ∨ r'.posterUploadId = none)

lemma Attaches.advance {s s₁ s₂ : Store Row} {row : MessageMedia} (h : Attaches s s₁ row) (hadvances : Advances s₁ s₂) :
    Attaches s s₂ row := by
  obtain ⟨r, hr, hbound, hlive, hkey, hposter⟩ := h.bound.upload
  obtain ⟨r', hr', hbound', hlive', hkey', hposter'⟩ := hadvances _ r hr (by rw [hbound]; exact Option.some_ne_none _)
  refine ⟨⟨r', hr', hbound'.trans hbound, hlive'.trans hlive, hkey'.trans hkey, fun p hp => ?_⟩, h.upload, fun r₁ p hr₁ hp => ?_⟩
  · rcases hposter' with hsame | hnone
    · obtain ⟨q, hq, hqbound, hqlive⟩ := hposter p (hsame ▸ hp)
      obtain ⟨q', hq', hqbound', hqlive', -⟩ := hadvances _ q hq (by rw [hqbound]; exact Option.some_ne_none _)
      exact ⟨q', hq', hqbound'.trans hqbound, hqlive'.trans hqlive⟩
    · rw [hnone] at hp
      cases hp
  · rw [hr'] at hr₁
    cases hr₁
    rcases hposter' with hsame | hnone
    · exact h.poster r p hr (hsame ▸ hp)
    · rw [hnone] at hp
      cases hp

/-- A statement on uploads that keeps what is bound. -/
lemma Binds.advance {p : Sql ε α} {x : Except ε α} (h : Binds messageId l G)
    (hrun : Runs (contract settings mask publicBaseUrl ticks) p l g x l' g' L G) (hp : p.Touches fun k => ∃ i, k = .mediaUploads i)
    (hadvances : Advances (G.view l) (G.view l'))
    (huploads : ∀ i, (G.view l').get (.mediaUploads i) = G.db.get (.mediaUploads i) ∨
      ∃ b r, G.db.get (.mediaUploads i) = some b ∧ (G.view l').get (.mediaUploads i) = some r ∧ BoundHere messageId b r) :
    Binds messageId l' G := by
  have hframe : ∀ k, (∀ i, k ≠ .mediaUploads i) → (G.view l').get k = (G.view l).get k := fun k hk =>
    hrun.get_of_touches hp (fun ⟨i, hi⟩ => hk i hi) _
  refine ⟨h.own.of_touches hrun hp (by rintro j ⟨i, hi⟩; cases hi), fun k hk hk' hk'' => (hframe k hk').trans (h.frame k hk hk' hk''),
    huploads, fun m row hrow => ?_⟩
  rw [hframe _ fun _ h => by cases h] at hrow
  rcases h.attachments m row hrow with hold | hnew
  · exact .inl hold
  · exact .inr (hnew.advance hadvances)

lemma consumable_free {r : MediaUpload} (h : consumable actorId chatroomId consumedAt r = true) :
    r.boundMessageId = none ∧ r.deletedAt = none := by
  simp only [consumable, Bool.and_eq_true, Option.isNone_iff_eq_none] at h
  tauto

/-- What is consumed was free before. -/
lemma binds_consumeUpload {uploadId : Uuid} {error : MediaRepositoryError} {x : Option Uuid}
    (h : Runs (contract settings mask publicBaseUrl ticks)
      (consumeUpload actorId chatroomId messageId uploadId consumedAt error) l g (.ok x) l' g' L G)
    (hbinds : Binds messageId l G) :
    Binds messageId l' G ∧ Advances (G.view l) (G.view l') ∧ (x ≠ none → ∃ b, G.db.get (.mediaUploads uploadId) = some b ∧
      b.boundMessageId = none ∧ (G.view l').get (.mediaUploads uploadId) = some (MediaUpload.consume messageId consumedAt b)) := by
  have hrun := h
  unfold consumeUpload at h
  obtain ⟨updated, l₁, g₁, h₁, r₁⟩ := h.bind
  obtain ⟨rfl, rfl⟩ := r₁.ret
  obtain ⟨gs, ws, -, -, hch⟩ := h₁.change (by decide) fun s => s.nodup_one ..
  -- a row that can be consumed is still the one of the last version
  have hfree : ∀ i r, (G.view l).get (.mediaUploads i) = some r → consumable actorId chatroomId consumedAt r = true →
      G.db.get (.mediaUploads i) = some r ∧ r.boundMessageId = none ∧ r.deletedAt = none := by
    intro i r hr hcond
    obtain ⟨hunbound, hlive⟩ := consumable_free hcond
    rcases hbinds.uploads i with hsame | ⟨b, r', -, hr', hbound⟩
    · exact ⟨hsame ▸ hr, hunbound, hlive⟩
    · rw [hr] at hr'
      cases hr'
      rw [hbound.bound] at hunbound
      cases hunbound
  have hrow : ∀ i, (G.view l').get (.mediaUploads i) = (G.view l).get (.mediaUploads i) ∨
      ∃ b, (G.view l).get (.mediaUploads i) = some b ∧ consumable actorId chatroomId consumedAt b = true ∧
        (G.view l').get (.mediaUploads i) = some (MediaUpload.consume messageId consumedAt b) := by
    intro i
    rcases hch.row i with hsame | ⟨j, -, hkey, t, r, v, a, -, hr, hf, hafter⟩
    · exact .inl hsame
    · obtain rfl := Tables.mediaUploads.key_injective hkey
      split at hf
      · rename_i hcond
        cases hf
        exact .inr ⟨r, hr, hcond, hafter⟩
      · cases hf
  have hadvances : Advances (G.view l) (G.view l') := by
    intro i r hr hbound
    rcases hrow i with hsame | ⟨b, hb, hcond, -⟩
    · exact ⟨r, hsame.trans hr, rfl, rfl, rfl, .inl rfl⟩
    · rw [hr] at hb
      cases hb
      exact (hbound (consumable_free hcond).1).elim
  refine ⟨hbinds.advance hrun (touches_consumeUpload fun i => ⟨i, rfl⟩) hadvances fun i => ?_, hadvances, fun hx => ?_⟩
  · rcases hrow i with hsame | ⟨b, hb, hcond, hafter⟩
    · rw [hsame]
      exact hbinds.uploads i
    · obtain ⟨hdb, hunbound, hlive⟩ := hfree i b hb hcond
      exact .inr ⟨b, _, hdb, hafter, hunbound, hlive, rfl, rfl, hlive, rfl, rfl⟩
  · obtain ⟨a, ha⟩ := Option.ne_none_iff_exists'.mp hx
    obtain ⟨i, hi, t, r, v, -, -, hr, hf, hafter⟩ := hch.returned (List.mem_of_mem_head? ha)
    obtain rfl := (Store.mem_one.mp hi).1
    split at hf
    · rename_i hcond
      cases hf
      obtain ⟨hdb, hunbound, -⟩ := hfree _ r hr hcond
      exact ⟨r, hdb, hunbound, hafter⟩
    · cases hf

lemma Binds.here (h : Binds messageId l G) {i : Uuid} {b r : MediaUpload} (hb : G.db.get (.mediaUploads i) = some b)
    (hfree : b.boundMessageId = none) (hr : (G.view l).get (.mediaUploads i) = some r) (hbound : r.boundMessageId ≠ none) :
    BoundHere messageId b r := by
  rcases h.uploads i with hsame | ⟨b', r', hb', hr', hhere⟩
  · rw [hsame, hb] at hr
    cases hr
    exact (hbound hfree).elim
  · rw [hb] at hb'
    rw [hr] at hr'
    cases hb'
    cases hr'
    exact hhere

lemma BoundHere.unlink {b r : MediaUpload} (h : BoundHere messageId b r) :
    BoundHere messageId b { r with posterUploadId := none } :=
  ⟨h.free, h.live, h.bound, h.status, h.deleted, h.objectKey, h.targetId⟩

/-- A video that is bound here loses its poster. -/
lemma binds_unlink {videoUploadId posterUploadId : Uuid} {error : ε} {as : List Unit} {b r : MediaUpload}
    (h : Runs (contract settings mask publicBaseUrl ticks)
      (update Tables.mediaUploads
        (fun s => s.one Tables.mediaUploads videoUploadId fun r =>
          decide (r.posterUploadId = some posterUploadId) && r.deletedAt.isNone)
        (fun _ _ _ (r : MediaUpload) => if r.posterUploadId = some posterUploadId ∧ r.deletedAt = none then
          some ({ r with posterUploadId := none }, ()) else none) error) l g (.ok as) l' g' L G)
    (hbinds : Binds messageId l G) (hb : G.db.get (.mediaUploads videoUploadId) = some b)
    (hr : (G.view l).get (.mediaUploads videoUploadId) = some r) (hhere : BoundHere messageId b r)
    (hlock : (.mediaUploads videoUploadId, .update) ∈ l.locks) :
    Binds messageId l' G ∧ ∃ r', (G.view l').get (.mediaUploads videoUploadId) = some r' ∧ BoundHere messageId b r' ∧
      r'.posterUploadId ≠ some posterUploadId ∧ (r'.posterUploadId = r.posterUploadId ∨ r'.posterUploadId = none) := by
  have hg' : g'.csn ≤ G.csn := h.rest.later.csn_le
  obtain ⟨gs, ws, hgs, hgs', hch⟩ := h.update fun s => s.nodup_one ..
  have hother : ∀ i, i ≠ videoUploadId → (G.view l').get (.mediaUploads i) = (G.view l).get (.mediaUploads i) := by
    intro i hi
    refine hch.get_of_ne _ fun j hj hkey => hi ?_
    rw [← (Store.mem_one.mp hj).1]
    exact Tables.mediaUploads.key_injective hkey
  have hvideo : ∃ r', (G.view l').get (.mediaUploads videoUploadId) = some r' ∧ BoundHere messageId b r' ∧
      r'.posterUploadId ≠ some posterUploadId ∧ (r'.posterUploadId = r.posterUploadId ∨ r'.posterUploadId = none) := by
    by_cases hlink : r.posterUploadId = some posterUploadId
    · have hversion : ∀ n, g.csn ≤ n → n ≤ G.csn → ((G.version n).apply l.writes).get (.mediaUploads videoUploadId) = some r :=
        fun n hn hn' => (view_locked h hlock (by decide) hn hn').trans hr
      have hmem : videoUploadId ∈ ((G.version gs.csn).apply l.writes).one Tables.mediaUploads videoUploadId fun r =>
          decide (r.posterUploadId = some posterUploadId) && r.deletedAt.isNone :=
        Store.mem_one.mpr ⟨rfl, r, hversion _ hgs.csn_le (Nat.le_trans hgs'.csn_le hg'), by simp [hlink, hhere.deleted]⟩
      rcases hch.get hmem with ⟨n, hn, hn', hmissing⟩ | ⟨t, r₁, -, -, hr₁, hafter⟩
      · have hsome := hversion n (Nat.le_trans hgs.csn_le hn) (Nat.le_trans hn' hg')
        change ((G.version n).apply l.writes).get (.mediaUploads videoUploadId) = none at hmissing
        rw [hsome] at hmissing
        cases hmissing
      · obtain rfl : r₁ = r := Option.some.inj (hr₁.symm.trans hr)
        rw [if_pos ⟨hlink, hhere.deleted⟩] at hafter
        exact ⟨_, hafter, hhere.unlink, (Option.some_ne_none _).symm, .inr rfl⟩
    · rcases hch.row videoUploadId with hsame | ⟨j, -, hkey, t, r₁, v, a, -, hr₁, hf, -⟩
      · exact ⟨r, hsame.trans hr, hhere, hlink, .inl rfl⟩
      · obtain rfl := Tables.mediaUploads.key_injective hkey
        obtain rfl : r₁ = r := Option.some.inj (hr₁.symm.trans hr)
        rw [if_neg fun h => hlink h.1] at hf
        cases hf
  have hadvances : Advances (G.view l) (G.view l') := by
    intro i r₁ hr₁ hbound
    by_cases hi : i = videoUploadId
    · subst hi
      rw [hr] at hr₁
      cases hr₁
      obtain ⟨r', hr', hhere', -, hposter⟩ := hvideo
      exact ⟨r', hr', hhere'.bound.trans hhere.bound.symm, hhere'.deleted.trans hhere.deleted.symm,
        hhere'.objectKey.trans hhere.objectKey.symm, hposter⟩
    · exact ⟨r₁, (hother i hi).trans hr₁, rfl, rfl, rfl, .inl rfl⟩
  refine ⟨hbinds.advance h (touches_change fun i => ⟨i, rfl⟩) hadvances fun i => ?_, hvideo⟩
  by_cases hi : i = videoUploadId
  · subst hi
    obtain ⟨r', hr', hhere', -⟩ := hvideo
    exact .inr ⟨b, r', hb, hr', hhere'⟩
  · rw [hother i hi]
    exact hbinds.uploads i

/-- The poster of a video that is bound here is bound with it, or taken from it. -/
lemma binds_bindLinkedPoster {videoUploadId posterUploadId : Uuid} {x : Option Uuid} {b r : MediaUpload}
    (h : Runs (contract settings mask publicBaseUrl ticks)
      (bindLinkedPoster actorId chatroomId messageId videoUploadId posterUploadId consumedAt) l g (.ok x) l' g' L G)
    (hbinds : Binds messageId l G) (hb : G.db.get (.mediaUploads videoUploadId) = some b)
    (hr : (G.view l).get (.mediaUploads videoUploadId) = some r) (hhere : BoundHere messageId b r)
    (hlock : (.mediaUploads videoUploadId, .update) ∈ l.locks) (hlink : r.posterUploadId = some posterUploadId) :
    Binds messageId l' G ∧ ∃ r', (G.view l').get (.mediaUploads videoUploadId) = some r' ∧ BoundHere messageId b r' ∧
      ∀ p, r'.posterUploadId = some p → ∃ bp rp, G.db.get (.mediaUploads p) = some bp ∧
        (G.view l').get (.mediaUploads p) = some rp ∧ BoundHere messageId bp rp := by
  unfold bindLinkedPoster at h
  obtain ⟨updated, l₁, g₁, h₁, r₁⟩ := h.bind
  obtain ⟨hbinds₁, hadvances, hconsumed⟩ := binds_consumeUpload h₁ hbinds
  obtain ⟨r', hr', hbound', -, -, hposter'⟩ := hadvances _ r hr (by rw [hhere.bound]; exact Option.some_ne_none _)
  have hhere' : BoundHere messageId b r' := hbinds₁.here hb hhere.free hr' (by
    rw [hbound', hhere.bound]
    exact Option.some_ne_none _)
  rw [hlink] at hposter'
  cases updated with
  | some posterId =>
    obtain ⟨-, rfl⟩ := r₁.ret
    refine ⟨hbinds₁, r', hr', hhere', fun p hp => ?_⟩
    rcases hposter' with hsame | hnone
    · rw [hsame] at hp
      cases hp
      obtain ⟨bp, hbp, hfree, hrp⟩ := hconsumed (Option.some_ne_none _)
      exact ⟨bp, _, hbp, hrp, hbinds₁.here hbp hfree hrp (Option.some_ne_none _)⟩
    · rw [hnone] at hp
      cases hp
  | none =>
    obtain ⟨_, l₂, g₂, h₂, r₂⟩ := Runs.bind r₁
    obtain ⟨-, rfl⟩ := r₂.ret
    obtain ⟨hbinds₂, r₃, hr₃, hhere₃, hunlinked, hposter₃⟩ :=
      binds_unlink h₂ hbinds₁ hb hr' hhere' (h₁.returns.evolve.locks hlock)
    refine ⟨hbinds₂, r₃, hr₃, hhere₃, fun p hp => ?_⟩
    rcases hposter₃ with hsame | hnone
    · rcases hposter' with hsame' | hnone'
      · exact (hunlinked (hsame.trans hsame')).elim
      · rw [hsame, hnone'] at hp
        cases hp
    · rw [hnone] at hp
      cases hp

/-- An upload of the request as it is in the last version. -/
structure Listed (upload : StoredUpload) (l : Local) (G : Shared) : Prop where
  lock : (.mediaUploads upload.id, .update) ∈ l.locks
  row : ∃ b, G.db.get (.mediaUploads upload.id) = some b ∧ b.posterUploadId = upload.posterUploadId ∧
    b.objectKey = upload.objectKey

/-- The attachment of an upload that is bound here with its poster. -/
lemma binds_attach {upload : StoredUpload} {position : Nat} {posterMediaId : Option Uuid} {a : MessageAttachment}
    {b r : MediaUpload} (h : Runs (contract settings mask publicBaseUrl ticks) (do
      let mediaId ← fresh
      let row : MessageMedia :=
        { messageId, mediaUploadId := upload.id, contentType := upload.contentType, objectKey := upload.objectKey,
          byteSize := upload.byteSize, duration := upload.duration, position, filename := upload.filename,
          createdAt := consumedAt }
      insertRow (.messageMedia mediaId) row [.messages messageId, .mediaUploads upload.id] .finalizeConflict
      ofOption (intoAttachment (mediaId, row) posterMediaId) .invalidData : Sql MediaRepositoryError MessageAttachment)
      l g (.ok a) l' g' L G)
    (hbinds : Binds messageId l G) (hb : G.db.get (.mediaUploads upload.id) = some b) (hobject : b.objectKey = upload.objectKey)
    (hr : (G.view l).get (.mediaUploads upload.id) = some r) (hhere : BoundHere messageId b r)
    (hposters : ∀ p, r.posterUploadId = some p → ∃ bp rp, G.db.get (.mediaUploads p) = some bp ∧
      (G.view l).get (.mediaUploads p) = some rp ∧ BoundHere messageId bp rp) : Binds messageId l' G := by
  obtain ⟨mediaId, l₁, g₁, h₁, r₁⟩ := h.bind
  obtain ⟨_, l₂, g₂, h₂, r₂⟩ := r₁.bind
  obtain ⟨-, rfl⟩ := r₂.ofOption
  have hinsert := h₂.insertRow
  have hw₁ : l₁.writes = l.writes := by rw [h₁.fresh.1]
  have hne : ∀ k, k ≠ .messageMedia mediaId → (G.view l').get k = (G.view l).get k := fun k hk => by
    rw [Shared.view, hinsert.get_of_ne _ hk, hw₁]
    rfl
  have hupload : ∀ i, (G.view l').get (.mediaUploads i) = (G.view l).get (.mediaUploads i) := fun i =>
    hne _ fun h => by cases h
  refine ⟨fun w hmem j hj => ?_, fun k hk hk' hk'' => ?_, fun i => ?_, fun m row hm => ?_⟩
  · rw [hinsert.frame] at hmem ⊢
    rcases List.mem_cons.mp hmem with rfl | hmem
    · cases hj
    · exact h₁.returns.evolve.drawn (hbinds.own w (hw₁ ▸ hmem) j hj)
  · rw [hne k (hk'' _)]
    exact hbinds.frame k hk hk' hk''
  · rw [hupload]
    exact hbinds.uploads i
  · by_cases hi : m = mediaId
    · subst hi
      have hnew : (G.view l').get (.messageMedia m) = _ := hinsert.get _
      rw [hnew] at hm
      cases hm
      refine .inr ⟨⟨r, (hupload _).trans hr, hhere.bound, hhere.deleted, hhere.objectKey.trans hobject, fun p hp => ?_⟩,
        ⟨b, hb, hhere.free⟩, fun r₁ p hr₁ hp => ?_⟩
      · obtain ⟨bp, rp, -, hrp, hherep⟩ := hposters p hp
        exact ⟨rp, (hupload p).trans hrp, hherep.bound, hherep.deleted⟩
      · change (G.view l').get (.mediaUploads upload.id) = some r₁ at hr₁
        rw [hupload, hr] at hr₁
        cases hr₁
        obtain ⟨bp, rp, hbp, -, hherep⟩ := hposters p hp
        exact ⟨bp, hbp, hherep.free⟩
    · rw [hne _ fun h => hi (by cases h; rfl)] at hm
      rcases hbinds.attachments m row hm with hold | hnew
      · exact .inl hold
      · exact .inr (hnew.advance fun i r₁ hr₁ _ => ⟨r₁, (hupload i).trans hr₁, rfl, rfl, rfl, .inl rfl⟩)

lemma binds_bindUpload {upload : StoredUpload} {position : Nat} {a : MessageAttachment}
    (h : Runs (contract settings mask publicBaseUrl ticks)
      (bindUpload actorId chatroomId messageId consumedAt upload position) l g (.ok a) l' g' L G)
    (hbinds : Binds messageId l G) (hlisted : Listed upload l G) : Binds messageId l' G := by
  unfold bindUpload at h
  obtain ⟨updated, l₁, g₁, h₁, r₁⟩ := h.bind
  obtain ⟨_, l₂, g₂, h₂, r₂⟩ := r₁.bind
  obtain ⟨hupdated, rfl⟩ := h₂.ensure
  obtain ⟨hbinds₁, -, hconsumed⟩ := binds_consumeUpload h₁ hbinds
  obtain ⟨b, hb, hfree, hrow⟩ := hconsumed (by rw [hupdated]; exact Option.some_ne_none _)
  have hhere := hbinds₁.here hb hfree hrow (Option.some_ne_none _)
  obtain ⟨b', hb', hposter, hobject⟩ := hlisted.row
  obtain rfl : b = b' := Option.some.inj (hb.symm.trans hb')
  have hlock := h₂.returns.evolve.locks (h₁.returns.evolve.locks hlisted.lock)
  dsimp only at r₂
  split at r₂
  · rename_i posterId hlink
    obtain ⟨posterMediaId, l₃, g₃, h₃, r₃⟩ := r₂.bind
    obtain ⟨hbinds₃, r, hr, hhere₃, hposters⟩ := binds_bindLinkedPoster h₃ hbinds₁ hb hrow hhere hlock (hposter.trans hlink)
    exact binds_attach r₃ hbinds₃ hb hobject hr hhere₃ hposters
  · rename_i hnone
    obtain ⟨posterMediaId, l₃, g₃, h₃, r₃⟩ := r₂.bind
    obtain ⟨-, rfl⟩ := h₃.ret
    refine binds_attach r₃ hbinds₁ hb hobject hrow hhere fun p hp => ?_
    change b.posterUploadId = some p at hp
    rw [hposter, hnone] at hp
    cases hp

lemma binds_bindConfirmedUploads {uploads : List StoredUpload} {n : Nat} {as : List MessageAttachment}
    (h : Runs (contract settings mask publicBaseUrl ticks)
      (bindConfirmedUploads actorId chatroomId messageId consumedAt n uploads) l g (.ok as) l' g' L G)
    (hbinds : Binds messageId l G) (hlisted : ∀ u ∈ uploads, Listed u l G) : Binds messageId l' G := by
  induction uploads generalizing n l g as l' g' with
  | nil =>
    obtain ⟨-, rfl⟩ := Runs.ret h
    exact hbinds
  | cons upload uploads ih =>
    obtain ⟨a, l₁, g₁, h₁, r₁⟩ := h.bind
    obtain ⟨as', l₂, g₂, h₂, r₂⟩ := r₁.bind
    obtain ⟨-, rfl⟩ := r₂.ret
    refine ih h₂ (binds_bindUpload h₁ hbinds (hlisted upload List.mem_cons_self)) fun u hu => ?_
    have hu' := hlisted u (List.mem_cons_of_mem _ hu)
    exact ⟨h₁.returns.evolve.locks hu'.lock, hu'.row⟩

lemma Binds.apart {p : Sql ε α} {x : Except ε α} (h : Binds messageId l G)
    (hrun : Runs (contract settings mask publicBaseUrl ticks) p l g x l' g' L G) (hp : p.Touches Apart) :
    Binds messageId l' G := by
  have hframe : ∀ k, ¬ Apart k → (G.view l').get k = (G.view l).get k := fun k hk => hrun.get_of_touches hp hk _
  refine ⟨h.own.of_touches hrun hp fun _ => id, fun k hk hk' hk'' => (hframe k hk).trans (h.frame k hk hk' hk''), fun i => ?_,
    fun m row hrow => ?_⟩
  · rw [hframe _ id]
    exact h.uploads i
  · rw [hframe _ id] at hrow
    rcases h.attachments m row hrow with hold | hnew
    · exact .inl hold
    · exact .inr (hnew.advance fun i r hr _ => ⟨r, (hframe _ id).trans hr, rfl, rfl, rfl, .inl rfl⟩)

lemma binds_of_apart (hown : OwnIntents l) (hframe : ∀ k, ¬ Apart k → (G.view l).get k = G.db.get k) : Binds messageId l G where
  own := hown
  frame k hk _ _ := hframe k hk
  uploads i := .inl (hframe _ id)
  attachments m row hrow := by
    rw [hframe _ id] at hrow
    exact .inl hrow

/-- The uploads of the request are locked and stay as they were read. -/
lemma listed_lockUploadsInRequestOrder {uploadIds : List Uuid} {uploads : List StoredUpload}
    (h : Runs (contract settings mask publicBaseUrl ticks) (lockUploadsInRequestOrder actorId chatroomId uploadIds)
      l g (.ok uploads) l' g' L G)
    (hframe : ∀ i, (G.view l).get (.mediaUploads i) = G.db.get (.mediaUploads i)) : ∀ u ∈ uploads, Listed u l' G := by
  obtain ⟨rows, l₁, g₁, h₁, r₁⟩ := h.bind
  obtain ⟨_, l₂, g₂, h₂, r₂⟩ := r₁.bind
  obtain ⟨_, l₃, g₃, h₃, r₃⟩ := r₂.bind
  obtain ⟨-, rfl⟩ := h₂.ensure
  obtain ⟨-, rfl⟩ := h₃.ensure
  obtain ⟨huploads, rfl⟩ := r₃.ofOption
  obtain ⟨gs, -, -, hlocked⟩ := h₁.selectFor (by decide)
  intro u hu
  obtain ⟨_, -, hfind⟩ := Attachments.mem_of_mapM huploads hu
  obtain ⟨x, hx, rfl⟩ := Option.map_eq_some_iff.mp hfind
  obtain ⟨i, -, t, r, -, hlock, hget, hf⟩ := hlocked.mem x (List.mem_of_find?_eq_some hx)
  split at hf
  · cases hf
    exact ⟨hlock, r, (hframe i).symm.trans hget, rfl, rfl⟩
  · cases hf

lemma binds_bindMessageMedia {media : List (Uuid × FinalizedObject)} {as : List MessageAttachment}
    (h : Runs (contract settings mask publicBaseUrl ticks) (bindMessageMedia actorId chatroomId messageId media)
      l g (.ok as) l' g' L G)
    (hown : OwnIntents l) (hframe : ∀ k, ¬ Apart k → (G.view l).get k = G.db.get k) : Binds messageId l' G := by
  unfold bindMessageMedia at h
  obtain ⟨body, l₁, g₁, h₁, r₁⟩ := h.bind
  obtain ⟨_, l₂, g₂, h₂, r₂⟩ := r₁.bind
  have hbinds₂ : Binds messageId l₂ G := ((binds_of_apart hown hframe).apart h₁ touches_lockAuthorizedMessage).apart h₂
    touches_ensure
  split at r₂
  · exact hbinds₂.apart r₂ (touches_ensure.bind fun _ => touches_lockExistingAttachments.bind fun _ =>
      touches_ensure.bind fun _ => trivial)
  obtain ⟨uploads, l₃, g₃, h₃, r₃⟩ := r₂.bind
  have hlisted := listed_lockUploadsInRequestOrder h₃ fun i => by
    rw [Shared.view, h₂.writes_eq touches_ensure, h₁.writes_eq touches_lockAuthorizedMessage]
    exact hframe _ id
  obtain ⟨_, l₄, g₄, h₄, r₄⟩ := r₃.bind
  obtain ⟨_, l₅, g₅, h₅, r₅⟩ := r₄.bind
  obtain ⟨_, l₆, g₆, h₆, r₆⟩ := r₅.bind
  obtain ⟨_, l₇, g₇, h₇, r₇⟩ := r₆.bind
  have hbinds₇ := ((((hbinds₂.apart h₃ touches_lockUploadsInRequestOrder).apart h₄ touches_ofOption).apart h₅
    touches_ensure).apart h₆ touches_ensure).apart h₇ touches_checkFinalized
  split at r₇
  · obtain ⟨_, l₈, g₈, h₈, r₈⟩ := r₇.bind
    obtain ⟨existing, l₉, g₉, h₉, r₉⟩ := r₈.bind
    obtain ⟨_, l₁₀, g₁₀, h₁₀, r₁₀⟩ := r₉.bind
    obtain ⟨now, l₁₁, g₁₁, h₁₁, r₁₁⟩ := r₁₀.bind
    have hbinds₁₁ := (((hbinds₇.apart h₈ touches_ensure).apart h₉ touches_lockExistingAttachments).apart h₁₀
      touches_ensure).apart h₁₁ ⟨trivial, fun _ => trivial⟩
    have hevolve := ((h₄.returns.evolve.trans h₅.returns.evolve).trans (h₆.returns.evolve.trans h₇.returns.evolve)).trans
      ((h₈.returns.evolve.trans h₉.returns.evolve).trans (h₁₀.returns.evolve.trans h₁₁.returns.evolve))
    exact binds_bindConfirmedUploads r₁₁ hbinds₁₁ fun u hu => ⟨hevolve.locks (hlisted u hu).lock, (hlisted u hu).row⟩
  · exact hbinds₇.apart r₇ (touches_ensure.bind fun _ => touches_exactRetry)

lemma binds_bindAuthoritativeMessageMedia {uploadIds : List Uuid} {as : List MessageAttachment}
    (h : Runs (contract settings mask publicBaseUrl ticks)
      (bindAuthoritativeMessageMedia actorId chatroomId messageId uploadIds) l g (.ok as) l' g' L G)
    (hown : OwnIntents l) (hframe : ∀ k, ¬ Apart k → (G.view l).get k = G.db.get k) : Binds messageId l' G := by
  unfold bindAuthoritativeMessageMedia at h
  obtain ⟨_, l₁, g₁, h₁, r₁⟩ := h.bind
  obtain ⟨_, l₂, g₂, h₂, r₂⟩ := r₁.bind
  obtain ⟨uploads, l₃, g₃, h₃, r₃⟩ := r₂.bind
  obtain ⟨media, l₄, g₄, h₄, r₄⟩ := r₃.bind
  have hw : l₄.writes = l.writes := by
    rw [h₄.writes_eq touches_ofOption, h₃.writes_eq touches_lockUploadsInRequestOrder, h₂.writes_eq touches_ensure,
      h₁.writes_eq touches_lockAuthorizedMessage]
  have hevolve := (h₁.returns.evolve.trans h₂.returns.evolve).trans (h₃.returns.evolve.trans h₄.returns.evolve)
  refine binds_bindMessageMedia r₄ (fun w hmem j hj => hevolve.drawn (hown w (hw ▸ hmem) j hj)) fun k hk => ?_
  rw [Shared.view, hw]
  exact hframe k hk

end Binding

section Sending

open Notifications

lemma ok_sendMessageHttp {e : Entry} {actorId : Uuid} {input : SendMessageInput} {outcome : SendMessageOutcome}
    (h : Runs (contract settings mask publicBaseUrl ticks) (sendMessageHttp settings mask actorId input) l g (.ok outcome) e.ran g' L G)
    (hw : l.writes = []) : Ok e G := by
  unfold sendMessageHttp at h
  obtain ⟨command, l₁, g₁, h₁, r₁⟩ := h.bind
  obtain ⟨stored, l₂, g₂, h₂, r₂⟩ := r₁.bind
  obtain ⟨context, l₃, g₃, h₃, r₃⟩ := r₂.bind
  obtain ⟨attachments, l₄, g₄, h₄, r₄⟩ := r₃.bind
  have hw₁ := (h₁.writes_eq (touches_ensure.bind fun _ => touches_ensure.bind fun _ => trivial)).trans hw
  have hpersist : (persist settings command).Touches Apart := touches_persist fun _ => trivial
  have hown₃ : OwnIntents l₃ :=
    ((ownIntents_nil hw₁).of_touches h₂.mapError hpersist fun _ => id).of_touches h₃.mapError (P := Apart)
      touches_deliveryContext fun _ => id
  have hframe : ∀ k, ¬ Apart k → (G.view l₃).get k = G.db.get k := fun k hk => by
    rw [Shared.view, h₃.mapError.get_of_touches touches_deliveryContext hk, h₂.mapError.get_of_touches hpersist hk, hw₁,
      Store.apply_nil]
  have hbinds := binds_bindAuthoritativeMessageMedia h₄.mapError hown₃ hframe
  refine (hbinds.apart r₄ ?_).quiet.ok
  cases stored with
  | existing message eventId => trivial
  | created message =>
    exact ⟨trivial, fun _ => ⟨trivial, fun _ => (touches_recordEvent trivial trivial).mapError.bind fun _ =>
      (touches_recordMessageCreated (fun _ => trivial) fun _ => trivial).mapError.bind fun _ => trivial⟩⟩

end Sending

end JamyeServer.Objects
