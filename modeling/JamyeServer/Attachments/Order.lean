import JamyeServer.Attachments.Commits
import JamyeServer.ReadCommitted.Alone

/-!
# The order of a video and its poster in a request

The loop that binds the uploads of a request binds the poster of a video with the video. When the poster comes later in
the same request, it is not confirmed any more, and the request fails.
-/

namespace JamyeServer.Attachments

open ReadCommitted Prog Postgres Media

variable {ε β ω : Type} {sys : System Row Nat Idx ε β ω} {C : Contract sys}
  {actorId chatroomId messageId uploadId : Uuid} {consumedAt : Time} {l l' L : Local Row Nat}
  {g g' G : ReadCommitted.Shared Row Nat β ω}

/-- The upload is not there or cannot be consumed. -/
def Spent (actorId chatroomId : Uuid) (consumedAt : Time) (u : Option MediaUpload) : Prop :=
  ∀ r, u = some r → consumable actorId chatroomId consumedAt r = false

/-- The relation that says of one upload that it is spent. -/
def KeepsSpent (actorId chatroomId : Uuid) (consumedAt : Time) (uploadId : Uuid) :
    (k : Key) → Option (Row k) → Option (Row k) → Prop
  | .mediaUploads i, _, v => i = uploadId → Spent actorId chatroomId consumedAt v
  | _, _, _ => True

lemma spent_consume {r : MediaUpload} : Spent actorId chatroomId consumedAt (some (MediaUpload.consume messageId consumedAt r)) := by
  rintro _ ⟨⟩
  simp [consumable, MediaUpload.consume]

lemma Spent.unlink {r : MediaUpload} (h : Spent actorId chatroomId consumedAt (some r)) :
    Spent actorId chatroomId consumedAt (some { r with posterUploadId := none }) := by
  rintro _ ⟨⟩
  have hsame : consumable actorId chatroomId consumedAt { r with posterUploadId := none } =
      consumable actorId chatroomId consumedAt r := rfl
  rw [hsame]
  exact h r rfl

section Consume

/-- A spent upload is not consumed. -/
lemma consumeUpload_spent {error : MediaRepositoryError} {x : Option Uuid}
    (h : Runs C (consumeUpload actorId chatroomId messageId uploadId consumedAt error) l g (.ok x) l' g' L G)
    (hspent : Spent actorId chatroomId consumedAt ((G.db.apply l.writes).get (.mediaUploads uploadId))) : x = none := by
  obtain ⟨updated, l₁, g₁, h₁, r₁⟩ := h.bind
  obtain ⟨rfl, -⟩ := r₁.ret
  obtain ⟨gs, ws, -, -, hch⟩ := h₁.change nofun fun s => s.nodup_one ..
  cases updated with
  | nil => rfl
  | cons a as =>
    obtain ⟨i, hi, t, r, v, -, -, hget, hf, -⟩ := hch.returned List.mem_cons_self
    obtain ⟨rfl, -⟩ := Store.mem_one.mp hi
    split at hf
    · rename_i hconsumable
      rw [hspent r hget] at hconsumable
      cases hconsumable
    · cases hf

/-- After an attempt to consume an upload that is locked, the upload is spent. -/
lemma spent_of_consumeUpload {error : MediaRepositoryError} {x : Option Uuid} {m : LockMode}
    (h : Runs C (consumeUpload actorId chatroomId messageId uploadId consumedAt error) l g (.ok x) l' g' L G)
    (hlock : (.mediaUploads uploadId, m) ∈ l.locks) (hm : m ≠ .keyShare) :
    Spent actorId chatroomId consumedAt ((G.db.apply l'.writes).get (.mediaUploads uploadId)) := by
  have hversion : ∀ n, g.csn ≤ n → n ≤ G.csn → ((G.version n).apply l.writes).get (.mediaUploads uploadId) =
      (G.db.apply l.writes).get (.mediaUploads uploadId) := by
    intro n hn hn'
    have heq : (G.version n).get (.mediaUploads uploadId) = G.db.get (.mediaUploads uploadId) := by
      rw [h.evolve.version_locked hlock hm hn hn', h.evolve.db_locked hlock hm]
    by_cases hmem : Key.mediaUploads uploadId ∈ l.writes.map Write.key
    · obtain ⟨v, -, hs⟩ := Store.get_apply_of_mem hmem
      rw [hs, hs]
    · rw [Store.get_apply_of_notMem _ hmem, Store.get_apply_of_notMem _ hmem, heq]
  obtain ⟨updated, l₁, g₁, h₁, r₁⟩ := h.bind
  obtain ⟨-, rfl⟩ := r₁.ret
  obtain ⟨gs, ws, hgs, hgs', hch⟩ := h₁.change nofun fun s => s.nodup_one ..
  have hG : Later C g₁ G := h₁.rest.later
  by_cases hconsumable : ∃ r, (G.db.apply l.writes).get (.mediaUploads uploadId) = some r ∧
      consumable actorId chatroomId consumedAt r = true
  · obtain ⟨r, hr, hc⟩ := hconsumable
    have hmem : uploadId ∈ ((G.version gs.csn).apply l.writes).one Tables.mediaUploads uploadId
        fun r => consumable actorId chatroomId consumedAt r :=
      Store.mem_one.mpr ⟨rfl, r, (hversion _ hgs.csn_le (hgs'.trans hG).csn_le).trans hr, hc⟩
    rcases hch.get hmem with ⟨n, hn, hn', hmiss⟩ | ⟨t, r₁, -, -, hget, hafter⟩
    · have hsome := hversion n (Nat.le_trans hgs.csn_le hn) (Nat.le_trans hn' hG.csn_le)
      rw [hr] at hsome
      cases hmiss.symm.trans hsome
    · obtain rfl : r₁ = r := Option.some.inj (hget.symm.trans hr)
      rw [if_pos hc] at hafter
      rw [hafter]
      exact spent_consume
  · intro r hr
    rcases hch.row uploadId with hsame | ⟨i, hi, hkey, t, r₀, v, a, -, hget, hf, hafter⟩
    · by_contra hnot
      exact hconsumable ⟨r, hsame.symm.trans hr, by simpa using hnot⟩
    · obtain rfl : i = uploadId := Tables.mediaUploads.key_injective hkey
      split at hf
      · rename_i hc
        exact absurd ⟨r₀, hget, hc⟩ hconsumable
      · cases hf

end Consume

section Loop

lemma rows_keepsSpent (h : Spent actorId chatroomId consumedAt ((G.db.apply l.writes).get (.mediaUploads uploadId))) :
    Rows (KeepsSpent actorId chatroomId consumedAt uploadId) G l := by
  intro k
  cases k with
  | mediaUploads i =>
    rintro rfl
    exact h
  | _ => trivial

lemma keepsSpent_bindUpload {upload : StoredUpload} {position : Nat} :
    (bindUpload actorId chatroomId messageId consumedAt upload position).Keeps C
      (KeepsSpent actorId chatroomId consumedAt uploadId) :=
  keeps_bindUpload (fun _ _ _ _ _ _ => spent_consume) (fun _ _ hr hi => (hr hi).unlink) fun _ _ _ => trivial

/-- The loop does not come to an end if it meets an upload that is spent. -/
lemma id_ne_of_spent {uploads : List StoredUpload} {n : Nat} {as : List MessageAttachment}
    (h : Runs C (bindConfirmedUploads actorId chatroomId messageId consumedAt n uploads) l g (.ok as) l' g' L G)
    (hspent : Rows (KeepsSpent actorId chatroomId consumedAt uploadId) G l) : ∀ w ∈ uploads, w.id ≠ uploadId := by
  induction uploads generalizing n l g as l' g' with
  | nil =>
    intro w hw
    cases hw
  | cons u us ih =>
    obtain ⟨a, l₁, g₁, h₁, r₁⟩ := h.bind
    obtain ⟨as', l₂, g₂, h₂, r₂⟩ := r₁.bind
    intro w hw
    rcases List.mem_cons.mp hw with rfl | hw
    · rintro rfl
      unfold bindUpload at h₁
      obtain ⟨x, l₃, g₃, h₃, r₃⟩ := h₁.bind
      obtain ⟨_, l₄, g₄, h₄, -⟩ := r₃.bind
      have hx := h₄.ensure.1
      rw [consumeUpload_spent h₃ (hspent (.mediaUploads w.id) rfl)] at hx
      cases hx
    · exact ih h₂ (keepsSpent_bindUpload.rows h₁ hspent) w hw

/-- A video that is bound takes its poster with it. -/
lemma spent_of_bindUpload {upload : StoredUpload} {position : Nat} {a : MessageAttachment} {posterId : Uuid}
    (h : Runs C (bindUpload actorId chatroomId messageId consumedAt upload position) l g (.ok a) l' g' L G)
    (hposter : upload.posterUploadId = some posterId) (hlock : (.mediaUploads posterId, .update) ∈ l.locks) :
    Rows (KeepsSpent actorId chatroomId consumedAt posterId) G l' := by
  unfold bindUpload at h
  obtain ⟨x, l₁, g₁, h₁, r₁⟩ := h.bind
  obtain ⟨_, l₂, g₂, h₂, r₂⟩ := r₁.bind
  obtain ⟨-, rfl⟩ := h₂.ensure
  simp only [hposter] at r₂
  obtain ⟨y, l₃, g₃, h₃, r₃⟩ := r₂.bind
  unfold bindLinkedPoster at h₃
  obtain ⟨z, l₄, g₄, h₄, r₄⟩ := h₃.bind
  have hspent := rows_keepsSpent (spent_of_consumeUpload h₄ (h₁.returns.evolve.locks hlock) (by decide))
  have hrest : Rows (KeepsSpent actorId chatroomId consumedAt posterId) G l₃ := by
    refine Keeps.rows ?_ r₄ hspent
    cases z with
    | some posterId => exact keeps_ret
    | none =>
      refine Keeps.bind (keeps_update fun s j base t r r' a hr hf => ?_) fun _ => keeps_ret
      split at hf
      · cases hf
        exact fun hj => (hr hj).unlink
      · cases hf
  refine Keeps.rows ?_ r₃ hrest
  exact keeps_fresh.bind fun _ => Keeps.bind (keeps_insertRow fun _ _ => trivial) fun _ => keeps_ofOption

/-- The loop comes to an end only if no upload is the poster of an upload before it. -/
lemma pairwise_of_bindConfirmedUploads {uploads : List StoredUpload} {n : Nat} {as : List MessageAttachment}
    (h : Runs C (bindConfirmedUploads actorId chatroomId messageId consumedAt n uploads) l g (.ok as) l' g' L G)
    (hlocks : ∀ w ∈ uploads, (.mediaUploads w.id, .update) ∈ l.locks) :
    uploads.Pairwise fun u w => u.posterUploadId ≠ some w.id := by
  induction uploads generalizing n l g as l' g' with
  | nil => exact .nil
  | cons u us ih =>
    obtain ⟨a, l₁, g₁, h₁, r₁⟩ := h.bind
    obtain ⟨as', l₂, g₂, h₂, r₂⟩ := r₁.bind
    have hlocks' : ∀ w ∈ us, (.mediaUploads w.id, .update) ∈ l.locks := fun w hw => hlocks w (List.mem_cons_of_mem _ hw)
    refine List.pairwise_cons.mpr ⟨fun w hw hposter => ?_, ih h₂ fun w hw => h₁.returns.evolve.locks (hlocks' w hw)⟩
    exact id_ne_of_spent h₂ (spent_of_bindUpload h₁ hposter (hlocks' w hw)) w hw rfl

end Loop

section Request

/-- The uploads of the request are locked and not deleted, and their posters are those of their rows. -/
lemma lockUploadsInRequestOrder_rows {uploadIds : List Uuid} {uploads : List StoredUpload}
    (h : Runs C (lockUploadsInRequestOrder actorId chatroomId uploadIds) l g (.ok uploads) l' g' L G) :
    ∀ u ∈ uploads, (.mediaUploads u.id, .update) ∈ l'.locks ∧ ∃ r, (G.db.apply l.writes).get (.mediaUploads u.id) = some r ∧
      u.posterUploadId = r.posterUploadId ∧ r.deletedAt = none := by
  obtain ⟨rows, l₁, g₁, h₁, r₁⟩ := h.bind
  obtain ⟨_, l₂, g₂, h₂, r₂⟩ := r₁.bind
  obtain ⟨_, l₃, g₃, h₃, r₃⟩ := r₂.bind
  obtain ⟨-, rfl⟩ := h₂.ensure
  obtain ⟨-, rfl⟩ := h₃.ensure
  obtain ⟨huploads, rfl⟩ := r₃.ofOption
  obtain ⟨gs, -, -, hlocked⟩ := h₁.selectFor nofun
  intro u hu
  obtain ⟨_, -, hfind⟩ := mem_of_mapM huploads hu
  obtain ⟨x, hx, rfl⟩ := Option.map_eq_some_iff.mp hfind
  obtain ⟨i, -, t, r, -, hlock, hget, hf⟩ := hlocked.mem x (List.mem_of_find?_eq_some hx)
  split at hf
  · rename_i hmatches
    cases hf
    simp only [uploadMatches, Bool.and_eq_true, Option.isNone_iff_eq_none] at hmatches
    exact ⟨hlock, r, hget, rfl, hmatches.2⟩
  · cases hf

lemma mem_of_retryAttachments {existing : List StoredMessageMedia} {uploads : List StoredUpload} {n : Nat}
    {as : List MessageAttachment} (h : retryAttachments n existing uploads = some as)
    (hlength : existing.length = uploads.length) {w : StoredUpload} (hw : w ∈ uploads) :
    ∃ stored ∈ existing, stored.2.mediaUploadId = w.id := by
  induction uploads generalizing n existing as with
  | nil => cases hw
  | cons u us ih =>
    cases existing with
    | nil => cases hlength
    | cons stored rest =>
      simp only [retryAttachments] at h
      split at h
      · rename_i hsame
        simp only [Option.bind_eq_bind, Option.bind_eq_some_iff] at h
        obtain ⟨a, -, as', hrest, -⟩ := h
        rcases List.mem_cons.mp hw with rfl | hw
        · refine ⟨stored, List.mem_cons_self, ?_⟩
          simp only [sameAttachment, Bool.and_eq_true, decide_eq_true_eq] at hsame
          tauto
        · obtain ⟨x, hx, heq⟩ := ih hrest (Nat.succ.inj hlength) hw
          exact ⟨x, List.mem_cons_of_mem _ hx, heq⟩
      · cases h

/-- A retry finds an attachment of each upload. -/
lemma attached_of_exactRetry {uploads : List StoredUpload} {as : List MessageAttachment}
    (h : Runs C (exactRetry messageId uploads) l g (.ok as) l' g' L G) {w : StoredUpload} (hw : w ∈ uploads) :
    ∃ m r, (G.db.apply l.writes).get (.messageMedia m) = some r ∧ r.mediaUploadId = w.id := by
  obtain ⟨existing, l₁, g₁, h₁, r₁⟩ := h.bind
  obtain ⟨_, l₂, g₂, h₂, r₂⟩ := r₁.bind
  obtain ⟨hretry, -⟩ := r₂.ofOption
  obtain ⟨⟨m, r⟩, hmem, heq⟩ := mem_of_retryAttachments hretry h₂.ensure.1 hw
  obtain ⟨rows, l₃, g₃, h₃, r₃⟩ := h₁.bind
  obtain ⟨rfl, -⟩ := r₃.ret
  obtain ⟨gs, -, -, hlocked⟩ := h₃.selectFor nofun
  obtain ⟨i, -, t, r', -, -, hget, hf⟩ := hlocked.mem _ (List.mem_insertionSort _ |>.mp hmem)
  split at hf
  · cases hf
    exact ⟨m, r, hget, heq⟩
  · cases hf

/-- A request that lists a video before its poster succeeds only as a retry that finds an attachment of the poster. -/
lemma attached_of_bindMessageMedia {media : List (Uuid × FinalizedObject)} {as : List MessageAttachment} {v p : Uuid}
    (h : Runs C (bindMessageMedia actorId chatroomId messageId media) l g (.ok as) l' g' L G)
    (horder : [v, p].Sublist (media.map Prod.fst))
    (hlink : liveLink ((G.db.apply l.writes).get (.mediaUploads v)) = some p) :
    ∃ m r, (G.db.apply l.writes).get (.messageMedia m) = some r ∧ r.mediaUploadId = p := by
  unfold bindMessageMedia at h
  obtain ⟨body, l₁, g₁, h₁, r₁⟩ := h.bind
  obtain ⟨_, l₂, g₂, h₂, r₂⟩ := r₁.bind
  have hw₁ := h₁.writes_eq touches_lockAuthorizedMessage
  obtain ⟨-, rfl⟩ := h₂.ensure
  split at r₂
  · rename_i hempty
    rw [List.isEmpty_iff.mp hempty] at horder
    cases horder
  obtain ⟨uploads, l₃, g₃, h₃, r₃⟩ := r₂.bind
  have hw₃ := h₃.writes_eq touches_lockUploadsInRequestOrder
  have hrows := lockUploadsInRequestOrder_rows h₃
  rw [← lockUploadsInRequestOrder_ids h₃, List.sublist_map_iff] at horder
  obtain ⟨pair, hpair, hids⟩ := horder
  obtain ⟨u, us, rfl, rfl, hus⟩ := List.map_eq_cons_iff.mp hids.symm
  obtain ⟨w, rest, rfl, rfl, hrest⟩ := List.map_eq_cons_iff.mp hus
  obtain rfl := List.map_eq_nil_iff.mp hrest
  have hu : u ∈ uploads := hpair.subset (by simp)
  have hwm : w ∈ uploads := hpair.subset (by simp)
  have hposter : u.posterUploadId = some w.id := by
    obtain ⟨-, r, hr, heq, -⟩ := hrows u hu
    rw [hw₁] at hr
    rw [hr] at hlink
    rw [heq]
    by_cases hdel : r.deletedAt = none
    · simpa [liveLink, hdel] using hlink
    · simp [liveLink, hdel] at hlink
  obtain ⟨_, l₄, g₄, h₄, r₄⟩ := r₃.bind
  obtain ⟨_, l₅, g₅, h₅, r₅⟩ := r₄.bind
  obtain ⟨_, l₆, g₆, h₆, r₆⟩ := r₅.bind
  obtain ⟨_, l₇, g₇, h₇, r₇⟩ := r₆.bind
  obtain ⟨-, rfl⟩ := h₄.ofOption
  obtain ⟨-, rfl⟩ := h₅.ensure
  obtain ⟨-, rfl⟩ := h₆.ensure
  have hw₇ := h₇.writes_eq touches_checkFinalized
  split at r₇
  · obtain ⟨_, l₈, g₈, h₈, r₈⟩ := r₇.bind
    obtain ⟨existing, l₉, g₉, h₉, r₉⟩ := r₈.bind
    obtain ⟨_, l₁₀, g₁₀, h₁₀, r₁₀⟩ := r₉.bind
    obtain ⟨now, l₁₁, g₁₁, h₁₁, r₁₁⟩ := r₁₀.bind
    have hlocks : ∀ x ∈ uploads, (.mediaUploads x.id, .update) ∈ l₁₁.locks := fun x hx =>
      h₁₁.returns.evolve.locks (h₁₀.returns.evolve.locks (h₉.returns.evolve.locks (h₈.returns.evolve.locks
        (h₇.returns.evolve.locks (hrows x hx).1))))
    have hpairwise := (pairwise_of_bindConfirmedUploads r₁₁ hlocks).sublist hpair
    exact absurd hposter (List.pairwise_cons.mp hpairwise |>.1 w (by simp))
  · obtain ⟨_, l₈, g₈, h₈, r₈⟩ := r₇.bind
    obtain ⟨-, rfl⟩ := h₈.ensure
    rw [← hw₁, ← hw₃, ← hw₇]
    exact attached_of_exactRetry r₈ hwm

open Messages in
/-- A send that lists a video before its poster succeeds only if the poster is attached already. -/
lemma attached_of_sendMessageHttp {settings : Settings} {mask : String → String} {input : SendMessageInput}
    {outcome : SendMessageOutcome} {v p : Uuid}
    (h : Runs C (sendMessageHttp settings mask actorId input) l g (.ok outcome) l' g' L G) (hl : l.writes = [])
    (horder : [v, p].Sublist input.mediaUploadIds) (hlink : liveLink (G.db.get (.mediaUploads v)) = some p) :
    ∃ m r, G.db.get (.messageMedia m) = some r ∧ r.mediaUploadId = p := by
  unfold sendMessageHttp at h
  obtain ⟨command, l₁, g₁, h₁, r₁⟩ := h.bind
  obtain ⟨stored, l₂, g₂, h₂, r₂⟩ := r₁.bind
  obtain ⟨context, l₃, g₃, h₃, r₃⟩ := r₂.bind
  obtain ⟨attachments, l₄, g₄, h₄, -⟩ := r₃.bind
  have hw₁ := h₁.writes_eq (touches_ensure.bind fun _ => touches_ensure.bind fun _ => trivial)
  have hw₃ := h₃.mapError.writes_eq touches_deliveryContext
  -- the message is all that has been written before
  have hview : ∀ k, (∀ i, k ≠ .messages i) → (G.db.apply l₃.writes).get k = G.db.get k := by
    intro k hk
    rw [hw₃, h₂.mapError.get_of_touches (P := fun k => ∃ i, k = .messages i) (touches_persist fun i => ⟨i, rfl⟩)
      (fun ⟨i, hi⟩ => hk i hi) G.db, hw₁, hl, Store.apply_nil]
  have hbind := h₄.mapError
  unfold bindAuthoritativeMessageMedia at hbind
  obtain ⟨_, l₅, g₅, h₅, r₅⟩ := hbind.bind
  obtain ⟨_, l₆, g₆, h₆, r₆⟩ := r₅.bind
  obtain ⟨uploads, l₇, g₇, h₇, r₇⟩ := r₆.bind
  obtain ⟨media, l₈, g₈, h₈, r₈⟩ := r₇.bind
  have hw₅ := h₅.writes_eq touches_lockAuthorizedMessage
  have hw₇ := h₇.writes_eq touches_lockUploadsInRequestOrder
  obtain ⟨-, rfl⟩ := h₆.ensure
  obtain ⟨hmedia, rfl⟩ := h₈.ofOption
  have hids : media.map Prod.fst = input.mediaUploadIds := (fst_of_finalized hmedia).trans (lockUploadsInRequestOrder_ids h₇)
  rw [← hids] at horder
  have hattached := attached_of_bindMessageMedia r₈ horder
  rw [hw₇, hw₅, hview (.mediaUploads v) nofun] at hattached
  obtain ⟨m, r, hr, heq⟩ := hattached hlink
  rw [hview (.messageMedia m) nofun] at hr
  exact ⟨m, r, hr, heq⟩

end Request

end JamyeServer.Attachments
