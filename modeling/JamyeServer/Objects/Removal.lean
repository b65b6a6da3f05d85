import JamyeServer.Objects.Intents
import JamyeServer.Postgres.Frames
import JamyeServer.ReadCommitted.Alone
import Mathlib.Data.List.Dedup

/-!
# Removing the attachments of messages

A message or a topic is deleted with its attachments: the objects of the attachments and of their posters are queued
for deletion, the uploads are marked, and the attachments go. The uploads that are found are bound to the messages, so
that no other attachment has one of them.
-/

namespace JamyeServer.Objects

open ReadCommitted Postgres Media Messages Prog Rooms

variable {settings : Settings} {mask : String → String} {publicBaseUrl : String} {ticks : Time → Time → Bool}
  {l l' L : Local} {g g' G : Shared} {ε α β : Type}

section Collecting

/-- What a list of requests that write nothing returns, is returned by one of them. -/
lemma collect_mem {f : β → Sql ε (Option α)} {bs : List β} {as : List α} {a : α}
    (h : Runs (contract settings mask publicBaseUrl ticks) (collect f bs) l g (.ok as) l' g' L G)
    (hf : ∀ b, (f b).Touches fun _ => False) (ha : a ∈ as) :
    ∃ b ∈ bs, ∃ l₁ g₁ l₂ g₂, l₁.writes = l.writes ∧
      Runs (contract settings mask publicBaseUrl ticks) (f b) l₁ g₁ (.ok (some a)) l₂ g₂ L G := by
  induction bs generalizing l g l' g' as with
  | nil =>
    obtain ⟨rfl, -⟩ := Runs.ret h
    cases ha
  | cons b bs ih =>
    obtain ⟨x, l₁, g₁, h₁, r₁⟩ := Runs.bind h
    obtain ⟨xs, l₂, g₂, h₂, r₂⟩ := r₁.bind
    obtain ⟨rfl, -⟩ := r₂.ret
    rcases List.mem_append.mp ha with hx | hxs
    · cases x with
      | none => cases hx
      | some y =>
        obtain rfl := List.mem_singleton.mp hx
        exact ⟨b, List.mem_cons_self, l, g, l₁, g₁, rfl, h₁⟩
    · obtain ⟨c, hc, l₃, g₃, l₄, g₄, hw, hrun⟩ := ih h₂ hxs
      exact ⟨c, List.mem_cons_of_mem _ hc, l₃, g₃, l₄, g₄, hw.trans (h₁.writes_eq (hf b)), hrun⟩

lemma runs_andThen {p : Sql ε (Option α)} {f : α → Sql ε (Option β)} {b : β}
    (h : Runs (contract settings mask publicBaseUrl ticks) (andThen p f) l g (.ok (some b)) l' g' L G) :
    ∃ a l₁ g₁, Runs (contract settings mask publicBaseUrl ticks) p l g (.ok (some a)) l₁ g₁ L G ∧
      Runs (contract settings mask publicBaseUrl ticks) (f a) l₁ g₁ (.ok (some b)) l' g' L G := by
  unfold andThen at h
  obtain ⟨x, l₁, g₁, h₁, r₁⟩ := h.bind
  cases x with
  | none =>
    obtain ⟨hb, -⟩ := r₁.ret
    cases hb
  | some a => exact ⟨a, l₁, g₁, h₁, r₁⟩

/-- The uploads of an attachment with their objects. -/
def objects (x : MediaObjectRow) : List (Uuid × String) := (x.uploadId, x.objectKey) :: x.poster.toList

/-- An upload that was bound to one of the messages in the version `n`, under its object. -/
structure Collected (ofMessage : Uuid → Prop) (n : Nat) (G : Shared) (x : Uuid × String) : Prop where
  bound : ∃ b messageId, (G.version n).get (.mediaUploads x.1) = some b ∧ b.boundMessageId = some messageId ∧ ofMessage messageId
  object : ∃ u, G.db.get (.mediaUploads x.1) = some u ∧ u.objectKey = x.2

/-- The statement that locks an attachment finds its upload and its poster bound to the message. -/
lemma collected_of_lock {ofMessage : Uuid → Prop} [DecidablePred ofMessage] {n : Nat} {id uploadId : Uuid} {row : MessageMedia}
    {x : MediaObjectRow} (hn : n ≤ G.csn) (hw : l.writes = [])
    (hrow : (G.version n).get (.messageMedia id) = some row) (hupload : row.mediaUploadId = uploadId)
    (hmessage : ofMessage row.messageId)
    (h : Runs (contract settings mask publicBaseUrl ticks)
      (andThen (lockRow .update (.messageMedia id) fun _ r =>
        if ofMessage r.messageId ∧ r.mediaUploadId = uploadId then some r.objectKey else none) fun objectKey =>
      lockRow .update (.mediaUploads uploadId) fun _ u => some (⟨uploadId, objectKey, u.posterUploadId.bind fun p =>
        ((G.version n).get (.mediaUploads p)).bind fun r =>
          if (((G.version n).get (.mediaUploads uploadId)).bind MediaUpload.posterUploadId) = some p then
            some (p, r.objectKey) else none⟩ : MediaObjectRow) : Sql ε (Option MediaObjectRow))
      l g (.ok (some x)) l' g' L G)
    (hG : History (contract settings mask publicBaseUrl ticks) G) :
    ∀ y ∈ objects x, Collected ofMessage n G y := by
  obtain ⟨objectKey, l₁, g₁, h₁, r₁⟩ := runs_andThen h
  rcases h₁.lockRow with ⟨hnone, -⟩ | ⟨t, r, -, rfl, hr, hget⟩
  · cases hnone
  rcases r₁.lockRow with ⟨hnone, -⟩ | ⟨t', u, -, -, hu, hget'⟩
  · cases hnone
  replace hget := hget (by decide)
  replace hget' := hget' (by decide)
  change (G.db.apply l.writes).get (.mediaUploads uploadId) = some u at hget'
  rw [hw, Store.apply_nil] at hget hget'
  split at hr
  swap
  · cases hr
  rename_i hmatch
  cases hr
  cases hu
  -- the upload in the version of the snapshot and in the last one
  obtain ⟨b, hb, hbound, -, -, hposter⟩ := (bound_of_history hG hn id row hrow).upload
  obtain ⟨u', hu', -, -, hkey, -⟩ := (bound_of_history hG (Nat.le_refl _) id r hget).upload
  change G.db.get (.mediaUploads r.mediaUploadId) = some u' at hu'
  rw [hmatch.2, hget'] at hu'
  cases hu'
  rw [hupload] at hb
  intro y hy
  rcases List.mem_cons.mp hy with rfl | hy
  · exact ⟨⟨b, row.messageId, hb, hbound, hmessage⟩, u, hget', hkey⟩
  · obtain ⟨p, hp, hfound⟩ := Option.bind_eq_some_iff.mp (Option.mem_toList.mp hy)
    obtain ⟨rp, hrp, hlink⟩ := Option.bind_eq_some_iff.mp hfound
    split at hlink
    swap
    · cases hlink
    rename_i hposterLink
    cases hlink
    rw [hb] at hposterLink
    obtain ⟨bp, hbp, hbound', -⟩ := hposter p hposterLink
    rw [hrp] at hbp
    cases hbp
    obtain ⟨up, hup, -, -, hkey'⟩ := bound_stays hG hn (Nat.le_refl _) hrp hbound'
    exact ⟨⟨rp, row.messageId, hrp, hbound', hmessage⟩, up, hup, hkey'⟩

lemma collected_ofMessage {messageId : Uuid} {media : List MediaObjectRow}
    (h : Runs (contract settings mask publicBaseUrl ticks) (Messages.lockMessageMedia messageId) l g (.ok media) l' g' L G)
    (hw : l.writes = []) (hG : History (contract settings mask publicBaseUrl ticks) G) :
    ∃ n, n ≤ g'.csn ∧ ∀ x ∈ media.flatMap objects, Collected (· = messageId) n G x := by
  unfold Messages.lockMessageMedia at h
  obtain ⟨s, l₁, g₁, h₁, r₁⟩ := h.bind
  obtain ⟨gs, -, hlater, rfl, rfl⟩ := h₁.snapshot
  have hn : gs.csn ≤ g'.csn := (hlater.trans r₁.returns.evolve.later).csn_le
  refine ⟨gs.csn, hn, fun y hy => ?_⟩
  obtain ⟨x, hx, hy⟩ := List.mem_flatMap.mp hy
  obtain ⟨⟨position, id, uploadId⟩, hmem, l₂, g₂, l₃, g₃, hw₂, hrun⟩ :=
    collect_mem r₁ (fun b => touches_andThen touches_lockRow fun _ => touches_lockRow) hx
  rw [List.mem_insertionSort, List.mem_filterMap] at hmem
  obtain ⟨id', hid, hfound⟩ := hmem
  obtain ⟨row, hrow, htest⟩ := Store.mem_ids.mp hid
  change ((G.version gs.csn).apply l.writes).get (.messageMedia id') = some row at hrow
  rw [hrow] at hfound
  cases hfound
  rw [hw, Store.apply_nil] at hrow hrun
  exact collected_of_lock (Nat.le_trans hn h.rest.later.csn_le) (hw₂.trans hw) hrow rfl (of_decide_eq_true htest) hrun hG y hy

lemma collected_ofTopic {messageIds : List Uuid} {media : List MediaObjectRow}
    (h : Runs (contract settings mask publicBaseUrl ticks) (TopicDeletion.lockMessageMedia messageIds) l g (.ok media) l' g' L G)
    (hw : l.writes = []) (hG : History (contract settings mask publicBaseUrl ticks) G) :
    ∃ n, n ≤ g'.csn ∧ ∀ x ∈ media.flatMap objects, Collected (· ∈ messageIds) n G x := by
  have hg' : g'.csn ≤ G.csn := h.rest.later.csn_le
  unfold TopicDeletion.lockMessageMedia at h
  split at h
  · obtain ⟨rfl, -⟩ := h.ret
    exact ⟨0, Nat.zero_le _, fun x hx => (List.not_mem_nil hx).elim⟩
  obtain ⟨s, l₁, g₁, h₁, r₁⟩ := h.bind
  obtain ⟨gs, -, hlater, rfl, rfl⟩ := h₁.snapshot
  have hn : gs.csn ≤ g'.csn := (hlater.trans r₁.returns.evolve.later).csn_le
  refine ⟨gs.csn, hn, fun y hy => ?_⟩
  obtain ⟨x, hx, hy⟩ := List.mem_flatMap.mp hy
  obtain ⟨⟨messageId, position, id, uploadId⟩, hmem, l₂, g₂, l₃, g₃, hw₂, hrun⟩ :=
    collect_mem r₁ (fun b => touches_andThen touches_lockRow fun _ => touches_lockRow) hx
  rw [List.mem_insertionSort, List.mem_filterMap] at hmem
  obtain ⟨id', hid, hfound⟩ := hmem
  obtain ⟨row, hrow, htest⟩ := Store.mem_ids.mp hid
  change ((G.version gs.csn).apply l.writes).get (.messageMedia id') = some row at hrow
  rw [hrow] at hfound
  cases hfound
  rw [hw, Store.apply_nil] at hrow hrun
  exact collected_of_lock (Nat.le_trans hn hg') (hw₂.trans hw) hrow rfl (of_decide_eq_true htest) hrun hG y hy

lemma objectKeys_eq (x : MediaObjectRow) : x.objectKeys = (objects x).map Prod.snd := rfl

lemma uploadIds_eq (x : MediaObjectRow) : x.uploadIds = (objects x).map Prod.fst := rfl

/-- The keys that are queued are those of the objects. -/
lemma mem_objectKeys {media : List MediaObjectRow} {key : String} :
    key ∈ ((media.flatMap MediaObjectRow.objectKeys).insertionSort (fun a b => a ≤ b)).dedup ↔
      ∃ x ∈ media.flatMap objects, x.2 = key := by
  rw [List.mem_dedup, List.mem_insertionSort, List.mem_flatMap]
  constructor
  · rintro ⟨row, hrow, hkey⟩
    obtain ⟨x, hx, rfl⟩ := List.mem_map.mp (objectKeys_eq row ▸ hkey)
    exact ⟨x, List.mem_flatMap.mpr ⟨row, hrow, hx⟩, rfl⟩
  · rintro ⟨x, hx, rfl⟩
    obtain ⟨row, hrow, hx⟩ := List.mem_flatMap.mp hx
    exact ⟨row, hrow, objectKeys_eq row ▸ List.mem_map_of_mem hx⟩

lemma mem_uploadIds {media : List MediaObjectRow} {i : Uuid} :
    i ∈ media.flatMap MediaObjectRow.uploadIds ↔ ∃ x ∈ media.flatMap objects, x.1 = i := by
  rw [List.mem_flatMap]
  constructor
  · rintro ⟨row, hrow, hi⟩
    obtain ⟨x, hx, rfl⟩ := List.mem_map.mp (uploadIds_eq row ▸ hi)
    exact ⟨x, List.mem_flatMap.mpr ⟨row, hrow, hx⟩, rfl⟩
  · rintro ⟨x, hx, rfl⟩
    obtain ⟨row, hrow, hx⟩ := List.mem_flatMap.mp hx
    exact ⟨row, hrow, uploadIds_eq row ▸ List.mem_map_of_mem hx⟩

end Collecting

section Marking

/-- The statement that marks uploads as deleted: all those of the list that exist from its snapshot on, and no other. -/
structure Marks (ids : List Uuid) (l l' : Local) (g G : Shared) : Prop where
  own : OwnIntents l → OwnIntents l'
  frame : ∀ (s : Store Row) k, (∀ i, k ≠ .mediaUploads i) → (s.apply l'.writes).get k = (s.apply l.writes).get k
  row : ∀ i, (G.db.apply l'.writes).get (.mediaUploads i) = (G.db.apply l.writes).get (.mediaUploads i) ∨
    i ∈ ids ∧ ∃ b t, (G.db.apply l.writes).get (.mediaUploads i) = some b ∧
      (G.db.apply l'.writes).get (.mediaUploads i) = some { b with deletedAt := coalesce b.deletedAt t }
  deleted : ∀ i ∈ ids, (∀ n, g.csn ≤ n → n ≤ G.csn → ((G.version n).apply l.writes).get (.mediaUploads i) ≠ none) →
    Discarded ((G.db.apply l'.writes).get (.mediaUploads i))

lemma marks_update {ids : List Uuid} {deletedAt : Time} {error : ε} {as : List Unit}
    (h : Runs (contract settings mask publicBaseUrl ticks)
      (update Tables.mediaUploads (fun s => s.ids Tables.mediaUploads fun i _ => decide (i ∈ ids))
        (fun _ i _ r => if i ∈ ids then some ({ r with deletedAt := coalesce r.deletedAt deletedAt }, ()) else none) error)
      l g (.ok as) l' g' L G) : Marks ids l l' g G := by
  have hg' : g'.csn ≤ G.csn := h.rest.later.csn_le
  obtain ⟨g₁, ws, h₁, h₂, hch⟩ := h.update fun s => s.nodup_ids ..
  have hown : OwnIntents l → OwnIntents l' := fun hl =>
    hl.of_touches h (P := fun k => ∃ i, k = .mediaUploads i) (touches_change fun i => ⟨i, rfl⟩) (by rintro j ⟨i, hi⟩; cases hi)
  refine ⟨hown, fun s k hk => hch.get_of_ne s fun i _ => hk i, fun i => ?_, fun i hi hexists => ?_⟩
  · rcases hch.row i with hsame | ⟨j, -, hkey, t, r, v, a, -, hr, hf, hafter⟩
    · exact .inl hsame
    · obtain rfl := Tables.mediaUploads.key_injective hkey
      split at hf
      · rename_i hj
        cases hf
        exact .inr ⟨hj, r, deletedAt, hr, hafter⟩
      · cases hf
  · have hmem : i ∈ ((G.version g₁.csn).apply l.writes).ids Tables.mediaUploads fun i _ => decide (i ∈ ids) := by
      obtain ⟨r, hr⟩ := Option.ne_none_iff_exists'.mp (hexists g₁.csn h₁.csn_le (Nat.le_trans h₂.csn_le hg'))
      exact Store.mem_ids.mpr ⟨r, hr, decide_eq_true hi⟩
    rcases hch.get hmem with ⟨n, hn, hn', hmissing⟩ | ⟨t, r, -, -, hr, hafter⟩
    · exact (hexists n (Nat.le_trans h₁.csn_le hn) (Nat.le_trans hn' hg') hmissing).elim
    · intro r' hr'
      have hrow : (G.db.apply l'.writes).get (.mediaUploads i) = some { r with deletedAt := coalesce r.deletedAt deletedAt } := by
        refine hafter.trans ?_
        rw [if_pos hi]
        rfl
      rw [hrow] at hr'
      cases hr'
      exact Option.some_ne_none _

end Marking

section Detaching

/-- The statement that deletes attachments: those of the messages that every version from its snapshot on has. -/
structure Detaches (ofMessage : Uuid → Prop) (l l' : Local) (g G : Shared) : Prop where
  own : OwnIntents l → OwnIntents l'
  frame : ∀ (s : Store Row) k, (∀ i, k ≠ .messageMedia i) → (s.apply l'.writes).get k = (s.apply l.writes).get k
  row : ∀ m row, (G.db.apply l'.writes).get (.messageMedia m) = some row →
    (G.db.apply l.writes).get (.messageMedia m) = some row
  removed : ∃ n, g.csn ≤ n ∧ n ≤ G.csn ∧ ∀ m row, (∀ k, n ≤ k → k ≤ G.csn →
    ((G.version k).apply l.writes).get (.messageMedia m) = some row) → ofMessage row.messageId →
      (G.db.apply l'.writes).get (.messageMedia m) = none

lemma detaches_delete {ofMessage : Uuid → Prop} [DecidablePred ofMessage] {error : ε} {as : List Uuid}
    (h : Runs (contract settings mask publicBaseUrl ticks)
      (delete Tables.messageMedia (fun s => s.ids Tables.messageMedia fun _ r => decide (ofMessage r.messageId))
        (fun _ _ r => decide (ofMessage r.messageId)) error) l g (.ok as) l' g' L G) : Detaches ofMessage l l' g G := by
  have hg' : g'.csn ≤ G.csn := h.rest.later.csn_le
  obtain ⟨g₁, ws, h₁, h₂, hch⟩ := h.delete fun s => s.nodup_ids ..
  have hn : g₁.csn ≤ G.csn := Nat.le_trans h₂.csn_le hg'
  have hown : OwnIntents l → OwnIntents l' := fun hl =>
    hl.of_touches h (P := fun k => ∃ i, k = .messageMedia i) (touches_change fun i => ⟨i, rfl⟩) (by rintro j ⟨i, hi⟩; cases hi)
  refine ⟨hown, fun s k hk => hch.get_of_ne s fun i _ => hk i, fun m row hrow => ?_, g₁.csn, h₁.csn_le, hn, fun m row hall hmessage => ?_⟩
  · rcases hch.row m with hsame | ⟨j, -, hkey, t, r, v, a, -, -, hf, hafter⟩
    · rw [← hrow]
      exact hsame.symm
    · obtain rfl := Tables.messageMedia.key_injective hkey
      split at hf
      · cases hf
        change (G.db.apply l'.writes).get (.messageMedia j) = none at hafter
        rw [hafter] at hrow
        cases hrow
      · cases hf
  · have hmem : m ∈ ((G.version g₁.csn).apply l.writes).ids Tables.messageMedia fun _ r => decide (ofMessage r.messageId) :=
      Store.mem_ids.mpr ⟨row, hall _ (Nat.le_refl _) hn, decide_eq_true hmessage⟩
    rcases hch.get hmem with ⟨n, hn, hn', hmissing⟩ | ⟨t, r, -, -, hr, hafter⟩
    · change ((G.version n).apply l.writes).get (.messageMedia m) = none at hmissing
      rw [hall n hn (Nat.le_trans hn' hg')] at hmissing
      cases hmissing
    · change (G.db.apply l.writes).get (.messageMedia m) = some r at hr
      have hrow : (G.db.apply l.writes).get (.messageMedia m) = some row := hall _ hn (Nat.le_refl _)
      rw [hrow] at hr
      cases hr
      refine hafter.trans ?_
      rw [if_pos (decide_eq_true hmessage)]
      rfl

end Detaching

section Removing

/-- What the deletion of messages leaves of their attachments. -/
structure Removes (ofMessage : Uuid → Prop) (objs : List (Uuid × String)) (l : Local) (G : Shared) : Prop where
  own : OwnIntents l
  versions : ∃ n n', n ≤ n' ∧ n' ≤ G.csn ∧ (∀ x ∈ objs, Collected ofMessage n G x) ∧
    ∀ m row, (∀ k, n' ≤ k → k ≤ G.csn → (G.version k).get (.messageMedia m) = some row) → ofMessage row.messageId →
      (G.view l).get (.messageMedia m) = none
  uploads : ∀ i, (G.view l).get (.mediaUploads i) = G.db.get (.mediaUploads i) ∨ (∃ x ∈ objs, x.1 = i) ∧
    ∃ b t, G.db.get (.mediaUploads i) = some b ∧
      (G.view l).get (.mediaUploads i) = some { b with deletedAt := coalesce b.deletedAt t }
  deleted : ∀ x ∈ objs, Discarded ((G.view l).get (.mediaUploads x.1))
  avatars : ∀ i, (G.view l).get (.userAvatarUploads i) = G.db.get (.userAvatarUploads i)
  attachments : ∀ m row, (G.view l).get (.messageMedia m) = some row → G.db.get (.messageMedia m) = some row
  kept : ∀ j x, G.db.get (.accountObjectDeletionIntents j) = some x →
    (G.view l).get (.accountObjectDeletionIntents j) = some x
  added : ∀ j x, (G.view l).get (.accountObjectDeletionIntents j) = some x →
    G.db.get (.accountObjectDeletionIntents j) = some x ∨ ∃ y ∈ objs, y.2 = x.objectKey
  queued : ∀ x ∈ objs, HasIntent (G.view l) x.2

variable {ofMessage : Uuid → Prop} {objs : List (Uuid × String)}

lemma Removes.uploadStep (h : Removes ofMessage objs l G) (drawn : List Nat) (i : Uuid) :
    UploadStep drawn i (G.db.get (.mediaUploads i)) ((G.view l).get (.mediaUploads i)) := by
  rcases h.uploads i with hsame | ⟨-, b, t, hb, hafter⟩
  · rw [hsame]
    exact .same _
  · rw [hb, hafter]
    exact .kept rfl rfl rfl rfl rfl fun _ => Option.some_ne_none _

/-- An upload that the deletion marks is one that it has collected. -/
lemma Removes.collected (h : Removes ofMessage objs l G) {i : Uuid} {b : MediaUpload} (hb : G.db.get (.mediaUploads i) = some b)
    (hlive : b.deletedAt = none) (hdiscarded : Discarded ((G.view l).get (.mediaUploads i))) : ∃ x ∈ objs, x.1 = i := by
  rcases h.uploads i with hsame | ⟨hx, -⟩
  · rw [hsame] at hdiscarded
    exact (hdiscarded b hb hlive).elim
  · exact hx

/-- No attachment is left that has a marked upload or its poster. -/
lemma Removes.detached (h : Removes ofMessage objs l G) (hG : History (contract settings mask publicBaseUrl ticks) G)
    {i m : Uuid} {row : MessageMedia} (hi : ∃ x ∈ objs, x.1 = i) (hrow : (G.view l).get (.messageMedia m) = some row) :
    row.mediaUploadId ≠ i ∧ ∀ r, (G.view l).get (.mediaUploads row.mediaUploadId) = some r → r.posterUploadId ≠ some i := by
  obtain ⟨n, n', hn, hn', hcollected, hremoved⟩ := h.versions
  obtain ⟨x, hx, rfl⟩ := hi
  obtain ⟨b, messageId, hb, hbound, hmessage⟩ := (hcollected x hx).bound
  have hdb := h.attachments m row hrow
  obtain ⟨u, hu, hubound, -, -, hposter⟩ := (bound_of_history hG (Nat.le_refl _) m row hdb).upload
  change G.db.get (.mediaUploads row.mediaUploadId) = some u at hu
  -- the attachment would be one of the messages, and as old as the binding of the upload
  have hcontra : (row.mediaUploadId = x.1 ∨ u.posterUploadId = some x.1) → False := by
    intro hcase
    have hold : ∀ k, n' ≤ k → k ≤ G.csn → (G.version k).get (.messageMedia m) = some row := by
      intro k hk hk'
      obtain ⟨bk, hbk, hboundk, -⟩ := bound_stays hG (Nat.le_trans hn hk) hk' hb hbound
      refine attached_before hG hk' (Nat.le_refl _) hbk hboundk hdb ?_
      rcases hcase with heq | hlink
      · exact .inl heq
      · exact .inr ⟨u, hu, hlink⟩
    obtain ⟨v, hv, hvbound, -⟩ := bound_stays hG (Nat.le_trans hn hn') (Nat.le_refl _) hb hbound
    have hof : row.messageId = messageId := by
      rcases hcase with heq | hlink
      · rw [heq] at hu
        change G.db.get (.mediaUploads x.1) = some v at hv
        rw [hu] at hv
        cases hv
        exact Option.some.inj (hubound.symm.trans hvbound)
      · obtain ⟨r', hr', hbound', -⟩ := hposter _ hlink
        change G.db.get (.mediaUploads x.1) = some r' at hr'
        change G.db.get (.mediaUploads x.1) = some v at hv
        rw [hr'] at hv
        cases hv
        exact Option.some.inj (hbound'.symm.trans hvbound)
    have hnone := hremoved m row hold (hof ▸ hmessage)
    rw [hrow] at hnone
    cases hnone
  refine ⟨fun heq => hcontra (.inl heq), fun r hr hlink => hcontra (.inr ?_)⟩
  rcases h.uploads row.mediaUploadId with hsame | ⟨-, b', t, hb', hafter⟩
  · rw [hsame, hu] at hr
    cases hr
    exact hlink
  · rw [hu] at hb'
    cases hb'
    rw [hafter] at hr
    cases hr
    exact hlink

lemma Removes.ok {e : Entry} (h : Removes ofMessage objs e.ran G) (hG : History (contract settings mask publicBaseUrl ticks) G) :
    Ok e G where
  uploads := h.uploadStep _
  avatars i := by
    rw [h.avatars]
    exact .same _
  newUploads i hnone hsome := by
    rcases h.uploads i with hsame | ⟨-, b, t, hb, -⟩
    · rw [hsame, hnone] at hsome
      exact (hsome rfl).elim
    · rw [hnone] at hb
      cases hb
  newAvatars i hnone hsome := by
    rw [h.avatars, hnone] at hsome
    exact (hsome rfl).elim
  attachments m row hrow := .inl (h.attachments m row hrow)
  ownIntents := h.own
  intents := h.kept
  discards j x hx := by
    rcases h.added j x hx with hold | ⟨y, hy, hkey⟩
    · exact .inl hold
    · obtain ⟨n, n', -, -, hcollected, -⟩ := h.versions
      obtain ⟨u, hu, hobject⟩ := (hcollected y hy).object
      exact .inr (.upload y.1 u hu (hobject.trans hkey) (h.deleted y hy))
  detached i b hb hlive hdiscarded m row hrow := h.detached hG (h.collected hb hlive hdiscarded) hrow
  uploadIntents i b hb hlive hdiscarded := by
    obtain ⟨x, hx, rfl⟩ := h.collected hb hlive hdiscarded
    obtain ⟨n, n', -, -, hcollected, -⟩ := h.versions
    obtain ⟨u, hu, hobject⟩ := (hcollected x hx).object
    rw [hb] at hu
    cases hu
    rw [hobject]
    exact h.queued x hx
  avatarIntents i b hb hlive hreleased := by
    rw [h.avatars] at hreleased
    exact (hlive (hreleased b hb)).elim

/-- The statements of a deletion, one after another; what follows them is about other tables. -/
lemma removes_of_statements {keys : List String} {ids : List Uuid} {l₁ l₂ l₃ l₄ : Local} {g₂ g₃ : Shared} {n : Nat}
    (hG : History (contract settings mask publicBaseUrl ticks) G) (hw : l₁.writes = []) (hn : n ≤ g₂.csn)
    (hcollected : ∀ x ∈ objs, Collected ofMessage n G x) (henqueues : Enqueues keys l₁ l₂ G)
    (hkeys : ∀ key, key ∈ keys ↔ ∃ x ∈ objs, x.2 = key) (hmarks : Marks ids l₂ l₃ g₂ G)
    (hids : ∀ i, i ∈ ids ↔ ∃ x ∈ objs, x.1 = i) (hdetaches : Detaches ofMessage l₃ l₄ g₃ G)
    (hg₃ : g₂.csn ≤ g₃.csn) (hown : OwnIntents l₄ → OwnIntents l)
    (hrest : ∀ (s : Store Row) k, ¬ Apart k → (s.apply l.writes).get k = (s.apply l₄.writes).get k) : Removes ofMessage objs l G := by
  have hown₁ : OwnIntents l₁ := fun w hw' => by
    rw [hw] at hw'
    cases hw'
  have huploads : ∀ (s : Store Row) i, (s.apply l.writes).get (.mediaUploads i) = (s.apply l₃.writes).get (.mediaUploads i) :=
    fun s i => (hrest s _ id).trans (hdetaches.frame s _ fun _ h => by cases h)
  have huploads₂ : ∀ (s : Store Row) i, (s.apply l₂.writes).get (.mediaUploads i) = s.get (.mediaUploads i) := fun s i => by
    rw [henqueues.frame s _ (fun _ h => by cases h), hw, Store.apply_nil]
  have hmedia₃ : ∀ (s : Store Row) m, (s.apply l₃.writes).get (.messageMedia m) = s.get (.messageMedia m) := fun s m => by
    rw [hmarks.frame s _ (fun _ h => by cases h), henqueues.frame s _ (fun _ h => by cases h), hw, Store.apply_nil]
  have hintents : ∀ j, (G.db.apply l.writes).get (.accountObjectDeletionIntents j) =
      (G.db.apply l₂.writes).get (.accountObjectDeletionIntents j) := fun j => by
    rw [hrest _ _ id, hdetaches.frame _ _ (fun _ h => by cases h), hmarks.frame _ _ (fun _ h => by cases h)]
  obtain ⟨n', hn₁, hn₂, hremoved⟩ := hdetaches.removed
  refine ⟨hown (hdetaches.own (hmarks.own (henqueues.own hown₁))), ⟨n, n', by omega, hn₂, hcollected, fun m row hall hof => ?_⟩,
    fun i => ?_, fun x hx => ?_, fun i => ?_, fun m row hrow => ?_, fun j x hx => ?_, fun j x hx => ?_, fun x hx => ?_⟩
  · rw [Shared.view, hrest _ _ id]
    exact hremoved m row (fun k hk hk' => by rw [hmedia₃]; exact hall k hk hk') hof
  · rw [Shared.view, huploads]
    rcases hmarks.row i with hsame | ⟨hi, b, t, hb, hafter⟩
    · exact .inl (hsame.trans (huploads₂ _ i))
    · rw [huploads₂] at hb
      exact .inr ⟨(hids i).mp hi, b, t, hb, hafter⟩
  · rw [Shared.view, huploads]
    refine hmarks.deleted x.1 ((hids _).mpr ⟨x, hx, rfl⟩) fun k hk hk' => ?_
    obtain ⟨b, messageId, hb, hbound, -⟩ := (hcollected x hx).bound
    obtain ⟨r, hr, -⟩ := bound_stays hG (Nat.le_trans hn hk) hk' hb hbound
    rw [huploads₂, hr]
    exact Option.some_ne_none _
  · rw [Shared.view, hrest _ _ id, hdetaches.frame _ _ (fun _ h => by cases h), hmarks.frame _ _ (fun _ h => by cases h),
      henqueues.frame _ _ (fun _ h => by cases h), hw, Store.apply_nil]
  · rw [Shared.view, hrest _ _ id] at hrow
    rw [← hmedia₃]
    exact hdetaches.row m row hrow
  · rw [Shared.view, hintents]
    refine henqueues.kept j x ?_
    rw [hw, Store.apply_nil]
    exact hx
  · rw [Shared.view, hintents] at hx
    rcases henqueues.added j x hx with hold | hkey
    · rw [hw, Store.apply_nil] at hold
      exact .inl hold
    · exact .inr ((hkeys _).mp hkey)
  · obtain ⟨j, y, hy, hkey⟩ := henqueues.queued x.2 ((hkeys _).mpr ⟨x, hx, rfl⟩)
    exact ⟨j, y, (hintents j).trans hy, hkey⟩

end Removing

end JamyeServer.Objects
