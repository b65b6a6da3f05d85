import JamyeServer.Attachments.Order
import JamyeServer.Pagination.Walks

/-!
# Sends extend the history

What a send commits that stores a new message: the messages that were there are shown as before, and the loop that binds
the uploads gives the new message its attachments, at the positions from zero on.
-/

namespace JamyeServer.Pagination

open ReadCommitted Prog Keyset Postgres Rooms Media Messages Lists Attachments

variable {ε β ω : Type} {sys : System Row Nat Idx ε β ω} {C : Contract sys} {l l' L : Local Row Nat}
  {g g' G : ReadCommitted.Shared Row Nat β ω} {actorId chatroomId messageId : Uuid} {consumedAt : Time}

section Binding

/-- Of the rows that a history shows, the transaction adds the message and attachments of it at positions below `count`,
and it takes posters only from the uploads `attached`. -/
def Sends (messageId : Uuid) (attached : List Uuid) (count : Nat) : (k : Key) → Option (Row k) → Option (Row k) → Prop
  | .chatrooms _, base, v => v = base
  | .groups _, base, v => v = base
  | .memberships _, base, v => v = base
  | .topics _, base, v => v = base
  | .users _, base, v => v = base
  | .messages i, base, v => v = base ∨ base = none ∧ i = messageId
  | .messageMedia _, base, v => v = base ∨ base = none ∧ ∃ r, v = some r ∧ r.messageId = messageId ∧ r.position < count
  | .mediaUploads i, base, v => v.map MediaUpload.deletedAt = base.map MediaUpload.deletedAt ∧
      (v.map MediaUpload.posterUploadId = base.map MediaUpload.posterUploadId ∨ i ∈ attached)
  | _, _, _ => True

lemma sends_refl {attached : List Uuid} {count : Nat} (k : Key) (v : Option (Row k)) : Sends messageId attached count k v v := by
  cases k with
  | messages i => exact .inl rfl
  | messageMedia i => exact .inl rfl
  | mediaUploads i => exact ⟨rfl, .inl rfl⟩
  | _ => first | rfl | trivial

lemma keepsSends_bindConfirmedUploads {uploads : List StoredUpload} {attached : List Uuid} {n count : Nat}
    (hmem : ∀ u ∈ uploads, u.id ∈ attached) (hcount : n + uploads.length ≤ count) :
    (bindConfirmedUploads actorId chatroomId messageId consumedAt n uploads).Keeps C (Sends messageId attached count) := by
  induction uploads generalizing n with
  | nil => exact keeps_ret
  | cons upload uploads ih =>
    rw [List.length_cons] at hcount
    refine Keeps.bind (keeps_bindUpload (fun _ _ _ _ hr => hr) (fun base r hr => ?_) fun i base hnone => ?_) fun _ =>
      (ih (fun u hu => hmem u (List.mem_cons_of_mem _ hu)) (by omega)).bind fun _ => keeps_ret
    · exact ⟨hr.1, .inr (hmem upload List.mem_cons_self)⟩
    · refine .inr ⟨?_, _, rfl, rfl, show n < count by omega⟩
      rcases hnone with heq | ⟨hbase, -⟩
      · exact heq.symm
      · exact hbase

/-- The attachment is there and stays. -/
def Holds (mediaId : Uuid) (row : MessageMedia) : (k : Key) → Option (Row k) → Option (Row k) → Prop
  | .messageMedia i, _, v => i = mediaId → v = some row
  | _, _, _ => True

lemma keepsHolds_bindConfirmedUploads {uploads : List StoredUpload} {n : Nat} {mediaId : Uuid} {row : MessageMedia} :
    (bindConfirmedUploads actorId chatroomId messageId consumedAt n uploads).Keeps C (Holds mediaId row) := by
  induction uploads generalizing n with
  | nil => exact keeps_ret
  | cons upload uploads ih =>
    refine Keeps.bind (keeps_bindUpload (fun _ _ _ _ _ => trivial) (fun _ _ _ => trivial) fun i base hnone hi => ?_) fun _ =>
      ih.bind fun _ => keeps_ret
    cases hnone hi

lemma holds_of_attach {upload : StoredUpload} {position : Nat} {posterMediaId : Option Uuid} {a : MessageAttachment}
    (h : Runs C (do
      let mediaId ← fresh
      insertRow (.messageMedia mediaId) (attachmentRow messageId consumedAt upload position)
        [.messages messageId, .mediaUploads upload.id] .finalizeConflict
      ofOption (intoAttachment (mediaId, attachmentRow messageId consumedAt upload position) posterMediaId) .invalidData :
        Sql MediaRepositoryError MessageAttachment) l g (.ok a) l' g' L G) :
    ∃ mediaId, Rows (Holds mediaId (attachmentRow messageId consumedAt upload position)) G l' := by
  obtain ⟨mediaId, l₁, g₁, h₁, r₁⟩ := h.bind
  obtain ⟨_, l₂, g₂, h₂, r₂⟩ := r₁.bind
  obtain ⟨-, rfl⟩ := r₂.ofOption
  refine ⟨mediaId, fun k => ?_⟩
  cases k with
  | messageMedia i =>
    rintro rfl
    exact h₂.insertRow.get _
  | _ => trivial

lemma holds_of_bindUpload {upload : StoredUpload} {position : Nat} {a : MessageAttachment}
    (h : Runs C (bindUpload actorId chatroomId messageId consumedAt upload position) l g (.ok a) l' g' L G) :
    ∃ mediaId, Rows (Holds mediaId (attachmentRow messageId consumedAt upload position)) G l' := by
  unfold bindUpload at h
  obtain ⟨_, l₁, g₁, h₁, r₁⟩ := h.bind
  obtain ⟨_, l₂, g₂, h₂, r₂⟩ := r₁.bind
  dsimp only at r₂
  split at r₂
  · obtain ⟨posterMediaId, l₃, g₃, h₃, r₃⟩ := r₂.bind
    exact holds_of_attach r₃
  · obtain ⟨posterMediaId, l₃, g₃, h₃, r₃⟩ := r₂.bind
    exact holds_of_attach r₃

/-- Each upload gets an attachment at its place in the list. -/
lemma holds_of_bindConfirmedUploads {uploads : List StoredUpload} {n : Nat} {as : List MessageAttachment}
    (h : Runs C (bindConfirmedUploads actorId chatroomId messageId consumedAt n uploads) l g (.ok as) l' g' L G)
    {p : Nat} {u : StoredUpload} (hu : uploads[p]? = some u) :
    ∃ mediaId, Rows (Holds mediaId (attachmentRow messageId consumedAt u (n + p))) G l' := by
  induction uploads generalizing n l g as l' g' p with
  | nil => cases hu
  | cons upload uploads ih =>
    obtain ⟨a, l₁, g₁, h₁, r₁⟩ := h.bind
    obtain ⟨as', l₂, g₂, h₂, r₂⟩ := r₁.bind
    obtain ⟨-, rfl⟩ := r₂.ret
    cases p with
    | zero =>
      cases hu
      obtain ⟨mediaId, hrows⟩ := holds_of_bindUpload h₁
      exact ⟨mediaId, keepsHolds_bindConfirmedUploads.rows h₂ hrows⟩
    | succ p =>
      obtain ⟨mediaId, hrows⟩ := ih h₂ hu
      rw [Nat.add_right_comm] at hrows
      exact ⟨mediaId, hrows⟩

/-- The message has got the uploads as its attachments, each at its place in the list. -/
structure Attaches (messageId : Uuid) (uploads : List StoredUpload) (l : Local Row Nat)
    (G : ReadCommitted.Shared Row Nat β ω) : Prop where
  rows : Rows (Sends messageId (uploads.map StoredUpload.id) uploads.length) G l
  attached : ∀ p u, uploads[p]? = some u → ∃ i r, (G.view l).get (.messageMedia i) = some r ∧ r.messageId = messageId ∧
    r.mediaUploadId = u.id ∧ r.position = p ∧ r.deletedAt = none
  live : ∀ u ∈ uploads, ∃ r, G.db.get (.mediaUploads u.id) = some r ∧ r.deletedAt = none

lemma attaches_nil (h : Rows (Sends messageId [] 0) G l) : Attaches messageId [] l G :=
  ⟨h, nofun, nofun⟩

/-- What has been written before are other rows than those of uploads and attachments. -/
lemma attaches_bindMessageMedia {media : List (Uuid × FinalizedObject)} {as : List MessageAttachment}
    (h : Runs C (bindMessageMedia actorId chatroomId messageId media) l g (.ok as) l' g' L G)
    (hrows : ∀ attached count, Rows (Sends messageId attached count) G l)
    (huploads : ∀ i, (G.view l).get (.mediaUploads i) = G.db.get (.mediaUploads i)) :
    ∃ uploads, Attaches messageId uploads l' G := by
  unfold bindMessageMedia at h
  obtain ⟨body, l₁, g₁, h₁, r₁⟩ := h.bind
  obtain ⟨_, l₂, g₂, h₂, r₂⟩ := r₁.bind
  have hw₁ := h₁.writes_eq touches_lockAuthorizedMessage
  obtain ⟨-, rfl⟩ := h₂.ensure
  have hkeep : ∀ {l₀ : Local Row Nat}, l₀.writes = l.writes →
      ∀ attached count, Rows (Sends messageId attached count) G l₀ := by
    intro l₀ hl₀ attached count k
    rw [hl₀]
    exact hrows attached count k
  split at r₂
  · have hw := r₂.writes_eq (touches_ensure.bind fun _ => touches_lockExistingAttachments.bind fun _ =>
      touches_ensure.bind fun _ => trivial)
    exact ⟨[], attaches_nil (hkeep (hw.trans hw₁) _ _)⟩
  obtain ⟨uploads, l₃, g₃, h₃, r₃⟩ := r₂.bind
  obtain ⟨_, l₄, g₄, h₄, r₄⟩ := r₃.bind
  obtain ⟨_, l₅, g₅, h₅, r₅⟩ := r₄.bind
  obtain ⟨_, l₆, g₆, h₆, r₆⟩ := r₅.bind
  obtain ⟨_, l₇, g₇, h₇, r₇⟩ := r₆.bind
  obtain ⟨-, rfl⟩ := h₄.ofOption
  obtain ⟨-, rfl⟩ := h₅.ensure
  obtain ⟨-, rfl⟩ := h₆.ensure
  have hw₇ : l₇.writes = l.writes := by
    rw [h₇.writes_eq touches_checkFinalized, h₃.writes_eq touches_lockUploadsInRequestOrder, hw₁]
  split at r₇
  · obtain ⟨_, l₈, g₈, h₈, r₈⟩ := r₇.bind
    obtain ⟨existing, l₉, g₉, h₉, r₉⟩ := r₈.bind
    obtain ⟨_, l₁₀, g₁₀, h₁₀, r₁₀⟩ := r₉.bind
    obtain ⟨now, l₁₁, g₁₁, h₁₁, r₁₁⟩ := r₁₀.bind
    obtain ⟨-, rfl⟩ := h₈.ensure
    obtain ⟨-, rfl⟩ := h₁₀.ensure
    have hw₁₁ : l₁₁.writes = l.writes := by
      rw [h₁₁.clock.1, h₉.writes_eq touches_lockExistingAttachments, hw₇]
    have hrows₁₁ := (keepsSends_bindConfirmedUploads (fun u hu => List.mem_map_of_mem hu) (Nat.le_of_eq (Nat.zero_add _))).rows
      r₁₁ (hkeep hw₁₁ (uploads.map StoredUpload.id) uploads.length)
    refine ⟨uploads, hrows₁₁, fun p u hu => ?_, fun u hu => ?_⟩
    · obtain ⟨mediaId, hholds⟩ := holds_of_bindConfirmedUploads r₁₁ hu
      exact ⟨mediaId, _, hholds (.messageMedia mediaId) rfl, rfl, rfl, Nat.zero_add p, rfl⟩
    · obtain ⟨-, r, hr, -, hlive⟩ := lockUploadsInRequestOrder_rows h₃ u hu
      rw [hw₁] at hr
      exact ⟨r, (huploads u.id).symm.trans hr, hlive⟩
  · have hw := r₇.writes_eq (touches_ensure.bind fun _ => touches_exactRetry)
    exact ⟨[], attaches_nil (hkeep (hw.trans hw₇) _ _)⟩

lemma attaches_bindAuthoritativeMessageMedia {uploadIds : List Uuid} {as : List MessageAttachment}
    (h : Runs C (bindAuthoritativeMessageMedia actorId chatroomId messageId uploadIds) l g (.ok as) l' g' L G)
    (hrows : ∀ attached count, Rows (Sends messageId attached count) G l)
    (huploads : ∀ i, (G.view l).get (.mediaUploads i) = G.db.get (.mediaUploads i)) :
    ∃ uploads, Attaches messageId uploads l' G := by
  unfold bindAuthoritativeMessageMedia at h
  obtain ⟨_, l₁, g₁, h₁, r₁⟩ := h.bind
  obtain ⟨_, l₂, g₂, h₂, r₂⟩ := r₁.bind
  obtain ⟨uploads, l₃, g₃, h₃, r₃⟩ := r₂.bind
  obtain ⟨media, l₄, g₄, h₄, r₄⟩ := r₃.bind
  obtain ⟨-, rfl⟩ := h₂.ensure
  obtain ⟨-, rfl⟩ := h₄.ofOption
  have hw : l₄.writes = l.writes := by
    rw [h₃.writes_eq touches_lockUploadsInRequestOrder, h₁.writes_eq touches_lockAuthorizedMessage]
  refine attaches_bindMessageMedia r₄ (fun attached count k => ?_) fun i => ?_
  · rw [hw]
    exact hrows attached count k
  · rw [Shared.view, hw]
    exact huploads i

end Binding

section Sending

/-- The rows of a new event and of the notifications of it. -/
def Aside : Key → Prop
  | .conversationEvents _ | .outboxEvents _ | .notifications _ | .pushDeliveryIntents _ => True
  | _ => False

lemma sends_of_aside {attached : List Uuid} {count : Nat} {k : Key} (hk : Aside k) (base v : Option (Row k)) :
    Sends messageId attached count k base v := by
  cases k <;> first | exact hk.elim | trivial

/-- The transaction has stored a message that is new, with its attachments. -/
structure SendsMessage (l : Local Row Nat) (G : ReadCommitted.Shared Row Nat β ω) (messageId : Uuid)
    (uploads : List StoredUpload) : Prop extends Attaches messageId uploads l G where
  absent : G.db.get (.messages messageId) = none
  stored : ∃ m, (G.view l).get (.messages messageId) = some m ∧ m.deletedAt = none

lemma persist_created {settings : Settings} {command : SendMessageCommand} {message : CanonicalMessage}
    (h : Runs C (persist settings command) l g (.ok (.created message)) l' g' L G) (hl : l.writes = []) :
    G.db.get (.messages message.id) = none ∧
      ∃ m : Message, l'.writes = [⟨.messages message.id, some m⟩] ∧ m.deletedAt = none := by
  unfold persist at h
  obtain ⟨_, l₁, g₁, h₁, r₁⟩ := h.bind
  obtain ⟨createdAt, l₂, g₂, h₂, r₂⟩ := r₁.bind
  obtain ⟨id, l₃, g₃, h₃, r₃⟩ := r₂.bind
  obtain ⟨s, l₄, g₄, h₄, r₄⟩ := r₃.bind
  obtain ⟨inserted, l₅, g₅, h₅, r₅⟩ := r₄.bind
  have hw₄ : l₄.writes = [] := by
    rw [h₄.writes_eq ⟨trivial, fun _ => trivial⟩, h₃.writes_eq ⟨trivial, fun _ => trivial⟩,
      h₂.writes_eq ⟨trivial, fun _ => ⟨trivial, fun _ => ⟨trivial, fun _ => trivial⟩⟩⟩, h₁.writes_eq touches_authorize, hl]
  rcases h₅.insertOrSkip with ⟨rfl, hinsert⟩ | ⟨rfl, rfl, -⟩
  · obtain ⟨heq, rfl⟩ := r₅.ret
    cases heq
    have habsent := hinsert.absent
    rw [hw₄, Store.apply_nil] at habsent
    have hw := congrArg Local.writes hinsert.frame
    rw [hw₄] at hw
    exact ⟨habsent, _, hw, rfl⟩
  · obtain ⟨_, _, heq⟩ := existingMessage_existing r₅
    cases heq

lemma sendsMessage_sendMessageHttp {settings : Settings} {mask : String → String} {input : SendMessageInput}
    {message : CanonicalMessage} (h : Runs C (sendMessageHttp settings mask actorId input) l g (.ok (.created message)) l' g' L G)
    (hl : l.writes = []) : ∃ messageId uploads, SendsMessage l' G messageId uploads := by
  unfold sendMessageHttp at h
  obtain ⟨command, l₁, g₁, h₁, r₁⟩ := h.bind
  obtain ⟨outcome, l₂, g₂, h₂, r₂⟩ := r₁.bind
  obtain ⟨context, l₃, g₃, h₃, r₃⟩ := r₂.bind
  obtain ⟨attachments, l₄, g₄, h₄, r₄⟩ := r₃.bind
  have hw₁ := (h₁.writes_eq (touches_ensure.bind fun _ => touches_ensure.bind fun _ => trivial)).trans hl
  cases outcome with
  | existing stored eventId => cases r₄.ret.1
  | created stored =>
    obtain ⟨habsent, m, hw₂, hlive⟩ := persist_created h₂.mapError hw₁
    have hw₃ : l₃.writes = [⟨.messages stored.id, some m⟩] := (h₃.mapError.writes_eq touches_deliveryContext).trans hw₂
    have hmessage : (G.db.apply l₃.writes).get (.messages stored.id) = some m := by
      rw [hw₃, Store.apply_cons, Store.get_set_self]
    have hother : ∀ k, k ≠ .messages stored.id → (G.db.apply l₃.writes).get k = G.db.get k := by
      intro k hk
      rw [hw₃, Store.apply_cons, Store.get_set_mk_of_ne _ _ hk, Store.apply_nil]
    have hrows₃ : ∀ attached count, Rows (Sends stored.id attached count) G l₃ := by
      intro attached count k
      by_cases hk : k = .messages stored.id
      · subst hk
        exact .inr ⟨habsent, rfl⟩
      · rw [hother k hk]
        exact sends_refl k _
    obtain ⟨uploads, hattaches⟩ := attaches_bindAuthoritativeMessageMedia h₄.mapError hrows₃ fun i => hother _ (by simp)
    have hframe : ∀ k, ¬ Aside k → (G.view l').get k = (G.view l₄).get k := fun k hk => r₄.get_of_touches
      ⟨trivial, fun _ => ⟨trivial, fun _ => (touches_recordEvent trivial trivial).mapError.bind fun _ =>
        (Notifications.touches_recordMessageCreated (fun _ => trivial) fun _ => trivial).mapError.bind fun _ => trivial⟩⟩ hk _
    refine ⟨stored.id, uploads, ⟨fun k => ?_, fun p u hu => ?_, hattaches.live⟩, habsent, m, ?_, hlive⟩
    · by_cases hk : Aside k
      · exact sends_of_aside hk _ _
      · rw [show (G.db.apply l'.writes).get k = _ from hframe k hk]
        exact hattaches.rows k
    · obtain ⟨i, r, hr, hattached⟩ := hattaches.attached p u hu
      exact ⟨i, r, (hframe _ id).trans hr, hattached⟩
    · have hbind := h₄.mapError.get_of_touches (P := fun k => ∀ i, k ≠ .messages i)
        (touches_bindAuthoritativeMessageMedia (by simp) (by simp)) (k := .messages stored.id) (by simp) G.db
      rw [hframe _ id]
      exact hbind.trans hmessage

end Sending

section History

variable {uploads : List StoredUpload}

/-- An attachment names a message. -/
def MediaOfMessages (s : Store Row) : Prop :=
  ∀ i r, s.get (.messageMedia i) = some r → (s.get (.messages r.messageId)).isSome = true

lemma positions_eq_range {α : Type} {position : α → Nat} {rows : List α} {n : Nat}
    (hstrict : rows.Pairwise fun a b => position a < position b) (hmem : ∀ p, p ∈ rows.map position ↔ p < n) :
    rows.map position = List.range rows.length := by
  have hpositions : (rows.map position).Pairwise fun p q => id p < id q := List.pairwise_map.mpr hstrict
  have heq : rows.map position = List.range n := by
    refine eq_of_strict hpositions List.pairwise_lt_range fun p => ?_
    rw [hmem, List.mem_range]
  have hlength := congrArg List.length heq
  rw [List.length_map, List.length_range] at hlength
  rw [heq, hlength]

namespace SendsMessage

/-- The message is new, and no attachment of an older message is one of it. -/
lemma messageId_ne (h : SendsMessage l G messageId uploads) (hparents : MediaOfMessages G.db) {i : Uuid} {r : MessageMedia}
    (hr : G.db.get (.messageMedia i) = some r) : r.messageId ≠ messageId := by
  rintro rfl
  have hsome := hparents i r hr
  rw [h.absent] at hsome
  cases hsome

lemma media (h : SendsMessage l G messageId uploads) {i : Uuid} {r : MessageMedia} (hr : G.db.get (.messageMedia i) = some r) :
    (G.view l).get (.messageMedia i) = some r := by
  rcases h.rows (.messageMedia i) with heq | ⟨hnone, -⟩
  · exact heq.trans hr
  · rw [hr] at hnone
    cases hnone

lemma newMedia (h : SendsMessage l G messageId uploads) {i : Uuid} {r : MessageMedia}
    (hr : (G.view l).get (.messageMedia i) = some r) :
    G.db.get (.messageMedia i) = some r ∨ r.messageId = messageId ∧ r.position < uploads.length := by
  rcases h.rows (.messageMedia i) with heq | ⟨-, r', hr', hnew⟩
  · exact .inl (heq.symm.trans hr)
  · cases hr.symm.trans hr'
    exact .inr hnew

/-- An upload that was attached before is not attached again, and it keeps its poster. -/
lemma uploads_eq (h : SendsMessage l G messageId uploads) (hparents : MediaOfMessages G.db)
    (hunique : Unique index (G.view l)) {i : Uuid} {r : MessageMedia} (hr : G.db.get (.messageMedia i) = some r) :
    ((G.view l).get (.mediaUploads r.mediaUploadId)).map (fun u => (u.deletedAt, u.posterUploadId)) =
      (G.db.get (.mediaUploads r.mediaUploadId)).map fun u => (u.deletedAt, u.posterUploadId) := by
  obtain ⟨hdeleted, hposter | hattached⟩ := h.rows (.mediaUploads r.mediaUploadId)
  · change ((G.view l).get (.mediaUploads r.mediaUploadId)).map _ = _ at hdeleted hposter
    cases hv : (G.view l).get (.mediaUploads r.mediaUploadId) <;> cases hb : G.db.get (.mediaUploads r.mediaUploadId) <;>
      simp_all
  · obtain ⟨u, hu, hid⟩ := List.mem_map.mp hattached
    obtain ⟨p, hp⟩ := List.mem_iff_getElem?.mp hu
    obtain ⟨j, r', hr', hmessage, hupload, -⟩ := h.attached p u hp
    have hentry : ∀ {k : Uuid} {x : MessageMedia}, (G.view l).get (.messageMedia k) = some x →
        x.mediaUploadId = r.mediaUploadId → Idx.messageMediaUpload r.mediaUploadId ∈ entries index (.messageMedia k)
          ((G.view l).get (.messageMedia k)) := by
      intro k x hx heq
      rw [hx, ← heq]
      exact List.mem_cons_self
    have hkey := hunique _ _ _ (hentry (h.media hr) rfl) (hentry hr' (hupload.trans hid))
    cases hkey
    cases (h.media hr).symm.trans hr'
    exact (h.messageId_ne hparents hr hmessage).elim

/-- The attachments of the new message are those that the loop has bound. -/
lemma attachments_new (h : SendsMessage l G messageId uploads) (hparents : MediaOfMessages G.db) (hchecks : Checks (G.view l)) :
    (messageMediaRows (G.view l) messageId).map (fun row => row.media.position) =
      List.range (messageMediaRows (G.view l) messageId).length := by
  refine positions_eq_range (n := uploads.length) (messageMediaRows_strict hchecks messageId) fun p => ?_
  constructor
  · intro hp
    obtain ⟨row, hrow, rfl⟩ := List.mem_map.mp hp
    obtain ⟨hget, hid, -⟩ := mem_messageMediaRows_iff.mp hrow
    rcases h.newMedia hget with hold | ⟨-, hposition⟩
    · exact (h.messageId_ne hparents hold hid).elim
    · exact hposition
  · intro hp
    obtain ⟨i, r, hr, hid, hupload, rfl, hlive⟩ := h.attached p _ (List.getElem?_eq_getElem hp)
    obtain ⟨b, hb, hblive⟩ := h.live _ (List.getElem_mem hp)
    obtain ⟨m, hm, hmlive⟩ := h.stored
    have hdeleted := (h.rows (.mediaUploads r.mediaUploadId)).1
    rw [hupload, hb, Option.map_some, hblive] at hdeleted
    obtain ⟨u, hu, hulive⟩ := Option.map_eq_some_iff.mp hdeleted
    have hrow : (⟨i, r, u.posterUploadId⟩ : MessageMediaRow) ∈ messageMediaRows (G.view l) messageId := by
      refine mem_messageMediaRows_iff.mpr ⟨hr, hid, hlive, ?_, ?_⟩
      · simp [hm, hmlive]
      · rw [hupload, show (G.view l).get (.mediaUploads _) = some u from hu, Option.map_some, hulive]
    exact List.mem_map.mpr ⟨_, hrow, rfl⟩

/-- A message that is not the new one shows the attachments that it has shown. -/
lemma attachments_old (h : SendsMessage l G messageId uploads) (hparents : MediaOfMessages G.db) (hs : Checks G.db)
    (hchecks : Checks (G.view l)) (hunique : Unique index (G.view l)) {i : Uuid} (hi : i ≠ messageId) :
    messageMediaRows (G.view l) i = messageMediaRows G.db i := by
  refine messageMediaRows_congr hs hchecks ?_ (fun j r hid => ⟨fun hr => ?_, h.media⟩) fun j r => h.uploads_eq hparents hunique
  · rcases h.rows (.messages i) with heq | ⟨-, heq⟩
    · exact heq
    · exact (hi heq).elim
  · rcases h.newMedia hr with hold | ⟨heq, -⟩
    · exact hold
    · exact (hi (hid.symm.trans heq)).elim

/-- What the transaction commits extends the history. -/
theorem messagesSent (h : SendsMessage l G messageId uploads) (hparents : MediaOfMessages G.db) (hs : Constraints G.db)
    (hchecks : Checks (G.view l)) (hunique : Unique index (G.view l)) : MessagesSent G.db (G.view l) where
  constraints := ⟨hchecks, fun i => by
    by_cases hi : i = messageId
    · subst hi
      exact h.attachments_new hparents hchecks
    · rw [h.attachments_old hparents hs.toChecks hchecks hunique hi]
      exact hs.attachments i⟩
  chatrooms i := h.rows (.chatrooms i)
  groups i := h.rows (.groups i)
  memberships i := h.rows (.memberships i)
  topics i := h.rows (.topics i)
  users i := h.rows (.users i)
  messages i m hm := by
    rcases h.rows (.messages i) with heq | ⟨hnone, -⟩
    · exact heq.trans hm
    · rw [hm] at hnone
      cases hnone
  media i r := h.media
  newMedia i r hr := by
    rcases h.newMedia hr with hold | ⟨rfl, -⟩
    · exact .inl hold
    · exact .inr h.absent
  uploads i r := h.uploads_eq hparents hunique

end SendsMessage

end History

section Runs

variable {settings : Settings} {mask : String → String} {ticks : Time → Time → Bool}

/-- A server at its start: nothing is committed yet. -/
structure Begins (g : Attachments.Shared) : Prop where
  log : g.log = []
  unique : Unique index g.init

/-- A send that has stored a new message commits it with its attachments. -/
def contract (settings : Settings) (mask : String → String) (ticks : Time → Time → Bool) :
    Contract (system settings mask ticks) where
  Init := Begins
  log_init _ hg := hg.log
  unique_init _ hg := hg.unique
  Ok e g := ∀ message, e.out = .message (.created message) → ∃ messageId uploads, SendsMessage e.ran g messageId uploads

lemma programs_contract : (contract settings mask ticks).Programs := by
  intro job g hg r l' g' h
  cases r with
  | error e => exact trivial
  | ok out =>
    have hrun : Runs (contract settings mask ticks) (program settings mask job) (Local.begin g) g (.ok out) l' g' l' g' :=
      ⟨h, .refl⟩
    intro message hout
    obtain rfl : out = .message (.created message) := hout
    cases job with
    | send actorId input =>
      obtain ⟨outcome, l₁, g₁, h₁, r₁⟩ := hrun.bind
      obtain ⟨heq, rfl⟩ := r₁.ret
      cases heq
      exact sendsMessage_sendMessageHttp h₁.mapError rfl
    | _ =>
      obtain ⟨x, l₁, g₁, h₁, r₁⟩ := hrun.bind
      cases r₁.ret.1

/-- In every run of the transactions on uploads and messages, a send that stores a new message extends the history: its
attachments stand at the positions from zero on, and what the other messages show stays. -/
theorem send_extends_history {s : Attachments.State} (hs : (system settings mask ticks).Reachable Begins s) {n : Nat}
    {e : Attachments.Entry} (he : s.shared.log[n]? = some e) {message : CanonicalMessage}
    (hout : e.out = .message (.created message)) (hparents : MediaOfMessages (s.shared.version n))
    (hbefore : Constraints (s.shared.version n)) (hafter : Checks (s.shared.version (n + 1))) :
    MessagesSent (s.shared.version n) (s.shared.version (n + 1)) := by
  have hsound : Sound (contract settings mask ticks) s :=
    reachable_sound (fun _ _ _ _ _ _ _ => ⟨trivial, fun _ _ => trivial⟩) programs_contract hs
  obtain ⟨g₁, -, rfl, hc, hlater⟩ := hsound.history.entry he
  obtain ⟨hversion, hversion'⟩ := hlater.version_commit
  rw [hversion] at hparents hbefore ⊢
  rw [hversion'] at hafter ⊢
  obtain ⟨messageId, uploads, hsends⟩ := hc.ok message hout
  exact hsends.messagesSent hparents hbefore hafter hc.coherent.unique

end Runs

end JamyeServer.Pagination
