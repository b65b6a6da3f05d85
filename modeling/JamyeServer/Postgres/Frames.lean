import JamyeServer.Postgres.Messages
import JamyeServer.ReadCommitted.Effects

/-!
# What the transactions on messages and their uploads write

`P` is any predicate that holds of the rows of the tables that a program writes, and `S` any relation that the single
writes of a binding keep.
-/

namespace JamyeServer.Postgres.Messages

open ReadCommitted Prog Rooms

variable {P : Key → Prop}

lemma touches_andThen {ε α β : Type} {p : Sql ε (Option α)} {f : α → Sql ε (Option β)} (hp : p.Touches P)
    (hf : ∀ a, (f a).Touches P) : (andThen p f).Touches P := by
  refine hp.bind fun x => ?_
  cases x with
  | none => trivial
  | some a => exact hf a

lemma touches_first {ε α β : Type} {f : β → Sql ε (Option α)} {bs : List β} (hf : ∀ b ∈ bs, (f b).Touches P) :
    (first f bs).Touches P := by
  induction bs with
  | nil => trivial
  | cons b bs ih =>
    refine (hf b List.mem_cons_self).bind fun x => ?_
    cases x with
    | none => exact ih fun c hc => hf c (List.mem_cons_of_mem _ hc)
    | some a => trivial

lemma keeps_andThen {ε ε₁ α β ω δ : Type} {sys : System Row Nat Idx ε ω δ} {C : Contract sys}
    {S : (k : Key) → Option (Row k) → Option (Row k) → Prop} {p : Sql ε₁ (Option α)} {f : α → Sql ε₁ (Option β)}
    (hp : p.Keeps C S) (hf : ∀ a, (f a).Keeps C S) : (andThen p f).Keeps C S := by
  refine hp.bind fun x => ?_
  cases x with
  | none => exact keeps_ret
  | some a => exact hf a

lemma touches_lockMessageMedia {messageId : Uuid} : (lockMessageMedia messageId).Touches P := by
  exact ⟨trivial, fun _ => touches_collect fun _ _ => touches_andThen touches_lockRow fun _ => touches_lockRow⟩

lemma touches_enqueueObjectDeletions {media : List MediaObjectRow} (hP : ∀ i, P (.accountObjectDeletionIntents i)) :
    (enqueueObjectDeletions media).Touches P := by
  refine touches_each fun _ _ => ⟨trivial, fun i => ⟨trivial, fun _ => ?_⟩⟩
  exact (touches_insertOrSkip (hP i)).bind fun _ => trivial

lemma touches_markMediaUploadsDeleted {media : List MediaObjectRow} {deletedAt : Time} (hP : ∀ i, P (.mediaUploads i)) :
    (markMediaUploadsDeleted media deletedAt).Touches P := by
  unfold markMediaUploadsDeleted
  dsimp only
  split
  · trivial
  · exact (touches_change hP).bind fun _ => trivial

lemma touches_deleteMessageMedia {messageId : Uuid} (hP : ∀ i, P (.messageMedia i)) :
    (deleteMessageMedia messageId).Touches P :=
  (touches_change hP).bind fun _ => trivial

lemma touches_scrubMessageRow {messageId : Uuid} {deletedAt : Time} (hP : ∀ i, P (.messages i)) :
    (scrubMessageRow messageId deletedAt).Touches P :=
  (touches_change hP).bind fun _ => trivial

lemma touches_scrubMessageCreatedEvents {removal : Removal} (hP : ∀ i, P (.conversationEvents i)) :
    (scrubMessageCreatedEvents removal).Touches P :=
  touches_change hP

lemma touches_scrubMessageCreatedOutbox {events : List (Uuid × Nat)} (hP : ∀ i, P (.outboxEvents i)) :
    (scrubMessageCreatedOutbox events).Touches P := by
  unfold scrubMessageCreatedOutbox
  dsimp only
  split
  · trivial
  · exact (touches_change hP).bind fun _ => trivial

lemma touches_stopMessagePushOccurrences {messageId : Uuid} {deletedAt : Time} (hP : ∀ i, P (.pushDeliveryIntents i)) :
    (stopMessagePushOccurrences messageId deletedAt).Touches P :=
  (touches_change hP).bind fun _ => trivial

lemma touches_hideMessageNotifications {chatroomId : Uuid} {events : List (Uuid × Nat)} {deletedAt : Time}
    (hP : ∀ i, P (.notifications i)) : (hideMessageNotifications chatroomId events deletedAt).Touches P := by
  unfold hideMessageNotifications
  dsimp only
  split
  · trivial
  · exact (touches_change hP).bind fun _ => trivial

lemma touches_recordEvent {ε : Type} {eventId outboxId conversationId : Uuid} {payload : EventPayload} {e₁ e₂ : ε}
    (hP : P (.conversationEvents eventId)) (hP' : P (.outboxEvents outboxId)) :
    (recordEvent eventId outboxId conversationId payload e₁ e₂).Touches P :=
  ⟨trivial, fun _ => ⟨trivial, fun _ => (touches_insertRow hP).bind fun _ =>
    ⟨trivial, fun _ => (touches_insertRow hP').bind fun _ => trivial⟩⟩⟩

lemma touches_appendMessageDeletedEvent {removal : Removal} {deletedAt : Time} (hP : ∀ i, P (.conversationEvents i))
    (hP' : ∀ i, P (.outboxEvents i)) : (appendMessageDeletedEvent removal deletedAt).Touches P :=
  ⟨trivial, fun i => ⟨trivial, fun j => (touches_recordEvent (hP i) (hP' j)).bind fun _ => trivial⟩⟩

lemma touches_lockLiveChatroom {chatroomId : Uuid} : (lockLiveChatroom chatroomId).Touches P := by
  refine Prog.Touches.bind (p := snapshot) ⟨trivial, fun _ => trivial⟩ fun s => ?_
  dsimp only
  split
  · split
    · refine Prog.Touches.bind ?_ fun _ => touches_ofOption
      exact touches_andThen touches_lockRow fun _ => touches_andThen touches_lockRow fun _ => trivial
    · exact Prog.Touches.bind trivial fun _ => touches_ofOption
  · exact Prog.Touches.bind trivial fun _ => touches_ofOption

lemma touches_requireMembership {groupId actorId : Uuid} : (requireMembership groupId actorId).Touches P :=
  touches_selectFor.bind fun _ => touches_ensure

lemma touches_fetchLockedMessage {chatroomId messageId : Uuid} : (fetchLockedMessage chatroomId messageId).Touches P :=
  touches_selectFor.bind fun _ => touches_ofOption

lemma touches_authorize {command : SendMessageCommand} : (authorize command).Touches P := by
  refine Prog.Touches.bind ⟨trivial, fun _ => trivial⟩ fun s => Prog.Touches.bind ?_ fun _ => touches_ensure
  exact touches_first fun _ _ => touches_andThen touches_lockRow fun _ => touches_andThen touches_lockRow fun _ =>
    touches_lockRow

lemma touches_existingMessage {command : SendMessageCommand} : (existingMessage command).Touches P := by
  refine touches_select.bind fun _ => touches_ofOption.bind fun ⟨r, message⟩ => touches_ensure.bind fun _ =>
    touches_ensure.bind fun _ => touches_select.bind fun eventIds => ?_
  split
  · trivial
  · trivial

/-- A retry answers with the message that is stored. -/
lemma existingMessage_existing {ε β ω : Type} {sys : System Row Nat Idx ε β ω} {C : Contract sys} {l l' L : Local Row Nat}
    {g g' G : Shared Row Nat β ω} {command : SendMessageCommand} {outcome : PersistMessageOutcome}
    (h : Runs C (existingMessage command) l g (.ok outcome) l' g' L G) : ∃ message eventId, outcome = .existing message eventId := by
  unfold existingMessage at h
  obtain ⟨_, l₁, g₁, -, r₁⟩ := h.bind
  obtain ⟨⟨r, message⟩, l₂, g₂, -, r₂⟩ := r₁.bind
  obtain ⟨_, l₃, g₃, -, r₃⟩ := r₂.bind
  obtain ⟨_, l₄, g₄, -, r₄⟩ := r₃.bind
  obtain ⟨eventIds, l₅, g₅, -, r₅⟩ := r₄.bind
  split at r₅
  · exact ⟨_, _, r₅.ret.1⟩
  · exact (Runs.not_fail r₅).elim

lemma touches_persist {settings : Settings} {command : SendMessageCommand} (hP : ∀ i, P (.messages i)) :
    (persist settings command).Touches P := by
  refine touches_authorize.bind fun _ => Prog.Touches.bind ?_ fun _ => ⟨trivial, fun id => ⟨trivial, fun s => ?_⟩⟩
  · exact ⟨trivial, fun _ => ⟨trivial, fun _ => ⟨trivial, fun _ => trivial⟩⟩⟩
  · refine (touches_insertOrSkip (hP id)).bind fun inserted => ?_
    split
    · trivial
    · exact touches_existingMessage

lemma touches_deliveryContext {message : CanonicalMessage} : (deliveryContext message).Touches P := by
  refine Prog.Touches.bind (p := snapshot) ⟨trivial, fun _ => trivial⟩ fun s => ?_
  dsimp only
  split
  on_goal 1 => split
  all_goals
    refine Prog.Touches.bind ?_ fun found => touches_ofOption.bind fun x => ?_
    on_goal 2 =>
      obtain ⟨room, name⟩ := x
      dsimp only
      split
      · trivial
      · exact touches_selectFor.bind fun _ => touches_ensure.bind fun _ => trivial
      · trivial
  · exact touches_andThen touches_lockRow fun _ => touches_andThen touches_lockRow fun _ =>
      touches_andThen touches_lockRow fun _ => touches_lockRow
  · trivial
  · trivial

end JamyeServer.Postgres.Messages

namespace JamyeServer.Postgres.Media

open ReadCommitted Prog Rooms Messages

variable {P : Key → Prop}

lemma touches_lockAuthorizedMessage {actorId chatroomId messageId : Uuid} :
    (lockAuthorizedMessage actorId chatroomId messageId).Touches P := by
  refine Prog.Touches.bind (p := snapshot) ⟨trivial, fun _ => trivial⟩ fun s =>
    Prog.Touches.bind ?_ fun _ => touches_ofOption
  exact touches_first fun _ _ => touches_andThen touches_lockRow fun _ => touches_andThen touches_lockRow fun _ =>
    touches_andThen touches_lockRow fun _ => touches_andThen touches_lockRow fun _ => trivial

lemma touches_lockUploadsInRequestOrder {actorId chatroomId : Uuid} {uploadIds : List Uuid} :
    (lockUploadsInRequestOrder actorId chatroomId uploadIds).Touches P :=
  touches_selectFor.bind fun _ => touches_ensure.bind fun _ => touches_ensure.bind fun _ => touches_ofOption

lemma touches_lockExistingAttachments {messageId : Uuid} : (lockExistingAttachments messageId).Touches P :=
  touches_selectFor.bind fun _ => trivial

lemma touches_checkFinalized {media : List (Uuid × FinalizedObject)} {uploads : List StoredUpload} :
    (checkFinalized media uploads).Touches P := by
  induction media generalizing uploads with
  | nil => trivial
  | cons item media ih =>
    cases uploads with
    | nil => trivial
    | cons upload uploads => exact touches_ofOption.bind fun _ => touches_ensure.bind fun _ => ih

lemma touches_consumeUpload {actorId chatroomId messageId uploadId : Uuid} {consumedAt : Time} {error : MediaRepositoryError}
    (hP : ∀ i, P (.mediaUploads i)) : (consumeUpload actorId chatroomId messageId uploadId consumedAt error).Touches P :=
  (touches_change hP).bind fun _ => trivial

lemma touches_bindUpload {actorId chatroomId messageId : Uuid} {consumedAt : Time} {upload : StoredUpload} {position : Nat}
    (hP : ∀ i, P (.mediaUploads i)) (hP' : ∀ i, P (.messageMedia i)) :
    (bindUpload actorId chatroomId messageId consumedAt upload position).Touches P := by
  refine (touches_consumeUpload hP).bind fun _ => touches_ensure.bind fun _ => ?_
  dsimp only
  split
  · refine Prog.Touches.bind ((touches_consumeUpload hP).bind fun updated => ?_) fun _ =>
      ⟨trivial, fun i => (touches_insertRow (hP' i)).bind fun _ => touches_ofOption⟩
    cases updated with
    | some posterId => trivial
    | none => exact (touches_change hP).bind fun _ => trivial
  · exact ⟨trivial, fun i => (touches_insertRow (hP' i)).bind fun _ => touches_ofOption⟩

lemma touches_bindConfirmedUploads {actorId chatroomId messageId : Uuid} {consumedAt : Time} {uploads : List StoredUpload}
    (hP : ∀ i, P (.mediaUploads i)) (hP' : ∀ i, P (.messageMedia i)) (n : Nat) :
    (bindConfirmedUploads actorId chatroomId messageId consumedAt n uploads).Touches P := by
  induction uploads generalizing n with
  | nil => trivial
  | cons upload uploads ih => exact (touches_bindUpload hP hP').bind fun _ => (ih (n + 1)).bind fun _ => trivial

lemma touches_exactRetry {messageId : Uuid} {uploads : List StoredUpload} : (exactRetry messageId uploads).Touches P :=
  touches_lockExistingAttachments.bind fun _ => touches_ensure.bind fun _ => touches_ofOption

lemma touches_bindMessageMedia {actorId chatroomId messageId : Uuid} {media : List (Uuid × FinalizedObject)}
    (hP : ∀ i, P (.mediaUploads i)) (hP' : ∀ i, P (.messageMedia i)) :
    (bindMessageMedia actorId chatroomId messageId media).Touches P := by
  refine touches_lockAuthorizedMessage.bind fun _ => touches_ensure.bind fun _ => ?_
  dsimp only
  split
  · exact touches_ensure.bind fun _ => touches_lockExistingAttachments.bind fun _ => touches_ensure.bind fun _ => trivial
  · refine touches_lockUploadsInRequestOrder.bind fun _ => touches_ofOption.bind fun _ => touches_ensure.bind fun _ =>
      touches_ensure.bind fun _ => touches_checkFinalized.bind fun _ => ?_
    split
    · exact touches_ensure.bind fun _ => touches_lockExistingAttachments.bind fun _ => touches_ensure.bind fun _ =>
        ⟨trivial, fun _ => touches_bindConfirmedUploads hP hP' 0⟩
    · exact touches_ensure.bind fun _ => touches_exactRetry

lemma touches_bindAuthoritativeMessageMedia {actorId chatroomId messageId : Uuid} {uploadIds : List Uuid}
    (hP : ∀ i, P (.mediaUploads i)) (hP' : ∀ i, P (.messageMedia i)) :
    (bindAuthoritativeMessageMedia actorId chatroomId messageId uploadIds).Touches P :=
  touches_lockAuthorizedMessage.bind fun _ => touches_ensure.bind fun _ => touches_lockUploadsInRequestOrder.bind fun _ =>
    touches_ofOption.bind fun _ => touches_bindMessageMedia hP hP'

section Binding

variable {ε β ω : Type} {sys : System Row Nat Idx ε β ω} {C : Contract sys} {S : (k : Key) → Option (Row k) → Option (Row k) → Prop}
  {actorId chatroomId messageId : Uuid} {consumedAt : Time}

lemma keeps_consumeUpload {uploadId : Uuid} {error : MediaRepositoryError}
    (hS : ∀ i base r, consumable actorId chatroomId consumedAt r = true → S (.mediaUploads i) base (some r) →
      S (.mediaUploads i) base (some (MediaUpload.consume messageId consumedAt r))) :
    (consumeUpload actorId chatroomId messageId uploadId consumedAt error).Keeps C S := by
  refine Keeps.bind (keeps_change nofun fun s i base t r v a hr hf => ?_) fun _ => keeps_ret
  split at hf
  · rename_i hc
    cases hf
    exact hS i base r hc hr
  · cases hf

/-- A poster is consumed, or its video is unlinked from it. -/
lemma keeps_bindLinkedPoster {videoUploadId posterUploadId : Uuid}
    (hconsume : ∀ i base r, consumable actorId chatroomId consumedAt r = true → S (.mediaUploads i) base (some r) →
      S (.mediaUploads i) base (some (MediaUpload.consume messageId consumedAt r)))
    (hunlink : ∀ base r, S (.mediaUploads videoUploadId) base (some r) →
      S (.mediaUploads videoUploadId) base (some { r with posterUploadId := none })) :
    (bindLinkedPoster actorId chatroomId messageId videoUploadId posterUploadId consumedAt).Keeps C S := by
  refine (keeps_consumeUpload hconsume).bind fun updated => ?_
  cases updated with
  | some posterId => exact keeps_ret
  | none =>
    refine Keeps.bind (keeps_update_of_mem fun s i base t r r' a hi hr hf => ?_) fun _ => keeps_ret
    obtain ⟨rfl, -⟩ := Store.mem_one.mp hi
    split at hf
    · cases hf
      exact hunlink base r hr
    · cases hf

/-- The attachment that the upload gets at a position. -/
def attachmentRow (messageId : Uuid) (consumedAt : Time) (upload : StoredUpload) (position : Nat) : MessageMedia :=
  { messageId, mediaUploadId := upload.id, contentType := upload.contentType, objectKey := upload.objectKey,
    byteSize := upload.byteSize, duration := upload.duration, position, filename := upload.filename, createdAt := consumedAt }

/-- One turn of the binding loop. -/
lemma keeps_bindUpload {upload : StoredUpload} {position : Nat}
    (hconsume : ∀ i base r, consumable actorId chatroomId consumedAt r = true → S (.mediaUploads i) base (some r) →
      S (.mediaUploads i) base (some (MediaUpload.consume messageId consumedAt r)))
    (hunlink : ∀ base r, S (.mediaUploads upload.id) base (some r) →
      S (.mediaUploads upload.id) base (some { r with posterUploadId := none }))
    (hattach : ∀ i base, S (.messageMedia i) base none →
      S (.messageMedia i) base (some (attachmentRow messageId consumedAt upload position))) :
    (bindUpload actorId chatroomId messageId consumedAt upload position).Keeps C S := by
  refine (keeps_consumeUpload hconsume).bind fun _ => keeps_ensure.bind fun _ => ?_
  have hinsert : ∀ posterMediaId, (do
      let mediaId ← fresh
      insertRow (.messageMedia mediaId) (attachmentRow messageId consumedAt upload position)
        [.messages messageId, .mediaUploads upload.id] .finalizeConflict
      ofOption (intoAttachment (mediaId, attachmentRow messageId consumedAt upload position) posterMediaId) .invalidData :
        Sql MediaRepositoryError MessageAttachment).Keeps C S := fun _ =>
    keeps_fresh.bind fun i => Keeps.bind (keeps_insertRow (hattach i)) fun _ => keeps_ofOption
  dsimp only
  split
  · exact (keeps_bindLinkedPoster hconsume hunlink).bind hinsert
  · exact keeps_ret.bind hinsert

end Binding

end JamyeServer.Postgres.Media

namespace JamyeServer.Postgres.Notifications

open ReadCommitted Prog Rooms Messages

variable {P : Key → Prop}

lemma touches_lockLiveRecipients {groupId actorId : Uuid} : (lockLiveRecipients groupId actorId).Touches P := by
  refine Prog.Touches.bind (touches_selectFor.bind fun _ => touches_ensure) fun _ =>
    Prog.Touches.bind ⟨trivial, fun _ => trivial⟩ fun _ => Prog.Touches.bind ?_ fun _ => touches_ensure.bind fun _ => trivial
  exact touches_collect fun _ _ => touches_andThen touches_lockRow fun _ => touches_lockRow

lemma touches_recipientsNotBlocking {recipients : List Uuid} {senderId : Uuid} :
    (recipientsNotBlocking recipients senderId).Touches P := by
  unfold recipientsNotBlocking
  split
  · trivial
  · exact touches_select.bind fun _ => trivial

lemma touches_notificationContext {groupId : Uuid} {topicId : Option Uuid} :
    (notificationContext groupId topicId).Touches P := by
  refine touches_select.bind fun _ => touches_ofOption.bind fun _ => ?_
  cases topicId with
  | none => trivial
  | some topicId => exact touches_select.bind fun _ => touches_ofOption.bind fun _ => trivial

lemma touches_upsertNotification {fanout : Fanout} {userId : Uuid} (hP : ∀ i, P (.notifications i)) :
    (upsertNotification fanout userId).Touches P := by
  refine Prog.Touches.bind ⟨trivial, fun _ => trivial⟩ fun id => Prog.Touches.bind ⟨trivial, fun _ => trivial⟩ fun now =>
    Prog.Touches.bind ⟨hP id, fun _ => trivial⟩ fun stored => ?_
  split
  · exact touches_references.bind fun _ => trivial
  · exact (touches_changeRow (hP _)).bind fun _ => touches_ofOption
  · trivial

lemma touches_upsertNotifications {fanout : Fanout} {userIds : List Uuid} (hP : ∀ i, P (.notifications i)) :
    (upsertNotifications fanout userIds).Touches P := by
  induction userIds with
  | nil => trivial
  | cons userId userIds ih => exact (touches_upsertNotification hP).bind fun _ => ih.bind fun _ => trivial

lemma touches_insertOccurrences {fanout : Fanout} {notificationIds : List (Uuid × Uuid)} {installations : List InstallationRow}
    (hP : ∀ i, P (.pushDeliveryIntents i)) : (insertOccurrences fanout notificationIds installations).Touches P := by
  induction installations with
  | nil => trivial
  | cons installation installations ih =>
    refine touches_ensure.bind fun _ => touches_ofOption.bind fun _ => Prog.Touches.bind ?_ fun _ => ih.bind fun _ => trivial
    exact ⟨trivial, fun id => ⟨trivial, fun _ => (touches_insertOrSkip (hP id)).bind fun _ => trivial⟩⟩

lemma touches_fanOut {fanout : Fanout} {recipients : List Uuid} (hP : ∀ i, P (.notifications i))
    (hP' : ∀ i, P (.pushDeliveryIntents i)) : (fanOut fanout recipients).Touches P := by
  unfold fanOut
  split
  · trivial
  · exact (touches_upsertNotifications hP).bind fun _ => touches_selectFor.bind fun _ =>
      (touches_insertOccurrences hP').bind fun _ => trivial

lemma touches_recordMessageCreated {command : RecordMessageNotificationCommand} (hP : ∀ i, P (.notifications i))
    (hP' : ∀ i, P (.pushDeliveryIntents i)) : (recordMessageCreated command).Touches P :=
  touches_ensure.bind fun _ => touches_lockLiveRecipients.bind fun _ => touches_recipientsNotBlocking.bind fun _ =>
    Prog.Touches.bind (touches_select.bind fun _ => touches_ofOption) fun _ => touches_notificationContext.bind fun _ =>
      touches_fanOut hP hP'

lemma touches_recordTopicCreated {command : RecordTopicNotificationCommand} (hP : ∀ i, P (.notifications i))
    (hP' : ∀ i, P (.pushDeliveryIntents i)) : (recordTopicCreated command).Touches P :=
  touches_ensure.bind fun _ => touches_lockLiveRecipients.bind fun _ =>
    Prog.Touches.bind (touches_select.bind fun _ => touches_ofOption) fun _ => touches_notificationContext.bind fun _ =>
      touches_fanOut hP hP'

end JamyeServer.Postgres.Notifications
