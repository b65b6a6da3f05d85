import JamyeServer.Attachments.System
import JamyeServer.Postgres.Frames
import JamyeServer.Purge.Frames

/-!
# What the transactions on uploads commit

Each transaction is taken apart statement by statement: only a send adds attachments, of uploads that its request
lists, and only a finalization links a poster. What writes other tables only is known by these tables.
-/

namespace JamyeServer.Attachments

open ReadCommitted Prog Postgres Rooms Media
open Messages (keeps_andThen)

variable {ε β ω : Type} {sys : System Row Nat Idx ε β ω} {C : Contract sys} {listed : List Uuid} {poster : Option Uuid}

section Uploads

lemma keeps_lockAccess {chatroomId userId : Uuid} {s : Store Row} :
    (lockAccess chatroomId userId s).Keeps C (Adds listed poster) :=
  keeps_first fun _ _ => keeps_andThen keeps_lockRow fun _ => keeps_andThen keeps_lockRow fun _ => keeps_lockRow

lemma keeps_createUploadIntent {command : CreateUploadIntentCommand} :
    (createUploadIntent command).Keeps C (Adds listed poster) := by
  refine keeps_snapshot.bind fun s => keeps_lockAccess.bind fun _ => keeps_ensure.bind fun _ => keeps_clock.bind fun now => ?_
  refine keeps_insertRow fun base _ p hp => ?_
  simp [liveLink] at hp

lemma keeps_createUpload {actorId targetId : Uuid} {contentType : String} {byteSize : Nat} {filename : Option String} :
    (createUpload actorId targetId contentType byteSize filename).Keeps C (Adds listed poster) :=
  keeps_ensure.bind fun _ => keeps_fresh.bind fun _ => keeps_createUploadIntent.mapError.bind fun _ => keeps_ret

lemma keeps_lockAuthorizedUpload {actorId uploadId : Uuid} :
    (lockAuthorizedUpload actorId uploadId).Keeps C (Adds listed poster) :=
  keeps_snapshot.bind fun _ => keeps_ofOption.bind fun _ => keeps_lockAccess.bind fun _ => keeps_ensure.bind fun _ =>
    keeps_lockRow.bind fun _ => keeps_ofOption.bind fun _ => keeps_ret

lemma keeps_loadPosterCandidate {posterUploadId : Uuid} :
    (loadPosterCandidate posterUploadId).Keeps C (Adds listed poster) := by
  refine keeps_select.bind fun found => ?_
  cases found with
  | none => exact keeps_ret
  | some x => exact keeps_ofOption.bind fun _ => keeps_ret

lemma keeps_prepareUploadFinalize {actorId uploadId : Uuid} {posterUploadId : Option Uuid} :
    (prepareUploadFinalize actorId uploadId posterUploadId).Keeps C (Adds listed poster) := by
  refine keeps_lockAuthorizedUpload.mapError.bind fun ⟨upload, targetId⟩ => ?_
  dsimp only
  split
  · refine keeps_ensure.bind fun _ => keeps_ensure.bind fun _ => keeps_ofOption.bind fun kind => ?_
    cases posterUploadId with
    | none => exact keeps_ret
    | some p =>
      exact keeps_loadPosterCandidate.mapError.bind fun _ => keeps_ofOption.bind fun _ => keeps_ensure.bind fun _ => keeps_ret
  · exact keeps_ensure.bind fun _ => keeps_ensure.bind fun _ => keeps_ensure.bind fun _ => keeps_ret
  · exact keeps_fail

lemma keeps_ofExcept {α : Type} {x : Except MediaRepositoryError α} : (ofExcept x).Keeps C (Adds listed poster) := by
  cases x with
  | ok a => exact keeps_ret
  | error e => exact keeps_fail

lemma keeps_finalizeUpload {command : FinalizeUploadCommand} :
    (finalizeUpload command).Keeps C (Adds listed command.posterUploadId) := by
  refine keeps_lockAuthorizedUpload.bind fun ⟨upload, targetId⟩ => keeps_ensure.bind fun _ => keeps_ensure.bind fun _ =>
    keeps_ensure.bind fun _ => keeps_ofExcept.bind fun duration => keeps_ensure.bind fun _ => Keeps.bind ?_ fun _ =>
      keeps_ofOption.bind fun _ => keeps_references.bind fun _ => keeps_ret
  refine keeps_update fun s i base t r r' a _ hf p hp => .inr ?_
  split at hf
  · cases hf
    by_cases hr : r.deletedAt = none
    · simpa [liveLink, MediaUpload.confirm, hr] using hp
    · simp [liveLink, MediaUpload.confirm, hr] at hp
  · cases hf

end Uploads

section Binding

lemma map_of_mapM {α β γ : Type} {f : α → Option β} {k : β → γ} {k' : α → γ} {xs : List α} {ys : List β}
    (hf : ∀ x y, f x = some y → k y = k' x) (h : xs.mapM f = some ys) : ys.map k = xs.map k' := by
  induction xs generalizing ys with
  | nil =>
    cases h
    rfl
  | cons x xs ih =>
    simp only [List.mapM_cons, Option.bind_eq_bind, Option.bind_eq_some_iff] at h
    obtain ⟨y, hy, zs, hzs, heq⟩ := h
    cases heq
    rw [List.map_cons, List.map_cons, hf x y hy, ih hzs]

lemma mem_of_mapM {α β : Type} {f : α → Option β} {xs : List α} {ys : List β} (h : xs.mapM f = some ys) {y : β}
    (hy : y ∈ ys) : ∃ x ∈ xs, f x = some y := by
  induction xs generalizing ys with
  | nil =>
    cases h
    cases hy
  | cons x xs ih =>
    simp only [List.mapM_cons, Option.bind_eq_bind, Option.bind_eq_some_iff] at h
    obtain ⟨z, hz, zs, hzs, heq⟩ := h
    cases heq
    rcases List.mem_cons.mp hy with rfl | hy
    · exact ⟨x, List.mem_cons_self, hz⟩
    · obtain ⟨x', hx', heq⟩ := ih hzs hy
      exact ⟨x', List.mem_cons_of_mem _ hx', heq⟩

/-- The uploads are those of the request, in its order. -/
lemma lockUploadsInRequestOrder_ids {actorId chatroomId : Uuid} {uploadIds : List Uuid} {uploads : List StoredUpload}
    {l l' L : Local Row Nat} {g g' G : ReadCommitted.Shared Row Nat β ω}
    (h : Runs C (lockUploadsInRequestOrder actorId chatroomId uploadIds) l g (.ok uploads) l' g' L G) :
    uploads.map StoredUpload.id = uploadIds := by
  obtain ⟨rows, l₁, g₁, -, r₁⟩ := h.bind
  obtain ⟨_, l₂, g₂, -, r₂⟩ := r₁.bind
  obtain ⟨_, l₃, g₃, -, r₃⟩ := r₂.bind
  have hids : uploads.map StoredUpload.id = uploadIds.map id := by
    refine map_of_mapM (fun i u hu => ?_) r₃.ofOption.1
    obtain ⟨x, hx, rfl⟩ := Option.map_eq_some_iff.mp hu
    have hid := List.find?_some hx
    simpa only [beq_iff_eq, id_eq] using hid
  rwa [List.map_id] at hids

lemma keepsAdds_bindUpload {actorId chatroomId messageId : Uuid} {consumedAt : Time} {upload : StoredUpload} {position : Nat}
    (hmem : upload.id ∈ listed) :
    (bindUpload actorId chatroomId messageId consumedAt upload position).Keeps C (Adds listed poster) := by
  refine keeps_bindUpload (fun _ _ _ _ hr => hr.keeps (.inl rfl) id) (fun _ _ hr => hr.keeps (.inr rfl) id) ?_
  intro i base _ u hu
  cases hu
  exact .inr hmem

lemma keeps_bindConfirmedUploads {actorId chatroomId messageId : Uuid} {consumedAt : Time} {uploads : List StoredUpload}
    (hmem : ∀ u ∈ uploads, u.id ∈ listed) (n : Nat) :
    (bindConfirmedUploads actorId chatroomId messageId consumedAt n uploads).Keeps C (Adds listed poster) := by
  induction uploads generalizing n with
  | nil => exact keeps_ret
  | cons upload uploads ih =>
    refine (keepsAdds_bindUpload (hmem upload List.mem_cons_self)).bind fun _ => ?_
    exact (ih (fun u hu => hmem u (List.mem_cons_of_mem _ hu)) (n + 1)).bind fun _ => keeps_ret

lemma keeps_exactRetry {messageId : Uuid} {uploads : List StoredUpload} :
    (exactRetry messageId uploads).Keeps C (Adds listed poster) :=
  Keeps.bind (keeps_of_touches touches_lockExistingAttachments) fun _ => keeps_ensure.bind fun _ => keeps_ofOption

lemma keeps_bindMessageMedia {actorId chatroomId messageId : Uuid} {media : List (Uuid × FinalizedObject)}
    (hmem : ∀ i ∈ media.map Prod.fst, i ∈ listed) :
    (bindMessageMedia actorId chatroomId messageId media).Keeps C (Adds listed poster) := by
  refine Keeps.bind (keeps_of_touches touches_lockAuthorizedMessage) fun body => keeps_ensure.bind fun _ => ?_
  dsimp only
  split
  · exact keeps_ensure.bind fun _ => Keeps.bind (keeps_of_touches touches_lockExistingAttachments) fun _ =>
      keeps_ensure.bind fun _ => keeps_ret
  · refine ⟨fun {l g a l' g' L G} h hrows => ?_⟩
    obtain ⟨uploads, l₁, g₁, h₁, r₁⟩ := h.bind
    have huploads : ∀ u ∈ uploads, u.id ∈ listed := by
      intro u hu
      have hid := List.mem_map_of_mem (f := StoredUpload.id) hu
      rw [lockUploadsInRequestOrder_ids h₁] at hid
      exact hmem _ hid
    refine Keeps.rows (S := Adds listed poster) ?_ r₁ ((keeps_of_touches touches_lockUploadsInRequestOrder).rows h₁ hrows)
    refine keeps_ofOption.bind fun _ => keeps_ensure.bind fun _ => keeps_ensure.bind fun _ =>
      Keeps.bind (keeps_of_touches touches_checkFinalized) fun _ => ?_
    split
    · exact keeps_ensure.bind fun _ => Keeps.bind (keeps_of_touches touches_lockExistingAttachments) fun _ =>
        keeps_ensure.bind fun _ => keeps_clock.bind fun _ => keeps_bindConfirmedUploads huploads 0
    · exact keeps_ensure.bind fun _ => keeps_exactRetry

/-- The request is made again with what its uploads were finalized as. -/
lemma fst_of_finalized {uploads : List StoredUpload} {media : List (Uuid × FinalizedObject)}
    (h : (uploads.mapM fun u => u.finalizedObject.map fun f => (u.id, f)) = some media) :
    media.map Prod.fst = uploads.map StoredUpload.id := by
  refine map_of_mapM (fun u x hx => ?_) h
  obtain ⟨f, -, rfl⟩ := Option.map_eq_some_iff.mp hx
  rfl

lemma keeps_bindAuthoritativeMessageMedia {actorId chatroomId messageId : Uuid} {uploadIds : List Uuid}
    (hmem : ∀ i ∈ uploadIds, i ∈ listed) :
    (bindAuthoritativeMessageMedia actorId chatroomId messageId uploadIds).Keeps C (Adds listed poster) := by
  refine Keeps.bind (keeps_of_touches touches_lockAuthorizedMessage) fun _ => keeps_ensure.bind fun _ =>
    ⟨fun {l g a l' g' L G} h hrows => ?_⟩
  obtain ⟨uploads, l₁, g₁, h₁, r₁⟩ := h.bind
  obtain ⟨media, l₂, g₂, h₂, r₂⟩ := r₁.bind
  have hids : media.map Prod.fst = uploadIds := (fst_of_finalized h₂.ofOption.1).trans (lockUploadsInRequestOrder_ids h₁)
  have hrows₂ := keeps_ofOption.rows h₂ ((keeps_of_touches touches_lockUploadsInRequestOrder).rows h₁ hrows)
  exact (keeps_bindMessageMedia fun i hi => hmem i (hids ▸ hi)).rows r₂ hrows₂

end Binding

section Send

open Messages Notifications

lemma keeps_recordEvent {ε₁ : Type} {eventId outboxId conversationId : Uuid} {payload : EventPayload} {e₁ e₂ : ε₁} :
    (recordEvent eventId outboxId conversationId payload e₁ e₂).Keeps C (Adds listed poster) :=
  keeps_of_free (touches_recordEvent (fun _ _ => trivial) fun _ _ => trivial)

lemma keeps_sendMessageHttp {settings : Settings} {mask : String → String} {actorId : Uuid} {input : SendMessageInput} :
    (sendMessageHttp settings mask actorId input).Keeps C (Adds input.mediaUploadIds poster) := by
  refine Keeps.bind (keeps_ensure.bind fun _ => keeps_ensure.bind fun _ => keeps_ret) fun command =>
    Keeps.bind (keeps_of_free (touches_persist fun _ _ _ => trivial)).mapError fun outcome =>
      Keeps.bind (keeps_of_touches touches_deliveryContext).mapError fun context =>
      Keeps.bind (keeps_bindAuthoritativeMessageMedia fun _ hi => hi).mapError fun attachments => ?_
  cases outcome with
  | existing message eventId => exact keeps_ret
  | created message =>
    have hrecord : ∀ {command}, (recordMessageCreated command).Keeps C (Adds input.mediaUploadIds poster) :=
      keeps_of_free (touches_recordMessageCreated (fun _ _ _ => trivial) fun _ _ _ => trivial)
    exact keeps_fresh.bind fun _ => keeps_fresh.bind fun _ => keeps_recordEvent.mapError.bind fun _ =>
      hrecord.mapError.bind fun _ => keeps_ret

end Send

section Deletion

open Messages

lemma keeps_markMediaUploadsDeleted {media : List MediaObjectRow} {deletedAt : Time} :
    (markMediaUploadsDeleted media deletedAt).Keeps C (Adds listed poster) := by
  unfold markMediaUploadsDeleted
  dsimp only
  split
  · exact keeps_ret
  · refine Keeps.bind (keeps_update fun s i base t r r' a hr hf => ?_) fun _ => keeps_ret
    split at hf
    · cases hf
      exact hr.keeps (.inl rfl) fun h => (Option.some_ne_none _ h).elim
    · cases hf

lemma keeps_removeMessage {removal : Removal} {deletedAt : Time} :
    (removeMessage removal deletedAt).Keeps C (Adds listed poster) := by
  refine Keeps.bind (keeps_of_touches touches_lockMessageMedia) fun media => ?_
  refine Keeps.bind (keeps_of_free (touches_enqueueObjectDeletions fun _ _ _ => trivial)) fun _ => ?_
  refine keeps_markMediaUploadsDeleted.bind fun _ => ?_
  refine Keeps.bind (Keeps.bind (keeps_delete fun _ _ _ _ _ _ => nofun) fun _ => keeps_ret) fun _ => ?_
  refine Keeps.bind (keeps_of_free (touches_scrubMessageRow fun _ _ _ => trivial)) fun _ => ?_
  refine Keeps.bind (keeps_of_free (touches_scrubMessageCreatedEvents fun _ _ _ => trivial)) fun events => ?_
  refine Keeps.bind (keeps_of_free (touches_scrubMessageCreatedOutbox fun _ _ _ => trivial)) fun _ => ?_
  refine Keeps.bind (keeps_of_free (touches_stopMessagePushOccurrences fun _ _ _ => trivial)) fun _ => ?_
  refine Keeps.bind (keeps_of_free (touches_hideMessageNotifications fun _ _ _ => trivial)) fun _ => ?_
  exact keeps_of_free (touches_appendMessageDeletedEvent (fun _ _ _ => trivial) fun _ _ _ => trivial)

lemma keeps_deleteMessage {actorId chatroomId messageId : Uuid} :
    (deleteMessage actorId chatroomId messageId).Keeps C (Adds listed poster) := by
  refine Keeps.bind (keeps_of_touches touches_lockLiveChatroom) fun groupId =>
    Keeps.bind (keeps_of_touches touches_requireMembership) fun _ => Keeps.bind ?_ fun deletedAt => ?_
  · refine Keeps.bind (keeps_of_touches touches_fetchLockedMessage) fun row => ?_
    split
    · split
      · exact keeps_ret
      · exact keeps_fail
    · split
      · exact keeps_fail
      · exact keeps_clock.bind fun _ => keeps_ret
  · cases deletedAt with
    | none => exact keeps_ret
    | some deletedAt => exact keeps_removeMessage

lemma keeps_moderatorDeleteMessage {messageId : Uuid} :
    (moderatorDeleteMessage messageId).Keeps C (Adds listed poster) := by
  refine keeps_select.bind fun _ => keeps_ofOption.bind fun _ => Keeps.bind (keeps_of_touches touches_lockLiveChatroom)
    fun _ => Keeps.bind (keeps_of_touches touches_fetchLockedMessage) fun row => ?_
  split
  · exact keeps_ret
  · split
    · exact keeps_ret
    · exact keeps_clock.bind fun _ => keeps_removeMessage.bind fun _ => keeps_ret

end Deletion

section TopicDeletion

open TopicDeletion

lemma keeps_lockAuthorizedTopic {command : DeleteTopicCommand} :
    (lockAuthorizedTopic command).Keeps C (Adds listed poster) := by
  refine Keeps.bind (keeps_snapshot.bind fun _ => keeps_first fun _ _ => keeps_andThen keeps_lockRow fun _ =>
    keeps_andThen keeps_lockRow fun _ => keeps_andThen keeps_lockRow fun _ => keeps_ret) fun _ =>
      keeps_ofOption.bind fun target => ?_
  split
  · split
    · exact keeps_ret
    · exact keeps_fail
  · split
    · exact keeps_fail
    · exact keeps_clock.bind fun _ => keeps_ret

lemma keeps_lockTopicMedia {messageIds : List Uuid} :
    (TopicDeletion.lockMessageMedia messageIds).Keeps C (Adds listed poster) := by
  unfold TopicDeletion.lockMessageMedia
  split
  · exact keeps_ret
  · exact keeps_snapshot.bind fun _ => keeps_collect fun _ _ => keeps_andThen keeps_lockRow fun _ => keeps_lockRow

lemma keeps_markTopicUploadsDeleted {media : List Messages.MediaObjectRow} {deletedAt : Time} :
    (TopicDeletion.markMediaUploadsDeleted media deletedAt).Keeps C (Adds listed poster) := by
  unfold TopicDeletion.markMediaUploadsDeleted
  dsimp only
  split
  · exact keeps_ret
  · refine Keeps.bind (keeps_update fun s i base t r r' a hr hf => ?_) fun _ => keeps_ret
    split at hf
    · cases hf
      exact hr.keeps (.inl rfl) fun h => (Option.some_ne_none _ h).elim
    · cases hf

lemma keeps_deleteTopicMedia {messageIds : List Uuid} :
    (TopicDeletion.deleteMessageMedia messageIds).Keeps C (Adds listed poster) := by
  unfold TopicDeletion.deleteMessageMedia
  split
  · exact keeps_ret
  · exact Keeps.bind (keeps_delete fun _ _ _ _ _ _ _ h => (Option.some_ne_none _ h.symm).elim) fun _ => keeps_ret

lemma keeps_updateOutbox {eventIds : List Uuid} {isType : OutboxPayload → Bool} {f : OutboxPayload → OutboxPayload}
    {error : Topics.TopicsRepositoryError} : (updateOutbox eventIds isType f error).Keeps C (Adds listed poster) := by
  unfold updateOutbox
  dsimp only
  split
  · exact keeps_ret
  · exact Keeps.bind (keeps_update fun _ _ _ _ _ _ _ _ _ => trivial) fun _ => keeps_ret

lemma keeps_scrubTopicMessages {messageIds : List Uuid} {deletedAt : Time} :
    (scrubMessages messageIds deletedAt).Keeps C (Adds listed poster) := by
  unfold scrubMessages
  split
  · exact keeps_ret
  · exact Keeps.bind (keeps_update fun _ _ _ _ _ _ _ _ _ => trivial) fun _ => keeps_ret

lemma keeps_scrubTopicMessageEvents {messageIds : List Uuid} :
    (TopicDeletion.scrubMessageCreatedEvents messageIds).Keeps C (Adds listed poster) := by
  unfold TopicDeletion.scrubMessageCreatedEvents
  dsimp only
  split
  · exact keeps_ret
  · exact keeps_update fun _ _ _ _ _ _ _ _ _ => trivial

lemma keeps_removeTopic {command : DeleteTopicCommand} {target : TopicTarget} {deletedAt : Time} :
    (removeTopic command target deletedAt).Keeps C (Adds listed poster) := by
  refine Keeps.bind keeps_selectFor fun announcementIds => Keeps.bind keeps_selectFor fun _ =>
    keeps_lockTopicMedia.bind fun media => Keeps.bind ?_ fun _ => keeps_markTopicUploadsDeleted.bind fun _ =>
      keeps_deleteTopicMedia.bind fun _ => keeps_scrubTopicMessages.bind fun _ =>
        keeps_scrubTopicMessageEvents.bind fun events => Keeps.bind keeps_updateOutbox fun _ => Keeps.bind ?_ fun topicEvents =>
          Keeps.bind keeps_updateOutbox fun _ => Keeps.bind ?_ fun _ => Keeps.bind ?_ fun _ => Keeps.bind ?_ fun _ =>
            Keeps.bind ?_ fun _ => Keeps.bind ?_ fun _ => ?_
  · exact keeps_each fun _ _ => keeps_fresh.bind fun _ => keeps_clock.bind fun _ =>
      Keeps.bind (keeps_insertOrSkip fun _ _ => trivial) fun _ => keeps_ret
  · exact keeps_update fun _ _ _ _ _ _ _ _ _ => trivial
  · exact Keeps.bind (keeps_update fun _ _ _ _ _ _ _ _ _ => trivial) fun _ => keeps_ret
  · exact Keeps.bind (keeps_update fun _ _ _ _ _ _ _ _ _ => trivial) fun _ => keeps_ret
  · exact Keeps.bind (keeps_update fun _ _ _ _ _ _ _ _ _ => trivial) fun _ =>
      Keeps.bind (keeps_update fun _ _ _ _ _ _ _ _ _ => trivial) fun _ => keeps_ret
  · exact Keeps.bind (keeps_update fun _ _ _ _ _ _ _ _ _ => trivial) fun _ =>
      Keeps.bind (keeps_update fun _ _ _ _ _ _ _ _ _ => trivial) fun _ => keeps_ret
  · exact keeps_each fun _ _ => keeps_fresh.bind fun _ => keeps_fresh.bind fun _ => keeps_recordEvent.bind fun _ => keeps_ret
  · exact keeps_fresh.bind fun _ => keeps_fresh.bind fun _ => keeps_recordEvent.bind fun _ => keeps_ret

lemma keeps_deleteTopic {command : DeleteTopicCommand} : (deleteTopic command).Keeps C (Adds listed poster) := by
  refine Keeps.bind (keeps_selectFor.bind fun _ => keeps_ensure.bind fun _ => keeps_selectFor.bind fun _ => keeps_ensure)
    fun _ => keeps_lockAuthorizedTopic.bind fun found => ?_
  cases found with
  | none => exact keeps_ret
  | some x => exact keeps_removeTopic

end TopicDeletion

section Purge

open AccountDeletion AccountPurge
open Purge (touches_deleteAccountOccurrences touches_scrubRetainedNotificationProfiles touches_scrubRetainedPayloads
  touches_enqueueObjectDeletion touches_enqueueAndDeleteAvatarUploads)

variable {userId tombstoneUserId : Uuid}

lemma keeps_reassignRetainedAuthorship :
    (reassignRetainedAuthorship userId tombstoneUserId).Keeps C (Adds listed poster) := by
  refine Keeps.bind (keeps_update fun _ _ _ _ _ _ _ _ _ => trivial) fun _ => ?_
  refine Keeps.bind (keeps_change nofun fun _ _ _ _ _ _ _ _ _ => trivial) fun _ => ?_
  refine Keeps.bind (keeps_update fun s i base t r r' a hr hf => ?_) fun _ => ?_
  · split at hf
    · cases hf
      exact hr.keeps (.inl rfl) id
    · cases hf
  · exact Keeps.bind (keeps_update fun _ _ _ _ _ _ _ _ _ => trivial) fun _ =>
      Keeps.bind (keeps_update fun _ _ _ _ _ _ _ _ _ => trivial) fun _ => keeps_ret

lemma keeps_enqueueAndDeleteUnboundUploads :
    (enqueueAndDeleteUnboundUploads userId).Keeps C (Adds listed poster) := by
  refine keeps_selectFor.bind fun uploads => Keeps.bind (keeps_collect fun _ _ =>
    keeps_of_free (touches_enqueueObjectDeletion fun _ _ _ => trivial)) fun enqueued => ?_
  dsimp only
  split
  · exact keeps_ret
  · exact Keeps.bind (keeps_delete fun _ _ _ _ _ _ _ h => (Option.some_ne_none _ h.symm).elim) fun _ => keeps_ensure.bind fun _ => keeps_ret

lemma keeps_deletePrivateAccountRows : (deletePrivateAccountRows userId).Keeps C (Adds listed poster) := by
  refine Keeps.bind (keeps_delete fun _ _ _ _ _ _ => trivial) fun _ => ?_
  refine Keeps.bind (keeps_delete fun _ _ _ _ _ _ => trivial) fun _ => ?_
  refine Keeps.bind (keeps_delete fun _ _ _ _ _ _ => trivial) fun _ => ?_
  refine Keeps.bind (keeps_delete fun _ _ _ _ _ _ => trivial) fun _ => ?_
  refine Keeps.bind (keeps_delete fun _ _ _ _ _ _ => trivial) fun _ => ?_
  refine Keeps.bind (keeps_delete fun _ _ _ _ _ _ => trivial) fun _ => ?_
  refine Keeps.bind (keeps_delete fun _ _ _ _ _ _ => trivial) fun _ => ?_
  refine Keeps.bind (keeps_delete fun _ _ _ _ _ _ => trivial) fun _ => ?_
  exact Keeps.bind (keeps_delete fun _ _ _ _ _ _ => trivial) fun _ => keeps_ensure

lemma keeps_finalizeDeletion : (finalizeDeletion userId).Keeps C (Adds listed poster) := by
  refine Keeps.bind (keeps_selectFor.bind fun _ => keeps_ensure) fun _ => keeps_fresh.bind fun _ => ?_
  refine Keeps.bind (keeps_clock.bind fun _ => Keeps.bind (keeps_insertRow fun _ _ => trivial) fun _ =>
    keeps_clock.bind fun _ => keeps_insertRow fun _ _ => trivial) fun _ => ?_
  refine Keeps.bind (keeps_of_free (touches_deleteAccountOccurrences fun _ _ _ => trivial)) fun _ => ?_
  refine keeps_reassignRetainedAuthorship.bind fun _ => ?_
  refine Keeps.bind (keeps_of_free (touches_scrubRetainedNotificationProfiles fun _ _ _ => trivial)) fun _ => ?_
  refine Keeps.bind (keeps_of_free (touches_scrubRetainedPayloads (fun _ _ _ => trivial) fun _ _ _ => trivial)) fun _ => ?_
  refine Keeps.bind (Keeps.bind (keeps_update fun _ _ _ _ _ _ _ _ _ => trivial) fun _ => keeps_ret) fun _ => ?_
  refine Keeps.bind (Keeps.bind (keeps_delete fun _ _ _ _ _ _ => trivial) fun _ => keeps_ret) fun _ => ?_
  refine Keeps.bind (keeps_select.bind fun _ => keeps_ensure) fun _ => ?_
  refine keeps_enqueueAndDeleteUnboundUploads.bind fun _ => ?_
  refine Keeps.bind (keeps_of_free (touches_enqueueAndDeleteAvatarUploads (fun _ _ _ => trivial) fun _ _ _ => trivial))
    fun _ => ?_
  exact keeps_deletePrivateAccountRows.bind fun _ => keeps_ret

end Purge

section Programs

/-- A transaction adds attachments only of the uploads that it lists, and links only the poster that it is given. -/
lemma keeps_program {settings : Settings} {mask : String → String} (job : Job) :
    (program settings mask job).Keeps C (Adds job.listed job.poster) := by
  cases job with
  | createUpload => exact keeps_createUpload.mapError.bind fun _ => keeps_ret
  | prepareFinalize => exact keeps_prepareUploadFinalize.mapError.bind fun _ => keeps_ret
  | finalize => exact keeps_finalizeUpload.mapError.bind fun _ => keeps_ret
  | send => exact keeps_sendMessageHttp.mapError.bind fun _ => keeps_ret
  | deleteMessage => exact keeps_deleteMessage.mapError.bind fun _ => keeps_ret
  | moderatorDelete => exact keeps_moderatorDeleteMessage.mapError.bind fun _ => keeps_ret
  | deleteTopic => exact keeps_deleteTopic.mapError.bind fun _ => keeps_ret
  | purge => exact keeps_finalizeDeletion.mapError.bind fun _ => keeps_ret

end Programs

end JamyeServer.Attachments
