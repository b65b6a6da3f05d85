import JamyeServer.Objects.Removal

/-!
# The deletions of messages and topics

Both take the same statements on uploads, attachments and intents; what they do besides is about other tables.
-/

namespace JamyeServer.Objects

open ReadCommitted Postgres Media Messages Prog Rooms

variable {settings : Settings} {mask : String → String} {publicBaseUrl : String} {ticks : Time → Time → Bool}
  {l l' L : Local} {g g' G : Shared} {ε α : Type}

section Apart

/-- A transaction that leaves uploads, attachments, avatars and intents as they are. -/
lemma ok_of_apart {e : Entry} (hrows : ∀ k, ¬ Apart k → (G.view e.ran).get k = G.db.get k) (hown : OwnIntents e.ran) :
    Ok e G where
  uploads i := by
    rw [hrows (.mediaUploads i) id]
    exact .same _
  avatars i := by
    rw [hrows (.userAvatarUploads i) id]
    exact .same _
  newUploads i hnone hsome := by
    rw [hrows (.mediaUploads i) id] at hsome
    exact (hsome hnone).elim
  newAvatars i hnone hsome := by
    rw [hrows (.userAvatarUploads i) id] at hsome
    exact (hsome hnone).elim
  attachments m row hrow := by
    rw [hrows (.messageMedia m) id] at hrow
    exact .inl hrow
  ownIntents := hown
  intents j x hx := by
    rw [hrows (.accountObjectDeletionIntents j) id]
    exact hx
  discards j x hx := by
    rw [hrows (.accountObjectDeletionIntents j) id] at hx
    exact .inl hx
  detached i b hb hlive hdiscarded := by
    rw [hrows (.mediaUploads i) id] at hdiscarded
    exact (hdiscarded b hb hlive).elim
  uploadIntents i b hb hlive hdiscarded := by
    rw [hrows (.mediaUploads i) id] at hdiscarded
    exact (hdiscarded b hb hlive).elim
  avatarIntents i b hb hlive hreleased := by
    rw [hrows (.userAvatarUploads i) id] at hreleased
    exact (hlive (hreleased b hb)).elim

lemma ownIntents_nil (hw : l.writes = []) : OwnIntents l := by
  intro w hmem
  rw [hw] at hmem
  cases hmem

lemma ok_of_touches {e : Entry} {p : Sql ε α} {r : Except ε α} (hw : l.writes = [])
    (h : Runs (contract settings mask publicBaseUrl ticks) p l g r e.ran g' L G) (hp : p.Touches Apart) : Ok e G := by
  refine ok_of_apart (fun k hk => ?_) ((ownIntents_nil hw).of_touches h hp fun j => id)
  rw [Shared.view, h.get_of_touches hp hk, hw, Store.apply_nil]

end Apart

section Messages

lemma Marks.nil : Marks [] l l g G :=
  ⟨id, fun _ _ _ => rfl, fun _ => .inl rfl, fun _ h => (List.not_mem_nil h).elim⟩

lemma marks_ofMessage {media : List MediaObjectRow} {deletedAt : Time} {u : Unit}
    (h : Runs (contract settings mask publicBaseUrl ticks) (Messages.markMediaUploadsDeleted media deletedAt) l g (.ok u) l' g' L G) :
    Marks (media.flatMap MediaObjectRow.uploadIds) l l' g G := by
  unfold Messages.markMediaUploadsDeleted at h
  dsimp only at h
  split at h
  · rename_i hempty
    obtain ⟨-, rfl⟩ := h.ret
    rw [List.isEmpty_iff.mp hempty]
    exact .nil
  · obtain ⟨as, l₁, g₁, h₁, r₁⟩ := h.bind
    obtain ⟨-, rfl⟩ := r₁.ret
    exact marks_update h₁

lemma touches_afterRemoval {removal : Removal} {deletedAt : Time} : (do
    scrubMessageRow removal.messageId deletedAt
    let createdEvents ← Messages.scrubMessageCreatedEvents removal
    Messages.scrubMessageCreatedOutbox createdEvents
    stopMessagePushOccurrences removal.messageId deletedAt
    hideMessageNotifications removal.chatroomId createdEvents deletedAt
    Messages.appendMessageDeletedEvent removal deletedAt).Touches Apart := by
  refine (touches_scrubMessageRow fun _ => trivial).bind fun _ => ?_
  refine (touches_scrubMessageCreatedEvents fun _ => trivial).bind fun events => ?_
  refine (touches_scrubMessageCreatedOutbox fun _ => trivial).bind fun _ => ?_
  refine (touches_stopMessagePushOccurrences fun _ => trivial).bind fun _ => ?_
  refine (touches_hideMessageNotifications fun _ => trivial).bind fun _ => ?_
  exact touches_appendMessageDeletedEvent (fun _ => trivial) fun _ => trivial

lemma removes_removeMessage {removal : Removal} {deletedAt : Time} {u : Unit}
    (h : Runs (contract settings mask publicBaseUrl ticks) (removeMessage removal deletedAt) l g (.ok u) l' g' L G)
    (hw : l.writes = []) (hg : History (contract settings mask publicBaseUrl ticks) g) (hl : Coherent index l g) :
    ∃ objs, Removes (· = removal.messageId) objs l' G := by
  have hG := h.evolve.later.history hg
  unfold removeMessage at h
  obtain ⟨media, l₁, g₁, h₁, r₁⟩ := h.bind
  obtain ⟨_, l₂, g₂, h₂, r₂⟩ := r₁.bind
  obtain ⟨_, l₃, g₃, h₃, r₃⟩ := r₂.bind
  obtain ⟨_, l₄, g₄, h₄, r₄⟩ := r₃.bind
  have hw₁ := (h₁.writes_eq touches_lockMessageMedia).trans hw
  obtain ⟨n, hn, hcollected⟩ := collected_ofMessage h₁ hw hG
  have henqueues := enqueues_objects h₂ (h₁.returns.evolve.later.history hg) (h₁.returns.evolve.coherent hl)
    (ownIntents_nil hw₁)
  have hdetaches : Detaches (· = removal.messageId) l₃ l₄ g₃ G := by
    obtain ⟨as, l₅, g₅, h₅, r₅⟩ := h₄.bind
    obtain ⟨-, rfl⟩ := r₅.ret
    exact detaches_delete h₅
  exact ⟨_, removes_of_statements hG hw₁ (Nat.le_trans hn h₂.returns.evolve.later.csn_le) hcollected henqueues
    (fun _ => mem_objectKeys) (marks_ofMessage h₃) (fun _ => mem_uploadIds) hdetaches
    h₃.returns.evolve.later.csn_le (fun hown => hown.of_touches r₄ touches_afterRemoval fun _ => id)
    fun s k hk => r₄.get_of_touches touches_afterRemoval hk s⟩

lemma touches_lockOwnMessage {actorId chatroomId messageId : Uuid} {P : Key → Prop} :
    (Messages.lockAuthorizedMessage actorId chatroomId messageId).Touches P := by
  refine touches_fetchLockedMessage.bind fun row => ?_
  split
  · split <;> trivial
  · split
    · trivial
    · exact ⟨trivial, fun _ => trivial⟩

lemma ok_deleteMessage {e : Entry} {actorId chatroomId messageId : Uuid} {u : Unit}
    (h : Runs (contract settings mask publicBaseUrl ticks) (deleteMessage actorId chatroomId messageId) l g (.ok u) e.ran g' L G)
    (hw : l.writes = []) (hg : History (contract settings mask publicBaseUrl ticks) g) (hl : Coherent index l g) : Ok e G := by
  unfold deleteMessage at h
  obtain ⟨groupId, l₁, g₁, h₁, r₁⟩ := h.bind
  obtain ⟨_, l₂, g₂, h₂, r₂⟩ := r₁.bind
  obtain ⟨deletedAt, l₃, g₃, h₃, r₃⟩ := r₂.bind
  have hw₃ : l₃.writes = [] := by
    rw [h₃.writes_eq touches_lockOwnMessage, h₂.writes_eq touches_requireMembership,
      h₁.writes_eq touches_lockLiveChatroom, hw]
  have hevolve := (h₁.returns.evolve.trans h₂.returns.evolve).trans h₃.returns.evolve
  cases deletedAt with
  | none => exact ok_of_touches hw₃ r₃ trivial
  | some deletedAt =>
    obtain ⟨objs, hremoves⟩ := removes_removeMessage r₃ hw₃ (hevolve.later.history hg) (hevolve.coherent hl)
    exact hremoves.ok (h.evolve.later.history hg)

lemma ok_moderatorDeleteMessage {e : Entry} {messageId : Uuid} {outcome : ModeratorDeleteOutcome}
    (h : Runs (contract settings mask publicBaseUrl ticks) (moderatorDeleteMessage messageId) l g (.ok outcome) e.ran g' L G)
    (hw : l.writes = []) (hg : History (contract settings mask publicBaseUrl ticks) g) (hl : Coherent index l g) : Ok e G := by
  unfold moderatorDeleteMessage at h
  obtain ⟨found, l₁, g₁, h₁, r₁⟩ := h.bind
  obtain ⟨chatroomId, l₂, g₂, h₂, r₂⟩ := r₁.bind
  obtain ⟨groupId, l₃, g₃, h₃, r₃⟩ := r₂.bind
  obtain ⟨row, l₄, g₄, h₄, r₄⟩ := r₃.bind
  have hw₄ : l₄.writes = [] := by
    rw [h₄.writes_eq touches_fetchLockedMessage, h₃.writes_eq touches_lockLiveChatroom]
    obtain ⟨-, rfl⟩ := h₂.ofOption
    rw [h₁.writes_eq touches_select, hw]
  have hevolve := ((h₁.returns.evolve.trans h₂.returns.evolve).trans h₃.returns.evolve).trans h₄.returns.evolve
  split at r₄
  · exact ok_of_touches hw₄ r₄ trivial
  · split at r₄
    · exact ok_of_touches hw₄ r₄ trivial
    · obtain ⟨now, l₅, g₅, h₅, r₅⟩ := r₄.bind
      obtain ⟨_, l₆, g₆, h₆, r₆⟩ := r₅.bind
      obtain ⟨rfl, -⟩ := h₅.clock
      obtain ⟨-, heq⟩ := r₆.ret
      have hevolve' := hevolve.trans h₅.returns.evolve
      obtain ⟨objs, hremoves⟩ := removes_removeMessage h₆ hw₄ (hevolve'.later.history hg) (hevolve'.coherent hl)
      rw [← heq] at hremoves
      exact hremoves.ok (h.evolve.later.history hg)

end Messages

section Topics

open TopicDeletion

lemma marks_ofTopic {media : List MediaObjectRow} {deletedAt : Time} {u : Unit}
    (h : Runs (contract settings mask publicBaseUrl ticks) (TopicDeletion.markMediaUploadsDeleted media deletedAt) l g (.ok u) l' g' L G) :
    Marks (media.flatMap MediaObjectRow.uploadIds) l l' g G := by
  unfold TopicDeletion.markMediaUploadsDeleted at h
  dsimp only at h
  split at h
  · rename_i hempty
    obtain ⟨-, rfl⟩ := h.ret
    rw [List.isEmpty_iff.mp hempty]
    exact .nil
  · obtain ⟨as, l₁, g₁, h₁, r₁⟩ := h.bind
    obtain ⟨-, rfl⟩ := r₁.ret
    exact marks_update h₁

lemma detaches_ofTopic {messageIds : List Uuid} {u : Unit}
    (h : Runs (contract settings mask publicBaseUrl ticks) (TopicDeletion.deleteMessageMedia messageIds) l g (.ok u) l' g' L G) :
    Detaches (· ∈ messageIds) l l' g G := by
  have hg : g.csn ≤ G.csn := h.evolve.later.csn_le
  unfold TopicDeletion.deleteMessageMedia at h
  split at h
  · rename_i hempty
    obtain ⟨-, rfl⟩ := h.ret
    obtain rfl := List.isEmpty_iff.mp hempty
    exact ⟨id, fun _ _ _ => rfl, fun _ _ => id, g.csn, Nat.le_refl _, hg, fun _ _ _ h => (List.not_mem_nil h).elim⟩
  · obtain ⟨as, l₁, g₁, h₁, r₁⟩ := h.bind
    obtain ⟨-, rfl⟩ := r₁.ret
    exact detaches_delete h₁

lemma touches_updateOutbox {eventIds : List Uuid} {isType : OutboxPayload → Bool} {f : OutboxPayload → OutboxPayload}
    {error : Topics.TopicsRepositoryError} : (updateOutbox eventIds isType f error).Touches Apart := by
  unfold updateOutbox
  dsimp only
  split
  · trivial
  · exact (touches_change fun _ => trivial).bind fun _ => trivial

lemma touches_scrubMessages {messageIds : List Uuid} {deletedAt : Time} : (scrubMessages messageIds deletedAt).Touches Apart := by
  unfold scrubMessages
  split
  · trivial
  · exact (touches_change fun _ => trivial).bind fun _ => trivial

lemma touches_scrubEvents {messageIds : List Uuid} :
    (TopicDeletion.scrubMessageCreatedEvents messageIds).Touches Apart := by
  unfold TopicDeletion.scrubMessageCreatedEvents
  dsimp only
  split
  · trivial
  · exact touches_change fun _ => trivial

lemma touches_afterTopicRemoval {command : DeleteTopicCommand} {target : TopicTarget} {deletedAt : Time}
    {messageIds announcementIds : List Uuid} : (do
    scrubMessages messageIds deletedAt
    let messageEvents ← TopicDeletion.scrubMessageCreatedEvents messageIds
    TopicDeletion.scrubMessageCreatedOutbox messageEvents
    let topicEvents ← scrubTopicCreatedEvents command.topicId target.topicChatroomId
    scrubTopicCreatedOutbox topicEvents
    stopPushOccurrences messageIds topicEvents deletedAt
    hideNotifications command.topicId target messageEvents deletedAt
    deleteTopicSideTables command.topicId target.topicChatroomId
    scrubTopicRowAndChatroom command.topicId target.topicChatroomId deletedAt
    each (TopicDeletion.appendMessageDeletedEvent command target.mainChatroomId deletedAt) announcementIds
    appendTopicDeletedEvent command target announcementIds.head? deletedAt).Touches Apart := by
  refine touches_scrubMessages.bind fun _ => touches_scrubEvents.bind fun _ => touches_updateOutbox.bind fun _ => ?_
  refine Touches.bind (touches_change fun _ => trivial) fun _ => touches_updateOutbox.bind fun _ => ?_
  refine Touches.bind ((touches_change fun _ => trivial).bind fun _ => trivial) fun _ => ?_
  refine Touches.bind ((touches_change fun _ => trivial).bind fun _ => trivial) fun _ => ?_
  refine Touches.bind ((touches_change fun _ => trivial).bind fun _ => (touches_change fun _ => trivial).bind fun _ => trivial)
    fun _ => ?_
  refine Touches.bind ((touches_change fun _ => trivial).bind fun _ => (touches_change fun _ => trivial).bind fun _ => trivial)
    fun _ => ?_
  refine Touches.bind (touches_each fun _ _ => ⟨trivial, fun _ => ⟨trivial, fun _ => ?_⟩⟩) fun _ =>
    ⟨trivial, fun _ => ⟨trivial, fun _ => ?_⟩⟩
  · exact (touches_recordEvent trivial trivial).bind fun _ => trivial
  · exact (touches_recordEvent trivial trivial).bind fun _ => trivial

lemma touches_lockTopicMedia {messageIds : List Uuid} {P : Key → Prop} :
    (TopicDeletion.lockMessageMedia messageIds).Touches P := by
  unfold TopicDeletion.lockMessageMedia
  split
  · trivial
  · exact ⟨trivial, fun _ => touches_collect fun _ _ => touches_andThen touches_lockRow fun _ => touches_lockRow⟩

lemma removes_removeTopic {command : DeleteTopicCommand} {target : TopicTarget} {deletedAt : Time} {u : Unit}
    (h : Runs (contract settings mask publicBaseUrl ticks) (removeTopic command target deletedAt) l g (.ok u) l' g' L G)
    (hw : l.writes = []) (hg : History (contract settings mask publicBaseUrl ticks) g) (hl : Coherent index l g) :
    ∃ ofMessage objs, Removes ofMessage objs l' G := by
  have hG := h.evolve.later.history hg
  unfold removeTopic at h
  obtain ⟨announcementIds, l₁, g₁, h₁, r₁⟩ := h.bind
  obtain ⟨topicMessageIds, l₂, g₂, h₂, r₂⟩ := r₁.bind
  obtain ⟨media, l₃, g₃, h₃, r₃⟩ := r₂.bind
  obtain ⟨_, l₄, g₄, h₄, r₄⟩ := r₃.bind
  obtain ⟨_, l₅, g₅, h₅, r₅⟩ := r₄.bind
  obtain ⟨_, l₆, g₆, h₆, r₆⟩ := r₅.bind
  have hw₂ : l₂.writes = [] := by rw [h₂.writes_eq touches_selectFor, h₁.writes_eq touches_selectFor, hw]
  have hw₃ := (h₃.writes_eq touches_lockTopicMedia).trans hw₂
  obtain ⟨n, hn, hcollected⟩ := collected_ofTopic h₃ hw₂ hG
  have hevolve := (h₁.returns.evolve.trans h₂.returns.evolve).trans h₃.returns.evolve
  have henqueues := enqueues_objects h₄ (hevolve.later.history hg) (hevolve.coherent hl) (ownIntents_nil hw₃)
  exact ⟨_, _, removes_of_statements hG hw₃ (Nat.le_trans hn h₄.returns.evolve.later.csn_le) hcollected henqueues
    (fun _ => mem_objectKeys) (marks_ofTopic h₅) (fun _ => mem_uploadIds) (detaches_ofTopic h₆)
    h₅.returns.evolve.later.csn_le (fun hown => hown.of_touches r₆ touches_afterTopicRemoval fun _ => id)
    fun s k hk => r₆.get_of_touches touches_afterTopicRemoval hk s⟩

lemma touches_lockAuthorizedTopic {command : DeleteTopicCommand} {P : Key → Prop} :
    (lockAuthorizedTopic command).Touches P := by
  refine Touches.bind ⟨trivial, fun _ => touches_first fun _ _ => touches_andThen touches_lockRow fun _ =>
    touches_andThen touches_lockRow fun _ => touches_andThen touches_lockRow fun _ => trivial⟩ fun _ =>
      touches_ofOption.bind fun target => ?_
  split
  · split <;> trivial
  · split
    · trivial
    · exact ⟨trivial, fun _ => trivial⟩

lemma touches_lockGroupAndMembership {groupId actorId : Uuid} {P : Key → Prop} :
    (lockGroupAndMembership groupId actorId).Touches P :=
  touches_selectFor.bind fun _ => touches_ensure.bind fun _ => touches_selectFor.bind fun _ => touches_ensure

lemma ok_deleteTopic {e : Entry} {command : DeleteTopicCommand} {u : Unit}
    (h : Runs (contract settings mask publicBaseUrl ticks) (deleteTopic command) l g (.ok u) e.ran g' L G)
    (hw : l.writes = []) (hg : History (contract settings mask publicBaseUrl ticks) g) (hl : Coherent index l g) : Ok e G := by
  unfold deleteTopic at h
  obtain ⟨_, l₁, g₁, h₁, r₁⟩ := h.bind
  obtain ⟨found, l₂, g₂, h₂, r₂⟩ := r₁.bind
  have hw₂ : l₂.writes = [] := by
    rw [h₂.writes_eq touches_lockAuthorizedTopic, h₁.writes_eq touches_lockGroupAndMembership, hw]
  have hevolve := h₁.returns.evolve.trans h₂.returns.evolve
  cases found with
  | none => exact ok_of_touches hw₂ r₂ trivial
  | some x =>
    obtain ⟨ofMessage, objs, hremoves⟩ := removes_removeTopic r₂ hw₂ (hevolve.later.history hg) (hevolve.coherent hl)
    exact hremoves.ok (h.evolve.later.history hg)

end Topics

end JamyeServer.Objects
