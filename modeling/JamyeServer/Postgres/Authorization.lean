import JamyeServer.Postgres.Installations
import JamyeServer.Postgres.Rooms
import JamyeServer.ReadCommitted.Alone

/-!
# The authorization of a push delivery

`authorize_send` of `adapters/postgres/push/authorization.rs`. A worker that has claimed an occurrence asks whether it
may still be sent: the occurrence, its notification and its conversation are live, the recipient is still a member,
the device is still the recipient's and the source message is not deleted.
-/

namespace JamyeServer.Postgres.Push

open ReadCommitted Prog Rooms

structure DeliveryTopology where
  groupId : Uuid
  recipientId : Uuid
  notificationId : Uuid
  installationId : Uuid
  conversationId : Uuid
  deriving DecidableEq, Repr

structure PushTapPayload where
  notificationType : NotificationType
  notificationId : Uuid
  conversationId : Uuid
  messageId : Option Uuid
  deriving DecidableEq, Repr

structure AuthorizedPushDelivery where
  occurrenceId : Uuid
  route : PushTapPayload
  destination : ExpoPushDestination
  previewMessageId : Option Uuid
  deriving DecidableEq, Repr

section Tests

/-- The joined rows of a live occurrence. -/
def deliveryTopology (s : Store Row) (occurrenceId : Uuid) : Option DeliveryTopology := do
  let intent ← (s.get (.pushDeliveryIntents occurrenceId)).filter fun r => r.deletedAt.isNone
  let notificationId ← intent.notificationId
  let notification ← (s.get (.notifications notificationId)).filter fun r => r.deletedAt.isNone
  let conversationId ← notification.conversationId
  let conversation ← (s.get (.chatrooms conversationId)).filter fun r => r.deletedAt.isNone && topicLive s r
  some ⟨conversation.groupId, intent.recipientUserId, notificationId, intent.pushInstallationId, conversationId⟩

/-- The live notification is the recipient's and of the conversation. -/
def DeliveryTopology.fitsNotification (topology : DeliveryTopology) (r : Notification) : Bool :=
  r.deletedAt.isNone && decide (r.userId = topology.recipientId) &&
    decide (r.conversationId = some topology.conversationId)

/-- The live device is the recipient's and enabled. -/
def DeliveryTopology.fitsInstallation (topology : DeliveryTopology) (r : PushInstallation) : Bool :=
  r.deletedAt.isNone && decide (r.userId = topology.recipientId) && r.disabledAt.isNone

/-- The live occurrence is the one of the topology, for the owner that the device had then. -/
def DeliveryTopology.fitsOccurrence (topology : DeliveryTopology) (ownerEpoch : Nat) (r : PushDeliveryIntent) : Bool :=
  r.deletedAt.isNone && decide (r.notificationId = some topology.notificationId) &&
    decide (r.recipientUserId = topology.recipientId) && decide (r.pushInstallationId = topology.installationId) &&
    decide (r.installationOwnerEpoch = ownerEpoch)

/-- The lease of the claim is running. -/
def PushDeliveryClaim.holds (claim : PushDeliveryClaim) (now : Time) (r : PushDeliveryIntent) : Bool :=
  decide (r.status = .claimed) && decide (r.claimOwner = some claim.claimOwner) &&
    decide ((r.claimGeneration : Int) = claim.claimGeneration) && r.leaseExpiresAt.any fun t => decide (now < t)

def messageLive (s : Store Row) (sourceMessageId : Option Uuid) : Bool :=
  sourceMessageId.all fun m => (s.get (.messages m)).any fun r => r.deletedAt.isNone

def validRouteShape : NotificationType → Option Uuid → Bool
  | .newTopic, none | .chatUnread, some _ | .other, _ => true
  | _, _ => false

def liveGroup (s : Store Row) (groupId : Uuid) : Bool := (s.get (.groups groupId)).any fun r => r.deletedAt.isNone

def memberships (s : Store Row) (groupId userId : Uuid) : List Uuid :=
  s.ids Tables.memberships fun _ r => decide (r.groupId = groupId) && decide (r.userId = userId) && r.deletedAt.isNone

end Tests

section Program

def lockMembership (groupId recipientId : Uuid) : Sql PushRepositoryError Bool := do
  let rows ← selectFor .share Tables.memberships (fun s => memberships s groupId recipientId)
    (fun _ i _ r => if r.groupId = groupId ∧ r.userId = recipientId ∧ r.deletedAt = none then some i else none)
  ret (!rows.isEmpty)

def lockNotification (topology : DeliveryTopology) : Sql PushRepositoryError (Option NotificationType) :=
  lockRow .share (.notifications topology.notificationId) fun _ r =>
    if topology.fitsNotification r then some r.type else none

def lockInstallation (topology : DeliveryTopology) : Sql PushRepositoryError (Option PushInstallation) := do
  let found ← lockRow .share (.pushInstallations topology.installationId) fun _ r =>
    if topology.fitsInstallation r then some r else none
  match found with
  | none => ret none
  | some r => do
    ensure (0 < r.ownerEpoch) .invalidData
    ret (some r)

def lockOccurrence (claim : PushDeliveryClaim) (topology : DeliveryTopology) (ownerEpoch : Nat) :
    Sql PushRepositoryError (Option PushDeliveryIntent) := do
  let found ← lockRow .update (.pushDeliveryIntents claim.occurrenceId) fun now r =>
    if topology.fitsOccurrence ownerEpoch r && claim.holds now r then some r else none
  match found with
  | none => ret none
  | some r => do
    let live ← select fun s => messageLive s r.sourceMessageId
    ret (if live then some r else none)

def authorizedDelivery (claim : PushDeliveryClaim) (topology : DeliveryTopology) (type : NotificationType)
    (installation : PushInstallation) (occurrence : PushDeliveryIntent) : AuthorizedPushDelivery :=
  ⟨claim.occurrenceId, ⟨type, topology.notificationId, topology.conversationId, occurrence.sourceMessageId⟩,
    ⟨installation.environment, installation.token⟩,
    if installation.messagePreviewEnabled && occurrence.messagePreviewEnabledSnapshot then occurrence.sourceMessageId
    else none⟩

/-- The notification, the device and the occurrence are locked in this order. -/
def lockDelivery (claim : PushDeliveryClaim) (topology : DeliveryTopology) :
    Sql PushRepositoryError (Option AuthorizedPushDelivery) :=
  andThen (lockNotification topology) fun type =>
  andThen (lockInstallation topology) fun installation =>
  andThen (lockOccurrence claim topology installation.ownerEpoch) fun occurrence => do
    ensure (validRouteShape type occurrence.sourceMessageId) .invalidData
    ret (some (authorizedDelivery claim topology type installation occurrence))

def authorizeSend (claim : PushDeliveryClaim) : Sql PushRepositoryError (Option AuthorizedPushDelivery) := do
  ensure (validateClaim claim) .invalidData
  let found ← select fun s => deliveryTopology s claim.occurrenceId
  match found with
  | none => ret none
  | some topology => do
    let group ← lockRow .share (.groups topology.groupId) fun _ r => if r.deletedAt = none then some () else none
    match group with
    | none => ret none
    | some () => do
      let member ← lockMembership topology.groupId topology.recipientId
      if member = false then ret none else lockDelivery claim topology

end Program

/-- The rows that the topology names may be sent. -/
def DeliveryTopology.deliverable (topology : DeliveryTopology) (s : Store Row) (occurrenceId : Uuid) : Bool :=
  (s.get (.notifications topology.notificationId)).any fun n => topology.fitsNotification n &&
    (s.get (.pushInstallations topology.installationId)).any fun d => topology.fitsInstallation d && decide (0 < d.ownerEpoch) &&
    (s.get (.pushDeliveryIntents occurrenceId)).any fun r => topology.fitsOccurrence d.ownerEpoch r &&
      messageLive s r.sourceMessageId && validRouteShape n.type r.sourceMessageId

/-- What the worker asks of the rows, whoever has claimed the occurrence. -/
def authorizable (s : Store Row) (occurrenceId : Uuid) : Bool :=
  (deliveryTopology s occurrenceId).any fun topology =>
    liveGroup s topology.groupId && !(memberships s topology.groupId topology.recipientId).isEmpty &&
    topology.deliverable s occurrenceId

/-- The rows that are joined. -/
structure DeliveryTopology.Joins (topology : DeliveryTopology) (s : Store Row) (occurrenceId : Uuid) (o : PushDeliveryIntent)
    (n : Notification) (c : Chatroom) : Prop where
  intent : s.get (.pushDeliveryIntents occurrenceId) = some o
  intent_live : o.deletedAt = none
  notificationId : o.notificationId = some topology.notificationId
  notification : s.get (.notifications topology.notificationId) = some n
  notification_live : n.deletedAt = none
  conversationId : n.conversationId = some topology.conversationId
  conversation : s.get (.chatrooms topology.conversationId) = some c
  conversation_live : c.deletedAt = none
  topic_live : topicLive s c = true
  groupId : topology.groupId = c.groupId
  recipientId : topology.recipientId = o.recipientUserId
  installationId : topology.installationId = o.pushInstallationId

lemma deliveryTopology_eq_some {s : Store Row} {occurrenceId : Uuid} {topology : DeliveryTopology} :
    deliveryTopology s occurrenceId = some topology ↔ ∃ intent notification conversation,
      topology.Joins s occurrenceId intent notification conversation := by
  simp only [deliveryTopology, Option.bind_eq_bind, Option.bind_eq_some_iff, Option.filter_eq_some_iff, Option.some.injEq,
    Option.isNone_iff_eq_none, Bool.and_eq_true]
  constructor
  · rintro ⟨intent, ⟨h₁, h₂⟩, notificationId, h₃, notification, ⟨h₄, h₅⟩, conversationId, h₆, conversation, ⟨h₇, h₈, h₉⟩, rfl⟩
    exact ⟨intent, notification, conversation, h₁, h₂, h₃, h₄, h₅, h₆, h₇, h₈, h₉, rfl, rfl, rfl⟩
  · rintro ⟨intent, notification, conversation, h⟩
    refine ⟨intent, ⟨h.intent, h.intent_live⟩, _, h.notificationId, notification, ⟨h.notification, h.notification_live⟩, _,
      h.conversationId, conversation, ⟨h.conversation, h.conversation_live, h.topic_live⟩, ?_⟩
    rw [← h.groupId, ← h.recipientId, ← h.installationId]

section Alone

variable {ε Job Out : Type} {sys : System Row Nat Idx ε Job Out} {C : Contract sys} {l l' L : Local Row Nat}
  {g g' G : Shared Row Nat Job Out} {s : Store Row}

lemma lockMembership_alone {groupId recipientId : Uuid} {member : Bool}
    (h : Runs C (lockMembership groupId recipientId) l g (.ok member) l' g' L G) (hG : G.csn = g.csn)
    (hs : s = G.db.apply l.writes) :
    member = !(memberships s groupId recipientId).isEmpty ∧ l'.writes = l.writes := by
  unfold lockMembership at h
  obtain ⟨rows, l₁, g₁, h₁, r₁⟩ := h.bind
  obtain ⟨rfl, rfl⟩ := r₁.ret
  obtain ⟨hmem, hfound, hwrites, -⟩ := h₁.alone_selectFor hG (by decide) hs
  refine ⟨?_, hwrites⟩
  rw [Bool.eq_iff_iff]
  simp only [Bool.not_eq_true', List.isEmpty_eq_false_iff_exists_mem]
  constructor
  · rintro ⟨a, ha⟩
    obtain ⟨i, hi, -⟩ := hmem a ha
    exact ⟨i, hi⟩
  · rintro ⟨i, hi⟩
    obtain ⟨r, hr, htest⟩ := Store.mem_ids.mp hi
    obtain ⟨-, hin⟩ := hfound i hi r hr
    simp only [Bool.and_eq_true, decide_eq_true_eq, Option.isNone_iff_eq_none] at htest
    exact ⟨i, hin i (by rw [if_pos ⟨htest.1.1, htest.1.2, htest.2⟩])⟩

lemma lockInstallation_alone {topology : DeliveryTopology} {found : Option PushInstallation}
    (h : Runs C (lockInstallation topology) l g (.ok found) l' g' L G) (hG : G.csn = g.csn) (hs : s = G.db.apply l.writes) :
    (found = (s.get (.pushInstallations topology.installationId)).bind fun r =>
      if topology.fitsInstallation r then some r else none) ∧
      (∀ r, found = some r → 0 < r.ownerEpoch) ∧ l'.writes = l.writes := by
  unfold lockInstallation at h
  obtain ⟨row, l₁, g₁, h₁, r₁⟩ := h.bind
  obtain ⟨⟨t, hrow⟩, hwrites, -⟩ := h₁.alone_lockRow hG (by decide)
  rw [← hs] at hrow
  cases row with
  | none =>
    obtain ⟨rfl, rfl⟩ := r₁.ret
    exact ⟨hrow, nofun, hwrites⟩
  | some r =>
    obtain ⟨_, l₂, g₂, h₂, r₂⟩ := Runs.bind r₁
    obtain ⟨hepoch, rfl⟩ := h₂.ensure
    obtain ⟨rfl, rfl⟩ := r₂.ret
    exact ⟨hrow, fun r' hr' => by cases hr'; exact hepoch, hwrites⟩

lemma lockOccurrence_alone {claim : PushDeliveryClaim} {topology : DeliveryTopology} {ownerEpoch : Nat}
    {found : Option PushDeliveryIntent} (h : Runs C (lockOccurrence claim topology ownerEpoch) l g (.ok found) l' g' L G)
    (hG : G.csn = g.csn) (hs : s = G.db.apply l.writes) :
    ∃ t, found = (s.get (.pushDeliveryIntents claim.occurrenceId)).bind fun r =>
      if topology.fitsOccurrence ownerEpoch r && claim.holds t r && messageLive s r.sourceMessageId then some r else none := by
  unfold lockOccurrence at h
  obtain ⟨row, l₁, g₁, h₁, r₁⟩ := h.bind
  obtain ⟨⟨t, hrow⟩, hwrites, -⟩ := h₁.alone_lockRow hG (by decide)
  rw [← hs] at hrow
  refine ⟨t, ?_⟩
  cases hr : s.get (.pushDeliveryIntents claim.occurrenceId) with
  | none =>
    rw [hr] at hrow
    cases hrow
    exact r₁.ret.1
  | some r =>
    rw [hr, Option.bind_some] at hrow
    rw [Option.bind_some]
    by_cases hfits : (topology.fitsOccurrence ownerEpoch r && claim.holds t r) = true
    · rw [if_pos hfits] at hrow
      cases hrow
      obtain ⟨live, l₂, g₂, h₂, r₂⟩ := Runs.bind r₁
      obtain ⟨hlive, -, -⟩ := h₂.alone_select (h₁.alone_csn hG)
      obtain ⟨rfl, -⟩ := r₂.ret
      rw [hwrites, ← hs] at hlive
      rw [hfits, Bool.true_and, ← hlive]
    · rw [if_neg hfits] at hrow
      cases hrow
      obtain ⟨rfl, -⟩ := r₁.ret
      rw [if_neg (by simp only [Bool.and_eq_true, not_and] at hfits ⊢; exact fun h => absurd h.2 (hfits h.1))]

lemma lockDelivery_alone {claim : PushDeliveryClaim} {topology : DeliveryTopology} {delivery : Option AuthorizedPushDelivery}
    (h : Runs C (lockDelivery claim topology) l g (.ok delivery) l' g' L G) (hG : G.csn = g.csn)
    (hs : s = G.db.apply l.writes) :
    ∃ t, delivery.isSome = true ↔ topology.deliverable s claim.occurrenceId = true ∧
      ((s.get (.pushDeliveryIntents claim.occurrenceId)).any fun r => claim.holds t r) = true := by
  unfold lockDelivery at h
  unfold DeliveryTopology.deliverable
  obtain ⟨type, l₁, g₁, h₁, r₁⟩ := Runs.bind h
  obtain ⟨⟨_, htype⟩, hw₁, -⟩ := h₁.alone_lockRow hG (by decide)
  have hG₁ := h₁.alone_csn hG
  rw [← hs] at htype
  cases type with
  | none =>
    obtain ⟨rfl, -⟩ := Runs.ret r₁
    refine ⟨0, by simp, fun h => ?_⟩
    obtain ⟨n, hn, htest⟩ := (Option.any_eq_true _ _).mp h.1
    rw [hn, Option.bind_some, if_pos (Bool.and_eq_true_iff.mp htest).1] at htype
    cases htype
  | some type =>
    obtain ⟨n, hn, htest⟩ := Option.bind_eq_some_iff.mp htype.symm
    split at htest
    · rename_i hfits
      cases htest
      obtain ⟨installation, l₂, g₂, h₂, r₂⟩ := Runs.bind r₁
      obtain ⟨hinst, hepoch, hw₂⟩ := lockInstallation_alone h₂ hG₁ (s := s) (by rw [hw₁, ← hs])
      have hG₂ := h₂.alone_csn hG₁
      rw [hn, Option.any_some, hfits, Bool.true_and]
      cases installation with
      | none =>
        obtain ⟨rfl, -⟩ := Runs.ret r₂
        refine ⟨0, by simp, fun h => ?_⟩
        obtain ⟨d, hd, htest⟩ := (Option.any_eq_true _ _).mp h.1
        simp only [Bool.and_eq_true] at htest
        rw [hd, Option.bind_some, if_pos htest.1.1] at hinst
        cases hinst
      | some d =>
        obtain ⟨d', hd, htest⟩ := Option.bind_eq_some_iff.mp hinst.symm
        split at htest
        · rename_i hfits'
          cases htest
          obtain ⟨occurrence, l₃, g₃, h₃, r₃⟩ := Runs.bind r₂
          obtain ⟨t, hocc⟩ := lockOccurrence_alone h₃ hG₂ (s := s) (by rw [hw₂, hw₁, ← hs])
          rw [hd, Option.any_some, hfits', decide_eq_true (hepoch d rfl), Bool.true_and, Bool.true_and]
          refine ⟨t, ?_⟩
          cases occurrence with
          | none =>
            obtain ⟨rfl, -⟩ := Runs.ret r₃
            refine ⟨by simp, fun h => ?_⟩
            obtain ⟨r, hr, htest⟩ := (Option.any_eq_true _ _).mp h.1
            have hholds := h.2
            simp only [Bool.and_eq_true] at htest
            rw [hr, Option.any_some] at hholds
            rw [hr, Option.bind_some, if_pos (by rw [htest.1.1, htest.1.2, hholds]; rfl)] at hocc
            cases hocc
          | some r =>
            obtain ⟨r', hr, htest⟩ := Option.bind_eq_some_iff.mp hocc.symm
            split at htest
            · rename_i hfits''
              cases htest
              obtain ⟨_, l₄, g₄, h₄, r₄⟩ := Runs.bind r₃
              obtain ⟨hroute, rfl⟩ := h₄.ensure
              obtain ⟨rfl, -⟩ := r₄.ret
              simp only [Bool.and_eq_true] at hfits''
              rw [hr, Option.any_some, Option.any_some, hfits''.1.1, hfits''.1.2, hfits''.2, hroute]
              simp
            · cases htest
        · cases htest
    · cases htest

/-- A worker that runs alone gets the delivery if and only if it may be sent and the claim is the worker's. -/
theorem authorizeSend_alone {claim : PushDeliveryClaim} {delivery : Option AuthorizedPushDelivery}
    (h : Runs C (authorizeSend claim) l g (.ok delivery) l' g' L G) (hG : G.csn = g.csn) (hs : s = G.db.apply l.writes) :
    ∃ t, delivery.isSome = true ↔ authorizable s claim.occurrenceId = true ∧
      ((s.get (.pushDeliveryIntents claim.occurrenceId)).any fun r => claim.holds t r) = true := by
  unfold authorizeSend at h
  obtain ⟨_, l₁, g₁, h₁, r₁⟩ := h.bind
  obtain ⟨-, rfl⟩ := h₁.ensure
  obtain ⟨found, l₂, g₂, h₂, r₂⟩ := r₁.bind
  have hG₁ := h₁.alone_csn hG
  obtain ⟨hfound, hw₂, -⟩ := h₂.alone_select hG₁
  have hG₂ := h₂.alone_csn hG₁
  rw [← hs] at hfound
  unfold authorizable
  rw [← hfound]
  cases found with
  | none =>
    obtain ⟨rfl, -⟩ := r₂.ret
    exact ⟨0, by simp⟩
  | some topology =>
    obtain ⟨group, l₃, g₃, h₃, r₃⟩ := Runs.bind r₂
    obtain ⟨⟨_, hgroup⟩, hw₃, -⟩ := h₃.alone_lockRow hG₂ (by decide)
    have hG₃ := h₃.alone_csn hG₂
    rw [hw₂, ← hs] at hgroup
    simp only [Option.any_some]
    cases group with
    | none =>
      obtain ⟨rfl, -⟩ := r₃.ret
      refine ⟨0, ?_⟩
      have hdead : liveGroup s topology.groupId = false := by
        unfold liveGroup
        cases hg : s.get (.groups topology.groupId) with
        | none => rfl
        | some r =>
          rw [hg, Option.bind_some] at hgroup
          cases hd : r.deletedAt with
          | none =>
            rw [if_pos hd] at hgroup
            cases hgroup
          | some t => rw [Option.any_some, hd]; rfl
      simp [hdead]
    | some u =>
      have hlive : liveGroup s topology.groupId = true := by
        unfold liveGroup
        obtain ⟨r, hr, htest⟩ := Option.bind_eq_some_iff.mp hgroup.symm
        split at htest
        · rename_i hd
          rw [hr, Option.any_some, hd]
          rfl
        · cases htest
      obtain ⟨member, l₄, g₄, h₄, r₄⟩ := Runs.bind r₃
      obtain ⟨hmember, hw₄⟩ := lockMembership_alone h₄ hG₃ (s := s) (by rw [hw₃, hw₂, ← hs])
      have hG₄ := h₄.alone_csn hG₃
      rw [hlive, ← hmember, Bool.true_and]
      cases member with
      | false =>
        obtain ⟨rfl, -⟩ := Runs.ret r₄
        exact ⟨0, by simp⟩
      | true =>
        rw [Bool.true_and]
        exact lockDelivery_alone r₄ hG₄ (by rw [hw₄, hw₃, hw₂, ← hs])

end Alone

end JamyeServer.Postgres.Push
