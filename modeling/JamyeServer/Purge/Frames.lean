import JamyeServer.ReadCommitted.Effects
import JamyeServer.Postgres.AccountPurge
import JamyeServer.Postgres.Moderation

/-!
# What the statements on accounts leave alone

The transactions on accounts write many tables. For relations that speak only of accounts, tombstones,
memberships, groups and invites, most of their statements do not matter.
-/

namespace JamyeServer.Purge

open ReadCommitted Prog Postgres Auth Moderation Push AccountDeletion AccountPurge

/-- Accounts, tombstones, memberships, groups and invites. -/
def isCore : Key → Bool
  | .users _ | .anonymousAuthorTombstones _ | .memberships _ | .groups _ | .invites _ => true
  | _ => false

/-- The relation says nothing of the other tables. -/
def OnCore (S : (k : Key) → Option (Row k) → Option (Row k) → Prop) : Prop :=
  ∀ k base v, isCore k = false → S k base v

/-- The relation lets an account change in anything but the time of its deletion. -/
def AllowsProfile (S : (k : Key) → Option (Row k) → Option (Row k) → Prop) : Prop :=
  ∀ (i : Uuid) (base : Option User) (u u' : User), S (.users i) base (some u) → u'.deletedAt = u.deletedAt →
    S (.users i) base (some u')

variable {ε β ω : Type} {sys : System Row Nat Idx ε β ω} {C : Contract sys}
  {S : (k : Key) → Option (Row k) → Option (Row k) → Prop}

section Sessions

lemma keeps_insertRefreshSession (hS : OnCore S) {id userId familyId : Uuid} {parent : Option Uuid} {tokenHash : Nat}
    {expiresAt : Time} : (insertRefreshSession id userId familyId parent tokenHash expiresAt).Keeps C S :=
  keeps_clock.bind fun _ => keeps_insertRow fun _ _ => hS _ _ _ rfl

lemma keeps_revokeUserSessions (hS : OnCore S) {userId : Uuid} {operation : String} :
    (revokeUserSessions userId operation).Keeps C S :=
  (keeps_update fun _ _ _ _ _ _ _ _ _ => hS _ _ _ rfl).bind fun _ => keeps_ret

lemma keeps_rotateSessionRecord (hS : OnCore S) {tokenHash : Nat} {child : NewRotatedSession} {now : Time} :
    (rotateSessionRecord tokenHash child now).Keeps C S := by
  unfold rotateSessionRecord
  refine Keeps.bind (keeps_selectFor.bind fun _ => keeps_ret) fun found => ?_
  cases found with
  | none => exact keeps_ret
  | some parent =>
    dsimp only
    split
    · exact keeps_ret
    split
    · exact (keeps_update fun _ _ _ _ _ _ _ _ _ => hS _ _ _ rfl).bind fun _ => keeps_ret
    split
    · exact keeps_ret
    · exact (keeps_update fun _ _ _ _ _ _ _ _ _ => hS _ _ _ rfl).bind fun _ =>
        (keeps_insertRefreshSession hS).bind fun _ => keeps_ret

lemma keeps_refresh (hS : OnCore S) {settings : Settings} {tokenHash : Nat} {now : Time} :
    (refreshWithClientIp settings tokenHash now).Keeps C S := by
  refine keeps_fresh.bind fun _ => keeps_fresh.bind fun _ =>
    Keeps.bind (keeps_rotateSessionRecord hS).mapError fun outcome => ?_
  cases outcome with
  | rotated issued => exact keeps_ret
  | invalid => exact keeps_fail
  | reused => exact keeps_ret
  | suspended => exact keeps_fail

lemma keeps_logout (hS : OnCore S) {sessionId : Uuid} {now : Time} : (logout sessionId now).Keeps C S :=
  Keeps.mapError ((keeps_update fun _ _ _ _ _ _ _ _ _ => hS _ _ _ rfl).bind fun _ => keeps_ret)

lemma keeps_ensureNotSuspendedForExchange {userId : Uuid} : (ensureNotSuspendedForExchange userId).Keeps C S :=
  keeps_selectFor.bind fun _ => keeps_ensure

end Sessions

section Profiles

lemma keeps_suspendUser (hS : OnCore S) (hU : AllowsProfile S) {command : SuspendUserCommand} :
    (suspendUser command).Keeps C S := by
  refine Keeps.bind (keeps_update fun s i base t u u' a hu hf => ?_) fun _ =>
    keeps_ensure.bind fun _ => keeps_revokeUserSessions hS
  split at hf
  · cases hf
    exact hU i base u _ hu rfl
  · cases hf

lemma keeps_unsuspendUser (hS : OnCore S) (hU : AllowsProfile S) {userId : Uuid} : (unsuspendUser userId).Keeps C S := by
  refine keeps_snapshot.bind fun s => Keeps.bind (keeps_changeRows nofun fun i base t u v a hu hf => ?_) fun updated =>
    keeps_ensure.bind fun _ => ?_
  · split at hf
    · cases hf
      exact hU i base u _ hu rfl
    · cases hf
  · split
    · exact keeps_ret
    · exact keeps_revokeUserSessions hS

lemma keeps_releaseAccountPurgeClaim (hU : AllowsProfile S) {claim : AccountPurgeClaim} :
    (releaseAccountPurgeClaim claim).Keeps C S := by
  refine Keeps.bind (keeps_update fun s i base t u u' a hu hf => ?_) fun _ => keeps_ret
  split at hf
  · cases hf
    exact hU i base u _ hu rfl
  · cases hf

/-- The claim of one account. -/
lemma keeps_claimPurge (hU : AllowsProfile S) {owner : String} {grace : Nat} {now expiresAt : Time} {i : Uuid}
    {e : AccountDeletionRepositoryError} :
    (changeRow .update (.users i)
      (fun _ u =>
        if purgeable grace now u then
          some (some (User.claimPurge owner expiresAt u),
            (⟨i, owner, u.accountPurgeClaimGeneration + 1, expiresAt⟩ : AccountPurgeClaim))
        else none) e : Sql AccountDeletionRepositoryError _).Keeps C S := by
  refine keeps_changeRow nofun fun base t u v a hu hf => ?_
  split at hf
  · cases hf
    exact hU i base u _ hu rfl
  · cases hf

lemma keeps_claimPurges (hU : AllowsProfile S) {owner : String} {grace : Nat} {now expiresAt : Time} {n : Nat}
    {is : List Uuid} : (claimPurges owner grace now expiresAt n is).Keeps C S := by
  induction is generalizing n with
  | nil => cases n <;> exact keeps_ret
  | cons i is ih =>
    cases n with
    | zero => exact keeps_ret
    | succ n =>
      refine Keeps.bind (keeps_of_touches ⟨trivial, fun _ => trivial⟩) fun skip => ?_
      split
      · exact ih
      · refine (keeps_claimPurge hU).bind fun claimed => ?_
        cases claimed with
        | none => exact ih
        | some claim => exact ih.bind fun _ => keeps_ret

lemma keeps_claimAccountPurges (hU : AllowsProfile S) {request : AccountPurgeClaimRequest} :
    (claimAccountPurges request).Keeps C S :=
  keeps_ensure.bind fun _ => keeps_ofOption.bind fun _ => keeps_snapshot.bind fun _ => keeps_clock.bind fun _ =>
    keeps_claimPurges hU

end Profiles

section GracePeriod

lemma keeps_prepareDeletion {userId : Uuid} : (prepareDeletion userId).Keeps C S :=
  Keeps.bind (keeps_selectFor.bind fun _ => keeps_ensure) fun _ => keeps_selectFor.bind fun _ => keeps_ensure.bind
    fun _ => keeps_selectFor.bind fun _ => Keeps.bind (keeps_selectFor.bind fun _ => keeps_ret) fun _ =>
      Keeps.bind (keeps_selectFor.bind fun _ => keeps_ret) fun _ =>
        Keeps.bind (keeps_selectFor.bind fun _ => keeps_ret) fun _ => keeps_ret

lemma keeps_revokeRefreshSessions (hS : OnCore S) {userId : Uuid} {deletedAt : Time} :
    (revokeRefreshSessions userId deletedAt).Keeps C S :=
  (keeps_update fun _ _ _ _ _ _ _ _ _ => hS _ _ _ rfl).bind fun _ => keeps_ret

lemma keeps_disablePushInstallations (hS : OnCore S) {userId : Uuid} {deletedAt : Time} :
    (disablePushInstallations userId deletedAt).Keeps C S :=
  (keeps_update fun _ _ _ _ _ _ _ _ _ => hS _ _ _ rfl).bind fun _ => keeps_ret

lemma keeps_softDeleteAuthIdentities (hS : OnCore S) {userId : Uuid} {deletedAt : Time} :
    (softDeleteAuthIdentities userId deletedAt).Keeps C S :=
  (keeps_update fun _ _ _ _ _ _ _ _ _ => hS _ _ _ rfl).bind fun _ => keeps_ret

lemma keeps_appendRealtimeRevocations (hS : OnCore S) {userId : Uuid} {groupIds : List Uuid} :
    (appendRealtimeRevocations userId groupIds).Keeps C S :=
  keeps_each fun _ _ => keeps_fresh.bind fun _ => keeps_clock.bind fun _ => keeps_insertRow fun _ _ => hS _ _ _ rfl

lemma keeps_fenceNotificationOccurrences (hS : OnCore S) {ids : List Uuid} :
    (fenceNotificationOccurrences ids).Keeps C S := by
  refine keeps_of_free ?_
  have hfree : ∀ k, isDelivery k → ∀ base v, S k base v := by
    intro k hk base v
    cases k with
    | pushDeliveryIntents i => exact hS _ _ _ rfl
    | _ => exact hk.elim
  exact (touches_fenceNotificationOccurrences ids).mono hfree

lemma keeps_fenceMembershipRevocation (hS : OnCore S) {groupId userId : Uuid} :
    (fenceMembershipRevocation groupId userId).Keeps C S :=
  keeps_selectFor.bind fun _ => keeps_fenceNotificationOccurrences hS

end GracePeriod

section Finalize

variable {user tombstone : Uuid} {P : Key → Prop}

lemma touches_deleteAccountOccurrences (hP : ∀ i, P (.pushDeliveryIntents i)) :
    (deleteAccountOccurrences user).Touches P :=
  (touches_change hP).bind fun _ => trivial

lemma touches_scrubRetainedNotificationProfiles (hP : ∀ i, P (.notifications i)) :
    (scrubRetainedNotificationProfiles user).Touches P := by
  refine touches_selectFor.bind fun rows => touches_each fun row _ => ?_
  split
  · trivial
  · exact (touches_change hP).bind fun _ => touches_ensure

lemma touches_scrubRetainedPayloads (hP : ∀ i, P (.conversationEvents i)) (hP' : ∀ i, P (.outboxEvents i)) :
    (scrubRetainedPayloads user tombstone).Touches P := by
  refine Touches.bind (touches_selectFor.bind fun rows => touches_each fun row _ => ?_) fun _ =>
    touches_selectFor.bind fun rows => touches_each fun row _ => ?_
  · dsimp only
    split
    · trivial
    · exact (touches_change hP).bind fun _ => touches_ensure
  · dsimp only
    split
    · trivial
    · exact (touches_change hP').bind fun _ => touches_ensure

lemma touches_enqueueObjectDeletion (hP : ∀ i, P (.accountObjectDeletionIntents i)) {objectKey operation : String}
    {nextAttemptAt : Option Time} : (enqueueObjectDeletion objectKey nextAttemptAt operation).Touches P :=
  ⟨trivial, fun i => ⟨trivial, fun _ => (touches_insertOrSkip (hP i)).bind fun _ => trivial⟩⟩

lemma touches_enqueueAndDeleteAvatarUploads (hP : ∀ i, P (.accountObjectDeletionIntents i))
    (hP' : ∀ i, P (.userAvatarUploads i)) : (enqueueAndDeleteAvatarUploads user).Touches P := by
  refine touches_selectFor.bind fun uploads => Touches.bind ?_ fun _ => (touches_change hP').bind fun _ => trivial
  exact touches_collect fun _ _ => ⟨trivial, fun _ => touches_enqueueObjectDeletion hP⟩

lemma keeps_deleteAccountOccurrences (hS : OnCore S) : (deleteAccountOccurrences user).Keeps C S :=
  keeps_of_free (touches_deleteAccountOccurrences fun _ _ _ => hS _ _ _ rfl)

lemma keeps_reassignRetainedAuthorship (hS : OnCore S) : (reassignRetainedAuthorship user tombstone).Keeps C S := by
  refine Keeps.bind (keeps_update fun _ _ _ _ _ _ _ _ _ => hS _ _ _ rfl) fun _ => ?_
  refine Keeps.bind (keeps_change nofun fun _ _ _ _ _ _ _ _ _ => hS _ _ _ rfl) fun _ => ?_
  refine Keeps.bind (keeps_update fun _ _ _ _ _ _ _ _ _ => hS _ _ _ rfl) fun _ => ?_
  refine Keeps.bind (keeps_update fun _ _ _ _ _ _ _ _ _ => hS _ _ _ rfl) fun _ => ?_
  refine Keeps.bind (keeps_update fun _ _ _ _ _ _ _ _ _ => hS _ _ _ rfl) fun _ => keeps_ret

lemma keeps_scrubRetainedNotificationProfiles (hS : OnCore S) :
    (scrubRetainedNotificationProfiles user).Keeps C S :=
  keeps_of_free (touches_scrubRetainedNotificationProfiles fun _ _ _ => hS _ _ _ rfl)

lemma keeps_scrubRetainedPayloads (hS : OnCore S) : (scrubRetainedPayloads user tombstone).Keeps C S :=
  keeps_of_free (touches_scrubRetainedPayloads (fun _ _ _ => hS _ _ _ rfl) fun _ _ _ => hS _ _ _ rfl)

lemma keeps_enqueueAndDeleteUnboundUploads (hS : OnCore S) : (enqueueAndDeleteUnboundUploads user).Keeps C S := by
  refine keeps_selectFor.bind fun uploads => Keeps.bind (keeps_collect fun _ _ =>
    keeps_of_free (touches_enqueueObjectDeletion fun _ _ _ => hS _ _ _ rfl)) fun enqueued => ?_
  dsimp only
  split
  · exact keeps_ret
  · exact (keeps_delete fun _ _ _ _ _ _ => hS _ _ _ rfl).bind fun _ => keeps_ensure.bind fun _ => keeps_ret

lemma keeps_enqueueAndDeleteAvatarUploads (hS : OnCore S) : (enqueueAndDeleteAvatarUploads user).Keeps C S :=
  keeps_of_free (touches_enqueueAndDeleteAvatarUploads (fun _ _ _ => hS _ _ _ rfl) fun _ _ _ => hS _ _ _ rfl)

end Finalize

end JamyeServer.Purge
