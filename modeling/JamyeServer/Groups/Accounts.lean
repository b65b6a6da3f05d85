import JamyeServer.Groups.Invariants
import JamyeServer.Purge.Commits

/-!
# What the transactions on accounts do to groups
-/

namespace JamyeServer.Groups

open ReadCommitted Prog Postgres Auth Moderation Push Groups AccountDeletion AccountPurge
open Purge (onAccounts SameDeletion ChangedOnly CreatedOnly Undisturbed OnCore AllowsProfile onCore_onAccounts
  undisturbed_of_empty keeps_insertRefreshSession keeps_refresh keeps_logout keeps_suspendUser keeps_unsuspendUser
  keeps_releaseAccountPurgeClaim keeps_claimAccountPurges keeps_prepareDeletion keeps_revokeRefreshSessions
  keeps_disablePushInstallations keeps_softDeleteAuthIdentities keeps_appendRealtimeRevocations
  keeps_fenceMembershipRevocation keeps_ensureNotSuspendedForExchange keeps_deleteAccountOccurrences
  keeps_reassignRetainedAuthorship keeps_scrubRetainedNotificationProfiles keeps_scrubRetainedPayloads
  keeps_enqueueAndDeleteUnboundUploads keeps_enqueueAndDeleteAvatarUploads)

variable {settings : Settings} {ticks : Time → Time → Bool} {C : Contract (system settings ticks)}
  {l l' L : Local Row Nat} {g g' G : Shared}

section Frames

/-- A relation on the rows of memberships, groups and invites. -/
def onGroups (M : Uuid → Option Membership → Option Membership → Prop) (A : Uuid → Option Group → Option Group → Prop)
    (I : Uuid → Option Invite → Option Invite → Prop) : (k : Key) → Option (Row k) → Option (Row k) → Prop
  | .memberships i, base, r => M i base r
  | .groups i, base, h => A i base h
  | .invites i, base, r => I i base r
  | _, _, _ => True

/-- No membership, group or invite changes. -/
abbrev Unchanged : (k : Key) → Option (Row k) → Option (Row k) → Prop :=
  onGroups (fun _ base r => r = base) (fun _ base h => h = base) fun _ base r => r = base

variable {M : Uuid → Option Membership → Option Membership → Prop} {A : Uuid → Option Group → Option Group → Prop}
  {I : Uuid → Option Invite → Option Invite → Prop}

lemma onCore_onGroups : OnCore (onGroups M A I) := by
  intro k base v hk
  cases k with
  | memberships | groups | invites => cases hk
  | _ => trivial

lemma allowsProfile_onGroups : AllowsProfile (onGroups M A I) := fun _ _ _ _ _ _ => trivial

lemma allowsProfile_onAccounts {B : Uuid → Option AnonymousAuthorTombstone → Option AnonymousAuthorTombstone → Prop} :
    AllowsProfile (onAccounts (fun _ => SameDeletion) B) := fun _ _ _ _ hu h => hu.change h

lemma unchanged_of_empty (hl : l.writes = []) : Rows Unchanged G l := by
  refine rows_of_empty hl fun k => ?_
  cases k <;> first | exact rfl | trivial

end Frames

section Steps

variable {e : Entry} {userId : Uuid} {base u : Option User}

lemma UserStep.of_same (h : SameDeletion base u) : UserStep e G userId base u := by
  cases base with
  | none =>
    cases u with
    | none => exact .absent
    | some v => cases h
  | some w =>
    cases u with
    | none => cases h
    | some v => exact .kept (Option.some.inj h)

lemma UserStep.of_created {T : Uuid} (hdrawn : T ∈ e.ran.drawn)
    (hnew : ∀ n, n ≤ G.csn → (G.version n).get (.users T) = none) (h : CreatedOnly T userId base u) :
    UserStep e G userId base u := by
  rcases h with ⟨-, hsame⟩ | ⟨rfl, rfl, -⟩
  · exact .of_same hsame
  · cases u with
    | none => exact .absent
    | some v => exact .created hdrawn hnew

/-- A transaction that leaves memberships, groups and invites alone, and neither deletes nor restores. -/
lemma Ok.of_unchanged {e : Entry} (husers : ∀ i, UserStep e g i (g.db.get (.users i)) ((g.view e.ran).get (.users i)))
    (hrows : Rows Unchanged g e.ran) (hjob : ∀ userId, e.job ≠ .deleteAccount userId)
    (hout : ∀ record, e.out ≠ .redeemed record)
    (hrestore : ∀ userId u u', g.db.get (.users userId) = some u → u.deletedAt ≠ none →
      (g.view e.ran).get (.users userId) = some u' → u'.deletedAt ≠ none) : Ok e g where
  users := husers
  members m := by
    have hrow : (g.view e.ran).get (.memberships m) = _ := hrows (.memberships m)
    rw [hrow]
    exact .same _
  groups i := by
    have hrow : (g.view e.ran).get (.groups i) = _ := hrows (.groups i)
    rw [hrow]
    exact .same _
  invites i := by
    have hrow : (g.view e.ran).get (.invites i) = _ := hrows (.invites i)
    rw [hrow]
    exact .same _
  deleteAccount userId h := absurd h (hjob userId)
  restored userId u u' hu hdel hu' hlive := absurd hlive (hrestore userId u u' hu hdel hu')
  redeemed record h := absurd h (hout record)

lemma Ok.of_undisturbed {job : Purge.Job} {outcome : Purge.Outcome} (hjob : ∀ T, job ≠ .account (.deleteAccount T))
    (husers : Rows Undisturbed G L) (hrows : Rows Unchanged G L) : Ok ⟨.purge job, .purge outcome, L⟩ G := by
  refine .of_unchanged (fun i => .of_same (husers (.users i))) hrows ?_ nofun fun userId u u' hu hdel hu' => ?_
  · rintro T ⟨⟩
    exact hjob T rfl
  · have hsame : ((G.view L).get (.users userId)).map User.deletedAt = (G.db.get (.users userId)).map User.deletedAt :=
      husers (.users userId)
    rw [hu, hu'] at hsame
    rw [Option.some.inj hsame]
    exact hdel

end Steps

section Deletion

variable {T : Uuid}

/-- The account may be locked only while it is live. -/
lemma lockAuthenticAccount_holds {x : Unit} (h : Runs C (lockAuthenticAccount T) l g (.ok x) l' g' L G) :
    l'.writes = l.writes ∧ (.users T, .update) ∈ l'.locks := by
  unfold lockAuthenticAccount at h
  obtain ⟨found, l₁, g₁, h₁, h₂⟩ := h.bind
  obtain ⟨hne, rfl⟩ := h₂.ensure
  obtain ⟨gs, -, -, hlocked⟩ := h₁.selectFor nofun
  obtain ⟨a, ha⟩ := List.exists_mem_of_ne_nil _ hne
  obtain ⟨i, hi, t, u, -, hlock, -, -⟩ := hlocked.mem a ha
  obtain ⟨rfl, -⟩ := Store.mem_one.mp hi
  exact ⟨by rw [hlocked.frame], hlock⟩

lemma hasLiveMembership_iff {s : Store Row} {groupId userId : Uuid} :
    hasLiveMembership s groupId userId = true ↔ ∃ m, LiveMember s m groupId userId := by
  simp only [hasLiveMembership, Bool.not_eq_true', List.isEmpty_eq_false_iff_exists_mem, Store.mem_ids, LiveMember,
    Bool.and_eq_true, decide_eq_true_eq, Option.isNone_iff_eq_none, and_assoc]

/-- The user owns the live group, or is a member of it. -/
def Concerned (s : Store Row) (H T : Uuid) : Prop :=
  (∃ h, s.get (.groups H) = some h ∧ h.deletedAt = none ∧ h.ownerId = T) ∨ ∃ m, LiveMember s m H T

/-- Who holds an account has seen all groups that it concerns. -/
lemma concerned_since (hC : Obeys C) (hev : Evolve C l g L G) (hlock : (.users T, .update) ∈ l.locks) {H n : Nat}
    (h : Concerned G.db H T) (hn : g.csn ≤ n) (hn' : n ≤ G.csn) : Concerned (G.version n) H T := by
  by_contra hnot
  obtain ⟨e, l₁, g₁, -, -, hev₁, hc, hcompat, -, -, hbefore, hafter⟩ :=
    hev.commit_of_change (P := fun s => ¬ Concerned s H T) hn hn' (Nat.le_refl _) hnot (not_not.mpr h)
  have hheld := hev₁.locks hlock
  have hok := hC.ok e g₁ hc.ok
  rcases not_not.mp hafter with ⟨h', hh', hlive, howner⟩ | ⟨m, hm⟩
  · have hstep := hok.groups H
    rw [hh'] at hstep
    generalize hb : g₁.db.get (.groups H) = before at hstep
    cases hstep with
    | same => exact hbefore (.inl ⟨h', hb, hlive, howner⟩)
    | founded hf => cases hcompat.locks _ _ _ hheld (howner ▸ hf.userLock)
    | @renamed h₀ => exact hbefore (.inl ⟨h₀, hb, hlive, howner⟩)
    | deleted => cases hlive
    | transferred htr =>
      exact hbefore (.inr ⟨_, _, htr.targetRow, htr.targetGroup, htr.targetUser.trans howner, htr.targetLive⟩)
    | archived hd => exact hd hlive
  · rcases hok.becomes_live (fun hm' => hbefore (.inr ⟨m, hm'⟩)) hm with ⟨-, hl⟩ | ⟨-, hl⟩ | hl
    · cases hcompat.locks _ _ _ hheld hl
    · cases hcompat.locks _ _ _ hheld hl
    · cases hcompat.locks _ _ _ hheld hl

/-- A group of an earlier version is still there. -/
lemma group_later (hC : Obeys C) (hg : History C G) {i n k : Nat} (hn : (G.version n).get (.groups i) ≠ none)
    (hnk : n ≤ k) (hk : k ≤ G.csn) : (G.version k).get (.groups i) ≠ none :=
  hg.stable (P := fun s => s.get (.groups i) ≠ none) (fun g₁ e _ hc => (hC.ok e g₁ hc.ok).group_stays) hnk hk hn

/-- What `prepare_deletion` leaves: the account and all groups that it concerns are locked, and it owns no live one. -/
structure Prepared (T : Uuid) (L : Local Row Nat) (G : Shared) : Prop where
  user : (.users T, .update) ∈ L.locks
  owns : ∀ i h, G.db.get (.groups i) = some h → h.deletedAt = none → h.ownerId ≠ T
  groups : ∀ m H, LiveMember G.db m H T → (.groups H, .update) ∈ L.locks

lemma prepareDeletion_runs (hC : Obeys C) (hg : History C g) (hl : l.writes = []) {ms : List AccountDeletionMembership}
    (h : Runs C (prepareDeletion T) l g (.ok ms) l' g' L G) : Prepared T L G := by
  have hG : History C G := h.evolve.later.history hg
  unfold prepareDeletion at h
  obtain ⟨_, l₁, g₁, h₁, hrest⟩ := h.bind
  obtain ⟨groups, l₂, g₂, h₂, hrest⟩ := hrest.bind
  obtain ⟨_, l₃, g₃, h₃, hrest⟩ := hrest.bind
  obtain ⟨hcheck, rfl⟩ := h₃.ensure
  obtain ⟨hw, huser⟩ := lockAuthenticAccount_holds h₁
  obtain ⟨gs, hgs, hgs', hlocked⟩ := h₂.selectFor nofun
  have hrange : g₁.csn ≤ gs.csn ∧ gs.csn ≤ G.csn := ⟨hgs.csn_le, (hgs'.trans h₂.rest.later).csn_le⟩
  rw [hw, hl, Store.apply_nil] at hlocked
  -- every group that concerns the account is among the locked ones
  have hfound : ∀ H, Concerned G.db H T → ∃ r, (.groups H, .update) ∈ l₃.locks ∧ G.db.get (.groups H) = some r ∧
      (r.ownerId = T → (H, r.ownerId, r.deletedAt.isNone) ∈ groups) := by
    intro H hH
    have hconcerned := concerned_since hC h₁.rest huser hH hrange.1 hrange.2
    have hsome : (G.version gs.csn).get (.groups H) ≠ none := by
      rcases hconcerned with ⟨h₀, hh₀, -⟩ | ⟨m, r, hm, rfl, -⟩
      · rw [hh₀]
        exact nofun
      · exact (wellFormed_version hC hG hrange.2).group m r hm
    obtain ⟨h₀, hh₀⟩ := Option.ne_none_iff_exists'.mp hsome
    have hin : H ∈ sortIds ((G.version gs.csn).ids Tables.groups fun i g =>
        decide (g.ownerId = T) || hasLiveMembership (G.version gs.csn) i T) := by
      rw [sortIds, List.mem_insertionSort, Store.mem_ids]
      refine ⟨h₀, hh₀, ?_⟩
      rw [Bool.or_eq_true, decide_eq_true_eq, hasLiveMembership_iff]
      rcases hconcerned with ⟨h₁', hh₁', -, howner⟩ | hm
      · rw [hh₀] at hh₁'
        cases hh₁'
        exact .inl howner
      · exact .inr hm
    rcases hlocked.each H hin with ⟨n, hn, hn', hmiss⟩ | ⟨t, r, -, hlock, hrow, hres⟩
    · refine absurd ?_ (group_later hC hG hsome hn (Nat.le_trans hn' h₂.rest.later.csn_le))
      simpa [hw, hl] using hmiss
    · refine ⟨r, hlock, by simpa [hw, hl] using hrow, fun howner => hres _ ?_⟩
      rw [if_pos (.inl howner)]
  refine ⟨h₁.rest.locks huser, fun i h hi hlive howner => ?_, fun m H hm => ?_⟩
  · obtain ⟨r, -, hr, hmem⟩ := hfound i (.inl ⟨h, hi, hlive, howner⟩)
    rw [hi] at hr
    cases hr
    rw [List.any_eq_false] at hcheck
    refine hcheck _ (hmem howner) ?_
    simp [hlive, howner]
  · obtain ⟨r, hlock, -⟩ := hfound H (.inr ⟨m, hm⟩)
    exact hrest.evolve.locks hlock

/-- The account is deleted. -/
abbrev Ended (T : Uuid) : (k : Key) → Option (Row k) → Option (Row k) → Prop :=
  onAccounts (fun i _ u => i = T → ∃ v, u = some v ∧ v.deletedAt ≠ none) fun _ _ _ => True

/-- Live memberships of the user may be flagged. -/
abbrev FlaggedOnly (T : Uuid) : (k : Key) → Option (Row k) → Option (Row k) → Prop :=
  onGroups (fun _ base r => r = base ∨ ∃ r₀ t, base = some r₀ ∧ r = some (Membership.markDeleted t r₀) ∧
    r₀.userId = T ∧ r₀.deletedAt = none) (fun _ base h => h = base) fun _ base r => r = base

lemma markUserDeleted_ended {t : Time} (h : Runs C (markUserDeleted T) l g (.ok t) l' g' L G) : Rows (Ended T) G l' := by
  unfold markUserDeleted at h
  obtain ⟨now, l₁, g₁, h₁, hrest⟩ := h.bind
  obtain ⟨marked, l₂, g₂, h₂, h₃⟩ := hrest.bind
  obtain ⟨hhead, rfl⟩ := h₃.ofOption
  obtain ⟨gs, ws, -, -, hch⟩ := h₂.update fun s => s.nodup_one ..
  obtain ⟨i, hi, t', u, v, -, -, -, hf, hafter⟩ := hch.returned (List.mem_of_head? hhead)
  obtain ⟨rfl, -⟩ := Store.mem_one.mp hi
  intro k
  cases k with
  | users j =>
    rintro rfl
    obtain ⟨⟨u', a⟩, hu', hx⟩ := Option.map_eq_some_iff.mp hf
    cases hx
    split at hu'
    · cases hu'
      exact ⟨_, hafter, nofun⟩
    · cases hu'
  | _ => trivial

lemma keeps_markUserDeleted :
    (markUserDeleted T).Keeps C (onAccounts (ChangedOnly T) fun _ base t => t = base) := by
  refine keeps_clock.bind fun now => Keeps.bind (keeps_update_of_mem fun s i base t u u' a hi hu hf => ?_) fun _ =>
    keeps_ofOption
  obtain ⟨rfl, -⟩ := Store.mem_one.mp hi
  refine .inr ⟨rfl, ?_, rfl⟩
  rcases hu with hu | ⟨-, hbase, -⟩
  · exact hu.isSome
  · exact hbase

lemma keeps_markMembershipsDeleted {t : Time} : (markMembershipsDeleted T t).Keeps C (FlaggedOnly T) := by
  refine Keeps.bind (keeps_update fun s i base now r r' a hr hf => ?_) fun _ => keeps_ret
  split at hf
  · cases hf
  · split at hf
    · rename_i hcond
      cases hf
      rcases hr with rfl | ⟨r₀, t', -, hflag, -⟩
      · exact .inr ⟨r, t, rfl, rfl, hcond⟩
      · cases hflag
        exact absurd hcond.2 nofun
    · cases hf

/-- The statements of the grace period after the account and its memberships are marked. -/
lemma keeps_startGracePeriod {S : (k : Key) → Option (Row k) → Option (Row k) → Prop} (hS : OnCore S)
    (hU : (markUserDeleted T).Keeps C S) (hM : ∀ t, (markMembershipsDeleted T t).Keeps C S) :
    (startGracePeriod T).Keeps C S :=
  hU.bind fun t => (hM t).bind fun _ => (keeps_revokeRefreshSessions hS).bind fun _ =>
    (keeps_disablePushInstallations hS).bind fun _ => (keeps_softDeleteAuthIdentities hS).bind fun _ =>
      (keeps_appendRealtimeRevocations hS).bind fun _ => keeps_ret

lemma keeps_fences {S : (k : Key) → Option (Row k) → Option (Row k) → Prop} (hS : OnCore S)
    {ms : List AccountDeletionMembership} :
    (each (fun (m : AccountDeletionMembership) => mapError (fun _ => AccountDeletionError.databaseUnavailable)
      (fenceMembershipRevocation m.groupId T)) ms).Keeps C S :=
  keeps_each fun _ _ => (keeps_fenceMembershipRevocation hS).mapError

lemma keeps_deleteAccountGrace {S : (k : Key) → Option (Row k) → Option (Row k) → Prop} (hS : OnCore S)
    (hU : (markUserDeleted T).Keeps C S) (hM : ∀ t, (markMembershipsDeleted T t).Keeps C S) :
    (deleteAccountGrace T).Keeps C S :=
  keeps_prepareDeletion.mapError.bind fun _ => (keeps_startGracePeriod hS hU hM).mapError.bind fun _ =>
    (keeps_fences hS).bind fun _ => keeps_ret

lemma keeps_markMembershipsDeleted_onAccounts {A : Uuid → Option User → Option User → Prop}
    {B : Uuid → Option AnonymousAuthorTombstone → Option AnonymousAuthorTombstone → Prop} {t : Time} :
    (markMembershipsDeleted T t).Keeps C (onAccounts A B) :=
  (keeps_update fun _ _ _ _ _ _ _ _ _ => trivial).bind fun _ => keeps_ret

lemma deleteAccountGrace_ended {report : AccountDeletionReport}
    (h : Runs C (deleteAccountGrace T) l g (.ok report) l' g' L G) : Rows (Ended T) G l' := by
  unfold deleteAccountGrace at h
  obtain ⟨ms, l₁, g₁, h₁, hrest⟩ := h.bind
  obtain ⟨report', l₂, g₂, h₂, hrest⟩ := hrest.bind
  obtain ⟨t, l₃, g₃, h₃, h₄⟩ := h₂.mapError.bind
  have hrows : Rows (Ended T) G l₂ := by
    refine Keeps.rows ?_ h₄ (markUserDeleted_ended h₃)
    exact keeps_markMembershipsDeleted_onAccounts.bind fun _ =>
      (keeps_revokeRefreshSessions onCore_onAccounts).bind fun _ =>
        (keeps_disablePushInstallations onCore_onAccounts).bind fun _ =>
          (keeps_softDeleteAuthIdentities onCore_onAccounts).bind fun _ =>
            (keeps_appendRealtimeRevocations onCore_onAccounts).bind fun _ => keeps_ret
  exact ((keeps_fences onCore_onAccounts).bind fun _ => keeps_ret).rows hrest hrows

lemma deleteAccount_commits (hC : Obeys C) (hg : History C g) {report : AccountDeletionReport} {outcome : Purge.Outcome}
    (h : Runs C (deleteAccountGrace T) (Local.begin g) g (.ok report) L g' L G) :
    Ok ⟨.deleteAccount T, .purge outcome, L⟩ G := by
  have hprepared : Prepared T L G := by
    unfold deleteAccountGrace at h
    obtain ⟨ms, l₁, g₁, h₁, -⟩ := h.bind
    exact prepareDeletion_runs hC hg rfl h₁.mapError
  have hended := deleteAccountGrace_ended h (.users T) rfl
  have husers : Rows (onAccounts (ChangedOnly T) fun _ base t => t = base) G L := by
    refine (keeps_deleteAccountGrace onCore_onAccounts keeps_markUserDeleted
      fun _ => keeps_markMembershipsDeleted_onAccounts).rows h (rows_of_empty rfl fun k => ?_)
    cases k <;> first | exact .inl rfl | exact rfl | trivial
  have hmembers : Rows (FlaggedOnly T) G L := by
    refine (keeps_deleteAccountGrace onCore_onGroups ?_ fun _ => keeps_markMembershipsDeleted).rows h
      (rows_of_empty rfl fun k => ?_)
    · exact keeps_clock.bind fun _ => (keeps_update fun _ _ _ _ _ _ _ _ _ => trivial).bind fun _ => keeps_ofOption
    · cases k <;> first | exact .inl rfl | exact rfl | trivial
  refine ⟨fun i => ?_, fun m => ?_, fun i => ?_, fun i => ?_, fun userId hjob => ?_, fun userId u u' hu hdel hu' hlive => ?_,
    nofun⟩
  · rcases husers (.users i) with hsame | ⟨rfl, hbase, hview⟩
    · exact .of_same hsame
    · obtain ⟨v, hv⟩ := Option.isSome_iff_exists.mp hbase
      obtain ⟨v', hv'⟩ := Option.isSome_iff_exists.mp hview
      rw [hv, show (G.view L).get (.users i) = _ from hv']
      exact .deleted rfl
  · rcases hmembers (.memberships m) with hsame | ⟨r, t, hbase, hview, rfl, hlive⟩
    · rw [show (G.view L).get (.memberships m) = _ from hsame]
      exact .same _
    · rw [hbase, show (G.view L).get (.memberships m) = _ from hview]
      exact .flagged rfl hlive hprepared.user (hprepared.groups m r.groupId ⟨r, hbase, rfl, rfl, hlive⟩)
  · rw [show (G.view L).get (.groups i) = _ from hmembers (.groups i)]
    exact .same _
  · rw [show (G.view L).get (.invites i) = _ from hmembers (.invites i)]
    exact .same _
  · cases hjob
    exact ⟨hended, hprepared.owns, fun m r hm huser hlive => hprepared.groups m r.groupId ⟨r, hm, rfl, huser, hlive⟩⟩
  · -- the account that is deleted is not live afterwards
    rcases husers (.users userId) with hsame | ⟨rfl, -, -⟩
    · rw [hu, show (G.db.apply L.writes).get (.users userId) = _ from hu'] at hsame
      have hd : u'.deletedAt = u.deletedAt := Option.some.inj hsame
      rw [hlive] at hd
      exact absurd hd.symm hdel
    · obtain ⟨v, hv, hd⟩ := hended
      rw [show (G.db.apply L.writes).get (.users userId) = _ from hu'] at hv
      cases hv
      exact absurd hlive hd

end Deletion

section SignIn

variable {T : Uuid} {identity : NewProviderIdentity} {grace : Nat}

/-- A deleted group of an earlier version is still deleted. -/
lemma group_over_later (hC : Obeys C) (hg : History C G) {i n k : Nat} {h : Group}
    (hn : (G.version n).get (.groups i) = some h) (hd : h.deletedAt ≠ none) (hnk : n ≤ k) (hk : k ≤ G.csn) :
    ∃ h', (G.version k).get (.groups i) = some h' ∧ h'.deletedAt ≠ none := by
  refine hg.stable (P := fun s => ∃ h', s.get (.groups i) = some h' ∧ h'.deletedAt ≠ none) ?_ hnk hk ⟨h, hn, hd⟩
  rintro g₁ e - hc ⟨h₁, hh₁, hd₁⟩
  exact (hC.ok e g₁ hc.ok).group_over hh₁ hd₁

/-- Who holds an account has seen its flagged memberships. -/
lemma flag_since (hC : Obeys C) (hg : History C g) (hev : Evolve C l g L G) (hlock : (.users T, .update) ∈ l.locks)
    {m n : Nat} {r : Membership} (hm : G.db.get (.memberships m) = some r) (huser : r.userId = T)
    (hflag : r.accountDeletedAt ≠ none) (hn : g.csn ≤ n) (hn' : n ≤ G.csn) :
    (G.version n).get (.memberships m) = some r := by
  by_contra hnot
  obtain ⟨e, l₁, g₁, -, -, hev₁, hc, hcompat, -, -, hbefore, hafter⟩ := hev.commit_of_change
    (P := fun s => s.get (.memberships m) ≠ some r) hn hn' (Nat.le_refl _) hnot (not_not.mpr hm)
  have hwf := wellFormed_of_history hC (hev₁.later.history hg)
  have hstep := (hC.ok e g₁ hc.ok).members m
  rw [not_not.mp hafter] at hstep
  generalize hb : g₁.db.get (.memberships m) = before at hstep
  cases hstep with
  | same => exact hbefore hb
  | founded _ flag => exact hflag flag
  | joined _ _ flag => exact hflag flag
  | @ended r₀ _ _ live =>
    have hnone : r₀.accountDeletedAt = none := hwf.flag m r₀ hb live
    exact hflag hnone
  | @transferred r₀ _ live =>
    have hnone : r₀.accountDeletedAt = none := hwf.flag m r₀ hb live
    exact hflag hnone
  | flagged _ _ userLock => cases hcompat.locks _ _ _ (hev₁.locks hlock) (huser ▸ userLock)
  | restored => exact hflag rfl

/-- Flagged memberships of the user may be restored. -/
abbrev RestoredMembers (T : Uuid) : (k : Key) → Option (Row k) → Option (Row k) → Prop :=
  onGroups (fun _ base r => r = base ∨ ∃ r₀, base = some r₀ ∧ r = some (Membership.restore r₀) ∧ r₀.userId = T ∧
    r₀.deletedAt ≠ none ∧ r₀.accountDeletedAt ≠ none) (fun _ base h => h = base) fun _ base r => r = base

/-- The statements that restore an account. -/
def restoreAccount (identityId T : Uuid) (session : NewRefreshSession) :
    Sql AuthRepositoryError (Option IssuedSession) := do
  ensureNotSuspended T
  let _ ← update Tables.users (fun s => s.one Tables.users T fun _ => true)
    (fun _ _ _ u => some (User.restore u, ())) (.unavailable "user_restore")
  let _ ← update Tables.authIdentities (fun s => s.one Tables.authIdentities identityId fun _ => true)
    (fun _ _ _ r => some (AuthIdentity.restore r, ())) (.unavailable "identity_restore")
  let _ ← update Tables.memberships (fun s => s.ids Tables.memberships fun _ r => membershipRestorable T s r)
    (fun s _ _ r => if membershipRestorable T s r then some (Membership.restore r, ()) else none)
    (.unavailable "membership_restore")
  insertRefreshSession session.id T session.familyId session.parentSessionId session.tokenHash session.expiresAt
  ret (some ⟨T, session.id⟩)

lemma restoreDeletedIdentityRecord_eq {session : NewRefreshSession} :
    restoreDeletedIdentityRecord identity session grace = (do
      match ← identityRestoreLookup identity grace with
      | none => ret none
      | some (identityId, userId) => restoreAccount identityId userId session) := rfl

/-- The parts of a membership that can be restored. -/
lemma membershipRestorable_iff {s : Store Row} {r : Membership} : membershipRestorable T s r = true ↔
    r.userId = T ∧ r.deletedAt ≠ none ∧ r.accountDeletedAt ≠ none ∧
      (∃ h, s.get (.groups r.groupId) = some h ∧ h.deletedAt = none) ∧
      ∀ m, ¬ LiveMember s m r.groupId r.userId := by
  simp only [membershipRestorable, Bool.and_eq_true, beq_iff_eq, Option.isSome_iff_ne_none, Option.any_eq_true,
    Option.isNone_iff_eq_none, List.isEmpty_iff, List.eq_nil_iff_forall_not_mem, Store.mem_ids, LiveMember, and_assoc]

lemma keeps_restoreAccount {identityId : Uuid} {session : NewRefreshSession} :
    (restoreAccount identityId T session).Keeps C (RestoredMembers T) := by
  refine Keeps.bind (keeps_select.bind fun _ => keeps_ensure) fun _ => ?_
  refine Keeps.bind (keeps_update fun _ _ _ _ _ _ _ _ _ => trivial) fun _ => ?_
  refine Keeps.bind (keeps_update fun _ _ _ _ _ _ _ _ _ => trivial) fun _ => ?_
  refine Keeps.bind (keeps_update fun s i base t r r' a hr hf => ?_) fun _ =>
    (keeps_insertRefreshSession onCore_onGroups).bind fun _ => keeps_ret
  split at hf
  · rename_i hrestorable
    cases hf
    obtain ⟨huser, hdel, hflag, -⟩ := membershipRestorable_iff.mp hrestorable
    rcases hr with rfl | ⟨r₀, -, hr, -⟩
    · exact .inr ⟨r, rfl, rfl, huser, hdel, hflag⟩
    · cases hr
      exact absurd rfl hdel
  · cases hf

/-- Users and identities. -/
def isAccount : Key → Prop
  | .users _ | .authIdentities _ => True
  | _ => False

/-- The flagged memberships that are left after a restore are of deleted groups. -/
lemma restoreAccount_flagged (hC : Obeys C) (hg : History C g) (hl : l.writes = []) (hlock : (.users T, .update) ∈ l.locks)
    {identityId : Uuid} {session : NewRefreshSession} {x : Option IssuedSession}
    (h : Runs C (restoreAccount identityId T session) l g (.ok x) l' g' L G) {m : Uuid} {r : Membership}
    (hm : (G.db.apply l'.writes).get (.memberships m) = some r) (huser : r.userId = T) (hflag : r.accountDeletedAt ≠ none) :
    ∃ h, G.db.get (.groups r.groupId) = some h ∧ h.deletedAt ≠ none := by
  have hG : History C G := h.evolve.later.history hg
  unfold restoreAccount at h
  obtain ⟨_, l₁, g₁, h₁, hrest⟩ := h.bind
  obtain ⟨_, l₂, g₂, h₂, hrest⟩ := hrest.bind
  obtain ⟨_, l₃, g₃, h₃, hrest⟩ := hrest.bind
  obtain ⟨_, l₄, g₄, h₄, hrest⟩ := hrest.bind
  -- until here only the account and the identity are written
  have hframe : ∀ (s : Store Row) (k : Key), ¬ isAccount k → (s.apply l₃.writes).get k = s.get k := by
    intro s k hk
    rw [h₃.get_of_touches (P := isAccount) (touches_change fun _ => trivial) hk,
      h₂.get_of_touches (P := isAccount) (touches_change fun _ => trivial) hk,
      h₁.get_of_touches (P := isAccount) (touches_select.bind fun _ => touches_ensure) hk, hl, Store.apply_nil]
  obtain ⟨gs, ws, hgs, hgs', hch⟩ := h₄.update fun s => s.nodup_ids ..
  have hrange : g₃.csn ≤ gs.csn ∧ gs.csn ≤ G.csn := ⟨hgs.csn_le, (hgs'.trans h₄.rest.later).csn_le⟩
  have hev₃ : Evolve C l g l₃ g₃ := (h₁.returns.evolve.trans h₂.returns.evolve).trans h₃.returns.evolve
  have hm₄ : (G.db.apply l₄.writes).get (.memberships m) = some r := by
    obtain ⟨_, l₅, g₅, h₅, h₆⟩ := hrest.bind
    obtain ⟨-, rfl⟩ := h₆.ret
    rwa [h₅.get_of_touches (P := fun k => ∃ i, k = .refreshSessions i)
      (Touches.bind ⟨trivial, fun _ => trivial⟩ fun _ => touches_insertRow ⟨_, rfl⟩) (by simp)] at hm
  have hdb : G.db.get (.memberships m) = some r := by
    rcases hch.row m with hsame | ⟨j, -, hj, t, r₀, v, a, -, -, hf, hafter⟩
    · rw [hm₄, hframe _ _ id] at hsame
      exact hsame.symm
    · obtain ⟨⟨r', b⟩, hf', hx⟩ := Option.map_eq_some_iff.mp hf
      cases hx
      cases hj
      split at hf'
      · cases hf'
        rw [hm₄] at hafter
        cases hafter
        exact absurd rfl hflag
      · cases hf'
  have hseen : ∀ n, gs.csn ≤ n → n ≤ G.csn → (G.version n).get (.memberships m) = some r := fun n hn hn' =>
    flag_since hC (hev₃.later.history hg) h₃.rest (hev₃.locks hlock) hdb huser hflag (Nat.le_trans hrange.1 hn) hn'
  have hwf := wellFormed_version hC hG hrange.2
  have hver := hseen gs.csn (Nat.le_refl _) hrange.2
  have hdel : r.deletedAt ≠ none := fun hlive => hflag (hwf.flag m r hver hlive)
  obtain ⟨h₀, hh₀⟩ := Option.ne_none_iff_exists'.mp (hwf.group m r hver)
  by_cases hlive : h₀.deletedAt = none
  swap
  · exact group_over_later hC hG hh₀ hlive hrange.2 (Nat.le_refl _)
  -- in a live group it would have been restored
  have hrestorable : membershipRestorable T ((G.version gs.csn).apply l₃.writes) r = true := by
    refine membershipRestorable_iff.mpr ⟨huser, hdel, hflag, ⟨h₀, (hframe _ _ id).trans hh₀, hlive⟩, fun m' hm' => ?_⟩
    obtain ⟨r', hr', hgroup, huser', hlive'⟩ := hm'
    rw [hframe _ _ id] at hr'
    obtain rfl := hwf.once m' m r' r hr' hver hgroup huser' (.inl hlive') (.inr hflag)
    rw [hver] at hr'
    cases hr'
    exact hdel hlive'
  have hin : m ∈ ((G.version gs.csn).apply l₃.writes).ids Tables.memberships
      fun _ r => membershipRestorable T ((G.version gs.csn).apply l₃.writes) r :=
    Store.mem_ids.mpr ⟨r, (hframe _ _ id).trans hver, hrestorable⟩
  rcases hch.get hin with ⟨n, hn, hn', hmiss⟩ | ⟨t, r₁, -, -, hr₁, hafter⟩
  · rw [hframe _ _ id, hseen n hn (Nat.le_trans hn' h₄.rest.later.csn_le)] at hmiss
    cases hmiss
  · rw [hframe _ _ id, hdb] at hr₁
    cases hr₁
    rw [if_pos hrestorable, hm₄] at hafter
    have hrow : r = Membership.restore r := Option.some.inj hafter
    exact absurd (congrArg Postgres.Membership.accountDeletedAt hrow) hflag

/-- What a restore commits. -/
structure RestoresAccount (T : Uuid) (l' L : Local Row Nat) (G : Shared) : Prop where
  lock : (.users T, .update) ∈ L.locks
  row : ∃ u, G.db.get (.users T) = some u ∧ u.deletedAt ≠ none
  users : Rows (onAccounts (ChangedOnly T) fun _ base t => t = base) G l'
  members : Rows (RestoredMembers T) G l'
  flagged : ∀ m r, (G.db.apply l'.writes).get (.memberships m) = some r → r.userId = T → r.accountDeletedAt ≠ none →
    ∃ h, G.db.get (.groups r.groupId) = some h ∧ h.deletedAt ≠ none

/-- The account that a sign-in may restore is locked. -/
lemma identityRestoreLookup_locks {p : Uuid × Uuid} (hl : l.writes = [])
    (h : Runs C (identityRestoreLookup identity grace) l g (.ok (some p)) l' g' L G) :
    l'.writes = [] ∧ (.users p.2, .update) ∈ l'.locks ∧ ∃ u, G.db.get (.users p.2) = some u ∧ u.deletedAt ≠ none := by
  have hhere : Runs C (identityRestoreLookup identity grace) l g (.ok (some p)) l' g' l' g' := ⟨h.returns, .refl⟩
  obtain ⟨n, hframe, -, hsome⟩ := identityRestoreLookup_runs hl hhere
  obtain ⟨id, r, u, g₁, rfl, -, -, hheld⟩ := hsome p rfl
  have hlock : (.users r.userId, .update) ∈ l'.locks := hheld.account.lock
  obtain ⟨d, hd, -⟩ := hheld.deletedAt
  refine ⟨by rw [hframe, hl], hlock, u, ?_, by rw [hd]; exact nofun⟩
  rw [h.rest.db_locked hlock nofun, hheld.account.db]

lemma restoreDeletedIdentityRecord_runs (hC : Obeys C) (hg : History C g) (hl : l.writes = [])
    {session : NewRefreshSession} {x : Option IssuedSession}
    (h : Runs C (restoreDeletedIdentityRecord identity session grace) l g (.ok x) l' g' L G) :
    (x = none → l'.writes = []) ∧ ∀ issued, x = some issued → ∃ T, RestoresAccount T l' L G := by
  rw [restoreDeletedIdentityRecord_eq] at h
  obtain ⟨y, l₁, g₁, h₁, h₂⟩ := h.bind
  cases y with
  | none =>
    obtain ⟨n, hframe, -⟩ := identityRestoreLookup_runs hl h₁
    obtain ⟨rfl, rfl⟩ := h₂.ret
    exact ⟨fun _ => by rw [hframe, hl], nofun⟩
  | some p =>
    obtain ⟨identityId, T⟩ := p
    obtain ⟨hl₁, hlock, hrow⟩ := identityRestoreLookup_locks hl h₁
    refine ⟨fun hx => ?_, fun issued _ => ⟨T, h₂.evolve.locks hlock, hrow, ?_, ?_, fun m r hm huser hflag => ?_⟩⟩
    · subst hx
      unfold restoreAccount at h₂
      obtain ⟨_, _, _, -, hrest⟩ := h₂.bind
      obtain ⟨_, _, _, -, hrest⟩ := hrest.bind
      obtain ⟨_, _, _, -, hrest⟩ := hrest.bind
      obtain ⟨_, _, _, -, hrest⟩ := hrest.bind
      obtain ⟨_, _, _, -, hrest⟩ := hrest.bind
      cases hrest.ret.1
    · refine Purge.keeps_restoreAccount.rows h₂ (rows_of_empty hl₁ fun k => ?_)
      cases k <;> first | exact .inl rfl | exact rfl | trivial
    · refine keeps_restoreAccount.rows h₂ (rows_of_empty hl₁ fun k => ?_)
      cases k <;> first | exact .inl rfl | exact rfl | trivial
    · exact restoreAccount_flagged hC (h₁.returns.evolve.later.history hg) hl₁ hlock h₂ hm huser hflag

lemma Ok.of_restored {e : Entry} (hjob : ∃ identity now, e.job = .purge (.account (.exchange identity now)))
    (hout : ∀ record, e.out ≠ .redeemed record) (h : RestoresAccount T e.ran e.ran G) : Ok e G where
  users i := by
    rcases h.users (.users i) with hsame | ⟨rfl, -, hview⟩
    · exact .of_same hsame
    · obtain ⟨u, hu, hdel⟩ := h.row
      obtain ⟨v, hv⟩ := Option.isSome_iff_exists.mp hview
      rw [hu, show (G.view e.ran).get (.users i) = _ from hv]
      exact .restored hdel
  members m := by
    rcases h.members (.memberships m) with hsame | ⟨r, hbase, hview, rfl, hdel, hflag⟩
    · rw [show (G.view e.ran).get (.memberships m) = _ from hsame]
      exact .same _
    · rw [hbase, show (G.view e.ran).get (.memberships m) = _ from hview]
      refine .restored hdel hflag h.lock hjob fun m' r' hbase' hdel' hview' => ?_
      rcases h.members (.memberships m') with hsame | ⟨r₁, hbase₁, -, huser₁, -⟩
      · rw [hbase', show (G.db.apply e.ran.writes).get (.memberships m') = _ from hview'] at hsame
        exact absurd (congrArg Postgres.Membership.deletedAt (Option.some.inj hsame)).symm hdel'
      · rw [hbase'] at hbase₁
        cases hbase₁
        exact huser₁
  groups i := by
    rw [show (G.view e.ran).get (.groups i) = _ from h.members (.groups i)]
    exact .same _
  invites i := by
    rw [show (G.view e.ran).get (.invites i) = _ from h.members (.invites i)]
    exact .same _
  deleteAccount userId hj := by
    obtain ⟨identity, now, hexchange⟩ := hjob
    rw [hexchange] at hj
    cases hj
  restored userId u u' hu hdel hu' hlive m r hm huser hflag := by
    rcases h.users (.users userId) with hsame | ⟨rfl, -, -⟩
    · rw [hu, show (G.db.apply e.ran.writes).get (.users userId) = _ from hu'] at hsame
      have hd : u'.deletedAt = u.deletedAt := Option.some.inj hsame
      rw [hlive] at hd
      exact absurd hd.symm hdel
    · exact h.flagged m r hm huser hflag
  redeemed record ho := absurd ho (hout record)

lemma keeps_exchangeAccount {M : Uuid → Option Membership → Option Membership → Prop}
    {A : Uuid → Option Group → Option Group → Prop} {I : Uuid → Option Invite → Option Invite → Prop} :
    (exchangeAccount identity).Keeps C (onGroups M A I) := by
  refine keeps_select.bind fun found => ?_
  cases found with
  | some userId => exact keeps_ret
  | none =>
    refine keeps_fresh.bind fun _ => keeps_clock.bind fun _ => Keeps.bind (keeps_insertRow fun _ _ => trivial) fun _ => ?_
    refine keeps_fresh.bind fun _ => keeps_clock.bind fun _ =>
      Keeps.bind (keeps_insertOrSkip fun _ _ => trivial) fun claimed => ?_
    split
    · exact keeps_ret
    · exact keeps_select.bind fun _ => keeps_ofOption.bind fun _ =>
        (keeps_delete fun _ _ _ _ _ _ => trivial).bind fun _ => keeps_ret

lemma createSessionRecord_commits (hC : Obeys C) (hg : History C g) (hl : l.writes = []) {e : Entry} (he : e.ran = L)
    (hjob : ∀ userId, e.job ≠ .deleteAccount userId) (hout : ∀ record, e.out ≠ .redeemed record)
    {session : NewRefreshSession} {issued : IssuedSession}
    (h : Runs C (createSessionRecord identity session) l g (.ok issued) L g' L G) : Ok e G := by
  have hrows : Rows Unchanged G L := by
    refine Keeps.rows ?_ h (unchanged_of_empty hl)
    exact keeps_exchangeAccount.bind fun _ => keeps_ensureNotSuspendedForExchange.bind fun _ =>
      (keeps_insertRefreshSession onCore_onGroups).bind fun _ => keeps_ret
  subst he
  rcases Purge.createSessionRecord_rows (drawnUsers hC) hg hl h with husers | ⟨T, hdrawn, hnew, husers⟩
  · refine .of_unchanged (fun i => .of_same (husers (.users i))) hrows hjob hout fun userId u u' hu hdel hu' => ?_
    have hsame : ((G.view e.ran).get (.users userId)).map User.deletedAt = (G.db.get (.users userId)).map User.deletedAt :=
      husers (.users userId)
    rw [hu, hu'] at hsame
    rw [Option.some.inj hsame]
    exact hdel
  · refine .of_unchanged (fun i => .of_created hdrawn hnew (husers (.users i))) hrows hjob hout
      fun userId u u' hu hdel hu' => ?_
    rcases husers (.users userId) with ⟨-, hsame⟩ | ⟨-, hnone, -⟩
    · rw [hu, show (G.db.apply e.ran.writes).get (.users userId) = _ from hu'] at hsame
      rw [Option.some.inj hsame]
      exact hdel
    · rw [hu] at hnone
      cases hnone

lemma exchange_commits (hC : Obeys C) (hg : History C g) {now : Time} {output : AuthExchangeOutput}
    {outcome : Purge.Outcome}
    (h : Runs C (createOrRestoreSession settings identity now) (Local.begin g) g (.ok output) L g' L G) :
    Ok ⟨.purge (.account (.exchange identity now)), .purge outcome, L⟩ G := by
  unfold createOrRestoreSession at h
  obtain ⟨tokenHash, l₁, g₁, h₁, hrest⟩ := h.bind
  obtain ⟨sessionId, l₂, g₂, h₂, hrest⟩ := hrest.bind
  obtain ⟨familyId, l₃, g₃, h₃, hrest⟩ := hrest.bind
  obtain ⟨restored, l₄, g₄, h₄, h₅⟩ := hrest.bind
  have hg₃ : Later C g g₃ :=
    (h₁.returns.evolve.later.trans h₂.returns.evolve.later).trans h₃.returns.evolve.later
  have hl₃ : l₃.writes = [] := by
    rw [h₃.fresh.1, h₂.fresh.1, h₁.fresh.1]
    rfl
  obtain ⟨hnone, hsome⟩ := restoreDeletedIdentityRecord_runs hC (hg₃.history hg) hl₃ h₄.mapError
  cases restored with
  | some issued =>
    obtain ⟨-, rfl⟩ := h₅.ret
    obtain ⟨T, hT⟩ := hsome issued rfl
    exact .of_restored ⟨_, _, rfl⟩ nofun hT
  | none =>
    obtain ⟨issued, l₅, g₅, h₆, h₇⟩ := h₅.bind
    obtain ⟨-, rfl⟩ := h₇.ret
    exact createSessionRecord_commits hC ((hg₃.trans h₄.returns.evolve.later).history hg) (hnone rfl) rfl nofun nofun
      h₆.mapError

end SignIn

section Finalize

variable {user : Uuid} {M : Uuid → Option Membership → Option Membership → Prop}
  {A : Uuid → Option Group → Option Group → Prop} {I : Uuid → Option Invite → Option Invite → Prop}

/-- Deleted groups may change their owner. -/
def Archived (_ : Uuid) (base h : Option Group) : Prop :=
  h = base ∨ ∃ h₀ ownerId, base = some h₀ ∧ h₀.deletedAt ≠ none ∧ h = some { h₀ with ownerId }

/-- Memberships of the user that are over, by themselves or with their group, may go. -/
def Over (user : Uuid) (G : Shared) (_ : Uuid) (base r : Option Membership) : Prop :=
  r = base ∨ ∃ r₀, base = some r₀ ∧ r = none ∧ r₀.userId = user ∧
    (r₀.deletedAt ≠ none ∨ ∃ h, G.db.get (.groups r₀.groupId) = some h ∧ h.deletedAt ≠ none)

/-- Invites may go. -/
def Dropped (_ : Uuid) (base r : Option Invite) : Prop := r = base ∨ r = none

lemma keeps_createTombstone {T : Uuid} : (createTombstone T).Keeps C (onGroups M A I) :=
  keeps_clock.bind fun _ => (keeps_insertRow fun _ _ => trivial).bind fun _ => keeps_clock.bind fun _ =>
    keeps_insertRow fun _ _ => trivial

lemma keeps_reassignArchivedGroupOwners {T : Uuid} :
    (reassignArchivedGroupOwners user T).Keeps C (onGroups M Archived I) := by
  refine Keeps.bind (keeps_update fun s i base t h h' a hh hf => ?_) fun _ => keeps_ret
  split at hf
  · rename_i hcond
    cases hf
    have hd : h.deletedAt ≠ none := Option.isSome_iff_ne_none.mp hcond.2
    rcases hh with rfl | ⟨h₀, o, rfl, hd₀, heq⟩
    · exact .inr ⟨h, T, rfl, hd, rfl⟩
    · cases heq
      exact .inr ⟨h₀, T, rfl, hd₀, rfl⟩
  · cases hf

lemma keeps_deletePrivateAccountRows : (deletePrivateAccountRows user).Keeps C (onGroups M A Dropped) := by
  refine Keeps.bind (keeps_delete fun _ _ _ _ _ _ => trivial) fun _ => ?_
  refine Keeps.bind (keeps_delete fun _ _ _ _ _ _ => trivial) fun _ => ?_
  refine Keeps.bind (keeps_delete fun _ _ _ _ _ _ => trivial) fun _ => ?_
  refine Keeps.bind (keeps_delete fun _ _ _ _ _ _ => trivial) fun _ => ?_
  refine Keeps.bind (keeps_delete fun _ _ _ _ _ _ => .inr rfl) fun _ => ?_
  refine Keeps.bind (keeps_delete fun _ _ _ _ _ _ => trivial) fun _ => ?_
  refine Keeps.bind (keeps_delete fun _ _ _ _ _ _ => trivial) fun _ => ?_
  refine Keeps.bind (keeps_delete fun _ _ _ _ _ _ => trivial) fun _ => ?_
  exact (keeps_delete fun _ _ _ _ _ _ => trivial).bind fun _ => keeps_ensure

/-- A group that the purge sees as deleted is deleted. -/
lemma over_of_snapshot (hC : Obeys C) (hG : History C G) {i n : Nat} {h : Group} (hn : n ≤ G.csn)
    (hrows : Rows (onGroups M Archived I) G l) (hh : ((G.version n).apply l.writes).get (.groups i) = some h)
    (hd : h.deletedAt ≠ none) : ∃ h', G.db.get (.groups i) = some h' ∧ h'.deletedAt ≠ none := by
  by_cases hmem : Key.groups i ∈ l.writes.map Write.key
  · obtain ⟨v, -, hs⟩ := Store.get_apply_of_mem hmem
    have hrow : Archived i (G.db.get (.groups i)) ((G.db.apply l.writes).get (.groups i)) := hrows (.groups i)
    rw [hs] at hh hrow
    rcases hrow with hrow | ⟨h₀, o, hbase, hd₀, -⟩
    · exact ⟨h, hrow.symm.trans hh, hd⟩
    · exact ⟨h₀, hbase, hd₀⟩
  · rw [Store.get_apply_of_notMem _ hmem] at hh
    exact group_over_later hC hG hh hd hn (Nat.le_refl _)

lemma deletePurgeableMemberships_rows (hC : Obeys C) (hg : History C g) {n : Nat}
    (hrows : Rows (onGroups (fun _ base r => r = base) Archived I) G l)
    (h : Runs C (deletePurgeableMemberships user) l g (.ok n) l' g' L G) :
    Rows (onGroups (Over user G) Archived I) G l' := by
  have hG : History C G := h.evolve.later.history hg
  unfold deletePurgeableMemberships at h
  obtain ⟨deleted, l₁, g₁, h₁, h₂⟩ := h.bind
  obtain ⟨-, rfl⟩ := h₂.ret
  obtain ⟨gs, ws, -, hgs', hch⟩ := h₁.delete fun s => s.nodup_ids ..
  have hkeep : ∀ k : Key, (∀ i, k ≠ .memberships i) → (G.db.apply l'.writes).get k = (G.db.apply l.writes).get k :=
    fun k hk => hch.get_of_ne _ fun i _ => hk i
  intro k
  cases k with
  | memberships i =>
    have hbase : (G.db.apply l.writes).get (.memberships i) = G.db.get (.memberships i) := hrows (.memberships i)
    rcases hch.row i with hsame | ⟨j, -, hj, t, r, v, a, -, hr, hf, hafter⟩
    · exact .inl (hsame.trans hbase)
    · cases hj
      split at hf
      · rename_i hended
        cases hf
        refine .inr ⟨r, hbase.symm.trans hr, hafter, ?_⟩
        simp only [endedMembership, Bool.and_eq_true, decide_eq_true_eq, Option.any_eq_true, Bool.or_eq_true,
          Option.isSome_iff_ne_none] at hended
        obtain ⟨huser, h₀, hh₀, hover⟩ := hended
        refine ⟨huser, hover.imp id fun hd => ?_⟩
        exact over_of_snapshot hC hG (hgs'.trans h₁.rest.later).csn_le hrows hh₀ hd
      · cases hf
  | groups i =>
    rw [hkeep (.groups i) nofun]
    exact hrows (.groups i)
  | invites i =>
    rw [hkeep (.invites i) nofun]
    exact hrows (.invites i)
  | _ => trivial

lemma finalizeDeletion_rows (hC : Obeys C) (hg : History C g) (hl : l.writes = []) {report : AccountDeletionReport}
    (h : Runs C (finalizeDeletion user) l g (.ok report) l' g' L G) :
    (.users user, .update) ∈ L.locks ∧ Rows (onGroups (Over user G) Archived Dropped) G l' := by
  unfold finalizeDeletion at h
  obtain ⟨_, l₁, g₁, h₁, hrest⟩ := h.bind
  obtain ⟨T, l₂, g₂, h₂, hrest⟩ := hrest.bind
  obtain ⟨_, l₃, g₃, h₃, hrest⟩ := hrest.bind
  obtain ⟨_, l₄, g₄, h₄, hrest⟩ := hrest.bind
  obtain ⟨_, l₅, g₅, h₅, hrest⟩ := hrest.bind
  obtain ⟨_, l₆, g₆, h₆, hrest⟩ := hrest.bind
  obtain ⟨_, l₇, g₇, h₇, hrest⟩ := hrest.bind
  obtain ⟨_, l₈, g₈, h₈, hrest⟩ := hrest.bind
  obtain ⟨_, l₉, g₉, h₉, hrest⟩ := hrest.bind
  have hlock : (.users user, .update) ∈ l₁.locks := by
    obtain ⟨locked, l₀, g₀, h₀, h₀'⟩ := h₁.bind
    obtain ⟨hne, rfl⟩ := h₀'.ensure
    obtain ⟨gs, -, -, hlocked⟩ := h₀.selectFor nofun
    obtain ⟨a, ha⟩ := List.exists_mem_of_ne_nil _ hne
    obtain ⟨i, hi, t, u, -, hlock, -, -⟩ := hlocked.mem a ha
    obtain ⟨rfl, -⟩ := Store.mem_one.mp hi
    exact hlock
  have hrows₀ : Rows (onGroups (fun _ base r => r = base) Archived Dropped) G l := by
    refine rows_of_empty hl fun k => ?_
    cases k <;> first | exact .inl rfl | exact rfl | trivial
  have hrows₃ := keeps_createTombstone.rows h₃ (keeps_fresh.rows h₂
    ((keeps_selectFor.bind fun _ => keeps_ensure).rows h₁ hrows₀))
  have hrows₇ := (keeps_scrubRetainedPayloads onCore_onGroups).rows h₇
    ((keeps_scrubRetainedNotificationProfiles onCore_onGroups).rows h₆
      ((keeps_reassignRetainedAuthorship onCore_onGroups).rows h₅
        ((keeps_deleteAccountOccurrences onCore_onGroups).rows h₄ hrows₃)))
  have hrows₈ := keeps_reassignArchivedGroupOwners.rows h₈ hrows₇
  have hg₈ : Later C g g₈ := (((((((h₁.returns.evolve.later.trans h₂.returns.evolve.later).trans
    h₃.returns.evolve.later).trans h₄.returns.evolve.later).trans h₅.returns.evolve.later).trans
    h₆.returns.evolve.later).trans h₇.returns.evolve.later).trans h₈.returns.evolve.later)
  have hrows₉ := deletePurgeableMemberships_rows hC (hg₈.history hg) hrows₈ h₉
  refine ⟨h₁.rest.locks hlock, Keeps.rows ?_ hrest hrows₉⟩
  exact (keeps_select.bind fun _ => keeps_ensure).bind fun _ =>
    (keeps_enqueueAndDeleteUnboundUploads onCore_onGroups).bind fun _ =>
      (keeps_enqueueAndDeleteAvatarUploads onCore_onGroups).bind fun _ =>
        keeps_deletePrivateAccountRows.bind fun _ => keeps_ret

lemma finalize_commits (hC : Obeys C) (hg : History C g) {claim : AccountPurgeClaim} {report : AccountDeletionReport}
    {outcome : Purge.Outcome}
    (h : Runs C (finalizeDeletion claim.userId) (Local.begin g) g (.ok report) L g' L G) :
    Ok ⟨.purge (.finalize claim), .purge outcome, L⟩ G := by
  obtain ⟨hlock, hrows⟩ := finalizeDeletion_rows hC hg rfl h
  obtain ⟨T, hdrawn, hnew, hp⟩ := Purge.finalizeDeletion_runs (drawnUsers hC) hg rfl h
  refine ⟨fun i => ?_, fun m => ?_, fun i => ?_, fun i => ?_, nofun, fun userId u u' hu hdel hu' hlive => ?_, nofun⟩
  · by_cases hi : i = claim.userId
    · subst hi
      obtain ⟨u, hu, hdel⟩ := hp.row
      rw [hu, hp.gone]
      exact .purged hdel
    · by_cases hiT : i = T
      · subst hiT
        obtain ⟨v, hv, -⟩ := hp.created
        rw [hv, hp.absent]
        exact .created hdrawn hnew
      · exact .of_same (congrArg _ (hp.others i hi hiT))
  · rcases hrows (.memberships m) with hsame | ⟨r, hbase, hview, huser, hover⟩
    · rw [show (G.view L).get (.memberships m) = _ from hsame]
      exact .same _
    · rw [hbase, show (G.view L).get (.memberships m) = _ from hview]
      exact .purged hover (huser ▸ hlock)
  · rcases hrows (.groups i) with hsame | ⟨h₀, o, hbase, hd, hview⟩
    · rw [show (G.view L).get (.groups i) = _ from hsame]
      exact .same _
    · rw [hbase, show (G.view L).get (.groups i) = _ from hview]
      exact .archived hd
  · rcases hrows (.invites i) with hsame | hview
    · rw [show (G.view L).get (.invites i) = _ from hsame]
      exact .same _
    · rw [show (G.view L).get (.invites i) = _ from hview]
      cases G.db.get (.invites i) with
      | none => exact .same _
      | some r => exact .purged
  · -- a purge restores no account
    by_cases hi : userId = claim.userId
    · rw [hi, hp.gone] at hu'
      cases hu'
    · by_cases hiT : userId = T
      · rw [hiT, hp.absent] at hu
        cases hu
      · rw [hp.others userId hi hiT, hu] at hu'
        cases hu'
        exact absurd hlive hdel

end Finalize

section Programs

/-- The transactions on accounts and of purge workers commit as `Ok` says. -/
theorem purge_commits (hC : Obeys C) (hg : History C g) {job : Purge.Job} {out : Outcome}
    (h : Runs C (program settings (.purge job)) (Local.begin g) g (.ok out) L g' L G) : Ok ⟨.purge job, out, L⟩ G := by
  obtain ⟨outcome, l₁, g₁, h₁, h₂⟩ := h.bind
  obtain ⟨rfl, rfl⟩ := h₂.ret
  have husers : Rows Undisturbed G (Local.begin g) := undisturbed_of_empty rfl
  have hrows : Rows Unchanged G (Local.begin g) := unchanged_of_empty rfl
  have quiet : ∀ {p : Sql Purge.Failure Purge.Outcome}, (∀ T, job ≠ .account (.deleteAccount T)) →
      p.Keeps C Undisturbed → p.Keeps C Unchanged → Runs C p (Local.begin g) g (.ok outcome) L g₁ L G →
      Ok ⟨.purge job, .purge outcome, L⟩ G := fun hjob hU hM hp =>
    .of_undisturbed hjob (hU.rows hp husers) (hM.rows hp hrows)
  have hallows : AllowsProfile Undisturbed := allowsProfile_onAccounts
  cases job with
  | account job =>
    cases job with
    | exchange identity now =>
      obtain ⟨a, l₂, g₂, h₃, h₄⟩ := h₁.mapError.bind
      obtain ⟨rfl, rfl⟩ := h₄.ret
      obtain ⟨b, l₃, g₃, h₅, h₆⟩ := h₃.mapError.bind
      obtain ⟨rfl, rfl⟩ := h₆.ret
      exact exchange_commits hC hg h₅.mapError
    | refresh tokenHash now =>
      exact quiet nofun (((keeps_refresh onCore_onAccounts).mapError.bind fun _ => keeps_ret).mapError.bind fun _ => keeps_ret)
        (((keeps_refresh onCore_onGroups).mapError.bind fun _ => keeps_ret).mapError.bind fun _ => keeps_ret) h₁.mapError
    | logout sessionId now =>
      exact quiet nofun (((keeps_logout onCore_onAccounts).mapError.bind fun _ => keeps_ret).mapError.bind fun _ => keeps_ret)
        (((keeps_logout onCore_onGroups).mapError.bind fun _ => keeps_ret).mapError.bind fun _ => keeps_ret) h₁.mapError
    | suspend command =>
      exact quiet nofun
        (((keeps_suspendUser onCore_onAccounts hallows).mapError.bind fun _ => keeps_ret).mapError.bind fun _ => keeps_ret)
        (((keeps_suspendUser onCore_onGroups allowsProfile_onGroups).mapError.bind fun _ => keeps_ret).mapError.bind
          fun _ => keeps_ret) h₁.mapError
    | unsuspend userId =>
      exact quiet nofun
        (((keeps_unsuspendUser onCore_onAccounts hallows).mapError.bind fun _ => keeps_ret).mapError.bind fun _ => keeps_ret)
        (((keeps_unsuspendUser onCore_onGroups allowsProfile_onGroups).mapError.bind fun _ => keeps_ret).mapError.bind
          fun _ => keeps_ret) h₁.mapError
    | deleteAccount userId =>
      obtain ⟨a, l₂, g₂, h₃, h₄⟩ := h₁.mapError.bind
      obtain ⟨rfl, rfl⟩ := h₄.ret
      obtain ⟨b, l₃, g₃, h₅, h₆⟩ := h₃.mapError.bind
      obtain ⟨rfl, rfl⟩ := h₆.ret
      exact deleteAccount_commits hC hg h₅.mapError
  | claim request =>
    exact quiet nofun ((keeps_claimAccountPurges hallows).mapError.bind fun _ => keeps_ret)
      ((keeps_claimAccountPurges allowsProfile_onGroups).mapError.bind fun _ => keeps_ret) h₁.mapError
  | finalize claim =>
    obtain ⟨report, l₂, g₂, h₃, h₄⟩ := h₁.mapError.bind
    obtain ⟨rfl, rfl⟩ := h₄.ret
    exact finalize_commits hC hg h₃.mapError
  | release claim =>
    exact quiet nofun ((keeps_releaseAccountPurgeClaim hallows).mapError.bind fun _ => keeps_ret)
      ((keeps_releaseAccountPurgeClaim allowsProfile_onGroups).mapError.bind fun _ => keeps_ret) h₁.mapError

end Programs

end JamyeServer.Groups
