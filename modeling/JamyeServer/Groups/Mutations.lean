import JamyeServer.Groups.Accounts

/-!
# What the transactions on groups commit
-/

namespace JamyeServer.Groups

open ReadCommitted Prog Postgres Auth Groups AccountDeletion
open Push (fenceGroupDeletion)
open Purge (onAccounts SameDeletion Undisturbed OnCore onCore_onAccounts undisturbed_of_empty
  keeps_fenceMembershipRevocation keeps_fenceNotificationOccurrences)

variable {settings : Settings} {ticks : Time → Time → Bool} {C : Contract (system settings ticks)}
  {l l' L : Local Row Nat} {g g' G : Shared} {H T actor : Uuid}

section Queries

/-- The account is held and live. -/
lemma requireLiveAccount_holds (hl : l.writes = []) {x : Unit} (h : Runs C (requireLiveAccount T) l g (.ok x) l' g' L G) :
    l'.writes = [] ∧ (.users T, .share) ∈ l'.locks ∧ ∃ u, G.db.get (.users T) = some u ∧ u.deletedAt = none := by
  unfold requireLiveAccount at h
  obtain ⟨found, l₁, g₁, h₁, h₂⟩ := h.bind
  obtain ⟨hne, rfl⟩ := h₂.ensure
  obtain ⟨gs, -, -, hlocked⟩ := h₁.selectFor nofun
  obtain ⟨a, ha⟩ := List.exists_mem_of_ne_nil _ hne
  obtain ⟨i, hi, t, u, -, hlock, hrow, hf⟩ := hlocked.mem a ha
  obtain ⟨rfl, -⟩ := Store.mem_one.mp hi
  dsimp only at hrow
  rw [hl, Store.apply_nil] at hrow
  split at hf
  · rename_i hlive
    exact ⟨by rw [hlocked.frame]; exact hl, hlock, u, hrow, hlive⟩
  · cases hf

/-- The group is held and live, and the record shows it. -/
structure HoldsGroup (H : Uuid) (group : GroupRecord) (h : Group) (l : Local Row Nat) (G : Shared) : Prop where
  lock : (.groups H, .update) ∈ l.locks
  row : G.db.get (.groups H) = some h
  live : h.deletedAt = none
  id : group.id = H
  ownerId : group.ownerId = h.ownerId
  maxMembers : group.maxMembers = h.maxMembers

lemma lockLiveGroup_holds (hl : l.writes = []) {group : GroupRecord}
    (h : Runs C (lockLiveGroup H) l g (.ok group) l' g' L G) :
    l'.writes = [] ∧ l.locks ⊆ l'.locks ∧ ∃ h, HoldsGroup H group h l' G := by
  have hsub := h.returns.evolve.locks
  unfold lockLiveGroup at h
  obtain ⟨found, l₁, g₁, h₁, h₂⟩ := h.bind
  obtain ⟨hhead, rfl⟩ := h₂.ofOption
  obtain ⟨gs, -, -, hlocked⟩ := h₁.selectFor nofun
  obtain ⟨i, hi, t, r, -, hlock, hrow, hf⟩ := hlocked.mem group (List.mem_of_head? hhead)
  dsimp only at hrow hi
  split at hi
  · cases hi
  obtain ⟨rfl, -⟩ := Store.mem_one.mp hi
  rw [hl, Store.apply_nil] at hrow
  refine ⟨by rw [hlocked.frame]; exact hl, hsub, r, ?_⟩
  split at hf
  · cases hf
  · split at hf
    · rename_i hlive
      cases hf
      exact ⟨hlock, hrow, hlive, rfl, rfl, rfl⟩
    · cases hf

lemma mem_memberships {s : Store Row} {m : Uuid} {role : GroupRole} :
    (m, role) ∈ memberships s H T ↔ ∃ r, Member s m r ∧ r.groupId = H ∧ r.userId = T ∧ r.deletedAt = none ∧ r.role = role := by
  simp only [memberships, List.mem_filterMap, Store.mem_ids, Bool.and_eq_true, decide_eq_true_eq,
    Option.isNone_iff_eq_none, Option.map_eq_some_iff, Prod.mk.injEq]
  constructor
  · rintro ⟨i, ⟨r, hr, ⟨⟨hgroup, huser⟩, hlive⟩, haccount⟩, r', hr', rfl, rfl⟩
    obtain rfl : r' = r := Option.some.inj (hr'.symm.trans hr)
    obtain ⟨u, hu, hul⟩ := (Option.any_eq_true _ _).mp haccount
    exact ⟨r', ⟨hr, u, hu, Option.isNone_iff_eq_none.mp hul⟩, hgroup, huser, hlive, rfl⟩
  · rintro ⟨r, ⟨hr, u, hu, hul⟩, hgroup, huser, hlive, rfl⟩
    exact ⟨m, ⟨r, hr, ⟨⟨hgroup, huser⟩, hlive⟩, (Option.any_eq_true _ _).mpr ⟨u, hu, by simp [hul]⟩⟩, r, hr, rfl, rfl⟩

/-- The transaction knows the membership of a user in the group that it holds. -/
structure KnowsMember (H T m : Uuid) (r : Membership) (g G : Shared) : Prop where
  group : r.groupId = H
  user : r.userId = T
  live : r.deletedAt = none
  member : ∀ n, g.csn ≤ n → n ≤ G.csn → Member (G.version n) m r

lemma KnowsMember.row {m : Uuid} {r : Membership} (h : KnowsMember H T m r g G) (hg : g.csn ≤ G.csn) : Member G.db m r :=
  h.member G.csn hg (Nat.le_refl _)

lemma KnowsMember.later {m : Uuid} {r : Membership} (h : KnowsMember H T m r g G) (hg : g.csn ≤ g'.csn) :
    KnowsMember H T m r g' G :=
  ⟨h.group, h.user, h.live, fun n hn hn' => h.member n (Nat.le_trans hg hn) hn'⟩

lemma membership_runs (hC : Obeys C) (hl : l.writes = []) {group : GroupRecord} {h₀ : Group}
    (hheld : HoldsGroup H group h₀ l G) {found : Option (Uuid × GroupRole)}
    (h : Runs C (membership H T) l g (.ok found) l' g' L G) :
    l'.writes = [] ∧ l'.locks = l.locks ∧ (∀ p, found = some p → ∃ r, KnowsMember H T p.1 r g' G ∧ r.role = p.2) ∧
      (found = none → ∃ n, g.csn ≤ n ∧ n ≤ g'.csn ∧ memberships (G.version n) H T = []) := by
  unfold membership at h
  obtain ⟨gs, hgs, hgs', rfl, rfl⟩ := h.select
  rw [hl, Store.apply_nil]
  refine ⟨rfl, rfl, fun p hp => ?_, fun hnone => ⟨gs.csn, hgs.csn_le, hgs'.csn_le, List.head?_eq_none_iff.mp hnone⟩⟩
  obtain ⟨r, hm, hgroup, huser, hlive, hrole⟩ := mem_memberships.mp (List.mem_of_head? hp)
  refine ⟨r, ⟨hgroup, huser, hlive, fun n hn hn' => ?_⟩, hrole⟩
  exact member_stable hC h.evolve hheld.lock hheld.row hheld.live hgroup hlive hgs.csn_le hm
    (Nat.le_trans hgs'.csn_le hn) hn'

lemma HoldsGroup.mono {group : GroupRecord} {h : Group} (hheld : HoldsGroup H group h l G) (hsub : l.locks ⊆ l'.locks) :
    HoldsGroup H group h l' G :=
  ⟨hsub hheld.lock, hheld.row, hheld.live, hheld.id, hheld.ownerId, hheld.maxMembers⟩

lemma requireOwner_runs (hC : Obeys C) (hl : l.writes = []) {group : GroupRecord} {h₀ : Group}
    (hheld : HoldsGroup H group h₀ l G) {p : Uuid × GroupRole}
    (h : Runs C (requireOwner group actor) l g (.ok p) l' g' L G) :
    l'.writes = [] ∧ l'.locks = l.locks ∧ h₀.ownerId = actor ∧ ∃ r, KnowsMember H actor p.1 r g' G ∧ r.role = .owner := by
  unfold requireOwner at h
  rw [hheld.id] at h
  obtain ⟨found, l₁, g₁, h₁, hrest⟩ := h.bind
  obtain ⟨p', l₂, g₂, h₂, hrest⟩ := hrest.bind
  obtain ⟨_, l₃, g₃, h₃, h₄⟩ := hrest.bind
  obtain ⟨hfound, rfl⟩ := h₂.ofOption
  obtain ⟨⟨hrole, howner⟩, rfl⟩ := h₃.ensure
  have hlater : Later C g₁ g' :=
    (h₂.returns.evolve.later.trans h₃.returns.evolve.later).trans h₄.returns.evolve.later
  obtain ⟨rfl, rfl⟩ := h₄.ret
  obtain ⟨hl₁, hlocks, hsome, -⟩ := membership_runs hC hl hheld h₁
  obtain ⟨r, hknows, hr⟩ := hsome p hfound
  exact ⟨hl₁, hlocks, hheld.ownerId.symm.trans howner, r, hknows.later hlater.csn_le, hr.trans hrole⟩

end Queries

section Frames

variable {M : Uuid → Option Membership → Option Membership → Prop} {A : Uuid → Option Group → Option Group → Prop}
  {I : Uuid → Option Invite → Option Invite → Prop} {S : (k : Key) → Option (Row k) → Option (Row k) → Prop}

lemma keeps_lockLiveGroup : (lockLiveGroup H).Keeps C S := keeps_selectFor.bind fun _ => keeps_ofOption

lemma keeps_membership : (membership H T).Keeps C S := keeps_select

lemma keeps_requireOwner {group : GroupRecord} : (requireOwner group actor).Keeps C S :=
  keeps_membership.bind fun _ => keeps_ofOption.bind fun _ => keeps_ensure.bind fun _ => keeps_ret

lemma keeps_appendControlIntent (hS : OnCore S) {intent : RealtimeControlIntent} :
    (appendControlIntent intent).Keeps C S :=
  keeps_fresh.bind fun _ => keeps_clock.bind fun _ => keeps_insertRow fun _ _ => hS _ _ _ rfl

lemma keeps_fenceGroupDeletion (hS : OnCore S) : (fenceGroupDeletion H).Keeps C S :=
  Keeps.bind (keeps_selectFor.bind fun _ => keeps_ret) fun _ => keeps_selectFor.bind fun _ =>
    keeps_fenceNotificationOccurrences hS

/-- A transaction that neither creates nor deletes accounts, nor redeems an invite. -/
lemma Ok.of_rows {e : Entry} (husers : Rows Undisturbed G e.ran) (hrows : Rows (onGroups M A I) G e.ran)
    (hM : ∀ m base r, M m base r → G.db.get (.memberships m) = base → (G.view e.ran).get (.memberships m) = r →
      MemberStep e G base r)
    (hA : ∀ i base h, A i base h → G.db.get (.groups i) = base → (G.view e.ran).get (.groups i) = h →
      GroupStep e G i base h)
    (hI : ∀ i base r, I i base r → InviteStep e G i base r)
    (hjob : ∀ userId, e.job ≠ .deleteAccount userId)
    (hout : ∀ record, e.out = .redeemed record → ∃ actorId code now, e.job = .redeem actorId code now ∧
      (record.joined = false ∧ e.ran.writes = [] ∨
        record.joined = true ∧ ∃ i r m r', Joins e G actorId code record i r m r')) : Ok e G where
  users i := .of_same (husers (.users i))
  members m := hM m _ _ (hrows (.memberships m)) rfl rfl
  groups i := hA i _ _ (hrows (.groups i)) rfl rfl
  invites i := hI i _ _ (hrows (.invites i))
  deleteAccount userId hj := absurd hj (hjob userId)
  restored userId u u' hu hdel hu' hlive := by
    have hsame : ((G.view e.ran).get (.users userId)).map User.deletedAt = (G.db.get (.users userId)).map User.deletedAt :=
      husers (.users userId)
    rw [hu, hu'] at hsame
    have hd : u'.deletedAt = u.deletedAt := Option.some.inj hsame
    rw [hlive] at hd
    exact absurd hd.symm hdel
  redeemed := hout

lemma MemberStep.of_eq {e : Entry} {base r : Option Membership} (h : r = base) : MemberStep e G base r := h ▸ .same _

lemma GroupStep.of_eq {e : Entry} {i : Uuid} {base h : Option Group} (heq : h = base) : GroupStep e G i base h :=
  heq ▸ .same _

lemma InviteStep.of_eq {e : Entry} {i : Uuid} {base r : Option Invite} (h : r = base) : InviteStep e G i base r :=
  h ▸ .same _

end Frames

section Groups

variable {name : String}

lemma keeps_renameGroup {M : Uuid → Option Membership → Option Membership → Prop}
    {I : Uuid → Option Invite → Option Invite → Prop} : (renameGroup H actor name).Keeps C (onGroups M
      (fun _ base h => h = base ∨ ∃ h₀, base = some h₀ ∧ h = some { h₀ with name }) I) := by
  refine keeps_lockLiveGroup.bind fun _ => keeps_requireOwner.bind fun _ =>
    Keeps.bind (keeps_update fun s i base t h h' a hh hf => ?_) fun _ => keeps_ret
  cases hf
  rcases hh with rfl | ⟨h₀, rfl, heq⟩
  · exact .inr ⟨h, rfl, rfl⟩
  · cases heq
    exact .inr ⟨h₀, rfl, rfl⟩

lemma rename_commits {record : GroupRecord}
    (h : Runs C (rename actor H name) (Local.begin g) g (.ok record) L g' L G) :
    Ok ⟨.rename actor H name, .group record, L⟩ G := by
  obtain ⟨_, l₁, g₁, h₁, h₂⟩ := h.bind
  obtain ⟨-, rfl⟩ := h₁.ensure
  have husers : Rows Undisturbed G L := by
    refine Keeps.rows ?_ h₂.mapError (undisturbed_of_empty rfl)
    exact keeps_lockLiveGroup.bind fun _ => keeps_requireOwner.bind fun _ =>
      (keeps_update fun _ _ _ _ _ _ _ _ _ => trivial).bind fun _ => keeps_ret
  have hrows := (keeps_renameGroup (M := fun _ base r => r = base) (I := fun _ base r => r = base)).rows h₂.mapError
    (rows_of_empty rfl fun k => by cases k <;> first | exact .inl rfl | exact rfl | trivial)
  refine .of_rows husers hrows (fun _ _ _ h _ _ => .of_eq h) (fun i base h hA _ _ => ?_) (fun _ _ _ h => .of_eq h) nofun nofun
  rcases hA with rfl | ⟨h₀, rfl, rfl⟩
  · exact .same _
  · exact .renamed

lemma keeps_deleteGroup {M : Uuid → Option Membership → Option Membership → Prop}
    {I : Uuid → Option Invite → Option Invite → Prop} : (deleteGroup H actor).Keeps C (onGroups M
      (fun _ base h => h = base ∨ ∃ h₀ t, base = some h₀ ∧ h = some { h₀ with deletedAt := some t }) I) := by
  refine keeps_lockLiveGroup.bind fun _ => keeps_requireOwner.bind fun _ =>
    Keeps.bind (keeps_update fun s i base t h h' a hh hf => ?_) fun _ => keeps_ret
  cases hf
  rcases hh with rfl | ⟨h₀, t₀, rfl, heq⟩
  · exact .inr ⟨h, t, rfl, rfl⟩
  · cases heq
    exact .inr ⟨h₀, t, rfl, rfl⟩

lemma deleteGroup_commits {intent : RealtimeControlIntent}
    (h : Runs C (revokeGroup actor H) (Local.begin g) g (.ok intent) L g' L G) :
    Ok ⟨.deleteGroup actor H, .revoked intent, L⟩ G := by
  have husers : Rows Undisturbed G L := by
    refine Keeps.rows ?_ h (undisturbed_of_empty rfl)
    refine Keeps.bind (Keeps.mapError (keeps_lockLiveGroup.bind fun _ => keeps_requireOwner.bind fun _ =>
      (keeps_update fun _ _ _ _ _ _ _ _ _ => trivial).bind fun _ => keeps_ret)) fun _ => ?_
    exact (keeps_fenceGroupDeletion onCore_onAccounts).mapError.bind fun _ =>
      (keeps_appendControlIntent onCore_onAccounts).bind fun _ => keeps_ret
  have hrows : Rows (onGroups (fun _ base r => r = base)
      (fun _ base h => h = base ∨ ∃ h₀ t, base = some h₀ ∧ h = some { h₀ with deletedAt := some t })
      fun _ base r => r = base) G L := by
    refine Keeps.rows ?_ h (rows_of_empty rfl fun k => by cases k <;> first | exact .inl rfl | exact rfl | trivial)
    exact keeps_deleteGroup.mapError.bind fun _ => (keeps_fenceGroupDeletion onCore_onGroups).mapError.bind fun _ =>
      (keeps_appendControlIntent onCore_onGroups).bind fun _ => keeps_ret
  refine .of_rows husers hrows (fun _ _ _ h _ _ => .of_eq h) (fun i base h hA _ _ => ?_) (fun _ _ _ h => .of_eq h) nofun nofun
  rcases hA with rfl | ⟨h₀, t, rfl, rfl⟩
  · exact .same _
  · exact .deleted

end Groups

section Invites

lemma keeps_createInvite {command : CreateInviteCommand} {M : Uuid → Option Membership → Option Membership → Prop}
    {A : Uuid → Option Group → Option Group → Prop} : (createInvite command).Keeps C (onGroups M A
      fun i base r => r = base ∨ i = command.inviteId ∧ base = none ∧ ∃ r', r = some r' ∧ r'.usedCount = 0) := by
  refine keeps_lockLiveGroup.bind fun _ => keeps_requireOwner.bind fun _ => keeps_clock.bind fun _ =>
    Keeps.bind (keeps_insert fun base hbase => ?_) fun x => ?_
  · rcases hbase with rfl | ⟨-, -, r', hr', -⟩
    · exact .inr ⟨rfl, rfl, _, rfl, rfl⟩
    · cases hr'
  · cases x with
    | none => exact keeps_references.bind fun _ => keeps_ret
    | some k => exact keeps_fail

lemma issueInvite_commits (hC : Obeys C) (hg : History C g) {code : String} {expiresAt : Option Time}
    {maxUses : Option Nat} {now : Time} {invite : InviteRecord}
    (h : Runs C (issueInvite actor H code expiresAt maxUses now) (Local.begin g) g (.ok invite) L g' L G) :
    Ok ⟨.issueInvite actor H code expiresAt maxUses now, .issued invite, L⟩ G := by
  obtain ⟨_, l₁, g₁, h₁, hrest⟩ := h.bind
  obtain ⟨-, rfl⟩ := h₁.ensure
  obtain ⟨inviteId, l₂, g₂, h₂, h₃⟩ := hrest.bind
  obtain ⟨hdrawn, hnew⟩ := (drawnInvites hC).fresh (h₁.returns.evolve.later.history hg) h₂
  have hl₂ : l₂.writes = [] := by rw [h₂.fresh.1]; rfl
  have husers : Rows Undisturbed G L := by
    refine Keeps.rows ?_ h₃.mapError (undisturbed_of_empty hl₂)
    refine keeps_lockLiveGroup.bind fun _ => keeps_requireOwner.bind fun _ => keeps_clock.bind fun _ =>
      Keeps.bind (keeps_insert fun _ _ => trivial) fun x => ?_
    cases x with
    | none => exact keeps_references.bind fun _ => keeps_ret
    | some k => exact keeps_fail
  have hrows := (keeps_createInvite (M := fun _ base r => r = base) (A := fun _ base h => h = base)).rows h₃.mapError
    (rows_of_empty hl₂ fun k => by cases k <;> first | exact .inl rfl | exact rfl | trivial)
  refine .of_rows husers hrows (fun _ _ _ h _ _ => .of_eq h) (fun _ _ _ h _ _ => .of_eq h) (fun i base r hI => ?_) nofun nofun
  rcases hI with rfl | ⟨rfl, rfl, r', rfl, hunused⟩
  · exact .same _
  · exact .issued hunused hdrawn hnew

end Invites

section Members

/-- One live membership may end. -/
abbrev EndedMember (m : Uuid) : (k : Key) → Option (Row k) → Option (Row k) → Prop :=
  onGroups (fun i base r => r = base ∨ i = m ∧ ∃ r₀ t, base = some r₀ ∧ r = some { r₀ with deletedAt := some t } ∧
    r₀.deletedAt = none) (fun _ base h => h = base) fun _ base r => r = base

lemma keeps_deleteMembership {m : Uuid} : (deleteMembership m).Keeps C (EndedMember m) := by
  refine Keeps.bind (keeps_update_of_mem fun s i base t r r' a hi hr hf => ?_) fun _ => keeps_ensure
  obtain ⟨rfl, -⟩ := Store.mem_one.mp hi
  split at hf
  · rename_i hlive
    cases hf
    rcases hr with rfl | ⟨-, r₀, t₀, -, heq, -⟩
    · exact .inr ⟨rfl, r, t, rfl, rfl, hlive⟩
    · cases heq
      cases hlive
  · cases hf

lemma deleteMembership_rows {m : Uuid} {x : Unit} (hl : l.writes = [])
    (h : Runs C (deleteMembership m) l g (.ok x) l' g' L G) : Rows (EndedMember m) G l' :=
  keeps_deleteMembership.rows h
    (rows_of_empty hl fun k => by cases k <;> first | exact .inl rfl | exact rfl | trivial)

/-- Who is removed is a member of the group, and not its owner. -/
lemma removeMember_runs (hC : Obeys C) (hl : l.writes = []) {x : Unit}
    (h : Runs C (removeMember H actor T) l g (.ok x) l' g' L G) : (.groups H, .update) ∈ L.locks ∧
      ∃ m r, Member G.db m r ∧ r.groupId = H ∧ r.role = .member ∧ Rows (EndedMember m) G l' := by
  unfold removeMember at h
  obtain ⟨group, l₁, g₁, h₁, hrest₁⟩ := h.bind
  obtain ⟨found, l₂, g₂, h₂, hrest₂⟩ := hrest₁.bind
  obtain ⟨p, l₃, g₃, h₃, hrest⟩ := hrest₂.bind
  obtain ⟨hl₁, -, h₀, hheld⟩ := lockLiveGroup_holds hl h₁
  obtain ⟨hl₂, hlocks₂, hactor, -⟩ := membership_runs hC hl₁ hheld h₂
  obtain ⟨hfound, rfl⟩ := h₃.ofOption
  refine ⟨h₁.rest.locks hheld.lock, ?_⟩
  have member_of : ∀ role : GroupRole, role ≠ .owner → role = .member := fun role hrole => by
    cases role with
    | owner => exact absurd rfl hrole
    | member => rfl
  by_cases hself : actor = T
  · rw [if_pos hself] at hrest
    obtain ⟨_, l₄, g₄, h₄, h₅⟩ := hrest.bind
    obtain ⟨hnot, rfl⟩ := h₄.ensure
    obtain ⟨r, hknows, hrole⟩ := hactor p hfound
    refine ⟨p.1, r, hknows.row h₂.rest.later.csn_le, hknows.group, ?_, deleteMembership_rows hl₂ h₅⟩
    exact hrole.trans (member_of _ fun howner => hnot (.inl howner))
  · rw [if_neg hself] at hrest
    obtain ⟨_, l₄, g₄, h₄, hrest₄⟩ := hrest.bind
    obtain ⟨-, rfl⟩ := h₄.ensure
    obtain ⟨found', l₅, g₅, h₅, hrest₅⟩ := hrest₄.bind
    obtain ⟨p', l₆, g₆, h₆, hrest₆⟩ := hrest₅.bind
    obtain ⟨_, l₇, g₇, h₇, h₈⟩ := hrest₆.bind
    obtain ⟨hl₅, -, htarget, -⟩ := membership_runs hC hl₂ (hheld.mono (hlocks₂ ▸ List.Subset.refl _)) h₅
    obtain ⟨hfound', rfl⟩ := h₆.ofOption
    obtain ⟨hnot, rfl⟩ := h₇.ensure
    obtain ⟨r, hknows, hrole⟩ := htarget p' hfound'
    refine ⟨p'.1, r, hknows.row h₅.rest.later.csn_le, hknows.group, ?_, deleteMembership_rows hl₅ h₈⟩
    exact hrole.trans (member_of _ fun howner => hnot (.inl howner))

lemma keeps_removeMember {A : Uuid → Option User → Option User → Prop}
    {B : Uuid → Option AnonymousAuthorTombstone → Option AnonymousAuthorTombstone → Prop} :
    (removeMember H actor T).Keeps C (onAccounts A B) := by
  have hdelete : ∀ m, (deleteMembership m).Keeps C (onAccounts A B) := fun _ =>
    (keeps_update fun _ _ _ _ _ _ _ _ _ => trivial).bind fun _ => keeps_ensure
  refine keeps_lockLiveGroup.bind fun _ => keeps_membership.bind fun _ => keeps_ofOption.bind fun p => ?_
  split
  · exact keeps_ensure.bind fun _ => hdelete _
  · exact keeps_ensure.bind fun _ => keeps_membership.bind fun _ => keeps_ofOption.bind fun _ =>
      keeps_ensure.bind fun _ => hdelete _

lemma removeMember_commits (hC : Obeys C) {intent : RealtimeControlIntent}
    (h : Runs C (revokeMember actor H T) (Local.begin g) g (.ok intent) L g' L G) :
    Ok ⟨.removeMember actor H T, .revoked intent, L⟩ G := by
  have husers : Rows Undisturbed G L := by
    refine Keeps.rows ?_ h (undisturbed_of_empty rfl)
    exact keeps_removeMember.mapError.bind fun _ => (keeps_fenceMembershipRevocation onCore_onAccounts).mapError.bind
      fun _ => (keeps_appendControlIntent onCore_onAccounts).bind fun _ => keeps_ret
  unfold revokeMember at h
  obtain ⟨_, l₁, g₁, h₁, hrest⟩ := h.bind
  obtain ⟨hlock, m, r, ⟨hrow, -⟩, hgroup, hrole, hrows₁⟩ := removeMember_runs hC rfl h₁.mapError
  have hrows : Rows (EndedMember m) G L := by
    refine Keeps.rows ?_ hrest hrows₁
    exact (keeps_fenceMembershipRevocation onCore_onGroups).mapError.bind fun _ =>
      (keeps_appendControlIntent onCore_onGroups).bind fun _ => keeps_ret
  refine .of_rows husers hrows (fun i base r' hM hbase _ => ?_) (fun _ _ _ h _ _ => .of_eq h) (fun _ _ _ h => .of_eq h)
    nofun nofun
  rcases hM with rfl | ⟨rfl, r₀, t, rfl, rfl, hlive⟩
  · exact .same _
  · obtain rfl : r₀ = r := Option.some.inj (hbase.symm.trans hrow)
    exact .ended hrole hlive (hgroup ▸ hlock)

end Members

section Roles

/-- What the transfer of a group leaves in its tables. -/
structure TransfersRows (H a t : Uuid) (h : Group) (r r' : Membership) (l l' : Local Row Nat) (G : Shared) : Prop where
  group : (G.db.apply l'.writes).get (.groups H) = some { h with ownerId := r'.userId }
  source : (G.db.apply l'.writes).get (.memberships a) = some { r with role := .member }
  target : (G.db.apply l'.writes).get (.memberships t) = some { r' with role := .owner }
  others : ∀ k, k ≠ .groups H → k ≠ .memberships a → k ≠ .memberships t →
    (G.db.apply l'.writes).get k = (G.db.apply l.writes).get k

/-- The three statements of a transfer. -/
def transfer (H a t target : Uuid) : Sql GroupsRepositoryError Unit := do
  let _ ← update Tables.groups (fun s => s.one Tables.groups H fun _ => true)
    (fun _ _ _ g => some ({ g with ownerId := target }, ())) (.unavailable "group_owner_update")
  let _ ← update Tables.memberships (fun s => s.one Tables.memberships a fun _ => true)
    (fun _ _ _ m => some ({ m with role := .member }, ())) (.unavailable "owner_demote")
  let _ ← update Tables.memberships (fun s => s.one Tables.memberships t fun _ => true)
    (fun _ _ _ m => some ({ m with role := .owner }, ())) (.unavailable "owner_promote")
  ret ()

lemma transfer_runs (hl : l.writes = []) {group : GroupRecord} {h₀ : Group} (hheld : HoldsGroup H group h₀ l G)
    {a t : Uuid} {r r' : Membership} (ha : KnowsMember H actor a r g G) (ht : KnowsMember H T t r' g G) (hne : a ≠ t)
    {x : Unit} (h : Runs C (transfer H a t T) l g (.ok x) l' g' L G) : TransfersRows H a t h₀ r r' l l' G := by
  have hgroup : ∀ n, g.csn ≤ n → n ≤ G.csn → (G.version n).get (.groups H) = some h₀ := fun n hn hn' => by
    rw [h.evolve.version_locked hheld.lock nofun hn hn', ← h.evolve.db_locked hheld.lock nofun]
    exact hheld.row
  unfold transfer at h
  obtain ⟨_, l₁, g₁, h₁, hrest⟩ := h.bind
  obtain ⟨_, l₂, g₂, h₂, hrest⟩ := hrest.bind
  obtain ⟨_, l₃, g₃, h₃, h₄⟩ := hrest.bind
  obtain ⟨-, rfl⟩ := h₄.ret
  have hg₁ : g.csn ≤ g₁.csn := h₁.returns.evolve.later.csn_le
  have hg₂ : g.csn ≤ g₂.csn := Nat.le_trans hg₁ h₂.returns.evolve.later.csn_le
  obtain ⟨hG, hkeep₁, -⟩ := h₁.update_one (T := Tables.groups) (r := h₀) (v := { h₀ with ownerId := T }) (a := ())
    (fun n hn hn' => by rw [hl, Store.apply_nil]; exact hgroup n hn hn') rfl fun _ _ => rfl
  obtain ⟨hA, hkeep₂, -⟩ := h₂.update_one (T := Tables.memberships) (r := r) (v := { r with role := .member }) (a := ())
    (fun n hn hn' => by
      rw [hkeep₁ _ (.memberships a) nofun, hl, Store.apply_nil]
      exact (ha.member n (Nat.le_trans hg₁ hn) hn').1) rfl fun _ _ => rfl
  obtain ⟨hT, hkeep₃, -⟩ := h₃.update_one (T := Tables.memberships) (r := r') (v := { r' with role := .owner }) (a := ())
    (fun n hn hn' => by
      rw [hkeep₂ _ (.memberships t) (by simpa using Ne.symm hne), hkeep₁ _ (.memberships t) nofun, hl, Store.apply_nil]
      exact (ht.member n (Nat.le_trans hg₂ hn) hn').1) rfl fun _ _ => rfl
  refine ⟨?_, ?_, hT, fun k hk₁ hk₂ hk₃ => ?_⟩
  · rw [hkeep₃ _ (.groups H) nofun, hkeep₂ _ (.groups H) nofun, hG, ht.user]
  · rw [hkeep₃ _ (.memberships a) (by simpa using hne), hA]
  · rw [hkeep₃ _ _ hk₃, hkeep₂ _ _ hk₂, hkeep₁ _ _ hk₁]

/-- A role is set: nothing happens, or the group is transferred. -/
lemma setMemberRole_runs (hC : Obeys C) (hl : l.writes = []) {role : GroupRole} {x : Unit}
    (h : Runs C (setMemberRole H actor T role) l g (.ok x) l' g' L G) : l'.writes = [] ∨
      (.groups H, .update) ∈ L.locks ∧ ∃ h₀ a t r r', TransfersRows H a t h₀ r r' l l' G ∧
        G.db.get (.groups H) = some h₀ ∧ Member G.db a r ∧ Member G.db t r' ∧ r.groupId = H ∧ r'.groupId = H ∧
        r.role = .owner ∧ r'.role = .member ∧ r.deletedAt = none ∧ r'.deletedAt = none ∧ h₀.ownerId ≠ r'.userId := by
  unfold setMemberRole at h
  obtain ⟨group, l₁, g₁, h₁, hrest₁⟩ := h.bind
  obtain ⟨p, l₂, g₂, h₂, hrest₂⟩ := hrest₁.bind
  obtain ⟨found, l₃, g₃, h₃, hrest₃⟩ := hrest₂.bind
  obtain ⟨q, l₄, g₄, h₄, hrest₄⟩ := hrest₃.bind
  obtain ⟨_, l₅, g₅, h₅, hrest⟩ := hrest₄.bind
  obtain ⟨hl₁, -, h₀, hheld⟩ := lockLiveGroup_holds hl h₁
  obtain ⟨hl₂, hlocks₂, -, r, hknows, hrole⟩ := requireOwner_runs hC hl₁ hheld h₂
  have hheld₂ : HoldsGroup H group h₀ l₂ G := hheld.mono (hlocks₂ ▸ List.Subset.refl _)
  obtain ⟨hl₃, hlocks₃, hsome, -⟩ := membership_runs hC hl₂ hheld₂ h₃
  obtain ⟨hfound, rfl⟩ := h₄.ofOption
  obtain ⟨hnot, rfl⟩ := h₅.ensure
  obtain ⟨r', hknows', hrole'⟩ := hsome q hfound
  have hq : r'.role = .member := by
    rw [hrole']
    cases hx : q.2 with
    | owner => exact absurd (.inl hx) hnot
    | member => rfl
  have hlater : Later C g₃ g₅ := h₄.returns.evolve.later.trans h₅.returns.evolve.later
  have hknows₅ := hknows.later (h₃.returns.evolve.later.trans hlater).csn_le
  have hknows₅' := hknows'.later hlater.csn_le
  cases role with
  | member =>
    obtain ⟨-, rfl⟩ := hrest.ret
    exact .inl hl₃
  | owner =>
    have hne : p.1 ≠ q.1 := by
      intro heq
      have hrow := (hknows₅.row h₅.rest.later.csn_le).1
      rw [heq, (hknows₅'.row h₅.rest.later.csn_le).1] at hrow
      cases hrow
      rw [hrole] at hq
      cases hq
    have hrows := transfer_runs hl₃ (hheld₂.mono (hlocks₃ ▸ List.Subset.refl _)) hknows₅ hknows₅' hne hrest
    refine .inr ⟨h₁.rest.locks hheld.lock, h₀, p.1, q.1, r, r', ?_, hheld.row, hknows₅.row h₅.rest.later.csn_le,
      hknows₅'.row h₅.rest.later.csn_le, hknows.group, hknows'.group, hrole, hq, hknows.live, hknows'.live, ?_⟩
    · exact ⟨hrows.group, hrows.source, hrows.target, fun k hk₁ hk₂ hk₃ => by rw [hrows.others k hk₁ hk₂ hk₃, hl₃, hl]⟩
    · rw [hknows'.user, ← hheld.ownerId]
      exact fun howner => hnot (.inr howner)

lemma setRole_commits (hC : Obeys C) {role : GroupRole} {x : Unit}
    (h : Runs C (setRole actor H T role) (Local.begin g) g (.ok x) L g' L G) :
    Ok ⟨.setRole actor H T role, .done, L⟩ G := by
  rcases setMemberRole_runs hC rfl h.mapError with hl | ⟨hlock, h₀, a, t, r, r', hrows, hH, ⟨ha, -⟩, ⟨ht, u, hu, hul⟩, hra,
    hrt, hrole, hrole', hlive, hlive', hne⟩
  · exact .of_rows (undisturbed_of_empty hl) (unchanged_of_empty hl) (fun _ _ _ h _ _ => .of_eq h)
      (fun _ _ _ h _ _ => .of_eq h) (fun _ _ _ h => .of_eq h) nofun nofun
  have hothers : ∀ k, k ≠ .groups H → k ≠ .memberships a → k ≠ .memberships t → (G.view L).get k = G.db.get k :=
    fun k hk₁ hk₂ hk₃ => hrows.others k hk₁ hk₂ hk₃
  have hchanged : (G.db.get (.groups H)).map Group.ownerId ≠ ((G.view L).get (.groups H)).map Group.ownerId := by
    rw [hH, show (G.view L).get (.groups H) = _ from hrows.group]
    simpa using hne
  have htransfer : Transferred ⟨.setRole actor H T role, .done, L⟩ G H a t r r' r'.userId := {
    sourceRow := ha
    sourceGroup := hra
    sourceRole := hrole
    targetRow := ht
    targetGroup := hrt
    targetLive := hlive'
    targetUser := rfl
    targetRole := hrole'
    demoted := hrows.source
    promoted := hrows.target
    others m hma hmt := hothers _ nofun (by simpa using hma) (by simpa using hmt)
    account := ⟨u, (hothers (.users r'.userId) nofun nofun nofun).trans hu, hul⟩ }
  refine ⟨fun i => .of_same (congrArg _ (hothers _ nofun nofun nofun)), fun m => ?_, fun i => ?_,
    fun i => .of_eq (hothers _ nofun nofun nofun), nofun, fun userId v v' hv hdel hv' hvl => ?_, nofun⟩
  · by_cases hma : m = a
    · rw [hma, ha, show (G.view L).get (.memberships a) = _ from hrows.source]
      exact .transferred hlive (hra ▸ hlock) (hra ▸ hchanged)
    · by_cases hmt : m = t
      · rw [hmt, ht, show (G.view L).get (.memberships t) = _ from hrows.target]
        exact .transferred hlive' (hrt ▸ hlock) (hrt ▸ hchanged)
      · exact .of_eq (hothers _ nofun (by simpa using hma) (by simpa using hmt))
  · by_cases hi : i = H
    · rw [hi, hH, show (G.view L).get (.groups H) = _ from hrows.group]
      exact .transferred htransfer
    · exact .of_eq (hothers _ (by simpa using hi) nofun nofun)
  · have hsame : (G.view L).get (.users userId) = _ := hothers _ nofun nofun nofun
    rw [hsame, hv] at hv'
    cases hv'
    exact absurd hvl hdel

end Roles

section Foundation

lemma insertMembership_runs {id : Uuid} {role : GroupRole} {operation : String} {x : Unit}
    (h : Runs C (insertMembership id H T role operation) l g (.ok x) l' g' L G) : ∃ now,
      InsertedRow (.memberships id) { groupId := H, userId := T, role, joinedAt := now } [.groups H, .users T] l l' G := by
  unfold insertMembership at h
  obtain ⟨now, l₁, g₁, h₁, hrest⟩ := h.bind
  obtain ⟨rfl, -⟩ := h₁.clock
  obtain ⟨y, l₂, g₂, h₂, h₃⟩ := hrest.bind
  rcases h₂.insert with ⟨rfl, rfl, habs⟩ | ⟨hy, -⟩
  · obtain ⟨hframe, hall⟩ := h₃.references
    refine ⟨now, by rw [hframe], h₃.returns.evolve.locks List.mem_cons_self, habs, fun p hp => ?_⟩
    obtain ⟨hl, hget⟩ := hall p hp
    refine ⟨hl, ?_⟩
    rw [hframe]
    exact hget
  · obtain ⟨k, rfl⟩ := Option.ne_none_iff_exists'.mp hy
    exact (Runs.not_fail h₃).elim

/-- What the creation of a group leaves in its tables. -/
structure CreatesRows (groupId memberId roomId ownerId : Uuid) (h : Group) (r : Membership) (l' : Local Row Nat)
    (G : Shared) : Prop where
  group : (G.db.apply l'.writes).get (.groups groupId) = some h
  live : h.deletedAt = none
  owner : h.ownerId = ownerId
  seats : h.maxMembers = defaultGroupMemberCap
  member : (G.db.apply l'.writes).get (.memberships memberId) = some r
  absent : G.db.get (.memberships memberId) = none
  memberOf : r.groupId = groupId ∧ r.userId = ownerId ∧ r.role = .owner ∧ r.deletedAt = none ∧ r.accountDeletedAt = none
  others : ∀ k, k ≠ .groups groupId → k ≠ .memberships memberId → k ≠ .chatrooms roomId →
    (G.db.apply l'.writes).get k = G.db.get k
  account : ∃ u, G.db.get (.users ownerId) = some u ∧ u.deletedAt = none

lemma createGroup_runs (hl : l.writes = []) {groupId memberId roomId ownerId : Uuid} {name : String} {record : GroupRecord}
    (h : Runs C (createGroup ⟨groupId, memberId, roomId, ownerId, name, defaultGroupMemberCap⟩) l g (.ok record) l' g' L G) :
    (.users ownerId, .share) ∈ L.locks ∧ ∃ h r, CreatesRows groupId memberId roomId ownerId h r l' G := by
  unfold createGroup at h
  obtain ⟨_, l₁, g₁, h₁, hrest₁⟩ := h.bind
  obtain ⟨createdAt, l₂, g₂, h₂, hrest₂⟩ := hrest₁.bind
  obtain ⟨rfl, -⟩ := h₂.clock
  obtain ⟨_, l₃, g₃, h₃, hrest₃⟩ := hrest₂.bind
  obtain ⟨_, l₄, g₄, h₄, hrest₄⟩ := hrest₃.bind
  obtain ⟨now, l₅, g₅, h₅, hrest₅⟩ := hrest₄.bind
  obtain ⟨rfl, -⟩ := h₅.clock
  obtain ⟨_, l₆, g₆, h₆, h₇⟩ := hrest₅.bind
  obtain ⟨-, rfl⟩ := h₇.ret
  obtain ⟨hl₁, hlock, haccount⟩ := requireLiveAccount_holds hl h₁
  have hgroup := h₃.insertRow
  obtain ⟨now', hmember⟩ := insertMembership_runs h₄
  have hroom := h₆.insertRow
  have hgroupRow := hgroup.get G.db
  rw [← hmember.get_of_ne _ (nofun : Key.groups groupId ≠ .memberships memberId),
    ← hroom.get_of_ne _ (nofun : Key.groups groupId ≠ .chatrooms roomId)] at hgroupRow
  have hmemberRow := hmember.get G.db
  rw [← hroom.get_of_ne _ (nofun : Key.memberships memberId ≠ .chatrooms roomId)] at hmemberRow
  refine ⟨h₁.rest.locks hlock, _, _, hgroupRow, rfl, rfl, rfl, hmemberRow, ?_, ⟨rfl, rfl, rfl, rfl, rfl⟩,
    fun k hk₁ hk₂ hk₃ => ?_, haccount⟩
  · have habsent := hmember.absent
    rwa [hgroup.get_of_ne _ (nofun : Key.memberships memberId ≠ .groups groupId), hl₁, Store.apply_nil] at habsent
  · rw [hroom.get_of_ne _ hk₃, hmember.get_of_ne _ hk₂, hgroup.get_of_ne _ hk₁, hl₁, Store.apply_nil]

lemma create_commits (hC : Obeys C) (hg : History C g) {ownerId : Uuid} {name : String} {record : GroupRecord}
    (h : Runs C (create ownerId name) (Local.begin g) g (.ok record) L g' L G) :
    Ok ⟨.create ownerId name, .group record, L⟩ G := by
  obtain ⟨_, l₁, g₁, h₁, hrest₁⟩ := h.bind
  obtain ⟨-, rfl⟩ := h₁.ensure
  obtain ⟨groupId, l₂, g₂, h₂, hrest₂⟩ := hrest₁.bind
  obtain ⟨memberId, l₃, g₃, h₃, hrest₃⟩ := hrest₂.bind
  obtain ⟨roomId, l₄, g₄, h₄, h₅⟩ := hrest₃.bind
  obtain ⟨hdrawn, hnew⟩ := (drawnGroups hC).fresh (h₁.returns.evolve.later.history hg) h₂
  have hl₄ : l₄.writes = [] := by
    rw [h₄.fresh.1, h₃.fresh.1, h₂.fresh.1]
    rfl
  obtain ⟨hlock, h₀, r, hrows⟩ := createGroup_runs hl₄ h₅.mapError
  obtain ⟨hgroup, huser, hrole, hlive, hflag⟩ := hrows.memberOf
  have hothers : ∀ k, k ≠ .groups groupId → k ≠ .memberships memberId → k ≠ .chatrooms roomId →
      (G.view L).get k = G.db.get k := hrows.others
  obtain ⟨u, hu, hul⟩ := hrows.account
  have hfounded : Founded ⟨.create ownerId name, .group record, L⟩ G groupId h₀ memberId r := {
    live := hrows.live
    drawn := hdrawn
    new := hnew
    member := hrows.member
    group := hgroup
    role := hrole
    owner := huser.trans hrows.owner.symm
    notOver := hlive
    others i hi := hothers _ nofun (by simpa using hi) nofun
    account := ⟨u, by rw [hrows.owner]; exact (hothers (.users ownerId) nofun nofun nofun).trans hu, hul⟩
    userLock := hrows.owner ▸ hlock
    seats := by rw [hrows.seats]; decide }
  refine ⟨fun i => .of_same (congrArg _ (hothers _ nofun nofun nofun)), fun m => ?_, fun i => ?_,
    fun i => .of_eq (hothers _ nofun nofun nofun), nofun, fun userId v v' hv hdel hv' hvl => ?_, nofun⟩
  · by_cases hm : m = memberId
    · rw [hm, hrows.absent, show (G.view L).get (.memberships memberId) = _ from hrows.member]
      refine .founded hlive hflag (hgroup ▸ hnew) (huser ▸ hlock) (by rw [huser, hu]; exact nofun) ?_
      rw [hgroup, show (G.view L).get (.groups groupId) = _ from hrows.group]
      exact nofun
    · exact .of_eq (hothers _ nofun (by simpa using hm) nofun)
  · by_cases hi : i = groupId
    · rw [hi, show G.db.get (.groups groupId) = none from hnew G.csn (Nat.le_refl _),
        show (G.view L).get (.groups groupId) = _ from hrows.group]
      exact .founded hfounded
    · exact .of_eq (hothers _ (by simpa using hi) nofun nofun)
  · have hsame : (G.view L).get (.users userId) = _ := hothers _ nofun nofun nofun
    rw [hsame, hv] at hv'
    cases hv'
    exact absurd hvl hdel

end Foundation

section Redemption

variable {code : String} {now : Time} {memberId : Uuid}

/-- The transaction has counted the members of the group while it held the group. -/
def Counted (C : Contract (system settings ticks)) (H seats : Nat) (L : Local Row Nat) (G : Shared) : Prop :=
  ∃ l g n, (.groups H, .update) ∈ l.locks ∧ Evolve C l g L G ∧ g.csn ≤ n ∧ n ≤ G.csn ∧
    (liveMembers (G.version n) H).length < seats

/-- What a redemption that joins leaves in its tables. -/
structure JoinsRows (C : Contract (system settings ticks)) (actor : Uuid) (code : String) (memberId inviteId : Uuid)
    (h : Group) (r : Invite) (m : Membership) (l' L : Local Row Nat) (G : Shared) : Prop where
  userLock : (.users actor, .share) ∈ L.locks
  groupLock : (.groups r.groupId, .update) ∈ L.locks
  account : ∃ u, G.db.get (.users actor) = some u ∧ u.deletedAt = none
  group : G.db.get (.groups r.groupId) = some h
  live : h.deletedAt = none
  invite : G.db.get (.invites inviteId) = some r
  code : r.code = code
  notDeleted : r.deletedAt = none
  usable : Invite.usable r = true
  used : (G.db.apply l'.writes).get (.invites inviteId) = some { r with usedCount := r.usedCount + 1 }
  absent : G.db.get (.memberships memberId) = none
  member : (G.db.apply l'.writes).get (.memberships memberId) = some m
  memberOf : m.groupId = r.groupId ∧ m.userId = actor ∧ m.role = .member ∧ m.deletedAt = none ∧ m.accountDeletedAt = none
  others : ∀ k, k ≠ .invites inviteId → k ≠ .memberships memberId → (G.db.apply l'.writes).get k = G.db.get k
  counted : Counted C r.groupId h.maxMembers L G

/-- The invite is held and live. -/
lemma lockInvite_holds (hl : l.writes = []) {found : List (Uuid × Invite)} {p : Uuid × Invite}
    (h : Runs C (selectFor .update Tables.invites (fun s => invitesWith s code)
      (fun _ i _ r => if r.code = code ∧ r.deletedAt = none then some (i, r) else none) :
        Sql GroupsRepositoryError (List (Uuid × Invite))) l g (.ok found) l' g' L G) (hp : found.head? = some p) :
    l'.writes = [] ∧ (.invites p.1, .update) ∈ l'.locks ∧ G.db.get (.invites p.1) = some p.2 ∧ p.2.code = code ∧
      p.2.deletedAt = none := by
  obtain ⟨gs, -, -, hlocked⟩ := h.selectFor nofun
  obtain ⟨i, hi, t, r, -, hlock, hrow, hf⟩ := hlocked.mem p (List.mem_of_head? hp)
  dsimp only at hrow
  rw [hl, Store.apply_nil] at hrow
  split at hf
  · rename_i hcond
    cases hf
    exact ⟨by rw [hlocked.frame]; exact hl, hlock, hrow, hcond⟩
  · cases hf

/-- The statements of a redemption that write. -/
def join (memberId H actor inviteId : Uuid) : Sql GroupsRepositoryError InviteJoinRecord := do
  insertMembership memberId H actor .member "invite_membership_insert"
  let consumed ← update Tables.invites
    (fun s => s.one Tables.invites inviteId fun r => r.deletedAt.isNone && Invite.usable r)
    (fun _ _ _ r =>
      if r.deletedAt.isNone && Invite.usable r then some ({ r with usedCount := r.usedCount + 1 }, ()) else none)
    (.unavailable "invite_consume")
  ensure (consumed ≠ []) .inviteExhausted
  ret ⟨H, some memberId, true⟩

lemma join_runs (hl : l.writes = []) {inviteId : Uuid} {r : Invite} (hlock : (.invites inviteId, .update) ∈ l.locks)
    (hinvite : G.db.get (.invites inviteId) = some r) (hlive : r.deletedAt = none) (husable : Invite.usable r = true)
    {record : InviteJoinRecord} (h : Runs C (join memberId H actor inviteId) l g (.ok record) l' g' L G) :
    record = ⟨H, some memberId, true⟩ ∧ G.db.get (.memberships memberId) = none ∧
      (∃ m, (G.db.apply l'.writes).get (.memberships memberId) = some m ∧ m.groupId = H ∧ m.userId = actor ∧
        m.role = .member ∧ m.deletedAt = none ∧ m.accountDeletedAt = none) ∧
      (G.db.apply l'.writes).get (.invites inviteId) = some { r with usedCount := r.usedCount + 1 } ∧
      ∀ k, k ≠ .invites inviteId → k ≠ .memberships memberId → (G.db.apply l'.writes).get k = G.db.get k := by
  have hrow : ∀ n, g.csn ≤ n → n ≤ G.csn → (G.version n).get (.invites inviteId) = some r := fun n hn hn' => by
    rw [h.evolve.version_locked hlock nofun hn hn', ← h.evolve.db_locked hlock nofun]
    exact hinvite
  unfold join at h
  obtain ⟨_, l₁, g₁, h₁, hrest₁⟩ := h.bind
  obtain ⟨consumed, l₂, g₂, h₂, hrest₂⟩ := hrest₁.bind
  obtain ⟨_, l₃, g₃, h₃, h₄⟩ := hrest₂.bind
  obtain ⟨-, rfl⟩ := h₃.ensure
  obtain ⟨hrecord, rfl⟩ := h₄.ret
  obtain ⟨t, hmember⟩ := insertMembership_runs h₁
  have hcond : (r.deletedAt.isNone && Invite.usable r) = true := by simp [hlive, husable]
  obtain ⟨hused, hkeep, -⟩ := h₂.update_one (T := Tables.invites) (r := r) (v := { r with usedCount := r.usedCount + 1 })
    (a := ()) (fun n hn hn' => by
      rw [hmember.get_of_ne _ (nofun : Key.invites inviteId ≠ .memberships memberId), hl, Store.apply_nil]
      exact hrow n (Nat.le_trans h₁.returns.evolve.later.csn_le hn) hn') hcond fun _ _ => by rw [if_pos hcond]
  have habsent := hmember.absent
  rw [hl, Store.apply_nil] at habsent
  have hmemberRow := hmember.get G.db
  rw [← hkeep _ _ (nofun : Key.memberships memberId ≠ .invites inviteId)] at hmemberRow
  refine ⟨hrecord, habsent, ⟨_, hmemberRow, rfl, rfl, rfl, rfl, rfl⟩, hused, fun k hk₁ hk₂ => ?_⟩
  rw [hkeep _ _ hk₁, hmember.get_of_ne _ hk₂, hl, Store.apply_nil]

/-- The rest of a redemption, by a user who did not seem to be a member. -/
def joinWith (command : RedeemInviteCommand) (group : GroupRecord) (H : Uuid) :
    Sql GroupsRepositoryError InviteJoinRecord := do
  let locked ← selectFor .update Tables.invites (fun s => invitesWith s command.code)
    (fun _ i _ r => if r.code = command.code ∧ r.deletedAt = none then some (i, r) else none)
  let invite ← ofOption locked.head? .inviteNotFound
  ensure (invite.2.groupId = H) .invalidData
  let existing ← membership H command.actorId
  if existing.isSome then ret ⟨H, none, false⟩
  else do
    ensure (invite.2.expiresAt.any (fun t => decide (t ≤ command.now)) = false) .inviteExpired
    ensure (Invite.usable invite.2) .inviteExhausted
    let memberCount ← select fun s => (liveMembers s H).length
    ensure (memberCount < group.maxMembers) .groupFull
    join command.membershipId H command.actorId invite.1

lemma redeemInvite_eq {command : RedeemInviteCommand} : redeemInvite command = (do
    requireLiveAccount command.actorId
    let found ← select fun s => ((invitesWith s command.code).head?).bind fun i =>
      (s.get (.invites i)).map Invite.groupId
    let groupId ← ofOption found .inviteNotFound
    let group ← lockLiveGroup groupId
    let existing ← membership groupId command.actorId
    if existing.isSome then ret ⟨groupId, none, false⟩ else joinWith command group groupId) := rfl

lemma joinWith_runs (hC : Obeys C) (hl : l.writes = []) {group : GroupRecord} {h₀ : Group}
    (hheld : HoldsGroup H group h₀ l G) (huser : (.users actor, .share) ∈ l.locks)
    (haccount : ∃ u, G.db.get (.users actor) = some u ∧ u.deletedAt = none) {record : InviteJoinRecord}
    (h : Runs C (joinWith ⟨memberId, actor, code, now⟩ group H) l g (.ok record) l' g' L G) :
    record.joined = false ∧ l'.writes = [] ∨
      ∃ i r m, r.groupId = H ∧ record = ⟨H, some memberId, true⟩ ∧ JoinsRows C actor code memberId i h₀ r m l' L G := by
  have hev := h.evolve
  unfold joinWith at h
  obtain ⟨locked, l₁, g₁, h₁, hrest₁⟩ := h.bind
  obtain ⟨p, l₂, g₂, h₂, hrest₂⟩ := hrest₁.bind
  obtain ⟨_, l₃, g₃, h₃, hrest₃⟩ := hrest₂.bind
  obtain ⟨existing, l₄, g₄, h₄, hrest₄⟩ := hrest₃.bind
  obtain ⟨hp, rfl⟩ := h₂.ofOption
  obtain ⟨hgroup, rfl⟩ := h₃.ensure
  obtain ⟨hl₁, hlock, hinvite, hcode, hlive⟩ := lockInvite_holds hl h₁ hp
  have hheld₁ : HoldsGroup H group h₀ l₃ G := hheld.mono h₁.returns.evolve.locks
  obtain ⟨hl₄, hlocks₄, -, -⟩ := membership_runs hC hl₁ hheld₁ h₄
  by_cases hsome : existing.isSome = true
  · rw [if_pos hsome] at hrest₄
    obtain ⟨rfl, rfl⟩ := hrest₄.ret
    exact .inl ⟨rfl, hl₄⟩
  rw [if_neg hsome] at hrest₄
  obtain ⟨_, l₅, g₅, h₅, hrest₅⟩ := hrest₄.bind
  obtain ⟨_, l₆, g₆, h₆, hrest₆⟩ := hrest₅.bind
  obtain ⟨count, l₇, g₇, h₇, hrest₇⟩ := hrest₆.bind
  obtain ⟨_, l₈, g₈, h₈, h₉⟩ := hrest₇.bind
  obtain ⟨-, rfl⟩ := h₅.ensure
  obtain ⟨husable, rfl⟩ := h₆.ensure
  obtain ⟨hcount, rfl⟩ := h₈.ensure
  obtain ⟨gs, hgs, hgs', rfl, rfl⟩ := h₇.select
  rw [hl₄, Store.apply_nil, hheld.maxMembers] at hcount
  have hl₇ : ({ l₆ with snapshots := gs.csn :: l₆.snapshots } : Local Row Nat).writes = [] := hl₄
  have hlock₇ : (.invites p.1, .update) ∈ ({ l₆ with snapshots := gs.csn :: l₆.snapshots } : Local Row Nat).locks :=
    hlocks₄ ▸ hlock
  obtain ⟨hrecord, habsent, ⟨m, hm, hmOf⟩, hused, hothers⟩ := join_runs hl₇ hlock₇ hinvite hlive husable h₉
  refine .inr ⟨p.1, p.2, m, hgroup, hrecord, hev.locks huser, ?_, haccount, ?_, hheld.live, hinvite, hcode, hlive, husable,
    hused, habsent, hm, ?_, hothers, ?_⟩
  · rw [hgroup]
    exact hev.locks hheld.lock
  · rw [hgroup]
    exact hheld.row
  · rw [hgroup]
    exact hmOf
  · rw [hgroup]
    refine ⟨l₆, g₆, gs.csn, ?_, h₇.evolve, hgs.csn_le, (hgs'.trans h₇.rest.later).csn_le, hcount⟩
    rw [hlocks₄]
    exact hheld₁.lock

/-- A redemption changes nothing, or joins the group of the invite. -/
lemma redeemInvite_runs (hC : Obeys C) (hl : l.writes = []) {record : InviteJoinRecord}
    (h : Runs C (redeemInvite ⟨memberId, actor, code, now⟩) l g (.ok record) l' g' L G) :
    record.joined = false ∧ l'.writes = [] ∨ ∃ i h₀ r m, record = ⟨r.groupId, some memberId, true⟩ ∧
      JoinsRows C actor code memberId i h₀ r m l' L G := by
  rw [redeemInvite_eq] at h
  obtain ⟨_, l₁, g₁, h₁, hrest₁⟩ := h.bind
  obtain ⟨found, l₂, g₂, h₂, hrest₂⟩ := hrest₁.bind
  obtain ⟨H, l₃, g₃, h₃, hrest₃⟩ := hrest₂.bind
  obtain ⟨group, l₄, g₄, h₄, hrest₄⟩ := hrest₃.bind
  obtain ⟨existing, l₅, g₅, h₅, hrest₅⟩ := hrest₄.bind
  obtain ⟨hl₁, huser, haccount⟩ := requireLiveAccount_holds hl h₁
  obtain ⟨gs, -, -, rfl, -⟩ := h₂.select
  obtain ⟨-, rfl⟩ := h₃.ofOption
  have hl₂ : ({ l₁ with snapshots := gs.csn :: l₁.snapshots } : Local Row Nat).writes = [] := hl₁
  obtain ⟨hl₄, hsub₄, h₀, hheld⟩ := lockLiveGroup_holds hl₂ h₄
  obtain ⟨hl₅, hlocks₅, -, -⟩ := membership_runs hC hl₄ hheld h₅
  by_cases hsome : existing.isSome = true
  · rw [if_pos hsome] at hrest₅
    obtain ⟨rfl, rfl⟩ := hrest₅.ret
    exact .inl ⟨rfl, hl₅⟩
  rw [if_neg hsome] at hrest₅
  have hheld₅ : HoldsGroup H group h₀ l₅ G := hheld.mono (hlocks₅ ▸ List.Subset.refl _)
  rcases joinWith_runs hC hl₅ hheld₅ (hlocks₅ ▸ hsub₄ huser) haccount hrest₅ with hno | ⟨i, r, m, rfl, hrecord, hrows⟩
  · exact .inl hno
  · exact .inr ⟨i, h₀, r, m, hrecord, hrows⟩

lemma redeem_commits (hC : Obeys C) {record : InviteJoinRecord}
    (h : Runs C (redeem actor code now) (Local.begin g) g (.ok record) L g' L G) :
    Ok ⟨.redeem actor code now, .redeemed record, L⟩ G := by
  obtain ⟨_, l₁, g₁, h₁, hrest₁⟩ := h.bind
  obtain ⟨-, rfl⟩ := h₁.ensure
  obtain ⟨memberId, l₂, g₂, h₂, h₃⟩ := hrest₁.bind
  have hl₂ : l₂.writes = [] := by rw [h₂.fresh.1]; rfl
  rcases redeemInvite_runs hC hl₂ h₃.mapError with ⟨hno, hl⟩ | ⟨i, h₀, r, m, rfl, hrows⟩
  · refine .of_rows (undisturbed_of_empty hl) (unchanged_of_empty hl) (fun _ _ _ h _ _ => .of_eq h)
      (fun _ _ _ h _ _ => .of_eq h) (fun _ _ _ h => .of_eq h) nofun fun record' hout => ?_
    cases hout
    exact ⟨actor, code, now, rfl, .inl ⟨hno, hl⟩⟩
  have hothers : ∀ k, k ≠ .invites i → k ≠ .memberships memberId → (G.view L).get k = G.db.get k := hrows.others
  obtain ⟨hgroup, huser, hrole, hlive, hflag⟩ := hrows.memberOf
  refine ⟨fun j => .of_same (congrArg _ (hothers _ nofun nofun)), fun j => ?_,
    fun j => .of_eq (hothers _ nofun nofun), fun j => ?_, nofun, fun userId v v' hv hdel hv' hvl => ?_, fun record' hout => ?_⟩
  · by_cases hj : j = memberId
    · rw [hj, hrows.absent, show (G.view L).get (.memberships memberId) = _ from hrows.member]
      exact .joined hrole hlive hflag (huser ▸ hrows.userLock) (hgroup ▸ hrows.groupLock) (huser ▸ hrows.account)
        (hgroup ▸ ⟨h₀, hrows.group, hrows.live⟩) ⟨_, rfl, rfl⟩
    · exact .of_eq (hothers _ nofun (by simpa using hj))
  · by_cases hj : j = i
    · rw [hj, hrows.invite, show (G.view L).get (.invites i) = _ from hrows.used]
      exact .consumed hrows.usable ⟨_, rfl, rfl⟩
    · exact .of_eq (hothers _ (by simpa using hj) nofun)
  · have hsame : (G.view L).get (.users userId) = _ := hothers _ nofun nofun
    rw [hsame, hv] at hv'
    cases hv'
    exact absurd hvl hdel
  · cases hout
    refine ⟨actor, code, now, rfl, .inr ⟨rfl, i, r, memberId, m, ?_⟩⟩
    exact {
      inviteRow := hrows.invite
      code := hrows.code
      live := hrows.notDeleted
      used := hrows.used
      otherInvites j hj := hothers _ (by simpa using hj) nofun
      membershipId := rfl
      groupId := rfl
      absent := hrows.absent
      membership := hrows.member
      group := hgroup
      user := huser
      notOver := hlive
      otherMembers j hj := hothers _ nofun (by simpa using hj) }

end Redemption

section Programs

/-- Every transaction commits as `Ok` says. -/
theorem commits (hC : Obeys C) (hg : History C g) {job : Job} {out : Outcome}
    (h : Runs C (program settings job) (Local.begin g) g (.ok out) L g' L G) : Ok ⟨job, out, L⟩ G := by
  cases job with
  | purge job => exact purge_commits hC hg h
  | create ownerId name =>
    obtain ⟨record, l₁, g₁, h₁, h₂⟩ := h.bind
    obtain ⟨rfl, rfl⟩ := h₂.ret
    exact create_commits hC hg h₁.mapError
  | rename actorId groupId name =>
    obtain ⟨record, l₁, g₁, h₁, h₂⟩ := h.bind
    obtain ⟨rfl, rfl⟩ := h₂.ret
    exact rename_commits h₁.mapError
  | deleteGroup actorId groupId =>
    obtain ⟨intent, l₁, g₁, h₁, h₂⟩ := h.bind
    obtain ⟨rfl, rfl⟩ := h₂.ret
    exact deleteGroup_commits h₁.mapError
  | removeMember actorId groupId targetUserId =>
    obtain ⟨intent, l₁, g₁, h₁, h₂⟩ := h.bind
    obtain ⟨rfl, rfl⟩ := h₂.ret
    exact removeMember_commits hC h₁.mapError
  | setRole actorId groupId targetUserId role =>
    obtain ⟨_, l₁, g₁, h₁, h₂⟩ := h.bind
    obtain ⟨rfl, rfl⟩ := h₂.ret
    exact setRole_commits hC h₁.mapError
  | issueInvite actorId groupId code expiresAt maxUses now =>
    obtain ⟨invite, l₁, g₁, h₁, h₂⟩ := h.bind
    obtain ⟨rfl, rfl⟩ := h₂.ret
    exact issueInvite_commits hC hg h₁.mapError
  | redeem actorId code now =>
    obtain ⟨record, l₁, g₁, h₁, h₂⟩ := h.bind
    obtain ⟨rfl, rfl⟩ := h₂.ret
    exact redeem_commits hC h₁.mapError

end Programs

end JamyeServer.Groups
