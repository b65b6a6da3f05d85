import JamyeServer.ReadCommitted.Effects
import JamyeServer.Postgres.Groups
import JamyeServer.Purge.System

/-!
# Groups, their members and invites

The transactions on groups, run next to those on accounts and to purge workers. `Ok` says what a commit
does to groups, memberships, invites and accounts, and which locks it needs for that.
-/

namespace JamyeServer.Groups

open ReadCommitted Postgres Auth Groups AccountDeletion

inductive Job
  | purge (job : Purge.Job)
  | create (ownerId : Uuid) (name : String)
  | rename (actorId groupId : Uuid) (name : String)
  | deleteGroup (actorId groupId : Uuid)
  | removeMember (actorId groupId targetUserId : Uuid)
  | setRole (actorId groupId targetUserId : Uuid) (role : GroupRole)
  | issueInvite (actorId groupId : Uuid) (code : String) (expiresAt : Option Time) (maxUses : Option Nat) (now : Time)
  | redeem (actorId : Uuid) (code : String) (now : Time)
  deriving DecidableEq

/-- The transaction that starts the account's grace period. -/
abbrev Job.deleteAccount (userId : Uuid) : Job := .purge (.account (.deleteAccount userId))

inductive Outcome
  | purge (outcome : Purge.Outcome)
  | group (record : GroupRecord)
  | revoked (intent : RealtimeControlIntent)
  | done
  | issued (invite : InviteRecord)
  | redeemed (record : InviteJoinRecord)
  deriving DecidableEq

inductive Failure
  | purge (error : Purge.Failure)
  | groups (error : GroupsError)
  | revocation (error : MembershipRevocationError)
  deriving DecidableEq

def program (settings : Settings) : Job → Sql Failure Outcome
  | .purge job => do
    let outcome ← Prog.mapError .purge (Purge.program settings job)
    .ret (.purge outcome)
  | .create ownerId name => do
    let record ← Prog.mapError .groups (create ownerId name)
    .ret (.group record)
  | .rename actorId groupId name => do
    let record ← Prog.mapError .groups (rename actorId groupId name)
    .ret (.group record)
  | .deleteGroup actorId groupId => do
    let intent ← Prog.mapError .revocation (revokeGroup actorId groupId)
    .ret (.revoked intent)
  | .removeMember actorId groupId targetUserId => do
    let intent ← Prog.mapError .revocation (revokeMember actorId groupId targetUserId)
    .ret (.revoked intent)
  | .setRole actorId groupId targetUserId role => do
    Prog.mapError .groups (setRole actorId groupId targetUserId role)
    .ret .done
  | .issueInvite actorId groupId code expiresAt maxUses now => do
    let invite ← Prog.mapError .groups (issueInvite actorId groupId code expiresAt maxUses now)
    .ret (.issued invite)
  | .redeem actorId code now => do
    let record ← Prog.mapError .groups (redeem actorId code now)
    .ret (.redeemed record)

/-- The server; `ticks` says how its clock may move. -/
def system (settings : Settings) (ticks : Time → Time → Bool) : System Row Nat Idx Failure Job Outcome where
  index := index
  prog := program settings
  ticks := ticks

abbrev Entry := ReadCommitted.Entry Row Nat Job Outcome
abbrev Shared := ReadCommitted.Shared Row Nat Job Outcome
abbrev State := ReadCommitted.State Row Nat Failure Job Outcome

section Steps

variable (e : Entry) (g : Shared)

/-- How a commit may change an account. -/
inductive UserStep (userId : Uuid) : Option User → Option User → Prop
  | absent : UserStep userId none none
  | kept {u u' : User} (deletedAt : u'.deletedAt = u.deletedAt) : UserStep userId (some u) (some u')
  | created {u : User} (drawn : userId ∈ e.ran.drawn)
      (new : ∀ n, n ≤ g.csn → (g.version n).get (.users userId) = none) : UserStep userId none (some u)
  | deleted {u u' : User} (job : e.job = .deleteAccount userId) : UserStep userId (some u) (some u')
  | restored {u u' : User} (deletedAt : u.deletedAt ≠ none) : UserStep userId (some u) (some u')
  | purged {u : User} (deletedAt : u.deletedAt ≠ none) : UserStep userId (some u) none

/-- How a commit may change a membership, and the locks that it holds then. -/
inductive MemberStep : Option Membership → Option Membership → Prop
  | same (r : Option Membership) : MemberStep r r
  | founded {r : Membership} (live : r.deletedAt = none) (flag : r.accountDeletedAt = none)
      (new : ∀ n, n ≤ g.csn → (g.version n).get (.groups r.groupId) = none)
      (userLock : (.users r.userId, .share) ∈ e.ran.locks) (account : g.db.get (.users r.userId) ≠ none)
      (group : (g.view e.ran).get (.groups r.groupId) ≠ none) : MemberStep none (some r)
  | joined {r : Membership} (role : r.role = .member) (live : r.deletedAt = none) (flag : r.accountDeletedAt = none)
      (userLock : (.users r.userId, .share) ∈ e.ran.locks) (groupLock : (.groups r.groupId, .update) ∈ e.ran.locks)
      (account : ∃ u, g.db.get (.users r.userId) = some u ∧ u.deletedAt = none)
      (group : ∃ h, g.db.get (.groups r.groupId) = some h ∧ h.deletedAt = none)
      (redeemed : ∃ record, e.out = .redeemed record ∧ record.joined = true) : MemberStep none (some r)
  | ended {r : Membership} {t : Time} (role : r.role = .member) (live : r.deletedAt = none)
      (groupLock : (.groups r.groupId, .update) ∈ e.ran.locks) :
      MemberStep (some r) (some { r with deletedAt := some t })
  | transferred {r : Membership} {role : GroupRole} (live : r.deletedAt = none)
      (groupLock : (.groups r.groupId, .update) ∈ e.ran.locks)
      (owner : (g.db.get (.groups r.groupId)).map Group.ownerId ≠
        ((g.view e.ran).get (.groups r.groupId)).map Group.ownerId) : MemberStep (some r) (some { r with role })
  | flagged {r : Membership} {t : Time} (job : e.job = .deleteAccount r.userId) (live : r.deletedAt = none)
      (userLock : (.users r.userId, .update) ∈ e.ran.locks) (groupLock : (.groups r.groupId, .update) ∈ e.ran.locks) :
      MemberStep (some r) (some (Membership.markDeleted t r))
  | restored {r : Membership} (deleted : r.deletedAt ≠ none) (flag : r.accountDeletedAt ≠ none)
      (userLock : (.users r.userId, .update) ∈ e.ran.locks)
      (job : ∃ identity now, e.job = .purge (.account (.exchange identity now)))
      (only : ∀ m r', g.db.get (.memberships m) = some r' → r'.deletedAt ≠ none →
        (g.view e.ran).get (.memberships m) = some (Membership.restore r') → r'.userId = r.userId) :
      MemberStep (some r) (some (Membership.restore r))
  | purged {r : Membership}
      (ended : r.deletedAt ≠ none ∨ ∃ h, g.db.get (.groups r.groupId) = some h ∧ h.deletedAt ≠ none)
      (userLock : (.users r.userId, .update) ∈ e.ran.locks) : MemberStep (some r) none

/-- The ownership of a group goes from the membership `source` to the membership `target` of a live account. -/
structure Transferred (groupId source target : Uuid) (r r' : Membership) (ownerId : Uuid) : Prop where
  sourceRow : g.db.get (.memberships source) = some r
  sourceGroup : r.groupId = groupId
  sourceRole : r.role = .owner
  targetRow : g.db.get (.memberships target) = some r'
  targetGroup : r'.groupId = groupId
  targetLive : r'.deletedAt = none
  targetUser : r'.userId = ownerId
  targetRole : r'.role = .member
  demoted : (g.view e.ran).get (.memberships source) = some { r with role := .member }
  promoted : (g.view e.ran).get (.memberships target) = some { r' with role := .owner }
  others : ∀ m, m ≠ source → m ≠ target → (g.view e.ran).get (.memberships m) = g.db.get (.memberships m)
  account : ∃ u, (g.view e.ran).get (.users ownerId) = some u ∧ u.deletedAt = none

/-- A new group with the membership of its owner. -/
structure Founded (groupId : Uuid) (h : Group) (m : Uuid) (r : Membership) : Prop where
  live : h.deletedAt = none
  drawn : groupId ∈ e.ran.drawn
  new : ∀ n, n ≤ g.csn → (g.version n).get (.groups groupId) = none
  member : (g.view e.ran).get (.memberships m) = some r
  group : r.groupId = groupId
  role : r.role = .owner
  owner : r.userId = h.ownerId
  notOver : r.deletedAt = none
  others : ∀ i, i ≠ m → (g.view e.ran).get (.memberships i) = g.db.get (.memberships i)
  account : ∃ u, (g.view e.ran).get (.users h.ownerId) = some u ∧ u.deletedAt = none
  userLock : (.users h.ownerId, .share) ∈ e.ran.locks
  seats : 1 ≤ h.maxMembers

/-- How a commit may change a group. -/
inductive GroupStep (groupId : Uuid) : Option Group → Option Group → Prop
  | same (h : Option Group) : GroupStep groupId h h
  | founded {h : Group} {m : Uuid} {r : Membership} (founded : Founded e g groupId h m r) :
      GroupStep groupId none (some h)
  | renamed {h : Group} {name : String} : GroupStep groupId (some h) (some { h with name })
  | deleted {h : Group} {t : Time} : GroupStep groupId (some h) (some { h with deletedAt := some t })
  | transferred {h : Group} {source target : Uuid} {r r' : Membership} {ownerId : Uuid}
      (transfer : Transferred e g groupId source target r r' ownerId) :
      GroupStep groupId (some h) (some { h with ownerId })
  | archived {h : Group} {ownerId : Uuid} (deleted : h.deletedAt ≠ none) :
      GroupStep groupId (some h) (some { h with ownerId })

/-- How a commit may change an invite. -/
inductive InviteStep (inviteId : Uuid) : Option Invite → Option Invite → Prop
  | same (r : Option Invite) : InviteStep inviteId r r
  | issued {r : Invite} (unused : r.usedCount = 0) (drawn : inviteId ∈ e.ran.drawn)
      (new : ∀ n, n ≤ g.csn → (g.version n).get (.invites inviteId) = none) : InviteStep inviteId none (some r)
  | consumed {r : Invite} (usable : Invite.usable r = true)
      (redeemed : ∃ record, e.out = .redeemed record ∧ record.joined = true) :
      InviteStep inviteId (some r) (some { r with usedCount := r.usedCount + 1 })
  | purged {r : Invite} : InviteStep inviteId (some r) none

/-- A redemption that joins the group: the invite is used once and one membership is new. -/
structure Joins (actorId : Uuid) (code : String) (record : InviteJoinRecord) (inviteId : Uuid) (r : Invite)
    (memberId : Uuid) (m : Membership) : Prop where
  inviteRow : g.db.get (.invites inviteId) = some r
  code : r.code = code
  live : r.deletedAt = none
  used : (g.view e.ran).get (.invites inviteId) = some { r with usedCount := r.usedCount + 1 }
  otherInvites : ∀ i, i ≠ inviteId → (g.view e.ran).get (.invites i) = g.db.get (.invites i)
  membershipId : record.membershipId = some memberId
  groupId : record.groupId = r.groupId
  absent : g.db.get (.memberships memberId) = none
  membership : (g.view e.ran).get (.memberships memberId) = some m
  group : m.groupId = r.groupId
  user : m.userId = actorId
  notOver : m.deletedAt = none
  otherMembers : ∀ i, i ≠ memberId → (g.view e.ran).get (.memberships i) = g.db.get (.memberships i)

end Steps

/-- The start of the grace period of an account: it owns no live group, and its memberships are over. -/
structure AccountEnded (e : Entry) (g : Shared) (userId : Uuid) : Prop where
  account : ∃ u, (g.view e.ran).get (.users userId) = some u ∧ u.deletedAt ≠ none
  owns : ∀ h r, g.db.get (.groups h) = some r → r.deletedAt = none → r.ownerId ≠ userId
  locks : ∀ m r, g.db.get (.memberships m) = some r → r.userId = userId → r.deletedAt = none →
    (.groups r.groupId, .update) ∈ e.ran.locks

/-- What each transaction commits. -/
structure Ok (e : Entry) (g : Shared) : Prop where
  users : ∀ i, UserStep e g i (g.db.get (.users i)) ((g.view e.ran).get (.users i))
  members : ∀ m, MemberStep e g (g.db.get (.memberships m)) ((g.view e.ran).get (.memberships m))
  groups : ∀ h, GroupStep e g h (g.db.get (.groups h)) ((g.view e.ran).get (.groups h))
  invites : ∀ i, InviteStep e g i (g.db.get (.invites i)) ((g.view e.ran).get (.invites i))
  deleteAccount : ∀ userId, e.job = .deleteAccount userId → AccountEnded e g userId
  restored : ∀ userId u u', g.db.get (.users userId) = some u → u.deletedAt ≠ none →
    (g.view e.ran).get (.users userId) = some u' → u'.deletedAt = none →
    ∀ m r, (g.view e.ran).get (.memberships m) = some r → r.userId = userId → r.accountDeletedAt ≠ none →
      ∃ h, g.db.get (.groups r.groupId) = some h ∧ h.deletedAt ≠ none
  redeemed : ∀ record, e.out = .redeemed record → ∃ actorId code now, e.job = .redeem actorId code now ∧
    (record.joined = false ∧ e.ran.writes = [] ∨
      record.joined = true ∧ ∃ i r m r', Joins e g actorId code record i r m r')

section Tables

variable (s : Store Row)

/-- The group has one membership with the role of owner, over or not; it is the live membership of the group's
owner, and the owner's account is live. -/
def Owned (groupId : Uuid) (h : Group) : Prop :=
  ∃ m r, s.get (.memberships m) = some r ∧ r.groupId = groupId ∧ r.role = .owner ∧ r.deletedAt = none ∧
    r.userId = h.ownerId ∧ (∃ u, s.get (.users h.ownerId) = some u ∧ u.deletedAt = none) ∧
    ∀ m' r', s.get (.memberships m') = some r' → r'.groupId = groupId → r'.role = .owner → m' = m

/-- The membership is live, or would be again if its account were restored. -/
def Kept (r : Membership) : Prop := r.deletedAt = none ∨ r.accountDeletedAt ≠ none

/-- What holds of the tables of groups between transactions. -/
structure WellFormed : Prop where
  owned : ∀ i h, s.get (.groups i) = some h → h.deletedAt = none → Owned s i h
  group : ∀ m r, s.get (.memberships m) = some r → s.get (.groups r.groupId) ≠ none
  flag : ∀ m r, s.get (.memberships m) = some r → r.deletedAt = none → r.accountDeletedAt = none
  flagged : ∀ m r u, s.get (.memberships m) = some r → r.accountDeletedAt ≠ none →
    s.get (.users r.userId) = some u → u.deletedAt = none → ∃ h, s.get (.groups r.groupId) = some h ∧ h.deletedAt ≠ none
  once : ∀ m m' r r', s.get (.memberships m) = some r → s.get (.memberships m') = some r' →
    r.groupId = r'.groupId → r.userId = r'.userId → Kept r → Kept r' → m = m'
  uses : ∀ i r n, s.get (.invites i) = some r → r.maxUses = some n → r.usedCount ≤ n

end Tables

/-- A server at its start: nothing is committed yet, its tables are well formed, and all ids have been drawn. -/
structure Starts (g : Shared) : Prop where
  log : g.log = []
  unique : Unique index g.init
  tables : WellFormed g.init
  accounts : ∀ m r, g.init.get (.memberships m) = some r → g.init.get (.users r.userId) ≠ none
  users : ∀ i, g.init.get (.users i) ≠ none → i ∈ g.used
  groups : ∀ i, g.init.get (.groups i) ≠ none → i ∈ g.used
  invites : ∀ i, g.init.get (.invites i) ≠ none → i ∈ g.used

/-- Redemptions and restores do not meet the unique index of live memberships. -/
def MayFail : Job → Failure → Prop
  | .redeem _ _ _, error => error ≠ .groups (.repository .membershipConflict)
  | .purge (.account (.exchange _ _)), error =>
    error ≠ .purge (.account (.auth (.databaseUnavailable "membership_restore")))
  | _, _ => True

/-- A redemption answers with the record of what it did. -/
def Answers (e : Entry) : Prop :=
  ∀ actorId code now, e.job = .redeem actorId code now → ∃ record, e.out = .redeemed record

/-- The contract of groups. -/
def contract (settings : Settings) (ticks : Time → Time → Bool) : Contract (system settings ticks) where
  Init := Starts
  log_init _ hg := hg.log
  unique_init _ hg := hg.unique
  Ok e g := Ok e g ∧ Answers e
  Fails := MayFail

/-- A contract with at least the promises of `contract`. -/
structure Obeys {settings : Settings} {ticks : Time → Time → Bool} (C : Contract (system settings ticks)) : Prop where
  init : ∀ g, C.Init g → Starts g
  ok : ∀ e g, C.Ok e g → Ok e g

end JamyeServer.Groups
