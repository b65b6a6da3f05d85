import JamyeServer.Text
import JamyeServer.Postgres.Push

/-!
# Groups, memberships and invites

`adapters/postgres/groups/mutation.rs` with the transactions of `application/groups` and
`application/realtime/membership_revocation`.
-/

namespace JamyeServer.Postgres.Groups

open ReadCommitted Prog Push

inductive GroupsRepositoryError
  | accountNotFound
  | groupNotFound
  | membershipRequired
  | ownerRequired
  | memberNotFound
  | ownerConflict
  | groupFull
  | inviteNotFound
  | inviteExpired
  | inviteExhausted
  | topologyConflict
  | inviteCodeCollision
  | membershipConflict
  | invalidData
  | unavailable (operation : String)
  deriving DecidableEq, Repr

structure GroupRecord where
  id : Uuid
  name : String
  ownerId : Uuid
  maxMembers : Nat
  memberCount : Nat
  createdAt : Time
  mainChatroomId : Uuid
  deriving DecidableEq, Repr

structure InviteRecord where
  id : Uuid
  groupId : Uuid
  code : String
  createdBy : Uuid
  expiresAt : Option Time
  maxUses : Option Nat
  usedCount : Nat
  createdAt : Time
  deriving DecidableEq, Repr

structure InviteJoinRecord where
  groupId : Uuid
  membershipId : Option Uuid
  joined : Bool
  deriving DecidableEq, Repr

structure CreateGroupCommand where
  groupId : Uuid
  membershipId : Uuid
  mainChatroomId : Uuid
  ownerId : Uuid
  name : String
  maxMembers : Nat

structure CreateInviteCommand where
  inviteId : Uuid
  groupId : Uuid
  actorId : Uuid
  code : String
  expiresAt : Option Time
  maxUses : Option Nat

structure RedeemInviteCommand where
  membershipId : Uuid
  actorId : Uuid
  code : String
  now : Time

section Queries

def requireLiveAccount (userId : Uuid) : Sql GroupsRepositoryError Unit := do
  let found ← selectFor .share Tables.users (fun s => s.one Tables.users userId fun u => u.deletedAt.isNone)
    (fun _ i _ u => if u.deletedAt = none then some i else none)
  ensure (found ≠ []) .accountNotFound

/-- The memberships of the group that are not over. -/
def liveMembers (s : Store Row) (groupId : Uuid) : List Uuid :=
  s.ids Tables.memberships fun _ m => decide (m.groupId = groupId) && m.deletedAt.isNone

def mainChatrooms (s : Store Row) (groupId : Uuid) : List Uuid :=
  s.ids Tables.chatrooms fun _ r => decide (r.groupId = groupId) && decide (r.type = .main)

/-- The group is locked and read again; its main chatroom and the number of members are from the snapshot. -/
def lockLiveGroup (groupId : Uuid) : Sql GroupsRepositoryError GroupRecord := do
  let found ← selectFor .update Tables.groups
    (fun s => if mainChatrooms s groupId = [] then [] else s.one Tables.groups groupId fun g => g.deletedAt.isNone)
    (fun s i _ g =>
      match mainChatrooms s i with
      | [] => none
      | main :: _ =>
        if g.deletedAt = none then
          some (⟨i, g.name, g.ownerId, g.maxMembers, (liveMembers s i).length, g.createdAt, main⟩ : GroupRecord)
        else none)
  ofOption found.head? .groupNotFound

/-- The live membership of a live account. -/
def memberships (s : Store Row) (groupId userId : Uuid) : List (Uuid × GroupRole) :=
  (s.ids Tables.memberships fun _ m => decide (m.groupId = groupId) && decide (m.userId = userId) &&
    m.deletedAt.isNone && Auth.User.live s m.userId).filterMap fun i =>
      (s.get (.memberships i)).map fun m => (i, m.role)

def membership (groupId userId : Uuid) : Sql GroupsRepositoryError (Option (Uuid × GroupRole)) :=
  select fun s => (memberships s groupId userId).head?

def requireOwner (group : GroupRecord) (actorId : Uuid) : Sql GroupsRepositoryError (Uuid × GroupRole) := do
  let found ← membership group.id actorId
  let actor ← ofOption found .membershipRequired
  ensure (actor.2 = .owner ∧ group.ownerId = actorId) .ownerRequired
  ret actor

end Queries

section Mutations

/-- An insert into `memberships`; the live-membership index and the primary key fail differently. -/
def insertMembership (id groupId userId : Uuid) (role : GroupRole) (operation : String) :
    Sql GroupsRepositoryError Unit := do
  let now ← clock
  match ← insert (Key.memberships id) { groupId, userId, role, joinedAt := now } with
  | some k => fail (if k = .memberships id then .unavailable operation else .membershipConflict)
  | none => references (.unavailable operation) [.groups groupId, .users userId]

def createGroup (command : CreateGroupCommand) : Sql GroupsRepositoryError GroupRecord := do
  requireLiveAccount command.ownerId
  let createdAt ← clock
  insertRow (.groups command.groupId)
    { name := command.name, ownerId := command.ownerId, maxMembers := command.maxMembers, createdAt }
    [.users command.ownerId] (.unavailable "group_insert")
  insertMembership command.membershipId command.groupId command.ownerId .owner "owner_membership_insert"
  let now ← clock
  insertRow (.chatrooms command.mainChatroomId)
    { groupId := command.groupId, type := .main, topicId := none, createdAt := now }
    [.groups command.groupId] .topologyConflict
  ret ⟨command.groupId, command.name, command.ownerId, command.maxMembers, 1, createdAt, command.mainChatroomId⟩

def renameGroup (groupId actorId : Uuid) (name : String) : Sql GroupsRepositoryError GroupRecord := do
  let group ← lockLiveGroup groupId
  let _ ← requireOwner group actorId
  let _ ← update Tables.groups (fun s => s.one Tables.groups groupId fun _ => true)
    (fun _ _ _ g => some ({ g with name }, ())) (.unavailable "group_rename")
  ret { group with name }

def deleteGroup (groupId actorId : Uuid) : Sql GroupsRepositoryError Unit := do
  let group ← lockLiveGroup groupId
  let _ ← requireOwner group actorId
  let _ ← update Tables.groups (fun s => s.one Tables.groups groupId fun _ => true)
    (fun _ _ now g => some ({ g with deletedAt := some now }, ())) (.unavailable "group_delete")
  ret ()

def deleteMembership (membershipId : Uuid) : Sql GroupsRepositoryError Unit := do
  let deleted ← update Tables.memberships
    (fun s => s.one Tables.memberships membershipId fun m => m.deletedAt.isNone)
    (fun _ _ now m => if m.deletedAt = none then some ({ m with deletedAt := some now }, ()) else none)
    (.unavailable "membership_delete")
  ensure (deleted.length = 1) .memberNotFound

def removeMember (groupId actorId targetUserId : Uuid) : Sql GroupsRepositoryError Unit := do
  let group ← lockLiveGroup groupId
  let found ← membership groupId actorId
  let actor ← ofOption found .membershipRequired
  if actorId = targetUserId then do
    ensure (¬ (actor.2 = .owner ∨ group.ownerId = actorId)) .ownerConflict
    deleteMembership actor.1
  else do
    ensure (actor.2 = .owner ∧ group.ownerId = actorId) .ownerRequired
    let found ← membership groupId targetUserId
    let target ← ofOption found .memberNotFound
    ensure (¬ (target.2 = .owner ∨ group.ownerId = targetUserId)) .ownerConflict
    deleteMembership target.1

def setMemberRole (groupId actorId targetUserId : Uuid) (role : GroupRole) : Sql GroupsRepositoryError Unit := do
  let group ← lockLiveGroup groupId
  let actor ← requireOwner group actorId
  let found ← membership groupId targetUserId
  let target ← ofOption found .memberNotFound
  ensure (¬ (target.2 = .owner ∨ group.ownerId = targetUserId)) .ownerConflict
  match role with
  | .owner => do
    let _ ← update Tables.groups (fun s => s.one Tables.groups groupId fun _ => true)
      (fun _ _ _ g => some ({ g with ownerId := targetUserId }, ())) (.unavailable "group_owner_update")
    let _ ← update Tables.memberships (fun s => s.one Tables.memberships actor.1 fun _ => true)
      (fun _ _ _ m => some ({ m with role := .member }, ())) (.unavailable "owner_demote")
    let _ ← update Tables.memberships (fun s => s.one Tables.memberships target.1 fun _ => true)
      (fun _ _ _ m => some ({ m with role := .owner }, ())) (.unavailable "owner_promote")
    ret ()
  | .member => ret ()

def createInvite (command : CreateInviteCommand) : Sql GroupsRepositoryError InviteRecord := do
  let group ← lockLiveGroup command.groupId
  let _ ← requireOwner group command.actorId
  let now ← clock
  match ← insert (Key.invites command.inviteId)
    { groupId := command.groupId, code := command.code, createdBy := command.actorId,
      expiresAt := command.expiresAt, maxUses := command.maxUses, createdAt := now } with
  | some k => fail (if k = .invites command.inviteId then .unavailable "invite_insert" else .inviteCodeCollision)
  | none => do
    references (.unavailable "invite_insert") [.groups command.groupId, .users command.actorId]
    ret ⟨command.inviteId, command.groupId, command.code, command.actorId, command.expiresAt, command.maxUses, 0, now⟩

/-- The live invite with the code. -/
def invitesWith (s : Store Row) (code : String) : List Uuid :=
  s.ids Tables.invites fun _ r => decide (r.code = code) && r.deletedAt.isNone

def Invite.usable (r : Invite) : Bool := r.maxUses.all fun n => decide (r.usedCount < n)

def redeemInvite (command : RedeemInviteCommand) : Sql GroupsRepositoryError InviteJoinRecord := do
  requireLiveAccount command.actorId
  let found ← select fun s => ((invitesWith s command.code).head?).bind fun i =>
    (s.get (.invites i)).map Invite.groupId
  let groupId ← ofOption found .inviteNotFound
  let group ← lockLiveGroup groupId
  let existing ← membership groupId command.actorId
  if existing.isSome then ret ⟨groupId, none, false⟩
  else do
    let locked ← selectFor .update Tables.invites (fun s => invitesWith s command.code)
      (fun _ i _ r => if r.code = command.code ∧ r.deletedAt = none then some (i, r) else none)
    let invite ← ofOption locked.head? .inviteNotFound
    ensure (invite.2.groupId = groupId) .invalidData
    let existing ← membership groupId command.actorId
    if existing.isSome then ret ⟨groupId, none, false⟩
    else do
      ensure (invite.2.expiresAt.any (fun t => decide (t ≤ command.now)) = false) .inviteExpired
      ensure (Invite.usable invite.2) .inviteExhausted
      let memberCount ← select fun s => (liveMembers s groupId).length
      ensure (memberCount < group.maxMembers) .groupFull
      insertMembership command.membershipId groupId command.actorId .member "invite_membership_insert"
      let consumed ← update Tables.invites
        (fun s => s.one Tables.invites invite.1 fun r => r.deletedAt.isNone && Invite.usable r)
        (fun _ _ _ r =>
          if r.deletedAt.isNone && Invite.usable r then some ({ r with usedCount := r.usedCount + 1 }, ()) else none)
        (.unavailable "invite_consume")
      ensure (consumed ≠ []) .inviteExhausted
      ret ⟨groupId, some command.membershipId, true⟩

end Mutations

section Transactions

inductive GroupsError
  | requestValidation
  | repository (error : GroupsRepositoryError)
  deriving DecidableEq, Repr

inductive MembershipRevocationError
  | group (error : GroupsError)
  | push (error : PushRepositoryError)
  | controlIntent
  deriving DecidableEq, Repr

def defaultGroupMemberCap : Nat := 12

def validateName (name : String) : Bool := !name.isEmpty && decide (name.length ≤ 128)

/-- `validate_invite_code`: the characters are ASCII, so that bytes and characters agree. -/
def validateInviteCode (code : String) : Bool :=
  decide (16 ≤ code.length) && decide (code.length ≤ 64) &&
    code.toList.all fun c => c.isAlphanum || c = '-' || c = '_'

def validateInvite (maxUses : Option Nat) (expiresAt : Option Time) (now : Time) : Bool :=
  !(maxUses.any fun n => decide (n = 0)) && !(expiresAt.any fun t => decide (t ≤ now))

def create (ownerId : Uuid) (name : String) : Sql GroupsError GroupRecord := do
  ensure (validateName name) .requestValidation
  let groupId ← fresh
  let membershipId ← fresh
  let mainChatroomId ← fresh
  mapError .repository (createGroup ⟨groupId, membershipId, mainChatroomId, ownerId, name, defaultGroupMemberCap⟩)

def rename (actorId groupId : Uuid) (name : String) : Sql GroupsError GroupRecord := do
  ensure (validateName name) .requestValidation
  mapError .repository (renameGroup groupId actorId name)

def setRole (actorId groupId targetUserId : Uuid) (role : GroupRole) : Sql GroupsError Unit :=
  mapError .repository (setMemberRole groupId actorId targetUserId role)

/-- One attempt of `create_invite` with a generated code. -/
def issueInvite (actorId groupId : Uuid) (code : String) (expiresAt : Option Time) (maxUses : Option Nat)
    (now : Time) : Sql GroupsError InviteRecord := do
  ensure (validateInvite maxUses expiresAt now) .requestValidation
  let inviteId ← fresh
  mapError .repository (createInvite ⟨inviteId, groupId, actorId, code, expiresAt, maxUses⟩)

def redeem (actorId : Uuid) (code : String) (now : Time) : Sql GroupsError InviteJoinRecord := do
  ensure (validateInviteCode code) .requestValidation
  let membershipId ← fresh
  mapError .repository (redeemInvite ⟨membershipId, actorId, code, now⟩)

def appendControlIntent (intent : RealtimeControlIntent) : Sql MembershipRevocationError Unit := do
  let controlId ← fresh
  let now ← clock
  insertRow (.outboxEvents controlId)
    { aggregateId := intent.aggregateId, conversationEventId := none, payload := .control intent,
      createdAt := now } [] .controlIntent

/-- `remove_member` of the membership revocation: the removal, the fence and the control intent. -/
def revokeMember (actorId groupId targetUserId : Uuid) : Sql MembershipRevocationError RealtimeControlIntent := do
  mapError (fun e => .group (.repository e)) (removeMember groupId actorId targetUserId)
  mapError .push (fenceMembershipRevocation groupId targetUserId)
  let intent := .membershipRevoked groupId targetUserId
  appendControlIntent intent
  ret intent

/-- `delete_group` of the membership revocation. -/
def revokeGroup (actorId groupId : Uuid) : Sql MembershipRevocationError RealtimeControlIntent := do
  mapError (fun e => .group (.repository e)) (deleteGroup groupId actorId)
  mapError .push (fenceGroupDeletion groupId)
  let intent := .groupDeleted groupId
  appendControlIntent intent
  ret intent

end Transactions

end JamyeServer.Postgres.Groups
