import JamyeServer.Postgres.Auth

/-!
# Rooms and who reaches them

What the statements on conversations share: a query that locks rows of several tables joins them in its snapshot,
locks the rows one by one and tests their latest versions again.
-/

namespace JamyeServer.Postgres.Rooms

open ReadCommitted Prog

/-- What is shown in place of the name of a deleted account. -/
def withdrawnName : String := "탈퇴한 사용자"

def displayName (u : User) : String := if u.deletedAt.isSome then withdrawnName else u.nickname

def displayAvatarUrl (u : User) : Option String := if u.deletedAt.isSome then none else u.avatarUrl

/-- The topic of the room is not deleted, or the room has none. -/
def topicLive (s : Store Row) (room : Chatroom) : Bool :=
  room.topicId.all fun t => (s.get (.topics t)).all fun r => r.deletedAt.isNone

/-- The memberships with which a user reaches the room, in a snapshot. -/
def accesses (s : Store Row) (chatroomId userId : Uuid) : List (Uuid × Uuid) :=
  match s.get (.chatrooms chatroomId) with
  | none => []
  | some room =>
    if room.deletedAt.isNone && topicLive s room && ((s.get (.groups room.groupId)).any fun g => g.deletedAt.isNone) then
      (s.ids Tables.memberships fun _ m => decide (m.groupId = room.groupId) && decide (m.userId = userId) &&
        m.deletedAt.isNone).map fun m => (room.groupId, m)
    else []

section Locks

variable {ε : Type}

def lockLiveRoom (m : LockMode) (chatroomId groupId : Uuid) : Sql ε (Option Unit) :=
  lockRow m (.chatrooms chatroomId) fun _ r => if r.groupId = groupId ∧ r.deletedAt = none then some () else none

def lockLiveGroup (m : LockMode) (groupId : Uuid) : Sql ε (Option Unit) :=
  lockRow m (.groups groupId) fun _ r => if r.deletedAt = none then some () else none

def lockLiveMembership (m : LockMode) (id groupId userId : Uuid) : Sql ε (Option Unit) :=
  lockRow m (.memberships id) fun _ r =>
    if r.groupId = groupId ∧ r.userId = userId ∧ r.deletedAt = none then some () else none

/-- Goes on with a row that has passed its check again. -/
def andThen {α β : Type} (p : Sql ε (Option α)) (f : α → Sql ε (Option β)) : Sql ε (Option β) := do
  match ← p with
  | none => ret none
  | some a => f a

end Locks

end JamyeServer.Postgres.Rooms
