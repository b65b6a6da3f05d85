import JamyeServer.Postgres.Auth

/-!
# Suspension of accounts

`suspend_user` and `unsuspend_user` of `adapters/postgres/moderation/mod.rs`, each the one statement
group of its operator transaction.
-/

namespace JamyeServer.Postgres.Moderation

open ReadCommitted Prog Auth

inductive ModerationRepositoryError
  | userNotFound
  | unavailable (operation : String)
  deriving DecidableEq, Repr

structure SuspendUserCommand where
  userId : Uuid
  reason : Option String
  deriving DecidableEq

def User.suspend (reason : Option String) (now : Time) (u : User) : User :=
  { u with suspendedAt := coalesce u.suspendedAt now, suspensionReason := reason <|> u.suspensionReason }

def User.unsuspend (u : User) : User := { u with suspendedAt := none, suspensionReason := none }

/-- `UPDATE refresh_sessions SET revoked_at = … WHERE user_id = $1 AND revoked_at IS NULL`. -/
def revokeUserSessions (userId : Uuid) (operation : String) : Sql ModerationRepositoryError Unit := do
  let _ ← update Tables.refreshSessions
    (fun s => s.ids Tables.refreshSessions fun _ r => decide (r.userId = userId) && r.revokedAt.isNone)
    (fun _ _ now r =>
      if r.userId = userId ∧ r.revokedAt = none then some (RefreshSession.revoke now r, ()) else none)
    (.unavailable operation)
  ret ()

def suspendUser (command : SuspendUserCommand) : Sql ModerationRepositoryError Unit := do
  let updated ← update Tables.users
    (fun s => s.one Tables.users command.userId fun u => u.deletedAt.isNone)
    (fun _ _ now u => if u.deletedAt = none then some (User.suspend command.reason now u, ()) else none)
    (.unavailable "moderation_suspend")
  ensure (updated.length = 1) .userNotFound
  revokeUserSessions command.userId "moderation_suspend_revoke_sessions"

/-- Both parts of the statement read one snapshot, so `exists` is whether the row was there before. -/
def unsuspendUser (userId : Uuid) : Sql ModerationRepositoryError Unit := do
  let found ← snapshot
  let updated ← updateFound found
  ensure ((found.get (.users userId)).isSome = true) .userNotFound
  if updated.isEmpty then ret ()
  else revokeUserSessions userId "moderation_unsuspend_revoke_sessions"
where
  updateFound (s : Store Row) : Sql ModerationRepositoryError (List Unit) :=
    changeRows .noKeyUpdate Tables.users.key
      (fun _ _ u => if u.suspendedAt.isSome then some (some (User.unsuspend u), ()) else none)
      (.unavailable "moderation_unsuspend") (s.one Tables.users userId fun u => u.suspendedAt.isSome)

end JamyeServer.Postgres.Moderation
