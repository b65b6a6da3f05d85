import JamyeServer.Postgres.Schema
import Mathlib.Data.List.Sort

/-!
# Identities, refresh families and sign-in

`adapters/postgres/auth/mod.rs` and the transactions of `application/auth/service.rs`. New ids and the
digests of new credentials are drawn with `fresh`.
-/

namespace JamyeServer.Postgres

open ReadCommitted Prog

/-- Transactions over this schema; advisory locks are the 64-bit keys of `hashtextextended`. -/
abbrev Sql (ε α : Type) := Prog Row Nat ε α

/-- The settings that the transactions read. -/
structure Settings where
  accountPurgeGrace : Nat
  refreshLifetime : Nat
  messageOrderHash : Uuid → Nat

/-- `COALESCE(column, new)`. -/
def coalesce (column : Option Time) (new : Time) : Option Time := some (column.getD new)

namespace Auth

/-- `Unavailable` carries the operation that `database_failure` logs. -/
inductive AuthRepositoryError
  | accountSuspended
  | unavailable (operation : String)
  deriving DecidableEq, Repr

structure NewProviderIdentity where
  provider : String
  providerId : String
  nickname : String
  avatarUrl : Option String := none
  deriving DecidableEq, Repr

structure NewRefreshSession where
  id : Uuid
  familyId : Uuid
  parentSessionId : Option Uuid
  tokenHash : Nat
  expiresAt : Time

structure NewRotatedSession where
  id : Uuid
  tokenHash : Nat
  expiresAt : Time

structure IssuedSession where
  userId : Uuid
  sessionId : Uuid
  deriving DecidableEq, Repr

inductive RotationOutcome
  | rotated (issued : IssuedSession)
  | invalid
  | reused
  | suspended
  deriving DecidableEq, Repr

def User.live (s : Store Row) (id : Uuid) : Bool := (s.get (.users id)).any fun u => u.deletedAt.isNone

/-- The account of a live identity of the principal. -/
def identityLookup (identity : NewProviderIdentity) (s : Store Row) : Option Uuid :=
  ((s.ids Tables.authIdentities fun _ r => r.provider == identity.provider &&
    r.providerId == identity.providerId && r.deletedAt.isNone && User.live s r.userId).head?).bind
    fun i => (s.get (.authIdentities i)).map AuthIdentity.userId

def insertRefreshSession (id userId familyId : Uuid) (parentSessionId : Option Uuid) (tokenHash : Nat)
    (expiresAt : Time) : Sql AuthRepositoryError Unit := do
  let now ← clock
  insertRow (.refreshSessions id)
    { userId, familyId, parentSessionId, tokenHash, expiresAt, createdAt := now }
    (.users userId :: parentSessionId.toList.map .refreshSessions) (.unavailable "refresh_insert")

def ensureNotSuspended (userId : Uuid) : Sql AuthRepositoryError Unit := do
  let suspended ← select fun s => (s.get (.users userId)).map fun u => u.suspendedAt.isSome
  ensure (suspended ≠ some true) .accountSuspended

def ensureNotSuspendedForExchange (userId : Uuid) : Sql AuthRepositoryError Unit := do
  let suspended ← selectFor .share Tables.users (fun s => s.one Tables.users userId fun _ => true)
    fun _ _ _ u => some u.suspendedAt.isSome
  ensure (suspended.head? ≠ some true) .accountSuspended

/-- The account a sign-in without a deleted account uses: the one of the live identity, or a new one. -/
def exchangeAccount (identity : NewProviderIdentity) : Sql AuthRepositoryError Uuid := do
  match ← select (identityLookup identity) with
  | some userId => ret userId
  | none => do
    let speculativeUserId ← fresh
    let now ← clock
    insertRow (.users speculativeUserId)
      { nickname := identity.nickname, avatarUrl := identity.avatarUrl, createdAt := now } []
      (.unavailable "user_insert")
    let identityId ← fresh
    let now ← clock
    let claimed ← insertOrSkip (.authIdentities identityId)
      { userId := speculativeUserId, provider := identity.provider, providerId := identity.providerId,
        createdAt := now }
      [.users speculativeUserId] (.unavailable "identity_insert")
    if claimed then ret speculativeUserId
    else do
      let canonical ← select (identityLookup identity)
      let canonicalUserId ← ofOption canonical (.unavailable "identity_convergence")
      let _ ← delete Tables.users (fun s => s.one Tables.users speculativeUserId fun _ => true)
        (fun _ _ _ => true) (.unavailable "speculative_user_cleanup")
      ret canonicalUserId

def createSessionRecord (identity : NewProviderIdentity) (session : NewRefreshSession) :
    Sql AuthRepositoryError IssuedSession := do
  let userId ← exchangeAccount identity
  ensureNotSuspendedForExchange userId
  insertRefreshSession session.id userId session.familyId session.parentSessionId session.tokenHash
    session.expiresAt
  ret ⟨userId, session.id⟩

/-- A deleted identity of the principal whose account is deleted and still in its grace period. -/
def restorable (identity : NewProviderIdentity) (grace now : Nat) (r : AuthIdentity) (u : User) : Bool :=
  r.provider == identity.provider && r.providerId == identity.providerId && r.deletedAt.isSome &&
    u.deletedAt.any fun t => decide (now < t + grace)

/-- `ORDER BY identity.deleted_at DESC, identity.id`. -/
def restoreOrder (x y : Option Time × Uuid) : Bool :=
  decide (y.1.getD 0 < x.1.getD 0) || (decide (y.1.getD 0 = x.1.getD 0) && decide (x.2 ≤ y.2))

def restoreCandidates (identity : NewProviderIdentity) (grace now : Nat) (s : Store Row) : List Uuid :=
  (((s.ids Tables.authIdentities fun _ r =>
    (s.get (.users r.userId)).any (restorable identity grace now r)).map fun i =>
      ((s.get (.authIdentities i)).bind AuthIdentity.deletedAt, i)).insertionSort
        fun x y => restoreOrder x y).map Prod.snd

/-- Locks the identity and its account. If one of them has changed since the snapshot, both are looked at again, at a
later time than `now`. -/
def restoreLock (identity : NewProviderIdentity) (grace now : Nat) (id : Uuid) :
    Sql AuthRepositoryError (Option (Uuid × Uuid)) := do
  match ← lock (Key.authIdentities id) .update with
  | none => ret none
  | some (r, identityChanged) => do
    match ← lock (Key.users r.userId) .update with
    | none => ret none
    | some (u, accountChanged) => do
      let now ← reread (identityChanged || accountChanged) now
      ret (if restorable identity grace now r u then some (id, r.userId) else none)

def identityRestoreLookup (identity : NewProviderIdentity) (grace : Nat) :
    Sql AuthRepositoryError (Option (Uuid × Uuid)) := do
  let s ← snapshot
  let now ← clock
  first (restoreLock identity grace now) (restoreCandidates identity grace now s)

def User.restore (u : User) : User :=
  { u with deletedAt := none, accountPurgeClaimOwner := none, accountPurgeClaimExpiresAt := none }

def AuthIdentity.restore (r : AuthIdentity) : AuthIdentity := { r with deletedAt := none }

def Membership.restore (r : Membership) : Membership := { r with deletedAt := none, accountDeletedAt := none }

/-- A membership that the account's deletion ended in a group that is still there, when the user has
no other live membership of it. -/
def membershipRestorable (userId : Uuid) (s : Store Row) (r : Membership) : Bool :=
  r.userId == userId && r.deletedAt.isSome && r.accountDeletedAt.isSome &&
    ((s.get (.groups r.groupId)).any fun g => g.deletedAt.isNone) &&
    (s.ids Tables.memberships fun _ m => m.groupId == r.groupId && m.userId == r.userId &&
      m.deletedAt.isNone).isEmpty

def restoreDeletedIdentityRecord (identity : NewProviderIdentity) (session : NewRefreshSession)
    (grace : Nat) : Sql AuthRepositoryError (Option IssuedSession) := do
  match ← identityRestoreLookup identity grace with
  | none => ret none
  | some (identityId, userId) => do
    ensureNotSuspended userId
    let _ ← update Tables.users (fun s => s.one Tables.users userId fun _ => true)
      (fun _ _ _ u => some (User.restore u, ())) (.unavailable "user_restore")
    let _ ← update Tables.authIdentities (fun s => s.one Tables.authIdentities identityId fun _ => true)
      (fun _ _ _ r => some (AuthIdentity.restore r, ())) (.unavailable "identity_restore")
    let _ ← update Tables.memberships (fun s => s.ids Tables.memberships fun _ r => membershipRestorable userId s r)
      (fun s _ _ r => if membershipRestorable userId s r then some (Membership.restore r, ()) else none)
      (.unavailable "membership_restore")
    insertRefreshSession session.id userId session.familyId session.parentSessionId session.tokenHash
      session.expiresAt
    ret (some ⟨userId, session.id⟩)

/-- What `rotate_session_record` reads of the session and its account. -/
structure LockedSession where
  id : Uuid
  userId : Uuid
  familyId : Uuid
  expiresAt : Time
  consumed : Bool
  revoked : Bool
  suspended : Bool

/-- The session is locked and read again, its account only from the snapshot. -/
def refreshLock (tokenHash : Nat) : Sql AuthRepositoryError (Option LockedSession) := do
  let found ← selectFor .update Tables.refreshSessions
    (fun s => s.ids Tables.refreshSessions fun _ r =>
      decide (r.tokenHash = tokenHash) && r.deletedAt.isNone && User.live s r.userId)
    fun s i _ r =>
      match s.get (.users r.userId) with
      | none => none
      | some u =>
        if r.tokenHash = tokenHash ∧ r.deletedAt = none ∧ u.deletedAt = none then
          some { id := i, userId := r.userId, familyId := r.familyId, expiresAt := r.expiresAt,
                 consumed := r.consumedAt.isSome, revoked := r.revokedAt.isSome,
                 suspended := u.suspendedAt.isSome }
        else none
  ret found.head?

/-- `revoked_at = COALESCE(revoked_at, GREATEST(now, created_at))`. -/
def RefreshSession.revoke (now : Time) (r : RefreshSession) : RefreshSession :=
  { r with revokedAt := coalesce r.revokedAt (max now r.createdAt) }

def RefreshSession.consume (now : Time) (r : RefreshSession) : RefreshSession :=
  { r with consumedAt := some (max now r.createdAt) }

/-- `deleted_at = COALESCE(deleted_at, at)`. -/
def RefreshSession.delete (time : Time) (r : RefreshSession) : RefreshSession :=
  { r with deletedAt := coalesce r.deletedAt time }

def rotateSessionRecord (tokenHash : Nat) (child : NewRotatedSession) (now : Time) :
    Sql AuthRepositoryError RotationOutcome := do
  match ← refreshLock tokenHash with
  | none => ret .invalid
  | some parent =>
    if parent.suspended then ret .suspended
    else if parent.consumed then do
      let _ ← update Tables.refreshSessions
        (fun s => s.ids Tables.refreshSessions fun _ r => decide (r.familyId = parent.familyId))
        (fun _ _ _ r => if r.familyId = parent.familyId then some (RefreshSession.revoke now r, ()) else none)
        (.unavailable "refresh_family_revoke")
      ret .reused
    else if parent.revoked ∨ parent.expiresAt ≤ now then ret .invalid
    else do
      let _ ← update Tables.refreshSessions (fun s => s.one Tables.refreshSessions parent.id fun _ => true)
        (fun _ _ _ r => some (RefreshSession.consume now r, ())) (.unavailable "refresh_consume")
      insertRefreshSession child.id parent.userId parent.familyId (some parent.id) child.tokenHash
        child.expiresAt
      ret (.rotated ⟨parent.userId, child.id⟩)

def revokeSessionRecord (sessionId : Uuid) (now : Time) : Sql AuthRepositoryError Unit := do
  let _ ← update Tables.refreshSessions
    (fun s => s.one Tables.refreshSessions sessionId fun r => r.deletedAt.isNone)
    (fun _ _ _ r =>
      if r.deletedAt = none then
        some (RefreshSession.delete (max now r.createdAt) (RefreshSession.revoke now r), ())
      else none)
    (.unavailable "refresh_revoke")
  ret ()

/-- The errors of the service; `DatabaseUnavailable` carries the operation that failed. -/
inductive AuthError
  | accountSuspended
  | refreshTokenInvalid
  | databaseUnavailable (operation : String)
  deriving DecidableEq, Repr

def authError : AuthRepositoryError → AuthError
  | .accountSuspended => .accountSuspended
  | .unavailable operation => .databaseUnavailable operation

structure AuthExchangeOutput where
  issued : IssuedSession
  accountRestored : Bool
  deriving DecidableEq, Repr

/-- The transaction of a sign-in, after the provider has vouched for the identity. -/
def createOrRestoreSession (settings : Settings) (identity : NewProviderIdentity) (now : Time) :
    Sql AuthError AuthExchangeOutput := do
  let tokenHash ← fresh
  let sessionId ← fresh
  let familyId ← fresh
  let session : NewRefreshSession :=
    { id := sessionId, familyId, parentSessionId := none, tokenHash,
      expiresAt := now + settings.refreshLifetime }
  let restored ← mapError authError
    (restoreDeletedIdentityRecord identity session settings.accountPurgeGrace)
  match restored with
  | some issued => ret ⟨issued, true⟩
  | none => do
    let issued ← mapError authError (createSessionRecord identity session)
    ret ⟨issued, false⟩

/-- What a refresh commits: a rotation, or the revocation of a reused token's family. -/
inductive RefreshCommit
  | rotated (issued : IssuedSession)
  | reused
  deriving DecidableEq, Repr

/-- The transaction of a refresh; an invalid token and a suspended account roll it back. -/
def refreshWithClientIp (settings : Settings) (parentDigest : Nat) (now : Time) :
    Sql AuthError RefreshCommit := do
  let tokenHash ← fresh
  let id ← fresh
  let child : NewRotatedSession := { id, tokenHash, expiresAt := now + settings.refreshLifetime }
  match ← mapError authError (rotateSessionRecord parentDigest child now) with
  | .rotated issued => ret (.rotated issued)
  | .invalid => fail .refreshTokenInvalid
  | .reused => ret .reused
  | .suspended => fail .accountSuspended

def logout (sessionId : Uuid) (now : Time) : Sql AuthError Unit :=
  mapError authError (revokeSessionRecord sessionId now)

end Auth

end JamyeServer.Postgres
