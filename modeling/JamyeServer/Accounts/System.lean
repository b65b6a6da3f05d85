import JamyeServer.Postgres.Moderation
import JamyeServer.Postgres.AccountDeletion

/-!
# Accounts and sessions

The transactions that create, restore, suspend and delete accounts and issue, rotate and revoke refresh
sessions, run next to each other. `Ok` says of each of them what its commit does to the tables of
accounts, identities and sessions, relative to the database that the commit meets.
-/

namespace JamyeServer.Accounts

open ReadCommitted Postgres Auth Moderation AccountDeletion

inductive Job
  | exchange (identity : NewProviderIdentity) (now : Time)
  | refresh (tokenHash : Nat) (now : Time)
  | logout (sessionId : Uuid) (now : Time)
  | suspend (command : SuspendUserCommand)
  | unsuspend (userId : Uuid)
  | deleteAccount (userId : Uuid)
  deriving DecidableEq

inductive Outcome
  | exchanged (output : AuthExchangeOutput)
  | refreshed (commit : RefreshCommit)
  | done
  deriving DecidableEq, Repr

inductive Failure
  | auth (error : AuthError)
  | moderation (error : ModerationRepositoryError)
  | deletion (error : AccountDeletionError)
  deriving DecidableEq, Repr

def program (settings : Settings) : Job → Sql Failure Outcome
  | .exchange identity now => do
    let output ← Prog.mapError .auth (createOrRestoreSession settings identity now)
    .ret (.exchanged output)
  | .refresh tokenHash now => do
    let commit ← Prog.mapError .auth (refreshWithClientIp settings tokenHash now)
    .ret (.refreshed commit)
  | .logout sessionId now => do
    Prog.mapError .auth (logout sessionId now)
    .ret .done
  | .suspend command => do
    Prog.mapError .moderation (suspendUser command)
    .ret .done
  | .unsuspend userId => do
    Prog.mapError .moderation (unsuspendUser userId)
    .ret .done
  | .deleteAccount userId => do
    let _ ← Prog.mapError .deletion (deleteAccountGrace userId)
    .ret .done

/-- The server; `ticks` says how its clock may move. -/
def system (settings : Settings) (ticks : Time → Time → Bool) :
    System Row Nat Idx Failure Job Outcome where
  index := index
  prog := program settings
  ticks := ticks

abbrev Entry := ReadCommitted.Entry Row Nat Job Outcome
abbrev Shared := ReadCommitted.Shared Row Nat Job Outcome
abbrev State := ReadCommitted.State Row Nat Failure Job Outcome

section Effects

variable (before after : Store Row) (ran : Local Row Nat)

/-- `r'` is `r` revoked, perhaps deleted. -/
structure Revoked (r r' : RefreshSession) : Prop where
  userId : r'.userId = r.userId
  familyId : r'.familyId = r.familyId
  parentSessionId : r'.parentSessionId = r.parentSessionId
  tokenHash : r'.tokenHash = r.tokenHash
  consumedAt : r'.consumedAt = r.consumedAt
  revokedAt : r'.revokedAt ≠ none
  deletedAt : r.deletedAt ≠ none → r'.deletedAt ≠ none

/-- Some sessions are revoked, the others are kept. -/
def SessionsRevoked : Prop :=
  ∀ i, after.get (.refreshSessions i) = before.get (.refreshSessions i) ∨
    ∃ r r', before.get (.refreshSessions i) = some r ∧ after.get (.refreshSessions i) = some r' ∧ Revoked r r'

/-- The sessions of a snapshot that satisfy `scope` are revoked now. -/
def RevokedSince (snapshot : Store Row) (scope : RefreshSession → Prop) : Prop :=
  ∀ i r, snapshot.get (.refreshSessions i) = some r → scope r →
    ∃ r', after.get (.refreshSessions i) = some r' ∧ r'.revokedAt ≠ none

/-- A new session is there; its account is locked against deletion. -/
structure SessionInserted (sessionId : Uuid) (row : RefreshSession) : Prop where
  absent : before.get (.refreshSessions sessionId) = none
  inserted : after.get (.refreshSessions sessionId) = some row
  consumedAt : row.consumedAt = none
  revokedAt : row.revokedAt = none
  deletedAt : row.deletedAt = none
  account : (.users row.userId, .keyShare) ∈ ran.locks
  user : after.get (.users row.userId) ≠ none

/-- A sign-in adds the first session of a new family. -/
structure SessionIssued (sessionId : Uuid) (row : RefreshSession) : Prop
    extends SessionInserted before after ran sessionId row where
  only : Store.SameBut Tables.refreshSessions sessionId before after
  root : row.parentSessionId = none
  drawn : row.familyId ∈ ran.drawn
  newFamily : ∀ i r, before.get (.refreshSessions i) = some r → r.familyId ≠ row.familyId

/-- A refresh consumes a usable session and adds its child. -/
structure SessionRotated (parentId childId : Uuid) (parent child : RefreshSession) : Prop
    extends SessionInserted before after ran childId child where
  locked : before.get (.refreshSessions parentId) = some parent
  unconsumed : parent.consumedAt = none
  unrevoked : parent.revokedAt = none
  undeleted : parent.deletedAt = none
  consumed : ∃ now, after.get (.refreshSessions parentId) = some (RefreshSession.consume now parent)
  only : ∀ i, i ≠ parentId → i ≠ childId →
    after.get (.refreshSessions i) = before.get (.refreshSessions i)
  childUser : child.userId = parent.userId
  childFamily : child.familyId = parent.familyId
  childParent : child.parentSessionId = some parentId

/-- The live account that a snapshot shows for the principal. -/
structure LiveIn (s : Store Row) (identity : NewProviderIdentity) (userId : Uuid) : Prop where
  identity : ∃ i r, s.get (.authIdentities i) = some r ∧ r.provider = identity.provider ∧
    r.providerId = identity.providerId ∧ r.deletedAt = none ∧ r.userId = userId
  account : ∃ u, s.get (.users userId) = some u ∧ u.deletedAt = none

/-- The principal's account comes back from its grace period. -/
structure AccountRestored (grace : Nat) (identity : NewProviderIdentity) (now : Time) (identityId : Uuid)
    (r : AuthIdentity) (u : User) : Prop where
  identityRow : before.get (.authIdentities identityId) = some r
  userRow : before.get (.users r.userId) = some u
  restorable : restorable identity grace now r u = true
  unsuspended : u.suspendedAt = none
  newUser : after.get (.users r.userId) = some (User.restore u)
  users : Store.SameBut Tables.users r.userId before after
  newIdentity : after.get (.authIdentities identityId) = some (AuthIdentity.restore r)
  identities : Store.SameBut Tables.authIdentities identityId before after

/-- The principal gets a new account. -/
structure AccountCreated (identity : NewProviderIdentity) (userId identityId : Uuid) (u : User)
    (r : AuthIdentity) : Prop where
  noUser : before.get (.users userId) = none
  newUser : after.get (.users userId) = some u
  live : u.deletedAt = none
  unsuspended : u.suspendedAt = none
  users : Store.SameBut Tables.users userId before after
  noIdentity : before.get (.authIdentities identityId) = none
  newIdentity : after.get (.authIdentities identityId) = some r
  owner : r.userId = userId
  provider : r.provider = identity.provider
  providerId : r.providerId = identity.providerId
  liveIdentity : r.deletedAt = none
  identities : Store.SameBut Tables.authIdentities identityId before after

/-- One account's row changes. -/
structure AccountChanged (userId : Uuid) (u u' : User) : Prop where
  userRow : before.get (.users userId) = some u
  newUser : after.get (.users userId) = some u'
  users : Store.SameBut Tables.users userId before after
  identities : Store.Same Tables.authIdentities before after

/-- An account and its identities are marked as deleted. -/
structure AccountDeleted (userId : Uuid) (u : User) (now : Time) : Prop where
  userRow : before.get (.users userId) = some u
  live : u.deletedAt = none
  newUser : after.get (.users userId) = some (User.markDeleted now u)
  users : Store.SameBut Tables.users userId before after
  ownIdentities : ∀ i r, before.get (.authIdentities i) = some r → r.userId = userId →
    after.get (.authIdentities i) = some (AuthIdentity.delete now r)
  otherIdentities : ∀ i, (∀ r, before.get (.authIdentities i) = some r → r.userId ≠ userId) →
    after.get (.authIdentities i) = before.get (.authIdentities i)

/-- Accounts and identities stay as they are. -/
structure AccountsKept : Prop where
  users : Store.Same Tables.users before after
  identities : Store.Same Tables.authIdentities before after

end Effects

/-- What a sign-in commits. -/
inductive Exchanged (grace : Nat) (identity : NewProviderIdentity) (ran : Local Row Nat) (g : Shared) :
    AuthExchangeOutput → Prop
  | restored (sessionId : Uuid) (row : RefreshSession) (now : Time) (identityId : Uuid) (r : AuthIdentity)
      (u : User) (issued : SessionIssued g.db (g.view ran) ran sessionId row) (owner : row.userId = r.userId)
      (account : AccountRestored g.db (g.view ran) grace identity now identityId r u)
      (identityLock : (.authIdentities identityId, .update) ∈ ran.locks)
      (userLock : (.users r.userId, .update) ∈ ran.locks) :
      Exchanged grace identity ran g ⟨⟨r.userId, sessionId⟩, true⟩
  | found (userId sessionId : Uuid) (row : RefreshSession) (n : Nat) (u : User)
      (issued : SessionIssued g.db (g.view ran) ran sessionId row) (owner : row.userId = userId)
      (snapshot : n ∈ ran.snapshots) (lookup : LiveIn (g.version n) identity userId)
      (account : g.db.get (.users userId) = some u) (unsuspended : u.suspendedAt = none)
      (kept : AccountsKept g.db (g.view ran)) (userLock : (.users userId, .share) ∈ ran.locks) :
      Exchanged grace identity ran g ⟨⟨userId, sessionId⟩, false⟩
  | created (userId sessionId : Uuid) (row : RefreshSession) (identityId : Uuid) (u : User)
      (r : AuthIdentity) (issued : SessionIssued g.db (g.view ran) ran sessionId row)
      (owner : row.userId = userId)
      (account : AccountCreated g.db (g.view ran) identity userId identityId u r) :
      Exchanged grace identity ran g ⟨⟨userId, sessionId⟩, false⟩

/-- A refresh that commits a rotation. -/
structure Rotated (tokenHash : Nat) (ran : Local Row Nat) (g : Shared) (parentId childId : Uuid)
    (parent child : RefreshSession) (n : Nat) (u : User) : Prop where
  rotated : SessionRotated g.db (g.view ran) ran parentId childId parent child
  token : parent.tokenHash = tokenHash
  snapshot : n ∈ ran.snapshots
  found : (g.version n).get (.refreshSessions parentId) ≠ none
  account : (g.version n).get (.users parent.userId) = some u
  live : u.deletedAt = none
  unsuspended : u.suspendedAt = none
  kept : AccountsKept g.db (g.view ran)

/-- A refresh that commits the revocation of a family. -/
structure Reused (tokenHash : Nat) (ran : Local Row Nat) (g : Shared) (sessionId : Uuid)
    (session : RefreshSession) (n : Nat) : Prop where
  locked : g.db.get (.refreshSessions sessionId) = some session
  token : session.tokenHash = tokenHash
  consumed : session.consumedAt ≠ none
  sessions : SessionsRevoked g.db (g.view ran)
  snapshot : ran.snapshots.head? = some n
  found : (g.version n).get (.refreshSessions sessionId) ≠ none
  family : RevokedSince (g.view ran) (g.version n) fun r => r.familyId = session.familyId
  kept : AccountsKept g.db (g.view ran)

/-- A suspension; the sessions of a snapshot are revoked. -/
structure Suspended (userId : Uuid) (ran : Local Row Nat) (g : Shared) (u u' : User) (n : Nat) :
    Prop where
  account : AccountChanged g.db (g.view ran) userId u u'
  suspended : u'.suspendedAt ≠ none
  deletedAt : u'.deletedAt = u.deletedAt
  sessions : SessionsRevoked g.db (g.view ran)
  snapshot : ran.snapshots.head? = some n
  all : RevokedSince (g.view ran) (g.version n) fun r => r.userId = userId

/-- The end of a suspension; the sessions of a snapshot are revoked. -/
structure Unsuspended (userId : Uuid) (ran : Local Row Nat) (g : Shared) (u : User) (n : Nat) : Prop where
  account : AccountChanged g.db (g.view ran) userId u (User.unsuspend u)
  suspended : u.suspendedAt ≠ none
  sessions : SessionsRevoked g.db (g.view ran)
  snapshot : ran.snapshots.head? = some n
  all : RevokedSince (g.view ran) (g.version n) fun r => r.userId = userId
  held : ∀ m, n ≤ m → m ≤ g.csn → (g.version m).get (.users userId) = some u

/-- The start of an account's grace period; all sessions that the account has are deleted. -/
structure Deleted (userId : Uuid) (ran : Local Row Nat) (g : Shared) (u : User) (now : Time) : Prop where
  account : AccountDeleted g.db (g.view ran) userId u now
  sessions : SessionsRevoked g.db (g.view ran)
  all : ∀ i r, g.db.get (.refreshSessions i) = some r → r.userId = userId →
    ∃ r', (g.view ran).get (.refreshSessions i) = some r' ∧ r'.deletedAt ≠ none
  userLock : (.users userId, .update) ∈ ran.locks

/-- What each transaction commits. -/
def Ok (settings : Settings) (e : Entry) (g : Shared) : Prop :=
  match e.job, e.out with
  | .exchange identity _, .exchanged output =>
    Exchanged settings.accountPurgeGrace identity e.ran g output
  | .refresh tokenHash _, .refreshed (.rotated issued) => ∃ parentId parent child n u,
      Rotated tokenHash e.ran g parentId issued.sessionId parent child n u ∧ child.userId = issued.userId
  | .refresh tokenHash _, .refreshed .reused => ∃ sessionId session n,
      Reused tokenHash e.ran g sessionId session n
  | .logout _ _, .done => SessionsRevoked g.db (g.view e.ran) ∧ AccountsKept g.db (g.view e.ran)
  | .suspend command, .done => ∃ u u' n, Suspended command.userId e.ran g u u' n
  | .unsuspend userId, .done => (∃ u n, Unsuspended userId e.ran g u n) ∨
      (Store.Same Tables.refreshSessions g.db (g.view e.ran) ∧ AccountsKept g.db (g.view e.ran))
  | .deleteAccount userId, .done => ∃ u now, Deleted userId e.ran g u now
  | _, _ => False

end JamyeServer.Accounts
