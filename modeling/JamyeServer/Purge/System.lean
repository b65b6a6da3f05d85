import JamyeServer.Purge.Frames
import JamyeServer.Accounts.System

/-!
# Accounts and their purge

The transactions on accounts, run next to purge workers. A worker claims accounts in one transaction and
finalizes each of them in another one, at any later time. `Ok` says what a commit does to accounts.
-/

namespace JamyeServer.Purge

open ReadCommitted Postgres Auth AccountDeletion AccountPurge

inductive Job
  | account (job : Accounts.Job)
  | claim (request : AccountPurgeClaimRequest)
  | finalize (claim : AccountPurgeClaim)
  | release (claim : AccountPurgeClaim)
  deriving DecidableEq

inductive Outcome
  | account (outcome : Accounts.Outcome)
  | claimed (claims : List AccountPurgeClaim)
  | purged (report : AccountDeletionReport)
  | released (done : Bool)
  deriving DecidableEq, Repr

inductive Failure
  | account (error : Accounts.Failure)
  | purge (error : AccountDeletionRepositoryError)
  deriving DecidableEq, Repr

def program (settings : Settings) : Job → Sql Failure Outcome
  | .account job => do
    let outcome ← Prog.mapError .account (Accounts.program settings job)
    .ret (.account outcome)
  | .claim request => do
    let claims ← Prog.mapError .purge (claimAccountPurges request)
    .ret (.claimed claims)
  | .finalize claim => do
    let report ← Prog.mapError .purge (finalizeDeletion claim.userId)
    .ret (.purged report)
  | .release claim => do
    let done ← Prog.mapError .purge (releaseAccountPurgeClaim claim)
    .ret (.released done)

/-- The server; `ticks` says how its clock may move. -/
def system (settings : Settings) (ticks : Time → Time → Bool) : System Row Nat Idx Failure Job Outcome where
  index := index
  prog := program settings
  ticks := ticks

abbrev Entry := ReadCommitted.Entry Row Nat Job Outcome
abbrev Shared := ReadCommitted.Shared Row Nat Job Outcome
abbrev State := ReadCommitted.State Row Nat Failure Job Outcome

/-- The entry is a transaction that has claimed the account. -/
def ClaimedBy (e : Entry) (claim : AccountPurgeClaim) : Prop := ∃ claims, e.out = .claimed claims ∧ claim ∈ claims

/-- The account has been deleted for the grace period at the time `now`. -/
def DueAt (grace : Nat) (now : Time) (u : Option User) : Prop :=
  ∃ v d, u = some v ∧ v.deletedAt = some d ∧ d + grace ≤ now

/-- Every claim of the account was due at the time `now`. -/
def ClaimsDue (grace : Nat) (g : Shared) (userId : Uuid) (now : Time) : Prop :=
  ∀ (n : Nat) (e : Entry) (claim : AccountPurgeClaim), g.log[n]? = some e → ClaimedBy e claim → claim.userId = userId →
    DueAt grace now ((g.version n).get (.users userId))

/-- How a commit may change the row of an account. -/
inductive UserStep (grace : Nat) (e : Entry) (g : Shared) (userId : Uuid) : Option User → Option User → Prop
  | absent : UserStep grace e g userId none none
  | kept {u u' : User} (deletedAt : u'.deletedAt = u.deletedAt) : UserStep grace e g userId (some u) (some u')
  | created {u : User} (drawn : userId ∈ e.ran.drawn) (live : u.deletedAt = none)
      (new : ∀ n, n ≤ g.csn → (g.version n).get (.users userId) = none) : UserStep grace e g userId none (some u)
  | deleted {u u' : User} (live : u.deletedAt = none) : UserStep grace e g userId (some u) (some u')
  | restored {u u' : User} {d now : Time} (deletedAt : u.deletedAt = some d) (open_ : now < d + grace)
      (claims : ClaimsDue grace g userId now) : UserStep grace e g userId (some u) (some u')
  | purged {u : User} (deletedAt : u.deletedAt ≠ none) (by_ : ∃ claim, e.job = .finalize claim ∧ claim.userId = userId) :
      UserStep grace e g userId (some u) none

/-- The account is gone and one tombstone is there for it. -/
structure Replaced (userId : Uuid) (before after : Store Row) : Prop where
  gone : after.get (.users userId) = none
  tombstone : ∃ t, before.get (.users t) = none ∧ after.get (.users t) ≠ none ∧
    before.get (.anonymousAuthorTombstones t) = none ∧ after.get (.anonymousAuthorTombstones t) ≠ none ∧
    ∀ i, i ≠ t → after.get (.anonymousAuthorTombstones i) = before.get (.anonymousAuthorTombstones i)

/-- What each transaction commits. -/
structure Ok (grace : Nat) (e : Entry) (g : Shared) : Prop where
  users : ∀ i, UserStep grace e g i (g.db.get (.users i)) ((g.view e.ran).get (.users i))
  claims : ∀ request, e.job = .claim request → ∀ claim, ClaimedBy e claim →
    .users claim.userId ∈ e.ran.writes.map Write.key ∧ DueAt request.grace g.now (g.db.get (.users claim.userId)) ∧
      ((g.view e.ran).get (.users claim.userId)).map User.deletedAt = (g.db.get (.users claim.userId)).map User.deletedAt
  claimJob : ∀ claim, ClaimedBy e claim → ∃ request, e.job = .claim request
  finalized : ∀ claim, e.job = .finalize claim →
    (∃ u, g.db.get (.users claim.userId) = some u ∧ u.deletedAt ≠ none) ∧
      Replaced claim.userId g.db (g.view e.ran)
  tombstones : ∀ i, g.db.get (.anonymousAuthorTombstones i) ≠ none →
    (g.view e.ran).get (.anonymousAuthorTombstones i) ≠ none

/-- The discipline of the workers: they all have the grace period of the server, and finalize only what
they have claimed. -/
def Disciplined (settings : Settings) (e : Entry) (g : Shared) : Prop :=
  (∀ request, e.job = .claim request → request.grace = settings.accountPurgeGrace) ∧
    ∀ claim, e.job = .finalize claim → ∃ (n : Nat) (e' : Entry), g.log[n]? = some e' ∧ ClaimedBy e' claim

/-- A server at its start: nothing is committed yet, and the ids of accounts have been drawn. -/
structure Starts (g : Shared) : Prop where
  log : g.log = []
  unique : Unique index g.init
  drawn : ∀ i, g.init.get (.users i) ≠ none → i ∈ g.used

/-- The contract of accounts with purge workers that keep to their discipline. -/
def contract (settings : Settings) (ticks : Time → Time → Bool) : Contract (system settings ticks) where
  Init := Starts
  log_init _ hg := hg.log
  unique_init _ hg := hg.unique
  Ok := Ok settings.accountPurgeGrace
  Assume := Disciplined settings

/-- The schedules in which the workers keep to their discipline. -/
def WorkersDisciplined (settings : Settings) (s : State) (lab : Label Job) : Prop :=
  ∀ id t out, lab = .commit id → s.find id = some t → t.prog = .ret out →
    Disciplined settings ⟨t.job, out, t.ran⟩ s.shared

end JamyeServer.Purge
