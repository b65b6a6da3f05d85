import JamyeServer.ReadCommitted.Effects
import JamyeServer.ReadCommitted.Failure
import JamyeServer.Postgres.Indexes
import JamyeServer.Postgres.Installations

/-!
# Devices and their owners

The transactions that register, change and delete push installations. A row that becomes the live one of an installation id
or of a token is written under the advisory lock of that key, so while a transaction holds the lock no other row takes the
key.
-/

namespace JamyeServer.Installations

open ReadCommitted Postgres Push Prog

inductive Job
  | upsert (userId : Uuid) (installationId : String) (platform : PushPlatform) (token : String)
      (environment : PushEnvironment) (messagePreviewEnabled : Bool)
  | update (userId : Uuid) (installationId : String) (token : String) (messagePreviewEnabled : Option Bool)
  | delete (userId : Uuid) (installationId : String)
  | disableDestination (claim : PushDeliveryClaim) (destination : ExpoPushDestination)
  | deleteAccount (userId : Uuid)
  deriving DecidableEq

inductive Outcome
  | upserted (outcome : UpsertPushInstallationOutcome)
  | updated (installation : PushInstallationRecord)
  | deleted
  | disabled (disabled : Bool)
  | accountDeleted (report : AccountDeletion.AccountDeletionReport)
  deriving DecidableEq

inductive Failure
  | push (error : PushRepositoryError)
  | deletion (error : AccountDeletion.AccountDeletionError)
  deriving DecidableEq

section Programs

variable (hashtextextended : String → Nat)

/-- A new row is named by an identifier that the service draws before. -/
def upsert (userId : Uuid) (installationId : String) (platform : PushPlatform) (token : String)
    (environment : PushEnvironment) (messagePreviewEnabled : Bool) :
    Sql PushRepositoryError UpsertPushInstallationOutcome := do
  let id ← fresh
  upsertInstallation hashtextextended
    ⟨id, userId, installationId, platform, .expo, token, environment, messagePreviewEnabled⟩

def program : Job → Sql Failure Outcome
  | .upsert userId installationId platform token environment messagePreviewEnabled => do
    let outcome ← mapError .push
      (upsert hashtextextended userId installationId platform token environment messagePreviewEnabled)
    .ret (.upserted outcome)
  | .update userId installationId token messagePreviewEnabled => do
    let installation ← mapError .push
      (updateInstallation hashtextextended ⟨userId, installationId, token, messagePreviewEnabled⟩)
    .ret (.updated installation)
  | .delete userId installationId => do
    mapError .push (deleteInstallation hashtextextended ⟨userId, installationId⟩)
    .ret .deleted
  | .disableDestination claim destination => do
    let disabled ← mapError .push (disableInvalidDestination claim destination)
    .ret (.disabled disabled)
  | .deleteAccount userId => do
    let report ← mapError .deletion (AccountDeletion.deleteAccountGrace userId)
    .ret (.accountDeleted report)

/-- The server; `ticks` says how its clock may move. -/
def system (ticks : Time → Time → Bool) : System Row Nat Idx Failure Job Outcome where
  index := index
  prog := program hashtextextended
  ticks := ticks

end Programs

abbrev Entry := ReadCommitted.Entry Row Nat Job Outcome
abbrev Shared := ReadCommitted.Shared Row Nat Job Outcome
abbrev State := ReadCommitted.State Row Nat Failure Job Outcome
abbrev Local := ReadCommitted.Local Row Nat

/-- The transaction holds the locks of the device's two keys. -/
structure Holds (hashtextextended : String → Nat) (l : Local) (b : Binding) : Prop where
  identity : identityKey hashtextextended b.installationId ∈ l.advisory
  destination : destinationKey hashtextextended b.token ∈ l.advisory

/-- How a commit may change an installation. A row gets a device's keys only under their locks. -/
inductive InstallationStep (hashtextextended : String → Nat) (l : Local) (i : Uuid) :
    Option PushInstallation → Option PushInstallation → Prop
  | same (v : Option PushInstallation) : InstallationStep hashtextextended l i v v
  | created {r : PushInstallation} (fresh : i ∈ l.drawn) (holds : Holds hashtextextended l (PushInstallation.binding r)) :
      InstallationStep hashtextextended l i none (some r)
  | kept {b r : PushInstallation} (binding : PushInstallation.binding r = PushInstallation.binding b)
      (ownerEpoch : r.ownerEpoch = b.ownerEpoch) (deletedAt : r.deletedAt = b.deletedAt) :
      InstallationStep hashtextextended l i (some b) (some r)
  | rebound {b r : PushInstallation} (ownerEpoch : b.ownerEpoch < r.ownerEpoch) (before : b.deletedAt = none)
      (after : r.deletedAt = none) (holds : Holds hashtextextended l (PushInstallation.binding r)) :
      InstallationStep hashtextextended l i (some b) (some r)
  | deleted {b r : PushInstallation} (ownerEpoch : r.ownerEpoch = b.ownerEpoch) (before : b.deletedAt = none)
      (after : r.deletedAt ≠ none) : InstallationStep hashtextextended l i (some b) (some r)

/-- Nothing is sent for the occurrence any more. -/
def Closed (r : PushDeliveryIntent) : Prop := r.deletedAt ≠ none ∨ r.status.unfinished = false

/-- How a commit may change an occurrence: it closes it. -/
inductive OccurrenceStep : Option PushDeliveryIntent → Option PushDeliveryIntent → Prop
  | same (v : Option PushDeliveryIntent) : OccurrenceStep v v
  | closed {b r : PushDeliveryIntent} (closed : Closed r) : OccurrenceStep (some b) (some r)

/-- At the given time a worker holds the occurrence. The time is the one of the clock when it does not go back. -/
structure Leased (ticks : Time → Time → Bool) (time : Time) (r : PushDeliveryIntent) : Prop where
  claimed : r.status = .claimed
  lease : (∀ t t', ticks t t' → t ≤ t') → ∀ expiry, r.leaseExpiresAt = some expiry → time < expiry

/-- What each transaction commits. -/
structure Ok (hashtextextended : String → Nat) (ticks : Time → Time → Bool) (e : Entry) (g : Shared) : Prop where
  installations : ∀ i, InstallationStep hashtextextended e.ran i (g.db.get (.pushInstallations i))
    ((g.view e.ran).get (.pushInstallations i))
  occurrences : ∀ j, OccurrenceStep (g.db.get (.pushDeliveryIntents j)) ((g.view e.ran).get (.pushDeliveryIntents j))
  rebound : ∀ i b r, g.db.get (.pushInstallations i) = some b → (g.view e.ran).get (.pushInstallations i) = some r →
    b.ownerEpoch < r.ownerEpoch → ∀ j o, (g.view e.ran).get (.pushDeliveryIntents j) = some o →
      PushDeliveryIntent.prior i r.ownerEpoch o → Leased ticks r.lastSeenAt o
  outbox : ∀ i, g.db.get (.outboxEvents i) = none → (g.view e.ran).get (.outboxEvents i) ≠ none → i ∈ e.ran.drawn

/-- A server at its start: nothing is committed, and the identifiers of its rows have been drawn. -/
structure Starts (g : Shared) : Prop where
  log : g.log = []
  unique : Unique index g.init
  installations : ∀ i, g.init.get (.pushInstallations i) ≠ none → i ∈ g.used
  outbox : ∀ i, g.init.get (.outboxEvents i) ≠ none → i ∈ g.used

/-- The errors of calls that do not meet a unique index or a foreign key. -/
def MayFail (error : Failure) : Prop :=
  (∀ operation, error ≠ .push (.unavailable operation)) ∧ error ≠ .deletion .databaseUnavailable

def contract (hashtextextended : String → Nat) (ticks : Time → Time → Bool) :
    Contract (system hashtextextended ticks) where
  Init := Starts
  log_init _ hg := hg.log
  unique_init _ hg := hg.unique
  Ok := Ok hashtextextended ticks
  Fails _ := MayFail

variable {hashtextextended : String → Nat} {ticks : Time → Time → Bool} {g G : Shared} {l L : Local}

lemma drawnInstallations : DrawnKeys (contract hashtextextended ticks) Key.pushInstallations where
  init _ hg := hg.installations
  insert e g hc i hnone hsome := by
    have hstep := hc.ok.installations i
    rw [hnone] at hstep
    generalize (g.view e.ran).get (.pushInstallations i) = v at hstep hsome
    cases hstep with
    | same => exact absurd rfl hsome
    | created fresh => exact fresh

lemma drawnOutbox : DrawnKeys (contract hashtextextended ticks) Key.outboxEvents where
  init _ hg := hg.outbox
  insert _ _ hc i := hc.ok.outbox i

section History

/-- The row is live with this binding and this epoch. -/
def IsBound (i : Uuid) (b : Binding) (ownerEpoch : Nat) (s : Store Row) : Prop :=
  ∃ r, s.get (.pushInstallations i) = some r ∧ r.deletedAt = none ∧ PushInstallation.binding r = b ∧
    r.ownerEpoch = ownerEpoch

/-- While a transaction holds the lock of one of a device's keys, no row becomes the one of the device. -/
lemma isBound_of_later {b : Binding} {ownerEpoch n m : Nat} {i : Uuid}
    (hev : Evolve (contract hashtextextended ticks) l g L G)
    (hkey : identityKey hashtextextended b.installationId ∈ l.advisory ∨
      destinationKey hashtextextended b.token ∈ l.advisory)
    (hn : g.csn ≤ n) (hnm : n ≤ m) (hm : m ≤ G.csn) (h : IsBound i b ownerEpoch (G.version m)) :
    IsBound i b ownerEpoch (G.version n) := by
  by_contra hnot
  obtain ⟨e, l₁, g₁, -, -, hl₁, hc, hcompat, -, -, hbefore, hafter⟩ :=
    hev.commit_of_change (P := fun s => ¬ IsBound i b ownerEpoch s) hn hnm hm hnot (fun h' => h' h)
  obtain ⟨r, hr, hlive, rfl, hepoch⟩ := not_not.mp hafter
  have hfree : ¬ Holds hashtextextended e.ran (PushInstallation.binding r) := by
    intro hholds
    rcases hkey with hkey | hkey
    · exact hcompat.advisory _ (hl₁.advisory hkey) hholds.identity
    · exact hcompat.advisory _ (hl₁.advisory hkey) hholds.destination
  have hstep := hc.ok.installations i
  rw [hr] at hstep
  generalize hv : g₁.db.get (.pushInstallations i) = v at hstep
  cases hstep with
  | same => exact hbefore ⟨r, hv, hlive, rfl, hepoch⟩
  | created fresh holds => exact hfree holds
  | @kept r₀ _ binding ownerEpoch deletedAt =>
    exact hbefore ⟨r₀, hv, deletedAt.symm.trans hlive, binding.symm, ownerEpoch.symm.trans hepoch⟩
  | rebound ownerEpoch before after holds => exact hfree holds
  | deleted ownerEpoch before after => exact after hlive

/-- Installations are never removed. -/
lemma installation_stays (hG : History (contract hashtextextended ticks) G) {n m : Nat} {i : Uuid} (hnm : n ≤ m)
    (hm : m ≤ G.csn) (h : (G.version n).get (.pushInstallations i) ≠ none) :
    (G.version m).get (.pushInstallations i) ≠ none := by
  refine hG.stable (P := fun s => s.get (.pushInstallations i) ≠ none) (fun g₁ e _ hc hsome => ?_) hnm hm h
  have hstep := hc.ok.installations i
  generalize (g₁.view e.ran).get (.pushInstallations i) = v at hstep ⊢
  generalize g₁.db.get (.pushInstallations i) = v₀ at hstep hsome
  cases hstep with
  | same => exact hsome
  | _ => exact nofun

/-- An occurrence that is open has been as it is from the start. -/
lemma occurrence_of_later (hG : History (contract hashtextextended ticks) G) {n m : Nat} {j : Uuid}
    {o : PushDeliveryIntent} (hnm : n ≤ m) (hm : m ≤ G.csn) (ho : ¬ Closed o)
    (h : (G.version m).get (.pushDeliveryIntents j) = some o) : (G.version n).get (.pushDeliveryIntents j) = some o := by
  by_contra hnot
  refine hG.stable (P := fun s => s.get (.pushDeliveryIntents j) ≠ some o) (fun g₁ e _ hc hne heq => ?_) hnm hm hnot h
  have hstep := hc.ok.occurrences j
  rw [heq] at hstep
  generalize hv : g₁.db.get (.pushDeliveryIntents j) = v at hstep hne
  cases hstep with
  | same => exact hne rfl
  | closed closed => exact ho closed

end History

end JamyeServer.Installations
