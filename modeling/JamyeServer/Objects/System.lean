import JamyeServer.Attachments.System
import JamyeServer.Avatars.Statements

/-!
# Stored objects and their deletion

The objects of uploads and avatars lie in a store of their own, where a worker deletes the keys that deletion intents
name. All transactions that write uploads, attachments, avatars or intents run here together.
-/

namespace JamyeServer.Objects

open ReadCommitted Postgres Media Messages

inductive Job
  | media (job : Attachments.Job)
  | avatar (job : Avatars.Job)
  deriving DecidableEq

inductive Outcome
  | media (outcome : Attachments.Outcome)
  | avatar (outcome : Avatars.Outcome)
  deriving DecidableEq

inductive Failure
  | media (failure : Attachments.Failure)
  | avatar (error : Postgres.Avatars.AvatarError)
  deriving DecidableEq

def program (settings : Settings) (mask : String → String) (publicBaseUrl : String) : Job → Sql Failure Outcome
  | .media job => do
    let outcome ← Prog.mapError .media (Attachments.program settings mask job)
    .ret (.media outcome)
  | .avatar job => do
    let outcome ← Prog.mapError .avatar (Avatars.program publicBaseUrl job)
    .ret (.avatar outcome)

/-- The server; `ticks` says how its clock may move. -/
def system (settings : Settings) (mask : String → String) (publicBaseUrl : String) (ticks : Time → Time → Bool) :
    System Row Nat Idx Failure Job Outcome where
  index := index
  prog := program settings mask publicBaseUrl
  ticks := ticks

abbrev Entry := ReadCommitted.Entry Row Nat Job Outcome
abbrev Shared := ReadCommitted.Shared Row Nat Job Outcome
abbrev State := ReadCommitted.State Row Nat Failure Job Outcome
abbrev Local := ReadCommitted.Local Row Nat

/-- How a commit may change an upload: it is bound once, and nothing else of it but its owner and its deletion changes
from then on. -/
inductive UploadStep (drawn : List Nat) (i : Uuid) : Option MediaUpload → Option MediaUpload → Prop
  | same (v : Option MediaUpload) : UploadStep drawn i v v
  | registered {r : MediaUpload} (status : r.status = .pending) (bound : r.boundMessageId = none)
      (deleted : r.deletedAt = none) (objectKey : r.objectKey = mintObjectKey r.targetId i) (fresh : i ∈ drawn) :
      UploadStep drawn i none (some r)
  | changed {b r : MediaUpload} (unbound : b.boundMessageId = none) (objectKey : r.objectKey = b.objectKey)
      (targetId : r.targetId = b.targetId) (deleted : r.deletedAt = b.deletedAt)
      (status : r.status = .bound ↔ r.boundMessageId ≠ none) : UploadStep drawn i (some b) (some r)
  | kept {b r : MediaUpload} (objectKey : r.objectKey = b.objectKey) (targetId : r.targetId = b.targetId)
      (status : r.status = b.status) (bound : r.boundMessageId = b.boundMessageId)
      (poster : r.posterUploadId = b.posterUploadId) (deleted : b.deletedAt ≠ none → r.deletedAt ≠ none) :
      UploadStep drawn i (some b) (some r)
  | removed {b : MediaUpload} (unbound : b.boundMessageId = none) : UploadStep drawn i (some b) none

/-- How a commit may change an avatar: a released one stays released until its row goes. A new one is registered while the
row of its user is locked. -/
inductive AvatarStep (l : Local) (i : Uuid) : Option UserAvatarUpload → Option UserAvatarUpload → Prop
  | same (v : Option UserAvatarUpload) : AvatarStep l i v v
  | registered {r : UserAvatarUpload} (status : r.status = .pending)
      (objectKey : r.objectKey = Postgres.Avatars.mintAvatarObjectKey r.userId i) (fresh : i ∈ l.drawn)
      (lock : (.users r.userId, .update) ∈ l.locks) : AvatarStep l i none (some r)
  | changed {b r : UserAvatarUpload} (objectKey : r.objectKey = b.objectKey) (userId : r.userId = b.userId)
      (released : b.status = .released → r.status = .released) : AvatarStep l i (some b) (some r)
  | removed (b : UserAvatarUpload) : AvatarStep l i (some b) none

/-- The upload is deleted or gone. -/
def Discarded (v : Option MediaUpload) : Prop := ∀ r, v = some r → r.deletedAt ≠ none

/-- The avatar is released or gone. -/
def Released (v : Option UserAvatarUpload) : Prop := ∀ r, v = some r → r.status = .released

/-- A deletion intent names the key. -/
def HasIntent (s : Store Row) (objectKey : String) : Prop :=
  ∃ j x, s.get (.accountObjectDeletionIntents j) = some x ∧ x.objectKey = objectKey

/-- The transaction names the intents that it adds by identifiers that it has drawn. -/
def OwnIntents (l : Local) : Prop := ∀ w ∈ l.writes, ∀ j, w.key = .accountObjectDeletionIntents j → j ∈ l.drawn

/-- The rows of other tables. -/
def Apart : Key → Prop
  | .mediaUploads _ | .messageMedia _ | .userAvatarUploads _ | .accountObjectDeletionIntents _ => False
  | _ => True

/-- The attachment is bound to its message together with the poster of its upload. -/
structure Bound (s : Store Row) (row : MessageMedia) : Prop where
  upload : ∃ r, s.get (.mediaUploads row.mediaUploadId) = some r ∧ r.boundMessageId = some row.messageId ∧
    r.deletedAt = none ∧ r.objectKey = row.objectKey ∧ ∀ p, r.posterUploadId = some p →
      ∃ r', s.get (.mediaUploads p) = some r' ∧ r'.boundMessageId = some row.messageId ∧ r'.deletedAt = none

/-- A new attachment: its upload and the poster of its upload have not been bound before. -/
structure Attaches (s s' : Store Row) (row : MessageMedia) : Prop where
  bound : Bound s' row
  upload : ∃ b, s.get (.mediaUploads row.mediaUploadId) = some b ∧ b.boundMessageId = none
  poster : ∀ r p, s'.get (.mediaUploads row.mediaUploadId) = some r → r.posterUploadId = some p →
    ∃ b, s.get (.mediaUploads p) = some b ∧ b.boundMessageId = none

/-- The object belongs to an upload or an avatar that the commit discards. -/
inductive Discards (s s' : Store Row) (objectKey : String) : Prop
  | upload (i : Uuid) (b : MediaUpload) (row : s.get (.mediaUploads i) = some b) (key : b.objectKey = objectKey)
      (discarded : Discarded (s'.get (.mediaUploads i)))
  | avatar (i : Uuid) (b : UserAvatarUpload) (row : s.get (.userAvatarUploads i) = some b) (key : b.objectKey = objectKey)
      (released : Released (s'.get (.userAvatarUploads i)))

/-- What each transaction commits. -/
structure Ok (e : Entry) (g : Shared) : Prop where
  uploads : ∀ i, UploadStep e.ran.drawn i (g.db.get (.mediaUploads i)) ((g.view e.ran).get (.mediaUploads i))
  avatars : ∀ i, AvatarStep e.ran i (g.db.get (.userAvatarUploads i)) ((g.view e.ran).get (.userAvatarUploads i))
  newUploads : ∀ i, g.db.get (.mediaUploads i) = none → (g.view e.ran).get (.mediaUploads i) ≠ none →
    ∀ n, n ≤ g.csn → (g.version n).get (.mediaUploads i) = none
  newAvatars : ∀ i, g.db.get (.userAvatarUploads i) = none → (g.view e.ran).get (.userAvatarUploads i) ≠ none →
    ∀ n, n ≤ g.csn → (g.version n).get (.userAvatarUploads i) = none
  attachments : ∀ m row, (g.view e.ran).get (.messageMedia m) = some row →
    g.db.get (.messageMedia m) = some row ∨ Attaches g.db (g.view e.ran) row
  ownIntents : OwnIntents e.ran
  intents : ∀ j x, g.db.get (.accountObjectDeletionIntents j) = some x →
    (g.view e.ran).get (.accountObjectDeletionIntents j) = some x
  discards : ∀ j x, (g.view e.ran).get (.accountObjectDeletionIntents j) = some x →
    g.db.get (.accountObjectDeletionIntents j) = some x ∨ Discards g.db (g.view e.ran) x.objectKey
  detached : ∀ i b, g.db.get (.mediaUploads i) = some b → b.deletedAt = none →
    Discarded ((g.view e.ran).get (.mediaUploads i)) → ∀ m row, (g.view e.ran).get (.messageMedia m) = some row →
      row.mediaUploadId ≠ i ∧
        ∀ r, (g.view e.ran).get (.mediaUploads row.mediaUploadId) = some r → r.posterUploadId ≠ some i
  uploadIntents : ∀ i b, g.db.get (.mediaUploads i) = some b → b.deletedAt = none →
    Discarded ((g.view e.ran).get (.mediaUploads i)) → HasIntent (g.view e.ran) b.objectKey
  avatarIntents : ∀ i b, g.db.get (.userAvatarUploads i) = some b → b.status ≠ .released →
    Released ((g.view e.ran).get (.userAvatarUploads i)) → HasIntent (g.view e.ran) b.objectKey

/-- A server at its start: nothing is committed, and there are no objects yet. -/
structure Starts (g : Shared) : Prop where
  log : g.log = []
  unique : Unique index g.init
  uploads : ∀ i, g.init.get (.mediaUploads i) = none
  avatars : ∀ i, g.init.get (.userAvatarUploads i) = none
  attachments : ∀ m, g.init.get (.messageMedia m) = none
  intents : ∀ j, g.init.get (.accountObjectDeletionIntents j) = none

def contract (settings : Settings) (mask : String → String) (publicBaseUrl : String) (ticks : Time → Time → Bool) :
    Contract (system settings mask publicBaseUrl ticks) where
  Init := Starts
  log_init _ hg := hg.log
  unique_init _ hg := hg.unique
  Ok := Ok

end JamyeServer.Objects
