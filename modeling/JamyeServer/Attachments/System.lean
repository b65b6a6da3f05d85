import JamyeServer.ReadCommitted.Effects
import JamyeServer.Postgres.AccountPurge
import JamyeServer.Postgres.Indexes
import JamyeServer.Postgres.TopicDeletion
import JamyeServer.Postgres.Uploads

/-!
# Uploads and attachments

The transactions that write uploads and the attachments of messages: uploads are registered and confirmed, sends
bind them, and deletions of messages, topics and accounts remove them.
-/

namespace JamyeServer.Attachments

open ReadCommitted Postgres Media Messages TopicDeletion AccountDeletion AccountPurge

inductive Job
  | createUpload (actorId targetId : Uuid) (contentType : String) (byteSize : Nat) (filename : Option String)
  | prepareFinalize (actorId uploadId : Uuid) (posterUploadId : Option Uuid)
  | finalize (command : FinalizeUploadCommand)
  | send (actorId : Uuid) (input : SendMessageInput)
  | deleteMessage (actorId chatroomId messageId : Uuid)
  | moderatorDelete (messageId : Uuid)
  | deleteTopic (command : DeleteTopicCommand)
  | purge (userId : Uuid)
  deriving DecidableEq

inductive Outcome
  | registered (uploadId : Uuid)
  | prepared (pending : Bool)
  | confirmed (record : ConfirmedUploadRecord)
  | message (outcome : SendMessageOutcome)
  | done
  | moderated (outcome : ModeratorDeleteOutcome)
  | purged (report : AccountDeletionReport)
  deriving DecidableEq

inductive Failure
  | media (error : MediaError)
  | messaging (error : MessagingError)
  | messagingRepository (error : MessagingRepositoryError)
  | topics (error : Topics.TopicsRepositoryError)
  | accounts (error : AccountDeletionRepositoryError)
  deriving DecidableEq

/-- A finalization is two transactions: what the first one has checked may have changed before the second one. -/
def program (settings : Settings) (mask : String → String) : Job → Sql Failure Outcome
  | .createUpload actorId targetId contentType byteSize filename => do
    let id ← Prog.mapError .media (createUpload actorId targetId contentType byteSize filename)
    .ret (.registered id)
  | .prepareFinalize actorId uploadId posterUploadId => do
    let pending ← Prog.mapError .media (prepareUploadFinalize actorId uploadId posterUploadId)
    .ret (.prepared pending)
  | .finalize command => do
    let record ← Prog.mapError (fun error => .media (.repository error)) (finalizeUpload command)
    .ret (.confirmed record)
  | .send actorId input => do
    let outcome ← Prog.mapError .messaging (sendMessageHttp settings mask actorId input)
    .ret (.message outcome)
  | .deleteMessage actorId chatroomId messageId => do
    Prog.mapError .messagingRepository (Messages.deleteMessage actorId chatroomId messageId)
    .ret .done
  | .moderatorDelete messageId => do
    let outcome ← Prog.mapError .messagingRepository (moderatorDeleteMessage messageId)
    .ret (.moderated outcome)
  | .deleteTopic command => do
    Prog.mapError .topics (TopicDeletion.deleteTopic command)
    .ret .done
  | .purge userId => do
    let report ← Prog.mapError .accounts (finalizeDeletion userId)
    .ret (.purged report)

/-- The server; `ticks` says how its clock may move. -/
def system (settings : Settings) (mask : String → String) (ticks : Time → Time → Bool) :
    System Row Nat Idx Failure Job Outcome where
  index := index
  prog := program settings mask
  ticks := ticks

abbrev Entry := ReadCommitted.Entry Row Nat Job Outcome
abbrev Shared := ReadCommitted.Shared Row Nat Job Outcome
abbrev State := ReadCommitted.State Row Nat Failure Job Outcome

/-- The uploads that the request of a transaction lists. -/
def Job.listed : Job → List Uuid
  | .send _ input => input.mediaUploadIds
  | _ => []

/-- The poster that a transaction is asked to link. -/
def Job.poster : Job → Option Uuid
  | .finalize command => command.posterUploadId
  | _ => none

/-- The poster of an upload that is not deleted. -/
def liveLink (u : Option MediaUpload) : Option Uuid := u.bind fun r => if r.deletedAt = none then r.posterUploadId else none

/-- A transaction adds attachments of the uploads `listed` only, and links `poster` only. -/
def Adds (listed : List Uuid) (poster : Option Uuid) : (k : Key) → Option (Row k) → Option (Row k) → Prop
  | .messageMedia _, base, v => ∀ u ∈ v.map MessageMedia.mediaUploadId, u ∈ base.map MessageMedia.mediaUploadId ∨ u ∈ listed
  | .mediaUploads _, base, v => ∀ p ∈ liveLink v, p ∈ liveLink base ∨ p ∈ poster
  | _, _, _ => True

lemma adds_refl {listed : List Uuid} {poster : Option Uuid} (k : Key) (v : Option (Row k)) : Adds listed poster k v v := by
  cases k with
  | messageMedia i => exact fun u hu => .inl hu
  | mediaUploads i => exact fun p hp => .inl hp
  | _ => trivial

/-- A change that keeps the poster of an upload or takes it away. -/
lemma Adds.keeps {listed : List Uuid} {poster : Option Uuid} {i : Uuid} {base : Option MediaUpload} {r r' : MediaUpload}
    (h : Adds listed poster (.mediaUploads i) base (some r))
    (hposter : r'.posterUploadId = r.posterUploadId ∨ r'.posterUploadId = none)
    (hdeleted : r'.deletedAt = none → r.deletedAt = none) : Adds listed poster (.mediaUploads i) base (some r') := by
  intro p hp
  refine h p ?_
  by_cases hr' : r'.deletedAt = none
  · simp only [liveLink, Option.bind_some, if_pos hr', if_pos (hdeleted hr')] at hp ⊢
    rcases hposter with heq | hnone
    · rwa [heq] at hp
    · rw [hnone] at hp
      cases hp
  · simp [liveLink, hr'] at hp

end JamyeServer.Attachments
