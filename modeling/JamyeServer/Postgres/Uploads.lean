import JamyeServer.Postgres.Media

/-!
# Uploads before they are sent

`create_upload_intent` of `adapters/postgres/media/mod.rs`, `media/finalize.rs` and the poster policy of `domain/media`.
An upload is registered, its object is inspected, and then it is confirmed. A video may be confirmed with a poster,
which is checked before the object is inspected and not again when the video is confirmed.
-/

namespace JamyeServer.Postgres.Media

open ReadCommitted Prog Rooms

structure CreateUploadIntentCommand where
  id : Uuid
  userId : Uuid
  objectKey : String
  targetId : Uuid
  contentType : String
  byteSize : Nat
  filename : Option String
  expiresIn : Nat
  deriving DecidableEq, Repr

structure FinalizeUploadCommand where
  actorId : Uuid
  uploadId : Uuid
  finalized : FinalizedObject
  posterUploadId : Option Uuid
  deriving DecidableEq, Repr

structure ConfirmedUploadRecord where
  id : Uuid
  userId : Uuid
  targetId : Uuid
  objectKey : String
  kind : MediaKind
  contentType : String
  byteSize : Nat
  durationSeconds : Option Nat
  filename : Option String
  confirmedAt : Time
  posterUploadId : Option Uuid
  deriving DecidableEq, Repr

/-- The room, the group and the membership of a user who reaches the room, locked `FOR SHARE`. -/
def lockAccess (chatroomId userId : Uuid) (s : Store Row) : Sql MediaRepositoryError (Option Unit) :=
  first (fun (groupId, membershipId) =>
    andThen (lockLiveRoom .share chatroomId groupId) fun _ =>
    andThen (lockLiveGroup .share groupId) fun _ =>
    lockLiveMembership .share membershipId groupId userId) (accesses s chatroomId userId)

/-- `PRESIGNED_PUT_TTL_SECONDS`, in microseconds. -/
def presignedPutTtl : Nat := 3600 * 10 ^ 6

def createUploadIntent (command : CreateUploadIntentCommand) : Sql MediaRepositoryError Unit := do
  let s ← snapshot
  let authorized ← lockAccess command.targetId command.userId s
  ensure authorized.isSome .targetNotAccessible
  let now ← clock
  insertRow (.mediaUploads command.id)
    { userId := command.userId, objectKey := command.objectKey, scope := .chat, targetId := command.targetId,
      contentType := command.contentType, byteSize := command.byteSize, filename := command.filename,
      expiresAt := now + command.expiresIn, createdAt := now }
    [.users command.userId] (.unavailable "upload_intent_insert")

/-- `AUTHORIZED_UPLOAD_SQL`: the upload of the actor, in a room that the actor reaches. -/
def lockAuthorizedUpload (actorId uploadId : Uuid) : Sql MediaRepositoryError (StoredUpload × Uuid) := do
  let s ← snapshot
  let isOwn := fun (r : MediaUpload) => decide (r.userId = actorId) && decide (r.scope = .chat) && r.deletedAt.isNone
  let target ← ofOption (((s.get (.mediaUploads uploadId)).filter isOwn).map MediaUpload.targetId) .targetNotAccessible
  let authorized ← lockAccess target actorId s
  ensure authorized.isSome .targetNotAccessible
  let found ← lockRow .update (.mediaUploads uploadId) fun now r =>
    if isOwn r && decide (r.targetId = target) then some (StoredUpload.ofRow uploadId now r) else none
  let upload ← ofOption found .targetNotAccessible
  ret (upload, target)

section Posters

def posterContentType : String := "image/jpeg"
def maxPosterBytes : Nat := 1024 * 1024

structure PosterCandidate where
  kind : MediaKind
  contentType : String
  byteSize : Nat
  statusConfirmed : Bool
  scope : MediaScope
  targetId : Uuid
  userId : Uuid
  alreadyLinked : Bool
  hasOwnPoster : Bool

inductive PosterPolicyError
  | videoOnly
  | posterNotImage
  | posterContentType
  | posterTooLarge
  | posterNotConfirmed
  | posterOwnerMismatch
  | posterTargetMismatch
  | posterAlreadyLinked
  | posterHasPoster
  deriving DecidableEq, Repr

def validatePosterLink (kind : MediaKind) (scope : MediaScope) (userId targetId : Uuid) (poster : PosterCandidate) :
    Except PosterPolicyError Unit :=
  if kind ≠ .video then .error .videoOnly
  else if poster.kind ≠ .image then .error .posterNotImage
  else if poster.contentType ≠ posterContentType then .error .posterContentType
  else if maxPosterBytes < poster.byteSize then .error .posterTooLarge
  else if ¬ poster.statusConfirmed then .error .posterNotConfirmed
  else if poster.userId ≠ userId then .error .posterOwnerMismatch
  else if poster.scope ≠ scope ∨ poster.targetId ≠ targetId then .error .posterTargetMismatch
  else if poster.alreadyLinked then .error .posterAlreadyLinked
  else if poster.hasOwnPoster then .error .posterHasPoster
  else .ok ()

/-- `POSTER_CANDIDATE_SQL`, which takes no lock. -/
def posterCandidate (s : Store Row) (posterUploadId : Uuid) : Option (MediaUpload × Bool) :=
  ((s.get (.mediaUploads posterUploadId)).filter fun r => r.deletedAt.isNone).map fun r =>
    (r, !(s.ids Tables.mediaUploads fun _ u => decide (u.posterUploadId = some posterUploadId) &&
      u.deletedAt.isNone).isEmpty)

def loadPosterCandidate (posterUploadId : Uuid) : Sql MediaRepositoryError (Option PosterCandidate) := do
  let found ← select fun s => posterCandidate s posterUploadId
  match found with
  | none => ret none
  | some (r, alreadyLinked) => do
    let kind ← ofOption (validateUpload r.contentType r.byteSize none) .invalidData
    ret (some ⟨kind, r.contentType, r.byteSize, decide (r.status = .confirmed), r.scope, r.targetId, r.userId, alreadyLinked,
      r.posterUploadId.isSome⟩)

end Posters

def StoredUpload.pendingShape (u : StoredUpload) : Bool :=
  u.confirmedAt.isNone && u.consumedAt.isNone && u.boundMessageId.isNone && u.duration.isNone

def StoredUpload.confirmedChatShape (u : StoredUpload) : Bool :=
  u.confirmedAt.isSome && u.consumedAt.isNone && u.boundMessageId.isNone

inductive MediaError
  | requestValidation
  | finalizeValidation
  | posterValidation
  | repository (error : MediaRepositoryError)
  deriving DecidableEq, Repr

/-- The upload is registered under a new id. -/
def createUpload (actorId targetId : Uuid) (contentType : String) (byteSize : Nat) (filename : Option String) :
    Sql MediaError Uuid := do
  ensure (validateUpload contentType byteSize filename).isSome .requestValidation
  let id ← fresh
  mapError .repository (createUploadIntent ⟨id, actorId, mintObjectKey targetId id, targetId, contentType, byteSize, filename,
    presignedPutTtl⟩)
  ret id

/-- What a finalization does before it inspects the object: an upload that is confirmed already is answered with, and the
poster of one that is pending is checked. -/
def prepareUploadFinalize (actorId uploadId : Uuid) (posterUploadId : Option Uuid) : Sql MediaError Bool := do
  let (upload, targetId) ← mapError .repository (lockAuthorizedUpload actorId uploadId)
  match upload.status with
  | .pending => do
    ensure upload.pendingShape (.repository .invalidData)
    ensure upload.isLive (.repository .finalizeConflict)
    let kind ← ofOption upload.validatedKind (.repository .invalidData)
    match posterUploadId with
    | none => ret true
    | some posterUploadId => do
      let candidate ← mapError .repository (loadPosterCandidate posterUploadId)
      let poster ← ofOption candidate .posterValidation
      ensure (validatePosterLink kind .chat actorId targetId poster).isOk .posterValidation
      ret true
  | .confirmed => do
    ensure upload.confirmedChatShape (.repository .invalidData)
    ensure (posterUploadId = upload.posterUploadId) (.repository .finalizeConflict)
    ensure upload.finalizedObject.isSome (.repository .invalidData)
    ret false
  | _ => fail (.repository .finalizeConflict)

/-- The object that was found is the one that was announced; the duration of an audio upload is an `i32`. -/
def validateFinalized (u : StoredUpload) (finalized : FinalizedObject) : Except MediaRepositoryError (Option Nat) :=
  match u.validatedKind with
  | none => .error .invalidData
  | some kind =>
    if finalized.kind ≠ kind ∨ finalized.contentType ≠ u.contentType ∨ finalized.byteSize ≠ u.byteSize then
      .error .finalizeConflict
    else match kind, finalized.durationSeconds with
      | .audio, some d => if 0 < d ∧ d < 2 ^ 31 then .ok (some d) else .error .finalizeConflict
      | .audio, none => .error .finalizeConflict
      | _, none => .ok none
      | _, some _ => .error .finalizeConflict

def ofExcept {α : Type} : Except MediaRepositoryError α → Sql MediaRepositoryError α
  | .ok a => ret a
  | .error e => fail e

def MediaUpload.confirm (duration : Option Nat) (posterUploadId : Option Uuid) (now : Time) (r : MediaUpload) : MediaUpload :=
  { r with status := .confirmed, duration, confirmedAt := some now, posterUploadId }

/-- The poster is not locked: that it is free is left to the unique index, that it exists to the foreign key. -/
def finalizeUpload (command : FinalizeUploadCommand) : Sql MediaRepositoryError ConfirmedUploadRecord := do
  let (upload, targetId) ← lockAuthorizedUpload command.actorId command.uploadId
  ensure (upload.status = .pending) .finalizeConflict
  ensure upload.pendingShape .invalidData
  ensure upload.isLive .finalizeConflict
  let duration ← ofExcept (validateFinalized upload command.finalized)
  ensure (command.posterUploadId ≠ some command.uploadId) .invalidData
  let isPending := fun (r : MediaUpload) => decide (r.status = .pending) && r.deletedAt.isNone
  let confirmed ← update Tables.mediaUploads
    (fun s => s.one Tables.mediaUploads command.uploadId fun r => isPending r)
    (fun _ _ now r => if isPending r then some (MediaUpload.confirm duration command.posterUploadId now r, now) else none)
    .finalizeConflict
  let confirmedAt ← ofOption confirmed.head? .finalizeConflict
  references .finalizeConflict (command.posterUploadId.toList.map Key.mediaUploads)
  ret { id := upload.id, userId := command.actorId, targetId, objectKey := upload.objectKey, kind := command.finalized.kind,
        contentType := command.finalized.contentType, byteSize := command.finalized.byteSize,
        durationSeconds := command.finalized.durationSeconds, filename := upload.filename, confirmedAt,
        posterUploadId := command.posterUploadId }

end JamyeServer.Postgres.Media
