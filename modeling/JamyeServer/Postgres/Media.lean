import JamyeServer.Postgres.Push
import JamyeServer.Postgres.Rooms

/-!
# Binding uploads to a message

`adapters/postgres/media/message_binding.rs` with the checks of `domain/media` that it makes. A message is bound
to the uploads of its sender, in the order of the request, or the same request is answered again.
-/

namespace JamyeServer.Postgres.Media

open ReadCommitted Prog Rooms

inductive MediaRepositoryError
  | targetNotAccessible
  | finalizeConflict
  | invalidData
  | unavailable (operation : String)
  deriving DecidableEq, Repr

inductive MediaKind
  | image | video | audio
  deriving DecidableEq, Repr

def maxMediaPerMessage : Nat := 4
def maxFilenameChars : Nat := 255

def imageContentTypes : List String := ["image/jpeg", "image/png", "image/webp", "image/gif"]
def videoContentTypes : List String := ["video/mp4"]
def audioContentTypes : List String := ["audio/webm", "audio/mp4", "audio/ogg"]

def classifyContentType (contentType : String) : Option MediaKind :=
  if contentType ∈ imageContentTypes then some .image
  else if contentType ∈ videoContentTypes then some .video
  else if contentType ∈ audioContentTypes then some .audio
  else none

def MediaKind.maxBytes : MediaKind → Nat
  | .image => 10 * 1024 * 1024
  | .video => 50 * 1024 * 1024
  | .audio => 15 * 1024 * 1024

/-- `validate_upload`, as far as its kind is used. -/
def validateUpload (contentType : String) (byteSize : Nat) (filename : Option String) : Option MediaKind := do
  let kind ← classifyContentType contentType
  if byteSize = 0 ∨ kind.maxBytes < byteSize then none
  else if filename.any fun f => decide (maxFilenameChars < f.length) then none
  else some kind

/-- `chat/{target_id}/{upload_id}`. -/
def mintObjectKey (targetId uploadId : Uuid) : String := "chat/" ++ uuidText targetId ++ "/" ++ uuidText uploadId

structure FinalizedObject where
  kind : MediaKind
  contentType : String
  byteSize : Nat
  durationSeconds : Option Nat
  deriving DecidableEq, Repr

/-- What `bind_message_media` reads of an upload. -/
structure StoredUpload where
  id : Uuid
  objectKey : String
  contentType : String
  byteSize : Nat
  duration : Option Nat
  filename : Option String
  status : MediaStatus
  boundMessageId : Option Uuid
  confirmedAt : Option Time
  consumedAt : Option Time
  posterUploadId : Option Uuid
  isLive : Bool

namespace StoredUpload

def ofRow (id : Uuid) (now : Time) (r : MediaUpload) : StoredUpload :=
  ⟨id, r.objectKey, r.contentType, r.byteSize, r.duration, r.filename, r.status, r.boundMessageId, r.confirmedAt,
    r.consumedAt, r.posterUploadId, decide (now < r.expiresAt)⟩

def validatedKind (u : StoredUpload) : Option MediaKind := validateUpload u.contentType u.byteSize u.filename

def finalizedObject (u : StoredUpload) : Option FinalizedObject := do
  let kind ← u.validatedKind
  let durationSeconds ← match kind, u.duration with
    | .audio, some d => if 0 < d then some (some d) else none
    | .audio, none => none
    | _, none => some none
    | _, some _ => none
  some ⟨kind, u.contentType, u.byteSize, durationSeconds⟩

def isConfirmed (u : StoredUpload) : Bool :=
  decide (u.status = .confirmed) && u.confirmedAt.isSome && u.consumedAt.isNone && u.boundMessageId.isNone

def isBound (u : StoredUpload) : Bool :=
  decide (u.status = .bound) && u.confirmedAt.isSome && u.consumedAt.isSome && u.boundMessageId.isSome

end StoredUpload

/-- `validate_message_composition`: an audio upload stands alone and without a body. -/
def validateMessageComposition (body : Option String) (media : List (Uuid × String × MediaKind)) : Bool :=
  let bodyPresent := body.any fun b => !b.isEmpty
  let audioCount := (media.filter fun m => decide (m.2.2 = .audio)).length
  decide (media.length ≤ maxMediaPerMessage) && decide (media.map fun m => m.1).Nodup &&
    decide (media.map fun m => m.2.1).Nodup && (bodyPresent || !media.isEmpty) &&
    (decide (audioCount = 0) || decide (audioCount = 1) && !bodyPresent && decide (media.length = 1))

/-- A message of the sender in a room that the sender reaches, in a snapshot. -/
def authorizedMessages (s : Store Row) (messageId chatroomId actorId : Uuid) : List (Uuid × Uuid) :=
  if (s.get (.messages messageId)).any fun r => decide (r.chatroomId = chatroomId) && decide (r.senderId = some actorId) &&
      decide (r.type = .user) && r.deletedAt.isNone then accesses s chatroomId actorId
  else []

/-- The message is locked `FOR UPDATE`, its room, group and membership `FOR SHARE`; the topic is from the snapshot. -/
def lockAuthorizedMessage (actorId chatroomId messageId : Uuid) : Sql MediaRepositoryError (Option String) := do
  let s ← snapshot
  let found ← first (fun (groupId, membershipId) =>
    andThen (lockRow .update (.messages messageId) fun _ r =>
      if r.chatroomId = chatroomId ∧ r.senderId = some actorId ∧ r.type = .user ∧ r.deletedAt = none then some r.body
      else none) fun body =>
    andThen (lockLiveRoom .share chatroomId groupId) fun _ =>
    andThen (lockLiveGroup .share groupId) fun _ =>
    andThen (lockLiveMembership .share membershipId groupId actorId) fun _ => ret (some body))
    (authorizedMessages s messageId chatroomId actorId)
  ofOption found .targetNotAccessible

def validateRequestIdentity (uploadIds : List Uuid) : Sql MediaRepositoryError Unit :=
  ensure (uploadIds.length ≤ maxMediaPerMessage ∧ uploadIds.Nodup) .invalidData

/-- The upload is one of those asked for, of the user and for the room. -/
def uploadMatches (uploadIds : List Uuid) (actorId chatroomId id : Uuid) (r : MediaUpload) : Bool :=
  decide (id ∈ uploadIds) && decide (r.userId = actorId) && decide (r.scope = .chat) && decide (r.targetId = chatroomId) &&
    r.deletedAt.isNone

def lockUploadsInRequestOrder (actorId chatroomId : Uuid) (uploadIds : List Uuid) :
    Sql MediaRepositoryError (List StoredUpload) := do
  let rows ← selectFor .update Tables.mediaUploads
    (fun s => Push.sortIds (s.ids Tables.mediaUploads fun i r => uploadMatches uploadIds actorId chatroomId i r))
    (fun _ i now r => if uploadMatches uploadIds actorId chatroomId i r then some (StoredUpload.ofRow i now r, r.userId)
      else none)
  ensure (rows.length = uploadIds.length) .targetNotAccessible
  ensure (rows.all fun x => decide (x.1.objectKey = mintObjectKey chatroomId x.1.id) && decide (x.2 ≠ 0)) .invalidData
  ofOption (uploadIds.mapM fun i => (rows.find? fun x => x.1.id == i).map Prod.fst) .targetNotAccessible

/-- What is stored of an attachment. -/
abbrev StoredMessageMedia := Uuid × MessageMedia

def lockExistingAttachments (messageId : Uuid) : Sql MediaRepositoryError (List StoredMessageMedia) := do
  let rows ← selectFor .share Tables.messageMedia
    (fun s => s.ids Tables.messageMedia fun _ r => decide (r.messageId = messageId) && r.deletedAt.isNone)
    (fun _ i _ r => if r.messageId = messageId ∧ r.deletedAt = none then some (i, r) else none)
  ret (rows.insertionSort fun x y => x.2.position ≤ y.2.position)

def intoAttachment (stored : StoredMessageMedia) (posterMediaId : Option Uuid) : Option MessageAttachment :=
  let r := stored.2
  if (r.width.any fun w => decide (w = 0)) || (r.height.any fun h => decide (h = 0)) ||
      (r.duration.any fun d => decide (d = 0)) || decide (256 ≤ r.position) then none
  else some ⟨stored.1, r.mediaUploadId, r.contentType, r.byteSize, r.width, r.height, r.duration, r.filename, r.position,
    posterMediaId⟩

/-- The upload can still be consumed. -/
def consumable (actorId chatroomId : Uuid) (consumedAt : Time) (r : MediaUpload) : Bool :=
  decide (r.userId = actorId) && decide (r.scope = .chat) && decide (r.targetId = chatroomId) &&
    decide (r.status = .confirmed) && r.deletedAt.isNone && r.boundMessageId.isNone && r.consumedAt.isNone &&
    decide (consumedAt < r.expiresAt)

def MediaUpload.consume (messageId : Uuid) (consumedAt : Time) (r : MediaUpload) : MediaUpload :=
  { r with status := .bound, boundMessageId := some messageId, consumedAt := some consumedAt }

/-- `SET status = 'bound'` of one upload; `bound_message_id` is part of a foreign key, so that the row is locked
`FOR UPDATE`. -/
def consumeUpload (actorId chatroomId messageId uploadId : Uuid) (consumedAt : Time) (error : MediaRepositoryError) :
    Sql MediaRepositoryError (Option Uuid) := do
  let updated ← change .update Tables.mediaUploads
    (fun s => s.one Tables.mediaUploads uploadId fun r => consumable actorId chatroomId consumedAt r)
    (fun _ i _ r => if consumable actorId chatroomId consumedAt r then
      some (some (MediaUpload.consume messageId consumedAt r), i) else none) error
  ret updated.head?

/-- A poster that cannot be bound is taken from its video. -/
def bindLinkedPoster (actorId chatroomId messageId videoUploadId posterUploadId : Uuid) (consumedAt : Time) :
    Sql MediaRepositoryError (Option Uuid) := do
  let updated ← consumeUpload actorId chatroomId messageId posterUploadId consumedAt
    (.unavailable "message_media_poster_consume")
  match updated with
  | some posterId => ret (some posterId)
  | none => do
    let _ ← update Tables.mediaUploads
      (fun s => s.one Tables.mediaUploads videoUploadId fun r =>
        decide (r.posterUploadId = some posterUploadId) && r.deletedAt.isNone)
      (fun _ _ _ r => if r.posterUploadId = some posterUploadId ∧ r.deletedAt = none then
        some ({ r with posterUploadId := none }, ()) else none)
      (.unavailable "message_media_poster_unlink")
    ret none

def bindUpload (actorId chatroomId messageId : Uuid) (consumedAt : Time) (upload : StoredUpload) (position : Nat) :
    Sql MediaRepositoryError MessageAttachment := do
  let updated ← consumeUpload actorId chatroomId messageId upload.id consumedAt (.unavailable "message_media_consume")
  ensure (updated = some upload.id) .finalizeConflict
  let posterMediaId ← match upload.posterUploadId with
    | some posterId => bindLinkedPoster actorId chatroomId messageId upload.id posterId consumedAt
    | none => ret none
  let mediaId ← fresh
  let row : MessageMedia :=
    { messageId, mediaUploadId := upload.id, contentType := upload.contentType, objectKey := upload.objectKey,
      byteSize := upload.byteSize, duration := upload.duration, position, filename := upload.filename,
      createdAt := consumedAt }
  insertRow (.messageMedia mediaId) row [.messages messageId, .mediaUploads upload.id] .finalizeConflict
  ofOption (intoAttachment (mediaId, row) posterMediaId) .invalidData

/-- The uploads in their order, from the position `n` on. -/
def bindConfirmedUploads (actorId chatroomId messageId : Uuid) (consumedAt : Time) :
    Nat → List StoredUpload → Sql MediaRepositoryError (List MessageAttachment)
  | _, [] => ret []
  | n, upload :: uploads => do
    let attachment ← bindUpload actorId chatroomId messageId consumedAt upload n
    let attachments ← bindConfirmedUploads actorId chatroomId messageId consumedAt (n + 1) uploads
    ret (attachment :: attachments)

/-- The stored attachment is what the upload was bound as. -/
def sameAttachment (stored : StoredMessageMedia) (upload : StoredUpload) (position : Nat) : Bool :=
  let r := stored.2
  decide (r.mediaUploadId = upload.id) && decide (r.objectKey = upload.objectKey) &&
    decide (r.contentType = upload.contentType) && decide (r.byteSize = upload.byteSize) &&
    decide (r.duration = upload.duration) && decide (r.filename = upload.filename) && r.width.isNone && r.height.isNone &&
    decide (r.position = position)

def retryAttachments : Nat → List StoredMessageMedia → List StoredUpload → Option (List MessageAttachment)
  | n, stored :: rest, upload :: uploads =>
    if sameAttachment stored upload n then do
      let attachment ← intoAttachment stored upload.posterUploadId
      let attachments ← retryAttachments (n + 1) rest uploads
      some (attachment :: attachments)
    else none
  | _, _, _ => some []

def exactRetry (messageId : Uuid) (uploads : List StoredUpload) : Sql MediaRepositoryError (List MessageAttachment) := do
  let existing ← lockExistingAttachments messageId
  ensure (existing.length = uploads.length) .finalizeConflict
  ofOption (retryAttachments 0 existing uploads) .finalizeConflict

/-- The uploads are still what the request takes them for. -/
def checkFinalized : List (Uuid × FinalizedObject) → List StoredUpload → Sql MediaRepositoryError Unit
  | item :: media, upload :: uploads => do
    let finalized ← ofOption upload.finalizedObject .invalidData
    ensure (item.2 = finalized) .finalizeConflict
    checkFinalized media uploads
  | _, _ => ret ()

def bindMessageMedia (actorId chatroomId messageId : Uuid) (media : List (Uuid × FinalizedObject)) :
    Sql MediaRepositoryError (List MessageAttachment) := do
  let body ← lockAuthorizedMessage actorId chatroomId messageId
  validateRequestIdentity (media.map Prod.fst)
  if media.isEmpty then do
    ensure (validateMessageComposition body []) .invalidData
    let existing ← lockExistingAttachments messageId
    ensure existing.isEmpty .finalizeConflict
    ret []
  else do
    let uploads ← lockUploadsInRequestOrder actorId chatroomId (media.map Prod.fst)
    let candidates ← ofOption (uploads.mapM fun u => u.validatedKind.map fun k => (u.id, u.objectKey, k)) .invalidData
    ensure (validateMessageComposition body candidates) .invalidData
    let confirmed := uploads.all StoredUpload.isConfirmed
    let bound := uploads.all StoredUpload.isBound
    ensure (confirmed ∨ bound) .finalizeConflict
    checkFinalized media uploads
    if confirmed then do
      ensure (uploads.all StoredUpload.isLive) .finalizeConflict
      let existing ← lockExistingAttachments messageId
      ensure existing.isEmpty .finalizeConflict
      let consumedAt ← clock
      bindConfirmedUploads actorId chatroomId messageId consumedAt 0 uploads
    else do
      ensure (uploads.all fun u => decide (u.boundMessageId = some messageId)) .finalizeConflict
      exactRetry messageId uploads

/-- The uploads are locked first to read what they were finalized as. -/
def bindAuthoritativeMessageMedia (actorId chatroomId messageId : Uuid) (uploadIds : List Uuid) :
    Sql MediaRepositoryError (List MessageAttachment) := do
  let _ ← lockAuthorizedMessage actorId chatroomId messageId
  validateRequestIdentity uploadIds
  let uploads ← lockUploadsInRequestOrder actorId chatroomId uploadIds
  let finalized ← ofOption (uploads.mapM fun u => u.finalizedObject.map fun f => (u.id, f)) .invalidData
  bindMessageMedia actorId chatroomId messageId finalized

end JamyeServer.Postgres.Media
