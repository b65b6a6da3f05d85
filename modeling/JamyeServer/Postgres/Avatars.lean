import JamyeServer.Postgres.Auth

/-!
# Avatars

`adapters/postgres/avatar/mod.rs` and the profile update of `adapters/postgres/auth/mod.rs` with the
transactions of `application/avatar` and `application/users`. An avatar upload is pending until it is
finalized, then it is the active avatar of its user until another one or a profile change releases it.
-/

namespace JamyeServer.Postgres.Avatars

open ReadCommitted Prog

inductive AvatarRepositoryError
  | uploadNotFound
  | uploadNotPending
  | invalidData
  | unavailable (operation : String)
  deriving DecidableEq, Repr

structure UserProfile where
  id : Uuid
  provider : String
  nickname : String
  avatarUrl : Option String
  createdAt : Time
  deriving DecidableEq, Repr

structure CreateAvatarIntentCommand where
  id : Uuid
  userId : Uuid
  objectKey : String
  byteSize : Nat
  expiresIn : Nat

structure AvatarIntentRecord where
  id : Uuid
  userId : Uuid
  objectKey : String
  byteSize : Nat
  expiresAt : Time
  deriving DecidableEq, Repr

structure ActivateAvatarCommand where
  actorId : Uuid
  uploadId : Uuid
  publicUrl : String

inductive AvatarPatch
  | unchanged
  | set (url : String)
  | clear
  deriving DecidableEq, Repr

structure ProfilePatch where
  nickname : Option String
  avatarUrl : AvatarPatch
  deriving DecidableEq, Repr

def AvatarPatch.value : AvatarPatch → Option String
  | unchanged | clear => none
  | set url => some url

section Profile

/-- `ORDER BY created_at, id`. -/
def identityOrder (x y : Time × Uuid) : Bool := decide (x.1 < y.1) || (decide (x.1 = y.1) && decide (x.2 ≤ y.2))

/-- The provider of the oldest live identity of the user. -/
def liveProvider (s : Store Row) (userId : Uuid) : Option String :=
  let identities := (s.ids Tables.authIdentities fun _ r => decide (r.userId = userId) && r.deletedAt.isNone).map
    fun i => (((s.get (.authIdentities i)).map AuthIdentity.createdAt).getD 0, i)
  ((identities.insertionSort fun x y => identityOrder x y).head?).bind
    fun x => (s.get (.authIdentities x.2)).map AuthIdentity.provider

def profileFromRow (id : Uuid) (u : User) (provider : String) : UserProfile :=
  ⟨id, provider, u.nickname, u.avatarUrl, u.createdAt⟩

def liveProfile (s : Store Row) (userId : Uuid) : Option UserProfile := do
  let u ← (s.get (.users userId)).filter fun u => u.deletedAt.isNone
  let provider ← liveProvider s userId
  some (profileFromRow userId u provider)

/-- `WITH updated AS (UPDATE users …)` joined with the oldest live identity of the snapshot. -/
def updateUser {ε : Type} (userId : Uuid) (f : User → User) (error : ε) : Sql ε (Option UserProfile) := do
  let rows ← update Tables.users (fun s => s.one Tables.users userId fun u => u.deletedAt.isNone)
    (fun s i _ u =>
      if u.deletedAt = none then some (f u, (liveProvider s i).map (profileFromRow i (f u))) else none) error
  ret (rows.head?.bind id)

end Profile

section Uploads

variable {ε : Type}

/-- A deferred deletion waits for the upload's expiry. -/
def enqueueObjectDeletions (uploads : List (String × Time)) (deferUntilExpiry : Bool) (error : ε) : Sql ε Unit :=
  each (fun (upload : String × Time) => do
    let id ← fresh
    let now ← clock
    let _ ← insertOrSkip (.accountObjectDeletionIntents id)
      { objectKey := upload.1,
        nextAttemptAt := if deferUntilExpiry then some (max upload.2 now + 60 * 10 ^ 6) else none,
        createdAt := now } [] error
    ret ()) uploads

def UserAvatarUpload.release (now : Time) (r : UserAvatarUpload) : UserAvatarUpload :=
  { r with status := .released, releasedAt := some now }

def releaseRows (userId : Uuid) (status : AvatarStatus) (error : ε) : Sql ε (List (String × Time)) :=
  update Tables.userAvatarUploads
    (fun s => s.ids Tables.userAvatarUploads fun _ r => decide (r.userId = userId) && decide (r.status = status))
    (fun _ _ now r =>
      if r.userId = userId ∧ r.status = status then
        some (UserAvatarUpload.release now r, (r.objectKey, r.expiresAt))
      else none) error

def lockLiveUser (userId : Uuid) : Sql AvatarRepositoryError Unit := do
  let found ← selectFor .update Tables.users
    (fun s => s.one Tables.users userId fun u => u.deletedAt.isNone)
    (fun _ i _ u => if u.deletedAt = none then some i else none)
  ensure (found ≠ []) .uploadNotFound

/-- The largest value of an `INTEGER`. -/
def maxInteger : Nat := 2 ^ 31 - 1

def createIntent (command : CreateAvatarIntentCommand) : Sql AvatarRepositoryError AvatarIntentRecord := do
  lockLiveUser command.userId
  let released ← releaseRows command.userId .pending (.unavailable "avatar_release_pending")
  enqueueObjectDeletions released true (.unavailable "avatar_enqueue_pending")
  ensure (command.byteSize ≤ maxInteger) .invalidData
  let now ← clock
  let expiresAt := now + command.expiresIn * 10 ^ 6
  insertRow (.userAvatarUploads command.id)
    { userId := command.userId, objectKey := command.objectKey, byteSize := command.byteSize, status := .pending,
      expiresAt } [.users command.userId] (.unavailable "avatar_intent_insert")
  ret ⟨command.id, command.userId, command.objectKey, command.byteSize, expiresAt⟩

def loadProfile (userId : Uuid) : Sql AvatarRepositoryError UserProfile := do
  let profile ← select fun s => liveProfile s userId
  ofOption profile .uploadNotFound

def activatePending (command : ActivateAvatarCommand) : Sql AvatarRepositoryError UserProfile := do
  let released ← releaseRows command.actorId .active (.unavailable "avatar_release_active")
  enqueueObjectDeletions released false (.unavailable "avatar_enqueue_active")
  let _ ← update Tables.userAvatarUploads
    (fun s => s.one Tables.userAvatarUploads command.uploadId fun _ => true)
    (fun _ _ _ r => some ({ r with status := .active }, ())) (.unavailable "avatar_activate")
  let profile ← updateUser command.actorId (fun u => { u with avatarUrl := some command.publicUrl })
    (.unavailable "avatar_user_update")
  ofOption profile .uploadNotFound

def activate (command : ActivateAvatarCommand) : Sql AvatarRepositoryError UserProfile := do
  lockLiveUser command.actorId
  let rows ← selectFor .update Tables.userAvatarUploads
    (fun s => s.one Tables.userAvatarUploads command.uploadId fun r =>
      decide (r.userId = command.actorId) && r.deletedAt.isNone)
    (fun _ _ now r =>
      if r.userId = command.actorId ∧ r.deletedAt = none then some (r.status, decide (now < r.expiresAt)) else none)
  let row ← ofOption rows.head? .uploadNotFound
  match row with
  | (.pending, true) => activatePending command
  | (.active, _) => loadProfile command.actorId
  | (.pending, false) | (.released, _) => fail .uploadNotPending

/-- The user's row is locked when it is live; the rows of its active avatar are released when the new URL
is another one than the stored one. -/
def releaseActiveForProfileChange (userId : Uuid) (newAvatarUrl : Option String) (error : ε) : Sql ε Unit := do
  let _ ← selectFor .update Tables.users
    (fun s => s.one Tables.users userId fun u => u.deletedAt.isNone)
    (fun _ i _ u => if u.deletedAt = none then some i else none)
  let changes := fun (s : Store Row) => newAvatarUrl.isNone ||
    decide ((s.get (.users userId)).bind User.avatarUrl ≠ newAvatarUrl)
  let released ← update Tables.userAvatarUploads
    (fun s => s.ids Tables.userAvatarUploads fun _ r =>
      decide (r.userId = userId) && decide (r.status = .active) && changes s)
    (fun s _ now r =>
      if r.userId = userId ∧ r.status = .active ∧ changes s then
        some (UserAvatarUpload.release now r, (r.objectKey, r.expiresAt))
      else none) error
  enqueueObjectDeletions released false error

def User.patch (patch : ProfilePatch) (u : User) : User :=
  { u with nickname := patch.nickname.getD u.nickname,
           avatarUrl := if patch.avatarUrl = .unchanged then u.avatarUrl else patch.avatarUrl.value }

def updateProfileRecord (userId : Uuid) (patch : ProfilePatch) : Sql Auth.AuthRepositoryError (Option UserProfile) := do
  if patch.avatarUrl = .unchanged then ret ()
  else releaseActiveForProfileChange userId patch.avatarUrl.value (.unavailable "avatar_release")
  updateUser userId (User.patch patch) (.unavailable "profile_update")

end Uploads

section Service

def avatarPutTtlSeconds : Nat := 900

def maxAvatarBytes : Nat := 1024 * 1024

/-- `validate_avatar_upload`, for the one content type that there is. -/
def validateAvatarUpload (contentType : String) (byteSize : Nat) : Bool :=
  decide (contentType = "image/jpeg") && decide (byteSize ≠ 0) && decide (byteSize ≤ maxAvatarBytes)

def mintAvatarObjectKey (userId uploadId : Uuid) : String := "avatar/" ++ uuidText userId ++ "/" ++ uuidText uploadId

/-- The base without the slashes at its end, the path and the upload. -/
def avatarPublicUrl (publicBaseUrl : String) (uploadId : Uuid) : String :=
  String.ofList (publicBaseUrl.toList.reverse.dropWhile (· == '/')).reverse ++ "/api/v1/avatars/" ++ uuidText uploadId

inductive AvatarError
  | requestValidation
  | profileNotFound
  | avatar (error : AvatarRepositoryError)
  | profile (error : Auth.AuthRepositoryError)
  deriving DecidableEq, Repr

def createUpload (actorId : Uuid) (contentType : String) (byteSize : Nat) : Sql AvatarError AvatarIntentRecord := do
  ensure (validateAvatarUpload contentType byteSize) .requestValidation
  let uploadId ← fresh
  mapError .avatar (createIntent ⟨uploadId, actorId, mintAvatarObjectKey actorId uploadId, byteSize, avatarPutTtlSeconds⟩)

/-- The last transaction of `finalize`, after the object has been inspected. -/
def finalize (publicBaseUrl : String) (actorId uploadId : Uuid) : Sql AvatarError UserProfile :=
  mapError .avatar (activate ⟨actorId, uploadId, avatarPublicUrl publicBaseUrl uploadId⟩)

/-- A profile that is not there rolls the transaction back. -/
def updateProfile (userId : Uuid) (patch : ProfilePatch) : Sql AvatarError UserProfile := do
  let profile ← mapError .profile (updateProfileRecord userId patch)
  ofOption profile .profileNotFound

end Service

end JamyeServer.Postgres.Avatars
