import JamyeServer.ReadCommitted.Effects
import JamyeServer.ReadCommitted.Failure
import JamyeServer.Postgres.Avatars

/-!
# Avatars and the profiles that show them

The transactions that create, activate and replace avatars. All of them lock the row of the user whose
uploads they write, so while a transaction holds that lock the uploads of the user do not change under it.
-/

namespace JamyeServer.Avatars

open ReadCommitted Postgres Avatars Prog

inductive Job
  | createUpload (actorId : Uuid) (contentType : String) (byteSize : Nat)
  | finalize (actorId uploadId : Uuid)
  | updateProfile (userId : Uuid) (patch : ProfilePatch)
  deriving DecidableEq

inductive Outcome
  | intent (record : AvatarIntentRecord)
  | profile (profile : UserProfile)
  deriving DecidableEq

def program (publicBaseUrl : String) : Job → Sql AvatarError Outcome
  | .createUpload actorId contentType byteSize => do
    let record ← createUpload actorId contentType byteSize
    .ret (.intent record)
  | .finalize actorId uploadId => do
    let profile ← finalize publicBaseUrl actorId uploadId
    .ret (.profile profile)
  | .updateProfile userId patch => do
    let profile ← updateProfile userId patch
    .ret (.profile profile)

/-- The server; `ticks` says how its clock may move. -/
def system (publicBaseUrl : String) (ticks : Time → Time → Bool) : System Row Nat Idx AvatarError Job Outcome where
  index := index
  prog := program publicBaseUrl
  ticks := ticks

abbrev Entry := ReadCommitted.Entry Row Nat Job Outcome
abbrev Shared := ReadCommitted.Shared Row Nat Job Outcome
abbrev State := ReadCommitted.State Row Nat AvatarError Job Outcome
abbrev Local := ReadCommitted.Local Row Nat

/-- How a commit may change an upload. It holds the row of the upload's user then. -/
inductive UploadStep (e : Entry) (uploadId : Uuid) : Option UserAvatarUpload → Option UserAvatarUpload → Prop
  | same (r : Option UserAvatarUpload) : UploadStep e uploadId r r
  | created {r : UserAvatarUpload} (status : r.status = .pending) (drawn : uploadId ∈ e.ran.drawn)
      (objectKey : r.objectKey = mintAvatarObjectKey r.userId uploadId)
      (lock : (.users r.userId, .update) ∈ e.ran.locks) : UploadStep e uploadId none (some r)
  | activated {r : UserAvatarUpload} (status : r.status = .pending) (lock : (.users r.userId, .update) ∈ e.ran.locks) :
      UploadStep e uploadId (some r) (some { r with status := .active })
  | released {r : UserAvatarUpload} {t : Time} (status : r.status ≠ .released)
      (lock : (.users r.userId, .update) ∈ e.ran.locks) :
      UploadStep e uploadId (some r) (some (UserAvatarUpload.release t r))

/-- The profile of a user with an active avatar shows it. -/
def Shown (publicBaseUrl : String) (s : Store Row) : Prop :=
  ∀ i r, s.get (.userAvatarUploads i) = some r → r.status = .active →
    ∃ u, s.get (.users r.userId) = some u ∧ u.avatarUrl = some (avatarPublicUrl publicBaseUrl i)

/-- What each transaction commits. -/
structure Ok (publicBaseUrl : String) (e : Entry) (g : Shared) : Prop where
  users : ∀ i, ((g.view e.ran).get (.users i)).map User.deletedAt = (g.db.get (.users i)).map User.deletedAt
  uploads : ∀ i, UploadStep e i (g.db.get (.userAvatarUploads i)) ((g.view e.ran).get (.userAvatarUploads i))
  shown : Shown publicBaseUrl (g.view e.ran)

/-- A server at its start: nothing is committed and there is no avatar yet. -/
structure Starts (g : Shared) : Prop where
  log : g.log = []
  unique : Unique index g.init
  uploads : ∀ i, g.init.get (.userAvatarUploads i) = none

/-- The errors of calls that do not meet a unique index or a foreign key. -/
def MayFail (error : AvatarError) : Prop :=
  ∀ operation, error ≠ .avatar (.unavailable operation) ∧ error ≠ .profile (.unavailable operation)

def contract (publicBaseUrl : String) (ticks : Time → Time → Bool) : Contract (system publicBaseUrl ticks) where
  Init := Starts
  log_init _ hg := hg.log
  unique_init _ hg := hg.unique
  Ok := Ok publicBaseUrl
  Fails _ := MayFail

variable {publicBaseUrl : String} {ticks : Time → Time → Bool}

section History

variable {g : Shared}

lemma UploadStep.lock {e : Entry} {i : Uuid} {v v' : Option UserAvatarUpload} (h : UploadStep e i v v') (hne : v ≠ v')
    {r : UserAvatarUpload} (hr : v = some r ∨ v' = some r) : (.users r.userId, .update) ∈ e.ran.locks := by
  cases h with
  | same => exact absurd rfl hne
  | created status drawn objectKey lock =>
    rcases hr with hr | hr
    · cases hr
    · cases hr
      exact lock
  | activated status lock =>
    rcases hr with hr | hr
    · cases hr
      exact lock
    · cases hr
      exact lock
  | released status lock =>
    rcases hr with hr | hr
    · cases hr
      exact lock
    · cases hr
      exact lock

lemma shown_of_history (hg : History (contract publicBaseUrl ticks) g) : Shown publicBaseUrl g.db := by
  refine hg.invariant (fun g₀ h₀ i r hr => ?_) fun _ _ _ hc _ => hc.ok.shown
  rw [h₀.uploads i] at hr
  cases hr

/-- The object of an upload is named after its user and its id. -/
def Minted (s : Store Row) : Prop :=
  ∀ i r, s.get (.userAvatarUploads i) = some r → r.objectKey = mintAvatarObjectKey r.userId i

lemma Minted.step {e : Entry} {v v' : Option UserAvatarUpload} {i : Uuid} (h : UploadStep e i v v')
    (hv : ∀ r, v = some r → r.objectKey = mintAvatarObjectKey r.userId i) {r' : UserAvatarUpload} (hr : v' = some r') :
    r'.objectKey = mintAvatarObjectKey r'.userId i := by
  cases h with
  | same => exact hv r' hr
  | created status drawn objectKey lock =>
    cases hr
    exact objectKey
  | @activated r =>
    cases hr
    exact hv r rfl
  | @released r =>
    cases hr
    exact hv r rfl

lemma minted_of_history (hg : History (contract publicBaseUrl ticks) g) {n : Nat} (hn : n ≤ g.csn) :
    Minted (g.version n) := by
  obtain ⟨g₁, hg₁, -, hdb, -⟩ := hg.version hn
  rw [← hdb]
  refine hg₁.invariant (fun g₀ h₀ i r hr => ?_) fun g₂ e _ hc hs i r hr => ?_
  · rw [h₀.uploads i] at hr
    cases hr
  · exact Minted.step (hc.ok.uploads i) (fun r hr => hs i r hr) hr

lemma drawnKeys : DrawnKeys (contract publicBaseUrl ticks) Key.userAvatarUploads where
  init g hg i hi := absurd (Starts.uploads hg i) hi
  insert e g hc i hi hi' := by
    have hstep := hc.ok.uploads i
    rw [hi] at hstep
    generalize (g.view e.ran).get (.userAvatarUploads i) = v at hstep hi'
    cases hstep with
    | same => exact absurd rfl hi'
    | created _ drawn _ _ => exact drawn

/-- Accounts are neither deleted nor restored here. -/
lemma user_deletedAt (hg : History (contract publicBaseUrl ticks) g) {n m : Nat} (hnm : n ≤ m) (hm : m ≤ g.csn)
    (userId : Uuid) :
    ((g.version m).get (.users userId)).map User.deletedAt = ((g.version n).get (.users userId)).map User.deletedAt := by
  refine hg.stable (P := fun s => (s.get (.users userId)).map User.deletedAt = _) ?_ hnm hm rfl
  intro g₁ e _ hc hs
  rw [hc.ok.users userId]
  exact hs

variable {l L : Local} {G : Shared} {userId : Uuid}

/-- Nothing changes the uploads of a user whose row is locked. -/
lemma uploads_stable (h : Evolve (contract publicBaseUrl ticks) l g L G) (hlock : (.users userId, .update) ∈ l.locks)
    {n m : Nat} (hn : g.csn ≤ n) (hnm : n ≤ m) (hm : m ≤ G.csn) (i : Uuid) {r : UserAvatarUpload}
    (hr : r.userId = userId) :
    (G.version n).get (.userAvatarUploads i) = some r ↔ (G.version m).get (.userAvatarUploads i) = some r := by
  have hblocked : ∀ {l₁ : Local} {g₁ : Shared} {e : Entry}, Evolve (contract publicBaseUrl ticks) l g l₁ g₁ →
      Compat index l₁ e.ran → (.users r.userId, .update) ∉ e.ran.locks := by
    intro l₁ g₁ e hev hcompat he
    have hconflict := hcompat.locks _ _ _ (hev.locks hlock) (hr ▸ he)
    cases hconflict
  constructor
  · intro hrow
    by_contra hnot
    obtain ⟨e, l₁, g₁, -, -, hev, hc, hcompat, -, -, hbefore, hafter⟩ :=
      h.commit_of_change (P := fun s => s.get (.userAvatarUploads i) = some r) hn hnm hm hrow hnot
    refine hblocked hev hcompat ((hc.ok.uploads i).lock (fun heq => hafter ?_) (.inl hbefore))
    rw [← heq]
    exact hbefore
  · intro hrow
    by_contra hnot
    obtain ⟨e, l₁, g₁, -, -, hev, hc, hcompat, -, -, hbefore, hafter⟩ :=
      h.commit_of_change (P := fun s => s.get (.userAvatarUploads i) ≠ some r) hn hnm hm hnot (not_not.mpr hrow)
    rw [ne_eq, not_not] at hafter
    refine hblocked hev hcompat ((hc.ok.uploads i).lock (fun heq => hbefore ?_) (.inr hafter))
    rw [heq]
    exact hafter

end History

end JamyeServer.Avatars
