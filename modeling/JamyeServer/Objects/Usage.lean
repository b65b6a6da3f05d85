import JamyeServer.Attachments.Posters
import JamyeServer.Objects.Purges
import JamyeServer.Objects.Sends

/-!
# Objects in use and objects to be deleted

The worker that deletes objects cannot bring them back. In every run, what is queued for it is not in use, and what goes
out of use is queued.
-/

namespace JamyeServer.Objects

open ReadCommitted Postgres Media Messages Prog

variable {settings : Settings} {mask : String → String} {publicBaseUrl : String} {ticks : Time → Time → Bool} {g : Shared}

section Programs

lemma ok_media {e : Entry} {job : Attachments.Job} {out : Attachments.Outcome} {L : Local} {g' G : Shared}
    (h : Runs (contract settings mask publicBaseUrl ticks) (Attachments.program settings mask job) (Local.begin g) g (.ok out)
      e.ran g' L G) (hg : History (contract settings mask publicBaseUrl ticks) g) : Ok e G := by
  have hl : Coherent index (Local.begin g) g := hg.coherent_begin
  cases job with
  | createUpload =>
    obtain ⟨_, l₁, g₁, h₁, r₁⟩ := h.bind
    obtain ⟨-, heq⟩ := r₁.ret
    rw [← heq] at h₁
    exact ok_createUpload h₁.mapError rfl hg
  | prepareFinalize =>
    exact ok_of_touches rfl h (touches_prepareUploadFinalize.mapError.bind fun _ => trivial)
  | finalize =>
    obtain ⟨_, l₁, g₁, h₁, r₁⟩ := h.bind
    obtain ⟨-, heq⟩ := r₁.ret
    rw [← heq] at h₁
    exact ok_finalizeUpload h₁.mapError rfl hg
  | send =>
    obtain ⟨_, l₁, g₁, h₁, r₁⟩ := h.bind
    obtain ⟨-, heq⟩ := r₁.ret
    rw [← heq] at h₁
    exact ok_sendMessageHttp h₁.mapError rfl
  | deleteMessage =>
    obtain ⟨_, l₁, g₁, h₁, r₁⟩ := h.bind
    obtain ⟨-, heq⟩ := r₁.ret
    rw [← heq] at h₁
    exact ok_deleteMessage h₁.mapError rfl hg hl
  | moderatorDelete =>
    obtain ⟨_, l₁, g₁, h₁, r₁⟩ := h.bind
    obtain ⟨-, heq⟩ := r₁.ret
    rw [← heq] at h₁
    exact ok_moderatorDeleteMessage h₁.mapError rfl hg hl
  | deleteTopic =>
    obtain ⟨_, l₁, g₁, h₁, r₁⟩ := h.bind
    obtain ⟨-, heq⟩ := r₁.ret
    rw [← heq] at h₁
    exact ok_deleteTopic h₁.mapError rfl hg hl
  | purge =>
    obtain ⟨_, l₁, g₁, h₁, r₁⟩ := h.bind
    obtain ⟨-, heq⟩ := r₁.ret
    rw [← heq] at h₁
    exact ok_finalizeDeletion h₁.mapError rfl hg hl

lemma ok_avatar {e : Entry} {job : Avatars.Job} {out : Avatars.Outcome} {L : Local} {g' G : Shared}
    (h : Runs (contract settings mask publicBaseUrl ticks) (Avatars.program publicBaseUrl job) (Local.begin g) g (.ok out)
      e.ran g' L G) (hg : History (contract settings mask publicBaseUrl ticks) g) : Ok e G := by
  have hl : Coherent index (Local.begin g) g := hg.coherent_begin
  cases job with
  | createUpload =>
    obtain ⟨_, l₁, g₁, h₁, r₁⟩ := h.bind
    obtain ⟨-, heq⟩ := r₁.ret
    rw [← heq] at h₁
    exact ok_createAvatar h₁ rfl hg hl
  | finalize =>
    obtain ⟨_, l₁, g₁, h₁, r₁⟩ := h.bind
    obtain ⟨-, heq⟩ := r₁.ret
    rw [← heq] at h₁
    exact ok_finalizeAvatar h₁ rfl hg hl
  | updateProfile =>
    obtain ⟨_, l₁, g₁, h₁, r₁⟩ := h.bind
    obtain ⟨-, heq⟩ := r₁.ret
    rw [← heq] at h₁
    exact ok_updateProfile h₁ rfl hg hl

lemma programs_contract : (contract settings mask publicBaseUrl ticks).Programs := by
  intro job g hg r l' g' h
  cases r with
  | error e => exact trivial
  | ok out =>
    have hrun : Runs (contract settings mask publicBaseUrl ticks) (program settings mask publicBaseUrl job) (Local.begin g) g
      (.ok out) l' g' l' g' := ⟨h, .refl⟩
    cases job with
    | media job =>
      obtain ⟨outcome, l₁, g₁, h₁, r₁⟩ := hrun.bind
      obtain ⟨-, rfl⟩ := r₁.ret
      exact ok_media (e := ⟨.media job, out, l'⟩) h₁.mapError hg
    | avatar job =>
      obtain ⟨outcome, l₁, g₁, h₁, r₁⟩ := hrun.bind
      obtain ⟨-, rfl⟩ := r₁.ret
      exact ok_avatar (e := ⟨.avatar job, out, l'⟩) h₁.mapError hg

end Programs

section Runs

lemma HasIntent.stays (hg : History (contract settings mask publicBaseUrl ticks) g) {n : Nat} (hn : n ≤ g.csn) {objectKey : String}
    (h : HasIntent (g.version n) objectKey) : HasIntent g.db objectKey := by
  obtain ⟨j, x, hx, hkey⟩ := h
  exact ⟨j, x, intents_stay hg hn hx, hkey⟩

/-- What is deleted or released has an intent. -/
structure Queued (s : Store Row) : Prop where
  uploads : ∀ i b, s.get (.mediaUploads i) = some b → b.deletedAt ≠ none → HasIntent s b.objectKey
  avatars : ∀ i b, s.get (.userAvatarUploads i) = some b → b.status = .released → HasIntent s b.objectKey

lemma Queued.step {e : Entry} (hok : Ok e g) (h : Queued g.db) : Queued (g.view e.ran) := by
  have hkept : ∀ {objectKey}, HasIntent g.db objectKey → HasIntent (g.view e.ran) objectKey := fun ⟨j, x, hx, hkey⟩ =>
    ⟨j, x, hok.intents j x hx, hkey⟩
  constructor
  · intro i r hr hdeleted
    have hdiscarded : Discarded ((g.view e.ran).get (.mediaUploads i)) := fun r' hr' => by
      rw [hr] at hr'
      cases hr'
      exact hdeleted
    have hstep := hok.uploads i
    rw [hr] at hstep
    generalize hv : g.db.get (.mediaUploads i) = v at hstep
    cases hstep with
    | same => exact hkept (h.uploads i r hv hdeleted)
    | registered status bound deleted => exact (hdeleted deleted).elim
    | changed unbound objectKey targetId deleted status =>
      rw [objectKey]
      exact hkept (h.uploads i _ hv (deleted ▸ hdeleted))
    | @kept b _ objectKey targetId status bound poster deleted =>
      rw [objectKey]
      by_cases hlive : b.deletedAt = none
      · exact hok.uploadIntents i b hv hlive hdiscarded
      · exact hkept (h.uploads i b hv hlive)
  · intro i r hr hreleased
    have hdiscarded : Released ((g.view e.ran).get (.userAvatarUploads i)) := fun r' hr' => by
      rw [hr] at hr'
      cases hr'
      exact hreleased
    have hstep := hok.avatars i
    rw [hr] at hstep
    generalize hv : g.db.get (.userAvatarUploads i) = v at hstep
    cases hstep with
    | same => exact hkept (h.avatars i r hv hreleased)
    | registered status =>
      rw [status] at hreleased
      cases hreleased
    | @changed b _ objectKey userId released =>
      rw [objectKey]
      by_cases hb : b.status = .released
      · exact hkept (h.avatars i b hv hb)
      · exact hok.avatarIntents i b hv hb hdiscarded

lemma queued_of_history (hg : History (contract settings mask publicBaseUrl ticks) g) : Queued g.db := by
  refine hg.invariant (fun g₀ h₀ => ⟨fun i b hb => ?_, fun i b hb => ?_⟩) fun g₁ e _ hc h => h.step hc.ok
  · rw [h₀.uploads i] at hb
    cases hb
  · rw [h₀.avatars i] at hb
    cases hb

/-- The objects in use: those of attachments, of the posters of attachments, and of active avatars. -/
inductive InUse (s : Store Row) (objectKey : String) : Prop
  | attachment (m : Uuid) (row : MessageMedia) (attached : s.get (.messageMedia m) = some row)
      (key : row.objectKey = objectKey)
  | poster (m : Uuid) (row : MessageMedia) (u : MediaUpload) (p : Uuid) (r : MediaUpload)
      (attached : s.get (.messageMedia m) = some row) (upload : s.get (.mediaUploads row.mediaUploadId) = some u)
      (link : u.posterUploadId = some p) (stored : s.get (.mediaUploads p) = some r) (key : r.objectKey = objectKey)
  | avatar (i : Uuid) (r : UserAvatarUpload) (stored : s.get (.userAvatarUploads i) = some r) (active : r.status = .active)
      (key : r.objectKey = objectKey)

lemma not_inUse_of_intent (hg : History (contract settings mask publicBaseUrl ticks) g) {objectKey : String}
    (h : HasIntent g.db objectKey) : ¬ InUse g.db objectKey := by
  obtain ⟨j, x, hx, rfl⟩ := h
  have hspent := spent_of_intent hg hx
  intro hused
  cases hused with
  | attachment m row attached key =>
    obtain ⟨r, hr, -, hlive, hkey, -⟩ := (bound_of_history hg (Nat.le_refl _) m row attached).upload
    exact hspent.uploads _ r hr (hkey.trans key) hlive
  | poster m row u p r attached upload link stored key =>
    obtain ⟨u', hu', -, -, -, hposter⟩ := (bound_of_history hg (Nat.le_refl _) m row attached).upload
    change g.db.get (.mediaUploads row.mediaUploadId) = some u' at hu'
    rw [upload] at hu'
    cases hu'
    obtain ⟨r', hr', -, hlive⟩ := hposter p link
    change g.db.get (.mediaUploads p) = some r' at hr'
    rw [stored] at hr'
    cases hr'
    exact hspent.uploads p r stored key hlive
  | avatar i r stored active key =>
    have hreleased := hspent.avatars i r stored key
    rw [active] at hreleased
    cases hreleased

/-- In every run, whatever order the transactions take, an object with a deletion intent is not in use, and the object of
each upload or avatar that a transaction has deleted, released or removed has a deletion intent. -/
theorem intents_sound_and_complete {s : State} (hs : (system settings mask publicBaseUrl ticks).Reachable Starts s) :
    (∀ objectKey, HasIntent s.shared.db objectKey → ¬ InUse s.shared.db objectKey) ∧
      ∀ n e, s.shared.log[n]? = some e →
        (∀ i b, (s.shared.version n).get (.mediaUploads i) = some b →
          Discarded ((s.shared.version (n + 1)).get (.mediaUploads i)) → HasIntent s.shared.db b.objectKey) ∧
        ∀ i b, (s.shared.version n).get (.userAvatarUploads i) = some b →
          Released ((s.shared.version (n + 1)).get (.userAvatarUploads i)) → HasIntent s.shared.db b.objectKey := by
  have hsound : Sound (contract settings mask publicBaseUrl ticks) s :=
    reachable_sound (fun _ _ _ _ _ _ _ => ⟨trivial, fun _ _ => trivial⟩) programs_contract hs
  refine ⟨fun objectKey => not_inUse_of_intent hsound.history, fun n e he => ?_⟩
  obtain ⟨g₁, hg₁, rfl, hc, hlater⟩ := hsound.history.entry he
  have hqueued := queued_of_history hg₁
  have hcsn : g₁.csn + 1 ≤ s.shared.csn := by
    rw [← Shared.csn_commit]
    exact hlater.csn_le
  rw [hlater.version_commit.1, hlater.version_commit.2]
  -- the intent is there before the commit, or the commit adds it
  have hbefore : ∀ {objectKey}, HasIntent g₁.db objectKey → HasIntent s.shared.db objectKey := fun h =>
    HasIntent.stays hsound.history (Nat.le_of_succ_le hcsn) (hlater.version_commit.1 ▸ h)
  have hafter : ∀ {objectKey}, HasIntent (g₁.view e.ran) objectKey → HasIntent s.shared.db objectKey := fun h =>
    HasIntent.stays hsound.history hcsn (hlater.version_commit.2 ▸ h)
  constructor
  · intro i b hb hdiscarded
    by_cases hlive : b.deletedAt = none
    · exact hafter (hc.ok.uploadIntents i b hb hlive hdiscarded)
    · exact hbefore (hqueued.uploads i b hb hlive)
  · intro i b hb hreleased
    by_cases hstatus : b.status = .released
    · exact hbefore (hqueued.avatars i b hb hstatus)
    · exact hafter (hc.ok.avatarIntents i b hb hstatus hreleased)

end Runs

section Sample

abbrev sampleSystem := system ⟨100, 1000, id⟩ id "https://server/" fun t t' => decide (t ≤ t')

def sampleServer : Shared := ⟨Attachments.sampleStore, [], 0, 0, []⟩

lemma starts_sampleServer : Starts sampleServer where
  log := rfl
  unique := unique_of_keys (by decide)
  uploads i := rfl
  avatars i := rfl
  attachments m := rfl
  intents j := rfl

/-- Two images are sent, and the message with the first one is deleted. -/
def deletionSchedule : List (Label Job) := Label.serial 1 [
  (.media (.createUpload 1 30 "image/jpeg" 10 none), 100, 11),
  (.media (.finalize ⟨1, 100, ⟨.image, "image/jpeg", 10, none⟩, none⟩), 300, 14),
  (.media (.send 1 ⟨30, 8, none, [100]⟩), 600, 78),
  (.media (.createUpload 1 30 "image/jpeg" 10 none), 700, 11),
  (.media (.finalize ⟨1, 700, ⟨.image, "image/jpeg", 10, none⟩, none⟩), 800, 14),
  (.media (.send 1 ⟨30, 9, none, [700]⟩), 900, 78),
  (.media (.deleteMessage 1 30 610), 1000, 56)]

/-- What a store says of an upload: its object and whether it is deleted. -/
def uploadSummary (s : Store Row) (i : Uuid) : Option (String × Bool) :=
  (s.get (.mediaUploads i)).map fun r => (r.objectKey, r.deletedAt.isSome)

theorem intents_in_schedule : ∃ s : State, sampleSystem.Reachable Starts s ∧ HasIntent s.shared.db (mintObjectKey 30 100) ∧
    InUse s.shared.db (mintObjectKey 30 700) ∧ ¬ HasIntent s.shared.db (mintObjectKey 30 700) := by
  have hrun : (sampleSystem.run ⟨sampleServer, []⟩ deletionSchedule).map (fun s =>
      ((s.shared.log[6]?).isSome, uploadSummary (s.shared.version 6) 100, uploadSummary (s.shared.version 7) 100,
        (s.shared.db.get (.messageMedia 955)).map MessageMedia.objectKey)) =
      some (true, some (mintObjectKey 30 100, false), some (mintObjectKey 30 100, true), some (mintObjectKey 30 700)) := by
    decide +kernel
  obtain ⟨s, hs, hsummary⟩ := Option.map_eq_some_iff.mp hrun
  simp only [Prod.mk.injEq] at hsummary
  obtain ⟨hlog, hbefore, hafter, hattached⟩ := hsummary
  have hreach := System.reachable_of_run _ starts_sampleServer hs
  obtain ⟨hsound, hcomplete⟩ := intents_sound_and_complete hreach
  obtain ⟨e, he⟩ := Option.isSome_iff_exists.mp hlog
  obtain ⟨b, hb, hkey⟩ := Option.map_eq_some_iff.mp hbefore
  obtain ⟨r, hr, hdeleted⟩ := Option.map_eq_some_iff.mp hafter
  obtain ⟨row, hrow, hobject⟩ := Option.map_eq_some_iff.mp hattached
  have hused : InUse s.shared.db (mintObjectKey 30 700) := .attachment 955 row hrow hobject
  have hqueued := (hcomplete 6 e he).1 100 b hb fun r' hr' => by
    rw [hr] at hr'
    cases hr'
    exact Option.isSome_iff_ne_none.mp (Prod.mk.inj hdeleted).2
  rw [(Prod.mk.inj hkey).1] at hqueued
  exact ⟨s, hreach, hqueued, hused, fun h => hsound _ h hused⟩

end Sample

end JamyeServer.Objects
