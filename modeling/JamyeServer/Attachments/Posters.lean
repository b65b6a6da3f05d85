import JamyeServer.Attachments.Order

/-!
# Posters and attachments

A poster belongs to its video and is not meant to be an attachment of its own. A finalization links it without a lock,
and a send that lists an upload does not ask whether the upload is a poster.
-/

namespace JamyeServer.Attachments

open ReadCommitted Postgres Media Messages

/-- The upload is linked as the poster of an upload that is not deleted. -/
def IsPoster (s : Store Row) (uploadId : Uuid) : Prop := ∃ v, liveLink (s.get (.mediaUploads v)) = some uploadId

/-- The upload is an attachment of a message. -/
def IsAttached (s : Store Row) (uploadId : Uuid) : Prop :=
  ∃ m r, s.get (.messageMedia m) = some r ∧ r.mediaUploadId = uploadId

/-- No poster has an attachment of its own. -/
def PostersUnattached (s : Store Row) : Prop := ∀ uploadId, IsPoster s uploadId → ¬ IsAttached s uploadId

/-- When a send commits, it lists a poster only after its video; when a finalization commits, the poster that it links
is not attached. -/
structure KeepsApart (job : Job) (s : Store Row) : Prop where
  listed : ∀ v, ∀ uploadId ∈ job.listed, liveLink (s.get (.mediaUploads v)) = some uploadId → [v, uploadId].Sublist job.listed
  poster : ∀ uploadId ∈ job.poster, ¬ IsAttached s uploadId

def CommitsApart (s : State) (lab : Label Job) : Prop :=
  ∀ id t out, lab = .commit id → s.find id = some t → t.prog = .ret out → KeepsApart t.job s.shared.db

/-- A server at its start: nothing is committed yet. -/
structure Starts (g : Shared) : Prop where
  log : g.log = []
  unique : Unique index g.init
  apart : PostersUnattached g.init

/-- What each transaction commits. -/
structure Ok (e : Entry) (g : Shared) : Prop where
  adds : Rows (Adds e.job.listed e.job.poster) g e.ran
  order : PostersUnattached g.db → ∀ v p, [v, p].Sublist e.job.listed → liveLink (g.db.get (.mediaUploads v)) ≠ some p

section Runs

variable {settings : Settings} {mask : String → String} {ticks : Time → Time → Bool}

def contract (settings : Settings) (mask : String → String) (ticks : Time → Time → Bool) :
    Contract (system settings mask ticks) where
  Init := Starts
  log_init _ hg := hg.log
  unique_init _ hg := hg.unique
  Ok := Ok
  Assume e g := KeepsApart e.job g.db

lemma programs_contract : (contract settings mask ticks).Programs := by
  intro job g hg r l' g' h
  cases r with
  | error e => exact trivial
  | ok out =>
    have hrun : Runs (contract settings mask ticks) (program settings mask job) (Local.begin g) g (.ok out) l' g' l' g' :=
      ⟨h, .refl⟩
    refine ⟨(keeps_program job).rows hrun (rows_of_empty rfl fun k => adds_refl k _), fun hapart v p horder hlink => ?_⟩
    cases job with
    | send actorId input =>
      obtain ⟨outcome, l₁, g₁, h₁, r₁⟩ := hrun.bind
      exact hapart p ⟨v, hlink⟩ (attached_of_sendMessageHttp h₁.mapError rfl horder hlink)
    | _ => cases horder

/-- No transaction both lists uploads and links a poster. -/
lemma Job.poster_of_listed {job : Job} {uploadId posterId : Uuid} (hlisted : uploadId ∈ job.listed) :
    posterId ∉ job.poster := by
  cases job with
  | send actorId input => nofun
  | _ => cases hlisted

lemma PostersUnattached.step {job : Job} {g : Shared} {l : Local Row Nat} (h : PostersUnattached g.db)
    (hrows : Rows (Adds job.listed job.poster) g l) (hapart : KeepsApart job g.db)
    (horder : ∀ v p, [v, p].Sublist job.listed → liveLink (g.db.get (.mediaUploads v)) ≠ some p) :
    PostersUnattached (g.view l) := by
  rintro uploadId ⟨v, hv⟩ ⟨m, r, hr, rfl⟩
  have hlink := hrows (.mediaUploads v) _ hv
  have hmedia := hrows (.messageMedia m) r.mediaUploadId (by
    change r.mediaUploadId ∈ ((g.view l).get (.messageMedia m)).map MessageMedia.mediaUploadId
    rw [hr]
    rfl)
  -- an attachment or a link is older than the commit, or the request has asked for it
  rcases hmedia with hold | hlisted
  · obtain ⟨r₀, hr₀, heq⟩ := Option.map_eq_some_iff.mp hold
    have hattached : IsAttached g.db r.mediaUploadId := ⟨m, r₀, hr₀, heq⟩
    rcases hlink with hold' | hposter
    · exact h _ ⟨v, hold'⟩ hattached
    · exact hapart.poster _ hposter hattached
  · rcases hlink with hold' | hposter
    · exact horder v _ (hapart.listed v _ hlisted hold') hold'
    · exact Job.poster_of_listed hlisted hposter

lemma unattached_of_history {g : Shared} (hg : History (contract settings mask ticks) g) : PostersUnattached g.db := by
  refine hg.invariant (fun _ hg => hg.apart) fun g₁ e _ hc h => ?_
  exact h.step hc.ok.adds hc.assume (hc.ok.order h)

/-- In every run whose sends list posters only after their videos and whose finalizations link no attachments, posters are
not attached, and no send succeeds that lists a video and its poster, in whatever order. -/
theorem posters_unattached {s : State} (hs : (system settings mask ticks).ReachableWhere CommitsApart Starts s) :
    PostersUnattached s.shared.db ∧ ∀ n e, s.shared.log[n]? = some e → ∀ v ∈ e.job.listed, ∀ p ∈ e.job.listed,
      liveLink ((s.shared.version n).get (.mediaUploads v)) ≠ some p := by
  have hsound : Sound (contract settings mask ticks) s :=
    reachable_sound (fun _ id t out hcond hf hp => ⟨hcond id t out rfl hf hp, fun _ _ => trivial⟩) programs_contract hs
  refine ⟨unattached_of_history hsound.history, fun n e he v _ p hp hlink => ?_⟩
  obtain ⟨g₁, hg₁, rfl, hc, hlater⟩ := hsound.history.entry he
  rw [hlater.version_commit.1] at hlink
  exact hc.ok.order (unattached_of_history hg₁) v p (hc.assume.listed v p hp hlink) hlink

end Runs

section Sample

abbrev sampleSystem := system ⟨100, 1000, id⟩ id fun t t' => decide (t ≤ t')

/-- A group with its main room and its owner. -/
def sampleStore : Store Row :=
  Store.empty.apply [
    ⟨.users 1, some { nickname := "owner" }⟩,
    ⟨.groups 10, some { name := "group", ownerId := 1 }⟩,
    ⟨.memberships 21, some { groupId := 10, userId := 1, role := .owner }⟩,
    ⟨.chatrooms 30, some { groupId := 10, type := .main, topicId := none }⟩]

def sampleServer : Shared := ⟨sampleStore, [], 0, 0, []⟩

lemma starts_sampleServer : Starts sampleServer := by
  refine ⟨rfl, unique_of_keys (by decide), ?_⟩
  rintro uploadId - ⟨m, r, hr, -⟩
  have hnone : sampleStore.get (.messageMedia m) = none := rfl
  cases hnone.symm.trans hr

/-- The image 100 and the video 200 are confirmed, the video with the image as its poster. -/
def posterSchedule : List (Label Job) := Label.serial 1 [
  (.createUpload 1 30 "image/jpeg" 10 none, 100, 11),
  (.createUpload 1 30 "video/mp4" 10 none, 200, 11),
  (.finalize ⟨1, 100, ⟨.image, "image/jpeg", 10, none⟩, none⟩, 300, 14),
  (.prepareFinalize 1 200 (some 100), 400, 10),
  (.finalize ⟨1, 200, ⟨.video, "video/mp4", 10, none⟩, some 100⟩, 500, 15)]

/-- A send of the uploads, up to its last request. -/
def sendRequests (uploadIds : List Uuid) (count : Nat) : List (Label Job) :=
  .start 6 (.send 1 ⟨30, 8, none, uploadIds⟩) :: Label.requests 6 600 count

/-- How a transaction has failed. -/
def failure (s : State) (id : Nat) : Option Failure :=
  (s.find id).bind fun t => match t.prog with
    | .fail e => some e
    | _ => none

/-- The uploads that are attached. -/
def attached (s : Store Row) : List Uuid :=
  (s.ids Tables.messageMedia fun _ _ => true).filterMap fun m => (s.get (.messageMedia m)).map MessageMedia.mediaUploadId

lemma isAttached_of_mem {s : Store Row} {uploadId : Uuid} (h : uploadId ∈ attached s) : IsAttached s uploadId := by
  obtain ⟨m, -, hm⟩ := List.mem_filterMap.mp h
  obtain ⟨r, hr, heq⟩ := Option.map_eq_some_iff.mp hm
  exact ⟨m, r, hr, heq⟩

/-- The poster is sent alone and is attached. Sent together with its video, it must be listed first. -/
theorem poster_attached : ∃ s : State, sampleSystem.Reachable Starts s ∧ IsPoster s.shared.db 100 ∧
    (∃ s₁, sampleSystem.run s (sendRequests [100] 78 ++ [.commit 6]) = some s₁ ∧ ¬ PostersUnattached s₁.shared.db) ∧
    (∃ s₂, sampleSystem.run s (sendRequests [100, 200] 97 ++ [.commit 6]) = some s₂) ∧
    ∃ s₃, sampleSystem.run s (sendRequests [200, 100] 69) = some s₃ ∧
      failure s₃ 6 = some (.messaging (.media .finalizeConflict)) := by
  have hrun : ((sampleSystem.run ⟨sampleServer, []⟩ posterSchedule).map fun s =>
      (liveLink (s.shared.db.get (.mediaUploads 200)),
        (sampleSystem.run s (sendRequests [100] 78 ++ [.commit 6])).map (fun s₁ =>
          (liveLink (s₁.shared.db.get (.mediaUploads 200)), attached s₁.shared.db)),
        (sampleSystem.run s (sendRequests [100, 200] 97 ++ [.commit 6])).isSome,
        (sampleSystem.run s (sendRequests [200, 100] 69)).bind (fun s₃ => failure s₃ 6))) =
      some (some 100, some (some 100, [100]), true, some (.messaging (.media .finalizeConflict))) := by
    decide +kernel
  obtain ⟨s, hs, hsummary⟩ := Option.map_eq_some_iff.mp hrun
  simp only [Prod.mk.injEq] at hsummary
  obtain ⟨hlink, hsend, hboth, hfail⟩ := hsummary
  obtain ⟨s₁, hs₁, hafter⟩ := Option.map_eq_some_iff.mp hsend
  obtain ⟨hlink₁, hattached⟩ := Prod.mk.inj hafter
  obtain ⟨s₃, hs₃, hconflict⟩ := Option.bind_eq_some_iff.mp hfail
  refine ⟨s, System.reachable_of_run _ starts_sampleServer hs, ⟨200, hlink⟩, ⟨s₁, hs₁, fun hapart => ?_⟩,
    Option.isSome_iff_exists.mp hboth, s₃, hs₃, hconflict⟩
  exact hapart 100 ⟨200, hlink₁⟩ (isAttached_of_mem (hattached ▸ List.mem_singleton_self _))

/-- Passes if a send lists no poster and a finalization links no attachment. -/
def testApart (e : Entry) (g : Shared) : Bool :=
  (g.db.ids Tables.mediaUploads fun _ r => (liveLink (some r)).any fun p => decide (p ∈ e.job.listed)).isEmpty &&
    (attached g.db).all fun u => decide (u ∉ e.job.poster)

lemma keepsApart_of_test {e : Entry} {g : Shared} (h : testApart e g = true) : KeepsApart e.job g.db := by
  simp only [testApart, Bool.and_eq_true, List.isEmpty_iff, List.all_eq_true, decide_eq_true_eq] at h
  refine ⟨fun v p hp hv => ?_, fun p hp => ?_⟩
  · cases hr : g.db.get (.mediaUploads v) with
    | none =>
      rw [hr] at hv
      cases hv
    | some r =>
      rw [hr] at hv
      have hmem : v ∈ g.db.ids Tables.mediaUploads fun _ r => (liveLink (some r)).any fun p => decide (p ∈ e.job.listed) :=
        Store.mem_ids.mpr ⟨r, hr, by simpa [hv] using hp⟩
      rw [h.1] at hmem
      cases hmem
  · rintro ⟨m, r, hr, rfl⟩
    refine h.2 r.mediaUploadId (List.mem_filterMap.mpr ⟨m, Store.mem_ids.mpr ⟨r, hr, rfl⟩, ?_⟩) hp
    rw [hr]
    rfl

/-- The video is sent with its poster. -/
theorem posters_unattached_in_schedule : ∃ s : State, sampleSystem.ReachableWhere CommitsApart Starts s ∧
    IsPoster s.shared.db 100 ∧ IsAttached s.shared.db 200 ∧ PostersUnattached s.shared.db := by
  have hrun : (sampleSystem.runWhere (fun s => s.testCommit testApart) ⟨sampleServer, []⟩
      (posterSchedule ++ sendRequests [200] 83 ++ [.commit 6])).map (fun s =>
        (liveLink (s.shared.db.get (.mediaUploads 200)), attached s.shared.db)) = some (some 100, [200]) := by
    decide +kernel
  obtain ⟨s, hs, hsummary⟩ := Option.map_eq_some_iff.mp hrun
  obtain ⟨hlink, hattached⟩ := Prod.mk.inj hsummary
  have hreach : sampleSystem.ReachableWhere CommitsApart Starts s := by
    refine System.reachableWhere_of_run _ (fun s₁ lab htest id t out hlab hf hp => ?_) starts_sampleServer hs
    exact keepsApart_of_test (State.of_testCommit htest hlab hf hp)
  exact ⟨s, hreach, ⟨200, hlink⟩, isAttached_of_mem (hattached ▸ List.mem_singleton_self _), (posters_unattached hreach).1⟩

end Sample

end JamyeServer.Attachments
