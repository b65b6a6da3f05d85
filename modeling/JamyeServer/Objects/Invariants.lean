import JamyeServer.Objects.System
import JamyeServer.ReadCommitted.Effects

/-!
# Bound uploads and discarded objects

What the commits together keep: attachments and posters are bound to their messages and not deleted, and a key with a
deletion intent is the key of nothing that is still in use.
-/

namespace JamyeServer.Objects

open ReadCommitted Postgres Media Messages
open Postgres.Avatars (mintAvatarObjectKey)

variable {settings : Settings} {mask : String → String} {publicBaseUrl : String} {ticks : Time → Time → Bool} {g : Shared}

section Uploads

lemma UploadStep.consistent {drawn : List Nat} {i : Uuid} {v : Option MediaUpload} {r : MediaUpload}
    (h : UploadStep drawn i v (some r))
    (hv : ∀ b, v = some b → (b.status = .bound ↔ b.boundMessageId ≠ none) ∧ b.objectKey = mintObjectKey b.targetId i) :
    (r.status = .bound ↔ r.boundMessageId ≠ none) ∧ r.objectKey = mintObjectKey r.targetId i := by
  cases h with
  | same => exact hv r rfl
  | registered status bound deleted objectKey fresh => simp [status, bound, objectKey]
  | changed unbound objectKey targetId deleted status =>
    rw [objectKey, targetId]
    exact ⟨status, (hv _ rfl).2⟩
  | kept objectKey targetId status bound poster deleted =>
    rw [objectKey, targetId, status, bound]
    exact hv _ rfl

/-- An upload is bound exactly when it says so, and its object is named after it. -/
lemma consistent_of_history (hg : History (contract settings mask publicBaseUrl ticks) g) (i : Uuid) (r : MediaUpload)
    (hr : g.db.get (.mediaUploads i) = some r) :
    (r.status = .bound ↔ r.boundMessageId ≠ none) ∧ r.objectKey = mintObjectKey r.targetId i := by
  refine hg.invariant (P := fun s => ∀ r, s.get (.mediaUploads i) = some r → (r.status = .bound ↔ r.boundMessageId ≠ none) ∧
    r.objectKey = mintObjectKey r.targetId i) (fun g₀ h₀ r hr => ?_) (fun g₁ e _ hc hs r hr => ?_) r hr
  · rw [h₀.uploads i] at hr
    cases hr
  · have hstep := hc.ok.uploads i
    rw [hr] at hstep
    exact hstep.consistent hs

/-- A bound upload stays where it is. -/
def StaysBound (i messageId : Uuid) (poster : Option Uuid) (objectKey : String) (s : Store Row) : Prop :=
  ∃ r, s.get (.mediaUploads i) = some r ∧ r.boundMessageId = some messageId ∧ r.posterUploadId = poster ∧
    r.objectKey = objectKey

lemma UploadStep.staysBound {drawn : List Nat} {i messageId : Uuid} {b : MediaUpload} {v : Option MediaUpload}
    (h : UploadStep drawn i (some b) v) (hb : b.boundMessageId = some messageId) :
    ∃ r, v = some r ∧ r.boundMessageId = some messageId ∧ r.posterUploadId = b.posterUploadId ∧
      r.objectKey = b.objectKey ∧ (b.deletedAt ≠ none → r.deletedAt ≠ none) := by
  cases h with
  | same => exact ⟨b, rfl, hb, rfl, rfl, id⟩
  | changed unbound =>
    rw [hb] at unbound
    cases unbound
  | @kept _ r objectKey targetId status bound poster deleted => exact ⟨r, rfl, bound.trans hb, poster, objectKey, deleted⟩
  | removed unbound =>
    rw [hb] at unbound
    cases unbound

lemma bound_stays (hg : History (contract settings mask publicBaseUrl ticks) g) {n m : Nat} (hnm : n ≤ m) (hm : m ≤ g.csn)
    {i messageId : Uuid} {b : MediaUpload} (hb : (g.version n).get (.mediaUploads i) = some b)
    (hbound : b.boundMessageId = some messageId) :
    StaysBound i messageId b.posterUploadId b.objectKey (g.version m) := by
  refine hg.stable (P := StaysBound i messageId b.posterUploadId b.objectKey) ?_ hnm hm ⟨b, hb, hbound, rfl, rfl⟩
  rintro g₁ e - hc ⟨r, hr, hrbound, hposter, hkey⟩
  have hstep := hc.ok.uploads i
  rw [hr] at hstep
  obtain ⟨r', hr', hbound', hposter', hkey', -⟩ := hstep.staysBound hrbound
  exact ⟨r', hr', hbound', hposter'.trans hposter, hkey'.trans hkey⟩

end Uploads

section Names

lemma mintObjectKey_injective {targetId targetId' i i' : Uuid} (h : mintObjectKey targetId i = mintObjectKey targetId' i') :
    i = i' :=
  Avatars.lastPart_injective h

/-- Avatars and attachments lie under different paths. -/
lemma mintObjectKey_ne_avatar {targetId userId i j : Uuid} : mintObjectKey targetId i ≠ mintAvatarObjectKey userId j := by
  intro h
  have hlist := congrArg (fun s => s.toList.head?) h
  simp [mintObjectKey, mintAvatarObjectKey, String.toList_append] at hlist

lemma AvatarStep.named {l : Local} {i : Uuid} {v : Option UserAvatarUpload} {r : UserAvatarUpload}
    (h : AvatarStep l i v (some r)) (hv : ∀ b, v = some b → b.objectKey = mintAvatarObjectKey b.userId i) :
    r.objectKey = mintAvatarObjectKey r.userId i := by
  cases h with
  | same => exact hv r rfl
  | registered status objectKey => exact objectKey
  | changed objectKey userId released =>
    rw [objectKey, userId]
    exact hv _ rfl

lemma avatar_named (hg : History (contract settings mask publicBaseUrl ticks) g) (i : Uuid) (r : UserAvatarUpload)
    (hr : g.db.get (.userAvatarUploads i) = some r) : r.objectKey = mintAvatarObjectKey r.userId i := by
  refine hg.invariant (P := fun s => ∀ r, s.get (.userAvatarUploads i) = some r → r.objectKey = mintAvatarObjectKey r.userId i)
    (fun g₀ h₀ r hr => ?_) (fun g₁ e _ hc hs r hr => ?_) r hr
  · rw [h₀.avatars i] at hr
    cases hr
  · have hstep := hc.ok.avatars i
    rw [hr] at hstep
    exact hstep.named hs

/-- A key belongs to one row. -/
lemma upload_unique (hg : History (contract settings mask publicBaseUrl ticks) g) {n n' : Nat} (hn : n ≤ g.csn)
    (hn' : n' ≤ g.csn) {i i' : Uuid} {b b' : MediaUpload} (hb : (g.version n).get (.mediaUploads i) = some b)
    (hb' : (g.version n').get (.mediaUploads i') = some b') (hkey : b.objectKey = b'.objectKey) : i = i' := by
  obtain ⟨g₁, hg₁, -, hdb, -⟩ := hg.version hn
  obtain ⟨g₂, hg₂, -, hdb', -⟩ := hg.version hn'
  rw [(consistent_of_history hg₁ i b (hdb ▸ hb)).2, (consistent_of_history hg₂ i' b' (hdb' ▸ hb')).2] at hkey
  exact mintObjectKey_injective hkey

lemma avatar_unique (hg : History (contract settings mask publicBaseUrl ticks) g) {n n' : Nat} (hn : n ≤ g.csn)
    (hn' : n' ≤ g.csn) {i i' : Uuid} {b b' : UserAvatarUpload} (hb : (g.version n).get (.userAvatarUploads i) = some b)
    (hb' : (g.version n').get (.userAvatarUploads i') = some b') (hkey : b.objectKey = b'.objectKey) : i = i' := by
  obtain ⟨g₁, hg₁, -, hdb, -⟩ := hg.version hn
  obtain ⟨g₂, hg₂, -, hdb', -⟩ := hg.version hn'
  rw [avatar_named hg₁ i b (hdb ▸ hb), avatar_named hg₂ i' b' (hdb' ▸ hb')] at hkey
  exact Avatars.mintAvatarObjectKey_injective hkey

lemma upload_ne_avatar (hg : History (contract settings mask publicBaseUrl ticks) g) {n n' : Nat} (hn : n ≤ g.csn)
    (hn' : n' ≤ g.csn) {i i' : Uuid} {b : MediaUpload} {b' : UserAvatarUpload}
    (hb : (g.version n).get (.mediaUploads i) = some b) (hb' : (g.version n').get (.userAvatarUploads i') = some b') :
    b.objectKey ≠ b'.objectKey := by
  obtain ⟨g₁, hg₁, -, hdb, -⟩ := hg.version hn
  obtain ⟨g₂, hg₂, -, hdb', -⟩ := hg.version hn'
  rw [(consistent_of_history hg₁ i b (hdb ▸ hb)).2, avatar_named hg₂ i' b' (hdb' ▸ hb')]
  exact mintObjectKey_ne_avatar

end Names

section Attachments

lemma Bound.step {e : Entry} {row : MessageMedia} {m : Uuid} (hok : Ok e g)
    (hm : (g.view e.ran).get (.messageMedia m) = some row) (h : Bound g.db row) : Bound (g.view e.ran) row := by
  obtain ⟨b, hb, hbound, hlive, hkey, hposter⟩ := h.upload
  have hstep := hok.uploads row.mediaUploadId
  rw [hb] at hstep
  obtain ⟨r, hr, hrbound, hrposter, hrkey, -⟩ := hstep.staysBound hbound
  have hdetached : ∀ i b, g.db.get (.mediaUploads i) = some b → b.deletedAt = none → (i = row.mediaUploadId ∨
      r.posterUploadId = some i) → ∀ r', (g.view e.ran).get (.mediaUploads i) = some r' → r'.deletedAt = none := by
    intro i b' hb' hlive' hi r' hr'
    by_contra hdeleted
    obtain ⟨hne, hposter'⟩ := hok.detached i b' hb' hlive'
      (fun r₁ hr₁ => by rw [hr'] at hr₁; cases hr₁; exact hdeleted) m row hm
    rcases hi with rfl | hi
    · exact hne rfl
    · exact hposter' r hr hi
  refine ⟨r, hr, hrbound, hdetached _ b hb hlive (.inl rfl) r hr, hrkey.trans hkey, fun p hp => ?_⟩
  obtain ⟨b', hb', hbound', hlive'⟩ := hposter p (hrposter.symm.trans hp)
  have hstep' := hok.uploads p
  rw [hb'] at hstep'
  obtain ⟨r', hr', hrbound', -⟩ := hstep'.staysBound hbound'
  exact ⟨r', hr', hrbound', hdetached p b' hb' hlive' (.inr hp) r' hr'⟩

lemma bound_of_history (hg : History (contract settings mask publicBaseUrl ticks) g) {n : Nat} (hn : n ≤ g.csn) (m : Uuid)
    (row : MessageMedia) (hrow : (g.version n).get (.messageMedia m) = some row) : Bound (g.version n) row := by
  obtain ⟨g₁, hg₁, -, hdb, -⟩ := hg.version hn
  rw [← hdb] at hrow ⊢
  refine hg₁.invariant (P := fun s => ∀ m row, s.get (.messageMedia m) = some row → Bound s row) (fun g₀ h₀ m row hr => ?_)
    (fun g₁ e _ hc hs m row hr => ?_) m row hrow
  · rw [h₀.attachments m] at hr
    cases hr
  · rcases hc.ok.attachments m row hr with hold | hnew
    · exact (hs m row hold).step hc.ok hr
    · exact hnew.bound

/-- An upload is bound when it is attached or its video is, so an attachment is not younger than that. -/
lemma attached_before (hg : History (contract settings mask publicBaseUrl ticks) g) {n k : Nat} (hnk : n ≤ k)
    (hk : k ≤ g.csn) {m i messageId : Uuid} {row : MessageMedia} {b : MediaUpload}
    (hb : (g.version n).get (.mediaUploads i) = some b) (hbound : b.boundMessageId = some messageId)
    (hrow : (g.version k).get (.messageMedia m) = some row)
    (hi : row.mediaUploadId = i ∨ ∃ r, (g.version k).get (.mediaUploads row.mediaUploadId) = some r ∧
      r.posterUploadId = some i) : (g.version n).get (.messageMedia m) = some row := by
  by_contra hnot
  obtain ⟨e, g₁, hn₁, hk₁, -, -, hc, hbefore, hafter, hlater⟩ :=
    hg.commit_of_change (P := fun s => s.get (.messageMedia m) ≠ some row) hnk hk hnot (not_not.mpr hrow)
  rw [ne_eq, not_not] at hafter
  have hboundBefore : ∀ b', g₁.db.get (.mediaUploads i) = some b' → b'.boundMessageId ≠ none := by
    intro b' hb' hnone
    have hcsn := (Nat.lt_of_lt_of_le hk₁ hk).le
    obtain ⟨r, hr, hrbound, -⟩ := bound_stays hg hn₁ hcsn hb hbound
    rw [hlater.version_commit.1, hb'] at hr
    cases hr
    rw [hnone] at hrbound
    cases hrbound
  rcases hc.ok.attachments m row hafter with hold | hnew
  · exact hbefore hold
  · rcases hi with rfl | ⟨r, hr, hposter⟩
    · obtain ⟨b', hb', hnone⟩ := hnew.upload
      exact hboundBefore b' hb' hnone
    · obtain ⟨r₁, hr₁, hrbound, -⟩ := hnew.bound.upload
      have hversion : (g.version (g₁.csn + 1)).get (.mediaUploads row.mediaUploadId) = some r₁ := by
        rw [hlater.version_commit.2]
        exact hr₁
      obtain ⟨r₂, hr₂, -, hsame, -⟩ := bound_stays hg hk₁ hk hversion hrbound
      rw [hr] at hr₂
      cases hr₂
      obtain ⟨b', hb', hnone⟩ := hnew.poster r₁ i hr₁ (hsame.symm.trans hposter)
      exact hboundBefore b' hb' hnone

end Attachments

section Intents

lemma drawnUploads : DrawnKeys (contract settings mask publicBaseUrl ticks) Key.mediaUploads where
  init g hg i hi := absurd (Starts.uploads hg i) hi
  insert e g hc i hi hi' := by
    have hstep := hc.ok.uploads i
    rw [hi] at hstep
    generalize (g.view e.ran).get (.mediaUploads i) = v at hstep hi'
    cases hstep with
    | same => exact absurd rfl hi'
    | registered _ _ _ _ fresh => exact fresh

lemma drawnAvatars : DrawnKeys (contract settings mask publicBaseUrl ticks) Key.userAvatarUploads where
  init g hg i hi := absurd (Starts.avatars hg i) hi
  insert e g hc i hi hi' := by
    have hstep := hc.ok.avatars i
    rw [hi] at hstep
    generalize (g.view e.ran).get (.userAvatarUploads i) = v at hstep hi'
    cases hstep with
    | same => exact absurd rfl hi'
    | registered _ _ fresh => exact fresh

/-- The object belongs to a row of this version. -/
def Owned (s : Store Row) (objectKey : String) : Prop :=
  (∃ i b, s.get (.mediaUploads i) = some b ∧ b.objectKey = objectKey) ∨
    ∃ i b, s.get (.userAvatarUploads i) = some b ∧ b.objectKey = objectKey

/-- An object is queued for deletion only when it has belonged to a row. -/
lemma owned_of_intent (hg : History (contract settings mask publicBaseUrl ticks) g) {j : Uuid}
    {x : AccountObjectDeletionIntent} (hx : g.db.get (.accountObjectDeletionIntents j) = some x) :
    ∃ n, n ≤ g.csn ∧ Owned (g.version n) x.objectKey := by
  induction hg generalizing j x with
  | @init g hinit =>
    have hdb : g.db = g.init := by simp [Shared.db, Shared.version, Starts.log hinit]
    rw [hdb, Starts.intents hinit j] at hx
    cases hx
  | @shift g g' _ hs ih =>
    rw [hs.db] at hx
    obtain ⟨n, hn, howned⟩ := ih hx
    exact ⟨n, by rwa [hs.csn], by rwa [hs.version]⟩
  | @commit g e hg hc ih =>
    rw [Shared.csn_commit]
    rw [Shared.db_commit] at hx
    rcases hc.ok.discards j x hx with hold | hnew
    · obtain ⟨n, hn, howned⟩ := ih hold
      exact ⟨n, Nat.le_succ_of_le hn, by rwa [Shared.version_commit _ _ hn]⟩
    · refine ⟨g.csn, Nat.le_succ _, ?_⟩
      rw [Shared.version_commit _ _ (Nat.le_refl _)]
      cases hnew with
      | upload i b row key => exact .inl ⟨i, b, row, key⟩
      | avatar i b row key => exact .inr ⟨i, b, row, key⟩

/-- The rows of a key with a deletion intent are deleted, released or gone. -/
structure Spent (s : Store Row) (objectKey : String) : Prop where
  uploads : ∀ i b, s.get (.mediaUploads i) = some b → b.objectKey = objectKey → b.deletedAt ≠ none
  avatars : ∀ i b, s.get (.userAvatarUploads i) = some b → b.objectKey = objectKey → b.status = .released

/-- The versions around a commit, as versions of the state after it. -/
lemma version_commit (e : Entry) : (g.commit e).version g.csn = g.db ∧ (g.commit e).version (g.csn + 1) = g.view e.ran := by
  refine ⟨Shared.version_commit _ _ (Nat.le_refl _), ?_⟩
  rw [← Shared.db_commit, Shared.db, Shared.csn_commit]

lemma Spent.step {e : Entry} {j : Uuid} {x : AccountObjectDeletionIntent}
    (hg : History (contract settings mask publicBaseUrl ticks) g) (hc : Commits (contract settings mask publicBaseUrl ticks) e g)
    (hx : g.db.get (.accountObjectDeletionIntents j) = some x) (h : Spent g.db x.objectKey) :
    Spent (g.view e.ran) x.objectKey := by
  have hg' := hg.commit hc
  obtain ⟨hbefore, hafter⟩ := version_commit (g := g) e
  obtain ⟨n, hn, howned⟩ := owned_of_intent hg hx
  have hcsn : (g.commit e).csn = g.csn + 1 := Shared.csn_commit g e
  rw [← Shared.version_commit g e hn] at howned
  constructor
  · intro i r hr hkey
    have hstep := hc.ok.uploads i
    have hversion : ((g.commit e).version (g.csn + 1)).get (.mediaUploads i) = some r := by rw [hafter, hr]
    cases hb : g.db.get (.mediaUploads i) with
    | none =>
      -- a new upload has an id that no object has been named after
      exfalso
      have hnew := hc.ok.newUploads i hb (by rw [hr]; exact Option.some_ne_none r) n hn
      rw [← Shared.version_commit g e hn] at hnew
      rcases howned with ⟨i', b, hb', hkey'⟩ | ⟨i', b, hb', hkey'⟩
      · obtain rfl := upload_unique hg' (by omega) (by omega) hversion hb' (hkey.trans hkey'.symm)
        rw [hnew] at hb'
        cases hb'
      · exact upload_ne_avatar hg' (by omega) (by omega) hversion hb' (hkey.trans hkey'.symm)
    | some b =>
      rw [hb, hr] at hstep
      cases hstep with
      | same => exact h.uploads i r hb hkey
      | changed unbound objectKey targetId deleted status =>
        rw [deleted]
        exact h.uploads i b hb (objectKey.symm.trans hkey)
      | kept objectKey targetId status bound poster deleted =>
        exact deleted (h.uploads i b hb (objectKey.symm.trans hkey))
  · intro i r hr hkey
    have hstep := hc.ok.avatars i
    have hversion : ((g.commit e).version (g.csn + 1)).get (.userAvatarUploads i) = some r := by rw [hafter, hr]
    cases hb : g.db.get (.userAvatarUploads i) with
    | none =>
      exfalso
      have hnew := hc.ok.newAvatars i hb (by rw [hr]; exact Option.some_ne_none r) n hn
      rw [← Shared.version_commit g e hn] at hnew
      rcases howned with ⟨i', b, hb', hkey'⟩ | ⟨i', b, hb', hkey'⟩
      · exact upload_ne_avatar hg' (by omega) (by omega) hb' hversion (hkey'.trans hkey.symm)
      · obtain rfl := avatar_unique hg' (by omega) (by omega) hversion hb' (hkey.trans hkey'.symm)
        rw [hnew] at hb'
        cases hb'
    | some b =>
      rw [hb, hr] at hstep
      cases hstep with
      | same => exact h.avatars i r hb hkey
      | changed objectKey userId released => exact released (h.avatars i b hb (objectKey.symm.trans hkey))

lemma Discards.spent {e : Entry} {objectKey : String} (hg : History (contract settings mask publicBaseUrl ticks) (g.commit e))
    (h : Discards g.db (g.view e.ran) objectKey) : Spent (g.view e.ran) objectKey := by
  obtain ⟨hbefore, hafter⟩ := version_commit (g := g) e
  have hcsn : (g.commit e).csn = g.csn + 1 := Shared.csn_commit g e
  rw [← hbefore, ← hafter] at h
  rw [← hafter]
  cases h with
  | upload i b row key discarded =>
    refine ⟨fun i' r hr hkey => ?_, fun i' r hr hkey => ?_⟩
    · obtain rfl := upload_unique hg (by omega) (by omega) hr row (hkey.trans key.symm)
      exact discarded r hr
    · exact (upload_ne_avatar hg (by omega) (by omega) row hr (key.trans hkey.symm)).elim
  | avatar i b row key released =>
    refine ⟨fun i' r hr hkey => ?_, fun i' r hr hkey => ?_⟩
    · exact (upload_ne_avatar hg (by omega) (by omega) hr row (hkey.trans key.symm)).elim
    · obtain rfl := avatar_unique hg (by omega) (by omega) hr row (hkey.trans key.symm)
      exact released r hr

/-- Nothing that is in use has a deletion intent. -/
lemma spent_of_intent (hg : History (contract settings mask publicBaseUrl ticks) g) {j : Uuid}
    {x : AccountObjectDeletionIntent} (hx : g.db.get (.accountObjectDeletionIntents j) = some x) : Spent g.db x.objectKey := by
  induction hg generalizing j x with
  | @init g hinit =>
    have hdb : g.db = g.init := by simp [Shared.db, Shared.version, Starts.log hinit]
    rw [hdb, Starts.intents hinit j] at hx
    cases hx
  | @shift g g' _ hs ih =>
    rw [hs.db] at hx ⊢
    exact ih hx
  | @commit g e hg hc ih =>
    rw [Shared.db_commit] at hx ⊢
    rcases hc.ok.discards j x hx with hold | hnew
    · exact (ih hold).step hg hc hold
    · exact hnew.spent (hg.commit hc)

end Intents

end JamyeServer.Objects
