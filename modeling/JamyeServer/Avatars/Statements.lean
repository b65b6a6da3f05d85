import JamyeServer.Avatars.System
import JamyeServer.Text

/-!
# What the statements on avatars do

A statement that releases uploads of a locked user meets all of them, in the version that it sees as in the
last one, so it leaves none behind.
-/

namespace JamyeServer.Avatars

open ReadCommitted Postgres Avatars Prog

variable {publicBaseUrl : String} {ticks : Time → Time → Bool} {l l' L : Local} {g g' G : Shared} {ε : Type}
  {userId : Uuid} {status : AvatarStatus}

section Keys

lemma slash_notMem_uuidText (u : Uuid) : '/' ∉ (uuidText u).toList := by
  intro hmem
  rw [uuidText, String.toList_ofList, List.mem_append] at hmem
  rcases hmem with hmem | hmem
  · split at hmem
    · cases hmem
    · rcases List.mem_append.mp hmem with hmem | hmem
      · rw [← Nat.toList_repr] at hmem
        exact absurd (Text.isDigit_of_mem_toString hmem) (by decide)
      · exact absurd hmem (by decide)
  · exact absurd (Text.mem_uuidChars_of_mem_hyphenated hmem) (by decide)

lemma uuidText_injective {u u' : Uuid} (h : (uuidText u).toList = (uuidText u').toList) : u = u' := by
  rw [uuidText, uuidText, String.toList_ofList, String.toList_ofList] at h
  obtain ⟨hhigh, hlow⟩ := List.append_inj' h (by rw [Text.length_hyphenated, Text.length_hyphenated])
  have hmod : u % 2 ^ 128 = u' % 2 ^ 128 := by
    simpa using congrArg BitVec.toNat (Text.hyphenated_injective hlow)
  have hdiv : u / 2 ^ 128 = u' / 2 ^ 128 := by
    split at hhigh <;> split at hhigh
    · rw [Nat.div_eq_of_lt ‹u < 2 ^ 128›, Nat.div_eq_of_lt ‹u' < 2 ^ 128›]
    · simp at hhigh
    · simp at hhigh
    · exact Text.toDigits_injective (List.append_cancel_right hhigh)
  rw [← Nat.div_add_mod u (2 ^ 128), ← Nat.div_add_mod u' (2 ^ 128), hdiv, hmod]

/-- The last part of a path determines its id. -/
lemma lastPart_injective {first : String} {i i' j j' : Uuid}
    (h : first ++ uuidText i ++ "/" ++ uuidText j = first ++ uuidText i' ++ "/" ++ uuidText j') : j = j' := by
  have hlist := congrArg String.toList h
  simp only [String.toList_append, List.append_assoc] at hlist
  have hrest := congrArg (List.dropWhile (· != '/')) (List.append_cancel_left hlist)
  have hdigits : ∀ u, ∀ c ∈ (uuidText u).toList, (c != '/') = true := fun u c hc => by
    rw [bne_iff_ne]
    rintro rfl
    exact slash_notMem_uuidText u hc
  rw [List.dropWhile_append_of_pos (hdigits i), List.dropWhile_append_of_pos (hdigits i')] at hrest
  refine uuidText_injective ?_
  simpa using hrest

/-- The object of an upload determines the upload. -/
lemma mintAvatarObjectKey_injective {userId userId' uploadId uploadId' : Uuid}
    (h : mintAvatarObjectKey userId uploadId = mintAvatarObjectKey userId' uploadId') : uploadId = uploadId' :=
  lastPart_injective h

end Keys

section Users

/-- The user is live and its row is locked. -/
lemma lockLiveUser_ok {u : Unit} (h : Runs (contract publicBaseUrl ticks) (lockLiveUser userId) l g (.ok u) l' g' L G) :
    (.users userId, .update) ∈ l'.locks ∧ l'.writes = l.writes ∧
      ∃ r, (G.db.apply l.writes).get (.users userId) = some r ∧ r.deletedAt = none := by
  unfold lockLiveUser at h
  obtain ⟨found, l₁, g₁, h₁, h₂⟩ := h.bind
  obtain ⟨hfound, rfl⟩ := h₂.ensure
  obtain ⟨gs, -, -, hrows⟩ := h₁.selectFor nofun
  obtain ⟨a, ha⟩ := List.exists_mem_of_ne_nil _ hfound
  obtain ⟨i, hi, t, r, -, hlock, hrow, hf⟩ := hrows.mem a ha
  obtain rfl := (Store.mem_one.mp hi).1
  refine ⟨hlock, by rw [hrows.frame], r, hrow, ?_⟩
  by_contra hlive
  simp [hlive] at hf

lemma lockLiveUser_error {e : AvatarRepositoryError}
    (h : Runs (contract publicBaseUrl ticks) (lockLiveUser userId) l g (.error e) l' g' L G) : e = .uploadNotFound := by
  refine h.failsIn (P := fun e => e = .uploadNotFound) ?_
  exact failsIn_selectFor.bind fun _ => failsIn_ensure rfl

/-- The update of a live user that returns its profile. -/
lemma updateUser_ok {f : User → User} {error : ε} {profile : UserProfile}
    (h : Runs (contract publicBaseUrl ticks) (updateUser userId f error) l g (.ok (some profile)) l' g' L G) :
    (∃ u, (G.db.apply l.writes).get (.users userId) = some u ∧ u.deletedAt = none ∧
      (G.db.apply l'.writes).get (.users userId) = some (f u)) ∧
      ∀ (s : Store Row) k, k ≠ .users userId → (s.apply l'.writes).get k = (s.apply l.writes).get k := by
  unfold updateUser at h
  obtain ⟨rows, l₁, g₁, h₁, h₂⟩ := h.bind
  obtain ⟨hprofile, rfl⟩ := h₂.ret
  obtain ⟨gs, ws, -, -, hch⟩ := h₁.update fun s => s.nodup_one ..
  constructor
  · obtain ⟨x, hx, -⟩ := Option.bind_eq_some_iff.mp hprofile.symm
    obtain ⟨i, hi, t, u, v, -, -, hrow, hf, hafter⟩ := hch.returned (List.mem_of_mem_head? hx)
    obtain rfl := (Store.mem_one.mp hi).1
    by_cases hlive : u.deletedAt = none
    · simp only [hlive, if_true, Option.map_some, Option.some.injEq, Prod.mk.injEq] at hf
      refine ⟨u, hrow, hlive, ?_⟩
      rw [hafter, ← hf.1]
    · simp [hlive] at hf
  · intro s k hk
    refine hch.get_of_ne s fun i hi => ?_
    rw [(Store.mem_one.mp hi).1]
    exact hk

/-- The users table has no unique index besides its primary key. -/
lemma updateUser_not_error {f : User → User} {error e : ε} (hl : Coherent index l g) :
    ¬ Runs (contract publicBaseUrl ticks) (updateUser userId f error) l g (.error e) l' g' L G := by
  intro h
  unfold updateUser at h
  rcases h.bind_error with h₁ | ⟨rows, l₁, g₁, -, h₂⟩
  · refine Runs.update_not_error hl (fun s => s.nodup_one ..) ?_ h₁
    intro s i t r r' a hf
    exact List.nil_subset _
  · exact Runs.not_ret_error h₂

end Users

section Release

/-- All uploads of the user with the status have been released, or none of them if `released` is false. -/
structure Released (userId : Uuid) (status : AvatarStatus) (released : Bool) (l l' : Local) (G : Shared) : Prop where
  row : ∀ i r, G.db.get (.userAvatarUploads i) = some r → r.userId = userId → r.status = status → released = true →
    ∃ t, ∀ s : Store Row, (s.apply l'.writes).get (.userAvatarUploads i) = some (UserAvatarUpload.release t r)
  other : ∀ i, (∀ r, G.db.get (.userAvatarUploads i) = some r → r.userId = userId → r.status = status →
    released = false) → ∀ s : Store Row, (s.apply l'.writes).get (.userAvatarUploads i) = s.get (.userAvatarUploads i)
  users : ∀ (s : Store Row) i, (s.apply l'.writes).get (.users i) = (s.apply l.writes).get (.users i)

/-- A statement that releases the uploads of a user, if its snapshot satisfies `c`. -/
lemma update_releases (status : AvatarStatus) {q : Store Row → List Uuid}
    {f : Store Row → (i : Uuid) → Nat → UserAvatarUpload → Option (UserAvatarUpload × (String × Time))}
    {c : Store Row → Bool} {error : ε} {as : List (String × Time)}
    (h : Runs (contract publicBaseUrl ticks) (update Tables.userAvatarUploads q f error) l g (.ok as) l' g' L G)
    (hnd : ∀ s, (q s).Nodup)
    (hq : ∀ s i r, s.get (.userAvatarUploads i) = some r → r.userId = userId → r.status = status → c s = true → i ∈ q s)
    (hf : ∀ s i t r, f s i t r = if r.userId = userId ∧ r.status = status ∧ c s = true then
      some (UserAvatarUpload.release t r, (r.objectKey, r.expiresAt)) else none)
    (hlock : (.users userId, .update) ∈ l.locks)
    (hw : ∀ (s : Store Row) i, (s.apply l.writes).get (.userAvatarUploads i) = s.get (.userAvatarUploads i)) :
    ∃ gs, Later (contract publicBaseUrl ticks) g gs ∧ Later (contract publicBaseUrl ticks) gs g' ∧
      Released userId status (c ((G.version gs.csn).apply l.writes)) l l' G := by
  obtain ⟨gs, ws, hgs, hgs', hch⟩ := h.update hnd
  have hG : g'.csn ≤ G.csn := h.rest.later.csn_le
  have hstable := fun {n : Nat} (hn : g.csn ≤ n) (hn' : n ≤ G.csn) (i : Uuid) {r : UserAvatarUpload} (hr : r.userId = userId) =>
    uploads_stable h.evolve hlock hn hn' (Nat.le_refl _) i hr
  refine ⟨gs, hgs, hgs', ?_, ?_, ?_⟩
  · intro i r hrow huser hstatus hreleased
    have hsnap := (hstable hgs.csn_le (Nat.le_trans hgs'.csn_le hG) i huser).mpr hrow
    have hmem : i ∈ q ((G.version gs.csn).apply l.writes) := hq _ i r (by rw [hw]; exact hsnap) huser hstatus hreleased
    rcases hch.each i hmem with ⟨n, hn, hn', hmissing⟩ | ⟨t, r', -, -, hrow', -, hwrite⟩
    · have := (hstable (Nat.le_trans hgs.csn_le hn) (Nat.le_trans hn' hG) i huser).mpr hrow
      rw [hw, this] at hmissing
      cases hmissing
    · rw [hw] at hrow'
      obtain rfl := Option.some.inj (hrow.symm.trans hrow')
      obtain ⟨-, hmem⟩ := hwrite (some (UserAvatarUpload.release t r)) (r.objectKey, r.expiresAt)
        (by rw [hf, if_pos ⟨huser, hstatus, hreleased⟩]; rfl)
      refine ⟨t, fun s => ?_⟩
      rw [hch.frame, Store.apply_append]
      exact Store.get_apply_of_mem_nodup _ hch.nodup hmem
  · intro i hnone s
    have hnotMem : Key.userAvatarUploads i ∉ ws.map Write.key := by
      intro hmem
      obtain ⟨w, hw', hkey⟩ := List.mem_map.mp hmem
      obtain ⟨j, -, t, r, v, a, -, -, hrow, hfj, -, rfl⟩ := hch.mem w hw'
      cases hkey
      rw [hw] at hrow
      rw [hf] at hfj
      split at hfj
      · rename_i hcond
        have := hnone r hrow hcond.1 hcond.2.1
        rw [hcond.2.2] at this
        cases this
      · cases hfj
    rw [hch.frame, Store.apply_append, Store.get_apply_of_notMem _ hnotMem]
    exact hw s i
  · exact fun s i => hch.get_of_ne s fun _ _ => nofun

/-- Releasing an upload takes it out of the index of its status. -/
lemma index_release (i : Uuid) (t : Time) (r : UserAvatarUpload) :
    index (.userAvatarUploads i) (UserAvatarUpload.release t r) ⊆ index (.userAvatarUploads i) r := by
  simp [index, UserAvatarUpload.release, indexedIf]

lemma release_not_error {q : Store Row → List Uuid}
    {f : Store Row → (i : Uuid) → Nat → UserAvatarUpload → Option (UserAvatarUpload × (String × Time))}
    {error e : ε} (hl : Coherent index l g) (hnd : ∀ s, (q s).Nodup)
    (hf : ∀ s i t r x, f s i t r = some x → x.1 = UserAvatarUpload.release t r) :
    ¬ Runs (contract publicBaseUrl ticks) (update Tables.userAvatarUploads q f error) l g (.error e) l' g' L G := by
  refine Runs.update_not_error hl hnd ?_
  intro s i t r r' a h
  have := hf s i t r (r', a) h
  dsimp only at this
  rw [this]
  exact index_release i t r

end Release

section Objects

/-- The table of object deletions is the only one that is written. -/
lemma touches_enqueueObjectDeletions {uploads : List (String × Time)} {defer : Bool} {error : ε} :
    (enqueueObjectDeletions uploads defer error).Touches fun k => ∃ i, k = .accountObjectDeletionIntents i :=
  touches_each fun _ _ => Touches.bind ⟨trivial, fun _ => trivial⟩ fun i => Touches.bind ⟨trivial, fun _ => trivial⟩
    fun _ => (touches_insertOrSkip ⟨i, rfl⟩).bind fun _ => trivial

lemma enqueueObjectDeletions_get {uploads : List (String × Time)} {defer : Bool} {error : ε} {u : Except ε Unit}
    (h : Runs (contract publicBaseUrl ticks) (enqueueObjectDeletions uploads defer error) l g u l' g' L G) {k : Key}
    (hk : ∀ i, k ≠ .accountObjectDeletionIntents i) (s : Store Row) : (s.apply l'.writes).get k = (s.apply l.writes).get k :=
  h.get_of_touches touches_enqueueObjectDeletions (fun ⟨i, hi⟩ => hk i hi) s

/-- An object that is already queued is skipped, and an intent has no parents. -/
lemma enqueueObjectDeletions_not_error {uploads : List (String × Time)} {defer : Bool} {error e : ε} :
    ¬ Runs (contract publicBaseUrl ticks) (enqueueObjectDeletions uploads defer error) l g (.error e) l' g' L G := by
  intro h
  refine h.failsIn (P := fun _ => False) (failsIn_each fun upload => ?_)
  exact failsIn_op.bind fun _ => failsIn_op.bind fun _ => FailsIn.bind (by
    intro x
    cases x <;> exact trivial) fun _ => trivial

lemma Released.enqueue {released : Bool} {uploads : List (String × Time)} {defer : Bool} {error : ε} {u : Unit}
    {l₀ : Local} (h : Released userId status released l₀ l G)
    (hrun : Runs (contract publicBaseUrl ticks) (enqueueObjectDeletions uploads defer error) l g (.ok u) l' g' L G) :
    Released userId status released l₀ l' G where
  row i r hr huser hstatus hreleased := by
    obtain ⟨t, ht⟩ := h.row i r hr huser hstatus hreleased
    exact ⟨t, fun s => (enqueueObjectDeletions_get (k := .userAvatarUploads i) hrun nofun s).trans (ht s)⟩
  other i hi s := (enqueueObjectDeletions_get (k := .userAvatarUploads i) hrun nofun s).trans (h.other i hi s)
  users s i := (enqueueObjectDeletions_get (k := .users i) hrun nofun s).trans (h.users s i)

end Objects

end JamyeServer.Avatars
