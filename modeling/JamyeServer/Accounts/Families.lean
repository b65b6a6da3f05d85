import JamyeServer.Accounts.Commits
import Mathlib.Data.List.Chain

/-!
# Refresh families

The sessions of a family form one chain: a sign-in starts it and a refresh adds to its newest session,
which is the only one that is not consumed. A reused token revokes the sessions of its family that a
snapshot shows.
-/

namespace JamyeServer.Accounts

open ReadCommitted Postgres Auth

variable {settings : Settings} {ticks : Time → Time → Bool}

/-- The sessions of a family, the newest first: each comes from rotating the next one. -/
structure Chain (s : Store Row) (familyId : Uuid) (ids : List Uuid) : Prop where
  mem : ∀ i, i ∈ ids ↔ ∃ r, s.get (.refreshSessions i) = some r ∧ r.familyId = familyId
  nodup : ids.Nodup
  linked : ids.IsChain fun child parent =>
    ∃ r, s.get (.refreshSessions child) = some r ∧ r.parentSessionId = some parent
  root : ∃ i r, ids.getLast? = some i ∧ s.get (.refreshSessions i) = some r ∧ r.parentSessionId = none
  newest : ∃ i r, ids.head? = some i ∧ s.get (.refreshSessions i) = some r ∧ r.consumedAt = none
  consumed : ∀ i ∈ ids.tail, ∃ r, s.get (.refreshSessions i) = some r ∧ r.consumedAt ≠ none

/-- What a chain gives for the family: one root, one child at most, and one session to rotate. -/
structure OneChain (s : Store Row) (familyId : Uuid) : Prop where
  chain : ∃ ids, Chain s familyId ids
  root : ∃! i, ∃ r, s.get (.refreshSessions i) = some r ∧ r.familyId = familyId ∧ r.parentSessionId = none
  child : ∀ i j r r' parent, s.get (.refreshSessions i) = some r → s.get (.refreshSessions j) = some r' →
    r.parentSessionId = some parent → r'.parentSessionId = some parent → i = j
  parent : ∀ i r p, s.get (.refreshSessions i) = some r → r.familyId = familyId → r.parentSessionId = some p →
    ∃ r', s.get (.refreshSessions p) = some r' ∧ r'.familyId = familyId ∧ r'.consumedAt ≠ none
  unconsumed : ∃! i, ∃ r, s.get (.refreshSessions i) = some r ∧ r.familyId = familyId ∧ r.consumedAt = none

section Chains

variable {s s' : Store Row} {familyId : Uuid} {ids : List Uuid}

lemma isChain_last_or_next {α : Type} {R : α → α → Prop} {xs : List α} (h : xs.IsChain R) {x : α}
    (hx : x ∈ xs) : xs.getLast? = some x ∨ ∃ y ∈ xs.tail, R x y := by
  induction xs with
  | nil => cases hx
  | cons a xs ih =>
    cases xs with
    | nil =>
      obtain rfl : x = a := by simpa using hx
      exact .inl rfl
    | cons b xs =>
      obtain ⟨hab, hrest⟩ := List.isChain_cons_cons.mp h
      rcases List.mem_cons.mp hx with rfl | hx
      · exact .inr ⟨b, List.mem_cons_self, hab⟩
      · rcases ih hrest hx with hlast | ⟨y, hy, hR⟩
        · exact .inl (by simpa using hlast)
        · exact .inr ⟨y, List.mem_cons_of_mem _ hy, hR⟩

lemma Chain.oneChain (h : Chain s familyId ids) (hunique : Unique index s) : OneChain s familyId where
  chain := ⟨ids, h⟩
  root := by
    obtain ⟨i, r, hlast, hr, hroot⟩ := h.root
    obtain ⟨r', hr', hf⟩ := (h.mem i).mp (List.mem_of_getLast? hlast)
    obtain rfl : r' = r := Option.some.inj (hr'.symm.trans hr)
    refine ⟨i, ⟨r', hr, hf, hroot⟩, ?_⟩
    rintro j ⟨rj, hrj, hfj, hrootj⟩
    rcases isChain_last_or_next h.linked ((h.mem j).mpr ⟨rj, hrj, hfj⟩) with hj | ⟨y, -, r₁, hr₁, hp⟩
    · exact Option.some.inj (hj.symm.trans hlast)
    · obtain rfl : r₁ = rj := Option.some.inj (hr₁.symm.trans hrj)
      rw [hrootj] at hp
      cases hp
  child i j r r' p hr hr' hp hp' := by
    have hi : .sessionParent p ∈ entries index (.refreshSessions i) (s.get (.refreshSessions i)) := by
      simp [entries, hr, index, hp]
    have hj : .sessionParent p ∈ entries index (.refreshSessions j) (s.get (.refreshSessions j)) := by
      simp [entries, hr', index, hp']
    simpa using hunique _ _ _ hi hj
  parent i r p hr hf hp := by
    rcases isChain_last_or_next h.linked ((h.mem i).mpr ⟨r, hr, hf⟩) with hlast | ⟨y, hy, r₁, hr₁, hp₁⟩
    · obtain ⟨j, r₁, hlast', hr₁, hroot⟩ := h.root
      obtain rfl : j = i := Option.some.inj (hlast'.symm.trans hlast)
      obtain rfl : r₁ = r := Option.some.inj (hr₁.symm.trans hr)
      rw [hroot] at hp
      cases hp
    · obtain rfl : r₁ = r := Option.some.inj (hr₁.symm.trans hr)
      obtain rfl : y = p := Option.some.inj (hp₁.symm.trans hp)
      obtain ⟨r', hr', hc⟩ := h.consumed y hy
      obtain ⟨r₂, hr₂, hf₂⟩ := (h.mem y).mp (List.mem_of_mem_tail hy)
      obtain rfl : r₂ = r' := Option.some.inj (hr₂.symm.trans hr')
      exact ⟨r₂, hr', hf₂, hc⟩
  unconsumed := by
    obtain ⟨i, r, hhead, hr, hc⟩ := h.newest
    obtain ⟨r', hr', hf⟩ := (h.mem i).mp (List.mem_of_head? hhead)
    obtain rfl : r' = r := Option.some.inj (hr'.symm.trans hr)
    refine ⟨i, ⟨r', hr, hf, hc⟩, ?_⟩
    rintro j ⟨rj, hrj, hfj, hcj⟩
    have hj : j ∈ ids := (h.mem j).mpr ⟨rj, hrj, hfj⟩
    cases ids with
    | nil => cases hhead
    | cons a ids =>
      obtain rfl : a = i := by simpa using hhead
      rcases List.mem_cons.mp hj with rfl | hj
      · rfl
      · obtain ⟨r₁, hr₁, hc₁⟩ := h.consumed j hj
        obtain rfl : r₁ = rj := Option.some.inj (hr₁.symm.trans hrj)
        exact absurd hcj hc₁

/-- `r'` has the place of `r` in its family. -/
structure SamePlace (r r' : RefreshSession) : Prop where
  familyId : r'.familyId = r.familyId
  parentSessionId : r'.parentSessionId = r.parentSessionId
  consumedAt : r'.consumedAt = none ↔ r.consumedAt = none

/-- A family whose sessions keep their places keeps its chain. -/
lemma Chain.transfer (h : Chain s familyId ids)
    (hkeep : ∀ i r, s.get (.refreshSessions i) = some r → r.familyId = familyId →
      ∃ r', s'.get (.refreshSessions i) = some r' ∧ SamePlace r r')
    (hold : ∀ i r', s'.get (.refreshSessions i) = some r' → r'.familyId = familyId →
      ∃ r, s.get (.refreshSessions i) = some r ∧ r.familyId = familyId) : Chain s' familyId ids := by
  have hmember : ∀ i r, i ∈ ids → s.get (.refreshSessions i) = some r →
      ∃ r', s'.get (.refreshSessions i) = some r' ∧ SamePlace r r' := by
    intro i r hi hr
    obtain ⟨r₁, hr₁, hf⟩ := (h.mem i).mp hi
    obtain rfl : r₁ = r := Option.some.inj (hr₁.symm.trans hr)
    exact hkeep i r₁ hr hf
  refine ⟨fun i => ⟨fun hi => ?_, fun hi => ?_⟩, h.nodup, ?_, ?_, ?_, fun i hi => ?_⟩
  · obtain ⟨r, hr, hf⟩ := (h.mem i).mp hi
    obtain ⟨r', hr', hplace⟩ := hkeep i r hr hf
    exact ⟨r', hr', hplace.familyId.trans hf⟩
  · obtain ⟨r', hr', hf⟩ := hi
    exact (h.mem i).mpr (hold i r' hr' hf)
  · refine List.IsChain.imp_of_mem_imp ?_ h.linked
    rintro i j hi - ⟨r, hr, hp⟩
    obtain ⟨r', hr', hplace⟩ := hmember i r hi hr
    exact ⟨r', hr', hplace.parentSessionId.trans hp⟩
  · obtain ⟨i, r, hlast, hr, hroot⟩ := h.root
    obtain ⟨r', hr', hplace⟩ := hmember i r (List.mem_of_getLast? hlast) hr
    exact ⟨i, r', hlast, hr', hplace.parentSessionId.trans hroot⟩
  · obtain ⟨i, r, hhead, hr, hc⟩ := h.newest
    obtain ⟨r', hr', hplace⟩ := hmember i r (List.mem_of_head? hhead) hr
    exact ⟨i, r', hhead, hr', hplace.consumedAt.mpr hc⟩
  · obtain ⟨r, hr, hc⟩ := h.consumed i hi
    obtain ⟨r', hr', hplace⟩ := hmember i r (List.mem_of_mem_tail hi) hr
    exact ⟨r', hr', fun hn => hc (hplace.consumedAt.mp hn)⟩

/-- Every session lies in the chain of its family. -/
def Chained (s : Store Row) : Prop :=
  ∀ i r, s.get (.refreshSessions i) = some r → ∃ ids, Chain s r.familyId ids

lemma SessionIssued.chained {ran : Local Row Nat} {sessionId : Uuid} {row : RefreshSession}
    (h : SessionIssued s s' ran sessionId row) (hs : Chained s) : Chained s' := by
  intro i r' hr'
  by_cases hi : i = sessionId
  · -- the chain of the new family
    subst hi
    obtain rfl : row = r' := Option.some.inj (h.inserted.symm.trans hr')
    refine ⟨[i], fun j => ⟨fun hj => ?_, fun hj => ?_⟩, by simp, by simp, ⟨i, row, rfl, hr', h.root⟩,
      ⟨i, row, rfl, hr', h.consumedAt⟩, by simp⟩
    · obtain rfl : j = i := by simpa using hj
      exact ⟨row, hr', rfl⟩
    · obtain ⟨r, hr, hf⟩ := hj
      by_contra hne
      rw [h.only j (by simpa using hne)] at hr
      exact h.newFamily j r hr hf
  · have hr : s.get (.refreshSessions i) = some r' := (h.only i hi).symm.trans hr'
    obtain ⟨ids, hids⟩ := hs i r' hr
    refine ⟨ids, hids.transfer (fun j r hj _ => ?_) fun j r hj hf => ?_⟩
    · have hne : j ≠ sessionId := by
        rintro rfl
        rw [h.absent] at hj
        cases hj
      exact ⟨r, (h.only j hne).trans hj, rfl, rfl, Iff.rfl⟩
    · have hne : j ≠ sessionId := by
        rintro rfl
        obtain rfl : row = r := Option.some.inj (h.inserted.symm.trans hj)
        exact h.newFamily i r' hr hf.symm
      exact ⟨r, (h.only j hne).symm.trans hj, hf⟩

/-- The consumed session was the newest of its family, and its child is the newest now. -/
lemma SessionRotated.chain {ran : Local Row Nat} {parentId childId : Uuid} {parent child : RefreshSession}
    (h : SessionRotated s s' ran parentId childId parent child) (hchain : Chain s parent.familyId ids) :
    Chain s' parent.familyId (childId :: ids) := by
  obtain ⟨now, hconsumed⟩ := h.consumed
  have hne : ∀ i r, s.get (.refreshSessions i) = some r → i ≠ childId := by
    rintro i r hr rfl
    rw [h.absent] at hr
    cases hr
  have hmem : parentId ∈ ids := (hchain.mem parentId).mpr ⟨parent, h.locked, rfl⟩
  obtain ⟨rest, rfl⟩ : ∃ rest, ids = parentId :: rest := by
    cases ids with
    | nil => cases hmem
    | cons a rest =>
      rcases List.mem_cons.mp hmem with rfl | hmem
      · exact ⟨rest, rfl⟩
      · obtain ⟨r, hr, hc⟩ := hchain.consumed parentId hmem
        obtain rfl : r = parent := Option.some.inj (hr.symm.trans h.locked)
        exact absurd h.unconsumed hc
  have hkeep : ∀ i r, i ≠ parentId → s.get (.refreshSessions i) = some r → s'.get (.refreshSessions i) = some r :=
    fun i r hi hr => (h.only i hi (hne i r hr)).trans hr
  -- every session of the family keeps its parent
  have hrow : ∀ i r, s.get (.refreshSessions i) = some r → ∃ r', s'.get (.refreshSessions i) = some r' ∧
      r'.familyId = r.familyId ∧ r'.parentSessionId = r.parentSessionId := by
    intro i r hr
    by_cases hi : i = parentId
    · subst hi
      obtain rfl : r = parent := Option.some.inj (hr.symm.trans h.locked)
      exact ⟨_, hconsumed, rfl, rfl⟩
    · exact ⟨r, hkeep i r hi hr, rfl, rfl⟩
  refine ⟨fun i => ⟨fun hi => ?_, fun hi => ?_⟩, ?_, ?_, ?_, ⟨childId, child, rfl, h.inserted, h.consumedAt⟩,
    fun i hi => ?_⟩
  · rcases List.mem_cons.mp hi with rfl | hi
    · exact ⟨child, h.inserted, h.childFamily⟩
    · obtain ⟨r, hr, hf⟩ := (hchain.mem i).mp hi
      obtain ⟨r', hr', hf', -⟩ := hrow i r hr
      exact ⟨r', hr', hf'.trans hf⟩
  · obtain ⟨r', hr', hf⟩ := hi
    by_cases hc : i = childId
    · exact hc ▸ List.mem_cons_self
    · refine List.mem_cons_of_mem _ ?_
      by_cases hp : i = parentId
      · exact hp ▸ hmem
      · exact (hchain.mem i).mpr ⟨r', (h.only i hp hc).symm.trans hr', hf⟩
  · refine List.nodup_cons.mpr ⟨fun hc => ?_, hchain.nodup⟩
    obtain ⟨r, hr, -⟩ := (hchain.mem childId).mp hc
    exact hne childId r hr rfl
  · refine List.isChain_cons_cons.mpr ⟨⟨child, h.inserted, h.childParent⟩, ?_⟩
    refine List.IsChain.imp_of_mem_imp ?_ hchain.linked
    rintro i j - - ⟨r, hr, hp⟩
    obtain ⟨r', hr', -, hp'⟩ := hrow i r hr
    exact ⟨r', hr', hp'.trans hp⟩
  · obtain ⟨i, r, hlast, hr, hroot⟩ := hchain.root
    obtain ⟨r', hr', -, hp'⟩ := hrow i r hr
    exact ⟨i, r', by simpa using hlast, hr', hp'.trans hroot⟩
  · rcases List.mem_cons.mp hi with rfl | hrest
    · exact ⟨_, hconsumed, nofun⟩
    · have hp : i ≠ parentId := by
        rintro rfl
        exact (List.nodup_cons.mp hchain.nodup).1 hrest
      obtain ⟨r, hr, hc⟩ := hchain.consumed i hrest
      exact ⟨r, hkeep i r hp hr, hc⟩

lemma SessionRotated.chained {ran : Local Row Nat} {parentId childId : Uuid} {parent child : RefreshSession}
    (h : SessionRotated s s' ran parentId childId parent child) (hs : Chained s) : Chained s' := by
  obtain ⟨ids, hids⟩ := hs parentId parent h.locked
  have hnew := h.chain hids
  intro i r' hr'
  by_cases hf : r'.familyId = parent.familyId
  · exact ⟨childId :: ids, hf ▸ hnew⟩
  · have hc : i ≠ childId := by
      rintro rfl
      obtain rfl : child = r' := Option.some.inj (h.inserted.symm.trans hr')
      exact hf h.childFamily
    have hp : i ≠ parentId := by
      rintro rfl
      obtain ⟨now, hconsumed⟩ := h.consumed
      obtain rfl := Option.some.inj (hconsumed.symm.trans hr')
      exact hf rfl
    obtain ⟨ids', hids'⟩ := hs i r' ((h.only i hp hc).symm.trans hr')
    refine ⟨ids', hids'.transfer (fun j r hj hjf => ?_) fun j r hj hjf => ?_⟩
    · have hjc : j ≠ childId := by
        rintro rfl
        rw [h.absent] at hj
        cases hj
      have hjp : j ≠ parentId := by
        rintro rfl
        obtain rfl : r = parent := Option.some.inj (hj.symm.trans h.locked)
        exact hf hjf.symm
      exact ⟨r, (h.only j hjp hjc).trans hj, rfl, rfl, Iff.rfl⟩
    · have hjc : j ≠ childId := by
        rintro rfl
        obtain rfl : child = r := Option.some.inj (h.inserted.symm.trans hj)
        exact hf (hjf.symm.trans h.childFamily)
      have hjp : j ≠ parentId := by
        rintro rfl
        obtain ⟨now, hconsumed⟩ := h.consumed
        obtain rfl := Option.some.inj (hconsumed.symm.trans hj)
        exact hf hjf.symm
      exact ⟨r, (h.only j hjp hjc).symm.trans hj, hjf⟩

lemma SessionsRevoked.chained (h : SessionsRevoked s s') (hs : Chained s) : Chained s' := by
  have hback : ∀ i r', s'.get (.refreshSessions i) = some r' → ∃ r, s.get (.refreshSessions i) = some r ∧
      SamePlace r r' := by
    intro i r' hr'
    rcases h i with hsame | ⟨r, r₁, hr, hr₁, hrev⟩
    · exact ⟨r', hsame.symm.trans hr', rfl, rfl, Iff.rfl⟩
    · obtain rfl : r₁ = r' := Option.some.inj (hr₁.symm.trans hr')
      exact ⟨r, hr, hrev.familyId, hrev.parentSessionId, by rw [hrev.consumedAt]⟩
  intro i r' hr'
  obtain ⟨r, hr, hplace⟩ := hback i r' hr'
  obtain ⟨ids, hids⟩ := hs i r hr
  refine ⟨ids, ?_⟩
  rw [hplace.familyId]
  refine hids.transfer (fun j rj hj _ => ?_) fun j rj hj hf => ?_
  · rcases h j with hsame | ⟨r₀, r₁, hr₀, hr₁, hrev⟩
    · exact ⟨rj, hsame.trans hj, rfl, rfl, Iff.rfl⟩
    · obtain rfl : r₀ = rj := Option.some.inj (hr₀.symm.trans hj)
      exact ⟨r₁, hr₁, hrev.familyId, hrev.parentSessionId, by rw [hrev.consumedAt]⟩
  · obtain ⟨r₀, hr₀, hplace₀⟩ := hback j rj hj
    exact ⟨r₀, hr₀, hplace₀.familyId.symm.trans hf⟩

lemma SessionStep.chained {ran : Local Row Nat} (h : SessionStep s s' ran) (hs : Chained s) : Chained s' := by
  cases h with
  | issue sessionId row h => exact h.chained hs
  | rotate parentId childId parent child h => exact h.chained hs
  | revoke h => exact h.chained hs

end Chains

/-- The commit at position `k` rotates the token. -/
def RotatesToken (g : Shared) (k tokenHash : Nat) : Prop :=
  ∃ e now issued, g.log[k]? = some e ∧ e.job = .refresh tokenHash now ∧ e.out = .refreshed (.rotated issued)

section Histories

variable {C : Contract (system settings ticks)} {g : Shared}

lemma Fits.rotated (hC : Fits C) (h : History C g) {k tokenHash : Nat} (hk : RotatesToken g k tokenHash) :
    ∃ e g₁ parentId childId parent child n u, g.log[k]? = some e ∧ g₁.csn = k ∧ History C g₁ ∧
      Later C (g₁.commit e) g ∧ Rotated tokenHash e.ran g₁ parentId childId parent child n u := by
  obtain ⟨e, now, issued, he, hjob, hout⟩ := hk
  obtain ⟨g₁, hg₁, hcsn, hc, hlater⟩ := h.entry he
  obtain ⟨token, time, parentId, parent, child, n, u, hjob', hrot, -⟩ := (hC.ok _ _ hc.ok).rotated hout
  rw [hjob] at hjob'
  cases hjob'
  exact ⟨e, g₁, parentId, issued.sessionId, parent, child, n, u, he, hcsn, hg₁, hlater, hrot⟩

/-- A token that was rotated stays consumed, so it does not rotate again. -/
lemma Fits.rotates_once (hC : Fits C) (h : History C g) {j k tokenHash : Nat} (hjk : j < k)
    (hj : RotatesToken g j tokenHash) (hk : RotatesToken g k tokenHash) : False := by
  obtain ⟨e, g₁, p, c, parent, child, n, u, -, rfl, -, hlater, hrot⟩ := hC.rotated h hj
  obtain ⟨e', g₂, p', c', parent', child', n', u', he', rfl, hg₂, hlater', hrot'⟩ := hC.rotated h hk
  obtain ⟨now, hconsumed⟩ := hrot.rotated.consumed
  have hk' : g₂.csn ≤ g.csn := Nat.le_of_lt (List.getElem?_eq_some_iff.mp he').1
  rw [← hlater.version_commit.2] at hconsumed
  obtain ⟨r, hr, hages⟩ := hC.ages h hjk hk' hconsumed
  rw [hlater'.version_commit.1] at hr
  -- the token belongs to one session
  have htoken : .sessionToken tokenHash ∈ entries index (.refreshSessions p) (g₂.db.get (.refreshSessions p)) := by
    have ht : r.tokenHash = tokenHash := hages.tokenHash.trans hrot.token
    simp [entries, hr, index, ht]
  have htoken' : .sessionToken tokenHash ∈ entries index (.refreshSessions p') (g₂.db.get (.refreshSessions p')) := by
    simp [entries, hrot'.rotated.locked, index, hrot'.token]
  obtain rfl : p = p' := by simpa using hg₂.unique _ _ _ htoken htoken'
  obtain rfl : r = parent' := Option.some.inj (hr.symm.trans hrot'.rotated.locked)
  exact hages.consumedAt (Option.some_ne_none _) hrot'.rotated.unconsumed

end Histories

/-- A server that starts with chained families. -/
structure StartsChained (g : Shared) : Prop extends Starts g where
  chained : Chained g.init

/-- In every state of every run the sessions of each family form one chain, and no token is rotated
twice. -/
theorem families_chained {s : State} (h : (system settings ticks).Reachable StartsChained s) :
    (∀ i r, s.shared.db.get (.refreshSessions i) = some r → OneChain s.shared.db r.familyId) ∧
      ∀ j k tokenHash, RotatesToken s.shared j tokenHash → RotatesToken s.shared k tokenHash → j = k := by
  have hinit : ∀ g, StartsChained g → Starts g := fun _ hg => hg.toStarts
  have hist : History (contract settings ticks StartsChained hinit fun _ _ => True) s.shared := reachable_history h
  have hfits : Fits (contract settings ticks StartsChained hinit fun _ _ => True) := fits_contract
  constructor
  · have hchained : Chained s.shared.db := hist.invariant (fun g₀ hg₀ => hg₀.chained) fun g₁ e _ hc hs =>
      (hfits.ok _ _ hc.ok).sessionStep.chained hs
    intro i r hr
    obtain ⟨ids, hids⟩ := hchained i r hr
    exact hids.oneChain hist.unique
  · intro j k tokenHash hj hk
    rcases Nat.lt_trichotomy j k with hlt | heq | hgt
    · exact (hfits.rotates_once hist hlt hj hk).elim
    · exact heq
    · exact (hfits.rotates_once hist hgt hk hj).elim

/-- A sign-in, a rotation of its token and two rotations of the next one that run at the same time. -/
def rotationSchedule : List (Label Job) := List.flatten [
  [.start 1 (.exchange ⟨"google", "principal", "nickname", none⟩ 0)], Label.requests 1 10 19, [.commit 1],
  [.start 2 (.refresh 10 0)], Label.requests 2 30 14, [.commit 2],
  [.start 3 (.refresh 30 0)], [.start 4 (.refresh 30 0)], Label.requests 3 50 14, Label.requests 4 70 3, [.commit 3]]

theorem families_chained_after_rotations : ∃ s : State,
    (system sampleSettings fun _ _ => true).Reachable StartsChained s ∧ RotatesToken s.shared 2 30 ∧
      OneChain s.shared.db 12 ∧ ∀ k, RotatesToken s.shared k 30 → k = 2 := by
  have hrun : ((system sampleSettings fun _ _ => true).run ⟨emptyServer, []⟩ rotationSchedule).map
      (fun s => ((outcomes s.shared)[2]?, (s.shared.db.get (.refreshSessions 51)).map fun r => r.familyId)) =
      some (some (.refresh 30 0, .refreshed (.rotated ⟨16, 51⟩)), some 12) := by
    decide
  obtain ⟨s, hs, hend⟩ := Option.map_eq_some_iff.mp hrun
  simp only [Prod.mk.injEq, Option.map_eq_some_iff] at hend
  obtain ⟨hlog, r, hr, hf⟩ := hend
  obtain ⟨e, he, hjob, hout⟩ := entry_of_outcomes hlog
  have hstart : StartsChained emptyServer := { starts_empty with chained := nofun }
  have hreach := (system sampleSettings fun _ _ => true).reachable_of_run hstart hs
  have htwo : RotatesToken s.shared 2 30 := ⟨e, 0, _, he, hjob, hout⟩
  have hmain := families_chained hreach
  exact ⟨s, hreach, htwo, hf ▸ hmain.1 51 r hr, fun k hk => hmain.2 k 2 30 hk htwo⟩

end JamyeServer.Accounts
