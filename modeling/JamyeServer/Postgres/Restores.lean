import JamyeServer.Postgres.Auth
import JamyeServer.ReadCommitted.Locked

/-!
# Looking for a deleted account to restore

The lookup tests the grace period when it scans its snapshot. It then locks the identity and the account, and only if
one of them has changed since the snapshot does it test them again. An account that it returns was inside its grace period
when it was last tested, and has not changed since.
-/

namespace JamyeServer.Postgres.Auth

open ReadCommitted Prog

variable {ε β ω : Type} {sys : ReadCommitted.System Row Nat Idx ε β ω} {C : Contract sys} {l l' L : Local Row Nat}
  {g g' G : ReadCommitted.Shared Row Nat β ω} {identity : NewProviderIdentity} {grace : Nat}

/-- The sign-in holds the deleted identity and its account, both as they were when it last tested them, at the time of `g`. -/
structure HoldsDeleted (C : Contract sys) (identity : NewProviderIdentity) (grace n : Nat)
    (g : ReadCommitted.Shared Row Nat β ω) (L : Local Row Nat) (G : ReadCommitted.Shared Row Nat β ω) (identityId : Uuid)
    (r : AuthIdentity) (u : User) : Prop where
  restorable : restorable identity grace g.now r u = true
  later : Later C g G
  identity : HeldSince C (.authIdentities identityId) n g r L G
  account : HeldSince C (.users r.userId) n g u L G

/-- The account was inside its grace period when it was tested. -/
lemma HoldsDeleted.deletedAt {n : Nat} {identityId : Uuid} {r : AuthIdentity} {u : User}
    (h : HoldsDeleted C identity grace n g L G identityId r u) : ∃ d, u.deletedAt = some d ∧ g.now < d + grace := by
  have hrest := h.restorable
  simp only [Auth.restorable, Bool.and_eq_true] at hrest
  obtain ⟨d, hd, hopen⟩ := (Option.any_eq_true _ _).mp hrest.2
  exact ⟨d, hd, of_decide_eq_true hopen⟩

/-- The lookup has passed over the identity: it was missing, or its account was, or they could not be restored when they
were tested. -/
def Unrestorable (C : Contract sys) (identity : NewProviderIdentity) (grace : Nat)
    (g G : ReadCommitted.Shared Row Nat β ω) (i : Uuid) : Prop :=
  (∃ m, g.csn ≤ m ∧ m ≤ G.csn ∧ (G.version m).get (.authIdentities i) = none) ∨
  (∃ m r, g.csn ≤ m ∧ m ≤ G.csn ∧ (G.version m).get (.authIdentities i) = some r ∧ (G.version m).get (.users r.userId) = none) ∨
  ∃ r u t, Clocked C g G t ∧ G.db.get (.authIdentities i) = some r ∧ G.db.get (.users r.userId) = some u ∧
    Auth.restorable identity grace t r u = false

lemma Unrestorable.mono {g₀ : ReadCommitted.Shared Row Nat β ω} {i : Uuid} (h : Unrestorable C identity grace g G i)
    (hg : Later C g₀ g) : Unrestorable C identity grace g₀ G i := by
  rcases h with ⟨m, hm, h⟩ | ⟨m, r, hm, h⟩ | ⟨r, u, t, ht, h⟩
  · exact .inl ⟨m, Nat.le_trans hg.csn_le hm, h⟩
  · exact .inr (.inl ⟨m, r, Nat.le_trans hg.csn_le hm, h⟩)
  · exact .inr (.inr ⟨r, u, t, ht.mono hg .refl, h⟩)

/-- The restore lookup, in the snapshot of commit count `n`, has ended without an account. -/
def NothingToRestore (C : Contract sys) (identity : NewProviderIdentity) (grace : Nat)
    (g : ReadCommitted.Shared Row Nat β ω) (n : Nat) (G : ReadCommitted.Shared Row Nat β ω) : Prop :=
  ∃ g₁ now, Later C g g₁ ∧ Later C g₁ G ∧ g₁.csn = n ∧ Clocked C g₁ G now ∧
    ∀ i ∈ restoreCandidates identity grace now (G.version n), Unrestorable C identity grace g₁ G i

lemma mem_restoreCandidates {now : Nat} {s : Store Row} {i : Uuid} :
    i ∈ restoreCandidates identity grace now s ↔ ∃ r u, s.get (.authIdentities i) = some r ∧
      s.get (.users r.userId) = some u ∧ restorable identity grace now r u = true := by
  unfold restoreCandidates
  simp only [List.mem_map, List.mem_insertionSort, Prod.exists, Prod.mk.injEq, exists_eq_right, Store.mem_ids,
    Option.any_eq_true_iff_get]
  constructor
  · rintro ⟨d, j, ⟨r, hr, hu, hrest⟩, -, rfl⟩
    exact ⟨r, _, hr, (Option.some_get hu).symm, hrest⟩
  · rintro ⟨r, u, hr, hu, hrest⟩
    exact ⟨_, i, ⟨r, hr, by simp [hu], by simpa [hu] using hrest⟩, rfl, rfl⟩

lemma restoreLock_frame {now : Nat} {id : Uuid} {x : Option (Uuid × Uuid)}
    (h : Runs C (restoreLock identity grace now id) l g (.ok x) l' g' L G) : l' = { l with locks := l'.locks } := by
  unfold restoreLock at h
  obtain ⟨y, l₁, g₁, h₁, h₂⟩ := h.bind
  obtain ⟨-, -, -, -, ⟨rfl, rfl⟩ | ⟨r, changed, rfl, rfl, -, -⟩⟩ := h₁.lock
  · rw [h₂.ret.2]
  obtain ⟨z, l₂, g₂, h₃, h₄⟩ := h₂.bind
  obtain ⟨-, -, -, -, ⟨rfl, rfl⟩ | ⟨u, changed', rfl, rfl, -, -⟩⟩ := h₃.lock
  · rw [h₄.ret.2]
  obtain ⟨t, l₃, g₃, h₅, h₆⟩ := h₄.bind
  rw [h₆.ret.2, h₅.reread.1]

/-- The scan has tested the grace period at the time of `g₁`, in the snapshot of commit count `n`. -/
lemma restoreLock_runs {id : Uuid} {x : Option (Uuid × Uuid)} {n : Nat} {g₁ : ReadCommitted.Shared Row Nat β ω}
    (hl : l.writes = []) (hn : l.snapshots.head? = some n) (hn₁ : n ≤ g₁.csn) (hg₁ : Later C g₁ g)
    (h : Runs C (restoreLock identity grace g₁.now id) l g (.ok x) l' g' L G) :
    (x = none → Unrestorable C identity grace g₁ G id) ∧
      ∀ p, x = some p → ∃ r u g₂, p = (id, r.userId) ∧ Later C g₁ g₂ ∧ Later C g₂ g' ∧
        HoldsDeleted C identity grace n g₂ L G id r u := by
  have hG : Later C g' G := h.rest.later
  unfold restoreLock at h
  obtain ⟨y, l₁, gi, h₁, h₂⟩ := h.bind
  have hgi : Later C gi g' := h₂.returns.evolve.later
  rcases h₁.lock_update hl with ⟨rfl, rfl, m, hm, hm', hmissing⟩ | ⟨r, gr, rfl, rfl, hgr, hgr', hrequest, hr, hev⟩
  · obtain ⟨rfl, rfl⟩ := h₂.ret
    refine ⟨fun _ => .inl ⟨m, ?_, ?_, hmissing⟩, nofun⟩
    · exact Nat.le_trans hg₁.csn_le hm
    · exact Nat.le_trans hm' (hgi.trans hG).csn_le
  obtain ⟨z, l₂, ga, h₃, h₄⟩ := h₂.bind
  have hga : Later C ga g' := h₄.returns.evolve.later
  have hl₁ : ({ l with locks := (.authIdentities id, .update) :: l.locks } : Local Row Nat).writes = [] := hl
  rcases h₃.lock_update hl₁ with ⟨rfl, rfl, m, hm, hm', hmissing⟩ | ⟨u, gu, rfl, rfl, hgu, hgu', hrequest', hu, hev'⟩
  · obtain ⟨rfl, rfl⟩ := h₄.ret
    have hmG : m ≤ G.csn := Nat.le_trans hm' (hga.trans hG).csn_le
    have hgrm : gr.csn ≤ m := Nat.le_trans hgr'.csn_le hm
    refine ⟨fun _ => .inr (.inl ⟨m, r, ?_, hmG, ?_, hmissing⟩), nofun⟩
    · exact Nat.le_trans (hg₁.trans hgr).csn_le hgrm
    · rw [hev.version_locked List.mem_cons_self nofun hgrm hmG, hr]
  obtain ⟨t, l₃, gt, h₅, h₆⟩ := h₄.bind
  obtain ⟨rfl, hcase⟩ := h₅.reread
  have hgt : Later C gt g' := h₆.returns.evolve.later
  obtain ⟨rfl, rfl⟩ := h₆.ret
  have hgru : Later C gr gu := hgr'.trans hgu
  -- the time of the last test, with the rows as they have been since
  obtain ⟨g₂, hg₂, hg₂', rfl, hidentity, haccount⟩ : ∃ g₂, Later C g₁ g₂ ∧ Later C g₂ g' ∧ t = g₂.now ∧
      (gr.csn ≤ g₂.csn ∨ gr.changedSince l (.authIdentities id) = false) ∧
      (gu.csn ≤ g₂.csn ∨ gu.changedSince { l with locks := (.authIdentities id, .update) :: l.locks } (.users r.userId) = false) := by
    rcases hcase with ⟨-, g₂, hg₂, hg₂', rfl⟩ | ⟨hunchanged, rfl⟩
    · refine ⟨g₂, ?_, hg₂'.trans hgt, rfl, .inl ?_, .inl ?_⟩
      · exact ((hg₁.trans hgr).trans hgru).trans (hgu'.trans hg₂)
      · exact (hgru.trans (hgu'.trans hg₂)).csn_le
      · exact (hgu'.trans hg₂).csn_le
    · obtain ⟨hidentity, haccount⟩ := Bool.or_eq_false_iff.mp hunchanged
      refine ⟨g₁, .refl, hg₁.trans h.returns.evolve.later, rfl, .inr hidentity, .inr haccount⟩
  have hn₂ : n ≤ g₂.csn := Nat.le_trans hn₁ hg₂.csn_le
  have hheldIdentity : HeldSince C (.authIdentities id) n g₂ r L G := ⟨hn₂, l, gr, hn, hrequest, hr, hidentity, hev⟩
  have hheldAccount : HeldSince C (.users r.userId) n g₂ u L G := ⟨hn₂, { l with locks := (.authIdentities id, .update) :: l.locks }, gu, hn, hrequest', hu, haccount, hev'⟩
  refine ⟨fun hx => .inr (.inr ⟨r, u, g₂.now, ⟨g₂, hg₂, hg₂'.trans hG, rfl⟩, hheldIdentity.db, hheldAccount.db, ?_⟩),
    fun p hp => ?_⟩
  · split at hx
    · cases hx
    · rename_i hrest
      exact Bool.eq_false_iff.mpr hrest
  · split at hp
    · rename_i hrest
      cases hp
      exact ⟨r, u, g₂, rfl, hg₂, hg₂', hrest, hg₂'.trans hG, hheldIdentity, hheldAccount⟩
    · cases hp

/-- The lookup of a transaction that has written nothing yet. -/
lemma identityRestoreLookup_runs {x : Option (Uuid × Uuid)} (hl : l.writes = [])
    (h : Runs C (identityRestoreLookup identity grace) l g (.ok x) l' g' L G) :
    ∃ n, l' = { l with snapshots := n :: l.snapshots, locks := l'.locks } ∧
      (x = none → NothingToRestore C identity grace g n G) ∧
      ∀ p, x = some p → ∃ id r u g₁, p = (id, r.userId) ∧ Later C g g₁ ∧ Later C g₁ g' ∧
        HoldsDeleted C identity grace n g₁ L G id r u := by
  have hG : Later C g' G := h.rest.later
  unfold identityRestoreLookup at h
  obtain ⟨s, l₁, g₁, h₁, hrest⟩ := h.bind
  obtain ⟨now, l₂, g₂, h₂, h₃⟩ := hrest.bind
  obtain ⟨gs, hgs, hgs', rfl, rfl⟩ := h₁.snapshot
  obtain ⟨rfl, gn, hgn, hgn', rfl, -⟩ := h₂.clock_evolve
  have hsn : Later C gs gn := hgs'.trans hgn
  have hg₂ : Later C g₂ g' := h₃.returns.evolve.later
  have hempty : (G.version gs.csn).apply l.writes = G.version gs.csn := by rw [hl, Store.apply_nil]
  rw [hempty] at h₃
  obtain ⟨hl', hcase⟩ := h₃.first (P := fun m => m = { l with snapshots := gs.csn :: l.snapshots, locks := m.locks })
    (fun b m k y m' k' hm hr => by rw [restoreLock_frame hr, hm]) rfl
  have hlookup := fun {b m k y m' k'} (hm : m = { l with snapshots := gs.csn :: l.snapshots, locks := m.locks })
      (hk : Later C g₂ k) (hr : Runs C (restoreLock identity grace gn.now b) m k (.ok y) m' k' L G) =>
    restoreLock_runs (n := gs.csn) (by rw [hm]; exact hl) (by rw [hm]; rfl) hsn.csn_le (hgn'.trans hk) hr
  refine ⟨gs.csn, hl', fun hx => ?_, fun p hp => ?_⟩
  · rcases hcase with ⟨b, -, a, m, k, m', k', hsome, -⟩ | ⟨-, hall⟩
    · rw [hx] at hsome
      cases hsome
    · refine ⟨gs, gn.now, hgs, hsn.trans (hgn'.trans (hg₂.trans hG)), rfl, ⟨gn, hsn, hgn'.trans (hg₂.trans hG), rfl⟩, ?_⟩
      intro i hi
      obtain ⟨m, k, m', k', hm, hk, hr, -⟩ := hall i hi
      exact ((hlookup hm hk hr).1 rfl).mono hsn
  · rcases hcase with ⟨b, -, a, m, k, m', k', hsome, hm, hk, hr, hk'⟩ | ⟨hnone, -⟩
    · rw [hp] at hsome
      cases hsome
      obtain ⟨r, u, g₃, hp, hg₃, hg₃', hholds⟩ := (hlookup hm hk hr).2 p rfl
      exact ⟨b, r, u, g₃, hp, (hgs.trans hsn).trans hg₃, hg₃'.trans hk', hholds⟩
    · rw [hp] at hnone
      cases hnone

end JamyeServer.Postgres.Auth
