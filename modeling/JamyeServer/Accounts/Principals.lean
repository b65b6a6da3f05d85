import JamyeServer.Accounts.GracePeriod
import JamyeServer.Accounts.Errors

/-!
# Accounts of one principal

A sign-in looks for a deleted account to restore and then, in another snapshot, for a live one. Among
the accounts of a principal only the one that was created last is live or can still be restored, as long
as no account of the principal is deleted between the two and no account is added while a restore is
under way, from the snapshot in which it has found the deleted account on.
-/

namespace JamyeServer.Accounts

open ReadCommitted Postgres Auth AccountDeletion

variable {settings : Settings} {grace : Nat}

/-- A clock that does not go back. -/
def forward (t t' : Time) : Bool := decide (t ≤ t')

structure SamePrincipal (r r' : AuthIdentity) : Prop where
  provider : r.provider = r'.provider
  providerId : r.providerId = r'.providerId

lemma SamePrincipal.symm {r r' : AuthIdentity} (h : SamePrincipal r r') : SamePrincipal r' r :=
  ⟨h.provider.symm, h.providerId.symm⟩

/-- The account is live or still inside its grace period. -/
def InUse (grace now : Nat) (u : User) : Prop := ∀ t, u.deletedAt = some t → now < t + grace

/-- At most one account of each principal is live or still inside its grace period. -/
def OneAccount (grace : Nat) (g : Shared) : Prop :=
  ∀ i j r r' u u', g.db.get (.authIdentities i) = some r → g.db.get (.authIdentities j) = some r' →
    SamePrincipal r r' → g.db.get (.users r.userId) = some u → g.db.get (.users r'.userId) = some u' →
    InUse grace g.now u → InUse grace g.now u' → r.userId = r'.userId

/-- No sign-in fails because the identity that it restores is live under another account. -/
def RestoresSucceed (s : State) : Prop :=
  ∀ t ∈ s.txs, t.prog ≠ .fail (.auth (.databaseUnavailable "identity_restore"))

/-- Every way to sign in is open: the identities that can be restored collide with no live one, and when
there is no live account, no live identity is in the way of a new one. -/
def SignInOpen (grace : Nat) (g : Shared) : Prop :=
  ∀ identity,
    (∀ i ∈ restoreCandidates identity grace g.now g.db, ∀ r, g.db.get (.authIdentities i) = some r →
      violation index g.db (.authIdentities i)
        (entries index (.authIdentities i) (some (AuthIdentity.restore r))) = none) ∧
    (identityLookup identity g.db = none → ∀ i r, g.db.get (.authIdentities i) = some r →
      r.provider = identity.provider → r.providerId = identity.providerId → r.deletedAt ≠ none)

/-- The transaction is about to add an identity. -/
def AddsIdentity (e : Entry) (g : Shared) (i : Uuid) (r : AuthIdentity) : Prop :=
  g.db.get (.authIdentities i) = none ∧ (g.view e.ran).get (.authIdentities i) = some r

/-- A sign-in adds an identity only if no account of the principal was deleted since its first snapshot,
in which it has looked for an account to restore. -/
def NoDeletionSince (e : Entry) (g : Shared) : Prop :=
  ∀ i r n k e' userId j r', AddsIdentity e g i r → e.ran.snapshots.getLast? = some n → n ≤ k →
    g.log[k]? = some e' → e'.job = .deleteAccount userId →
    (g.version k).get (.authIdentities j) = some r' → SamePrincipal r r' → r'.userId ≠ userId

/-- A sign-in adds an identity only while the transaction beside it does not hold a deleted identity of
the principal for a restore. -/
def NoRestoreBeside (l : Local Row Nat) (e : Entry) (g : Shared) : Prop :=
  ∀ i r j r', AddsIdentity e g i r → (.authIdentities j, .update) ∈ l.locks →
    g.db.get (.authIdentities j) = some r' → r'.deletedAt ≠ none → ¬ SamePrincipal r r'

/-- The transaction locks a deleted identity only if no other one of the principal was added since the snapshot in which
it has found the identity. -/
def NoAddSince (l : Local Row Nat) (j : Uuid) (g : Shared) : Prop :=
  ∀ n r i r', l.snapshots.head? = some n → g.db.get (.authIdentities j) = some r → r.deletedAt ≠ none →
    g.db.get (.authIdentities i) = some r' → SamePrincipal r r' → (g.version n).get (.authIdentities i) ≠ none

/-- Identity `i` was there before identity `j`. -/
def Before (g : Shared) (i j : Uuid) : Prop :=
  ∃ n, n ≤ g.csn ∧ (g.version n).get (.authIdentities i) ≠ none ∧ (g.version n).get (.authIdentities j) = none

/-- An identity is restored only if no other one of the principal came after it, and added only if no
other account of the principal is in use. -/
structure Exclusive (grace : Nat) (e : Entry) (g : Shared) : Prop where
  restored : ∀ i r r', g.db.get (.authIdentities i) = some r →
    (g.view e.ran).get (.authIdentities i) = some r' → r.deletedAt ≠ none → r'.deletedAt = none →
    ∀ j s, g.db.get (.authIdentities j) = some s → SamePrincipal r s → ¬ Before g i j
  added : ∀ i r, AddsIdentity e g i r → ∀ j s u, g.db.get (.authIdentities j) = some s → SamePrincipal r s →
    g.db.get (.users s.userId) = some u → ¬ InUse grace g.now u

/-- A server at its start, with at most one identity for each principal. -/
structure StartsSingle (g : Shared) : Prop extends Starts g where
  single : ∀ i j r r', g.init.get (.authIdentities i) = some r → g.init.get (.authIdentities j) = some r' →
    SamePrincipal r r' → i = j

def principalContract (settings : Settings) : Contract (system settings forward) where
  Init := StartsSingle
  log_init _ hg := hg.log
  unique_init _ hg := hg.unique
  Ok e g := Ok settings e g ∧ (NoDeletionSince e g → Exclusive settings.accountPurgeGrace e g)
  Assume := NoDeletionSince
  Guard := NoRestoreBeside
  Request o l g := ∀ j, o = .lock (.authIdentities j) .update → NoAddSince l j g
  Fails _ error := error ≠ .auth (.databaseUnavailable "identity_restore")

lemma fits_principalContract : Fits (principalContract settings) :=
  ⟨fun _ _ h => h.1, fun _ hg => hg.wellFormed⟩

lemma InUse.later {now now' : Nat} {u : User} (h : InUse grace now' u) (hnow : now ≤ now') : InUse grace now u := by
  intro t ht
  have := h t ht
  omega

lemma inUse_of_live {now : Nat} {u : User} (h : u.deletedAt = none) : InUse grace now u := by
  intro t ht
  rw [h] at ht
  cases ht

lemma inUse_of_restorable {identity : NewProviderIdentity} {now : Nat} {r : AuthIdentity} {u : User}
    (h : restorable identity grace now r u = true) : InUse grace now u := by
  intro t ht
  simp only [restorable, ht, Option.any_some, Bool.and_eq_true, decide_eq_true_eq] at h
  exact h.2

lemma restorable_deleted {identity : NewProviderIdentity} {now : Nat} {r : AuthIdentity} {u : User}
    (h : restorable identity grace now r u = true) : r.deletedAt ≠ none := by
  simp only [restorable, Bool.and_eq_true] at h
  exact Option.isSome_iff_ne_none.mp h.1.2

section Order

variable {C : Contract (system settings forward)} {g : Shared} {i j : Uuid}

/-- An identity that is not there was not there before. -/
lemma Fits.identity_absent (hC : Fits C) (h : History C g) {n m : Nat} (hnm : n ≤ m) (hm : m ≤ g.csn)
    (hi : (g.version m).get (.authIdentities i) = none) : (g.version n).get (.authIdentities i) = none := by
  by_contra hne
  obtain ⟨r, hr⟩ := Option.ne_none_iff_exists'.mp hne
  obtain ⟨r', hr', -⟩ := hC.identity_stays h hnm hm hr
  rw [hi] at hr'
  cases hr'

/-- Of two identities of a principal, one came first. -/
lemma before_or_before (h : History (principalContract settings) g) {r r' : AuthIdentity}
    (hi : g.db.get (.authIdentities i) = some r) (hj : g.db.get (.authIdentities j) = some r')
    (hsame : SamePrincipal r r') (hne : i ≠ j) : Before g i j ∨ Before g j i := by
  have hC : Fits (principalContract settings) := fits_principalContract
  by_contra hnot
  have hiff : ∀ n, n ≤ g.csn → ((g.version n).get (.authIdentities i) = none ↔
      (g.version n).get (.authIdentities j) = none) := by
    intro n hn
    constructor
    · intro hin
      by_contra hjn
      exact hnot (.inr ⟨n, hn, hjn, hin⟩)
    · intro hjn
      by_contra hin
      exact hnot (.inl ⟨n, hn, hin, hjn⟩)
  have hfirst : (g.version 0).get (.authIdentities i) = none := by
    by_contra hin
    obtain ⟨r₀, hr₀⟩ := Option.ne_none_iff_exists'.mp hin
    obtain ⟨r₁, hr₁⟩ := Option.ne_none_iff_exists'.mp fun hjn => hin ((hiff 0 (Nat.zero_le _)).mpr hjn)
    obtain ⟨s₀, hs₀, -, hp₀, hq₀⟩ := hC.identity_stays h (Nat.zero_le _) (Nat.le_refl _) hr₀
    obtain ⟨s₁, hs₁, -, hp₁, hq₁⟩ := hC.identity_stays h (Nat.zero_le _) (Nat.le_refl _) hr₁
    obtain rfl : s₀ = r := Option.some.inj (hs₀.symm.trans hi)
    obtain rfl : s₁ = r' := Option.some.inj (hs₁.symm.trans hj)
    obtain ⟨g₀, hg₀, hl⟩ := h.later
    have hinit : g.version 0 = g₀.init := by simp [Shared.version, hl.init_eq]
    rw [hinit] at hr₀ hr₁
    refine hne (hg₀.single i j r₀ r₁ hr₀ hr₁ ⟨?_, ?_⟩)
    · rw [← hp₀, ← hp₁, hsame.provider]
    · rw [← hq₀, ← hq₁, hsame.providerId]
  have hlast : ¬ (g.version g.csn).get (.authIdentities i) = none := by
    intro hnone
    change g.db.get _ = none at hnone
    rw [hi] at hnone
    cases hnone
  -- the commit that adds one of them adds the other one too
  obtain ⟨e, g₁, -, hg₁, -, -, hc, hbefore, hafter, hlater⟩ :=
    h.commit_of_change (P := fun s => s.get (.authIdentities i) = none) (Nat.zero_le _) (Nat.le_refl _) hfirst hlast
  have hbefore' := (hiff g₁.csn (Nat.le_of_lt hg₁)).mp (by rw [hlater.version_commit.1]; exact hbefore)
  have hafter' : (g₁.view e.ran).get (.authIdentities j) ≠ none := by
    intro hjn
    rw [← hlater.version_commit.2] at hjn hafter
    exact hafter ((hiff (g₁.csn + 1) hg₁).mpr hjn)
  rw [hlater.version_commit.1] at hbefore'
  obtain ⟨s, hs⟩ := Option.ne_none_iff_exists'.mp hafter
  obtain ⟨s', hs'⟩ := Option.ne_none_iff_exists'.mp hafter'
  exact hne ((hC.ok _ _ hc.ok).accountStep.new_identity hbefore hbefore' hs hs')

end Order

/-- The accounts of identities before which another one of the principal came are not in use. -/
def Superseded (grace : Nat) (g : Shared) : Prop :=
  ∀ i j r r' u, g.db.get (.authIdentities i) = some r → g.db.get (.authIdentities j) = some r' →
    SamePrincipal r r' → Before g i j → g.db.get (.users r.userId) = some u → ¬ InUse grace g.now u

section Invariant

variable {g : Shared}

lemma Superseded.commit {e : Entry} (hq : Superseded settings.accountPurgeGrace g)
    (h : History (principalContract settings) g) (hc : Commits (principalContract settings) e g) :
    Superseded settings.accountPurgeGrace (g.commit e) := by
  have hC : Fits (principalContract settings) := fits_principalContract
  have hok := hC.ok _ _ hc.ok
  have hw := hC.wellFormed h
  have hw' := hC.wellFormed (h.commit hc)
  intro i j r r' u hi hj hsame hbefore hu huse
  obtain ⟨n, hn, hin, hjn⟩ := hbefore
  have hn' : n ≤ g.csn := by
    by_contra hlt
    obtain rfl : n = (g.commit e).csn := by
      rw [Shared.csn_commit] at hn ⊢
      omega
    change (g.commit e).db.get _ = none at hjn
    rw [hj] at hjn
    cases hjn
  rw [Shared.version_commit _ _ hn'] at hin hjn
  rw [Shared.db_commit] at hi hj hu
  -- identity `i` was there before this commit
  obtain ⟨r₁, hr₁⟩ := Option.ne_none_iff_exists'.mp hin
  obtain ⟨r₀, hr₀, hu₀, hp₀, hq₀⟩ := hC.identity_stays h hn' (Nat.le_refl _) hr₁
  change g.db.get _ = some r₀ at hr₀
  obtain ⟨r₂, hr₂, hru, hrp, hrq⟩ := hok.accountStep.identity_stays hr₀
  obtain rfl : r₂ = r := Option.some.inj (hr₂.symm.trans hi)
  obtain ⟨v, hv⟩ := Option.ne_none_iff_exists'.mp (hw.identityUser i r₀ hr₀)
  cases hb : g.db.get (.authIdentities j) with
  | none =>
    -- this commit adds `j` and leaves the account of `i`
    obtain ⟨identity, userId, w, hcreated⟩ := hok.accountStep.created hb hj
    have hne : r₂.userId ≠ userId := by
      rw [hru]
      intro heq
      rw [heq, hcreated.noUser] at hv
      cases hv
    rw [hcreated.users _ hne, hru, hv] at hu
    cases hu
    refine (hc.ok.2 hc.assume).added j r' ⟨hb, hj⟩ i r₀ u hr₀ ⟨?_, ?_⟩ hv huse
    · rw [← hsame.provider, hrp]
    · rw [← hsame.providerId, hrq]
  | some s =>
    obtain ⟨s', hs', -, hsp, hsq⟩ := hok.accountStep.identity_stays hb
    obtain rfl : s' = r' := Option.some.inj (hs'.symm.trans hj)
    have hsame₀ : SamePrincipal r₀ s :=
      ⟨by rw [← hrp, ← hsp, hsame.provider], by rw [← hrq, ← hsq, hsame.providerId]⟩
    have hunused := hq i j r₀ s v hr₀ hb hsame₀ ⟨n, hn', hin, hjn⟩ hv
    have hdel : v.deletedAt ≠ none := fun hnone => hunused (inUse_of_live hnone)
    have hchange := hok.userChange r₀.userId
    rw [hv, ← hru, hu] at hchange
    cases hchange with
    | same => exact hunused huse
    | restored =>
      -- the identity would be restored with its account, although another one came after it
      have hlive : r₂.deletedAt = none :=
        (hw'.identityLive i r₂ _ (by rw [Shared.db_commit]; exact hi) (by rw [Shared.db_commit]; exact hu)).mpr rfl
      have hdead : r₀.deletedAt ≠ none := fun hnone => hdel ((hw.identityLive i r₀ v hr₀ hv).mp hnone)
      exact (hc.ok.2 hc.assume).restored i r₀ r₂ hr₀ hi hdead hlive j s hb hsame₀ ⟨n, hn', hin, hjn⟩
    | suspended _ _ _ heq => exact hunused fun t ht => huse t (by rw [heq]; exact ht)
    | unsuspended => exact hunused huse
    | deleted _ now _ hlive => exact hdel hlive

/-- The accounts of identities that are not their principal's last one are never in use. -/
lemma superseded (h : History (principalContract settings) g) : Superseded settings.accountPurgeGrace g := by
  induction h with
  | @init g₀ hg =>
    rintro i j r r' u hi hj - ⟨n, hn, hin, hjn⟩
    have hlog : g₀.log = [] := hg.log
    have hcsn : g₀.csn = 0 := by simp [Shared.csn, hlog]
    obtain rfl : n = g₀.csn := by omega
    change g₀.db.get _ = none at hjn
    rw [hj] at hjn
    cases hjn
  | @shift g₁ g₂ _ hs ih =>
    rintro i j r r' u hi hj hsame ⟨n, hn, hin, hjn⟩ hu huse
    rw [hs.db] at hi hj hu
    rw [hs.version] at hin hjn
    rw [hs.csn] at hn
    have hnow : g₁.now ≤ g₂.now := by
      rcases hs.now with heq | htick
      · omega
      · simpa [system, forward] using htick
    exact ih i j r r' u hi hj hsame ⟨n, hn, hin, hjn⟩ hu (huse.later hnow)
  | commit hg hc ih => exact ih.commit hg hc

lemma oneAccount (h : History (principalContract settings) g) : OneAccount settings.accountPurgeGrace g := by
  intro i j r r' u u' hi hj hsame hu hu' huse huse'
  by_cases hne : i = j
  · subst hne
    obtain rfl : r = r' := Option.some.inj (hi.symm.trans hj)
    rfl
  · rcases before_or_before h hi hj hsame hne with hbefore | hbefore
    · exact absurd huse (superseded h i j r r' u hi hj hsame hbefore hu)
    · exact absurd huse' (superseded h j i r' r u' hj hi hsame.symm hbefore hu')

end Invariant

/-- The live identity that stands in the way of another one. -/
lemma live_of_violation {s : Store Row} {i : Uuid} {r : AuthIdentity} {k : Key}
    (h : violation index s (.authIdentities i)
      (entries index (.authIdentities i) (some (AuthIdentity.restore r))) = some k) :
    ∃ j r', j ≠ i ∧ s.get (.authIdentities j) = some r' ∧ SamePrincipal r r' ∧ r'.deletedAt = none := by
  obtain ⟨hne, x, hx, hmem⟩ := violation_eq_some h
  obtain rfl : x = .authIdentity r.provider r.providerId := by
    simpa [entries, index, indexedIf, AuthIdentity.restore] using hx
  cases hget : s.get k with
  | none => simp [entries, hget] at hmem
  | some row =>
    rw [hget] at hmem
    obtain ⟨j, rfl⟩ : ∃ j, k = .authIdentities j := by
      cases k with
      | authIdentities j => exact ⟨j, rfl⟩
      | chatrooms m =>
        simp only [entries, Option.elim_some, index] at hmem
        split at hmem <;> simp at hmem
      | _ => simp [entries, index, indexedIf] at hmem
    simp only [entries, Option.elim_some, index, indexedIf] at hmem
    split at hmem
    · rename_i hlive
      simp only [List.mem_singleton, Idx.authIdentity.injEq] at hmem
      exact ⟨j, row, by simpa using hne, hget, ⟨hmem.1, hmem.2⟩, by simpa using hlive⟩
    · cases hmem

lemma identityLookup_ne_none {identity : NewProviderIdentity} {s : Store Row} {i : Uuid} {r : AuthIdentity} {u : User}
    (hr : s.get (.authIdentities i) = some r) (hp : r.provider = identity.provider)
    (hq : r.providerId = identity.providerId) (hlive : r.deletedAt = none) (hu : s.get (.users r.userId) = some u)
    (hulive : u.deletedAt = none) : identityLookup identity s ≠ none := by
  unfold identityLookup
  intro hnone
  have hmem : i ∈ s.ids Tables.authIdentities fun _ r => r.provider == identity.provider &&
      r.providerId == identity.providerId && r.deletedAt.isNone && User.live s r.userId :=
    Store.mem_ids.mpr ⟨r, hr, by simp [hp, hq, hlive, User.live, hu, hulive]⟩
  generalize hids : s.ids Tables.authIdentities _ = is at hnone hmem
  cases is with
  | nil => cases hmem
  | cons j js =>
    have hj : j ∈ s.ids Tables.authIdentities fun _ r => r.provider == identity.provider &&
        r.providerId == identity.providerId && r.deletedAt.isNone && User.live s r.userId := by
      rw [hids]
      exact List.mem_cons_self
    obtain ⟨r', hr', -⟩ := Store.mem_ids.mp hj
    simp [hr'] at hnone

lemma signInOpen {g : Shared} (h : History (principalContract settings) g) :
    SignInOpen settings.accountPurgeGrace g := by
  have hw := fits_principalContract.wellFormed h
  refine fun identity => ⟨fun i hi r hr => ?_, fun hnone i r hr hp hq hlive => ?_⟩
  · obtain ⟨r₀, u, hr₀, hu, hrest⟩ := mem_restoreCandidates.mp hi
    obtain rfl : r₀ = r := Option.some.inj (hr₀.symm.trans hr)
    by_contra hne
    obtain ⟨k, hk⟩ := Option.ne_none_iff_exists'.mp hne
    obtain ⟨j, r', hji, hr', hsame, hlive⟩ := live_of_violation hk
    obtain ⟨u', hu'⟩ := Option.ne_none_iff_exists'.mp (hw.identityUser j r' hr')
    have hulive : u'.deletedAt = none := (hw.identityLive j r' u' hr' hu').mp hlive
    have heq := oneAccount h i j r₀ r' u u' hr hr' hsame hu hu' (inUse_of_restorable hrest) (inUse_of_live hulive)
    exact hji (hw.oneIdentity j i r' r₀ hr' hr heq.symm)
  · obtain ⟨u, hu⟩ := Option.ne_none_iff_exists'.mp (hw.identityUser i r hr)
    exact identityLookup_ne_none hr hp hq hlive hu ((hw.identityLive i r u hr hu).mp hlive) hnone

section SignIns

variable {identity : NewProviderIdentity} {L : Local Row Nat} {g G : Shared} {n : Nat} {identityId : Uuid}
  {r : AuthIdentity} {u : User}

/-- No other identity of the principal came between the last test of a sign-in that restores and its lock. -/
lemma absent_of_held (held : HoldsDeleted (principalContract settings) identity settings.accountPurgeGrace n g L G
      identityId r u) (hG : History (principalContract settings) G) {j : Uuid} {s : AuthIdentity}
    (hj : G.db.get (.authIdentities j) = some s) (hsame : SamePrincipal r s)
    (hb : (G.version g.csn).get (.authIdentities j) = none) {l₁ : Local Row Nat} {g₁ : Shared}
    (hn : l₁.snapshots.head? = some n) (hrequest : NoAddSince l₁ identityId g₁)
    (hrow : g₁.db.get (.authIdentities identityId) = some r) (hlater : Later (principalContract settings) g₁ G) :
    (G.version g₁.csn).get (.authIdentities j) = none := by
  have hC : Fits (principalContract settings) := fits_principalContract
  by_contra hne
  obtain ⟨s₀, hs₀⟩ := Option.ne_none_iff_exists'.mp hne
  obtain ⟨s₁, hs₁, -, hp, hq⟩ := hC.identity_stays hG hlater.csn_le (Nat.le_refl _) hs₀
  obtain rfl : s₁ = s := Option.some.inj (hs₁.symm.trans hj)
  have hs₀' : g₁.db.get (.authIdentities j) = some s₀ := by
    rw [hlater.version (Nat.le_refl _)] at hs₀
    exact hs₀
  have hthere := hrequest n r j s₀ hn hrow (restorable_deleted held.restorable) hs₀'
    ⟨by rw [← hp, hsame.provider], by rw [← hq, hsame.providerId]⟩
  have hcsn : g.csn ≤ G.csn := held.later.csn_le
  -- an identity that is there in the snapshot is there when the sign-in tests it
  rcases Nat.le_total n g₁.csn with hle | hle
  · rw [← hlater.version hle] at hthere
    exact hthere (hC.identity_absent hG held.identity.snapshot hcsn hb)
  · exact hne (hC.identity_absent hG (Nat.le_trans hle held.identity.snapshot) hcsn hb)

/-- While a sign-in holds an identity that it can restore, no other one of the principal is added. -/
lemma latest_of_held (held : HoldsDeleted (principalContract settings) identity settings.accountPurgeGrace n g L G
      identityId r u) (hg : History (principalContract settings) g) {j : Uuid} {s : AuthIdentity}
    (hj : G.db.get (.authIdentities j) = some s) (hsame : SamePrincipal r s) : ¬ Before G identityId j := by
  have hC : Fits (principalContract settings) := fits_principalContract
  have hG : History (principalContract settings) G := held.later.history hg
  have hcsn : g.csn ≤ G.csn := held.later.csn_le
  rintro ⟨m, hm, hX, hjm⟩
  cases hb : (G.version g.csn).get (.authIdentities j) with
  | some s₀ =>
    have hmg : m ≤ g.csn := by
      by_contra hlt
      rw [hC.identity_absent hG (Nat.le_of_lt (Nat.lt_of_not_le hlt)) hm hjm] at hb
      cases hb
    have hrow := held.identity.version (Nat.le_refl _) hcsn
    have huser := held.account.version (Nat.le_refl _) hcsn
    obtain ⟨s₁, hs₁, -, hp, hq⟩ := hC.identity_stays hG hcsn (Nat.le_refl _) hb
    obtain rfl : s₁ = s := Option.some.inj (hs₁.symm.trans hj)
    have hversion : G.version g.csn = g.db := held.later.version (Nat.le_refl _)
    rw [hversion] at hrow huser hb
    rw [held.later.version hmg] at hX hjm
    refine superseded hg identityId j r s₀ u hrow hb ⟨?_, ?_⟩ ⟨m, hmg, hX, hjm⟩ huser (inUse_of_restorable held.restorable)
    · rw [← hp, hsame.provider]
    · rw [← hq, hsame.providerId]
  | none =>
    -- `j` was added next to the sign-in
    obtain ⟨l₀, g₀, hn, hrequest, hrow₀, -, hev⟩ := held.identity.taken
    have hnone := absent_of_held held hG hj hsame hb hn (hrequest identityId rfl) hrow₀ hev.later
    have hlast : ¬ (G.version G.csn).get (.authIdentities j) = none := by
      change ¬ G.db.get _ = none
      rw [hj]
      exact nofun
    obtain ⟨e, l₁, g₁, hg₁, hg₁', hl₁, hc, -, hguard, hrest, hbefore, hafter⟩ :=
      hev.commit_of_change (P := fun s => s.get (.authIdentities j) = none) (Nat.le_refl _) hev.later.csn_le
        (Nat.le_refl _) hnone hlast
    obtain ⟨s₀, hs₀⟩ := Option.ne_none_iff_exists'.mp hafter
    have hview := hrest.later.version_commit
    obtain ⟨s₁, hs₁, -, hp, hq⟩ := hC.identity_stays hG (n := g₁.csn + 1) (m := G.csn) hg₁' (Nat.le_refl _)
      (by rw [hview.2]; exact hs₀)
    obtain rfl : s₁ = s := Option.some.inj (hs₁.symm.trans hj)
    have hrow := hev.version_locked (k := .authIdentities identityId) List.mem_cons_self nofun hg₁ (Nat.le_of_lt hg₁')
    rw [hview.1, hrow₀] at hrow
    refine hguard j s₀ identityId r ⟨hbefore, hs₀⟩ (hl₁.locks List.mem_cons_self) hrow
      (restorable_deleted held.restorable) ⟨?_, ?_⟩
    · rw [← hp, hsame.provider]
    · rw [← hq, hsame.providerId]

/-- While a sign-in holds an identity that it can restore, no other one of the principal is live. -/
lemma not_live_of_held (held : HoldsDeleted (principalContract settings) identity settings.accountPurgeGrace n g L G
      identityId r u) (hg : History (principalContract settings) g) {k : Nat} (hk : g.csn ≤ k) (hk' : k ≤ G.csn)
    {j : Uuid} {s : AuthIdentity} (hne : j ≠ identityId) (hj : (G.version k).get (.authIdentities j) = some s)
    (hsame : SamePrincipal r s) : s.deletedAt ≠ none := by
  intro hlive
  have hC : Fits (principalContract settings) := fits_principalContract
  have hG : History (principalContract settings) G := held.later.history hg
  have hversion : G.version g.csn = g.db := held.later.version (Nat.le_refl _)
  obtain ⟨sG, hsG, hsu, hp, hq⟩ := hC.identity_stays hG hk' (Nat.le_refl _) hj
  have hsameG : SamePrincipal r sG := ⟨by rw [hp, hsame.provider], by rw [hq, hsame.providerId]⟩
  have hrowG := held.identity.version held.later.csn_le (Nat.le_refl _)
  have hbefore : Before G j identityId :=
    (before_or_before hG hrowG hsG hsameG fun h => hne h.symm).resolve_left (latest_of_held held hg hsG hsameG)
  obtain ⟨m, hm, hjm, hXm⟩ := hbefore
  have hmg : m ≤ g.csn := by
    by_contra hlt
    rw [held.identity.version (Nat.le_of_lt (Nat.lt_of_not_le hlt)) hm] at hXm
    cases hXm
  -- its account was not in use when the sign-in looked, so a commit has restored it since
  obtain ⟨s₁, hs₁⟩ := Option.ne_none_iff_exists'.mp hjm
  obtain ⟨s₀, hs₀, -, hp₀, hq₀⟩ := hC.identity_stays hG hmg held.later.csn_le hs₁
  obtain ⟨s₂, hs₂, hsu₂, hp₂, hq₂⟩ := hC.identity_stays hG hk hk' hs₀
  obtain rfl : s₂ = s := Option.some.inj (hs₂.symm.trans hj)
  have hsame₀ : SamePrincipal s₀ r := ⟨by rw [← hp₂, hsame.provider], by rw [← hq₂, hsame.providerId]⟩
  have hdead : s₀.deletedAt ≠ none := by
    intro hnone
    have hrow := held.identity.version (Nat.le_refl _) held.later.csn_le
    have hs₀' := hs₀
    rw [hversion] at hrow hs₀'
    obtain ⟨v, hv⟩ := Option.ne_none_iff_exists'.mp ((hC.wellFormed hg).identityUser j s₀ hs₀')
    rw [held.later.version hmg] at hjm hXm
    refine superseded hg j identityId s₀ r v hs₀' hrow hsame₀ ⟨m, hmg, hjm, hXm⟩ hv (inUse_of_live ?_)
    exact ((hC.wellFormed hg).identityLive j s₀ v hs₀' hv).mp hnone
  have hnot : ¬ ∃ t, (G.version k).get (.authIdentities j) = some t ∧ t.deletedAt ≠ none := by
    rintro ⟨t, ht, hdel⟩
    obtain rfl : t = s₂ := Option.some.inj (ht.symm.trans hj)
    exact hdel hlive
  obtain ⟨e, g₁, hg₁, hg₁', -, -, hc, ⟨t, ht, htdel⟩, hafter, hlater⟩ :=
    hG.commit_of_change (P := fun d => ∃ t, d.get (.authIdentities j) = some t ∧ t.deletedAt ≠ none) hk hk'
      ⟨s₀, hs₀, hdead⟩ hnot
  obtain ⟨t', ht', -, htp, htq⟩ := (hC.ok _ _ hc.ok).accountStep.identity_stays ht
  have hview := hlater.version_commit
  have hcsn₁ : g₁.csn ≤ G.csn := Nat.le_of_lt (Nat.lt_of_lt_of_le hg₁' hk')
  have hrow₁ := held.identity.version hg₁ hcsn₁
  rw [hview.1] at hrow₁
  obtain ⟨t₁, ht₁, -, htp₁, htq₁⟩ := hC.identity_stays hG hg₁ hcsn₁ hs₀
  rw [hview.1] at ht₁
  obtain rfl : t₁ = t := Option.some.inj (ht₁.symm.trans ht)
  have htlive : t'.deletedAt = none := by
    by_contra hne
    exact hafter ⟨t', ht', hne⟩
  refine (hc.ok.2 hc.assume).restored j t₁ t' ht ht' htdel htlive identityId r hrow₁ ⟨?_, ?_⟩ ⟨m, Nat.le_trans hmg hg₁, ?_⟩
  · rw [htp₁, hsame₀.provider]
  · rw [htq₁, hsame₀.providerId]
  · have hold : G.version m = g₁.version m := by
      rw [hlater.version (by simp only [Shared.csn_commit]; omega), Shared.version_commit _ _ (by omega)]
    rw [← hold]
    exact ⟨hjm, hXm⟩

/-- An identity is there whenever its account is. -/
lemma identity_with_user {C : Contract (system settings forward)} (hC : Fits C) (hG : History C G) {n : Nat}
    (hn : n ≤ G.csn) {j : Uuid} {s : AuthIdentity} (hj : G.db.get (.authIdentities j) = some s)
    (huser : (G.version n).get (.users s.userId) ≠ none) : ∃ s₀, (G.version n).get (.authIdentities j) = some s₀ := by
  by_contra hnone
  obtain ⟨e, g₁, hg₁, -, -, -, hc, hbefore, hafter, hlater⟩ := hG.commit_of_change
    (P := fun d => ¬ ∃ s₀, d.get (.authIdentities j) = some s₀) hn (Nat.le_refl _) hnone (not_not_intro ⟨s, hj⟩)
  obtain ⟨s₁, hs₁⟩ := not_not.mp hafter
  have habsent : g₁.db.get (.authIdentities j) = none := by
    by_contra hne
    exact hbefore (Option.ne_none_iff_exists'.mp hne)
  -- the commit that adds the identity creates its account
  obtain ⟨_, userId, _, hcreated⟩ := (hC.ok _ _ hc.ok).accountStep.created habsent hs₁
  have hlt : g₁.csn + 1 ≤ G.csn := by
    have hle := hlater.csn_le
    rwa [Shared.csn_commit] at hle
  obtain ⟨s₂, hs₂, hsu, -⟩ := hC.identity_stays hG hlt (Nat.le_refl _) (by rw [hlater.version_commit.2]; exact hs₁)
  obtain rfl : s₂ = s := Option.some.inj (hs₂.symm.trans hj)
  have hthere := hC.user_ne_none hG hg₁ (Nat.le_of_succ_le hlt) huser
  rw [hlater.version_commit.1, hsu, hcreated.owner] at hthere
  exact hthere hcreated.noUser

/-- What of the deletion of an account can be seen now was there before, if the account was not deleted
since. -/
lemma deletedAt_since {C : Contract (system settings forward)} (hC : Fits C) (hG : History C G) {n : Nat}
    (hn : n ≤ G.csn) {userId : Uuid} {v : User} (hv : G.db.get (.users userId) = some v) (hdel : v.deletedAt ≠ none)
    (hno : ∀ k e, n ≤ k → G.log[k]? = some e → e.job ≠ .deleteAccount userId) :
    ∃ w, (G.version n).get (.users userId) = some w ∧ w.deletedAt = v.deletedAt := by
  by_contra hnot
  obtain ⟨e, g₁, hg₁, -, he, -, hc, hbefore, hafter, -⟩ := hG.commit_of_change
    (P := fun s => ¬ ∃ w, s.get (.users userId) = some w ∧ w.deletedAt = v.deletedAt) hn (Nat.le_refl _) hnot
    (not_not_intro ⟨v, hv, rfl⟩)
  obtain ⟨w, hw, hwdel⟩ := not_not.mp hafter
  rcases (hC.ok _ _ hc.ok).deleted_of_change hw (by rw [hwdel]; exact hdel) with ⟨w₀, hw₀, heq⟩ | hjob
  · exact hbefore ⟨w₀, hw₀, heq.trans hwdel⟩
  · exact hno g₁.csn e hg₁ he hjob

/-- A sign-in that adds an account has seen that no other one of the principal is in use. -/
lemma not_inUse_of_lookup {n : Nat}
    (hlookup : NothingToRestore (principalContract settings) identity settings.accountPurgeGrace g n G)
    (hg : History (principalContract settings) g) {j : Uuid} {s : AuthIdentity} {v : User}
    (hj : G.db.get (.authIdentities j) = some s) (hp : s.provider = identity.provider)
    (hq : s.providerId = identity.providerId) (hdead : s.deletedAt ≠ none)
    (hv : G.db.get (.users s.userId) = some v)
    (hno : ∀ k e, n ≤ k → G.log[k]? = some e → e.job ≠ .deleteAccount s.userId) :
    ¬ InUse settings.accountPurgeGrace G.now v := by
  have hC : Fits (principalContract settings) := fits_principalContract
  have hticks : ∀ t t', (system settings forward).ticks t t' → t ≤ t' := by
    intro t t' h
    simpa [system, forward] using h
  obtain ⟨g₁, t₀, hg₁, hg₁', rfl, ⟨gc, hgc, hgc', rfl⟩, hall⟩ := hlookup
  have hG : History (principalContract settings) G := hg₁'.history (hg₁.history hg)
  have hn : g₁.csn ≤ G.csn := hg₁'.csn_le
  have hvdel : v.deletedAt ≠ none := fun hnone => hdead (((hC.wellFormed hG).identityLive j s v hj hv).mpr hnone)
  obtain ⟨w, hw, hwdel⟩ := deletedAt_since hC hG hn hv hvdel hno
  obtain ⟨t, ht⟩ := Option.ne_none_iff_exists'.mp hvdel
  intro huse
  have hnow := huse t ht
  -- the identity was there with its account
  obtain ⟨s₀, hs₀⟩ := identity_with_user hC hG hn hj (by simp [hw])
  obtain ⟨s₁, hs₁, hsu, hsp, hsq⟩ := hC.identity_stays hG hn (Nat.le_refl _) hs₀
  obtain rfl : s₁ = s := Option.some.inj (hs₁.symm.trans hj)
  obtain ⟨g₀, hg₀, -, hdb, -⟩ := hG.version hn
  have hs₀del : s₀.deletedAt ≠ none := by
    intro hnone
    have hlive := ((hC.wellFormed hg₀).identityLive j s₀ w (by rw [hdb]; exact hs₀)
      (by rw [hdb, ← hsu]; exact hw)).mp hnone
    rw [hwdel] at hlive
    exact hvdel hlive
  have hcand : j ∈ restoreCandidates identity settings.accountPurgeGrace gc.now (G.version g₁.csn) := by
    refine mem_restoreCandidates.mpr ⟨s₀, w, hs₀, by rw [← hsu]; exact hw, ?_⟩
    have hle : gc.now ≤ G.now := hgc'.now_le hticks
    have hsome : s₀.deletedAt.isSome := Option.isSome_iff_ne_none.mpr hs₀del
    simp only [restorable, ← hsp, ← hsq, hp, hq, beq_self_eq_true, hsome, hwdel, ht, Option.any_some, Bool.and_true,
      Bool.true_and, decide_eq_true_eq]
    omega
  -- it was locked and read again, and only its grace period can have ended
  obtain ⟨r₁, u₁, t₁, ⟨gt, hgt, hgt', rfl⟩, hr₁, hu₁, hrest⟩ := hC.unrestorable hG (hall j hcand) (by simp [hs₀])
  obtain rfl : r₁ = s₁ := Option.some.inj (hr₁.symm.trans hj)
  obtain rfl : u₁ = v := Option.some.inj (hu₁.symm.trans hv)
  have hle : gt.now ≤ G.now := hgt'.now_le hticks
  have hsome : r₁.deletedAt.isSome := Option.isSome_iff_ne_none.mpr hdead
  simp only [restorable, hp, hq, beq_self_eq_true, hsome, ht, Option.any_some, Bool.and_true, Bool.true_and,
    decide_eq_false_iff_not] at hrest
  omega

lemma SignedIn.exclusive {output : AuthExchangeOutput} {e : Entry}
    (h : SignedIn (principalContract settings) settings.accountPurgeGrace identity e.ran g G output)
    (hg : History (principalContract settings) g) (hG : History (principalContract settings) G)
    (hco : Coherent index e.ran G) (hno : NoDeletionSince e G) : Exclusive settings.accountPurgeGrace e G := by
  have hC : Fits (principalContract settings) := fits_principalContract
  cases h with
  | restored sessionId row identityId r u n g₁ issued owner account later held =>
    refine ⟨fun i r₀ r' hi hi' hdel hlive j s hj hsame => ?_, fun i r₀ hadds => ?_⟩
    · by_cases hk : i = identityId
      · subst hk
        obtain rfl : r₀ = r := Option.some.inj (hi.symm.trans account.identityRow)
        exact latest_of_held held (later.history hg) hj hsame
      · rw [account.identities i hk, hi] at hi'
        cases hi'
        exact absurd hlive hdel
    · by_cases hk : i = identityId
      · rw [hk] at hadds
        rw [AddsIdentity, account.identityRow] at hadds
        cases hadds.1
      · rw [AddsIdentity, account.identities i hk] at hadds
        rw [hadds.1] at hadds
        cases hadds.2
  | found userId sessionId row n u issued owner snapshot lookup account unsuspended kept =>
    refine ⟨fun i r₀ r' hi hi' hdel hlive => ?_, fun i r₀ hadds => ?_⟩
    · rw [kept.identities i, hi] at hi'
      cases hi'
      exact absurd hlive hdel
    · rw [AddsIdentity, kept.identities i] at hadds
      rw [hadds.1] at hadds
      cases hadds.2
  | created userId sessionId row identityId u r n issued owner account snapshot lookup =>
    refine ⟨fun i r₀ r' hi hi' hdel hlive => ?_, fun i r₀ hadds j s v hj hsame hv => ?_⟩
    · have hk : i ≠ identityId := by
        rintro rfl
        rw [account.noIdentity] at hi
        cases hi
      rw [account.identities i hk, hi] at hi'
      cases hi'
      exact absurd hlive hdel
    · have hstep : AccountStep settings.accountPurgeGrace G.db (G.view e.ran) := .create _ _ _ _ _ account
      obtain rfl : i = identityId := hstep.new_identity hadds.1 account.noIdentity hadds.2 account.newIdentity
      obtain rfl : r₀ = r := Option.some.inj (hadds.2.symm.trans account.newIdentity)
      have hji : j ≠ i := by
        rintro rfl
        rw [hadds.1] at hj
        cases hj
      -- the unique index keeps the other identities from being live
      have hdead : s.deletedAt ≠ none := by
        intro hlive
        have hentry : .authIdentity s.provider s.providerId ∈
            entries index (.authIdentities j) ((G.view e.ran).get (.authIdentities j)) := by
          rw [account.identities j hji, hj]
          simp [entries, index, indexedIf, hlive]
        have hentry' : .authIdentity s.provider s.providerId ∈
            entries index (.authIdentities i) ((G.view e.ran).get (.authIdentities i)) := by
          rw [account.newIdentity]
          simp [entries, index, indexedIf, account.liveIdentity, hsame.provider, hsame.providerId]
        have hkey := hco.unique _ _ _ hentry hentry'
        exact hji (by simpa using hkey)
      refine not_inUse_of_lookup lookup hg hj (hsame.provider.symm.trans account.provider)
        (hsame.providerId.symm.trans account.providerId) hdead hv fun k e' hk he' hjob => ?_
      have hklt : k < G.csn := (List.getElem?_eq_some_iff.mp he').1
      obtain ⟨g₁, hg₁, rfl, hc, hlater⟩ := hG.entry he'
      obtain ⟨w, t, hd⟩ := (hC.ok _ _ hc.ok).deleteAccount hjob
      -- the identity was there when the account was deleted
      have huser : (G.version g₁.csn).get (.users s.userId) ≠ none := by
        rw [hlater.version_commit.1, hd.account.userRow]
        exact Option.some_ne_none _
      obtain ⟨s₀, hs₀⟩ := identity_with_user hC hG (Nat.le_of_lt hklt) hj huser
      obtain ⟨s₁, hs₁, hsu, hsp, hsq⟩ := hC.identity_stays hG (Nat.le_of_lt hklt) (Nat.le_refl _) hs₀
      obtain rfl : s₁ = s := Option.some.inj (hs₁.symm.trans hj)
      refine hno i r₀ n g₁.csn e' s₁.userId j s₀ hadds snapshot hk he' hjob hs₀ ⟨?_, ?_⟩ hsu.symm
      · rw [hsame.provider, hsp]
      · rw [hsame.providerId, hsq]

end SignIns

section Programs

variable {e : Entry} {g G : Shared}

lemma exclusive_of_same (h : Store.Same Tables.authIdentities g.db (g.view e.ran)) : Exclusive grace e g := by
  refine ⟨fun i r r' hi hi' hdel hlive => ?_, fun i r hadds => ?_⟩
  · rw [h i, hi] at hi'
    cases hi'
    exact absurd hlive hdel
  · rw [AddsIdentity, h i] at hadds
    rw [hadds.1] at hadds
    cases hadds.2

/-- Only sign-ins restore and add identities. -/
lemma Ok.exclusive (h : Ok settings e g) (hjob : ∀ identity now, e.job ≠ .exchange identity now) :
    Exclusive grace e g := by
  unfold Ok at h
  split at h
  · rename_i identity now output hjob' _
    exact absurd hjob' (hjob identity now)
  · obtain ⟨parentId, parent, child, n, u, hr, -⟩ := h
    exact exclusive_of_same hr.kept.identities
  · obtain ⟨sessionId, session, n, hr⟩ := h
    exact exclusive_of_same hr.kept.identities
  · exact exclusive_of_same h.2.identities
  · obtain ⟨u, u', n, hs⟩ := h
    exact exclusive_of_same hs.account.identities
  · rcases h with ⟨u, n, hs⟩ | ⟨-, hs⟩
    · exact exclusive_of_same hs.account.identities
    · exact exclusive_of_same hs.identities
  · rename_i userId _ _
    obtain ⟨u, now, hd⟩ := h
    refine ⟨fun i r r' hi hi' hdel hlive => ?_, fun i r hadds => ?_⟩
    · by_cases hu : r.userId = userId
      · rw [hd.account.ownIdentities i r hi hu] at hi'
        cases hi'
        simp [AuthIdentity.delete, coalesce] at hlive
      · rw [hd.account.otherIdentities i (by simpa [hi] using hu), hi] at hi'
        cases hi'
        exact absurd hlive hdel
    · rw [AddsIdentity, hd.account.otherIdentities i (by simp [hadds.1])] at hadds
      rw [hadds.1] at hadds
      cases hadds.2
  · exact h.elim

/-- No restore meets a live identity of its principal. -/
lemma restoreDeletedIdentityRecord_error {identity : NewProviderIdentity} {session : NewRefreshSession}
    {error : AuthRepositoryError} {l l' L : Local Row Nat} {g' : Shared}
    (hg : History (principalContract settings) g) (hl : l.writes = [])
    (h : Runs (principalContract settings) (restoreDeletedIdentityRecord identity session settings.accountPurgeGrace)
      l g (.error error) l' g' L G) : error ≠ .unavailable "identity_restore" := by
  have hC : Fits (principalContract settings) := fits_principalContract
  have hG : History (principalContract settings) G := h.evolve.later.history hg
  unfold restoreDeletedIdentityRecord at h
  rcases h.bind_error with h₁ | ⟨y, l₁, g₁, h₁, h₂⟩
  · exact h₁.failsIn (P := (· ≠ .unavailable "identity_restore")) identityRestoreLookup_failsIn
  obtain ⟨n, hl₁, -, hsome⟩ := identityRestoreLookup_runs hl h₁
  cases y with
  | none => exact (Runs.not_ret_error h₂).elim
  | some p =>
    obtain ⟨id, r, u, gk, rfl, hgk, hgk', hheld⟩ := hsome p rfl
    rcases h₂.bind_error with h₃ | ⟨x₃, l₂, g₂, h₃, hrest⟩
    · exact h₃.failsIn (P := (· ≠ .unavailable "identity_restore"))
        (.bind Prog.failsIn_select fun _ => Prog.failsIn_ensure (by decide))
    rcases hrest.bind_error with h₄ | ⟨x₄, l₃, g₃, h₄, hrest⟩
    · exact h₄.failsIn (P := (· ≠ .unavailable "identity_restore")) (Prog.failsIn_change (by decide))
    rcases hrest.bind_error with h₅ | ⟨x₅, l₄, g₄, h₅, hrest⟩
    · -- the identity's update is the one that would fail
      obtain ⟨n₂, hn₂, hn₂', rfl, -⟩ := ensureNotSuspended_runs h₃
      have hw₁ : ∀ s : Store Row, s.apply l₁.writes = s := fun s => by rw [hl₁, hl, Store.apply_nil]
      have hk₂ : gk.csn ≤ g₂.csn := (hgk'.trans h₃.returns.evolve.later).csn_le
      have hk₃ : gk.csn ≤ g₃.csn := Nat.le_trans hk₂ h₄.returns.evolve.later.csn_le
      obtain ⟨-, hkeep, -⟩ := h₄.update_one (r := u) (a := ())
        (fun m hm hm' => by
          dsimp only
          rw [hw₁]
          exact hheld.account.version (Nat.le_trans hk₂ hm) hm') rfl fun _ _ => rfl
      dsimp only at hkeep
      simp only [hw₁] at hkeep
      obtain ⟨s, t, r₀, r', a, m, k, hrow, hf, hm, hm', hv⟩ := h₅.update_one_error
      rw [hkeep _ (.authIdentities id) nofun] at hrow
      obtain rfl : r₀ = r := Option.some.inj (hrow.symm.trans hheld.identity.db)
      cases hf
      obtain ⟨j, r', hji, hr', hsame, hlive⟩ := live_of_violation hv
      rw [hkeep _ (.authIdentities j) nofun] at hr'
      exact absurd hlive (not_live_of_held hheld (hgk.history hg) (Nat.le_trans hk₃ hm)
        (Nat.le_trans hm' h₅.rest.later.csn_le) hji hr' hsame)
    refine hrest.failsIn (P := (· ≠ .unavailable "identity_restore"))
      (.bind (Prog.failsIn_change (by decide)) fun _ => .bind ?_ fun _ => trivial)
    exact .bind Prog.failsIn_op fun _ => Prog.failsIn_insertRow (by decide)

lemma exchange_error {identity : NewProviderIdentity} {now : Time} {error : Failure} {l' : Local Row Nat}
    {g' : Shared} (hg : History (principalContract settings) g)
    (h : Returns (principalContract settings) (program settings (.exchange identity now)) (Local.begin g) g
      (.error error) l' g') : error ≠ .auth (.databaseUnavailable "identity_restore") := by
  rintro rfl
  have hrun : Runs (principalContract settings) (program settings (.exchange identity now)) (Local.begin g) g
      (.error _) l' g' l' g' := ⟨h, .refl⟩
  rcases hrun.bind_error with h₁ | ⟨output, l₁, g₁, -, h₂⟩
  swap
  · exact Runs.not_ret_error h₂
  obtain ⟨error, herror, h₁⟩ := h₁.mapError_error
  obtain rfl := Failure.auth.inj herror.symm
  obtain ⟨session, l₂, g₂, l₃, g₃, hg₂, hl₂, h₂⟩ := createOrRestoreSession_error (by decide) h₁
  exact restoreDeletedIdentityRecord_error (hg₂.history hg) hl₂ h₂ rfl

lemma rotateSessionRecord_failsIn {tokenHash : Nat} {child : NewRotatedSession} {now : Time} :
    (rotateSessionRecord tokenHash child now).FailsIn (· ≠ .unavailable "identity_restore") := by
  refine .bind (.bind Prog.failsIn_selectFor fun _ => trivial) fun found => ?_
  cases found with
  | none => trivial
  | some parent =>
    dsimp only
    split
    · trivial
    split
    · exact .bind (Prog.failsIn_change (by decide)) fun _ => trivial
    split
    · trivial
    · refine .bind (Prog.failsIn_change (by decide)) fun _ => .bind ?_ fun _ => trivial
      exact .bind Prog.failsIn_op fun _ => Prog.failsIn_insertRow (by decide)

lemma auth_authError_ne (error : AuthRepositoryError) (h : error ≠ .unavailable "identity_restore") :
    Failure.auth (authError error) ≠ .auth (.databaseUnavailable "identity_restore") :=
  fun heq => h (authError_eq (Failure.auth.inj heq))

/-- The other transactions do not restore identities. -/
lemma program_failsIn {job : Job} (hjob : ∀ identity now, job ≠ .exchange identity now) :
    (program settings job).FailsIn (· ≠ .auth (.databaseUnavailable "identity_restore")) := by
  cases job with
  | exchange identity now => exact absurd rfl (hjob identity now)
  | refresh tokenHash now =>
    refine .bind (.mapError ?_) fun _ => trivial
    refine .bind Prog.failsIn_op fun _ => .bind Prog.failsIn_op fun _ => .bind (.mapError ?_) fun outcome => ?_
    · exact rotateSessionRecord_failsIn.mono auth_authError_ne
    · cases outcome <;> simp [Prog.FailsIn]
  | logout sessionId now =>
    refine .bind (.mapError (.mapError ?_)) fun _ => trivial
    exact .bind (Prog.failsIn_change (by decide)) fun _ => trivial
  | suspend command => exact .bind (.mapError (Prog.failsIn_of_forall nofun)) fun _ => trivial
  | unsuspend userId => exact .bind (.mapError (Prog.failsIn_of_forall nofun)) fun _ => trivial
  | deleteAccount userId => exact .bind (.mapError (Prog.failsIn_of_forall nofun)) fun _ => trivial

lemma programs_principalContract : (principalContract settings).Programs := by
  have hC : Fits (principalContract settings) := fits_principalContract
  intro job g hg r l' g' h
  by_cases hjob : ∃ identity now, job = .exchange identity now
  · obtain ⟨identity, now, rfl⟩ := hjob
    cases r with
    | error error => exact exchange_error hg h
    | ok out =>
      have hG : History (principalContract settings) g' := h.evolve.later.history hg
      have hco : Coherent index l' g' := h.evolve.coherent hg.coherent_begin
      refine ⟨hC.commits hg h, fun hno => ?_⟩
      have hrun : Runs (principalContract settings) (program settings (.exchange identity now)) (Local.begin g) g
          (.ok out) l' g' l' g' := ⟨h, .refl⟩
      obtain ⟨output, l₁, g₁, h₁, h₂⟩ := hrun.bind
      obtain ⟨rfl, rfl⟩ := h₂.ret
      exact SignedIn.exclusive (e := ⟨_, _, _⟩) (hC.signedIn hg h₁.mapError) hg hG hco hno
  · have hnot : ∀ identity now, job ≠ .exchange identity now := fun identity now heq => hjob ⟨identity, now, heq⟩
    cases r with
    | error error => exact h.failsIn (program_failsIn hnot)
    | ok out =>
      have hok : Ok settings ⟨job, out, l'⟩ g' := hC.commits hg h
      exact ⟨hok, fun _ => hok.exclusive hnot⟩

end Programs

/-- The schedules in which identities are added apart from deletions and restores of their principal. -/
def AddsApart (s : State) (lab : Label Job) : Prop :=
  (∀ id t out, lab = .commit id → s.find id = some t → t.prog = .ret out →
    NoDeletionSince ⟨t.job, out, t.ran⟩ s.shared ∧
      ∀ o ∈ s.others id, NoRestoreBeside o.ran ⟨t.job, out, t.ran⟩ s.shared) ∧
  ∀ id choice t j k, lab = .exec id choice → s.find id = some t → t.prog = .op (.lock (.authIdentities j) .update) k →
    NoAddSince t.ran j s.shared

/-- If no account of a principal is deleted between the restore lookup and the commit of a sign-in that
adds an account, and none is added between the snapshot of a restore and its commit, then a principal has at most one
account in use, restores succeed and every way to sign in is open. -/
theorem principal_has_one_account {s : State}
    (h : (system settings forward).ReachableWhere AddsApart StartsSingle s) :
    OneAccount settings.accountPurgeGrace s.shared ∧ RestoresSucceed s ∧
      SignInOpen settings.accountPurgeGrace s.shared := by
  have hsound : Sound (principalContract settings) s :=
    reachable_sound (fun s₁ id t out hcond hf hp => hcond.1 id t out rfl hf hp) programs_principalContract h
      fun s₁ id choice t o k hcond hf hp j ho => by
        subst ho
        exact hcond.2 id choice t j k rfl hf hp
  refine ⟨oneAccount hsound.history, fun t ht hprog => ?_, signInOpen hsound.history⟩
  exact hsound.fails ht hprog rfl

section SplitLookup

/-- The account is deleted between the two lookups of a sign-in, which then adds another one. -/
def splitSignIn : List (Label Job) := List.flatten [
  [.start 1 (.exchange ⟨"google", "principal", "nickname", none⟩ 0)], Label.requests 1 10 19, [.commit 1],
  [.start 2 (.exchange ⟨"google", "principal", "nickname", none⟩ 0)], Label.requests 2 50 5,
  [.start 3 (.deleteAccount 16)], Label.requests 3 100 26, [.commit 3], Label.requests 2 55 14, [.commit 2]]

/-- The next sign-in, until the update of the identity that it restores. -/
def failingSignIn : List (Label Job) := List.flatten [
  splitSignIn, [.start 4 (.exchange ⟨"google", "principal", "nickname", none⟩ 0)], Label.requests 4 200 18]

/-- What `splitSignIn` leads to: one account is live and the other one is inside its grace period. -/
def splitSignInEnd (s : State) : Bool :=
  decide ((s.shared.db.get (.authIdentities 19)).map (fun r => (r.userId, r.provider, r.providerId, r.deletedAt)) =
    some (16, "google", "principal", some 0)) &&
  decide ((s.shared.db.get (.authIdentities 59)).map (fun r => (r.userId, r.provider, r.providerId, r.deletedAt)) =
    some (56, "google", "principal", none)) &&
  decide ((s.shared.db.get (.users 16)).map (fun u => u.deletedAt) = some (some 0)) &&
  decide ((s.shared.db.get (.users 56)).map (fun u => u.deletedAt) = some none) && decide (s.shared.now = 0)

lemma startsSingle_empty : StartsSingle emptyServer := ⟨starts_empty, nofun⟩

lemma splitSignIn_runs :
    ((system sampleSettings forward).run ⟨emptyServer, []⟩ splitSignIn).any splitSignInEnd = true := by
  decide

lemma failingSignIn_runs :
    ((system sampleSettings forward).run ⟨emptyServer, []⟩ failingSignIn).any (fun s => s.txs.any fun t =>
      match t.prog with
      | .fail e => decide (e = .auth (.databaseUnavailable "identity_restore"))
      | _ => false) = true := by
  decide

theorem split_sign_in_locks_out :
    (¬ ∀ s : State, (system sampleSettings forward).Reachable StartsSingle s →
      OneAccount sampleSettings.accountPurgeGrace s.shared) ∧
    (¬ ∀ s : State, (system sampleSettings forward).Reachable StartsSingle s → RestoresSucceed s) ∧
      ¬ ∀ s : State, (system sampleSettings forward).Reachable StartsSingle s →
        SignInOpen sampleSettings.accountPurgeGrace s.shared := by
  obtain ⟨s, hs, hend⟩ := (Option.any_eq_true _ _).mp splitSignIn_runs
  simp only [splitSignInEnd, Bool.and_eq_true, decide_eq_true_eq, Option.map_eq_some_iff, Prod.mk.injEq] at hend
  obtain ⟨⟨⟨⟨⟨r, hr, hru, hrp, hrq, hrd⟩, r', hr', hru', hrp', hrq', hrd'⟩, u, hu, hud⟩, u', hu', hud'⟩, hnow⟩ := hend
  have hreach := (system sampleSettings forward).reachable_of_run startsSingle_empty hs
  have hsame : SamePrincipal r r' := ⟨by rw [hrp, hrp'], by rw [hrq, hrq']⟩
  have huse : InUse sampleSettings.accountPurgeGrace s.shared.now u := by
    intro t ht
    rw [hud] at ht
    cases ht
    rw [hnow]
    decide
  refine ⟨fun hall => ?_, fun hall => ?_, fun hall => ?_⟩
  · have heq := hall s hreach 19 59 r r' u u' hr hr' hsame (by rw [hru]; exact hu) (by rw [hru']; exact hu') huse
      (inUse_of_live hud')
    rw [hru, hru'] at heq
    cases heq
  · obtain ⟨s₁, hs₁, hfail⟩ := (Option.any_eq_true _ _).mp failingSignIn_runs
    obtain ⟨t, ht, hprog⟩ := List.any_eq_true.mp hfail
    have hreach₁ := (system sampleSettings forward).reachable_of_run startsSingle_empty hs₁
    refine hall s₁ hreach₁ t ht ?_
    cases hp : t.prog with
    | fail e =>
      rw [hp] at hprog
      rw [of_decide_eq_true hprog]
    | _ =>
      rw [hp] at hprog
      cases hprog
  · have hrest : restorable ⟨"google", "principal", "nickname", none⟩ sampleSettings.accountPurgeGrace s.shared.now r u =
        true := by
      simp [restorable, hrp, hrq, hrd, hud, hnow, sampleSettings]
    have hcand : 19 ∈ restoreCandidates ⟨"google", "principal", "nickname", none⟩ sampleSettings.accountPurgeGrace
        s.shared.now s.shared.db :=
      mem_restoreCandidates.mpr ⟨r, u, hr, by rw [hru]; exact hu, hrest⟩
    have hnone := (hall s hreach _).1 19 hcand r hr
    have hne : Key.authIdentities 59 ≠ .authIdentities 19 := by decide
    refine violation_eq_none hnone hne (i := .authIdentity "google" "principal") ?_ ?_
    · simp [entries, index, indexedIf, AuthIdentity.restore, hrp, hrq]
    · simp [entries, hr', index, indexedIf, hrp', hrq', hrd']

/-- Passes if the transaction that commits writes no identity, so that it adds none, and if nothing has committed since
the snapshot of a restore that takes a lock. -/
def testAdds (s : State) : Label Job → Bool
  | .commit id =>
    match s.find id with
    | some ⟨_, _, .ret _, ran⟩ =>
      ran.writes.all (fun w => match w.key with
        | .authIdentities i => (s.shared.db.get (.authIdentities i)).isSome
        | _ => true) || s.shared.log.isEmpty && (s.others id).isEmpty
    | _ => true
  | .exec id _ =>
    match s.find id with
    | some ⟨_, _, .op (.lock (.authIdentities _) .update) _, ran⟩ =>
      ran.snapshots.head?.all fun n => decide (n = s.shared.csn)
    | _ => true
  | _ => true

lemma addsApart_of_test (s : State) (lab : Label Job) (h : testAdds s lab = true) : AddsApart s lab := by
  constructor
  swap
  · rintro id choice ⟨_, job, prog, ran⟩ j k rfl hf hp n r i r' hn hr hdel hr'
    dsimp only at hp
    simp only [testAdds, hf, hp, hn, Option.all_some, decide_eq_true_eq] at h
    subst h
    rw [show s.shared.version s.shared.csn = s.shared.db from rfl, hr']
    exact nofun
  rintro id ⟨_, job, prog, ran⟩ out rfl hf hp
  dsimp only at hp
  simp only [testAdds, hf, hp, Bool.or_eq_true, Bool.and_eq_true, List.all_eq_true] at h
  have hadds : ∀ i r, AddsIdentity ⟨job, out, ran⟩ s.shared i r → s.shared.log = [] ∧ s.others id = [] := by
    rintro i r ⟨hnone, hsome⟩
    rcases h with h | h
    · have hmem : (.authIdentities i : Key) ∈ ran.writes.map Write.key := by
        by_contra hnot
        rw [Shared.view, Store.get_apply_of_notMem _ hnot, hnone] at hsome
        cases hsome
      obtain ⟨w, hw, hk⟩ := List.mem_map.mp hmem
      have hthere := h w hw
      rw [hk] at hthere
      simp [hnone] at hthere
    · exact ⟨List.isEmpty_iff.mp h.1, List.isEmpty_iff.mp h.2⟩
  refine ⟨fun i r n k e' userId j r' hi _ _ he' => ?_, fun o ho i r j r' hi => ?_⟩
  · rw [(hadds i r hi).1] at he'
    cases he'
  · rw [(hadds i r hi).2] at ho
    cases ho

/-- The account is created, used, deleted and restored. -/
theorem principal_has_one_account_in_schedule : ∃ s : State,
    (system sampleSettings forward).ReachableWhere AddsApart StartsSingle s ∧ RestoredAt s.shared 3 16 ∧
      OneAccount sampleSettings.accountPurgeGrace s.shared ∧ RestoresSucceed s ∧
      SignInOpen sampleSettings.accountPurgeGrace s.shared := by
  have hrun : ((system sampleSettings forward).runWhere testAdds ⟨emptyServer, []⟩ graceSchedule).map
      (fun s => (outcomes s.shared)[3]?) =
      some (some (.exchange ⟨"google", "principal", "nickname", none⟩ 0, .exchanged ⟨⟨16, 201⟩, true⟩)) := by
    decide
  obtain ⟨s, hs, hlog⟩ := Option.map_eq_some_iff.mp hrun
  obtain ⟨e, he, -, hout⟩ := entry_of_outcomes hlog
  have hreach := (system sampleSettings forward).reachableWhere_of_run addsApart_of_test startsSingle_empty hs
  exact ⟨s, hreach, ⟨e, _, he, hout, rfl⟩, principal_has_one_account hreach⟩

end SplitLookup

end JamyeServer.Accounts
