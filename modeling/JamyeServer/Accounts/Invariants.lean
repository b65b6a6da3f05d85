import JamyeServer.Accounts.System

/-!
# What commits keep

Every commit that is `Ok` is a step on sessions and a step on accounts. Sessions only age: what names
them stays, and once consumed, revoked or deleted they stay so. The general invariant `WellFormed` ties
sessions and identities to their accounts.
-/

namespace JamyeServer.Accounts

open ReadCommitted Postgres Auth Moderation AccountDeletion

/-- `r'` is `r` at a later time. -/
structure Ages (r r' : RefreshSession) : Prop where
  userId : r'.userId = r.userId
  familyId : r'.familyId = r.familyId
  parentSessionId : r'.parentSessionId = r.parentSessionId
  tokenHash : r'.tokenHash = r.tokenHash
  consumedAt : r.consumedAt ≠ none → r'.consumedAt ≠ none
  revokedAt : r.revokedAt ≠ none → r'.revokedAt ≠ none
  deletedAt : r.deletedAt ≠ none → r'.deletedAt ≠ none

lemma Ages.refl (r : RefreshSession) : Ages r r := ⟨rfl, rfl, rfl, rfl, id, id, id⟩

lemma Ages.trans {r₁ r₂ r₃ : RefreshSession} (h : Ages r₁ r₂) (h' : Ages r₂ r₃) : Ages r₁ r₃ where
  userId := h'.userId.trans h.userId
  familyId := h'.familyId.trans h.familyId
  parentSessionId := h'.parentSessionId.trans h.parentSessionId
  tokenHash := h'.tokenHash.trans h.tokenHash
  consumedAt hc := h'.consumedAt (h.consumedAt hc)
  revokedAt hr := h'.revokedAt (h.revokedAt hr)
  deletedAt hd := h'.deletedAt (h.deletedAt hd)

lemma Revoked.ages {r r' : RefreshSession} (h : Revoked r r') : Ages r r' where
  userId := h.userId
  familyId := h.familyId
  parentSessionId := h.parentSessionId
  tokenHash := h.tokenHash
  consumedAt hc := by rwa [h.consumedAt]
  revokedAt _ := h.revokedAt
  deletedAt := h.deletedAt

lemma ages_consume (now : Time) (r : RefreshSession) : Ages r (RefreshSession.consume now r) :=
  ⟨rfl, rfl, rfl, rfl, fun _ => nofun, id, id⟩

/-- What a commit does to the sessions. -/
inductive SessionStep (before after : Store Row) (ran : Local Row Nat) : Prop
  | issue (sessionId : Uuid) (row : RefreshSession) (h : SessionIssued before after ran sessionId row)
  | rotate (parentId childId : Uuid) (parent child : RefreshSession)
      (h : SessionRotated before after ran parentId childId parent child)
  | revoke (h : SessionsRevoked before after)

/-- What a commit does to accounts and identities. -/
inductive AccountStep (grace : Nat) (before after : Store Row) : Prop
  | keep (h : AccountsKept before after)
  | restore (identity : NewProviderIdentity) (now : Time) (identityId : Uuid) (r : AuthIdentity) (u : User)
      (h : AccountRestored before after grace identity now identityId r u)
  | create (identity : NewProviderIdentity) (userId identityId : Uuid) (u : User) (r : AuthIdentity)
      (h : AccountCreated before after identity userId identityId u r)
  | change (userId : Uuid) (u u' : User) (h : AccountChanged before after userId u u')
      (deletedAt : u'.deletedAt = u.deletedAt)
  | delete (userId : Uuid) (u : User) (now : Time) (h : AccountDeleted before after userId u now)

lemma sessionsRevoked_of_same {before after : Store Row}
    (h : Store.Same Tables.refreshSessions before after) : SessionsRevoked before after :=
  fun i => .inl (h i)

variable {settings : Settings} {e : Entry} {g : Shared}

section Jobs

lemma Ok.exchanged (h : Ok settings e g) {output : AuthExchangeOutput} (hout : e.out = .exchanged output) :
    ∃ identity now, e.job = .exchange identity now ∧
      Exchanged settings.accountPurgeGrace identity e.ran g output := by
  unfold Ok at h
  rw [hout] at h
  cases hjob : e.job with
  | exchange identity now =>
    rw [hjob] at h
    exact ⟨identity, now, rfl, h⟩
  | _ =>
    rw [hjob] at h
    exact h.elim

lemma Ok.rotated (h : Ok settings e g) {issued : IssuedSession} (hout : e.out = .refreshed (.rotated issued)) :
    ∃ tokenHash now parentId parent child n u, e.job = .refresh tokenHash now ∧
      Rotated tokenHash e.ran g parentId issued.sessionId parent child n u ∧ child.userId = issued.userId := by
  unfold Ok at h
  rw [hout] at h
  cases hjob : e.job with
  | refresh tokenHash now =>
    rw [hjob] at h
    obtain ⟨parentId, parent, child, n, u, hr⟩ := h
    exact ⟨tokenHash, now, parentId, parent, child, n, u, rfl, hr⟩
  | _ =>
    rw [hjob] at h
    exact h.elim

lemma Ok.reused (h : Ok settings e g) (hout : e.out = .refreshed .reused) :
    ∃ tokenHash now sessionId session n, e.job = .refresh tokenHash now ∧
      Reused tokenHash e.ran g sessionId session n := by
  unfold Ok at h
  rw [hout] at h
  cases hjob : e.job with
  | refresh tokenHash now =>
    rw [hjob] at h
    obtain ⟨sessionId, session, n, hr⟩ := h
    exact ⟨tokenHash, now, sessionId, session, n, rfl, hr⟩
  | _ =>
    rw [hjob] at h
    exact h.elim

lemma Ok.suspend (h : Ok settings e g) {command : SuspendUserCommand} (hjob : e.job = .suspend command) :
    ∃ u u' n, Suspended command.userId e.ran g u u' n := by
  unfold Ok at h
  rw [hjob] at h
  cases hout : e.out with
  | done =>
    rw [hout] at h
    exact h
  | _ =>
    rw [hout] at h
    exact h.elim

lemma Ok.unsuspend (h : Ok settings e g) {userId : Uuid} (hjob : e.job = .unsuspend userId) :
    (∃ u n, Unsuspended userId e.ran g u n) ∨
      (Store.Same Tables.refreshSessions g.db (g.view e.ran) ∧ AccountsKept g.db (g.view e.ran)) := by
  unfold Ok at h
  rw [hjob] at h
  cases hout : e.out with
  | done =>
    rw [hout] at h
    exact h
  | _ =>
    rw [hout] at h
    exact h.elim

lemma Ok.deleteAccount (h : Ok settings e g) {userId : Uuid} (hjob : e.job = .deleteAccount userId) :
    ∃ u now, Deleted userId e.ran g u now := by
  unfold Ok at h
  rw [hjob] at h
  cases hout : e.out with
  | done =>
    rw [hout] at h
    exact h
  | _ =>
    rw [hout] at h
    exact h.elim

end Jobs

lemma Exchanged.issued {grace : Nat} {identity : NewProviderIdentity} {ran : Local Row Nat}
    {output : AuthExchangeOutput} (h : Exchanged grace identity ran g output) :
    ∃ row, SessionIssued g.db (g.view ran) ran output.issued.sessionId row ∧ row.userId = output.issued.userId := by
  cases h with
  | restored sessionId row now identityId r u issued owner => exact ⟨row, issued, owner⟩
  | found userId sessionId row n u issued owner => exact ⟨row, issued, owner⟩
  | created userId sessionId row identityId u r issued owner => exact ⟨row, issued, owner⟩

/-- A commit adds a session by a sign-in or by a rotation, or it only revokes sessions. -/
lemma Ok.session_cases (h : Ok settings e g) :
    (∃ output row, e.out = .exchanged output ∧
      SessionIssued g.db (g.view e.ran) e.ran output.issued.sessionId row ∧ row.userId = output.issued.userId) ∨
    (∃ tokenHash now issued parentId parent child n u, e.job = .refresh tokenHash now ∧
      e.out = .refreshed (.rotated issued) ∧
      Rotated tokenHash e.ran g parentId issued.sessionId parent child n u) ∨
    SessionsRevoked g.db (g.view e.ran) := by
  unfold Ok at h
  split at h
  · rename_i hjob hout
    obtain ⟨row, hissued, howner⟩ := h.issued
    exact .inl ⟨_, row, hout, hissued, howner⟩
  · rename_i hjob hout
    obtain ⟨parentId, parent, child, n, u, hr, -⟩ := h
    exact .inr (.inl ⟨_, _, _, parentId, parent, child, n, u, hjob, hout, hr⟩)
  · obtain ⟨sessionId, session, n, hr⟩ := h
    exact .inr (.inr hr.sessions)
  · exact .inr (.inr h.1)
  · obtain ⟨u, u', n, hs⟩ := h
    exact .inr (.inr hs.sessions)
  · rcases h with ⟨u, n, hs⟩ | ⟨hs, -⟩
    · exact .inr (.inr hs.sessions)
    · exact .inr (.inr (sessionsRevoked_of_same hs))
  · obtain ⟨u, now, hd⟩ := h
    exact .inr (.inr hd.sessions)
  · exact h.elim

lemma Ok.sessionStep (h : Ok settings e g) : SessionStep g.db (g.view e.ran) e.ran := by
  rcases h.session_cases with ⟨_, row, _, hs, _⟩ | ⟨_, _, _, p, parent, child, _, _, _, _, hr⟩ | hs
  · exact .issue _ row hs
  · exact .rotate p _ parent child hr.rotated
  · exact .revoke hs

/-- A session that a commit adds comes from a sign-in or from a rotation. -/
lemma Ok.new_session (h : Ok settings e g) {i : Uuid} {r : RefreshSession}
    (hbefore : g.db.get (.refreshSessions i) = none) (hafter : (g.view e.ran).get (.refreshSessions i) = some r) :
    (∃ output, e.out = .exchanged output ∧ r.userId = output.issued.userId ∧
      SessionIssued g.db (g.view e.ran) e.ran i r) ∨
    ∃ tokenHash now issued parentId parent n u, e.job = .refresh tokenHash now ∧
      e.out = .refreshed (.rotated issued) ∧ Rotated tokenHash e.ran g parentId i parent r n u := by
  rcases h.session_cases with ⟨output, row, hout, hs, hu⟩ |
    ⟨tokenHash, now, issued, p, parent, child, n, u, hjob, hout, hrot⟩ | hs
  · have hi : i = output.issued.sessionId := by
      by_contra hne
      rw [hs.only i hne, hbefore] at hafter
      cases hafter
    subst hi
    obtain rfl : row = r := Option.some.inj (hs.inserted.symm.trans hafter)
    exact .inl ⟨output, hout, hu, hs⟩
  · have hs := hrot.rotated
    have hp : i ≠ p := by
      rintro rfl
      rw [hs.locked] at hbefore
      cases hbefore
    have hi : i = issued.sessionId := by
      by_contra hne
      rw [hs.only i hp hne, hbefore] at hafter
      cases hafter
    subst hi
    obtain rfl : child = r := Option.some.inj (hs.inserted.symm.trans hafter)
    exact .inr ⟨tokenHash, now, issued, p, parent, n, u, hjob, hout, hrot⟩
  · rcases hs i with hsame | ⟨r₁, -, hr₁, -⟩
    · rw [hsame, hbefore] at hafter
      cases hafter
    · rw [hbefore] at hr₁
      cases hr₁

lemma Ok.accountStep (h : Ok settings e g) :
    AccountStep settings.accountPurgeGrace g.db (g.view e.ran) := by
  unfold Ok at h
  split at h
  · cases h with
    | restored sessionId row now identityId r u issued owner account => exact .restore _ _ _ _ _ account
    | found userId sessionId row n u issued owner snapshot lookup account unsuspended kept => exact .keep kept
    | created userId sessionId row identityId u r issued owner account => exact .create _ _ _ _ _ account
  · obtain ⟨parentId, parent, child, n, u, hr, -⟩ := h
    exact .keep hr.kept
  · obtain ⟨sessionId, session, n, hr⟩ := h
    exact .keep hr.kept
  · exact .keep h.2
  · obtain ⟨u, u', n, hs⟩ := h
    exact .change _ _ _ hs.account hs.deletedAt
  · rcases h with ⟨u, n, hs⟩ | ⟨-, hs⟩
    · exact .change _ _ _ hs.account rfl
    · exact .keep hs
  · obtain ⟨u, now, hd⟩ := h
    exact .delete _ _ _ hd.account
  · exact h.elim

/-- What a commit can do to the row of one account. -/
inductive UserChange (e : Entry) (userId : Uuid) : Option User → Option User → Prop
  | same (x : Option User) : UserChange e userId x x
  | restored (u : User) : u.suspendedAt = none → UserChange e userId (some u) (some (User.restore u))
  | created (u : User) : u.deletedAt = none → u.suspendedAt = none → UserChange e userId none (some u)
  | suspended (u u' : User) : u'.suspendedAt ≠ none → u'.deletedAt = u.deletedAt →
      UserChange e userId (some u) (some u')
  | unsuspended (u : User) : e.job = .unsuspend userId →
      UserChange e userId (some u) (some (User.unsuspend u))
  | deleted (u : User) (now : Time) : e.job = .deleteAccount userId → u.deletedAt = none →
      UserChange e userId (some u) (some (User.markDeleted now u))

lemma Ok.userChange (h : Ok settings e g) (userId : Uuid) :
    UserChange e userId (g.db.get (.users userId)) ((g.view e.ran).get (.users userId)) := by
  have hkeep : (g.view e.ran).get (.users userId) = g.db.get (.users userId) →
      UserChange e userId (g.db.get (.users userId)) ((g.view e.ran).get (.users userId)) := by
    intro heq
    rw [heq]
    exact .same _
  unfold Ok at h
  split at h
  · cases h with
    | restored sessionId row now identityId r v issued owner account =>
      by_cases hi : userId = r.userId
      · subst hi
        rw [account.userRow, account.newUser]
        exact .restored v account.unsuspended
      · exact hkeep (account.users userId hi)
    | found _ _ row n v issued owner snapshot lookup account unsuspended kept => exact hkeep (kept.users userId)
    | created newId sessionId row identityId v r issued owner account =>
      by_cases hi : userId = newId
      · subst hi
        rw [account.noUser, account.newUser]
        exact .created v account.live account.unsuspended
      · exact hkeep (account.users userId hi)
  · obtain ⟨parentId, parent, child, n, v, hr, -⟩ := h
    exact hkeep (hr.kept.users userId)
  · obtain ⟨sessionId, session, n, hr⟩ := h
    exact hkeep (hr.kept.users userId)
  · exact hkeep (h.2.users userId)
  · rename_i command hjob hout
    obtain ⟨v, v', n, hs⟩ := h
    by_cases hi : userId = command.userId
    · subst hi
      rw [hs.account.userRow, hs.account.newUser]
      exact .suspended v v' hs.suspended hs.deletedAt
    · exact hkeep (hs.account.users userId hi)
  · rename_i id hjob hout
    rcases h with ⟨v, n, hs⟩ | ⟨-, hs⟩
    · by_cases hi : userId = id
      · subst hi
        rw [hs.account.userRow, hs.account.newUser]
        exact .unsuspended v hjob
      · exact hkeep (hs.account.users userId hi)
    · exact hkeep (hs.users userId)
  · rename_i id hjob hout
    obtain ⟨v, now, hd⟩ := h
    by_cases hi : userId = id
    · subst hi
      rw [hd.account.userRow, hd.account.newUser]
      exact .deleted v now hjob hd.account.live
    · exact hkeep (hd.account.users userId hi)
  · exact h.elim

section Sessions

variable {before after : Store Row} {ran : Local Row Nat}

/-- A session that is there stays and ages. -/
lemma SessionStep.ages (h : SessionStep before after ran) {i : Uuid} {r : RefreshSession}
    (hr : before.get (.refreshSessions i) = some r) :
    ∃ r', after.get (.refreshSessions i) = some r' ∧ Ages r r' := by
  cases h with
  | issue sessionId row h =>
    have hne : i ≠ sessionId := by
      rintro rfl
      rw [h.absent] at hr
      cases hr
    exact ⟨r, by rw [h.only i hne, hr], .refl r⟩
  | rotate parentId childId parent child h =>
    have hne : i ≠ childId := by
      rintro rfl
      rw [h.absent] at hr
      cases hr
    by_cases hp : i = parentId
    · subst hp
      rw [h.locked] at hr
      cases hr
      obtain ⟨now, hnow⟩ := h.consumed
      exact ⟨_, hnow, ages_consume now _⟩
    · exact ⟨r, by rw [h.only i hp hne, hr], .refl r⟩
  | revoke h =>
    rcases h i with hi | ⟨r₀, r', hr₀, hr', hrev⟩
    · exact ⟨r, by rw [hi, hr], .refl r⟩
    · rw [hr] at hr₀
      cases hr₀
      exact ⟨r', hr', hrev.ages⟩

/-- Where a session that is there came from. -/
lemma SessionStep.source (h : SessionStep before after ran) {i : Uuid} {r' : RefreshSession}
    (hr' : after.get (.refreshSessions i) = some r') :
    (∃ r, before.get (.refreshSessions i) = some r ∧ Ages r r') ∨
      before.get (.refreshSessions i) = none ∧ (.users r'.userId, .keyShare) ∈ ran.locks ∧
        after.get (.users r'.userId) ≠ none ∧ (r'.familyId ∈ ran.drawn ∨ ∃ j r, before.get (.refreshSessions j) = some r ∧
          r.familyId = r'.familyId) := by
  cases hb : before.get (.refreshSessions i) with
  | some r =>
    obtain ⟨r₁, hr₁, hages⟩ := h.ages hb
    rw [hr'] at hr₁
    cases hr₁
    exact .inl ⟨r, rfl, hages⟩
  | none =>
    cases h with
    | issue sessionId row h =>
      by_cases hi : i = sessionId
      · subst hi
        rw [h.inserted] at hr'
        cases hr'
        exact .inr ⟨rfl, h.account, h.user, .inl h.drawn⟩
      · rw [h.only i hi, hb] at hr'
        cases hr'
    | rotate parentId childId parent child h =>
      by_cases hi : i = childId
      · subst hi
        rw [h.inserted] at hr'
        cases hr'
        exact .inr ⟨rfl, h.account, h.user, .inr ⟨parentId, parent, h.locked, h.childFamily.symm⟩⟩
      · by_cases hp : i = parentId
        · subst hp
          rw [h.locked] at hb
          cases hb
        · rw [h.only i hp hi, hb] at hr'
          cases hr'
    | revoke h =>
      rcases h i with hi | ⟨r, r₁, hr, -⟩
      · rw [hi, hb] at hr'
        cases hr'
      · rw [hb] at hr
        cases hr

end Sessions

section AccountTables

variable {grace : Nat} {before after : Store Row}

/-- An account that is there stays. -/
lemma AccountStep.user (h : AccountStep grace before after) {i : Uuid} {u : User}
    (hu : before.get (.users i) = some u) : ∃ u', after.get (.users i) = some u' := by
  cases h with
  | keep h => exact ⟨u, (h.users i).trans hu⟩
  | restore identity now identityId r u₀ h =>
    by_cases hi : i = r.userId
    · exact ⟨_, hi ▸ h.newUser⟩
    · exact ⟨u, (h.users i hi).trans hu⟩
  | create identity userId identityId u₀ r h =>
    by_cases hi : i = userId
    · exact ⟨_, hi ▸ h.newUser⟩
    · exact ⟨u, (h.users i hi).trans hu⟩
  | change userId u₀ u' h _ =>
    by_cases hi : i = userId
    · exact ⟨_, hi ▸ h.newUser⟩
    · exact ⟨u, (h.users i hi).trans hu⟩
  | delete userId u₀ now h =>
    by_cases hi : i = userId
    · exact ⟨_, hi ▸ h.newUser⟩
    · exact ⟨u, (h.users i hi).trans hu⟩

/-- An identity that is there stays, under the same names. -/
lemma AccountStep.identity_stays (h : AccountStep grace before after) {i : Uuid} {r : AuthIdentity}
    (hr : before.get (.authIdentities i) = some r) :
    ∃ r', after.get (.authIdentities i) = some r' ∧ r'.userId = r.userId ∧ r'.provider = r.provider ∧
      r'.providerId = r.providerId := by
  cases h with
  | keep h => exact ⟨r, (h.identities i).trans hr, rfl, rfl, rfl⟩
  | restore identity now identityId r₀ u h =>
    by_cases hi : i = identityId
    · subst hi
      rw [h.identityRow] at hr
      cases hr
      exact ⟨_, h.newIdentity, rfl, rfl, rfl⟩
    · exact ⟨r, (h.identities i hi).trans hr, rfl, rfl, rfl⟩
  | create identity userId identityId u r₀ h =>
    have hi : i ≠ identityId := by
      rintro rfl
      rw [h.noIdentity] at hr
      cases hr
    exact ⟨r, (h.identities i hi).trans hr, rfl, rfl, rfl⟩
  | change userId u u' h _ => exact ⟨r, (h.identities i).trans hr, rfl, rfl, rfl⟩
  | delete userId u now h =>
    by_cases hu : r.userId = userId
    · exact ⟨_, h.ownIdentities i r hr hu, rfl, rfl, rfl⟩
    · have hother : ∀ r₁, before.get (.authIdentities i) = some r₁ → r₁.userId ≠ userId := by
        intro r₁ hr₁
        rw [hr] at hr₁
        cases hr₁
        exact hu
      exact ⟨r, (h.otherIdentities i hother).trans hr, rfl, rfl, rfl⟩

/-- A commit that adds an identity creates an account. -/
lemma AccountStep.created (h : AccountStep grace before after) {i : Uuid} {r : AuthIdentity}
    (hi : before.get (.authIdentities i) = none) (hi' : after.get (.authIdentities i) = some r) :
    ∃ identity userId u, AccountCreated before after identity userId i u r := by
  cases h with
  | create identity userId identityId u r₀ h =>
    by_cases hk : i = identityId
    · subst hk
      rw [h.newIdentity] at hi'
      cases hi'
      exact ⟨identity, userId, u, h⟩
    · rw [h.identities i hk, hi] at hi'
      cases hi'
  | keep h =>
    rw [h.identities i, hi] at hi'
    cases hi'
  | restore identity now identityId s u h =>
    by_cases hk : i = identityId
    · rw [hk, h.identityRow] at hi
      cases hi
    · rw [h.identities i hk, hi] at hi'
      cases hi'
  | change userId u u' h _ =>
    rw [h.identities i, hi] at hi'
    cases hi'
  | delete userId u now h =>
    rw [h.otherIdentities i (by simp [hi]), hi] at hi'
    cases hi'

lemma AccountStep.new_identity (h : AccountStep grace before after) {i j : Uuid} {r r' : AuthIdentity}
    (hi : before.get (.authIdentities i) = none) (hj : before.get (.authIdentities j) = none)
    (hi' : after.get (.authIdentities i) = some r) (hj' : after.get (.authIdentities j) = some r') : i = j := by
  obtain ⟨identity, userId, u, hcreated⟩ := h.created hi hi'
  by_contra hne
  rw [hcreated.identities j fun hk => hne hk.symm, hj] at hj'
  cases hj'

/-- An identity that is there was there before under the same names, or its account is new. -/
lemma AccountStep.identity (h : AccountStep grace before after) {i : Uuid} {r' : AuthIdentity}
    (hr' : after.get (.authIdentities i) = some r') :
    (∃ r, before.get (.authIdentities i) = some r ∧ r'.userId = r.userId ∧ r'.provider = r.provider ∧
        r'.providerId = r.providerId) ∨
      before.get (.authIdentities i) = none ∧ before.get (.users r'.userId) = none ∧
        ∃ u', after.get (.users r'.userId) = some u' ∧ u'.deletedAt = none ∧ r'.deletedAt = none := by
  cases h with
  | keep h => exact .inl ⟨r', (h.identities i).symm.trans hr', rfl, rfl, rfl⟩
  | restore identity now identityId r u h =>
    by_cases hi : i = identityId
    · subst hi
      rw [h.newIdentity] at hr'
      cases hr'
      exact .inl ⟨r, h.identityRow, rfl, rfl, rfl⟩
    · exact .inl ⟨r', (h.identities i hi).symm.trans hr', rfl, rfl, rfl⟩
  | create identity userId identityId u r h =>
    by_cases hi : i = identityId
    · subst hi
      rw [h.newIdentity] at hr'
      cases hr'
      exact .inr ⟨h.noIdentity, h.owner ▸ h.noUser, u, h.owner ▸ h.newUser, h.live, h.liveIdentity⟩
    · exact .inl ⟨r', (h.identities i hi).symm.trans hr', rfl, rfl, rfl⟩
  | change userId u u' h _ => exact .inl ⟨r', (h.identities i).symm.trans hr', rfl, rfl, rfl⟩
  | delete userId u now h =>
    cases hb : before.get (.authIdentities i) with
    | none =>
      rw [h.otherIdentities i (by simp [hb]), hb] at hr'
      cases hr'
    | some r =>
      by_cases hu : r.userId = userId
      · rw [h.ownIdentities i r hb hu] at hr'
        cases hr'
        exact .inl ⟨r, rfl, rfl, rfl, rfl⟩
      · have hother : ∀ r₁, before.get (.authIdentities i) = some r₁ → r₁.userId ≠ userId := by
          intro r₁ hr₁
          rw [hb] at hr₁
          cases hr₁
          exact hu
        rw [h.otherIdentities i hother, hb] at hr'
        cases hr'
        exact .inl ⟨r', rfl, rfl, rfl, rfl⟩

end AccountTables

/-- Sessions and identities belong to accounts, and an identity is live exactly when its account is. -/
structure WellFormed (s : Store Row) (used : List Nat) : Prop where
  families : ∀ i r, s.get (.refreshSessions i) = some r → r.familyId ∈ used
  sessionUser : ∀ i r, s.get (.refreshSessions i) = some r → s.get (.users r.userId) ≠ none
  identityUser : ∀ i r, s.get (.authIdentities i) = some r → s.get (.users r.userId) ≠ none
  oneIdentity : ∀ i j r r', s.get (.authIdentities i) = some r → s.get (.authIdentities j) = some r' →
    r.userId = r'.userId → i = j
  identityLive : ∀ i r u, s.get (.authIdentities i) = some r → s.get (.users r.userId) = some u →
    (r.deletedAt = none ↔ u.deletedAt = none)

section Preservation

variable {grace : Nat} {before after : Store Row} {ran : Local Row Nat} {used : List Nat}

lemma AccountStep.user_ne_none (h : AccountStep grace before after) {i : Uuid}
    (hu : before.get (.users i) ≠ none) : after.get (.users i) ≠ none := by
  obtain ⟨u, hu⟩ := Option.ne_none_iff_exists'.mp hu
  obtain ⟨u', hu'⟩ := h.user hu
  simp [hu']

lemma WellFormed.oneIdentity_step (hw : WellFormed before used) (h : AccountStep grace before after)
    {i j : Uuid} {r r' : AuthIdentity} (hi : after.get (.authIdentities i) = some r)
    (hj : after.get (.authIdentities j) = some r') (hu : r.userId = r'.userId) : i = j := by
  rcases h.identity hi with ⟨r₀, hr₀, hru, -⟩ | ⟨hnone, hnouser, -⟩ <;>
    rcases h.identity hj with ⟨r₁, hr₁, hru', -⟩ | ⟨hnone', hnouser', -⟩
  · exact hw.oneIdentity i j r₀ r₁ hr₀ hr₁ (by rw [← hru, ← hru', hu])
  · rw [← hu, hru] at hnouser'
    exact absurd hnouser' (hw.identityUser i r₀ hr₀)
  · rw [hu, hru'] at hnouser
    exact absurd hnouser (hw.identityUser j r₁ hr₁)
  · exact h.new_identity hnone hnone' hi hj

lemma WellFormed.identityLive_step (hw : WellFormed before used) (h : AccountStep grace before after)
    {i : Uuid} {r' : AuthIdentity} {u' : User} (hi : after.get (.authIdentities i) = some r')
    (hu' : after.get (.users r'.userId) = some u') : r'.deletedAt = none ↔ u'.deletedAt = none := by
  have hstep := h
  cases h with
  | keep h =>
    rw [h.identities i] at hi
    rw [h.users r'.userId] at hu'
    exact hw.identityLive i r' u' hi hu'
  | restore identity now identityId r u h =>
    by_cases hk : i = identityId
    · subst hk
      rw [h.newIdentity] at hi
      cases hi
      have hnew : after.get (.users (AuthIdentity.restore r).userId) = some (User.restore u) := h.newUser
      rw [hnew] at hu'
      cases hu'
      simp [AuthIdentity.restore, User.restore]
    · rw [h.identities i hk] at hi
      have hne : r'.userId ≠ r.userId := fun he => hk (hw.oneIdentity i identityId r' r hi h.identityRow he)
      rw [h.users r'.userId hne] at hu'
      exact hw.identityLive i r' u' hi hu'
  | create identity userId identityId u r h =>
    rcases hstep.identity hi with ⟨r₀, hr₀, hru, -⟩ | ⟨-, -, u₁, hu₁, hlive, hilive⟩
    · have hne : r'.userId ≠ userId := by
        rw [hru]
        rintro rfl
        exact hw.identityUser i r₀ hr₀ h.noUser
      have hk : i ≠ identityId := by
        rintro rfl
        rw [h.noIdentity] at hr₀
        cases hr₀
      rw [h.identities i hk] at hi
      rw [h.users _ hne] at hu'
      exact hw.identityLive i r' u' hi hu'
    · rw [hu₁] at hu'
      cases hu'
      simp [hlive, hilive]
  | change userId u u₁ h hdel =>
    rw [h.identities i] at hi
    by_cases hk : r'.userId = userId
    · rw [hk, h.newUser] at hu'
      cases hu'
      rw [hdel]
      exact hw.identityLive i r' u hi (hk ▸ h.userRow)
    · rw [h.users _ hk] at hu'
      exact hw.identityLive i r' u' hi hu'
  | delete userId u now h =>
    rcases hstep.identity hi with ⟨r₀, hr₀, hru, -⟩ | ⟨hnone, -⟩
    · by_cases hk : r₀.userId = userId
      · rw [h.ownIdentities i r₀ hr₀ hk] at hi
        cases hi
        have hnew : after.get (.users (AuthIdentity.delete now r₀).userId) = some (User.markDeleted now u) :=
          hk ▸ h.newUser
        rw [hnew] at hu'
        cases hu'
        simp [AuthIdentity.delete, User.markDeleted, coalesce]
      · have hother : ∀ r₁, before.get (.authIdentities i) = some r₁ → r₁.userId ≠ userId := by
          intro r₁ hr₁
          rw [hr₀] at hr₁
          cases hr₁
          exact hk
        rw [h.otherIdentities i hother] at hi
        rw [h.users _ (hru ▸ hk)] at hu'
        exact hw.identityLive i r' u' hi hu'
    · rw [h.otherIdentities i (by simp [hnone]), hnone] at hi
      cases hi

lemma WellFormed.step (hw : WellFormed before used) (hs : SessionStep before after ran)
    (ha : AccountStep grace before after) (hdrawn : ∀ i ∈ ran.drawn, i ∈ used) : WellFormed after used where
  families i r' hr' := by
    rcases hs.source hr' with ⟨r, hr, hages⟩ | ⟨-, -, -, hd | ⟨j, r, hr, hf⟩⟩
    · rw [hages.familyId]
      exact hw.families i r hr
    · exact hdrawn _ hd
    · rw [← hf]
      exact hw.families j r hr
  sessionUser i r' hr' := by
    rcases hs.source hr' with ⟨r, hr, hages⟩ | ⟨-, -, huser, -⟩
    · rw [hages.userId]
      exact ha.user_ne_none (hw.sessionUser i r hr)
    · exact huser
  identityUser i r' hr' := by
    rcases ha.identity hr' with ⟨r, hr, hu, -⟩ | ⟨-, -, u', hu', -⟩
    · rw [hu]
      exact ha.user_ne_none (hw.identityUser i r hr)
    · simp [hu']
  oneIdentity i j r r' hi hj hu := hw.oneIdentity_step ha hi hj hu
  identityLive i r' u' hi hu' := hw.identityLive_step ha hi hu'

end Preservation

/-- A contract under which commits are `Ok` and that starts from a well-formed database. -/
structure Fits {ticks : Time → Time → Bool} (C : Contract (system settings ticks)) : Prop where
  ok : ∀ e g, C.Ok e g → Ok settings e g
  init : ∀ g, C.Init g → WellFormed g.init g.used

section Histories

variable {ticks : Time → Time → Bool} {C : Contract (system settings ticks)}

lemma Fits.wellFormed (hC : Fits C) (h : History C g) : WellFormed g.db g.used := by
  induction h with
  | @init g₀ hg =>
    have hlog : g₀.log = [] := C.log_init g₀ hg
    simpa [Shared.db, Shared.version, hlog] using hC.init g₀ hg
  | @shift g₁ g₂ _ hs ih =>
    rw [hs.db]
    exact { ih with families := fun i r hr => hs.used (ih.families i r hr) }
  | commit _ hc ih =>
    have hok := hC.ok _ _ hc.ok
    rw [Shared.db_commit]
    exact ih.step hok.sessionStep hok.accountStep hc.coherent.drawn

/-- A session of one version is in all later versions, at most older. -/
lemma Fits.ages (hC : Fits C) (h : History C g) {n m : Nat} (hnm : n ≤ m) (hm : m ≤ g.csn) {i : Uuid}
    {r : RefreshSession} (hr : (g.version n).get (.refreshSessions i) = some r) :
    ∃ r', (g.version m).get (.refreshSessions i) = some r' ∧ Ages r r' := by
  refine h.stable (P := fun s => ∃ r', s.get (.refreshSessions i) = some r' ∧ Ages r r') ?_ hnm hm
    ⟨r, hr, .refl r⟩
  rintro g₁ e - hc ⟨r₁, hr₁, hages⟩
  obtain ⟨r₂, hr₂, hages'⟩ := (hC.ok _ _ hc.ok).sessionStep.ages hr₁
  exact ⟨r₂, hr₂, hages.trans hages'⟩

lemma Fits.user_ne_none (hC : Fits C) (h : History C g) {n m : Nat} (hnm : n ≤ m) (hm : m ≤ g.csn)
    {i : Uuid} (hu : (g.version n).get (.users i) ≠ none) : (g.version m).get (.users i) ≠ none := by
  refine h.stable (P := fun s => s.get (.users i) ≠ none) ?_ hnm hm hu
  intro g₁ e _ hc hne
  exact (hC.ok _ _ hc.ok).accountStep.user_ne_none hne

lemma Fits.identity_stays (hC : Fits C) (h : History C g) {n m : Nat} (hnm : n ≤ m) (hm : m ≤ g.csn) {i : Uuid}
    {r : AuthIdentity} (hr : (g.version n).get (.authIdentities i) = some r) :
    ∃ r', (g.version m).get (.authIdentities i) = some r' ∧ r'.userId = r.userId ∧ r'.provider = r.provider ∧
      r'.providerId = r.providerId := by
  refine h.stable (P := fun s => ∃ r', s.get (.authIdentities i) = some r' ∧ r'.userId = r.userId ∧
    r'.provider = r.provider ∧ r'.providerId = r.providerId) ?_ hnm hm ⟨r, hr, rfl, rfl, rfl⟩
  rintro g₁ e - hc ⟨r₁, hr₁, hu, hp, hpi⟩
  obtain ⟨r₂, hr₂, hu₂, hp₂, hpi₂⟩ := (hC.ok _ _ hc.ok).accountStep.identity_stays hr₁
  exact ⟨r₂, hr₂, hu₂.trans hu, hp₂.trans hp, hpi₂.trans hpi⟩

end Histories

end JamyeServer.Accounts
