import JamyeServer.Postgres.Restores
import JamyeServer.Purge.System

/-!
# What the transactions do to accounts
-/

namespace JamyeServer.Purge

open ReadCommitted Prog Postgres Auth Moderation Push AccountDeletion AccountPurge

variable {ε β ω : Type} {sys : ReadCommitted.System Row Nat Idx ε β ω} {C : Contract sys} {l l' L : Local Row Nat}
  {g g' G : ReadCommitted.Shared Row Nat β ω}

section Frames

/-- A relation on the rows of accounts and tombstones; the other tables may change in any way. -/
def onAccounts (A : Uuid → Option User → Option User → Prop)
    (B : Uuid → Option AnonymousAuthorTombstone → Option AnonymousAuthorTombstone → Prop) :
    (k : Key) → Option (Row k) → Option (Row k) → Prop
  | .users i, base, u => A i base u
  | .anonymousAuthorTombstones i, base, t => B i base t
  | _, _, _ => True

/-- The account stays, with the same time of deletion. -/
def SameDeletion (base u : Option User) : Prop := u.map User.deletedAt = base.map User.deletedAt

/-- No account is created, deleted, restored or purged. -/
abbrev Undisturbed : (k : Key) → Option (Row k) → Option (Row k) → Prop :=
  onAccounts (fun _ => SameDeletion) fun _ base t => t = base

lemma SameDeletion.change {base : Option User} {u u' : User} (h : SameDeletion base (some u))
    (hu : u'.deletedAt = u.deletedAt) : SameDeletion base (some u') := by
  rw [SameDeletion, ← h]
  simp [hu]

variable {A : Uuid → Option User → Option User → Prop}
  {B : Uuid → Option AnonymousAuthorTombstone → Option AnonymousAuthorTombstone → Prop}

lemma onCore_onAccounts : OnCore (onAccounts A B) := by
  intro k base v hk
  cases k with
  | users | anonymousAuthorTombstones => cases hk
  | _ => trivial

lemma allowsProfile_undisturbed : AllowsProfile Undisturbed := fun _ _ _ _ hu h => hu.change h

/-- The account may be marked as deleted while it is live. -/
def MayDelete (base u : Option User) : Prop :=
  SameDeletion base u ∨ ∃ v v', base = some v ∧ u = some v' ∧ v.deletedAt = none

lemma keeps_markUserDeleted {userId : Uuid} :
    (markUserDeleted userId).Keeps C (onAccounts (fun _ => MayDelete) fun _ base t => t = base) := by
  refine keeps_clock.bind fun now => Keeps.bind (keeps_update fun s i base t u u' a hu hf => ?_) fun _ =>
    keeps_ofOption
  split at hf
  · rename_i hlive
    cases hf
    rcases hu with hu | ⟨v, v', hbase, -, hv⟩
    · obtain ⟨v, rfl⟩ : ∃ v, base = some v := by
        cases base with
        | none => cases hu
        | some v => exact ⟨v, rfl⟩
      have hd : u.deletedAt = v.deletedAt := Option.some.inj hu
      exact .inr ⟨v, _, rfl, rfl, hd.symm.trans hlive⟩
    · exact .inr ⟨v, _, hbase, rfl, hv⟩
  · cases hf

lemma keeps_startGracePeriod {userId : Uuid} :
    (startGracePeriod userId).Keeps C (onAccounts (fun _ => MayDelete) fun _ base t => t = base) := by
  refine keeps_markUserDeleted.bind fun _ => ?_
  refine Keeps.bind ((keeps_update fun _ _ _ _ _ _ _ _ _ => trivial).bind fun _ => keeps_ret) fun _ => ?_
  refine (keeps_revokeRefreshSessions onCore_onAccounts).bind fun _ => ?_
  refine (keeps_disablePushInstallations onCore_onAccounts).bind fun _ => ?_
  refine (keeps_softDeleteAuthIdentities onCore_onAccounts).bind fun _ => ?_
  exact (keeps_appendRealtimeRevocations onCore_onAccounts).bind fun _ => keeps_ret

lemma keeps_deleteAccountGrace {userId : Uuid} :
    (deleteAccountGrace userId).Keeps C (onAccounts (fun _ => MayDelete) fun _ base t => t = base) :=
  keeps_prepareDeletion.mapError.bind fun _ => keeps_startGracePeriod.mapError.bind fun _ =>
    (keeps_each fun _ _ => (keeps_fenceMembershipRevocation onCore_onAccounts).mapError).bind fun _ => keeps_ret

end Frames

section Claims

lemma DueAt.of_same {grace : Nat} {now : Time} {base : Option User} {u : User} (h : SameDeletion base (some u))
    (hu : purgeable grace now u = true) : DueAt grace now base := by
  simp only [purgeable, Bool.and_eq_true] at hu
  obtain ⟨d, hd, hdue⟩ := (Option.any_eq_true _ _).mp hu.1
  cases base with
  | none => cases h
  | some v =>
    have hv : u.deletedAt = v.deletedAt := Option.some.inj h
    exact ⟨v, d, rfl, hv.symm.trans hd, of_decide_eq_true hdue⟩

/-- A worker writes the accounts that it claims, and they are due. -/
lemma claimPurges_runs {owner : String} {grace : Nat} {now expiresAt : Time} {n : Nat} {is : List Uuid}
    {claims : List AccountPurgeClaim} (hrows : Rows Undisturbed G l)
    (h : Runs C (claimPurges owner grace now expiresAt n is) l g (.ok claims) l' g' L G) :
    ∀ claim ∈ claims, .users claim.userId ∈ L.writes.map Write.key ∧ DueAt grace now (G.db.get (.users claim.userId)) := by
  induction is generalizing n l g l' g' claims with
  | nil =>
    cases n <;> obtain ⟨rfl, -⟩ := h.ret <;> exact List.forall_mem_nil _
  | cons i is ih =>
    cases n with
    | zero =>
      obtain ⟨rfl, -⟩ := h.ret
      exact List.forall_mem_nil _
    | succ n =>
      obtain ⟨skip, l₁, g₁, h₁, h₂⟩ := h.bind
      have hrows₁ : Rows Undisturbed G l₁ :=
        (keeps_of_touches (p := (pick : Sql AccountDeletionRepositoryError Nat)) ⟨trivial, fun _ => trivial⟩).rows h₁ hrows
      split at h₂
      · exact ih hrows₁ h₂
      obtain ⟨claimed, l₂, g₂, h₃, h₄⟩ := h₂.bind
      have hchange := h₃.changeRow (by decide)
      have hrows₂ : Rows Undisturbed G l₂ := (keeps_claimPurge allowsProfile_undisturbed).rows h₃ hrows₁
      cases claimed with
      | none => exact ih hrows₂ h₄
      | some claim =>
        obtain ⟨rest, l₃, g₃, h₅, h₆⟩ := h₄.bind
        obtain ⟨rfl, -⟩ := h₆.ret
        have hrest := ih hrows₂ h₅
        rcases hchange with ⟨hnone, -⟩ | ⟨t, u, -, hu, ⟨-, hnone, -⟩ | ⟨v, b, hf, hb, rfl⟩⟩
        · cases hnone
        · cases hnone
        · split at hf
          · rename_i hdue
            cases hf
            cases hb
            intro c hc
            rcases List.mem_cons.mp hc with rfl | hc
            · refine ⟨?_, DueAt.of_same ?_ hdue⟩
              · obtain ⟨ws, hws⟩ := h₅.evolve.writes
                simp [hws]
              have hbase := hrows₁ (.users i)
              rw [hu] at hbase
              exact hbase
            · exact hrest c hc
          · cases hf

lemma claimAccountPurges_runs {request : AccountPurgeClaimRequest} {claims : List AccountPurgeClaim}
    (hrows : Rows Undisturbed G l) (h : Runs C (claimAccountPurges request) l g (.ok claims) l' g' L G) :
    ∃ now, Clocked C g g' now ∧ ∀ claim ∈ claims, .users claim.userId ∈ L.writes.map Write.key ∧
      DueAt request.grace now (G.db.get (.users claim.userId)) := by
  unfold claimAccountPurges at h
  obtain ⟨_, l₁, g₁, h₁, h₂⟩ := h.bind
  obtain ⟨lease, l₂, g₂, h₃, h₄⟩ := h₂.bind
  obtain ⟨s, l₃, g₃, h₅, h₆⟩ := h₄.bind
  obtain ⟨now, l₄, g₄, h₇, h₈⟩ := h₆.bind
  have hrows₄ : Rows Undisturbed G l₄ := keeps_clock.rows h₇ (keeps_snapshot.rows h₅
    (keeps_ofOption.rows h₃ (keeps_ensure.rows h₁ hrows)))
  refine ⟨now, h₇.clock.2.mono ?_ h₈.returns.evolve.later, claimPurges_runs hrows₄ h₈⟩
  exact (h₁.returns.evolve.later.trans h₃.returns.evolve.later).trans h₅.returns.evolve.later

end Claims

section Exchange

/-- One account may be deleted or restored. -/
def ChangedOnly (userId i : Uuid) (base u : Option User) : Prop :=
  SameDeletion base u ∨ i = userId ∧ base.isSome = true ∧ u.isSome = true

lemma SameDeletion.isSome {base u : Option User} (h : SameDeletion base u) : base.isSome = u.isSome := by
  have := congrArg Option.isSome h
  simpa using this.symm

lemma keeps_restoreAccount {identityId userId : Uuid} {session : NewRefreshSession} :
    (do
      ensureNotSuspended userId
      let _ ← update Tables.users (fun s => s.one Tables.users userId fun _ => true)
        (fun _ _ _ u => some (User.restore u, ())) (.unavailable "user_restore")
      let _ ← update Tables.authIdentities (fun s => s.one Tables.authIdentities identityId fun _ => true)
        (fun _ _ _ r => some (AuthIdentity.restore r, ())) (.unavailable "identity_restore")
      let _ ← update Tables.memberships (fun s => s.ids Tables.memberships fun _ r => membershipRestorable userId s r)
        (fun s _ _ r => if membershipRestorable userId s r then some (Membership.restore r, ()) else none)
        (.unavailable "membership_restore")
      insertRefreshSession session.id userId session.familyId session.parentSessionId session.tokenHash
        session.expiresAt
      ret (some (⟨userId, session.id⟩ : IssuedSession)) : Sql AuthRepositoryError _).Keeps C
      (onAccounts (ChangedOnly userId) fun _ base t => t = base) := by
  refine Keeps.bind (keeps_select.bind fun _ => keeps_ensure) fun _ => ?_
  refine Keeps.bind (keeps_update_of_mem fun s i base t u u' a hi hu hf => ?_) fun _ => ?_
  · obtain ⟨rfl, -⟩ := Store.mem_one.mp hi
    cases hf
    refine .inr ⟨rfl, ?_, rfl⟩
    rcases hu with hu | ⟨-, hbase, -⟩
    · exact hu.isSome
    · exact hbase
  refine Keeps.bind (keeps_update fun _ _ _ _ _ _ _ _ _ => trivial) fun _ => ?_
  refine Keeps.bind (keeps_update fun _ _ _ _ _ _ _ _ _ => trivial) fun _ => ?_
  exact (keeps_insertRefreshSession onCore_onAccounts).bind fun _ => keeps_ret

/-- One account, under an id that no row has, may be created. -/
def CreatedOnly (userId i : Uuid) (base u : Option User) : Prop :=
  i ≠ userId ∧ SameDeletion base u ∨ i = userId ∧ base = none ∧ ∀ v, u = some v → v.deletedAt = none

lemma keeps_createAccount {identity : NewProviderIdentity} {userId : Uuid} :
    (do
      let now ← clock
      insertRow (.users userId)
        { nickname := identity.nickname, avatarUrl := identity.avatarUrl, createdAt := now } []
        (.unavailable "user_insert")
      let identityId ← fresh
      let now ← clock
      let claimed ← insertOrSkip (.authIdentities identityId)
        { userId := userId, provider := identity.provider, providerId := identity.providerId,
          createdAt := now }
        [.users userId] (.unavailable "identity_insert")
      if claimed then ret userId
      else do
        let canonical ← select (identityLookup identity)
        let canonicalUserId ← ofOption canonical (.unavailable "identity_convergence")
        let _ ← delete Tables.users (fun s => s.one Tables.users userId fun _ => true)
          (fun _ _ _ => true) (.unavailable "speculative_user_cleanup")
        ret canonicalUserId : Sql AuthRepositoryError Uuid).Keeps C
      (onAccounts (CreatedOnly userId) fun _ base t => t = base) := by
  refine keeps_clock.bind fun now => Keeps.bind (keeps_insertRow fun base hbase => ?_) fun _ => ?_
  · rcases hbase with ⟨hne, -⟩ | ⟨-, hbase, -⟩
    · exact absurd rfl hne
    · exact .inr ⟨rfl, hbase, fun v hv => by cases hv; rfl⟩
  refine keeps_fresh.bind fun _ => keeps_clock.bind fun _ => Keeps.bind (keeps_insertOrSkip fun _ _ => trivial) fun c => ?_
  split
  · exact keeps_ret
  · refine keeps_select.bind fun _ => keeps_ofOption.bind fun _ =>
      Keeps.bind (keeps_delete_of_mem fun s i base u hi hu _ => ?_) fun _ => keeps_ret
    obtain ⟨rfl, -⟩ := Store.mem_one.mp hi
    rcases hu with ⟨hne, -⟩ | ⟨-, hbase, -⟩
    · exact absurd rfl hne
    · exact .inr ⟨rfl, hbase, fun _ h => (Option.some_ne_none _ h.symm).elim⟩

lemma exchangeAccount_steps {identity : NewProviderIdentity} {userId : Uuid} (hC : DrawnKeys C Key.users)
    (hg : History C g) (hrows : Rows Undisturbed G l)
    (h : Runs C (exchangeAccount identity) l g (.ok userId) l' g' L G) :
    Rows Undisturbed G l' ∨ ∃ T, T ∈ L.drawn ∧ (∀ n, n ≤ G.csn → (G.version n).get (.users T) = none) ∧
      Rows (onAccounts (CreatedOnly T) fun _ base t => t = base) G l' := by
  unfold exchangeAccount at h
  obtain ⟨found, l₁, g₁, h₁, h₂⟩ := h.bind
  have hrows₁ : Rows Undisturbed G l₁ := keeps_select.rows h₁ hrows
  cases found with
  | some userId =>
    obtain ⟨-, rfl⟩ := h₂.ret
    exact .inl hrows₁
  | none =>
    obtain ⟨T, l₂, g₂, h₃, h₄⟩ := h₂.bind
    obtain ⟨hdrawn, hnew⟩ := hC.fresh (h₁.returns.evolve.later.history hg) h₃
    have hrows₂ : Rows Undisturbed G l₂ := keeps_fresh.rows h₃ hrows₁
    refine .inr ⟨T, hdrawn, hnew, keeps_createAccount.rows h₄ fun k => ?_⟩
    have hk := hrows₂ k
    cases k with
    | users i =>
      by_cases hi : i = T
      · subst hi
        have hbase : G.db.get (.users i) = none := hnew _ (Nat.le_refl _)
        have hview := SameDeletion.isSome hk
        rw [hbase] at hview
        refine .inr ⟨rfl, hbase, fun v hv => ?_⟩
        rw [hv] at hview
        cases hview
      · exact .inl ⟨hi, hk⟩
    | anonymousAuthorTombstones i => exact hk
    | _ => trivial

lemma undisturbed_of_empty (hl : l.writes = []) : Rows Undisturbed G l := by
  refine rows_of_empty hl fun k => ?_
  cases k <;> first | exact rfl | trivial

/-- A sign-in into an account that is not deleted creates at most one account. -/
lemma createSessionRecord_rows {identity : NewProviderIdentity} {session : NewRefreshSession} {issued : IssuedSession}
    (hC : DrawnKeys C Key.users) (hg : History C g) (hl : l.writes = [])
    (h : Runs C (createSessionRecord identity session) l g (.ok issued) l' g' L G) :
    Rows Undisturbed G l' ∨ ∃ T, T ∈ L.drawn ∧ (∀ n, n ≤ G.csn → (G.version n).get (.users T) = none) ∧
      Rows (onAccounts (CreatedOnly T) fun _ base t => t = base) G l' := by
  unfold createSessionRecord at h
  obtain ⟨userId, l₁, g₁, h₁, h₂⟩ := h.bind
  obtain ⟨_, l₂, g₂, h₃, h₄⟩ := h₂.bind
  obtain ⟨_, l₃, g₃, h₅, h₆⟩ := h₄.bind
  obtain ⟨-, rfl⟩ := h₆.ret
  rcases exchangeAccount_steps hC hg (undisturbed_of_empty hl) h₁ with hrows | ⟨T, hdrawn, hnew, hrows⟩
  · exact .inl ((keeps_insertRefreshSession onCore_onAccounts).rows h₅ (keeps_ensureNotSuspendedForExchange.rows h₃ hrows))
  · exact .inr ⟨T, hdrawn, hnew,
      (keeps_insertRefreshSession onCore_onAccounts).rows h₅ (keeps_ensureNotSuspendedForExchange.rows h₃ hrows)⟩

end Exchange

end JamyeServer.Purge
