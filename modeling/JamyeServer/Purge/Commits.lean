import JamyeServer.Purge.Transactions

/-!
# What the transactions commit

Every transaction ends as `Ok` says. For a restore that needs the workers' discipline: a claim was either committed
before the restore tested the grace period, and then it was due by the restore's clock, or it has changed the account
since, and the restore tests it again.
-/

namespace JamyeServer.Purge

open ReadCommitted Prog Postgres Auth Moderation Push AccountDeletion AccountPurge

variable {settings : Settings} {ticks : Time → Time → Bool} {l l' L : Local Row Nat} {g g' G : Shared}

section Steps

variable {grace : Nat} {e : Entry} {userId : Uuid} {base u : Option User}

lemma UserStep.of_same (h : SameDeletion base u) : UserStep grace e G userId base u := by
  cases base with
  | none =>
    cases u with
    | none => exact .absent
    | some v => cases h
  | some w =>
    cases u with
    | none => cases h
    | some v => exact .kept (Option.some.inj h)

lemma UserStep.of_mayDelete (h : MayDelete base u) : UserStep grace e G userId base u := by
  rcases h with h | ⟨v, v', rfl, rfl, hv⟩
  · exact .of_same h
  · exact .deleted hv

/-- A transaction that neither claims nor finalizes is as `Ok` says if the accounts are. -/
lemma Ok.of_account {job : Accounts.Job} {out : Accounts.Outcome} {ran : Local Row Nat}
    (husers : ∀ i, UserStep grace ⟨.account job, .account out, ran⟩ g i (g.db.get (.users i)) ((g.view ran).get (.users i)))
    (htombstones : ∀ i, (g.view ran).get (.anonymousAuthorTombstones i) = g.db.get (.anonymousAuthorTombstones i)) :
    Ok grace ⟨.account job, .account out, ran⟩ g where
  users := husers
  claims request hjob := nomatch hjob
  claimJob claim hclaim := by
    obtain ⟨claims, hout, -⟩ := hclaim
    cases hout
  finalized claim hjob := nomatch hjob
  tombstones i hi := by rwa [htombstones i]

end Steps

section Restore

variable {identity : NewProviderIdentity} {n : Nat} {identityId : Uuid} {r : AuthIdentity} {u : User}

/-- The claims of an account that is about to be restored were due when the sign-in tested it. -/
lemma claimsDue_of_held (hticks : ∀ t t', ticks t t' = true → t ≤ t') (hg : History (contract settings ticks) g)
    (h : HoldsDeleted (contract settings ticks) identity settings.accountPurgeGrace n g L G identityId r u) :
    ClaimsDue settings.accountPurgeGrace G r.userId g.now := by
  intro k e claim he hclaim hid
  rcases Nat.lt_or_ge k g.csn with hlt | hge
  · -- the claim was committed before, at an earlier time
    have he₁ : g.log[k]? = some e := by
      obtain ⟨es, hes⟩ := h.later.log
      rwa [hes, List.getElem?_append_left hlt] at he
    obtain ⟨g₂, -, rfl, hc, hlater⟩ := hg.entry he₁
    obtain ⟨request, hjob⟩ := hc.ok.claimJob claim hclaim
    obtain ⟨-, ⟨v, t, hv, ht, hdue⟩, -⟩ := hc.ok.claims request hjob claim hclaim
    have hgrace : request.grace = settings.accountPurgeGrace := hc.assume.1 request hjob
    have hnow : g₂.now ≤ g.now := (hlater.now_le hticks : (g₂.commit e).now ≤ g.now)
    rw [hgrace] at hdue
    refine ⟨v, t, ?_, ht, Nat.le_trans hdue hnow⟩
    rw [(hlater.trans h.later).version_commit.1, ← hid]
    exact hv
  · -- a later claim would have changed the account
    obtain ⟨g₂, -, rfl, hc, -⟩ := (h.later.history hg).entry he
    obtain ⟨request, hjob⟩ := hc.ok.claimJob claim hclaim
    obtain ⟨hwrites, -⟩ := hc.ok.claims request hjob claim hclaim
    rw [hid] at hwrites
    exact absurd hwrites (h.account.unwritten hge he)

lemma UserStep.of_restored {i : Uuid} {e : Entry} {after : Option User}
    (hticks : ∀ t t', ticks t t' = true → t ≤ t') (hg : History (contract settings ticks) g)
    (h : HoldsDeleted (contract settings ticks) identity settings.accountPurgeGrace n g L G identityId r u)
    (hstep : ChangedOnly r.userId i (G.db.get (.users i)) after) :
    UserStep settings.accountPurgeGrace e G i (G.db.get (.users i)) after := by
  rcases hstep with hsame | ⟨rfl, -, hafter⟩
  · exact .of_same hsame
  · obtain ⟨v, rfl⟩ := Option.isSome_iff_exists.mp hafter
    obtain ⟨d, hd, hopen⟩ := h.deletedAt
    rw [h.account.db]
    exact .restored hd hopen (claimsDue_of_held hticks hg h)

end Restore

section Drawn

lemma drawnKeys : DrawnKeys (contract settings ticks) Key.users where
  init g hg := hg.drawn
  insert e g hc i hnone hsome := by
    have hstep := hc.ok.users i
    rw [hnone] at hstep
    revert hsome
    generalize (g.view e.ran).get (.users i) = after at hstep
    intro hsome
    cases hstep with
    | absent => exact absurd rfl hsome
    | created drawn => exact drawn

lemma UserStep.of_created {userId i : Uuid} {e : Entry} {after : Option User} (hdrawn : userId ∈ e.ran.drawn)
    (hnew : ∀ n, n ≤ G.csn → (G.version n).get (.users userId) = none)
    (hstep : CreatedOnly userId i (G.db.get (.users i)) after) :
    UserStep settings.accountPurgeGrace e G i (G.db.get (.users i)) after := by
  rcases hstep with ⟨-, hsame⟩ | ⟨rfl, hbase, hlive⟩
  · exact .of_same hsame
  · rw [hbase]
    cases after with
    | none => exact .absent
    | some v => exact .created hdrawn (hlive v rfl) hnew

end Drawn

section Exchange

variable {identity : NewProviderIdentity}

/-- What a sign-in does to accounts and tombstones. -/
structure SignInSteps (grace : Nat) (e : Entry) (l : Local Row Nat) (G : Shared) : Prop where
  users : ∀ i, UserStep grace e G i (G.db.get (.users i)) ((G.view l).get (.users i))
  tombstones : ∀ i, (G.view l).get (.anonymousAuthorTombstones i) = G.db.get (.anonymousAuthorTombstones i)

lemma SignInSteps.of_undisturbed {grace : Nat} {e : Entry} (h : Rows Undisturbed G l) : SignInSteps grace e l G :=
  ⟨fun i => .of_same (h (.users i)), fun i => h (.anonymousAuthorTombstones i)⟩

lemma restoreDeletedIdentityRecord_steps (hticks : ∀ t t', ticks t t' = true → t ≤ t') {e : Entry}
    {session : NewRefreshSession} {x : Option IssuedSession} (hg : History (contract settings ticks) g)
    (hl : l.writes = [])
    (h : Runs (contract settings ticks)
      (restoreDeletedIdentityRecord identity session settings.accountPurgeGrace) l g (.ok x) l' g' L G) :
    (x = none → l'.writes = []) ∧ ∀ issued, x = some issued → SignInSteps settings.accountPurgeGrace e l' G := by
  unfold restoreDeletedIdentityRecord at h
  obtain ⟨y, l₁, g₁, h₁, h₂⟩ := h.bind
  obtain ⟨n, hframe, -, hholds⟩ := identityRestoreLookup_runs hl h₁
  have hl₁ : l₁.writes = [] := by rw [hframe, hl]
  cases y with
  | none =>
    obtain ⟨rfl, rfl⟩ := h₂.ret
    exact ⟨fun _ => hl₁, nofun⟩
  | some p =>
    obtain ⟨identityId, r, u, g₂, rfl, hg₂, -, hheld⟩ := hholds _ rfl
    have hrows := keeps_restoreAccount.rows h₂ <| rows_of_empty hl₁ fun k => by
      cases k <;> first | exact .inl rfl | exact rfl | trivial
    refine ⟨fun hx => ?_, fun issued _ => ⟨fun i => ?_, fun i => ?_⟩⟩
    · subst hx
      obtain ⟨_, _, _, -, hrest⟩ := h₂.bind
      obtain ⟨_, _, _, -, hrest⟩ := hrest.bind
      obtain ⟨_, _, _, -, hrest⟩ := hrest.bind
      obtain ⟨_, _, _, -, hrest⟩ := hrest.bind
      obtain ⟨_, _, _, -, hrest⟩ := hrest.bind
      cases hrest.ret.1
    · exact .of_restored hticks (hg₂.history hg) hheld (hrows (.users i))
    · exact hrows (.anonymousAuthorTombstones i)

lemma createSessionRecord_steps {e : Entry} {session : NewRefreshSession} {issued : IssuedSession}
    (hg : History (contract settings ticks) g) (hl : l.writes = []) (he : e.ran = L)
    (h : Runs (contract settings ticks) (createSessionRecord identity session) l g (.ok issued) l' g' L G) :
    SignInSteps settings.accountPurgeGrace e l' G := by
  rcases createSessionRecord_rows drawnKeys hg hl h with hrows | ⟨T, hdrawn, hnew, hrows⟩
  · exact .of_undisturbed hrows
  · exact ⟨fun i => .of_created (he ▸ hdrawn) hnew (hrows (.users i)), fun i => hrows (.anonymousAuthorTombstones i)⟩

lemma exchange_steps (hticks : ∀ t t', ticks t t' = true → t ≤ t') {e : Entry} {now : Time}
    {output : AuthExchangeOutput} (hg : History (contract settings ticks) g) (hl : l.writes = []) (he : e.ran = L)
    (h : Runs (contract settings ticks) (createOrRestoreSession settings identity now) l g (.ok output) l' g' L G) :
    SignInSteps settings.accountPurgeGrace e l' G := by
  unfold createOrRestoreSession at h
  obtain ⟨tokenHash, l₁, g₁, h₁, hrest⟩ := h.bind
  obtain ⟨sessionId, l₂, g₂, h₂, hrest⟩ := hrest.bind
  obtain ⟨familyId, l₃, g₃, h₃, hrest⟩ := hrest.bind
  obtain ⟨restored, l₄, g₄, h₄, h₅⟩ := hrest.bind
  have hg₃ : Later _ g g₃ :=
    (h₁.returns.evolve.later.trans h₂.returns.evolve.later).trans h₃.returns.evolve.later
  have hg₄ : Later _ g g₄ := hg₃.trans h₄.returns.evolve.later
  have hl₃ : l₃.writes = [] := by
    rw [h₃.fresh.1, h₂.fresh.1, h₁.fresh.1]
    exact hl
  obtain ⟨hnone, hsome⟩ := restoreDeletedIdentityRecord_steps (e := e) hticks (hg₃.history hg) hl₃ h₄.mapError
  cases restored with
  | some issued =>
    obtain ⟨-, rfl⟩ := h₅.ret
    exact hsome issued rfl
  | none =>
    obtain ⟨issued, l₅, g₅, h₆, h₇⟩ := h₅.bind
    obtain ⟨-, rfl⟩ := h₇.ret
    exact createSessionRecord_steps (hg₄.history hg) (hnone rfl) he h₆.mapError

end Exchange

section Finalize

variable {ε β ω : Type} {sys : ReadCommitted.System Row Nat Idx ε β ω} {C : Contract sys}
  {g g' G : ReadCommitted.Shared Row Nat β ω}

/-- A tombstone with the id `T` is new; all other accounts and tombstones are the same. -/
abbrev WithTombstone (T : Uuid) : (k : Key) → Option (Row k) → Option (Row k) → Prop :=
  onAccounts (fun i base u => i ≠ T ∧ u = base ∨ i = T ∧ base = none ∧ ∃ v, u = some v ∧ v.deletedAt = none)
    fun i base t => i ≠ T ∧ t = base ∨ i = T ∧ base = none ∧ t ≠ none

lemma createTombstone_rows {T : Uuid} {x : Unit} (hl : l.writes = [])
    (h : Runs C (createTombstone T) l g (.ok x) l' g' L G) : Rows (WithTombstone T) G l' := by
  unfold createTombstone at h
  obtain ⟨now, l₁, g₁, h₁, hrest⟩ := h.bind
  obtain ⟨_, l₂, g₂, h₂, hrest⟩ := hrest.bind
  obtain ⟨now', l₃, g₃, h₃, h₄⟩ := hrest.bind
  obtain ⟨rfl, -⟩ := h₁.clock
  obtain ⟨rfl, -⟩ := h₃.clock
  have hu := h₂.insertRow
  have ht := h₄.insertRow
  have huser := hu.absent
  have htomb := ht.absent
  rw [hl, Store.apply_nil] at huser
  rw [hu.get_of_ne _ (nofun : Key.anonymousAuthorTombstones T ≠ .users T), hl, Store.apply_nil] at htomb
  intro k
  cases k with
  | users i =>
    rw [ht.get_of_ne _ (nofun : Key.users i ≠ .anonymousAuthorTombstones T)]
    by_cases hi : i = T
    · subst hi
      exact .inr ⟨rfl, huser, _, hu.get _, rfl⟩
    · refine .inl ⟨hi, ?_⟩
      rw [hu.get_of_ne _ (by simpa using hi), hl, Store.apply_nil]
  | anonymousAuthorTombstones i =>
    by_cases hi : i = T
    · subst hi
      refine .inr ⟨rfl, htomb, ?_⟩
      rw [ht.get]
      exact nofun
    · refine .inl ⟨hi, ?_⟩
      rw [ht.get_of_ne _ (by simpa using hi), hu.get_of_ne _ (nofun : Key.anonymousAuthorTombstones i ≠ .users T), hl,
        Store.apply_nil]
  | _ => trivial

section Frames

variable {A : Uuid → Option User → Option User → Prop}
  {B : Uuid → Option AnonymousAuthorTombstone → Option AnonymousAuthorTombstone → Prop} {user tombstone : Uuid}

lemma keeps_reassignArchivedGroupOwners :
    (reassignArchivedGroupOwners user tombstone).Keeps C (onAccounts A B) :=
  (keeps_update fun _ _ _ _ _ _ _ _ _ => trivial).bind fun _ => keeps_ret

lemma keeps_deletePurgeableMemberships : (deletePurgeableMemberships user).Keeps C (onAccounts A B) :=
  (keeps_delete fun _ _ _ _ _ _ => trivial).bind fun _ => keeps_ret

end Frames

/-- The last statements of a purge delete the account. -/
structure DeletesAccount (userId : Uuid) (l l' : Local Row Nat) (G : ReadCommitted.Shared Row Nat β ω) : Prop where
  row : ∃ u, (G.db.apply l.writes).get (.users userId) = some u ∧ u.deletedAt ≠ none
  gone : (G.db.apply l'.writes).get (.users userId) = none
  others : ∀ i, i ≠ userId → (G.db.apply l'.writes).get (.users i) = (G.db.apply l.writes).get (.users i)
  tombstones : ∀ i, (G.db.apply l'.writes).get (.anonymousAuthorTombstones i) =
    (G.db.apply l.writes).get (.anonymousAuthorTombstones i)

lemma deleteUser_runs {userId : Uuid} {x : Unit}
    (h : Runs C (do
      let deleted ← delete Tables.users (fun s => s.one Tables.users userId fun u => u.deletedAt.isSome)
        (fun _ _ u => u.deletedAt.isSome) (.unavailable "account_deletion_user_delete")
      ensure (deleted.length = 1) .accountNotFound : Sql AccountDeletionRepositoryError Unit)
      l g (.ok x) l' g' L G) : DeletesAccount userId l l' G := by
  obtain ⟨deleted, l₁, g₁, h₁, h₂⟩ := h.bind
  obtain ⟨hlength, rfl⟩ := h₂.ensure
  obtain ⟨gs, ws, -, -, hch⟩ := h₁.delete fun s => s.nodup_one ..
  obtain ⟨i, hi⟩ : ∃ i, i ∈ deleted := List.exists_mem_of_length_pos (by omega)
  obtain ⟨j, hj, t, u, v, -, -, hrow, hf, hafter⟩ := hch.returned hi
  obtain ⟨rfl, -⟩ := Store.mem_one.mp hj
  split at hf
  · rename_i hdel
    cases hf
    refine ⟨⟨u, hrow, Option.isSome_iff_ne_none.mp hdel⟩, hafter, fun k hk => ?_, fun k => ?_⟩
    · refine hch.get_of_ne _ fun m hm => ?_
      obtain ⟨rfl, -⟩ := Store.mem_one.mp hm
      simpa using hk
    · exact hch.get_of_ne _ fun m _ => nofun
  · cases hf

/-- The private rows of the account are deleted first; of accounts and tombstones these statements see and
change nothing. -/
lemma deletePrivateAccountRows_runs {userId : Uuid} {x : Unit}
    {A : Uuid → Option User → Option User → Prop}
    {B : Uuid → Option AnonymousAuthorTombstone → Option AnonymousAuthorTombstone → Prop}
    (hrows : Rows (onAccounts A B) G l)
    (h : Runs C (deletePrivateAccountRows userId) l g (.ok x) l' g' L G) :
    ∃ l₁, Rows (onAccounts A B) G l₁ ∧ DeletesAccount userId l₁ l' G := by
  unfold deletePrivateAccountRows at h
  obtain ⟨_, l₁, g₁, h₁, hrest⟩ := h.bind
  obtain ⟨_, l₂, g₂, h₂, hrest⟩ := hrest.bind
  obtain ⟨_, l₃, g₃, h₃, hrest⟩ := hrest.bind
  obtain ⟨_, l₄, g₄, h₄, hrest⟩ := hrest.bind
  obtain ⟨_, l₅, g₅, h₅, hrest⟩ := hrest.bind
  obtain ⟨_, l₆, g₆, h₆, hrest⟩ := hrest.bind
  obtain ⟨_, l₇, g₇, h₇, hrest⟩ := hrest.bind
  obtain ⟨_, l₈, g₈, h₈, hrest⟩ := hrest.bind
  refine ⟨l₈, ?_, deleteUser_runs hrest⟩
  have hrows₁ := (keeps_delete (T := Tables.pushDeliveryIntents) fun _ _ _ _ _ _ => trivial).rows h₁ hrows
  have hrows₂ := (keeps_delete (T := Tables.notifications) fun _ _ _ _ _ _ => trivial).rows h₂ hrows₁
  have hrows₃ := (keeps_delete (T := Tables.pushInstallations) fun _ _ _ _ _ _ => trivial).rows h₃ hrows₂
  have hrows₄ := (keeps_delete (T := Tables.chatroomReads) fun _ _ _ _ _ _ => trivial).rows h₄ hrows₃
  have hrows₅ := (keeps_delete (T := Tables.invites) fun _ _ _ _ _ _ => trivial).rows h₅ hrows₄
  have hrows₆ := (keeps_delete (T := Tables.userBlocks) fun _ _ _ _ _ _ => trivial).rows h₆ hrows₅
  have hrows₇ := (keeps_delete (T := Tables.refreshSessions) fun _ _ _ _ _ _ => trivial).rows h₇ hrows₆
  exact (keeps_delete (T := Tables.authIdentities) fun _ _ _ _ _ _ => trivial).rows h₈ hrows₇

/-- What a purge commits. -/
structure Purged (T userId : Uuid) (l : Local Row Nat) (G : ReadCommitted.Shared Row Nat β ω) : Prop where
  ne : userId ≠ T
  row : ∃ u, G.db.get (.users userId) = some u ∧ u.deletedAt ≠ none
  gone : (G.view l).get (.users userId) = none
  absent : G.db.get (.users T) = none
  created : ∃ v, (G.view l).get (.users T) = some v ∧ v.deletedAt = none
  others : ∀ i, i ≠ userId → i ≠ T → (G.view l).get (.users i) = G.db.get (.users i)
  noTombstone : G.db.get (.anonymousAuthorTombstones T) = none
  tombstone : (G.view l).get (.anonymousAuthorTombstones T) ≠ none
  otherTombstones : ∀ i, i ≠ T → (G.view l).get (.anonymousAuthorTombstones i) = G.db.get (.anonymousAuthorTombstones i)

lemma Purged.of_rows {T userId : Uuid} {l₁ : Local Row Nat} (hrows : Rows (WithTombstone T) G l₁)
    (h : DeletesAccount userId l₁ l G) : Purged T userId l G := by
  have hT : G.db.get (.users T) = none ∧ ∃ v, (G.db.apply l₁.writes).get (.users T) = some v ∧ v.deletedAt = none := by
    rcases hrows (.users T) with ⟨hne, -⟩ | ⟨-, hT⟩
    · exact absurd rfl hne
    · exact hT
  have hT' : G.db.get (.anonymousAuthorTombstones T) = none ∧
      (G.db.apply l₁.writes).get (.anonymousAuthorTombstones T) ≠ none := by
    rcases hrows (.anonymousAuthorTombstones T) with ⟨hne, -⟩ | ⟨-, hT⟩
    · exact absurd rfl hne
    · exact hT
  have hother : ∀ i, i ≠ T → (G.db.apply l₁.writes).get (.users i) = G.db.get (.users i) := by
    intro i hi
    rcases hrows (.users i) with ⟨-, heq⟩ | ⟨heq, -⟩
    · exact heq
    · exact absurd heq hi
  obtain ⟨u, hu, hdel⟩ := h.row
  have hne : userId ≠ T := by
    rintro rfl
    obtain ⟨-, v, hv, hlive⟩ := hT
    rw [hv] at hu
    cases hu
    exact hdel hlive
  refine ⟨hne, ⟨u, (hother userId hne).symm.trans hu, hdel⟩, h.gone, hT.1, ?_, fun i hi hiT => ?_, hT'.1, ?_, fun i hi => ?_⟩
  · obtain ⟨v, hv, hlive⟩ := hT.2
    exact ⟨v, (h.others T (Ne.symm hne)).trans hv, hlive⟩
  · exact (h.others i hi).trans (hother i hiT)
  · have htomb : (G.view l).get (.anonymousAuthorTombstones T) = _ := h.tombstones T
    rw [htomb]
    exact hT'.2
  · refine (h.tombstones i).trans ?_
    rcases hrows (.anonymousAuthorTombstones i) with ⟨-, heq⟩ | ⟨heq, -⟩
    · exact heq
    · exact absurd heq hi

lemma finalizeDeletion_runs {userId : Uuid} {report : AccountDeletionReport}
    (hC : DrawnKeys C Key.users) (hg : History C g) (hl : l.writes = [])
    (h : Runs C (finalizeDeletion userId) l g (.ok report) l' g' L G) :
    ∃ T, T ∈ L.drawn ∧ (∀ n, n ≤ G.csn → (G.version n).get (.users T) = none) ∧ Purged T userId l' G := by
  unfold finalizeDeletion at h
  obtain ⟨_, l₁, g₁, h₁, hrest⟩ := h.bind
  obtain ⟨T, l₂, g₂, h₂, hrest⟩ := hrest.bind
  obtain ⟨_, l₃, g₃, h₃, hrest⟩ := hrest.bind
  obtain ⟨_, l₄, g₄, h₄, hrest⟩ := hrest.bind
  obtain ⟨_, l₅, g₅, h₅, hrest⟩ := hrest.bind
  obtain ⟨_, l₆, g₆, h₆, hrest⟩ := hrest.bind
  obtain ⟨_, l₇, g₇, h₇, hrest⟩ := hrest.bind
  obtain ⟨_, l₈, g₈, h₈, hrest⟩ := hrest.bind
  obtain ⟨_, l₉, g₉, h₉, hrest⟩ := hrest.bind
  obtain ⟨_, l₁₀, g₁₀, h₁₀, hrest⟩ := hrest.bind
  obtain ⟨_, l₁₁, g₁₁, h₁₁, hrest⟩ := hrest.bind
  obtain ⟨_, l₁₂, g₁₂, h₁₂, hrest⟩ := hrest.bind
  obtain ⟨_, l₁₃, g₁₃, h₁₃, h₁₄⟩ := hrest.bind
  obtain ⟨-, rfl⟩ := h₁₄.ret
  obtain ⟨hdrawn, hnew⟩ := hC.fresh (h₁.returns.evolve.later.history hg) h₂
  have hl₂ : l₂.writes = [] := by
    obtain ⟨locked, l₀, g₀, h₀, h₀'⟩ := h₁.bind
    obtain ⟨gs, -, -, hlocked⟩ := h₀.selectFor nofun
    rw [h₂.fresh.1, h₀'.ensure.2, hlocked.frame]
    exact hl
  have hrows₃ := createTombstone_rows hl₂ h₃
  have hrows₇ := (keeps_scrubRetainedPayloads onCore_onAccounts).rows h₇ ((keeps_scrubRetainedNotificationProfiles onCore_onAccounts).rows h₆
    ((keeps_reassignRetainedAuthorship onCore_onAccounts).rows h₅ ((keeps_deleteAccountOccurrences onCore_onAccounts).rows h₄ hrows₃)))
  have hrows₉ := keeps_deletePurgeableMemberships.rows h₉ (keeps_reassignArchivedGroupOwners.rows h₈ hrows₇)
  have hrows₁₀ := (keeps_select.bind fun _ => keeps_ensure).rows h₁₀ hrows₉
  have hrows₁₂ := (keeps_enqueueAndDeleteAvatarUploads onCore_onAccounts).rows h₁₂
    ((keeps_enqueueAndDeleteUnboundUploads onCore_onAccounts).rows h₁₁ hrows₁₀)
  obtain ⟨lᵢ, hrows, hdeletes⟩ := deletePrivateAccountRows_runs hrows₁₂ h₁₃
  exact ⟨T, hdrawn, hnew, .of_rows hrows hdeletes⟩

end Finalize

section Programs

variable {out : Outcome}

lemma steps_of_mayDelete (h : Rows (onAccounts (fun _ => MayDelete) fun _ base t => t = base) G l) {grace : Nat}
    {e : Entry} : SignInSteps grace e l G :=
  ⟨fun i => .of_mayDelete (h (.users i)), fun i => h (.anonymousAuthorTombstones i)⟩

/-- The transactions on accounts commit as `Ok` says. -/
lemma account_commits (hticks : ∀ t t', ticks t t' = true → t ≤ t') {job : Accounts.Job}
    (hg : History (contract settings ticks) g)
    (h : Runs (contract settings ticks) (program settings (.account job)) (Local.begin g) g (.ok out) L g' L G) :
    Ok settings.accountPurgeGrace ⟨.account job, out, L⟩ G := by
  obtain ⟨outcome, l₁, g₁, h₁, h₂⟩ := h.bind
  obtain ⟨rfl, rfl⟩ := h₂.ret
  have h₃ := h₁.mapError
  have hempty : Rows Undisturbed G (Local.begin g) := undisturbed_of_empty rfl
  suffices hsteps : SignInSteps settings.accountPurgeGrace ⟨.account job, .account outcome, L⟩ L G from
    .of_account hsteps.users hsteps.tombstones
  cases job with
  | exchange identity now =>
    obtain ⟨output, l₄, g₄, h₄, h₅⟩ := h₃.bind
    obtain ⟨-, rfl⟩ := h₅.ret
    exact exchange_steps hticks hg rfl rfl h₄.mapError
  | refresh tokenHash now =>
    exact .of_undisturbed (((keeps_refresh onCore_onAccounts).mapError.bind fun _ => keeps_ret).rows h₃ hempty)
  | logout sessionId now =>
    exact .of_undisturbed (((keeps_logout onCore_onAccounts).mapError.bind fun _ => keeps_ret).rows h₃ hempty)
  | suspend command =>
    exact .of_undisturbed (((keeps_suspendUser onCore_onAccounts allowsProfile_undisturbed).mapError.bind fun _ => keeps_ret).rows h₃ hempty)
  | unsuspend userId =>
    exact .of_undisturbed (((keeps_unsuspendUser onCore_onAccounts allowsProfile_undisturbed).mapError.bind fun _ => keeps_ret).rows h₃ hempty)
  | deleteAccount userId =>
    refine steps_of_mayDelete ((keeps_deleteAccountGrace.mapError.bind fun _ => keeps_ret).rows h₃ ?_)
    refine rows_of_empty rfl fun k => ?_
    cases k <;> first | exact .inl rfl | exact rfl | trivial

lemma claim_commits (hticks : ∀ t t', ticks t t' = true → t ≤ t') {request : AccountPurgeClaimRequest}
    (h : Runs (contract settings ticks) (program settings (.claim request)) (Local.begin g) g (.ok out) L g' L G) :
    Ok settings.accountPurgeGrace ⟨.claim request, out, L⟩ G := by
  obtain ⟨claims, l₁, g₁, h₁, h₂⟩ := h.bind
  obtain ⟨rfl, rfl⟩ := h₂.ret
  have hempty : Rows Undisturbed G (Local.begin g) := undisturbed_of_empty rfl
  have hrows := (keeps_claimAccountPurges allowsProfile_undisturbed).rows h₁.mapError hempty
  obtain ⟨now, ⟨g₂, -, hg₂, rfl⟩, hclaims⟩ := claimAccountPurges_runs hempty h₁.mapError
  have hnow : g₂.now ≤ G.now := (hg₂.trans h₁.rest.later).now_le hticks
  have hmem : ∀ claim, ClaimedBy ⟨.claim request, .claimed claims, L⟩ claim → claim ∈ claims := by
    rintro claim ⟨cs, hout, hclaim⟩
    cases hout
    exact hclaim
  refine ⟨fun i => .of_same (hrows (.users i)), fun request' hjob claim hclaim => ?_, fun _ _ => ⟨request, rfl⟩,
    fun _ hjob => (nomatch hjob), fun i hi => ?_⟩
  · cases hjob
    obtain ⟨hwrites, v, d, hv, hd, hdue⟩ := hclaims claim (hmem claim hclaim)
    exact ⟨hwrites, ⟨v, d, hv, hd, Nat.le_trans hdue hnow⟩, hrows (.users claim.userId)⟩
  · have htomb : (G.view L).get (.anonymousAuthorTombstones i) = _ := hrows (.anonymousAuthorTombstones i)
    rwa [htomb]

lemma finalize_commits {claim : AccountPurgeClaim} (hg : History (contract settings ticks) g)
    (h : Runs (contract settings ticks) (program settings (.finalize claim)) (Local.begin g) g (.ok out) L g' L G) :
    Ok settings.accountPurgeGrace ⟨.finalize claim, out, L⟩ G := by
  obtain ⟨report, l₁, g₁, h₁, h₂⟩ := h.bind
  obtain ⟨rfl, rfl⟩ := h₂.ret
  obtain ⟨T, hdrawn, hnew, hp⟩ := finalizeDeletion_runs drawnKeys hg rfl h₁.mapError
  refine ⟨fun i => ?_, fun _ hjob => (nomatch hjob), fun claim' hclaim => ?_, fun claim' hjob => ?_, fun i hi => ?_⟩
  · by_cases hi : i = claim.userId
    · subst hi
      obtain ⟨u, hu, hdel⟩ := hp.row
      rw [hu, hp.gone]
      exact .purged hdel ⟨claim, rfl, rfl⟩
    · by_cases hiT : i = T
      · subst hiT
        obtain ⟨v, hv, hlive⟩ := hp.created
        rw [hv, hp.absent]
        exact .created hdrawn hlive hnew
      · exact .of_same (congrArg _ (hp.others i hi hiT))
  · obtain ⟨_, hout, -⟩ := hclaim
    cases hout
  · cases hjob
    obtain ⟨v, hv, -⟩ := hp.created
    refine ⟨hp.row, hp.gone, T, hp.absent, ?_, hp.noTombstone, hp.tombstone, hp.otherTombstones⟩
    rw [hv]
    exact nofun
  · by_cases hiT : i = T
    · subst hiT
      exact hp.tombstone
    · rwa [hp.otherTombstones i hiT]

lemma release_commits {claim : AccountPurgeClaim}
    (h : Runs (contract settings ticks) (program settings (.release claim)) (Local.begin g) g (.ok out) L g' L G) :
    Ok settings.accountPurgeGrace ⟨.release claim, out, L⟩ G := by
  obtain ⟨done, l₁, g₁, h₁, h₂⟩ := h.bind
  obtain ⟨rfl, rfl⟩ := h₂.ret
  have hrows := (keeps_releaseAccountPurgeClaim allowsProfile_undisturbed).rows h₁.mapError (undisturbed_of_empty rfl)
  refine ⟨fun i => .of_same (hrows (.users i)), fun _ hjob => (nomatch hjob), fun claim' hclaim => ?_,
    fun _ hjob => (nomatch hjob), fun i hi => ?_⟩
  · obtain ⟨_, hout, -⟩ := hclaim
    cases hout
  · have htomb : (G.view L).get (.anonymousAuthorTombstones i) = _ := hrows (.anonymousAuthorTombstones i)
    rwa [htomb]

theorem programs_contract (hticks : ∀ t t', ticks t t' = true → t ≤ t') : (contract settings ticks).Programs := by
  intro job g hg r l' g' h
  cases r with
  | error e => trivial
  | ok out =>
    have hruns : Runs (contract settings ticks) (program settings job) (Local.begin g) g (.ok out) l' g' l' g' :=
      ⟨h, .refl⟩
    cases job with
    | account job => exact account_commits hticks hg hruns
    | claim request => exact claim_commits hticks hruns
    | finalize claim => exact finalize_commits hg hruns
    | release claim => exact release_commits hruns

end Programs

end JamyeServer.Purge
