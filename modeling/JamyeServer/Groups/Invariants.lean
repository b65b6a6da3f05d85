import JamyeServer.Groups.System

/-!
# What holds between transactions

The tables of groups stay well formed when every commit is as `Ok` says, and a transaction that holds a
group or an account keeps what it has seen of the memberships in it.
-/

namespace JamyeServer.Groups

open ReadCommitted Postgres Auth Groups AccountDeletion

variable {settings : Settings} {ticks : Time → Time → Bool} {C : Contract (system settings ticks)} {e : Entry}
  {g : Shared}

section Steps

/-- A membership keeps its group and its user. -/
lemma MemberStep.pair {r r' : Membership} (h : MemberStep e g (some r) (some r')) :
    r'.groupId = r.groupId ∧ r'.userId = r.userId := by
  cases h <;> exact ⟨rfl, rfl⟩

/-- A group is not lost. -/
lemma Ok.group_stays (hok : Ok e g) {i : Uuid} (h : g.db.get (.groups i) ≠ none) :
    (g.view e.ran).get (.groups i) ≠ none := by
  have hstep := hok.groups i
  generalize g.db.get (.groups i) = before at hstep h
  generalize (g.view e.ran).get (.groups i) = after at hstep
  cases hstep with
  | same => exact h
  | founded => exact absurd rfl h
  | _ => exact nofun

/-- A deleted group stays deleted. -/
lemma Ok.group_over (hok : Ok e g) {i : Uuid} {h : Group} (hi : g.db.get (.groups i) = some h)
    (hd : h.deletedAt ≠ none) : ∃ h', (g.view e.ran).get (.groups i) = some h' ∧ h'.deletedAt ≠ none := by
  have hstep := hok.groups i
  rw [hi] at hstep
  generalize (g.view e.ran).get (.groups i) = after at hstep
  cases hstep with
  | same => exact ⟨h, rfl, hd⟩
  | renamed => exact ⟨_, rfl, hd⟩
  | deleted => exact ⟨_, rfl, nofun⟩
  | transferred => exact ⟨_, rfl, hd⟩
  | archived => exact ⟨_, rfl, hd⟩

/-- The live account of a user who does not delete it stays live. -/
lemma Ok.account_live (hok : Ok e g) {i : Uuid} {u : User} (hu : g.db.get (.users i) = some u)
    (hlive : u.deletedAt = none) (hjob : e.job ≠ .deleteAccount i) :
    ∃ u', (g.view e.ran).get (.users i) = some u' ∧ u'.deletedAt = none := by
  have hstep := hok.users i
  rw [hu] at hstep
  generalize (g.view e.ran).get (.users i) = after at hstep
  cases hstep with
  | kept hsame => exact ⟨_, rfl, hsame.trans hlive⟩
  | deleted job => exact absurd job hjob
  | restored hdel => exact absurd hlive hdel
  | purged hdel => exact absurd hlive hdel

/-- A live membership of the owner stays as it is while the ownership stays. -/
lemma Ok.owner_stays (hok : Ok e g) {m i : Uuid} {r : Membership} {h h' : Group} (hi : g.db.get (.groups i) = some h)
    (hlive : h.deletedAt = none) (hi' : (g.view e.ran).get (.groups i) = some h') (howner : h'.ownerId = h.ownerId)
    (hm : g.db.get (.memberships m) = some r) (hgroup : r.groupId = i) (hrole : r.role = .owner)
    (hover : r.deletedAt = none) (huser : r.userId = h.ownerId) :
    (g.view e.ran).get (.memberships m) = some r := by
  have hstep := hok.members m
  rw [hm] at hstep
  generalize (g.view e.ran).get (.memberships m) = after at hstep
  cases hstep with
  | same => rfl
  | ended role =>
    rw [hrole] at role
    cases role
  | transferred _ _ hne =>
    rw [hgroup, hi, hi'] at hne
    exact absurd (by simp [howner]) hne
  | flagged job => exact absurd huser.symm ((hok.deleteAccount _ job).owns i h hi hlive)
  | restored deleted => exact absurd hover deleted
  | purged ended =>
    rcases ended with ended | ⟨h₁, hh₁, hd⟩
    · exact absurd hover ended
    · rw [hgroup, hi] at hh₁
      cases hh₁
      exact absurd hlive hd

lemma Owned.kept (hok : Ok e g) (hwf : WellFormed g.db) {i : Uuid} {h h' : Group} (hi : g.db.get (.groups i) = some h)
    (hlive : h.deletedAt = none) (hi' : (g.view e.ran).get (.groups i) = some h') (howner : h'.ownerId = h.ownerId) :
    Owned (g.view e.ran) i h' := by
  obtain ⟨m, r, hm, hgroup, hrole, hover, huser, ⟨u, hu, hul⟩, huniq⟩ := hwf.owned i h hi hlive
  have hjob : e.job ≠ .deleteAccount h.ownerId := fun hj => (hok.deleteAccount _ hj).owns i h hi hlive rfl
  have hm' := hok.owner_stays hi hlive hi' howner hm hgroup hrole hover huser
  refine ⟨m, r, hm', hgroup, hrole, hover, huser.trans howner.symm, ?_, fun m₂ r₂ h₂ hg₂ hr₂ => ?_⟩
  · rw [howner]
    exact hok.account_live hu hul hjob
  have hstep := hok.members m₂
  rw [h₂] at hstep
  generalize hb : g.db.get (.memberships m₂) = before at hstep
  cases hstep with
  | same => exact huniq m₂ r₂ hb hg₂ hr₂
  | founded _ _ hnew =>
    have hnone : g.db.get (.groups r₂.groupId) = none := hnew g.csn (Nat.le_refl _)
    rw [hg₂, hi] at hnone
    cases hnone
  | joined role =>
    rw [role] at hr₂
    cases hr₂
  | ended => exact huniq m₂ _ hb hg₂ hr₂
  | transferred _ _ hne =>
    rw [show (_ : Membership).groupId = i from hg₂, hi, hi'] at hne
    exact absurd (by simp [howner]) hne
  | flagged => exact huniq m₂ _ hb hg₂ hr₂
  | restored => exact huniq m₂ _ hb hg₂ hr₂

lemma Owned.founded (hwf : WellFormed g.db) {i m : Uuid} {h : Group} {r : Membership} (hf : Founded e g i h m r) :
    Owned (g.view e.ran) i h := by
  refine ⟨m, r, hf.member, hf.group, hf.role, hf.notOver, hf.owner, hf.account, fun m₂ r₂ h₂ hg₂ _ => ?_⟩
  by_contra hne
  rw [hf.others m₂ hne] at h₂
  have hsome := hwf.group m₂ r₂ h₂
  rw [hg₂] at hsome
  exact hsome (hf.new g.csn (Nat.le_refl _))

lemma Owned.transferred (hwf : WellFormed g.db) {i a t ownerId : Uuid} {h h' : Group} {r r' : Membership}
    (hi : g.db.get (.groups i) = some h) (hlive : h.deletedAt = none) (howner : h'.ownerId = ownerId)
    (htr : Transferred e g i a t r r' ownerId) : Owned (g.view e.ran) i h' := by
  obtain ⟨m, -, -, -, -, -, -, -, huniq⟩ := hwf.owned i h hi hlive
  have ha : a = m := huniq a r htr.sourceRow htr.sourceGroup htr.sourceRole
  refine ⟨t, { r' with role := .owner }, htr.promoted, htr.targetGroup, rfl, htr.targetLive,
    htr.targetUser.trans howner.symm, howner ▸ htr.account, fun m₂ r₂ h₂ hg₂ hr₂ => ?_⟩
  by_contra hne
  by_cases hma : m₂ = a
  · rw [hma, htr.demoted] at h₂
    cases h₂
    cases hr₂
  · rw [htr.others m₂ hma hne] at h₂
    exact hma ((huniq m₂ r₂ h₂ hg₂ hr₂).trans ha.symm)

/-- Live groups have their owner after a commit. -/
lemma Owned.step (hok : Ok e g) (hwf : WellFormed g.db) {i : Uuid} {h' : Group}
    (hi' : (g.view e.ran).get (.groups i) = some h') (hlive : h'.deletedAt = none) : Owned (g.view e.ran) i h' := by
  have hstep := hok.groups i
  rw [hi'] at hstep
  generalize hi : g.db.get (.groups i) = before at hstep
  cases hstep with
  | same => exact .kept hok hwf hi hlive hi' rfl
  | founded hf => exact .founded hwf hf
  | renamed => exact .kept hok hwf hi hlive hi' rfl
  | deleted => cases hlive
  | transferred htr => exact .transferred hwf hi hlive rfl htr
  | archived hd => exact absurd hlive hd

/-- The flag of an account's deletion was there before, or the commit is that deletion. -/
lemma Ok.flag_before (hok : Ok e g) (hwf : WellFormed g.db) {m : Uuid} {r : Membership}
    (hm : (g.view e.ran).get (.memberships m) = some r) (hflag : r.accountDeletedAt ≠ none) :
    g.db.get (.memberships m) = some r ∨ e.job = .deleteAccount r.userId := by
  have hstep := hok.members m
  rw [hm] at hstep
  generalize hb : g.db.get (.memberships m) = before at hstep
  cases hstep with
  | same => exact .inl rfl
  | founded _ flag => exact absurd flag hflag
  | joined _ _ flag => exact absurd flag hflag
  | ended _ live => exact absurd (hwf.flag m _ hb live) hflag
  | transferred live => exact absurd (hwf.flag m _ hb live) hflag
  | flagged job => exact .inr job
  | restored => exact absurd rfl hflag

/-- A new membership, in a new group or through an invite. -/
inductive NewMember (e : Entry) (g : Shared) (r : Membership) : Prop
  | founded (new : ∀ n, n ≤ g.csn → (g.version n).get (.groups r.groupId) = none)
  | joined (account : ∃ u, g.db.get (.users r.userId) = some u ∧ u.deletedAt = none)
      (group : ∃ h, g.db.get (.groups r.groupId) = some h ∧ h.deletedAt = none)
      (redeemed : ∃ record, e.out = .redeemed record ∧ record.joined = true)

/-- A membership that counts after the commit counted before, or is new and live. -/
lemma Ok.kept_before (hok : Ok e g) {m : Uuid} {r : Membership} (hm : (g.view e.ran).get (.memberships m) = some r)
    (hkept : Kept r) :
    (∃ r₀, g.db.get (.memberships m) = some r₀ ∧ r₀.groupId = r.groupId ∧ r₀.userId = r.userId ∧ Kept r₀) ∨
      r.deletedAt = none ∧ NewMember e g r := by
  have hstep := hok.members m
  rw [hm] at hstep
  generalize g.db.get (.memberships m) = before at hstep
  cases hstep with
  | same => exact .inl ⟨r, rfl, rfl, rfl, hkept⟩
  | founded live _ hnew => exact .inr ⟨live, .founded hnew⟩
  | joined _ live _ _ _ account group redeemed => exact .inr ⟨live, .joined account group redeemed⟩
  | ended _ live => exact .inl ⟨_, rfl, rfl, rfl, .inl live⟩
  | transferred live => exact .inl ⟨_, rfl, rfl, rfl, .inl live⟩
  | flagged _ live => exact .inl ⟨_, rfl, rfl, rfl, .inl live⟩
  | restored _ flag => exact .inl ⟨_, rfl, rfl, rfl, .inr flag⟩

lemma live_unique {s : Store Row} (hu : Unique index s) {m m' : Uuid} {r r' : Membership}
    (hm : s.get (.memberships m) = some r) (hm' : s.get (.memberships m') = some r') (hgroup : r.groupId = r'.groupId)
    (huser : r.userId = r'.userId) (hlive : r.deletedAt = none) (hlive' : r'.deletedAt = none) : m = m' := by
  have hkey := hu (.memberships m) (.memberships m') (.membership r.groupId r.userId)
    (by simp [entries, hm, index, indexedIf, hlive]) (by simp [entries, hm', index, indexedIf, hlive', hgroup, huser])
  simpa using hkey

/-- A membership that is new does not count beside an older one. -/
lemma Ok.new_once (hok : Ok e g) (hwf : WellFormed g.db) (hu : Unique index (g.view e.ran)) {m m' : Uuid}
    {r r' r₀ : Membership} (hm : (g.view e.ran).get (.memberships m) = some r)
    (hm' : (g.view e.ran).get (.memberships m') = some r') (hgroup : r.groupId = r'.groupId)
    (huser : r.userId = r'.userId) (hlive : r.deletedAt = none) (hnew : NewMember e g r) (hkept : Kept r')
    (hb : g.db.get (.memberships m') = some r₀) (hgroup₀ : r₀.groupId = r'.groupId) : m = m' := by
  by_cases hlive' : r'.deletedAt = none
  · exact live_unique hu hm hm' hgroup huser hlive hlive'
  have hflag : r'.accountDeletedAt ≠ none := hkept.resolve_left hlive'
  cases hnew with
  | founded hnew =>
    have hsome := hwf.group m' r₀ hb
    rw [hgroup₀, ← hgroup] at hsome
    exact absurd (hnew g.csn (Nat.le_refl _)) hsome
  | joined account group redeemed =>
    obtain ⟨record, hout, -⟩ := redeemed
    obtain ⟨_, _, _, hjob, -⟩ := hok.redeemed record hout
    obtain ⟨u, hu₁, hul⟩ := account
    obtain ⟨h, hh, hhl⟩ := group
    rcases hok.flag_before hwf hm' hflag with hold | hdel
    · obtain ⟨h₁, hh₁, hd⟩ := hwf.flagged m' r' u hold hflag (huser ▸ hu₁) hul
      rw [← hgroup, hh] at hh₁
      cases hh₁
      exact absurd hhl hd
    · rw [hjob] at hdel
      cases hdel

end Steps

section Histories

/-- The account of a membership has been there. -/
lemma member_known (hC : Obeys C) (hg : History C g) {m : Uuid} {r : Membership}
    (hm : g.db.get (.memberships m) = some r) : ∃ n, n ≤ g.csn ∧ (g.version n).get (.users r.userId) ≠ none := by
  induction hg generalizing m r with
  | @init g hinit =>
    have hstart := hC.init g hinit
    have hdb : g.db = g.init := by simp [Shared.db, Shared.version, hstart.log]
    have hsome := hstart.accounts m r (hdb ▸ hm)
    rw [← hdb] at hsome
    exact ⟨g.csn, Nat.le_refl _, hsome⟩
  | @shift g g' _ hs ih =>
    rw [hs.db] at hm
    obtain ⟨n, hn, hsome⟩ := ih hm
    exact ⟨n, by rwa [hs.csn], by rwa [hs.version]⟩
  | @commit g e hg hc ih =>
    have hold : ∀ {m₀ : Uuid} {r₀ : Membership}, g.db.get (.memberships m₀) = some r₀ →
        ∃ n, n ≤ (g.commit e).csn ∧ ((g.commit e).version n).get (.users r₀.userId) ≠ none := by
      intro m₀ r₀ h₀
      obtain ⟨n, hn, hsome⟩ := ih h₀
      rw [Shared.csn_commit]
      exact ⟨n, Nat.le_succ_of_le hn, by rwa [Shared.version_commit _ _ hn]⟩
    have hnow : g.db.get (.users r.userId) ≠ none →
        ∃ n, n ≤ (g.commit e).csn ∧ ((g.commit e).version n).get (.users r.userId) ≠ none := by
      intro hsome
      rw [Shared.csn_commit]
      exact ⟨g.csn, Nat.le_succ _, by rwa [Shared.version_commit _ _ (Nat.le_refl _)]⟩
    rw [Shared.db_commit] at hm
    have hstep := (hC.ok e g hc.ok).members m
    rw [hm] at hstep
    generalize hb : g.db.get (.memberships m) = before at hstep
    cases before with
    | some r₀ =>
      rw [hstep.pair.2]
      exact hold hb
    | none =>
      cases hstep with
      | founded _ _ _ _ account => exact hnow account
      | joined _ _ _ _ _ account =>
        obtain ⟨u, hu, -⟩ := account
        exact hnow (by rw [hu]; exact Option.some_ne_none _)

/-- One commit keeps the tables well formed. -/
lemma WellFormed.step (hC : Obeys C) (hg : History C g) (hc : Commits C e g) (hwf : WellFormed g.db) :
    WellFormed (g.view e.ran) := by
  have hok := hC.ok e g hc.ok
  refine ⟨fun i h hi hlive => .step hok hwf hi hlive, fun m r hm => ?_, fun m r hm hlive => ?_,
    fun m r u hm hflag hu hul => ?_, fun m m' r r' hm hm' hgroup huser hkept hkept' => ?_, fun i r n hi hn => ?_⟩
  · have hstep := hok.members m
    rw [hm] at hstep
    generalize hb : g.db.get (.memberships m) = before at hstep
    cases before with
    | some r₀ =>
      rw [hstep.pair.1]
      exact hok.group_stays (hwf.group m r₀ hb)
    | none =>
      cases hstep with
      | founded _ _ _ _ _ group => exact group
      | joined _ _ _ _ _ _ group =>
        obtain ⟨h, hh, -⟩ := group
        exact hok.group_stays (by rw [hh]; exact nofun)
  · have hstep := hok.members m
    rw [hm] at hstep
    generalize hb : g.db.get (.memberships m) = before at hstep
    cases hstep with
    | same => exact hwf.flag m r hb hlive
    | founded _ flag => exact flag
    | joined _ _ flag => exact flag
    | ended => cases hlive
    | @transferred r₀ _ live =>
      have hflag : r₀.accountDeletedAt = none := hwf.flag m r₀ hb live
      exact hflag
    | flagged => cases hlive
    | restored => rfl
  · have hnotDeleted : e.job ≠ .deleteAccount r.userId := by
      intro hjob
      obtain ⟨u', hu', hd⟩ := (hok.deleteAccount _ hjob).account
      rw [hu] at hu'
      cases hu'
      exact hd hul
    have hold : g.db.get (.memberships m) = some r := (hok.flag_before hwf hm hflag).resolve_right hnotDeleted
    have hover : ∃ h, g.db.get (.groups r.groupId) = some h ∧ h.deletedAt ≠ none := by
      have hstep := hok.users r.userId
      rw [hu] at hstep
      generalize hb : g.db.get (.users r.userId) = before at hstep
      cases hstep with
      | kept hsame => exact hwf.flagged m r _ hold hflag hb (hsame.symm.trans hul)
      | created _ hnew =>
        obtain ⟨n, hn, hsome⟩ := member_known hC hg hold
        exact absurd (hnew n hn) hsome
      | deleted job => exact absurd job hnotDeleted
      | restored hdel => exact hok.restored _ _ u hb hdel hu hul m r hm rfl hflag
    obtain ⟨h, hh, hd⟩ := hover
    exact hok.group_over hh hd
  · have hu := hc.coherent.unique
    rcases hok.kept_before hm hkept with ⟨r₀, hb, hg₀, hu₀, hk₀⟩ | ⟨hlive, hnew⟩ <;>
      rcases hok.kept_before hm' hkept' with ⟨r₁, hb', hg₁, hu₁, hk₁⟩ | ⟨hlive', hnew'⟩
    · exact hwf.once m m' r₀ r₁ hb hb' (by rw [hg₀, hg₁, hgroup]) (by rw [hu₀, hu₁, huser]) hk₀ hk₁
    · exact (hok.new_once hwf hu hm' hm hgroup.symm huser.symm hlive' hnew' hkept hb hg₀).symm
    · exact hok.new_once hwf hu hm hm' hgroup huser hlive hnew hkept' hb' hg₁
    · exact live_unique hu hm hm' hgroup huser hlive hlive'
  · have hstep := hok.invites i
    rw [hi] at hstep
    generalize hb : g.db.get (.invites i) = before at hstep
    cases hstep with
    | same => exact hwf.uses i r n hb hn
    | issued unused => omega
    | @consumed r₀ usable =>
      have hmax : r₀.maxUses = some n := hn
      have hlt : r₀.usedCount < n := by simpa [Invite.usable, hmax] using usable
      exact hlt

theorem wellFormed_of_history (hC : Obeys C) (hg : History C g) : WellFormed g.db := by
  induction hg with
  | @init g hinit =>
    have hstart := hC.init g hinit
    have hdb : g.db = g.init := by simp [Shared.db, Shared.version, hstart.log]
    rw [hdb]
    exact hstart.tables
  | shift _ hs ih => rwa [hs.db]
  | commit hg hc ih =>
    rw [Shared.db_commit]
    exact ih.step hC hg hc

lemma wellFormed_version (hC : Obeys C) (hg : History C g) {n : Nat} (hn : n ≤ g.csn) : WellFormed (g.version n) := by
  obtain ⟨g₁, hg₁, -, hdb, -⟩ := hg.version hn
  rw [← hdb]
  exact wellFormed_of_history hC hg₁

lemma drawnUsers (hC : Obeys C) : DrawnKeys C Key.users where
  init g hg := (hC.init g hg).users
  insert e g hc i hnone hsome := by
    have hstep := (hC.ok e g hc.ok).users i
    rw [hnone] at hstep
    generalize (g.view e.ran).get (.users i) = after at hstep hsome
    cases hstep with
    | absent => exact absurd rfl hsome
    | created drawn => exact drawn

lemma drawnGroups (hC : Obeys C) : DrawnKeys C Key.groups where
  init g hg := (hC.init g hg).groups
  insert e g hc i hnone hsome := by
    have hstep := (hC.ok e g hc.ok).groups i
    rw [hnone] at hstep
    generalize (g.view e.ran).get (.groups i) = after at hstep hsome
    cases hstep with
    | same => exact absurd rfl hsome
    | founded hf => exact hf.drawn

lemma drawnInvites (hC : Obeys C) : DrawnKeys C Key.invites where
  init g hg := (hC.init g hg).invites
  insert e g hc i hnone hsome := by
    have hstep := (hC.ok e g hc.ok).invites i
    rw [hnone] at hstep
    generalize (g.view e.ran).get (.invites i) = after at hstep hsome
    cases hstep with
    | same => exact absurd rfl hsome
    | issued _ drawn => exact drawn

end Histories

section Locks

variable {l L : Local Row Nat} {G : Shared} {H T m n k : Uuid} {r : Membership}

/-- The membership is as `r` says, and its account is live. -/
def Member (s : Store Row) (m : Uuid) (r : Membership) : Prop :=
  s.get (.memberships m) = some r ∧ ∃ u, s.get (.users r.userId) = some u ∧ u.deletedAt = none

/-- Who holds a live group keeps its live memberships. -/
lemma member_stable (hC : Obeys C) (hev : Evolve C l g L G) (hlock : (.groups H, .update) ∈ l.locks) {h : Group}
    (hH : G.db.get (.groups H) = some h) (hHlive : h.deletedAt = none) (hgroup : r.groupId = H)
    (hlive : r.deletedAt = none) (hn : g.csn ≤ n) (hrow : Member (G.version n) m r) (hnk : n ≤ k) (hk : k ≤ G.csn) :
    Member (G.version k) m r := by
  by_contra hnot
  obtain ⟨e, l₁, g₁, hle, -, hev₁, hc, hcompat, -, hev₂, ⟨hm, u, hu, hul⟩, hview⟩ :=
    hev.commit_of_change (P := fun s => Member s m r) hn hnk hk hrow hnot
  have hok := hC.ok e g₁ hc.ok
  have hfree : (.groups H, .update) ∉ e.ran.locks := fun hheld => by
    have hconflict := hcompat.locks _ _ _ (hev₁.locks hlock) hheld
    cases hconflict
  have hjob : e.job ≠ .deleteAccount r.userId := by
    intro hjob
    have hheld := (hok.deleteAccount _ hjob).locks m r hm rfl hlive
    rw [hgroup] at hheld
    exact hfree hheld
  refine hview ⟨?_, hok.account_live hu hul hjob⟩
  have hstep := hok.members m
  rw [hm] at hstep
  generalize (g₁.view e.ran).get (.memberships m) = after at hstep
  cases hstep with
  | same => rfl
  | ended _ _ hheld => exact absurd (hgroup ▸ hheld) hfree
  | transferred _ hheld => exact absurd (hgroup ▸ hheld) hfree
  | flagged job => exact absurd job hjob
  | restored deleted => exact absurd hlive deleted
  | purged ended =>
    rcases ended with ended | ⟨h₁, hh₁, hd⟩
    · exact absurd hlive ended
    · rw [hgroup, ← hev₂.db_locked_commit hcompat hc.coherent (hev₁.locks hlock) nofun, hH] at hh₁
      cases hh₁
      exact absurd hHlive hd

/-- The user has the live membership `m` of the group. -/
def LiveMember (s : Store Row) (m groupId userId : Uuid) : Prop :=
  ∃ r, s.get (.memberships m) = some r ∧ r.groupId = groupId ∧ r.userId = userId ∧ r.deletedAt = none

/-- How a membership may become live, and the locks that its transaction holds then. -/
lemma Ok.becomes_live (hok : Ok e g) (hbefore : ¬ LiveMember g.db m H T) (hafter : LiveMember (g.view e.ran) m H T) :
    (∀ n, n ≤ g.csn → (g.version n).get (.groups H) = none) ∧ (.users T, .share) ∈ e.ran.locks ∨
      (.groups H, .update) ∈ e.ran.locks ∧ (.users T, .share) ∈ e.ran.locks ∨ (.users T, .update) ∈ e.ran.locks := by
  obtain ⟨r, hr, rfl, rfl, hlive⟩ := hafter
  have hstep := hok.members m
  rw [hr] at hstep
  generalize hb : g.db.get (.memberships m) = before at hstep
  cases hstep with
  | same => exact absurd ⟨r, hb, rfl, rfl, hlive⟩ hbefore
  | founded _ _ hnew hlock => exact .inl ⟨hnew, hlock⟩
  | joined _ _ _ userLock groupLock => exact .inr (.inl ⟨groupLock, userLock⟩)
  | ended => cases hlive
  | @transferred r₀ _ live => exact absurd ⟨r₀, hb, rfl, rfl, live⟩ hbefore
  | flagged => cases hlive
  | restored _ _ userLock => exact .inr (.inr userLock)

/-- Who holds an account has seen its live memberships. -/
lemma live_since (hC : Obeys C) (hev : Evolve C l g L G) (hlock : (.users T, .update) ∈ l.locks)
    (hn : g.csn ≤ n) (hnk : n ≤ k) (hk : k ≤ G.csn) (hlive : LiveMember (G.version k) m H T) :
    LiveMember (G.version n) m H T := by
  by_contra hnot
  obtain ⟨e, l₁, g₁, -, -, hev₁, hc, hcompat, -, -, hbefore, hafter⟩ :=
    hev.commit_of_change (P := fun s => ¬ LiveMember s m H T) hn hnk hk hnot (not_not.mpr hlive)
  have hheld := hev₁.locks hlock
  rcases (hC.ok e g₁ hc.ok).becomes_live hbefore (not_not.mp hafter) with ⟨-, hl⟩ | ⟨-, hl⟩ | hl
  · cases hcompat.locks _ _ _ hheld hl
  · cases hcompat.locks _ _ _ hheld hl
  · cases hcompat.locks _ _ _ hheld hl

/-- Who holds a live group and an account of a user that is no member knows that the user does not become one. -/
lemma absent_stable (hC : Obeys C) (hev : Evolve C l g L G) (hlock : (.groups H, .update) ∈ l.locks)
    (huser : (.users T, .share) ∈ l.locks) (hH : G.db.get (.groups H) ≠ none) (hn : g.csn ≤ n)
    (hrow : ¬ LiveMember (G.version n) m H T) (hnk : n ≤ k) (hk : k ≤ G.csn) : ¬ LiveMember (G.version k) m H T := by
  intro hlive
  obtain ⟨e, l₁, g₁, -, -, hev₁, hc, hcompat, -, hev₂, hbefore, hafter⟩ :=
    hev.commit_of_change (P := fun s => ¬ LiveMember s m H T) hn hnk hk hrow (not_not.mpr hlive)
  rcases (hC.ok e g₁ hc.ok).becomes_live hbefore (not_not.mp hafter) with ⟨hnew, -⟩ | ⟨hl, -⟩ | hl
  · rw [hev₂.db_locked_commit hcompat hc.coherent (hev₁.locks hlock) nofun] at hH
    exact hH (hnew g₁.csn (Nat.le_refl _))
  · cases hcompat.locks _ _ _ (hev₁.locks hlock) hl
  · cases hcompat.locks _ _ _ (hev₁.locks huser) hl

end Locks

end JamyeServer.Groups
