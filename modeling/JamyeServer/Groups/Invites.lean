import JamyeServer.Groups.Ownership

/-!
# Invites and the memberships created through them

The count of an invite is the number of memberships that its redemptions have added, and a user has at most one
live membership of a group.
-/

namespace JamyeServer.Groups

open ReadCommitted Postgres Auth Groups AccountDeletion

variable {settings : Settings} {ticks : Time → Time → Bool} {C : Contract (system settings ticks)} {e : Entry} {g : Shared}
  {i : Uuid} {r : Invite}

/-- The transaction redeems the code of the invite, which is not deleted. -/
def throughInvite (s : Store Row) (inviteId : Uuid) (e : Entry) : Bool :=
  match e.job with
  | .redeem _ code _ => (s.get (.invites inviteId)).any fun r => decide (r.code = code) && r.deletedAt.isNone
  | _ => false

/-- The memberships that are in `s'` and not in `s`. -/
def newMembers (s s' : Store Row) : List Uuid := s'.ids Tables.memberships fun m _ => (s.get (.memberships m)).isNone

/-- The memberships that the commit of `e` creates through the invite. -/
def createdBy (s s' : Store Row) (inviteId : Uuid) (e : Entry) : List Uuid :=
  if throughInvite s inviteId e then newMembers s s' else []

/-- The memberships that the commits so far have created through the invite. -/
def createdThrough (g : Shared) (inviteId : Uuid) : List Uuid :=
  (List.range g.csn).flatMap fun n => (g.log[n]?).elim [] (createdBy (g.version n) (g.version (n + 1)) inviteId)

/-- The count that the invite has from before the start of the server. -/
def initialUses (g : Shared) (inviteId : Uuid) : Nat := (g.init.get (.invites inviteId)).elim 0 Invite.usedCount

section Counting

lemma createdThrough_commit (g : Shared) (e : Entry) (i : Uuid) :
    createdThrough (g.commit e) i = createdThrough g i ++ createdBy g.db (g.view e.ran) i e := by
  unfold createdThrough
  rw [Shared.csn_commit, List.range_succ, List.flatMap_append]
  congr 1
  · refine List.flatMap_congr fun n hn => ?_
    have hlt : n < g.csn := List.mem_range.mp hn
    rw [Shared.version_commit _ _ (Nat.le_of_lt hlt), Shared.version_commit _ _ hlt]
    simp only [Shared.commit]
    rw [List.getElem?_append_left hlt]
  · have hlast : (g.commit e).log[g.csn]? = some e := by simp [Shared.commit, Shared.csn]
    have hnext : (g.commit e).version (g.csn + 1) = g.view e.ran := by
      rw [← Shared.db_commit, Shared.db, Shared.csn_commit]
    simp only [List.flatMap_cons, List.flatMap_nil, List.append_nil, hlast, Option.elim_some, hnext,
      Shared.version_commit _ _ (Nat.le_refl _)]
    rfl

lemma createdThrough_shift {g' : Shared} (h : Shift (system settings ticks) g g') (i : Uuid) :
    createdThrough g' i = createdThrough g i := by
  unfold createdThrough
  simp only [h.csn, h.version, h.log]

/-- Nothing is created through an invite before it is there. -/
lemma createdThrough_new (hnew : ∀ n, n ≤ g.csn → (g.version n).get (.invites i) = none) : createdThrough g i = [] := by
  unfold createdThrough
  rw [List.flatMap_eq_nil_iff]
  intro n hn
  have hnone := hnew n (Nat.le_of_lt (List.mem_range.mp hn))
  cases g.log[n]? with
  | none => rfl
  | some e =>
    have hnot : throughInvite (g.version n) i e = false := by
      unfold throughInvite
      split
      · rw [hnone]
        rfl
      · rfl
    simp [createdBy, hnot]

lemma throughInvite_iff {s : Store Row} : throughInvite s i e = true ↔ ∃ actorId code now r,
    e.job = .redeem actorId code now ∧ s.get (.invites i) = some r ∧ r.code = code ∧ r.deletedAt = none := by
  unfold throughInvite
  split
  · rename_i actorId code now hjob
    simp only [Option.any_eq_true, Bool.and_eq_true, decide_eq_true_eq, Option.isNone_iff_eq_none, hjob]
    constructor
    · rintro ⟨r, hr, hcode, hlive⟩
      exact ⟨actorId, code, now, r, rfl, hr, hcode, hlive⟩
    · rintro ⟨actorId', code', now', r, heq, hr, hcode, hlive⟩
      cases heq
      exact ⟨r, hr, hcode, hlive⟩
  · rename_i hjob
    simp only [Bool.false_eq_true, false_iff, not_exists, not_and]
    intro actorId code now r hredeem
    exact absurd hredeem (hjob actorId code now)

/-- One invite has the code, as it is unique among the invites that are not deleted. -/
lemma invite_unique {s : Store Row} (hu : Unique index s) {i i' : Uuid} {r r' : Invite} (hi : s.get (.invites i) = some r)
    (hi' : s.get (.invites i') = some r') (hcode : r.code = r'.code) (hlive : r.deletedAt = none)
    (hlive' : r'.deletedAt = none) : i = i' := by
  have hkey := hu (.invites i) (.invites i') (.inviteCode r.code) (by simp [entries, hi, index, indexedIf, hlive])
    (by simp [entries, hi', index, indexedIf, hlive', hcode])
  simpa using hkey

/-- A redemption that joins creates one membership. -/
lemma Joins.newMembers {actorId code record i r m r'} (h : Joins e g actorId code record i r m r') :
    newMembers g.db (g.view e.ran) = [m] := by
  refine List.perm_singleton.mp ((List.perm_ext_iff_of_nodup (Store.nodup_ids ..) (List.nodup_singleton m)).mpr fun j => ?_)
  rw [Store.mem_ids, List.mem_singleton]
  constructor
  · rintro ⟨r₁, hr₁, hnone⟩
    by_contra hne
    rw [Option.isNone_iff_eq_none] at hnone
    rw [show (g.view e.ran).get (.memberships j) = _ from h.otherMembers j hne, hnone] at hr₁
    cases hr₁
  · rintro rfl
    refine ⟨r', h.membership, ?_⟩
    rw [h.absent]
    rfl

lemma newMembers_of_empty (h : e.ran.writes = []) : newMembers g.db (g.view e.ran) = [] := by
  refine List.eq_nil_iff_forall_not_mem.mpr fun m hm => ?_
  obtain ⟨r, hr, hnone⟩ := Store.mem_ids.mp hm
  have hview : g.view e.ran = g.db := by rw [Shared.view, h, Store.apply_nil]
  rw [hview] at hr
  rw [hr] at hnone
  cases hnone

/-- One commit keeps the count of an invite. -/
lemma count_step (hok : Ok e g) (hans : Answers e) (hu : Unique index g.db) {r' : Invite}
    (hi : g.db.get (.invites i) = some r) (hi' : (g.view e.ran).get (.invites i) = some r') :
    r'.usedCount = r.usedCount + (createdBy g.db (g.view e.ran) i e).length := by
  by_cases hthrough : throughInvite g.db i e = true
  · obtain ⟨actorId, code, now, r₀, hjob, hr₀, hcode, hlive⟩ := throughInvite_iff.mp hthrough
    obtain ⟨record, hout⟩ := hans actorId code now hjob
    obtain ⟨actorId', code', now', hjob', hcases⟩ := hok.redeemed record hout
    rw [hjob] at hjob'
    cases hjob'
    rw [hi] at hr₀
    cases hr₀
    rw [createdBy, if_pos hthrough]
    rcases hcases with ⟨-, hempty⟩ | ⟨-, i₁, r₁, m, s, hjoins⟩
    · rw [newMembers_of_empty hempty]
      have hview : g.view e.ran = g.db := by rw [Shared.view, hempty, Store.apply_nil]
      rw [hview, hi] at hi'
      cases hi'
      rfl
    · rw [hjoins.newMembers]
      obtain rfl := invite_unique hu hjoins.inviteRow hi (hjoins.code.trans hcode.symm) hjoins.live hlive
      have hsame := hjoins.inviteRow
      rw [hi] at hsame
      cases hsame
      rw [hjoins.used] at hi'
      cases hi'
      rfl
  · rw [createdBy, if_neg hthrough]
    have hstep := hok.invites i
    rw [hi, hi'] at hstep
    cases hstep with
    | same => rfl
    | consumed _ redeemed =>
      obtain ⟨record, hout, hjoined⟩ := redeemed
      obtain ⟨actorId, code, now, hjob, ⟨hno, -⟩ | ⟨-, i₁, r₁, m, s, hjoins⟩⟩ := hok.redeemed record hout
      · rw [hjoined] at hno
        cases hno
      by_cases hii : i = i₁
      · subst hii
        exact absurd (throughInvite_iff.mpr ⟨actorId, code, now, r₁, hjob, hjoins.inviteRow, hjoins.code, hjoins.live⟩) hthrough
      · have hother := hjoins.otherInvites i hii
        rw [hi, hi'] at hother
        have hcount := congrArg (Option.map Invite.usedCount) hother
        simp at hcount

/-- The count of an invite is the number of memberships created through it. -/
theorem uses_counted (hg : History (contract settings ticks) g) (hi : g.db.get (.invites i) = some r) :
    r.usedCount = initialUses g i + (createdThrough g i).length := by
  induction hg generalizing r with
  | @init g hinit =>
    have hlog : g.log = [] := hinit.log
    have hdb : g.db = g.init := by simp [Shared.db, Shared.version, hlog]
    rw [hdb] at hi
    simp [initialUses, createdThrough, hi, Shared.csn, hlog]
  | @shift g g' _ hs ih =>
    rw [hs.db] at hi
    rw [createdThrough_shift hs, ih hi, initialUses, initialUses, hs.init]
  | @commit g e hg hc ih =>
    rw [Shared.db_commit] at hi
    rw [createdThrough_commit, List.length_append]
    have hinit : initialUses (g.commit e) i = initialUses g i := rfl
    rw [hinit]
    cases hb : g.db.get (.invites i) with
    | some r₀ =>
      have hstep := count_step hc.ok.1 hc.ok.2 hg.unique hb hi
      have hbefore := ih hb
      omega
    | none =>
      have hstep := hc.ok.1.invites i
      rw [hb, hi] at hstep
      cases hstep with
      | issued unused _ hnew =>
        have hstart : initialUses g i = 0 := by
          have hzero : g.init.get (.invites i) = none := hnew 0 (Nat.zero_le _)
          rw [initialUses, hzero]
          rfl
        have hnot : ¬ throughInvite g.db i e = true := by
          intro hthrough
          obtain ⟨_, _, _, r₀, -, hr₀, -⟩ := throughInvite_iff.mp hthrough
          rw [hb] at hr₀
          cases hr₀
        rw [unused, hstart, createdThrough_new hnew, createdBy, if_neg hnot]
        rfl

end Counting

section Redemptions

/-- A redemption by a member changes nothing. -/
lemma member_changes_nothing (hg : History (contract settings ticks) g) {n : Nat} (he : g.log[n]? = some e)
    {actorId : Uuid} {code : String} {now : Time} (hjob : e.job = .redeem actorId code now)
    (hi : (g.version n).get (.invites i) = some r) (hcode : r.code = code) (hlive : r.deletedAt = none) {m : Uuid}
    (hm : LiveMember (g.version n) m r.groupId actorId) : g.version (n + 1) = g.version n := by
  obtain ⟨g₁, hg₁, rfl, hc, hlater⟩ := hg.entry he
  have hbefore : g.version g₁.csn = g₁.db := by
    rw [hlater.version (by simp), Shared.version_commit _ _ (Nat.le_refl _), Shared.db]
  have hafter : g.version (g₁.csn + 1) = g₁.view e.ran := by
    rw [hlater.version (by simp), ← Shared.db_commit, Shared.db, Shared.csn_commit]
  rw [hbefore] at hi hm ⊢
  rw [hafter]
  obtain ⟨record, hout⟩ := hc.ok.2 actorId code now hjob
  obtain ⟨actorId', code', now', hjob', ⟨-, hempty⟩ | ⟨-, i₁, r₁, m₁, s, hjoins⟩⟩ := hc.ok.1.redeemed record hout
  · rw [Shared.view, hempty, Store.apply_nil]
  rw [hjob] at hjob'
  cases hjob'
  obtain rfl := invite_unique hg₁.unique hjoins.inviteRow hi (hjoins.code.trans hcode.symm) hjoins.live hlive
  have hsame := hjoins.inviteRow
  rw [hi] at hsame
  cases hsame
  -- the member would have two live memberships of the group
  obtain ⟨r₂, hr₂, hgroup, huser, hlive₂⟩ := hm
  have hne : m ≠ m₁ := by
    rintro rfl
    rw [hjoins.absent] at hr₂
    cases hr₂
  have hview : (g₁.view e.ran).get (.memberships m) = some r₂ := (hjoins.otherMembers m hne).trans hr₂
  exact absurd (live_unique hc.coherent.unique hview hjoins.membership (hgroup.trans hjoins.group.symm)
    (huser.trans hjoins.user.symm) hlive₂ hjoins.notOver) hne

/-- What holds of the invites of a server, its redemptions and its restores. -/
structure InvitesHold (s : State) : Prop where
  counted : ∀ i r, s.shared.db.get (.invites i) = some r →
    r.usedCount = initialUses s.shared i + (createdThrough s.shared i).length
  bounded : ∀ i r n, s.shared.db.get (.invites i) = some r → r.maxUses = some n → r.usedCount ≤ n
  unchanged : ∀ n e actorId code now i r m, s.shared.log[n]? = some e → e.job = .redeem actorId code now →
    (s.shared.version n).get (.invites i) = some r → r.code = code → r.deletedAt = none →
    LiveMember (s.shared.version n) m r.groupId actorId → s.shared.version (n + 1) = s.shared.version n
  once : ∀ m m' groupId userId, LiveMember s.shared.db m groupId userId → LiveMember s.shared.db m' groupId userId →
    m = m'
  redemptions : ∀ t ∈ s.txs, ∀ actorId code now error, t.job = .redeem actorId code now → t.prog = .fail error →
    error ≠ .groups (.repository .membershipConflict)
  restores : ∀ t ∈ s.txs, ∀ identity now error, t.job = .purge (.account (.exchange identity now)) →
    t.prog = .fail error → error ≠ .purge (.account (.auth (.databaseUnavailable "membership_restore")))

/-- In every reachable state the uses of an invite are counted and bounded, members have one live membership, and
the unique index of live memberships fails no redemption and no restore. -/
theorem invites_hold {s : State} (h : (system settings ticks).Reachable Starts s) : InvitesHold s := by
  have hsound := sound_of_reachable h
  have hg := hsound.history
  refine ⟨fun i r => uses_counted hg, (wellFormed_of_history obeys_contract hg).uses,
    fun n e actorId code now i r m he hjob hi hcode hlive hm => member_changes_nothing hg he hjob hi hcode hlive hm,
    ?_, fun t ht actorId code now error hjob hp => ?_, fun t ht identity now error hjob hp => ?_⟩
  · rintro m m' groupId userId ⟨r, hr, rfl, rfl, hlive⟩ ⟨r', hr', hgroup, huser, hlive'⟩
    exact live_unique hg.unique hr hr' hgroup.symm huser.symm hlive hlive'
  · have hfails : MayFail t.job error := hsound.fails ht hp
    rw [hjob] at hfails
    exact hfails
  · have hfails : MayFail t.job error := hsound.fails ht hp
    rw [hjob] at hfails
    exact hfails

theorem invites_hold_in_schedule : ∃ s : State, sampleSystem.Reachable Starts s ∧ InvitesHold s ∧
    ∃ r, s.shared.db.get (.invites 200) = some r ∧ r.usedCount = 1 ∧ createdThrough s.shared 200 = [300] := by
  have hrun : (sampleSystem.run ⟨⟨.empty, [], 0, 0, []⟩, []⟩ groupSchedule).map
      (fun s => ((s.shared.db.get (.invites 200)).map Invite.usedCount, createdThrough s.shared 200)) =
        some (some 1, [300]) := by
    decide +kernel
  obtain ⟨s, hs, hpair⟩ := Option.map_eq_some_iff.mp hrun
  obtain ⟨hrow, hcreated⟩ := Prod.mk.inj hpair
  obtain ⟨r, hr, hcount⟩ := Option.map_eq_some_iff.mp hrow
  have hreach := System.reachable_of_run _ starts_empty hs
  exact ⟨s, hreach, invites_hold hreach, r, hr, hcount, hcreated⟩

end Redemptions

end JamyeServer.Groups
