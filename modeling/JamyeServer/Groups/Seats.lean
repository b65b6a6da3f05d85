import JamyeServer.Groups.Invites

/-!
# The seats of a group

A redemption counts the live members while it holds the group. A restore revives memberships without a count and
without the lock, so that a group can get more members than it has seats; it does not when the group has a free
seat and nobody else holds it.
-/

namespace JamyeServer.Groups

open ReadCommitted Prog Postgres Auth Groups AccountDeletion

variable {settings : Settings} {ticks : Time → Time → Bool} {C : Contract (system settings ticks)} {e : Entry} {g : Shared}
  {H : Uuid}

/-- Live groups have no more live members than seats. -/
def Seated (s : Store Row) : Prop :=
  ∀ H h, s.get (.groups H) = some h → h.deletedAt = none → (liveMembers s H).length ≤ h.maxMembers

/-- The group has a seat for one more member. -/
def FreeSeat (s : Store Row) (H : Uuid) : Prop :=
  ∃ h, s.get (.groups H) = some h ∧ (liveMembers s H).length < h.maxMembers

/-- A sign-in that holds a deleted account, whose deletion has ended a membership of the live group. -/
structure Restores (e : Entry) (g : Shared) (H : Uuid) : Prop where
  job : ∃ identity now, e.job = .purge (.account (.exchange identity now))
  group : ∃ h, g.db.get (.groups H) = some h ∧ h.deletedAt = none
  member : ∃ m r, g.db.get (.memberships m) = some r ∧ r.groupId = H ∧ r.deletedAt ≠ none ∧ r.accountDeletedAt ≠ none ∧
    (.users r.userId, .update) ∈ e.ran.locks

/-- A redemption that joins finds a free seat. -/
def SeatTaken (e : Entry) (g : Shared) : Prop :=
  ∀ record, e.out = .redeemed record → record.joined = true → FreeSeat g.db record.groupId

def SeatedStarts (g : Shared) : Prop := Starts g ∧ Seated g.init

/-- The contract of groups when restores find a free seat in a group that nobody else holds. -/
def seatContract (settings : Settings) (ticks : Time → Time → Bool) : Contract (system settings ticks) where
  Init := SeatedStarts
  log_init _ hg := hg.1.log
  unique_init _ hg := hg.1.unique
  Ok e g := Ok e g ∧ SeatTaken e g
  Assume e g := ∀ H, Restores e g H → FreeSeat g.db H
  Guard l e g := ∀ H, Restores e g H → (.groups H, .update) ∉ l.locks

lemma obeys_seatContract : Obeys (seatContract settings ticks) := ⟨fun _ h => h.1, fun _ _ h => h.1⟩

section Steps

lemma mem_liveMembers {s : Store Row} {m : Uuid} :
    m ∈ liveMembers s H ↔ ∃ r, s.get (.memberships m) = some r ∧ r.groupId = H ∧ r.deletedAt = none := by
  unfold liveMembers
  rw [Store.mem_ids]
  simp

lemma length_liveMembers_le {s : Store Row} {ms : List Uuid} (h : liveMembers s H ⊆ ms) :
    (liveMembers s H).length ≤ ms.length :=
  (List.subperm_of_subset (Store.nodup_ids ..) h).length_le

/-- How a group that is there gets a live member. -/
inductive NewLive (e : Entry) (g : Shared) (H m : Uuid) : Prop
  | joined (groupLock : (.groups H, .update) ∈ e.ran.locks)
      (redeemed : ∃ record, e.out = .redeemed record ∧ record.joined = true)
  | restored {r : Membership} (row : g.db.get (.memberships m) = some r) (group : r.groupId = H)
      (deleted : r.deletedAt ≠ none) (flag : r.accountDeletedAt ≠ none)
      (view : (g.view e.ran).get (.memberships m) = some (Membership.restore r))
      (userLock : (.users r.userId, .update) ∈ e.ran.locks)
      (job : ∃ identity now, e.job = .purge (.account (.exchange identity now)))
      (only : ∀ m r', g.db.get (.memberships m) = some r' → r'.deletedAt ≠ none →
        (g.view e.ran).get (.memberships m) = some (Membership.restore r') → r'.userId = r.userId)

lemma Ok.new_live (hok : Ok e g) (hH : g.db.get (.groups H) ≠ none) {m : Uuid} (hbefore : m ∉ liveMembers g.db H)
    (hafter : m ∈ liveMembers (g.view e.ran) H) : NewLive e g H m := by
  obtain ⟨r, hr, rfl, hlive⟩ := mem_liveMembers.mp hafter
  rw [mem_liveMembers] at hbefore
  have hstep := hok.members m
  rw [hr] at hstep
  generalize hb : g.db.get (.memberships m) = before at hstep
  cases hstep with
  | same => exact absurd ⟨r, hb, rfl, hlive⟩ hbefore
  | founded _ _ hnew => exact absurd (hnew g.csn (Nat.le_refl _)) hH
  | joined _ _ _ _ groupLock _ _ redeemed => exact .joined groupLock redeemed
  | ended => cases hlive
  | @transferred r₀ _ live => exact absurd ⟨r₀, hb, rfl, live⟩ hbefore
  | flagged => cases hlive
  | restored deleted flag userLock job only => exact .restored hb rfl deleted flag hr userLock job only

/-- A live group was new or live before, with as many seats. -/
lemma Ok.seats_before (hok : Ok e g) {h' : Group} (hH : (g.view e.ran).get (.groups H) = some h')
    (hlive : h'.deletedAt = none) : (∃ m r, Founded e g H h' m r) ∨
      ∃ h, g.db.get (.groups H) = some h ∧ h.deletedAt = none ∧ h'.maxMembers = h.maxMembers := by
  have hstep := hok.groups H
  rw [hH] at hstep
  generalize hb : g.db.get (.groups H) = before at hstep
  cases hstep with
  | same => exact .inr ⟨h', rfl, hlive, rfl⟩
  | founded hf => exact .inl ⟨_, _, hf⟩
  | renamed => exact .inr ⟨_, rfl, hlive, rfl⟩
  | deleted => cases hlive
  | transferred => exact .inr ⟨_, rfl, hlive, rfl⟩
  | archived hd => exact absurd hlive hd

lemma Founded.liveMembers_subset (hwf : WellFormed g.db) {h : Group} {m : Uuid} {r : Membership}
    (hf : Founded e g H h m r) : liveMembers (g.view e.ran) H ⊆ [m] := by
  intro j hj
  rw [List.mem_singleton]
  by_contra hne
  obtain ⟨r₁, hr₁, hgroup, -⟩ := mem_liveMembers.mp hj
  rw [hf.others j hne] at hr₁
  have hsome := hwf.group j r₁ hr₁
  rw [hgroup] at hsome
  exact hsome (hf.new g.csn (Nat.le_refl _))

/-- One redemption adds one member to its group. -/
lemma Joins.liveMembers_subset {actorId code record i r m r'} (h : Joins e g actorId code record i r m r') :
    liveMembers (g.view e.ran) H ⊆ m :: liveMembers g.db H := by
  intro j hj
  by_cases hne : j = m
  · simp [hne]
  obtain ⟨r₁, hr₁, hlive⟩ := mem_liveMembers.mp hj
  rw [h.otherMembers j hne] at hr₁
  exact List.mem_cons_of_mem _ (mem_liveMembers.mpr ⟨r₁, hr₁, hlive⟩)

/-- One commit keeps the seats. -/
lemma Seated.step (hok : Ok e g) (hwf : WellFormed g.db) (htaken : SeatTaken e g)
    (hrestores : ∀ H, Restores e g H → FreeSeat g.db H) (hs : Seated g.db) : Seated (g.view e.ran) := by
  intro H h' hH' hlive'
  rcases hok.seats_before hH' hlive' with ⟨m, r, hf⟩ | ⟨h, hH, hlive, hseats⟩
  · exact Nat.le_trans (length_liveMembers_le (hf.liveMembers_subset hwf)) hf.seats
  have hthere : g.db.get (.groups H) ≠ none := by rw [hH]; exact nofun
  rw [hseats]
  by_cases hnew : ∃ m, m ∈ liveMembers (g.view e.ran) H ∧ m ∉ liveMembers g.db H
  swap
  · refine Nat.le_trans (length_liveMembers_le fun m hm => ?_) (hs H h hH hlive)
    by_contra hbefore
    exact hnew ⟨m, hm, hbefore⟩
  obtain ⟨m, hafter, hbefore⟩ := hnew
  -- the new member is the only one, and there was a seat for it
  have hone : liveMembers (g.view e.ran) H ⊆ m :: liveMembers g.db H ∧ FreeSeat g.db H := by
    cases hok.new_live hthere hbefore hafter with
    | joined _ redeemed =>
      obtain ⟨record, hout, hjoined⟩ := redeemed
      obtain ⟨actorId, code, now, -, ⟨hno, -⟩ | ⟨-, i, r, m₁, r₁, hjoins⟩⟩ := hok.redeemed record hout
      · rw [hjoined] at hno
        cases hno
      have hm : m = m₁ := by
        rcases List.mem_cons.mp (hjoins.liveMembers_subset hafter) with heq | hin
        · exact heq
        · exact absurd hin hbefore
      subst hm
      obtain ⟨r₂, hr₂, hgroup, -⟩ := mem_liveMembers.mp hafter
      rw [hjoins.membership] at hr₂
      cases hr₂
      refine ⟨hjoins.liveMembers_subset, ?_⟩
      rw [← hgroup, hjoins.group, ← hjoins.groupId]
      exact htaken record hout hjoined
    | @restored r row group deleted flag view userLock job only =>
      refine ⟨fun j hj => ?_, hrestores H ⟨job, ⟨h, hH, hlive⟩, m, r, row, group, deleted, flag, userLock⟩⟩
      by_cases hold : j ∈ liveMembers g.db H
      · exact List.mem_cons_of_mem _ hold
      cases hok.new_live hthere hold hj with
      | joined _ redeemed =>
        obtain ⟨record, hout, -⟩ := redeemed
        obtain ⟨_, _, _, hredeem, -⟩ := hok.redeemed record hout
        obtain ⟨identity, now, hexchange⟩ := job
        rw [hredeem] at hexchange
        cases hexchange
      | @restored r₁ row₁ group₁ deleted₁ flag₁ view₁ _ _ _ =>
        have huser : r₁.userId = r.userId := only j r₁ row₁ deleted₁ view₁
        have heq : j = m := hwf.once j m r₁ r row₁ row (group₁.trans group.symm) huser (.inr flag₁) (.inr flag)
        simp [heq]
  obtain ⟨hsubset, h₁, hH₁, hfree⟩ := hone
  rw [hH] at hH₁
  cases hH₁
  have hlen := length_liveMembers_le hsubset
  rw [List.length_cons] at hlen
  omega

theorem seated_of_history (hg : History (seatContract settings ticks) g) : Seated g.db := by
  refine hg.invariant (fun g₀ hg₀ => hg₀.2) fun g₁ e hg₁ hc hs => ?_
  exact hs.step hc.ok.1 (wellFormed_of_history obeys_seatContract hg₁) hc.ok.2 hc.assume

end Steps

section Programs

variable {l L : Local Row Nat} {g' G : Shared}

/-- Who has counted the members of a group and holds it since then still has the seat. -/
lemma Counted.free {seats : Nat} (h : Counted (seatContract settings ticks) H seats L G) {h₀ : Group}
    (hH : G.db.get (.groups H) = some h₀) (hlive : h₀.deletedAt = none) : (liveMembers G.db H).length < seats := by
  obtain ⟨l, g, n, hlock, hev, hn, hn', hcount⟩ := h
  refine Nat.lt_of_le_of_lt (length_liveMembers_le fun m hm => ?_) hcount
  by_contra hnot
  obtain ⟨e, l₁, g₁, -, -, hev₁, hc, hcompat, hguard, hev₂, hbefore, hafter⟩ :=
    hev.commit_of_change (P := fun s => m ∉ liveMembers s H) hn hn' (Nat.le_refl _) hnot (not_not.mpr hm)
  have hheld := hev₁.locks hlock
  have hrow : g₁.db.get (.groups H) = some h₀ := by
    rw [← hev₂.db_locked_commit hcompat hc.coherent hheld nofun]
    exact hH
  have hthere : g₁.db.get (.groups H) ≠ none := by rw [hrow]; exact nofun
  cases hc.ok.1.new_live hthere hbefore (not_not.mp hafter) with
  | joined groupLock => cases hcompat.locks _ _ _ hheld groupLock
  | @restored r row group deleted flag view userLock job only =>
    exact hguard H ⟨job, ⟨h₀, hrow, hlive⟩, m, r, row, group, deleted, flag, userLock⟩ hheld

/-- A redemption that joins takes a free seat. -/
lemma redeem_seat {actorId : Uuid} {code : String} {now : Time} {record : InviteJoinRecord}
    (h : Runs (seatContract settings ticks) (redeem actorId code now) (Local.begin g) g (.ok record) L g' L G)
    (hjoined : record.joined = true) : FreeSeat G.db record.groupId := by
  obtain ⟨_, l₁, g₁, h₁, hrest₁⟩ := h.bind
  obtain ⟨-, rfl⟩ := h₁.ensure
  obtain ⟨memberId, l₂, g₂, h₂, h₃⟩ := hrest₁.bind
  have hl₂ : l₂.writes = [] := by rw [h₂.fresh.1]; rfl
  rcases redeemInvite_runs obeys_seatContract hl₂ h₃.mapError with ⟨hno, -⟩ | ⟨i, h₀, r, m, rfl, hrows⟩
  · rw [hjoined] at hno
    cases hno
  · exact ⟨h₀, hrows.group, hrows.counted.free hrows.group hrows.live⟩

lemma programs_seatContract : (seatContract settings ticks).Programs := by
  intro job g hg r l' g' h
  cases r with
  | error error => trivial
  | ok out =>
    have hrun : Runs (seatContract settings ticks) (program settings job) (Local.begin g) g (.ok out) l' g' l' g' :=
      ⟨h, .refl⟩
    have hok : Ok ⟨job, out, l'⟩ g' := commits obeys_seatContract hg hrun
    refine ⟨hok, fun record hout hjoined => ?_⟩
    obtain ⟨actorId, code, now, hjob, -⟩ := hok.redeemed record hout
    dsimp only at hjob hout
    subst hjob hout
    obtain ⟨record', l₁, g₁, h₁, h₂⟩ := hrun.bind
    obtain ⟨hrecord, rfl⟩ := h₂.ret
    cases hrecord
    exact redeem_seat h₁.mapError hjoined

end Programs

/-- Sign-ins that restore an account commit when the live groups of its ended memberships have a free seat and no
other transaction holds them. -/
def RestoresSeated (s : State) (lab : Label Job) : Prop :=
  ∀ id t out, lab = .commit id → s.find id = some t → t.prog = .ret out → ∀ H, Restores ⟨t.job, out, t.ran⟩ s.shared H →
    FreeSeat s.shared.db H ∧ ∀ o ∈ s.others id, (.groups H, .update) ∉ o.ran.locks

/-- Live groups have no more live members than seats, in every run whose restores find a free seat. -/
theorem members_have_seats {s : State} (hs : (system settings ticks).ReachableWhere RestoresSeated SeatedStarts s)
    {groupId : Uuid} {h : Group} (hgroup : s.shared.db.get (.groups groupId) = some h) (hlive : h.deletedAt = none) :
    (liveMembers s.shared.db groupId).length ≤ h.maxMembers := by
  have hsound : Sound (seatContract settings ticks) s := by
    refine reachable_sound (fun s₁ id t out hcond hf hp => ⟨fun H hr => ?_, fun o ho H hr => ?_⟩) programs_seatContract hs
    · exact (hcond id t out rfl hf hp H hr).1
    · exact (hcond id t out rfl hf hp H hr).2 o ho
  exact seated_of_history hsound.history groupId h hgroup hlive

section Sample

lemma seatedStarts_empty : SeatedStarts ⟨.empty, [], 0, 0, []⟩ := ⟨starts_empty, fun _ _ h => nomatch h⟩

/-- Passes if no other transaction runs and every group has a free seat. -/
def testSeats (s : State) : Label Job → Bool
  | .commit id => (s.others id).isEmpty && (s.shared.db.ids Tables.groups fun H h =>
      decide (h.maxMembers ≤ (liveMembers s.shared.db H).length)).isEmpty
  | _ => true

lemma restoresSeated_of_test {s : State} {lab : Label Job} (h : testSeats s lab = true) : RestoresSeated s lab := by
  rintro id t out rfl hf hp H hr
  simp only [testSeats, Bool.and_eq_true, List.isEmpty_iff] at h
  obtain ⟨hothers, hfull⟩ := h
  obtain ⟨h₀, hH, -⟩ := hr.group
  refine ⟨⟨h₀, hH, ?_⟩, fun o ho => ?_⟩
  · by_contra hnot
    have hmem : H ∈ s.shared.db.ids Tables.groups fun H h => decide (h.maxMembers ≤ (liveMembers s.shared.db H).length) :=
      Store.mem_ids.mpr ⟨h₀, hH, by simpa using hnot⟩
    rw [hfull] at hmem
    cases hmem
  · rw [hothers] at ho
    cases ho

/-- A member deletes the account and signs in again within the grace period. -/
def restoreSchedule : List (Label Job) := Label.serial 1 [
  (.purge (.account (.exchange ⟨"google", "owner", "owner", none⟩ 0)), 10, 19),
  (.purge (.account (.exchange ⟨"google", "member", "member", none⟩ 0)), 50, 19),
  (.create 16 "group", 100, 16),
  (.issueInvite 16 100 sampleCode none none 0, 200, 9),
  (.redeem 56 sampleCode 0, 300, 23),
  (.deleteAccount 56, 400, 38),
  (.purge (.account (.exchange ⟨"google", "member", "member", none⟩ 0)), 500, 26)]

theorem members_have_seats_in_schedule : ∃ s : State, sampleSystem.ReachableWhere RestoresSeated SeatedStarts s ∧
    ∃ h, s.shared.db.get (.groups 100) = some h ∧ (liveMembers s.shared.db 100).length = 2 ∧
      (liveMembers s.shared.db 100).length ≤ h.maxMembers := by
  have hrun : (sampleSystem.runWhere testSeats ⟨⟨.empty, [], 0, 0, []⟩, []⟩ restoreSchedule).map
      (fun s => ((s.shared.db.get (.groups 100)).map Group.deletedAt, (liveMembers s.shared.db 100).length)) =
        some (some none, 2) := by
    decide +kernel
  obtain ⟨s, hs, hpair⟩ := Option.map_eq_some_iff.mp hrun
  obtain ⟨hrow, hcount⟩ := Prod.mk.inj hpair
  obtain ⟨h, hh, hlive⟩ := Option.map_eq_some_iff.mp hrow
  have hreach := System.reachableWhere_of_run _ (fun _ _ => restoresSeated_of_test) seatedStarts_empty hs
  exact ⟨s, hreach, h, hh, hcount, members_have_seats hreach hh hlive⟩

/-- A group with twelve members and its invite, and a user who is not a member. -/
def fullGroup : Store Row where
  get
    | .users i => if i < 13 then some { nickname := "user" } else none
    | .authIdentities i => if i = 20 then some ⟨1, "google", "member", 0, none⟩ else none
    | .groups i => if i = 20000 then some { name := "group", ownerId := 0 } else none
    | .memberships i => if i < 12 then some ⟨20000, i, if i = 0 then .owner else .member, 0, none, none⟩ else none
    | .invites i => if i = 40 then some ⟨20000, sampleCode, 0, none, none, 11, 0, none⟩ else none
    | .chatrooms i => if i = 50 then some ⟨20000, .main, none, 0, none⟩ else none
    | _ => none
  keys := [.authIdentities 20, .groups 20000, .invites 40, .chatrooms 50] ++ (List.range 13).map .users ++ (List.range 12).map .memberships
  complete k h := by
    cases k <;> simp_all
  nodup := by decide

lemma mem_keys_fullGroup {k : Key} {i : Idx} (h : i ∈ entries index k (fullGroup.get k)) : k ∈ fullGroup.keys := by
  refine fullGroup.complete k fun hnone => ?_
  rw [hnone] at h
  cases h

lemma unique_fullGroup : Unique index fullGroup := by
  have hall : ∀ k ∈ fullGroup.keys, ∀ k' ∈ fullGroup.keys, ∀ i ∈ entries index k (fullGroup.get k),
      i ∈ entries index k' (fullGroup.get k') → k = k' := by decide
  intro k k' i hi hi'
  exact hall k (mem_keys_fullGroup hi) k' (mem_keys_fullGroup hi') i hi hi'

lemma member_fullGroup {m : Uuid} {r : Membership} (h : fullGroup.get (.memberships m) = some r) :
    m < 12 ∧ r = ⟨20000, m, if m = 0 then .owner else .member, 0, none, none⟩ := by
  simp only [fullGroup, Option.ite_none_right_eq_some, Option.some.injEq] at h
  exact ⟨h.1, h.2.symm⟩

lemma group_fullGroup {i : Uuid} {h : Group} (hi : fullGroup.get (.groups i) = some h) :
    i = 20000 ∧ h = { name := "group", ownerId := 0 } := by
  simp only [fullGroup, Option.ite_none_right_eq_some, Option.some.injEq] at hi
  exact ⟨hi.1, hi.2.symm⟩

lemma wellFormed_fullGroup : WellFormed fullGroup where
  owned i h hi _ := by
    obtain ⟨rfl, rfl⟩ := group_fullGroup hi
    refine ⟨0, _, rfl, rfl, rfl, rfl, rfl, ⟨_, rfl, rfl⟩, fun m r hm _ hrole => ?_⟩
    obtain ⟨-, rfl⟩ := member_fullGroup hm
    by_contra hne
    rw [if_neg hne] at hrole
    cases hrole
  group m r hm := by
    obtain ⟨-, rfl⟩ := member_fullGroup hm
    exact nofun
  flag m r hm _ := by
    obtain ⟨-, rfl⟩ := member_fullGroup hm
    rfl
  flagged m r u hm hflag := by
    obtain ⟨-, rfl⟩ := member_fullGroup hm
    exact absurd rfl hflag
  once m m' r r' hm hm' _ huser _ _ := by
    obtain ⟨-, rfl⟩ := member_fullGroup hm
    obtain ⟨-, rfl⟩ := member_fullGroup hm'
    exact huser
  uses i r n hi hmax := by
    simp only [fullGroup, Option.ite_none_right_eq_some, Option.some.injEq] at hi
    rw [← hi.2] at hmax
    cases hmax

lemma seatedStarts_fullGroup : SeatedStarts ⟨fullGroup, [], 0, 0, List.range 13 ++ [20000, 40]⟩ := by
  refine ⟨⟨rfl, unique_fullGroup, wellFormed_fullGroup, fun m r hm => ?_, fun i hi => ?_, fun i hi => ?_, fun i hi => ?_⟩, ?_⟩
  · obtain ⟨hlt, rfl⟩ := member_fullGroup hm
    have hlt' : m < 13 := Nat.lt_of_lt_of_le hlt (by decide)
    simp [fullGroup, hlt']
  · have hlt : i < 13 := by
      by_contra hnot
      exact hi (if_neg hnot)
    exact List.mem_append_left _ (List.mem_range.mpr hlt)
  · have heq : i = 20000 := by
      by_contra hnot
      exact hi (if_neg hnot)
    rw [heq]
    decide
  · have heq : i = 40 := by
      by_contra hnot
      exact hi (if_neg hnot)
    rw [heq]
    decide
  · intro H h hH _
    obtain ⟨rfl, rfl⟩ := group_fullGroup hH
    decide

/-- The account of a member is deleted, the other user takes the seat, and the account is restored. -/
def overfullSchedule : List (Label Job) := Label.serial 1 [
  (.deleteAccount 1, 100, 34),
  (.redeem 12 sampleCode 0, 200, 23),
  (.purge (.account (.exchange ⟨"google", "member", "member", none⟩ 0)), 300, 26)]

/-- A restore can leave a group with more members than seats. -/
theorem members_without_seats : ∃ (s : State) (h : Group), sampleSystem.Reachable SeatedStarts s ∧
    s.shared.db.get (.groups 20000) = some h ∧ h.deletedAt = none ∧
      h.maxMembers < (liveMembers s.shared.db 20000).length := by
  have hrun : (sampleSystem.run ⟨⟨fullGroup, [], 0, 0, List.range 13 ++ [20000, 40]⟩, []⟩ overfullSchedule).map
      (fun s => ((s.shared.db.get (.groups 20000)).map fun h => (h.deletedAt, h.maxMembers),
        (liveMembers s.shared.db 20000).length)) = some (some (none, 12), 13) := by
    decide
  obtain ⟨s, hs, hpair⟩ := Option.map_eq_some_iff.mp hrun
  obtain ⟨hrow, hcount⟩ := Prod.mk.inj hpair
  obtain ⟨h, hh, hgroup⟩ := Option.map_eq_some_iff.mp hrow
  obtain ⟨hlive, hseats⟩ := Prod.mk.inj hgroup
  refine ⟨s, h, System.reachable_of_run _ seatedStarts_fullGroup hs, hh, hlive, ?_⟩
  rw [hcount, hseats]
  decide

end Sample

end JamyeServer.Groups
