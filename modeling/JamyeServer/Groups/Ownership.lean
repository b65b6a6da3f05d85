import JamyeServer.Groups.Conflicts

/-!
# Groups and their owners

A live group has one live membership with the role of owner. It is the membership of the group's owner, and
the account of the owner is live.
-/

namespace JamyeServer.Groups

open ReadCommitted Postgres Auth Groups AccountDeletion

variable {settings : Settings} {ticks : Time → Time → Bool}

/-- Reachable states come from a history in which all transactions ended as the contract says. -/
lemma sound_of_reachable {s : State} (h : (system settings ticks).Reachable Starts s) :
    Sound (contract settings ticks) s :=
  reachable_sound (fun _ _ _ _ _ _ _ => ⟨trivial, fun _ _ => trivial⟩) programs h

/-- A live membership with the role of owner. -/
def OwnerOf (s : Store Row) (groupId m : Uuid) (r : Membership) : Prop :=
  s.get (.memberships m) = some r ∧ r.groupId = groupId ∧ r.role = .owner ∧ r.deletedAt = none

/-- In every reachable state, a live group has exactly one live membership with the role of owner; its user is
the owner of the group and has a live account. -/
theorem group_has_one_owner {s : State} (hs : (system settings ticks).Reachable Starts s) {groupId : Uuid} {h : Group}
    (hgroup : s.shared.db.get (.groups groupId) = some h) (hlive : h.deletedAt = none) :
    (∃! m, ∃ r, OwnerOf s.shared.db groupId m r) ∧ ∀ m r, OwnerOf s.shared.db groupId m r →
      r.userId = h.ownerId ∧ ∃ u, s.shared.db.get (.users r.userId) = some u ∧ u.deletedAt = none := by
  have hwf := wellFormed_of_history obeys_contract (sound_of_reachable hs).history
  obtain ⟨m, r, hm, hg, hrole, hover, huser, haccount, huniq⟩ := hwf.owned groupId h hgroup hlive
  refine ⟨⟨m, ⟨r, hm, hg, hrole, hover⟩, ?_⟩, ?_⟩
  · rintro m' ⟨r', hm', hg', hrole', -⟩
    exact huniq m' r' hm' hg' hrole'
  · rintro m' r' ⟨hm', hg', hrole', -⟩
    obtain rfl := huniq m' r' hm' hg' hrole'
    rw [hm] at hm'
    cases hm'
    exact ⟨huser, huser ▸ haccount⟩

section Sample

def sampleSettings : Settings := ⟨100, 1000, id⟩

def sampleCode : String := "0123456789ABCDEFGHJKMNPQRS"

/-- Two users sign in, one of them founds a group and invites the other, hands the group over and deletes the
account. -/
def groupSchedule : List (Label Job) := Label.serial 1 [
  (.purge (.account (.exchange ⟨"google", "owner", "owner", none⟩ 0)), 10, 19),
  (.purge (.account (.exchange ⟨"google", "member", "member", none⟩ 0)), 50, 19),
  (.create 16 "group", 100, 16),
  (.issueInvite 16 100 sampleCode none (some 2) 0, 200, 9),
  (.redeem 56 sampleCode 0, 300, 23),
  (.setRole 16 100 56 .owner, 400, 20),
  (.deleteAccount 16, 500, 38)]

abbrev sampleSystem := system sampleSettings fun t t' => decide (t ≤ t')

lemma starts_empty : Starts ⟨.empty, [], 0, 0, []⟩ where
  log := rfl
  unique k k' i h := by simp [entries] at h
  tables :=
    { owned := fun _ _ h => nomatch h
      group := fun _ _ h => nomatch h
      flag := fun _ _ h => nomatch h
      flagged := fun _ _ _ h => nomatch h
      once := fun _ _ _ _ h => nomatch h
      uses := fun _ _ _ h => nomatch h }
  accounts _ _ h := nomatch h
  users i h := absurd rfl h
  groups i h := absurd rfl h
  invites i h := absurd rfl h

theorem group_has_one_owner_in_schedule : ∃ s : State, sampleSystem.Reachable Starts s ∧
    (∃! m, ∃ r, OwnerOf s.shared.db 100 m r) ∧ ∀ m r, OwnerOf s.shared.db 100 m r →
      r.userId = 56 ∧ ∃ u, s.shared.db.get (.users r.userId) = some u ∧ u.deletedAt = none := by
  have hrun : (sampleSystem.run ⟨⟨.empty, [], 0, 0, []⟩, []⟩ groupSchedule).map
      (fun s => (s.shared.db.get (.groups 100)).map fun h => (h.ownerId, h.deletedAt)) = some (some (56, none)) := by
    decide +kernel
  obtain ⟨s, hs, hrow⟩ := Option.map_eq_some_iff.mp hrun
  obtain ⟨h, hh, hpair⟩ := Option.map_eq_some_iff.mp hrow
  obtain ⟨howner, hlive⟩ := Prod.mk.inj hpair
  have hreach := System.reachable_of_run _ starts_empty hs
  refine ⟨s, hreach, ?_⟩
  rw [← howner]
  exact group_has_one_owner hreach hh hlive

end Sample

end JamyeServer.Groups
