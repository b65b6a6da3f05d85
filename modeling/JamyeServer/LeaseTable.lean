import Mathlib.Data.List.Sort

/-!
# Tables whose rows are leased to workers

The statements of a queue in a database: a claim picks rows in an order and skips those that others have locked; an
update of some rows fails as a whole when one of the new rows is out of range or violates a CHECK.
-/

namespace JamyeServer.LeaseTable

/-- What a step does. Invalid data is rejected before any statement. -/
inductive Result (S : Type)
  | disabled
  | invalidData
  | outOfRange
  | violation
  | next (s : S)

section Results

variable {S : Type}

def Result.state? : Result S → Option S
  | .next s => some s
  | _ => none

lemma Result.state?_eq_some {result : Result S} {s : S} (h : result.state? = some s) : result = .next s := by
  cases result with
  | next s' => rw [Option.some.inj h]
  | _ => cases h

end Results

variable {Id Row S : Type} [DecidableEq Id]

/-- `SELECT ... ORDER BY ... LIMIT ... FOR UPDATE SKIP LOCKED`. -/
def candidates (order : Id → Id → Bool) (claimable : Row → Bool) (ids : List Id) (rows : Id → Option Row)
    (batchSize : Nat) (locked : List Id) : List Id :=
  ((ids.filter fun i => decide (i ∉ locked) && (rows i).any claimable).insertionSort fun i j => order i j).take batchSize

/-- `UPDATE` of the rows that satisfy `p`, and what is done with the new rows. -/
def update (inRange checks : Row → Bool) (ids : List Id) (rows : Id → Option Row) (p : Id → Row → Bool) (f : Row → Row)
    (next : (Id → Option Row) → S) : Result S :=
  if (ids.any fun i => (rows i).any fun r => p i r && !inRange (f r)) then .outOfRange
  else if (ids.any fun i => (rows i).any fun r => p i r && !checks (f r)) then .violation
  else .next (next fun i => (rows i).map fun r => if p i r then f r else r)

section Rules

variable {order : Id → Id → Bool} {claimable inRange checks : Row → Bool} {ids locked : List Id} {rows : Id → Option Row}
  {batchSize : Nat} {p : Id → Row → Bool} {f : Row → Row} {next : (Id → Option Row) → S}

lemma mem_candidates {i : Id} (h : i ∈ candidates order claimable ids rows batchSize locked) :
    i ∈ ids ∧ ∃ r, rows i = some r ∧ claimable r = true := by
  have hmem := List.mem_of_mem_take h
  rw [List.mem_insertionSort, List.mem_filter, Bool.and_eq_true] at hmem
  exact ⟨hmem.1, (Option.any_eq_true _ _).mp hmem.2.2⟩

lemma nodup_candidates (h : ids.Nodup) : (candidates order claimable ids rows batchSize locked).Nodup := by
  have hsorted := (List.perm_insertionSort (fun i j => order i j = true)
    (ids.filter fun i => decide (i ∉ locked) && (rows i).any claimable)).nodup_iff.mpr (h.filter _)
  exact hsorted.sublist (List.take_sublist _ _)

lemma update_next {s : S} (h : update inRange checks ids rows p f next = .next s) :
    s = next fun i => (rows i).map fun r => if p i r then f r else r := by
  unfold update at h
  split at h
  · cases h
  split at h
  · cases h
  · exact (Result.next.inj h).symm

lemma update_ne_violation (h : ∀ i r, rows i = some r → p i r = true → checks (f r) = true) :
    update inRange checks ids rows p f next ≠ .violation := by
  unfold update
  split
  · exact nofun
  split
  next hchecks =>
    obtain ⟨i, -, hi⟩ := List.any_eq_true.mp hchecks
    obtain ⟨r, hr, hp⟩ := (Option.any_eq_true _ _).mp hi
    rw [Bool.and_eq_true, Bool.not_eq_true'] at hp
    rw [h i r hr hp.1] at hp
    cases hp.2
  · exact nofun

end Rules

end JamyeServer.LeaseTable
