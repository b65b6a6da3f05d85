import Mathlib.Data.Finset.Card
import Mathlib.Logic.Function.Basic

/-!
# Indexes

An index maps a key to the set of the values filed under it. An entry is made when its first value is filed and
dropped with its last one, so no entry is empty.
-/

namespace JamyeServer

variable {κ α : Type} [DecidableEq κ] [DecidableEq α]

abbrev Index (κ α : Type) := κ → Option (Finset α)

namespace Index

/-- The values filed under the key. -/
def members (m : Index κ α) (k : κ) : Finset α := (m k).getD ∅

/-- `entry(k).or_default().insert(a)`. -/
def add (m : Index κ α) (k : κ) (a : α) : Index κ α := Function.update m k (some (insert a (m.members k)))

/-- Takes `a` out of the entry of `k`, and the entry away when it gets empty. -/
def drop (m : Index κ α) (k : κ) (a : α) : Index κ α :=
  match m k with
  | none => m
  | some values => Function.update m k (if values.erase a = ∅ then none else some (values.erase a))

/-- Takes `a` out of the entries of all `ks`; no entry is looked at twice. -/
def dropAll (m : Index κ α) (ks : Finset κ) (a : α) : Index κ α := fun k => if k ∈ ks then m.drop k a k else m k

def NoneEmpty (m : Index κ α) : Prop := ∀ k values, m k = some values → values.Nonempty

variable {m : Index κ α} {k k' : κ} {a b : α}

omit [DecidableEq κ] [DecidableEq α] in
@[simp] lemma mem_members_empty : a ∉ members (fun _ => none : Index κ α) k := by simp [members]

lemma members_add : (m.add k a).members k' = if k' = k then insert a (m.members k') else m.members k' := by
  by_cases h : k' = k
  · subst h
    simp [add, members]
  · simp [add, members, h]

@[simp] lemma mem_members_add : b ∈ (m.add k a).members k' ↔ k' = k ∧ b = a ∨ b ∈ m.members k' := by
  rw [members_add]
  split_ifs with h <;> simp [h]

lemma noneEmpty_add (h : m.NoneEmpty) : (m.add k a).NoneEmpty := by
  intro j values hj
  by_cases he : j = k
  · subst he
    simp only [add, Function.update_self, Option.some.injEq] at hj
    exact hj ▸ Finset.insert_nonempty _ _
  · rw [add, Function.update_of_ne he] at hj
    exact h j values hj

lemma drop_of_ne (h : k' ≠ k) : m.drop k a k' = m k' := by
  cases hm : m k with
  | none => simp [drop, hm]
  | some values => simp [drop, hm, h]

lemma members_drop_self : (m.drop k a).members k = (m.members k).erase a := by
  cases hm : m k with
  | none => simp [members, drop, hm]
  | some values => by_cases he : values.erase a = ∅ <;> simp [members, drop, hm, he]

lemma noneEmpty_drop (h : m.NoneEmpty) : (m.drop k a).NoneEmpty := by
  intro j values hj
  by_cases he : j = k
  · subst he
    cases hm : m j with
    | none => simp [drop, hm] at hj
    | some entry =>
      by_cases hempty : entry.erase a = ∅
      · simp [drop, hm, hempty] at hj
      · simp only [drop, hm, hempty, if_false, Function.update_self, Option.some.injEq] at hj
        exact hj ▸ Finset.nonempty_iff_ne_empty.mpr hempty
  · rw [drop_of_ne he] at hj
    exact h j values hj

@[simp] lemma mem_members_drop : b ∈ (m.drop k a).members k' ↔ b ∈ m.members k' ∧ ¬(k' = k ∧ b = a) := by
  by_cases h : k' = k
  · subst h
    simp [members_drop_self, and_comm]
  · simp [members, drop_of_ne h, h]

@[simp] lemma mem_members_dropAll {ks : Finset κ} :
    b ∈ (m.dropAll ks a).members k ↔ b ∈ m.members k ∧ ¬(k ∈ ks ∧ b = a) := by
  by_cases h : k ∈ ks
  · have : (m.dropAll ks a).members k = (m.drop k a).members k := by simp [members, dropAll, h]
    rw [this, mem_members_drop]
    simp [h]
  · simp [members, dropAll, h]

lemma noneEmpty_dropAll {ks : Finset κ} (h : m.NoneEmpty) : (m.dropAll ks a).NoneEmpty := by
  intro j values hj
  by_cases hk : j ∈ ks
  · rw [dropAll, if_pos hk] at hj
    exact noneEmpty_drop h j values hj
  · rw [dropAll, if_neg hk] at hj
    exact h j values hj

end Index

end JamyeServer
