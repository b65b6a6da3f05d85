import Mathlib.Data.List.Basic
import Mathlib.Data.List.Nodup
import Mathlib.Logic.Function.Basic

/-!
# Versions of a database

A version of the database maps the key of a row (its table and primary key) to the row, if there is
one. `keys` lists every key that may hold a row, so that a table can be scanned. A transaction
collects `Write`s and its own view of the database is a version with these writes applied.
-/

namespace JamyeServer.ReadCommitted

variable {Key : Type} {Row : Key → Type}

/-- One version of the database. -/
structure Store (Row : Key → Type) where
  get : (k : Key) → Option (Row k)
  keys : List Key
  complete : ∀ k, get k ≠ none → k ∈ keys
  nodup : keys.Nodup

/-- The new content of one row; `none` deletes it. -/
structure Write (Row : Key → Type) where
  key : Key
  value : Option (Row key)

/-- One table: `key` places its ids among the keys and `id?` recognises them. -/
structure Table (Key ι : Type) where
  key : ι → Key
  id? : Key → Option ι
  id?_eq : ∀ k i, id? k = some i ↔ k = key i

lemma Table.key_injective {ι : Type} (T : Table Key ι) : Function.Injective T.key := fun i j h => by
  have hi : T.id? (T.key i) = some i := (T.id?_eq _ _).mpr rfl
  have hj : T.id? (T.key i) = some j := (T.id?_eq _ _).mpr h
  exact Option.some.inj (hi.symm.trans hj)

namespace Store

def empty : Store Row := ⟨fun _ => none, [], fun _ h => absurd rfl h, .nil⟩

@[simp] lemma get_empty (k : Key) : (empty : Store Row).get k = none := rfl

variable {ι : Type}

/-- The ids of the rows of one table that satisfy `p`. -/
def ids (s : Store Row) (T : Table Key ι) (p : (i : ι) → Row (T.key i) → Bool) : List ι :=
  s.keys.filterMap fun k => (T.id? k).filter fun i => (s.get (T.key i)).any (p i)

lemma mem_ids {s : Store Row} {T : Table Key ι} {p : (i : ι) → Row (T.key i) → Bool} {i : ι} :
    i ∈ s.ids T p ↔ ∃ r, s.get (T.key i) = some r ∧ p i r = true := by
  simp only [ids, List.mem_filterMap, Option.filter_eq_some_iff, Option.any_eq_true_iff_get]
  constructor
  · rintro ⟨k, -, -, h, hp⟩
    exact ⟨_, (Option.some_get h).symm, hp⟩
  · rintro ⟨r, hr, hp⟩
    exact ⟨T.key i, s.complete _ (by simp [hr]), (T.id?_eq _ _).mpr rfl, by simp [hr], by simpa [hr] using hp⟩

lemma nodup_ids (s : Store Row) (T : Table Key ι) (p : (i : ι) → Row (T.key i) → Bool) :
    (s.ids T p).Nodup := by
  refine List.Nodup.filterMap ?_ s.nodup
  intro k k' i hk hk'
  rw [Option.mem_def, Option.filter_eq_some_iff] at hk hk'
  rw [(T.id?_eq k i).mp hk.1, (T.id?_eq k' i).mp hk'.1]

/-- The row with one id, if it satisfies `p`. -/
def one (s : Store Row) (T : Table Key ι) (i : ι) (p : Row (T.key i) → Bool) : List ι :=
  if (s.get (T.key i)).any p then [i] else []

lemma mem_one {s : Store Row} {T : Table Key ι} {i j : ι} {p : Row (T.key i) → Bool} :
    j ∈ s.one T i p ↔ j = i ∧ ∃ r, s.get (T.key i) = some r ∧ p r = true := by
  unfold one
  cases s.get (T.key i) with
  | none => simp
  | some r => by_cases h : p r = true <;> simp [h]

lemma nodup_one (s : Store Row) (T : Table Key ι) (i : ι) (p : Row (T.key i) → Bool) :
    (s.one T i p).Nodup := by
  unfold one
  split <;> simp

/-- Two versions agree on a table. -/
def Same (T : Table Key ι) (s s' : Store Row) : Prop := ∀ i, s'.get (T.key i) = s.get (T.key i)

/-- Two versions agree on a table except at one id. -/
def SameBut (T : Table Key ι) (i : ι) (s s' : Store Row) : Prop :=
  ∀ j, j ≠ i → s'.get (T.key j) = s.get (T.key j)

variable [DecidableEq Key]

/-- A version with one row replaced. -/
def set (s : Store Row) (w : Write Row) : Store Row where
  get := Function.update s.get w.key w.value
  keys := s.keys.insert w.key
  complete k h := by
    by_cases hk : k = w.key
    · exact List.mem_insert_iff.mpr (.inl hk)
    · rw [Function.update_of_ne hk] at h
      exact List.mem_insert_iff.mpr (.inr (s.complete k h))
  nodup := List.Nodup.insert s.nodup

/-- A version with a list of writes applied, the head of the list last. -/
def apply (s : Store Row) (ws : List (Write Row)) : Store Row :=
  ws.foldr (fun w s => s.set w) s

@[simp] lemma apply_nil (s : Store Row) : s.apply [] = s := rfl

@[simp] lemma apply_cons (s : Store Row) (w : Write Row) (ws : List (Write Row)) :
    s.apply (w :: ws) = (s.apply ws).set w := rfl

@[simp] lemma get_set_self (s : Store Row) (k : Key) (v : Option (Row k)) :
    (s.set ⟨k, v⟩).get k = v := Function.update_self ..

lemma get_set_of_ne (s : Store Row) (w : Write Row) {k : Key} (h : k ≠ w.key) :
    (s.set w).get k = s.get k := Function.update_of_ne h ..

@[simp] lemma get_set_mk_of_ne (s : Store Row) {k k' : Key} (v : Option (Row k')) (h : k ≠ k') :
    (s.set ⟨k', v⟩).get k = s.get k := Function.update_of_ne h ..

/-- Keys that a list of writes does not mention keep their row. -/
lemma get_apply_of_notMem (s : Store Row) {ws : List (Write Row)} {k : Key}
    (h : k ∉ ws.map Write.key) : (s.apply ws).get k = s.get k := by
  induction ws with
  | nil => rfl
  | cons w ws ih =>
    simp only [List.map_cons, List.mem_cons, not_or] at h
    rw [apply_cons, get_set_of_ne _ _ h.1, ih h.2]

/-- A key that a list of writes mentions reads as one of these writes, whatever the version. -/
lemma get_apply_of_mem {ws : List (Write Row)} {k : Key} (h : k ∈ ws.map Write.key) :
    ∃ v, ⟨k, v⟩ ∈ ws ∧ ∀ s : Store Row, (s.apply ws).get k = v := by
  induction ws with
  | nil => simp at h
  | cons w ws ih =>
    by_cases hk : k = w.key
    · subst hk
      exact ⟨w.value, List.mem_cons_self, fun s => get_set_self _ _ _⟩
    · simp only [List.map_cons, List.mem_cons] at h
      obtain ⟨v, hv, hs⟩ := ih (h.resolve_left hk)
      refine ⟨v, List.mem_cons_of_mem _ hv, fun s => ?_⟩
      rw [apply_cons, get_set_of_ne _ _ hk, hs s]

lemma get_apply_of_mem_nodup (s : Store Row) {ws : List (Write Row)} (hnd : (ws.map Write.key).Nodup)
    {k : Key} {v : Option (Row k)} (h : ⟨k, v⟩ ∈ ws) : (s.apply ws).get k = v := by
  induction ws with
  | nil => cases h
  | cons w ws ih =>
    rw [List.map_cons, List.nodup_cons] at hnd
    rcases List.mem_cons.mp h with rfl | h
    · exact get_set_self _ _ _
    · have hne : k ≠ w.key := fun hk => hnd.1 (hk ▸ List.mem_map_of_mem (f := Write.key) h)
      rw [apply_cons, get_set_of_ne _ _ hne, ih hnd.2 h]

lemma apply_append (s : Store Row) (ws ws' : List (Write Row)) :
    s.apply (ws ++ ws') = (s.apply ws').apply ws := by
  simp [apply]

end Store

end JamyeServer.ReadCommitted
