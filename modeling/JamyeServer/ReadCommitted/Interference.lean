import JamyeServer.ReadCommitted.Engine
import Mathlib.Logic.Relation

/-!
# Transactions under interference

A proof about concurrent transactions is split in two. `Returns` describes one transaction alone:
between its requests, other transactions may commit, but only such that their locks and pending
writes agree with its own and that their commits meet a `Contract`. `reachable_sound` then says that
it is enough to prove of each program, run in this way, that it ends as the contract says: the commits
of every reachable state form a `History`.
-/

namespace JamyeServer.ReadCommitted

open Relation

variable {Key : Type} {Row : Key → Type} {Adv Idx Job Out ε ε' α : Type}

section Versions

variable (g : Shared Row Adv Job Out) (e : Entry Row Adv Job Out)

@[simp] lemma Shared.csn_commit : (g.commit e).csn = g.csn + 1 := by
  simp [Shared.csn, Shared.commit]

variable [DecidableEq Key]

lemma Shared.version_commit {n : Nat} (hn : n ≤ g.csn) : (g.commit e).version n = g.version n := by
  simp [Shared.version, Shared.commit, List.take_append_of_le_length hn]

lemma Shared.db_commit : (g.commit e).db = g.view e.ran := by
  simp only [Shared.db, Shared.view, Shared.version, Shared.csn_commit]
  rw [show g.csn + 1 = (g.commit e).log.length by simp [Shared.commit, Shared.csn], List.take_length]
  simp [Shared.commit, Shared.csn]

lemma Shared.unwritten_of_unchanged {l : Local Row Adv} {k : Key} (h : g.changedSince l k = false) {n : Nat}
    (hn : l.snapshots.headD l.start ≤ n) {e : Entry Row Adv Job Out} (he : e ∈ g.log.drop n) :
    k ∉ e.ran.writes.map Write.key := by
  intro hk
  have hmem : e ∈ g.log.drop (l.snapshots.headD l.start) := (List.drop_sublist_drop_left g.log hn).subset he
  simp only [Shared.changedSince, List.any_eq_false, List.any_eq_true, decide_eq_true_eq, not_exists, not_and] at h
  obtain ⟨w, hw, hwk⟩ := List.mem_map.mp hk
  exact h e hmem w hw hwk

/-- A row that no commit since then has written is as it was. -/
lemma Shared.get_of_unchanged {l : Local Row Adv} {k : Key} (h : g.changedSince l k = false) {n : Nat}
    (hn : l.snapshots.headD l.start ≤ n) : (g.version n).get k = g.db.get k := by
  have hrest : ∀ e ∈ g.log.drop n, k ∉ e.ran.writes.map Write.key := fun e he => Shared.unwritten_of_unchanged _ h hn he
  have hdb : g.db = (g.log.drop n).foldl (fun s e => s.apply e.ran.writes) (g.version n) := by
    rw [Shared.version, ← List.foldl_append, List.take_append_drop]
    simp [Shared.db, Shared.version, Shared.csn]
  rw [hdb]
  clear hdb
  generalize g.version n = s
  generalize g.log.drop n = es at hrest
  induction es generalizing s with
  | nil => rfl
  | cons e es ih =>
    rw [List.foldl_cons, ← ih _ (fun e' he' => hrest e' (List.mem_cons_of_mem _ he')),
      Store.get_apply_of_notMem _ (hrest e List.mem_cons_self)]

end Versions

/-- Unique indexes: no two rows share an entry. -/
def Unique (index : (k : Key) → Row k → List Idx) (s : Store Row) : Prop :=
  ∀ k k' i, i ∈ entries index k (s.get k) → i ∈ entries index k' (s.get k') → k = k'

/-- Two running transactions do not hold conflicting locks, pending index entries or the same new
identifier. -/
structure Compat (index : (k : Key) → Row k → List Idx) (l o : Local Row Adv) : Prop where
  locks : ∀ k m m', (k, m) ∈ l.locks → (k, m') ∈ o.locks → m.conflicts m' = false
  advisory : ∀ a ∈ l.advisory, a ∉ o.advisory
  writes : ∀ w ∈ l.writes, ∀ w' ∈ o.writes, ∀ i ∈ entries index w.key w.value,
    i ∉ entries index w'.key w'.value
  drawn : ∀ i ∈ l.drawn, i ∉ o.drawn

lemma Compat.symm {index : (k : Key) → Row k → List Idx} {l o : Local Row Adv}
    (h : Compat index l o) : Compat index o l where
  locks k m m' hm hm' := by
    rw [LockMode.conflicts_comm]
    exact h.locks k m' m hm' hm
  advisory a ha hl := h.advisory a hl ha
  writes w hw w' hw' i hi hi' := h.writes w' hw' w hw i hi' hi
  drawn i hi hi' := h.drawn i hi' hi

/-- What a running transaction always satisfies: it writes only rows that it has locked, its
snapshots lie in its lifetime, and its own view keeps the unique indexes. -/
structure Coherent [DecidableEq Key] (index : (k : Key) → Row k → List Idx) (l : Local Row Adv)
    (g : Shared Row Adv Job Out) : Prop where
  locked : ∀ w ∈ l.writes, ∃ m, (w.key, m) ∈ l.locks ∧ m.exclusive ∧ (w.value = none → m = .update)
  start_le : l.start ≤ g.csn
  snapshots : ∀ n ∈ l.snapshots, l.start ≤ n ∧ n ≤ g.csn
  drawn : ∀ i ∈ l.drawn, i ∈ g.used
  unique : Unique index (g.view l)

/-- Changes of the shared state that commit nothing. -/
structure Shift (sys : System Row Adv Idx ε Job Out) (g g' : Shared Row Adv Job Out) : Prop where
  init : g'.init = g.init
  log : g'.log = g.log
  sequence : g.sequence ≤ g'.sequence
  used : g.used ⊆ g'.used
  now : g'.now = g.now ∨ sys.ticks g.now g'.now

/-- Where the server may start, and what a commit may do to the state it meets. `Assume` and `Guard`
restrict the schedules: what a commit may be taken to satisfy, and what it satisfies towards each
transaction that is running then; `Request` does so for the requests of a running transaction. `Fails` says with which
errors a transaction may end. -/
structure Contract (sys : System Row Adv Idx ε Job Out) where
  Init : Shared Row Adv Job Out → Prop
  log_init : ∀ g, Init g → g.log = []
  unique_init : ∀ g, Init g → Unique sys.index g.init
  Ok : Entry Row Adv Job Out → Shared Row Adv Job Out → Prop
  Assume : Entry Row Adv Job Out → Shared Row Adv Job Out → Prop := fun _ _ => True
  Guard : Local Row Adv → Entry Row Adv Job Out → Shared Row Adv Job Out → Prop := fun _ _ _ => True
  Request : Op Row Adv → Local Row Adv → Shared Row Adv Job Out → Prop := fun _ _ _ => True
  Fails : Job → ε → Prop := fun _ _ => True

section Logic

variable [DecidableEq Key] {sys : System Row Adv Idx ε Job Out} (C : Contract sys)

/-- A commit as the contract has it. -/
structure Commits (e : Entry Row Adv Job Out) (g : Shared Row Adv Job Out) : Prop where
  coherent : Coherent sys.index e.ran g
  ok : C.Ok e g
  assume : C.Assume e g

/-- The shared states that arise when every commit meets the contract. -/
inductive History : Shared Row Adv Job Out → Prop
  | init {g} : C.Init g → History g
  | shift {g g'} : History g → Shift sys g g' → History g'
  | commit {g e} : History g → Commits C e g → History (g.commit e)

/-- One thing that may happen to the shared state while the transaction `l` is running. -/
inductive Interference (l : Local Row Adv) : Shared Row Adv Job Out → Shared Row Adv Job Out → Prop
  | shift {g g'} : Shift sys g g' → History C g' → Interference l g g'
  | commit {g e} : Commits C e g → Compat sys.index l e.ran → C.Guard l e g →
      History C (g.commit e) → Coherent sys.index l (g.commit e) → Interference l g (g.commit e)

/-- Everything that may happen between two requests of the transaction `l`. -/
def Rely (l : Local Row Adv) : Shared Row Adv Job Out → Shared Row Adv Job Out → Prop :=
  ReflTransGen (Interference C l)

variable [DecidableEq Adv] [DecidableEq Idx]

/-- Started as `l` on `g`, the program can end with `r` as `l'` on `g'`. -/
def Returns : Prog Row Adv ε' α → Local Row Adv → Shared Row Adv Job Out → Except ε' α → Local Row Adv →
    Shared Row Adv Job Out → Prop
  | .ret a, l, g, r, l', g' => r = .ok a ∧ l' = l ∧ Rely C l g g'
  | .fail e, l, g, r, l', g' => r = .error e ∧ l' = l ∧ Rely C l g g'
  | .op o k, l, g, r, l', g' => ∃ g₁ others choice x l₁ g₂, Rely C l g g₁ ∧
      exec sys.index others choice o l g₁ = some (x, l₁, g₂) ∧ Coherent sys.index l₁ g₂ ∧
      History C g₂ ∧ C.Request o l g₁ ∧ Returns (k x) l₁ g₂ r l' g'

end Logic

section Shift

variable {sys : System Row Adv Idx ε Job Out} {g g' : Shared Row Adv Job Out}

lemma Shift.csn (h : Shift sys g g') : g'.csn = g.csn := by
  rw [Shared.csn, h.log, Shared.csn]

variable [DecidableEq Key]

lemma Shift.version (h : Shift sys g g') (n : Nat) : g'.version n = g.version n := by
  rw [Shared.version, h.log, h.init, Shared.version]

lemma Shift.db (h : Shift sys g g') : g'.db = g.db := by
  rw [Shared.db, h.version, h.csn, Shared.db]

lemma Shift.view (h : Shift sys g g') (l : Local Row Adv) : g'.view l = g.view l := by
  rw [Shared.view, h.db, Shared.view]

lemma Coherent.shift {l : Local Row Adv} (hl : Coherent sys.index l g) (h : Shift sys g g') :
    Coherent sys.index l g' where
  locked := hl.locked
  start_le := h.csn ▸ hl.start_le
  snapshots := h.csn ▸ hl.snapshots
  drawn i hi := h.used (hl.drawn i hi)
  unique := h.view l ▸ hl.unique

end Shift

end JamyeServer.ReadCommitted
