import JamyeServer.ReadCommitted.Program

/-!
# Concurrent execution under READ COMMITTED

The server keeps the committed transactions in commit order, and `Shared.version n` is the database
after the first `n` of them. A running transaction sees a version together with its own writes; its
row locks, advisory locks and pending writes make requests of other transactions wait. A request that
has to wait is a step that is not enabled yet. A transaction may abort at any point.
-/

namespace JamyeServer.ReadCommitted

variable {Key : Type} {Row : Key → Type} {Adv Idx Job Out ε : Type}

/-- What one transaction holds: the commit count at its begin, the commit counts at which its
statements took their snapshots, its locks, its writes and the identifiers it has drawn, all newest
first. -/
structure Local (Row : Key → Type) (Adv : Type) where
  start : Nat
  snapshots : List Nat
  locks : List (Key × LockMode)
  advisory : List Adv
  writes : List (Write Row)
  drawn : List Nat

/-- A committed transaction. -/
structure Entry (Row : Key → Type) (Adv Job Out : Type) where
  job : Job
  out : Out
  ran : Local Row Adv

/-- What all transactions share: the commit log, the sequence, the clock and the identifiers that
have been handed out. -/
structure Shared (Row : Key → Type) (Adv Job Out : Type) where
  init : Store Row
  log : List (Entry Row Adv Job Out)
  sequence : Nat
  now : Nat
  used : List Nat

/-- The unique indexes, the transactions and the allowed changes of the clock. -/
structure System (Row : Key → Type) (Adv Idx ε Job Out : Type) where
  index : (k : Key) → Row k → List Idx
  prog : Job → Prog Row Adv ε Out
  ticks : Nat → Nat → Bool

namespace Shared

variable (g : Shared Row Adv Job Out)

/-- The commit count. -/
def csn : Nat := g.log.length

def commit (e : Entry Row Adv Job Out) : Shared Row Adv Job Out := { g with log := g.log ++ [e] }

variable [DecidableEq Key]

/-- The database after the first `n` commits. -/
def version (n : Nat) : Store Row :=
  (g.log.take n).foldl (fun s e => s.apply e.ran.writes) g.init

/-- The database as committed so far. -/
def db : Store Row := g.version g.csn

/-- The database as a transaction sees it: its own writes over the committed ones. -/
def view (l : Local Row Adv) : Store Row := g.db.apply l.writes

end Shared

/-- A transaction that begins now. -/
def Local.begin (g : Shared Row Adv Job Out) : Local Row Adv := ⟨g.csn, [], [], [], [], []⟩

/-- A commit since the latest snapshot of the transaction has written the row. -/
def Shared.changedSince [DecidableEq Key] (g : Shared Row Adv Job Out) (l : Local Row Adv) (k : Key) : Bool :=
  (g.log.drop (l.snapshots.headD l.start)).any fun e => e.ran.writes.any fun w => decide (w.key = k)

section Requests

variable [DecidableEq Key] [DecidableEq Adv] [DecidableEq Idx]
  (index : (k : Key) → Row k → List Idx)

/-- The unique-index entries of a row that may be absent. -/
def entries (k : Key) (v : Option (Row k)) : List Idx := v.elim [] (index k)

/-- Another transaction holds a lock on the row that conflicts with `m`. -/
def lockedByOther (others : List (Local Row Adv)) (k : Key) (m : LockMode) : Bool :=
  others.any fun o => o.locks.any fun x => decide (x.1 = k) && x.2.conflicts m

/-- Another transaction has an unfinished write of row `k`, or of a row that had or is to have one of
the index entries `is`. -/
def pendingByOther (db : Store Row) (others : List (Local Row Adv)) (k : Key) (is : List Idx) : Bool :=
  others.any fun o => o.writes.any fun w =>
    decide (w.key = k) || is.any fun i =>
      decide (i ∈ entries index w.key w.value) || decide (i ∈ entries index w.key (db.get w.key))

/-- A row other than `k` that already has one of the index entries `is`. -/
def violation (view : Store Row) (k : Key) (is : List Idx) : Option Key :=
  view.keys.find? fun k' =>
    decide (k' ≠ k) && is.any fun i => decide (i ∈ entries index k' (view.get k'))

/-- The row that an insertion of `r` at `k` collides with. -/
def collision (view : Store Row) (k : Key) (r : Row k) : Option Key :=
  if (view.get k).isSome then some k else violation index view k (index k r)

/-- Whether a transaction has the lock it needs to write `v` at `k`. -/
def mayWrite (l : Local Row Adv) (k : Key) (v : Option (Row k)) : Bool :=
  l.locks.any fun x => decide (x.1 = k) && (if v.isSome then x.2.exclusive else x.2 == .update)

/-- One request of a transaction `l` while the transactions `others` are running. `none` says that it
has to wait; `choice` decides what the request leaves open. -/
def exec (others : List (Local Row Adv)) (choice : Nat) :
    (o : Op Row Adv) → Local Row Adv → Shared Row Adv Job Out →
      Option (o.Res × Local Row Adv × Shared Row Adv Job Out)
  | .snapshot, l, g => some (g.view l, { l with snapshots := g.csn :: l.snapshots }, g)
  | .lock k m, l, g =>
    if lockedByOther others k m then none
    else some (((g.view l).get k).map fun r => (r, g.changedSince l k),
      if ((g.view l).get k).isSome then { l with locks := (k, m) :: l.locks } else l, g)
  | .write k v, l, g =>
    if mayWrite l k v = false ∨ pendingByOther index g.db others k (entries index k v) then none
    else match violation index (g.view l) k (entries index k v) with
      | some k' => some (some k', l, g)
      | none => some (none, { l with writes := ⟨k, v⟩ :: l.writes }, g)
  | .insert k r, l, g =>
    if pendingByOther index g.db others k (index k r) then none
    else match collision index (g.view l) k r with
      | some k' => some (some k', l, g)
      | none =>
        if lockedByOther others k .update then none
        else some (none, { l with locks := (k, .update) :: l.locks, writes := ⟨k, some r⟩ :: l.writes }, g)
  | .upsert k r m, l, g =>
    if pendingByOther index g.db others k (index k r) then none
    else match collision index (g.view l) k r with
      | some k' =>
        if lockedByOther others k' m then none
        else some (some k', { l with locks := (k', m) :: l.locks }, g)
      | none =>
        if lockedByOther others k .update then none
        else some (none, { l with locks := (k, .update) :: l.locks, writes := ⟨k, some r⟩ :: l.writes }, g)
  | .advisory a, l, g =>
    if others.any fun o => decide (a ∈ o.advisory) then none
    else some ((), { l with advisory := a :: l.advisory }, g)
  | .nextval, l, g => some (g.sequence + 1, l, { g with sequence := g.sequence + 1 })
  | .clock, l, g => some (g.now, l, g)
  | .fresh, l, g =>
    if choice ∈ g.used then none
    else some (choice, { l with drawn := choice :: l.drawn }, { g with used := choice :: g.used })
  | .pick, l, g => some (choice, l, g)

end Requests

/-- A running transaction. -/
structure Tx (Row : Key → Type) (Adv ε Job Out : Type) where
  id : Nat
  job : Job
  prog : Prog Row Adv ε Out
  ran : Local Row Adv

/-- The database server with its running transactions. -/
structure State (Row : Key → Type) (Adv ε Job Out : Type) where
  shared : Shared Row Adv Job Out
  txs : List (Tx Row Adv ε Job Out)

/-- What can happen next. -/
inductive Label (Job : Type)
  | start (id : Nat) (job : Job)
  | exec (id choice : Nat)
  | commit (id : Nat)
  | abort (id : Nat)
  | tick (time : Nat)
  deriving Repr

namespace State

def find (s : State Row Adv ε Job Out) (id : Nat) : Option (Tx Row Adv ε Job Out) :=
  s.txs.find? fun t => t.id == id

/-- The running transactions except one. -/
def others (s : State Row Adv ε Job Out) (id : Nat) : List (Tx Row Adv ε Job Out) :=
  s.txs.filter fun t => t.id != id

/-- Tests the commits of a run, in the state that each commit meets. -/
def testCommit (s : State Row Adv ε Job Out) (test : Entry Row Adv Job Out → Shared Row Adv Job Out → Bool) :
    Label Job → Bool
  | .commit id =>
    match s.find id with
    | some ⟨_, job, .ret out, ran⟩ => test ⟨job, out, ran⟩ s.shared
    | _ => true
  | _ => true

lemma of_testCommit {s : State Row Adv ε Job Out} {test : Entry Row Adv Job Out → Shared Row Adv Job Out → Bool}
    {lab : Label Job} (h : s.testCommit test lab = true) {id : Nat} {t : Tx Row Adv ε Job Out} {out : Out}
    (hlab : lab = .commit id) (hf : s.find id = some t) (hp : t.prog = .ret out) :
    test ⟨t.job, out, t.ran⟩ s.shared = true := by
  obtain ⟨_, job, prog, ran⟩ := t
  dsimp only at hp
  subst hlab hp
  simpa only [testCommit, hf] using h

end State

/-- `count` requests of one transaction; the choices are the numbers from `start` on. -/
def Label.requests (id start count : Nat) : List (Label Job) := (List.range' start count).map (.exec id)

/-- Transactions that run one after the other, each with the first of its choices and the number of its requests. -/
def Label.serial (id : Nat) : List (Job × Nat × Nat) → List (Label Job)
  | [] => []
  | (job, choice, count) :: rest =>
    .start id job :: (Label.requests id choice count ++ .commit id :: Label.serial (id + 1) rest)

namespace System

variable [DecidableEq Key] [DecidableEq Adv] [DecidableEq Idx] (sys : System Row Adv Idx ε Job Out)

/-- One step of the server; `none` when it is not enabled. -/
def step (s : State Row Adv ε Job Out) : Label Job → Option (State Row Adv ε Job Out)
  | .start id job =>
    if (s.find id).isSome then none
    else some { s with txs := ⟨id, job, sys.prog job, Local.begin s.shared⟩ :: s.txs }
  | .exec id choice =>
    match s.find id with
    | some ⟨_, job, .op o k, ran⟩ =>
      (exec sys.index ((s.others id).map Tx.ran) choice o ran s.shared).map fun x =>
        { shared := x.2.2, txs := ⟨id, job, k x.1, x.2.1⟩ :: s.others id }
    | _ => none
  | .commit id =>
    match s.find id with
    | some ⟨_, job, .ret out, ran⟩ =>
      some { shared := s.shared.commit ⟨job, out, ran⟩, txs := s.others id }
    | _ => none
  | .abort id => some { s with txs := s.others id }
  | .tick time =>
    if sys.ticks s.shared.now time then some { s with shared := { s.shared with now := time } } else none

/-- A run of the server along a schedule. -/
def run (s : State Row Adv ε Job Out) (ls : List (Label Job)) : Option (State Row Adv ε Job Out) :=
  ls.foldlM sys.step s

/-- The states that some run reaches from a server on which nothing runs yet, when `cond` holds of
each step in the state before it. -/
inductive ReachableWhere (cond : State Row Adv ε Job Out → Label Job → Prop)
    (Init : Shared Row Adv Job Out → Prop) : State Row Adv ε Job Out → Prop
  | init {g} : Init g → ReachableWhere cond Init ⟨g, []⟩
  | step {s s'} (lab : Label Job) : ReachableWhere cond Init s → cond s lab → sys.step s lab = some s' →
      ReachableWhere cond Init s'

/-- The states that some run reaches. -/
def Reachable (Init : Shared Row Adv Job Out → Prop) : State Row Adv ε Job Out → Prop :=
  sys.ReachableWhere (fun _ _ => True) Init

/-- A run whose steps all pass a test. -/
def runWhere (test : State Row Adv ε Job Out → Label Job → Bool) (s : State Row Adv ε Job Out)
    (ls : List (Label Job)) : Option (State Row Adv ε Job Out) :=
  ls.foldlM (fun s lab => if test s lab then sys.step s lab else none) s

lemma reachableWhere_of_run {cond : State Row Adv ε Job Out → Label Job → Prop}
    {test : State Row Adv ε Job Out → Label Job → Bool} {Init : Shared Row Adv Job Out → Prop}
    (htest : ∀ s lab, test s lab = true → cond s lab) {g : Shared Row Adv Job Out} {ls : List (Label Job)}
    {s : State Row Adv ε Job Out} (hg : Init g) (h : sys.runWhere test ⟨g, []⟩ ls = some s) :
    sys.ReachableWhere cond Init s := by
  suffices ∀ s₀, sys.ReachableWhere cond Init s₀ → sys.runWhere test s₀ ls = some s →
      sys.ReachableWhere cond Init s from this _ (.init hg) h
  clear h
  induction ls with
  | nil =>
    rintro s₀ hs₀ ⟨⟩
    exact hs₀
  | cons lab ls ih =>
    intro s₀ hs₀ hrun
    simp only [runWhere, List.foldlM_cons, Option.bind_eq_bind, Option.bind_eq_some_iff] at hrun
    obtain ⟨s₁, hstep, hrest⟩ := hrun
    split at hstep
    · rename_i hlab
      exact ih s₁ (.step lab hs₀ (htest _ _ hlab) hstep) hrest
    · cases hstep

lemma reachable_of_run {Init : Shared Row Adv Job Out → Prop} {g : Shared Row Adv Job Out}
    {ls : List (Label Job)} {s : State Row Adv ε Job Out} (hg : Init g)
    (h : sys.run ⟨g, []⟩ ls = some s) : sys.Reachable Init s := by
  have hrun : sys.runWhere (fun _ _ => true) ⟨g, []⟩ ls = some s := by simpa [runWhere, run] using h
  exact sys.reachableWhere_of_run (fun _ _ _ => trivial) hg hrun

end System

end JamyeServer.ReadCommitted
