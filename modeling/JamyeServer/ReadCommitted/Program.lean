import JamyeServer.ReadCommitted.Store

/-!
# Transaction programs

A transaction is a program over the requests a session sends to the database server. Row locks have
the four strengths of `SELECT … FOR`, a statement begins with a `snapshot`, and every request that
touches a row works on its latest version, as READ COMMITTED does after a wait.
-/

namespace JamyeServer.ReadCommitted

/-- Row-level lock strengths. -/
inductive LockMode
  | keyShare | share | noKeyUpdate | update
  deriving DecidableEq, Repr

namespace LockMode

/-- The conflict table of row-level locks. -/
def conflicts : LockMode → LockMode → Bool
  | keyShare, m => m == update
  | share, m => m == noKeyUpdate || m == update
  | noKeyUpdate, m => m != keyShare
  | update, _ => true

/-- The strengths under which a row may be written. -/
def exclusive (m : LockMode) : Bool := m == noKeyUpdate || m == update

lemma conflicts_comm (m m' : LockMode) : m.conflicts m' = m'.conflicts m := by
  cases m <;> cases m' <;> rfl

lemma conflicts_of_exclusive {m m' : LockMode} (hm : m ≠ keyShare) (hm' : m'.exclusive) :
    m.conflicts m' = true := by
  cases m <;> cases m' <;> simp_all [conflicts, exclusive]

lemma conflicts_update (m : LockMode) : m.conflicts update = true := by
  cases m <;> rfl

end LockMode

section Program

variable {Key : Type}

/-- The requests of a session.

* `snapshot` starts a statement and returns the version that it sees;
* `lock` waits for the row and returns its latest version and whether it has changed since the snapshot;
* `write` replaces a row that is already locked, and names the row it collides with in a unique index;
* `insert` adds a row, waiting for transactions that write a colliding row, and names the collision;
* `upsert` is `insert` that locks the colliding row, as `ON CONFLICT DO UPDATE` does;
* `advisory` takes a transaction-level advisory lock;
* `nextval` draws from a sequence, `clock` reads the clock, `fresh` makes a new random identifier;
* `pick` is a choice of the server, such as the order in which a plan visits rows. -/
inductive Op (Row : Key → Type) (Adv : Type)
  | snapshot
  | lock (k : Key) (m : LockMode)
  | write (k : Key) (v : Option (Row k))
  | insert (k : Key) (r : Row k)
  | upsert (k : Key) (r : Row k) (m : LockMode)
  | advisory (a : Adv)
  | nextval
  | clock
  | fresh
  | pick

variable {Row : Key → Type} {Adv ε ε' α β : Type}

/-- The reply to a request. -/
def Op.Res : Op Row Adv → Type
  | .snapshot => Store Row
  | .lock k _ => Option (Row k × Bool)
  | .write _ _ | .insert _ _ | .upsert _ _ _ => Option Key
  | .advisory _ => Unit
  | .nextval | .clock | .fresh | .pick => Nat

/-- A program that sends requests and ends with a result to commit, or fails and rolls back. -/
inductive Prog (Row : Key → Type) (Adv ε α : Type)
  | ret (a : α)
  | fail (e : ε)
  | op (o : Op Row Adv) (k : o.Res → Prog Row Adv ε α)

namespace Prog

def bind : Prog Row Adv ε α → (α → Prog Row Adv ε β) → Prog Row Adv ε β
  | ret a, f => f a
  | fail e, _ => fail e
  | op o k, f => op o fun r => (k r).bind f

instance : Monad (Prog Row Adv ε) where
  pure := ret
  bind := bind

def mapError (f : ε → ε') : Prog Row Adv ε α → Prog Row Adv ε' α
  | ret a => ret a
  | fail e => fail (f e)
  | op o k => op o fun r => (k r).mapError f

def snapshot : Prog Row Adv ε (Store Row) := op .snapshot ret
def lock (k : Key) (m : LockMode) : Prog Row Adv ε (Option (Row k × Bool)) := op (.lock k m) ret
def write (k : Key) (v : Option (Row k)) : Prog Row Adv ε (Option Key) := op (.write k v) ret
def insert (k : Key) (r : Row k) : Prog Row Adv ε (Option Key) := op (.insert k r) ret
def upsert (k : Key) (r : Row k) (m : LockMode) : Prog Row Adv ε (Option Key) := op (.upsert k r m) ret
def advisory (a : Adv) : Prog Row Adv ε Unit := op (.advisory a) ret
def nextval : Prog Row Adv ε Nat := op .nextval ret
def clock : Prog Row Adv ε Nat := op .clock ret
def fresh : Prog Row Adv ε Nat := op .fresh ret
def pick : Prog Row Adv ε Nat := op .pick ret

/-- The time for a row whose expressions the statement has evaluated at `t`: they are evaluated again only if the row
has changed since the snapshot. -/
def reread (changed : Bool) (t : Nat) : Prog Row Adv ε Nat := if changed then clock else ret t

/-- Goes on only when `c` holds. -/
def ensure (c : Prop) [Decidable c] (e : ε) : Prog Row Adv ε Unit :=
  if c then ret () else fail e

def ofOption (o : Option α) (e : ε) : Prog Row Adv ε α :=
  match o with
  | some a => ret a
  | none => fail e

/-- Runs a program for each element in turn. -/
def each (f : β → Prog Row Adv ε Unit) : List β → Prog Row Adv ε Unit
  | [] => ret ()
  | b :: bs => do
    f b
    each f bs

/-- Runs a program for each element in turn and keeps the results that there are. -/
def collect (f : β → Prog Row Adv ε (Option α)) : List β → Prog Row Adv ε (List α)
  | [] => ret []
  | b :: bs => do
    let a ← f b
    let as ← collect f bs
    ret (a.toList ++ as)

/-- Some order of the elements, chosen by the server. -/
def shuffle : List β → Prog Row Adv ε (List β)
  | [] => ret []
  | b :: bs => do
    let cs ← shuffle bs
    let n ← pick
    ret (cs.take n ++ b :: cs.drop n)

end Prog

end Program

end JamyeServer.ReadCommitted
