import JamyeServer.ReadCommitted.Rules

/-!
# Statements

Locking reads, updates, deletions and insertions as READ COMMITTED executes them: the statement finds
its rows in one snapshot, then visits them one by one, waits for each row and changes its latest version. A
row that has changed since the snapshot is tested again, at a later time; one that has not is not. Rows that only take
part in a join are read from the snapshot.
-/

namespace JamyeServer.ReadCommitted

variable {Key : Type} {Row : Key → Type} {Adv Idx Job Out ε ε₁ α β ι : Type}

namespace Prog

def select (q : Store Row → α) : Prog Row Adv ε α := do
  let s ← snapshot
  ret (q s)

/-- Locks one row of a statement; the reply is its latest version and the time at which the statement last looked at
it. -/
def visit (m : LockMode) (k : Key) : Prog Row Adv ε (Option (Row k × Nat)) := do
  let t ← clock
  match ← lock k m with
  | none => ret none
  | some (r, changed) => do
    let t ← reread changed t
    ret (some (r, t))

/-- Locks one row; `f` sees the time and the latest version. -/
def lockRow (m : LockMode) (k : Key) (f : Nat → Row k → Option α) : Prog Row Adv ε (Option α) := do
  match ← visit m k with
  | none => ret none
  | some (r, t) => ret (f t r)

/-- `SELECT … FOR` over the given rows. -/
def lockRows (m : LockMode) (key : ι → Key) (f : (i : ι) → Nat → Row (key i) → Option α) (is : List ι) :
    Prog Row Adv ε (List α) :=
  collect (fun i => lockRow m (key i) (f i)) is

/-- Writes one row as `f` says of its latest version, if it still applies; `e` is a unique violation. -/
def changeRow (m : LockMode) (k : Key) (f : Nat → Row k → Option (Option (Row k) × α)) (e : ε) :
    Prog Row Adv ε (Option α) := do
  match ← visit m k with
  | none => ret none
  | some (r, t) =>
    match f t r with
    | none => ret none
    | some (v, a) => do
      match ← write k v with
      | none => ret (some a)
      | some _ => fail e

def changeRows (m : LockMode) (key : ι → Key)
    (f : (i : ι) → Nat → Row (key i) → Option (Option (Row (key i)) × α)) (e : ε) (is : List ι) :
    Prog Row Adv ε (List α) :=
  collect (fun i => changeRow m (key i) (f i) e) is

/-- A statement that writes rows: `q` finds them in the snapshot and `f` changes their latest versions.
The rows are visited in any order. -/
def change (m : LockMode) (T : Table Key ι) (q : Store Row → List ι)
    (f : Store Row → (i : ι) → Nat → Row (T.key i) → Option (Option (Row (T.key i)) × α)) (e : ε) :
    Prog Row Adv ε (List α) := do
  let s ← snapshot
  let is ← shuffle (q s)
  changeRows m T.key (f s) e is

/-- `UPDATE … RETURNING`. -/
def update (T : Table Key ι) (q : Store Row → List ι)
    (f : Store Row → (i : ι) → Nat → Row (T.key i) → Option (Row (T.key i) × α)) (e : ε) :
    Prog Row Adv ε (List α) :=
  change .noKeyUpdate T q (fun s i t r => (f s i t r).map fun x => (some x.1, x.2)) e

/-- `DELETE … RETURNING`. -/
def delete (T : Table Key ι) (q : Store Row → List ι) (c : Store Row → (i : ι) → Row (T.key i) → Bool)
    (e : ε) : Prog Row Adv ε (List ι) :=
  change .update T q (fun s i _ r => if c s i r then some (none, i) else none) e

/-- `SELECT … FOR`; the rows are locked in the order of `q`. -/
def selectFor (m : LockMode) (T : Table Key ι) (q : Store Row → List ι)
    (f : Store Row → (i : ι) → Nat → Row (T.key i) → Option α) : Prog Row Adv ε (List α) := do
  let s ← snapshot
  lockRows m T.key (f s) (q s)

/-- The first result that there is, as under `LIMIT 1`. -/
def first (f : β → Prog Row Adv ε (Option α)) : List β → Prog Row Adv ε (Option α)
  | [] => ret none
  | b :: bs => do
    match ← f b with
    | some a => ret (some a)
    | none => first f bs

/-- The foreign-key checks of a new row: its parents exist and stay. -/
def references (e : ε) : List Key → Prog Row Adv ε Unit :=
  each fun k => do
    match ← lock k .keyShare with
    | some _ => ret ()
    | none => fail e

/-- `INSERT` of one row. -/
def insertRow (k : Key) (r : Row k) (parents : List Key) (e : ε) : Prog Row Adv ε Unit := do
  match ← insert k r with
  | some _ => fail e
  | none => references e parents

/-- `INSERT … ON CONFLICT DO NOTHING`; the reply says whether the row is new. -/
def insertOrSkip (k : Key) (r : Row k) (parents : List Key) (e : ε) : Prog Row Adv ε Bool := do
  match ← insert k r with
  | some _ => ret false
  | none => do
    references e parents
    ret true

end Prog

section Rules

variable [DecidableEq Key]

/-- At some moment between `g` and `g'` the transaction did not see row `k`. -/
def Missing (l : Local Row Adv) (g g' G : Shared Row Adv Job Out) (k : Key) : Prop :=
  ∃ n, g.csn ≤ n ∧ n ≤ g'.csn ∧ ((G.version n).apply l.writes).get k = none

lemma Missing.mono {l : Local Row Adv} {g g' g₀ g₁ G : Shared Row Adv Job Out} {k : Key}
    (h : Missing l g g' G k) (h₀ : g₀.csn ≤ g.csn) (h₁ : g'.csn ≤ g₁.csn) : Missing l g₀ g₁ G k := by
  obtain ⟨n, hn, hn', hx⟩ := h
  exact ⟨n, Nat.le_trans h₀ hn, Nat.le_trans hn' h₁, hx⟩

/-- A row that no later version loses is not missing. -/
lemma not_missing {l : Local Row Adv} {g g' G : Shared Row Adv Job Out} {k : Key} {n : Nat}
    (hstable : ∀ m, n ≤ m → m ≤ G.csn → (G.version n).get k ≠ none → (G.version m).get k ≠ none)
    (hn : n ≤ g.csn) (hg' : g'.csn ≤ G.csn) (hk : ((G.version n).apply l.writes).get k ≠ none) :
    ¬ Missing l g g' G k := by
  rintro ⟨m, hm, hm', hx⟩
  by_cases hmem : k ∈ l.writes.map Write.key
  · obtain ⟨v, -, hs⟩ := Store.get_apply_of_mem hmem
    rw [hs] at hk hx
    exact hk hx
  · rw [Store.get_apply_of_notMem _ hmem] at hk hx
    exact hstable m (Nat.le_trans hn hm) (Nat.le_trans hm' hg') hk hx

variable [DecidableEq Adv] [DecidableEq Idx] {sys : System Row Adv Idx ε Job Out}
  {C : Contract sys} {l l' L : Local Row Adv} {g g' G : Shared Row Adv Job Out}

namespace Runs

lemma select {q : Store Row → α} {r : α} (h : Runs C (.select q) l g (.ok r : Except ε₁ _) l' g' L G) :
    ∃ g₁, Later C g g₁ ∧ Later C g₁ g' ∧ l' = { l with snapshots := g₁.csn :: l.snapshots } ∧
      r = q ((G.version g₁.csn).apply l.writes) := by
  unfold Prog.select at h
  obtain ⟨s, l₁, g₁, h₁, h₂⟩ := h.bind
  obtain ⟨g₂, hg, hg', rfl, rfl⟩ := h₁.snapshot
  obtain ⟨rfl, rfl⟩ := h₂.ret
  exact ⟨g₂, hg, hg'.trans h₂.returns.evolve.later, rfl, rfl⟩

lemma visit {m : LockMode} {k : Key} {a : Option (Row k × Nat)}
    (h : Runs C (.visit m k) l g (.ok a : Except ε₁ _) l' g' L G) :
    a = none ∧ l' = l ∧ Missing l g g' G k ∨
    ∃ r t, a = some (r, t) ∧ Clocked C g g' t ∧ l' = { l with locks := (k, m) :: l.locks } ∧
      (m ≠ .keyShare → (G.db.apply l.writes).get k = some r) := by
  unfold Prog.visit at h
  obtain ⟨t, l₀, g₀, h₀, hrest⟩ := h.bind
  obtain ⟨x, l₁, g₁, h₁, h₂⟩ := hrest.bind
  obtain ⟨rfl, ht⟩ := h₀.clock
  have hg₀ : Later C g g₀ := h₀.returns.evolve.later
  have hg₁ : Later C g₁ g' := h₂.returns.evolve.later
  obtain ⟨n, hn, hn', hx, ⟨rfl, rfl⟩ | ⟨r, changed, rfl, rfl, -, hget⟩⟩ := h₁.lock
  · obtain ⟨rfl, rfl⟩ := h₂.ret
    exact .inl ⟨rfl, rfl, n, Nat.le_trans hg₀.csn_le hn, Nat.le_trans hn' hg₁.csn_le, hx.symm⟩
  · obtain ⟨t', l₂, g₂, h₃, h₄⟩ := h₂.bind
    obtain ⟨rfl, hcase⟩ := h₃.reread
    obtain ⟨rfl, rfl⟩ := h₄.ret
    refine .inr ⟨r, t', rfl, ?_, rfl, hget⟩
    rcases hcase with ⟨-, ht'⟩ | ⟨-, rfl⟩
    · exact ht'.mono (hg₀.trans h₁.returns.evolve.later) h₄.returns.evolve.later
    · exact ht.mono .refl (h₁.returns.evolve.later.trans hg₁)

lemma lockRow {m : LockMode} {k : Key} {f : Nat → Row k → Option α} {a : Option α}
    (h : Runs C (.lockRow m k f) l g (.ok a : Except ε₁ _) l' g' L G) :
    a = none ∧ l' = l ∧ Missing l g g' G k ∨
    ∃ t r, Clocked C g g' t ∧ l' = { l with locks := (k, m) :: l.locks } ∧ a = f t r ∧
      (m ≠ .keyShare → (G.db.apply l.writes).get k = some r) := by
  unfold Prog.lockRow at h
  obtain ⟨x, l₁, g₁, h₁, h₂⟩ := h.bind
  have hlater : Later C g₁ g' := h₂.returns.evolve.later
  rcases h₁.visit with ⟨rfl, rfl, hmissing⟩ | ⟨r, t, rfl, ht, rfl, hget⟩
  · obtain ⟨rfl, rfl⟩ := h₂.ret
    exact .inl ⟨rfl, rfl, hmissing.mono (Nat.le_refl _) hlater.csn_le⟩
  · obtain ⟨rfl, rfl⟩ := h₂.ret
    exact .inr ⟨t, r, ht.mono .refl hlater, rfl, rfl, hget⟩

lemma changeRow {m : LockMode} {k : Key} {f : Nat → Row k → Option (Option (Row k) × α)} {e : ε₁}
    {a : Option α} (h : Runs C (.changeRow m k f e) l g (.ok a) l' g' L G) (hm : m ≠ .keyShare) :
    a = none ∧ l' = l ∧ Missing l g g' G k ∨
    ∃ t r, Clocked C g g' t ∧ (G.db.apply l.writes).get k = some r ∧
      (f t r = none ∧ a = none ∧ l' = { l with locks := (k, m) :: l.locks } ∨
        ∃ v b, f t r = some (v, b) ∧ a = some b ∧
          l' = { l with locks := (k, m) :: l.locks, writes := ⟨k, v⟩ :: l.writes }) := by
  unfold Prog.changeRow at h
  obtain ⟨x, l₁, g₁, h₁, h₂⟩ := h.bind
  have hlater : Later C g₁ g' := h₂.returns.evolve.later
  rcases h₁.visit with ⟨rfl, rfl, hmissing⟩ | ⟨r, t, rfl, ht, rfl, hget⟩
  · obtain ⟨rfl, rfl⟩ := h₂.ret
    exact .inl ⟨rfl, rfl, hmissing.mono (Nat.le_refl _) hlater.csn_le⟩
  · refine .inr ⟨t, r, ht.mono .refl hlater, hget hm, ?_⟩
    dsimp only at h₂
    split at h₂
    · rename_i hf
      obtain ⟨rfl, rfl⟩ := h₂.ret
      exact .inl ⟨hf, rfl, rfl⟩
    · rename_i v b hf
      obtain ⟨y, l₃, g₃, h₅, h₆⟩ := h₂.bind
      rcases h₅.write with ⟨rfl, rfl⟩ | ⟨hy, -⟩
      · obtain ⟨rfl, rfl⟩ := h₆.ret
        exact .inr ⟨v, b, hf, rfl, rfl⟩
      · obtain ⟨k', rfl⟩ := Option.ne_none_iff_exists'.mp hy
        exact (not_fail h₆).elim

end Runs

/-- The effect of a statement that locks rows: it finds in their latest versions what `f` says. -/
structure LockedRows (C : Contract sys) (m : LockMode) (key : ι → Key)
    (f : (i : ι) → Nat → Row (key i) → Option α) (is : List ι) (l : Local Row Adv)
    (g : Shared Row Adv Job Out) (as : List α) (l' : Local Row Adv) (g' G : Shared Row Adv Job Out) :
    Prop where
  frame : l' = { l with locks := l'.locks }
  mem : ∀ a ∈ as, ∃ i ∈ is, ∃ t r, Clocked C g g' t ∧ (key i, m) ∈ l'.locks ∧
    (G.db.apply l.writes).get (key i) = some r ∧ f i t r = some a
  each : ∀ i ∈ is, Missing l g g' G (key i) ∨ ∃ t r, Clocked C g g' t ∧ (key i, m) ∈ l'.locks ∧
    (G.db.apply l.writes).get (key i) = some r ∧ ∀ a, f i t r = some a → a ∈ as

lemma Runs.lockRows {m : LockMode} {key : ι → Key} {f : (i : ι) → Nat → Row (key i) → Option α}
    {is : List ι} {as : List α} (h : Runs C (.lockRows m key f is) l g (.ok as : Except ε₁ _) l' g' L G)
    (hm : m ≠ .keyShare) :
    LockedRows C m key f is l g as l' g' G := by
  unfold Prog.lockRows at h
  induction is generalizing l g as l' g' with
  | nil =>
    obtain ⟨rfl, rfl⟩ := h.ret
    exact ⟨rfl, by simp, by simp⟩
  | cons i is ih =>
    obtain ⟨a, l₁, g₁, h₁, h₂⟩ := h.bind
    obtain ⟨bs, l₂, g₂, h₃, h₄⟩ := h₂.bind
    obtain ⟨rfl, rfl⟩ := h₄.ret
    have hrest := ih h₃
    have h₀₁ : Later C g g₁ := h₁.returns.evolve.later
    have h₁₂ : Later C g₁ g₂ := h₃.returns.evolve.later
    have h₂₃ : Later C g₂ g' := h₄.returns.evolve.later
    have hsub : l₁.locks ⊆ l'.locks := h₃.returns.evolve.locks
    have hw : l₁.writes = l.writes ∧ l₁ = { l with locks := l₁.locks } := by
      rcases h₁.lockRow with ⟨-, rfl, -⟩ | ⟨t, r, -, rfl, -, -⟩ <;> exact ⟨rfl, rfl⟩
    refine ⟨?_, fun b hb => ?_, fun j hj => ?_⟩
    · rw [hrest.frame, hw.2]
    · rcases List.mem_append.mp hb with hb | hb
      · rcases h₁.lockRow with ⟨rfl, -, -⟩ | ⟨t, r, ht, rfl, rfl, hget⟩
        · cases hb
        · refine ⟨i, List.mem_cons_self, t, r, ht.mono .refl (h₁₂.trans h₂₃), hsub List.mem_cons_self,
            hget hm, ?_⟩
          simpa using hb
      · obtain ⟨j, hj, t, r, ht, hl, hget, hf⟩ := hrest.mem b hb
        exact ⟨j, List.mem_cons_of_mem _ hj, t, r, ht.mono h₀₁ h₂₃, hl, hw.1 ▸ hget, hf⟩
    · rcases List.mem_cons.mp hj with rfl | hj
      · rcases h₁.lockRow with ⟨-, -, hmiss⟩ | ⟨t, r, ht, rfl, rfl, hget⟩
        · exact .inl (hmiss.mono (Nat.le_refl _) (h₁₂.trans h₂₃).csn_le)
        · refine .inr ⟨t, r, ht.mono .refl (h₁₂.trans h₂₃), hsub List.mem_cons_self, hget hm, ?_⟩
          intro b hb
          simp [hb]
      · rcases hrest.each j hj with hmiss | ⟨t, r, ht, hl, hget, hf⟩
        · refine .inl (.mono ?_ h₀₁.csn_le h₂₃.csn_le)
          obtain ⟨n, hn, hn', hx⟩ := hmiss
          exact ⟨n, hn, hn', hw.1 ▸ hx⟩
        · refine .inr ⟨t, r, ht.mono h₀₁ h₂₃, hl, hw.1 ▸ hget, fun b hb => ?_⟩
          exact List.mem_append_right _ (hf b hb)

/-- The effect of a statement that writes rows: `ws` are its writes, as `f` says of the latest
versions of the rows that are still there. -/
structure ChangedRows (C : Contract sys) (m : LockMode) (key : ι → Key)
    (f : (i : ι) → Nat → Row (key i) → Option (Option (Row (key i)) × α)) (is : List ι)
    (l : Local Row Adv) (g : Shared Row Adv Job Out) (as : List α) (ws : List (Write Row))
    (l' : Local Row Adv) (g' G : Shared Row Adv Job Out) : Prop where
  frame : l' = { l with locks := l'.locks, writes := ws ++ l.writes }
  nodup : (ws.map Write.key).Nodup
  mem : ∀ w ∈ ws, ∃ i ∈ is, ∃ t r v a, Clocked C g g' t ∧ (key i, m) ∈ l'.locks ∧
    (G.db.apply l.writes).get (key i) = some r ∧ f i t r = some (v, a) ∧ a ∈ as ∧ w = ⟨key i, v⟩
  result : ∀ a ∈ as, ∃ i ∈ is, ∃ t r v, Clocked C g g' t ∧ (key i, m) ∈ l'.locks ∧
    (G.db.apply l.writes).get (key i) = some r ∧ f i t r = some (v, a) ∧ ⟨key i, v⟩ ∈ ws
  each : ∀ i ∈ is, Missing l g g' G (key i) ∨ ∃ t r, Clocked C g g' t ∧ (key i, m) ∈ l'.locks ∧
    (G.db.apply l.writes).get (key i) = some r ∧ (f i t r = none → key i ∉ ws.map Write.key) ∧
    ∀ v a, f i t r = some (v, a) → a ∈ as ∧ ⟨key i, v⟩ ∈ ws

lemma ChangedRows.cons {m : LockMode} {key : ι → Key} (hkey : Function.Injective key)
    {f : (i : ι) → Nat → Row (key i) → Option (Option (Row (key i)) × α)} {e : ε₁} {i : ι} {is : List ι}
    {a : Option α} {as : List α} {ws : List (Write Row)} {l₁ : Local Row Adv}
    {g₁ : Shared Row Adv Job Out} (hm : m ≠ .keyShare) (hi : i ∉ is)
    (h₁ : Runs C (.changeRow m (key i) (f i) e) l g (.ok a) l₁ g₁ L G)
    (hsub : l₁.locks ⊆ l'.locks) (h₁₂ : Later C g₁ g') (h : ChangedRows C m key f is l₁ g₁ as ws l' g' G) :
    ∃ ws', ChangedRows C m key f (i :: is) l g (a.toList ++ as) ws' l' g' G := by
  have h₀₁ : Later C g g₁ := h₁.returns.evolve.later
  have hne : ∀ j ∈ is, key j ≠ key i := fun j hj hk => hi (hkey hk ▸ hj)
  -- the later rows of the statement are not touched by the first one
  have hkeep : ∀ (s : Store Row), ∀ j ∈ is, (s.apply l₁.writes).get (key j) = (s.apply l.writes).get (key j) := by
    intro s j hj
    rcases h₁.changeRow hm with ⟨-, rfl, -⟩ | ⟨t, r, -, -, ⟨-, -, rfl⟩ | ⟨v, b, -, -, rfl⟩⟩
    · rfl
    · rfl
    · exact Store.get_set_mk_of_ne _ _ (hne j hj)
  have hrestMem : ∀ w ∈ ws, ∃ j ∈ is, ∃ t r v b, Clocked C g g' t ∧ (key j, m) ∈ l'.locks ∧
      (G.db.apply l.writes).get (key j) = some r ∧ f j t r = some (v, b) ∧ b ∈ as ∧ w = ⟨key j, v⟩ := by
    intro w hw
    obtain ⟨j, hj, t, r, v, b, ht, hl, hget, hf⟩ := h.mem w hw
    exact ⟨j, hj, t, r, v, b, ht.mono h₀₁ .refl, hl, hkeep _ j hj ▸ hget, hf⟩
  have hrestResult : ∀ b ∈ as, ∃ j ∈ is, ∃ t r v, Clocked C g g' t ∧ (key j, m) ∈ l'.locks ∧
      (G.db.apply l.writes).get (key j) = some r ∧ f j t r = some (v, b) ∧ ⟨key j, v⟩ ∈ ws := by
    intro b hb
    obtain ⟨j, hj, t, r, v, ht, hl, hget, hf⟩ := h.result b hb
    exact ⟨j, hj, t, r, v, ht.mono h₀₁ .refl, hl, hkeep _ j hj ▸ hget, hf⟩
  have hrestEach : ∀ j ∈ is, Missing l g g' G (key j) ∨ ∃ t r, Clocked C g g' t ∧ (key j, m) ∈ l'.locks ∧
      (G.db.apply l.writes).get (key j) = some r ∧ (f j t r = none → key j ∉ ws.map Write.key) ∧
      ∀ v b, f j t r = some (v, b) → b ∈ as ∧ ⟨key j, v⟩ ∈ ws := by
    intro j hj
    rcases h.each j hj with ⟨n, hn, hn', hx⟩ | ⟨t, r, ht, hl, hget, hnone, hf⟩
    · exact .inl ⟨n, Nat.le_trans h₀₁.csn_le hn, hn', hkeep _ j hj ▸ hx⟩
    · exact .inr ⟨t, r, ht.mono h₀₁ .refl, hl, hkeep _ j hj ▸ hget, hnone, hf⟩
  have hnotMem : key i ∉ ws.map Write.key := by
    intro hmem
    obtain ⟨w, hw, hk⟩ := List.mem_map.mp hmem
    obtain ⟨j, hj, t, r, v, b, -, -, -, -, -, rfl⟩ := h.mem w hw
    exact hne j hj hk
  rcases h₁.changeRow hm with ⟨rfl, rfl, hmiss⟩ | ⟨t, r, ht, hget, ⟨hf, rfl, rfl⟩ | ⟨v, b, hf, rfl, rfl⟩⟩
  · refine ⟨ws, h.frame, h.nodup, fun w hw => ?_, fun b hb => ?_, fun j hj => ?_⟩
    · obtain ⟨j, hj, hx⟩ := hrestMem w hw
      exact ⟨j, List.mem_cons_of_mem _ hj, hx⟩
    · obtain ⟨j, hj, hx⟩ := hrestResult b hb
      exact ⟨j, List.mem_cons_of_mem _ hj, hx⟩
    · rcases List.mem_cons.mp hj with rfl | hj
      · exact .inl (hmiss.mono (Nat.le_refl _) h₁₂.csn_le)
      · exact hrestEach j hj
  · refine ⟨ws, ?_, h.nodup, fun w hw => ?_, fun b hb => ?_, fun j hj => ?_⟩
    · rw [h.frame]
    · obtain ⟨j, hj, hx⟩ := hrestMem w hw
      exact ⟨j, List.mem_cons_of_mem _ hj, hx⟩
    · obtain ⟨j, hj, hx⟩ := hrestResult b hb
      exact ⟨j, List.mem_cons_of_mem _ hj, hx⟩
    · rcases List.mem_cons.mp hj with rfl | hj
      · refine .inr ⟨t, r, ht.mono .refl h₁₂, hsub List.mem_cons_self, hget, fun _ => hnotMem, ?_⟩
        simp [hf]
      · exact hrestEach j hj
  · refine ⟨ws ++ [⟨key i, v⟩], ?_, ?_, fun w hw => ?_, fun c hc => ?_, fun j hj => ?_⟩
    · rw [h.frame]
      simp
    · rw [List.map_append, List.nodup_append]
      refine ⟨h.nodup, by simp, fun k hk k' hk' => ?_⟩
      rintro rfl
      simp only [List.map_cons, List.map_nil, List.mem_singleton] at hk'
      exact hnotMem (hk' ▸ hk)
    · rcases List.mem_append.mp hw with hw | hw
      · obtain ⟨j, hj, t, r, v', b', ht', hl, hget', hf', hb', rfl⟩ := hrestMem w hw
        exact ⟨j, List.mem_cons_of_mem _ hj, t, r, v', b', ht', hl, hget', hf', by simp [hb'], rfl⟩
      · rw [List.mem_singleton] at hw
        exact ⟨i, List.mem_cons_self, t, r, v, b, ht.mono .refl h₁₂, hsub List.mem_cons_self, hget, hf,
          by simp, hw⟩
    · rcases List.mem_append.mp hc with hc | hc
      · obtain rfl : c = b := by simpa using hc
        exact ⟨i, List.mem_cons_self, t, r, v, ht.mono .refl h₁₂, hsub List.mem_cons_self, hget, hf,
          by simp⟩
      · obtain ⟨j, hj, t, r, v', ht', hl, hget', hf', hw⟩ := hrestResult c hc
        exact ⟨j, List.mem_cons_of_mem _ hj, t, r, v', ht', hl, hget', hf', List.mem_append_left _ hw⟩
    · rcases List.mem_cons.mp hj with rfl | hj
      · refine .inr ⟨t, r, ht.mono .refl h₁₂, hsub List.mem_cons_self, hget, by simp [hf], ?_⟩
        intro v' b' hf'
        rw [hf] at hf'
        cases hf'
        simp
      · rcases hrestEach j hj with hmiss | ⟨t, r, ht', hl, hget', hnone, hf'⟩
        · exact .inl hmiss
        · refine .inr ⟨t, r, ht', hl, hget', fun hn => ?_, fun v' b' hv => ?_⟩
          · simp only [List.map_append, List.map_cons, List.map_nil, List.mem_append, List.mem_singleton, not_or]
            exact ⟨hnone hn, hne j hj⟩
          · obtain ⟨hb', hw⟩ := hf' v' b' hv
            exact ⟨List.mem_append_right _ hb', List.mem_append_left _ hw⟩

omit [DecidableEq Adv] [DecidableEq Idx] in
lemma ChangedRows.later {m : LockMode} {key : ι → Key}
    {f : (i : ι) → Nat → Row (key i) → Option (Option (Row (key i)) × α)} {is : List ι} {as : List α}
    {ws : List (Write Row)} {g₁ : Shared Row Adv Job Out} (h : ChangedRows C m key f is l g as ws l' g' G)
    (h₁ : Later C g' g₁) : ChangedRows C m key f is l g as ws l' g₁ G where
  frame := h.frame
  nodup := h.nodup
  mem w hw := by
    obtain ⟨i, hi, t, r, v, a, ht, hx⟩ := h.mem w hw
    exact ⟨i, hi, t, r, v, a, ht.mono .refl h₁, hx⟩
  result a ha := by
    obtain ⟨i, hi, t, r, v, ht, hx⟩ := h.result a ha
    exact ⟨i, hi, t, r, v, ht.mono .refl h₁, hx⟩
  each i hi := by
    rcases h.each i hi with hmiss | ⟨t, r, ht, hx⟩
    · exact .inl (hmiss.mono (Nat.le_refl _) h₁.csn_le)
    · exact .inr ⟨t, r, ht.mono .refl h₁, hx⟩

omit [DecidableEq Adv] [DecidableEq Idx] in
lemma ChangedRows.since {m : LockMode} {key : ι → Key}
    {f : (i : ι) → Nat → Row (key i) → Option (Option (Row (key i)) × α)} {is : List ι} {as : List α}
    {ws : List (Write Row)} {g₀ : Shared Row Adv Job Out} (h : ChangedRows C m key f is l g as ws l' g' G)
    (h₀ : Later C g₀ g) : ChangedRows C m key f is l g₀ as ws l' g' G where
  frame := h.frame
  nodup := h.nodup
  mem w hw := by
    obtain ⟨i, hi, t, r, v, a, ht, hx⟩ := h.mem w hw
    exact ⟨i, hi, t, r, v, a, ht.mono h₀ .refl, hx⟩
  result a ha := by
    obtain ⟨i, hi, t, r, v, ht, hx⟩ := h.result a ha
    exact ⟨i, hi, t, r, v, ht.mono h₀ .refl, hx⟩
  each i hi := by
    rcases h.each i hi with hmiss | ⟨t, r, ht, hx⟩
    · exact .inl (hmiss.mono h₀.csn_le (Nat.le_refl _))
    · exact .inr ⟨t, r, ht.mono h₀ .refl, hx⟩

omit [DecidableEq Adv] [DecidableEq Idx] in
lemma LockedRows.since {m : LockMode} {key : ι → Key} {f : (i : ι) → Nat → Row (key i) → Option α}
    {is : List ι} {as : List α} {g₀ : Shared Row Adv Job Out} (h : LockedRows C m key f is l g as l' g' G)
    (h₀ : Later C g₀ g) : LockedRows C m key f is l g₀ as l' g' G where
  frame := h.frame
  mem a ha := by
    obtain ⟨i, hi, t, r, ht, hx⟩ := h.mem a ha
    exact ⟨i, hi, t, r, ht.mono h₀ .refl, hx⟩
  each i hi := by
    rcases h.each i hi with hmiss | ⟨t, r, ht, hx⟩
    · exact .inl (hmiss.mono h₀.csn_le (Nat.le_refl _))
    · exact .inr ⟨t, r, ht.mono h₀ .refl, hx⟩

lemma Runs.changeRows {m : LockMode} {key : ι → Key}
    {f : (i : ι) → Nat → Row (key i) → Option (Option (Row (key i)) × α)} {e : ε₁} {is : List ι}
    {as : List α} (h : Runs C (.changeRows m key f e is) l g (.ok as) l' g' L G)
    (hkey : Function.Injective key) (hm : m ≠ .keyShare) (hnd : is.Nodup) :
    ∃ ws, ChangedRows C m key f is l g as ws l' g' G := by
  unfold Prog.changeRows at h
  induction is generalizing l g as l' g' with
  | nil =>
    obtain ⟨rfl, rfl⟩ := h.ret
    exact ⟨[], rfl, by simp, by simp, by simp, by simp⟩
  | cons i is ih =>
    obtain ⟨a, l₁, g₁, h₁, h₂⟩ := h.bind
    obtain ⟨bs, l₂, g₂, h₃, h₄⟩ := h₂.bind
    obtain ⟨rfl, rfl⟩ := h₄.ret
    rw [List.nodup_cons] at hnd
    obtain ⟨ws, hrest⟩ := ih h₃ hnd.2
    obtain ⟨ws', hall⟩ := hrest.cons hkey hm hnd.1 h₁ h₃.returns.evolve.locks h₃.returns.evolve.later
    exact ⟨ws', hall.later h₄.returns.evolve.later⟩

section ChangedRows

variable {m : LockMode} {key : ι → Key}
  {f : (i : ι) → Nat → Row (key i) → Option (Option (Row (key i)) × α)} {is : List ι} {as : List α}
  {ws : List (Write Row)}

omit [DecidableEq Adv] [DecidableEq Idx] in
/-- Rows that the statement does not visit stay as they are. -/
lemma ChangedRows.get_of_ne (h : ChangedRows C m key f is l g as ws l' g' G) (s : Store Row) {k : Key}
    (hk : ∀ i ∈ is, k ≠ key i) : (s.apply l'.writes).get k = (s.apply l.writes).get k := by
  have hw : l'.writes = ws ++ l.writes := by rw [h.frame]
  rw [hw, Store.apply_append]
  refine Store.get_apply_of_notMem _ fun hmem => ?_
  obtain ⟨w, hw, rfl⟩ := List.mem_map.mp hmem
  obtain ⟨i, hi, t, r, v, a, -, -, -, -, -, rfl⟩ := h.mem w hw
  exact hk i hi rfl

omit [DecidableEq Adv] [DecidableEq Idx] in
/-- What a statement leaves in a row that it visits. -/
lemma ChangedRows.get (h : ChangedRows C m key f is l g as ws l' g' G) {i : ι} (hi : i ∈ is) :
    Missing l g g' G (key i) ∨ ∃ t r, Clocked C g g' t ∧ (key i, m) ∈ l'.locks ∧
      (G.db.apply l.writes).get (key i) = some r ∧
      (G.db.apply l'.writes).get (key i) = ((f i t r).map Prod.fst).getD (some r) := by
  have hw : l'.writes = ws ++ l.writes := by rw [h.frame]
  rcases h.each i hi with hmiss | ⟨t, r, ht, hl, hget, hnone, hsome⟩
  · exact .inl hmiss
  · refine .inr ⟨t, r, ht, hl, hget, ?_⟩
    rw [hw, Store.apply_append]
    cases hf : f i t r with
    | none => simpa [Store.get_apply_of_notMem _ (hnone hf)] using hget
    | some x => simpa using Store.get_apply_of_mem_nodup _ h.nodup (hsome x.1 x.2 hf).2

omit [DecidableEq Adv] [DecidableEq Idx] in
/-- A result of the statement comes from a row that it wrote. -/
lemma ChangedRows.returned (h : ChangedRows C m key f is l g as ws l' g' G) {a : α} (ha : a ∈ as) :
    ∃ i ∈ is, ∃ t r v, Clocked C g g' t ∧ (key i, m) ∈ l'.locks ∧
      (G.db.apply l.writes).get (key i) = some r ∧ f i t r = some (v, a) ∧
      (G.db.apply l'.writes).get (key i) = v := by
  obtain ⟨i, hi, t, r, v, ht, hl, hget, hf, hw⟩ := h.result a ha
  refine ⟨i, hi, t, r, v, ht, hl, hget, hf, ?_⟩
  have hws : l'.writes = ws ++ l.writes := by rw [h.frame]
  rw [hws, Store.apply_append]
  exact Store.get_apply_of_mem_nodup _ h.nodup hw

omit [DecidableEq Adv] [DecidableEq Idx] in
/-- A row after the statement: it stays as it was, or the statement visited it. -/
lemma ChangedRows.row (h : ChangedRows C m key f is l g as ws l' g' G) (i : ι) :
    (G.db.apply l'.writes).get (key i) = (G.db.apply l.writes).get (key i) ∨
      ∃ j ∈ is, key j = key i ∧ ∃ t r v a, Clocked C g g' t ∧ (G.db.apply l.writes).get (key j) = some r ∧
        f j t r = some (v, a) ∧ (G.db.apply l'.writes).get (key j) = v := by
  have hw : l'.writes = ws ++ l.writes := by rw [h.frame]
  by_cases hmem : key i ∈ ws.map Write.key
  · obtain ⟨v, hv, -⟩ := Store.get_apply_of_mem hmem
    obtain ⟨j, hj, t, r, v', a, ht, -, hget, hf, -, heq⟩ := h.mem _ hv
    obtain ⟨hk, -⟩ := Write.mk.inj heq
    refine .inr ⟨j, hj, hk.symm, t, r, v', a, ht, hget, hf, ?_⟩
    rw [hw, Store.apply_append]
    exact Store.get_apply_of_mem_nodup _ h.nodup (heq ▸ hv)
  · rw [hw, Store.apply_append, Store.get_apply_of_notMem _ hmem]
    exact .inl rfl

end ChangedRows

omit [DecidableEq Adv] [DecidableEq Idx] in
lemma ChangedRows.perm {m : LockMode} {key : ι → Key}
    {f : (i : ι) → Nat → Row (key i) → Option (Option (Row (key i)) × α)} {is js : List ι} {as : List α}
    {ws : List (Write Row)} (h : ChangedRows C m key f is l g as ws l' g' G) (hp : is.Perm js) :
    ChangedRows C m key f js l g as ws l' g' G where
  frame := h.frame
  nodup := h.nodup
  mem w hw := by
    obtain ⟨i, hi, hx⟩ := h.mem w hw
    exact ⟨i, hp.mem_iff.mp hi, hx⟩
  result a ha := by
    obtain ⟨i, hi, hx⟩ := h.result a ha
    exact ⟨i, hp.mem_iff.mp hi, hx⟩
  each i hi := h.each i (hp.mem_iff.mpr hi)

/-- The statement finds its rows in the version of `g₁` and visits them later. -/
lemma Runs.change {m : LockMode} {T : Table Key ι} {q : Store Row → List ι}
    {f : Store Row → (i : ι) → Nat → Row (T.key i) → Option (Option (Row (T.key i)) × α)} {e : ε₁}
    {as : List α} (h : Runs C (.change m T q f e) l g (.ok as) l' g' L G) (hm : m ≠ .keyShare)
    (hq : ∀ s, (q s).Nodup) :
    ∃ g₁ ws, Later C g g₁ ∧ Later C g₁ g' ∧
      ChangedRows C m T.key (f ((G.version g₁.csn).apply l.writes)) (q ((G.version g₁.csn).apply l.writes))
        { l with snapshots := g₁.csn :: l.snapshots } g₁ as ws l' g' G := by
  unfold Prog.change at h
  obtain ⟨s, l₁, g₁, h₁, hrest⟩ := h.bind
  obtain ⟨is, l₂, g₂, h₂, h₃⟩ := hrest.bind
  obtain ⟨gs, hs, hs', rfl, rfl⟩ := h₁.snapshot
  obtain ⟨hp, rfl⟩ := h₂.shuffle
  have hs₂ : Later C gs g₂ := hs'.trans h₂.returns.evolve.later
  obtain ⟨ws, hws⟩ := h₃.changeRows T.key_injective hm (hp.nodup_iff.mpr (hq _))
  exact ⟨gs, ws, hs, hs₂.trans h₃.returns.evolve.later, (hws.since hs₂).perm hp⟩

lemma Runs.update {T : Table Key ι} {q : Store Row → List ι}
    {f : Store Row → (i : ι) → Nat → Row (T.key i) → Option (Row (T.key i) × α)} {e : ε₁} {as : List α}
    (h : Runs C (.update T q f e) l g (.ok as) l' g' L G) (hq : ∀ s, (q s).Nodup) :
    ∃ g₁ ws, Later C g g₁ ∧ Later C g₁ g' ∧
      ChangedRows C .noKeyUpdate T.key
        (fun i t r => (f ((G.version g₁.csn).apply l.writes) i t r).map fun x => (some x.1, x.2))
        (q ((G.version g₁.csn).apply l.writes)) { l with snapshots := g₁.csn :: l.snapshots } g₁ as ws l' g' G :=
  Runs.change h nofun hq

/-- An update of one row that every version has from now on. -/
lemma Runs.update_one {T : Table Key ι} {i : ι} {p : Row (T.key i) → Bool}
    {f : Store Row → (j : ι) → Nat → Row (T.key j) → Option (Row (T.key j) × α)} {e : ε₁} {as : List α}
    {r v : Row (T.key i)} {a : α} (h : Runs C (.update T (fun s => s.one T i p) f e) l g (.ok as) l' g' L G)
    (hr : ∀ n, g.csn ≤ n → n ≤ G.csn → ((G.version n).apply l.writes).get (T.key i) = some r) (hp : p r = true)
    (hf : ∀ s t, f s i t r = some (v, a)) :
    (G.db.apply l'.writes).get (T.key i) = some v ∧
      (∀ (s : Store Row) k, k ≠ T.key i → (s.apply l'.writes).get k = (s.apply l.writes).get k) ∧
      ∃ n, l' = { l with snapshots := n :: l.snapshots, locks := l'.locks, writes := l'.writes } := by
  obtain ⟨gs, ws, hgs, hgs', hch⟩ := h.update fun s => s.nodup_one ..
  have hg' : Later C g' G := h.rest.later
  have hin : i ∈ ((G.version gs.csn).apply l.writes).one T i p :=
    Store.mem_one.mpr ⟨rfl, r, hr _ hgs.csn_le (hgs'.trans hg').csn_le, hp⟩
  refine ⟨?_, fun s k hk => ?_, gs.csn, by rw [hch.frame]⟩
  · rcases hch.get hin with ⟨n, hn, hn', hmiss⟩ | ⟨t, r₁, -, -, hget, hafter⟩
    · have hsome := hr n (Nat.le_trans hgs.csn_le hn) (Nat.le_trans hn' hg'.csn_le)
      rw [hmiss] at hsome
      cases hsome
    · have hlast := hr G.csn h.evolve.later.csn_le (Nat.le_refl _)
      obtain rfl : r₁ = r := Option.some.inj (hget.symm.trans hlast)
      rw [hf] at hafter
      exact hafter
  · refine hch.get_of_ne s fun j hj => ?_
    obtain ⟨rfl, -⟩ := Store.mem_one.mp hj
    exact hk

lemma Runs.delete {T : Table Key ι} {q : Store Row → List ι} {c : Store Row → (i : ι) → Row (T.key i) → Bool}
    {e : ε₁} {as : List ι} (h : Runs C (.delete T q c e) l g (.ok as) l' g' L G) (hq : ∀ s, (q s).Nodup) :
    ∃ g₁ ws, Later C g g₁ ∧ Later C g₁ g' ∧
      ChangedRows C .update T.key
        (fun i _ r => if c ((G.version g₁.csn).apply l.writes) i r then some (none, i) else none)
        (q ((G.version g₁.csn).apply l.writes)) { l with snapshots := g₁.csn :: l.snapshots } g₁ as ws l' g' G :=
  Runs.change h nofun hq

lemma Runs.selectFor {m : LockMode} {T : Table Key ι} {q : Store Row → List ι}
    {f : Store Row → (i : ι) → Nat → Row (T.key i) → Option α} {as : List α}
    (h : Runs C (.selectFor m T q f) l g (.ok as : Except ε₁ _) l' g' L G) (hm : m ≠ .keyShare) :
    ∃ g₁, Later C g g₁ ∧ Later C g₁ g' ∧
      LockedRows C m T.key (f ((G.version g₁.csn).apply l.writes)) (q ((G.version g₁.csn).apply l.writes))
        { l with snapshots := g₁.csn :: l.snapshots } g₁ as l' g' G := by
  unfold Prog.selectFor at h
  obtain ⟨s, l₁, g₁, h₁, h₂⟩ := h.bind
  obtain ⟨gs, hs, hs', rfl, rfl⟩ := h₁.snapshot
  exact ⟨gs, hs, hs'.trans h₂.returns.evolve.later, (h₂.lockRows hm).since hs'⟩

/-- `P` is what the attempts before keep of the transaction. -/
lemma Runs.first {f : β → Prog Row Adv ε₁ (Option α)} {bs : List β} {x : Option α} {P : Local Row Adv → Prop}
    (hP : ∀ b l g y l' g', P l → Runs C (f b) l g (.ok y) l' g' L G → P l') (hl : P l)
    (h : Runs C (.first f bs) l g (.ok x) l' g' L G) : P l' ∧
      ((∃ b ∈ bs, ∃ a l₁ g₁ l₂ g₂, x = some a ∧ P l₁ ∧ Later C g g₁ ∧ Runs C (f b) l₁ g₁ (.ok (some a)) l₂ g₂ L G ∧
        Later C g₂ g') ∨
      x = none ∧ ∀ b ∈ bs, ∃ l₁ g₁ l₂ g₂, P l₁ ∧ Later C g g₁ ∧ Runs C (f b) l₁ g₁ (.ok none) l₂ g₂ L G ∧
        Later C g₂ g') := by
  induction bs generalizing l g with
  | nil =>
    obtain ⟨rfl, rfl⟩ := h.ret
    exact ⟨hl, .inr ⟨rfl, by simp⟩⟩
  | cons b bs ih =>
    unfold Prog.first at h
    obtain ⟨y, l₁, g₁, h₁, h₂⟩ := h.bind
    have hl₁ : P l₁ := hP b l g y l₁ g₁ hl h₁
    have h₁₂ : Later C g₁ g' := h₂.returns.evolve.later
    cases y with
    | some a =>
      obtain ⟨rfl, rfl⟩ := h₂.ret
      exact ⟨hl₁, .inl ⟨b, List.mem_cons_self, a, l, g, l', g₁, rfl, hl, .refl, h₁, h₁₂⟩⟩
    | none =>
      have h₀₁ : Later C g g₁ := h₁.returns.evolve.later
      obtain ⟨hl', hcase⟩ := ih hl₁ h₂
      refine ⟨hl', ?_⟩
      rcases hcase with ⟨c, hc, a, l₂, g₂, l₃, g₃, hx, hl₂, hg₂, hr, hg₃⟩ | ⟨hx, hall⟩
      · exact .inl ⟨c, List.mem_cons_of_mem _ hc, a, l₂, g₂, l₃, g₃, hx, hl₂, h₀₁.trans hg₂, hr, hg₃⟩
      · refine .inr ⟨hx, fun c hc => ?_⟩
        rcases List.mem_cons.mp hc with rfl | hc
        · exact ⟨l, g, l₁, g₁, hl, .refl, h₁, h₁₂⟩
        · obtain ⟨l₂, g₂, l₃, g₃, hl₂, hg₂, hr, hg₃⟩ := hall c hc
          exact ⟨l₂, g₂, l₃, g₃, hl₂, h₀₁.trans hg₂, hr, hg₃⟩

/-- The attempt that succeeds is the last one. -/
lemma Runs.first_some {f : β → Prog Row Adv ε₁ (Option α)} {bs : List β} {a : α}
    (h : Runs C (.first f bs) l g (.ok (some a)) l' g' L G) :
    ∃ b ∈ bs, ∃ l₁ g₁ g₂, Later C g g₁ ∧ Runs C (f b) l₁ g₁ (.ok (some a)) l' g₂ L G ∧ Later C g₂ g' := by
  induction bs generalizing l g with
  | nil => cases h.ret.1
  | cons b bs ih =>
    unfold Prog.first at h
    obtain ⟨y, l₁, g₁, h₁, h₂⟩ := h.bind
    cases y with
    | some x =>
      have hlater : Later C g₁ g' := h₂.returns.evolve.later
      obtain ⟨hx, rfl⟩ := h₂.ret
      cases hx
      exact ⟨b, List.mem_cons_self, l, g, g₁, .refl, h₁, hlater⟩
    | none =>
      obtain ⟨c, hc, l₂, g₂, g₃, hg₂, hr, hg₃⟩ := ih h₂
      exact ⟨c, List.mem_cons_of_mem _ hc, l₂, g₂, g₃, h₁.returns.evolve.later.trans hg₂, hr, hg₃⟩

lemma Runs.references {e : ε₁} {ps : List Key} {r : Unit}
    (h : Runs C (.references e ps) l g (.ok r) l' g' L G) :
    l' = { l with locks := l'.locks } ∧
      ∀ k ∈ ps, (k, .keyShare) ∈ l'.locks ∧ (G.db.apply l.writes).get k ≠ none := by
  unfold Prog.references at h
  induction ps generalizing l g with
  | nil =>
    obtain ⟨-, rfl⟩ := h.ret
    exact ⟨rfl, by simp⟩
  | cons k ps ih =>
    obtain ⟨u, l₁, g₁, h₁, h₂⟩ := h.bind
    obtain ⟨x, l₂, g₂, h₃, h₄⟩ := h₁.bind
    obtain ⟨n, -, -, -, ⟨rfl, -⟩ | ⟨row, changed, rfl, rfl, hget, -⟩⟩ := h₃.lock
    · exact (not_fail h₄).elim
    · obtain ⟨-, rfl⟩ := h₄.ret
      obtain ⟨hframe, hall⟩ := ih h₂
      refine ⟨by rw [hframe], fun k' hk' => ?_⟩
      rcases List.mem_cons.mp hk' with rfl | hk'
      · exact ⟨h₂.returns.evolve.locks List.mem_cons_self, hget⟩
      · exact hall k' hk'

/-- The effect of adding one row. -/
structure InsertedRow (k : Key) (row : Row k) (parents : List Key) (l l' : Local Row Adv)
    (G : Shared Row Adv Job Out) : Prop where
  frame : l' = { l with locks := l'.locks, writes := ⟨k, some row⟩ :: l.writes }
  locked : (k, .update) ∈ l'.locks
  absent : (G.db.apply l.writes).get k = none
  parents : ∀ p ∈ parents, (p, .keyShare) ∈ l'.locks ∧ (G.db.apply l'.writes).get p ≠ none

omit [DecidableEq Adv] in
lemma InsertedRow.get {k : Key} {row : Row k} {parents : List Key} (h : InsertedRow k row parents l l' G)
    (s : Store Row) : (s.apply l'.writes).get k = some row := by
  have hw : l'.writes = ⟨k, some row⟩ :: l.writes := by rw [h.frame]
  rw [hw, Store.apply_cons, Store.get_set_self]

omit [DecidableEq Adv] in
lemma InsertedRow.get_of_ne {k k' : Key} {row : Row k} {parents : List Key} (h : InsertedRow k row parents l l' G)
    (s : Store Row) (hk : k' ≠ k) : (s.apply l'.writes).get k' = (s.apply l.writes).get k' := by
  have hw : l'.writes = ⟨k, some row⟩ :: l.writes := by rw [h.frame]
  rw [hw, Store.apply_cons, Store.get_set_mk_of_ne _ _ hk]

lemma Runs.insertOrSkip {k : Key} {row : Row k} {parents : List Key} {e : ε₁} {b : Bool}
    (h : Runs C (.insertOrSkip k row parents e) l g (.ok b) l' g' L G) :
    b = true ∧ InsertedRow k row parents l l' G ∨
    b = false ∧ l' = l ∧ ∃ n, g.csn ≤ n ∧ n ≤ g'.csn ∧
      collision sys.index ((G.version n).apply l.writes) k row ≠ none := by
  unfold Prog.insertOrSkip at h
  obtain ⟨x, l₁, g₁, h₁, h₂⟩ := h.bind
  rcases h₁.insert with ⟨rfl, rfl, habs⟩ | ⟨hx, rfl, n, hn, hn', hcol⟩
  · obtain ⟨u, l₂, g₂, h₃, h₄⟩ := h₂.bind
    obtain ⟨rfl, rfl⟩ := h₄.ret
    obtain ⟨hframe, hall⟩ := h₃.references
    refine .inl ⟨rfl, by rw [hframe], h₃.returns.evolve.locks List.mem_cons_self, habs, fun p hp => ?_⟩
    obtain ⟨hl, hget⟩ := hall p hp
    refine ⟨hl, ?_⟩
    rw [hframe]
    exact hget
  · obtain ⟨k', rfl⟩ := Option.ne_none_iff_exists'.mp hx
    obtain ⟨rfl, rfl⟩ := h₂.ret
    exact .inr ⟨rfl, rfl, n, hn, Nat.le_trans hn' h₂.returns.evolve.later.csn_le, hcol ▸ hx⟩

lemma Runs.insertRow {k : Key} {row : Row k} {parents : List Key} {e : ε₁} {r : Unit}
    (h : Runs C (.insertRow k row parents e) l g (.ok r) l' g' L G) : InsertedRow k row parents l l' G := by
  unfold Prog.insertRow at h
  obtain ⟨x, l₁, g₁, h₁, h₂⟩ := h.bind
  rcases h₁.insert with ⟨rfl, rfl, habs⟩ | ⟨hx, -⟩
  · obtain ⟨hframe, hall⟩ := h₂.references
    refine ⟨by rw [hframe], h₂.returns.evolve.locks List.mem_cons_self, habs, fun p hp => ?_⟩
    obtain ⟨hl, hget⟩ := hall p hp
    refine ⟨hl, ?_⟩
    rw [hframe]
    exact hget
  · obtain ⟨k', rfl⟩ := Option.ne_none_iff_exists'.mp hx
    exact (not_fail h₂).elim

end Rules

section Touches

def Op.Touches (P : Key → Prop) : Op Row Adv → Prop
  | .write k _ | .insert k _ | .upsert k _ _ => P k
  | _ => True

/-- All rows that the program can write have keys in `P`. -/
def Prog.Touches (P : Key → Prop) : Prog Row Adv ε₁ α → Prop
  | .ret _ | .fail _ => True
  | .op o k => o.Touches P ∧ ∀ r, (k r).Touches P

variable {P : Key → Prop}

lemma Prog.Touches.bind {p : Prog Row Adv ε₁ α} {f : α → Prog Row Adv ε₁ β} (hp : p.Touches P)
    (hf : ∀ a, (f a).Touches P) : (p >>= f).Touches P := by
  change (p.bind f).Touches P
  induction p with
  | ret a => exact hf a
  | fail e => trivial
  | op o k ih => exact ⟨hp.1, fun r => ih r (hp.2 r)⟩

lemma Prog.touches_each {f : β → Prog Row Adv ε₁ Unit} {bs : List β} (hf : ∀ b ∈ bs, (f b).Touches P) :
    (Prog.each f bs).Touches P := by
  induction bs with
  | nil => trivial
  | cons b bs ih =>
    exact (hf b List.mem_cons_self).bind fun _ => ih fun c hc => hf c (List.mem_cons_of_mem _ hc)

lemma Prog.touches_collect {f : β → Prog Row Adv ε₁ (Option α)} {bs : List β}
    (hf : ∀ b ∈ bs, (f b).Touches P) : (Prog.collect f bs).Touches P := by
  induction bs with
  | nil => trivial
  | cons b bs ih =>
    exact (hf b List.mem_cons_self).bind fun _ =>
      (ih fun c hc => hf c (List.mem_cons_of_mem _ hc)).bind fun _ => trivial

lemma Prog.touches_shuffle {bs : List β} :
    (Prog.shuffle bs : Prog Row Adv ε₁ (List β)).Touches P := by
  induction bs with
  | nil => trivial
  | cons b bs ih => exact ih.bind fun _ => ⟨trivial, fun _ => trivial⟩

lemma Prog.touches_reread {changed : Bool} {t : Nat} : (Prog.reread changed t : Prog Row Adv ε₁ Nat).Touches P := by
  unfold Prog.reread
  split
  · exact ⟨trivial, fun _ => trivial⟩
  · trivial

lemma Prog.touches_visit {m : LockMode} {k : Key} :
    (Prog.visit m k : Prog Row Adv ε₁ (Option (Row k × Nat))).Touches P := by
  refine ⟨trivial, fun t => ⟨trivial, fun r => ?_⟩⟩
  cases r with
  | none => trivial
  | some r => exact Prog.touches_reread.bind fun _ => trivial

lemma Prog.touches_lockRow {m : LockMode} {k : Key} {f : Nat → Row k → Option α} :
    (Prog.lockRow m k f : Prog Row Adv ε₁ (Option α)).Touches P := by
  refine Prog.touches_visit.bind fun r => ?_
  cases r <;> trivial

lemma Prog.touches_lockRows {m : LockMode} {key : ι → Key} {f : (i : ι) → Nat → Row (key i) → Option α}
    {is : List ι} : (Prog.lockRows m key f is : Prog Row Adv ε₁ (List α)).Touches P :=
  Prog.touches_collect fun _ _ => Prog.touches_lockRow

lemma Prog.touches_changeRow {m : LockMode} {k : Key} {f : Nat → Row k → Option (Option (Row k) × α)}
    {e : ε₁} (hk : P k) : (Prog.changeRow m k f e : Prog Row Adv ε₁ (Option α)).Touches P := by
  refine Prog.touches_visit.bind fun r => ?_
  cases r with
  | none => trivial
  | some r =>
    change Prog.Touches P (match f r.2 r.1 with | none => _ | some (v, a) => _)
    split
    · trivial
    · refine ⟨hk, fun x => ?_⟩
      cases x <;> trivial

lemma Prog.touches_changeRows {m : LockMode} {key : ι → Key}
    {f : (i : ι) → Nat → Row (key i) → Option (Option (Row (key i)) × α)} {e : ε₁} {is : List ι}
    (hk : ∀ i, P (key i)) : (Prog.changeRows m key f e is : Prog Row Adv ε₁ (List α)).Touches P :=
  Prog.touches_collect fun i _ => Prog.touches_changeRow (hk i)

lemma Prog.touches_select {q : Store Row → α} : (Prog.select q : Prog Row Adv ε₁ α).Touches P :=
  ⟨trivial, fun _ => trivial⟩

lemma Prog.touches_change {m : LockMode} {T : Table Key ι} {q : Store Row → List ι}
    {f : Store Row → (i : ι) → Nat → Row (T.key i) → Option (Option (Row (T.key i)) × α)} {e : ε₁}
    (hk : ∀ i, P (T.key i)) : (Prog.change m T q f e : Prog Row Adv ε₁ (List α)).Touches P :=
  ⟨trivial, fun _ => Prog.touches_shuffle.bind fun _ => Prog.touches_changeRows hk⟩

lemma Prog.touches_selectFor {m : LockMode} {T : Table Key ι} {q : Store Row → List ι}
    {f : Store Row → (i : ι) → Nat → Row (T.key i) → Option α} :
    (Prog.selectFor m T q f : Prog Row Adv ε₁ (List α)).Touches P :=
  ⟨trivial, fun _ => Prog.touches_lockRows⟩

lemma Prog.touches_ensure {c : Prop} [Decidable c] {e : ε₁} :
    (Prog.ensure c e : Prog Row Adv ε₁ Unit).Touches P := by
  unfold Prog.ensure
  split <;> trivial

lemma Prog.touches_ofOption {o : Option α} {e : ε₁} :
    (Prog.ofOption o e : Prog Row Adv ε₁ α).Touches P := by
  cases o <;> trivial

lemma Prog.Touches.mapError {p : Prog Row Adv ε₁ α} {f : ε₁ → ε} (hp : p.Touches P) :
    (p.mapError f).Touches P := by
  induction p with
  | ret a => trivial
  | fail e => trivial
  | op o k ih => exact ⟨hp.1, fun r => ih r (hp.2 r)⟩

lemma Prog.touches_references {e : ε₁} {ps : List Key} :
    (Prog.references e ps : Prog Row Adv ε₁ Unit).Touches P := by
  refine Prog.touches_each fun k _ => ⟨trivial, fun r => ?_⟩
  cases r <;> trivial

lemma Prog.touches_insertRow {k : Key} {row : Row k} {parents : List Key} {e : ε₁} (hk : P k) :
    (Prog.insertRow k row parents e : Prog Row Adv ε₁ Unit).Touches P := by
  refine ⟨hk, fun r => ?_⟩
  cases r with
  | none => exact Prog.touches_references
  | some _ => trivial

lemma Prog.touches_insertOrSkip {k : Key} {row : Row k} {parents : List Key} {e : ε₁} (hk : P k) :
    (Prog.insertOrSkip k row parents e : Prog Row Adv ε₁ Bool).Touches P := by
  refine ⟨hk, fun r => ?_⟩
  cases r with
  | none => exact Prog.touches_references.bind fun _ => trivial
  | some _ => trivial

variable [DecidableEq Key] [DecidableEq Adv] [DecidableEq Idx] {sys : System Row Adv Idx ε Job Out}
  {C : Contract sys} {l l' L : Local Row Adv} {g g' G : Shared Row Adv Job Out}

lemma exec_touches {index : (k : Key) → Row k → List Idx} {others : List (Local Row Adv)}
    {choice : Nat} {o : Op Row Adv} {x : o.Res} (h : exec index others choice o l g = some (x, l', g'))
    (hp : o.Touches P) :
    ∃ ws, l'.writes = ws ++ l.writes ∧ ∀ w ∈ ws, P w.key := by
  have same : ∃ ws, l.writes = ws ++ l.writes ∧ ∀ w ∈ ws, P w.key := ⟨[], rfl, by simp⟩
  have one : ∀ w : Write Row, P w.key →
      ∃ ws, w :: l.writes = ws ++ l.writes ∧ ∀ w' ∈ ws, P w'.key := fun w hw => ⟨[w], rfl, by simpa using hw⟩
  cases o with
  | snapshot | nextval | clock | pick =>
    cases h
    exact same
  | lock k m =>
    simp only [exec] at h
    split at h
    · cases h
    · cases h
      split <;> exact same
  | write k v =>
    simp only [exec] at h
    split at h
    · cases h
    · split at h <;> cases h
      · exact same
      · exact one _ hp
  | insert k r =>
    simp only [exec] at h
    split at h
    · cases h
    · split at h
      · cases h
        exact same
      · split at h <;> cases h
        exact one _ hp
  | upsert k r m =>
    simp only [exec] at h
    split at h
    · cases h
    · split at h
      · split at h <;> cases h
        exact same
      · split at h <;> cases h
        exact one _ hp
  | advisory a | fresh =>
    simp only [exec] at h
    split at h <;> cases h
    exact same

lemma Returns.touches {p : Prog Row Adv ε₁ α} {r : Except ε₁ α} (hp : p.Touches P)
    (h : Returns C p l g r l' g') : ∃ ws, l'.writes = ws ++ l.writes ∧ ∀ w ∈ ws, P w.key := by
  induction p generalizing l g with
  | ret a =>
    obtain ⟨-, rfl, -⟩ := h
    exact ⟨[], rfl, by simp⟩
  | fail e =>
    obtain ⟨-, rfl, -⟩ := h
    exact ⟨[], rfl, by simp⟩
  | op o k ih =>
    obtain ⟨g₁, others, choice, x, l₁, g₂, -, hx, -, -, -, hk⟩ := h
    obtain ⟨ws, hws, hall⟩ := ih x (hp.2 x) hk
    suffices ∃ ws₁, l₁.writes = ws₁ ++ l.writes ∧ ∀ w ∈ ws₁, P w.key by
      obtain ⟨ws₁, hws₁, hall₁⟩ := this
      refine ⟨ws ++ ws₁, by rw [hws, hws₁, List.append_assoc], fun w hw => ?_⟩
      exact (List.mem_append.mp hw).elim (hall w) (hall₁ w)
    exact exec_touches hx hp.1

lemma Runs.touches {p : Prog Row Adv ε₁ α} {r : Except ε₁ α} (hp : p.Touches P)
    (h : Runs C p l g r l' g' L G) : ∃ ws, l'.writes = ws ++ l.writes ∧ ∀ w ∈ ws, P w.key :=
  h.returns.touches hp

/-- A program leaves the rows that it cannot write. -/
lemma Runs.get_of_touches {p : Prog Row Adv ε₁ α} {r : Except ε₁ α} (h : Runs C p l g r l' g' L G)
    (hp : p.Touches P) {k : Key} (hk : ¬ P k) (s : Store Row) :
    (s.apply l'.writes).get k = (s.apply l.writes).get k := by
  obtain ⟨ws, hws, hall⟩ := h.touches hp
  rw [hws, Store.apply_append]
  refine Store.get_apply_of_notMem _ fun hmem => ?_
  obtain ⟨w, hw, rfl⟩ := List.mem_map.mp hmem
  exact hk (hall w hw)

end Touches

end JamyeServer.ReadCommitted
