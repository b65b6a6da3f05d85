import JamyeServer.ReadCommitted.Statement

/-!
# What transactions do to single rows

`Prog.Keeps C S` says of a program that every write of it keeps `S` between the committed version of a
row and the version that the transaction sees. It is proved statement by statement, and a transaction
that keeps `S` commits only changes of rows that `S` allows.
-/

namespace JamyeServer.ReadCommitted

variable {Key : Type} {Row : Key → Type} {Adv Idx Job Out ε ε₁ ε₂ α β ι : Type}

variable [DecidableEq Key] [DecidableEq Adv] [DecidableEq Idx] {sys : System Row Adv Idx ε Job Out}

/-- All rows of the view `l` stand to their committed versions as `S` says. -/
def Rows (S : (k : Key) → Option (Row k) → Option (Row k) → Prop) (G : Shared Row Adv Job Out)
    (l : Local Row Adv) : Prop :=
  ∀ k, S k (G.db.get k) ((G.db.apply l.writes).get k)

omit [DecidableEq Adv] in
lemma rows_of_empty {S : (k : Key) → Option (Row k) → Option (Row k) → Prop} {G : Shared Row Adv Job Out}
    {l : Local Row Adv} (hl : l.writes = []) (hS : ∀ k, S k (G.db.get k) (G.db.get k)) : Rows S G l := by
  intro k
  rw [hl, Store.apply_nil]
  exact hS k

namespace Prog

/-- The program keeps `S`, whatever commits in between. -/
structure Keeps (C : Contract sys) (S : (k : Key) → Option (Row k) → Option (Row k) → Prop)
    (p : Prog Row Adv ε₁ α) : Prop where
  rows : ∀ {l g a l' g' L G}, Runs C p l g (.ok a) l' g' L G → Rows S G l → Rows S G l'

variable {C : Contract sys} {S : (k : Key) → Option (Row k) → Option (Row k) → Prop}

lemma keeps_of_writes {p : Prog Row Adv ε₁ α}
    (h : ∀ {l g a l' g' L G}, Runs C p l g (.ok a) l' g' L G → l'.writes = l.writes) : p.Keeps C S := by
  refine ⟨fun hrun hrows k => ?_⟩
  rw [h hrun]
  exact hrows k

lemma Keeps.bind {p : Prog Row Adv ε₁ α} {f : α → Prog Row Adv ε₁ β} (hp : p.Keeps C S)
    (hf : ∀ a, (f a).Keeps C S) : (p >>= f).Keeps C S := by
  refine ⟨fun hrun hrows => ?_⟩
  obtain ⟨a, l₁, g₁, h₁, h₂⟩ := hrun.bind
  exact (hf a).rows h₂ (hp.rows h₁ hrows)

lemma Keeps.mapError {p : Prog Row Adv ε₁ α} {f : ε₁ → ε₂} (hp : p.Keeps C S) : (p.mapError f).Keeps C S :=
  ⟨fun hrun hrows => hp.rows hrun.mapError hrows⟩

lemma keeps_ret {a : α} : (ret a : Prog Row Adv ε₁ α).Keeps C S :=
  keeps_of_writes fun h => by rw [h.ret.2]

lemma keeps_fail {e : ε₁} : (fail e : Prog Row Adv ε₁ α).Keeps C S :=
  ⟨fun h => (Runs.not_fail h).elim⟩

lemma keeps_ensure {c : Prop} [Decidable c] {e : ε₁} : (ensure c e : Prog Row Adv ε₁ Unit).Keeps C S :=
  keeps_of_writes fun h => by rw [h.ensure.2]

lemma keeps_ofOption {o : Option α} {e : ε₁} : (ofOption o e : Prog Row Adv ε₁ α).Keeps C S :=
  keeps_of_writes fun h => by rw [h.ofOption.2]

lemma keeps_snapshot : (snapshot : Prog Row Adv ε₁ (Store Row)).Keeps C S :=
  keeps_of_writes fun h => by
    obtain ⟨g₁, -, -, rfl, -⟩ := h.snapshot
    rfl

lemma keeps_clock : (clock : Prog Row Adv ε₁ Nat).Keeps C S :=
  keeps_of_writes fun h => by rw [h.clock.1]

lemma keeps_fresh : (fresh : Prog Row Adv ε₁ Nat).Keeps C S :=
  keeps_of_writes fun h => by rw [h.fresh.1]

omit [DecidableEq Key] [DecidableEq Adv] [DecidableEq Idx] in
lemma Touches.mono {p : Prog Row Adv ε₁ α} {P Q : Key → Prop} (hp : p.Touches P) (h : ∀ k, P k → Q k) : p.Touches Q := by
  induction p with
  | ret a => trivial
  | fail e => trivial
  | op o k ih =>
    refine ⟨?_, fun r => ih r (hp.2 r)⟩
    cases o with
    | write k v => exact h _ hp.1
    | insert k r => exact h _ hp.1
    | upsert k r m => exact h _ hp.1
    | _ => trivial

/-- Programs that write nothing keep every relation. -/
lemma keeps_of_touches {p : Prog Row Adv ε₁ α} (h : p.Touches fun _ => False) : p.Keeps C S :=
  keeps_of_writes fun hrun => by
    obtain ⟨ws, hws, hnone⟩ := hrun.touches h
    cases ws with
    | nil => exact hws
    | cons w ws => exact (hnone w List.mem_cons_self).elim

/-- A program keeps a relation that says nothing of the rows that it writes. -/
lemma keeps_of_free {p : Prog Row Adv ε₁ α} (h : p.Touches fun k => ∀ base v, S k base v) : p.Keeps C S := by
  refine ⟨fun {l g a l' g' L G} hrun hrows k => ?_⟩
  by_cases hk : ∀ base v, S k base v
  · exact hk _ _
  · rw [hrun.get_of_touches h hk]
    exact hrows k

lemma keeps_select {q : Store Row → α} : (select q : Prog Row Adv ε₁ α).Keeps C S :=
  keeps_of_touches touches_select

lemma keeps_selectFor {m : LockMode} {T : Table Key ι} {q : Store Row → List ι}
    {f : Store Row → (i : ι) → Nat → Row (T.key i) → Option α} :
    (selectFor m T q f : Prog Row Adv ε₁ (List α)).Keeps C S :=
  keeps_of_touches touches_selectFor

lemma keeps_lockRow {m : LockMode} {k : Key} {f : Nat → Row k → Option α} :
    (lockRow m k f : Prog Row Adv ε₁ (Option α)).Keeps C S :=
  keeps_of_touches touches_lockRow

lemma keeps_references {e : ε₁} {ps : List Key} : (references e ps : Prog Row Adv ε₁ Unit).Keeps C S :=
  keeps_of_touches touches_references

lemma keeps_each {f : β → Prog Row Adv ε₁ Unit} {bs : List β} (hf : ∀ b ∈ bs, (f b).Keeps C S) :
    (each f bs).Keeps C S := by
  induction bs with
  | nil => exact keeps_ret
  | cons b bs ih =>
    exact (hf b List.mem_cons_self).bind fun _ => ih fun c hc => hf c (List.mem_cons_of_mem _ hc)

lemma keeps_collect {f : β → Prog Row Adv ε₁ (Option α)} {bs : List β} (hf : ∀ b ∈ bs, (f b).Keeps C S) :
    (collect f bs).Keeps C S := by
  induction bs with
  | nil => exact keeps_ret
  | cons b bs ih =>
    exact (hf b List.mem_cons_self).bind fun _ =>
      (ih fun c hc => hf c (List.mem_cons_of_mem _ hc)).bind fun _ => keeps_ret

lemma keeps_first {f : β → Prog Row Adv ε₁ (Option α)} {bs : List β} (hf : ∀ b ∈ bs, (f b).Keeps C S) :
    (first f bs).Keeps C S := by
  induction bs with
  | nil => exact keeps_ret
  | cons b bs ih =>
    refine (hf b List.mem_cons_self).bind fun x => ?_
    cases x with
    | none => exact ih fun c hc => hf c (List.mem_cons_of_mem _ hc)
    | some a => exact keeps_ret

omit [DecidableEq Adv] in
/-- A write of one row replaces the row in the view. -/
lemma rows_write {G : Shared Row Adv Job Out} {l : Local Row Adv} (h : Rows S G l) {k : Key} {v : Option (Row k)}
    (hv : S k (G.db.get k) v) (ls : List (Key × LockMode)) :
    Rows S G { l with locks := ls, writes := ⟨k, v⟩ :: l.writes } := by
  intro k'
  rw [Store.apply_cons]
  by_cases hk : k' = k
  · subst hk
    rw [Store.get_set_self]
    exact hv
  · rw [Store.get_set_mk_of_ne _ _ hk]
    exact h k'

lemma keeps_changeRow {m : LockMode} {k : Key} {f : Nat → Row k → Option (Option (Row k) × α)} {e : ε₁}
    (hm : m ≠ .keyShare) (hf : ∀ base t r v a, S k base (some r) → f t r = some (v, a) → S k base v) :
    (changeRow m k f e : Prog Row Adv ε₁ (Option α)).Keeps C S := by
  refine ⟨fun {l g a l' g' L G} hrun hrows => ?_⟩
  rcases hrun.changeRow hm with ⟨-, rfl, -⟩ | ⟨t, r, -, hr, ⟨-, -, rfl⟩ | ⟨v, b, hv, -, rfl⟩⟩
  · exact hrows
  · exact hrows
  · refine rows_write hrows (hf _ t r v b ?_ hv) _
    rw [← hr]
    exact hrows k

lemma keeps_changeRows {m : LockMode} {key : ι → Key}
    {f : (i : ι) → Nat → Row (key i) → Option (Option (Row (key i)) × α)} {e : ε₁} {is : List ι}
    (hm : m ≠ .keyShare)
    (hf : ∀ i base t r v a, S (key i) base (some r) → f i t r = some (v, a) → S (key i) base v) :
    (changeRows m key f e is : Prog Row Adv ε₁ (List α)).Keeps C S :=
  keeps_collect fun i _ => keeps_changeRow hm (hf i)

/-- A statement changes only rows that it has found. -/
lemma keeps_change_of_mem {m : LockMode} {T : Table Key ι} {q : Store Row → List ι}
    {f : Store Row → (i : ι) → Nat → Row (T.key i) → Option (Option (Row (T.key i)) × α)} {e : ε₁}
    (hm : m ≠ .keyShare)
    (hf : ∀ s i base t r v a, i ∈ q s → S (T.key i) base (some r) → f s i t r = some (v, a) → S (T.key i) base v) :
    (change m T q f e : Prog Row Adv ε₁ (List α)).Keeps C S := by
  refine keeps_snapshot.bind fun s => ⟨fun hrun hrows => ?_⟩
  obtain ⟨is, l₁, g₁, h₁, h₂⟩ := hrun.bind
  obtain ⟨hperm, rfl⟩ := h₁.shuffle
  have hkeeps : (changeRows m T.key (f s) e is : Prog Row Adv ε₁ (List α)).Keeps C S :=
    keeps_collect fun i hi => keeps_changeRow hm fun base t r v a => hf s i base t r v a (hperm.mem_iff.mp hi)
  exact hkeeps.rows h₂ hrows

lemma keeps_change {m : LockMode} {T : Table Key ι} {q : Store Row → List ι}
    {f : Store Row → (i : ι) → Nat → Row (T.key i) → Option (Option (Row (T.key i)) × α)} {e : ε₁}
    (hm : m ≠ .keyShare)
    (hf : ∀ s i base t r v a, S (T.key i) base (some r) → f s i t r = some (v, a) → S (T.key i) base v) :
    (change m T q f e : Prog Row Adv ε₁ (List α)).Keeps C S :=
  keeps_change_of_mem hm fun s i base t r v a _ => hf s i base t r v a

lemma keeps_update_of_mem {T : Table Key ι} {q : Store Row → List ι}
    {f : Store Row → (i : ι) → Nat → Row (T.key i) → Option (Row (T.key i) × α)} {e : ε₁}
    (hf : ∀ s i base t r r' a, i ∈ q s → S (T.key i) base (some r) → f s i t r = some (r', a) →
      S (T.key i) base (some r')) :
    (update T q f e : Prog Row Adv ε₁ (List α)).Keeps C S := by
  refine keeps_change_of_mem nofun fun s i base t r v a hi hr hv => ?_
  obtain ⟨⟨r', a'⟩, hx, heq⟩ := Option.map_eq_some_iff.mp hv
  cases heq
  exact hf s i base t r r' a' hi hr hx

lemma keeps_update {T : Table Key ι} {q : Store Row → List ι}
    {f : Store Row → (i : ι) → Nat → Row (T.key i) → Option (Row (T.key i) × α)} {e : ε₁}
    (hf : ∀ s i base t r r' a, S (T.key i) base (some r) → f s i t r = some (r', a) → S (T.key i) base (some r')) :
    (update T q f e : Prog Row Adv ε₁ (List α)).Keeps C S :=
  keeps_update_of_mem fun s i base t r r' a _ => hf s i base t r r' a

lemma keeps_delete_of_mem {T : Table Key ι} {q : Store Row → List ι}
    {c : Store Row → (i : ι) → Row (T.key i) → Bool} {e : ε₁}
    (hf : ∀ s i base r, i ∈ q s → S (T.key i) base (some r) → c s i r = true → S (T.key i) base none) :
    (delete T q c e : Prog Row Adv ε₁ (List ι)).Keeps C S := by
  refine keeps_change_of_mem nofun fun s i base t r v a hi hr hv => ?_
  split at hv
  · cases hv
    exact hf s i base r hi hr ‹_›
  · cases hv

lemma keeps_delete {T : Table Key ι} {q : Store Row → List ι} {c : Store Row → (i : ι) → Row (T.key i) → Bool}
    {e : ε₁} (hf : ∀ s i base r, S (T.key i) base (some r) → c s i r = true → S (T.key i) base none) :
    (delete T q c e : Prog Row Adv ε₁ (List ι)).Keeps C S :=
  keeps_delete_of_mem fun s i base r _ => hf s i base r

lemma keeps_insert {k : Key} {row : Row k} (hS : ∀ base, S k base none → S k base (some row)) :
    (insert k row : Prog Row Adv ε₁ (Option Key)).Keeps C S := by
  refine ⟨fun {l g x l' g' L G} hrun hrows => ?_⟩
  rcases hrun.insert with ⟨-, rfl, habs⟩ | ⟨-, rfl, -⟩
  · refine rows_write hrows (hS _ ?_) _
    rw [← habs]
    exact hrows k
  · exact hrows

lemma keeps_insertRow {k : Key} {row : Row k} {parents : List Key} {e : ε₁}
    (hS : ∀ base, S k base none → S k base (some row)) :
    (insertRow k row parents e : Prog Row Adv ε₁ Unit).Keeps C S := by
  refine (keeps_insert hS).bind fun x => ?_
  cases x with
  | none => exact keeps_references
  | some k' => exact keeps_fail

lemma keeps_insertOrSkip {k : Key} {row : Row k} {parents : List Key} {e : ε₁}
    (hS : ∀ base, S k base none → S k base (some row)) :
    (insertOrSkip k row parents e : Prog Row Adv ε₁ Bool).Keeps C S := by
  refine (keeps_insert hS).bind fun x => ?_
  cases x with
  | none => exact keeps_references.bind fun _ => keeps_ret
  | some k' => exact keeps_ret

end Prog

section Fresh

variable {C : Contract sys} {key : Nat → Key}

/-- The rows under `key` are named by identifiers that have been drawn. -/
structure DrawnKeys (C : Contract sys) (key : Nat → Key) : Prop where
  init : ∀ g, C.Init g → ∀ i, g.init.get (key i) ≠ none → i ∈ g.used
  insert : ∀ e g, Commits C e g → ∀ i, g.db.get (key i) = none → (g.view e.ran).get (key i) ≠ none → i ∈ e.ran.drawn

omit [DecidableEq Adv] [DecidableEq Idx] in
lemma DrawnKeys.used (hC : DrawnKeys C key) {g : Shared Row Adv Job Out} (hg : History C g) {n i : Nat}
    (hn : n ≤ g.csn) (hi : (g.version n).get (key i) ≠ none) : i ∈ g.used := by
  induction hg generalizing n with
  | @init g hinit =>
    refine hC.init g hinit i ?_
    have hlog := C.log_init g hinit
    simpa [Shared.version, hlog] using hi
  | shift _ hs ih =>
    rw [hs.version] at hi
    exact hs.used (ih (hs.csn ▸ hn) hi)
  | @commit g e hg hc ih =>
    rw [Shared.csn_commit] at hn
    rcases Nat.lt_or_ge g.csn n with hlt | hle
    · obtain rfl : n = g.csn + 1 := by omega
      have hview : (g.commit e).version (g.csn + 1) = g.view e.ran := by
        rw [← Shared.db_commit, Shared.db, Shared.csn_commit]
      rw [hview] at hi
      by_cases hbefore : g.db.get (key i) = none
      · exact hc.coherent.drawn i (hC.insert e g hc i hbefore hi)
      · exact ih (Nat.le_refl _) hbefore
    · rw [Shared.version_commit _ _ hle] at hi
      exact ih hle hi

/-- A fresh identifier has never named a row, and does not until its transaction commits. -/
lemma DrawnKeys.fresh (hC : DrawnKeys C key) {l l' L : Local Row Adv} {g g' G : Shared Row Adv Job Out} {i : Nat}
    (hg : History C g) (h : Runs C .fresh l g (.ok i : Except ε₁ _) l' g' L G) :
    i ∈ L.drawn ∧ ∀ n, n ≤ G.csn → (G.version n).get (key i) = none := by
  obtain ⟨rfl, g₁, g₂, hg₁, hnew, hshift, hev⟩ := h.fresh
  refine ⟨hev.drawn List.mem_cons_self, fun n hn => ?_⟩
  have hbefore : ∀ m, m ≤ g₁.csn → (G.version m).get (key i) = none := by
    intro m hm
    rw [hev.later.version (by rw [hshift.csn]; exact hm), hshift.version]
    by_contra hne
    exact hnew (hC.used (hg₁.history hg) hm hne)
  rcases Nat.le_total n g₁.csn with hle | hle
  · exact hbefore n hle
  · by_contra hne
    obtain ⟨e, l₁, g₃, -, -, hl₁, hc, hcp, -, -, hnone, hsome⟩ :=
      hev.commit_of_change (P := fun s => s.get (key i) = none) (n := g₁.csn) (Nat.le_of_eq hshift.csn) hle hn
        (hbefore _ (Nat.le_refl _)) hne
    exact hcp.drawn i (hl₁.drawn List.mem_cons_self) (hC.insert e g₃ hc i hnone hsome)

end Fresh

end JamyeServer.ReadCommitted
