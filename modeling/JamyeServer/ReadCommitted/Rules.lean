import JamyeServer.ReadCommitted.Soundness

/-!
# Rules for one transaction

`Later` follows the shared state over commits that meet their contract. `Evolve` relates two moments
of one transaction's life. What the transaction has learned stays true along it: old versions, rows it
holds locks on, its own locks and writes. `Runs` places one part of a program inside a transaction
that later ends as `L` on `G`, so that the rules can speak of the database on which it commits.
-/

namespace JamyeServer.ReadCommitted

variable {Key : Type} {Row : Key → Type} {Adv Idx Job Out ε ε₁ ε₂ α β : Type}
  [DecidableEq Key] {sys : System Row Adv Idx ε Job Out}

/-- From `g` to a later shared state over commits that meet the contract. -/
inductive Later (C : Contract sys) (g : Shared Row Adv Job Out) : Shared Row Adv Job Out → Prop
  | refl : Later C g g
  | shift {g₁ g₂} : Later C g g₁ → Shift sys g₁ g₂ → Later C g g₂
  | commit {g₁ e} : Later C g g₁ → Commits C e g₁ → Later C g (g₁.commit e)

namespace Later

variable {C : Contract sys} {g g' g'' : Shared Row Adv Job Out}

lemma trans (h : Later C g g') (h' : Later C g' g'') : Later C g g'' := by
  induction h' with
  | refl => exact h
  | shift _ hs ih => exact ih.shift hs
  | commit _ hc ih => exact ih.commit hc

lemma history (h : Later C g g') (hg : History C g) : History C g' := by
  induction h with
  | refl => exact hg
  | shift _ hs ih => exact ih.shift hs
  | commit _ hc ih => exact ih.commit hc

lemma init_eq (h : Later C g g') : g'.init = g.init := by
  induction h with
  | refl => rfl
  | shift _ hs ih => rw [hs.init, ih]
  | commit _ _ ih => exact ih

lemma log (h : Later C g g') : ∃ es, g'.log = g.log ++ es := by
  induction h with
  | refl => exact ⟨[], by simp⟩
  | shift _ hs ih =>
    obtain ⟨es, hes⟩ := ih
    exact ⟨es, by rw [hs.log, hes]⟩
  | @commit _ e _ _ ih =>
    obtain ⟨es, hes⟩ := ih
    exact ⟨es ++ [e], by simp [Shared.commit, hes]⟩

lemma csn_le (h : Later C g g') : g.csn ≤ g'.csn := by
  obtain ⟨es, hes⟩ := h.log
  simp [Shared.csn, hes]

lemma version (h : Later C g g') {n : Nat} (hn : n ≤ g.csn) : g'.version n = g.version n := by
  obtain ⟨es, hes⟩ := h.log
  rw [Shared.version, hes, List.take_append_of_le_length hn, h.init_eq, Shared.version]

lemma sequence_le (h : Later C g g') : g.sequence ≤ g'.sequence := by
  induction h with
  | refl => exact Nat.le_refl _
  | shift _ hs ih => exact Nat.le_trans ih hs.sequence
  | commit _ _ ih => exact ih

lemma used (h : Later C g g') : g.used ⊆ g'.used := by
  induction h with
  | refl => exact List.Subset.refl _
  | shift _ hs ih => exact List.Subset.trans ih hs.used
  | commit _ _ ih => exact ih

lemma now_le (hticks : ∀ t t', sys.ticks t t' → t ≤ t') (h : Later C g g') : g.now ≤ g'.now := by
  induction h with
  | refl => exact Nat.le_refl _
  | shift _ hs ih =>
    rcases hs.now with hn | hn
    · rwa [hn]
    · exact Nat.le_trans ih (hticks _ _ hn)
  | commit _ _ ih => exact ih

/-- A commit between two moments. -/
lemma commit_between (h : Later C g g') {n : Nat} {e : Entry Row Adv Job Out} (hn : g.csn ≤ n)
    (he : g'.log[n]? = some e) : ∃ g₁, Later C g g₁ ∧ g₁.csn = n ∧ Commits C e g₁ ∧
      Later C (g₁.commit e) g' := by
  induction h with
  | refl =>
    have hlt : n < g.log.length := (List.getElem?_eq_some_iff.mp he).1
    exact absurd hn (by simp only [Shared.csn]; omega)
  | shift _ hs ih =>
    obtain ⟨g₁, h₁, hcsn, hc, h₂⟩ := ih (by rwa [hs.log] at he)
    exact ⟨g₁, h₁, hcsn, hc, h₂.shift hs⟩
  | @commit g₂ e₂ h₂ hc₂ ih =>
    rcases Nat.lt_or_ge n g₂.csn with hlt | hge
    · have he' : g₂.log[n]? = some e := by rwa [Shared.commit, List.getElem?_append_left hlt] at he
      obtain ⟨g₁, h₁, hcsn, hc, h₃⟩ := ih he'
      exact ⟨g₁, h₁, hcsn, hc, h₃.commit hc₂⟩
    · have hlt : n < g₂.log.length + 1 := by
        simpa [Shared.commit] using (List.getElem?_eq_some_iff.mp he).1
      have hn' : n = g₂.log.length := by simp only [Shared.csn] at hge; omega
      subst hn'
      obtain rfl : e₂ = e := by simpa [Shared.commit] using he
      exact ⟨g₂, h₂, rfl, hc₂, .refl⟩

end Later

/-- A reading of the clock between two moments. -/
def Clocked (C : Contract sys) (g g' : Shared Row Adv Job Out) (t : Nat) : Prop :=
  ∃ g₁, Later C g g₁ ∧ Later C g₁ g' ∧ t = g₁.now

lemma Clocked.mono {C : Contract sys} {g₀ g g' g₁ : Shared Row Adv Job Out} {t : Nat}
    (h : Clocked C g g' t) (h₀ : Later C g₀ g) (h₁ : Later C g' g₁) : Clocked C g₀ g₁ t := by
  obtain ⟨g₂, h₂, h₃, rfl⟩ := h
  exact ⟨g₂, h₀.trans h₂, h₃.trans h₁, rfl⟩

lemma History.later {C : Contract sys} {g : Shared Row Adv Job Out} (h : History C g) :
    ∃ g₀, C.Init g₀ ∧ Later C g₀ g := by
  induction h with
  | @init g₀ hg => exact ⟨g₀, hg, .refl⟩
  | shift _ hs ih =>
    obtain ⟨g₀, hg₀, hl⟩ := ih
    exact ⟨g₀, hg₀, hl.shift hs⟩
  | commit _ hc ih =>
    obtain ⟨g₀, hg₀, hl⟩ := ih
    exact ⟨g₀, hg₀, hl.commit hc⟩

/-- A commit of the log, with the state that it met. -/
lemma History.entry {C : Contract sys} {g : Shared Row Adv Job Out} (h : History C g) {n : Nat}
    {e : Entry Row Adv Job Out} (he : g.log[n]? = some e) : ∃ g₁, History C g₁ ∧ g₁.csn = n ∧
      Commits C e g₁ ∧ Later C (g₁.commit e) g := by
  obtain ⟨g₀, hg₀, hl⟩ := h.later
  have hn : g₀.csn ≤ n := by simp [Shared.csn, C.log_init g₀ hg₀]
  obtain ⟨g₁, h₁, hcsn, hc, h₂⟩ := hl.commit_between hn he
  exact ⟨g₁, h₁.history (.init hg₀), hcsn, hc, h₂⟩

lemma exists_change {P : Nat → Prop} {n m : Nat} (hnm : n ≤ m) (hn : P n) (hm : ¬ P m) :
    ∃ k, n ≤ k ∧ k < m ∧ P k ∧ ¬ P (k + 1) := by
  induction hnm with
  | refl => exact absurd hn hm
  | @step m hnm ih =>
    by_cases hPm : P m
    · exact ⟨m, hnm, Nat.lt_succ_self m, hPm, hm⟩
    · obtain ⟨k, hk, hkm, hPk, hPk'⟩ := ih hPm
      exact ⟨k, hk, Nat.lt_succ_of_lt hkm, hPk, hPk'⟩

lemma Later.version_commit {C : Contract sys} {g₁ g : Shared Row Adv Job Out}
    {e : Entry Row Adv Job Out} (h : Later C (g₁.commit e) g) :
    g.version g₁.csn = g₁.db ∧ g.version (g₁.csn + 1) = g₁.view e.ran := by
  have hcsn : (g₁.commit e).csn = g₁.csn + 1 := Shared.csn_commit g₁ e
  constructor
  · rw [h.version (by omega), Shared.version_commit _ _ (Nat.le_refl _), Shared.db]
  · rw [h.version (by omega), ← hcsn, ← Shared.db_commit, Shared.db]

/-- What is true of one version and not of a later one was changed by a commit in between. -/
lemma History.commit_of_change {C : Contract sys} {g : Shared Row Adv Job Out} (h : History C g)
    {P : Store Row → Prop} {n m : Nat} (hnm : n ≤ m) (hm : m ≤ g.csn) (hn : P (g.version n))
    (hnot : ¬ P (g.version m)) : ∃ e g₁, n ≤ g₁.csn ∧ g₁.csn < m ∧ g.log[g₁.csn]? = some e ∧
      History C g₁ ∧ Commits C e g₁ ∧ P g₁.db ∧ ¬ P (g₁.view e.ran) ∧ Later C (g₁.commit e) g := by
  obtain ⟨k, hk, hkm, hPk, hPk'⟩ := exists_change (P := fun k => P (g.version k)) hnm hn hnot
  have hlt : k < g.log.length := Nat.lt_of_lt_of_le hkm hm
  have he : g.log[k]? = some (g.log.get ⟨k, hlt⟩) := List.getElem?_eq_getElem hlt
  obtain ⟨g₁, hg₁, rfl, hc, hl⟩ := h.entry he
  obtain ⟨hv, hv'⟩ := hl.version_commit
  rw [hv] at hPk
  rw [hv'] at hPk'
  exact ⟨_, g₁, hk, hkm, he, hg₁, hc, hPk, hPk', hl⟩

/-- What every commit keeps holds in all later versions. -/
lemma History.stable {C : Contract sys} {g : Shared Row Adv Job Out} (h : History C g)
    {P : Store Row → Prop}
    (hstep : ∀ g₁ e, History C g₁ → Commits C e g₁ → P g₁.db → P (g₁.view e.ran)) {n m : Nat}
    (hnm : n ≤ m) (hm : m ≤ g.csn) (hn : P (g.version n)) : P (g.version m) := by
  by_contra hnot
  obtain ⟨e, g₁, -, -, -, hg₁, hc, hP, hP', -⟩ := h.commit_of_change hnm hm hn hnot
  exact hP' (hstep g₁ e hg₁ hc hP)

/-- What holds at first and is kept by every commit holds always. -/
lemma History.invariant {C : Contract sys} {g : Shared Row Adv Job Out} (h : History C g)
    {P : Store Row → Prop} (hinit : ∀ g₀, C.Init g₀ → P g₀.init)
    (hstep : ∀ g₁ e, History C g₁ → Commits C e g₁ → P g₁.db → P (g₁.view e.ran)) : P g.db := by
  induction h with
  | @init g₀ hg =>
    have hlog : g₀.log = [] := C.log_init g₀ hg
    simpa [Shared.db, Shared.version, hlog] using hinit g₀ hg
  | shift _ hs ih => rwa [hs.db]
  | commit hg hc ih =>
    rw [Shared.db_commit]
    exact hstep _ _ hg hc ih

lemma History.version {C : Contract sys} {g : Shared Row Adv Job Out} (h : History C g) {n : Nat}
    (hn : n ≤ g.csn) : ∃ g₁, History C g₁ ∧ g₁.csn = n ∧ g₁.db = g.version n ∧ Later C g₁ g := by
  rcases Nat.lt_or_ge n g.csn with hlt | hge
  · have he : g.log[n]? = some (g.log.get ⟨n, hlt⟩) := List.getElem?_eq_getElem hlt
    obtain ⟨g₁, hg₁, rfl, hc, hl⟩ := h.entry he
    exact ⟨g₁, hg₁, rfl, hl.version_commit.1.symm, (Later.refl.commit hc).trans hl⟩
  · obtain rfl : n = g.csn := by omega
    exact ⟨g, h, rfl, rfl, .refl⟩

/-- A committing transaction does not write a row that another one has locked `FOR SHARE` or more. -/
lemma Compat.notMem_writes {index : (k : Key) → Row k → List Idx} {l o : Local Row Adv}
    {g : Shared Row Adv Job Out} (hc : Compat index l o) (ho : Coherent index o g) {k : Key}
    {m : LockMode} (hk : (k, m) ∈ l.locks) (hm : m ≠ .keyShare) : k ∉ o.writes.map Write.key := by
  intro hmem
  obtain ⟨w, hw, rfl⟩ := List.mem_map.mp hmem
  obtain ⟨m', hm', hex, -⟩ := ho.locked w hw
  have hno := hc.locks _ m m' hk hm'
  rw [LockMode.conflicts_of_exclusive hm hex] at hno
  cases hno

/-- A committing transaction does not delete a row that another one has locked. -/
lemma Compat.get_ne_none {index : (k : Key) → Row k → List Idx} {l o : Local Row Adv}
    {g : Shared Row Adv Job Out} (hc : Compat index l o) (ho : Coherent index o g) {k : Key}
    {m : LockMode} (hk : (k, m) ∈ l.locks) (hg : g.db.get k ≠ none) : (g.view o).get k ≠ none := by
  by_cases hmem : k ∈ o.writes.map Write.key
  · obtain ⟨v, hv, hs⟩ := Store.get_apply_of_mem hmem
    rw [Shared.view, hs]
    rintro rfl
    obtain ⟨m', hm', -, hup⟩ := ho.locked _ hv
    have hno := hc.locks _ m m' hk hm'
    rw [hup rfl, LockMode.conflicts_update] at hno
    cases hno
  · rwa [Shared.view, Store.get_apply_of_notMem _ hmem]

variable [DecidableEq Idx]

/-- From `l` on `g` to `l'` on `g'` by own requests and by interference. -/
inductive Evolve (C : Contract sys) (l : Local Row Adv) (g : Shared Row Adv Job Out) :
    Local Row Adv → Shared Row Adv Job Out → Prop
  | refl : Evolve C l g l g
  | other {l' g₁ g₂} : Evolve C l g l' g₁ → Interference C l' g₁ g₂ → Evolve C l g l' g₂
  | own {l₁ l₂ g₁ g₂ others} : Evolve C l g l₁ g₁ → Grow sys.index others g₁ g₂ l₁ l₂ →
      Shift sys g₁ g₂ → Evolve C l g l₂ g₂

namespace Evolve

variable {C : Contract sys} {l l' l'' : Local Row Adv} {g g' g'' : Shared Row Adv Job Out}

lemma trans (h : Evolve C l g l' g') (h' : Evolve C l' g' l'' g'') : Evolve C l g l'' g'' := by
  induction h' with
  | refl => exact h
  | other _ hi ih => exact ih.other hi
  | own _ hg hs ih => exact ih.own hg hs

lemma of_rely (h : Rely C l g g') : Evolve C l g l g' := by
  induction h with
  | refl => exact .refl
  | tail _ hi ih => exact ih.other hi

lemma later (h : Evolve C l g l' g') : Later C g g' := by
  induction h with
  | refl => exact .refl
  | other _ hi ih =>
    cases hi with
    | shift hs _ => exact ih.shift hs
    | commit hc _ _ _ _ => exact ih.commit hc
  | own _ _ hs ih => exact ih.shift hs

lemma coherent (h : Evolve C l g l' g') (hl : Coherent sys.index l g) : Coherent sys.index l' g' := by
  induction h with
  | refl => exact hl
  | other _ hi ih =>
    cases hi with
    | shift hs _ => exact ih.shift hs
    | commit _ _ _ _ hc => exact hc
  | own _ hg hs ih => exact ih.grow hg hs.csn hs.db hs.used

lemma start_eq (h : Evolve C l g l' g') : l'.start = l.start := by
  induction h with
  | refl => rfl
  | other _ _ ih => exact ih
  | own _ hg _ ih => cases hg <;> exact ih

lemma locks (h : Evolve C l g l' g') : l.locks ⊆ l'.locks := by
  induction h with
  | refl => exact List.Subset.refl _
  | other _ _ ih => exact ih
  | own _ hg _ ih =>
    intro x hx
    cases hg with
    | same | snapshot | advisory | fresh => exact ih hx
    | lock => exact List.mem_cons_of_mem _ (ih hx)
    | write => exact List.mem_append_right _ (ih hx)

lemma advisory (h : Evolve C l g l' g') : l.advisory ⊆ l'.advisory := by
  induction h with
  | refl => exact List.Subset.refl _
  | other _ _ ih => exact ih
  | own _ hg _ ih =>
    intro x hx
    cases hg with
    | advisory => exact List.mem_cons_of_mem _ (ih hx)
    | _ => exact ih hx

lemma snapshots (h : Evolve C l g l' g') : l.snapshots ⊆ l'.snapshots := by
  induction h with
  | refl => exact List.Subset.refl _
  | other _ _ ih => exact ih
  | own _ hg _ ih =>
    intro x hx
    cases hg with
    | snapshot => exact List.mem_cons_of_mem _ (ih hx)
    | _ => exact ih hx

lemma drawn (h : Evolve C l g l' g') : l.drawn ⊆ l'.drawn := by
  induction h with
  | refl => exact List.Subset.refl _
  | other _ _ ih => exact ih
  | own _ hg _ ih =>
    intro x hx
    cases hg with
    | fresh => exact List.mem_cons_of_mem _ (ih hx)
    | _ => exact ih hx

lemma writes (h : Evolve C l g l' g') : ∃ ws, l'.writes = ws ++ l.writes := by
  induction h with
  | refl => exact ⟨[], rfl⟩
  | other _ _ ih => exact ih
  | own _ hg _ ih =>
    obtain ⟨ws, hws⟩ := ih
    cases hg with
    | write k v => exact ⟨⟨k, v⟩ :: ws, by simp [hws]⟩
    | _ => exact ⟨ws, hws⟩

/-- A commit that happened while the transaction was running. -/
lemma commit_between (h : Evolve C l g l' g') {n : Nat} {e : Entry Row Adv Job Out} (hn : g.csn ≤ n)
    (he : g'.log[n]? = some e) : ∃ l₁ g₁, Evolve C l g l₁ g₁ ∧ g₁.csn = n ∧
      Commits C e g₁ ∧ Compat sys.index l₁ e.ran ∧ C.Guard l₁ e g₁ ∧
      Evolve C l₁ (g₁.commit e) l' g' := by
  induction h with
  | refl =>
    have hlt : n < g.log.length := (List.getElem?_eq_some_iff.mp he).1
    exact absurd hn (by simp only [Shared.csn]; omega)
  | @other l₂ g₂ g₃ h₂ hi ih =>
    cases hi with
    | shift hs hh =>
      obtain ⟨l₁, g₁, h₁, hcsn, hc, hcp, hgd, h₃⟩ := ih (by rwa [hs.log] at he)
      exact ⟨l₁, g₁, h₁, hcsn, hc, hcp, hgd, h₃.other (.shift hs hh)⟩
    | @commit e₂ hc₂ hcp₂ hgd₂ hh hco =>
      rcases Nat.lt_or_ge n g₂.csn with hlt | hge
      · have he' : g₂.log[n]? = some e := by rwa [Shared.commit, List.getElem?_append_left hlt] at he
        obtain ⟨l₁, g₁, h₁, hcsn, hc, hcp, hgd, h₃⟩ := ih he'
        exact ⟨l₁, g₁, h₁, hcsn, hc, hcp, hgd, h₃.other (.commit hc₂ hcp₂ hgd₂ hh hco)⟩
      · have hlt : n < g₂.log.length + 1 := by
          simpa [Shared.commit] using (List.getElem?_eq_some_iff.mp he).1
        have hn' : n = g₂.log.length := by simp only [Shared.csn] at hge; omega
        subst hn'
        obtain rfl : e₂ = e := by simpa [Shared.commit] using he
        exact ⟨l₂, g₂, h₂, rfl, hc₂, hcp₂, hgd₂, .refl⟩
  | own _ hg hs ih =>
    obtain ⟨l₁, g₁, h₁, hcsn, hc, hcp, hgd, h₃⟩ := ih (by rwa [hs.log] at he)
    exact ⟨l₁, g₁, h₁, hcsn, hc, hcp, hgd, h₃.own hg hs⟩

/-- What changed while the transaction was running was changed by a commit next to it. -/
lemma commit_of_change (h : Evolve C l g l' g') {P : Store Row → Prop} {n m : Nat} (hgn : g.csn ≤ n)
    (hnm : n ≤ m) (hm : m ≤ g'.csn) (hn : P (g'.version n)) (hnot : ¬ P (g'.version m)) :
    ∃ e l₁ g₁, n ≤ g₁.csn ∧ g₁.csn < m ∧ Evolve C l g l₁ g₁ ∧ Commits C e g₁ ∧
      Compat sys.index l₁ e.ran ∧ C.Guard l₁ e g₁ ∧ Evolve C l₁ (g₁.commit e) l' g' ∧
      P g₁.db ∧ ¬ P (g₁.view e.ran) := by
  obtain ⟨k, hk, hkm, hPk, hPk'⟩ := exists_change (P := fun k => P (g'.version k)) hnm hn hnot
  have hlt : k < g'.log.length := Nat.lt_of_lt_of_le hkm hm
  have he : g'.log[k]? = some (g'.log.get ⟨k, hlt⟩) := List.getElem?_eq_getElem hlt
  obtain ⟨l₁, g₁, h₁, rfl, hc, hcp, hgd, h₂⟩ := h.commit_between (Nat.le_trans hgn hk) he
  obtain ⟨hv, hv'⟩ := h₂.later.version_commit
  rw [hv] at hPk
  rw [hv'] at hPk'
  exact ⟨_, l₁, g₁, hk, hkm, h₁, hc, hcp, hgd, h₂, hPk, hPk'⟩

/-- A row locked at least `FOR SHARE` stays as it is in all later versions. -/
lemma version_locked (h : Evolve C l g l' g') {k : Key} {m : LockMode} (hk : (k, m) ∈ l.locks)
    (hm : m ≠ .keyShare) {n : Nat} (hn : g.csn ≤ n) (hn' : n ≤ g'.csn) :
    (g'.version n).get k = g.db.get k := by
  induction h generalizing n with
  | refl => rw [show n = g.csn by omega, Shared.db]
  | @other l₁ g₁ g₂ h₁ hi ih =>
    cases hi with
    | shift hs _ =>
      rw [hs.version]
      exact ih hn (by rwa [hs.csn] at hn')
    | @commit e hc hcp _ _ _ =>
      rcases Nat.lt_or_ge g₁.csn n with hlt | hle
      · have hn'' : n = (g₁.commit e).csn := by simp only [Shared.csn_commit] at hn' ⊢; omega
        have hdb : (g₁.version g₁.csn).get k = g.db.get k := ih h₁.later.csn_le (Nat.le_refl _)
        rw [hn'', show (g₁.commit e).version (g₁.commit e).csn = (g₁.commit e).db from rfl,
          Shared.db_commit, Shared.view,
          Store.get_apply_of_notMem _ (hcp.notMem_writes hc.coherent (h₁.locks hk) hm)]
        exact hdb
      · rw [Shared.version_commit _ _ hle]
        exact ih hn hle
  | own _ _ hs ih =>
    rw [hs.version]
    exact ih hn (by rwa [hs.csn] at hn')

lemma db_locked (h : Evolve C l g l' g') {k : Key} {m : LockMode} (hk : (k, m) ∈ l.locks)
    (hm : m ≠ .keyShare) : g'.db.get k = g.db.get k :=
  h.version_locked hk hm h.later.csn_le (Nat.le_refl _)

/-- A locked row is the same before a commit that happens next to the lock. -/
lemma db_locked_commit {e : Entry Row Adv Job Out} (h : Evolve C l (g.commit e) l' g') (hc : Compat sys.index l e.ran)
    (he : Coherent sys.index e.ran g) {k : Key} {m : LockMode} (hk : (k, m) ∈ l.locks) (hm : m ≠ .keyShare) :
    g'.db.get k = g.db.get k := by
  rw [h.db_locked hk hm, Shared.db_commit, Shared.view, Store.get_apply_of_notMem _ (hc.notMem_writes he hk hm)]

lemma apply_locked (h : Evolve C l g l' g') {k : Key} {m : LockMode} (hk : (k, m) ∈ l.locks)
    (hm : m ≠ .keyShare) (ws : List (Write Row)) : (g'.db.apply ws).get k = (g.db.apply ws).get k := by
  by_cases hmem : k ∈ ws.map Write.key
  · obtain ⟨v, -, hs⟩ := Store.get_apply_of_mem hmem
    rw [hs, hs]
  · rw [Store.get_apply_of_notMem _ hmem, Store.get_apply_of_notMem _ hmem, h.db_locked hk hm]

/-- A row locked in any mode is not deleted. -/
lemma db_ne_none (h : Evolve C l g l' g') {k : Key} {m : LockMode} (hk : (k, m) ∈ l.locks)
    (hg : g.db.get k ≠ none) : g'.db.get k ≠ none := by
  induction h with
  | refl => exact hg
  | other h₁ hi ih =>
    cases hi with
    | shift hs _ => rwa [hs.db]
    | commit hc hcp _ _ _ =>
      rw [Shared.db_commit]
      exact hcp.get_ne_none hc.coherent (h₁.locks hk) ih
  | own _ _ hs ih => rwa [hs.db]

lemma apply_ne_none (h : Evolve C l g l' g') {k : Key} {m : LockMode} (hk : (k, m) ∈ l.locks)
    {ws : List (Write Row)} (hg : (g.db.apply ws).get k ≠ none) : (g'.db.apply ws).get k ≠ none := by
  by_cases hmem : k ∈ ws.map Write.key
  · obtain ⟨v, -, hs⟩ := Store.get_apply_of_mem hmem
    rwa [hs] at hg ⊢
  · rw [Store.get_apply_of_notMem _ hmem] at hg ⊢
    exact h.db_ne_none hk hg

end Evolve

variable [DecidableEq Adv]

lemma Returns.evolve {C : Contract sys} {p : Prog Row Adv ε₁ α} {l l' : Local Row Adv}
    {g g' : Shared Row Adv Job Out} {r : Except ε₁ α} (h : Returns C p l g r l' g') :
    Evolve C l g l' g' := by
  induction p generalizing l g with
  | ret a =>
    obtain ⟨-, rfl, hr⟩ := h
    exact .of_rely hr
  | fail e =>
    obtain ⟨-, rfl, hr⟩ := h
    exact .of_rely hr
  | op o k ih =>
    obtain ⟨g₁, others, choice, x, l₁, g₂, hr, hx, -, -, -, hk⟩ := h
    obtain ⟨hgrow, hshift⟩ := exec_grow hx
    exact ((Evolve.of_rely hr).own hgrow hshift).trans (ih x hk)

lemma returns_bind {C : Contract sys} {p : Prog Row Adv ε₁ α} {f : α → Prog Row Adv ε₁ β}
    {l l' : Local Row Adv} {g g' : Shared Row Adv Job Out} {r : Except ε₁ β}
    (h : Returns C (p >>= f) l g r l' g') :
    (∃ a l₁ g₁, Returns C p l g (.ok a) l₁ g₁ ∧ Returns C (f a) l₁ g₁ r l' g') ∨
      ∃ e, r = .error e ∧ Returns C p l g (.error e) l' g' := by
  change Returns C (p.bind f) l g r l' g' at h
  induction p generalizing l g with
  | ret a => exact .inl ⟨a, l, g, ⟨rfl, rfl, .refl⟩, h⟩
  | fail e => exact .inr ⟨e, h.1, rfl, h.2⟩
  | op o k ih =>
    obtain ⟨g₁, others, choice, x, l₁, g₂, hr, hx, hc, hh, hq, hk⟩ := h
    rcases ih x hk with ⟨a, l₂, g₃, h₁, h₂⟩ | ⟨e, rfl, h₁⟩
    · exact .inl ⟨a, l₂, g₃, ⟨g₁, others, choice, x, l₁, g₂, hr, hx, hc, hh, hq, h₁⟩, h₂⟩
    · exact .inr ⟨e, rfl, g₁, others, choice, x, l₁, g₂, hr, hx, hc, hh, hq, h₁⟩

lemma returns_mapError {C : Contract sys} {p : Prog Row Adv ε₁ α} {f : ε₁ → ε₂}
    {l l' : Local Row Adv} {g g' : Shared Row Adv Job Out} {r : α}
    (h : Returns C (p.mapError f) l g (.ok r) l' g') : Returns C p l g (.ok r) l' g' := by
  induction p generalizing l g with
  | ret a =>
    obtain ⟨hr, hl⟩ := h
    cases hr
    exact ⟨rfl, hl⟩
  | fail e => cases h.1
  | op o k ih =>
    obtain ⟨g₁, others, choice, x, l₁, g₂, hr, hx, hc, hh, hq, hk⟩ := h
    exact ⟨g₁, others, choice, x, l₁, g₂, hr, hx, hc, hh, hq, ih x hk⟩

lemma returns_mapError_error {C : Contract sys} {p : Prog Row Adv ε₁ α} {f : ε₁ → ε₂}
    {l l' : Local Row Adv} {g g' : Shared Row Adv Job Out} {e : ε₂}
    (h : Returns C (p.mapError f) l g (.error e) l' g') :
    ∃ e₁, e = f e₁ ∧ Returns C p l g (.error e₁) l' g' := by
  induction p generalizing l g with
  | ret a => cases h.1
  | fail e₁ =>
    obtain ⟨hr, hl⟩ := h
    cases hr
    exact ⟨e₁, rfl, rfl, hl⟩
  | op o k ih =>
    obtain ⟨g₁, others, choice, x, l₁, g₂, hr, hx, hc, hh, hq, hk⟩ := h
    obtain ⟨e₁, rfl, h₁⟩ := ih x hk
    exact ⟨e₁, rfl, g₁, others, choice, x, l₁, g₂, hr, hx, hc, hh, hq, h₁⟩

/-- The program `p` runs from `l` on `g` to `l'` on `g'`, ending with `r`, in a transaction that is
later `L` on `G`. -/
structure Runs (C : Contract sys) (p : Prog Row Adv ε₁ α) (l : Local Row Adv)
    (g : Shared Row Adv Job Out) (r : Except ε₁ α) (l' : Local Row Adv) (g' : Shared Row Adv Job Out)
    (L : Local Row Adv) (G : Shared Row Adv Job Out) : Prop where
  returns : Returns C p l g r l' g'
  rest : Evolve C l' g' L G

namespace Runs

variable {C : Contract sys} {l l' L : Local Row Adv} {g g' G : Shared Row Adv Job Out}

lemma evolve {p : Prog Row Adv ε₁ α} {r : Except ε₁ α} (h : Runs C p l g r l' g' L G) : Evolve C l g L G :=
  h.returns.evolve.trans h.rest

lemma bind {p : Prog Row Adv ε₁ α} {f : α → Prog Row Adv ε₁ β} {r : β}
    (h : Runs C (p >>= f) l g (.ok r) l' g' L G) :
    ∃ a l₁ g₁, Runs C p l g (.ok a) l₁ g₁ L G ∧ Runs C (f a) l₁ g₁ (.ok r) l' g' L G := by
  rcases returns_bind h.returns with ⟨a, l₁, g₁, h₁, h₂⟩ | ⟨e, hr, -⟩
  · exact ⟨a, l₁, g₁, ⟨h₁, h₂.evolve.trans h.rest⟩, ⟨h₂, h.rest⟩⟩
  · cases hr

lemma bind_error {p : Prog Row Adv ε₁ α} {f : α → Prog Row Adv ε₁ β} {e : ε₁}
    (h : Runs C (p >>= f) l g (.error e) l' g' L G) :
    Runs C p l g (.error e) l' g' L G ∨
      ∃ a l₁ g₁, Runs C p l g (.ok a) l₁ g₁ L G ∧ Runs C (f a) l₁ g₁ (.error e) l' g' L G := by
  rcases returns_bind h.returns with ⟨a, l₁, g₁, h₁, h₂⟩ | ⟨e', hr, h₁⟩
  · exact .inr ⟨a, l₁, g₁, ⟨h₁, h₂.evolve.trans h.rest⟩, ⟨h₂, h.rest⟩⟩
  · cases hr
    exact .inl ⟨h₁, h.rest⟩

lemma ret {a r : α} (h : Runs C (.ret a) l g (.ok r : Except ε₁ _) l' g' L G) : r = a ∧ l' = l :=
  ⟨Except.ok.inj h.returns.1, h.returns.2.1⟩

lemma pure {a r : α} (h : Runs C (Pure.pure a) l g (.ok r : Except ε₁ _) l' g' L G) : r = a ∧ l' = l := Runs.ret h

lemma mapError_error {p : Prog Row Adv ε₁ α} {f : ε₁ → ε₂} {e : ε₂}
    (h : Runs C (p.mapError f) l g (.error e) l' g' L G) :
    ∃ e₁, e = f e₁ ∧ Runs C p l g (.error e₁) l' g' L G := by
  obtain ⟨e₁, rfl, h₁⟩ := returns_mapError_error h.returns
  exact ⟨e₁, rfl, h₁, h.rest⟩

lemma not_ret_error {a : α} {e : ε₁} : ¬ Runs C (.ret a) l g (.error e : Except ε₁ _) l' g' L G := fun h => by
  cases h.returns.1

lemma not_fail {e : ε₁} {r : α} : ¬ Runs C (.fail e) l g (.ok r) l' g' L G := fun h => by
  cases h.returns.1

lemma fail {e e' : ε₁} (h : Runs (α := α) C (.fail e) l g (.error e') l' g' L G) : e' = e :=
  Except.error.inj h.returns.1

lemma ensure {c : Prop} [Decidable c] {e : ε₁} {r : Unit}
    (h : Runs C (.ensure c e) l g (.ok r) l' g' L G) : c ∧ l' = l := by
  unfold Prog.ensure at h
  split at h
  · exact ⟨‹c›, h.ret.2⟩
  · exact (not_fail h).elim

lemma ofOption {o : Option α} {e : ε₁} {r : α} (h : Runs C (.ofOption o e) l g (.ok r) l' g' L G) :
    o = some r ∧ l' = l := by
  unfold Prog.ofOption at h
  split at h
  · exact ⟨by rw [h.ret.1], h.ret.2⟩
  · exact (not_fail h).elim

lemma mapError {p : Prog Row Adv ε₁ α} {f : ε₁ → ε₂} {r : α}
    (h : Runs C (p.mapError f) l g (.ok r) l' g' L G) : Runs C p l g (.ok r) l' g' L G :=
  ⟨returns_mapError h.returns, h.rest⟩

/-- One request, between two stretches of interference. -/
lemma op_request {o : Op Row Adv} {r : o.Res} (h : Runs C (.op o .ret) l g (.ok r : Except ε₁ _) l' g' L G) :
    ∃ g₁ g₂ others choice, Evolve C l g l g₁ ∧ exec sys.index others choice o l g₁ = some (r, l', g₂) ∧
      Evolve C l' g₂ l' g' ∧ C.Request o l g₁ := by
  obtain ⟨g₁, others, choice, x, l₁, g₂, hr, hx, -, -, hrequest, hret, rfl, hr'⟩ := h.returns
  cases hret
  exact ⟨g₁, g₂, others, choice, .of_rely hr, hx, .of_rely hr', hrequest⟩

lemma op {o : Op Row Adv} {r : o.Res} (h : Runs C (.op o .ret) l g (.ok r : Except ε₁ _) l' g' L G) :
    ∃ g₁ g₂ others choice, Evolve C l g l g₁ ∧ exec sys.index others choice o l g₁ = some (r, l', g₂) ∧
      Evolve C l' g₂ l' g' := by
  obtain ⟨g₁, g₂, others, choice, h₁, hx, h₂, -⟩ := h.op_request
  exact ⟨g₁, g₂, others, choice, h₁, hx, h₂⟩

lemma not_op_error {o : Op Row Adv} {e : ε₁} : ¬ Runs C (.op o .ret) l g (.error e) l' g' L G := fun h => by
  obtain ⟨g₁, others, choice, x, l₁, g₂, -, -, -, -, -, hret, -⟩ := h.returns
  cases hret

lemma snapshot {s : Store Row} (h : Runs C .snapshot l g (.ok s : Except ε₁ _) l' g' L G) :
    ∃ g₁, Later C g g₁ ∧ Later C g₁ g' ∧ l' = { l with snapshots := g₁.csn :: l.snapshots } ∧
      s = (G.version g₁.csn).apply l.writes := by
  obtain ⟨g₁, g₂, others, choice, h₁, hx, h₂⟩ := h.op
  cases hx
  refine ⟨g₁, h₁.later, h₂.later, rfl, ?_⟩
  rw [(h₂.trans h.rest).later.version (Nat.le_refl _)]
  rfl

/-- A lock is granted on the latest version of the row. -/
lemma lock_granted {k : Key} {m : LockMode} {x : Option (Row k × Bool)}
    (h : Runs C (.lock k m) l g (.ok x : Except ε₁ _) l' g' L G) :
    ∃ g₁, Later C g g₁ ∧ Later C g₁ g' ∧ C.Request (.lock k m) l g₁ ∧
      x = (((G.version g₁.csn).apply l.writes).get k).map (fun r => (r, g₁.changedSince l k)) ∧
      (x = none ∧ l' = l ∨ x ≠ none ∧ l' = { l with locks := (k, m) :: l.locks } ∧ Evolve C l' g₁ L G) := by
  obtain ⟨g₁, g₂, others, choice, h₁, hx, h₂, hrequest⟩ := h.op_request
  simp only [exec] at hx
  split at hx
  · cases hx
  · cases hx
    have hrest : Evolve C _ g₁ L G := h₂.trans h.rest
    refine ⟨g₁, h₁.later, h₂.later, hrequest, ?_, ?_⟩
    · rw [hrest.later.version (Nat.le_refl _)]
      rfl
    · by_cases hr : (g₁.view l).get k = none
      · exact .inl ⟨by simp [hr], by simp [hr]⟩
      · have hsome : ((g₁.view l).get k).isSome := Option.isSome_iff_ne_none.mpr hr
        rw [if_pos hsome] at hrest
        exact .inr ⟨by simpa using hr, by rw [if_pos hsome], by rwa [if_pos hsome]⟩

lemma lock {k : Key} {m : LockMode} {x : Option (Row k × Bool)}
    (h : Runs C (.lock k m) l g (.ok x : Except ε₁ _) l' g' L G) :
    ∃ n, g.csn ≤ n ∧ n ≤ g'.csn ∧ x.map Prod.fst = ((G.version n).apply l.writes).get k ∧
      (x = none ∧ l' = l ∨ ∃ r changed, x = some (r, changed) ∧ l' = { l with locks := (k, m) :: l.locks } ∧
        (G.db.apply l.writes).get k ≠ none ∧ (m ≠ .keyShare → (G.db.apply l.writes).get k = some r)) := by
  obtain ⟨g₁, hg₁, hg₁', -, hx, hcase⟩ := h.lock_granted
  refine ⟨g₁.csn, hg₁.csn_le, hg₁'.csn_le, by simp [hx, Function.comp_def], ?_⟩
  rcases hcase with hnone | ⟨hsome, rfl, hev⟩
  · exact .inl hnone
  · obtain ⟨⟨r, changed⟩, rfl⟩ := Option.ne_none_iff_exists'.mp hsome
    have hrow : ((G.version g₁.csn).apply l.writes).get k = some r := by
      obtain ⟨_, hr, heq⟩ := Option.map_eq_some_iff.mp hx.symm
      cases heq
      exact hr
    rw [hev.later.version (Nat.le_refl _)] at hrow
    change (g₁.view l).get k = some r at hrow
    refine .inr ⟨r, changed, rfl, rfl, hev.apply_ne_none List.mem_cons_self (by rw [← Shared.view, hrow]; exact Option.some_ne_none r), fun hm => ?_⟩
    rw [← hrow]
    exact hev.apply_locked List.mem_cons_self hm _

lemma write {k : Key} {v : Option (Row k)} {r : Option Key} (h : Runs C (.write k v) l g (.ok r : Except ε₁ _) l' g' L G) :
    r = none ∧ l' = { l with writes := ⟨k, v⟩ :: l.writes } ∨ r ≠ none ∧ l' = l := by
  obtain ⟨g₁, g₂, others, choice, -, hx, -⟩ := h.op
  simp only [exec] at hx
  split at hx
  · cases hx
  · split at hx
    · cases hx
      exact .inr ⟨Option.some_ne_none _, rfl⟩
    · cases hx
      exact .inl ⟨rfl, rfl⟩

/-- The row that an insertion adds is not there until the transaction commits. -/
lemma insert {k : Key} {row : Row k} {r : Option Key} (h : Runs C (.insert k row) l g (.ok r : Except ε₁ _) l' g' L G) :
    r = none ∧ l' = { l with locks := (k, .update) :: l.locks, writes := ⟨k, some row⟩ :: l.writes } ∧
      (G.db.apply l.writes).get k = none ∨
    r ≠ none ∧ l' = l ∧ ∃ n, g.csn ≤ n ∧ n ≤ g'.csn ∧
      r = collision sys.index ((G.version n).apply l.writes) k row := by
  obtain ⟨g₁, g₂, others, choice, h₁, hx, h₂⟩ := h.op
  simp only [exec] at hx
  split at hx
  · cases hx
  · split at hx
    · rename_i k' hk'
      cases hx
      refine .inr ⟨Option.some_ne_none _, rfl, g₁.csn, h₁.later.csn_le, h₂.later.csn_le, ?_⟩
      rw [(h₂.trans h.rest).later.version (Nat.le_refl _)]
      exact hk'.symm
    · rename_i hk'
      split at hx
      · cases hx
      · cases hx
        refine .inl ⟨rfl, rfl, ?_⟩
        rw [(h₂.trans h.rest).apply_locked List.mem_cons_self (by decide)]
        exact (violation_of_collision hk').1

lemma upsert {k : Key} {row : Row k} {m : LockMode} {r : Option Key}
    (h : Runs C (.upsert k row m) l g (.ok r : Except ε₁ _) l' g' L G) :
    r = none ∧ l' = { l with locks := (k, .update) :: l.locks, writes := ⟨k, some row⟩ :: l.writes } ∧
      (G.db.apply l.writes).get k = none ∨
    ∃ k', r = some k' ∧ l' = { l with locks := (k', m) :: l.locks } ∧ ∃ n, g.csn ≤ n ∧ n ≤ g'.csn ∧
      collision sys.index ((G.version n).apply l.writes) k row = some k' := by
  obtain ⟨g₁, g₂, others, choice, h₁, hx, h₂⟩ := h.op
  simp only [exec] at hx
  split at hx
  · cases hx
  · split at hx
    · rename_i k' hk'
      split at hx
      · cases hx
      · cases hx
        refine .inr ⟨k', rfl, rfl, g₁.csn, h₁.later.csn_le, h₂.later.csn_le, ?_⟩
        rw [(h₂.trans h.rest).later.version (Nat.le_refl _)]
        exact hk'
    · rename_i hk'
      split at hx
      · cases hx
      · cases hx
        refine .inl ⟨rfl, rfl, ?_⟩
        rw [(h₂.trans h.rest).apply_locked List.mem_cons_self (by decide)]
        exact (violation_of_collision hk').1

lemma advisory {a : Adv} {r : Unit} (h : Runs C (.advisory a) l g (.ok r : Except ε₁ _) l' g' L G) :
    l' = { l with advisory := a :: l.advisory } := by
  obtain ⟨g₁, g₂, others, choice, -, hx, -⟩ := h.op
  simp only [exec] at hx
  split at hx
  · cases hx
  · cases hx
    rfl

lemma nextval {r : Nat} (h : Runs C .nextval l g (.ok r : Except ε₁ _) l' g' L G) :
    l' = l ∧ g.sequence < r ∧ r ≤ g'.sequence := by
  obtain ⟨g₁, g₂, others, choice, h₁, hx, h₂⟩ := h.op
  cases hx
  exact ⟨rfl, Nat.lt_succ_of_le h₁.later.sequence_le, h₂.later.sequence_le⟩

lemma clock_evolve {r : Nat} (h : Runs C .clock l g (.ok r : Except ε₁ _) l' g' L G) :
    l' = l ∧ ∃ g₁, Later C g g₁ ∧ Later C g₁ g' ∧ r = g₁.now ∧ Evolve C l g₁ L G := by
  obtain ⟨g₁, g₂, others, choice, h₁, hx, h₂⟩ := h.op
  cases hx
  exact ⟨rfl, g₁, h₁.later, h₂.later, rfl, h₂.trans h.rest⟩

lemma clock {r : Nat} (h : Runs C .clock l g (.ok r : Except ε₁ _) l' g' L G) : l' = l ∧ Clocked C g g' r := by
  obtain ⟨hl, g₁, h₁, h₂, hr, -⟩ := h.clock_evolve
  exact ⟨hl, g₁, h₁, h₂, hr⟩

lemma reread {changed : Bool} {t t' : Nat} (h : Runs C (.reread changed t) l g (.ok t' : Except ε₁ _) l' g' L G) :
    l' = l ∧ (changed = true ∧ Clocked C g g' t' ∨ changed = false ∧ t' = t) := by
  unfold Prog.reread at h
  split at h
  · rename_i hchanged
    exact ⟨h.clock.1, .inl ⟨hchanged, h.clock.2⟩⟩
  · rename_i hchanged
    exact ⟨h.ret.2, .inr ⟨by simpa using hchanged, h.ret.1⟩⟩

/-- No transaction had used the identifier when it was drawn. -/
lemma fresh {r : Nat} (h : Runs C .fresh l g (.ok r : Except ε₁ _) l' g' L G) :
    l' = { l with drawn := r :: l.drawn } ∧
      ∃ g₁ g₂, Later C g g₁ ∧ r ∉ g₁.used ∧ Shift sys g₁ g₂ ∧ Evolve C l' g₂ L G := by
  obtain ⟨g₁, g₂, others, choice, h₁, hx, h₂⟩ := h.op
  have hshift : Shift sys g₁ g₂ := (exec_grow hx).2
  simp only [exec] at hx
  split at hx
  · cases hx
  · rename_i hu
    cases hx
    exact ⟨rfl, g₁, _, h₁.later, hu, hshift, h₂.trans h.rest⟩

lemma pick {r : Nat} (h : Runs C .pick l g (.ok r : Except ε₁ _) l' g' L G) : l' = l := by
  obtain ⟨g₁, g₂, others, choice, -, hx, -⟩ := h.op
  cases hx
  rfl

lemma shuffle {bs cs : List β} (h : Runs C (.shuffle bs) l g (.ok cs : Except ε₁ _) l' g' L G) : cs.Perm bs ∧ l' = l := by
  induction bs generalizing cs l g l' g' with
  | nil => exact ⟨by rw [h.ret.1], h.ret.2⟩
  | cons b bs ih =>
    unfold Prog.shuffle at h
    obtain ⟨ds, l₁, g₁, h₁, hrest⟩ := h.bind
    obtain ⟨n, l₂, g₂, h₂, h₃⟩ := hrest.bind
    obtain ⟨hp, rfl⟩ := ih h₁
    obtain rfl := h₂.pick
    refine ⟨?_, h₃.ret.2⟩
    rw [h₃.ret.1]
    refine List.perm_middle.trans (List.Perm.cons _ ?_)
    rwa [List.take_append_drop]

end Runs

end JamyeServer.ReadCommitted
