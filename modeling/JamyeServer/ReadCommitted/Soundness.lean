import JamyeServer.ReadCommitted.Interference
import Mathlib.Data.List.Pairwise

/-!
# Soundness of reasoning about one transaction at a time
-/

namespace JamyeServer.ReadCommitted

open Relation

variable {Key : Type} {Row : Key → Type} {Adv Idx Job Out ε ε' α : Type}

section Requests

variable [DecidableEq Key]

lemma lockedByOther_eq_false {others : List (Local Row Adv)} {k : Key} {m : LockMode}
    (h : lockedByOther others k m = false) {o : Local Row Adv} (ho : o ∈ others) {m' : LockMode}
    (hm : (k, m') ∈ o.locks) : m'.conflicts m = false := by
  simp only [lockedByOther, List.any_eq_false, Bool.and_eq_true, decide_eq_true_eq, not_and,
    Bool.not_eq_true, List.any_eq_true, not_exists] at h
  exact h o ho (k, m') hm rfl

lemma mayWrite_of_update (l : Local Row Adv) (k : Key) (v : Option (Row k)) :
    mayWrite { l with locks := [(k, .update)] ++ l.locks } k v := by
  cases v <;> simp [mayWrite, LockMode.exclusive]

variable [DecidableEq Idx]

lemma pendingByOther_eq_false {index : (k : Key) → Row k → List Idx} {db : Store Row}
    {others : List (Local Row Adv)} {k : Key} {is : List Idx}
    (h : pendingByOther index db others k is = false) {o : Local Row Adv} (ho : o ∈ others)
    {w : Write Row} (hw : w ∈ o.writes) : w.key ≠ k ∧ ∀ i ∈ is, i ∉ entries index w.key w.value := by
  simp only [pendingByOther, List.any_eq_false, Bool.or_eq_true, decide_eq_true_eq, not_or,
    List.any_eq_true, not_exists, not_and] at h
  have := h o ho w hw
  exact ⟨this.1, fun i hi => (this.2 i hi).1⟩

lemma violation_eq_none {index : (k : Key) → Row k → List Idx} {s : Store Row} {k : Key}
    {is : List Idx} (h : violation index s k is = none) {k' : Key} (hk : k' ≠ k) {i : Idx}
    (hi : i ∈ is) : i ∉ entries index k' (s.get k') := by
  intro hi'
  have hmem : k' ∈ s.keys := by
    refine s.complete k' fun hn => ?_
    simp [entries, hn] at hi'
  simp only [violation, List.find?_eq_none, Bool.and_eq_true, decide_eq_true_eq, not_and,
    List.any_eq_true, not_exists] at h
  exact h k' hmem hk i hi hi'

lemma violation_of_collision {index : (k : Key) → Row k → List Idx} {s : Store Row} {k : Key}
    {r : Row k} (h : collision index s k r = none) :
    s.get k = none ∧ violation index s k (entries index k (some r)) = none := by
  unfold collision at h
  split at h
  · cases h
  · rename_i hk
    exact ⟨by simpa using hk, h⟩

lemma Unique.set {index : (k : Key) → Row k → List Idx} {s : Store Row} (hs : Unique index s)
    {k : Key} {v : Option (Row k)} (h : violation index s k (entries index k v) = none) :
    Unique index (s.set ⟨k, v⟩) := by
  intro k₁ k₂ i h₁ h₂
  by_cases hk₁ : k₁ = k <;> by_cases hk₂ : k₂ = k
  · rw [hk₁, hk₂]
  · subst hk₁
    rw [Store.get_set_self] at h₁
    rw [Store.get_set_mk_of_ne _ _ hk₂] at h₂
    exact absurd h₂ (violation_eq_none h hk₂ h₁)
  · subst hk₂
    rw [Store.get_set_self] at h₂
    rw [Store.get_set_mk_of_ne _ _ hk₁] at h₁
    exact absurd h₁ (violation_eq_none h hk₁ h₂)
  · rw [Store.get_set_mk_of_ne _ _ hk₁] at h₁
    rw [Store.get_set_mk_of_ne _ _ hk₂] at h₂
    exact hs k₁ k₂ i h₁ h₂

/-- How one request changes what its transaction holds. -/
inductive Grow (index : (k : Key) → Row k → List Idx) (others : List (Local Row Adv))
    (g g' : Shared Row Adv Job Out) (l : Local Row Adv) : Local Row Adv → Prop
  | same : Grow index others g g' l l
  | snapshot : Grow index others g g' l { l with snapshots := g.csn :: l.snapshots }
  | lock (k m) : lockedByOther others k m = false →
      Grow index others g g' l { l with locks := (k, m) :: l.locks }
  | advisory (a) : (∀ o ∈ others, a ∉ o.advisory) →
      Grow index others g g' l { l with advisory := a :: l.advisory }
  | fresh (i) : i ∉ g.used → i ∈ g'.used → Grow index others g g' l { l with drawn := i :: l.drawn }
  | write (k v) (ls : List (Key × LockMode)) : (∀ m, (k, m) ∈ ls → lockedByOther others k m = false) →
      (ls = [] ∨ ls = [(k, .update)]) → mayWrite { l with locks := ls ++ l.locks } k v →
      pendingByOther index g.db others k (entries index k v) = false →
      violation index (g.view l) k (entries index k v) = none →
      Grow index others g g' l { l with locks := ls ++ l.locks, writes := ⟨k, v⟩ :: l.writes }

lemma Coherent.grow {index : (k : Key) → Row k → List Idx} {others : List (Local Row Adv)}
    {g g' : Shared Row Adv Job Out} {l l' : Local Row Adv} (hl : Coherent index l g)
    (h : Grow index others g g' l l') (hcsn : g'.csn = g.csn) (hdb : g'.db = g.db) (hused : g.used ⊆ g'.used) :
    Coherent index l' g' := by
  have hview : ∀ l₁ : Local Row Adv, g'.view l₁ = g.view l₁ := fun l₁ => by rw [Shared.view, hdb, Shared.view]
  have hdrawn : ∀ i ∈ l.drawn, i ∈ g'.used := fun i hi => hused (hl.drawn i hi)
  have hunique : Unique index (g'.view l) := hview l ▸ hl.unique
  have hstart : l.start ≤ g'.csn := hcsn ▸ hl.start_le
  have hsnap : ∀ n ∈ l.snapshots, l.start ≤ n ∧ n ≤ g'.csn := hcsn ▸ hl.snapshots
  cases h with
  | same => exact ⟨hl.locked, hstart, hsnap, hdrawn, hunique⟩
  | snapshot =>
    refine ⟨hl.locked, hstart, fun n hn => ?_, hdrawn, hunique⟩
    rcases List.mem_cons.mp hn with rfl | hn
    · exact ⟨hl.start_le, Nat.le_of_eq hcsn.symm⟩
    · exact hsnap n hn
  | lock k m _ =>
    refine ⟨fun w hw => ?_, hstart, hsnap, hdrawn, hunique⟩
    obtain ⟨m', hm', hx⟩ := hl.locked w hw
    exact ⟨m', List.mem_cons_of_mem _ hm', hx⟩
  | advisory a _ => exact ⟨hl.locked, hstart, hsnap, hdrawn, hunique⟩
  | fresh i _ hi =>
    refine ⟨hl.locked, hstart, hsnap, fun j hj => ?_, hunique⟩
    rcases List.mem_cons.mp hj with rfl | hj
    · exact hi
    · exact hdrawn j hj
  | write k v ls _ _ hmay _ hv =>
    refine ⟨fun w hw => ?_, hstart, hsnap, hdrawn, ?_⟩
    swap
    · rw [hview]
      exact hl.unique.set hv
    rcases List.mem_cons.mp hw with rfl | hw
    · simp only [mayWrite, List.any_eq_true, Bool.and_eq_true, decide_eq_true_eq] at hmay
      obtain ⟨⟨k', m⟩, hm, rfl, hx⟩ := hmay
      refine ⟨m, hm, ?_⟩
      cases v with
      | none => simp_all [LockMode.exclusive]
      | some r => simpa using hx
    · obtain ⟨m, hm, hx⟩ := hl.locked w hw
      exact ⟨m, List.mem_append_right _ hm, hx⟩

lemma Compat.grow {index : (k : Key) → Row k → List Idx} {others : List (Local Row Adv)}
    {g g' : Shared Row Adv Job Out} {l l' o : Local Row Adv} (hc : Compat index l o) (ho : o ∈ others)
    (hdrawn : ∀ i ∈ o.drawn, i ∈ g.used) (h : Grow index others g g' l l') : Compat index l' o := by
  cases h with
  | same => exact hc
  | snapshot => exact ⟨hc.locks, hc.advisory, hc.writes, hc.drawn⟩
  | lock k m hm =>
    refine ⟨fun k₁ m₁ m₂ h₁ h₂ => ?_, hc.advisory, hc.writes, hc.drawn⟩
    rcases List.mem_cons.mp h₁ with h₁ | h₁
    · obtain ⟨rfl, rfl⟩ := Prod.mk.inj h₁
      rw [LockMode.conflicts_comm]
      exact lockedByOther_eq_false hm ho h₂
    · exact hc.locks k₁ m₁ m₂ h₁ h₂
  | advisory a ha =>
    refine ⟨hc.locks, fun b hb => ?_, hc.writes, hc.drawn⟩
    rcases List.mem_cons.mp hb with rfl | hb
    · exact ha o ho
    · exact hc.advisory b hb
  | fresh i hi _ =>
    refine ⟨hc.locks, hc.advisory, hc.writes, fun j hj ho' => ?_⟩
    rcases List.mem_cons.mp hj with rfl | hj
    · exact hi (hdrawn j ho')
    · exact hc.drawn j hj ho'
  | write k v ls hls hform _ hp _ =>
    refine ⟨fun k₁ m₁ m₂ h₁ h₂ => ?_, hc.advisory, fun w hw w' hw' i hi => ?_, hc.drawn⟩
    · replace h₁ : (k₁, m₁) ∈ ls ++ l.locks := h₁
      rcases List.mem_append.mp h₁ with h₁ | h₁
      · have hk : k₁ = k := by
          rcases hform with rfl | rfl
          · cases h₁
          · exact (Prod.mk.inj (List.mem_singleton.mp h₁)).1
        rw [LockMode.conflicts_comm]
        exact lockedByOther_eq_false (hls m₁ (hk ▸ h₁)) ho (hk ▸ h₂)
      · exact hc.locks k₁ m₁ m₂ h₁ h₂
    · rcases List.mem_cons.mp hw with rfl | hw
      · exact (pendingByOther_eq_false hp ho hw').2 i hi
      · exact hc.writes w hw w' hw' i hi

variable [DecidableEq Adv]

lemma exec_grow {sys : System Row Adv Idx ε Job Out} {others : List (Local Row Adv)} {choice : Nat}
    {o : Op Row Adv} {l l' : Local Row Adv} {g g' : Shared Row Adv Job Out} {x : o.Res}
    (h : exec sys.index others choice o l g = some (x, l', g')) :
    Grow sys.index others g g' l l' ∧ Shift sys g g' := by
  have same : Shift sys g g := ⟨rfl, rfl, Nat.le_refl _, List.Subset.refl _, .inl rfl⟩
  have insertion : ∀ g' k r, pendingByOther sys.index g.db others k (sys.index k r) = false →
      collision sys.index (g.view l) k r = none → lockedByOther others k .update = false →
      Grow sys.index others g g' l
        { l with locks := (k, .update) :: l.locks, writes := ⟨k, some r⟩ :: l.writes } := by
    intro g' k r hp hc hl
    refine .write k (some r) [(k, .update)] (fun m hm => ?_) (.inr rfl) (mayWrite_of_update l k _) hp
      (violation_of_collision hc).2
    simp only [List.mem_singleton, Prod.mk.injEq] at hm
    rw [hm.2, hl]
  cases o with
  | snapshot =>
    cases h
    exact ⟨.snapshot, same⟩
  | lock k m =>
    simp only [exec] at h
    split at h
    · cases h
    · rename_i hl
      cases h
      refine ⟨?_, same⟩
      split
      · exact .lock k m (by simpa using hl)
      · exact .same
  | write k v =>
    simp only [exec] at h
    split at h
    · cases h
    · rename_i hw
      simp only [not_or, Bool.not_eq_false, Bool.not_eq_true] at hw
      split at h
      · cases h
        exact ⟨.same, same⟩
      · rename_i hv
        cases h
        exact ⟨.write k v [] (by simp) (.inl rfl) hw.1 hw.2 hv, same⟩
  | insert k r =>
    simp only [exec] at h
    split at h
    · cases h
    · rename_i hp
      split at h
      · cases h
        exact ⟨.same, same⟩
      · rename_i hc
        split at h
        · cases h
        · rename_i hl
          cases h
          exact ⟨insertion _ k r (by simpa using hp) hc (by simpa using hl), same⟩
  | upsert k r m =>
    simp only [exec] at h
    split at h
    · cases h
    · rename_i hp
      split at h
      · split at h
        · cases h
        · rename_i hl
          cases h
          exact ⟨.lock _ m (by simpa using hl), same⟩
      · rename_i hc
        split at h
        · cases h
        · rename_i hl
          cases h
          exact ⟨insertion _ k r (by simpa using hp) hc (by simpa using hl), same⟩
  | advisory a =>
    simp only [exec] at h
    split at h
    · cases h
    · rename_i ha
      cases h
      exact ⟨.advisory a (by simpa using ha), same⟩
  | nextval =>
    cases h
    exact ⟨.same, rfl, rfl, Nat.le_succ _, List.Subset.refl _, .inl rfl⟩
  | clock =>
    cases h
    exact ⟨.same, same⟩
  | fresh =>
    simp only [exec] at h
    split at h
    · cases h
    · cases h
      rename_i hu
      exact ⟨.fresh choice hu List.mem_cons_self, rfl, rfl, Nat.le_refl _, List.subset_cons_self _ _, .inl rfl⟩
  | pick =>
    cases h
    exact ⟨.same, same⟩

end Requests

lemma Coherent.commit [DecidableEq Key] {index : (k : Key) → Row k → List Idx} {l : Local Row Adv}
    {g : Shared Row Adv Job Out} {e : Entry Row Adv Job Out} (hl : Coherent index l g)
    (he : Coherent index e.ran g) (hc : Compat index l e.ran) : Coherent index l (g.commit e) where
  locked := hl.locked
  start_le := by
    have := hl.start_le
    simp only [Shared.csn_commit]
    omega
  snapshots n hn := by
    have := hl.snapshots n hn
    simp only [Shared.csn_commit]
    omega
  drawn := hl.drawn
  unique := by
    -- a row is written by `l`, or by `e` only, or by neither
    have key : ∀ k i, i ∈ entries index k (((g.commit e).view l).get k) →
        (i ∈ entries index k ((g.view l).get k)) ∧
          ((∃ w ∈ l.writes, w.key = k ∧ i ∈ entries index w.key w.value) ∨
            i ∈ entries index k ((g.view e.ran).get k)) ∨
        (∃ w ∈ e.ran.writes, w.key = k ∧ i ∈ entries index w.key w.value) ∧
          i ∈ entries index k ((g.view e.ran).get k) := by
      intro k i hi
      rw [Shared.view, Shared.db_commit] at hi
      by_cases hk : k ∈ l.writes.map Write.key
      · obtain ⟨v, hv, hs⟩ := Store.get_apply_of_mem hk
        rw [hs] at hi
        exact .inl ⟨by rwa [Shared.view, hs], .inl ⟨_, hv, rfl, hi⟩⟩
      · rw [Store.get_apply_of_notMem _ hk] at hi
        by_cases hk' : k ∈ e.ran.writes.map Write.key
        · obtain ⟨v, hv, hs⟩ := Store.get_apply_of_mem hk'
          refine .inr ⟨⟨_, hv, rfl, ?_⟩, hi⟩
          rwa [Shared.view, hs] at hi
        · refine .inl ⟨?_, .inr hi⟩
          rwa [Shared.view, Store.get_apply_of_notMem _ hk, ← Store.get_apply_of_notMem _ hk']
    intro k k' i hi hi'
    rcases key k i hi with ⟨h, ho⟩ | ⟨h, ho⟩ <;> rcases key k' i hi' with ⟨h', ho'⟩ | ⟨h', ho'⟩
    · exact hl.unique k k' i h h'
    · obtain ⟨w', hw', rfl, hm'⟩ := h'
      rcases ho with ⟨w, hw, rfl, hm⟩ | ho
      · exact absurd hm' (hc.writes w hw w' hw' i hm)
      · exact he.unique k _ i ho ho'
    · obtain ⟨w, hw, rfl, hm⟩ := h
      rcases ho' with ⟨w', hw', rfl, hm'⟩ | ho'
      · exact absurd hm (hc.writes w' hw' w hw i hm')
      · exact he.unique _ k' i ho ho'
    · exact he.unique k k' i ho ho'

section Reachable

lemma State.mem_of_find {s : State Row Adv ε Job Out} {id : Nat} {t : Tx Row Adv ε Job Out}
    (h : s.find id = some t) : t ∈ s.txs ∧ t.id = id :=
  ⟨List.mem_of_find?_eq_some h, by simpa using List.find?_some h⟩

lemma State.mem_others {s : State Row Adv ε Job Out} {id : Nat} {t : Tx Row Adv ε Job Out} :
    t ∈ s.others id ↔ t ∈ s.txs ∧ t.id ≠ id := by
  simp [State.others]

variable [DecidableEq Key] {sys : System Row Adv Idx ε Job Out} {C : Contract sys}

lemma History.unique {g : Shared Row Adv Job Out} (h : History C g) : Unique sys.index g.db := by
  induction h with
  | init hi =>
    have hlog := C.log_init _ hi
    simpa [Shared.db, Shared.version, hlog] using C.unique_init _ hi
  | shift _ hs ih => rwa [hs.db]
  | commit _ hc _ =>
    rw [Shared.db_commit]
    exact hc.coherent.unique

lemma History.coherent_begin {g : Shared Row Adv Job Out} (h : History C g) :
    Coherent sys.index (Local.begin g) g where
  locked := by simp [Local.begin]
  start_le := Nat.le_refl _
  snapshots := by simp [Local.begin]
  drawn := by simp [Local.begin]
  unique := h.unique

variable [DecidableEq Adv] [DecidableEq Idx]

lemma Returns.of_rely {p : Prog Row Adv ε' α} {l l' : Local Row Adv} {g g₁ g' : Shared Row Adv Job Out}
    {r : Except ε' α} (hr : Rely C l g g₁) (h : Returns C p l g₁ r l' g') : Returns C p l g r l' g' := by
  cases p with
  | ret a => exact ⟨h.1, h.2.1, hr.trans h.2.2⟩
  | fail e => exact ⟨h.1, h.2.1, hr.trans h.2.2⟩
  | op o k =>
    obtain ⟨g₂, others, choice, x, l₁, g₃, hr', hx⟩ := h
    exact ⟨g₂, others, choice, x, l₁, g₃, hr.trans hr', hx⟩

/-- How a transaction may end: it commits as `Ok` says or fails as `Fails` allows. -/
def Contract.Ends (C : Contract sys) (job : Job) (r : Except ε Out) (l : Local Row Adv)
    (g : Shared Row Adv Job Out) : Prop :=
  match r with
  | .ok out => C.Ok ⟨job, out, l⟩ g
  | .error e => C.Fails job e

/-- What holds of a running transaction: whatever happens until its end, it ends as it may. -/
structure Running (C : Contract sys) (g : Shared Row Adv Job Out) (t : Tx Row Adv ε Job Out) : Prop where
  coherent : Coherent sys.index t.ran g
  ends : ∀ r l' g', Returns C t.prog t.ran g r l' g' → C.Ends t.job r l' g'

structure Sound (C : Contract sys) (s : State Row Adv ε Job Out) : Prop where
  history : History C s.shared
  compat : s.txs.Pairwise fun t t' => Compat sys.index t.ran t'.ran
  running : ∀ t ∈ s.txs, Running C s.shared t

lemma Sound.fails {s : State Row Adv ε Job Out} (hs : Sound C s) {t : Tx Row Adv ε Job Out} {e : ε}
    (ht : t ∈ s.txs) (hp : t.prog = .fail e) : C.Fails t.job e := by
  refine (hs.running t ht).ends (.error e) t.ran s.shared ?_
  rw [hp]
  exact ⟨rfl, rfl, .refl⟩

lemma Running.shift {g g' : Shared Row Adv Job Out} {t : Tx Row Adv ε Job Out}
    (ht : Running C g t) (h : Shift sys g g') (hg : History C g') : Running C g' t where
  coherent := ht.coherent.shift h
  ends r l' g₁ hr := ht.ends r l' g₁ (hr.of_rely (.single (.shift h hg)))

lemma Running.commit {g : Shared Row Adv Job Out} {t : Tx Row Adv ε Job Out}
    {e : Entry Row Adv Job Out} (ht : Running C g t) (he : Commits C e g)
    (hc : Compat sys.index t.ran e.ran) (hguard : C.Guard t.ran e g) (hg : History C (g.commit e)) :
    Running C (g.commit e) t where
  coherent := ht.coherent.commit he.coherent hc
  ends r l' g₁ hr := ht.ends r l' g₁ (hr.of_rely (.single
    (.commit he hc hguard hg (ht.coherent.commit he.coherent hc))))

lemma Sound.compat_others {s : State Row Adv ε Job Out} (hs : Sound C s) {id : Nat}
    {t o : Tx Row Adv ε Job Out} (ht : s.find id = some t) (ho : o ∈ s.others id) :
    Compat sys.index t.ran o.ran := by
  obtain ⟨htm, hid⟩ := State.mem_of_find ht
  obtain ⟨hom, hne⟩ := State.mem_others.mp ho
  have hsymm : Std.Symm fun t t' : Tx Row Adv ε Job Out => Compat sys.index t.ran t'.ran :=
    ⟨fun _ _ h => h.symm⟩
  refine hs.compat.forall htm hom fun h => hne ?_
  rw [← h, hid]

lemma Sound.others {s : State Row Adv ε Job Out} (hs : Sound C s) (id : Nat) :
    (s.others id).Pairwise fun t t' => Compat sys.index t.ran t'.ran :=
  hs.compat.sublist List.filter_sublist

/-- What a schedule condition has to give for the contract's assumptions. -/
def Contract.Assumes (C : Contract sys) (cond : State Row Adv ε Job Out → Label Job → Prop) : Prop :=
  ∀ s id t out, cond s (.commit id) → s.find id = some t → t.prog = .ret out →
    C.Assume ⟨t.job, out, t.ran⟩ s.shared ∧
      ∀ o ∈ s.others id, C.Guard o.ran ⟨t.job, out, t.ran⟩ s.shared

/-- What it has to give for the requests. -/
def Contract.Requests (C : Contract sys) (cond : State Row Adv ε Job Out → Label Job → Prop) : Prop :=
  ∀ s id choice t o k, cond s (.exec id choice) → s.find id = some t → t.prog = .op o k → C.Request o t.ran s.shared

/-- What a program proof has to give: under interference, every program ends as the contract says. -/
def Contract.Programs (C : Contract sys) : Prop :=
  ∀ j g, History C g → ∀ r l' g', Returns C (sys.prog j) (Local.begin g) g r l' g' → C.Ends j r l' g'

variable {cond : State Row Adv ε Job Out → Label Job → Prop}

/-- One step of the server keeps the contract for all that runs. -/
lemma Sound.step (hcond : C.Assumes cond) (hrequest : C.Requests cond) (hprog : C.Programs) {s s' : State Row Adv ε Job Out}
    {lab : Label Job} (hs : Sound C s) (hlab : cond s lab) (h : sys.step s lab = some s') :
    Sound C s' := by
  cases lab with
  | start id job =>
    simp only [System.step] at h
    split at h
    · cases h
    · cases h
      refine ⟨hs.history, List.pairwise_cons.mpr ⟨fun t ht => ?_, hs.compat⟩, fun t ht => ?_⟩
      · exact ⟨by simp [Local.begin], by simp [Local.begin], by simp [Local.begin], by simp [Local.begin]⟩
      · rcases List.mem_cons.mp ht with rfl | ht
        · exact ⟨hs.history.coherent_begin, hprog job s.shared hs.history⟩
        · exact hs.running t ht
  | exec id choice =>
    simp only [System.step] at h
    split at h
    · rename_i id' job o k ran hf
      obtain ⟨⟨x, l', g'⟩, hx, rfl⟩ := Option.map_eq_some_iff.mp h
      have hrun := hs.running _ (State.mem_of_find hf).1
      obtain ⟨hgrow, hshift⟩ := exec_grow hx
      have hco : Coherent sys.index l' g' := hrun.coherent.grow hgrow hshift.csn hshift.db hshift.used
      have hg : History C g' := hs.history.shift hshift
      refine ⟨hg, List.pairwise_cons.mpr ⟨fun t ht => ?_, hs.others id⟩, fun t ht => ?_⟩
      · exact (hs.compat_others hf ht).grow (List.mem_map_of_mem ht)
          (hs.running t (State.mem_others.mp ht).1).coherent.drawn hgrow
      · rcases List.mem_cons.mp ht with rfl | ht
        · refine ⟨hco, fun r l₁ g₁ hr => hrun.ends r l₁ g₁ ?_⟩
          exact ⟨_, _, _, x, l', g', .refl, hx, hco, hg, hrequest s id choice _ o k hlab hf rfl, hr⟩
        · exact (hs.running t (State.mem_others.mp ht).1).shift hshift hg
    · cases h
  | commit id =>
    simp only [System.step] at h
    split at h
    · rename_i id' job out ran hf
      cases h
      have hrun := hs.running _ (State.mem_of_find hf).1
      obtain ⟨hassume, hguard⟩ := hcond s id _ out hlab hf rfl
      have he : Commits C ⟨job, out, ran⟩ s.shared :=
        ⟨hrun.coherent, hrun.ends (.ok out) ran s.shared ⟨rfl, rfl, .refl⟩, hassume⟩
      have hg : History C (s.shared.commit ⟨job, out, ran⟩) := hs.history.commit he
      refine ⟨hg, hs.others id, fun t ht => ?_⟩
      exact (hs.running t (State.mem_others.mp ht).1).commit he (hs.compat_others hf ht).symm
        (hguard t ht) hg
    · cases h
  | abort id =>
    cases h
    exact ⟨hs.history, hs.others id, fun t ht => hs.running t (State.mem_others.mp ht).1⟩
  | tick time =>
    simp only [System.step] at h
    split at h
    · rename_i ht
      cases h
      have hshift : Shift sys s.shared { s.shared with now := time } :=
        ⟨rfl, rfl, Nat.le_refl _, List.Subset.refl _, .inr ht⟩
      have hg := hs.history.shift hshift
      exact ⟨hg, hs.compat, fun t ht => (hs.running t ht).shift hshift hg⟩
    · cases h

/-- Every state that a run reaches under the schedule condition keeps the contract, if each program
does when it runs alone under interference that keeps it. -/
theorem reachable_sound (hcond : C.Assumes cond) (hprog : C.Programs) {s : State Row Adv ε Job Out}
    (h : sys.ReachableWhere cond C.Init s)
    (hrequest : C.Requests cond := by exact fun _ _ _ _ _ _ _ _ _ => trivial) : Sound C s := by
  induction h with
  | init hg => exact ⟨.init hg, .nil, by simp⟩
  | step lab _ hlab hstep ih => exact ih.step hcond hrequest hprog hlab hstep

end Reachable

end JamyeServer.ReadCommitted
