import JamyeServer.ReadCommitted.Statement

/-!
# How programs fail

`FailsIn` bounds the errors of a program by its text. The rules below it say what a statement has met
when it fails with a unique violation.
-/

namespace JamyeServer.ReadCommitted

variable {Key : Type} {Row : Key → Type} {Adv Idx Job Out ε ε₁ ε₂ α β ι : Type}

/-- All errors of the program satisfy `P`. -/
def Prog.FailsIn (P : ε₁ → Prop) : Prog Row Adv ε₁ α → Prop
  | .ret _ => True
  | .fail e => P e
  | .op _ k => ∀ r, (k r).FailsIn P

namespace Prog

variable {P : ε₁ → Prop}

lemma FailsIn.bind {p : Prog Row Adv ε₁ α} {f : α → Prog Row Adv ε₁ β} (hp : p.FailsIn P)
    (hf : ∀ a, (f a).FailsIn P) : (p >>= f).FailsIn P := by
  change (p.bind f).FailsIn P
  induction p with
  | ret a => exact hf a
  | fail e => exact hp
  | op o k ih => exact fun r => ih r (hp r)

lemma FailsIn.mapError {p : Prog Row Adv ε₁ α} {f : ε₁ → ε₂} {Q : ε₂ → Prop}
    (hp : p.FailsIn fun e => Q (f e)) : (p.mapError f).FailsIn Q := by
  induction p with
  | ret a => trivial
  | fail e => exact hp
  | op o k ih => exact fun r => ih r (hp r)

lemma FailsIn.mono {p : Prog Row Adv ε₁ α} {Q : ε₁ → Prop} (hp : p.FailsIn P) (h : ∀ e, P e → Q e) :
    p.FailsIn Q := by
  induction p with
  | ret a => trivial
  | fail e => exact h e hp
  | op o k ih => exact fun r => ih r (hp r)

lemma failsIn_of_forall {p : Prog Row Adv ε₁ α} (h : ∀ e, P e) : p.FailsIn P := by
  induction p with
  | ret a => trivial
  | fail e => exact h e
  | op o k ih => exact fun r => ih r

lemma failsIn_op {o : Op Row Adv} : (Prog.op o .ret : Prog Row Adv ε₁ o.Res).FailsIn P := fun _ => trivial

lemma failsIn_each {f : β → Prog Row Adv ε₁ Unit} {bs : List β} (hf : ∀ b, (f b).FailsIn P) :
    (each f bs).FailsIn P := by
  induction bs with
  | nil => trivial
  | cons b bs ih => exact (hf b).bind fun _ => ih

lemma failsIn_collect {f : β → Prog Row Adv ε₁ (Option α)} {bs : List β} (hf : ∀ b, (f b).FailsIn P) :
    (collect f bs).FailsIn P := by
  induction bs with
  | nil => trivial
  | cons b bs ih => exact (hf b).bind fun _ => ih.bind fun _ => trivial

lemma failsIn_first {f : β → Prog Row Adv ε₁ (Option α)} {bs : List β} (hf : ∀ b, (f b).FailsIn P) :
    (first f bs).FailsIn P := by
  induction bs with
  | nil => trivial
  | cons b bs ih =>
    refine (hf b).bind fun a => ?_
    cases a with
    | some a => trivial
    | none => exact ih

lemma failsIn_shuffle {bs : List β} : (shuffle bs : Prog Row Adv ε₁ (List β)).FailsIn P := by
  induction bs with
  | nil => trivial
  | cons b bs ih => exact ih.bind fun _ _ => trivial

lemma failsIn_select {q : Store Row → α} : (select q : Prog Row Adv ε₁ α).FailsIn P := fun _ => trivial

lemma failsIn_reread {changed : Bool} {t : Nat} : (reread changed t : Prog Row Adv ε₁ Nat).FailsIn P := by
  unfold reread
  split
  · exact fun _ => trivial
  · trivial

lemma failsIn_visit {m : LockMode} {k : Key} : (visit m k : Prog Row Adv ε₁ (Option (Row k × Nat))).FailsIn P := by
  refine .bind failsIn_op fun t => .bind failsIn_op fun r => ?_
  cases r with
  | none => trivial
  | some r => exact .bind failsIn_reread fun _ => trivial

lemma failsIn_lockRow {m : LockMode} {k : Key} {f : Nat → Row k → Option α} :
    (lockRow m k f : Prog Row Adv ε₁ (Option α)).FailsIn P := by
  refine .bind failsIn_visit fun r => ?_
  cases r <;> trivial

lemma failsIn_selectFor {m : LockMode} {T : Table Key ι} {q : Store Row → List ι}
    {f : Store Row → (i : ι) → Nat → Row (T.key i) → Option α} :
    (selectFor m T q f : Prog Row Adv ε₁ (List α)).FailsIn P :=
  fun _ => failsIn_collect fun _ => failsIn_lockRow

lemma failsIn_changeRow {m : LockMode} {k : Key} {f : Nat → Row k → Option (Option (Row k) × α)} {e : ε₁}
    (he : P e) : (changeRow m k f e : Prog Row Adv ε₁ (Option α)).FailsIn P := by
  refine .bind failsIn_visit fun r => ?_
  cases r with
  | none => trivial
  | some r =>
    dsimp only
    split
    · trivial
    · intro x
      cases x with
      | none => trivial
      | some k => exact he

lemma failsIn_change {m : LockMode} {T : Table Key ι} {q : Store Row → List ι}
    {f : Store Row → (i : ι) → Nat → Row (T.key i) → Option (Option (Row (T.key i)) × α)} {e : ε₁}
    (he : P e) : (change m T q f e : Prog Row Adv ε₁ (List α)).FailsIn P :=
  fun _ => failsIn_shuffle.bind fun _ => failsIn_collect fun _ => failsIn_changeRow he

lemma failsIn_ensure {c : Prop} [Decidable c] {e : ε₁} (he : P e) :
    (ensure c e : Prog Row Adv ε₁ Unit).FailsIn P := by
  unfold ensure
  split
  · trivial
  · exact he

lemma failsIn_ofOption {o : Option α} {e : ε₁} (he : P e) : (ofOption o e : Prog Row Adv ε₁ α).FailsIn P := by
  cases o with
  | none => exact he
  | some a => trivial

lemma failsIn_references {e : ε₁} {ps : List Key} (he : P e) :
    (references e ps : Prog Row Adv ε₁ Unit).FailsIn P := by
  refine failsIn_each fun k r => ?_
  cases r with
  | none => exact he
  | some r => trivial

lemma failsIn_insertRow {k : Key} {row : Row k} {parents : List Key} {e : ε₁} (he : P e) :
    (insertRow k row parents e : Prog Row Adv ε₁ Unit).FailsIn P := by
  intro r
  cases r with
  | none => exact failsIn_references he
  | some _ => exact he

lemma failsIn_insertOrSkip {k : Key} {row : Row k} {parents : List Key} {e : ε₁} (he : P e) :
    (insertOrSkip k row parents e : Prog Row Adv ε₁ Bool).FailsIn P := by
  intro r
  cases r with
  | none => exact (failsIn_references he).bind fun _ => trivial
  | some _ => trivial

end Prog

variable [DecidableEq Key] [DecidableEq Adv] [DecidableEq Idx] {sys : System Row Adv Idx ε Job Out}
  {C : Contract sys} {l l' L : Local Row Adv} {g g' G : Shared Row Adv Job Out}

lemma Returns.failsIn {p : Prog Row Adv ε₁ α} {P : ε₁ → Prop} {e : ε₁} (h : Returns C p l g (.error e) l' g')
    (hp : p.FailsIn P) : P e := by
  induction p generalizing l g with
  | ret a => cases h.1
  | fail e' =>
    obtain ⟨he, -⟩ := h
    cases he
    exact hp
  | op o k ih =>
    obtain ⟨g₁, others, choice, x, l₁, g₂, -, -, -, -, -, hk⟩ := h
    exact ih x hk (hp x)

lemma Runs.failsIn {p : Prog Row Adv ε₁ α} {P : ε₁ → Prop} {e : ε₁} (h : Runs C p l g (.error e) l' g' L G)
    (hp : p.FailsIn P) : P e := h.returns.failsIn hp

omit [DecidableEq Adv] in
lemma violation_eq_some {index : (k : Key) → Row k → List Idx} {s : Store Row} {k k' : Key} {is : List Idx}
    (h : violation index s k is = some k') : k' ≠ k ∧ ∃ i ∈ is, i ∈ entries index k' (s.get k') := by
  have hk := List.find?_some h
  simpa only [Bool.and_eq_true, decide_eq_true_eq, List.any_eq_true] using hk

/-- A row cannot be inserted when its key or one of its index entries is taken. -/
lemma collision_ne_none {index : (k : Key) → Row k → List Idx} {s : Store Row} {k : Key} {row : Row k}
    (h : collision index s k row ≠ none) :
    s.get k ≠ none ∨ ∃ k', k' ≠ k ∧ ∃ i ∈ index k row, i ∈ entries index k' (s.get k') := by
  unfold collision at h
  split at h
  · rename_i hk
    exact .inl (Option.isSome_iff_ne_none.mp hk)
  · obtain ⟨k', hk'⟩ := Option.ne_none_iff_exists'.mp h
    exact .inr ⟨k', violation_eq_some hk'⟩

/-- A write fails when another row of the database has one of the new index entries. -/
lemma Runs.write_violation {k k' : Key} {v : Option (Row k)}
    (h : Runs C (.write k v) l g (.ok (some k') : Except ε₁ _) l' g' L G) :
    ∃ n, g.csn ≤ n ∧ n ≤ g'.csn ∧
      violation sys.index ((G.version n).apply l.writes) k (entries sys.index k v) = some k' := by
  obtain ⟨g₁, g₂, others, choice, h₁, hx, h₂⟩ := h.op
  simp only [exec] at hx
  split at hx
  · cases hx
  · split at hx
    · rename_i k'' hv
      cases hx
      refine ⟨g₁.csn, h₁.later.csn_le, h₂.later.csn_le, ?_⟩
      rw [(h₂.trans h.rest).later.version (Nat.le_refl _)]
      exact hv
    · cases hx

lemma Runs.not_visit_error {m : LockMode} {k : Key} {e : ε₁} : ¬ Runs C (.visit m k) l g (.error e) l' g' L G :=
  fun h => h.failsIn (P := fun _ => False) Prog.failsIn_visit

lemma Runs.changeRow_error {m : LockMode} {k : Key} {f : Nat → Row k → Option (Option (Row k) × α)} {e e' : ε₁}
    (h : Runs C (.changeRow m k f e) l g (.error e') l' g' L G) (hm : m ≠ .keyShare) :
    ∃ t r v a n k', (G.db.apply l.writes).get k = some r ∧ f t r = some (v, a) ∧ g.csn ≤ n ∧ n ≤ g'.csn ∧
      violation sys.index ((G.version n).apply l.writes) k (entries sys.index k v) = some k' := by
  unfold Prog.changeRow at h
  rcases h.bind_error with h₁ | ⟨x, l₁, g₁, h₁, h₂⟩
  · exact (not_visit_error h₁).elim
  obtain ⟨rfl, rfl, -⟩ | ⟨r, t, rfl, -, rfl, hget⟩ := h₁.visit
  · exact (not_ret_error h₂).elim
  dsimp only at h₂
  split at h₂
  · exact (not_ret_error h₂).elim
  · rename_i v a hf
    rcases h₂.bind_error with h₅ | ⟨y, l₃, g₃, h₅, h₆⟩
    · exact (not_op_error h₅).elim
    cases y with
    | none => exact (not_ret_error h₆).elim
    | some k' =>
      obtain ⟨j, hj, hj', hv⟩ := h₅.write_violation
      refine ⟨t, r, v, a, j, k', hget hm, hf, ?_, ?_, hv⟩
      · exact Nat.le_trans h₁.returns.evolve.later.csn_le hj
      · exact Nat.le_trans hj' h₆.returns.evolve.later.csn_le

/-- A statement that writes rows fails at one of them, after it has changed those before it. -/
lemma Runs.changeRows_error {m : LockMode} {key : ι → Key}
    {f : (i : ι) → Nat → Row (key i) → Option (Option (Row (key i)) × α)} {e e' : ε₁} {is : List ι}
    (h : Runs C (.changeRows m key f e is) l g (.error e') l' g' L G) (hkey : Function.Injective key)
    (hm : m ≠ .keyShare) (hnd : is.Nodup) :
    ∃ before i after as ws l₁ g₁, is = before ++ i :: after ∧ Evolve C l g l₁ g₁ ∧
      ChangedRows C m key f before l g as ws l₁ g₁ G ∧ Runs C (.changeRow m (key i) (f i) e) l₁ g₁ (.error e') l' g' L G := by
  unfold Prog.changeRows at h
  induction is generalizing l g with
  | nil => exact (not_ret_error h).elim
  | cons i is ih =>
    rcases h.bind_error with h₁ | ⟨a, l₁, g₁, h₁, h₂⟩
    · exact ⟨[], i, is, [], [], l, g, rfl, .refl, ⟨rfl, by simp, by simp, by simp, by simp⟩, h₁⟩
    rcases h₂.bind_error with h₃ | ⟨bs, l₂, g₂, h₃, h₄⟩
    · rw [List.nodup_cons] at hnd
      obtain ⟨before, j, after, as, ws, l₂, g₂, rfl, hev, hrest, herr⟩ := ih h₃ hnd.2
      have hnew : i ∉ before := fun hi => hnd.1 (List.mem_append_left _ hi)
      obtain ⟨ws', hall⟩ := hrest.cons hkey hm hnew h₁ hev.locks hev.later
      exact ⟨i :: before, j, after, _, ws', l₂, g₂, rfl, h₁.returns.evolve.trans hev, hall, herr⟩
    · exact (not_ret_error h₄).elim

/-- An update fails at a row that another row of the database, or of the update, shares an index entry with. -/
lemma Runs.update_error {T : Table Key ι} {q : Store Row → List ι}
    {f : Store Row → (j : ι) → Nat → Row (T.key j) → Option (Row (T.key j) × α)} {e e' : ε₁}
    (h : Runs C (.update T q f e) l g (.error e') l' g' L G) (hq : ∀ s, (q s).Nodup) :
    ∃ gs before i as ws l₁ g₁, Later C g gs ∧ i ∉ before ∧
      (∀ j, j = i ∨ j ∈ before → j ∈ q ((G.version gs.csn).apply l.writes)) ∧
      ChangedRows C .noKeyUpdate T.key
        (fun j t r => (f ((G.version gs.csn).apply l.writes) j t r).map fun x => (some x.1, x.2)) before
        { l with snapshots := gs.csn :: l.snapshots } gs as ws l₁ g₁ G ∧
      ∃ t r r' a n k', (G.db.apply l₁.writes).get (T.key i) = some r ∧
        f ((G.version gs.csn).apply l.writes) i t r = some (r', a) ∧ gs.csn ≤ n ∧ n ≤ g'.csn ∧
        violation sys.index ((G.version n).apply l₁.writes) (T.key i) (entries sys.index (T.key i) (some r')) = some k' := by
  unfold Prog.update Prog.change at h
  rcases h.bind_error with h₁ | ⟨s, l₁, g₁, h₁, hrest⟩
  · exact (not_op_error h₁).elim
  obtain ⟨gs, hgs, hgs', rfl, rfl⟩ := h₁.snapshot
  rcases hrest.bind_error with h₂ | ⟨is, l₂, g₂, h₂, h₃⟩
  · exact (h₂.failsIn (P := fun _ => False) Prog.failsIn_shuffle).elim
  obtain ⟨hp, rfl⟩ := h₂.shuffle
  have hg₂ : Later C gs g₂ := hgs'.trans h₂.returns.evolve.later
  have hnd : is.Nodup := hp.nodup_iff.mpr (hq _)
  obtain ⟨before, i, after, as, ws, l₃, g₃, rfl, hev, hch, herr⟩ := h₃.changeRows_error T.key_injective nofun hnd
  obtain ⟨t, r, v, a, n, k', hget, hf, hn, hn', hv⟩ := herr.changeRow_error nofun
  obtain ⟨⟨r', b⟩, hf', hx⟩ := Option.map_eq_some_iff.mp hf
  cases hx
  have hnew : i ∉ before := by
    rw [List.nodup_append] at hnd
    exact fun hi => hnd.2.2 i hi i List.mem_cons_self rfl
  refine ⟨gs, before, i, as, ws, l₃, g₃, hgs, hnew, fun j hj => hp.mem_iff.mp ?_, hch.since hg₂, t, r, r', b, n, k',
    hget, hf', Nat.le_trans (hg₂.trans hev.later).csn_le hn, hn', hv⟩
  rcases hj with rfl | hj
  · simp
  · simp [hj]

/-- An update of one row fails when another row has an index entry of the new version. -/
lemma Runs.update_one_error {T : Table Key ι} {i : ι} {p : Row (T.key i) → Bool}
    {f : Store Row → (j : ι) → Nat → Row (T.key j) → Option (Row (T.key j) × α)} {e e' : ε₁}
    (h : Runs C (.update T (fun s => s.one T i p) f e) l g (.error e') l' g' L G) :
    ∃ s t r r' a n k', (G.db.apply l.writes).get (T.key i) = some r ∧ f s i t r = some (r', a) ∧ g.csn ≤ n ∧
      n ≤ g'.csn ∧ violation sys.index ((G.version n).apply l.writes) (T.key i)
        (entries sys.index (T.key i) (some r')) = some k' := by
  obtain ⟨gs, before, j, as, ws, l₁, g₁, hgs, hnew, hin, hch, t, r, r', a, n, k', hget, hf, hn, hn', hv⟩ :=
    h.update_error fun s => s.nodup_one ..
  have hone : ∀ k, k = j ∨ k ∈ before → k = i := fun k hk => (Store.mem_one.mp (hin k hk)).1
  obtain rfl := hone j (.inl rfl)
  have hbefore : before = [] := by
    refine List.eq_nil_iff_forall_not_mem.mpr fun k hk => ?_
    rw [hone k (.inr hk)] at hk
    exact hnew hk
  subst hbefore
  have hws : ws = [] := by
    refine List.eq_nil_iff_forall_not_mem.mpr fun w hw => ?_
    obtain ⟨k, hk, -⟩ := hch.mem w hw
    cases hk
  have hl₁ : l₁.writes = l.writes := by rw [hch.frame, hws, List.nil_append]
  rw [hl₁] at hget hv
  exact ⟨_, t, r, r', a, n, k', hget, hf, Nat.le_trans hgs.csn_le hn, hn', hv⟩

/-- A write of a locked row collides in an index entry that the row did not have before. -/
lemma Runs.changeRow_collides {m : LockMode} {k : Key} {f : Nat → Row k → Option (Option (Row k) × α)} {e e' : ε₁}
    (hl : Coherent sys.index l g) (h : Runs C (.changeRow m k f e) l g (.error e') l' g' L G) (hm : m ≠ .keyShare) :
    ∃ t r v a n k' i, (G.db.apply l.writes).get k = some r ∧ f t r = some (v, a) ∧ g.csn ≤ n ∧ n ≤ g'.csn ∧ k' ≠ k ∧
      i ∈ entries sys.index k v ∧ i ∉ sys.index k r ∧
      i ∈ entries sys.index k' (((G.version n).apply l.writes).get k') := by
  unfold Prog.changeRow at h
  rcases h.bind_error with h₁ | ⟨x, l₁, g₁, h₁, h₂⟩
  · exact (not_visit_error h₁).elim
  have hl₂ : Coherent sys.index l₁ g₁ := h₁.returns.evolve.coherent hl
  obtain ⟨rfl, rfl, -⟩ | ⟨r, t, rfl, -, rfl, hget⟩ := h₁.visit
  · exact (not_ret_error h₂).elim
  dsimp only at h₂
  split at h₂
  · exact (not_ret_error h₂).elim
  · rename_i v a hf
    rcases h₂.bind_error with h₅ | ⟨y, l₃, g₃, h₅, h₆⟩
    · exact (not_op_error h₅).elim
    cases y with
    | none => exact (not_ret_error h₆).elim
    | some k' =>
      obtain ⟨g₄, g₅, others, choice, hev, hx, hev'⟩ := h₅.op
      simp only [exec] at hx
      split at hx
      · cases hx
      split at hx
      swap
      · cases hx
      rename_i k'' hv
      cases hx
      have hrest : Evolve C _ g₄ L G := hev'.trans h₅.rest
      obtain ⟨hne, i, hi, hi'⟩ := violation_eq_some hv
      have hversion : G.version g₄.csn = g₄.db := hrest.later.version (Nat.le_refl _)
      have hrow : (g₄.view l).get k = some r := by
        rw [Shared.view, ← hrest.apply_locked List.mem_cons_self hm]
        exact hget hm
      refine ⟨t, r, v, a, g₄.csn, k', i, hget hm, hf, ?_, ?_, hne, hi, fun hold => hne ?_, ?_⟩
      · exact Nat.le_trans h₁.returns.evolve.later.csn_le hev.later.csn_le
      · exact Nat.le_trans hev'.later.csn_le h₆.returns.evolve.later.csn_le
      · refine (hev.coherent hl₂).unique k' k i hi' ?_
        change i ∈ entries sys.index k ((g₄.view l).get k)
        rw [hrow]
        exact hold
      · rw [hversion]
        exact hi'

/-- An update fails at a row that gets an index entry which another row has. -/
lemma Runs.update_collides {T : Table Key ι} {q : Store Row → List ι}
    {f : Store Row → (j : ι) → Nat → Row (T.key j) → Option (Row (T.key j) × α)} {e e' : ε₁}
    (hl : Coherent sys.index l g) (h : Runs C (.update T q f e) l g (.error e') l' g' L G) (hq : ∀ s, (q s).Nodup) :
    ∃ gs before i as ws l₁ g₁, Later C g gs ∧ i ∉ before ∧
      (∀ j, j = i ∨ j ∈ before → j ∈ q ((G.version gs.csn).apply l.writes)) ∧
      ChangedRows C .noKeyUpdate T.key
        (fun j t r => (f ((G.version gs.csn).apply l.writes) j t r).map fun x => (some x.1, x.2)) before
        { l with snapshots := gs.csn :: l.snapshots } gs as ws l₁ g₁ G ∧
      ∃ t r r' a n k' x, (G.db.apply l₁.writes).get (T.key i) = some r ∧
        f ((G.version gs.csn).apply l.writes) i t r = some (r', a) ∧ gs.csn ≤ n ∧ n ≤ g'.csn ∧ k' ≠ T.key i ∧
        x ∈ sys.index (T.key i) r' ∧ x ∉ sys.index (T.key i) r ∧
        x ∈ entries sys.index k' (((G.version n).apply l₁.writes).get k') := by
  unfold Prog.update Prog.change at h
  rcases h.bind_error with h₁ | ⟨s, l₁, g₁, h₁, hrest⟩
  · exact (not_op_error h₁).elim
  have hl₁ : Coherent sys.index l₁ g₁ := h₁.returns.evolve.coherent hl
  obtain ⟨gs, hgs, hgs', rfl, rfl⟩ := h₁.snapshot
  rcases hrest.bind_error with h₂ | ⟨is, l₂, g₂, h₂, h₃⟩
  · exact (h₂.failsIn (P := fun _ => False) Prog.failsIn_shuffle).elim
  have hl₂ : Coherent sys.index l₂ g₂ := h₂.returns.evolve.coherent hl₁
  obtain ⟨hp, rfl⟩ := h₂.shuffle
  have hg₂ : Later C gs g₂ := hgs'.trans h₂.returns.evolve.later
  have hnd : is.Nodup := hp.nodup_iff.mpr (hq _)
  obtain ⟨before, i, after, as, ws, l₃, g₃, rfl, hev, hch, herr⟩ := h₃.changeRows_error T.key_injective nofun hnd
  obtain ⟨t, r, v, a, n, k', x, hget, hf, hn, hn', hne, hx, hx', hmem⟩ :=
    herr.changeRow_collides (hev.coherent hl₂) nofun
  obtain ⟨⟨r', b⟩, hf', heq⟩ := Option.map_eq_some_iff.mp hf
  cases heq
  have hnew : i ∉ before := by
    rw [List.nodup_append] at hnd
    exact fun hi => hnd.2.2 i hi i List.mem_cons_self rfl
  refine ⟨gs, before, i, as, ws, l₃, g₃, hgs, hnew, fun j hj => hp.mem_iff.mp ?_, hch.since hg₂, t, r, r', b, n, k', x,
    hget, hf', Nat.le_trans (hg₂.trans hev.later).csn_le hn, hn', hne, hx, hx', hmem⟩
  rcases hj with rfl | hj
  · simp
  · simp [hj]

/-- An update that adds no index entries does not fail. -/
lemma Runs.update_not_error {T : Table Key ι} {q : Store Row → List ι}
    {f : Store Row → (j : ι) → Nat → Row (T.key j) → Option (Row (T.key j) × α)} {e e' : ε₁}
    (hl : Coherent sys.index l g) (hq : ∀ s, (q s).Nodup)
    (hf : ∀ s i t r r' a, f s i t r = some (r', a) → sys.index (T.key i) r' ⊆ sys.index (T.key i) r) :
    ¬ Runs C (.update T q f e) l g (.error e') l' g' L G := by
  intro h
  obtain ⟨gs, before, i, as, ws, l₁, g₁, -, -, -, -, t, r, r', a, n, k', x, -, hfx, -, -, -, hx, hx', -⟩ :=
    h.update_collides hl hq
  exact hx' (hf _ _ _ _ _ _ hfx hx)

lemma Runs.references_error {e e' : ε₁} {ps : List Key} (h : Runs C (.references e ps) l g (.error e') l' g' L G) :
    ∃ k ∈ ps, Missing l g g' G k := by
  unfold Prog.references at h
  induction ps generalizing l g with
  | nil => exact (not_ret_error h).elim
  | cons k ps ih =>
    rcases h.bind_error with h₁ | ⟨_, l₁, g₁, h₁, h₂⟩
    · rcases h₁.bind_error with h₃ | ⟨x, l₂, g₂, h₃, h₄⟩
      · exact (not_op_error h₃).elim
      obtain ⟨n, hn, hn', hx, -⟩ := h₃.lock
      cases x with
      | none => exact ⟨k, List.mem_cons_self, n, hn, Nat.le_trans hn' h₄.returns.evolve.later.csn_le, hx.symm⟩
      | some r => exact (not_ret_error h₄).elim
    · obtain ⟨k', hk', hmiss⟩ := ih h₂
      have hwrites : l₁.writes = l.writes := by
        obtain ⟨x, l₂, g₂, h₃, h₄⟩ := h₁.bind
        obtain ⟨-, -, -, -, ⟨rfl, -⟩ | ⟨r, changed, rfl, rfl, -⟩⟩ := h₃.lock
        · exact (not_fail h₄).elim
        · rw [h₄.ret.2]
      obtain ⟨n, hn, hn', hx⟩ := hmiss
      rw [hwrites] at hx
      exact ⟨k', List.mem_cons_of_mem _ hk', n, Nat.le_trans h₁.returns.evolve.later.csn_le hn, hn', hx⟩

/-- An insertion fails when the row is there, when another row has one of its index entries, or when a parent is missing. -/
lemma Runs.insertRow_error {k : Key} {row : Row k} {parents : List Key} {e e' : ε₁}
    (h : Runs C (.insertRow k row parents e) l g (.error e') l' g' L G) :
    (∃ n, g.csn ≤ n ∧ n ≤ g'.csn ∧ collision sys.index ((G.version n).apply l.writes) k row ≠ none) ∨
      ∃ p ∈ parents, Missing { l with writes := ⟨k, some row⟩ :: l.writes } g g' G p := by
  unfold Prog.insertRow at h
  rcases h.bind_error with h₁ | ⟨x, l₁, g₁, h₁, h₂⟩
  · exact (not_op_error h₁).elim
  obtain ⟨rfl, rfl, -⟩ | ⟨hx, rfl, n, hn, hn', hcol⟩ := h₁.insert
  · obtain ⟨p, hp, n, hn, hn', hmiss⟩ := h₂.references_error
    exact .inr ⟨p, hp, n, Nat.le_trans h₁.returns.evolve.later.csn_le hn, hn', hmiss⟩
  · exact .inl ⟨n, hn, Nat.le_trans hn' h₂.returns.evolve.later.csn_le, hcol ▸ hx⟩

end JamyeServer.ReadCommitted
