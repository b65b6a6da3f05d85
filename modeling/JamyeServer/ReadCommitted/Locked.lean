import JamyeServer.ReadCommitted.Effects

/-!
# Statements on rows that stay

When every version has a row, as it does once the row is locked, a statement that looks for it finds it and visits it.
A row that a statement has locked unchanged has been as it is since the statement's snapshot.
-/

namespace JamyeServer.ReadCommitted

variable {Key : Type} {Row : Key → Type} {Adv Idx Job Out ε ε₁ α ι : Type} [DecidableEq Key] [DecidableEq Adv]
  [DecidableEq Idx] {sys : System Row Adv Idx ε Job Out} {C : Contract sys} {l l' L : Local Row Adv} {g g' G : Shared Row Adv Job Out}

omit [DecidableEq Adv] [DecidableEq Idx] in
/-- Under the same writes two stores agree on a row on which they agree. -/
lemma Store.get_apply_congr {s s' : Store Row} {ws : List (Write Row)} {k : Key} (h : s'.get k = s.get k) :
    (s'.apply ws).get k = (s.apply ws).get k := by
  by_cases hmem : k ∈ ws.map Write.key
  · obtain ⟨v, -, hv⟩ := Store.get_apply_of_mem hmem
    rw [hv, hv]
  · rw [Store.get_apply_of_notMem _ hmem, Store.get_apply_of_notMem _ hmem, h]

/-- An update of one row that every version has from now on; what it writes may depend on the clock. -/
lemma Runs.update_one_at {T : Table Key ι} {i : ι} {p : Row (T.key i) → Bool}
    {f : Store Row → (j : ι) → Nat → Row (T.key j) → Option (Row (T.key j) × α)} {e : ε₁} {as : List α}
    {r : Row (T.key i)} (h : Runs C (.update T (fun s => s.one T i p) f e) l g (.ok as) l' g' L G)
    (hr : ∀ n, g.csn ≤ n → n ≤ G.csn → ((G.version n).apply l.writes).get (T.key i) = some r) (hp : p r = true)
    (hf : ∀ s t, f s i t r ≠ none) :
    ∃ s t v a, Clocked C g g' t ∧ f s i t r = some (v, a) ∧
      (∀ s' : Store Row, (s'.apply l'.writes).get (T.key i) = some v) ∧ a ∈ as ∧ (∀ b ∈ as, ∃ t', f s i t' r = some (v, b)) ∧
      ∀ (s' : Store Row) k, k ≠ T.key i → (s'.apply l'.writes).get k = (s'.apply l.writes).get k := by
  obtain ⟨gs, ws, hgs, hgs', hch⟩ := h.update fun s => s.nodup_one ..
  have hg' : Later C g' G := h.rest.later
  have hin : i ∈ ((G.version gs.csn).apply l.writes).one T i p :=
    Store.mem_one.mpr ⟨rfl, r, hr _ hgs.csn_le (hgs'.trans hg').csn_le, hp⟩
  have hlast : (G.db.apply l.writes).get (T.key i) = some r := hr G.csn h.evolve.later.csn_le (Nat.le_refl _)
  have hws : l'.writes = ws ++ l.writes := by rw [hch.frame]
  have hall : ∀ v, ⟨T.key i, v⟩ ∈ ws → ∀ s' : Store Row, (s'.apply l'.writes).get (T.key i) = v := by
    intro v hv s'
    rw [hws, Store.apply_append]
    exact Store.get_apply_of_mem_nodup _ hch.nodup hv
  rcases hch.each i hin with ⟨n, hn, hn', hmiss⟩ | ⟨t, r₁, ht, -, hget, -, hsome⟩
  · have hrow := hr n (Nat.le_trans hgs.csn_le hn) (Nat.le_trans hn' hg'.csn_le)
    rw [hmiss] at hrow
    cases hrow
  · obtain rfl : r₁ = r := Option.some.inj (hget.symm.trans hlast)
    obtain ⟨⟨v, a⟩, hv⟩ := Option.ne_none_iff_exists'.mp (hf ((G.version gs.csn).apply l.writes) t)
    obtain ⟨ha, hw⟩ := hsome (some v) a (by rw [hv]; rfl)
    refine ⟨_, t, v, a, ht.mono hgs .refl, hv, hall _ hw, ha, fun b hb => ?_, fun s' k hk => ?_⟩
    · obtain ⟨j, hj, t', r₂, v', -, -, hget', hf', hw'⟩ := hch.result b hb
      obtain ⟨rfl, -⟩ := Store.mem_one.mp hj
      obtain rfl : r₂ = r₁ := Option.some.inj (hget'.symm.trans hlast)
      obtain ⟨⟨v'', b'⟩, hf'', heq⟩ := Option.map_eq_some_iff.mp hf'
      cases heq
      have hsame := (hall _ hw G.db).symm.trans (hall _ hw' G.db)
      cases hsame
      exact ⟨t', hf''⟩
    · refine hch.get_of_ne s' fun j hj => ?_
      obtain ⟨rfl, -⟩ := Store.mem_one.mp hj
      exact hk

/-- A statement that writes all of the rows that it visits returns one result for each. -/
lemma Runs.changeRows_length {m : LockMode} {key : ι → Key}
    {f : (i : ι) → Nat → Row (key i) → Option (Option (Row (key i)) × α)} {e : ε₁} {is : List ι} {as : List α}
    (h : Runs C (.changeRows m key f e is) l g (.ok as) l' g' L G) (hkey : Function.Injective key)
    (hm : m ≠ .keyShare) (hnd : is.Nodup)
    (hall : ∀ i ∈ is, ∃ r, (∀ n, g.csn ≤ n → n ≤ G.csn → ((G.version n).apply l.writes).get (key i) = some r) ∧
      ∀ t, f i t r ≠ none) : as.length = is.length := by
  unfold Prog.changeRows at h
  induction is generalizing l g as l' g' with
  | nil =>
    obtain ⟨rfl, -⟩ := h.ret
    rfl
  | cons i is ih =>
    obtain ⟨a, l₁, g₁, h₁, h₂⟩ := h.bind
    obtain ⟨bs, l₂, g₂, h₃, h₄⟩ := h₂.bind
    obtain ⟨rfl, -⟩ := h₄.ret
    rw [List.nodup_cons] at hnd
    have hg₁ : Later C g g₁ := h₁.returns.evolve.later
    obtain ⟨r, hr, hf⟩ := hall i List.mem_cons_self
    have hone : ∃ v b, a = some b ∧ l₁.writes = ⟨key i, v⟩ :: l.writes := by
      rcases h₁.changeRow hm with ⟨-, -, n, hn, hn', hmiss⟩ | ⟨t, r₁, -, hget, ⟨hnone, -, -⟩ | ⟨v, b, -, rfl, rfl⟩⟩
      · have hrow := hr n hn (Nat.le_trans hn' h₁.rest.later.csn_le)
        rw [hmiss] at hrow
        cases hrow
      · obtain rfl : r₁ = r := Option.some.inj (hget.symm.trans (hr G.csn h.evolve.later.csn_le (Nat.le_refl _)))
        exact absurd hnone (hf t)
      · exact ⟨v, b, rfl, rfl⟩
    obtain ⟨v, b, rfl, hw⟩ := hone
    have hrest := ih h₃ hnd.2 fun j hj => ?_
    · simp [hrest]
    · obtain ⟨r', hr', hf'⟩ := hall j (List.mem_cons_of_mem _ hj)
      refine ⟨r', fun n hn hn' => ?_, hf'⟩
      have hne : key j ≠ key i := fun heq => hnd.1 (hkey heq ▸ hj)
      rw [hw, Store.apply_cons, Store.get_set_mk_of_ne _ _ hne]
      exact hr' n (Nat.le_trans hg₁.csn_le hn) hn'

/-- A statement that returns the rows which it locks returns each at most once. -/
lemma Runs.lockRows_sublist {m : LockMode} {key : ι → Key} {f : (i : ι) → Nat → Row (key i) → Option ι} {is js : List ι}
    (h : Runs C (.lockRows m key f is) l g (.ok js : Except ε₁ _) l' g' L G)
    (hf : ∀ i t r j, f i t r = some j → j = i) : js.Sublist is := by
  unfold Prog.lockRows at h
  induction is generalizing l g js l' g' with
  | nil =>
    obtain ⟨rfl, -⟩ := h.ret
    exact List.Sublist.refl _
  | cons i is ih =>
    obtain ⟨a, l₁, g₁, h₁, h₂⟩ := h.bind
    obtain ⟨bs, l₂, g₂, h₃, h₄⟩ := h₂.bind
    obtain ⟨rfl, -⟩ := h₄.ret
    have hrest := ih h₃
    rcases h₁.lockRow with ⟨rfl, -, -⟩ | ⟨t, r, -, -, rfl, -⟩
    · exact hrest.cons _
    · cases hj : f i t r with
      | none => exact hrest.cons _
      | some j =>
        obtain rfl := hf i t r j hj
        exact hrest.cons_cons _

section Held

variable {k : Key} {n : Nat} {r : Row k}

/-- The transaction has locked the row in a statement with the snapshot of commit count `n`. The row was `r`, and if the
lock was granted after `g`, then nothing had changed the row since the snapshot. -/
structure HeldSince (C : Contract sys) (k : Key) (n : Nat) (g : Shared Row Adv Job Out) (r : Row k) (L : Local Row Adv)
    (G : Shared Row Adv Job Out) : Prop where
  snapshot : n ≤ g.csn
  taken : ∃ l g₁, l.snapshots.head? = some n ∧ C.Request (.lock k .update) l g₁ ∧ g₁.db.get k = some r ∧
    (g₁.csn ≤ g.csn ∨ g₁.changedSince l k = false) ∧ Evolve C { l with locks := (k, .update) :: l.locks } g₁ L G

namespace HeldSince

omit [DecidableEq Adv] in
lemma lock (h : HeldSince C k n g r L G) : (k, .update) ∈ L.locks := by
  obtain ⟨l, g₁, -, -, -, -, hev⟩ := h.taken
  exact hev.locks List.mem_cons_self

omit [DecidableEq Adv] in
lemma db (h : HeldSince C k n g r L G) : G.db.get k = some r := by
  obtain ⟨l, g₁, -, -, hr, -, hev⟩ := h.taken
  rw [hev.db_locked List.mem_cons_self nofun, hr]

omit [DecidableEq Adv] in
/-- The row has been `r` since `g`. -/
lemma version (h : HeldSince C k n g r L G) {m : Nat} (hm : g.csn ≤ m) (hm' : m ≤ G.csn) :
    (G.version m).get k = some r := by
  obtain ⟨l, g₁, hn, -, hr, hsince, hev⟩ := h.taken
  rcases Nat.le_total g₁.csn m with hle | hle
  · rw [hev.version_locked List.mem_cons_self nofun hle hm', hr]
  · rcases hsince with hold | hunchanged
    · rw [hev.version_locked List.mem_cons_self nofun (Nat.le_trans hold hm) hm', hr]
    · have hstart : l.snapshots.headD l.start ≤ m := by
        rw [List.headD_eq_head?_getD, hn]
        exact Nat.le_trans h.snapshot hm
      rw [hev.later.version hle, Shared.get_of_unchanged _ hunchanged hstart, hr]

omit [DecidableEq Adv] in
/-- No commit since `g` has written the row. -/
lemma unwritten (h : HeldSince C k n g r L G) {m : Nat} (hm : g.csn ≤ m) {e : Entry Row Adv Job Out}
    (he : G.log[m]? = some e) : k ∉ e.ran.writes.map Write.key := by
  obtain ⟨l, g₁, hn, -, -, hsince, hev⟩ := h.taken
  rcases Nat.lt_or_ge m g₁.csn with hlt | hge
  · -- the row had not changed when it was locked
    have hunchanged : g₁.changedSince l k = false := hsince.resolve_left fun hold => by omega
    have hstart : l.snapshots.headD l.start ≤ m := by
      rw [List.headD_eq_head?_getD, hn]
      exact Nat.le_trans h.snapshot hm
    obtain ⟨es, hes⟩ := hev.later.log
    rw [hes, List.getElem?_append_left hlt] at he
    refine Shared.unwritten_of_unchanged _ hunchanged hstart (List.mem_of_getElem? (i := 0) ?_)
    rw [List.getElem?_drop]
    exact he
  · obtain ⟨l₁, g₂, hl₁, -, hc, hcp, -, -⟩ := hev.commit_between hge he
    exact hcp.notMem_writes hc.coherent (hl₁.locks List.mem_cons_self) nofun

end HeldSince

/-- A lock that a transaction takes before it has written anything. -/
lemma Runs.lock_update {x : Option (Row k × Bool)} (hl : l.writes = [])
    (h : Runs C (.lock k .update) l g (.ok x : Except ε₁ _) l' g' L G) :
    x = none ∧ l' = l ∧ (∃ m, g.csn ≤ m ∧ m ≤ g'.csn ∧ (G.version m).get k = none) ∨
    ∃ r g₁, x = some (r, g₁.changedSince l k) ∧ l' = { l with locks := (k, .update) :: l.locks } ∧ Later C g g₁ ∧
      Later C g₁ g' ∧ C.Request (.lock k .update) l g₁ ∧ g₁.db.get k = some r ∧ Evolve C l' g₁ L G := by
  obtain ⟨g₁, hg₁, hg₁', hrequest, hx, ⟨rfl, rfl⟩ | ⟨hsome, rfl, hev⟩⟩ := h.lock_granted
  · refine .inl ⟨rfl, rfl, g₁.csn, hg₁.csn_le, hg₁'.csn_le, ?_⟩
    simpa [hl] using hx.symm
  · obtain ⟨⟨r, changed⟩, rfl⟩ := Option.ne_none_iff_exists'.mp hsome
    obtain ⟨r₁, hr₁, heq⟩ := Option.map_eq_some_iff.mp hx.symm
    cases heq
    refine .inr ⟨r, g₁, rfl, rfl, hg₁, hg₁', hrequest, ?_, hev⟩
    rw [hl, Store.apply_nil, hev.later.version (Nat.le_refl _)] at hr₁
    exact hr₁

end Held

end JamyeServer.ReadCommitted
