import JamyeServer.ReadCommitted.Effects

/-!
# Transactions that run alone

While nothing else is committed from its beginning to its end, a transaction sees one version of the database. Its
rules then speak of that version only. `hG` says that the version at the commit is the one at the beginning.
-/

namespace JamyeServer.ReadCommitted

variable {Key : Type} {Row : Key → Type} {Adv Idx Job Out ε ε₁ α β ι : Type} [DecidableEq Key]
  {sys : System Row Adv Idx ε Job Out} [DecidableEq Idx] {C : Contract sys} {l l' L : Local Row Adv}
  {g g' G : Shared Row Adv Job Out} [DecidableEq Adv]

omit [DecidableEq Idx] [DecidableEq Adv] in
lemma Later.db_eq (h : Later C g G) (hG : G.csn ≤ g.csn) : g.db = G.db := by
  have hcsn : g.csn = G.csn := Nat.le_antisymm h.csn_le hG
  rw [Shared.db, Shared.db, ← hcsn, h.version (Nat.le_refl _)]

namespace Runs

lemma alone_csn {p : Prog Row Adv ε₁ α} {r : Except ε₁ α} (h : Runs C p l g r l' g' L G) (hG : G.csn = g.csn) :
    G.csn = g'.csn := by
  have h₁ := h.returns.evolve.later.csn_le
  have h₂ := h.rest.later.csn_le
  omega

/-- A program that can write nothing leaves the writes. -/
lemma writes_eq {p : Prog Row Adv ε₁ α} {r : Except ε₁ α} (h : Runs C p l g r l' g' L G) (hp : p.Touches fun _ => False) :
    l'.writes = l.writes := by
  obtain ⟨ws, hws, hnone⟩ := h.touches hp
  cases ws with
  | nil => exact hws
  | cons w ws => exact (hnone w List.mem_cons_self).elim

/-- All versions that a transaction may see are the same one. -/
lemma alone_version {p : Prog Row Adv ε₁ α} {r : Except ε₁ α} (h : Runs C p l g r l' g' L G) (hG : G.csn = g.csn)
    {n : Nat} (hn : g.csn ≤ n) (hn' : n ≤ g'.csn) : G.version n = G.db := by
  have h₁ := h.alone_csn hG
  have hcsn : n = G.csn := by omega
  rw [hcsn, Shared.db]

lemma alone_missing {p : Prog Row Adv ε₁ α} {r : Except ε₁ α} (h : Runs C p l g r l' g' L G) (hG : G.csn = g.csn)
    {l₁ : Local Row Adv} {g₁ g₂ : Shared Row Adv Job Out} {k : Key} (hk : Missing l₁ g₁ g₂ G k) (h₁ : g.csn ≤ g₁.csn)
    (h₂ : g₂.csn ≤ g'.csn) :
    (G.db.apply l₁.writes).get k = none := by
  obtain ⟨n, hn, hn', hnone⟩ := hk
  rw [h.alone_version hG (Nat.le_trans h₁ hn) (Nat.le_trans hn' h₂)] at hnone
  exact hnone

lemma alone_snapshot {s : Store Row} (h : Runs C .snapshot l g (.ok s : Except ε₁ _) l' g' L G) (hG : G.csn = g.csn) :
    s = G.db.apply l.writes ∧ l'.writes = l.writes ∧ l'.drawn = l.drawn := by
  obtain ⟨g₁, h₁, h₂, rfl, rfl⟩ := h.snapshot
  rw [h.alone_version hG h₁.csn_le h₂.csn_le]
  exact ⟨rfl, rfl, rfl⟩

lemma alone_select {q : Store Row → α} {r : α} (h : Runs C (.select q) l g (.ok r : Except ε₁ _) l' g' L G)
    (hG : G.csn = g.csn) :
    r = q (G.db.apply l.writes) ∧ l'.writes = l.writes ∧ l'.drawn = l.drawn := by
  obtain ⟨g₁, h₁, h₂, rfl, rfl⟩ := h.select
  rw [h.alone_version hG h₁.csn_le h₂.csn_le]
  exact ⟨rfl, rfl, rfl⟩

lemma alone_lockRow {m : LockMode} {k : Key} {f : Nat → Row k → Option α} {a : Option α}
    (h : Runs C (.lockRow m k f) l g (.ok a : Except ε₁ _) l' g' L G) (hG : G.csn = g.csn) (hm : m ≠ .keyShare) :
    (∃ t, a = ((G.db.apply l.writes).get k).bind (f t)) ∧ l'.writes = l.writes ∧ l'.drawn = l.drawn := by
  rcases h.lockRow with ⟨rfl, rfl, hmissing⟩ | ⟨t, r, -, rfl, rfl, hr⟩
  · rw [h.alone_missing hG hmissing (Nat.le_refl _) (Nat.le_refl _)]
    exact ⟨⟨0, rfl⟩, rfl, rfl⟩
  · rw [hr hm]
    exact ⟨⟨t, rfl⟩, rfl, rfl⟩

/-- What a statement finds that locks rows: what `f` says of each row that it looks for. -/
lemma alone_selectFor {m : LockMode} {T : Table Key ι} {q : Store Row → List ι}
    {f : Store Row → (i : ι) → Nat → Row (T.key i) → Option α} {as : List α}
    (h : Runs C (.selectFor m T q f) l g (.ok as : Except ε₁ _) l' g' L G) (hG : G.csn = g.csn) (hm : m ≠ .keyShare)
    {s : Store Row} (hs : s = G.db.apply l.writes) :
    (∀ a ∈ as, ∃ i ∈ q s, ∃ t r, s.get (T.key i) = some r ∧ f s i t r = some a) ∧
      (∀ i ∈ q s, ∀ r, s.get (T.key i) = some r → ∃ t, ∀ a, f s i t r = some a → a ∈ as) ∧
      l'.writes = l.writes ∧ l'.drawn = l.drawn := by
  obtain ⟨g₁, h₁, h₂, hrows⟩ := h.selectFor hm
  rw [h.alone_version hG h₁.csn_le h₂.csn_le, ← hs] at hrows
  refine ⟨fun a ha => ?_, fun i hi r hr => ?_, by rw [hrows.frame], by rw [hrows.frame]⟩
  · obtain ⟨i, hi, t, r, -, -, hr, hf⟩ := hrows.mem a ha
    exact ⟨i, hi, t, r, by rw [hs]; exact hr, hf⟩
  · rcases hrows.each i hi with hmissing | ⟨t, r', -, -, hr', hf⟩
    · have hnone := h.alone_missing hG hmissing h₁.csn_le (Nat.le_refl _)
      change (G.db.apply l.writes).get (T.key i) = none at hnone
      rw [← hs, hr] at hnone
      cases hnone
    · change (G.db.apply l.writes).get (T.key i) = some r' at hr'
      rw [← hs, hr] at hr'
      cases hr'
      exact ⟨t, hf⟩

/-- What a statement that writes rows leaves in them, and what it returns. -/
lemma alone_update {T : Table Key ι} {q : Store Row → List ι}
    {f : Store Row → (i : ι) → Nat → Row (T.key i) → Option (Row (T.key i) × α)} {e : ε₁} {as : List α}
    (h : Runs C (.update T q f e) l g (.ok as) l' g' L G) (hG : G.csn = g.csn) (hq : ∀ s, (q s).Nodup) {s : Store Row}
    (hs : s = G.db.apply l.writes) :
    (∀ i ∈ q s, ∀ r, s.get (T.key i) = some r →
      ∃ t, (G.db.apply l'.writes).get (T.key i) = some (((f s i t r).map Prod.fst).getD r)) ∧
      (∀ i, i ∉ q s → (G.db.apply l'.writes).get (T.key i) = s.get (T.key i)) ∧
      (∀ a ∈ as, ∃ i ∈ q s, ∃ t r r', s.get (T.key i) = some r ∧ f s i t r = some (r', a)) ∧
      (∀ i ∈ q s, ∀ r, s.get (T.key i) = some r → ∃ t, ∀ r' a, f s i t r = some (r', a) → a ∈ as) := by
  obtain ⟨g₁, ws, h₁, h₂, hch⟩ := h.update hq
  rw [h.alone_version hG h₁.csn_le h₂.csn_le, ← hs] at hch
  have hmissing : ∀ i, ¬ (∃ r, s.get (T.key i) = some r ∧
      Missing { l with snapshots := g₁.csn :: l.snapshots } g₁ g' G (T.key i)) := by
    rintro i ⟨r, hr, hmissing⟩
    have hnone := h.alone_missing hG hmissing h₁.csn_le (Nat.le_refl _)
    change (G.db.apply l.writes).get (T.key i) = none at hnone
    rw [← hs, hr] at hnone
    cases hnone
  refine ⟨fun i hi r hr => ?_, fun i hi => ?_, fun a ha => ?_, fun i hi r hr => ?_⟩
  · rcases hch.get hi with hnone | ⟨t, r', -, -, hr', hget⟩
    · exact (hmissing i ⟨r, hr, hnone⟩).elim
    · change (G.db.apply l.writes).get (T.key i) = some r' at hr'
      rw [← hs, hr] at hr'
      cases hr'
      refine ⟨t, hget.trans ?_⟩
      cases f s i t r <;> rfl
  · have hne : ∀ j ∈ q s, T.key i ≠ T.key j := by
      intro j hj hkey
      exact hi (by rw [T.key_injective hkey]; exact hj)
    rw [hch.get_of_ne _ hne, hs]
  · obtain ⟨i, hi, t, r, v, -, -, hr, hf, -⟩ := hch.result a ha
    obtain ⟨x, hx, heq⟩ := Option.map_eq_some_iff.mp hf
    cases heq
    exact ⟨i, hi, t, r, x.1, by rw [hs]; exact hr, hx⟩
  · rcases hch.each i hi with hnone | ⟨t, r', -, -, hr', -, hwrite⟩
    · exact (hmissing i ⟨r, hr, hnone⟩).elim
    · change (G.db.apply l.writes).get (T.key i) = some r' at hr'
      rw [← hs, hr] at hr'
      cases hr'
      exact ⟨t, fun r' a hf => (hwrite (some r') a (by rw [hf]; rfl)).1⟩

/-- An insertion adds the row unless it collides with another one. -/
lemma alone_insert {k : Key} {row : Row k} {r : Option Key}
    (h : Runs C (.insert k row) l g (.ok r : Except ε₁ _) l' g' L G) (hG : G.csn = g.csn) :
    r = collision sys.index (G.db.apply l.writes) k row ∧ l'.drawn = l.drawn ∧
      l'.writes = if r = none then ⟨k, some row⟩ :: l.writes else l.writes := by
  obtain ⟨g₁, g₂, others, choice, h₁, hx, h₂⟩ := h.op
  simp only [exec] at hx
  split at hx
  · cases hx
  · split at hx
    · rename_i k' hk'
      cases hx
      rw [← (h₂.trans h.rest).later.db_eq (hG ▸ h₁.later.csn_le)]
      exact ⟨hk'.symm, rfl, rfl⟩
    · rename_i hk'
      split at hx
      · cases hx
      · cases hx
        rw [← (h₂.trans h.rest).later.db_eq (hG ▸ h₁.later.csn_le)]
        exact ⟨hk'.symm, rfl, rfl⟩

lemma alone_upsert {k : Key} {row : Row k} {m : LockMode} {r : Option Key}
    (h : Runs C (.upsert k row m) l g (.ok r : Except ε₁ _) l' g' L G) (hG : G.csn = g.csn) :
    r = collision sys.index (G.db.apply l.writes) k row ∧ l'.drawn = l.drawn ∧
      l'.writes = if r = none then ⟨k, some row⟩ :: l.writes else l.writes := by
  obtain ⟨g₁, g₂, others, choice, h₁, hx, h₂⟩ := h.op
  simp only [exec] at hx
  split at hx
  · cases hx
  · split at hx
    · rename_i k' hk'
      split at hx
      · cases hx
      · cases hx
        rw [← (h₂.trans h.rest).later.db_eq (hG ▸ h₁.later.csn_le)]
        exact ⟨hk'.symm, rfl, rfl⟩
    · rename_i hk'
      split at hx
      · cases hx
      · cases hx
        rw [← (h₂.trans h.rest).later.db_eq (hG ▸ h₁.later.csn_le)]
        exact ⟨hk'.symm, rfl, rfl⟩

lemma alone_insertOrSkip {k : Key} {row : Row k} {parents : List Key} {e : ε₁} {inserted : Bool}
    (h : Runs C (.insertOrSkip k row parents e) l g (.ok inserted) l' g' L G) (hG : G.csn = g.csn) :
    inserted = (collision sys.index (G.db.apply l.writes) k row).isNone ∧
      l'.writes = if inserted then ⟨k, some row⟩ :: l.writes else l.writes := by
  unfold Prog.insertOrSkip at h
  obtain ⟨r, l₁, g₁, h₁, r₁⟩ := h.bind
  obtain ⟨hr, -, hw⟩ := h₁.alone_insert hG
  rw [← hr]
  cases r with
  | some k' =>
    obtain ⟨rfl, rfl⟩ := r₁.ret
    exact ⟨rfl, hw⟩
  | none =>
    obtain ⟨_, l₂, g₂, h₂, r₂⟩ := Runs.bind r₁
    obtain ⟨rfl, rfl⟩ := r₂.ret
    exact ⟨rfl, (h₂.writes_eq Prog.touches_references).trans hw⟩

/-- A change of one row that is found. -/
lemma alone_changeRow {m : LockMode} {k : Key} {f : Nat → Row k → Option (Option (Row k) × α)} {e : ε₁} {a : α}
    (h : Runs C (.changeRow m k f e) l g (.ok (some a)) l' g' L G) (hm : m ≠ .keyShare) :
    ∃ t r v, (G.db.apply l.writes).get k = some r ∧ f t r = some (v, a) ∧ l'.writes = ⟨k, v⟩ :: l.writes := by
  rcases h.changeRow hm with ⟨ha, -⟩ | ⟨t, r, -, hr, ⟨-, ha, -⟩ | ⟨v, b, hf, ha, hl⟩⟩
  · cases ha
  · cases ha
  · cases ha
    exact ⟨t, r, v, hr, hf, by rw [hl]⟩

/-- A list of requests that write nothing and find what `F` says. -/
lemma alone_collect {ws : List (Write Row)} {f : β → Prog Row Adv ε₁ (Option α)} {F : β → Option α} {bs : List β}
    (hf : ∀ b ∈ bs, ∀ l g a l' g', Runs C (f b) l g (.ok a) l' g' L G → G.csn = g.csn → l.writes = ws →
      a = F b ∧ l'.writes = ws) {as : List α} (h : Runs C (.collect f bs) l g (.ok as) l' g' L G) (hG : G.csn = g.csn)
    (hw : l.writes = ws) : as = bs.filterMap F ∧ l'.writes = ws := by
  induction bs generalizing l g l' g' as with
  | nil =>
    obtain ⟨rfl, rfl⟩ := Runs.ret h
    exact ⟨rfl, hw⟩
  | cons b bs ih =>
    obtain ⟨a, l₁, g₁, h₁, r₁⟩ := Runs.bind h
    obtain ⟨as', l₂, g₂, h₂, r₂⟩ := r₁.bind
    obtain ⟨rfl, rfl⟩ := r₂.ret
    obtain ⟨rfl, hw₁⟩ := hf b List.mem_cons_self l g a l₁ g₁ h₁ hG hw
    obtain ⟨rfl, hw₂⟩ := ih (fun b hb => hf b (List.mem_cons_of_mem _ hb)) h₂ (h₁.alone_csn hG) hw₁
    refine ⟨?_, hw₂⟩
    rw [List.filterMap_cons]
    cases F b <;> rfl

end Runs

end JamyeServer.ReadCommitted
