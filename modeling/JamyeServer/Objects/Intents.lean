import JamyeServer.Objects.Invariants
import JamyeServer.Postgres.Indexes
import JamyeServer.ReadCommitted.Failure

/-!
# Queueing objects for deletion

Each statement that queues an object skips a key that is queued already. The intents of a key are never taken back,
so that afterwards there is one in either case.
-/

namespace JamyeServer.Objects

open ReadCommitted Postgres Media Messages Prog

variable {settings : Settings} {mask : String → String} {publicBaseUrl : String} {ticks : Time → Time → Bool}
  {l l' L : Local} {g g' G : Shared} {ε : Type}

lemma intents_stay (hg : History (contract settings mask publicBaseUrl ticks) G) {n : Nat} (hn : n ≤ G.csn) {j : Uuid}
    {x : AccountObjectDeletionIntent} (hx : (G.version n).get (.accountObjectDeletionIntents j) = some x) :
    G.db.get (.accountObjectDeletionIntents j) = some x :=
  hg.stable (P := fun s => s.get (.accountObjectDeletionIntents j) = some x) (fun _ _ _ hc h => hc.ok.intents j x h) hn
    (Nat.le_refl _) hx

lemma drawnIntents : DrawnKeys (contract settings mask publicBaseUrl ticks) Key.accountObjectDeletionIntents where
  init g hg i hi := absurd (Starts.intents hg i) hi
  insert e g hc i hi hi' := by
    have hmem : .accountObjectDeletionIntents i ∈ e.ran.writes.map Write.key := by
      by_contra hnot
      rw [Shared.view, Store.get_apply_of_notMem _ hnot] at hi'
      exact hi' hi
    obtain ⟨w, hw, hkey⟩ := List.mem_map.mp hmem
    exact hc.ok.ownIntents w hw i hkey

/-- A locked row is the same in all versions, also with what the transaction itself has written. -/
lemma view_locked {α : Type} {p : Sql ε α} {r : Except ε α} {k : Key} {m : LockMode} {n : Nat}
    (h : Runs (contract settings mask publicBaseUrl ticks) p l g r l' g' L G) (hlock : (k, m) ∈ l.locks)
    (hm : m ≠ .keyShare) (hn : g.csn ≤ n) (hn' : n ≤ G.csn) :
    ((G.version n).apply l.writes).get k = (G.db.apply l.writes).get k := by
  by_cases hmem : k ∈ l.writes.map Write.key
  · obtain ⟨v, -, hs⟩ := Store.get_apply_of_mem hmem
    rw [hs, hs]
  · rw [Store.get_apply_of_notMem _ hmem, Store.get_apply_of_notMem _ hmem, h.evolve.version_locked hlock hm hn hn',
      h.evolve.db_locked hlock hm]

/-- A program that writes no intents leaves them. -/
lemma OwnIntents.of_touches {α : Type} {p : Sql ε α} {r : Except ε α} {P : Key → Prop} (h : OwnIntents l)
    (hrun : Runs (contract settings mask publicBaseUrl ticks) p l g r l' g' L G) (hp : p.Touches P)
    (hP : ∀ j, ¬ P (.accountObjectDeletionIntents j)) : OwnIntents l' := by
  obtain ⟨ws, hws, hkeys⟩ := hrun.touches hp
  intro w hw j hj
  rw [hws] at hw
  rcases List.mem_append.mp hw with hw | hw
  · exact (hP j (hj ▸ hkeys w hw)).elim
  · exact hrun.returns.evolve.drawn (h w hw j hj)

/-- What queueing the keys leaves: an intent for each of them. -/
structure Enqueues (keys : List String) (l l' : Local) (G : Shared) : Prop where
  own : OwnIntents l → OwnIntents l'
  frame : ∀ (s : Store Row) k, (∀ j, k ≠ .accountObjectDeletionIntents j) →
    (s.apply l'.writes).get k = (s.apply l.writes).get k
  kept : ∀ j x, (G.db.apply l.writes).get (.accountObjectDeletionIntents j) = some x →
    (G.db.apply l'.writes).get (.accountObjectDeletionIntents j) = some x
  added : ∀ j x, (G.db.apply l'.writes).get (.accountObjectDeletionIntents j) = some x →
    (G.db.apply l.writes).get (.accountObjectDeletionIntents j) = some x ∨ x.objectKey ∈ keys
  queued : ∀ key ∈ keys, HasIntent (G.db.apply l'.writes) key

lemma Enqueues.nil : Enqueues [] l l G :=
  ⟨id, fun _ _ _ => rfl, fun _ _ => id, fun _ _ => .inl, fun _ h => (List.not_mem_nil h).elim⟩

lemma HasIntent.mono {keys : List String} (h : Enqueues keys l l' G) {key : String}
    (hkey : HasIntent (G.db.apply l.writes) key) : HasIntent (G.db.apply l'.writes) key := by
  obtain ⟨j, x, hx, hk⟩ := hkey
  exact ⟨j, x, h.kept j x hx, hk⟩

lemma Enqueues.append {keys keys' : List String} {l₁ : Local} (h : Enqueues keys l l₁ G) (h' : Enqueues keys' l₁ l' G) :
    Enqueues (keys ++ keys') l l' G where
  own hl := h'.own (h.own hl)
  frame s k hk := (h'.frame s k hk).trans (h.frame s k hk)
  kept j x hx := h'.kept j x (h.kept j x hx)
  added j x hx := by
    rcases h'.added j x hx with hx | hkey
    · rcases h.added j x hx with hx | hkey
      · exact .inl hx
      · exact .inr (List.mem_append_left _ hkey)
    · exact .inr (List.mem_append_right _ hkey)
  queued key hkey := by
    rcases List.mem_append.mp hkey with hkey | hkey
    · exact (h.queued key hkey).mono h'
    · exact h'.queued key hkey

/-- An identifier that was drawn just now names no row of the transaction. -/
lemma notMem_of_fresh {id : Nat} {l₁ : Local} {g₁ : Shared}
    (h : Runs (contract settings mask publicBaseUrl ticks) .fresh l g (.ok id : Except ε _) l₁ g₁ L G)
    (hl : Coherent index l g) (hown : OwnIntents l) : .accountObjectDeletionIntents id ∉ l.writes.map Write.key := by
  obtain ⟨-, g₂, g₃, hlater, hnew, -, -⟩ := h.fresh
  intro hmem
  obtain ⟨w, hw, hkey⟩ := List.mem_map.mp hmem
  exact hnew (hlater.used (hl.drawn id (hown w hw id hkey)))

/-- One key is queued, or was queued before. -/
lemma enqueues_insertOrSkip {id : Nat} {row : AccountObjectDeletionIntent} {error : ε} {b : Bool} {l₁ : Local} {g₁ g₂ : Shared}
    (hfresh : Runs (contract settings mask publicBaseUrl ticks) .fresh l g (.ok id : Except ε _) l₁ g₁ L G)
    (h : Runs (contract settings mask publicBaseUrl ticks) (insertOrSkip (.accountObjectDeletionIntents id) row [] error)
      l₁ g₂ (.ok b) l' g' L G)
    (hg : History (contract settings mask publicBaseUrl ticks) g) (hl : Coherent index l g) (hown : OwnIntents l) :
    Enqueues [row.objectKey] l l' G := by
  have hG := hfresh.evolve.later.history hg
  have hwrites : l₁.writes = l.writes := by rw [hfresh.fresh.1]
  have hdrawn : l₁.drawn = id :: l.drawn := by rw [hfresh.fresh.1]
  rcases h.insertOrSkip with ⟨-, hrow⟩ | ⟨-, rfl, n, hn, hn', hcollision⟩
  · have hget : ∀ s : Store Row, (s.apply l'.writes).get (.accountObjectDeletionIntents id) = some row := hrow.get
    have hne : ∀ (s : Store Row) k, k ≠ .accountObjectDeletionIntents id →
        (s.apply l'.writes).get k = (s.apply l.writes).get k := fun s k hk => by rw [hrow.get_of_ne s hk, hwrites]
    have habsent := hrow.absent
    rw [hwrites] at habsent
    refine ⟨fun _ w hw j hj => ?_, fun s k hk => hne s k (hk id), fun j x hx => ?_, fun j x hx => ?_, fun key hkey => ?_⟩
    · rw [hrow.frame] at hw ⊢
      rcases List.mem_cons.mp hw with rfl | hw
      · cases hj
        rw [hdrawn]
        exact List.mem_cons_self
      · rw [hdrawn]
        exact List.mem_cons_of_mem _ (hown w (hwrites ▸ hw) j hj)
    · rw [hne _ _ fun hj => ?_]
      · exact hx
      · cases hj
        rw [habsent] at hx
        cases hx
    · by_cases hj : j = id
      · subst hj
        rw [hget] at hx
        cases hx
        exact .inr List.mem_cons_self
      · rw [hne _ _ fun h => hj (by cases h; rfl)] at hx
        exact .inl hx
    · obtain rfl := List.mem_singleton.mp hkey
      exact ⟨id, row, hget _, rfl⟩
  · have hn'' : n ≤ G.csn := Nat.le_trans hn' h.rest.later.csn_le
    refine ⟨fun hl w hw j hj => ?_, fun s k _ => by rw [hwrites], fun j x hx => by rwa [hwrites], fun j x hx => ?_,
      fun key hkey => ?_⟩
    · rw [hdrawn]
      exact List.mem_cons_of_mem _ (hl w (hwrites ▸ hw) j hj)
    · rw [hwrites] at hx
      exact .inl hx
    obtain rfl := List.mem_singleton.mp hkey
    rw [hwrites] at hcollision ⊢
    rcases collision_ne_none hcollision with htaken | ⟨k, hne, i, hi, hentry⟩
    · rw [Store.get_apply_of_notMem _ (notMem_of_fresh hfresh hl hown), (drawnIntents.fresh hg hfresh).2 n hn''] at htaken
      exact (htaken rfl).elim
    · obtain rfl : i = .objectDeletion row.objectKey := by simpa [system, index] using hi
      obtain ⟨j, rfl⟩ := isOf_of_mem_entries hentry
      cases hx : ((G.version n).apply l.writes).get (.accountObjectDeletionIntents j) with
      | none =>
        rw [hx] at hentry
        cases hentry
      | some x =>
        rw [hx] at hentry
        have hkey : x.objectKey = row.objectKey := by simpa [entries, system, index, eq_comm] using hentry
        refine ⟨j, x, ?_, hkey⟩
        by_cases hmem : .accountObjectDeletionIntents j ∈ l.writes.map Write.key
        · obtain ⟨v, -, hv⟩ := Store.get_apply_of_mem hmem
          rw [hv] at hx ⊢
          exact hx
        · rw [Store.get_apply_of_notMem _ hmem] at hx ⊢
          exact intents_stay hG hn'' hx

section Lists

variable {α β : Type} {k : β → String}

lemma enqueues_each {f : β → Sql ε Unit} {bs : List β} {u : Unit}
    (hf : ∀ b l g l' g', Runs (contract settings mask publicBaseUrl ticks) (f b) l g (.ok ()) l' g' L G →
      History (contract settings mask publicBaseUrl ticks) g → Coherent index l g → OwnIntents l → Enqueues [k b] l l' G)
    (h : Runs (contract settings mask publicBaseUrl ticks) (each f bs) l g (.ok u) l' g' L G)
    (hg : History (contract settings mask publicBaseUrl ticks) g) (hl : Coherent index l g) (hown : OwnIntents l) :
    Enqueues (bs.map k) l l' G := by
  induction bs generalizing l g with
  | nil =>
    obtain ⟨-, rfl⟩ := Runs.ret h
    exact .nil
  | cons b bs ih =>
    obtain ⟨_, l₁, g₁, h₁, r₁⟩ := Runs.bind h
    have hfirst := hf b l g l₁ g₁ h₁ hg hl hown
    exact hfirst.append (ih r₁ (h₁.returns.evolve.later.history hg) (h₁.returns.evolve.coherent hl) (hfirst.own hown))

lemma enqueues_collect {f : β → Sql ε (Option α)} {bs : List β} {as : List α}
    (hf : ∀ b l g a l' g', Runs (contract settings mask publicBaseUrl ticks) (f b) l g (.ok a) l' g' L G →
      History (contract settings mask publicBaseUrl ticks) g → Coherent index l g → OwnIntents l → Enqueues [k b] l l' G)
    (h : Runs (contract settings mask publicBaseUrl ticks) (collect f bs) l g (.ok as) l' g' L G)
    (hg : History (contract settings mask publicBaseUrl ticks) g) (hl : Coherent index l g) (hown : OwnIntents l) :
    Enqueues (bs.map k) l l' G := by
  induction bs generalizing l g l' g' as with
  | nil =>
    obtain ⟨-, rfl⟩ := Runs.ret h
    exact .nil
  | cons b bs ih =>
    obtain ⟨a, l₁, g₁, h₁, r₁⟩ := Runs.bind h
    obtain ⟨as', l₂, g₂, h₂, r₂⟩ := r₁.bind
    obtain ⟨-, rfl⟩ := r₂.ret
    have hfirst := hf b l g a l₁ g₁ h₁ hg hl hown
    exact hfirst.append (ih h₂ (h₁.returns.evolve.later.history hg) (h₁.returns.evolve.coherent hl) (hfirst.own hown))

end Lists

section Statements

variable {media : List MediaObjectRow}

/-- The deletion of a message and that of a topic enqueue the objects in the same way. -/
lemma enqueues_objects {objectKeys : List String} {error : ε} {u : Unit}
    (h : Runs (contract settings mask publicBaseUrl ticks)
      (each (fun objectKey => do
        let id ← fresh
        let now ← clock
        let _ ← insertOrSkip (.accountObjectDeletionIntents id) { objectKey, createdAt := now } [] error
        ret ()) objectKeys) l g (.ok u) l' g' L G)
    (hg : History (contract settings mask publicBaseUrl ticks) g) (hl : Coherent index l g) (hown : OwnIntents l) :
    Enqueues objectKeys l l' G := by
  have henqueues := enqueues_each (k := id) (fun objectKey l g l' g' hrun hg hl hown => ?_) h hg hl hown
  · rwa [List.map_id] at henqueues
  · obtain ⟨id, l₁, g₁, h₁, r₁⟩ := hrun.bind
    obtain ⟨now, l₂, g₂, h₂, r₂⟩ := r₁.bind
    obtain ⟨rfl, -⟩ := h₂.clock
    obtain ⟨b, l₃, g₃, h₃, r₃⟩ := r₂.bind
    obtain ⟨-, rfl⟩ := r₃.ret
    exact enqueues_insertOrSkip h₁ h₃ hg hl hown

lemma enqueues_ofAvatars {uploads : List (String × Time)} {defer : Bool} {error : ε} {u : Unit}
    (h : Runs (contract settings mask publicBaseUrl ticks) (Postgres.Avatars.enqueueObjectDeletions uploads defer error)
      l g (.ok u) l' g' L G)
    (hg : History (contract settings mask publicBaseUrl ticks) g) (hl : Coherent index l g) (hown : OwnIntents l) :
    Enqueues (uploads.map Prod.fst) l l' G := by
  refine enqueues_each (fun upload l g l' g' hrun hg hl hown => ?_) h hg hl hown
  obtain ⟨id, l₁, g₁, h₁, r₁⟩ := hrun.bind
  obtain ⟨now, l₂, g₂, h₂, r₂⟩ := r₁.bind
  obtain ⟨rfl, -⟩ := h₂.clock
  obtain ⟨b, l₃, g₃, h₃, r₃⟩ := r₂.bind
  obtain ⟨-, rfl⟩ := r₃.ret
  exact enqueues_insertOrSkip h₁ h₃ hg hl hown

lemma enqueues_one {objectKey operation : String} {nextAttemptAt : Option Time} {a : Option Unit}
    (h : Runs (contract settings mask publicBaseUrl ticks)
      (AccountPurge.enqueueObjectDeletion objectKey nextAttemptAt operation) l g (.ok a) l' g' L G)
    (hg : History (contract settings mask publicBaseUrl ticks) g) (hl : Coherent index l g) (hown : OwnIntents l) :
    Enqueues [objectKey] l l' G := by
  obtain ⟨id, l₁, g₁, h₁, r₁⟩ := h.bind
  obtain ⟨now, l₂, g₂, h₂, r₂⟩ := r₁.bind
  obtain ⟨rfl, -⟩ := h₂.clock
  obtain ⟨b, l₃, g₃, h₃, r₃⟩ := r₂.bind
  obtain ⟨-, rfl⟩ := r₃.ret
  exact enqueues_insertOrSkip h₁ h₃ hg hl hown

end Statements

end JamyeServer.Objects
