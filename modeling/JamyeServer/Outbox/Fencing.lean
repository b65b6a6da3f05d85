import JamyeServer.Outbox.Worker
import Mathlib.Logic.Relation

/-!
# Fencing of outbox rows

Every claim of a row has a generation of its own. A worker changes a row only while the row still has
the generation of its claim and the lease has not expired, whatever other workers do in between.
-/

namespace JamyeServer.Outbox

open Postgres
open LeaseTable (Result)

namespace Status

/-- A row in this status has been delivered or given up. -/
def terminal : Status → Bool
  | published | deadLetter => true
  | pending | claimed => false

end Status

namespace Event

def isFailure (id : Uuid) : Event → Bool
  | failed i _ _ => decide (i = id)
  | _ => false

/-- The transition of the row to a terminal status. -/
def isTerminal (id : Uuid) : Event → Bool
  | published i _ => decide (i = id)
  | failed i _ last => decide (i = id) && last
  | sent _ _ => false

end Event

/-- A claim takes the row: nobody holds an unexpired lease of it, and its generation is a new one. -/
structure TakenBy (s : State) (worker : Worker) (r r' : OutboxRow) : Prop where
  free : r.status = .pending ∨ r.status = .claimed ∧ ∃ t, r.claimExpiresAt = some t ∧ t ≤ s.now
  intentType : r.intentType = worker.intentType
  generation : r'.claimGeneration = r.claimGeneration + 1
  owner : r'.claimOwner = some worker.config.claimOwner
  status : r'.status = .claimed

/-- The worker of `w` holds the row: its claim has the current generation and the lease lasts. -/
structure HeldBy (s : State) (w : Work) (id : Uuid) (r : OutboxRow) : Prop where
  id : w.claim.id = id
  status : r.status = .claimed
  owner : r.claimOwner = some w.claim.claimOwner
  generation : r.claimGeneration = w.claim.claimGeneration
  lease : ∃ t, r.claimExpiresAt = some t ∧ s.now < t

/-- The step is by a worker that may change the row. -/
def MayChange (s : State) (lab : Label) (id : Uuid) (r r' : OutboxRow) : Prop :=
  (∃ worker locked, lab = .claim worker locked ∧ TakenBy s worker r r') ∨
    ∃ (k : Nat) (w : Work), lab = .record k ∧ s.works[k]? = some w ∧ HeldBy s w id r ∧ w.phase ≠ .claimed

/-- Some run leads from one state to the other. -/
def Later : State → State → Prop := Relation.ReflTransGen fun s s' => ∃ lab, s.step lab = .next s'

/-- A row is marked as published only after the claim of that generation has been sent. -/
def SentFirst (log : List Event) : Prop :=
  ∀ before after id generation, log = after ++ .published id generation :: before → .sent id generation ∈ before

/-- What holds of every reachable state of the outbox. -/
structure Fenced (s : State) : Prop where
  changes : ∀ lab s' id r r', s.step lab = .next s' → s.rows id = some r → s'.rows id = some r' → r' ≠ r →
    MayChange s lab id r r'
  holder : ∀ (k k' : Nat) (w w' : Work), s.works[k]? = some w → s.works[k']? = some w' → w.claim.id = w'.claim.id →
    w.claim.claimGeneration = w'.claim.claimGeneration → k = k'
  terminal : ∀ s' id r, Later s s' → s.rows id = some r → r.status.terminal = true → s'.rows id = some r
  once : ∀ id, s.log.countP (Event.isTerminal id) ≤ 1
  sent : SentFirst s.log
  publishedBy : ∀ id r, s.rows id = some r → r.status = .published → ∃ generation, .published id generation ∈ s.log
  attempts : ∀ id r, s.rows id = some r → r.attemptCount = s.log.countP (Event.isFailure id)
  checks : ∀ lab, s.step lab ≠ .violation

lemma SentFirst.cons {log : List Event} (h : SentFirst log) {e : Event}
    (he : ∀ id generation, e = .published id generation → .sent id generation ∈ log) : SentFirst (e :: log) := by
  intro before after id generation heq
  cases after with
  | nil =>
    obtain ⟨rfl, rfl⟩ := List.cons.inj heq
    exact he id generation rfl
  | cons e' after => exact h before after id generation (List.cons.inj heq).2

section Rows

variable {s : State} {p : Uuid → OutboxRow → Bool} {f : OutboxRow → OutboxRow} {rows : Uuid → Option OutboxRow}
  {r : OutboxRow} {now : Time}

lemma update_eq (h : s.update p f = some rows) (id : Uuid) :
    rows id = (s.rows id).map fun r => if p id r then f r else r := by
  unfold State.update at h
  split at h
  · cases h
    rfl
  · cases h

lemma update_ne_none (h : ∀ id r, s.rows id = some r → p id r = true → (f r).checks = true) :
    s.update p f ≠ none := by
  unfold State.update
  rw [if_pos]
  · exact nofun
  · simp only [List.all_eq_true]
    intro id _
    cases hr : s.rows id with
    | none => rfl
    | some r =>
      cases hp : p id r with
      | false => simp [hp]
      | true => simp [h id r hr hp]

lemma checks_claim {owner : String} {lease : Nat} (hr : r.checks = true) (ht : r.status.terminal = false)
    (howner : 0 < owner.length) : (r.claim owner lease now).checks = true := by
  cases hs : r.status <;>
    simp_all [OutboxRow.checks, OutboxRow.claim, OutboxRow.claimState, OutboxRow.intentShape, OutboxRow.terminalState,
      Status.terminal]

lemma checks_markPublished (hr : r.checks = true) (hs : r.status = .claimed) :
    (r.markPublished now).checks = true := by
  simp_all [OutboxRow.checks, OutboxRow.markPublished, OutboxRow.claimState, OutboxRow.intentShape,
    OutboxRow.terminalState]

lemma checks_recordFailure {code : String} {retry maxAttempts : Nat} (hr : r.checks = true) (hs : r.status = .claimed) :
    (r.recordFailure code retry maxAttempts now).checks = true := by
  cases hlast : exhausted retry maxAttempts now r <;>
    simp_all [OutboxRow.checks, OutboxRow.recordFailure, OutboxRow.claimState, OutboxRow.intentShape,
      OutboxRow.terminalState]

lemma checks_new (createdAt : Time) (event : NewOutboxEvent) : (event.row createdAt).checks = true := by
  cases event with
  | conversation eventType valid conversationId eventId event =>
    simp [NewOutboxEvent.row, OutboxRow.checks, OutboxRow.claimState, OutboxRow.intentShape, OutboxRow.terminalState,
      valid]
  | control intent =>
    have htype : 0 < (controlEventType intent).length := by
      cases intent with
      | membershipRevoked groupId userId =>
        change 0 < "membership.revoked".length
        decide
      | groupDeleted groupId =>
        change 0 < "group.deleted".length
        decide
    have haggregate : controlAggregateType intent ≠ .conversation := by
      cases intent <;> exact nofun
    simp [NewOutboxEvent.row, OutboxRow.checks, OutboxRow.claimState, OutboxRow.intentShape, OutboxRow.terminalState,
      htype, haggregate]

lemma owner_nonempty (worker : Worker) : 0 < worker.config.claimOwner.length := by
  have hvalid := worker.valid
  unfold WorkerConfig.validate at hvalid
  split at hvalid
  · cases hvalid
  · simp only [Bool.not_eq_eq_eq_not, Bool.not_true, Bool.or_eq_false_iff] at hvalid
    have hne := hvalid.1.1.1.1.1
    rcases Nat.eq_zero_or_pos worker.config.claimOwner.length with hz | hpos
    · rw [String.length_eq_zero_iff] at hz
      rw [hz] at hne
      cases hne
    · exact hpos

lemma claimable_free {intentType : IntentType} (h : claimable intentType now r = true) :
    r.intentType = intentType ∧
      (r.status = .pending ∨ r.status = .claimed ∧ ∃ t, r.claimExpiresAt = some t ∧ t ≤ now) := by
  simp only [claimable, Bool.and_eq_true, Bool.or_eq_true, decide_eq_true_eq] at h
  obtain ⟨hi, ⟨hp, -⟩ | ⟨hc, he⟩⟩ := h
  · exact ⟨hi, .inl hp⟩
  · obtain ⟨t, ht, hle⟩ := (Option.any_eq_true _ _).mp he
    exact ⟨hi, .inr ⟨hc, t, ht, by simpa using hle⟩⟩

lemma claimable_not_terminal {intentType : IntentType} (h : claimable intentType now r = true) :
    r.status.terminal = false := by
  rcases (claimable_free h).2 with hs | ⟨hs, -⟩ <;> simp [hs, Status.terminal]

/-- What a held claim says of the row. -/
lemma heldBy_of_holds {w : Work} {id : Uuid} (hid : id = w.claim.id)
    (h : holds w.worker.intentType w.claim s.now r = true) : HeldBy s w id r := by
  simp only [holds, Bool.and_eq_true, decide_eq_true_eq] at h
  obtain ⟨⟨⟨⟨-, hs⟩, ho⟩, hg⟩, he⟩ := h
  obtain ⟨t, ht, hlt⟩ := (Option.any_eq_true _ _).mp he
  exact ⟨hid.symm, hs, ho, hg, t, ht, by simpa using hlt⟩

lemma claimFromRow_eq {intentType : IntentType} {id : Uuid} {c : ClaimedOutboxEvent}
    (h : claimFromRow intentType id r = some c) : c.id = id ∧ c.claimGeneration = r.claimGeneration := by
  unfold claimFromRow at h
  split at h
  · split at h
    · cases h
      exact ⟨rfl, rfl⟩
    · cases h
  · split at h
    · split at h
      · cases h
        exact ⟨rfl, rfl⟩
      · cases h
    · cases h
  · cases h

/-- The claims of a batch are of the rows that the statement has changed. -/
lemma claimed_works (rows : Uuid → Option OutboxRow) (worker : Worker) {picked : List Uuid} (hnodup : picked.Nodup)
    {works : List Work} {all : Bool}
    (h : works = if all then (picked.map fun i => (rows i).bind (claimFromRow worker.intentType i)).reduceOption.map
      fun c => ⟨worker, c, .claimed⟩ else []) :
    (∀ w ∈ works, w.phase = .claimed ∧ ∃ id ∈ picked, ∃ r, rows id = some r ∧ w.claim.id = id ∧
      w.claim.claimGeneration = r.claimGeneration) ∧ works.Pairwise fun w w' => w.claim.id ≠ w'.claim.id := by
  cases all with
  | false =>
    obtain rfl := h
    exact ⟨fun w hw => absurd hw List.not_mem_nil, .nil⟩
  | true =>
    obtain rfl := h
    have hclaim : ∀ {id c}, (rows id).bind (claimFromRow worker.intentType id) = some c →
        ∃ r, rows id = some r ∧ c.id = id ∧ c.claimGeneration = r.claimGeneration := by
      intro id c hc
      obtain ⟨r, hr, hc⟩ := Option.bind_eq_some_iff.mp hc
      exact ⟨r, hr, claimFromRow_eq hc⟩
    rw [if_pos rfl, show (picked.map fun i => (rows i).bind (claimFromRow worker.intentType i)).reduceOption =
      picked.filterMap fun i => (rows i).bind (claimFromRow worker.intentType i) from List.filterMap_map]
    constructor
    · intro w hw
      obtain ⟨c, hc, rfl⟩ := List.mem_map.mp hw
      obtain ⟨id, hid, hc⟩ := List.mem_filterMap.mp hc
      obtain ⟨r, hr, he, hg⟩ := hclaim hc
      exact ⟨rfl, id, hid, r, hr, he, hg⟩
    · rw [List.pairwise_map, List.pairwise_filterMap]
      refine hnodup.imp fun hne c hc c' hc' => ?_
      obtain ⟨-, -, he, -⟩ := hclaim hc
      obtain ⟨-, -, he', -⟩ := hclaim hc'
      rw [he, he']
      exact hne

end Rows

/-- The invariant of the outbox: claims in memory are of generations that the row has had, each of one
worker, and the log agrees with the rows. -/
structure Inv (s : State) : Prop where
  nodup : s.ids.Nodup
  ids : ∀ id, s.rows id ≠ none → id ∈ s.ids
  checks : ∀ id r, s.rows id = some r → r.checks = true
  works : ∀ w ∈ s.works, ∃ r, s.rows w.claim.id = some r ∧ w.claim.claimGeneration ≤ r.claimGeneration
  unique : s.works.Pairwise fun w w' =>
    w.claim.id = w'.claim.id → w.claim.claimGeneration ≠ w'.claim.claimGeneration
  sentBy : ∀ w ∈ s.works, w.phase = .published → .sent w.claim.id w.claim.claimGeneration ∈ s.log
  sent : SentFirst s.log
  published : ∀ id r, s.rows id = some r → r.status = .published → ∃ generation, .published id generation ∈ s.log
  attempts : ∀ id, s.log.countP (Event.isFailure id) = ((s.rows id).map OutboxRow.attemptCount).getD 0
  terminal : ∀ id, s.log.countP (Event.isTerminal id) =
    if (s.rows id).any (fun r => r.status.terminal) then 1 else 0

lemma Inv.init (now : Time) : Inv (.init now) where
  nodup := by simp [State.init]
  ids := by simp [State.init]
  checks := by simp [State.init]
  works := by simp [State.init]
  unique := by simp [State.init]
  sentBy := by simp [State.init]
  sent := by simp [State.init, SentFirst]
  published := by simp [State.init]
  attempts := by simp [State.init]
  terminal := by simp [State.init]

namespace Inv

variable {s s' : State}

lemma insert (h : Inv s) {id : Uuid} {createdAt : Time} {event : NewOutboxEvent} (hid : id ∉ s.ids) :
    Inv { s with ids := id :: s.ids, rows := Function.update s.rows id (some (event.row createdAt)) } := by
  have hnone : s.rows id = none := by
    by_contra hne
    exact hid (h.ids id hne)
  obtain ⟨hstatus, hattempts⟩ : (event.row createdAt).status = .pending ∧ (event.row createdAt).attemptCount = 0 := by
    cases event <;> exact ⟨rfl, rfl⟩
  have hrow : ∀ {i r}, Function.update s.rows id (some (event.row createdAt)) i = some r →
      i = id ∧ r = event.row createdAt ∨ i ≠ id ∧ s.rows i = some r := by
    intro i r hr
    by_cases hi : i = id
    · subst hi
      rw [Function.update_self] at hr
      exact .inl ⟨rfl, (Option.some.inj hr).symm⟩
    · rw [Function.update_of_ne hi] at hr
      exact .inr ⟨hi, hr⟩
  refine ⟨List.nodup_cons.mpr ⟨hid, h.nodup⟩, fun i hi => ?_, fun i r hr => ?_, fun w hw => ?_, h.unique, h.sentBy,
    h.sent, fun i r hr hs => ?_, fun i => ?_, fun i => ?_⟩
  · obtain ⟨r, hr⟩ := Option.ne_none_iff_exists'.mp hi
    rcases hrow hr with ⟨rfl, -⟩ | ⟨-, hr⟩
    · exact List.mem_cons_self
    · exact List.mem_cons_of_mem _ (h.ids i (by simp [hr]))
  · rcases hrow hr with ⟨-, rfl⟩ | ⟨-, hr⟩
    · exact checks_new createdAt event
    · exact h.checks i r hr
  · obtain ⟨r, hr, hg⟩ := h.works w hw
    have hk : w.claim.id ≠ id := by
      intro hk
      rw [hk, hnone] at hr
      cases hr
    exact ⟨r, (Function.update_of_ne hk _ _).trans hr, hg⟩
  · rcases hrow hr with ⟨-, rfl⟩ | ⟨-, hr⟩
    · rw [hstatus] at hs
      cases hs
    · exact h.published i r hr hs
  · by_cases hk : i = id
    · subst hk
      simpa [hattempts, hnone] using h.attempts i
    · simpa [hk] using h.attempts i
  · by_cases hk : i = id
    · subst hk
      simpa [hstatus, hnone, Status.terminal] using h.terminal i
    · simpa [hk] using h.terminal i

/-- The statement of a claim passes the CHECKs. -/
lemma update_claim (h : Inv s) (worker : Worker) (locked : List Uuid) (lease : Nat) :
    s.update (fun i _ => decide (i ∈ s.candidates worker locked))
      (OutboxRow.claim worker.config.claimOwner lease s.now) ≠ none := by
  refine update_ne_none fun id r hr hp => ?_
  obtain ⟨-, r₀, hr₀, hc⟩ := LeaseTable.mem_candidates (of_decide_eq_true hp)
  obtain rfl : r₀ = r := Option.some.inj (hr₀.symm.trans hr)
  exact checks_claim (h.checks id r₀ hr) (claimable_not_terminal hc) (owner_nonempty worker)

lemma claim (h : Inv s) {worker : Worker} {locked : List Uuid} (hs : s.claim worker locked = .next s') : Inv s' := by
  unfold State.claim at hs
  split at hs
  · cases hs
  rename_i lease hlease
  dsimp only at hs
  split at hs
  · cases hs
  rename_i rows hup
  cases hs
  have hrows := update_eq hup
  have hpicked : ∀ id ∈ s.candidates worker locked, ∃ r, s.rows id = some r ∧ claimable worker.intentType s.now r = true ∧
      rows id = some (r.claim worker.config.claimOwner lease s.now) := by
    intro id hid
    obtain ⟨-, r, hr, hc⟩ := LeaseTable.mem_candidates hid
    exact ⟨r, hr, hc, by rw [hrows id, hr]; simp [hid]⟩
  have hkept : ∀ id, id ∉ s.candidates worker locked → rows id = s.rows id := by
    intro id hid
    rw [hrows id]
    cases s.rows id <;> simp [hid]
  have hnodup : (s.candidates worker locked).Nodup := LeaseTable.nodup_candidates h.nodup
  have hage : ∀ id r, s.rows id = some r → ∃ r', rows id = some r' ∧ r.claimGeneration ≤ r'.claimGeneration := by
    intro id r hr
    by_cases hid : id ∈ s.candidates worker locked
    · obtain ⟨r₀, hr₀, -, hr'⟩ := hpicked id hid
      obtain rfl : r₀ = r := Option.some.inj (hr₀.symm.trans hr)
      exact ⟨_, hr', Nat.le_succ _⟩
    · exact ⟨r, (hkept id hid).trans hr, Nat.le_refl _⟩
  have hback : ∀ id r', rows id = some r' → s.rows id = some r' ∨
      ∃ r, s.rows id = some r ∧ claimable worker.intentType s.now r = true ∧
        r' = r.claim worker.config.claimOwner lease s.now := by
    intro id r' hr'
    by_cases hid : id ∈ s.candidates worker locked
    · obtain ⟨r, hr, hc, he⟩ := hpicked id hid
      exact .inr ⟨r, hr, hc, Option.some.inj (hr'.symm.trans he)⟩
    · exact .inl ((hkept id hid).symm.trans hr')
  obtain ⟨hnew, hapart⟩ := claimed_works rows worker hnodup rfl
  refine ⟨h.nodup, fun id hid => ?_, fun id r hr => ?_, fun w hw => ?_, ?_, fun w hw hp => ?_, h.sent,
    fun id r hr hs => ?_, fun id => ?_, fun id => ?_⟩
  · refine h.ids id fun hnone => hid ?_
    change rows id = none
    rw [hrows id, hnone]
    rfl
  · rcases hback id r hr with hold | ⟨r₀, hold, hc, rfl⟩
    · exact h.checks id r hold
    · exact checks_claim (h.checks id r₀ hold) (claimable_not_terminal hc) (owner_nonempty worker)
  · rcases List.mem_append.mp hw with hw | hw
    · obtain ⟨-, id, -, r, hr, rfl, hg⟩ := hnew w hw
      exact ⟨r, hr, hg.le⟩
    · obtain ⟨r, hr, hg⟩ := h.works w hw
      obtain ⟨r', hr', hle⟩ := hage _ r hr
      exact ⟨r', hr', hg.trans hle⟩
  · refine List.pairwise_append.mpr ⟨hapart.imp fun hne he => absurd he hne, h.unique, fun w hw w' hw' he => ?_⟩
    -- the claim in memory is of a generation that the row had before this one
    obtain ⟨-, id, hid, r', hr', rfl, hg⟩ := hnew w hw
    obtain ⟨r, hr, hle⟩ := h.works w' hw'
    obtain ⟨r₀, hr₀, -, he'⟩ := hpicked _ hid
    rw [he, hr] at hr₀
    cases hr₀
    obtain rfl := Option.some.inj (hr'.symm.trans he')
    rw [hg]
    exact Nat.ne_of_gt (Nat.lt_succ_of_le hle)
  · rcases List.mem_append.mp hw with hw | hw
    · rw [(hnew w hw).1] at hp
      cases hp
    · exact h.sentBy w hw hp
  · rcases hback id r hr with hr | ⟨r, -, -, rfl⟩
    · exact h.published id r hr hs
    · cases hs
  · rw [h.attempts id]
    change _ = ((rows id).map OutboxRow.attemptCount).getD 0
    by_cases hid : id ∈ s.candidates worker locked
    · obtain ⟨r, hr, -, hr'⟩ := hpicked id hid
      rw [hr, hr']
      rfl
    · rw [hkept id hid]
  · rw [h.terminal id]
    change _ = if (rows id).any (fun r => r.status.terminal) then 1 else 0
    by_cases hid : id ∈ s.candidates worker locked
    · obtain ⟨r, hr, hc, hr'⟩ := hpicked id hid
      rw [hr, hr']
      simp only [Option.any_some, claimable_not_terminal hc]
      rfl
    · rw [hkept id hid]

lemma tick (h : Inv s) (time : Time) : Inv { s with now := time } :=
  ⟨h.nodup, h.ids, h.checks, h.works, h.unique, h.sentBy, h.sent, h.published, h.attempts, h.terminal⟩

/-- A worker that dies takes its claim with it. -/
lemma crash (h : Inv s) (k : Nat) : Inv { s with works := s.works.eraseIdx k } := by
  have hsub := List.eraseIdx_sublist s.works k
  exact ⟨h.nodup, h.ids, h.checks, fun w hw => h.works w (hsub.subset hw), h.unique.sublist hsub,
    fun w hw => h.sentBy w (hsub.subset hw), h.sent, h.published, h.attempts, h.terminal⟩

lemma publish (h : Inv s) {k : Nat} {w : Work} (hw : s.works[k]? = some w) (result : PublishResult) :
    Inv { s with
      works := s.works.set k { w with phase := result.phase }
      log := if result = .ok then .sent w.claim.id w.claim.claimGeneration :: s.log else s.log } := by
  have hmem : w ∈ s.works := List.mem_of_getElem? hw
  have hold : ∀ {w'}, w' ∈ s.works.set k { w with phase := result.phase } →
      w' ∈ s.works ∨ w' = { w with phase := result.phase } := fun hw' => List.mem_or_eq_of_mem_set hw'
  have hclaims : (s.works.set k { w with phase := result.phase }).map Work.claim = s.works.map Work.claim := by
    obtain ⟨hk, rfl⟩ := List.getElem?_eq_some_iff.mp hw
    have hk' : k < (s.works.map Work.claim).length := by simpa using hk
    rw [List.map_set, ← List.getElem_map Work.claim (h := hk'), List.set_getElem_self]
  have hlog : ∀ {e}, e ∈ s.log → e ∈ if result = .ok then .sent w.claim.id w.claim.claimGeneration :: s.log else s.log := by
    intro e he
    split
    · exact List.mem_cons_of_mem _ he
    · exact he
  refine ⟨h.nodup, h.ids, h.checks, fun w' hw' => ?_, ?_, fun w' hw' hp => ?_, ?_, fun id r hr hs => ?_, fun id => ?_,
    fun id => ?_⟩
  · rcases hold hw' with hw' | rfl
    · exact h.works w' hw'
    · exact h.works w hmem
  · have hunique := h.unique
    rw [← List.pairwise_map (f := Work.claim)
      (R := fun c c' => c.id = c'.id → c.claimGeneration ≠ c'.claimGeneration)] at hunique ⊢
    rw [hclaims]
    exact hunique
  · rcases hold hw' with hw' | rfl
    · exact hlog (h.sentBy w' hw' hp)
    · cases result with
      | ok => exact List.mem_cons_self
      | unavailable => cases hp
      | timeout => cases hp
  · dsimp only
    split
    · exact h.sent.cons nofun
    · exact h.sent
  · obtain ⟨generation, hg⟩ := h.published id r hr hs
    exact ⟨generation, hlog hg⟩
  · rw [← h.attempts id]
    dsimp only
    split <;> simp [Event.isFailure]
  · rw [← h.terminal id]
    dsimp only
    split <;> simp [Event.isTerminal]

/-- The result of a held claim is recorded. -/
lemma finish (h : Inv s) {k : Nat} {w : Work} {r r' : OutboxRow} {e : Event} (hw : s.works[k]? = some w)
    (hr : s.rows w.claim.id = some r) (hheld : r.status = .claimed) (hchecks : r'.checks = true)
    (hg : r'.claimGeneration = r.claimGeneration)
    (he : (e = .published w.claim.id w.claim.claimGeneration ∧ w.phase = .published ∧ r'.status = .published ∧
        r'.attemptCount = r.attemptCount) ∨
      ∃ last, e = .failed w.claim.id w.claim.claimGeneration last ∧
        r'.status = (if last then .deadLetter else .pending) ∧ r'.attemptCount = r.attemptCount + 1) :
    Inv { s with
      rows := Function.update s.rows w.claim.id (some r'), works := s.works.eraseIdx k, log := e :: s.log } := by
  have hmem : w ∈ s.works := List.mem_of_getElem? hw
  have hrow : ∀ {i x}, Function.update s.rows w.claim.id (some r') i = some x →
      i = w.claim.id ∧ x = r' ∨ i ≠ w.claim.id ∧ s.rows i = some x := by
    intro i x hx
    by_cases hi : i = w.claim.id
    · rw [hi, Function.update_self] at hx
      exact .inl ⟨hi, (Option.some.inj hx).symm⟩
    · rw [Function.update_of_ne hi] at hx
      exact .inr ⟨hi, hx⟩
  have hc := h.crash k
  refine ⟨h.nodup, fun i hi => ?_, fun i x hx => ?_, fun w' hw' => ?_, hc.unique, fun w' hw' hp => ?_, ?_,
    fun i x hx hs => ?_, fun i => ?_, fun i => ?_⟩
  · obtain ⟨x, hx⟩ := Option.ne_none_iff_exists'.mp hi
    rcases hrow hx with ⟨rfl, -⟩ | ⟨-, hx⟩
    · exact h.ids _ (by simp [hr])
    · exact h.ids i (by simp [hx])
  · rcases hrow hx with ⟨-, rfl⟩ | ⟨-, hx⟩
    · exact hchecks
    · exact h.checks i x hx
  · obtain ⟨x, hx, hle⟩ := hc.works w' hw'
    by_cases hi : w'.claim.id = w.claim.id
    · obtain rfl := Option.some.inj ((hi ▸ hx).symm.trans hr)
      exact ⟨r', by simp [hi], hle.trans hg.ge⟩
    · exact ⟨x, (Function.update_of_ne hi _ _).trans hx, hle⟩
  · exact List.mem_cons_of_mem _ (hc.sentBy w' hw' hp)
  · refine h.sent.cons fun id generation hpub => ?_
    rcases he with ⟨rfl, hp, -⟩ | ⟨last, rfl, -⟩
    · cases hpub
      exact h.sentBy w hmem hp
    · cases hpub
  · rcases hrow hx with ⟨rfl, rfl⟩ | ⟨-, hx⟩
    · rcases he with ⟨rfl, -⟩ | ⟨last, -, hst, -⟩
      · exact ⟨_, List.mem_cons_self⟩
      · rw [hst] at hs
        cases last <;> cases hs
    · obtain ⟨generation, hg⟩ := h.published i x hx hs
      exact ⟨generation, List.mem_cons_of_mem _ hg⟩
  · have hcount := h.attempts i
    by_cases hi : i = w.claim.id
    · subst hi
      rw [hr] at hcount
      rcases he with ⟨rfl, -, -, ha⟩ | ⟨last, rfl, -, ha⟩
      · simpa [Event.isFailure, ha] using hcount
      · simpa [Event.isFailure, ha] using hcount
    · have hne : Event.isFailure i e = false := by
        rcases he with ⟨rfl, -⟩ | ⟨last, rfl, -⟩ <;> simp [Event.isFailure, Ne.symm hi]
      simpa [hi, List.countP_cons, hne] using hcount
  · have hcount := h.terminal i
    by_cases hi : i = w.claim.id
    · subst hi
      rw [hr] at hcount
      rcases he with ⟨rfl, -, hst, -⟩ | ⟨last, rfl, hst, -⟩
      · simpa [Event.isTerminal, hst, hheld, Status.terminal] using hcount
      · cases last <;> simpa [Event.isTerminal, hst, hheld, Status.terminal] using hcount
    · have hne : Event.isTerminal i e = false := by
        rcases he with ⟨rfl, -⟩ | ⟨last, rfl, -⟩ <;> simp [Event.isTerminal, Ne.symm hi]
      simpa [hi, List.countP_cons, hne] using hcount

section Record

variable {k : Nat} {w : Work} {f : OutboxRow → OutboxRow} {rows : Uuid → Option OutboxRow}

/-- The rows that the result of a claim is recorded in. -/
def recorded (s : State) (w : Work) (id : Uuid) (r : OutboxRow) : Bool :=
  decide (id = w.claim.id) && holds w.worker.intentType w.claim s.now r

lemma update_recorded (h : Inv s) (hf : ∀ r, r.checks = true → r.status = .claimed → (f r).checks = true) :
    s.update (recorded s w) f ≠ none := by
  refine update_ne_none fun id r hr hp => hf r (h.checks id r hr) ?_
  simp only [recorded, Bool.and_eq_true, decide_eq_true_eq] at hp
  exact (heldBy_of_holds hp.1 hp.2).status

/-- The statement changes the row of the claim, when the claim is held, and nothing else. -/
lemma recorded_rows (hup : s.update (recorded s w) f = some rows) :
    (∃ r, s.rows w.claim.id = some r ∧ HeldBy s w w.claim.id r ∧
      rows = Function.update s.rows w.claim.id (some (f r)) ∧
      (s.rows w.claim.id).any (recorded s w w.claim.id) = true) ∨
    (rows = s.rows ∧ (s.rows w.claim.id).any (recorded s w w.claim.id) = false) := by
  have hrows := update_eq hup
  have hother : ∀ id, id ≠ w.claim.id → rows id = s.rows id := by
    intro id hid
    rw [hrows id]
    cases s.rows id <;> simp [recorded, hid]
  cases hheld : (s.rows w.claim.id).any (recorded s w w.claim.id) with
  | true =>
    obtain ⟨r, hr, hp⟩ := (Option.any_eq_true _ _).mp hheld
    refine .inl ⟨r, hr, heldBy_of_holds rfl ?_, funext fun id => ?_, rfl⟩
    · simpa [recorded] using hp
    · by_cases hid : id = w.claim.id
      · subst hid
        rw [Function.update_self, hrows, hr]
        simp [hp]
      · rw [Function.update_of_ne hid, hother id hid]
  | false =>
    refine .inr ⟨funext fun id => ?_, rfl⟩
    by_cases hid : id = w.claim.id
    · subst hid
      rw [hrows]
      cases hr : s.rows w.claim.id with
      | none => rfl
      | some r =>
        rw [hr] at hheld
        simp only [Option.any_some] at hheld
        simp [hheld]
    · exact hother id hid

lemma record (h : Inv s) (hw : s.works[k]? = some w) (hs : s.record w (s.works.eraseIdx k) = .next s') : Inv s' := by
  unfold State.record at hs
  dsimp only at hs
  split at hs
  · cases hs
  · rename_i hphase
    split at hs
    · cases hs
    rename_i rows hup
    cases hs
    rcases recorded_rows hup with ⟨r, hr, hheld, rfl, hany⟩ | ⟨rfl, hany⟩
    · change Inv { s with
        rows := _, works := _, log := if (s.rows w.claim.id).any (recorded s w w.claim.id) then _ else _ }
      rw [if_pos hany]
      exact h.finish hw hr hheld.status (checks_markPublished (h.checks _ r hr) hheld.status) rfl
        (.inl ⟨rfl, hphase, rfl, rfl⟩)
    · change Inv { s with
        rows := _, works := _, log := if (s.rows w.claim.id).any (recorded s w w.claim.id) then _ else _ }
      rw [if_neg (by simp [hany])]
      exact h.crash k
  · rename_i code hphase
    split at hs
    · cases hs
      exact h.crash k
    rename_i retry hretry
    split at hs
    · cases hs
      exact h.crash k
    split at hs
    · cases hs
    rename_i rows hup
    cases hs
    rcases recorded_rows hup with ⟨r, hr, hheld, rfl, hany⟩ | ⟨rfl, hany⟩
    · change Inv { s with
        rows := _, works := _, log := if (s.rows w.claim.id).any (recorded s w w.claim.id) then _ else _ }
      rw [if_pos hany]
      refine h.finish hw hr hheld.status (checks_recordFailure (h.checks _ r hr) hheld.status) rfl
        (.inr ⟨exhausted retry w.worker.config.maxAttempts s.now r, ?_, rfl, rfl⟩)
      rw [hr]
      rfl
    · change Inv { s with
        rows := _, works := _, log := if (s.rows w.claim.id).any (recorded s w w.claim.id) then _ else _ }
      rw [if_neg (by simp [hany])]
      exact h.crash k

end Record

lemma step (h : Inv s) {lab : Label} (hs : s.step lab = .next s') : Inv s' := by
  cases lab with
  | insert id createdAt event =>
    simp only [State.step] at hs
    split at hs
    · cases hs
    split at hs
    · cases hs
    cases hs
    exact h.insert ‹_›
  | tick time =>
    simp only [State.step] at hs
    split at hs
    · cases hs
      exact h.tick time
    · cases hs
  | claim worker locked => exact h.claim hs
  | publish k result =>
    simp only [State.step] at hs
    split at hs
    · split at hs
      · cases hs
        exact h.publish ‹_› result
      · cases hs
    · cases hs
  | record k =>
    simp only [State.step] at hs
    split at hs
    · exact h.record ‹_› hs
    · cases hs
  | crash k =>
    cases hs
    exact h.crash k

end Inv

lemma Reachable.inv {s : State} (h : Reachable s) : Inv s := by
  refine h.invariant (fun s hs => ?_) fun s lab s' hinv hs => ?_
  · obtain ⟨now, rfl⟩ := hs
    exact Inv.init now
  · exact hinv.step (Result.state?_eq_some hs)

section Step

variable {s s' : State} {id : Uuid} {r : OutboxRow}

lemma claim_row {worker : Worker} {locked : List Uuid} (hs : s.claim worker locked = .next s')
    (hr : s.rows id = some r) : ∃ r', s'.rows id = some r' ∧ (r' = r ∨ TakenBy s worker r r') := by
  unfold State.claim at hs
  split at hs
  · cases hs
  dsimp only at hs
  split at hs
  · cases hs
  rename_i rows hup
  cases hs
  have hrow := update_eq hup id
  rw [hr, Option.map_some] at hrow
  refine ⟨_, hrow, ?_⟩
  by_cases hid : id ∈ s.candidates worker locked
  · obtain ⟨-, r₀, hr₀, hc⟩ := LeaseTable.mem_candidates hid
    obtain rfl : r₀ = r := Option.some.inj (hr₀.symm.trans hr)
    obtain ⟨hi, hfree⟩ := claimable_free hc
    rw [if_pos (decide_eq_true hid)]
    exact .inr ⟨hfree, hi, rfl, rfl, rfl⟩
  · exact .inl (if_neg (by simp [hid]))

lemma record_row {w : Work} {works : List Work} (hs : s.record w works = .next s') (hr : s.rows id = some r) :
    w.phase ≠ .claimed ∧ ∃ r', s'.rows id = some r' ∧ (r' = r ∨ HeldBy s w id r) := by
  have hupdate : ∀ {f : OutboxRow → OutboxRow} {rows : Uuid → Option OutboxRow},
      s.update (Inv.recorded s w) f = some rows → ∃ r', rows id = some r' ∧ (r' = r ∨ HeldBy s w id r) := by
    intro f rows hup
    have hrow := update_eq hup id
    rw [hr] at hrow
    refine ⟨_, hrow, ?_⟩
    by_cases hp : Inv.recorded s w id r = true
    · simp only [Inv.recorded, Bool.and_eq_true, decide_eq_true_eq] at hp
      exact .inr (heldBy_of_holds hp.1 hp.2)
    · exact .inl (if_neg hp)
  unfold State.record at hs
  dsimp only at hs
  split at hs
  · cases hs
  · rename_i hphase
    refine ⟨by simp [hphase], ?_⟩
    split at hs
    · cases hs
    rename_i rows hup
    cases hs
    exact hupdate hup
  · rename_i code hphase
    refine ⟨by simp [hphase], ?_⟩
    split at hs
    · cases hs
      exact ⟨r, hr, .inl rfl⟩
    split at hs
    · cases hs
      exact ⟨r, hr, .inl rfl⟩
    split at hs
    · cases hs
    rename_i rows hup
    cases hs
    exact hupdate hup

/-- What a step does to a row. -/
lemma step_row (h : Inv s) {lab : Label} (hs : s.step lab = .next s') (hr : s.rows id = some r) :
    ∃ r', s'.rows id = some r' ∧ (r' = r ∨ MayChange s lab id r r') := by
  cases lab with
  | insert i createdAt event =>
    simp only [State.step] at hs
    split at hs
    · cases hs
    rename_i hnew
    split at hs
    · cases hs
    cases hs
    have hne : id ≠ i := by
      intro he
      exact hnew (he ▸ h.ids id (by simp [hr]))
    exact ⟨r, (Function.update_of_ne hne _ _).trans hr, .inl rfl⟩
  | tick time =>
    simp only [State.step] at hs
    split at hs
    · cases hs
      exact ⟨r, hr, .inl rfl⟩
    · cases hs
  | claim worker locked =>
    obtain ⟨r', hr', he | ht⟩ := claim_row hs hr
    · exact ⟨r', hr', .inl he⟩
    · exact ⟨r', hr', .inr (.inl ⟨worker, locked, rfl, ht⟩)⟩
  | publish k result =>
    simp only [State.step] at hs
    split at hs
    · split at hs
      · cases hs
        exact ⟨r, hr, .inl rfl⟩
      · cases hs
    · cases hs
  | record k =>
    simp only [State.step] at hs
    split at hs
    · rename_i w hw
      obtain ⟨hphase, r', hr', he | hheld⟩ := record_row hs hr
      · exact ⟨r', hr', .inl he⟩
      · exact ⟨r', hr', .inr (.inr ⟨k, w, rfl, hw, hheld, hphase⟩)⟩
    · cases hs
  | crash k =>
    cases hs
    exact ⟨r, hr, .inl rfl⟩

lemma MayChange.not_terminal {lab : Label} {r' : OutboxRow} (h : MayChange s lab id r r') :
    r.status.terminal = false := by
  rcases h with ⟨worker, locked, -, ht⟩ | ⟨k, w, -, -, hheld, -⟩
  · rcases ht.free with hs | ⟨hs, -⟩ <;> simp [hs, Status.terminal]
  · simp [hheld.status, Status.terminal]

/-- A delivered or given up row stays as it is. -/
lemma Inv.terminal_stays (h : Inv s) (hlater : Later s s') (hr : s.rows id = some r)
    (ht : r.status.terminal = true) : s'.rows id = some r := by
  have hrun : Inv s' ∧ s'.rows id = some r := by
    induction hlater with
    | refl => exact ⟨h, hr⟩
    | tail _ hs ih =>
      obtain ⟨lab, hs⟩ := hs
      obtain ⟨hinv, hrow⟩ := ih
      obtain ⟨r', hr', rfl | hmay⟩ := step_row hinv hs hrow
      · exact ⟨hinv.step hs, hr'⟩
      · rw [hmay.not_terminal] at ht
        cases ht
  exact hrun.2

lemma Inv.no_violation (h : Inv s) (lab : Label) : s.step lab ≠ .violation := by
  intro hs
  cases lab with
  | insert id createdAt event =>
    simp only [State.step, checks_new, Bool.true_eq_false, if_false] at hs
    split at hs <;> cases hs
  | tick time =>
    simp only [State.step] at hs
    split at hs <;> cases hs
  | claim worker locked =>
    simp only [State.step, State.claim] at hs
    split at hs
    · cases hs
    split at hs
    · exact h.update_claim worker locked _ ‹_›
    · cases hs
  | publish k result =>
    simp only [State.step] at hs
    split at hs
    · split at hs <;> cases hs
    · cases hs
  | record k =>
    simp only [State.step] at hs
    split at hs
    · unfold State.record at hs
      dsimp only at hs
      split at hs
      · cases hs
      · split at hs
        · exact h.update_recorded (fun r => checks_markPublished) ‹_›
        · cases hs
      · split at hs
        · cases hs
        split at hs
        · cases hs
        split at hs
        · exact h.update_recorded (fun r => checks_recordFailure) ‹_›
        · cases hs
    · cases hs
  | crash k => cases hs

end Step

/-- In every reachable state, whatever the workers do and whenever they die: only the holder of the
current generation of a row changes it, and only while its lease lasts; a row becomes terminal once and
stays so; it is published only after that generation was sent; its attempts are its recorded failures;
and no statement violates a CHECK. -/
theorem outbox_is_fenced {s : State} (h : Reachable s) : Fenced s where
  changes lab s' id r r' hs hr hr' hne := by
    obtain ⟨x, hx, rfl | hmay⟩ := step_row h.inv hs hr
    · exact absurd (Option.some.inj (hr'.symm.trans hx)) hne
    · obtain rfl := Option.some.inj (hr'.symm.trans hx)
      exact hmay
  holder k k' w w' hk hk' hid hg := by
    have hunique := h.inv.unique
    obtain ⟨hlt, rfl⟩ := List.getElem?_eq_some_iff.mp hk
    obtain ⟨hlt', rfl⟩ := List.getElem?_eq_some_iff.mp hk'
    rw [List.pairwise_iff_getElem] at hunique
    rcases Nat.lt_trichotomy k k' with hlt'' | rfl | hlt''
    · exact absurd hg (hunique k k' hlt hlt' hlt'' hid)
    · rfl
    · exact absurd hg.symm (hunique k' k hlt' hlt hlt'' hid.symm)
  terminal s' id r hlater hr ht := h.inv.terminal_stays hlater hr ht
  once id := by
    rw [h.inv.terminal id]
    split <;> omega
  sent := h.inv.sent
  publishedBy := h.inv.published
  attempts id r hr := by
    rw [h.inv.attempts id, hr]
    rfl
  checks := h.inv.no_violation

/-- A worker with a lease of ten seconds. -/
def exampleWorker (claimOwner : String) (valid : WorkerConfig.validate
    ⟨claimOwner, 10, 10 * 10 ^ 9, 10 ^ 9, 10 ^ 9, 10 ^ 9, 5⟩ = true) : Worker :=
  ⟨.control, ⟨claimOwner, 10, 10 * 10 ^ 9, 10 ^ 9, 10 ^ 9, 10 ^ 9, 5⟩, valid⟩

/-- The first worker stalls until its lease has expired, a second one delivers the row, and the first
one comes back. -/
def stalledWorker : List Label :=
  [.insert 1 0 (.control (.groupDeleted 7)),
    .claim (exampleWorker "worker-1" (by decide)) [],
    .tick (10 * 10 ^ 6),
    .claim (exampleWorker "worker-2" (by decide)) [],
    .publish 0 .ok, .publish 1 .ok, .record 1, .record 0]

theorem outbox_is_fenced_for_stalled_worker :
    ∃ s, Transition.exec State.next (.init 0) stalledWorker = some s ∧ s.log = [.published 1 2, .sent 1 1, .sent 1 2] ∧ Fenced s := by
  have hrun : (Transition.exec State.next (.init 0) stalledWorker).any
      (fun s => decide (s.log = [.published 1 2, .sent 1 1, .sent 1 2])) = true := by
    decide
  obtain ⟨s, hs, hlog⟩ := (Option.any_eq_true _ _).mp hrun
  exact ⟨s, hs, of_decide_eq_true hlog, outbox_is_fenced (Transition.reachable_of_exec ⟨0, rfl⟩ hs)⟩

end JamyeServer.Outbox
