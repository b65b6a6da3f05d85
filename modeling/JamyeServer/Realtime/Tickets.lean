import JamyeServer.Transition
import JamyeServer.Postgres.Schema
import JamyeServer.Text

/-!
# Realtime tickets

`application/realtime/ticket.rs` over the Redis store of `adapters/redis/realtime`. A ticket is kept behind the digest
of its raw value, with a time to live, and taken out by the first call that presents it. Every call awaits the store,
so calls interleave and time passes between the reading of a clock and the command it was read for. Times are in
nanoseconds, the time to live in milliseconds.
-/

namespace JamyeServer.Realtime.Tickets

open Postgres Transition

def maxTicketLifetime : Nat := 30 * 1000000000
def maxCredentialAttempts : Nat := 3
def currentContractVersion : String := "2"
def previousContractVersion : String := "1"
def nanosPerMilli : Nat := 1000000

structure AccessIdentity where
  userId : Uuid
  sessionId : Uuid
  accessTokenExpiresAt : Option Nat
  deriving DecidableEq, Repr

structure RealtimeTicketRecord where
  userId : Uuid
  sessionId : Uuid
  contractVersion : String
  accessTokenExpiresAt : Nat
  deriving DecidableEq, Repr

structure IssuedRealtimeTicket where
  ticket : String
  expiresAt : Nat
  contractVersion : String
  deriving DecidableEq, Repr

structure RealtimeSession where
  userId : Uuid
  sessionId : Uuid
  contractVersion : String
  accessTokenExpiresAt : Nat
  deriving DecidableEq, Repr

inductive RealtimeTicketError
  | authenticationRequired | authenticationFailed | contractUpgradeRequired | unavailable
  deriving DecidableEq, Repr

def validContractVersion (version : String) : Bool :=
  decide (version = currentContractVersion) || decide (version = previousContractVersion)

/-- The whole milliseconds from now until the expiry, if there is one at least. -/
def positiveTtl (now expiresAt : Nat) : Except RealtimeTicketError Nat :=
  let milliseconds := (expiresAt - now) / nanosPerMilli
  if 0 < milliseconds then .ok milliseconds else .error .authenticationRequired

/-- `digest` of `OsTicketCredentialSource`, after the checks of `consume`; SHA-256 is a parameter. -/
def wellFormed (raw : String) : Bool :=
  !raw.isEmpty && !raw.toList.any Text.isWhitespace && decide (raw.utf8ByteSize = 64) &&
    raw.toList.all fun c => c.isDigit || decide ('a' ≤ c ∧ c ≤ 'f') || decide ('A' ≤ c ∧ c ≤ 'F')

def RealtimeTicketRecord.session (r : RealtimeTicketRecord) : RealtimeSession :=
  ⟨r.userId, r.sessionId, r.contractVersion, r.accessTokenExpiresAt⟩

/-- How far a call is. `issuing` keeps the reading of the clock that its expiry was computed from. -/
inductive Request
  | issuing (record : RealtimeTicketRecord) (ttl issuedAt expiresAt attempts : Nat)
  | consuming (raw : String)
  | checking (raw : String) (record : RealtimeTicketRecord) (takenAt : Nat)
  | issued (ticket : IssuedRealtimeTicket)
  | consumed (session : RealtimeSession)
  | failed (error : RealtimeTicketError)
  deriving DecidableEq, Repr

/-- An entry of the store. -/
structure Entry where
  record : RealtimeTicketRecord
  expiresAt : Nat
  deriving DecidableEq, Repr

/-- A ticket that was put into the store. -/
structure Issue where
  raw : String
  record : RealtimeTicketRecord
  issuedAt : Nat
  deriving DecidableEq, Repr

/-- A ticket that was accepted: when it was taken out of the store and when its access token was checked. -/
structure Acceptance where
  raw : String
  session : RealtimeSession
  takenAt : Nat
  checkedAt : Nat
  deriving DecidableEq, Repr

/-- `used` are the raw tickets that were drawn or presented; `issues` and `accepted` record what happened. -/
structure State where
  now : Nat := 0
  store : String → Option Entry := fun _ => none
  requests : List Request := []
  drawn : List String := []
  used : List String := []
  issues : List Issue := []
  accepted : List Acceptance := []

/-- A command is answered, or its connection breaks after or before the store has run it. -/
inductive RedisAnswer
  | answered
  | lost (applied : Bool)
  deriving DecidableEq, Repr

inductive Label
  | tick (nanoseconds : Nat)
  | issue (identity : AccessIdentity) (contractVersion : String)
  /-- Draws a credential, if that succeeds, and stores it. -/
  | put (k : Nat) (credential : Option String) (redis : RedisAnswer)
  | consume (raw : String)
  | take (k : Nat) (redis : RedisAnswer)
  | check (k : Nat)
  /-- The store loses a key, in a restart. -/
  | lose (digest : String)

/-- The beginning of `issue`, up to its first await. -/
def startIssue (now : Nat) (identity : AccessIdentity) (contractVersion : String) : Request :=
  if validContractVersion contractVersion = false then .failed .contractUpgradeRequired
  else match identity.accessTokenExpiresAt with
    | none => .failed .authenticationRequired
    | some accessTokenExpiresAt =>
      let expiresAt := min accessTokenExpiresAt (now + maxTicketLifetime)
      match positiveTtl now expiresAt with
      | .error e => .failed e
      | .ok ttl =>
        .issuing ⟨identity.userId, identity.sessionId, contractVersion, accessTokenExpiresAt⟩ ttl now expiresAt
          maxCredentialAttempts

namespace State

variable (digest : String → String) (s : State)

def advance (k : Nat) (r : Request) : State := { s with requests := s.requests.set k r }

/-- The value of a key that has not expired. -/
def get (key : String) : Option Entry := (s.store key).filter fun e => decide (s.now < e.expiresAt)

/-- `SET key record NX PX ttl`. -/
def setNx (raw : String) (record : RealtimeTicketRecord) (ttl issuedAt : Nat) : Option State :=
  match s.get (digest raw) with
  | some _ => none
  | none => some { s with
      store := Function.update s.store (digest raw) (some ⟨record, s.now + ttl * nanosPerMilli⟩)
      issues := ⟨raw, record, issuedAt⟩ :: s.issues }

/-- One round of the loop of `issue`. -/
def put (k : Nat) (credential : Option String) (redis : RedisAnswer) : Request → Option State
  | .issuing record ttl issuedAt expiresAt (attempts + 1) =>
    match credential with
    | none => some (s.advance k (.failed .unavailable))
    | some raw =>
      let s := { s with drawn := raw :: s.drawn, used := raw :: s.used }
      match redis, s.setNx digest raw record ttl issuedAt with
      | .answered, some s' => some (s'.advance k (.issued ⟨raw, expiresAt, record.contractVersion⟩))
      | .answered, none =>
        some (s.advance k (if attempts = 0 then .failed .unavailable
          else .issuing record ttl issuedAt expiresAt attempts))
      | .lost true, some s' => some (s'.advance k (.failed .unavailable))
      | .lost _, _ => some (s.advance k (.failed .unavailable))
  | _ => none

/-- `GETDEL`. -/
def take (k : Nat) (redis : RedisAnswer) : Request → Option State
  | .consuming raw =>
    let taken := { s with store := Function.update s.store (digest raw) none }
    match redis with
    | .lost applied => some ((if applied then taken else s).advance k (.failed .unavailable))
    | .answered =>
      match s.get (digest raw) with
      | none => some (taken.advance k (.failed .authenticationFailed))
      | some e => some (taken.advance k (.checking raw e.record s.now))
  | _ => none

/-- The check of the access token with a new reading of the clock. -/
def check (k : Nat) : Request → Option State
  | .checking raw record takenAt =>
    if record.accessTokenExpiresAt ≤ s.now ∨ validContractVersion record.contractVersion = false then
      some (s.advance k (.failed .authenticationFailed))
    else
      some ({ s with accepted := ⟨raw, record.session, takenAt, s.now⟩ :: s.accepted }.advance k
        (.consumed record.session))
  | _ => none

def step : Label → Option State
  | .tick nanoseconds => some { s with now := s.now + nanoseconds }
  | .issue identity version => some { s with requests := s.requests ++ [startIssue s.now identity version] }
  | .put k credential redis => s.requests[k]?.bind (s.put digest k credential redis)
  | .consume raw =>
    if wellFormed raw then some { s with requests := s.requests ++ [.consuming raw], used := raw :: s.used }
    else some { s with requests := s.requests ++ [.failed .authenticationFailed] }
  | .take k redis => s.requests[k]?.bind (s.take digest k redis)
  | .check k => s.requests[k]?.bind (s.check k)
  | .lose key => some { s with store := Function.update s.store key none }

def Init (s : State) : Prop := ∃ now, s = { now := now }

/-- The drawn credential is new and digests do not collide. -/
def NoCollision : Label → Prop
  | .put _ (some raw) _ => raw ∉ s.drawn ∧ ∀ r ∈ s.used, digest r = digest raw → r = raw
  | .consume raw => ∀ r ∈ s.used, digest r = digest raw → r = raw
  | _ => True

/-- No call is about to accept the ticket and none has. -/
def Unspent (raw : String) : Prop :=
  (∀ (k : Nat) r t, s.requests[k]? ≠ some (.checking raw r t)) ∧ ∀ a ∈ s.accepted, a.raw ≠ raw

/-- The ticket was issued with the record. -/
def IssuedWith (raw : String) (record : RealtimeTicketRecord) (i : Issue) : Prop :=
  i ∈ s.issues ∧ i.raw = raw ∧ i.record = record

structure Inv : Prop where
  noCollision : ∀ r ∈ s.used, ∀ r' ∈ s.used, digest r = digest r' → r = r'
  drawn_used : ∀ r ∈ s.drawn, r ∈ s.used
  issues_drawn : ∀ i ∈ s.issues, i.raw ∈ s.drawn
  issues_once : ∀ i ∈ s.issues, ∀ j ∈ s.issues, i.raw = j.raw → i = j
  versions : ∀ i ∈ s.issues, validContractVersion i.record.contractVersion = true
  issuing : ∀ (k : Nat) record ttl issuedAt expiresAt attempts,
    s.requests[k]? = some (.issuing record ttl issuedAt expiresAt attempts) →
    validContractVersion record.contractVersion = true
  consuming : ∀ (k : Nat) raw, s.requests[k]? = some (.consuming raw) → raw ∈ s.used
  stored : ∀ key e, s.store key = some e → ∃ raw i, s.IssuedWith raw e.record i ∧ digest raw = key ∧
    s.Unspent raw
  checking : ∀ (k : Nat) raw record takenAt, s.requests[k]? = some (.checking raw record takenAt) →
    (∃ i, s.IssuedWith raw record i) ∧ takenAt ≤ s.now ∧
    (∀ (k' : Nat) r t, s.requests[k']? = some (.checking raw r t) → k' = k) ∧ ∀ a ∈ s.accepted, a.raw ≠ raw
  accepted : ∀ a ∈ s.accepted, ∃ i ∈ s.issues, i.raw = a.raw ∧ a.session = i.record.session ∧
    a.takenAt ≤ a.checkedAt ∧ a.checkedAt < i.record.accessTokenExpiresAt
  once : (s.accepted.map Acceptance.raw).Nodup

section Steps

variable {digest} {s} {s' : State} {k : Nat} {raw : String} {r : Request} {lab : Label}

lemma inv_init (h : Init s) : s.Inv digest := by
  obtain ⟨now, rfl⟩ := h
  refine ⟨?_, ?_, ?_, ?_, ?_, ?_, ?_, ?_, ?_, ?_, ?_⟩
  all_goals simp

lemma startIssue_spec (now : Nat) (identity : AccessIdentity) (version : String) :
    (∃ e, startIssue now identity version = .failed e) ∨
    ∃ record ttl expiresAt, validContractVersion record.contractVersion = true ∧
      startIssue now identity version = .issuing record ttl now expiresAt maxCredentialAttempts := by
  unfold startIssue
  split_ifs with hversion
  · exact .inl ⟨_, rfl⟩
  · split
    · exact .inl ⟨_, rfl⟩
    · dsimp only
      split
      · exact .inl ⟨_, rfl⟩
      · exact .inr ⟨_, _, _, by simpa using hversion, rfl⟩

/-- A call that neither presents nor accepts a ticket: it goes on, or it begins. -/
def Idle (s : State) : Request → Prop
  | .issuing record _ _ _ _ => validContractVersion record.contractVersion = true
  | .consuming raw => raw ∈ s.used
  | .checking _ _ _ => False
  | _ => True

/-- New entries of the table of calls that are idle keep the invariant. -/
lemma Inv.setRequests {requests : List Request} (h : s.Inv digest)
    (hr : ∀ (j : Nat) r, requests[j]? = some r → s.requests[j]? = some r ∨ Idle s r) :
    ({ s with requests := requests } : State).Inv digest := by
  have hold : ∀ (j : Nat) raw r t, requests[j]? = some (.checking raw r t) → s.requests[j]? = some (.checking raw r t) := by
    intro j raw r t hj
    rcases hr j _ hj with hj | hj
    · exact hj
    · exact hj.elim
  refine ⟨h.noCollision, h.drawn_used, h.issues_drawn, h.issues_once, h.versions, fun j record ttl issuedAt expiresAt attempts hj => ?_,
    fun j raw hj => ?_, fun key e he => ?_, fun j raw record takenAt hj => ?_, h.accepted, h.once⟩
  · rcases hr j _ hj with hj | hj
    · exact h.issuing j record ttl issuedAt expiresAt attempts hj
    · exact hj
  · rcases hr j _ hj with hj | hj
    · exact h.consuming j raw hj
    · exact hj
  · obtain ⟨raw, i, hi, hd, hu⟩ := h.stored key e he
    exact ⟨raw, i, hi, hd, fun j r t hj => hu.1 j r t (hold j raw r t hj), hu.2⟩
  · obtain ⟨hi, ht, hone, hacc⟩ := h.checking j raw record takenAt (hold j raw record takenAt hj)
    exact ⟨hi, ht, fun j' r t hj' => hone j' r t (hold j' raw r t hj'), hacc⟩

lemma Inv.advance (h : s.Inv digest) (hr : Idle s r) : (s.advance k r).Inv digest := by
  refine h.setRequests fun j r' hj => ?_
  rcases getElem?_of_set hj with ⟨-, rfl⟩ | ⟨-, hj⟩
  · exact .inr hr
  · exact .inl hj

lemma Inv.begin (h : s.Inv digest) (hr : Idle s r) : ({ s with requests := s.requests ++ [r] } : State).Inv digest := by
  refine h.setRequests fun j r' hj => ?_
  rcases getElem?_of_snoc hj with ⟨-, rfl⟩ | hj
  · exact .inr hr
  · exact .inl hj

/-- Time passes and keys disappear. -/
lemma Inv.forget {store : String → Option Entry} (h : s.Inv digest) {now : Nat} (hnow : s.now ≤ now)
    (hs : ∀ key e, store key = some e → s.store key = some e) :
    ({ s with now := now, store := store } : State).Inv digest :=
  ⟨h.noCollision, h.drawn_used, h.issues_drawn, h.issues_once, h.versions, h.issuing, h.consuming,
    fun key e he => h.stored key e (hs key e he), fun k raw record takenAt hk => by
      obtain ⟨hi, ht, hrest⟩ := h.checking k raw record takenAt hk
      exact ⟨hi, Nat.le_trans ht hnow, hrest⟩, h.accepted, h.once⟩

lemma forget_key {key : String} : ∀ key' e, Function.update s.store key none key' = some e → s.store key' = some e := by
  intro key' e he
  by_cases hk : key' = key
  · subst hk
    rw [Function.update_self] at he
    cases he
  · rwa [Function.update_of_ne hk] at he

/-- A new raw ticket is drawn or presented. -/
lemma Inv.use (h : s.Inv digest) (hn : ∀ r ∈ s.used, digest r = digest raw → r = raw) (drawn : List String)
    (hd : ∀ r ∈ drawn, r = raw ∨ r ∈ s.drawn) (hsub : ∀ r ∈ s.drawn, r ∈ drawn) :
    ({ s with drawn := drawn, used := raw :: s.used } : State).Inv digest := by
  refine ⟨fun r hr r' hr' he => ?_, fun r hr => ?_, fun i hi => hsub _ (h.issues_drawn i hi), h.issues_once, h.versions, h.issuing,
    fun j raw' hj => List.mem_cons_of_mem _ (h.consuming j raw' hj), h.stored, h.checking, h.accepted, h.once⟩
  · rcases List.mem_cons.mp hr with hr | hr
    · rcases List.mem_cons.mp hr' with hr' | hr'
      · exact hr.trans hr'.symm
      · exact hr.trans (hn r' hr' (hr ▸ he.symm)).symm
    · rcases List.mem_cons.mp hr' with hr' | hr'
      · exact (hn r hr (hr' ▸ he)).trans hr'.symm
      · exact h.noCollision r hr r' hr' he
  · rcases hd r hr with rfl | hr
    · exact List.mem_cons_self
    · exact List.mem_cons_of_mem _ (h.drawn_used r hr)

/-- A ticket that is drawn for the first time goes into the store. -/
lemma Inv.setNx {record : RealtimeTicketRecord} {ttl issuedAt : Nat} (h : s.Inv digest) (hdrawn : raw ∈ s.drawn)
    (hnew : ∀ i ∈ s.issues, i.raw ≠ raw) (hversion : validContractVersion record.contractVersion = true)
    (hs : s.setNx digest raw record ttl issuedAt = some s') : s'.Inv digest := by
  unfold State.setNx at hs
  split at hs
  · cases hs
  · cases hs
    refine ⟨h.noCollision, h.drawn_used, fun i hi => ?_, fun i hi j hj hraw => ?_, fun i hi => ?_, h.issuing, h.consuming,
      fun key e he => ?_, fun j raw' record' takenAt hj => ?_, fun a ha => ?_, h.once⟩
    · rcases List.mem_cons.mp hi with rfl | hi
      · exact hdrawn
      · exact h.issues_drawn i hi
    · rcases List.mem_cons.mp hi with rfl | hi
      · rcases List.mem_cons.mp hj with rfl | hj
        · rfl
        · exact absurd hraw.symm (hnew j hj)
      · rcases List.mem_cons.mp hj with rfl | hj
        · exact absurd hraw (hnew i hi)
        · exact h.issues_once i hi j hj hraw
    · rcases List.mem_cons.mp hi with rfl | hi
      · exact hversion
      · exact h.versions i hi
    · by_cases hk : key = digest raw
      · subst hk
        simp only [Function.update_self] at he
        obtain rfl := Option.some.inj he
        refine ⟨raw, ⟨raw, record, issuedAt⟩, ⟨List.mem_cons_self, rfl, rfl⟩, rfl, fun j r t hj => ?_,
          fun a ha heq => ?_⟩
        · obtain ⟨⟨i, hi, hraw, -⟩, -⟩ := h.checking j raw r t hj
          exact hnew i hi hraw
        · obtain ⟨i, hi, hraw, -⟩ := h.accepted a ha
          exact hnew i hi (hraw.trans heq)
      · simp only [Function.update_of_ne hk] at he
        obtain ⟨raw', i, ⟨hi, hraw, hrec⟩, hrest⟩ := h.stored key e he
        exact ⟨raw', i, ⟨List.mem_cons_of_mem _ hi, hraw, hrec⟩, hrest⟩
    · obtain ⟨⟨i, hi, hraw, hrec⟩, hrest⟩ := h.checking j raw' record' takenAt hj
      exact ⟨⟨i, List.mem_cons_of_mem _ hi, hraw, hrec⟩, hrest⟩
    · obtain ⟨i, hi, hrest⟩ := h.accepted a ha
      exact ⟨i, List.mem_cons_of_mem _ hi, hrest⟩

lemma Inv.put {credential : Option String} {redis : RedisAnswer} (h : s.Inv digest) (hk : s.requests[k]? = some r)
    (hn : NoCollision digest s (.put k credential redis))
    (hs : s.put digest k credential redis r = some s') : s'.Inv digest := by
  unfold State.put at hs
  split at hs
  case h_2 => cases hs
  next record ttl issuedAt expiresAt attempts =>
  have hversion := h.issuing k record ttl issuedAt expiresAt _ hk
  cases credential with
  | none =>
    cases hs
    exact h.advance trivial
  | some raw =>
    obtain ⟨hfresh, hcoll⟩ := hn
    have huse := h.use hcoll (raw :: s.drawn) (fun r hr => List.mem_cons.mp hr)
      (fun r hr => List.mem_cons_of_mem _ hr)
    have hnew : ∀ i ∈ s.issues, i.raw ≠ raw := fun i hi he => hfresh (he ▸ h.issues_drawn i hi)
    dsimp only at hs
    split at hs
    · next s₁ hset =>
      cases hs
      exact (huse.setNx List.mem_cons_self hnew hversion hset).advance trivial
    · cases hs
      refine huse.advance ?_
      split_ifs
      · trivial
      · exact hversion
    · next s₁ hset =>
      cases hs
      exact (huse.setNx List.mem_cons_self hnew hversion hset).advance trivial
    · cases hs
      exact huse.advance trivial

lemma Inv.take {redis : RedisAnswer} (h : s.Inv digest) (hk : s.requests[k]? = some r)
    (hs : s.take digest k redis r = some s') : s'.Inv digest := by
  unfold State.take at hs
  split at hs
  case h_2 => cases hs
  next raw =>
  have hforget : ({ s with store := Function.update s.store (digest raw) none } : State).Inv digest :=
    h.forget (Nat.le_refl _) forget_key
  dsimp only at hs
  split at hs
  · cases hs
    split_ifs
    · exact hforget.advance trivial
    · exact h.advance trivial
  · split at hs
    · cases hs
      exact hforget.advance trivial
    · next e he =>
      cases hs
      obtain ⟨hstore, -⟩ := Option.filter_eq_some_iff.mp he
      obtain ⟨raw', i, hi, hd, hu⟩ := h.stored _ e hstore
      have hraw : raw' = raw := by
        refine h.noCollision raw' ?_ raw (h.consuming k raw hk) hd
        rw [← hi.2.1]
        exact h.drawn_used _ (h.issues_drawn i hi.1)
      subst hraw
      refine ⟨h.noCollision, h.drawn_used, h.issues_drawn, h.issues_once, h.versions, fun j record ttl issuedAt expiresAt attempts hj => ?_,
        fun j r hj => ?_, fun key e' he' => ?_, fun j r record takenAt hj => ?_, h.accepted, h.once⟩
      · rcases getElem?_of_set hj with ⟨-, hj⟩ | ⟨-, hj⟩
        · cases hj
        · exact h.issuing j record ttl issuedAt expiresAt attempts hj
      · rcases getElem?_of_set hj with ⟨-, hj⟩ | ⟨-, hj⟩
        · cases hj
        · exact h.consuming j r hj
      · by_cases hkey : key = digest raw'
        · subst hkey
          simp only [State.advance, Function.update_self] at he'
          cases he'
        · simp only [State.advance, Function.update_of_ne hkey] at he'
          obtain ⟨other, i', hi', hd', hu'⟩ := h.stored key e' he'
          refine ⟨other, i', hi', hd', fun j r t hj => ?_, hu'.2⟩
          rcases getElem?_of_set hj with ⟨-, hj⟩ | ⟨-, hj⟩
          · cases hj
            exact hkey hd'.symm
          · exact hu'.1 j r t hj
      · rcases getElem?_of_set hj with ⟨rfl, he'⟩ | ⟨hne, hj⟩
        · cases he'
          refine ⟨⟨i, hi⟩, Nat.le_refl _, fun j' r t hj' => ?_, hu.2⟩
          rcases getElem?_of_set hj' with ⟨rfl, -⟩ | ⟨-, hj'⟩
          · rfl
          · exact absurd hj' (hu.1 j' r t)
        · obtain ⟨hi', ht, hone, hacc⟩ := h.checking j r record takenAt hj
          refine ⟨hi', ht, fun j' r' t hj' => ?_, hacc⟩
          rcases getElem?_of_set hj' with ⟨-, hj'⟩ | ⟨-, hj'⟩
          · cases hj'
            exact absurd hj (hu.1 j record takenAt)
          · exact hone j' r' t hj'

lemma Inv.check (h : s.Inv digest) (hk : s.requests[k]? = some r) (hs : s.check k r = some s') : s'.Inv digest := by
  unfold State.check at hs
  split at hs
  case h_2 => cases hs
  next raw record takenAt =>
  split_ifs at hs with hbad
  · cases hs
    exact h.advance trivial
  · cases hs
    push Not at hbad
    obtain ⟨⟨i, hi, hraw, hrec⟩, ht, hone, hacc⟩ := h.checking k raw record takenAt hk
    -- The only call that was about to accept the ticket is over.
    have hno : ∀ (j : Nat) r t, (s.requests.set k (.consumed record.session))[j]? ≠ some (.checking raw r t) := by
      intro j r t hj
      rcases getElem?_of_set hj with ⟨-, hj⟩ | ⟨hne, hj⟩
      · cases hj
      · exact hne (hone j r t hj)
    refine ⟨h.noCollision, h.drawn_used, h.issues_drawn, h.issues_once, h.versions, fun j record ttl issuedAt expiresAt attempts hj => ?_,
      fun j r hj => ?_, fun key e he => ?_, fun j r record' takenAt' hj => ?_, fun a ha => ?_, ?_⟩
    · rcases getElem?_of_set hj with ⟨-, hj⟩ | ⟨-, hj⟩
      · cases hj
      · exact h.issuing j record ttl issuedAt expiresAt attempts hj
    · rcases getElem?_of_set hj with ⟨-, hj⟩ | ⟨-, hj⟩
      · cases hj
      · exact h.consuming j r hj
    · obtain ⟨other, i', hi', hd', hu'⟩ := h.stored key e he
      refine ⟨other, i', hi', hd', fun j r t hj => ?_, fun a ha heq => ?_⟩
      · rcases getElem?_of_set hj with ⟨-, hj⟩ | ⟨-, hj⟩
        · cases hj
        · exact hu'.1 j r t hj
      · rcases List.mem_cons.mp ha with rfl | ha
        · simp only at heq
          subst heq
          exact hu'.1 k record takenAt hk
        · exact hu'.2 a ha heq
    · rcases getElem?_of_set hj with ⟨-, hj'⟩ | ⟨hne, hj'⟩
      · cases hj'
      · obtain ⟨hi', ht', hone', hacc'⟩ := h.checking j r record' takenAt' hj'
        refine ⟨hi', ht', fun j' r' t hj'' => ?_, fun a ha heq => ?_⟩
        · rcases getElem?_of_set hj'' with ⟨-, hj''⟩ | ⟨-, hj''⟩
          · cases hj''
          · exact hone' j' r' t hj''
        · rcases List.mem_cons.mp ha with rfl | ha
          · simp only at heq
            subst heq
            exact hno j record' takenAt' hj
          · exact hacc' a ha heq
    · rcases List.mem_cons.mp ha with rfl | ha
      · exact ⟨i, hi, hraw, by rw [hrec], ht, by rw [hrec]; exact hbad.1⟩
      · exact h.accepted a ha
    · refine List.nodup_cons.mpr ⟨fun hm => ?_, h.once⟩
      obtain ⟨a, ha, heq⟩ := List.mem_map.mp hm
      exact hacc a ha heq

lemma Inv.step (h : s.Inv digest) (hn : NoCollision digest s lab)
    (hs : s.step digest lab = some s') : s'.Inv digest := by
  cases lab with
  | tick n =>
    cases hs
    exact h.forget (Nat.le_add_right _ _) fun _ _ he => he
  | issue identity version =>
    cases hs
    refine h.begin ?_
    rcases startIssue_spec s.now identity version with ⟨e, he⟩ | ⟨record, ttl, expiresAt, hversion, he⟩
    · rw [he]
      trivial
    · rw [he]
      exact hversion
  | put k credential redis =>
    obtain ⟨r, hk, hs⟩ := Option.bind_eq_some_iff.mp hs
    exact h.put hk hn hs
  | consume raw =>
    simp only [State.step] at hs
    split_ifs at hs
    · cases hs
      exact (h.use hn s.drawn (fun r hr => .inr hr) (fun r hr => hr)).begin (r := .consuming raw) List.mem_cons_self
    · cases hs
      exact h.begin trivial
  | take k redis =>
    obtain ⟨r, hk, hs⟩ := Option.bind_eq_some_iff.mp hs
    exact h.take hk hs
  | check k =>
    obtain ⟨r, hk, hs⟩ := Option.bind_eq_some_iff.mp hs
    exact h.check hk hs
  | lose key =>
    cases hs
    exact h.forget (Nat.le_refl _) forget_key

/-- The runs without collisions. -/
abbrev RunsDistinct (digest : String → String) :=
  RunWhere Init (step digest) fun _ s lab => NoCollision digest s lab

variable {l : List (State × Label)}

lemma RunsDistinct.inv (hr : RunsDistinct digest l s) : s.Inv digest := by
  refine RunWhere.invariant (I := fun _ s => s.Inv digest) (fun s hs => inv_init hs) ?_ hr
  intro l s lab s' _ hi hc hs
  exact hi.step hc hs

end Steps

section Late

/-- `NoCollision` as a check. -/
def noCollision (digest : String → String) (s : State) : Label → Bool
  | .put _ (some raw) _ => !s.drawn.contains raw && s.used.all fun r => !(digest r == digest raw) || r == raw
  | .consume raw => s.used.all fun r => !(digest r == digest raw) || r == raw
  | _ => true

end Late

end State

end JamyeServer.Realtime.Tickets
