import JamyeServer.OAuth.Service

/-!
# Sessions are bound to attempts

An exchange issues a session only for an attempt that was created for the same provider, redirect URI and
code challenge, and each attempt is good for one session, whatever requests interleave.
-/

namespace JamyeServer.OAuth

namespace Event

def isCreated (state : String) : Event → Bool
  | created st _ => decide (st = state)
  | issued _ _ => false

def isIssued (state : String) : Event → Bool
  | created _ _ => false
  | issued _ input => decide (input.state = state)

end Event

/-- The states of a run: those that were drawn and those that clients presented. -/
def State.used (s : State) : Set String := {x | x ∈ s.generated ∨ x ∈ s.presented}

/-- Every issued session has an earlier attempt that matches its request. -/
def Matched (lib : Libraries) (log : List Event) : Prop :=
  ∀ before after provider input, log = after ++ .issued provider input :: before →
    ∃ nonce, .created input.state ⟨provider, input.redirectUri, lib.pkceS256 input.codeVerifier, nonce⟩ ∈ before

section Keys

variable {lib : Libraries}

lemma hexDigit_inj : ∀ a < 16, ∀ b < 16, hexDigit a = hexDigit b → a = b := by
  decide

lemma encodeHex_cons (byte : UInt8) (digest : List UInt8) :
    encodeHex (byte :: digest) = hexDigit (byte.toNat / 16) :: hexDigit (byte.toNat % 16) :: encodeHex digest := rfl

lemma encodeHex_injective : Function.Injective encodeHex := by
  intro x
  induction x with
  | nil =>
    intro y h
    cases y with
    | nil => rfl
    | cons b y => cases h
  | cons a x ih =>
    intro y h
    cases y with
    | nil => cases h
    | cons b y =>
      rw [encodeHex_cons, encodeHex_cons] at h
      obtain ⟨hhigh, hrest⟩ := List.cons.inj h
      obtain ⟨hlow, hrest⟩ := List.cons.inj hrest
      have ha := a.toNat_lt
      have hb := b.toNat_lt
      have hdiv := hexDigit_inj _ (by omega) _ (by omega) hhigh
      have hmod := hexDigit_inj _ (by omega) _ (by omega) hlow
      have heq : a = b := UInt8.toNat_inj.mp (by omega)
      rw [heq, ih hrest]

lemma attemptKey_injective : Function.Injective attemptKey := by
  intro x y h
  exact encodeHex_injective (List.append_cancel_left h)

/-- Without collisions a key belongs to one state. -/
lemma state_of_key {s : State} (hdigest : Set.InjOn lib.digest s.used) {x y : String} (hx : x ∈ s.used)
    (hy : y ∈ s.used) (h : attemptKey (lib.digest x) = attemptKey (lib.digest y)) : x = y :=
  hdigest hx hy (attemptKey_injective h)

end Keys

namespace Request

def input? : Request → Option ExchangeInput
  | exchangeStart _ input | exchangeAllowed _ input | exchangeBound _ input _ | exchangeIdentified _ input _ =>
    some input
  | authorizeStart _ _ | authorizeAllowed _ _ _ | authorizeCreated _ _ _ _ | answered _ => none

/-- The provider and the input of an exchange that has consumed its attempt. -/
def bound? : Request → Option (ProviderKind × ExchangeInput)
  | exchangeBound slot input _ | exchangeIdentified slot input _ => some (slot.kind, input)
  | _ => none

def holds (state : String) (r : Request) : Bool := r.bound?.any fun b => decide (b.2.state = state)

end Request

/-- The invariant of the sign-ins. `tokens` counts what is left of the attempts of a state: in Redis,
with a request that has consumed it, or spent on a session. -/
structure Inv (lib : Libraries) (s : State) : Prop where
  stored : ∀ key attempt expiresAt, s.attempts key = some (attempt, expiresAt) →
    ∃ st ∈ s.generated, key = attemptKey (lib.digest st) ∧ .created st attempt ∈ s.log
  presented : ∀ r ∈ s.requests, ∀ input, r.input? = some input → input.state ∈ s.presented
  bound : ∀ r ∈ s.requests, ∀ provider input, r.bound? = some (provider, input) →
    ∃ nonce, .created input.state ⟨provider, input.redirectUri, lib.pkceS256 input.codeVerifier, nonce⟩ ∈ s.log
  issued : Matched lib s.log
  created : ∀ st, s.log.countP (Event.isCreated st) ≤ s.generated.count st
  tokens : ∀ st ∈ s.generated, (if (s.attempts (attemptKey (lib.digest st))).isSome then 1 else 0) +
    s.requests.countP (Request.holds st) + s.log.countP (Event.isIssued st) ≤ s.log.countP (Event.isCreated st)

section Lists

variable {α : Type} {l : List α} {k : Nat} {a b : α} {p : α → Bool}

lemma countP_set_add (h : l[k]? = some a) :
    (l.set k b).countP p + (if p a then 1 else 0) = l.countP p + if p b then 1 else 0 := by
  obtain ⟨hk, rfl⟩ := List.getElem?_eq_some_iff.mp h
  rw [List.countP_set hk]
  have hpos : p l[k] = true → 0 < l.countP p := fun hp => List.countP_pos_iff.mpr ⟨l[k], List.getElem_mem hk, hp⟩
  split
  · have := hpos ‹_›
    omega
  · omega

end Lists

lemma Matched.cons_created {lib : Libraries} {log : List Event} (h : Matched lib log) (st : String)
    (attempt : OAuthAttempt) : Matched lib (.created st attempt :: log) := by
  intro before after provider input heq
  cases after with
  | nil => cases heq
  | cons e after => exact h before after provider input (List.cons.inj heq).2

lemma Inv.init (lib : Libraries) (now : Nat) : Inv lib (.init now) where
  stored := by simp [State.init]
  presented := by simp [State.init]
  bound := by simp [State.init]
  issued := by simp [State.init, Matched]
  created := by simp [State.init]
  tokens := by simp [State.init]

namespace Inv

variable {lib : Libraries} {s : State} {k : Nat} {r r' : Request}

/-- The states of created attempts were drawn. -/
lemma generated_of_created (h : Inv lib s) {st : String} {attempt : OAuthAttempt}
    (hc : .created st attempt ∈ s.log) : st ∈ s.generated := by
  have hpos : 0 < s.log.countP (Event.isCreated st) :=
    List.countP_pos_iff.mpr ⟨_, hc, by simp [Event.isCreated]⟩
  have hle := h.created st
  exact List.count_pos_iff.mp (by omega)

/-- A request that goes on without a new attempt. -/
lemma advance (h : Inv lib s) (hk : s.requests[k]? = some r)
    (hinput : ∀ input, r'.input? = some input → r.input? = some input)
    (hbound : ∀ b, r'.bound? = some b → r.bound? = some b) : Inv lib (s.advance k r') := by
  have hr : r ∈ s.requests := List.mem_of_getElem? hk
  have hmem : ∀ {q}, q ∈ s.requests.set k r' → q ∈ s.requests ∨ q = r' := fun hq => List.mem_or_eq_of_mem_set hq
  refine ⟨h.stored, fun q hq input hi => ?_, fun q hq provider input hb => ?_, h.issued, h.created, fun st hst => ?_⟩
  · rcases hmem hq with hq | rfl
    · exact h.presented q hq input hi
    · exact h.presented r hr input (hinput input hi)
  · rcases hmem hq with hq | rfl
    · exact h.bound q hq provider input hb
    · exact h.bound r hr provider input (hbound _ hb)
  · have hcount := countP_set_add (b := r') (p := Request.holds st) hk
    have hholds : r'.holds st = true → r.holds st = true := by
      intro hh
      obtain ⟨b, hb, he⟩ := (Option.any_eq_true _ _).mp hh
      exact (Option.any_eq_true _ _).mpr ⟨b, hbound b hb, he⟩
    have htokens := h.tokens st hst
    have hle : (if r'.holds st then 1 else 0) ≤ if r.holds st then 1 else 0 := by
      split
      · rw [if_pos (hholds ‹_›)]
      · omega
    change (if (s.attempts (attemptKey (lib.digest st))).isSome then 1 else 0) +
      (s.requests.set k r').countP (Request.holds st) + s.log.countP (Event.isIssued st) ≤
        s.log.countP (Event.isCreated st)
    omega

lemma refuse (h : Inv lib s) (hk : s.requests[k]? = some r) (error : AuthError) : Inv lib (s.refuse k error) :=
  h.advance hk nofun nofun

/-- A key is deleted. -/
lemma delete (h : Inv lib s) (key : List Char) : Inv lib { s with attempts := Function.update s.attempts key none } := by
  refine ⟨fun key' attempt expiresAt hkey => ?_, h.presented, h.bound, h.issued, h.created, fun st hst => ?_⟩
  · by_cases he : key' = key
    · simp [he] at hkey
    · simp only [Function.update_of_ne he] at hkey
      exact h.stored key' attempt expiresAt hkey
  · have htokens := h.tokens st hst
    by_cases he : attemptKey (lib.digest st) = key
    · simp only [he, Function.update_self, Option.isSome_none, Bool.false_eq_true, if_false]
      omega
    · simp only [Function.update_of_ne he]
      exact htokens

section Create

variable {st : String}

/-- A state that has just been drawn has no attempt in Redis, with a request or spent. -/
lemma fresh (h : Inv lib s) (hdigest : Set.InjOn lib.digest { s with generated := st :: s.generated }.used)
    (hnew : st ∉ s.generated) : s.attempts (attemptKey (lib.digest st)) = none ∧
      s.requests.countP (Request.holds st) = 0 ∧ s.log.countP (Event.isIssued st) = 0 := by
  refine ⟨?_, ?_, ?_⟩
  · rw [Option.eq_none_iff_forall_ne_some]
    rintro ⟨attempt, expiresAt⟩ hstored
    obtain ⟨st', hst', hkey, -⟩ := h.stored _ attempt expiresAt hstored
    have heq := state_of_key hdigest (.inl List.mem_cons_self) (.inl (List.mem_cons_of_mem _ hst')) hkey
    exact hnew (heq ▸ hst')
  · rw [List.countP_eq_zero]
    intro r hr hholds
    obtain ⟨⟨provider, input⟩, hb, he⟩ := (Option.any_eq_true _ _).mp hholds
    obtain ⟨nonce, hc⟩ := h.bound r hr provider input hb
    obtain rfl : input.state = st := of_decide_eq_true he
    exact hnew (h.generated_of_created hc)
  · rw [List.countP_eq_zero]
    intro e he hissued
    cases e with
    | created st' attempt => cases hissued
    | issued provider input =>
      obtain ⟨after, before, heq⟩ := List.append_of_mem he
      obtain ⟨nonce, hc⟩ := h.issued before after provider input heq
      obtain rfl : input.state = st := of_decide_eq_true hissued
      have hmem : .created input.state ⟨provider, input.redirectUri, lib.pkceS256 input.codeVerifier, nonce⟩ ∈ s.log := by
        rw [heq]
        exact List.mem_append_right _ (List.mem_cons_of_mem _ hc)
      exact hnew (h.generated_of_created hmem)

lemma generate (h : Inv lib s) (hdigest : Set.InjOn lib.digest { s with generated := st :: s.generated }.used)
    (hnew : st ∉ s.generated) : Inv lib { s with generated := st :: s.generated } := by
  obtain ⟨hnone, hholds, hissued⟩ := h.fresh hdigest hnew
  refine ⟨fun key attempt expiresAt hkey => ?_, h.presented, h.bound, h.issued, fun st' => ?_, fun st' hst' => ?_⟩
  · obtain ⟨st', hst', hkey, hc⟩ := h.stored key attempt expiresAt hkey
    exact ⟨st', List.mem_cons_of_mem _ hst', hkey, hc⟩
  · exact (h.created st').trans List.count_le_count_cons
  · rcases List.mem_cons.mp hst' with rfl | hst'
    · simp [hnone, hholds, hissued]
    · exact h.tokens st' hst'

/-- The attempt of a new state is stored. -/
lemma store (h : Inv lib s) (hdigest : Set.InjOn lib.digest { s with generated := st :: s.generated }.used)
    (hnew : st ∉ s.generated) (attempt : OAuthAttempt) (expiresAt : Nat) :
    Inv lib { s with
      generated := st :: s.generated
      attempts := Function.update s.attempts (attemptKey (lib.digest st)) (some (attempt, expiresAt))
      log := .created st attempt :: s.log } := by
  obtain ⟨-, hholds, hissued⟩ := h.fresh hdigest hnew
  refine ⟨fun key a t hkey => ?_, h.presented, fun r hr provider input hb => ?_, h.issued.cons_created st attempt,
    fun st' => ?_, fun st' hst' => ?_⟩
  · by_cases he : key = attemptKey (lib.digest st)
    · simp only [he, Function.update_self] at hkey
      cases hkey
      exact ⟨st, List.mem_cons_self, he, List.mem_cons_self⟩
    · simp only [Function.update_of_ne he] at hkey
      obtain ⟨st', hst', hkey', hc⟩ := h.stored key a t hkey
      exact ⟨st', List.mem_cons_of_mem _ hst', hkey', List.mem_cons_of_mem _ hc⟩
  · obtain ⟨nonce, hc⟩ := h.bound r hr provider input hb
    exact ⟨nonce, List.mem_cons_of_mem _ hc⟩
  · have hle := h.created st'
    simp only [List.countP_cons, List.count_cons, Event.isCreated, decide_eq_true_eq, beq_iff_eq]
    split <;> omega
  · by_cases he : st' = st
    · subst he
      simp [hholds, hissued, Event.isIssued, Event.isCreated]
    · have hold : st' ∈ s.generated := by
        rcases List.mem_cons.mp hst' with heq | hold
        · exact absurd heq he
        · exact hold
      have hkey : attemptKey (lib.digest st') ≠ attemptKey (lib.digest st) := by
        intro hkey
        exact he (state_of_key hdigest (.inl hst') (.inl List.mem_cons_self) hkey)
      have htokens := h.tokens st' hold
      simpa [Function.update_of_ne hkey, List.countP_cons, Event.isIssued, Event.isCreated, Ne.symm he] using htokens

end Create

/-- An exchange takes the attempt that matches its request. -/
lemma bind (h : Inv lib s) (hdigest : Set.InjOn lib.digest s.used) {slot : OAuthProviderSlot} {input : ExchangeInput}
    (hk : s.requests[k]? = some (.exchangeAllowed slot input)) {attempt : OAuthAttempt}
    (hget : s.get (attemptKey (lib.digest input.state)) = some attempt) (hprovider : attempt.provider = slot.kind)
    (hredirect : attempt.redirectUri = input.redirectUri)
    (hchallenge : attempt.codeChallenge = lib.pkceS256 input.codeVerifier) :
    Inv lib ({ s with attempts := Function.update s.attempts (attemptKey (lib.digest input.state)) none }.advance k
      (.exchangeBound slot input attempt.nonce)) := by
  have hr : .exchangeAllowed slot input ∈ s.requests := List.mem_of_getElem? hk
  have hpresented := h.presented _ hr input rfl
  obtain ⟨expiresAt, hstored⟩ : ∃ expiresAt,
      s.attempts (attemptKey (lib.digest input.state)) = some (attempt, expiresAt) := by
    unfold State.get at hget
    split at hget
    · rename_i a t ha
      split at hget
      · cases hget
        exact ⟨t, ha⟩
      · cases hget
    · cases hget
  obtain ⟨st, hst, hkey, hc⟩ := h.stored _ attempt expiresAt hstored
  obtain rfl : input.state = st := state_of_key hdigest (.inr hpresented) (.inl hst) hkey
  have hd := h.delete (attemptKey (lib.digest input.state))
  have hmem : ∀ {q}, q ∈ s.requests.set k (.exchangeBound slot input attempt.nonce) →
      q ∈ s.requests ∨ q = .exchangeBound slot input attempt.nonce := fun hq => List.mem_or_eq_of_mem_set hq
  refine ⟨hd.stored, fun q hq i hi => ?_, fun q hq provider i hb => ?_, h.issued, h.created, fun st hst => ?_⟩
  · rcases hmem hq with hq | rfl
    · exact h.presented q hq i hi
    · cases hi
      exact hpresented
  · rcases hmem hq with hq | rfl
    · exact h.bound q hq provider i hb
    · cases hb
      refine ⟨attempt.nonce, ?_⟩
      rw [← hprovider, ← hredirect, ← hchallenge]
      exact hc
  · have hcount := countP_set_add (b := .exchangeBound slot input attempt.nonce) (p := Request.holds st) hk
    have hholds : Request.holds st (.exchangeAllowed slot input) = false := rfl
    rw [hholds] at hcount
    have htokens := h.tokens st hst
    have hdelete := hd.tokens st hst
    change (if (Function.update s.attempts (attemptKey (lib.digest input.state)) none
        (attemptKey (lib.digest st))).isSome then 1 else 0) +
      (s.requests.set k (.exchangeBound slot input attempt.nonce)).countP (Request.holds st) +
        s.log.countP (Event.isIssued st) ≤ s.log.countP (Event.isCreated st)
    by_cases he : input.state = st
    · subst he
      have hbound : Request.holds input.state (.exchangeBound slot input attempt.nonce) = true := by
        simp [Request.holds, Request.bound?]
      rw [hbound] at hcount
      simp only [hstored, Option.isSome_some, if_true] at htokens
      simp only [Bool.false_eq_true, if_true, if_false] at hcount
      rw [Function.update_self, if_neg (by simp)]
      omega
    · have hbound : Request.holds st (.exchangeBound slot input attempt.nonce) = false := by
        simp [Request.holds, Request.bound?, he]
      rw [hbound] at hcount
      simp only [Bool.false_eq_true, if_false, Nat.add_zero] at hcount
      rw [hcount]
      exact hdelete

/-- An exchange spends its attempt on a session. -/
lemma issue (h : Inv lib s) {provider : ProviderKind} {input : ExchangeInput} (hk : s.requests[k]? = some r)
    (hr : r.bound? = some (provider, input)) (answer : Answer) :
    Inv lib ({ s with log := .issued provider input :: s.log }.advance k (.answered answer)) := by
  have hmem : r ∈ s.requests := List.mem_of_getElem? hk
  have ha : Inv lib (s.advance k (.answered answer)) := h.advance hk nofun nofun
  refine ⟨fun key attempt expiresAt hkey => ?_, ha.presented, fun q hq provider' i hb => ?_, ?_, fun st => ?_,
    fun st hst => ?_⟩
  · obtain ⟨st, hst, hkey, hc⟩ := h.stored key attempt expiresAt hkey
    exact ⟨st, hst, hkey, List.mem_cons_of_mem _ hc⟩
  · obtain ⟨nonce, hc⟩ := ha.bound q hq provider' i hb
    exact ⟨nonce, List.mem_cons_of_mem _ hc⟩
  · intro before after provider' i heq
    cases after with
    | nil =>
      cases heq
      exact h.bound r hmem provider input hr
    | cons e after => exact h.issued before after provider' i (List.cons.inj heq).2
  · simpa [State.advance, List.countP_cons, Event.isCreated] using h.created st
  · have hcount := countP_set_add (b := .answered answer) (p := Request.holds st) hk
    have hanswered : Request.holds st (.answered answer) = false := rfl
    have hholds : r.holds st = decide (input.state = st) := by
      simp [Request.holds, hr]
    have htokens := h.tokens st hst
    rw [hanswered, hholds] at hcount
    simp only [Bool.false_eq_true, if_false, Nat.add_zero] at hcount
    change (if (s.attempts (attemptKey (lib.digest st))).isSome then 1 else 0) +
      (s.requests.set k (.answered answer)).countP (Request.holds st) +
        (Event.issued provider input :: s.log).countP (Event.isIssued st) ≤
          (Event.issued provider input :: s.log).countP (Event.isCreated st)
    rw [List.countP_cons, List.countP_cons]
    change _ + _ + (_ + if decide (input.state = st) then 1 else 0) ≤ _ + 0
    omega

end Inv

section Steps

variable {lib : Libraries} {service : AuthService} {s s' : State} {k : Nat} {r : Request}

lemma admitAuthorize_eq {providerPath : String} {input : AuthorizeInput} {limit : RateLimitAnswer}
    (h : service.admitAuthorize providerPath input limit = .ok r) : ∃ slot, r = .authorizeAllowed slot input 0 := by
  unfold AuthService.admitAuthorize at h
  split at h
  · cases h
  · cases h
  · split at h
    · cases h
    split at h
    · cases h
    · cases h
      exact ⟨_, rfl⟩

lemma admitExchange_eq {providerPath : String} {input : ExchangeInput} {limit : RateLimitAnswer}
    (h : service.admitExchange providerPath input limit = .ok r) : ∃ slot, r = .exchangeAllowed slot input := by
  unfold AuthService.admitExchange at h
  split at h
  · cases h
  · cases h
  · split at h
    · cases h
    split at h
    · cases h
    · cases h
      exact ⟨_, rfl⟩

lemma setNx_eq {key : List Char} {attempt : OAuthAttempt} {attempts : List Char → Option (OAuthAttempt × Nat)}
    (h : s.setNx key attempt = some attempts) :
    attempts = Function.update s.attempts key (some (attempt, s.now + oauthAttemptTtl)) := by
  unfold State.setNx at h
  split at h
  · cases h
  · exact (Option.some.inj h).symm

namespace Inv

lemma checkRateLimit (h : Inv lib s) {limit : RateLimitAnswer} (hk : s.requests[k]? = some r)
    (hs : s.checkRateLimit service k limit r = some s') : Inv lib s' := by
  unfold State.checkRateLimit at hs
  split at hs
  · split at hs
    · rename_i hok
      cases hs
      obtain ⟨slot, rfl⟩ := admitAuthorize_eq hok
      exact h.advance hk nofun nofun
    · cases hs
      exact h.refuse hk _
  · split at hs
    · rename_i hok
      cases hs
      obtain ⟨slot, rfl⟩ := admitExchange_eq hok
      exact h.advance hk (fun _ hi => hi) nofun
    · cases hs
      exact h.refuse hk _
  · cases hs

lemma create (h : Inv lib s) {st nonce : Option String} {redis : RedisAnswer} (hk : s.requests[k]? = some r)
    (hs : s.create lib k st nonce redis r = some s') (hdigest : Set.InjOn lib.digest s'.used)
    (hunique : s'.generated.Nodup) : Inv lib s' := by
  unfold State.create at hs
  split at hs
  · rename_i slot input tries
    split at hs
    · cases hs
      exact h.refuse hk _
    rename_i st
    dsimp only at hs
    have hgenerate : s'.generated = st :: s.generated → s'.presented = s.presented →
        Set.InjOn lib.digest { s with generated := st :: s.generated }.used ∧ st ∉ s.generated := by
      intro hg hp
      rw [State.used, hg, hp] at hdigest
      rw [hg] at hunique
      exact ⟨hdigest, (List.nodup_cons.mp hunique).1⟩
    split at hs
    · cases hs
      obtain ⟨hd, hnew⟩ := hgenerate rfl rfl
      exact (h.generate hd hnew).refuse hk _
    split at hs
    · rename_i hset
      cases hs
      obtain ⟨hd, hnew⟩ := hgenerate rfl rfl
      rw [setNx_eq hset]
      exact (h.store hd hnew _ _).advance hk (fun _ hi => by cases hi) (fun _ hb => by cases hb)
    · split at hs
      · cases hs
        obtain ⟨hd, hnew⟩ := hgenerate rfl rfl
        exact (h.generate hd hnew).refuse hk _
      · cases hs
        obtain ⟨hd, hnew⟩ := hgenerate rfl rfl
        exact (h.generate hd hnew).advance hk (fun _ hi => by cases hi) (fun _ hb => by cases hb)
    · rename_i hset
      cases hs
      obtain ⟨hd, hnew⟩ := hgenerate rfl rfl
      rw [setNx_eq hset]
      exact (h.store hd hnew _ _).refuse hk _
    · cases hs
      obtain ⟨hd, hnew⟩ := hgenerate rfl rfl
      exact (h.generate hd hnew).refuse hk _
  · cases hs

lemma link (h : Inv lib s) {url : Except OAuthProviderError String} (hk : s.requests[k]? = some r)
    (hs : s.link k url r = some s') : Inv lib s' := by
  unfold State.link at hs
  split at hs
  · split at hs
    · cases hs
      exact h.refuse hk _
    split at hs
    · cases hs
      exact h.advance hk nofun nofun
    · cases hs
      exact h.refuse hk _
  · cases hs

lemma consume (h : Inv lib s) (hdigest : Set.InjOn lib.digest s.used) {redis : RedisAnswer}
    (hk : s.requests[k]? = some r) (hs : s.consume lib k redis r = some s') : Inv lib s' := by
  unfold State.consume at hs
  split at hs
  · rename_i slot input
    dsimp only at hs
    split at hs
    · cases hs
      split
      · exact (h.delete _).refuse hk _
      · exact h.refuse hk _
    split at hs
    · cases hs
      exact (h.delete _).refuse hk _
    split at hs
    · cases hs
      exact (h.delete _).refuse hk _
    · rename_i hget hmatch
      cases hs
      simp only [not_or, not_not] at hmatch
      exact h.bind hdigest hk hget hmatch.1 hmatch.2.1 hmatch.2.2
  · cases hs

lemma identify (h : Inv lib s) {identity : Except OAuthProviderError ProviderIdentity}
    (hk : s.requests[k]? = some r) (hs : s.identify lib k identity r = some s') : Inv lib s' := by
  unfold State.identify at hs
  split at hs
  · split at hs
    · cases hs
      exact h.refuse hk _
    split at hs
    · cases hs
      exact h.refuse hk _
    split at hs
    · cases hs
      exact h.refuse hk _
    · cases hs
      exact h.advance hk (fun _ hi => hi) fun _ hb => hb
  · cases hs

lemma session (h : Inv lib s) {answer : SessionAnswer} (hk : s.requests[k]? = some r)
    (hs : s.issue k answer r = some s') : Inv lib s' := by
  unfold State.issue at hs
  split at hs
  · split at hs
    · cases hs
      exact h.issue hk rfl _
    · cases hs
      split
      · exact h.issue hk rfl _
      · exact h.refuse hk _
  · cases hs

lemma step (h : Inv lib s) {lab : Label} (hs : s.step lib service lab = some s')
    (hdigest : Set.InjOn lib.digest s'.used) (hold : Set.InjOn lib.digest s.used) (hunique : s'.generated.Nodup) :
    Inv lib s' := by
  cases lab with
  | authorize providerPath input =>
    cases hs
    refine ⟨h.stored, fun r hr => ?_, fun r hr => ?_, h.issued, h.created, h.tokens⟩
    · rcases List.mem_cons.mp hr with rfl | hr
      · exact nofun
      · exact h.presented r hr
    · rcases List.mem_cons.mp hr with rfl | hr
      · exact nofun
      · exact h.bound r hr
  | exchange providerPath input =>
    cases hs
    refine ⟨h.stored, fun r hr i hi => ?_, fun r hr => ?_, h.issued, h.created, h.tokens⟩
    · rcases List.mem_cons.mp hr with rfl | hr
      · cases hi
        exact List.mem_cons_self
      · exact List.mem_cons_of_mem _ (h.presented r hr i hi)
    · rcases List.mem_cons.mp hr with rfl | hr
      · exact nofun
      · exact h.bound r hr
  | tick seconds =>
    cases hs
    exact ⟨h.stored, h.presented, h.bound, h.issued, h.created, h.tokens⟩
  | evict key =>
    cases hs
    exact h.delete key
  | checkRateLimit k limit =>
    obtain ⟨r, hr, hs⟩ := Option.bind_eq_some_iff.mp hs
    exact h.checkRateLimit hr hs
  | create k state nonce redis =>
    obtain ⟨r, hr, hs⟩ := Option.bind_eq_some_iff.mp hs
    exact h.create hr hs hdigest hunique
  | link k url =>
    obtain ⟨r, hr, hs⟩ := Option.bind_eq_some_iff.mp hs
    exact h.link hr hs
  | consume k redis =>
    obtain ⟨r, hr, hs⟩ := Option.bind_eq_some_iff.mp hs
    exact h.consume hold hr hs
  | identify k identity =>
    obtain ⟨r, hr, hs⟩ := Option.bind_eq_some_iff.mp hs
    exact h.identify hr hs
  | issue k session =>
    obtain ⟨r, hr, hs⟩ := Option.bind_eq_some_iff.mp hs
    exact h.session hr hs
  | drop k =>
    cases hs
    have hsub := List.eraseIdx_sublist s.requests k
    refine ⟨h.stored, fun r hr => h.presented r (hsub.subset hr), fun r hr => h.bound r (hsub.subset hr), h.issued,
      h.created, fun st hst => ?_⟩
    have hle := hsub.countP_le (p := Request.holds st)
    have htokens := h.tokens st hst
    change (if (s.attempts (attemptKey (lib.digest st))).isSome then 1 else 0) +
      (s.requests.eraseIdx k).countP (Request.holds st) + s.log.countP (Event.isIssued st) ≤
        s.log.countP (Event.isCreated st)
    omega

end Inv

/-- The drawn and the presented states of a run stay so. -/
lemma step_suffix {lab : Label} (hs : s.step lib service lab = some s') :
    s.generated <:+ s'.generated ∧ s.presented <:+ s'.presented := by
  cases lab <;> simp only [State.step] at hs
  case authorize => cases hs; exact ⟨List.suffix_rfl, List.suffix_rfl⟩
  case exchange => cases hs; exact ⟨List.suffix_rfl, List.suffix_cons _ _⟩
  case tick => cases hs; exact ⟨List.suffix_rfl, List.suffix_rfl⟩
  case evict => cases hs; exact ⟨List.suffix_rfl, List.suffix_rfl⟩
  case drop => cases hs; exact ⟨List.suffix_rfl, List.suffix_rfl⟩
  all_goals
    obtain ⟨r, -, hs⟩ := Option.bind_eq_some_iff.mp hs
    simp only [State.checkRateLimit, State.create, State.link, State.consume, State.identify, State.issue, State.refuse,
      State.advance] at hs
    repeat' split at hs
    all_goals cases hs
    all_goals first
      | exact ⟨List.suffix_rfl, List.suffix_rfl⟩
      | exact ⟨List.suffix_cons _ _, List.suffix_rfl⟩

end Steps

lemma Reachable.inv {lib : Libraries} {service : AuthService} {s : State} (h : Reachable lib service s)
    (hdigest : Set.InjOn lib.digest s.used) (hunique : s.generated.Nodup) : Inv lib s := by
  -- the states in use earlier are still in use
  refine h.invariant (I := fun s => Set.InjOn lib.digest s.used → s.generated.Nodup → Inv lib s) (fun s hs _ _ => ?_)
    (fun s lab s' ih hs hdigest hunique => ?_) hdigest hunique
  · obtain ⟨now, rfl⟩ := hs
    exact Inv.init lib now
  · obtain ⟨hg, hp⟩ := step_suffix hs
    have hold := hdigest.mono fun x (hx : _ ∨ _) => Or.imp (fun hx => hg.subset hx) (fun hx => hp.subset hx) hx
    exact (ih hold (hunique.sublist hg.sublist)).step hs hdigest hold hunique

/-- However the requests of any number of clients interleave: if the digests of the states in use do not
collide and no state is drawn twice, every session was issued for a state that an earlier `authorize`
created for the same provider and redirect URI, with the code challenge of the presented verifier, and
each state leads to at most one session. -/
theorem session_is_bound_to_attempt {lib : Libraries} {service : AuthService} {s : State}
    (h : Reachable lib service s) (hdigest : Set.InjOn lib.digest s.used) (hunique : s.generated.Nodup) :
    Matched lib s.log ∧ ∀ st, s.log.countP (Event.isIssued st) ≤ 1 := by
  have hinv := h.inv hdigest hunique
  refine ⟨hinv.issued, fun st => ?_⟩
  by_cases hst : st ∈ s.generated
  · have htokens := hinv.tokens st hst
    have hcreated := hinv.created st
    have hcount : s.generated.count st ≤ 1 := List.nodup_iff_count.mp hunique st
    omega
  · have hzero : s.log.countP (Event.isIssued st) = 0 := by
      rw [List.countP_eq_zero]
      intro e he hissued
      cases e with
      | created st' attempt => cases hissued
      | issued provider input =>
        obtain ⟨after, before, heq⟩ := List.append_of_mem he
        obtain ⟨nonce, hc⟩ := hinv.issued before after provider input heq
        obtain rfl : input.state = st := of_decide_eq_true hissued
        have hmem : .created input.state ⟨provider, input.redirectUri, lib.pkceS256 input.codeVerifier, nonce⟩ ∈
            s.log := by
          rw [heq]
          exact List.mem_append_right _ (List.mem_cons_of_mem _ hc)
        exact hst (hinv.generated_of_created hmem)
    omega

section Example

def base64Digit (n : Nat) : Char :=
  "ABCDEFGHIJKLMNOPQRSTUVWXYZabcdefghijklmnopqrstuvwxyz0123456789-_".toList.getD n 'A'

/-- Base64 for URLs, without padding. -/
def encodeBase64 : List UInt8 → List Char
  | a :: b :: c :: rest =>
    base64Digit (a.toNat / 4) :: base64Digit (a.toNat % 4 * 16 + b.toNat / 16) ::
      base64Digit (b.toNat % 16 * 4 + c.toNat / 64) :: base64Digit (c.toNat % 64) :: encodeBase64 rest
  | [a, b] =>
    [base64Digit (a.toNat / 4), base64Digit (a.toNat % 4 * 16 + b.toNat / 16), base64Digit (b.toNat % 16 * 4)]
  | [a] => [base64Digit (a.toNat / 4), base64Digit (a.toNat % 4 * 16)]
  | [] => []

def exampleState : String := "AAECAwQFBgcICQoLDA0ODxAREhMUFRYXGBkaGxwdHh8"

def exampleVerifier : String := "dBjftJeZ4CVP-mB92K27uhbUJU1p1r_wW1gFWFOEjXk"

def exampleChallenge : String := "E9Melhoa2OwvFrEMTJguCHaoeK1t8URWbuGJSstw-cM"

/-- The hashes of the state and of the verifier. -/
def exampleLibraries : Libraries where
  sha256 input :=
    if input = bytes exampleState then
      [234, 134, 106, 117, 126, 76, 56, 186, 191, 168, 18, 124, 190, 154, 64, 157, 62, 31, 147, 160, 15, 241, 72,
        143, 247, 53, 252, 249, 23, 175, 255, 208]
    else if input = bytes exampleVerifier then
      [19, 211, 30, 150, 26, 26, 216, 236, 47, 22, 177, 12, 76, 152, 46, 8, 118, 168, 120, 173, 109, 241, 68, 86,
        110, 225, 137, 74, 203, 112, 249, 195]
    else []
  base64url input := String.ofList (encodeBase64 input)
  urlParse _ := none

def exampleService : AuthService where
  kakao := ⟨.kakao, true, ["https://jamye.example/callback"], true⟩
  google := .disabled .google
  kakaoKind := rfl
  googleKind := rfl

def exampleInput : ExchangeInput :=
  ⟨"code", exampleState, exampleVerifier, "https://jamye.example/callback"⟩

/-- Two exchanges present the state of one attempt. -/
def replayedState : List Label :=
  [.authorize "kakao" ⟨"https://jamye.example/callback", exampleChallenge, "S256"⟩, .checkRateLimit 0 .allowed,
    .create 0 (some exampleState) (some "nonce") .answered, .link 0 (.ok "https://kakao.example/authorize"),
    .exchange "kakao" exampleInput, .exchange "kakao" exampleInput, .checkRateLimit 0 .allowed, .checkRateLimit 1 .allowed,
    .consume 1 .answered, .consume 0 .answered, .identify 1 (.ok ⟨"17", "jamye", none⟩), .issue 1 (.issued false)]

theorem session_is_bound_to_attempt_when_replayed :
    ∃ s, Transition.exec (State.step exampleLibraries exampleService) (.init 0) replayedState = some s ∧
      s.requests.head? = some (.answered (.error .oauthExchangeInvalid)) ∧
      s.log = [.issued .kakao exampleInput,
        .created exampleState ⟨.kakao, "https://jamye.example/callback", exampleChallenge, "nonce"⟩] ∧
      Matched exampleLibraries s.log ∧ ∀ st, s.log.countP (Event.isIssued st) ≤ 1 := by
  have hrun : (Transition.exec (State.step exampleLibraries exampleService) (.init 0) replayedState).any (fun s =>
      decide (s.requests.head? = some (.answered (.error .oauthExchangeInvalid))) &&
        decide (s.log = [.issued .kakao exampleInput,
          .created exampleState ⟨.kakao, "https://jamye.example/callback", exampleChallenge, "nonce"⟩]) &&
        decide (s.generated = [exampleState]) && decide (s.presented = [exampleState, exampleState])) = true := by
    decide +kernel
  obtain ⟨s, hs, hchecks⟩ := (Option.any_eq_true _ _).mp hrun
  simp only [Bool.and_eq_true, decide_eq_true_eq] at hchecks
  obtain ⟨⟨⟨hhead, hlog⟩, hg⟩, hp⟩ := hchecks
  have hused : ∀ x ∈ s.used, x = exampleState := by
    intro x hx
    rcases hx with hx | hx
    · rw [hg] at hx
      exact List.mem_singleton.mp hx
    · rw [hp] at hx
      simpa using hx
  refine ⟨s, hs, hhead, hlog, session_is_bound_to_attempt (Transition.reachable_of_exec ⟨0, rfl⟩ hs) ?_ ?_⟩
  · intro x hx y hy _
    rw [hused x hx, hused y hy]
  · simp [hg]

end Example

end JamyeServer.OAuth
