import JamyeServer.Contracts.Sha256
import JamyeServer.FixedWindow
import JamyeServer.Framing

/-!
# The rate limiter

`adapters/redis/rate_limit`: one Redis counter for each endpoint and subject, which a script opens, counts up and reads.
Times are the milliseconds of the Redis clock, durations are in nanoseconds, and the SHA-256 of the subject is a
parameter. A check can fail on its way to Redis and back, and Redis may have run the script all the same.
-/

namespace JamyeServer.RateLimit

open FixedWindow

section Ports

structure RateLimitRequest where
  endpoint : String
  subject : String
  limit : UInt32
  window : ℕ
  deriving DecidableEq

inductive RateLimitOutcome
  | allowed
  | denied (retryAfter : ℕ)
  deriving DecidableEq, Repr

inductive RateLimitError
  | rateLimitError
  deriving DecidableEq, Repr

end Ports

section Redis

abbrev Store := String → Option Counter

-- Whether a key is still there in the very millisecond in which its time is up.
variable (lingers : Bool)

/-- The counter of a key that has not expired. -/
def Store.live (s : Store) (now : ℕ) (key : String) : Option Counter := (s key).filter (Counter.alive lingers now)

/-- `INCR`: a key that is not there counts as zero and gets no deadline. The count is a signed 64-bit integer. -/
def incr (now : ℕ) (key : String) (s : Store) : Option (ℕ × Store) :=
  let counter := (s.live lingers now key).getD ⟨0, none⟩
  if counter.count + 1 < 2 ^ 63 then
    some (counter.count + 1, Function.update s key (some ⟨counter.count + 1, counter.deadline⟩))
  else none

/-- `PEXPIRE`, which refuses a deadline that is not a signed 64-bit integer. -/
def pexpire (now : ℕ) (key : String) (milliseconds : ℕ) (s : Store) : Option Store :=
  if now + milliseconds < 2 ^ 63 then
    some (Function.update s key ((s.live lingers now key).map fun c => ⟨c.count, some (now + milliseconds)⟩))
  else none

/-- `PTTL`: what is left in milliseconds, -1 without a deadline and -2 without a key. -/
def pttl (now : ℕ) (key : String) (s : Store) : ℤ :=
  match s.live lingers now key with
  | none => -2
  | some ⟨_, none⟩ => -1
  | some ⟨_, some deadline⟩ => deadline - now

/-- `FIXED_WINDOW_SCRIPT`. A command that fails ends the script, and what the script has done before stays. -/
def fixedWindowScript (now : ℕ) (key : String) (window : ℕ) (s : Store) : Store × Option (ℕ × ℤ) :=
  match incr lingers now key s with
  | none => (s, none)
  | some (current, s₁) =>
    if current = 1 then
      match pexpire lingers now key window s₁ with
      | none => (s₁, none)
      | some s₂ => (s₂, some (current, pttl lingers now key s₂))
    else (s₁, some (current, pttl lingers now key s₁))

end Redis

section Check

/-- How a check fares on its way: not connected, the command lost, its answer lost, or answered. -/
inductive Contact
  | refused
  | lost
  | unanswered
  | answered
  deriving DecidableEq, Repr

def rateLimitKeyPrefix : String := "jamye:rate-limit:v1:"

def validEndpoint (endpoint : String) : Bool :=
  !endpoint.isEmpty && endpoint.toList.all fun c => c.isLower || c == '_' || c.isDigit

def hexDigits : List Char := "0123456789abcdef".toList

def encodeHex (bytes : Bytes) : List Char :=
  bytes.flatMap fun byte : UInt8 => [hexDigits.getD (byte >>> 4).toNat '0', hexDigits.getD (byte &&& 0x0f).toNat '0']

variable (sha256 : Bytes → Bytes) (lingers : Bool)

def rateLimitKey (request : RateLimitRequest) : String :=
  rateLimitKeyPrefix ++ request.endpoint ++ ":" ++ String.ofList (encodeHex (sha256 (Contracts.utf8 request.subject)))

/-- The window in whole milliseconds, if it is one at least and a `u64`. -/
def windowMilliseconds (request : RateLimitRequest) : Option ℕ :=
  let milliseconds := request.window / 1000000
  if 0 < milliseconds ∧ milliseconds < 2 ^ 64 then some milliseconds else none

/-- What `check_limit` makes of the answer of the script. -/
def outcome (limit : UInt32) (count : ℕ) (ttl : ℤ) : RateLimitOutcome :=
  if count ≤ limit.toNat then .allowed
  else .denied ((if 0 < ttl then ttl.toNat else 1) * 1000000)

def checkLimit (s : Store) (now : ℕ) (contact : Contact) (request : RateLimitRequest) :
    Store × Except RateLimitError RateLimitOutcome :=
  match windowMilliseconds request with
  | none => (s, .error .rateLimitError)
  | some window =>
    if request.limit = 0 ∨ validEndpoint request.endpoint = false ∨ request.subject.isEmpty = true then
      (s, .error .rateLimitError)
    else
      let (s', reply) := fixedWindowScript lingers now (rateLimitKey sha256 request) window s
      match contact, reply with
      | .refused, _ | .lost, _ => (s, .error .rateLimitError)
      | .answered, some (count, ttl) => (s', .ok (outcome request.limit count ttl))
      | _, _ => (s', .error .rateLimitError)

end Check

section Runs

/-- A check with the time at which Redis meets it. -/
structure Check where
  time : ℕ
  contact : Contact
  request : RateLimitRequest

/-- A check that was made, with the store before and after it. -/
structure Step where
  check : Check
  before : Store
  after : Store
  result : Except RateLimitError RateLimitOutcome

variable (sha256 : Bytes → Bytes) (lingers : Bool)

/-- The checks of a run, one after the other. -/
def run (s : Store) : List Check → List Step
  | [] => []
  | c :: rest =>
    let (s', result) := checkLimit sha256 lingers s c.time c.contact c.request
    ⟨c, s, s', result⟩ :: run s' rest

/-- The checks of one endpoint and subject. -/
def Check.of (endpoint subject : String) (c : Check) : Bool :=
  decide (c.request.endpoint = endpoint) && decide (c.request.subject = subject)

def Step.isAllowed (step : Step) : Bool :=
  match step.result with
  | .ok .allowed => true
  | _ => false

/-- The check found no counter under the key and left one. -/
def Step.creates (key : String) (step : Step) : Bool :=
  (step.before.live lingers step.check.time key).isNone && (step.after.live lingers step.check.time key).isSome

end Runs

section Keys

lemma encodeHex_injective : Function.Injective encodeHex := by
  have hdigits : ∀ n < 256, 16 * hexDigits.idxOf (hexDigits.getD (UInt8.ofNat n >>> 4).toNat '0') +
      hexDigits.idxOf (hexDigits.getD (UInt8.ofNat n &&& 0x0f).toNat '0') = n := by
    decide +kernel
  have hbyte : ∀ b : UInt8, 16 * hexDigits.idxOf (hexDigits.getD (b >>> 4).toNat '0') +
      hexDigits.idxOf (hexDigits.getD (b &&& 0x0f).toNat '0') = b.toNat := by
    intro b
    have h := hdigits b.toNat b.toNat_lt
    rwa [UInt8.ofNat_toNat] at h
  intro bytes
  induction bytes with
  | nil =>
    intro bytes' h
    cases bytes' with
    | nil => rfl
    | cons b' bytes' => cases h
  | cons b bytes ih =>
    intro bytes' h
    cases bytes' with
    | nil => cases h
    | cons b' bytes' =>
      simp only [encodeHex, List.flatMap_cons, List.cons_append, List.nil_append, List.cons.injEq] at h
      obtain ⟨hhigh, hlow, hrest⟩ := h
      have hb : b.toNat = b'.toNat := by rw [← hbyte b, ← hbyte b', hhigh, hlow]
      rw [ih hrest, UInt8.toNat_inj.mp hb]

lemma colon_notMem_of_valid {endpoint : String} (h : validEndpoint endpoint = true) : ':' ∉ endpoint.toList := by
  simp only [validEndpoint, Bool.and_eq_true, List.all_eq_true] at h
  intro hmem
  exact absurd (h.2 _ hmem) (by decide)

/-- Checks of valid endpoints share a key only if they share the endpoint and the digest of the subject. -/
lemma rateLimitKey_inj {sha256 : Bytes → Bytes} {r r' : RateLimitRequest} (hv : validEndpoint r.endpoint = true)
    (hv' : validEndpoint r'.endpoint = true) (h : rateLimitKey sha256 r = rateLimitKey sha256 r') :
    r.endpoint = r'.endpoint ∧ sha256 (Contracts.utf8 r.subject) = sha256 (Contracts.utf8 r'.subject) := by
  have hlist := congrArg String.toList h
  simp only [rateLimitKey, String.toList_append, String.toList_ofList, List.append_assoc, List.append_cancel_left_eq] at hlist
  -- The first colon behind the prefix ends the endpoint.
  obtain ⟨hendpoint, hdigest⟩ := Framing.append_delimiter_inj (colon_notMem_of_valid hv) (colon_notMem_of_valid hv') hlist
  exact ⟨String.toList_injective hendpoint, encodeHex_injective hdigest⟩

end Keys

section Script

variable {sha256 : Bytes → Bytes} {lingers : Bool} {s : Store} {now window : ℕ} {key : String}

/-- Every counter has counted the check that opened it. -/
def Positive (s : Store) : Prop := ∀ key c, s key = some c → 0 < c.count

lemma live_eq_some {c : Counter} : s.live lingers now key = some c ↔ s key = some c ∧ c.alive lingers now = true := by
  simp [Store.live, Option.filter_eq_some_iff]

lemma gone_of_live (h : s.live lingers now key = none) : ∀ c, s key = some c → c.alive lingers now = false := by
  intro c hc
  by_contra halive
  rw [Bool.not_eq_false] at halive
  rw [live_eq_some.mpr ⟨hc, halive⟩] at h
  cases h

lemma live_update_self (c : Counter) :
    Store.live lingers (Function.update s key (some c)) now key = if c.alive lingers now then some c else none := by
  rw [Store.live, Function.update_self]
  rfl

/-- What is left of the time of a counter, as the script reads it. -/
def timeLeft (now : ℕ) (c : Counter) : ℤ :=
  match c.deadline with
  | none => -1
  | some deadline => deadline - now

lemma pttl_update {c : Counter} (h : c.alive lingers now = true) :
    pttl lingers now key (Function.update s key (some c)) = timeLeft now c := by
  rw [pttl, live_update_self, if_pos h]
  obtain ⟨count, _ | deadline⟩ := c <;> rfl

/-- What the script does to a key whose counter is there: it counts, if it can. -/
lemma script_found {c : Counter} (h : s.live lingers now key = some c) (hpos : 0 < c.count) :
    fixedWindowScript lingers now key window s =
      if c.count + 1 < 2 ^ 63 then
        (Function.update s key (some ⟨c.count + 1, c.deadline⟩), some (c.count + 1, timeLeft now c))
      else (s, none) := by
  have halive : Counter.alive lingers now ⟨c.count + 1, c.deadline⟩ = true := (live_eq_some.mp h).2
  by_cases hlt : c.count + 1 < 2 ^ 63
  · have hincr : incr lingers now key s =
        some (c.count + 1, Function.update s key (some ⟨c.count + 1, c.deadline⟩)) := by
      simp only [incr, h, Option.getD_some, if_pos hlt]
    simp only [fixedWindowScript, hincr, if_pos hlt, if_neg (show ¬ c.count + 1 = 1 by omega), pttl_update halive]
    rfl
  · have hincr : incr lingers now key s = none := by
      simp only [incr, h, Option.getD_some, if_neg hlt]
    simp only [fixedWindowScript, hincr, if_neg hlt]

/-- What the script does to a key without a counter: it opens one, and leaves it without a deadline if Redis refuses
the window. -/
lemma script_absent (h : s.live lingers now key = none) (hpos : 0 < window) :
    fixedWindowScript lingers now key window s =
      if now + window < 2 ^ 63 then
        (Function.update s key (some ⟨1, some (now + window)⟩), some (1, (window : ℤ)))
      else (Function.update s key (some ⟨1, none⟩), none) := by
  have hincr : incr lingers now key s = some (1, Function.update s key (some ⟨1, none⟩)) := by
    simp only [incr, h, Option.getD_none]
    rfl
  have hopen : Store.live lingers (Function.update s key (some ⟨1, none⟩)) now key = some ⟨1, none⟩ := by
    rw [live_update_self]
    rfl
  by_cases hlt : now + window < 2 ^ 63
  · have hexpire : pexpire lingers now key window (Function.update s key (some ⟨1, none⟩)) =
        some (Function.update s key (some ⟨1, some (now + window)⟩)) := by
      simp only [pexpire, if_pos hlt, hopen, Option.map_some, Function.update_idem]
    have halive : Counter.alive lingers now ⟨1, some (now + window)⟩ = true := alive_opened (by omega) 1
    simp only [fixedWindowScript, hincr, if_true, hexpire, if_pos hlt, pttl_update halive]
    simp [timeLeft]
  · have hexpire : pexpire lingers now key window (Function.update s key (some ⟨1, none⟩)) = none := by
      simp only [pexpire, if_neg hlt]
    simp only [fixedWindowScript, hincr, if_true, hexpire, if_neg hlt]

end Script

section Effects

variable {sha256 : Bytes → Bytes} {lingers : Bool} {s : Store} {now : ℕ} {contact : Contact} {r : RateLimitRequest}

/-- What a check does to the store and answers: nothing, or what the script makes of the counter under its key. -/
inductive Effect (sha256 : Bytes → Bytes) (lingers : Bool) (s : Store) (now : ℕ) (r : RateLimitRequest) :
    Store → Except RateLimitError RateLimitOutcome → Prop
  | untouched : Effect sha256 lingers s now r s (.error .rateLimitError)
  | counted {c : Counter} {result : Except RateLimitError RateLimitOutcome} (valid : validEndpoint r.endpoint = true)
      (live : s.live lingers now (rateLimitKey sha256 r) = some c) (positive : 0 < r.window / 1000000)
      (answer : result = .error .rateLimitError ∨ result = .ok (outcome r.limit (c.count + 1) (timeLeft now c))) :
      Effect sha256 lingers s now r
        (Function.update s (rateLimitKey sha256 r) (some ⟨c.count + 1, c.deadline⟩)) result
  | opened {result : Except RateLimitError RateLimitOutcome} (valid : validEndpoint r.endpoint = true)
      (gone : s.live lingers now (rateLimitKey sha256 r) = none) (positive : 0 < r.window / 1000000)
      (answer : result = .error .rateLimitError ∨ result = .ok .allowed) (limit : 1 ≤ r.limit.toNat) :
      Effect sha256 lingers s now r
        (Function.update s (rateLimitKey sha256 r) (some ⟨1, some (now + r.window / 1000000)⟩)) result
  | stuck (valid : validEndpoint r.endpoint = true) (gone : s.live lingers now (rateLimitKey sha256 r) = none) :
      Effect sha256 lingers s now r (Function.update s (rateLimitKey sha256 r) (some ⟨1, none⟩)) (.error .rateLimitError)

lemma windowMilliseconds_eq_some {window : ℕ} (h : windowMilliseconds r = some window) :
    window = r.window / 1000000 ∧ 0 < r.window / 1000000 := by
  simp only [windowMilliseconds] at h
  split at h
  next hwindow =>
    cases h
    exact ⟨rfl, hwindow.1⟩
  next => cases h

lemma checkLimit_effect (hpos : Positive s) :
    Effect sha256 lingers s now r (checkLimit sha256 lingers s now contact r).1
      (checkLimit sha256 lingers s now contact r).2 := by
  unfold checkLimit
  split
  next => exact .untouched
  next window hwindow =>
    obtain ⟨rfl, hmillis⟩ := windowMilliseconds_eq_some hwindow
    split
    next => exact .untouched
    next hvalid =>
      obtain ⟨hlimit, hendpoint, -⟩ : r.limit ≠ 0 ∧ validEndpoint r.endpoint = true ∧ _ := by
        simpa only [not_or, Bool.not_eq_false] using hvalid
      have hone : 1 ≤ r.limit.toNat := by
        have hne : r.limit.toNat ≠ 0 := fun h => hlimit (UInt32.toNat_inj.mp h)
        omega
      cases hlive : s.live lingers now (rateLimitKey sha256 r) with
      | some c =>
        have hc := hpos _ _ (live_eq_some.mp hlive).1
        rw [script_found hlive hc]
        by_cases hlt : c.count + 1 < 2 ^ 63
        · rw [if_pos hlt]
          cases contact
          · exact .untouched
          · exact .untouched
          · exact .counted hendpoint hlive hmillis (.inl rfl)
          · exact .counted hendpoint hlive hmillis (.inr rfl)
        · rw [if_neg hlt]
          cases contact <;> exact .untouched
      | none =>
        rw [script_absent hlive hmillis]
        by_cases hlt : now + r.window / 1000000 < 2 ^ 63
        · rw [if_pos hlt]
          have hallowed : outcome r.limit 1 (r.window / 1000000 : ℕ) = .allowed := if_pos hone
          cases contact
          · exact .untouched
          · exact .untouched
          · exact .opened hendpoint hlive hmillis (.inl rfl) hone
          · exact .opened hendpoint hlive hmillis (.inr (congrArg Except.ok hallowed)) hone
        · rw [if_neg hlt]
          cases contact
          · exact .untouched
          · exact .untouched
          · exact .stuck hendpoint hlive
          · exact .stuck hendpoint hlive

variable {s' : Store} {result : Except RateLimitError RateLimitOutcome}

lemma Effect.positive (h : Effect sha256 lingers s now r s' result) (hpos : Positive s) : Positive s' := by
  have hupdate : ∀ {c : Counter}, 0 < c.count → Positive (Function.update s (rateLimitKey sha256 r) (some c)) := by
    intro c hc key c' hkey
    by_cases heq : key = rateLimitKey sha256 r
    · subst heq
      rw [Function.update_self] at hkey
      cases hkey
      exact hc
    · rw [Function.update_of_ne heq] at hkey
      exact hpos key c' hkey
  cases h with
  | untouched => exact hpos
  | counted => exact hupdate (Nat.succ_pos _)
  | opened => exact hupdate Nat.one_pos
  | stuck => exact hupdate Nat.one_pos

/-- A check of another endpoint or subject leaves the counter alone. -/
lemma Effect.other {r₀ : RateLimitRequest} (h : Effect sha256 lingers s now r s' result)
    (hvalid : validEndpoint r₀.endpoint = true)
    (hsha : sha256 (Contracts.utf8 r.subject) = sha256 (Contracts.utf8 r₀.subject) → r.subject = r₀.subject)
    (hne : ¬ (r.endpoint = r₀.endpoint ∧ r.subject = r₀.subject)) :
    s' (rateLimitKey sha256 r₀) = s (rateLimitKey sha256 r₀) := by
  have hkey : validEndpoint r.endpoint = true → rateLimitKey sha256 r₀ ≠ rateLimitKey sha256 r := by
    intro hv heq
    obtain ⟨hendpoint, hdigest⟩ := rateLimitKey_inj hv hvalid heq.symm
    exact hne ⟨hendpoint, hsha hdigest⟩
  cases h with
  | untouched => rfl
  | counted valid => exact Function.update_of_ne (hkey valid) _ _
  | opened valid => exact Function.update_of_ne (hkey valid) _ _
  | stuck valid => exact Function.update_of_ne (hkey valid) _ _

end Effects

end JamyeServer.RateLimit
