import JamyeServer.RateLimit.Limiter

/-!
# Runs of the rate limiter

The counter of one endpoint and subject through a run of checks, in which the checks of all others take part.
-/

namespace JamyeServer.RateLimit

open FixedWindow

variable {sha256 : Bytes → Bytes} {lingers : Bool} {s t s' : Store} {now : ℕ} {r₀ : RateLimitRequest}
variable {result : Except RateLimitError RateLimitOutcome}

section Steps

/-- What a check of the counter's own requests shows of it. -/
def Step.event (lingers : Bool) (key : String) (step : Step) : Event :=
  ⟨step.check.time, step.isAllowed, step.creates lingers key⟩

lemma outcome_allowed {limit : UInt32} {count : ℕ} {ttl : ℤ} (h : outcome limit count ttl = .allowed) :
    count ≤ limit.toNat := by
  unfold outcome at h
  split at h
  next hle => exact hle
  next => cases h

/-- A check with the counter's own request is an event of its window. -/
lemma Effect.tick {contact : Contact} (h : Effect sha256 lingers s now r₀ s' result) :
    Tick lingers r₀.limit.toNat (r₀.window / 1000000) (s (rateLimitKey sha256 r₀))
      (Step.event lingers (rateLimitKey sha256 r₀) ⟨⟨now, contact, r₀⟩, s, s', result⟩) (s' (rateLimitKey sha256 r₀)) := by
  cases h with
  | untouched =>
    have hcreates : ((s.live lingers now (rateLimitKey sha256 r₀)).isNone &&
        (s.live lingers now (rateLimitKey sha256 r₀)).isSome) = false := by
      cases s.live lingers now (rateLimitKey sha256 r₀) <;> rfl
    rw [Step.event, Step.creates]
    dsimp only
    rw [hcreates]
    exact .idle _ _
  | @counted c _ valid live positive answer =>
    obtain ⟨hkey, halive⟩ := live_eq_some.mp live
    rw [Step.event, Step.creates]
    dsimp only
    rw [live, Function.update_self, hkey]
    refine .counted halive fun hallowed => ?_
    rcases answer with rfl | rfl
    · cases hallowed
    · unfold Step.isAllowed at hallowed
      dsimp only at hallowed
      split at hallowed
      next heq => exact outcome_allowed (Except.ok.inj heq)
      next => cases hallowed
  | opened valid gone positive answer limit =>
    have halive : Counter.alive lingers now ⟨1, some (now + r₀.window / 1000000)⟩ = true := alive_opened (by omega) 1
    rw [Step.event, Step.creates]
    dsimp only
    rw [gone, live_update_self, if_pos halive, Function.update_self]
    exact .opened (gone_of_live gone) fun _ => limit
  | stuck valid gone =>
    rw [Step.event, Step.creates]
    dsimp only
    rw [gone, live_update_self, Function.update_self]
    exact .stuck (gone_of_live gone)

/-- A denial finds the counter, counts, and leaves the deadline as it is. It reports the time that is left. -/
lemma Effect.denied {retry : ℕ} (h : Effect sha256 lingers s now r₀ s' (.ok (.denied retry))) :
    0 < r₀.window / 1000000 ∧ ∃ c, s.live lingers now (rateLimitKey sha256 r₀) = some c ∧
      s' (rateLimitKey sha256 r₀) = some ⟨c.count + 1, c.deadline⟩ ∧
      retry = (if 0 < timeLeft now c then (timeLeft now c).toNat else 1) * 1000000 := by
  cases h with
  | @counted c _ valid live positive answer =>
    refine ⟨positive, c, live, Function.update_self _ _ _, ?_⟩
    rcases answer with hanswer | hanswer
    · cases hanswer
    · have houtcome := Except.ok.inj hanswer
      unfold outcome at houtcome
      split at houtcome
      · cases houtcome
      · exact RateLimitOutcome.denied.inj houtcome
  | opened valid gone positive answer limit => rcases answer with hanswer | hanswer <;> cases hanswer

lemma checkLimit_invalid {contact : Contact} (h : validEndpoint r₀.endpoint = false) :
    checkLimit sha256 lingers s now contact r₀ = (s, .error .rateLimitError) := by
  unfold checkLimit
  split
  · rfl
  · rw [if_pos (.inr (.inl h))]

lemma live_congr {key : String} (h : s key = t key) : s.live lingers now key = t.live lingers now key := by
  rw [Store.live, Store.live, h]

/-- The script answers from its own key, and leaves there what was there. -/
lemma script_congr {key : String} {window : ℕ} (h : s key = t key) (hs : Positive s) (ht : Positive t) (hpos : 0 < window) :
    (fixedWindowScript lingers now key window s).2 = (fixedWindowScript lingers now key window t).2 ∧
      (fixedWindowScript lingers now key window s).1 key = (fixedWindowScript lingers now key window t).1 key := by
  cases hlive : s.live lingers now key with
  | some c =>
    have hlive' : t.live lingers now key = some c := by rw [← live_congr h, hlive]
    rw [script_found hlive (hs _ _ (live_eq_some.mp hlive).1), script_found hlive' (ht _ _ (live_eq_some.mp hlive').1)]
    split
    · exact ⟨rfl, by simp only [Function.update_self]⟩
    · exact ⟨rfl, h⟩
  | none =>
    have hlive' : t.live lingers now key = none := by rw [← live_congr h, hlive]
    rw [script_absent hlive hpos, script_absent hlive' hpos]
    split
    · exact ⟨rfl, by simp only [Function.update_self]⟩
    · exact ⟨rfl, by simp only [Function.update_self]⟩

lemma checkLimit_congr {contact : Contact} (h : s (rateLimitKey sha256 r₀) = t (rateLimitKey sha256 r₀)) (hs : Positive s)
    (ht : Positive t) :
    (checkLimit sha256 lingers s now contact r₀).2 = (checkLimit sha256 lingers t now contact r₀).2 ∧
      (checkLimit sha256 lingers s now contact r₀).1 (rateLimitKey sha256 r₀) =
        (checkLimit sha256 lingers t now contact r₀).1 (rateLimitKey sha256 r₀) := by
  unfold checkLimit
  split
  next => exact ⟨rfl, h⟩
  next window hwindow =>
    obtain ⟨rfl, hmillis⟩ := windowMilliseconds_eq_some hwindow
    split
    next => exact ⟨rfl, h⟩
    next =>
      obtain ⟨hreply, hkey⟩ : (fixedWindowScript lingers now _ _ s).2 = (fixedWindowScript lingers now _ _ t).2 ∧ _ :=
        script_congr h hs ht hmillis
      dsimp only
      rw [hreply]
      cases (fixedWindowScript lingers now (rateLimitKey sha256 r₀) (r₀.window / 1000000) t).2 with
      | none => cases contact <;> first | exact ⟨rfl, h⟩ | exact ⟨rfl, hkey⟩
      | some reply => cases contact <;> first | exact ⟨rfl, h⟩ | exact ⟨rfl, hkey⟩

end Steps

section Runs

variable {checks : List Check} {step : Step}

lemma checks_run (s : Store) : (run sha256 lingers s checks).map Step.check = checks := by
  induction checks generalizing s with
  | nil => rfl
  | cons c rest ih => rw [run, List.map_cons, ih]

lemma positive_checkLimit {contact : Contact} {r : RateLimitRequest} (h : Positive s) :
    Positive (checkLimit sha256 lingers s now contact r).1 :=
  (checkLimit_effect h).positive h

/-- Every step of a run is what its check does to a store that is there. -/
lemma effect_of_mem (hpos : Positive s) (h : step ∈ run sha256 lingers s checks) :
    Effect sha256 lingers step.before step.check.time step.check.request step.after step.result := by
  induction checks generalizing s with
  | nil => cases h
  | cons c rest ih =>
    rcases List.mem_cons.mp h with rfl | h
    · exact checkLimit_effect hpos
    · exact ih (positive_checkLimit hpos) h

/-- The other checks of a run: none has the digest of the subject without having the subject. -/
def Distinguished (sha256 : Bytes → Bytes) (r₀ : RateLimitRequest) (checks : List Check) : Prop :=
  ∀ c ∈ checks, sha256 (Contracts.utf8 c.request.subject) = sha256 (Contracts.utf8 r₀.subject) → c.request.subject = r₀.subject

/-- The checks of one endpoint and subject all ask for the same. -/
def Uniform (r₀ : RateLimitRequest) (checks : List Check) : Prop :=
  ∀ c ∈ checks, c.of r₀.endpoint r₀.subject = true → c.request = r₀

lemma of_eq_true {c : Check} {endpoint subject : String} :
    c.of endpoint subject = true ↔ c.request.endpoint = endpoint ∧ c.request.subject = subject := by
  simp [Check.of]

/-- Through a run, the counter sees the events of its own checks only. -/
lemma run_ticks (hpos : Positive s) (hsame : Uniform r₀ checks) (hsha : Distinguished sha256 r₀ checks)
    (hvalid : validEndpoint r₀.endpoint = true) :
    Run lingers r₀.limit.toNat (r₀.window / 1000000) (s (rateLimitKey sha256 r₀))
      (((run sha256 lingers s checks).filter fun step => step.check.of r₀.endpoint r₀.subject).map
        (Step.event lingers (rateLimitKey sha256 r₀))) := by
  induction checks generalizing s with
  | nil => exact .nil _
  | cons c rest ih =>
    have hnext : Positive (checkLimit sha256 lingers s c.time c.contact c.request).1 := positive_checkLimit hpos
    have hlater := ih hnext (fun c' hc' => hsame c' (List.mem_cons_of_mem c hc')) (fun c' hc' => hsha c' (List.mem_cons_of_mem c hc'))
    have heffect : Effect sha256 lingers s c.time c.request (checkLimit sha256 lingers s c.time c.contact c.request).1 _ :=
      checkLimit_effect hpos
    rw [run, List.filter_cons]
    split
    next hmine =>
      obtain ⟨time, contact, request⟩ := c
      obtain rfl : request = r₀ := hsame _ List.mem_cons_self hmine
      exact .cons heffect.tick hlater
    next hother =>
      rw [of_eq_true] at hother
      rwa [heffect.other hvalid (hsha c List.mem_cons_self) hother] at hlater

/-- The checks of one endpoint and subject get the same answers as if there were no others. -/
lemma run_results (hs : Positive s) (ht : Positive t) (hsame : Uniform r₀ checks) (hsha : Distinguished sha256 r₀ checks)
    (hkey : validEndpoint r₀.endpoint = true → s (rateLimitKey sha256 r₀) = t (rateLimitKey sha256 r₀)) :
    ((run sha256 lingers s checks).filter fun step => step.check.of r₀.endpoint r₀.subject).map Step.result =
      (run sha256 lingers t (checks.filter fun c => c.of r₀.endpoint r₀.subject)).map Step.result := by
  induction checks generalizing s t with
  | nil => rfl
  | cons c rest ih =>
    have hlater := @ih (checkLimit sha256 lingers s c.time c.contact c.request).1
    have hsame' : Uniform r₀ rest := fun c' hc' => hsame c' (List.mem_cons_of_mem c hc')
    have hsha' : Distinguished sha256 r₀ rest := fun c' hc' => hsha c' (List.mem_cons_of_mem c hc')
    rw [run, List.filter_cons, List.filter_cons]
    split
    next hmine =>
      obtain ⟨time, contact, request⟩ := c
      obtain rfl : request = r₀ := hsame _ List.mem_cons_self hmine
      rw [run, List.map_cons, List.map_cons]
      dsimp only at hlater ⊢
      cases hvalid : validEndpoint request.endpoint with
      | true =>
        obtain ⟨hresult, hafter⟩ := checkLimit_congr (hkey hvalid) hs ht
        rw [hresult, hlater (positive_checkLimit hs) (positive_checkLimit ht) hsame' hsha' fun _ => hafter]
      | false =>
        rw [checkLimit_invalid hvalid, checkLimit_invalid hvalid]
        rw [ih hs ht hsame' hsha' fun h => absurd (hvalid.symm.trans h) Bool.false_ne_true]
    next hother =>
      refine hlater (positive_checkLimit hs) ht hsame' hsha' fun hvalid => ?_
      rw [of_eq_true] at hother
      rw [(checkLimit_effect hs).other hvalid (hsha c List.mem_cons_self) hother, hkey hvalid]

/-- A counter is removed at the latest a window after any check that finds it. -/
lemma deadline_le (hpos : Positive s) (hsorted : checks.Pairwise fun c c' => c.time ≤ c'.time) (hsame : Uniform r₀ checks)
    (hsha : Distinguished sha256 r₀ checks) (hvalid : validEndpoint r₀.endpoint = true)
    (hstart : ∀ c d, s (rateLimitKey sha256 r₀) = some c → c.deadline = some d →
      ∀ check ∈ checks, d ≤ check.time + r₀.window / 1000000) (h : step ∈ run sha256 lingers s checks) :
    ∀ c d, step.before (rateLimitKey sha256 r₀) = some c → c.deadline = some d →
      d ≤ step.check.time + r₀.window / 1000000 := by
  induction checks generalizing s with
  | nil => cases h
  | cons check rest ih =>
    rcases List.mem_cons.mp h with rfl | h
    · exact fun c d hc hd => hstart c d hc hd check List.mem_cons_self
    have hsame' : Uniform r₀ rest := fun c' hc' => hsame c' (List.mem_cons_of_mem check hc')
    have hsha' : Distinguished sha256 r₀ rest := fun c' hc' => hsha c' (List.mem_cons_of_mem check hc')
    refine ih (positive_checkLimit hpos) hsorted.of_cons hsame' hsha' ?_ h
    have heffect : Effect sha256 lingers s check.time check.request
        (checkLimit sha256 lingers s check.time check.contact check.request).1 _ := checkLimit_effect hpos
    revert heffect
    generalize (checkLimit sha256 lingers s check.time check.contact check.request).1 = s₁
    generalize (checkLimit sha256 lingers s check.time check.contact check.request).2 = result
    intro heffect c d hc hd check' hcheck'
    have hlater := List.rel_of_pairwise_cons hsorted hcheck'
    by_cases hmine : check.of r₀.endpoint r₀.subject = true
    · have hrequest := hsame check List.mem_cons_self hmine
      rw [hrequest] at heffect
      cases heffect with
      | untouched => exact hstart c d hc hd check' (List.mem_cons_of_mem check hcheck')
      | counted valid live =>
        rw [Function.update_self] at hc
        cases hc
        exact hstart _ d (live_eq_some.mp live).1 hd check' (List.mem_cons_of_mem check hcheck')
      | opened =>
        rw [Function.update_self] at hc
        cases hc
        cases hd
        omega
      | stuck =>
        rw [Function.update_self] at hc
        cases hc
        cases hd
    · rw [of_eq_true] at hmine
      rw [heffect.other hvalid (hsha check List.mem_cons_self) hmine] at hc
      exact hstart c d hc hd check' (List.mem_cons_of_mem check hcheck')

end Runs

section Claims

variable {checks : List Check} {step : Step}

lemma positive_empty : Positive fun _ => none := fun _ _ h => by cases h

/-- The checks of one endpoint and subject in a run from the empty store. -/
def ownSteps (sha256 : Bytes → Bytes) (lingers : Bool) (r₀ : RateLimitRequest) (checks : List Check) : List Step :=
  (run sha256 lingers (fun _ => none) checks).filter fun step => step.check.of r₀.endpoint r₀.subject

lemma request_of_mem_ownSteps (hsame : Uniform r₀ checks) (h : step ∈ ownSteps sha256 lingers r₀ checks) :
    step.check.request = r₀ := by
  rw [ownSteps, List.mem_filter] at h
  refine hsame step.check ?_ h.2
  have hmem := List.mem_map_of_mem (f := Step.check) h.1
  rwa [checks_run] at hmem

lemma effect_of_mem_ownSteps (hsame : Uniform r₀ checks) (h : step ∈ ownSteps sha256 lingers r₀ checks) :
    Effect sha256 lingers step.before step.check.time r₀ step.after step.result := by
  have heffect := effect_of_mem positive_empty (List.mem_of_mem_filter h)
  rwa [request_of_mem_ownSteps hsame h] at heffect

/-- An endpoint that is not valid reaches no counter. -/
lemma untouched_of_invalid (h : Effect sha256 lingers s now r₀ s' result) (hinvalid : validEndpoint r₀.endpoint = false) :
    s' = s ∧ result = .error .rateLimitError := by
  cases h with
  | untouched => exact ⟨rfl, rfl⟩
  | counted valid => exact absurd (hinvalid.symm.trans valid) Bool.false_ne_true
  | opened valid => exact absurd (hinvalid.symm.trans valid) Bool.false_ne_true
  | stuck valid => exact absurd (hinvalid.symm.trans valid) Bool.false_ne_true

lemma run_idle {limit window : ℕ} {log : List Event} (h : ∀ e ∈ log, e.admitted = false ∧ e.opened = false) :
    Run lingers limit window none log := by
  induction log with
  | nil => exact .nil none
  | cons e rest ih =>
    obtain ⟨time, admitted, opened⟩ := e
    obtain ⟨rfl, rfl⟩ := h _ List.mem_cons_self
    exact .cons (.idle none time) (ih fun e he => h e (List.mem_cons_of_mem _ he))

lemma ownSteps_ticks (hsame : Uniform r₀ checks) (hsha : Distinguished sha256 r₀ checks) :
    Run lingers r₀.limit.toNat (r₀.window / 1000000) none
      ((ownSteps sha256 lingers r₀ checks).map (Step.event lingers (rateLimitKey sha256 r₀))) := by
  cases hvalid : validEndpoint r₀.endpoint with
  | true => exact run_ticks positive_empty hsame hsha hvalid
  | false =>
    refine run_idle fun e he => ?_
    obtain ⟨step, hstep, rfl⟩ := List.mem_map.mp he
    obtain ⟨hstore, hresult⟩ := untouched_of_invalid (effect_of_mem_ownSteps hsame hstep) hvalid
    refine ⟨by rw [Step.event, Step.isAllowed, hresult], ?_⟩
    rw [Step.event, Step.creates, hstore]
    cases step.before.live lingers step.check.time (rateLimitKey sha256 r₀) <;> rfl

lemma sorted_ownSteps (hsorted : checks.Pairwise fun c c' => c.time ≤ c'.time) (key : String) :
    ((ownSteps sha256 lingers r₀ checks).map (Step.event lingers key)).Pairwise fun e e' => e.time ≤ e'.time := by
  rw [List.pairwise_map]
  refine List.Pairwise.filter _ ?_
  have hmap : ((run sha256 lingers (fun _ => none) checks).map Step.check).Pairwise fun c c' => c.time ≤ c'.time := by
    rwa [checks_run]
  rw [List.pairwise_map] at hmap
  exact hmap

/-- A check of a window shorter than a millisecond is not allowed. -/
lemma not_allowed_of_short (h : Effect sha256 lingers s now r₀ s' result) (hshort : r₀.window / 1000000 = 0) :
    result = .error .rateLimitError := by
  cases h with
  | untouched => rfl
  | counted valid live positive => omega
  | opened valid gone positive => omega
  | stuck => rfl

/-- The retry time of a denial. -/
lemma retry_le {c : Counter} (h : ∀ d, c.deadline = some d → d ≤ now + r₀.window / 1000000)
    (hpos : 0 < r₀.window / 1000000) :
    0 < (if 0 < timeLeft now c then (timeLeft now c).toNat else 1) * 1000000 ∧
      (if 0 < timeLeft now c then (timeLeft now c).toNat else 1) * 1000000 ≤ r₀.window := by
  have hleft : timeLeft now c ≤ (r₀.window / 1000000 : ℕ) := by
    unfold timeLeft
    cases hd : c.deadline with
    | none =>
      dsimp only
      omega
    | some d =>
      have := h d hd
      dsimp only
      omega
  split <;> omega

/-- In every run at times that do not go back: at most the limit is allowed between the creation of the counter and the
next, and at most twice the limit in an interval no longer than the window. A denial leaves the deadline as it is and
reports a time within the window. The checks of other endpoints and subjects change neither the counter nor an answer. -/
theorem window_limits (hsorted : checks.Pairwise fun c c' => c.time ≤ c'.time) (hsame : Uniform r₀ checks)
    (hsha : Distinguished sha256 r₀ checks) :
    (∀ before first life after, ownSteps sha256 lingers r₀ checks = before ++ (first :: life ++ after) →
      (∀ step ∈ life, step.creates lingers (rateLimitKey sha256 r₀) = false) →
        (first :: life).countP Step.isAllowed ≤ r₀.limit.toNat) ∧
    (∀ a b, (b - a) * 1000000 ≤ r₀.window →
      ((ownSteps sha256 lingers r₀ checks).countP fun step =>
        step.isAllowed && decide (a ≤ step.check.time) && decide (step.check.time ≤ b)) ≤ 2 * r₀.limit.toNat) ∧
    (∀ step ∈ ownSteps sha256 lingers r₀ checks, ∀ retry, step.result = .ok (.denied retry) →
      (∃ c, step.before.live lingers step.check.time (rateLimitKey sha256 r₀) = some c ∧
        step.after (rateLimitKey sha256 r₀) = some ⟨c.count + 1, c.deadline⟩) ∧
      0 < retry ∧ retry ≤ r₀.window) ∧
    (∀ step ∈ run sha256 lingers (fun _ => none) checks, step.check.of r₀.endpoint r₀.subject = false →
      validEndpoint r₀.endpoint = true → step.after (rateLimitKey sha256 r₀) = step.before (rateLimitKey sha256 r₀)) ∧
    (ownSteps sha256 lingers r₀ checks).map Step.result =
      (run sha256 lingers (fun _ => none) (checks.filter fun c => c.of r₀.endpoint r₀.subject)).map Step.result := by
  have hticks : Run lingers r₀.limit.toNat (r₀.window / 1000000) none _ := ownSteps_ticks hsame hsha
  refine ⟨?_, ?_, ?_, ?_, ?_⟩
  · intro before first life after hsteps hlife
    rw [hsteps, List.map_append, List.map_append] at hticks
    obtain ⟨-, s₁, hrest⟩ := hticks.of_append
    have hcount := countP_life hrest.of_append.1 fun e he => by
      obtain ⟨step, hstep, rfl⟩ := List.mem_map.mp he
      exact hlife step hstep
    rw [← List.map_cons, List.countP_map] at hcount
    exact hcount
  · intro a b hlength
    rcases Nat.eq_zero_or_pos (r₀.window / 1000000) with hshort | hpos
    · rw [List.countP_eq_zero.mpr]
      · exact Nat.zero_le _
      · intro step hstep
        have hresult := not_allowed_of_short (effect_of_mem_ownSteps hsame hstep) hshort
        simp [Step.isAllowed, hresult]
    · have hcount := admitted_le (a := a) (b := b) hticks (sorted_ownSteps hsorted _) hpos (by omega)
      rw [admitted, List.countP_map] at hcount
      exact hcount
  · intro step hstep retry hdenied
    have heffect := effect_of_mem_ownSteps hsame hstep
    cases hvalid : validEndpoint r₀.endpoint with
    | false =>
      rw [(untouched_of_invalid heffect hvalid).2] at hdenied
      cases hdenied
    | true =>
      rw [hdenied] at heffect
      obtain ⟨hpos, c, hlive, hafter, rfl⟩ := heffect.denied
      have hdeadline := deadline_le positive_empty hsorted hsame hsha hvalid (fun c d hc => by cases hc)
        (List.mem_of_mem_filter hstep)
      exact ⟨⟨c, hlive, hafter⟩, retry_le (fun d hd => hdeadline c d (live_eq_some.mp hlive).1 hd) hpos⟩
  · intro step hstep hother hvalid
    have hmem := List.mem_map_of_mem (f := Step.check) hstep
    rw [checks_run] at hmem
    refine (effect_of_mem positive_empty hstep).other hvalid (hsha step.check hmem) ?_
    rw [← of_eq_true, hother]
    exact Bool.false_ne_true
  · exact run_results positive_empty positive_empty hsame hsha fun _ => rfl

/-- `Sha256::digest`, as the contract snapshot computes it. -/
def sha256Digest (input : Bytes) : Bytes :=
  let chunks := (List.range ((Contracts.padded input).length / 64)).map fun i => ((Contracts.padded input).drop (64 * i)).take 64
  (chunks.foldl Contracts.compress Contracts.initialState).flatMap fun word : UInt32 =>
    [(word >>> 24).toUInt8, (word >>> 16).toUInt8, (word >>> 8).toUInt8, word.toUInt8]

/-- One allowed check in each window of two milliseconds. -/
def authorizeRequest : RateLimitRequest := ⟨"oauth_authorize", "ip:192.0.2.1", 1, 2000000⟩

/-- The first check is allowed, the second denied, and the last one opens a new window. The other endpoint has a counter
of its own. -/
def authorizeChecks : List Check :=
  [⟨0, .answered, authorizeRequest⟩, ⟨1, .answered, ⟨"oauth_exchange", "ip:192.0.2.1", 5, 1000000⟩⟩,
    ⟨1, .answered, authorizeRequest⟩, ⟨2, .answered, authorizeRequest⟩]

theorem window_limits_at_authorize :
    (authorizeChecks.Pairwise fun c c' => c.time ≤ c'.time) ∧ Uniform authorizeRequest authorizeChecks ∧
    Distinguished sha256Digest authorizeRequest authorizeChecks ∧
    (∀ a b, (b - a) * 1000000 ≤ authorizeRequest.window →
      ((ownSteps sha256Digest false authorizeRequest authorizeChecks).countP fun step =>
        step.isAllowed && decide (a ≤ step.check.time) && decide (step.check.time ≤ b)) ≤ 2 * authorizeRequest.limit.toNat) := by
  have hsorted : authorizeChecks.Pairwise fun c c' => c.time ≤ c'.time := by decide
  have hsame : Uniform authorizeRequest authorizeChecks := by
    unfold Uniform
    decide
  have hsubject : ∀ c ∈ authorizeChecks, c.request.subject = authorizeRequest.subject := by decide
  have hsha : Distinguished sha256Digest authorizeRequest authorizeChecks := fun c hc _ => hsubject c hc
  exact ⟨hsorted, hsame, hsha, (window_limits hsorted hsame hsha).2.1⟩

end Claims

end JamyeServer.RateLimit
