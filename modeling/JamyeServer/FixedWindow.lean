import Mathlib.Data.List.Basic

/-!
# Fixed windows

A counter is opened by the first event, counts the events that find it, and is removed at its deadline. Events are
admitted while the count is within a limit. An interval as long as a window can meet two counters, so twice the limit.
-/

namespace JamyeServer.FixedWindow

/-- A counter with the time of its removal, if it has one. -/
structure Counter where
  count : ℕ
  deadline : Option ℕ
  deriving DecidableEq, Repr

/-- Whether the counter is there at a time. `lingers` says so for the deadline itself. -/
def Counter.alive (lingers : Bool) (now : ℕ) (c : Counter) : Bool :=
  match c.deadline with
  | none => true
  | some d => decide (now < d) || lingers && decide (now = d)

/-- An event: whether it was admitted, and whether it opened a counter. -/
structure Event where
  time : ℕ
  admitted : Bool
  opened : Bool
  deriving DecidableEq, Repr

variable (lingers : Bool) (limit window : ℕ)

/-- What one event makes of the counter. A counter that gets no deadline is opened by an event that is not admitted. -/
inductive Tick : Option Counter → Event → Option Counter → Prop
  | idle (s : Option Counter) (t : ℕ) : Tick s ⟨t, false, false⟩ s
  | counted {c : Counter} {t : ℕ} {admitted : Bool} (alive : c.alive lingers t = true)
      (within : admitted = true → c.count + 1 ≤ limit) :
      Tick (some c) ⟨t, admitted, false⟩ (some ⟨c.count + 1, c.deadline⟩)
  | opened {s : Option Counter} {t : ℕ} {admitted : Bool} (gone : ∀ c, s = some c → c.alive lingers t = false)
      (within : admitted = true → 1 ≤ limit) : Tick s ⟨t, admitted, true⟩ (some ⟨1, some (t + window)⟩)
  | stuck {s : Option Counter} {t : ℕ} (gone : ∀ c, s = some c → c.alive lingers t = false) :
      Tick s ⟨t, false, true⟩ (some ⟨1, none⟩)

inductive Run : Option Counter → List Event → Prop
  | nil (s : Option Counter) : Run s []
  | cons {s s' : Option Counter} {e : Event} {rest : List Event} (tick : Tick lingers limit window s e s')
      (later : Run s' rest) : Run s (e :: rest)

variable {lingers limit window}
variable {s : Option Counter} {c : Counter} {e : Event} {log : List Event} {a b : ℕ}

section Counting

lemma Run.of_append {before after : List Event} (h : Run lingers limit window s (before ++ after)) :
    Run lingers limit window s before ∧ ∃ s', Run lingers limit window s' after := by
  induction before generalizing s with
  | nil => exact ⟨.nil s, s, h⟩
  | cons e before ih =>
    cases h with
    | cons tick later =>
      obtain ⟨hbefore, hafter⟩ := ih later
      exact ⟨.cons tick hbefore, hafter⟩

/-- The admitted events of an interval. -/
def admitted (a b : ℕ) (log : List Event) : ℕ := log.countP fun e => e.admitted && decide (a ≤ e.time) && decide (e.time ≤ b)

lemma admitted_cons (a b : ℕ) (e : Event) (log : List Event) :
    admitted a b (e :: log) = admitted a b log + if e.admitted = true ∧ a ≤ e.time ∧ e.time ≤ b then 1 else 0 := by
  simp only [admitted, List.countP_cons, Bool.and_eq_true, decide_eq_true_eq, and_assoc]

lemma admitted_of_late (h : ∀ e ∈ log, b < e.time) : admitted a b log = 0 := by
  rw [admitted, List.countP_eq_zero]
  intro e he
  have hlate := h e he
  simp only [Bool.and_eq_true, decide_eq_true_eq]
  omega

end Counting

section Lives

/-- An admitted event takes its own place within the limit. -/
lemma add_ite_le {p : Prop} [Decidable p] {limit n x y : ℕ} (hx : x ≤ limit - (n + 1) + y) (h : p → n + 1 ≤ limit) :
    x + (if p then 1 else 0) ≤ limit - n + y := by
  split
  next hp =>
    have := h hp
    omega
  next => omega

/-- A counter that was found at a time is gone only later. -/
lemma Counter.lt_of_gone {t t' : ℕ} (h : c.alive lingers t = true) (h' : c.alive lingers t' = false) : t < t' := by
  unfold Counter.alive at h h'
  cases hd : c.deadline with
  | none =>
    rw [hd] at h'
    cases h'
  | some d =>
    simp only [hd, Bool.or_eq_true, Bool.and_eq_true, decide_eq_true_eq, Bool.or_eq_false_iff, Bool.and_eq_false_imp,
      decide_eq_false_iff_not] at h h'
    rcases h with h | ⟨hl, h⟩
    · omega
    · have := h'.2 hl
      omega

lemma alive_opened {t t' : ℕ} (h : t' < t + window) (n : ℕ) :
    Counter.alive lingers t' ⟨n, some (t + window)⟩ = true := by
  simp [Counter.alive, h]

/-- The count of a state: nothing is counted where there is no counter. -/
def counted (s : Option Counter) : ℕ := s.elim 0 Counter.count

/-- What is admitted before another counter is opened. -/
lemma countP_of_unopened (hrun : Run lingers limit window s log) (h : ∀ e ∈ log, e.opened = false) :
    (log.countP fun e => e.admitted) ≤ limit - counted s := by
  induction log generalizing s with
  | nil => exact Nat.zero_le _
  | cons e rest ih =>
    have hrest := fun e' he' => h e' (List.mem_cons_of_mem e he')
    cases hrun with
    | cons tick later =>
      have hlater := ih later hrest
      rw [List.countP_cons]
      cases tick with
      | idle => simpa using hlater
      | counted alive within => exact add_ite_le (y := 0) hlater within
      | opened => exact absurd (h _ List.mem_cons_self) (by simp)
      | stuck => exact absurd (h _ List.mem_cons_self) (by simp)

/-- One life of a counter: its opening, and the events until the next. -/
theorem countP_life (hrun : Run lingers limit window s (e :: log)) (h : ∀ e ∈ log, e.opened = false) :
    ((e :: log).countP fun e => e.admitted) ≤ limit := by
  cases hrun with
  | cons tick later =>
    have hlater := countP_of_unopened later h
    rw [List.countP_cons]
    cases tick with
    | idle =>
      simp only [Bool.false_eq_true, if_false]
      omega
    | counted alive within => exact Nat.le_trans (add_ite_le (y := 0) hlater within) (Nat.sub_le _ _)
    | opened gone within => exact add_ite_le (n := 0) (y := 0) hlater within
    | stuck gone =>
      simp only [Bool.false_eq_true, if_false]
      omega

end Lives

section Intervals

lemma late_of_sorted (hsorted : (e :: log).Pairwise fun e e' => e.time ≤ e'.time) (h : b < e.time) :
    ∀ e' ∈ e :: log, b < e'.time := by
  intro e' he'
  rcases List.mem_cons.mp he' with rfl | hmem
  · exact h
  · exact Nat.lt_of_lt_of_le h (List.rel_of_pairwise_cons hsorted hmem)

/-- A counter that is there until the end of the interval counts all that comes. -/
lemma admitted_of_alive (hrun : Run lingers limit window (some c) log) (hsorted : log.Pairwise fun e e' => e.time ≤ e'.time)
    (h : c.alive lingers b = true) : admitted a b log ≤ limit - c.count := by
  induction log generalizing c with
  | nil => exact Nat.zero_le _
  | cons e rest ih =>
    rcases Nat.lt_or_ge b e.time with hlate | htime
    · rw [admitted_of_late (late_of_sorted hsorted hlate)]
      exact Nat.zero_le _
    have hthere : ∀ {c' : Counter}, c'.alive lingers b = true → c'.alive lingers e.time = false → False := by
      intro c' hb he
      have := Counter.lt_of_gone hb he
      omega
    rw [admitted_cons]
    cases hrun with
    | cons tick later =>
      cases tick with
      | idle => simpa using ih later hsorted.of_cons h
      | counted alive within =>
        have hlater := ih later hsorted.of_cons (c := ⟨c.count + 1, c.deadline⟩) h
        exact add_ite_le (y := 0) hlater fun h => within h.1
      | opened gone => exact (hthere h (gone c rfl)).elim
      | stuck gone => exact (hthere h (gone c rfl)).elim

/-- A counter whose successor stays until the end of the interval. -/
lemma admitted_of_successor (hrun : Run lingers limit window (some c) log)
    (hsorted : log.Pairwise fun e e' => e.time ≤ e'.time) (h : ∀ t, c.alive lingers t = false → b < t + window) :
    admitted a b log ≤ limit - c.count + limit := by
  induction log generalizing c with
  | nil => exact Nat.zero_le _
  | cons e rest ih =>
    rw [admitted_cons]
    cases hrun with
    | cons tick later =>
      cases tick with
      | idle => simpa using ih later hsorted.of_cons h
      | counted alive within =>
        have hlater := ih later hsorted.of_cons (c := ⟨c.count + 1, c.deadline⟩) h
        exact add_ite_le hlater fun h => within h.1
      | opened gone within =>
        have hlater := admitted_of_alive (a := a) later hsorted.of_cons (alive_opened (h _ (gone c rfl)) 1)
        exact Nat.le_trans (add_ite_le (n := 0) (y := 0) hlater fun h => within h.1) (Nat.le_add_left _ _)
      | stuck gone =>
        have hlater := admitted_of_alive (a := a) (b := b) later hsorted.of_cons rfl
        simp only [Bool.false_eq_true, false_and, if_false]
        dsimp only at hlater
        omega

/-- An interval no longer than the window admits at most twice the limit. -/
theorem admitted_le (hrun : Run lingers limit window s log) (hsorted : log.Pairwise fun e e' => e.time ≤ e'.time)
    (hwindow : 0 < window) (h : b ≤ a + window) : admitted a b log ≤ 2 * limit := by
  induction log generalizing s with
  | nil => exact Nat.zero_le _
  | cons e rest ih =>
    rcases Nat.lt_or_ge e.time a with hearly | htime
    · -- What comes before the interval does not count.
      rw [admitted_cons, if_neg (by omega)]
      cases hrun with
      | cons tick later => exact ih later hsorted.of_cons
    rw [admitted_cons]
    cases hrun with
    | cons tick later =>
      cases tick with
      | idle => simpa using ih later hsorted.of_cons
      | @counted c _ _ alive within =>
        have hlater := admitted_of_successor (a := a) (b := b) later hsorted.of_cons fun t hgone => by
          have := Counter.lt_of_gone (c := c) alive hgone
          dsimp only at this htime
          omega
        refine Nat.le_trans (add_ite_le hlater fun h => within h.1) ?_
        omega
      | @opened _ time _ gone within =>
        have hlater := admitted_of_successor (a := a) (b := b) later hsorted.of_cons fun t hgone => by
          have hthere : Counter.alive lingers time ⟨1, some (time + window)⟩ = true := alive_opened (by omega) 1
          have := Counter.lt_of_gone hthere hgone
          dsimp only at this htime
          omega
        refine Nat.le_trans (add_ite_le (n := 0) hlater fun h => within h.1) ?_
        omega
      | stuck gone =>
        have hlater := admitted_of_alive (a := a) (b := b) later hsorted.of_cons rfl
        simp only [Bool.false_eq_true, false_and, if_false]
        dsimp only at hlater
        omega

end Intervals

end JamyeServer.FixedWindow
