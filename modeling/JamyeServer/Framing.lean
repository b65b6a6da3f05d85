import Mathlib.Data.List.Infix

/-!
# Framed texts

How the parts of a concatenation are found again: a part ends at the first occurrence of its delimiter.
-/

namespace JamyeServer.Framing

variable {α : Type*}

/-- A part without the delimiter ends at the first one. -/
lemma append_delimiter_inj {a : α} {l l' rest rest' : List α} (hl : a ∉ l) (hl' : a ∉ l')
    (h : l ++ a :: rest = l' ++ a :: rest') : l = l' ∧ rest = rest' := by
  induction l generalizing l' with
  | nil =>
    cases l' with
    | nil => exact ⟨rfl, List.tail_eq_of_cons_eq h⟩
    | cons b l' =>
      rw [List.nil_append, List.cons_append, List.cons.injEq] at h
      exact absurd (h.1 ▸ List.mem_cons_self) hl'
  | cons b l ih =>
    cases l' with
    | nil =>
      rw [List.nil_append, List.cons_append, List.cons.injEq] at h
      exact absurd (h.1 ▸ List.mem_cons_self) hl
    | cons b' l' =>
      rw [List.cons_append, List.cons_append, List.cons.injEq] at h
      rw [List.mem_cons, not_or] at hl hl'
      obtain ⟨rfl, rfl⟩ := ih hl.2 hl'.2 h.2
      exact ⟨by rw [h.1], rfl⟩

section Separated

/-- Texts with a separator between them. -/
def separated (comma : α) : List (List α) → List α
  | [] => []
  | [text] => text
  | text :: rest => text ++ comma :: separated comma rest

/-- A text that ends here, or goes on with one of the letters. -/
def Stops (letters : List α) (text : List α) : Prop := ∀ a, text.head? = some a → a ∈ letters

/-- The text goes on with none of the letters, and goes on. -/
def Starts (letters : List α) (text : List α) : Prop := ∃ a rest, text = a :: rest ∧ a ∉ letters

variable {comma close : α} {stops : List α} {ι : Type*} {e : ι → List α} {R : ι → ι → Prop}

lemma stops_cons {a : α} (h : a ∈ stops) (rest : List α) : Stops stops (a :: rest) := by
  intro b hb
  cases hb
  exact h

lemma not_starts_of_stops {text rest : List α} (h : Starts stops text) (hrest : Stops stops rest) (rest' : List α) :
    text ++ rest' ≠ rest := by
  obtain ⟨a, tail, rfl, ha⟩ := h
  rintro rfl
  exact ha (hrest a rfl)

/-- A part whose letters all have a property that none of the stops has ends at the first stop. -/
lemma append_stop_inj {p : α → Prop} {l l' rest rest' : List α} (hl : ∀ a ∈ l, p a) (hl' : ∀ a ∈ l', p a)
    (hp : ∀ a ∈ stops, ¬ p a) (hrest : Stops stops rest) (hrest' : Stops stops rest') (h : l ++ rest = l' ++ rest') :
    l = l' ∧ rest = rest' := by
  induction l generalizing l' with
  | nil =>
    cases l' with
    | nil => exact ⟨rfl, h⟩
    | cons b l' =>
      rw [List.nil_append] at h
      subst h
      exact absurd (hl' b List.mem_cons_self) (hp b (hrest b rfl))
  | cons a l ih =>
    cases l' with
    | nil =>
      rw [List.nil_append] at h
      subst h
      exact absurd (hl a List.mem_cons_self) (hp a (hrest' a rfl))
    | cons b l' =>
      rw [List.cons_append, List.cons_append, List.cons.injEq] at h
      obtain ⟨rfl, rfl⟩ := ih (fun c hc => hl c (List.mem_cons_of_mem a hc)) (fun c hc => hl' c (List.mem_cons_of_mem b hc)) h.2
      exact ⟨by rw [h.1], rfl⟩

/-- Items that can be told from what follows them can be told in a list with separators, up to its end. -/
lemma separated_inj (hcomma : comma ∈ stops) (hclose : close ∈ stops) (hne : comma ≠ close) {xs ys : List ι}
    (hx : ∀ x ∈ xs, Starts stops (e x)) (hy : ∀ y ∈ ys, Starts stops (e y))
    (hitem : ∀ x ∈ xs, ∀ y ∈ ys, ∀ rest rest', Stops stops rest → Stops stops rest' → e x ++ rest = e y ++ rest' →
      R x y ∧ rest = rest') {rest rest' : List α}
    (h : separated comma (xs.map e) ++ close :: rest = separated comma (ys.map e) ++ close :: rest') :
    List.Forall₂ R xs ys ∧ rest = rest' := by
  induction xs generalizing ys with
  | nil =>
    cases ys with
    | nil => exact ⟨.nil, List.tail_eq_of_cons_eq h⟩
    | cons y ys =>
      exfalso
      have hstart := hy y List.mem_cons_self
      cases ys with
      | nil => exact not_starts_of_stops hstart (stops_cons hclose rest) _ h.symm
      | cons y' ys =>
        simp only [List.map_nil, List.map_cons, separated, List.nil_append, List.append_assoc] at h
        exact not_starts_of_stops hstart (stops_cons hclose rest) _ h.symm
  | cons x xs ih =>
    cases ys with
    | nil =>
      exfalso
      have hstart := hx x List.mem_cons_self
      cases xs with
      | nil => exact not_starts_of_stops hstart (stops_cons hclose rest') _ h
      | cons x' xs =>
        simp only [List.map_nil, List.map_cons, separated, List.nil_append, List.append_assoc] at h
        exact not_starts_of_stops hstart (stops_cons hclose rest') _ h
    | cons y ys =>
      have hfirst := hitem x List.mem_cons_self y List.mem_cons_self
      cases xs with
      | nil =>
        cases ys with
        | nil =>
          obtain ⟨hR, htail⟩ := hfirst _ _ (stops_cons hclose rest) (stops_cons hclose rest') h
          exact ⟨.cons hR .nil, List.tail_eq_of_cons_eq htail⟩
        | cons y' ys =>
          simp only [List.map_nil, List.map_cons, separated, List.append_assoc, List.cons_append] at h
          obtain ⟨-, htail⟩ := hfirst _ _ (stops_cons hclose rest) (stops_cons hcomma _) h
          exact absurd (List.head_eq_of_cons_eq htail).symm hne
      | cons x' xs =>
        cases ys with
        | nil =>
          simp only [List.map_nil, List.map_cons, separated, List.append_assoc, List.cons_append] at h
          obtain ⟨-, htail⟩ := hfirst _ _ (stops_cons hcomma _) (stops_cons hclose rest') h
          exact absurd (List.head_eq_of_cons_eq htail) hne
        | cons y' ys =>
          simp only [List.map_cons, separated, List.append_assoc, List.cons_append] at h
          obtain ⟨hR, htail⟩ := hfirst _ _ (stops_cons hcomma _) (stops_cons hcomma _) h
          obtain ⟨hlater, hend⟩ := ih (fun x hx' => hx x (List.mem_cons_of_mem _ hx'))
            (fun y hy' => hy y (List.mem_cons_of_mem _ hy'))
            (fun x hx' y hy' => hitem x (List.mem_cons_of_mem _ hx') y (List.mem_cons_of_mem _ hy'))
            (List.tail_eq_of_cons_eq htail)
          exact ⟨.cons hR hlater, hend⟩

end Separated

section SplitOnce

variable [DecidableEq α]

/-- What stands before and after the first occurrence of a pattern. -/
def splitOnce (pattern : List α) : List α → Option (List α × List α)
  | [] => if pattern = [] then some ([], []) else none
  | a :: rest =>
    if pattern <+: a :: rest then some ([], (a :: rest).drop pattern.length)
    else (splitOnce pattern rest).map fun parts => (a :: parts.1, parts.2)

variable {pattern l before after : List α}

lemma splitOnce_eq_some (h : splitOnce pattern l = some (before, after)) : l = before ++ pattern ++ after := by
  induction l generalizing before with
  | nil =>
    rw [splitOnce] at h
    split at h
    next hp =>
      cases h
      rw [hp]
      rfl
    next => cases h
  | cons a rest ih =>
    rw [splitOnce] at h
    split at h
    next hp =>
      cases h
      obtain ⟨tail, htail⟩ := hp
      rw [← htail, List.drop_left, List.nil_append]
    next =>
      obtain ⟨⟨before', after'⟩, hsplit, heq⟩ := Option.map_eq_some_iff.mp h
      cases heq
      rw [ih hsplit, List.cons_append, List.cons_append]

/-- No occurrence of the pattern starts earlier. -/
lemma splitOnce_first (h : splitOnce pattern l = some (before, after)) {x y : List α} (hl : l = x ++ pattern ++ y) :
    before.length ≤ x.length := by
  induction l generalizing before x with
  | nil =>
    rw [splitOnce] at h
    split at h
    next =>
      cases h
      exact Nat.zero_le _
    next => cases h
  | cons a rest ih =>
    rw [splitOnce] at h
    split at h
    next =>
      cases h
      exact Nat.zero_le _
    next hp =>
      obtain ⟨⟨before', after'⟩, hsplit, heq⟩ := Option.map_eq_some_iff.mp h
      cases heq
      cases x with
      | nil => exact absurd ⟨y, hl.symm⟩ hp
      | cons b x =>
        rw [List.cons_append, List.cons_append, List.cons.injEq] at hl
        exact Nat.succ_le_succ (ih hsplit hl.2)

lemma splitOnce_eq_none (h : splitOnce pattern l = none) : ¬ pattern <:+: l := by
  induction l with
  | nil =>
    rw [splitOnce] at h
    split at h
    next => cases h
    next hp =>
      intro hoccurs
      exact hp (List.infix_nil.mp hoccurs)
  | cons a rest ih =>
    rw [splitOnce] at h
    split at h
    next => cases h
    next hp =>
      rw [List.infix_cons_iff, not_or]
      exact ⟨hp, ih (Option.map_eq_none_iff.mp h)⟩

lemma length_splitOnce (hne : pattern ≠ []) (h : splitOnce pattern l = some (before, after)) : after.length < l.length := by
  have hpos := List.length_pos_iff.mpr hne
  rw [splitOnce_eq_some h, List.length_append, List.length_append]
  omega

/-- The pattern does not occur before its first occurrence, also not with a part of it. -/
lemma splitOnce_not_infix (h : splitOnce pattern l = some (before, after)) (hne : pattern ≠ []) :
    ¬ pattern <:+: before ++ pattern.dropLast := by
  rintro ⟨x, y, hxy⟩
  have hl : l = x ++ pattern ++ (y ++ ([pattern.getLast hne] ++ after)) := by
    have hlast : pattern.dropLast ++ ([pattern.getLast hne] ++ after) = pattern ++ after := by
      rw [← List.append_assoc, List.dropLast_append_getLast hne]
    rw [← List.append_assoc, hxy, splitOnce_eq_some h, List.append_assoc before, List.append_assoc before, hlast]
  have hfirst := splitOnce_first h hl
  have hlength := congrArg List.length hxy
  have hpos := List.length_pos_iff.mpr hne
  simp only [List.length_append, List.length_dropLast] at hlength
  omega

end SplitOnce

end JamyeServer.Framing
