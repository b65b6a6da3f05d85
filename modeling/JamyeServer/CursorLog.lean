import JamyeServer.Keyset

/-!
# Reading a growing log by its last cursor

A log grows from version to version, and what is new in a version comes after all that was there before. A reader asks
for what comes after the last entry it has received, at any versions and with any limits.
-/

namespace JamyeServer.CursorLog

open Keyset

variable {α κ : Type} [LinearOrder κ]

/-- The versions of a log up to `top`: no key is there twice, nothing is lost, and what is new comes last. -/
structure Grows (key : α → κ) (rows : Nat → List α) (top : Nat) : Prop where
  nodup : ∀ n, n ≤ top → ((rows n).map key).Nodup
  kept : ∀ n m, n ≤ m → m ≤ top → ∀ a ∈ rows n, a ∈ rows m
  last : ∀ n m, n ≤ m → m ≤ top → ∀ a ∈ rows m, a ∉ rows n → ∀ b ∈ rows n, key b < key a

/-- The place of the last entry, for the next request. -/
def place (key : α → κ) (received : List α) : Option (Option κ) := received.getLast?.map fun a => some (key a)

/-- The entries that come up to the last one received. -/
def upTo (key : α → κ) (received rows : List α) : List α :=
  sorted key (rows.filter fun a => received.getLast?.any fun b => decide (key a ≤ key b))

/-- What a reader has received when it last read version `n`; `more` says whether there was more than the limit. -/
inductive Resumes (key : α → κ) (rows : Nat → List α) (top : Nat) : Nat → List α → Bool → Prop
  | start : Resumes key rows top 0 [] true
  | read {n m limit : Nat} {received : List α} {more : Bool} : Resumes key rows top n received more → n ≤ m → m ≤ top →
      1 ≤ limit → Resumes key rows top m (received ++ (rest key (place key received) (rows m)).take limit)
        (decide (limit < (rest key (place key received) (rows m)).length))

variable {key : α → κ} {rows : Nat → List α} {top : Nat}

lemma mem_upTo {received rows : List α} {a : α} :
    a ∈ upTo key received rows ↔ a ∈ rows ∧ ∃ b, received.getLast? = some b ∧ key a ≤ key b := by
  simp [upTo, mem_sorted, Option.any_eq_true]

lemma upTo_strict {received rows : List α} (h : (rows.map key).Nodup) :
    (upTo key received rows).Pairwise fun a b => key a < key b :=
  sorted_strict (h.sublist (List.filter_sublist.map key))

lemma Grows.mem_of_le (h : Grows key rows top) {n m : Nat} (hnm : n ≤ m) (hm : m ≤ top) {a b : α} (ha : a ∈ rows m)
    (hb : b ∈ rows n) (hab : key a ≤ key b) : a ∈ rows n := by
  by_contra hnew
  exact absurd hab (not_le_of_gt (h.last n m hnm hm a ha hnew b hb))

/-- What comes up to the last entry received is the same in all later versions. -/
lemma Grows.upTo_later (h : Grows key rows top) {n m : Nat} (hnm : n ≤ m) (hm : m ≤ top) {received : List α}
    (hsub : ∀ a ∈ received, a ∈ rows n) : upTo key received (rows m) = upTo key received (rows n) := by
  refine eq_of_strict (upTo_strict (h.nodup m hm)) (upTo_strict (h.nodup n (hnm.trans hm))) fun a => ?_
  rw [mem_upTo, mem_upTo]
  constructor
  · rintro ⟨ha, b, hb, hab⟩
    exact ⟨h.mem_of_le hnm hm ha (hsub b (List.mem_of_getLast? hb)) hab, b, hb, hab⟩
  · rintro ⟨ha, hb⟩
    exact ⟨h.kept n m hnm hm a ha, hb⟩

lemma mem_rest {received rows : List α} {a : α} :
    a ∈ rest key (place key received) rows ↔ a ∈ rows ∧ ∀ b, received.getLast? = some b → key b < key a := by
  cases hlast : received.getLast? with
  | none => simp [place, hlast, rest, mem_sorted]
  | some b => simp [place, hlast, rest, mem_beyond, mem_sorted]

lemma rest_strict {received rows : List α} (h : (rows.map key).Nodup) :
    (rest key (place key received) rows).Pairwise fun a b => key a < key b := by
  cases hlast : received.getLast? with
  | none => simpa [place, hlast, rest] using sorted_strict h
  | some b => simpa [place, hlast, rest, beyond] using (sorted_strict h).filter _

/-- The log is what has been received and what the next request asks for. -/
lemma upTo_append_rest {received rows : List α} (h : (rows.map key).Nodup) :
    upTo key received rows ++ rest key (place key received) rows = sorted key rows := by
  refine eq_of_strict (List.pairwise_append.mpr ⟨upTo_strict h, rest_strict h, fun a ha b hb => ?_⟩) (sorted_strict h)
    fun a => ?_
  · obtain ⟨-, c, hc, hac⟩ := mem_upTo.mp ha
    exact lt_of_le_of_lt hac ((mem_rest.mp hb).2 c hc)
  · rw [List.mem_append, mem_upTo, mem_rest, mem_sorted]
    constructor
    · rintro (⟨ha, -⟩ | ⟨ha, -⟩) <;> exact ha
    · intro ha
      by_cases hc : ∃ b, received.getLast? = some b ∧ key a ≤ key b
      · exact .inl ⟨ha, hc⟩
      · exact .inr ⟨ha, fun b hb => lt_of_not_ge fun hab => hc ⟨b, hb, hab⟩⟩

/-- One more page: what has been received is still the log up to the last entry. -/
lemma upTo_append_take {received rows : List α} (h : (rows.map key).Nodup) (hrec : received = upTo key received rows)
    {limit : Nat} : received ++ (rest key (place key received) rows).take limit =
      upTo key (received ++ (rest key (place key received) rows).take limit) rows := by
  set page := (rest key (place key received) rows).take limit with hpage
  have hsplit : received ++ page ++ (rest key (place key received) rows).drop limit = sorted key rows := by
    have happend : upTo key received rows ++ rest key (place key received) rows = sorted key rows := upTo_append_rest h
    rwa [← hrec, ← List.take_append_drop limit (rest key (place key received) rows), ← List.append_assoc] at happend
  obtain hnil | ⟨front, b, hb⟩ : page = [] ∨ ∃ front b, page = front ++ [b] := by
    rcases List.eq_nil_or_concat page with hnil | ⟨front, b, hb⟩
    · exact .inl hnil
    · exact .inr ⟨front, b, by simpa using hb⟩
  · rw [hnil, List.append_nil]
    exact hrec
  · have hstrict : (received ++ page ++ (rest key (place key received) rows).drop limit).Pairwise fun a b => key a < key b := by
      rw [hsplit]
      exact sorted_strict h
    have hlast : (received ++ page).getLast? = some b := by simp [hb]
    refine eq_of_strict (List.pairwise_append.mp hstrict).1 (upTo_strict h) fun a => ?_
    have hmem : a ∈ rows ↔ a ∈ received ++ page ∨ a ∈ (rest key (place key received) rows).drop limit := by
      rw [← List.mem_append, hsplit, mem_sorted]
    rw [mem_upTo, hlast, hmem]
    constructor
    · intro ha
      refine ⟨.inl ha, b, rfl, ?_⟩
      rw [hb, ← List.append_assoc] at ha hstrict
      rcases List.mem_append.mp ha with ha | ha
      · exact le_of_lt ((List.pairwise_append.mp (List.pairwise_append.mp hstrict).1).2.2 a ha b (List.mem_singleton_self b))
      · rw [List.mem_singleton.mp ha]
    · rintro ⟨ha | ha, c, hc, hac⟩
      · exact ha
      · cases hc
        have hlt := (List.pairwise_append.mp hstrict).2.2 b (List.mem_of_getLast? hlast) a ha
        exact absurd hac (not_le_of_gt hlt)

/-- A reader has received the log up to its last entry, in every later version, and all of it when there was no more. -/
lemma Resumes.received_eq (hg : Grows key rows top) {n : Nat} {received : List α} {more : Bool}
    (h : Resumes key rows top n received more) :
    n ≤ top ∧ (∀ m, n ≤ m → m ≤ top → received = upTo key received (rows m)) ∧
      (more = false → received = sorted key (rows n)) := by
  induction h with
  | start =>
    refine ⟨Nat.zero_le _, fun m _ _ => ?_, fun h => by cases h⟩
    simp [upTo, sorted]
  | @read n m limit received more hres hnm hm hlimit ih =>
    obtain ⟨hn, hup, -⟩ := ih
    have hstep : received ++ (rest key (place key received) (rows m)).take limit = _ :=
      upTo_append_take (hg.nodup m hm) (hup m hnm hm)
    have hsub : ∀ a ∈ received ++ (rest key (place key received) (rows m)).take limit, a ∈ rows m := by
      intro a ha
      rw [hstep] at ha
      exact (mem_upTo.mp ha).1
    refine ⟨hm, fun m' hm' htop => ?_, fun hmore => ?_⟩
    · rw [hg.upTo_later hm' htop hsub]
      exact hstep
    · have hle : (rest key (place key received) (rows m)).length ≤ limit := Nat.not_lt.mp (of_decide_eq_false hmore)
      rw [List.take_of_length_le hle]
      nth_rewrite 1 [hup m hnm hm]
      exact upTo_append_rest (hg.nodup m hm)

/-- In every later version, the entries received are the first ones of the log, in its order. -/
theorem Resumes.received_first (hg : Grows key rows top) {n : Nat} {received : List α} {more : Bool}
    (h : Resumes key rows top n received more) :
    (∀ m, n ≤ m → m ≤ top → received = (sorted key (rows m)).take received.length) ∧
      (more = false → received = sorted key (rows n)) := by
  obtain ⟨-, hup, hmore⟩ := h.received_eq hg
  refine ⟨fun m hnm hm => ?_, hmore⟩
  have happend : upTo key received (rows m) ++ rest key (place key received) (rows m) = sorted key (rows m) :=
    upTo_append_rest (hg.nodup m hm)
  rw [← hup m hnm hm] at happend
  rw [← happend, List.take_left]

end JamyeServer.CursorLog
