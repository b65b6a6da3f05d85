import Mathlib.Data.List.Nodup

/-!
# Escaped texts

A marker in front of a letter takes the letter's meaning away. `scan` follows the markers through a text, and fails at
a special letter that none of them escapes.
-/

namespace JamyeServer.Escaping

variable {α : Type*} [DecidableEq α]

/-- Every occurrence of one letter replaced. -/
def replace (a : α) (by' l : List α) : List α := l.flatMap fun b => if b = a then by' else [b]

def escape (marker : α) (special l : List α) : List α := l.flatMap fun a => if a ∈ special then [marker, a] else [a]

/-- One marker taken away in front of each letter that it escapes. -/
def unescape (marker : α) : List α → List α
  | [] => []
  | [a] => [a]
  | a :: b :: rest => if a = marker then b :: unescape marker rest else a :: unescape marker (b :: rest)

/-- Whether the text ends behind a marker that escapes nothing yet; none at an unescaped special letter. -/
def scan (marker : α) (special : List α) : Bool → List α → Option Bool
  | escaped, [] => some escaped
  | true, _ :: rest => scan marker special false rest
  | false, a :: rest =>
    if a = marker then scan marker special true rest
    else if a ∈ special then none
    else scan marker special false rest

/-- The place of the first unescaped occurrence of a letter. -/
def firstUnescaped (marker target : α) : Bool → List α → Option ℕ
  | _, [] => none
  | true, _ :: rest => (firstUnescaped marker target false rest).map (· + 1)
  | false, a :: rest =>
    if a = marker then (firstUnescaped marker target true rest).map (· + 1)
    else if a = target then some 0
    else (firstUnescaped marker target false rest).map (· + 1)

/-- Every special letter of the text stands behind a marker of its own, and every marker in front of a letter. -/
def Escaped (marker : α) (special l : List α) : Prop := scan marker special false l = some false

instance (marker : α) (special l : List α) : Decidable (Escaped marker special l) :=
  inferInstanceAs (Decidable (scan marker special false l = some false))

variable {marker target : α} {special : List α}

section Escape

@[simp] lemma escape_nil : escape marker special [] = [] := rfl

lemma escape_cons (a : α) (l : List α) :
    escape marker special (a :: l) = (if a ∈ special then [marker, a] else [a]) ++ escape marker special l := rfl

lemma replace_append (a : α) (by' l l' : List α) : replace a by' (l ++ l') = replace a by' l ++ replace a by' l' :=
  List.flatMap_append

lemma escape_congr {special' : List α} (h : ∀ a, a ∈ special ↔ a ∈ special') (l : List α) :
    escape marker special l = escape marker special' l := by
  unfold escape
  refine congrArg (l.flatMap ·) (funext fun a => ?_)
  exact if_congr (h a) rfl rfl

/-- A further letter is escaped without touching the escapes that are there. -/
lemma replace_escape {a : α} (ha : a ∉ special) (hm : a ≠ marker) (l : List α) :
    replace a [marker, a] (escape marker special l) = escape marker (a :: special) l := by
  induction l with
  | nil => rfl
  | cons b l ih =>
    rw [escape_cons, escape_cons, replace_append, ih]
    congr 1
    by_cases hb : b ∈ special
    · have hba : b ≠ a := fun h => ha (h ▸ hb)
      simp [replace, hb, hba, hm.symm]
    · by_cases hba : b = a
      · subst hba
        simp [replace, hb]
      · simp [replace, hb, hba]

lemma replace_marker (l : List α) : replace marker [marker, marker] l = escape marker [marker] l := by
  unfold replace escape
  refine congrArg (l.flatMap ·) (funext fun a => ?_)
  by_cases ha : a = marker <;> simp [ha]

/-- Replacements one after the other, the marker's own first, escape all the letters. -/
theorem foldl_replace {letters : List α} (hnodup : (marker :: letters).Nodup) (l : List α) :
    (marker :: letters).foldl (fun l a => replace a [marker, a] l) l =
      escape marker (marker :: letters) l := by
  suffices h : ∀ done : List α, (∀ a ∈ letters, a ∉ done ∧ a ≠ marker) → letters.Nodup →
      letters.foldl (fun l a => replace a [marker, a] l) (escape marker done l) =
        escape marker (letters.reverse ++ done) l by
    rw [List.foldl_cons, replace_marker]
    rw [List.nodup_cons] at hnodup
    rw [h [marker] _ hnodup.2]
    · exact escape_congr (by simp [or_comm]) l
    · intro a ha
      have hne : a ≠ marker := fun h => hnodup.1 (h ▸ ha)
      simpa using hne
  clear hnodup
  induction letters with
  | nil => exact fun done _ _ => rfl
  | cons a letters ih =>
    intro done hfresh hnodup
    rw [List.nodup_cons] at hnodup
    have ha := hfresh a List.mem_cons_self
    rw [List.foldl_cons, replace_escape ha.1 ha.2, ih (a :: done) _ hnodup.2]
    · simp
    · intro b hb
      have hb' := hfresh b (List.mem_cons_of_mem _ hb)
      refine ⟨?_, hb'.2⟩
      rw [List.mem_cons, not_or]
      exact ⟨fun h => hnodup.1 (h ▸ hb), hb'.1⟩

lemma unescape_cons_of_ne {a : α} (ha : a ≠ marker) (l : List α) :
    unescape marker (a :: l) = a :: unescape marker l := by
  cases l with
  | nil => rfl
  | cons b l => rw [unescape, if_neg ha]

theorem unescape_escape (hm : marker ∈ special) (l : List α) :
    unescape marker (escape marker special l) = l := by
  induction l with
  | nil => rfl
  | cons a l ih =>
    rw [escape_cons]
    by_cases ha : a ∈ special
    · rw [if_pos ha, List.cons_append, List.cons_append, List.nil_append, unescape, if_pos rfl, ih]
    · have hne : a ≠ marker := fun h => ha (h ▸ hm)
      rw [if_neg ha, List.singleton_append, unescape_cons_of_ne hne, ih]

theorem escaped_escape (hm : marker ∈ special) (l : List α) : Escaped marker special (escape marker special l) := by
  unfold Escaped
  induction l with
  | nil => rfl
  | cons a l ih =>
    rw [escape_cons]
    by_cases ha : a ∈ special
    · simpa [ha, scan] using ih
    · have hne : a ≠ marker := fun h => ha (h ▸ hm)
      simpa [ha, hne, scan] using ih

end Escape

section Scan

lemma scan_append (s : Bool) (l l' : List α) :
    scan marker special s (l ++ l') = (scan marker special s l).bind fun s => scan marker special s l' := by
  induction l generalizing s with
  | nil => rfl
  | cons a l ih =>
    cases s with
    | true => exact ih false
    | false =>
      simp only [List.cons_append, scan]
      split
      · exact ih true
      split
      · rfl
      · exact ih false

/-- An escaped text is left at the first special letter behind it. -/
lemma firstUnescaped_append (ht : target ∈ special) (hm : target ≠ marker) {s : Bool} {l : List α}
    (h : scan marker special s l = some false) (rest : List α) :
    firstUnescaped marker target s (l ++ target :: rest) = some l.length := by
  induction l generalizing s with
  | nil =>
    obtain rfl := Option.some.inj h
    simp [firstUnescaped, hm]
  | cons a l ih =>
    cases s with
    | true => simpa [firstUnescaped] using ih h
    | false =>
      simp only [scan] at h
      simp only [List.cons_append, firstUnescaped]
      split at h
      next ha => simpa [ha] using ih h
      next ha =>
        split at h
        · cases h
        next hspecial =>
          have hat : a ≠ target := fun h => hspecial (h ▸ ht)
          simpa [ha, hat] using ih h

lemma firstUnescaped_of_free {l : List α} (h : ∀ a ∈ l, a ≠ marker ∧ a ≠ target) (rest : List α) :
    firstUnescaped marker target false (l ++ rest) =
      (firstUnescaped marker target false rest).map (· + l.length) := by
  induction l with
  | nil => simp
  | cons a l ih =>
    have ha := h a List.mem_cons_self
    simp only [List.cons_append, firstUnescaped, if_neg ha.1, if_neg ha.2]
    rw [ih fun b hb => h b (List.mem_cons_of_mem _ hb), Option.map_map]
    rfl

end Scan

end JamyeServer.Escaping
