import Mathlib.Data.List.Infix
import Mathlib.Data.Set.Basic

/-!
# Texts cut greedily into terms and letters

A text is read from left to right, its letters under a fold. At each position the longest term that starts there is one
piece, and where no term starts the letter is a piece of its own. Replacing the terms by a mask leaves the letters
between them as they are.
-/

namespace JamyeServer.Segmentation

variable {α β : Type*}

/-- A piece of a text: a term as the text writes it, or a letter. -/
inductive Piece (α : Type*) where
  | term (letters : List α)
  | letter (a : α)
  deriving DecidableEq

namespace Piece

def letters : Piece α → List α
  | term letters => letters
  | letter a => [a]

def masked (mask : List α) : Piece α → List α
  | term _ => mask
  | letter a => [a]

def isTerm : Piece α → Bool
  | term _ => true
  | letter _ => false

end Piece

def text (pieces : List (Piece α)) : List α := pieces.flatMap Piece.letters

def masked (mask : List α) (pieces : List (Piece α)) : List α := pieces.flatMap (Piece.masked mask)

@[simp] lemma text_nil : text ([] : List (Piece α)) = [] := rfl

@[simp] lemma text_term (letters : List α) (pieces : List (Piece α)) :
    text (.term letters :: pieces) = letters ++ text pieces := rfl

@[simp] lemma text_letter (a : α) (pieces : List (Piece α)) : text (.letter a :: pieces) = a :: text pieces := rfl

@[simp] lemma masked_nil (mask : List α) : masked mask [] = [] := rfl

@[simp] lemma masked_term (mask letters : List α) (pieces : List (Piece α)) :
    masked mask (.term letters :: pieces) = mask ++ masked mask pieces := rfl

@[simp] lemma masked_letter (mask : List α) (a : α) (pieces : List (Piece α)) :
    masked mask (.letter a :: pieces) = a :: masked mask pieces := rfl

@[simp] lemma text_append (p q : List (Piece α)) : text (p ++ q) = text p ++ text q := List.flatMap_append

@[simp] lemma masked_append (mask : List α) (p q : List (Piece α)) :
    masked mask (p ++ q) = masked mask p ++ masked mask q := List.flatMap_append

@[simp] lemma text_map_letter (l : List α) : text (l.map .letter) = l := by
  induction l with
  | nil => rfl
  | cons a l ih => simp [ih]

@[simp] lemma masked_map_letter (mask l : List α) : masked mask (l.map .letter) = l := by
  induction l with
  | nil => rfl
  | cons a l ih => simp [ih]

lemma masked_of_no_term {mask : List α} {p : List (Piece α)} (h : p.any Piece.isTerm = false) :
    masked mask p = text p := by
  induction p with
  | nil => rfl
  | cons piece p ih =>
    rw [List.any_cons, Bool.or_eq_false_iff] at h
    cases piece with
    | term letters => exact absurd h.1 Bool.noConfusion
    | letter a => rw [masked_letter, text_letter, ih h.2]

/-- Every piece is the longest term that starts where it starts, or a letter where none does. -/
def Greedy (fold : α → β) (terms : Set (List β)) : List (Piece α) → Prop
  | [] => True
  | .term letters :: later =>
    letters.map fold ∈ terms ∧
      (∀ t ∈ terms, t <+: (letters ++ text later).map fold → t.length ≤ letters.length) ∧ Greedy fold terms later
  | .letter a :: later => (∀ t ∈ terms, ¬ t <+: (a :: text later).map fold) ∧ Greedy fold terms later

section Greedy

variable {fold : α → β} {terms : Set (List β)}

lemma Greedy.prefix_of_term {letters : List α} {later : List (Piece α)} (h : Greedy fold terms (.term letters :: later)) :
    letters.map fold ∈ terms ∧ letters.map fold <+: (letters ++ text later).map fold := by
  refine ⟨h.1, ?_⟩
  rw [List.map_append]
  exact List.prefix_append _ _

lemma Greedy.text_ne_nil (hne : [] ∉ terms) {piece : Piece α} {p : List (Piece α)}
    (hp : Greedy fold terms (piece :: p)) : text (piece :: p) ≠ [] := by
  cases piece with
  | letter a => simp
  | term letters =>
    intro h
    rw [text_term, List.append_eq_nil_iff] at h
    have hmem := hp.1
    rw [h.1] at hmem
    exact hne hmem

/-- A text is cut in one way only. -/
lemma Greedy.unique (hne : [] ∉ terms) {p q : List (Piece α)} (hp : Greedy fold terms p) (hq : Greedy fold terms q)
    (h : text p = text q) : p = q := by
  induction p generalizing q with
  | nil =>
    cases q with
    | nil => rfl
    | cons piece q => exact absurd h.symm (hq.text_ne_nil hne)
  | cons piece p ih =>
    cases q with
    | nil => exact absurd h (hp.text_ne_nil hne)
    | cons piece' q =>
      cases piece with
      | term letters =>
        have hpre := hp.prefix_of_term
        rw [← text_term, h] at hpre
        cases piece' with
        | letter a => exact absurd hpre.2 (hq.1 _ hpre.1)
        | term letters' =>
          have hpre' := hq.prefix_of_term
          rw [← text_term, ← h] at hpre'
          have hle := hq.2.1 _ hpre.1 hpre.2
          have hle' := hp.2.1 _ hpre'.1 hpre'.2
          rw [List.length_map] at hle hle'
          rw [text_term, text_term] at h
          obtain ⟨rfl, htext⟩ := List.append_inj h (Nat.le_antisymm hle hle')
          rw [ih hp.2.2 hq.2.2 htext]
      | letter a =>
        cases piece' with
        | term letters' =>
          have hpre' := hq.prefix_of_term
          rw [← text_term, ← h] at hpre'
          exact absurd hpre'.2 (hp.1 _ hpre'.1)
        | letter b =>
          rw [text_letter, text_letter, List.cons.injEq] at h
          rw [h.1, ih hp.2 hq.2 h.2]

/-- Where no term occurs, nothing is replaced. -/
lemma Greedy.masked_of_free {p : List (Piece α)} (hp : Greedy fold terms p) (mask : List α)
    (h : ∀ t ∈ terms, ¬ t <:+: (text p).map fold) : masked mask p = text p := by
  induction p with
  | nil => rfl
  | cons piece p ih =>
    cases piece with
    | term letters => exact absurd hp.prefix_of_term.2.isInfix (h _ hp.1)
    | letter a =>
      rw [masked_letter, text_letter, ih hp.2]
      intro t ht hin
      exact h t ht (by simpa using (List.infix_cons_iff.mpr (.inr hin)))

end Greedy

section Scanner

variable [DecidableEq β] (fold : α → β) (terms : List (List β))

/-- The pieces as a scanner finds them that takes the first term of its list that fits. -/
def segment : ℕ → List α → List (Piece α)
  | fuel + 1, a :: rest =>
    match terms.find? fun term => term.isPrefixOf ((a :: rest).map fold) with
    | some term => .term ((a :: rest).take term.length) :: segment fuel ((a :: rest).drop term.length)
    | none => .letter a :: segment fuel rest
  | _, _ => []

variable {fold terms}

omit [DecidableEq β] in
lemma map_take_eq {t : List β} {l : List α} (h : t <+: l.map fold) : (l.take t.length).map fold = t := by
  rw [List.map_take]
  exact (List.prefix_iff_eq_take.mp h).symm

variable (fold) in
/-- Terms listed longest first make the scanner greedy. -/
theorem greedy_segment (hne : [] ∉ terms) (hlong : terms.Pairwise fun s t => t.length ≤ s.length) (fuel : ℕ)
    (l : List α) (hfuel : l.length ≤ fuel) :
    text (segment fold terms fuel l) = l ∧ Greedy fold {t | t ∈ terms} (segment fold terms fuel l) := by
  induction fuel generalizing l with
  | zero =>
    obtain rfl : l = [] := List.length_eq_zero_iff.mp (by omega)
    exact ⟨rfl, trivial⟩
  | succ fuel ih =>
    cases l with
    | nil => exact ⟨rfl, trivial⟩
    | cons a rest =>
      rw [segment]
      split
      next term hfind =>
        obtain ⟨hpre, before, after, hsplit, hbefore⟩ := List.find?_eq_some_iff_append.mp hfind
        have hmem : term ∈ terms := by simp [hsplit]
        rw [List.isPrefixOf_iff_prefix] at hpre
        have hpos : 0 < term.length := List.length_pos_of_ne_nil fun h => hne (h ▸ hmem)
        obtain ⟨htext, hgreedy⟩ := ih ((a :: rest).drop term.length) (by simp only [List.length_drop]; omega)
        refine ⟨by rw [text_term, htext, List.take_append_drop], ?_, ?_, hgreedy⟩
        · rw [map_take_eq hpre]
          exact hmem
        · intro t ht htpre
          rw [htext, List.take_append_drop] at htpre
          have hlen : ((a :: rest).take term.length).length = term.length := by
            rw [← List.length_map fold, map_take_eq hpre]
          rw [hlen]
          -- an earlier term would have been found first, and a later one is no longer
          rw [Set.mem_ofPred_eq, hsplit, List.mem_append, List.mem_cons] at ht
          rcases ht with ht | rfl | ht
          · have hno := hbefore t ht
            rw [Bool.not_eq_true', ← Bool.not_eq_true, List.isPrefixOf_iff_prefix] at hno
            exact absurd htpre hno
          · rfl
          · rw [hsplit, List.pairwise_append] at hlong
            exact List.rel_of_pairwise_cons hlong.2.1 ht
      next hfind =>
        rw [List.length_cons] at hfuel
        obtain ⟨htext, hgreedy⟩ := ih rest (by omega)
        refine ⟨by rw [text_letter, htext], ?_, hgreedy⟩
        intro t ht
        rw [htext, ← List.isPrefixOf_iff_prefix]
        exact List.find?_eq_none.mp hfind t ht

end Scanner

section Mask

variable {fold : α → β} {terms : Set (List β)} {mask : List α} {star : β}

/-- What a masked text shows up to the first star was there before. -/
lemma prefix_text_of_prefix_masked (hstar : ∀ a ∈ mask, fold a = star) {p : List (Piece α)} {u : List β}
    (hlast : u.getLast? ≠ some star) (hmask : ¬ mask.map fold <:+: u) (h : u <+: (masked mask p).map fold) :
    u <+: (text p).map fold := by
  induction p generalizing u with
  | nil => exact h
  | cons piece p ih =>
    cases u with
    | nil => exact List.nil_prefix
    | cons b u =>
      cases piece with
      | letter a =>
        simp only [masked_letter, text_letter, List.map_cons, List.cons_prefix_cons] at h ⊢
        refine ⟨h.1, ih ?_ (fun hin => hmask (List.infix_cons_iff.mpr (.inr hin))) h.2⟩
        cases u with
        | nil => simp
        | cons c u => simpa [List.getLast?_cons_cons] using hlast
      | term letters =>
        exfalso
        rw [masked_term, List.map_append] at h
        rcases List.prefix_or_prefix_of_prefix h (List.prefix_append _ _) with hu | hu
        · -- the last letter of `u` would be a star
          obtain ⟨a, ha, hab⟩ := List.mem_map.mp (hu.subset (List.getLast_mem (List.cons_ne_nil b u)))
          rw [hstar a ha] at hab
          exact hlast (by rw [List.getLast?_eq_some_getLast (List.cons_ne_nil b u), ← hab])
        · exact hmask hu.isInfix

lemma infix_of_infix_stars {m : List α} (hstar : ∀ a ∈ m, fold a = star) {t l : List β} (hne : t ≠ [])
    (hhead : t.head? ≠ some star) (h : t <:+: m.map fold ++ l) : t <:+: l := by
  induction m with
  | nil => exact h
  | cons a m ih =>
    rw [List.map_cons, List.cons_append, List.infix_cons_iff] at h
    rcases h with h | h
    · obtain h | ⟨u, rfl, -⟩ := List.prefix_cons_iff.mp h
      · exact absurd h hne
      · exact absurd (by rw [List.head?_cons, hstar a List.mem_cons_self]) hhead
    · exact ih (fun b hb => hstar b (List.mem_cons_of_mem _ hb)) h

/-- A term that neither starts nor ends with a star and does not hold the mask is not in the masked text. -/
theorem Greedy.not_infix_masked (hstar : ∀ a ∈ mask, fold a = star) {p : List (Piece α)} (hp : Greedy fold terms p)
    {t : List β} (ht : t ∈ terms) (hne : t ≠ []) (hhead : t.head? ≠ some star) (hlast : t.getLast? ≠ some star)
    (hmask : ¬ mask.map fold <:+: t) : ¬ t <:+: (masked mask p).map fold := by
  induction p with
  | nil => simpa using hne
  | cons piece p ih =>
    cases piece with
    | term letters =>
      intro h
      rw [masked_term, List.map_append] at h
      exact ih hp.2.2 (infix_of_infix_stars hstar hne hhead h)
    | letter a =>
      intro h
      rw [masked_letter, List.map_cons, List.infix_cons_iff, ← List.map_cons, ← masked_letter] at h
      rcases h with h | h
      · exact hp.1 t ht (prefix_text_of_prefix_masked hstar hlast hmask h)
      · exact ih hp.2 h

/-- A text whose beginning the mask left alone begins with letters. -/
lemma eq_letters_append {o l l' : List α} {p : List (Piece α)} (hmask : mask ≠ []) (ho : ∀ a ∈ mask, a ∉ o)
    (htext : text p = o ++ l) (hmasked : masked mask p = o ++ l') :
    ∃ q, p = o.map .letter ++ q ∧ text q = l ∧ masked mask q = l' := by
  induction o generalizing p with
  | nil => exact ⟨p, rfl, htext, hmasked⟩
  | cons a o ih =>
    cases p with
    | nil => cases htext
    | cons piece p =>
      cases piece with
      | term letters =>
        obtain ⟨b, m, rfl⟩ := List.exists_cons_of_ne_nil hmask
        rw [masked_term, List.cons_append, List.cons_append, List.cons.injEq] at hmasked
        exact absurd (hmasked.1 ▸ List.mem_cons_self) (ho b List.mem_cons_self)
      | letter b =>
        rw [text_letter, List.cons_append, List.cons.injEq] at htext
        rw [masked_letter, List.cons_append, List.cons.injEq] at hmasked
        obtain ⟨q, rfl, hq⟩ := ih (fun b hb h => ho b hb (List.mem_cons_of_mem _ h)) htext.2 hmasked.2
        exact ⟨q, by rw [htext.1]; rfl, hq⟩

/-- The same from the other end. -/
lemma eq_append_letters {c l l' : List α} {p : List (Piece α)} (hmask : mask ≠ []) (hc : ∀ a ∈ mask, a ∉ c)
    (htext : text p = l ++ c) (hmasked : masked mask p = l' ++ c) :
    ∃ q, p = q ++ c.map .letter ∧ text q = l ∧ masked mask q = l' := by
  induction c using List.reverseRecOn generalizing p with
  | nil => exact ⟨p, by simp, by simpa using htext, by simpa using hmasked⟩
  | append_singleton c a ih =>
    rw [← List.append_assoc] at htext hmasked
    rcases List.eq_nil_or_concat p with rfl | ⟨p, piece, rfl⟩
    · simp at htext
    rw [List.concat_eq_append] at htext hmasked ⊢
    rw [text_append] at htext
    rw [masked_append] at hmasked
    cases piece with
    | term letters =>
      rcases List.eq_nil_or_concat mask with rfl | ⟨m, b, rfl⟩
      · exact absurd rfl hmask
      rw [List.concat_eq_append] at hmasked hc
      rw [masked_term, masked_nil, List.append_nil, ← List.append_assoc] at hmasked
      have hab := (List.append_inj' hmasked rfl).2
      exact absurd (by rw [List.singleton_inj.mp hab]; simp) (hc b (by simp))
    | letter b =>
      have htext' := List.append_inj' htext rfl
      have hmasked' := List.append_inj' hmasked rfl
      obtain ⟨q, rfl, hq⟩ := ih (fun b hb h => hc b hb (by simp [h])) htext'.1 hmasked'.1
      refine ⟨q, ?_, hq⟩
      rw [List.map_append, List.append_assoc, ← List.singleton_inj.mp htext'.2]
      rfl

end Mask

end JamyeServer.Segmentation
