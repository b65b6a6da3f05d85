import JamyeServer.Segmentation
import JamyeServer.Text
import Mathlib.Data.Char
import Mathlib.Data.List.Lex

/-!
# The content filter

Operators list terms; the filter replaces them in the body of a chat message. The lowercase form of a character is the
standard library's table and stays a parameter.
-/

namespace JamyeServer.Moderation

open Segmentation Text

/-- Replacement for every masked term occurrence. -/
def maskText : List Char := ['*', '*', '*']

def maxFilterTerms : ℕ := 500
def maxFilterTermChars : ℕ := 64

/-- A one-character term would mask that character in every chat message. -/
def minFilterTermChars : ℕ := 2

inductive ContentFilterError where
  | emptyList
  | tooManyTerms
  | termTooLong
  | termTooShort
  | controlCharacter
  deriving DecidableEq, Repr

structure ContentFilter where
  /-- Folded terms, longest first. -/
  terms : List (List Char)
  deriving DecidableEq, Repr

/-- A filter without terms. -/
def ContentFilter.disabled : ContentFilter := ⟨[]⟩

/-- The order of `sort_by`: longer terms first, equal lengths by their characters. -/
def termLe (left right : List Char) : Bool :=
  if left.length = right.length then decide (left ≤ right) else decide (right.length < left.length)

section Filter

-- `char::to_lowercase`
variable (toLowercase : Char → List Char)

/-- Characters whose lowercase form is not one character stay as they are. -/
def fold (character : Char) : Char :=
  match toLowercase character with
  | [single] => single
  | _ => character

/-- One pass of the loop of `from_terms`. -/
def addTerm (folded : List (List Char)) (term : String) : Except ContentFilterError (List (List Char)) :=
  let term := trim term.toList
  if term.isEmpty then .ok folded
  else if term.any isControl then .error .controlCharacter
  else if maxFilterTermChars < term.length then .error .termTooLong
  else if term.length < minFilterTermChars then .error .termTooShort
  else
    let term := term.map (fold toLowercase)
    let folded := if term ∈ folded then folded else folded ++ [term]
    if maxFilterTerms < folded.length then .error .tooManyTerms else .ok folded

def fromTerms (terms : List String) : Except ContentFilterError ContentFilter := do
  let folded ← terms.foldlM (addTerm toLowercase) []
  if folded.isEmpty then .error .emptyList else .ok ⟨folded.mergeSort termLe⟩

/-- The `while` loop of `mask` from the characters that are still to be read, with the output and whether anything was
masked so far. Every pass reads a character, so that the text's length bounds their number. -/
def maskLoop (terms : List (List Char)) : ℕ → List Char → List Char → Bool → List Char × Bool
  | fuel + 1, character :: rest, output, maskedAny =>
    let folded := (character :: rest).map (fold toLowercase)
    match terms.find? fun term => term.isPrefixOf folded with
    | some term => maskLoop terms fuel ((character :: rest).drop term.length) (output ++ maskText) true
    | none => maskLoop terms fuel rest (output ++ [character]) maskedAny
  | _, _, output, maskedAny => (output, maskedAny)

def ContentFilter.mask (filter : ContentFilter) (text : String) : String :=
  if filter.terms.isEmpty || text.isEmpty then text
  else
    let (output, maskedAny) := maskLoop toLowercase filter.terms text.toList.length text.toList [] false
    if maskedAny then String.ofList output else text

/-- The lowercase forms of the ASCII characters. -/
def asciiLowercase (character : Char) : List Char := [character.toLower]

/-- The folded terms of a list; its blank entries count for nothing. -/
def foldedTerms (terms : List String) : Set (List Char) :=
  {t | ∃ term ∈ terms, trim term.toList ≠ [] ∧ t = (trim term.toList).map (fold toLowercase)}

end Filter

section Terms

variable {toLowercase : Char → List Char}

/-- A term that is accepted is neither too short nor too long, and it is listed from then on. -/
lemma addTerm_ok {folded folded' : List (List Char)} {term : String}
    (h : addTerm toLowercase folded term = .ok folded') :
    (trim term.toList = [] ∧ folded' = folded) ∨
      (2 ≤ (trim term.toList).length ∧
        ∀ t, t ∈ folded' ↔ t ∈ folded ∨ t = (trim term.toList).map (fold toLowercase)) := by
  unfold addTerm at h
  dsimp only at h
  split at h
  next hempty =>
    rw [List.isEmpty_iff] at hempty
    exact .inl ⟨hempty, (Except.ok.inj h).symm⟩
  next hempty =>
    split at h
    · cases h
    split at h
    · cases h
    split at h
    · cases h
    next hshort =>
      refine .inr ⟨Nat.le_of_not_lt hshort, ?_⟩
      intro t
      by_cases hmem : (trim term.toList).map (fold toLowercase) ∈ folded
      · rw [if_pos hmem] at h
        split at h
        · cases h
        obtain rfl := Except.ok.inj h
        constructor
        · exact .inl
        · rintro (ht | rfl)
          · exact ht
          · exact hmem
      · rw [if_neg hmem] at h
        split at h
        · cases h
        obtain rfl := Except.ok.inj h
        simp

lemma foldlM_addTerm_ok {terms : List String} {folded folded' : List (List Char)}
    (h : terms.foldlM (addTerm toLowercase) folded = .ok folded') :
    (∀ t, t ∈ folded' ↔ t ∈ folded ∨ t ∈ foldedTerms toLowercase terms) ∧
      ((∀ t ∈ folded, 2 ≤ t.length) → ∀ t ∈ folded', 2 ≤ t.length) := by
  induction terms generalizing folded with
  | nil =>
    obtain rfl := Except.ok.inj h
    exact ⟨fun t => by simp [foldedTerms], id⟩
  | cons term terms ih =>
    rw [List.foldlM_cons] at h
    cases hadd : addTerm toLowercase folded term with
    | error e => rw [hadd] at h; cases h
    | ok next =>
      rw [hadd] at h
      obtain ⟨hmem, hlen⟩ := ih h
      obtain ⟨hblank, rfl⟩ | ⟨hlong, hnext⟩ := addTerm_ok hadd
      · refine ⟨fun t => ?_, hlen⟩
        rw [hmem t]
        simp [foldedTerms, hblank]
      · constructor
        · intro t
          have hne : trim term.toList ≠ [] := by
            intro hnil
            rw [hnil] at hlong
            exact absurd hlong (by decide)
          rw [hmem t, hnext t]
          simp [foldedTerms, hne, or_assoc]
        · intro hold
          refine hlen fun t ht => ?_
          rcases (hnext t).mp ht with ht | rfl
          · exact hold t ht
          · rwa [List.length_map]

lemma termLe_trans (a b c : List Char) (hab : termLe a b) (hbc : termLe b c) : termLe a c := by
  unfold termLe at *
  split at hab <;> split at hbc <;> split
  · exact decide_eq_true (le_trans (of_decide_eq_true hab) (of_decide_eq_true hbc))
  all_goals simp only [decide_eq_true_eq] at *; omega

lemma termLe_total (a b : List Char) : termLe a b || termLe b a := by
  unfold termLe
  split
  next heq =>
    rw [if_pos heq.symm]
    simpa using le_total a b
  next hne =>
    rw [if_neg (Ne.symm hne)]
    simp only [Bool.or_eq_true, decide_eq_true_eq]
    omega

lemma length_le_of_termLe {a b : List Char} (h : termLe a b) : b.length ≤ a.length := by
  unfold termLe at h
  split at h
  · omega
  · exact (of_decide_eq_true h).le

/-- What the filter made of an accepted list holds: the folded terms, longest first, none of them empty. -/
theorem terms_of_fromTerms {terms : List String} {filter : ContentFilter} (h : fromTerms toLowercase terms = .ok filter) :
    (∀ t, t ∈ filter.terms ↔ t ∈ foldedTerms toLowercase terms) ∧
      filter.terms.Pairwise (fun s t => t.length ≤ s.length) ∧ [] ∉ filter.terms ∧ filter.terms ≠ [] := by
  unfold fromTerms at h
  cases hfold : terms.foldlM (addTerm toLowercase) [] with
  | error e => rw [hfold] at h; cases h
  | ok folded =>
    rw [hfold] at h
    change (if folded.isEmpty then _ else _) = _ at h
    split at h
    · cases h
    next hempty =>
      obtain rfl := Except.ok.inj h
      obtain ⟨hmem, hlen⟩ := foldlM_addTerm_ok hfold
      refine ⟨fun t => ?_, ?_, ?_, ?_⟩
      · rw [List.mem_mergeSort, hmem t]
        simp
      · exact (List.pairwise_mergeSort termLe_trans termLe_total folded).imp length_le_of_termLe
      · intro hnil
        have htwo := hlen (by simp) [] (List.mem_mergeSort.mp hnil)
        exact absurd htwo (by decide)
      · intro hnil
        rw [← List.length_eq_zero_iff, List.length_mergeSort, List.length_eq_zero_iff] at hnil
        exact hempty (by simp [hnil])

end Terms

section Mask

variable {toLowercase : Char → List Char}

/-- The loop writes the masked pieces of what is left, and reports whether one of them was a term. -/
lemma maskLoop_eq (terms : List (List Char)) (fuel : ℕ) (rest output : List Char) (maskedAny : Bool) :
    maskLoop toLowercase terms fuel rest output maskedAny =
      (output ++ masked maskText (Segmentation.segment (fold toLowercase) terms fuel rest),
        maskedAny || (Segmentation.segment (fold toLowercase) terms fuel rest).any Piece.isTerm) := by
  induction fuel generalizing rest output maskedAny with
  | zero => simp [maskLoop, Segmentation.segment]
  | succ fuel ih =>
    cases rest with
    | nil => simp [maskLoop, Segmentation.segment]
    | cons character rest =>
      simp only [maskLoop, Segmentation.segment]
      cases terms.find? fun term => term.isPrefixOf ((character :: rest).map (fold toLowercase)) with
      | some term =>
        dsimp only
        rw [ih]
        simp [Piece.isTerm]
      | none =>
        dsimp only
        rw [ih]
        simp [Piece.isTerm]

/-- The text of an accepted list's mask: the pieces of the text with its terms replaced. -/
theorem mask_eq_masked {terms : List String} {filter : ContentFilter} (h : fromTerms toLowercase terms = .ok filter)
    (source : String) {p : List (Piece Char)} (hp : Greedy (fold toLowercase) (foldedTerms toLowercase terms) p)
    (htext : text p = source.toList) : (filter.mask toLowercase source).toList = masked maskText p := by
  obtain ⟨hmem, hlong, hne, hsome⟩ := terms_of_fromTerms h
  have hset : {t | t ∈ filter.terms} = foldedTerms toLowercase terms := Set.ext hmem
  obtain ⟨hcut, hgreedy⟩ := greedy_segment (fold toLowercase) hne hlong source.toList.length source.toList le_rfl
  rw [hset] at hgreedy
  have hpieces := hp.unique (fun hnil => hne ((hmem _).mpr hnil)) hgreedy (htext.trans hcut.symm)
  unfold ContentFilter.mask
  split
  next hempty =>
    rw [Bool.or_eq_true, List.isEmpty_iff, String.isEmpty_iff] at hempty
    obtain rfl := hempty.resolve_left hsome
    subst hpieces
    rfl
  next hempty =>
    rw [maskLoop_eq, ← hpieces, List.nil_append, Bool.false_or]
    dsimp only
    split
    · rw [String.toList_ofList]
    next hnone =>
      rw [masked_of_no_term (Bool.not_eq_true _ ▸ hnone), htext]

lemma exists_greedy {terms : List String} {filter : ContentFilter} (h : fromTerms toLowercase terms = .ok filter)
    (source : List Char) :
    ∃ p, text p = source ∧ Greedy (fold toLowercase) (foldedTerms toLowercase terms) p := by
  obtain ⟨hmem, hlong, hne, -⟩ := terms_of_fromTerms h
  have hset : {t | t ∈ filter.terms} = foldedTerms toLowercase terms := Set.ext hmem
  have hcut := greedy_segment (fold toLowercase) hne hlong source.length source le_rfl
  rw [hset] at hcut
  exact ⟨_, hcut⟩

/-- The mask replaces exactly the terms of the one greedy cut of the text, and it knows the list only through the set of
its folded terms. -/
theorem mask_replaces_greedy_pieces (terms : List String) (filter : ContentFilter)
    (h : fromTerms toLowercase terms = .ok filter) :
    (∀ source : String, ∃ p : List (Piece Char),
      text p = source.toList ∧ Greedy (fold toLowercase) (foldedTerms toLowercase terms) p ∧
      (∀ q, text q = source.toList → Greedy (fold toLowercase) (foldedTerms toLowercase terms) q → q = p) ∧
      (filter.mask toLowercase source).toList = masked maskText p) ∧
    ∀ (terms' : List String) (filter' : ContentFilter), fromTerms toLowercase terms' = .ok filter' →
      foldedTerms toLowercase terms' = foldedTerms toLowercase terms →
      ∀ source, filter'.mask toLowercase source = filter.mask toLowercase source := by
  have hne : [] ∉ foldedTerms toLowercase terms := by
    obtain ⟨hmem, -, hne, -⟩ := terms_of_fromTerms h
    exact fun hnil => hne ((hmem _).mpr hnil)
  constructor
  · intro source
    obtain ⟨p, htext, hp⟩ := exists_greedy h source.toList
    refine ⟨p, htext, hp, ?_, mask_eq_masked h source hp htext⟩
    intro q hq hgreedy
    exact hgreedy.unique hne hp (hq.trans htext.symm)
  · intro terms' filter' h' hset source
    obtain ⟨p, htext, hp⟩ := exists_greedy h source.toList
    apply String.toList_injective
    rw [mask_eq_masked h source hp htext]
    rw [← hset] at hp
    exact mask_eq_masked h' source hp htext

theorem mask_replaces_greedy_pieces_bad :
    ∃ p : List (Piece Char), text p = "A BADGE".toList ∧
      ((⟨[['b', 'a', 'd']]⟩ : ContentFilter).mask asciiLowercase "A BADGE").toList = masked maskText p := by
  have hok : fromTerms asciiLowercase ["Bad"] = .ok ⟨[['b', 'a', 'd']]⟩ := by decide +kernel
  obtain ⟨p, htext, -, -, hmask⟩ := (mask_replaces_greedy_pieces ["Bad"] _ hok).1 "A BADGE"
  exact ⟨p, htext, hmask⟩

/-- A term that starts with an asterisk comes back with the mask before it. -/
theorem mask_restores_term :
    ∃ filter, fromTerms asciiLowercase ["*c"] = .ok filter ∧ filter.mask asciiLowercase "*cc" = "***c" ∧
      (∃ t ∈ foldedTerms asciiLowercase ["*c"],
        t <:+: (filter.mask asciiLowercase "*cc").toList.map (fold asciiLowercase)) ∧
      filter.mask asciiLowercase (filter.mask asciiLowercase "*cc") ≠ filter.mask asciiLowercase "*cc" := by
  refine ⟨⟨[['*', 'c']]⟩, by decide +kernel, by decide +kernel, ⟨['*', 'c'], ?_, by decide +kernel⟩, by decide +kernel⟩
  exact ⟨"*c", by decide, by decide, by decide⟩

/-- A masked text holds no term and is not masked again, as long as no term starts or ends with an asterisk or holds
three of them in a row. -/
theorem mask_removes_terms (terms : List String) (filter : ContentFilter)
    (h : fromTerms toLowercase terms = .ok filter) (hstar : toLowercase '*' = ['*'])
    (hedges : ∀ t ∈ foldedTerms toLowercase terms,
      t.head? ≠ some '*' ∧ t.getLast? ≠ some '*' ∧ ¬ maskText <:+: t) (source : String) :
    (∀ t ∈ foldedTerms toLowercase terms,
      ¬ t <:+: (filter.mask toLowercase source).toList.map (fold toLowercase)) ∧
    filter.mask toLowercase (filter.mask toLowercase source) = filter.mask toLowercase source := by
  obtain ⟨hmem, -, hne, -⟩ := terms_of_fromTerms h
  have hfold : fold toLowercase '*' = '*' := by simp [fold, hstar]
  have hmask : ∀ a ∈ maskText, fold toLowercase a = '*' := by
    simp [maskText, hfold]
  have hfree : ∀ t ∈ foldedTerms toLowercase terms,
      ¬ t <:+: (filter.mask toLowercase source).toList.map (fold toLowercase) := by
    intro t ht
    obtain ⟨p, htext, hp⟩ := exists_greedy h source.toList
    rw [mask_eq_masked h source hp htext]
    obtain ⟨hhead, hlast, hin⟩ := hedges t ht
    refine hp.not_infix_masked hmask ht (fun hnil => hne ((hmem _).mpr (hnil ▸ ht))) hhead hlast ?_
    simpa [maskText, hfold] using hin
  refine ⟨hfree, ?_⟩
  obtain ⟨p, htext, hp⟩ := exists_greedy h (filter.mask toLowercase source).toList
  apply String.toList_injective
  rw [mask_eq_masked h _ hp htext, hp.masked_of_free maskText, htext]
  intro t ht
  rw [htext]
  exact hfree t ht

theorem mask_removes_terms_bad :
    ¬ ['b', 'a', 'd'] <:+:
      ((⟨[['b', 'a', 'd']]⟩ : ContentFilter).mask asciiLowercase "A BADGE").toList.map (fold asciiLowercase) := by
  refine (mask_removes_terms ["Bad"] _ (by decide +kernel) (by decide) ?_ "A BADGE").1 ['b', 'a', 'd'] ?_
  · rintro t ⟨term, hterm, -, rfl⟩
    obtain rfl := List.mem_singleton.mp hterm
    decide
  · exact ⟨"Bad", by decide, by decide, by decide⟩

end Mask

end JamyeServer.Moderation
