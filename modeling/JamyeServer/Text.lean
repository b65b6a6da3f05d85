import Mathlib.Algebra.Group.Nat.Defs
import Mathlib.Data.List.DropRight
import Mathlib.Data.List.Infix

/-!
# Characters and strings as the server sees them
-/

namespace JamyeServer.Text

/-- `char::is_control`: the general category Cc. -/
def isControl (c : Char) : Bool := decide (c.toNat < 0x20) || decide (0x7f ≤ c.toNat) && decide (c.toNat < 0xa0)

/-- `char::is_whitespace`: the property `White_Space`. -/
def isWhitespace (c : Char) : Bool :=
  decide (0x9 ≤ c.toNat) && decide (c.toNat ≤ 0xd) || decide (0x2000 ≤ c.toNat) && decide (c.toNat ≤ 0x200a) ||
    c.toNat ∈ [0x20, 0x85, 0xa0, 0x1680, 0x2028, 0x2029, 0x202f, 0x205f, 0x3000]

/-- A property of the characters of a list is decided along the list. -/
lemma forall_mem_of_all {p : Char → Prop} [DecidablePred p] {l : List Char} (h : (l.all fun c => decide (p c)) = true) :
    ∀ c ∈ l, p c := by
  simpa using h

/-- `str::trim`. -/
def trim (value : List Char) : List Char := (value.dropWhile isWhitespace).rdropWhile isWhitespace

/-- `value.trim() == value`. -/
def isTrimmed (value : List Char) : Bool := !value.head?.any isWhitespace && !value.getLast?.any isWhitespace

section Trim

lemma isTrimmed_iff (value : List Char) :
    isTrimmed value = true ↔ (∀ c, value.head? = some c → isWhitespace c = false) ∧
      ∀ c, value.getLast? = some c → isWhitespace c = false := by
  unfold isTrimmed
  cases value.head? <;> cases value.getLast? <;> simp

lemma rdropWhile_append_cons {p : Char → Bool} {c : Char} (hc : ¬ p c) (l r : List Char) :
    (l ++ c :: r).rdropWhile p = l ++ c :: r.rdropWhile p := by
  unfold List.rdropWhile
  rw [List.reverse_append, List.reverse_cons, List.append_assoc, List.dropWhile_append]
  split
  next h =>
    rw [List.isEmpty_iff] at h
    simp [h, hc]
  next => simp

/-- What is trimmed away is white space. -/
lemma trim_eq (value : List Char) :
    ∃ before after, value = before ++ trim value ++ after ∧ ∀ c ∈ before, isWhitespace c = true := by
  refine ⟨value.takeWhile isWhitespace, (value.dropWhile isWhitespace).rtakeWhile isWhitespace, ?_, ?_⟩
  · rw [trim, List.append_assoc, List.rdropWhile_append_rtakeWhile, List.takeWhile_append_dropWhile]
  · exact fun c hc => List.mem_takeWhile_imp hc

lemma mem_of_mem_trim {value : List Char} {c : Char} (h : c ∈ trim value) : c ∈ value := by
  obtain ⟨before, after, heq, -⟩ := trim_eq value
  rw [heq]
  simp [h]

lemma isTrimmed_trim (value : List Char) : isTrimmed (trim value) = true := by
  rw [isTrimmed_iff]
  constructor
  · intro c hc
    have hpre : trim value <+: value.dropWhile isWhitespace := List.rdropWhile_prefix _ _
    obtain ⟨rest, hrest⟩ := hpre
    have hhead := List.head?_dropWhile_not isWhitespace value
    rw [← hrest, List.head?_append, hc] at hhead
    simpa using hhead
  · intro c hc
    have hne : trim value ≠ [] := by
      intro h
      rw [h] at hc
      cases hc
    have hlast := List.rdropWhile_last_not _ _ hne
    rw [List.getLast?_eq_some_getLast hne, Option.some.injEq] at hc
    rw [← hc]
    exact (Bool.not_eq_true _).mp hlast

lemma trim_of_isTrimmed {value : List Char} (h : isTrimmed value = true) : trim value = value := by
  rw [isTrimmed_iff] at h
  have hstart : value.dropWhile isWhitespace = value := by
    cases value with
    | nil => rfl
    | cons c rest => exact List.dropWhile_cons_of_neg (by simp [h.1 c rfl])
  rw [trim, hstart, List.rdropWhile_eq_self_iff]
  intro hne
  rw [h.2 _ (List.getLast?_eq_some_getLast hne)]
  exact Bool.false_ne_true

end Trim

/-- The digits of a UUID from the left, in lower case. -/
def hexDigits (id : BitVec 128) : List Char :=
  (List.range 32).map fun i => Nat.digitChar (id.toNat / 16 ^ (31 - i) % 16)

/-- `Uuid` as it is displayed. -/
def hyphenated (id : BitVec 128) : List Char :=
  let digits := hexDigits id
  digits.take 8 ++ ['-'] ++ (digits.drop 8).take 4 ++ ['-'] ++ (digits.drop 12).take 4 ++ ['-'] ++
    (digits.drop 16).take 4 ++ ['-'] ++ digits.drop 20

/-- The characters of a displayed UUID. -/
def uuidChars : List Char := "0123456789abcdef-".toList

lemma digitChar_mem_uuidChars : ∀ n < 16, Nat.digitChar n ∈ uuidChars := by decide

lemma mem_uuidChars_of_mem_hyphenated {id : BitVec 128} {c : Char} (h : c ∈ hyphenated id) : c ∈ uuidChars := by
  have hdigits : ∀ d ∈ hexDigits id, d ∈ uuidChars := by
    intro d hd
    obtain ⟨i, -, rfl⟩ := List.mem_map.mp hd
    exact digitChar_mem_uuidChars _ (Nat.mod_lt _ (by decide))
  have hdash : '-' ∈ uuidChars := by decide
  simp only [hyphenated, List.mem_append, List.mem_singleton] at h
  rcases h with (((((((h | rfl) | h) | rfl) | h) | rfl) | h) | rfl) | h
  · exact hdigits c (List.mem_of_mem_take h)
  · exact hdash
  · exact hdigits c (List.mem_of_mem_drop (List.mem_of_mem_take h))
  · exact hdash
  · exact hdigits c (List.mem_of_mem_drop (List.mem_of_mem_take h))
  · exact hdash
  · exact hdigits c (List.mem_of_mem_drop (List.mem_of_mem_take h))
  · exact hdash
  · exact hdigits c (List.mem_of_mem_drop h)

section Digits

lemma toDigits_injective {m n : ℕ} (h : Nat.toDigits 10 m = Nat.toDigits 10 n) : m = n := by
  have hparsed := congrArg (fun digits => Nat.ofDigitChars 10 digits 0) h
  simpa using hparsed

lemma toString_injective {m n : ℕ} (h : toString m = toString n) : m = n := by
  refine toDigits_injective ?_
  rw [← Nat.toList_repr, ← Nat.toList_repr, ← Nat.toString_eq_repr, ← Nat.toString_eq_repr, h]

lemma isDigit_of_mem_toString {n : ℕ} {c : Char} (h : c ∈ (toString n).toList) : c.isDigit = true := by
  rw [Nat.toString_eq_repr, Nat.toList_repr] at h
  exact Nat.isDigit_of_mem_toDigits (by decide) (by decide) h

lemma mem_toDigits {b n : ℕ} (hb : 1 < b) {c : Char} (h : c ∈ Nat.toDigits b n) : ∃ d < b, c = Nat.digitChar d := by
  induction n using Nat.strong_induction_on with
  | _ n ih =>
    by_cases hlt : n < b
    · rw [Nat.toDigits_of_lt_base hlt, List.mem_singleton] at h
      exact ⟨n, hlt, h⟩
    · rw [Nat.toDigits_of_base_le hb (Nat.le_of_not_lt hlt), List.mem_append, List.mem_singleton] at h
      rcases h with h | h
      · exact ih (n / b) (Nat.div_lt_self (by omega) hb) h
      · exact ⟨n % b, Nat.mod_lt n (by omega), h⟩

lemma digitChar_injOn : ∀ m < 16, ∀ n < 16, Nat.digitChar m = Nat.digitChar n → m = n := by decide

/-- The last digits of a number determine it up to their weight. -/
lemma mod_pow_eq_of_digits {b m n : ℕ} (k : ℕ) (h : ∀ i < k, m / b ^ i % b = n / b ^ i % b) : m % b ^ k = n % b ^ k := by
  induction k with
  | zero => rw [Nat.pow_zero, Nat.mod_one, Nat.mod_one]
  | succ k ih =>
    rw [Nat.mod_pow_succ, Nat.mod_pow_succ, ih fun i hi => h i (Nat.lt_succ_of_lt hi), h k (Nat.lt_succ_self k)]

lemma hexDigits_injective : Function.Injective hexDigits := by
  intro x y hxy
  have hdigits := List.map_inj_left.mp hxy
  have hmod : x.toNat % 16 ^ 32 = y.toNat % 16 ^ 32 := by
    refine mod_pow_eq_of_digits 32 fun i hi => ?_
    have hdigit := hdigits (31 - i) (List.mem_range.mpr (by omega))
    rw [show 31 - (31 - i) = i by omega] at hdigit
    exact digitChar_injOn _ (Nat.mod_lt _ (by decide)) _ (Nat.mod_lt _ (by decide)) hdigit
  rw [show 16 ^ 32 = 2 ^ 128 by decide, Nat.mod_eq_of_lt x.isLt, Nat.mod_eq_of_lt y.isLt] at hmod
  exact BitVec.eq_of_toNat_eq hmod

lemma dash_notMem_hexDigits (id : BitVec 128) : '-' ∉ hexDigits id := by
  have hne : ∀ n < 16, Nat.digitChar n ≠ '-' := by decide
  intro h
  obtain ⟨i, -, hi⟩ := List.mem_map.mp h
  exact hne _ (Nat.mod_lt _ (by decide)) hi

/-- The digits are what is left without the dashes. -/
lemma filter_hyphenated (id : BitVec 128) : (hyphenated id).filter (· != '-') = hexDigits id := by
  have hkeep : ∀ l : List Char, l ⊆ hexDigits id → l.filter (· != '-') = l := by
    intro l hl
    rw [List.filter_eq_self]
    intro c hc
    rw [bne_iff_ne]
    rintro rfl
    exact dash_notMem_hexDigits id (hl hc)
  have hdash : ['-'].filter (· != '-') = [] := rfl
  have hdrop (n : ℕ) : (hexDigits id).drop n ⊆ hexDigits id := List.drop_subset _ _
  have hsplit (n m : ℕ) : ((hexDigits id).drop n).take m ++ (hexDigits id).drop (n + m) = (hexDigits id).drop n := by
    rw [← List.drop_drop, List.take_append_drop]
  unfold hyphenated
  simp only [List.filter_append, hdash, List.nil_append, hkeep _ (List.take_subset _ _), hkeep _ (hdrop _),
    hkeep _ (List.Subset.trans (List.take_subset _ _) (hdrop _)), List.append_assoc]
  rw [hsplit 16 4, hsplit 12 4, hsplit 8 4, List.take_append_drop]

lemma length_hyphenated (id : BitVec 128) : (hyphenated id).length = 36 := by
  simp [hyphenated, hexDigits]

lemma hyphenated_injective : Function.Injective hyphenated := by
  intro x y hxy
  refine hexDigits_injective ?_
  rw [← filter_hyphenated x, ← filter_hyphenated y, hxy]

end Digits

/-- `value LIKE '%' || part || '%'`, for a part without wildcards. -/
def occursIn (part value : String) : Bool := decide (part.toList <:+: value.toList)

end JamyeServer.Text
