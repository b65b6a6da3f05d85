import Mathlib.Data.List.Basic

/-!
# Percent encoding

Bytes written as text: those that a grammar leaves alone as their own character, the others as a percent sign and two
hexadecimal digits.
-/

namespace JamyeServer.PercentEncoding

def hexDigits : List Char := "0123456789ABCDEF".toList

def hexDigit (n : ℕ) : Char := hexDigits.getD n '0'

/-- The value of a digit, in either case. -/
def hexValue (c : Char) : Option ℕ := hexDigits.idxOf? c.toUpper

def encodeByte (plain : UInt8 → Bool) (byte : UInt8) : List Char :=
  if plain byte then [Char.ofNat byte.toNat] else ['%', hexDigit (byte.toNat / 16), hexDigit (byte.toNat % 16)]

def encode (plain : UInt8 → Bool) (bytes : List UInt8) : List Char := bytes.flatMap (encodeByte plain)

/-- A percent sign must have its two digits, and every other character is an ASCII one. -/
def decode : List Char → Option (List UInt8)
  | [] => some []
  | c :: rest =>
    if c = '%' then
      match rest with
      | high :: low :: rest =>
        match hexValue high, hexValue low with
        | some h, some l => (decode rest).map (UInt8.ofNat (16 * h + l) :: ·)
        | _, _ => none
      | _ => none
    else if c.toNat < 128 then (decode rest).map (UInt8.ofNat c.toNat :: ·)
    else none

/-- The bytes that stand for themselves are ASCII, and none of them is the percent sign. -/
def Ascii (plain : UInt8 → Bool) : Prop := ∀ byte, plain byte = true → byte.toNat < 128 ∧ byte.toNat ≠ 0x25

lemma hexValue_hexDigit : ∀ n < 16, hexValue (hexDigit n) = some n := by decide

lemma decode_hex (byte : UInt8) (rest : List Char) :
    decode ('%' :: hexDigit (byte.toNat / 16) :: hexDigit (byte.toNat % 16) :: rest) =
      (decode rest).map (byte :: ·) := by
  have hlt : byte.toNat < 256 := byte.toNat_lt
  rw [decode, if_pos rfl]
  simp only [hexValue_hexDigit _ (show byte.toNat / 16 < 16 by omega),
    hexValue_hexDigit _ (show byte.toNat % 16 < 16 by omega)]
  rw [Nat.div_add_mod, UInt8.ofNat_toNat]

lemma toNat_ofNat_of_lt {n : ℕ} (h : n < 128) : (Char.ofNat n).toNat = n := by
  have hvalid : n.isValidChar := .inl (by omega)
  rw [Char.ofNat, dif_pos hvalid]
  rfl

lemma decode_plain {byte : UInt8} (hlt : byte.toNat < 128) (hne : byte.toNat ≠ 0x25) (rest : List Char) :
    decode (Char.ofNat byte.toNat :: rest) = (decode rest).map (byte :: ·) := by
  have hnat := toNat_ofNat_of_lt hlt
  have hchar : Char.ofNat byte.toNat ≠ '%' := by
    intro h
    rw [h] at hnat
    exact hne hnat.symm
  rw [decode.eq_def]
  dsimp only
  rw [if_neg hchar, hnat, if_pos hlt, UInt8.ofNat_toNat]

theorem decode_encode {plain : UInt8 → Bool} (hplain : Ascii plain) (bytes : List UInt8) :
    decode (encode plain bytes) = some bytes := by
  induction bytes with
  | nil => rfl
  | cons byte bytes ih =>
    have hcons : encode plain (byte :: bytes) = encodeByte plain byte ++ encode plain bytes := rfl
    rw [hcons, encodeByte]
    split
    next h =>
      obtain ⟨hlt, hne⟩ := hplain byte h
      rw [List.singleton_append, decode_plain hlt hne, ih, Option.map_some]
    next h =>
      rw [List.cons_append, List.cons_append, List.cons_append, List.nil_append, decode_hex, ih, Option.map_some]

/-- A text of characters that are allowed as they are and of encoded bytes. -/
inductive Encoded (allowed : Char → Prop) : List Char → Prop where
  | nil : Encoded allowed []
  | plain {c : Char} {rest : List Char} (h : allowed c) (later : Encoded allowed rest) : Encoded allowed (c :: rest)
  | percent {high low : Char} {rest : List Char} (hhigh : high ∈ hexDigits) (hlow : low ∈ hexDigits)
      (later : Encoded allowed rest) : Encoded allowed ('%' :: high :: low :: rest)

lemma hexDigit_mem : ∀ n < 16, hexDigit n ∈ hexDigits := by decide

theorem encoded_encode {plain : UInt8 → Bool} {allowed : Char → Prop}
    (hplain : ∀ byte, plain byte = true → allowed (Char.ofNat byte.toNat)) (bytes : List UInt8) :
    Encoded allowed (encode plain bytes) := by
  induction bytes with
  | nil => exact .nil
  | cons byte bytes ih =>
    have hlt : byte.toNat < 256 := byte.toNat_lt
    have hcons : encode plain (byte :: bytes) = encodeByte plain byte ++ encode plain bytes := rfl
    rw [hcons, encodeByte]
    split
    next h => exact .plain (hplain byte h) ih
    next h => exact .percent (hexDigit_mem _ (by omega)) (hexDigit_mem _ (by omega)) ih

/-- What holds of the allowed characters, the digits and the percent sign holds of every character. -/
lemma Encoded.forall {allowed P : Char → Prop} (hallowed : ∀ c, allowed c → P c) (hhex : ∀ c ∈ hexDigits, P c)
    (hpercent : P '%') {l : List Char} (h : Encoded allowed l) : ∀ c ∈ l, P c := by
  induction h with
  | nil => exact fun c hc => absurd hc List.not_mem_nil
  | plain hc _ ih =>
    intro c hmem
    rcases List.mem_cons.mp hmem with rfl | hmem
    · exact hallowed _ hc
    · exact ih c hmem
  | percent hhigh hlow _ ih =>
    intro c hmem
    simp only [List.mem_cons] at hmem
    rcases hmem with rfl | rfl | rfl | hmem
    · exact hpercent
    · exact hhex _ hhigh
    · exact hhex _ hlow
    · exact ih c hmem

end JamyeServer.PercentEncoding
