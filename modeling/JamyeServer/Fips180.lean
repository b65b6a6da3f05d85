import Mathlib.Data.List.Induction
import Mathlib.Data.Nat.NthRoot.Defs
import Mathlib.Tactic.Ring

/-!
# SHA-256 as FIPS 180-4 defines it

Messages, blocks and the digest are strings of bits, the most significant bit of a number first. A message is shorter
than `2 ^ 64` bits.
-/

namespace JamyeServer.Fips180

abbrev Bits := List Bool
abbrev Word := BitVec 32

section Bits

/-- The last `w` binary digits of a number. -/
def bitsOf (w n : ℕ) : Bits := (List.range w).map fun i => n.testBit (w - 1 - i)

def valueOf (bits : Bits) : ℕ := bits.foldl (fun n b => 2 * n + b.toNat) 0

/-- The string of a list of bytes. -/
def bytesOf (bytes : List UInt8) : Bits := bytes.flatMap fun b => bitsOf 8 b.toNat

/-- The digits of a string from the left, four bits each. -/
def hex : Bits → List Char
  | a :: b :: c :: d :: rest => Nat.digitChar (valueOf [a, b, c, d]) :: hex rest
  | _ => []

lemma length_bitsOf (w n : ℕ) : (bitsOf w n).length = w := by
  rw [bitsOf, List.length_map, List.length_range]

/-- A string of digits splits into the digits of the quotient and those of the rest. -/
lemma bitsOf_add (v w n : ℕ) : bitsOf (v + w) n = bitsOf v (n / 2 ^ w) ++ bitsOf w n := by
  unfold bitsOf
  rw [List.range_add, List.map_append, List.map_map]
  congr 1
  · refine List.map_congr_left fun i hi => ?_
    rw [List.mem_range] at hi
    rw [Nat.testBit_div_two_pow, show v + w - 1 - i = v - 1 - i + w by omega]
  · refine List.map_congr_left fun i hi => ?_
    rw [List.mem_range] at hi
    rw [Function.comp_apply, show v + w - 1 - (v + i) = w - 1 - i by omega]

lemma bitsOf_mod (w n : ℕ) : bitsOf w (n % 2 ^ w) = bitsOf w n := by
  unfold bitsOf
  refine List.map_congr_left fun i hi => ?_
  rw [List.mem_range] at hi
  rw [Nat.testBit_mod_two_pow, decide_eq_true (by omega), Bool.true_and]

lemma valueOf_concat (bits : Bits) (b : Bool) : valueOf (bits ++ [b]) = 2 * valueOf bits + b.toNat := by
  simp [valueOf]

lemma valueOf_append (bits bits' : Bits) : valueOf (bits ++ bits') = valueOf bits * 2 ^ bits'.length + valueOf bits' := by
  induction bits' using List.reverseRecOn with
  | nil => simp [valueOf]
  | append_singleton bits' b ih =>
    rw [← List.append_assoc, valueOf_concat, valueOf_concat, ih, List.length_append, List.length_singleton]
    ring

lemma bitsOf_one (n : ℕ) : bitsOf 1 n = [n.testBit 0] := rfl

lemma valueOf_bitsOf (w n : ℕ) : valueOf (bitsOf w n) = n % 2 ^ w := by
  induction w generalizing n with
  | zero => simp [bitsOf, valueOf, Nat.mod_one]
  | succ w ih =>
    rw [bitsOf_add, bitsOf_one, valueOf_concat, ih, pow_one, Nat.testBit_zero]
    have hbit : (decide (n % 2 = 1)).toNat = n % 2 := by
      rcases Nat.mod_two_eq_zero_or_one n with h | h <;> simp [h]
    rw [hbit, Nat.pow_succ, Nat.mul_comm (2 ^ w) 2, Nat.mod_mul, Nat.add_comm]

lemma bytesOf_append (bytes bytes' : List UInt8) : bytesOf (bytes ++ bytes') = bytesOf bytes ++ bytesOf bytes' :=
  List.flatMap_append

lemma length_bytesOf (bytes : List UInt8) : (bytesOf bytes).length = 8 * bytes.length := by
  induction bytes with
  | nil => rfl
  | cons b bytes ih =>
    rw [← List.singleton_append, bytesOf_append, List.length_append, ih, List.length_append, List.length_singleton]
    have hb : (bytesOf [b]).length = 8 := by simp [bytesOf, length_bitsOf]
    omega

lemma bytesOf_drop (bytes : List UInt8) (n : ℕ) : bytesOf (bytes.drop n) = (bytesOf bytes).drop (8 * n) := by
  rcases Nat.le_total bytes.length n with h | h
  · rw [List.drop_of_length_le h, List.drop_of_length_le (by rw [length_bytesOf]; omega)]
    rfl
  · have hsplit : bytesOf bytes = bytesOf (bytes.take n) ++ bytesOf (bytes.drop n) := by
      rw [← bytesOf_append, List.take_append_drop]
    rw [hsplit, List.drop_left' (by rw [length_bytesOf, List.length_take, Nat.min_eq_left h])]

lemma bytesOf_take (bytes : List UInt8) (n : ℕ) : bytesOf (bytes.take n) = (bytesOf bytes).take (8 * n) := by
  rcases Nat.le_total bytes.length n with h | h
  · rw [List.take_of_length_le h, List.take_of_length_le (by rw [length_bytesOf]; omega)]
  · have hsplit : bytesOf bytes = bytesOf (bytes.take n) ++ bytesOf (bytes.drop n) := by
      rw [← bytesOf_append, List.take_append_drop]
    rw [hsplit, List.take_left' (by rw [length_bytesOf, List.length_take, Nat.min_eq_left h])]

lemma hex_append_four (bits : Bits) (n : ℕ) : hex (bitsOf 4 n ++ bits) = Nat.digitChar (n % 16) :: hex bits := by
  have hvalue : valueOf (bitsOf 4 n) = n % 16 := valueOf_bitsOf 4 n
  rw [← hvalue]
  rfl

lemma hex_four (n : ℕ) : hex (bitsOf 4 n) = [Nat.digitChar (n % 16)] := by
  have hone := hex_append_four [] n
  rw [List.append_nil] at hone
  exact hone

lemma hex_append (k n : ℕ) (bits : Bits) : hex (bitsOf (4 * k) n ++ bits) = hex (bitsOf (4 * k) n) ++ hex bits := by
  induction k generalizing n with
  | zero => rfl
  | succ k ih =>
    rw [Nat.mul_succ, Nat.add_comm, bitsOf_add, List.append_assoc, hex_append_four, hex_append_four, ih, List.cons_append]

lemma leftpad_concat (k : ℕ) (digits : List Char) (c : Char) :
    List.leftpad (k + 1) '0' (digits ++ [c]) = List.leftpad k '0' digits ++ [c] := by
  simp [List.leftpad]

/-- The digits of a number from the left, filled up with zeros. -/
lemma hex_bitsOf (k n : ℕ) : hex (bitsOf (4 * (k + 1)) n) = List.leftpad (k + 1) '0' (Nat.toDigits 16 (n % 16 ^ (k + 1))) := by
  induction k generalizing n with
  | zero =>
    rw [Nat.toDigits_of_lt_base (by omega)]
    simpa [List.leftpad] using hex_four n
  | succ k ih =>
    have hquotient : n % 16 ^ (k + 1 + 1) / 16 = n / 2 ^ 4 % 16 ^ (k + 1) := by
      rw [Nat.pow_succ', Nat.mod_mul_right_div_self, show 2 ^ 4 = 16 from rfl]
    have hrest : n % 16 ^ (k + 1 + 1) % 16 = n % 16 := Nat.mod_mod_of_dvd n (Dvd.intro_left (16 ^ (k + 1)) rfl)
    rw [show 4 * (k + 1 + 1) = 4 * (k + 1) + 4 by ring, bitsOf_add, hex_append, ih, hex_four, ← leftpad_concat]
    rw [← hquotient, ← hrest]
    by_cases hlt : n % 16 ^ (k + 1 + 1) < 16
    · rw [Nat.div_eq_of_lt hlt, Nat.mod_eq_of_lt hlt, Nat.toDigits_of_lt_base hlt, Nat.toDigits_zero]
      simp [List.leftpad, List.replicate_succ']
    · rw [← Nat.toDigits_of_base_le (by decide) (Nat.le_of_not_lt hlt)]

end Bits

section Functions

def ch (x y z : Word) : Word := (x &&& y) ^^^ (~~~x &&& z)

def maj (x y z : Word) : Word := (x &&& y) ^^^ (x &&& z) ^^^ (y &&& z)

/-- The functions that the standard writes with a capital sigma. -/
def sum0 (x : Word) : Word := x.rotateRight 2 ^^^ x.rotateRight 13 ^^^ x.rotateRight 22

def sum1 (x : Word) : Word := x.rotateRight 6 ^^^ x.rotateRight 11 ^^^ x.rotateRight 25

/-- The functions that the standard writes with a small sigma. -/
def sigma0 (x : Word) : Word := x.rotateRight 7 ^^^ x.rotateRight 18 ^^^ x >>> 3

def sigma1 (x : Word) : Word := x.rotateRight 17 ^^^ x.rotateRight 19 ^^^ x >>> 10

end Functions

section Constants

/-- The first 64 primes. -/
def primes : List ℕ := (List.range 312).filter fun p => decide (2 ≤ p) && (List.range p).all fun d => d < 2 || p % d != 0

/-- The first 32 bits of the fractional part of the `k`-th root. -/
def fraction (k p : ℕ) : Word := BitVec.ofNat 32 (Nat.nthRoot k (p * 2 ^ (32 * k)))

/-- The constant of round `t`. -/
def constant (t : ℕ) : Word := fraction 3 (primes.getD t 0)

end Constants

section Message

/-- What the standard defines a digest for. -/
structure Message where
  bits : Bits
  bound : bits.length < 2 ^ 64

/-- The least solution `k` of `l + 1 + k ≡ 448 mod 512`. -/
def zeros (l : ℕ) : ℕ := ((448 - (l + 1 : ℤ)) % 512).toNat

/-- The message, a one, zeros, and the length of the message in 64 bits. -/
def Message.padded (m : Message) : Bits :=
  m.bits ++ true :: List.replicate (zeros m.bits.length) false ++ bitsOf 64 m.bits.length

def Message.blocks (m : Message) : List Bits :=
  (List.range (m.padded.length / 512)).map fun i => (m.padded.drop (512 * i)).take 512

/-- The `t`-th word of a block. -/
def wordAt (block : Bits) (t : ℕ) : Word := BitVec.ofNat 32 (valueOf ((block.drop (32 * t)).take 32))

lemma zeros_solves (l : ℕ) : (l + 1 + zeros l) % 512 = 448 ∧ ∀ k, (l + 1 + k) % 512 = 448 → zeros l ≤ k := by
  unfold zeros
  constructor
  · omega
  · intro k hk
    omega

end Message

section Hash

/-- The message schedule. -/
def schedule (block : Bits) (t : ℕ) : Word :=
  if t < 16 then wordAt block t
  else sigma1 (schedule block (t - 2)) + schedule block (t - 7) + sigma0 (schedule block (t - 15)) + schedule block (t - 16)

/-- Eight words: a hash value, or the working variables. -/
structure Words where
  (a b c d e f g h : Word)

def round (block : Bits) (v : Words) (t : ℕ) : Words :=
  let t1 := v.h + sum1 v.e + ch v.e v.f v.g + constant t + schedule block t
  let t2 := sum0 v.a + maj v.a v.b v.c
  ⟨t1 + t2, v.a, v.b, v.c, v.d + t1, v.e, v.f, v.g⟩

/-- The next intermediate hash value. -/
def next (H : Words) (block : Bits) : Words :=
  let v := (List.range 64).foldl (round block) H
  ⟨v.a + H.a, v.b + H.b, v.c + H.c, v.d + H.d, v.e + H.e, v.f + H.f, v.g + H.g, v.h + H.h⟩

def initial : Words :=
  let root (t : ℕ) := fraction 2 (primes.getD t 0)
  ⟨root 0, root 1, root 2, root 3, root 4, root 5, root 6, root 7⟩

def Words.toList (v : Words) : List Word := [v.a, v.b, v.c, v.d, v.e, v.f, v.g, v.h]

/-- The message digest. -/
def sha256 (m : Message) : Bits := (m.blocks.foldl next initial).toList.flatMap fun w => bitsOf 32 w.toNat

end Hash

end JamyeServer.Fips180
