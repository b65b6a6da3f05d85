import JamyeServer.Contracts.Manifest
import JamyeServer.Fips180

/-!
# The digest of the contract snapshot

`digest_hex` of `contract_generation/sha256.rs` is a hand-written SHA-256. It computes on bytes and machine words what
FIPS 180-4 defines on strings of bits.
-/

namespace JamyeServer.Contracts

open Fips180 (Bits Message Word bitsOf bytesOf valueOf wordAt)

section Padding

/-- `while padded.len() % 64 != 56`. -/
def pushZeros (bytes : Bytes) : Bytes := if bytes.length % 64 = 56 then bytes else pushZeros (bytes ++ [0])
termination_by (120 - bytes.length % 64) % 64
decreasing_by
  rw [List.length_append, List.length_singleton]
  omega

lemma pushZeros_eq (bytes : Bytes) : pushZeros bytes = bytes ++ List.replicate ((120 - bytes.length % 64) % 64) 0 := by
  fun_induction pushZeros bytes with
  | case1 bytes h => simp [h]
  | case2 bytes h ih =>
    have hcount : (120 - bytes.length % 64) % 64 = (120 - (bytes ++ [0]).length % 64) % 64 + 1 := by
      rw [List.length_append, List.length_singleton]
      omega
    rw [ih, hcount, List.replicate_succ, List.append_assoc, List.singleton_append]

/-- The padding of the model is what the loop leaves, and the length of the input. -/
lemma padded_eq_pushZeros (input : Bytes) :
    padded input = pushZeros (input ++ [0x80]) ++ (List.range 8).map fun i => UInt8.ofNat (input.length * 8 / 256 ^ (7 - i)) := by
  have hcount : (120 - (input ++ [0x80]).length % 64) % 64 = (119 - input.length % 64) % 64 := by
    rw [List.length_append, List.length_singleton]
    omega
  rw [pushZeros_eq, hcount, padded]
  simp only [List.append_assoc, List.cons_append, List.nil_append]

/-- A byte string shorter than `2 ^ 61` as a message. -/
def message (input : Bytes) (h : input.length < 2 ^ 61) : Message where
  bits := bytesOf input
  bound := by
    rw [Fips180.length_bytesOf]
    omega

lemma bytesOf_zeros (n : ℕ) : bytesOf (List.replicate n 0) = List.replicate (8 * n) false := by
  induction n with
  | zero => rfl
  | succ n ih =>
    have hzero : bytesOf [0] = List.replicate 8 false := by decide
    rw [List.replicate_succ, ← List.singleton_append, Fips180.bytesOf_append, ih, hzero, List.replicate_append_replicate]
    congr 1
    omega

/-- A number in `8 * k` bits is its `k` bytes. -/
lemma bytesOf_number (k n : ℕ) :
    bytesOf ((List.range k).map fun i => UInt8.ofNat (n / 256 ^ (k - 1 - i))) = bitsOf (8 * k) n := by
  induction k generalizing n with
  | zero => rfl
  | succ k ih =>
    have hinit : ((List.range k).map fun i => UInt8.ofNat (n / 256 ^ (k + 1 - 1 - i))) =
        (List.range k).map fun i => UInt8.ofNat (n / 256 / 256 ^ (k - 1 - i)) := by
      refine List.map_congr_left fun i hi => ?_
      rw [List.mem_range] at hi
      rw [Nat.div_div_eq_div_mul, ← Nat.pow_succ', show (k - 1 - i).succ = k + 1 - 1 - i by omega]
    have hlast : bytesOf [UInt8.ofNat n] = bitsOf 8 n := by
      rw [bytesOf, List.flatMap_singleton, UInt8.toNat_ofNat']
      exact Fips180.bitsOf_mod 8 n
    rw [List.range_succ, List.map_append, hinit, Fips180.bytesOf_append, ih, List.map_singleton]
    rw [Nat.add_sub_cancel, Nat.sub_self, Nat.pow_zero, Nat.div_one, hlast]
    rw [Nat.mul_succ, Fips180.bitsOf_add, show 2 ^ 8 = 256 from rfl]

lemma bytesOf_padded (input : Bytes) (h : input.length < 2 ^ 61) : bytesOf (padded input) = (message input h).padded := by
  have hmark : bytesOf [0x80] = true :: List.replicate 7 false := by decide
  have hzeros : Fips180.zeros (8 * input.length) = 7 + 8 * ((119 - input.length % 64) % 64) := by
    obtain ⟨hsolves, hleast⟩ := Fips180.zeros_solves (8 * input.length)
    have hle := hleast (7 + 8 * ((119 - input.length % 64) % 64)) (by omega)
    omega
  unfold padded Message.padded
  rw [Fips180.bytesOf_append, Fips180.bytesOf_append, ← List.singleton_append, Fips180.bytesOf_append, hmark, bytesOf_zeros,
    bytesOf_number 8]
  simp only [message, Fips180.length_bytesOf, hzeros, List.cons_append, List.replicate_append_replicate,
    Nat.mul_comm input.length 8]

end Padding

section Words

lemma toBitVec_rotateRight (x n : UInt32) (k : ℕ) (hn : n = UInt32.ofNat k) (hpos : 0 < k) (hlt : k < 32) :
    (rotateRight x n).toBitVec = x.toBitVec.rotateRight k := by
  have hk : n.toNat = k := by
    rw [hn, UInt32.toNat_ofNat']
    omega
  have hright : (n.toBitVec % 32).toNat = k := by
    rw [BitVec.toNat_umod, UInt32.toNat_toBitVec, hk]
    exact Nat.mod_eq_of_lt hlt
  have hleft : ((32 - n).toBitVec % 32).toNat = 32 - k := by
    rw [BitVec.toNat_umod, UInt32.toNat_toBitVec, UInt32.toNat_sub, hk]
    show (2 ^ 32 - k + 32) % 2 ^ 32 % 32 = 32 - k
    omega
  rw [BitVec.rotateRight_def, Nat.mod_eq_of_lt hlt]
  show x.toBitVec >>> (n.toBitVec % 32) ||| x.toBitVec <<< ((32 - n).toBitVec % 32) = _
  rw [BitVec.shiftLeft_eq', BitVec.ushiftRight_eq', hright, hleft]

lemma toBitVec_s0 (x : UInt32) :
    (rotateRight x 7 ^^^ rotateRight x 18 ^^^ (x >>> 3)).toBitVec = Fips180.sigma0 x.toBitVec := by
  rw [UInt32.toBitVec_xor, UInt32.toBitVec_xor, toBitVec_rotateRight x 7 7 rfl (by decide) (by decide),
    toBitVec_rotateRight x 18 18 rfl (by decide) (by decide)]
  rfl

lemma toBitVec_s1 (x : UInt32) :
    (rotateRight x 17 ^^^ rotateRight x 19 ^^^ (x >>> 10)).toBitVec = Fips180.sigma1 x.toBitVec := by
  rw [UInt32.toBitVec_xor, UInt32.toBitVec_xor, toBitVec_rotateRight x 17 17 rfl (by decide) (by decide),
    toBitVec_rotateRight x 19 19 rfl (by decide) (by decide)]
  rfl

lemma toBitVec_sum0 (x : UInt32) :
    (rotateRight x 2 ^^^ rotateRight x 13 ^^^ rotateRight x 22).toBitVec = Fips180.sum0 x.toBitVec := by
  rw [UInt32.toBitVec_xor, UInt32.toBitVec_xor, toBitVec_rotateRight x 2 2 rfl (by decide) (by decide),
    toBitVec_rotateRight x 13 13 rfl (by decide) (by decide), toBitVec_rotateRight x 22 22 rfl (by decide) (by decide)]
  rfl

lemma toBitVec_sum1 (x : UInt32) :
    (rotateRight x 6 ^^^ rotateRight x 11 ^^^ rotateRight x 25).toBitVec = Fips180.sum1 x.toBitVec := by
  rw [UInt32.toBitVec_xor, UInt32.toBitVec_xor, toBitVec_rotateRight x 6 6 rfl (by decide) (by decide),
    toBitVec_rotateRight x 11 11 rfl (by decide) (by decide), toBitVec_rotateRight x 25 25 rfl (by decide) (by decide)]
  rfl

/-- Four bytes as a word, the first byte on top. -/
lemma toBitVec_word (a b c d : UInt8) :
    ((a.toUInt32 <<< 24) ||| (b.toUInt32 <<< 16) ||| (c.toUInt32 <<< 8) ||| d.toUInt32).toBitVec =
      BitVec.ofNat 32 (valueOf (bytesOf [a, b, c, d])) := by
  have hbyte : ∀ x : UInt8, valueOf (bitsOf 8 x.toNat) = x.toNat := by
    intro x
    rw [Fips180.valueOf_bitsOf]
    exact Nat.mod_eq_of_lt x.toNat_lt
  have hvalue : valueOf (bytesOf [a, b, c, d]) = ((a.toNat * 2 ^ 8 + b.toNat) * 2 ^ 8 + c.toNat) * 2 ^ 8 + d.toNat := by
    have hsplit : bytesOf [a, b, c, d] = bitsOf 8 a.toNat ++ bitsOf 8 b.toNat ++ bitsOf 8 c.toNat ++ bitsOf 8 d.toNat := by
      simp [bytesOf]
    rw [hsplit, Fips180.valueOf_append, Fips180.valueOf_append, Fips180.valueOf_append]
    simp only [hbyte, Fips180.length_bitsOf]
  have ha := a.toNat_lt
  have hb := b.toNat_lt
  have hc := c.toNat_lt
  have hd := d.toNat_lt
  apply BitVec.eq_of_toNat_eq
  rw [hvalue, BitVec.toNat_ofNat, UInt32.toNat_toBitVec]
  simp only [UInt32.toNat_or, UInt32.toNat_shiftLeft, UInt8.toNat_toUInt32]
  show a.toNat <<< 24 % 2 ^ 32 ||| b.toNat <<< 16 % 2 ^ 32 ||| c.toNat <<< 8 % 2 ^ 32 ||| d.toNat = _
  -- The bytes do not overlap, so the bits of one and the other are their sum, from the top.
  rw [Nat.mod_eq_of_lt (by rw [Nat.shiftLeft_eq]; omega), Nat.mod_eq_of_lt (by rw [Nat.shiftLeft_eq]; omega),
    Nat.mod_eq_of_lt (by rw [Nat.shiftLeft_eq]; omega), Nat.mod_eq_of_lt (by omega)]
  have htop : a.toNat <<< 24 ||| b.toNat <<< 16 = (a.toNat * 2 ^ 8 + b.toNat) <<< 16 := by
    rw [← Nat.shiftLeft_add_eq_or_of_lt (by rw [Nat.shiftLeft_eq]; omega)]
    simp only [Nat.shiftLeft_eq]
    omega
  have hmiddle : (a.toNat * 2 ^ 8 + b.toNat) <<< 16 ||| c.toNat <<< 8 =
      ((a.toNat * 2 ^ 8 + b.toNat) * 2 ^ 8 + c.toNat) <<< 8 := by
    rw [← Nat.shiftLeft_add_eq_or_of_lt (by rw [Nat.shiftLeft_eq]; omega)]
    simp only [Nat.shiftLeft_eq]
    omega
  rw [htop, hmiddle, ← Nat.shiftLeft_add_eq_or_of_lt hd, Nat.shiftLeft_eq]

lemma length_words (bytes : Bytes) : (words bytes).length = bytes.length / 4 := by
  fun_induction words bytes with
  | case1 a b c d rest ih =>
    rw [List.length_cons, ih]
    simp only [List.length_cons]
    omega
  | case2 bytes h =>
    match bytes with
    | [] | [_] | [_, _] | [_, _, _] => simp
    | a :: b :: c :: d :: rest => exact absurd rfl (h a b c d rest)

lemma toBitVec_words {bytes : Bytes} {t : ℕ} (h : 4 * (t + 1) ≤ bytes.length) :
    ((words bytes).getD t 0).toBitVec = wordAt (bytesOf bytes) t := by
  induction t generalizing bytes with
  | zero =>
    match bytes with
    | [] | [_] | [_, _] | [_, _, _] => simp at h
    | a :: b :: c :: d :: rest =>
      have hfirst : ((bytesOf (a :: b :: c :: d :: rest)).drop (32 * 0)).take 32 = bytesOf [a, b, c, d] :=
        (Fips180.bytesOf_take (a :: b :: c :: d :: rest) 4).symm
      rw [wordAt, hfirst, ← toBitVec_word]
      rfl
  | succ t ih =>
    match bytes with
    | [] | [_] | [_, _] | [_, _, _] => simp only [List.length_nil, List.length_cons] at h; omega
    | a :: b :: c :: d :: rest =>
      have hrest : (bytesOf (a :: b :: c :: d :: rest)).drop (32 * (t + 1)) = (bytesOf rest).drop (32 * t) := by
        rw [show 32 * (t + 1) = 32 + 32 * t by omega, ← List.drop_drop]
        exact congrArg (List.drop _) (Fips180.bytesOf_drop (a :: b :: c :: d :: rest) 4).symm
      have hlen : 4 * (t + 1) ≤ rest.length := by
        simp only [List.length_cons] at h
        omega
      rw [wordAt, hrest]
      exact ih hlen

end Words

section Schedule

lemma extend_size (s : Array UInt32) : (extend s).size = s.size + 1 := by
  rw [extend, Array.size_push]

/-- One step of the schedule keeps the words that are there. -/
lemma extend_getD {s : Array UInt32} {t : ℕ} (h : t < s.size) : (extend s).getD t 0 = s.getD t 0 := by
  rw [Array.getD_eq_getD_getElem?, Array.getD_eq_getD_getElem?, extend, Array.getElem?_push_lt h, Array.getElem?_eq_getElem h]

lemma extend_last (s : Array UInt32) :
    ((extend s).getD s.size 0).toBitVec =
      (s.getD (s.size - 16) 0).toBitVec + Fips180.sigma0 (s.getD (s.size - 15) 0).toBitVec +
        (s.getD (s.size - 7) 0).toBitVec + Fips180.sigma1 (s.getD (s.size - 2) 0).toBitVec := by
  rw [Array.getD_eq_getD_getElem?, extend, Array.getElem?_push_size, Option.getD_some]
  simp only [UInt32.toBitVec_add, toBitVec_s0, toBitVec_s1]

/-- The loop over the schedule computes the words of the standard. -/
lemma schedule_steps {chunk : Bytes} (h : chunk.length = 64) (n : ℕ) :
    (extend^[n] (words chunk).toArray).size = 16 + n ∧ ∀ t < 16 + n,
      ((extend^[n] (words chunk).toArray).getD t 0).toBitVec = Fips180.schedule (bytesOf chunk) t := by
  induction n with
  | zero =>
    have hsize : (words chunk).length = 16 := by rw [length_words, h]
    refine ⟨hsize, fun t ht => ?_⟩
    rw [Fips180.schedule, if_pos ht, ← toBitVec_words (by omega), Function.iterate_zero, id_eq]
    rw [Array.getD_eq_getD_getElem?, List.getElem?_toArray, List.getD_eq_getElem?_getD]
  | succ n ih =>
    obtain ⟨hsize, hwords⟩ := ih
    rw [Function.iterate_succ_apply']
    refine ⟨by rw [extend_size, hsize]; rfl, fun t ht => ?_⟩
    rcases Nat.lt_or_ge t (16 + n) with hlt | hge
    · rw [extend_getD (by rw [hsize]; exact hlt), hwords t hlt]
    · obtain rfl : t = 16 + n := by omega
      rw [← hsize, extend_last, hsize, Fips180.schedule, if_neg (by omega)]
      rw [hwords _ (by omega), hwords _ (by omega), hwords _ (by omega), hwords _ (by omega)]
      ac_rfl

end Schedule

section Rounds

/-- The words of the standard as the code holds them. -/
def ofWords (v : Fips180.Words) : List UInt32 := v.toList.map UInt32.ofBitVec

lemma round_ofWords (block : Bits) (v : Fips180.Words) (t : ℕ) :
    round (ofWords v) (.ofBitVec (Fips180.constant t), .ofBitVec (Fips180.schedule block t)) =
      ofWords (Fips180.round block v t) := by
  have hsum1 : rotateRight (.ofBitVec v.e) 6 ^^^ rotateRight (.ofBitVec v.e) 11 ^^^ rotateRight (.ofBitVec v.e) 25 =
      UInt32.ofBitVec (Fips180.sum1 v.e) := UInt32.toBitVec_inj.mp (toBitVec_sum1 _)
  have hsum0 : rotateRight (.ofBitVec v.a) 2 ^^^ rotateRight (.ofBitVec v.a) 13 ^^^ rotateRight (.ofBitVec v.a) 22 =
      UInt32.ofBitVec (Fips180.sum0 v.a) := UInt32.toBitVec_inj.mp (toBitVec_sum0 _)
  simp only [ofWords, Fips180.Words.toList, List.map_cons, List.map_nil, round, hsum0, hsum1]
  rfl

lemma roundConstants_eq : roundConstants = (List.range 64).map fun t => UInt32.ofBitVec (Fips180.constant t) := by
  decide +kernel

lemma initialState_eq : initialState = ofWords Fips180.initial := by
  decide

/-- The constants and the schedule, as the rounds read them. -/
lemma zip_schedule {chunk : Bytes} (h : chunk.length = 64) :
    roundConstants.zip (schedule chunk).toList =
      (List.range 64).map fun t =>
        (UInt32.ofBitVec (Fips180.constant t), UInt32.ofBitVec (Fips180.schedule (bytesOf chunk) t)) := by
  obtain ⟨hsize, hwords⟩ := schedule_steps h 48
  have hschedule : (schedule chunk).toList = (List.range 64).map fun t => UInt32.ofBitVec (Fips180.schedule (bytesOf chunk) t) := by
    refine List.ext_getElem (by rw [Array.length_toList, List.length_map, List.length_range]; exact hsize) fun t ht ht' => ?_
    rw [Array.length_toList] at ht
    have hword : ((schedule chunk).getD t 0).toBitVec = Fips180.schedule (bytesOf chunk) t :=
      hwords t (by rw [← hsize]; exact ht)
    rw [Array.getD_eq_getD_getElem?, Array.getElem?_eq_getElem ht, Option.getD_some] at hword
    rw [List.getElem_map, List.getElem_range, ← hword, Array.getElem_toList]
  rw [roundConstants_eq, hschedule, List.zip_map']

lemma compress_ofWords (H : Fips180.Words) {chunk : Bytes} (h : chunk.length = 64) :
    compress (ofWords H) chunk = ofWords (Fips180.next H (bytesOf chunk)) := by
  have hrounds : ∀ (ts : List ℕ) (v : Fips180.Words),
      ts.foldl (fun s t => round s (UInt32.ofBitVec (Fips180.constant t), UInt32.ofBitVec (Fips180.schedule (bytesOf chunk) t)))
        (ofWords v) = ofWords (ts.foldl (Fips180.round (bytesOf chunk)) v) := by
    intro ts
    induction ts with
    | nil => exact fun v => rfl
    | cons t ts ih =>
      intro v
      rw [List.foldl_cons, List.foldl_cons, round_ofWords, ih]
  have hadd : ∀ x y : Word, UInt32.ofBitVec x + UInt32.ofBitVec y = UInt32.ofBitVec (y + x) := by
    intro x y
    rw [BitVec.add_comm]
    rfl
  rw [compress, zip_schedule h, List.foldl_map, hrounds, Fips180.next]
  simp only [ofWords, Fips180.Words.toList, List.map_cons, List.map_nil, List.zipWith_cons_cons, List.zipWith_nil_left, hadd]

end Rounds

section Digest

lemma length_padded (input : Bytes) : (padded input).length % 64 = 0 := by
  simp only [padded, List.length_append, List.length_cons, List.length_replicate, List.length_map, List.length_range]
  omega

/-- The chunks of the padded input are the blocks of the message. -/
lemma blocks_eq (input : Bytes) (h : input.length < 2 ^ 61) :
    (message input h).blocks =
      (List.range ((padded input).length / 64)).map fun i => bytesOf (((padded input).drop (64 * i)).take 64) := by
  have hlength : (message input h).padded.length / 512 = (padded input).length / 64 := by
    rw [← bytesOf_padded, Fips180.length_bytesOf]
    omega
  rw [Message.blocks, hlength, ← bytesOf_padded]
  refine List.map_congr_left fun i _ => ?_
  rw [Fips180.bytesOf_take, Fips180.bytesOf_drop, ← Nat.mul_assoc]

lemma foldl_compress {chunks : List Bytes} (h : ∀ chunk ∈ chunks, chunk.length = 64) (H : Fips180.Words) :
    chunks.foldl compress (ofWords H) = ofWords ((chunks.map bytesOf).foldl Fips180.next H) := by
  induction chunks generalizing H with
  | nil => rfl
  | cons chunk chunks ih =>
    rw [List.foldl_cons, compress_ofWords H (h chunk List.mem_cons_self), List.map_cons, List.foldl_cons]
    exact ih (fun c hc => h c (List.mem_cons_of_mem _ hc)) _

/-- `{word:08x}`. -/
lemma hex_word (w : Word) :
    List.leftpad 8 '0' (Nat.toDigits 16 (UInt32.ofBitVec w).toNat) = Fips180.hex (bitsOf 32 w.toNat) := by
  rw [Fips180.hex_bitsOf 7, Nat.mod_eq_of_lt (show w.toNat < 16 ^ (7 + 1) from w.isLt)]
  rfl

lemma hex_flatMap (ws : List Word) :
    Fips180.hex (ws.flatMap fun w => bitsOf 32 w.toNat) = ws.flatMap fun w => Fips180.hex (bitsOf 32 w.toNat) := by
  induction ws with
  | nil => rfl
  | cons w ws ih =>
    rw [List.flatMap_cons, List.flatMap_cons, ← ih]
    exact Fips180.hex_append 8 w.toNat _

/-- The text is the digest of the standard in lower-case hexadecimal digits, for every input that the standard gives a
digest to. -/
theorem digestHex_eq_sha256 (input : Bytes) (h : input.length < 2 ^ 61) :
    digestHex input = String.ofList (Fips180.hex (Fips180.sha256 (message input h))) := by
  have hchunks : ∀ chunk ∈ (List.range ((padded input).length / 64)).map fun i => ((padded input).drop (64 * i)).take 64,
      chunk.length = 64 := by
    intro chunk hchunk
    obtain ⟨i, hi, rfl⟩ := List.mem_map.mp hchunk
    have hlength := length_padded input
    rw [List.mem_range] at hi
    rw [List.length_take, List.length_drop]
    omega
  have hstate := foldl_compress hchunks Fips180.initial
  rw [← initialState_eq, List.map_map] at hstate
  apply String.toList_injective
  rw [digestHex, Fips180.sha256, hex_flatMap, blocks_eq, String.toList_join, String.toList_ofList, List.flatMap_map, hstate,
    ofWords, List.flatMap_map]
  refine congrArg (List.flatMap · _) (funext fun w => ?_)
  rw [String.toList_ofList, hex_word]

example : digestHex (utf8 "abc") = "ba7816bf8f01cfea414140de5dae2223b00361a396177a9cb410ff61f20015ad" := by
  decide +kernel

/-- The longest message of one block, and the shortest of two. -/
theorem digestHex_eq_sha256_at_boundary :
    (List.replicate 55 (0x61 : UInt8)).length < 2 ^ 61 ∧
      digestHex (List.replicate 55 0x61) = String.ofList (Fips180.hex (Fips180.sha256 (message (List.replicate 55 0x61) (by decide)))) ∧
      digestHex (List.replicate 56 0x61) = String.ofList (Fips180.hex (Fips180.sha256 (message (List.replicate 56 0x61) (by decide)))) :=
  ⟨by decide, digestHex_eq_sha256 _ (by decide), digestHex_eq_sha256 _ (by decide)⟩

end Digest

end JamyeServer.Contracts
