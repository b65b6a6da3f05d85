import JamyeServer.PercentEncoding
import JamyeServer.Text

/-!
# The names of downloads

`domain/media`: the `Content-Disposition` value that is bound into a presigned download URL, made of the stored
filename as far as it can be used.
-/

namespace JamyeServer.Media

open PercentEncoding Text

def isAsciiAlphanumeric (n : ℕ) : Bool :=
  decide (0x30 ≤ n) && decide (n ≤ 0x39) || decide (0x41 ≤ n) && decide (n ≤ 0x5a) ||
    decide (0x61 ≤ n) && decide (n ≤ 0x7a)

def isSeparator (c : Char) : Bool := c = '/' || c = '\\'

/-- The last segment of a path that is not empty. -/
def leaf (filename : String) : Option (List Char) :=
  (filename.toList.splitOnP isSeparator).reverse.find? fun segment => !segment.isEmpty

/-- The characters of a segment that may stand in a quoted string. -/
def cleaned (segment : List Char) : List Char := segment.filter fun character => !isControl character && character != '"'

def sanitizeDownloadFilename (filename : String) : Option String := do
  let segment ← leaf filename
  let sanitized := trim ((trim (cleaned segment)).dropWhile (· == '.'))
  if sanitized.isEmpty then none else some (String.ofList sanitized)

def extension (contentType : String) : String :=
  match contentType with
  | "image/jpeg" => "jpg"
  | "image/png" => "png"
  | "image/webp" => "webp"
  | "image/gif" => "gif"
  | "video/mp4" => "mp4"
  | "audio/webm" => "webm"
  | "audio/mp4" => "m4a"
  | "audio/ogg" => "ogg"
  | _ => "bin"

def generatedDownloadFilename (mediaId : BitVec 128) (contentType : String) : String :=
  String.ofList ("jamye-".toList ++ hyphenated mediaId ++ ".".toList ++ (extension contentType).toList)

/-- The characters that the quoted part of the header keeps. -/
def isFallbackCharacter (c : Char) : Bool :=
  isAsciiAlphanumeric c.toNat || c ∈ [' ', '.', '-', '_', '(', ')']

def asciiDownloadFallback (filename : String) : String :=
  String.ofList (filename.toList.map fun c => if isFallbackCharacter c then c else '_')

/-- The bytes that `encode_rfc_5987` leaves alone. -/
def isAttrChar (byte : UInt8) : Bool :=
  isAsciiAlphanumeric byte.toNat || byte.toNat ∈ "!#$&+-.^_`|~".toList.map Char.toNat

def encodeRfc5987 (filename : String) : String := String.ofList (encode isAttrChar filename.toUTF8.data.toList)

/-- The name that the download is given. -/
def downloadFilename (mediaId : BitVec 128) (contentType : String) (storedFilename : Option String) : String :=
  (storedFilename.bind sanitizeDownloadFilename).getD (generatedDownloadFilename mediaId contentType)

def downloadContentDisposition (mediaId : BitVec 128) (contentType : String) (storedFilename : Option String) : String :=
  let filename := downloadFilename mediaId contentType storedFilename
  let fallback := if filename.toList.all (·.toNat < 128) then asciiDownloadFallback filename
    else generatedDownloadFilename mediaId contentType
  "attachment; filename=\"" ++ fallback ++ "\"; filename*=UTF-8''" ++ encodeRfc5987 filename

/-- `attr-char` of RFC 5987. -/
def rfc5987AttrChars : List Char :=
  "ABCDEFGHIJKLMNOPQRSTUVWXYZabcdefghijklmnopqrstuvwxyz0123456789!#$&+-.^_`|~".toList

section Header

lemma ascii_isAttrChar : Ascii isAttrChar := by
  suffices h : ∀ n < 256, isAttrChar (UInt8.ofNat n) = true → n < 128 ∧ n ≠ 0x25 by
    intro byte hbyte
    exact h byte.toNat byte.toNat_lt (by rwa [UInt8.ofNat_toNat])
  decide +kernel

lemma mem_attrChars_of_isAttrChar (byte : UInt8) (h : isAttrChar byte = true) :
    Char.ofNat byte.toNat ∈ rfc5987AttrChars := by
  suffices hall : ∀ n < 256, isAttrChar (UInt8.ofNat n) = true → Char.ofNat n ∈ rfc5987AttrChars by
    exact hall byte.toNat byte.toNat_lt (by rwa [UInt8.ofNat_toNat])
  decide +kernel

/-- Decoding the extended value gives the name back. -/
lemma decode_encodeRfc5987 (filename : String) :
    (decode (encodeRfc5987 filename).toList).bind (fun bytes => String.fromUTF8? bytes.toByteArray) = some filename := by
  have hbytes : filename.toUTF8.data.toList.toByteArray = filename.toUTF8 := by
    apply ByteArray.ext
    rw [List.data_toByteArray]
  rw [encodeRfc5987, String.toList_ofList, decode_encode ascii_isAttrChar, Option.bind_some, hbytes]
  exact dif_pos filename.isValidUTF8

/-- Printable, and harmless between quotes. -/
def Quotable (c : Char) : Prop :=
  0x20 ≤ c.toNat ∧ c.toNat ≤ 0x7e ∧ c ≠ '"' ∧ c ≠ '\\' ∧ isControl c = false

instance (c : Char) : Decidable (Quotable c) := inferInstanceAs (Decidable (_ ∧ _))

lemma quotable_of_isFallbackCharacter {c : Char} (h : isFallbackCharacter c = true) : Quotable c := by
  unfold isFallbackCharacter at h
  rw [Bool.or_eq_true] at h
  rcases h with h | h
  · have hrange : 0x30 ≤ c.toNat ∧ c.toNat ≤ 0x7a ∧ c.toNat ≠ 0x5c := by
      simp only [isAsciiAlphanumeric, Bool.or_eq_true, Bool.and_eq_true, decide_eq_true_eq] at h
      omega
    refine ⟨by omega, by omega, ?_, ?_, ?_⟩
    · rintro rfl
      exact absurd hrange.1 (by decide)
    · rintro rfl
      exact hrange.2.2 rfl
    · simp only [isControl, Bool.or_eq_false_iff, Bool.and_eq_false_iff, decide_eq_false_iff_not]
      omega
  · have hall : ∀ d ∈ [' ', '.', '-', '_', '(', ')'], Quotable d := forall_mem_of_all (by decide)
    exact hall c (by simpa using h)

lemma quotable_asciiDownloadFallback (filename : String) :
    ∀ c ∈ (asciiDownloadFallback filename).toList, Quotable c := by
  intro c hc
  rw [asciiDownloadFallback, String.toList_ofList, List.mem_map] at hc
  obtain ⟨d, -, rfl⟩ := hc
  split
  next h => exact quotable_of_isFallbackCharacter h
  next => decide

lemma quotable_extension (contentType : String) : ∀ c ∈ (extension contentType).toList, Quotable c := by
  unfold extension
  split <;> exact forall_mem_of_all (by decide)

lemma quotable_generatedDownloadFilename (mediaId : BitVec 128) (contentType : String) :
    ∀ c ∈ (generatedDownloadFilename mediaId contentType).toList, Quotable c := by
  intro c hc
  have huuid : ∀ d ∈ uuidChars, Quotable d := forall_mem_of_all (by decide)
  have hname : ∀ d ∈ "jamye-".toList, Quotable d := forall_mem_of_all (by decide)
  have hdot : ∀ d ∈ ".".toList, Quotable d := forall_mem_of_all (by decide)
  unfold generatedDownloadFilename at hc
  simp only [String.toList_ofList, List.mem_append] at hc
  rcases hc with ((hc | hc) | hc) | hc
  · exact hname c hc
  · exact huuid c (mem_uuidChars_of_mem_hyphenated hc)
  · exact hdot c hc
  · exact quotable_extension contentType c hc

/-- The header value is printable ASCII, its quoted part cannot be left, and its extended part decodes to the name. -/
theorem downloadContentDisposition_wellFormed (mediaId : BitVec 128) (contentType : String)
    (storedFilename : Option String) :
    (∀ c ∈ (downloadContentDisposition mediaId contentType storedFilename).toList, 0x20 ≤ c.toNat ∧ c.toNat ≤ 0x7e) ∧
    ∃ fallback extended : List Char,
      (downloadContentDisposition mediaId contentType storedFilename).toList =
        "attachment; filename=\"".toList ++ fallback ++ "\"; filename*=UTF-8''".toList ++ extended ∧
      (∀ c ∈ fallback, c ≠ '"' ∧ c ≠ '\\' ∧ isControl c = false) ∧
      Encoded (· ∈ rfc5987AttrChars) extended ∧
      (decode extended).bind (fun bytes => String.fromUTF8? bytes.toByteArray) =
        some ((storedFilename.bind sanitizeDownloadFilename).getD (generatedDownloadFilename mediaId contentType)) := by
  set filename := downloadFilename mediaId contentType storedFilename with hname
  obtain ⟨fallback, hvalue, hfallback⟩ : ∃ fallback : String,
      downloadContentDisposition mediaId contentType storedFilename =
        "attachment; filename=\"" ++ fallback ++ "\"; filename*=UTF-8''" ++ encodeRfc5987 filename ∧
      ∀ c ∈ fallback.toList, Quotable c := by
    refine ⟨_, rfl, ?_⟩
    split
    · exact quotable_asciiDownloadFallback _
    · exact quotable_generatedDownloadFilename _ _
  have hencoded : Encoded (· ∈ rfc5987AttrChars) (encodeRfc5987 filename).toList := by
    rw [encodeRfc5987, String.toList_ofList]
    exact encoded_encode mem_attrChars_of_isAttrChar _
  have hlist : (downloadContentDisposition mediaId contentType storedFilename).toList =
      "attachment; filename=\"".toList ++ fallback.toList ++ "\"; filename*=UTF-8''".toList ++
        (encodeRfc5987 filename).toList := by
    rw [hvalue, String.toList_append, String.toList_append, String.toList_append]
  refine ⟨?_, fallback.toList, (encodeRfc5987 filename).toList, hlist, ?_, hencoded, decode_encodeRfc5987 filename⟩
  · have hattr : ∀ c ∈ rfc5987AttrChars, 0x20 ≤ c.toNat ∧ c.toNat ≤ 0x7e := forall_mem_of_all (by decide)
    have hopen : ∀ c ∈ "attachment; filename=\"".toList, 0x20 ≤ c.toNat ∧ c.toNat ≤ 0x7e := forall_mem_of_all (by decide)
    have hmiddle : ∀ c ∈ "\"; filename*=UTF-8''".toList, 0x20 ≤ c.toNat ∧ c.toNat ≤ 0x7e := forall_mem_of_all (by decide)
    intro c hc
    rw [hlist] at hc
    simp only [List.mem_append] at hc
    rcases hc with ((hc | hc) | hc) | hc
    · exact hopen c hc
    · exact ⟨(hfallback c hc).1, (hfallback c hc).2.1⟩
    · exact hmiddle c hc
    · exact hencoded.forall hattr (forall_mem_of_all (by decide)) (by decide) c hc
  · exact fun c hc => (hfallback c hc).2.2

end Header

section Sanitize

/-- Optional white space, dots, white space and another dot: stripping the dots and trimming once brings the last one to
the front. -/
def DotsThenDot (value : List Char) : Prop :=
  ∃ before dots blanks rest : List Char, (∀ c ∈ before, isWhitespace c = true) ∧
    dots ≠ [] ∧ (∀ c ∈ dots, c = '.') ∧ blanks ≠ [] ∧ (∀ c ∈ blanks, isWhitespace c = true) ∧
    value = before ++ dots ++ blanks ++ '.' :: rest

/-- What a name must be to stand in the header as it is. -/
structure Sanitary (name : String) : Prop where
  nonempty : name ≠ ""
  harmless : ∀ c ∈ name.toList, c ≠ '/' ∧ c ≠ '\\' ∧ c ≠ '"' ∧ isControl c = false
  trimmed : isTrimmed name.toList = true
  visible : name.toList.head? ≠ some '.'
  fixed : sanitizeDownloadFilename name = some name

lemma not_isSeparator_of_mem_splitOnP {l segment : List Char} (h : segment ∈ l.splitOnP isSeparator) :
    ∀ c ∈ segment, isSeparator c = false := by
  suffices hacc : ∀ acc, (∀ c ∈ acc, isSeparator c = false) → segment ∈ List.splitOnPPrepend isSeparator l acc →
      ∀ c ∈ segment, isSeparator c = false from hacc [] (by simp) h
  clear h
  induction l with
  | nil =>
    intro acc hacc h c hc
    rw [List.splitOnPPrepend_nil, List.mem_singleton] at h
    rw [h, List.mem_reverse] at hc
    exact hacc c hc
  | cons a l ih =>
    intro acc hacc h
    rw [List.splitOnPPrepend_cons_eq_if] at h
    split at h
    next =>
      rcases List.mem_cons.mp h with rfl | h
      · exact fun c hc => hacc c (List.mem_reverse.mp hc)
      · exact ih [] (by simp) h
    next ha =>
      refine ih (a :: acc) ?_ h
      intro c hc
      rcases List.mem_cons.mp hc with rfl | hc
      · exact (Bool.not_eq_true _).mp ha
      · exact hacc c hc

lemma leaf_some {filename : String} {segment : List Char} (h : leaf filename = some segment) :
    ∀ c ∈ segment, isSeparator c = false :=
  not_isSeparator_of_mem_splitOnP (List.mem_reverse.mp (List.mem_of_find?_eq_some h))

lemma leaf_of_not_isSeparator {name : String} (hne : name ≠ "") (h : ∀ c ∈ name.toList, isSeparator c = false) :
    leaf name = some name.toList := by
  have hempty : name.toList.isEmpty = false := by
    rw [List.isEmpty_eq_false_iff]
    exact fun hnil => hne (String.toList_eq_nil_iff.mp hnil)
  rw [leaf, List.splitOnP_eq_singleton h]
  simp [hempty]

lemma sanitize_some {filename name : String} (h : sanitizeDownloadFilename filename = some name) :
    ∃ segment, leaf filename = some segment ∧ name ≠ "" ∧
      name.toList = trim ((trim (cleaned segment)).dropWhile (· == '.')) := by
  unfold sanitizeDownloadFilename at h
  obtain ⟨segment, hleaf, h⟩ := Option.bind_eq_some_iff.mp h
  dsimp only at h
  split at h
  · cases h
  next hempty =>
    obtain rfl := Option.some.inj h
    refine ⟨segment, hleaf, ?_, String.toList_ofList⟩
    intro hnil
    rw [← String.toList_eq_nil_iff, String.toList_ofList] at hnil
    exact hempty (List.isEmpty_iff.mpr hnil)

/-- A trimmed text without separators, quotes and control characters that no dot starts stays as it is. -/
lemma sanitize_fixed {name : String} (hne : name ≠ "")
    (hharmless : ∀ c ∈ name.toList, c ≠ '/' ∧ c ≠ '\\' ∧ c ≠ '"' ∧ isControl c = false)
    (htrim : isTrimmed name.toList = true) (hdot : name.toList.head? ≠ some '.') :
    sanitizeDownloadFilename name = some name := by
  have hleaf : leaf name = some name.toList := by
    refine leaf_of_not_isSeparator hne fun c hc => ?_
    have h := hharmless c hc
    simp [isSeparator, h.1, h.2.1]
  have hclean : cleaned name.toList = name.toList := by
    rw [cleaned, List.filter_eq_self]
    intro c hc
    have h := hharmless c hc
    simp [h.2.2.1, h.2.2.2]
  have hdrop : name.toList.dropWhile (· == '.') = name.toList := by
    cases hlist : name.toList with
    | nil => rfl
    | cons c rest =>
      rw [hlist, List.head?_cons] at hdot
      have hc : c ≠ '.' := fun h => hdot (congrArg some h)
      exact List.dropWhile_cons_of_neg (by simpa using hc)
  have hempty : name.toList.isEmpty = false := by
    rw [List.isEmpty_eq_false_iff]
    exact fun hnil => hne (String.toList_eq_nil_iff.mp hnil)
  unfold sanitizeDownloadFilename
  rw [hleaf, Option.bind_eq_bind, Option.bind_some, hclean, trim_of_isTrimmed htrim, hdrop, trim_of_isTrimmed htrim]
  simp [hempty]

/-- When a dot comes to the front. -/
lemma head_dot_iff (l : List Char) :
    (trim ((trim l).dropWhile (· == '.'))).head? = some '.' ↔ DotsThenDot l := by
  have hdot : ¬ isWhitespace '.' := by decide
  constructor
  · intro h
    obtain ⟨before, after, hl, hbefore⟩ := trim_eq l
    obtain ⟨blanks, after', hd, hblanks⟩ := trim_eq ((trim l).dropWhile (· == '.'))
    obtain ⟨rest, hrest⟩ := List.head?_eq_some_iff.mp h
    have ht : trim l = (trim l).takeWhile (· == '.') ++ (trim l).dropWhile (· == '.') :=
      List.takeWhile_append_dropWhile.symm
    have hblank : blanks ≠ [] := by
      rintro rfl
      have hhead := List.head?_dropWhile_not (· == '.') (trim l)
      rw [hd, hrest] at hhead
      simp at hhead
    have hdots : (trim l).takeWhile (· == '.') ≠ [] := by
      intro hnil
      rw [hnil, List.nil_append, hd] at ht
      obtain ⟨b, bs, rfl⟩ := List.exists_cons_of_ne_nil hblank
      have htrim := ((isTrimmed_iff _).mp (isTrimmed_trim l)).1 b (by rw [ht]; rfl)
      rw [hblanks b List.mem_cons_self] at htrim
      cases htrim
    refine ⟨before, _, blanks, rest ++ after' ++ after, hbefore, hdots, ?_, hblank, hblanks, ?_⟩
    · intro c hc
      simpa using List.mem_takeWhile_imp hc
    · rw [hrest] at hd
      rw [hd] at ht
      calc l = before ++ trim l ++ after := hl
        _ = before ++ ((trim l).takeWhile (· == '.') ++ (blanks ++ '.' :: rest ++ after')) ++ after := by rw [← ht]
        _ = _ := by simp
  · rintro ⟨before, dots, blanks, rest, hbefore, hdots, hdots', hblank, hblanks, rfl⟩
    obtain ⟨d, ds, rfl⟩ := List.exists_cons_of_ne_nil hdots
    obtain ⟨b, bs, rfl⟩ := List.exists_cons_of_ne_nil hblank
    obtain rfl := hdots' d List.mem_cons_self
    have hb : b ≠ '.' := by
      rintro rfl
      exact hdot (hblanks '.' List.mem_cons_self)
    have htrim : trim (before ++ '.' :: ds ++ b :: bs ++ '.' :: rest) =
        '.' :: ds ++ b :: bs ++ '.' :: rest.rdropWhile isWhitespace := by
      rw [trim, List.append_assoc, List.append_assoc, List.dropWhile_append_of_pos hbefore, List.cons_append,
        List.dropWhile_cons_of_neg hdot, ← List.cons_append, ← List.append_assoc, rdropWhile_append_cons hdot]
    have hdrop : ('.' :: ds ++ b :: bs ++ '.' :: rest.rdropWhile isWhitespace).dropWhile (· == '.') =
        b :: bs ++ '.' :: rest.rdropWhile isWhitespace := by
      rw [List.append_assoc, List.dropWhile_append_of_pos (by simpa using hdots'), List.cons_append,
        List.dropWhile_cons_of_neg (by simpa using hb)]
    rw [htrim, hdrop, trim, List.dropWhile_append_of_pos hblanks, List.dropWhile_cons_of_neg hdot]
    have hkeep := rdropWhile_append_cons hdot [] (rest.rdropWhile isWhitespace)
    rw [List.nil_append] at hkeep
    rw [hkeep]
    rfl

/-- A sanitized name is a proper one unless the segment it is made of holds dots, white space and a dot in front. -/
theorem sanitizeDownloadFilename_sanitary_iff (filename name : String)
    (h : sanitizeDownloadFilename filename = some name) :
    ∃ segment, leaf filename = some segment ∧ (Sanitary name ↔ ¬ DotsThenDot (cleaned segment)) := by
  obtain ⟨segment, hleaf, hne, hname⟩ := sanitize_some h
  refine ⟨segment, hleaf, ?_⟩
  have hiff : name.toList.head? = some '.' ↔ DotsThenDot (cleaned segment) := by
    rw [hname]
    exact head_dot_iff _
  constructor
  · intro hsan hdots
    exact hsan.visible (hiff.mpr hdots)
  · intro hdots
    have hvisible : name.toList.head? ≠ some '.' := fun hdot => hdots (hiff.mp hdot)
    have htrim : isTrimmed name.toList = true := by
      rw [hname]
      exact isTrimmed_trim _
    have hharmless : ∀ c ∈ name.toList, c ≠ '/' ∧ c ≠ '\\' ∧ c ≠ '"' ∧ isControl c = false := by
      intro c hc
      rw [hname] at hc
      have htail := (List.dropWhile_sublist _).subset (mem_of_mem_trim hc)
      obtain ⟨hseg, hkeep⟩ := List.mem_filter.mp (mem_of_mem_trim htail)
      have hsep := leaf_some hleaf c hseg
      simp only [isSeparator, Bool.or_eq_false_iff, decide_eq_false_iff_not] at hsep
      simp only [Bool.and_eq_true, Bool.not_eq_true', bne_iff_ne] at hkeep
      exact ⟨hsep.1, hsep.2, hkeep.2, hkeep.1⟩
    exact ⟨hne, hharmless, htrim, hvisible, sanitize_fixed hne hharmless htrim hvisible⟩

theorem sanitizeDownloadFilename_sanitary_iff_report :
    ∃ segment, leaf "dir/ .report.pdf" = some segment ∧ (Sanitary "report.pdf" ↔ ¬ DotsThenDot (cleaned segment)) :=
  sanitizeDownloadFilename_sanitary_iff "dir/ .report.pdf" "report.pdf" (by decide)

/-- A dot is left in front, and sanitizing again removes it. -/
theorem sanitizeDownloadFilename_dot :
    sanitizeDownloadFilename ". .a" = some ".a" ∧ sanitizeDownloadFilename ".a" = some "a" ∧ ¬ Sanitary ".a" := by
  refine ⟨by decide, by decide, fun h => ?_⟩
  exact h.visible (by decide)

end Sanitize

end JamyeServer.Media
