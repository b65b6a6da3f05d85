import JamyeServer.Json
import JamyeServer.Text
import Mathlib.Algebra.GroupWithZero.Nat

/-!
# Reports on the operator's terminal

`transport/admin/render.rs`: the list and the detail of reports as text. Message text is user content, and is escaped
before it reaches the terminal. The `Rfc3339` format of the `time` crate is a parameter.
-/

namespace JamyeServer.Moderation.Reports

open Text (isControl hyphenated)

section Escape

def listTextChars : ℕ := 200

/-- `usize::MAX`. -/
def usizeMax : ℕ := 2 ^ 64 - 1

def isBidiFormat (c : Char) : Bool :=
  c.toNat == 0x200e || c.toNat == 0x200f || decide (0x202a ≤ c.toNat ∧ c.toNat ≤ 0x202e) ||
    decide (0x2066 ≤ c.toNat ∧ c.toNat ≤ 0x2069)

/-- `{:04x}`. -/
def fourDigits (n : ℕ) : List Char := List.leftpad 4 '0' (Nat.toDigits 16 n)

def escapeChar (c : Char) : List Char :=
  if c = '\n' then "\\n".toList
  else if c = '\r' then "\\r".toList
  else if c = '\t' then "\\t".toList
  else if isControl c || isBidiFormat c then "\\u\x7b".toList ++ fourDigits c.toNat ++ "\x7d".toList
  else [c]

/-- The loop of `terminal_safe`, at the character with the number `count`. -/
def safeFrom (maxChars count : ℕ) : List Char → List Char
  | [] => []
  | c :: rest => if count = maxChars then "...".toList else escapeChar c ++ safeFrom maxChars (count + 1) rest

def terminalSafe (text : String) (maxChars : ℕ) : List Char := safeFrom maxChars 0 text.toList

end Escape

section Reports

inductive ReportReason
  | spam | harassment | sexualContent | violence | hate | illegal | other
  deriving DecidableEq, Repr

def ReportReason.asStr : ReportReason → String
  | .spam => "spam"
  | .harassment => "harassment"
  | .sexualContent => "sexual_content"
  | .violence => "violence"
  | .hate => "hate"
  | .illegal => "illegal"
  | .other => "other"

inductive ReportStatus
  | opened | actioned | dismissed
  deriving DecidableEq, Repr

def ReportStatus.asStr : ReportStatus → String
  | .opened => "open"
  | .actioned => "actioned"
  | .dismissed => "dismissed"

inductive ReportTarget
  | message (id : BitVec 128)
  | user (id : BitVec 128)

/-- An instant, in nanoseconds since the epoch, and the offset it is shown with. -/
structure OffsetDateTime where
  nanoseconds : ℤ
  offset : ℤ

def OffsetDateTime.unixTimestamp (t : OffsetDateTime) : ℤ := t.nanoseconds / 1000000000

structure ReportDetail where
  id : BitVec 128
  status : ReportStatus
  reason : ReportReason
  createdAt : OffsetDateTime
  handledAt : Option OffsetDateTime
  reporterId : BitVec 128
  groupId : BitVec 128
  target : ReportTarget
  snapshot : Option Json

def snapshotText (report : ReportDetail) : Option String := report.snapshot.bind (Json.text "text")

/-- `snapshot.get("media").and_then(Value::as_array)`. -/
def mediaItems : Json → Option (List Json)
  | .obj fields => match Json.lookup "media" fields with
    | some (.arr items) => some items
    | _ => none
  | _ => none

end Reports

section Render

variable (rfc3339 : OffsetDateTime → Option String)

def timestamp (t : OffsetDateTime) : List Char :=
  match rfc3339 t with
  | some text => text.toList
  | none => (toString t.unixTimestamp).toList

/-- Lines, each with its line feed. -/
def lines (ls : List (List Char)) : List Char := ls.flatMap fun l => l ++ ['\n']

def targetLine (report : ReportDetail) : List Char :=
  match report.target with
  | .message id => "message ".toList ++ hyphenated id ++ " (group ".toList ++ hyphenated report.groupId ++ ")".toList
  | .user id => "user ".toList ++ hyphenated id ++ " (group ".toList ++ hyphenated report.groupId ++ ")".toList

/-- The lines of one report in the list. -/
def listLines (report : ReportDetail) : List (List Char) :=
  [hyphenated report.id ++ " ".toList ++ report.status.asStr.toList ++ " ".toList ++ report.reason.asStr.toList ++
      " ".toList ++ timestamp rfc3339 report.createdAt,
    "  target: ".toList ++ targetLine report, "  reporter: ".toList ++ hyphenated report.reporterId] ++
  match snapshotText report with
  | some text => ["  text: \"".toList ++ terminalSafe text listTextChars ++ "\"".toList]
  | none => []

def reportListText (reports : List ReportDetail) : List Char :=
  if reports.isEmpty then "no reports\n".toList
  else lines (reports.flatMap (listLines rfc3339) ++ [(toString reports.length).toList ++ " report(s)".toList])

def mediaLine (item : Json) : List Char :=
  "  media: ".toList ++ terminalSafe ((Json.text "kind" item).getD "-") 32 ++ " upload ".toList ++
    terminalSafe ((Json.text "upload_id" item).getD "-") 64

/-- The lines of a snapshot. The content type is written as it is stored. -/
def snapshotLines (report : ReportDetail) (snapshot : Json) : List (List Char) :=
  ["snapshot content_type: ".toList ++ ((Json.text "content_type" snapshot).getD "-").toList,
    match snapshotText report with
    | some text => "snapshot text: \"".toList ++ terminalSafe text usizeMax ++ "\"".toList
    | none => "snapshot text: -".toList] ++
  match mediaItems snapshot with
  | some media => ("snapshot media: ".toList ++ (toString media.length).toList) :: media.map mediaLine
  | none => []

def detailLines (report : ReportDetail) : List (List Char) :=
  ["report: ".toList ++ hyphenated report.id, "status: ".toList ++ report.status.asStr.toList,
    "reason: ".toList ++ report.reason.asStr.toList, "created_at: ".toList ++ timestamp rfc3339 report.createdAt,
    "handled_at: ".toList ++ ((report.handledAt.map (timestamp rfc3339)).getD "-".toList),
    "target: ".toList ++ targetLine report, "reporter: ".toList ++ hyphenated report.reporterId] ++
  match report.snapshot with
  | some snapshot => snapshotLines report snapshot
  | none => []

def reportText (report : ReportDetail) : List Char := lines (detailLines rfc3339 report)

end Render

section Plain

/-- The Unicode property `Bidi_Control`. -/
def bidiControl (c : Char) : Bool :=
  c.toNat ∈ [0x061c, 0x200e, 0x200f, 0x202a, 0x202b, 0x202c, 0x202d, 0x202e, 0x2066, 0x2067, 0x2068, 0x2069]

/-- Neither a control character nor one that changes the direction of the text. -/
def plain (c : Char) : Bool := !isControl c && !bidiControl c

/-- U+061C, the one character of the property that the escape leaves out. -/
def arabicLetterMark : Char := Char.ofNat 0x061c

lemma toNat_arabicLetterMark : arabicLetterMark.toNat = 0x061c := by decide

lemma not_plain_arabicLetterMark : plain arabicLetterMark = false := by decide

lemma not_plain_lineFeed : plain '\n' = false := by decide

lemma plain_of_unescaped {c : Char} (h : (isControl c || isBidiFormat c) = false) (hne : c ≠ arabicLetterMark) :
    plain c = true := by
  have hmark : c.toNat ≠ 0x061c := fun heq => hne (Char.toNat_inj.mp (heq.trans toNat_arabicLetterMark.symm))
  rw [Bool.or_eq_false_iff] at h
  have hbidi : bidiControl c = false := by
    have hformat := h.2
    simp only [isBidiFormat, Bool.or_eq_false_iff, beq_eq_false_iff_ne, decide_eq_false_iff_not] at hformat
    simp only [bidiControl, List.mem_cons, List.not_mem_nil, or_false, decide_eq_false_iff_not]
    omega
  rw [plain, h.1, hbidi]
  rfl

lemma plain_digitChar : ∀ d < 16, plain (Nat.digitChar d) = true := by decide

lemma plain_toString (n : ℕ) : ∀ c ∈ (toString n).toList, plain c = true := by
  intro c hc
  rw [Nat.toString_eq_repr, Nat.repr, String.toList_ofList] at hc
  obtain ⟨d, hd, rfl⟩ := Text.mem_toDigits (by decide) hc
  exact plain_digitChar d (by omega)

lemma plain_toString_int (n : ℤ) : ∀ c ∈ (toString n).toList, plain c = true := by
  intro c hc
  cases n with
  | ofNat n => exact plain_toString n c hc
  | negSucc n =>
    have heq : (toString (Int.negSucc n)).toList = '-' :: (toString (n + 1)).toList := by
      show ("-" ++ Nat.repr (n + 1)).toList = _
      rw [String.toList_append]
      rfl
    rw [heq, List.mem_cons] at hc
    rcases hc with rfl | hc
    · decide
    · exact plain_toString _ c hc

lemma plain_fourDigits (n : ℕ) : ∀ c ∈ fourDigits n, plain c = true := by
  intro c hc
  rw [fourDigits, List.leftpad, List.mem_append] at hc
  rcases hc with hc | hc
  · rw [List.eq_of_mem_replicate hc]
    decide
  · obtain ⟨d, hd, rfl⟩ := Text.mem_toDigits (by decide) hc
    exact plain_digitChar d hd

end Plain

section Safe

/-- An escaped character is plain, but for the one that is left out. -/
lemma mem_escapeChar {a c : Char} (h : c ∈ escapeChar a) : plain c = true ∨ c = arabicLetterMark ∧ a = arabicLetterMark := by
  unfold escapeChar at h
  split at h
  · exact .inl (Text.forall_mem_of_all (p := fun c => plain c = true) (by decide) c h)
  split at h
  · exact .inl (Text.forall_mem_of_all (p := fun c => plain c = true) (by decide) c h)
  split at h
  · exact .inl (Text.forall_mem_of_all (p := fun c => plain c = true) (by decide) c h)
  split at h
  next =>
    rw [List.mem_append, List.mem_append] at h
    rcases h with (h | h) | h
    · exact .inl (Text.forall_mem_of_all (p := fun c => plain c = true) (by decide) c h)
    · exact .inl (plain_fourDigits _ c h)
    · exact .inl (Text.forall_mem_of_all (p := fun c => plain c = true) (by decide) c h)
  next hplain =>
    rw [List.mem_singleton] at h
    subst h
    by_cases hmark : c = arabicLetterMark
    · exact .inr ⟨hmark, hmark⟩
    · exact .inl (plain_of_unescaped (by simpa using hplain) hmark)

lemma escapeChar_arabicLetterMark : escapeChar arabicLetterMark = [arabicLetterMark] := by decide

/-- What `terminal_safe` writes is plain, if the characters that it shows have no letter mark. -/
lemma mem_safeFrom {maxChars count : ℕ} {text : List Char} {c : Char} (h : c ∈ safeFrom maxChars count text)
    (hcount : count ≤ maxChars) : plain c = true ∨ c = arabicLetterMark ∧ arabicLetterMark ∈ text.take (maxChars - count) := by
  induction text generalizing count with
  | nil => cases h
  | cons a rest ih =>
    rw [safeFrom] at h
    split at h
    · exact .inl (Text.forall_mem_of_all (p := fun c => plain c = true) (by decide) c h)
    next hne =>
      have htake : (a :: rest).take (maxChars - count) = a :: rest.take (maxChars - (count + 1)) := by
        rw [show maxChars - count = maxChars - (count + 1) + 1 by omega, List.take_succ_cons]
      rw [htake]
      rw [List.mem_append] at h
      rcases h with h | h
      · rcases mem_escapeChar h with hplain | ⟨hc, ha⟩
        · exact .inl hplain
        · exact .inr ⟨hc, ha ▸ List.mem_cons_self⟩
      · rcases ih h (by omega) with hplain | ⟨hc, hmem⟩
        · exact .inl hplain
        · exact .inr ⟨hc, List.mem_cons_of_mem a hmem⟩

/-- A letter mark that is shown is shown as it is. -/
lemma mark_mem_safeFrom {maxChars count : ℕ} {text : List Char} (h : arabicLetterMark ∈ text.take (maxChars - count))
    (hcount : count ≤ maxChars) : arabicLetterMark ∈ safeFrom maxChars count text := by
  induction text generalizing count with
  | nil =>
    rw [List.take_nil] at h
    cases h
  | cons a rest ih =>
    rw [safeFrom]
    split
    next heq =>
      rw [heq, Nat.sub_self] at h
      cases h
    next hne =>
      rw [show maxChars - count = maxChars - (count + 1) + 1 by omega, List.take_succ_cons, List.mem_cons] at h
      rw [List.mem_append]
      rcases h with rfl | h
      · rw [escapeChar_arabicLetterMark]
        exact .inl List.mem_cons_self
      · exact .inr (ih h (by omega))

/-- Every character is plain. -/
def Plain (text : List Char) : Prop := ∀ c ∈ text, plain c = true

/-- A field is plain exactly if no letter mark is among the characters that it shows. -/
lemma plain_terminalSafe {text : String} {maxChars : ℕ} :
    Plain (terminalSafe text maxChars) ↔ arabicLetterMark ∉ text.toList.take maxChars := by
  constructor
  · intro h hmark
    have hmem : arabicLetterMark ∈ safeFrom maxChars 0 text.toList := mark_mem_safeFrom hmark (Nat.zero_le _)
    have hplain := h _ hmem
    rw [not_plain_arabicLetterMark] at hplain
    cases hplain
  · intro hmark c hc
    rcases mem_safeFrom hc (Nat.zero_le _) with hplain | ⟨-, hmem⟩
    · exact hplain
    · exact absurd hmem hmark

end Safe

section Lines

lemma count_lines (ls : List (List Char)) : (lines ls).count '\n' = ls.length + (ls.map (List.count '\n')).sum := by
  induction ls with
  | nil => rfl
  | cons l ls ih =>
    have hcons : lines (l :: ls) = l ++ ['\n'] ++ lines ls := rfl
    rw [hcons, List.count_append, List.count_append, ih, List.length_cons, List.map_cons, List.sum_cons]
    rw [List.count_singleton_self]
    omega

lemma mem_lines {ls : List (List Char)} {c : Char} : c ∈ lines ls ↔ ∃ l ∈ ls, c ∈ l ∨ c = '\n' := by
  simp [lines]

/-- Lines are plain exactly if the text has no other control or direction character than its line feeds, and one of these
for each line. -/
lemma plain_lines (ls : List (List Char)) :
    ((∀ c ∈ lines ls, c = '\n' ∨ plain c = true) ∧ (lines ls).count '\n' = ls.length) ↔ ∀ l ∈ ls, ∀ c ∈ l, plain c = true := by
  constructor
  · rintro ⟨hmem, hcount⟩ l hl c hc
    rcases hmem c (mem_lines.mpr ⟨l, hl, .inl hc⟩) with rfl | hplain
    · rw [count_lines] at hcount
      have hzero : (ls.map (List.count '\n')).sum = 0 := by omega
      have hcountl := List.sum_eq_zero_iff_forall_eq_nat.mp hzero _ (List.mem_map_of_mem hl)
      exact absurd hc (List.count_eq_zero.mp hcountl)
    · exact hplain
  · intro h
    constructor
    · intro c hc
      obtain ⟨l, hl, hc | rfl⟩ := mem_lines.mp hc
      · exact .inr (h l hl c hc)
      · exact .inl rfl
    · rw [count_lines, List.sum_eq_zero_iff_forall_eq_nat.mpr, Nat.add_zero]
      intro n hn
      obtain ⟨l, hl, rfl⟩ := List.mem_map.mp hn
      rw [List.count_eq_zero]
      intro hfeed
      have hplain := h l hl _ hfeed
      rw [not_plain_lineFeed] at hplain
      cases hplain

end Lines

section Fields

/-- The characters of an RFC 3339 timestamp. -/
def rfc3339Chars : List Char := "0123456789-+:.TZ".toList

/-- What the code relies on: the format writes digits, signs and separators only. -/
def Rfc3339 (rfc3339 : OffsetDateTime → Option String) : Prop :=
  ∀ t text, rfc3339 t = some text → ∀ c ∈ text.toList, c ∈ rfc3339Chars

lemma plain_append {text text' : List Char} : Plain (text ++ text') ↔ Plain text ∧ Plain text' := List.forall_mem_append

lemma plain_literal {text : List Char} (h : (text.all fun c => decide (plain c = true)) = true) : Plain text :=
  Text.forall_mem_of_all h

lemma plain_hyphenated (id : BitVec 128) : Plain (hyphenated id) := by
  have huuid : Plain Text.uuidChars := plain_literal (by decide)
  exact fun c hc => huuid c (Text.mem_uuidChars_of_mem_hyphenated hc)

lemma plain_status (status : ReportStatus) : Plain status.asStr.toList := by
  cases status <;> exact plain_literal (by decide)

lemma plain_reason (reason : ReportReason) : Plain reason.asStr.toList := by
  cases reason <;> exact plain_literal (by decide)

lemma plain_targetLine (report : ReportDetail) : Plain (targetLine report) := by
  unfold targetLine
  split <;>
  · simp only [plain_append]
    exact ⟨⟨⟨⟨plain_literal (by decide), plain_hyphenated _⟩, plain_literal (by decide)⟩, plain_hyphenated _⟩,
      plain_literal (by decide)⟩

variable {rfc3339 : OffsetDateTime → Option String}

lemma plain_timestamp (h : Rfc3339 rfc3339) (t : OffsetDateTime) : Plain (timestamp rfc3339 t) := by
  unfold timestamp
  split
  next text heq =>
    have hchars : Plain rfc3339Chars := plain_literal (by decide)
    exact fun c hc => hchars c (h t text heq c hc)
  next => exact plain_toString_int _

/-- The lines of the list are plain exactly if the texts that they show have no letter mark. -/
lemma plain_listLines (h : Rfc3339 rfc3339) (report : ReportDetail) :
    (∀ l ∈ listLines rfc3339 report, Plain l) ↔
      ∀ text, snapshotText report = some text → arabicLetterMark ∉ text.toList.take listTextChars := by
  have hhead : ∀ l ∈ [hyphenated report.id ++ " ".toList ++ report.status.asStr.toList ++ " ".toList ++
      report.reason.asStr.toList ++ " ".toList ++ timestamp rfc3339 report.createdAt,
      "  target: ".toList ++ targetLine report, "  reporter: ".toList ++ hyphenated report.reporterId], Plain l := by
    have hblank : Plain " ".toList := plain_literal (by decide)
    simp only [List.forall_mem_cons, plain_append]
    exact ⟨⟨⟨⟨⟨⟨⟨plain_hyphenated _, hblank⟩, plain_status _⟩, hblank⟩, plain_reason _⟩, hblank⟩, plain_timestamp h _⟩,
      ⟨plain_literal (by decide), plain_targetLine _⟩, ⟨plain_literal (by decide), plain_hyphenated _⟩, List.forall_mem_nil _⟩
  rw [listLines, List.forall_mem_append, and_iff_right hhead]
  cases snapshotText report with
  | none => simp
  | some text =>
    have hquote : Plain "\"".toList := plain_literal (by decide)
    have hlabel : Plain "  text: \"".toList := plain_literal (by decide)
    simp only [List.forall_mem_singleton, plain_append, hlabel, hquote, true_and, and_true, Option.some.injEq, forall_eq']
    exact plain_terminalSafe

/-- What a report may hold for its rendering to be plain: no letter mark in what is shown of its texts, and a plain
content type. -/
structure Markless (report : ReportDetail) : Prop where
  text : ∀ text, snapshotText report = some text → arabicLetterMark ∉ text.toList.take usizeMax
  contentType : ∀ snapshot contentType, report.snapshot = some snapshot →
    Json.text "content_type" snapshot = some contentType → Plain contentType.toList
  kind : ∀ snapshot items, report.snapshot = some snapshot → mediaItems snapshot = some items → ∀ item ∈ items,
    ∀ kind, Json.text "kind" item = some kind → arabicLetterMark ∉ kind.toList.take 32
  uploadId : ∀ snapshot items, report.snapshot = some snapshot → mediaItems snapshot = some items → ∀ item ∈ items,
    ∀ uploadId, Json.text "upload_id" item = some uploadId → arabicLetterMark ∉ uploadId.toList.take 64

/-- A field with the dash for its absence. -/
lemma getD_dash {P : String → Prop} (hdash : P "-") (value : Option String) : P (value.getD "-") ↔ ∀ s, value = some s → P s := by
  cases value with
  | none => simpa using hdash
  | some s => simp

/-- Two escaped fields between texts of the renderer. -/
lemma plain_fields {before between : List Char} (hbefore : Plain before) (hbetween : Plain between) (first second : String) :
    Plain (before ++ terminalSafe first 32 ++ between ++ terminalSafe second 64) ↔
      arabicLetterMark ∉ first.toList.take 32 ∧ arabicLetterMark ∉ second.toList.take 64 := by
  simp only [plain_append, plain_terminalSafe, hbefore, hbetween, true_and, and_true]

lemma plain_mediaLine (item : Json) :
    Plain (mediaLine item) ↔ (∀ kind, Json.text "kind" item = some kind → arabicLetterMark ∉ kind.toList.take 32) ∧
      ∀ uploadId, Json.text "upload_id" item = some uploadId → arabicLetterMark ∉ uploadId.toList.take 64 := by
  have hmedia : Plain "  media: ".toList := plain_literal (by decide)
  have hupload : Plain " upload ".toList := plain_literal (by decide)
  have hkind := getD_dash (P := fun s => arabicLetterMark ∉ s.toList.take 32) (by decide) (Json.text "kind" item)
  have hid := getD_dash (P := fun s => arabicLetterMark ∉ s.toList.take 64) (by decide) (Json.text "upload_id" item)
  exact (plain_fields hmedia hupload _ _).trans (and_congr hkind hid)

lemma plain_snapshotLines (report : ReportDetail) (snapshot : Json) :
    (∀ l ∈ snapshotLines report snapshot, Plain l) ↔
      (∀ contentType, Json.text "content_type" snapshot = some contentType → Plain contentType.toList) ∧
      (∀ text, snapshotText report = some text → arabicLetterMark ∉ text.toList.take usizeMax) ∧
      ∀ items, mediaItems snapshot = some items → ∀ item ∈ items, Plain (mediaLine item) := by
  have hlabel : Plain "snapshot content_type: ".toList := plain_literal (by decide)
  have htext : Plain (match snapshotText report with
      | some text => "snapshot text: \"".toList ++ terminalSafe text usizeMax ++ "\"".toList
      | none => "snapshot text: -".toList) ↔
      ∀ text, snapshotText report = some text → arabicLetterMark ∉ text.toList.take usizeMax := by
    cases snapshotText report with
    | none =>
      have hdash : Plain "snapshot text: -".toList := plain_literal (by decide)
      simpa using hdash
    | some text =>
      have hquote : Plain "\"".toList := plain_literal (by decide)
      have hstart : Plain "snapshot text: \"".toList := plain_literal (by decide)
      simp only [plain_append, hstart, hquote, true_and, and_true, Option.some.injEq, forall_eq']
      exact plain_terminalSafe
  have hmedia : (∀ l ∈ (match mediaItems snapshot with
      | some media => ("snapshot media: ".toList ++ (toString media.length).toList) :: media.map mediaLine
      | none => []), Plain l) ↔ ∀ items, mediaItems snapshot = some items → ∀ item ∈ items, Plain (mediaLine item) := by
    cases mediaItems snapshot with
    | none => simp
    | some media =>
      have hcount : Plain ("snapshot media: ".toList ++ (toString media.length).toList) :=
        plain_append.mpr ⟨plain_literal (by decide), plain_toString _⟩
      simp only [List.forall_mem_cons, hcount, true_and, List.forall_mem_map, Option.some.injEq, forall_eq']
  rw [snapshotLines, List.forall_mem_append, hmedia, List.forall_mem_cons, List.forall_mem_singleton, htext, plain_append,
    and_iff_right hlabel, and_assoc]
  exact and_congr_left' (getD_dash (P := fun s => Plain s.toList) (plain_literal (by decide)) _)

lemma plain_detailLines (h : Rfc3339 rfc3339) (report : ReportDetail) :
    (∀ l ∈ detailLines rfc3339 report, Plain l) ↔ Markless report := by
  have hhead : ∀ l ∈ ["report: ".toList ++ hyphenated report.id, "status: ".toList ++ report.status.asStr.toList,
      "reason: ".toList ++ report.reason.asStr.toList, "created_at: ".toList ++ timestamp rfc3339 report.createdAt,
      "handled_at: ".toList ++ ((report.handledAt.map (timestamp rfc3339)).getD "-".toList),
      "target: ".toList ++ targetLine report, "reporter: ".toList ++ hyphenated report.reporterId], Plain l := by
    have hhandled : Plain ((report.handledAt.map (timestamp rfc3339)).getD "-".toList) := by
      cases report.handledAt with
      | none =>
        show Plain "-".toList
        exact plain_literal (by decide)
      | some t => exact plain_timestamp h t
    simp only [List.forall_mem_cons, plain_append]
    exact ⟨⟨plain_literal (by decide), plain_hyphenated _⟩, ⟨plain_literal (by decide), plain_status _⟩,
      ⟨plain_literal (by decide), plain_reason _⟩, ⟨plain_literal (by decide), plain_timestamp h _⟩,
      ⟨plain_literal (by decide), hhandled⟩, ⟨plain_literal (by decide), plain_targetLine _⟩,
      ⟨plain_literal (by decide), plain_hyphenated _⟩, List.forall_mem_nil _⟩
  rw [detailLines, List.forall_mem_append, and_iff_right hhead]
  cases hsnapshot : report.snapshot with
  | none =>
    have hnone : snapshotText report = none := by rw [snapshotText, hsnapshot, Option.bind_none]
    refine iff_of_true (List.forall_mem_nil _) ⟨?_, ?_, ?_, ?_⟩
    · intro text htext
      rw [hnone] at htext
      cases htext
    · intro snapshot _ hsome
      rw [hsnapshot] at hsome
      cases hsome
    · intro snapshot _ hsome
      rw [hsnapshot] at hsome
      cases hsome
    · intro snapshot _ hsome
      rw [hsnapshot] at hsome
      cases hsome
  | some snapshot =>
    rw [plain_snapshotLines]
    constructor
    · rintro ⟨hcontent, htext, hmedia⟩
      refine ⟨htext, ?_, ?_, ?_⟩
      · intro s contentType hs
        cases hsnapshot.symm.trans hs
        exact hcontent contentType
      · intro s items hs hitems item hitem
        cases hsnapshot.symm.trans hs
        exact ((plain_mediaLine item).mp (hmedia items hitems item hitem)).1
      · intro s items hs hitems item hitem
        cases hsnapshot.symm.trans hs
        exact ((plain_mediaLine item).mp (hmedia items hitems item hitem)).2
    · intro hclean
      refine ⟨fun contentType => hclean.contentType snapshot contentType hsnapshot, hclean.text, ?_⟩
      intro items hitems item hitem
      exact (plain_mediaLine item).mpr ⟨hclean.kind snapshot items hsnapshot hitems item hitem,
        hclean.uploadId snapshot items hsnapshot hitems item hitem⟩

end Fields

section Terminal

variable {rfc3339 : OffsetDateTime → Option String}

/-- How many lines the list has: three for each report, one more for a text, and one for the number of reports. -/
def listLength (reports : List ReportDetail) : ℕ :=
  if reports.isEmpty then 1 else (reports.map fun r => 3 + if (snapshotText r).isSome then 1 else 0).sum + 1

/-- How many lines a report has in detail. -/
def detailLength (report : ReportDetail) : ℕ :=
  7 + match report.snapshot with
    | none => 0
    | some snapshot => 2 + match mediaItems snapshot with
      | none => 0
      | some media => media.length + 1

/-- A rendering with no control character but `n` line feeds, and no character that changes the direction of the text. -/
def Rendered (n : ℕ) (output : List Char) : Prop := (∀ c ∈ output, c = '\n' ∨ plain c = true) ∧ output.count '\n' = n

/-- The list of the reports and the detail of each reach the terminal as the renderer laid them out. -/
def TerminalSafe (rfc3339 : OffsetDateTime → Option String) (reports : List ReportDetail) : Prop :=
  Rendered (listLength reports) (reportListText rfc3339 reports) ∧
    ∀ report ∈ reports, Rendered (detailLength report) (reportText rfc3339 report)

lemma length_listLines (report : ReportDetail) :
    (listLines rfc3339 report).length = 3 + if (snapshotText report).isSome then 1 else 0 := by
  rw [listLines]
  cases snapshotText report <;> rfl

lemma length_detailLines (report : ReportDetail) : (detailLines rfc3339 report).length = detailLength report := by
  rw [detailLines, detailLength, List.length_append]
  cases report.snapshot with
  | none => rfl
  | some snapshot =>
    dsimp only
    rw [snapshotLines, List.length_append]
    cases mediaItems snapshot with
    | none => rfl
    | some media =>
      simp only [List.length_cons, List.length_nil, List.length_map]

lemma rendered_lines (ls : List (List Char)) : Rendered ls.length (lines ls) ↔ ∀ l ∈ ls, Plain l := plain_lines ls

lemma rendered_list (h : Rfc3339 rfc3339) (reports : List ReportDetail) :
    Rendered (listLength reports) (reportListText rfc3339 reports) ↔ ∀ report ∈ reports, ∀ text,
      snapshotText report = some text → arabicLetterMark ∉ text.toList.take listTextChars := by
  by_cases hempty : reports.isEmpty = true
  · rw [List.isEmpty_iff] at hempty
    subst hempty
    have hlines : reportListText rfc3339 [] = lines ["no reports".toList] := by
      rw [reportListText]
      rfl
    have hplain : Plain "no reports".toList := plain_literal (by decide)
    rw [hlines]
    refine iff_of_true ((rendered_lines ["no reports".toList]).mpr ?_) (List.forall_mem_nil _)
    exact List.forall_mem_singleton.mpr hplain
  · have hcount : Plain ((toString reports.length).toList ++ " report(s)".toList) :=
      plain_append.mpr ⟨plain_toString _, plain_literal (by decide)⟩
    have hlength : (reports.flatMap (listLines rfc3339) ++
        [(toString reports.length).toList ++ " report(s)".toList]).length = listLength reports := by
      rw [listLength, if_neg hempty, List.length_append, List.length_flatMap, List.length_singleton]
      simp only [length_listLines]
    rw [reportListText, if_neg hempty, ← hlength, rendered_lines, List.forall_mem_append]
    constructor
    · rintro ⟨hlines, -⟩ report hreport
      exact (plain_listLines h report).mp fun l hl => hlines l (List.mem_flatMap.mpr ⟨report, hreport, hl⟩)
    · intro hreports
      refine ⟨?_, List.forall_mem_singleton.mpr hcount⟩
      intro l hl
      obtain ⟨report, hreport, hl⟩ := List.mem_flatMap.mp hl
      exact (plain_listLines h report).mpr (hreports report hreport) l hl

/-- The renderings are safe for the terminal exactly if no report shows a letter mark, which the escape leaves out, and
every content type, which is not escaped, is plain. -/
theorem terminalSafe_iff (h : Rfc3339 rfc3339) (reports : List ReportDetail) :
    TerminalSafe rfc3339 reports ↔ ∀ report ∈ reports, Markless report := by
  have hdetail : ∀ report, Rendered (detailLength report) (reportText rfc3339 report) ↔ Markless report := by
    intro report
    rw [reportText, ← length_detailLines, rendered_lines]
    exact plain_detailLines h report
  unfold TerminalSafe
  rw [rendered_list h]
  simp only [hdetail]
  constructor
  · exact fun hsafe => hsafe.2
  · intro hclean
    refine ⟨?_, hclean⟩
    -- The list shows a part of the text that the detail shows.
    intro report hreport text htext hmark
    refine (hclean report hreport).text text htext ?_
    have hsub : text.toList.take listTextChars <+: text.toList.take usizeMax := List.take_prefix_take_left (by decide)
    exact hsub.subset hmark

/-- An open report of a message with this text. -/
def reportOf (text : String) : ReportDetail where
  id := 1
  status := .opened
  reason := .spam
  createdAt := ⟨1767225600000000000, 0⟩
  handledAt := none
  reporterId := 2
  groupId := 3
  target := .message 4
  snapshot := some (.obj [("text", .str text), ("content_type", .str "text"), ("media", .arr [])])

/-- The format at the time of these reports. -/
def newYear : OffsetDateTime → Option String := fun _ => some "2026-01-01T00:00:00Z"

/-- A message of one letter mark: the mark reaches the terminal. -/
theorem letterMark_not_terminalSafe : ¬ TerminalSafe newYear [reportOf (String.ofList [arabicLetterMark])] := by
  rintro ⟨⟨hlist, -⟩, -⟩
  have hmem : arabicLetterMark ∈ reportListText newYear [reportOf (String.ofList [arabicLetterMark])] := by decide
  rcases hlist _ hmem with hfeed | hplain
  · exact absurd hfeed (by decide)
  · rw [not_plain_arabicLetterMark] at hplain
    cases hplain

/-- Line feeds and escape sequences of a message do not reach the terminal. -/
theorem escapes_terminalSafe : Rfc3339 newYear ∧ TerminalSafe newYear [reportOf "a\nb\x1b[31m"] := by
  have hformat : Rfc3339 newYear := by
    intro t text htext
    cases htext
    exact Text.forall_mem_of_all (by decide)
  have hclean : Markless (reportOf "a\nb\x1b[31m") := by
    refine ⟨?_, ?_, ?_, ?_⟩
    · intro text htext
      cases htext
      decide
    · intro snapshot contentType hsnapshot hcontent
      cases hsnapshot
      cases hcontent
      exact plain_literal (by decide)
    · intro snapshot items hsnapshot hitems item hitem
      cases hsnapshot
      cases hitems
      cases hitem
    · intro snapshot items hsnapshot hitems item hitem
      cases hsnapshot
      cases hitems
      cases hitem
  exact ⟨hformat, (terminalSafe_iff hformat _).mpr (List.forall_mem_singleton.mpr hclean)⟩

end Terminal

end JamyeServer.Moderation.Reports
