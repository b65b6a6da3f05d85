import JamyeServer.Escaping
import JamyeServer.Moderation.Filter
import JamyeServer.Postgres.Topics

/-!
# The announcement of a topic

The message that `create_topic` posts in the main room: the title as the label of a link to the topic, escaped for
Markdown, and the whole masked by the content filter.
-/

namespace JamyeServer.Topics

open Escaping Moderation Segmentation
open Postgres.Topics (normalizeTitle linkCharacters escapedTitle opening closing)

/-- The body for the ids as they are displayed. -/
def announcementBody (groupId topicId : BitVec 128) (title : String) : String :=
  Postgres.Topics.announcementBody (Text.hyphenated groupId) (Text.hyphenated topicId) title

/-- The body that `prepare_create_topic` hands to the repository. -/
def preparedAnnouncement (toLowercase : Char → List Char) (filter : ContentFilter) (groupId topicId : BitVec 128)
    (title : String) : Option String :=
  (normalizeTitle title).map fun title => filter.mask toLowercase (announcementBody groupId topicId title)

section Label

lemma escapedTitle_eq (title : List Char) :
    escapedTitle title = escape '\\' linkCharacters title :=
  foldl_replace (by decide) title

lemma escaped_escapedTitle (title : List Char) :
    Escaped '\\' linkCharacters (escapedTitle title) := by
  rw [escapedTitle_eq]
  exact escaped_escape (by decide) title

lemma unescape_escapedTitle (title : List Char) : unescape '\\' (escapedTitle title) = title := by
  rw [escapedTitle_eq]
  exact unescape_escape (by decide) title

/-- Behind the opening, the first closing bracket without a backslash ends an escaped label. -/
lemma firstUnescaped_announcement {label : List Char}
    (h : Escaped '\\' linkCharacters label) (group topic : List Char) :
    firstUnescaped '\\' ']' false (opening ++ label ++ closing group topic) = some (opening ++ label).length := by
  have hfree : ∀ a ∈ opening, a ≠ '\\' ∧ a ≠ ']' := Text.forall_mem_of_all (by decide)
  have hclosing : ∃ rest, closing group topic = ']' :: rest := ⟨_, rfl⟩
  obtain ⟨rest, hrest⟩ := hclosing
  rw [List.append_assoc, firstUnescaped_of_free hfree, hrest, firstUnescaped_append (by decide) (by decide) h]
  rw [Option.map_some, List.length_append, Nat.add_comm]

/-- Unescaping the label gives the title back, nothing in it closes the link, and so the announcements of two titles
differ. This holds of every title, whether `normalize_title` accepts it or not. -/
theorem announcementBody_label (groupId topicId : BitVec 128) (title : String) :
    (∃ label : List Char,
      (announcementBody groupId topicId title).toList =
        opening ++ label ++ closing (Text.hyphenated groupId) (Text.hyphenated topicId) ∧
      unescape '\\' label = title.toList ∧
      Escaped '\\' linkCharacters label ∧
      firstUnescaped '\\' ']' false (announcementBody groupId topicId title).toList = some (opening ++ label).length) ∧
    ∀ title', title' ≠ title →
      announcementBody groupId topicId title' ≠ announcementBody groupId topicId title := by
  constructor
  · refine ⟨escapedTitle title.toList, String.toList_ofList, unescape_escapedTitle _, ?_, ?_⟩
    · exact escaped_escapedTitle _
    · rw [announcementBody, Postgres.Topics.announcementBody, String.toList_ofList]
      exact firstUnescaped_announcement (escaped_escapedTitle _) _ _
  · intro title' hne hbody
    rw [announcementBody, announcementBody] at hbody
    have hlist := String.ofList_injective hbody
    have hlabel := List.append_cancel_left (List.append_cancel_right hlist)
    apply hne
    apply String.toList_injective
    rw [← unescape_escapedTitle title'.toList, hlabel, unescape_escapedTitle]

end Label

section Masked

variable {toLowercase : Char → List Char}

/-- Masking keeps the escapes of a label in which no replaced term ends right behind a backslash that escapes. -/
lemma scan_masked {p : List (Piece Char)} {s : Bool} (h : scan '\\' linkCharacters s (text p) = some false)
    (hends : ∀ before letters after, p = before ++ .term letters :: after →
      scan '\\' linkCharacters s (text before ++ letters) = some false) :
    scan '\\' linkCharacters s (masked maskText p) = some false := by
  induction p generalizing s with
  | nil => exact h
  | cons piece p ih =>
    cases piece with
    | term letters =>
      have hend := hends [] letters p rfl
      rw [text_nil, List.nil_append] at hend
      rw [text_term, scan_append, hend, Option.bind_some] at h
      have hstars : scan '\\' linkCharacters s maskText = some false := by
        cases s <;> decide
      rw [masked_term, scan_append, hstars, Option.bind_some]
      refine ih h ?_
      rintro before letters' after rfl
      have hlater := hends (.term letters :: before) letters' after rfl
      rwa [text_term, List.append_assoc, scan_append, hend, Option.bind_some] at hlater
    | letter a =>
      rw [text_letter, ← List.singleton_append, scan_append] at h
      rw [masked_letter, ← List.singleton_append, scan_append]
      cases hs : scan '\\' linkCharacters s [a] with
      | none =>
        rw [hs] at h
        cases h
      | some s' =>
        rw [hs, Option.bind_some] at h
        rw [Option.bind_some]
        refine ih h ?_
        rintro before letters' after rfl
        have hlater := hends (.letter a :: before) letters' after rfl
        rwa [text_letter, ← List.singleton_append, List.append_assoc, scan_append, hs, Option.bind_some] at hlater

lemma star_not_mem_closing (groupId topicId : BitVec 128) :
    '*' ∉ closing (Text.hyphenated groupId) (Text.hyphenated topicId) := by
  have huuid : ∀ id, '*' ∉ Text.hyphenated id := by
    intro id hmem
    exact absurd (Text.mem_uuidChars_of_mem_hyphenated hmem) (by decide)
  intro hmem
  unfold closing at hmem
  simp only [List.mem_append] at hmem
  rcases hmem with (((hmem | hmem) | hmem) | hmem) | hmem
  · exact absurd hmem (by decide)
  · exact huuid groupId hmem
  · exact absurd hmem (by decide)
  · exact huuid topicId hmem
  · exact absurd hmem (by decide)

/-- The announcement is masked as a whole. Its opening and its link target stay exactly when every replaced term lies in
the label; the label still ends at the first bracket that closes it when no replaced term splits an escape. -/
theorem preparedAnnouncement_link (terms : List String) (filter : ContentFilter)
    (h : fromTerms toLowercase terms = .ok filter) (groupId topicId : BitVec 128) (raw title : String)
    (htitle : normalizeTitle raw = some title) :
    ∃ (body : String) (p : List (Piece Char)),
      preparedAnnouncement toLowercase filter groupId topicId raw = some body ∧
      text p = (announcementBody groupId topicId title).toList ∧
      Greedy (fold toLowercase) (foldedTerms toLowercase terms) p ∧
      ((∃ label, body.toList = opening ++ label ++ closing (Text.hyphenated groupId) (Text.hyphenated topicId)) ↔
        ∃ inner, p = opening.map .letter ++ inner ++
          (closing (Text.hyphenated groupId) (Text.hyphenated topicId)).map .letter) ∧
      ∀ inner, p = opening.map .letter ++ inner ++
          (closing (Text.hyphenated groupId) (Text.hyphenated topicId)).map .letter →
        text inner = escapedTitle title.toList ∧
        body.toList = opening ++ masked maskText inner ++
          closing (Text.hyphenated groupId) (Text.hyphenated topicId) ∧
        ((∀ before letters after, inner = before ++ .term letters :: after →
            Escaped '\\' linkCharacters (text before ++ letters)) →
          Escaped '\\' linkCharacters (masked maskText inner) ∧
          firstUnescaped '\\' ']' false body.toList = some (opening ++ masked maskText inner).length) := by
  obtain ⟨p, htext, hp⟩ := exists_greedy h (announcementBody groupId topicId title).toList
  refine ⟨filter.mask toLowercase (announcementBody groupId topicId title), p, ?_, htext, hp, ?_, ?_⟩
  · rw [preparedAnnouncement, htitle, Option.map_some]
  · rw [mask_eq_masked h _ hp htext]
    rw [announcementBody, Postgres.Topics.announcementBody, String.toList_ofList] at htext
    constructor
    · rintro ⟨label, hmasked⟩
      have hopening : ∀ a ∈ maskText, a ∉ opening := Text.forall_mem_of_all (by decide)
      have hclosing : ∀ a ∈ maskText, a ∉ closing (Text.hyphenated groupId) (Text.hyphenated topicId) := by
        intro a ha
        obtain rfl : a = '*' := by simpa [maskText] using ha
        exact star_not_mem_closing groupId topicId
      rw [List.append_assoc] at htext hmasked
      obtain ⟨q, rfl, hq, hmq⟩ := eq_letters_append (by decide) hopening htext hmasked
      obtain ⟨inner, rfl, -, -⟩ := eq_append_letters (by decide) hclosing hq hmq
      exact ⟨inner, by rw [List.append_assoc]⟩
    · rintro ⟨inner, rfl⟩
      exact ⟨masked maskText inner, by simp only [masked_append, masked_map_letter]⟩
  · rintro inner rfl
    have hbody := mask_eq_masked h _ hp htext
    simp only [masked_append, masked_map_letter] at hbody
    rw [announcementBody, Postgres.Topics.announcementBody, String.toList_ofList] at htext
    simp only [text_append, text_map_letter] at htext
    have hlabel := List.append_cancel_left (List.append_cancel_right htext)
    refine ⟨hlabel, hbody, fun hends => ?_⟩
    have hescaped : Escaped '\\' linkCharacters (masked maskText inner) :=
      scan_masked (hlabel ▸ escaped_escapedTitle _) hends
    refine ⟨hescaped, ?_⟩
    rw [hbody]
    exact firstUnescaped_announcement hescaped _ _

/-- The term is in the label, and what it leaves is still a link. -/
theorem preparedAnnouncement_link_bad :
    ∃ (body : String) (p inner : List (Piece Char)),
      preparedAnnouncement asciiLowercase ⟨[['b', 'a', 'd']]⟩ 7 11 " A [BADGE] " = some body ∧
      text p = (announcementBody 7 11 "A [BADGE]").toList ∧
      Greedy (fold asciiLowercase) (foldedTerms asciiLowercase ["Bad"]) p ∧
      p = opening.map .letter ++ inner ++ (closing (Text.hyphenated 7) (Text.hyphenated 11)).map .letter ∧
      text inner = escapedTitle "A [BADGE]".toList ∧
      body.toList = opening ++ masked maskText inner ++ closing (Text.hyphenated 7) (Text.hyphenated 11) ∧
      masked maskText inner = "A \\[***GE\\]".toList := by
  have hok : fromTerms asciiLowercase ["Bad"] = .ok ⟨[['b', 'a', 'd']]⟩ := by decide +kernel
  obtain ⟨body, p, hbody, htext, hp, hlink, hlabel⟩ :=
    preparedAnnouncement_link ["Bad"] _ hok 7 11 " A [BADGE] " "A [BADGE]" (by decide)
  have hmasked : body.toList = opening ++ "A \\[***GE\\]".toList ++ closing (Text.hyphenated 7) (Text.hyphenated 11) := by
    have heval : preparedAnnouncement asciiLowercase ⟨[['b', 'a', 'd']]⟩ 7 11 " A [BADGE] " = some (String.ofList
        (opening ++ "A \\[***GE\\]".toList ++ closing (Text.hyphenated 7) (Text.hyphenated 11))) := by
      decide +kernel
    rw [hbody] at heval
    rw [Option.some.inj heval, String.toList_ofList]
  obtain ⟨inner, hinner⟩ := hlink.mp ⟨_, hmasked⟩
  obtain ⟨htitle, hform, -⟩ := hlabel inner hinner
  refine ⟨body, p, inner, hbody, htext, hp, hinner, htitle, hform, ?_⟩
  exact List.append_cancel_left (List.append_cancel_right (hform.symm.trans hmasked))

/-- The term `chat` is masked in the link target too. -/
theorem preparedAnnouncement_masks_target :
    ∃ filter body, fromTerms asciiLowercase ["chat"] = .ok filter ∧
      preparedAnnouncement asciiLowercase filter 7 11 "hello" = some body ∧
      ¬ ∃ label, body.toList = opening ++ label ++ closing (Text.hyphenated 7) (Text.hyphenated 11) := by
  refine ⟨⟨[['c', 'h', 'a', 't']]⟩, _, by decide +kernel, rfl, ?_⟩
  rintro ⟨label, hlabel⟩
  have hsuffix := List.suffix_append (opening ++ label) (closing (Text.hyphenated 7) (Text.hyphenated 11))
  rw [← hlabel] at hsuffix
  revert hsuffix
  decide +kernel

end Masked

end JamyeServer.Topics
