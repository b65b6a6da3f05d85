import JamyeServer.Conversations.Payloads
import JamyeServer.Json.Traversal
import JamyeServer.Outbox.Worker

/-!
# What the purge of an account does to stored payloads

`account_deletion/payload_scrub.rs`: the payloads that stay behind an account. The notifications about its messages and
topics lose their profile fields first, while the events still name it; then every payload of an event or of the
conversation outbox that holds its id gets the id of the tombstone and loses its profile fields.
-/

namespace JamyeServer.PayloadScrub

open Json Text Wire Postgres.AccountPurge

section Tables

/-- A row with a payload and the other columns that the statements read. -/
structure PayloadRow (γ : Type) where
  id : BitVec 128
  columns : γ
  payload : Json

/-- A table whose primary key is `id`. -/
structure Table (γ : Type) where
  rows : List (PayloadRow γ)
  nodup : (rows.map PayloadRow.id).Nodup

variable {γ : Type}

def PayloadRow.setPayload (id : BitVec 128) (payload : Json) (row : PayloadRow γ) : PayloadRow γ :=
  if row.id = id then { row with payload := payload } else row

lemma setPayload_id (id : BitVec 128) (payload : Json) (row : PayloadRow γ) : (row.setPayload id payload).id = row.id := by
  unfold PayloadRow.setPayload
  split_ifs <;> rfl

/-- `UPDATE … SET payload = $2 WHERE id = $1`. It fails with `InvalidData` unless it meets one row. -/
def Table.setPayload (id : BitVec 128) (payload : Json) (t : Table γ) : Option (Table γ) :=
  if t.rows.countP (fun row => decide (row.id = id)) = 1 then
    some ⟨t.rows.map (PayloadRow.setPayload id payload), by
      simpa [List.map_map, Function.comp_def, setPayload_id] using t.nodup⟩
  else none

/-- The loop over the fetched rows. `rewrite` says what to write, if anything. -/
def rewriteRows (rewrite : Json → Option Json) : List (PayloadRow γ) → Table γ → Option (Table γ)
  | [], t => some t
  | row :: rest, t =>
    match rewrite row.payload with
    | none => rewriteRows rewrite rest t
    | some payload => (t.setPayload row.id payload).bind (rewriteRows rewrite rest)

/-- `ORDER BY id`. -/
def orderById (rows : List (PayloadRow γ)) : List (PayloadRow γ) := rows.mergeSort fun a b => decide (a.id ≤ b.id)

end Tables

section Passes

def idText (id : BitVec 128) : String := String.ofList (hyphenated id)

/-- What `anonymize_profile_fields` returns: whether it changed a member. -/
def profileFieldsChange : Json → Bool :=
  fold (fun _ => false) (fun items => items.any id) fun fields => fields.any fun f =>
    if isNicknameKey f.1 then
      match f.2.1 with
      | .str s => decide (s ≠ anonymousAuthorNickname)
      | _ => true
    else if isAvatarKey f.1 then
      match f.2.1 with
      | .null => false
      | _ => true
    else f.2.2

/-- A payload in the loop of `scrub_payload_rows`. -/
def replaceAndAnonymize (original replacement : String) (payload : Json) : Option Json :=
  if hasExact original payload then some (override profileField (replaceExact original replacement payload)) else none

/-- A payload in the loop of `scrub_retained_notification_profiles`. -/
def anonymize (payload : Json) : Option Json :=
  if profileFieldsChange payload then some (override profileField payload) else none

/-- `scrub_payload_rows`: the rows of the statement whose text holds the id. A UUID has no wildcard of `LIKE`. -/
def scrubPayloadRows {γ : Type} (userId tombstoneUserId : BitVec 128) (intent : γ → Bool) (t : Table γ) : Option (Table γ) :=
  rewriteRows (replaceAndAnonymize (idText userId) (idText tombstoneUserId))
    (orderById (t.rows.filter fun row => intent row.columns && decide (hyphenated userId <:+: jsonbText row.payload))) t

structure EventColumns where
  conversationId : BitVec 128
  cursor : ℕ

structure NotificationColumns where
  conversationId : Option (BitVec 128)
  sourceCursor : Option ℕ

/-- The tables `conversation_events`, `outbox_events` and `notifications`. -/
structure Retained where
  events : Table EventColumns
  outbox : Table Outbox.IntentType
  notifications : Table NotificationColumns

/-- `event.payload ->> 'sender_id' = $1::UUID::TEXT OR event.payload ->> 'author_id' = $1::UUID::TEXT`. Only a string has
the text of a UUID. -/
def sentOrAuthored (userId : BitVec 128) (payload : Json) : Bool :=
  decide (text "sender_id" payload = some (idText userId)) || decide (text "author_id" payload = some (idText userId))

def isSource (userId : BitVec 128) (notification : NotificationColumns) (event : PayloadRow EventColumns) : Bool :=
  decide (notification.conversationId = some event.columns.conversationId) &&
    decide (notification.sourceCursor = some event.columns.cursor) && sentOrAuthored userId event.payload

/-- The join of the notifications with the events that they come from. -/
def joinedNotifications (userId : BitVec 128) (s : Retained) : List (PayloadRow NotificationColumns) :=
  s.notifications.rows.flatMap fun notification =>
    (s.events.rows.filter (isSource userId notification.columns)).map fun _ => notification

def scrubRetainedNotificationProfiles (userId : BitVec 128) (s : Retained) : Option Retained := do
  let notifications ← rewriteRows anonymize (orderById (joinedNotifications userId s)) s.notifications
  some { s with notifications := notifications }

def scrubRetainedPayloads (userId tombstoneUserId : BitVec 128) (s : Retained) : Option Retained := do
  let events ← scrubPayloadRows userId tombstoneUserId (fun _ => true) s.events
  let outbox ← scrubPayloadRows userId tombstoneUserId (fun intent => decide (intent = .conversation)) s.outbox
  some { s with events := events, outbox := outbox }

/-- The two passes in the order of `finalize_deletion`. -/
def scrub (userId tombstoneUserId : BitVec 128) (s : Retained) : Option Retained := do
  let s ← scrubRetainedNotificationProfiles userId s
  scrubRetainedPayloads userId tombstoneUserId s

end Passes

section Rewriting

variable {γ : Type} {rewrite : Json → Option Json}

/-- The table with new payloads. -/
def Table.mapPayload (g : PayloadRow γ → Json) (t : Table γ) : Table γ :=
  ⟨t.rows.map fun row => { row with payload := g row }, by simpa [List.map_map, Function.comp_def] using t.nodup⟩

lemma Table.ext_rows {t t' : Table γ} (h : t.rows = t'.rows) : t = t' := by
  cases t
  cases t'
  cases h
  rfl

lemma mapPayload_of_fixed {g : PayloadRow γ → Json} {t : Table γ} (h : ∀ row ∈ t.rows, g row = row.payload) :
    t.mapPayload g = t := by
  refine Table.ext_rows ?_
  change t.rows.map _ = t.rows
  conv_rhs => rw [← List.map_id t.rows]
  refine List.map_congr_left fun row hrow => ?_
  rw [h row hrow, id_eq]

/-- What the loop has made of a row when it has met the ids. -/
def edited (rewrite : Json → Option Json) (ids : List (BitVec 128)) (row : PayloadRow γ) : PayloadRow γ :=
  if row.id ∈ ids then { row with payload := (rewrite row.payload).getD row.payload } else row

lemma edited_id (ids : List (BitVec 128)) (row : PayloadRow γ) : (edited rewrite ids row).id = row.id := by
  unfold edited
  split_ifs <;> rfl

/-- A row is found by its primary key. -/
lemma eq_of_id {rows : List (PayloadRow γ)} (hnodup : (rows.map PayloadRow.id).Nodup) {r row : PayloadRow γ} (hr : r ∈ rows)
    (hrow : row ∈ rows) (hid : r.id = row.id) : r = row :=
  List.inj_on_of_nodup_map hnodup hr hrow hid

lemma edited_cons_none {ids : List (BitVec 128)} {row : PayloadRow γ} (hnone : rewrite row.payload = none) :
    edited rewrite (row.id :: ids) row = edited rewrite ids row := by
  unfold edited
  rw [if_pos List.mem_cons_self, hnone, Option.getD_none, ite_self]

lemma edited_cons_of_ne {ids : List (BitVec 128)} {i : BitVec 128} {row : PayloadRow γ} (h : row.id ≠ i) :
    edited rewrite (i :: ids) row = edited rewrite ids row := by
  simp [edited, h]

lemma setPayload_edited {ids : List (BitVec 128)} {row : PayloadRow γ} {payload : Json} (hsome : rewrite row.payload = some payload) :
    (edited rewrite ids row).setPayload row.id payload = edited rewrite (row.id :: ids) row := by
  unfold PayloadRow.setPayload
  rw [if_pos (edited_id ids row)]
  unfold edited
  rw [if_pos List.mem_cons_self, hsome, Option.getD_some]
  split_ifs <;> rfl

lemma setPayload_of_mem {t : Table γ} {row : PayloadRow γ} (hid : row.id ∈ t.rows.map PayloadRow.id) (payload : Json) :
    ∃ t', t.setPayload row.id payload = some t' ∧ t'.rows = t.rows.map (PayloadRow.setPayload row.id payload) := by
  have hcount : t.rows.countP (fun r => decide (r.id = row.id)) = 1 := by
    have hone := List.count_eq_one_of_mem t.nodup hid
    rw [List.count, List.countP_map] at hone
    rw [← hone]
    exact List.countP_congr fun r _ => by simp
  exact ⟨_, if_pos hcount, rfl⟩

/-- The rows that the loop has met are edited, whatever it meets next. -/
lemma rewriteRows_edited {rows : List (PayloadRow γ)} (hnodup : (rows.map PayloadRow.id).Nodup) (selected : List (PayloadRow γ))
    (hselected : ∀ row ∈ selected, row ∈ rows) (ids : List (BitVec 128)) (t : Table γ)
    (ht : t.rows = rows.map (edited rewrite ids)) :
    ∃ t', rewriteRows rewrite selected t = some t' ∧
      t'.rows = rows.map (edited rewrite ((selected.map PayloadRow.id).reverse ++ ids)) := by
  induction selected generalizing ids t with
  | nil => exact ⟨t, rfl, ht⟩
  | cons row rest ih =>
    have hmem := hselected row List.mem_cons_self
    have hrest := fun r hr => hselected r (List.mem_cons_of_mem row hr)
    have hids : ((row :: rest).map PayloadRow.id).reverse ++ ids = (rest.map PayloadRow.id).reverse ++ row.id :: ids := by
      rw [List.map_cons, List.reverse_cons, List.append_assoc, List.singleton_append]
    rw [hids, rewriteRows]
    cases hrewrite : rewrite row.payload with
    | none =>
      refine ih hrest (row.id :: ids) t (ht.trans (List.map_congr_left fun r hr => ?_))
      by_cases hid : r.id = row.id
      · rw [eq_of_id hnodup hr hmem hid, edited_cons_none hrewrite]
      · rw [edited_cons_of_ne hid]
    | some payload =>
      have hkey : row.id ∈ t.rows.map PayloadRow.id := by
        rw [ht, List.map_map]
        exact List.mem_map.mpr ⟨row, hmem, edited_id ids row⟩
      obtain ⟨t₁, ht₁, hrows⟩ := setPayload_of_mem hkey payload
      simp only [ht₁, Option.bind_some]
      refine ih hrest (row.id :: ids) t₁ ?_
      rw [hrows, ht, List.map_map]
      refine List.map_congr_left fun r hr => ?_
      rw [Function.comp_apply]
      by_cases hid : r.id = row.id
      · rw [eq_of_id hnodup hr hmem hid, setPayload_edited hrewrite]
      · rw [edited_cons_of_ne hid, PayloadRow.setPayload, if_neg (by rwa [edited_id])]

/-- The loop rewrites the fetched rows and leaves the others. -/
lemma rewriteRows_eq {t : Table γ} {selected : List (PayloadRow γ)} {g : PayloadRow γ → Json}
    (hselected : ∀ row ∈ selected, row ∈ t.rows) (hmet : ∀ row ∈ selected, (rewrite row.payload).getD row.payload = g row)
    (hother : ∀ row ∈ t.rows, row ∉ selected → g row = row.payload) :
    rewriteRows rewrite (orderById selected) t = some (t.mapPayload g) := by
  have hmem : ∀ row, row ∈ orderById selected ↔ row ∈ selected := fun row => List.mem_mergeSort
  have hstart : t.rows = t.rows.map (edited rewrite []) := by
    conv_lhs => rw [← List.map_id t.rows]
    exact List.map_congr_left fun row _ => by simp [edited]
  obtain ⟨t', ht', hrows⟩ := rewriteRows_edited t.nodup (orderById selected)
    (fun row hrow => hselected row ((hmem row).mp hrow)) [] t hstart
  rw [ht', Option.some.injEq]
  refine Table.ext_rows (hrows.trans (List.map_congr_left fun row hrow => ?_))
  have hids : row.id ∈ ((orderById selected).map PayloadRow.id).reverse ++ [] ↔ row ∈ selected := by
    rw [List.append_nil, List.mem_reverse, List.mem_map]
    constructor
    · rintro ⟨r, hr, hid⟩
      rw [hmem] at hr
      rwa [← eq_of_id t.nodup (hselected r hr) hrow hid]
    · exact fun h => ⟨row, (hmem row).mpr h, rfl⟩
  by_cases h : row ∈ selected
  · rw [edited, if_pos (hids.mpr h), hmet row h]
  · rw [edited, if_neg (mt hids.mp h), hother row hrow h]

end Rewriting

section Payloads

variable {userId tombstoneUserId : BitVec 128} {payload : Json}

/-- The members that `anonymize_profile_fields` sets. -/
def isProfileKey (key : String) : Bool := isNicknameKey key || isAvatarKey key

/-- Every nickname, display name and avatar at every depth is that of an anonymous author. -/
def Anonymized (payload : Json) : Prop :=
  ∀ key v, (key, v) ∈ members payload →
    (isNicknameKey key = true → v = .str anonymousAuthorNickname) ∧ (isAvatarKey key = true → v = .null)

lemma idText_injective : Function.Injective idText := by
  intro x y h
  exact hyphenated_injective (String.ofList_injective h)

lemma idText_ne_anonymous (id : BitVec 128) : idText id ≠ anonymousAuthorNickname := by
  intro h
  have hmem : '탈' ∈ (idText id).toList := by
    rw [h]
    decide
  rw [idText, String.toList_ofList] at hmem
  exact absurd (mem_uuidChars_of_mem_hyphenated hmem) (by decide)

/-- The prefilter misses no payload that holds the id. -/
lemma infix_of_hasExact (h : hasExact (idText userId) payload = true) : hyphenated userId <:+: jsonbText payload := by
  have hplain : ∀ c ∈ uuidChars, escapeChar c = [c] := forall_mem_of_all (by decide)
  have hinfix := infix_jsonbText (s := idText userId) (j := payload)
    (fun c hc => hplain c (mem_uuidChars_of_mem_hyphenated (by rwa [idText, String.toList_ofList] at hc)))
    ((hasExact_iff payload).mp h)
  rwa [idText, String.toList_ofList] at hinfix

lemma getLast?_of_endsWith {ending key : String} {c : Char} (hlast : ending.toList.getLast? = some c)
    (h : endsWith ending key = true) : key.toList.getLast? = some c := by
  obtain ⟨front, hfront⟩ := List.isSuffixOf_iff_suffix.mp h
  rw [← hfront, List.getLast?_append, hlast, Option.some_or]

/-- A name ends in one letter only. -/
lemma isAvatarKey_of_isNicknameKey {key : String} (h : isNicknameKey key = true) : isAvatarKey key = false := by
  have hname : key.toList.getLast? = some 'e' := by
    simp only [isNicknameKey, Bool.or_eq_true, decide_eq_true_eq] at h
    rcases h with ((rfl | rfl) | h) | h
    · decide
    · decide
    · exact getLast?_of_endsWith (by decide) h
    · exact getLast?_of_endsWith (by decide) h
  by_contra havatar
  rw [Bool.not_eq_false, isAvatarKey, Bool.or_eq_true, decide_eq_true_eq] at havatar
  have hurl : key.toList.getLast? = some 'l' := by
    rcases havatar with rfl | h
    · decide
    · exact getLast?_of_endsWith (by decide) h
  rw [hname, Option.some.injEq] at hurl
  exact absurd hurl (by decide)

lemma profileField_cases {key : String} {v : Json} (h : profileField key = some v) :
    isProfileKey key = true ∧ (v = .str anonymousAuthorNickname ∨ v = .null) := by
  unfold profileField at h
  unfold isProfileKey
  split_ifs at h with hname havatar
  · cases h
    exact ⟨by rw [hname, Bool.true_or], .inl rfl⟩
  · cases h
    exact ⟨by rw [havatar, Bool.or_true], .inr rfl⟩

lemma isProfileKey_of_profileField {key : String} (h : profileField key ≠ none) : isProfileKey key = true := by
  obtain ⟨v, hv⟩ := Option.ne_none_iff_exists'.mp h
  exact (profileField_cases hv).1

lemma anonymized_override (payload : Json) : Anonymized (override profileField payload) := by
  have hvalue : ∀ key v, profileField key = some v → members v = [] := by
    intro key v h
    rcases (profileField_cases h).2 with rfl | rfl <;> rfl
  intro key v hmem
  constructor
  · intro hname
    exact mem_members_override hvalue hmem (if_pos hname)
  · intro havatar
    have hname : ¬ isNicknameKey key = true := by
      intro hname
      rw [isAvatarKey_of_isNicknameKey hname] at havatar
      cases havatar
    exact mem_members_override hvalue hmem ((if_neg hname).trans (if_pos havatar))

/-- `anonymize_profile_fields` says that it changed nothing only if it did not. -/
lemma override_of_not_profileFieldsChange (h : profileFieldsChange payload = false) : override profileField payload = payload := by
  induction payload using induct with
  | null => rfl
  | bool b => rfl
  | num n => rfl
  | str t => rfl
  | arr items ih =>
    rw [profileFieldsChange, fold_arr, List.any_map, List.any_eq_false] at h
    rw [override_arr]
    congr 1
    conv_rhs => rw [← List.map_id items]
    refine List.map_congr_left fun j hj => ?_
    exact ih j hj ((Bool.not_eq_true _).mp (h j hj))
  | obj fields ih =>
    rw [profileFieldsChange, fold_obj, List.any_map, List.any_eq_false] at h
    rw [override_obj]
    congr 1
    conv_rhs => rw [← List.map_id fields]
    refine List.map_congr_left fun f hf => ?_
    have hkeep := h f hf
    have hbelow := ih f hf
    obtain ⟨key, v⟩ := f
    simp only [Function.comp_apply] at hkeep
    split_ifs at hkeep with hname havatar
    · have hset : profileField key = some (.str anonymousAuthorNickname) := if_pos hname
      cases v with
      | str t => rw [hset, Option.getD_some, not_not.mp (mt decide_eq_true hkeep), id_eq]
      | null | bool | num | arr | obj => exact absurd rfl hkeep
    · have hset : profileField key = some .null := (if_neg hname).trans (if_pos havatar)
      cases v with
      | null => rw [hset, Option.getD_some, id_eq]
      | str | bool | num | arr | obj => exact absurd rfl hkeep
    · have hset : profileField key = none := (if_neg hname).trans (if_neg havatar)
      rw [hset, Option.getD_none, hbelow ((Bool.not_eq_true _).mp hkeep), id_eq]

/-- The id is gone from a scrubbed payload. -/
lemma notMem_strings_scrubPayload (hne : tombstoneUserId ≠ userId) (payload : Json) :
    idText userId ∉ strings (scrubPayload (idText userId) (idText tombstoneUserId) payload) := by
  unfold scrubPayload
  split_ifs with h
  · intro hmem
    rcases mem_strings_override hmem with hold | ⟨key, v, hv, hnew⟩
    · rcases mem_strings_replaceExact hold with ⟨-, hself⟩ | heq
      · exact hself rfl
      · exact hne (idText_injective heq).symm
    · rcases (profileField_cases hv).2 with rfl | rfl
      · rw [strings_str, List.mem_singleton] at hnew
        exact idText_ne_anonymous userId hnew
      · cases hnew
  · rwa [hasExact_iff] at h

/-- Only a payload without the id is left as it is. -/
lemma scrubPayload_eq_self_iff (hne : tombstoneUserId ≠ userId) (payload : Json) :
    scrubPayload (idText userId) (idText tombstoneUserId) payload = payload ↔ idText userId ∉ strings payload := by
  constructor
  · intro h
    rw [← h]
    exact notMem_strings_scrubPayload hne payload
  · intro h
    rw [scrubPayload, if_neg (by rwa [hasExact_iff])]

lemma anonymized_scrubPayload (h : idText userId ∈ strings payload) :
    Anonymized (scrubPayload (idText userId) (idText tombstoneUserId) payload) := by
  rw [scrubPayload, if_pos ((hasExact_iff payload).mpr h)]
  exact anonymized_override _

/-- The same names and lengths, apart from what stood below a profile field. -/
structure SameShape (payload payload' : Json) : Prop where
  outside : shape isProfileKey payload' = shape isProfileKey payload
  scalars : (∀ key v, (key, v) ∈ members payload → isProfileKey key = true → shape (fun _ => false) v = .null) →
    shape (fun _ => false) payload' = shape (fun _ => false) payload

lemma sameShape_refl (payload : Json) : SameShape payload payload := ⟨rfl, fun _ => rfl⟩

lemma sameShape_override (payload : Json) : SameShape payload (override profileField payload) := by
  have hvalue : ∀ leaf key v, profileField key = some v → shape leaf v = .null := by
    intro leaf key v h
    rcases (profileField_cases h).2 with rfl | rfl <;> rfl
  constructor
  · exact shape_override (hvalue _) fun key v _ h => .inl (isProfileKey_of_profileField h)
  · intro hscalar
    exact shape_override (hvalue _) fun key v hmem h => .inr (hscalar key v hmem (isProfileKey_of_profileField h))

lemma sameShape_scrubPayload (original replacement : String) (payload : Json) :
    SameShape payload (scrubPayload original replacement payload) := by
  unfold scrubPayload
  split_ifs with h
  · obtain ⟨houtside, hscalars⟩ := sameShape_override (replaceExact original replacement payload)
    rw [shape_replaceExact] at houtside hscalars
    refine ⟨houtside, fun hscalar => hscalars fun key v hmem hkey => ?_⟩
    obtain ⟨u, hu, rfl⟩ := mem_members_replaceExact hmem
    rw [shape_replaceExact]
    exact hscalar key u hu hkey
  · exact sameShape_refl payload

end Payloads

section Purge

variable {userId tombstoneUserId : BitVec 128}

/-- Some event that the account sent or authored is the source of the notification. -/
def hasSource (userId : BitVec 128) (events : Table EventColumns) (notification : NotificationColumns) : Bool :=
  events.rows.any (isSource userId notification)

/-- The tables after the scrub. -/
def scrubbed (userId tombstoneUserId : BitVec 128) (s : Retained) : Retained where
  events := s.events.mapPayload fun row => scrubPayload (idText userId) (idText tombstoneUserId) row.payload
  outbox := s.outbox.mapPayload fun row =>
    if row.columns = .conversation then scrubPayload (idText userId) (idText tombstoneUserId) row.payload else row.payload
  notifications := s.notifications.mapPayload fun row =>
    if hasSource userId s.events row.columns then override profileField row.payload else row.payload

lemma scrubPayloadRows_eq {γ : Type} (intent : γ → Bool) (t : Table γ) :
    scrubPayloadRows userId tombstoneUserId intent t = some (t.mapPayload fun row =>
      if intent row.columns then scrubPayload (idText userId) (idText tombstoneUserId) row.payload else row.payload) := by
  refine rewriteRows_eq (fun row hrow => List.mem_of_mem_filter hrow) ?_ ?_
  · intro row hrow
    have hintent := (Bool.and_eq_true_iff.mp (List.mem_filter.mp hrow).2).1
    rw [if_pos hintent, replaceAndAnonymize, scrubPayload]
    split_ifs <;> rfl
  · intro row hrow hskipped
    split_ifs with hintent
    · rw [scrubPayload, if_neg]
      intro hexact
      exact hskipped (List.mem_filter.mpr ⟨hrow, by simp [hintent, infix_of_hasExact hexact]⟩)
    · rfl

lemma mem_joinedNotifications {s : Retained} {row : PayloadRow NotificationColumns} :
    row ∈ joinedNotifications userId s ↔ row ∈ s.notifications.rows ∧ hasSource userId s.events row.columns = true := by
  simp only [joinedNotifications, List.mem_flatMap, List.mem_map, List.mem_filter, hasSource, List.any_eq_true]
  constructor
  · rintro ⟨notification, hmem, event, hevent, rfl⟩
    exact ⟨hmem, event, hevent⟩
  · rintro ⟨hmem, event, hevent⟩
    exact ⟨row, hmem, event, hevent, rfl⟩

lemma scrubRetainedNotificationProfiles_eq (tombstoneUserId : BitVec 128) (s : Retained) :
    scrubRetainedNotificationProfiles userId s = some { s with notifications := (scrubbed userId tombstoneUserId s).notifications } := by
  unfold scrubRetainedNotificationProfiles
  rw [rewriteRows_eq (g := fun row =>
    if hasSource userId s.events row.columns then override profileField row.payload else row.payload)]
  · rfl
  · exact fun row hrow => (mem_joinedNotifications.mp hrow).1
  · intro row hrow
    rw [if_pos (mem_joinedNotifications.mp hrow).2, anonymize]
    split_ifs with hchange
    · rfl
    · exact (override_of_not_profileFieldsChange ((Bool.not_eq_true _).mp hchange)).symm
  · intro row hrow hskipped
    exact if_neg fun hsource => hskipped (mem_joinedNotifications.mpr ⟨hrow, hsource⟩)

/-- The scrub never fails. -/
lemma scrub_eq (s : Retained) : scrub userId tombstoneUserId s = some (scrubbed userId tombstoneUserId s) := by
  unfold scrub
  rw [scrubRetainedNotificationProfiles_eq tombstoneUserId s]
  change scrubRetainedPayloads userId tombstoneUserId _ = _
  unfold scrubRetainedPayloads
  rw [scrubPayloadRows_eq, scrubPayloadRows_eq]
  simp [scrubbed]

/-- What the scrub makes of an event or a row of the conversation outbox. -/
structure RowScrubbed {γ : Type} (userId : BitVec 128) (row row' : PayloadRow γ) : Prop where
  id : row'.id = row.id
  columns : row'.columns = row.columns
  gone : idText userId ∉ strings row'.payload
  anonymized : idText userId ∈ strings row.payload → Anonymized row'.payload
  shape : SameShape row.payload row'.payload

structure NotificationScrubbed (userId : BitVec 128) (events : Table EventColumns) (row row' : PayloadRow NotificationColumns) :
    Prop where
  id : row'.id = row.id
  columns : row'.columns = row.columns
  anonymized : (∃ event ∈ events.rows, isSource userId row.columns event = true) → Anonymized row'.payload
  shape : SameShape row.payload row'.payload

lemma rowScrubbed_scrubPayload {γ : Type} (hne : tombstoneUserId ≠ userId) (row : PayloadRow γ) :
    RowScrubbed userId row { row with payload := scrubPayload (idText userId) (idText tombstoneUserId) row.payload } where
  id := rfl
  columns := rfl
  gone := notMem_strings_scrubPayload hne row.payload
  anonymized := anonymized_scrubPayload
  shape := sameShape_scrubPayload _ _ _

lemma forall₂_mapPayload {γ : Type} {R : PayloadRow γ → PayloadRow γ → Prop} {g : PayloadRow γ → Json} {t : Table γ} :
    List.Forall₂ R t.rows (t.mapPayload g).rows ↔ ∀ row ∈ t.rows, R row { row with payload := g row } := by
  change List.Forall₂ R t.rows (t.rows.map _) ↔ _
  rw [List.forall₂_map_right_iff, List.forall₂_same]

/-- A second scrub finds neither the id nor a source of a notification. -/
lemma scrubbed_scrubbed (hne : tombstoneUserId ≠ userId) (another : BitVec 128) (s : Retained) :
    scrubbed userId another (scrubbed userId tombstoneUserId s) = scrubbed userId tombstoneUserId s := by
  have hclean : ∀ payload, scrubPayload (idText userId) (idText another)
      (scrubPayload (idText userId) (idText tombstoneUserId) payload) =
        scrubPayload (idText userId) (idText tombstoneUserId) payload := by
    intro payload
    have hgone := notMem_strings_scrubPayload hne payload
    rw [← hasExact_iff] at hgone
    exact if_neg hgone
  have hsource : ∀ columns, hasSource userId (scrubbed userId tombstoneUserId s).events columns = false := by
    intro columns
    rw [hasSource, List.any_eq_false]
    rintro _ hevent hsource
    obtain ⟨row, -, rfl⟩ := List.mem_map.mp hevent
    have hsent := (Bool.and_eq_true_iff.mp hsource).2
    rw [sentOrAuthored, Bool.or_eq_true, decide_eq_true_eq, decide_eq_true_eq] at hsent
    exact notMem_strings_scrubPayload hne row.payload (hsent.elim mem_strings_of_text mem_strings_of_text)
  have hevents : (scrubbed userId another (scrubbed userId tombstoneUserId s)).events = (scrubbed userId tombstoneUserId s).events := by
    refine mapPayload_of_fixed fun row' hrow' => ?_
    obtain ⟨row, -, rfl⟩ := List.mem_map.mp hrow'
    exact hclean row.payload
  have houtbox : (scrubbed userId another (scrubbed userId tombstoneUserId s)).outbox = (scrubbed userId tombstoneUserId s).outbox := by
    refine mapPayload_of_fixed fun row' hrow' => ?_
    obtain ⟨row, -, rfl⟩ := List.mem_map.mp hrow'
    by_cases hintent : row.columns = .conversation
    · simp only [if_pos hintent, hclean]
    · simp only [if_neg hintent]
  have hnotifications : (scrubbed userId another (scrubbed userId tombstoneUserId s)).notifications =
      (scrubbed userId tombstoneUserId s).notifications := by
    refine mapPayload_of_fixed fun row _ => ?_
    rw [hsource, if_neg Bool.false_ne_true]
  calc scrubbed userId another (scrubbed userId tombstoneUserId s)
      = ⟨(scrubbed userId another (scrubbed userId tombstoneUserId s)).events,
          (scrubbed userId another (scrubbed userId tombstoneUserId s)).outbox,
          (scrubbed userId another (scrubbed userId tombstoneUserId s)).notifications⟩ := rfl
    _ = scrubbed userId tombstoneUserId s := by rw [hevents, houtbox, hnotifications]

/-- The id of a purged account is gone from the events and the conversation outbox, the payloads that held it and the
notifications about its messages and topics show no profile, and the payloads keep their shape apart from what stood below
a profile field. The tombstone is a new row of `users`, so it is not the account. Another scrub changes nothing. -/
theorem scrub_erases_account (hne : tombstoneUserId ≠ userId) (s : Retained) :
    ∃ s', scrub userId tombstoneUserId s = some s' ∧
      List.Forall₂ (RowScrubbed userId) s.events.rows s'.events.rows ∧
      List.Forall₂ (fun row row' => (row.columns = .conversation → RowScrubbed userId row row') ∧
        (row.columns ≠ .conversation → row' = row)) s.outbox.rows s'.outbox.rows ∧
      List.Forall₂ (NotificationScrubbed userId s.events) s.notifications.rows s'.notifications.rows ∧
      ∀ another, scrub userId another s' = some s' := by
  refine ⟨scrubbed userId tombstoneUserId s, scrub_eq s, ?_, ?_, ?_, ?_⟩
  · exact forall₂_mapPayload.mpr fun row _ => rowScrubbed_scrubPayload hne row
  · refine forall₂_mapPayload.mpr fun row _ => ⟨fun hintent => ?_, fun hintent => ?_⟩
    · simp only [if_pos hintent]
      exact rowScrubbed_scrubPayload hne row
    · simp only [if_neg hintent]
  · refine forall₂_mapPayload.mpr fun row _ => ⟨rfl, rfl, fun hevent => ?_, ?_⟩
    · have hsource : hasSource userId s.events row.columns = true := List.any_eq_true.mpr hevent
      rw [if_pos hsource]
      exact anonymized_override row.payload
    · dsimp only
      split_ifs
      · exact sameShape_override row.payload
      · exact sameShape_refl row.payload
  · intro another
    rw [scrub_eq, scrubbed_scrubbed hne]

/-- A message in `conversation_events`. -/
def messagePayload (senderId : BitVec 128) (nickname : Json) (body : String) : Json :=
  .obj [("id", .str (idText 20)), ("chatroom_id", .str (idText 21)), ("sender_id", .str (idText senderId)),
    ("sender_nickname", nickname), ("sender_avatar_url", .str "https://media.example/b.png"), ("client_msg_id", .str (idText 22)),
    ("body", .str body), ("type", .str "user"), ("created_at", .str "2026-01-01T00:00:00Z"), ("media", .arr [])]

/-- One message and the notification of it. -/
def oneMessage (payload : Json) : Retained where
  events := ⟨[⟨10, ⟨21, 5⟩, payload⟩], List.nodup_singleton _⟩
  outbox := ⟨[], List.nodup_nil⟩
  notifications := ⟨[⟨11, ⟨some 21, some 5⟩, .obj [("sender_nickname", .str "ann")]⟩], List.nodup_singleton _⟩

theorem scrub_erases_ann :
    (2 : BitVec 128) ≠ 1 ∧ ∃ s', scrub 1 2 (oneMessage (messagePayload 1 (.str "ann") "hi")) = some s' ∧
      (∀ row ∈ s'.events.rows, idText 1 ∉ strings row.payload) ∧ scrub 1 3 s' = some s' := by
  have hne : (2 : BitVec 128) ≠ 1 := by decide
  obtain ⟨s', hs', hevents, -, -, hagain⟩ := scrub_erases_account hne (oneMessage (messagePayload 1 (.str "ann") "hi"))
  refine ⟨hne, s', hs', fun row hrow => ?_, hagain 3⟩
  obtain ⟨i, hi, rfl⟩ := List.mem_iff_getElem.mp hrow
  exact (hevents.get (hevents.length_eq ▸ hi) hi).gone

/-- A nickname that is an object is replaced as a whole, with the names in it. -/
theorem scrub_drops_nested_nickname :
    ¬ ∀ (userId tombstoneUserId : BitVec 128) (s s' : Retained), tombstoneUserId ≠ userId →
      scrub userId tombstoneUserId s = some s' →
        List.Forall₂ (fun row row' => shape (fun _ => false) row'.payload = shape (fun _ => false) row.payload)
          s.events.rows s'.events.rows := by
  intro h
  have hshape := forall₂_mapPayload.mp (h 1 2 (oneMessage (messagePayload 1 (.obj [("first", .str "ann")]) "hi")) _
    (by decide) (scrub_eq _)) _ List.mem_cons_self
  have hmembers := congrArg (fun j => (members j).length) hshape
  exact absurd hmembers (by decide)

end Purge

section Others

variable {userId tombstoneUserId : BitVec 128} {s s' : Retained}

def member (key : String) : Json → Option Json
  | .obj fields => lookup key fields
  | _ => none

/-- The account that wrote the message or the topic of a payload. An item is deleted by its author, or by the operators,
whose id is that of no account. The outbox has an event under `data`. -/
def writer (payload : Json) : Option String :=
  let data := (member "data" payload).getD payload
  (text "sender_id" data).or ((text "author_id" data).or (text "deleted_by" data))

def WrittenByOther (userId : BitVec 128) (payload : Json) : Prop := ∃ author, writer payload = some author ∧ author ≠ idText userId

/-- What other accounts wrote has the payload that it had. -/
structure OthersUnchanged (userId : BitVec 128) (s s' : Retained) : Prop where
  events : List.Forall₂ (fun row row' => WrittenByOther userId row.payload → row'.payload = row.payload)
    s.events.rows s'.events.rows
  outbox : List.Forall₂ (fun row row' => WrittenByOther userId row.payload → row'.payload = row.payload)
    s.outbox.rows s'.outbox.rows

/-- No string that another account wrote is the id of the account. -/
structure IdUnquoted (userId : BitVec 128) (s : Retained) : Prop where
  events : ∀ row ∈ s.events.rows, WrittenByOther userId row.payload → idText userId ∉ strings row.payload
  outbox : ∀ row ∈ s.outbox.rows, row.columns = .conversation → WrittenByOther userId row.payload →
    idText userId ∉ strings row.payload

/-- The scrub looks for the id in every string, not in the members that name an account: it leaves the payloads of others
alone if and only if none of them quotes the id. -/
theorem others_unchanged_iff_id_unquoted (hne : tombstoneUserId ≠ userId) (hs : scrub userId tombstoneUserId s = some s') :
    OthersUnchanged userId s s' ↔ IdUnquoted userId s := by
  rw [scrub_eq, Option.some.injEq] at hs
  subst hs
  constructor
  · rintro ⟨hevents, houtbox⟩
    constructor
    · intro row hrow hother
      have hsame := forall₂_mapPayload.mp hevents row hrow hother
      exact (scrubPayload_eq_self_iff hne row.payload).mp hsame
    · intro row hrow hintent hother
      have hsame := forall₂_mapPayload.mp houtbox row hrow hother
      rw [if_pos hintent] at hsame
      exact (scrubPayload_eq_self_iff hne row.payload).mp hsame
  · rintro ⟨hevents, houtbox⟩
    constructor
    · refine forall₂_mapPayload.mpr fun row hrow hother => ?_
      exact (scrubPayload_eq_self_iff hne row.payload).mpr (hevents row hrow hother)
    · refine forall₂_mapPayload.mpr fun row hrow hother => ?_
      dsimp only
      split_ifs with hintent
      · exact (scrubPayload_eq_self_iff hne row.payload).mpr (houtbox row hrow hintent hother)
      · rfl

lemma writtenByOther_messagePayload {senderId : BitVec 128} (hne : senderId ≠ userId) (nickname : Json) (body : String) :
    WrittenByOther userId (messagePayload senderId nickname body) :=
  ⟨idText senderId, rfl, fun h => hne (idText_injective h)⟩

theorem bob_unchanged :
    (2 : BitVec 128) ≠ 1 ∧ ∃ s', scrub 1 2 (oneMessage (messagePayload 3 (.str "bob") "hi")) = some s' ∧
      OthersUnchanged 1 (oneMessage (messagePayload 3 (.str "bob") "hi")) s' := by
  have hne : (2 : BitVec 128) ≠ 1 := by decide
  have hunquoted : IdUnquoted 1 (oneMessage (messagePayload 3 (.str "bob") "hi")) := by
    constructor
    · intro row hrow _
      obtain rfl := List.mem_singleton.mp hrow
      decide
    · intro row hrow
      cases hrow
  exact ⟨hne, _, scrub_eq _, (others_unchanged_iff_id_unquoted hne (scrub_eq _)).mpr hunquoted⟩

/-- User 3 says the id of user 1. The purge of user 1 rewrites the body and takes the nickname of user 3 away. -/
theorem scrub_rewrites_quoted_id :
    ¬ ∀ (userId tombstoneUserId : BitVec 128) (s s' : Retained), tombstoneUserId ≠ userId →
      scrub userId tombstoneUserId s = some s' → OthersUnchanged userId s s' := by
  intro h
  have hunchanged := h 1 2 (oneMessage (messagePayload 3 (.str "bob") (idText 1))) _ (by decide) (scrub_eq _)
  have hsame := forall₂_mapPayload.mp hunchanged.events _ List.mem_cons_self
    (writtenByOther_messagePayload (by decide) (.str "bob") (idText 1))
  have hnickname := congrArg (text "sender_nickname") hsame
  exact absurd hnickname (by decide)

end Others

end JamyeServer.PayloadScrub
