import Mathlib.Data.List.Sort
import Mathlib.Data.Prod.Lex

/-!
# Keyset pagination

A list is sorted by a key and handed out in pages. A page is read with one row more than its limit, and its cursor
names its last row; the next page holds what comes after the key of that row. A client follows the cursors while the
list may change between two pages.
-/

namespace JamyeServer.Keyset

variable {σ ε α β ι κ : Type} [LinearOrder κ]

section Lists

/-- `ORDER BY key`. -/
def sorted (key : α → κ) (rows : List α) : List α := rows.insertionSort fun a b => key a ≤ key b

/-- The rows that come after a place. -/
def beyond (key : α → κ) (place : κ) (rows : List α) : List α := rows.filter fun a => decide (place < key a)

structure Page (α ι : Type) where
  items : List α
  nextCursor : Option ι
  deriving DecidableEq, Repr

/-- The page of the rows that were read: one row more than the limit shows that there is another page. -/
def cut (limit : Nat) (id : α → ι) (rows : List α) : Page α ι :=
  if limit < rows.length then ⟨rows.take limit, (rows.take limit).getLast?.map id⟩ else ⟨rows, none⟩

/-- The rows that a statement reads for a page: all that come after the cursor, if one is given. A comparison with a
cursor whose row was not found is not true of any row. -/
def fetch (key : α → κ) (after : κ → α → Bool) (cursor : Option (Option κ)) (limit : Nat) (rows : List α) : List α :=
  (sorted key (rows.filter fun a => match cursor with
    | none => true
    | some none => false
    | some (some place) => after place a)).take (limit + 1)

lemma cut_take (limit : Nat) (id : α → ι) (rows : List α) : cut limit id (rows.take (limit + 1)) = cut limit id rows := by
  by_cases h : limit < rows.length
  · have hl : (rows.take (limit + 1)).length = limit + 1 := by
      rw [List.length_take]
      omega
    have ht : (rows.take (limit + 1)).take limit = rows.take limit := by
      rw [List.take_take, Nat.min_eq_left (Nat.le_succ limit)]
    simp [cut, h, ht]
  · rw [List.take_of_length_le (by omega)]

lemma mem_sorted {key : α → κ} {rows : List α} {a : α} : a ∈ sorted key rows ↔ a ∈ rows :=
  List.mem_insertionSort _

lemma mem_beyond {key : α → κ} {place : κ} {rows : List α} {a : α} :
    a ∈ beyond key place rows ↔ a ∈ rows ∧ place < key a := by
  simp [beyond]

/-- Rows with different keys are sorted strictly. -/
lemma sorted_strict {key : α → κ} {rows : List α} (h : (rows.map key).Nodup) :
    (sorted key rows).Pairwise fun a b => key a < key b := by
  have hle : (sorted key rows).Pairwise fun a b => key a ≤ key b := by
    have : Std.Total fun a b : α => key a ≤ key b := ⟨fun a b => le_total (key a) (key b)⟩
    have : IsTrans α fun a b => key a ≤ key b := ⟨fun _ _ _ => le_trans⟩
    exact List.pairwise_insertionSort _ rows
  have hne : (sorted key rows).Pairwise fun a b => key a ≠ key b := by
    rw [← List.pairwise_map (f := key) (R := (· ≠ ·))]
    exact (((List.perm_insertionSort _ rows).map key).nodup_iff).mpr h
  exact (hle.and hne).imp fun h => lt_of_le_of_ne h.1 h.2

/-- A strictly sorted list is known by its rows. -/
lemma eq_of_strict {key : α → κ} {rows rows' : List α} (h : rows.Pairwise fun a b => key a < key b)
    (h' : rows'.Pairwise fun a b => key a < key b) (hmem : ∀ a, a ∈ rows ↔ a ∈ rows') : rows = rows' := by
  have hnd : ∀ {l : List α}, (l.Pairwise fun a b => key a < key b) → l.Nodup :=
    fun hl => hl.imp fun h heq => absurd (congrArg key heq) (ne_of_lt h)
  have hperm : rows.Perm rows' := (List.perm_ext_iff_of_nodup (hnd h) (hnd h')).mpr hmem
  exact hperm.eq_of_pairwise (fun a b _ _ hab hba => absurd hba (lt_asymm hab)) h h'

/-- To sort what comes after a place and to drop what does not from the sorted list is the same. -/
lemma sorted_beyond {key : α → κ} {rows : List α} (h : (rows.map key).Nodup) (place : κ) :
    sorted key (beyond key place rows) = beyond key place (sorted key rows) := by
  have hsub : ((beyond key place rows).map key).Nodup := h.sublist (List.filter_sublist.map key)
  refine eq_of_strict (sorted_strict hsub) ((sorted_strict h).filter _) fun a => ?_
  rw [mem_sorted, mem_beyond, mem_beyond, mem_sorted]

/-- What the list holds for a request: from its start, nothing, or after the place of the cursor. -/
def rest (key : α → κ) (cursor : Option (Option κ)) (rows : List α) : List α :=
  match cursor with
  | none => sorted key rows
  | some none => []
  | some (some place) => beyond key place (sorted key rows)

/-- A statement reads what the list holds, if its comparison is the order of the list. -/
lemma fetch_eq {key : α → κ} {after : κ → α → Bool} {rows : List α} {cursor : Option (Option κ)} (h : (rows.map key).Nodup)
    (hafter : ∀ place, cursor = some (some place) → ∀ a ∈ rows, (after place a = true ↔ place < key a)) (limit : Nat) :
    fetch key after cursor limit rows = (rest key cursor rows).take (limit + 1) := by
  rcases cursor with _ | _ | place
  · simp [fetch, rest]
  · simp [fetch, rest, sorted]
  · have hf : rows.filter (fun a => after place a) = beyond key place rows :=
      List.filter_congr fun a ha => Bool.eq_iff_iff.mpr ((hafter place rfl a ha).trans decide_eq_true_iff.symm)
    simp only [fetch, rest, hf, sorted_beyond h place]

lemma cut_fetch {key : α → κ} {after : κ → α → Bool} {rows : List α} {cursor : Option (Option κ)} (h : (rows.map key).Nodup)
    (hafter : ∀ place, cursor = some (some place) → ∀ a ∈ rows, (after place a = true ↔ place < key a)) (limit : Nat)
    (id : α → ι) : cut limit id (fetch key after cursor limit rows) = cut limit id (rest key cursor rows) := by
  rw [fetch_eq h hafter, cut_take]

lemma sorted_map {key : α → κ} {key' : β → κ} {f : α → β} (h : ∀ a, key' (f a) = key a) (rows : List α) :
    sorted key' (rows.map f) = (sorted key rows).map f :=
  (List.map_insertionSort _ _ f rows fun a _ b _ => by simp [h]).symm

lemma rest_map {key : α → κ} {key' : β → κ} {f : α → β} (h : ∀ a, key' (f a) = key a) (cursor : Option (Option κ))
    (rows : List α) : rest key' cursor (rows.map f) = (rest key cursor rows).map f := by
  rcases cursor with _ | _ | place
  · exact sorted_map h rows
  · rfl
  · simp only [rest, sorted_map h, beyond, List.filter_map, Function.comp_def, h]

lemma mem_of_mem_rest {key : α → κ} {cursor : Option (Option κ)} {rows : List α} {a : α} (h : a ∈ rest key cursor rows) :
    a ∈ rows := by
  rcases cursor with _ | _ | place
  · exact mem_sorted.mp h
  · cases h
  · exact mem_sorted.mp (mem_beyond.mp h).1

lemma cut_map (limit : Nat) (id : β → ι) (f : α → β) (rows : List α) :
    cut limit id (rows.map f) = ⟨(cut limit (id ∘ f) rows).items.map f, (cut limit (id ∘ f) rows).nextCursor⟩ := by
  unfold cut
  simp only [List.length_map]
  split <;> simp [← List.map_take, Function.comp_def]

/-- Rows that can all be converted are converted before or after they are cut. -/
lemma mapM_ok {convert : α → Except ε β} {f : α → β} {rows : List α} (h : ∀ a ∈ rows, convert a = .ok (f a)) :
    rows.mapM convert = .ok (rows.map f) := by
  induction rows with
  | nil => rfl
  | cons a rest ih =>
    rw [List.mapM_cons, h a List.mem_cons_self, ih fun b hb => h b (List.mem_cons_of_mem _ hb)]
    rfl

/-- The page of a list whose rows are converted one by one. -/
lemma page_eq {key : α → κ} {after : κ → α → Bool} {key' : β → κ} {convert : α → Except ε β} {f : α → β} {rows : List α}
    {cursor : Option (Option κ)} (hkeys : (rows.map key).Nodup)
    (hafter : ∀ place, cursor = some (some place) → ∀ a ∈ rows, (after place a = true ↔ place < key a))
    (hconvert : ∀ a ∈ rows, convert a = .ok (f a)) (hkey : ∀ a, key' (f a) = key a) (limit : Nat) (id : β → ι) :
    (do
      let items ← (fetch key after cursor limit rows).mapM convert
      pure (cut limit id items)) = .ok (cut limit id (rest key' cursor (rows.map f))) := by
  rw [fetch_eq hkeys hafter, mapM_ok fun a ha => hconvert a (mem_of_mem_rest (List.mem_of_mem_take ha)), rest_map hkey,
    List.map_take, ← cut_take]
  rfl

end Lists

section Walks

/-- Where a client stands that follows the cursors. -/
inductive Client (ι : Type)
  | first
  | at (cursor : ι)
  | done
  deriving DecidableEq, Repr

namespace Client

/-- The cursor to send for the next page, if there is one to ask for. -/
def cursor : Client ι → Option (Option ι)
  | first => some none
  | .at c => some (some c)
  | done => none

/-- After a page. -/
def follow : Option ι → Client ι
  | none => done
  | some c => .at c

end Client

/-- The pages that a client has read one after another; the state may change after each of them. -/
inductive Walk (page : σ → Option ι → Except ε (Page α ι)) (change : σ → σ → Prop) (s₀ : σ) :
    List (List α) → σ → Client ι → Prop
  | start : Walk page change s₀ [] s₀ .first
  | turn {pages : List (List α)} {s s' : σ} {client : Client ι} {after : Option ι} {p : Page α ι} :
      Walk page change s₀ pages s client → client.cursor = some after → page s after = .ok p → change s s' →
      Walk page change s₀ (pages ++ [p.items]) s' (Client.follow p.nextCursor)

/-- A client that reads every page the other way reads the same pages. -/
lemma Walk.of_map {page : σ → Option ι → Except ε (Page α ι)} {change : σ → σ → Prop} {f : List α → List β} {s₀ s : σ}
    {pages : List (List β)} {client : Client ι}
    (h : Walk (fun s c => (page s c).map fun p => ⟨f p.items, p.nextCursor⟩) change s₀ pages s client) :
    ∃ rows, Walk page change s₀ rows s client ∧ pages = rows.map f := by
  induction h with
  | start => exact ⟨[], .start, rfl⟩
  | turn _ hc hp hs ih =>
    obtain ⟨rows, hw, rfl⟩ := ih
    rename_i s _ _ after p _
    cases hrow : page s after with
    | error e => simp [hrow, Except.map] at hp
    | ok q =>
      simp only [hrow, Except.map, Except.ok.injEq] at hp
      subst hp
      exact ⟨rows ++ [q.items], hw.turn hc hrow hs, by simp⟩

lemma Walk.map {page : σ → Option ι → Except ε (Page α ι)} {change : σ → σ → Prop} {s₀ s : σ} {rows : List (List α)}
    {client : Client ι} (f : List α → List β) (h : Walk page change s₀ rows s client) :
    Walk (fun s c => (page s c).map fun p => (⟨f p.items, p.nextCursor⟩ : Page β ι)) change s₀ (rows.map f) s client := by
  induction h with
  | start => exact .start
  | turn _ hc hp hs ih =>
    rw [List.map_append, List.map_singleton]
    exact ih.turn (p := ⟨f _, _⟩) hc (by rw [hp]; rfl) hs

/-- The pages are those of the list `visible`, sorted by `key`, in the states that are `good`. -/
structure Pages (page : σ → Option ι → Except ε (Page α ι)) (good : σ → Prop) (visible : σ → List α) (key : α → κ)
    (id : α → ι) (limit : Nat) : Prop where
  keys : ∀ s, good s → ((visible s).map key).Nodup
  first : ∀ s, good s → page s none = .ok (cut limit id (sorted key (visible s)))
  next : ∀ s, good s → ∀ a ∈ visible s, page s (some (id a)) = .ok (cut limit id (beyond key (key a) (sorted key (visible s))))

namespace Pages

variable {page : σ → Option ι → Except ε (Page α ι)} {good : σ → Prop} {visible : σ → List α} {key : α → κ} {id : α → ι}
  {limit : Nat}

/-- What the pages up to a place hold: only rows of the list, and all those that were there at the start. -/
structure Read (visible : σ → List α) (key : α → κ) (s₀ s : σ) (upTo : κ → Prop) (rows : List α) : Prop where
  strict : rows.Pairwise fun a b => key a < key b
  mem : ∀ a ∈ rows, a ∈ visible s ∧ upTo (key a)
  all : ∀ a ∈ visible s₀, upTo (key a) → a ∈ rows

/-- What holds of a client on its way. -/
def Stands (visible : σ → List α) (key : α → κ) (id : α → ι) (s₀ s : σ) (rows : List α) : Client ι → Prop
  | .first => rows = []
  | .at c => ∃ a ∈ visible s, id a = c ∧ Read visible key s₀ s (· ≤ key a) rows
  | .done => Read visible key s₀ s (fun _ => True) rows

/-- Nothing in a sorted list is after its last row. -/
lemma le_of_getLast? {rows : List α} {b : α} (h : rows.Pairwise fun a b => key a < key b) (hb : rows.getLast? = some b) :
    ∀ a ∈ rows, key a ≤ key b := by
  obtain ⟨init, rfl⟩ := List.getLast?_eq_some_iff.mp hb
  intro a ha
  rcases List.mem_append.mp ha with ha | ha
  · exact le_of_lt ((List.pairwise_append.mp h).2.2 a ha b (List.mem_singleton_self b))
  · rw [List.mem_singleton.mp ha]

/-- One more page: `rest` is what the list still holds. -/
lemma stands_cut {s₀ s : σ} {rows rest : List α} (hlimit : 0 < limit)
    (hrows : rows.Pairwise fun a b => key a < key b) (hmem : ∀ a ∈ rows, a ∈ visible s)
    (hrest : rest.Pairwise fun a b => key a < key b) (hrestmem : ∀ a ∈ rest, a ∈ visible s)
    (hsplit : ∀ a ∈ rows, ∀ b ∈ rest, key a < key b) (hall : ∀ a ∈ visible s₀, a ∈ rows ∨ a ∈ rest) :
    Stands visible key id s₀ s (rows ++ (cut limit id rest).items) (Client.follow (cut limit id rest).nextCursor) := by
  by_cases hlen : limit < rest.length
  · have hcut : cut limit id rest = ⟨rest.take limit, (rest.take limit).getLast?.map id⟩ := by simp [cut, hlen]
    have hne : rest.take limit ≠ [] := by
      rw [ne_eq, List.take_eq_nil_iff]
      rintro (h | h)
      · omega
      · rw [h] at hlen
        simp at hlen
    have hb := List.getLast?_eq_some_getLast hne
    set b := (rest.take limit).getLast hne
    have hparts : rest.take limit ++ rest.drop limit = rest := List.take_append_drop limit rest
    have hpage : (rest.take limit).Pairwise fun a b => key a < key b := hrest.sublist (List.take_sublist limit rest)
    have hmemb : b ∈ rest.take limit := List.mem_of_getLast? hb
    rw [hcut, hb]
    refine ⟨b, hrestmem b (List.mem_of_mem_take hmemb), rfl, ?_, ?_, ?_⟩
    · exact List.pairwise_append.mpr ⟨hrows, hpage, fun a ha c hc => hsplit a ha c (List.mem_of_mem_take hc)⟩
    · intro a ha
      rcases List.mem_append.mp ha with ha | ha
      · exact ⟨hmem a ha, le_of_lt (hsplit a ha b (List.mem_of_mem_take hmemb))⟩
      · exact ⟨hrestmem a (List.mem_of_mem_take ha), le_of_getLast? hpage hb a ha⟩
    · intro a ha hle
      rcases hall a ha with h | h
      · exact List.mem_append_left _ h
      · rw [← hparts] at h hrest
        refine List.mem_append_right _ ((List.mem_append.mp h).resolve_right fun hd => ?_)
        exact absurd ((List.pairwise_append.mp hrest).2.2 b hmemb a hd) (not_lt_of_ge hle)
  · have hcut : cut limit id rest = ⟨rest, none⟩ := by simp [cut, hlen]
    rw [hcut]
    refine ⟨List.pairwise_append.mpr ⟨hrows, hrest, hsplit⟩, fun a ha => ⟨?_, trivial⟩, fun a ha _ => ?_⟩
    · exact (List.mem_append.mp ha).elim (hmem a) (hrestmem a)
    · exact List.mem_append.mpr (hall a ha)

/-- A client's standing survives a change that only adds rows. -/
lemma Stands.mono {s₀ s s' : σ} {rows : List α} {client : Client ι} (hsub : ∀ a ∈ visible s, a ∈ visible s')
    (h : Stands visible key id s₀ s rows client) : Stands visible key id s₀ s' rows client := by
  have hread : ∀ {upTo : κ → Prop}, Read visible key s₀ s upTo rows → Read visible key s₀ s' upTo rows :=
    fun hr => ⟨hr.strict, fun a ha => ⟨hsub a (hr.mem a ha).1, (hr.mem a ha).2⟩, hr.all⟩
  cases client with
  | first => exact h
  | «at» c =>
    obtain ⟨a, ha, hid, hr⟩ := h
    exact ⟨a, hsub a ha, hid, hread hr⟩
  | done => exact hread h

variable {change : σ → σ → Prop} {s₀ s : σ} {pages : List (List α)} {client : Client ι}

/-- Along every walk through a list that only grows, the pages stay sorted and miss nothing that was there at the
start. -/
theorem stands (h : Pages page good visible key id limit) (hlimit : 0 < limit) (hgood : good s₀)
    (hkeep : ∀ s s', good s → change s s' → good s' ∧ ∀ a ∈ visible s, a ∈ visible s')
    (hw : Walk page change s₀ pages s client) :
    good s ∧ (∀ a ∈ visible s₀, a ∈ visible s) ∧ Stands visible key id s₀ s pages.flatten client := by
  induction hw with
  | start => exact ⟨hgood, fun _ ha => ha, rfl⟩
  | @turn pages s s' client after p _ hc hp hchange ih =>
    obtain ⟨hs, hsub, hst⟩ := ih
    obtain ⟨hs', hgrow⟩ := hkeep s s' hs hchange
    refine ⟨hs', fun a ha => hgrow a (hsub a ha), ?_⟩
    rw [List.flatten_append, List.flatten_singleton]
    refine Stands.mono hgrow ?_
    have hstrict := sorted_strict (h.keys s hs)
    cases client with
    | done => cases hc
    | first =>
      cases hc
      rw [h.first s hs] at hp
      cases hp
      rw [show pages.flatten = [] from hst]
      exact stands_cut hlimit .nil (List.forall_mem_nil _) hstrict (fun a ha => mem_sorted.mp ha)
        (List.forall_mem_nil _) fun a ha => .inr (mem_sorted.mpr (hsub a ha))
    | «at» c =>
      cases hc
      obtain ⟨a, ha, rfl, hr⟩ := hst
      rw [h.next s hs a ha] at hp
      cases hp
      refine stands_cut hlimit hr.strict (fun x hx => (hr.mem x hx).1) (hstrict.filter _)
        (fun x hx => mem_sorted.mp (mem_beyond.mp hx).1) (fun x hx y hy => ?_) fun x hx => ?_
      · exact lt_of_le_of_lt (hr.mem x hx).2 (mem_beyond.mp hy).2
      · rcases le_or_gt (key x) (key a) with hle | hlt
        · exact .inl (hr.all x hx hle)
        · exact .inr (mem_beyond.mpr ⟨mem_sorted.mpr (hsub x hx), hlt⟩)

omit [LinearOrder κ] in
/-- What a page's cursor stands for. -/
lemma cut_nextCursor {rest : List α} {c : ι} (hc : (cut limit id rest).nextCursor = some c) :
    ∃ b ∈ rest, id b = c := by
  unfold cut at hc
  split_ifs at hc
  obtain ⟨b, hb, rfl⟩ := Option.map_eq_some_iff.mp hc
  exact ⟨b, List.mem_of_mem_take (List.mem_of_getLast? hb), rfl⟩

/-- The rows up to a place come first. -/
lemma upTo_initial {rows : List α} (h : rows.Pairwise fun a b => key a < key b) (place : κ) :
    rows.filter (fun a => decide (key a ≤ place)) <+: rows := by
  induction rows with
  | nil => exact List.nil_prefix
  | cons a rest ih =>
    obtain ⟨ha, hrest⟩ := List.pairwise_cons.mp h
    by_cases hle : key a ≤ place
    · rw [List.filter_cons_of_pos (by simpa using hle)]
      exact List.cons_prefix_cons.mpr ⟨rfl, ih hrest⟩
    · have hnil : (a :: rest).filter (fun a => decide (key a ≤ place)) = [] := by
        refine List.filter_eq_nil_iff.mpr fun b hb => ?_
        rcases List.mem_cons.mp hb with rfl | hb
        · simpa using hle
        · simpa using lt_trans (not_le.mp hle) (ha b hb)
      rw [hnil]
      exact List.nil_prefix

/-- The rows of the start are read in order, each once, however far the walk has come; at its end it has read them
all. -/
theorem walk_growing [DecidableEq α] (h : Pages page good visible key id limit) (hlimit : 0 < limit) (hgood : good s₀)
    (hkeep : ∀ s s', good s → change s s' → good s' ∧ ∀ a ∈ visible s, a ∈ visible s')
    (hw : Walk page change s₀ pages s client) :
    pages.flatten.filter (fun a => decide (a ∈ visible s₀)) <+: sorted key (visible s₀) ∧
      (client = .done → pages.flatten.filter (fun a => decide (a ∈ visible s₀)) = sorted key (visible s₀)) := by
  obtain ⟨-, -, hst⟩ := h.stands hlimit hgood hkeep hw
  have hstrict := sorted_strict (h.keys s₀ hgood)
  have hdone : ∀ {upTo : κ → Prop} [DecidablePred upTo], Read visible key s₀ s upTo pages.flatten →
      pages.flatten.filter (fun a => decide (a ∈ visible s₀)) =
        (sorted key (visible s₀)).filter fun a => decide (upTo (key a)) := by
    intro upTo _ hr
    refine eq_of_strict (hr.strict.filter _) (hstrict.filter _) fun a => ?_
    simp only [List.mem_filter, decide_eq_true_eq, mem_sorted]
    exact ⟨fun h => ⟨h.2, (hr.mem a h.1).2⟩, fun h => ⟨hr.all a h.1 h.2, h.1⟩⟩
  cases client with
  | first =>
    rw [show pages.flatten = [] from hst]
    refine ⟨?_, fun h => by cases h⟩
    exact List.nil_prefix
  | «at» c =>
    obtain ⟨a, -, -, hr⟩ := hst
    rw [hdone hr]
    exact ⟨upTo_initial hstrict (key a), fun h => by cases h⟩
  | done =>
    have hr : Read visible key s₀ s (fun _ => True) pages.flatten := hst
    rw [hdone hr]
    simp

/-- The walk ends: the pages leave less and less of the list. -/
lemma walk_ends (h : Pages page good visible key id limit) (hgood : good s) (n : Nat) {a : α} (ha : a ∈ visible s)
    (hn : (beyond key (key a) (sorted key (visible s))).length ≤ n) (hw : Walk page Eq s pages s (.at (id a))) :
    ∃ pages, Walk page Eq s pages s .done := by
  induction n generalizing a pages with
  | zero =>
    have hnil : beyond key (key a) (sorted key (visible s)) = [] := List.length_eq_zero_iff.mp (Nat.le_zero.mp hn)
    have hturn := hw.turn rfl (h.next s hgood a ha) rfl
    rw [hnil] at hturn
    exact ⟨_, hturn⟩
  | succ n ih =>
    have hturn := hw.turn rfl (h.next s hgood a ha) rfl
    cases hc : (cut limit id (beyond key (key a) (sorted key (visible s)))).nextCursor with
    | none =>
      rw [hc] at hturn
      exact ⟨_, hturn⟩
    | some c =>
      obtain ⟨b, hb, rfl⟩ := cut_nextCursor hc
      rw [hc] at hturn
      have hlt : (beyond key (key b) (sorted key (visible s))).length <
          (beyond key (key a) (sorted key (visible s))).length := by
        have hab := (mem_beyond.mp hb).2
        have hsub : beyond key (key b) (sorted key (visible s)) =
            (beyond key (key a) (sorted key (visible s))).filter fun x => decide (key b < key x) := by
          simp only [beyond, List.filter_filter]
          refine List.filter_congr fun x _ => ?_
          by_cases hx : key b < key x
          · simp [hx, lt_trans hab hx]
          · simp [hx]
        rw [hsub, List.length_filter_lt_length_iff_exists]
        exact ⟨b, hb, by simp⟩
      exact ih (mem_sorted.mp (mem_beyond.mp hb).1) (by omega) hturn

/-- In a state that does not change, the walk ends and has read the list. -/
theorem walk_fixed (h : Pages page good visible key id limit) (hlimit : 0 < limit) (hgood : good s) :
    ∃ pages, Walk page Eq s pages s .done ∧ pages.flatten = sorted key (visible s) := by
  have hend : ∃ pages, Walk page Eq s pages s .done := by
    have hturn := Walk.turn .start rfl (h.first s hgood) rfl
    cases hc : (cut limit id (sorted key (visible s))).nextCursor with
    | none =>
      rw [hc] at hturn
      exact ⟨_, hturn⟩
    | some c =>
      obtain ⟨b, hb, rfl⟩ := cut_nextCursor hc
      rw [hc] at hturn
      exact h.walk_ends hgood _ (mem_sorted.mp hb) (Nat.le_refl _) hturn
  obtain ⟨pages, hw⟩ := hend
  obtain ⟨-, -, hr⟩ := h.stands hlimit hgood (fun s s' hs (heq : s = s') => heq ▸ ⟨hs, fun _ ha => ha⟩) hw
  refine ⟨pages, hw, eq_of_strict hr.strict (sorted_strict (h.keys s hgood)) fun a => ?_⟩
  rw [mem_sorted]
  exact ⟨fun ha => (hr.mem a ha).1, fun ha => hr.all a ha trivial⟩

end Pages

end Walks

end JamyeServer.Keyset
