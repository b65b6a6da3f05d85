import JamyeServer.Json
import Mathlib.Data.List.Infix

/-!
# Walks through JSON values

What holds at every depth of a value: its strings, the members of its objects, its shape and its text. An edit of
strings or of members is a `map` at each array and object.
-/

namespace JamyeServer.Json

section Induction

/-- Induction on a value, with the hypothesis for every item of an array and every member of an object. -/
@[elab_as_elim]
theorem induct {P : Json → Prop} (null : P .null) (bool : ∀ b, P (.bool b)) (num : ∀ n, P (.num n)) (str : ∀ s, P (.str s))
    (arr : ∀ items, (∀ j ∈ items, P j) → P (.arr items))
    (obj : ∀ fields, (∀ f ∈ fields, P f.2) → P (.obj fields)) (j : Json) : P j := by
  refine @Json.rec P (fun items => ∀ j ∈ items, P j) (fun fields => ∀ f ∈ fields, P f.2) (fun f => P f.2)
    null bool num str arr obj (List.forall_mem_nil _) ?_ (List.forall_mem_nil _) ?_ ?_ j
  · intro head tail hhead htail
    exact List.forall_mem_cons.mpr ⟨hhead, htail⟩
  · intro head tail hhead htail
    exact List.forall_mem_cons.mpr ⟨hhead, htail⟩
  · intro key value hvalue
    exact hvalue

end Induction

section Fold

variable {β : Type}

mutual

/-- What a walk makes of a value. An object also shows the values of its members. -/
def fold (scalar : Json → β) (arr : List β → β) (obj : List (String × Json × β) → β) : Json → β
  | .arr items => arr (foldItems scalar arr obj items)
  | .obj fields => obj (foldFields scalar arr obj fields)
  | j => scalar j

def foldItems (scalar : Json → β) (arr : List β → β) (obj : List (String × Json × β) → β) : List Json → List β
  | [] => []
  | j :: rest => fold scalar arr obj j :: foldItems scalar arr obj rest

def foldFields (scalar : Json → β) (arr : List β → β) (obj : List (String × Json × β) → β) :
    List (String × Json) → List (String × Json × β)
  | [] => []
  | (k, j) :: rest => (k, j, fold scalar arr obj j) :: foldFields scalar arr obj rest

end

variable {scalar : Json → β} {arr : List β → β} {obj : List (String × Json × β) → β}

lemma foldItems_eq (items : List Json) : foldItems scalar arr obj items = items.map (fold scalar arr obj) := by
  induction items with
  | nil => rfl
  | cons j rest ih => rw [foldItems, ih, List.map_cons]

lemma foldFields_eq (fields : List (String × Json)) :
    foldFields scalar arr obj fields = fields.map fun f => (f.1, f.2, fold scalar arr obj f.2) := by
  induction fields with
  | nil => rfl
  | cons f rest ih => rw [foldFields, ih, List.map_cons]

lemma fold_arr (items : List Json) : fold scalar arr obj (.arr items) = arr (items.map (fold scalar arr obj)) := by
  rw [fold, foldItems_eq]

lemma fold_obj (fields : List (String × Json)) :
    fold scalar arr obj (.obj fields) = obj (fields.map fun f => (f.1, f.2, fold scalar arr obj f.2)) := by
  rw [fold, foldFields_eq]

end Fold

section Walks

/-- The strings of a value at every depth. Names of members are not among them. -/
def strings : Json → List String :=
  fold (fun j => match j with | .str s => [s] | _ => []) List.flatten fun fields => fields.flatMap fun f => f.2.2

/-- The members of the objects of a value at every depth. -/
def members : Json → List (String × Json) :=
  fold (fun _ => []) List.flatten fun fields => fields.flatMap fun f => (f.1, f.2.1) :: f.2.2

/-- The shape of a value: the lengths of its arrays and the names in its objects. What stands under a name of `leaf` does
not belong to it. -/
def shape (leaf : String → Bool) : Json → Json :=
  fold (fun _ => .null) .arr fun fields => .obj (fields.map fun f => (f.1, if leaf f.1 then .null else f.2.2))

/-- A character in a quoted string of `jsonb`. -/
def escapeChar (c : Char) : List Char :=
  if c = '"' then "\\\"".toList
  else if c = '\\' then "\\\\".toList
  else if c = '\n' then "\\n".toList
  else if c = '\r' then "\\r".toList
  else if c = '\t' then "\\t".toList
  else if c.toNat = 8 then "\\b".toList
  else if c.toNat = 12 then "\\f".toList
  else if c.toNat < 32 then "\\u00".toList ++ [Nat.digitChar (c.toNat / 16), Nat.digitChar (c.toNat % 16)]
  else [c]

def quoted (s : String) : List Char := '"' :: (s.toList.flatMap escapeChar ++ ['"'])

/-- `payload::text`. -/
def jsonbText : Json → List Char :=
  fold
    (fun j => match j with
      | .bool b => (if b then "true" else "false").toList
      | .num n => (toString n).toList
      | .str s => quoted s
      | _ => "null".toList)
    (fun items => '[' :: (", ".toList.intercalate items ++ [']']))
    (fun fields => '\x7b' :: (", ".toList.intercalate (fields.map fun f => quoted f.1 ++ ": ".toList ++ f.2.2) ++ ['\x7d']))

variable {s key : String} {v : Json} {items : List Json} {fields : List (String × Json)}

lemma strings_str (t : String) : strings (.str t) = [t] := rfl

lemma mem_strings_arr : s ∈ strings (.arr items) ↔ ∃ j ∈ items, s ∈ strings j := by
  simp [strings, fold_arr]

lemma mem_strings_obj : s ∈ strings (.obj fields) ↔ ∃ f ∈ fields, s ∈ strings f.2 := by
  simp only [strings, fold_obj, List.flatMap_map, List.mem_flatMap]

lemma mem_of_lookup (h : lookup key fields = some v) : (key, v) ∈ fields := by
  induction fields with
  | nil => cases h
  | cons f rest ih =>
    rw [lookup, List.lookup_cons] at h
    split at h
    next heq =>
      rw [beq_iff_eq] at heq
      cases h
      exact heq ▸ List.mem_cons_self
    next => exact List.mem_cons_of_mem f (ih h)

lemma mem_strings_of_text {j : Json} (h : text key j = some s) : s ∈ strings j := by
  cases j with
  | obj fields =>
    simp only [text] at h
    split at h
    next t heq =>
      cases h
      exact mem_strings_obj.mpr ⟨_, mem_of_lookup heq, List.mem_singleton_self s⟩
    next => cases h
  | null | bool | num | str | arr => cases h

lemma mem_members_arr : (key, v) ∈ members (.arr items) ↔ ∃ j ∈ items, (key, v) ∈ members j := by
  simp [members, fold_arr]

lemma mem_members_obj : (key, v) ∈ members (.obj fields) ↔ ∃ f ∈ fields, (key, v) = f ∨ (key, v) ∈ members f.2 := by
  simp only [members, fold_obj, List.flatMap_map, List.mem_flatMap, List.mem_cons]

lemma shape_arr (leaf : String → Bool) : shape leaf (.arr items) = .arr (items.map (shape leaf)) := fold_arr items

lemma shape_obj (leaf : String → Bool) :
    shape leaf (.obj fields) = .obj (fields.map fun f => (f.1, if leaf f.1 then .null else shape leaf f.2)) := by
  rw [shape, fold_obj, List.map_map]
  rfl

lemma jsonbText_arr : jsonbText (.arr items) = '[' :: (", ".toList.intercalate (items.map jsonbText) ++ [']']) := fold_arr items

lemma jsonbText_obj :
    jsonbText (.obj fields) = '\x7b' :: (", ".toList.intercalate
      (fields.map fun f => quoted f.1 ++ ": ".toList ++ jsonbText f.2) ++ ['\x7d']) := by
  rw [jsonbText, fold_obj, List.map_map]
  rfl

end Walks

section Text

variable {α : Type}

lemma mem_intersperse {x sep : α} {l : List α} (h : x ∈ l) : x ∈ l.intersperse sep := by
  obtain ⟨i, hi⟩ := List.mem_iff_getElem?.mp h
  exact List.mem_iff_getElem?.mpr ⟨2 * i, by rw [List.getElem?_intersperse_two_mul, hi]⟩

lemma infix_intercalate {part sep : List α} {parts : List (List α)} (h : part ∈ parts) : part <:+: sep.intercalate parts :=
  List.infix_of_mem_flatten (mem_intersperse h)

/-- A part of a text between two ends. -/
lemma infix_enclosed {part l : List α} (open' close : α) (h : part <:+: l) : part <:+: open' :: (l ++ [close]) :=
  (h.trans (List.infix_append [] l [close])).trans (List.suffix_cons open' _).isInfix

/-- A string that needs no escapes is a part of the text of every value that holds it. -/
lemma infix_jsonbText {s : String} {j : Json} (hplain : ∀ c ∈ s.toList, escapeChar c = [c]) (h : s ∈ strings j) :
    s.toList <:+: jsonbText j := by
  induction j using induct with
  | null => cases h
  | bool b => cases h
  | num n => cases h
  | str t =>
    rw [strings_str, List.mem_singleton] at h
    subst h
    have htext : s.toList.flatMap escapeChar = s.toList := by
      rw [List.flatMap_congr hplain, List.flatMap_singleton']
    change s.toList <:+: '"' :: (s.toList.flatMap escapeChar ++ ['"'])
    rw [htext]
    exact infix_enclosed _ _ List.infix_rfl
  | arr items ih =>
    obtain ⟨j, hj, hs⟩ := mem_strings_arr.mp h
    rw [jsonbText_arr]
    refine infix_enclosed _ _ ((ih j hj hs).trans ?_)
    exact infix_intercalate (List.mem_map_of_mem hj)
  | obj fields ih =>
    obtain ⟨f, hf, hs⟩ := mem_strings_obj.mp h
    rw [jsonbText_obj]
    refine infix_enclosed _ _ ((ih f hf hs).trans ?_)
    have hpart : jsonbText f.2 <:+: quoted f.1 ++ ": ".toList ++ jsonbText f.2 := (List.suffix_append _ _).isInfix
    exact hpart.trans (infix_intercalate (List.mem_map.mpr ⟨f, hf, rfl⟩))

end Text

section Replace

variable {original replacement s : String}

lemma replaceExact_arr (items : List Json) :
    replaceExact original replacement (.arr items) = .arr (items.map (replaceExact original replacement)) := by
  rw [replaceExact]
  congr 1
  induction items with
  | nil => rfl
  | cons j rest ih => rw [replaceItems, ih, List.map_cons]

lemma replaceExact_obj (fields : List (String × Json)) :
    replaceExact original replacement (.obj fields) =
      .obj (fields.map fun f => (f.1, replaceExact original replacement f.2)) := by
  rw [replaceExact]
  congr 1
  induction fields with
  | nil => rfl
  | cons f rest ih => rw [replaceFields, ih, List.map_cons]

lemma itemsHaveExact_eq (items : List Json) : itemsHaveExact original items = items.any (hasExact original) := by
  induction items with
  | nil => rfl
  | cons j rest ih => rw [itemsHaveExact, ih, List.any_cons]

lemma fieldsHaveExact_eq (fields : List (String × Json)) :
    fieldsHaveExact original fields = fields.any fun f => hasExact original f.2 := by
  induction fields with
  | nil => rfl
  | cons f rest ih => rw [fieldsHaveExact, ih, List.any_cons]

lemma hasExact_iff (j : Json) : hasExact original j = true ↔ original ∈ strings j := by
  induction j using induct with
  | null => simp [hasExact, strings, fold]
  | bool b => simp [hasExact, strings, fold]
  | num n => simp [hasExact, strings, fold]
  | str t => rw [strings_str, List.mem_singleton, hasExact, decide_eq_true_eq, eq_comm]
  | arr items ih =>
    rw [hasExact, itemsHaveExact_eq, List.any_eq_true, mem_strings_arr]
    exact exists_congr fun j => and_congr_right fun hj => ih j hj
  | obj fields ih =>
    rw [hasExact, fieldsHaveExact_eq, List.any_eq_true, mem_strings_obj]
    exact exists_congr fun f => and_congr_right fun hf => ih f hf

/-- The original is gone, and nothing but the replacement is new. -/
lemma mem_strings_replaceExact {j : Json} (h : s ∈ strings (replaceExact original replacement j)) :
    s ∈ strings j ∧ s ≠ original ∨ s = replacement := by
  induction j using induct with
  | null => cases h
  | bool b => cases h
  | num n => cases h
  | str t =>
    rw [replaceExact, strings_str, List.mem_singleton] at h
    split_ifs at h with heq
    · exact .inr h
    · exact .inl ⟨by rw [h]; exact List.mem_singleton_self t, by rw [h]; exact heq⟩
  | arr items ih =>
    rw [replaceExact_arr, mem_strings_arr] at h
    obtain ⟨j', hj', hs⟩ := h
    obtain ⟨j, hj, rfl⟩ := List.mem_map.mp hj'
    rcases ih j hj hs with hold | hnew
    · exact .inl ⟨mem_strings_arr.mpr ⟨j, hj, hold.1⟩, hold.2⟩
    · exact .inr hnew
  | obj fields ih =>
    rw [replaceExact_obj, mem_strings_obj] at h
    obtain ⟨f', hf', hs⟩ := h
    obtain ⟨f, hf, rfl⟩ := List.mem_map.mp hf'
    rcases ih f hf hs with hold | hnew
    · exact .inl ⟨mem_strings_obj.mpr ⟨f, hf, hold.1⟩, hold.2⟩
    · exact .inr hnew

lemma mem_members_replaceExact {key : String} {v j : Json} (h : (key, v) ∈ members (replaceExact original replacement j)) :
    ∃ u, (key, u) ∈ members j ∧ v = replaceExact original replacement u := by
  induction j using induct with
  | null => cases h
  | bool b => cases h
  | num n => cases h
  | str t => cases h
  | arr items ih =>
    rw [replaceExact_arr, mem_members_arr] at h
    obtain ⟨j', hj', hmem⟩ := h
    obtain ⟨j, hj, rfl⟩ := List.mem_map.mp hj'
    obtain ⟨u, hu, hv⟩ := ih j hj hmem
    exact ⟨u, mem_members_arr.mpr ⟨j, hj, hu⟩, hv⟩
  | obj fields ih =>
    rw [replaceExact_obj, mem_members_obj] at h
    obtain ⟨f', hf', hmem⟩ := h
    obtain ⟨f, hf, rfl⟩ := List.mem_map.mp hf'
    rcases hmem with hself | hbelow
    · obtain ⟨rfl, rfl⟩ := Prod.mk.inj hself
      exact ⟨f.2, mem_members_obj.mpr ⟨f, hf, .inl rfl⟩, rfl⟩
    · obtain ⟨u, hu, hv⟩ := ih f hf hbelow
      exact ⟨u, mem_members_obj.mpr ⟨f, hf, .inr hu⟩, hv⟩

lemma shape_replaceExact (leaf : String → Bool) (j : Json) :
    shape leaf (replaceExact original replacement j) = shape leaf j := by
  induction j using induct with
  | null => rfl
  | bool b => rfl
  | num n => rfl
  | str t => rfl
  | arr items ih =>
    rw [replaceExact_arr, shape_arr, shape_arr, List.map_map]
    exact congrArg Json.arr (List.map_congr_left ih)
  | obj fields ih =>
    rw [replaceExact_obj, shape_obj, shape_obj, List.map_map]
    refine congrArg Json.obj (List.map_congr_left fun f hf => ?_)
    rw [Function.comp_apply, ih f hf]

end Replace

section Override

variable {rule : String → Option Json} {s key : String} {v w : Json}

lemma override_arr (items : List Json) : override rule (.arr items) = .arr (items.map (override rule)) := by
  rw [override]
  congr 1
  induction items with
  | nil => rfl
  | cons j rest ih => rw [overrideItems, ih, List.map_cons]

lemma override_obj (fields : List (String × Json)) :
    override rule (.obj fields) = .obj (fields.map fun f => (f.1, (rule f.1).getD (override rule f.2))) := by
  rw [override]
  congr 1
  induction fields with
  | nil => rfl
  | cons f rest ih => rw [overrideFields, ih, List.map_cons]

/-- The strings that are new come from the rule. -/
lemma mem_strings_override {j : Json} (h : s ∈ strings (override rule j)) :
    s ∈ strings j ∨ ∃ key v, rule key = some v ∧ s ∈ strings v := by
  induction j using induct with
  | null => cases h
  | bool b => cases h
  | num n => cases h
  | str t => exact .inl h
  | arr items ih =>
    rw [override_arr, mem_strings_arr] at h
    obtain ⟨j', hj', hs⟩ := h
    obtain ⟨j, hj, rfl⟩ := List.mem_map.mp hj'
    exact (ih j hj hs).imp_left fun hold => mem_strings_arr.mpr ⟨j, hj, hold⟩
  | obj fields ih =>
    rw [override_obj, mem_strings_obj] at h
    obtain ⟨f', hf', hs⟩ := h
    obtain ⟨f, hf, rfl⟩ := List.mem_map.mp hf'
    cases hrule : rule f.1 with
    | some v =>
      rw [hrule, Option.getD_some] at hs
      exact .inr ⟨f.1, v, hrule, hs⟩
    | none =>
      rw [hrule, Option.getD_none] at hs
      exact (ih f hf hs).imp_left fun hold => mem_strings_obj.mpr ⟨f, hf, hold⟩

/-- Every member that the rule is about has the value of the rule, if the values of the rule have no members. -/
lemma mem_members_override (hrule : ∀ key v, rule key = some v → members v = []) {j : Json}
    (h : (key, v) ∈ members (override rule j)) (hw : rule key = some w) : v = w := by
  induction j using induct with
  | null => cases h
  | bool b => cases h
  | num n => cases h
  | str t => cases h
  | arr items ih =>
    rw [override_arr, mem_members_arr] at h
    obtain ⟨j', hj', hmem⟩ := h
    obtain ⟨j, hj, rfl⟩ := List.mem_map.mp hj'
    exact ih j hj hmem
  | obj fields ih =>
    rw [override_obj, mem_members_obj] at h
    obtain ⟨f', hf', hmem⟩ := h
    obtain ⟨f, hf, rfl⟩ := List.mem_map.mp hf'
    rcases hmem with hself | hbelow
    · obtain ⟨rfl, rfl⟩ := Prod.mk.inj hself
      rw [hw, Option.getD_some]
    · cases hset : rule f.1 with
      | some u =>
        rw [hset, Option.getD_some, hrule _ _ hset] at hbelow
        cases hbelow
      | none =>
        rw [hset, Option.getD_none] at hbelow
        exact ih f hf hbelow

/-- The shape is kept if the values that the rule takes away have none, or do not belong to it. -/
lemma shape_override {leaf : String → Bool} (hrule : ∀ key v, rule key = some v → shape leaf v = .null) {j : Json}
    (hj : ∀ key v, (key, v) ∈ members j → rule key ≠ none → leaf key = true ∨ shape leaf v = .null) :
    shape leaf (override rule j) = shape leaf j := by
  induction j using induct with
  | null => rfl
  | bool b => rfl
  | num n => rfl
  | str t => rfl
  | arr items ih =>
    rw [override_arr, shape_arr, shape_arr, List.map_map]
    refine congrArg Json.arr (List.map_congr_left fun j hmem => ih j hmem fun key v hv => ?_)
    exact hj key v (mem_members_arr.mpr ⟨j, hmem, hv⟩)
  | obj fields ih =>
    rw [override_obj, shape_obj, shape_obj, List.map_map]
    refine congrArg Json.obj (List.map_congr_left fun f hf => ?_)
    rw [Function.comp_apply]
    cases hset : rule f.1 with
    | some v =>
      rw [Option.getD_some, hrule _ _ hset, ite_self]
      rcases hj f.1 f.2 (mem_members_obj.mpr ⟨f, hf, .inl rfl⟩) (by simp [hset]) with hleaf | hnull
      · rw [if_pos hleaf]
      · rw [hnull, ite_self]
    | none => rw [Option.getD_none, ih f hf fun key v hv => hj key v (mem_members_obj.mpr ⟨f, hf, .inr hv⟩)]

end Override

end JamyeServer.Json
