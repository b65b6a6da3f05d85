import Mathlib.Data.List.Basic

/-!
# JSON values

JSON as PostgreSQL keeps it and `serde` reads it: the members of an object have different names, and a member can be
replaced in place.
-/

namespace JamyeServer

inductive Json
  | null
  | bool (value : Bool)
  | num (value : Int)
  | str (value : String)
  | arr (items : List Json)
  | obj (fields : List (String × Json))

namespace Json

section Members

def lookup (key : String) (fields : List (String × Json)) : Option Json := List.lookup key fields

/-- Replaces the member, or adds it. -/
def setField (key : String) (value : Json) : List (String × Json) → List (String × Json)
  | [] => [(key, value)]
  | (k, v) :: rest => if k = key then (k, value) :: rest else (k, v) :: setField key value rest

/-- `jsonb_set(target, path, value, true)` for a path of member names: all but the last must be there. -/
def jsonbSet (value : Json) : List String → Json → Json
  | [key], .obj fields => .obj (setField key value fields)
  | key :: path, .obj fields =>
    match lookup key fields with
    | some inner => .obj (setField key (jsonbSet value path inner) fields)
    | none => .obj fields
  | _, target => target

/-- `target ->> key`. -/
def text (key : String) : Json → Option String
  | .obj fields => match lookup key fields with
    | some (.str s) => some s
    | _ => none
  | _ => none

end Members

section Strings

mutual

/-- Replaces every string that is exactly the original. -/
def replaceExact (original replacement : String) : Json → Json
  | .str s => .str (if s = original then replacement else s)
  | .arr items => .arr (replaceItems original replacement items)
  | .obj fields => .obj (replaceFields original replacement fields)
  | j => j

def replaceItems (original replacement : String) : List Json → List Json
  | [] => []
  | j :: rest => replaceExact original replacement j :: replaceItems original replacement rest

def replaceFields (original replacement : String) : List (String × Json) → List (String × Json)
  | [] => []
  | (k, j) :: rest => (k, replaceExact original replacement j) :: replaceFields original replacement rest

end

mutual

/-- Some string is exactly the original. -/
def hasExact (original : String) : Json → Bool
  | .str s => decide (s = original)
  | .arr items => itemsHaveExact original items
  | .obj fields => fieldsHaveExact original fields
  | _ => false

def itemsHaveExact (original : String) : List Json → Bool
  | [] => false
  | j :: rest => hasExact original j || itemsHaveExact original rest

def fieldsHaveExact (original : String) : List (String × Json) → Bool
  | [] => false
  | (_, j) :: rest => hasExact original j || fieldsHaveExact original rest

end

mutual

/-- Sets every member whose name `rule` gives a value for, at any depth. -/
def override (rule : String → Option Json) : Json → Json
  | .arr items => .arr (overrideItems rule items)
  | .obj fields => .obj (overrideFields rule fields)
  | j => j

def overrideItems (rule : String → Option Json) : List Json → List Json
  | [] => []
  | j :: rest => override rule j :: overrideItems rule rest

def overrideFields (rule : String → Option Json) : List (String × Json) → List (String × Json)
  | [] => []
  | (k, j) :: rest => (k, (rule k).getD (override rule j)) :: overrideFields rule rest

end

lemma replaceItems_map {α : Type} {original replacement : String} {f g : α → Json} (items : List α)
    (h : ∀ a, replaceExact original replacement (f a) = g a) :
    replaceItems original replacement (items.map f) = items.map g := by
  induction items with
  | nil => rfl
  | cons a rest ih => simp [replaceItems, h, ih]

lemma overrideItems_map {α : Type} {rule : String → Option Json} {f : α → Json} (items : List α)
    (h : ∀ a, override rule (f a) = f a) : overrideItems rule (items.map f) = items.map f := by
  induction items with
  | nil => rfl
  | cons a rest ih => simp [overrideItems, h, ih]

/-- A rule that sets no member changes the values only. -/
lemma overrideFields_of_keys {rule : String → Option Json} {fields : List (String × Json)}
    (h : ∀ key ∈ fields.map Prod.fst, rule key = none) :
    overrideFields rule fields = fields.map fun f => (f.1, override rule f.2) := by
  induction fields with
  | nil => rfl
  | cons f rest ih =>
    simp only [List.map_cons, List.mem_cons, forall_eq_or_imp] at h
    rw [List.map_cons, ← ih h.2]
    simp [overrideFields, h.1]

end Strings

section Decoding

variable {α : Type}

/-- `deny_unknown_fields`. -/
def known (keys : List String) (fields : List (String × Json)) : Bool := fields.all fun f => decide (f.1 ∈ keys)

def requiredField (decode : Json → Option α) (key : String) (fields : List (String × Json)) : Option α :=
  (lookup key fields).bind decode

/-- An `Option` member: absent and null are the same. -/
def optionalField (decode : Json → Option α) (key : String) (fields : List (String × Json)) : Option (Option α) :=
  match lookup key fields with
  | none => some none
  | some .null => some none
  | some j => (decode j).map some

def string : Json → Option String
  | .str s => some s
  | _ => none

/-- An unsigned integer below the bound. -/
def natural (bound : Nat) : Json → Option Nat
  | .num n => if 0 ≤ n ∧ n < bound then some n.toNat else none
  | _ => none

/-- The string of an enumeration with one variant. -/
def tag (name : String) : Json → Option Unit
  | .str s => if s = name then some () else none
  | _ => none

def array (decode : Json → Option α) : Json → Option (List α)
  | .arr items => items.mapM decode
  | _ => none

/-- `null` stands for `none`. -/
def ofOption (f : α → Json) : Option α → Json
  | none => .null
  | some a => f a

lemma mapM_map {f : α → Json} {decode : Json → Option α} (items : List α) (h : ∀ a ∈ items, decode (f a) = some a) :
    (items.map f).mapM decode = some items := by
  induction items with
  | nil => rfl
  | cons a rest ih =>
    simp [h a List.mem_cons_self, ih fun b hb => h b (List.mem_cons_of_mem _ hb)]

lemma natural_num {bound n : Nat} (h : n < bound) : natural bound (.num n) = some n := by
  simp [natural, h]

lemma optional_ofOption {decode : Json → Option α} {f : α → Json} {key : String} {fields : List (String × Json)}
    {value : Option α} (hfield : lookup key fields = some (ofOption f value)) (hnull : ∀ a, f a ≠ .null)
    (hdecode : ∀ a, value = some a → decode (f a) = some a) : optionalField decode key fields = some value := by
  cases value with
  | none => simp [optionalField, hfield, ofOption]
  | some a =>
    simp only [optionalField, hfield, ofOption]
    have hnn := hnull a
    have hd := hdecode a rfl
    revert hnn hd
    cases f a <;> simp

lemma required_of_lookup {decode : Json → Option α} {key : String} {fields : List (String × Json)} {j : Json} {a : α}
    (hfield : lookup key fields = some j) (hdecode : decode j = some a) : requiredField decode key fields = some a := by
  simp [requiredField, hfield, hdecode]

lemma optional_string {key : String} {fields : List (String × Json)} {value : Option String}
    (hfield : lookup key fields = some (ofOption .str value)) : optionalField string key fields = some value :=
  optional_ofOption hfield (fun _ h => by cases h) fun _ _ => rfl

lemma required_string {key : String} {fields : List (String × Json)} {text : String}
    (hfield : lookup key fields = some (.str text)) : requiredField string key fields = some text :=
  required_of_lookup hfield rfl

end Decoding

end Json

end JamyeServer
