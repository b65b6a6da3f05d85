import JamyeServer.Contracts.Manifest
import JamyeServer.Escaping
import JamyeServer.Framing

/-!
# Canonical JSON

`canonical_json` over all values of `serde_json`, whose numbers are a parameter. What `serde_json` writes for strings and
numbers is valid JSON and different for different ones.
-/

namespace JamyeServer.Contracts

open Framing Keyset

section Values

/-- `serde_json::Value` over its numbers. -/
inductive Value (N : Type)
  | null
  | bool (value : Bool)
  | number (n : N)
  | string (s : String)
  | array (items : List (Value N))
  | object (members : List (String × Value N))

variable {N : Type}

/-- Induction on a value, with the hypothesis for every item of an array and every member of an object. -/
@[elab_as_elim]
theorem Value.induct {P : Value N → Prop} (null : P .null) (bool : ∀ b, P (.bool b)) (number : ∀ n, P (.number n))
    (string : ∀ s, P (.string s)) (array : ∀ items, (∀ v ∈ items, P v) → P (.array items))
    (object : ∀ members, (∀ m ∈ members, P m.2) → P (.object members)) (v : Value N) : P v := by
  refine @Value.rec N P (fun items => ∀ v ∈ items, P v) (fun members => ∀ m ∈ members, P m.2) (fun m => P m.2)
    null bool number string array object (List.forall_mem_nil _) ?_ (List.forall_mem_nil _) ?_ ?_ v
  · intro head tail hhead htail
    exact List.forall_mem_cons.mpr ⟨hhead, htail⟩
  · intro head tail hhead htail
    exact List.forall_mem_cons.mpr ⟨hhead, htail⟩
  · intro key value hvalue
    exact hvalue

/-- Every object has each of its keys once, as a `serde_json::Map` does. -/
inductive Value.Distinct : Value N → Prop
  | null : Distinct .null
  | bool (b : Bool) : Distinct (.bool b)
  | number (n : N) : Distinct (.number n)
  | string (s : String) : Distinct (.string s)
  | array {items : List (Value N)} (items_distinct : ∀ v ∈ items, Distinct v) : Distinct (.array items)
  | object {members : List (String × Value N)} (keys : (members.map Prod.fst).Nodup)
      (members_distinct : ∀ m ∈ members, Distinct m.2) : Distinct (.object members)

/-- Equal up to the order of the keys of objects. -/
inductive Value.Same : Value N → Value N → Prop
  | null : Same .null .null
  | bool (b : Bool) : Same (.bool b) (.bool b)
  | number (n : N) : Same (.number n) (.number n)
  | string (s : String) : Same (.string s) (.string s)
  | array {items items' : List (Value N)} (length : items.length = items'.length)
      (same : ∀ i (h : i < items.length) (h' : i < items'.length), Same items[i] items'[i]) : Same (.array items) (.array items')
  | object {members members' : List (String × Value N)} (keys : (members.map Prod.fst).Perm (members'.map Prod.fst))
      (same : ∀ key v v', (key, v) ∈ members → (key, v') ∈ members' → Same v v') : Same (.object members) (.object members')

end Values

section Writer

/-- The bytes of a JSON number behind its first. -/
def numberBytes : Bytes := utf8 "0123456789+-.eE"

/-- What `serde_json` writes for numbers and strings: different texts for different ones, a number that starts with its
sign or a digit, and a string between quotes whose own quotes are escaped. -/
structure Writer (N : Type) where
  number : N → Bytes
  string : String → Bytes
  number_injective : Function.Injective number
  string_injective : Function.Injective string
  number_valid : ∀ n, ∃ first rest, number n = first :: rest ∧ first ∈ utf8 "-0123456789" ∧ ∀ b ∈ rest, b ∈ numberBytes
  string_valid : ∀ s, ∃ body, string s = 34 :: (body ++ [34]) ∧ Escaping.Escaped 92 [34, 92] body

variable {N : Type} (W : Writer N)

mutual

/-- `canonical_json`. -/
def canonical : Value N → Bytes
  | .null => utf8 "null"
  | .bool b => utf8 (if b then "true" else "false")
  | .number n => W.number n
  | .string s => W.string s
  | .array items => 91 :: (separated 44 (canonicalValues items) ++ [93])
  | .object members =>
    123 :: (separated 44 ((sorted Prod.fst (canonicalMembers members)).map fun m => W.string m.1 ++ 58 :: m.2) ++ [125])

def canonicalValues : List (Value N) → List Bytes
  | [] => []
  | v :: rest => canonical v :: canonicalValues rest

def canonicalMembers : List (String × Value N) → List (String × Bytes)
  | [] => []
  | (key, v) :: rest => (key, canonical v) :: canonicalMembers rest

end

lemma canonicalValues_eq (items : List (Value N)) : canonicalValues W items = items.map (canonical W) := by
  induction items with
  | nil => rfl
  | cons v rest ih => rw [canonicalValues, ih, List.map_cons]

lemma canonicalMembers_eq (members : List (String × Value N)) :
    canonicalMembers W members = members.map fun m => (m.1, canonical W m.2) := by
  induction members with
  | nil => rfl
  | cons m rest ih => rw [canonicalMembers, ih, List.map_cons]

lemma canonical_array (items : List (Value N)) :
    canonical W (.array items) = 91 :: (separated 44 (items.map (canonical W)) ++ [93]) := by
  rw [canonical, canonicalValues_eq]

/-- A member as it is written. -/
def memberBytes (m : String × Value N) : Bytes := W.string m.1 ++ 58 :: canonical W m.2

lemma canonical_object (members : List (String × Value N)) :
    canonical W (.object members) = 123 :: (separated 44 ((sorted Prod.fst members).map (memberBytes W)) ++ [125]) := by
  have hsorted : sorted Prod.fst (members.map fun m => (m.1, canonical W m.2)) =
      (sorted Prod.fst members).map fun m => (m.1, canonical W m.2) := sorted_map (fun _ => rfl) members
  rw [canonical, canonicalMembers_eq, hsorted, List.map_map]
  rfl

end Writer

section Reading

variable {N : Type} (W : Writer N)

/-- What can follow a value: a comma, or the end of an array or an object. -/
def valueStops : Bytes := [44, 93, 125]

/-- A string is told from what follows by its first quote that is not escaped. -/
lemma string_append_inj {s s' : String} {rest rest' : Bytes} (h : W.string s ++ rest = W.string s' ++ rest') :
    s = s' ∧ rest = rest' := by
  obtain ⟨body, hbody, hescaped⟩ := W.string_valid s
  obtain ⟨body', hbody', hescaped'⟩ := W.string_valid s'
  have hfirst : Escaping.firstUnescaped 92 34 false (body ++ 34 :: rest) = some body.length :=
    Escaping.firstUnescaped_append List.mem_cons_self (by decide) hescaped rest
  have hfirst' : Escaping.firstUnescaped 92 34 false (body' ++ 34 :: rest') = some body'.length :=
    Escaping.firstUnescaped_append List.mem_cons_self (by decide) hescaped' rest'
  rw [hbody, hbody'] at h
  simp only [List.cons_append, List.append_assoc, List.nil_append, List.cons.injEq, true_and] at h
  rw [h, hfirst', Option.some.injEq] at hfirst
  obtain ⟨rfl, htail⟩ := List.append_inj h hfirst.symm
  refine ⟨W.string_injective (by rw [hbody, hbody']), List.tail_eq_of_cons_eq htail⟩

/-- What the first byte of a value tells. -/
inductive Kind
  | null | yes | no | number | string | array | object
  deriving DecidableEq

def Value.kind : Value N → Kind
  | .null => .null
  | .bool b => if b then .yes else .no
  | .number _ => .number
  | .string _ => .string
  | .array _ => .array
  | .object _ => .object

def Kind.heads : Kind → Bytes
  | .null => utf8 "n"
  | .yes => utf8 "t"
  | .no => utf8 "f"
  | .number => utf8 "-0123456789"
  | .string => [34]
  | .array => [91]
  | .object => [123]

lemma Kind.eq_of_mem_heads {k k' : Kind} {b : UInt8} (h : b ∈ k.heads) (h' : b ∈ k'.heads) : k = k' := by
  have hall : ∀ b ∈ k.heads, b ∈ k'.heads → k = k' := by
    cases k <;> cases k' <;> decide +kernel
  exact hall b h h'

lemma Kind.heads_not_stop {k : Kind} {b : UInt8} (h : b ∈ k.heads) : b ∉ valueStops := by
  have hall : ∀ b ∈ k.heads, b ∉ valueStops := by
    cases k <;> decide +kernel
  exact hall b h

lemma canonical_head (v : Value N) : ∃ first rest, canonical W v = first :: rest ∧ first ∈ v.kind.heads := by
  cases v with
  | null => exact ⟨110, utf8 "ull", rfl, List.mem_cons_self⟩
  | bool b =>
    cases b with
    | true => exact ⟨116, utf8 "rue", rfl, List.mem_cons_self⟩
    | false => exact ⟨102, utf8 "alse", rfl, List.mem_cons_self⟩
  | number n =>
    obtain ⟨first, rest, hnumber, hfirst, -⟩ := W.number_valid n
    exact ⟨first, rest, by rw [canonical, hnumber], hfirst⟩
  | string s =>
    obtain ⟨body, hbody, -⟩ := W.string_valid s
    exact ⟨34, _, by rw [canonical, hbody], List.mem_cons_self⟩
  | array items => exact ⟨91, _, canonical_array W items, List.mem_cons_self⟩
  | object members => exact ⟨123, _, canonical_object W members, List.mem_cons_self⟩

lemma canonical_starts (v : Value N) : Starts valueStops (canonical W v) := by
  obtain ⟨first, rest, hcanonical, hfirst⟩ := canonical_head W v
  exact ⟨first, rest, hcanonical, Kind.heads_not_stop hfirst⟩

/-- Texts that start alike are of values of one kind. -/
lemma kind_eq {v v' : Value N} {rest rest' : Bytes} (h : canonical W v ++ rest = canonical W v' ++ rest') : v.kind = v'.kind := by
  obtain ⟨first, tail, hv, hfirst⟩ := canonical_head W v
  obtain ⟨first', tail', hv', hfirst'⟩ := canonical_head W v'
  rw [hv, hv', List.cons_append, List.cons_append, List.cons.injEq] at h
  exact Kind.eq_of_mem_heads hfirst (h.1 ▸ hfirst')

lemma number_append_inj {n n' : N} {rest rest' : Bytes} (hrest : Stops valueStops rest) (hrest' : Stops valueStops rest')
    (h : W.number n ++ rest = W.number n' ++ rest') : n = n' ∧ rest = rest' := by
  have hbytes : ∀ m, ∀ b ∈ W.number m, b ∈ numberBytes := by
    intro m b hb
    obtain ⟨first, tail, hnumber, hfirst, htail⟩ := W.number_valid m
    have hsub : ∀ b ∈ utf8 "-0123456789", b ∈ numberBytes := by decide +kernel
    rw [hnumber, List.mem_cons] at hb
    rcases hb with rfl | hb
    · exact hsub b hfirst
    · exact htail b hb
  obtain ⟨hnumber, htail⟩ := append_stop_inj (hbytes n) (hbytes n') (by decide +kernel) hrest hrest' h
  exact ⟨W.number_injective hnumber, htail⟩

lemma starts_member (m : String × Value N) : Starts valueStops (memberBytes W m) := by
  obtain ⟨body, hbody, -⟩ := W.string_valid m.1
  exact ⟨34, _, by rw [memberBytes, hbody, List.cons_append], by decide⟩

/-- Lists of the same values, one by one. -/
lemma Value.Same.of_forall₂ {items items' : List (Value N)} (h : List.Forall₂ Value.Same items items') :
    Value.Same (.array items) (.array items') := by
  refine .array h.length_eq fun i hi hi' => ?_
  exact List.Forall₂.get h hi hi'

lemma forall₂_members {R : Value N → Value N → Prop} {members members' : List (String × Value N)}
    (h : List.Forall₂ (fun m m' => m.1 = m'.1 ∧ R m.2 m'.2) members members') :
    members.map Prod.fst = members'.map Prod.fst ∧ ∀ m ∈ members, ∃ m' ∈ members', m.1 = m'.1 ∧ R m.2 m'.2 := by
  induction h with
  | nil => exact ⟨rfl, List.forall_mem_nil _⟩
  | cons hm _ ih =>
    refine ⟨by rw [List.map_cons, List.map_cons, hm.1, ih.1], ?_⟩
    refine List.forall_mem_cons.mpr ⟨⟨_, List.mem_cons_self, hm⟩, fun m hmem => ?_⟩
    obtain ⟨m', hm', hR⟩ := ih.2 m hmem
    exact ⟨m', List.mem_cons_of_mem _ hm', hR⟩

/-- Objects whose members agree one by one once they are sorted. -/
lemma Value.Same.of_sorted {members members' : List (String × Value N)} (hnodup : (members'.map Prod.fst).Nodup)
    (h : List.Forall₂ (fun m m' => m.1 = m'.1 ∧ Value.Same m.2 m'.2) (sorted Prod.fst members) (sorted Prod.fst members')) :
    Value.Same (.object members) (.object members') := by
  obtain ⟨hkeys, hmembers⟩ := forall₂_members h
  refine .object ?_ ?_
  · have hperm : (sorted Prod.fst members).Perm members := List.perm_insertionSort _ members
    have hperm' : (sorted Prod.fst members').Perm members' := List.perm_insertionSort _ members'
    exact (hperm.map Prod.fst).symm.trans (hkeys ▸ hperm'.map Prod.fst)
  · intro key v v' hv hv'
    obtain ⟨m', hm', hkey, hsame⟩ := hmembers _ (mem_sorted.mpr hv)
    obtain rfl := List.inj_on_of_nodup_map hnodup (mem_sorted.mp hm') hv' hkey.symm
    exact hsame

/-- The values of each kind. -/
def Kind.Holds : Kind → Value N → Prop
  | .null, v => v = .null
  | .yes, v => v = .bool true
  | .no, v => v = .bool false
  | .number, v => ∃ n, v = .number n
  | .string, v => ∃ s, v = .string s
  | .array, v => ∃ items, v = .array items
  | .object, v => ∃ members, v = .object members

lemma Value.kind_holds (v : Value N) : v.kind.Holds v := by
  cases v with
  | null => rfl
  | bool b => cases b <;> rfl
  | number n => exact ⟨n, rfl⟩
  | string s => exact ⟨s, rfl⟩
  | array items => exact ⟨items, rfl⟩
  | object members => exact ⟨members, rfl⟩

lemma member_append_inj {m m' : String × Value N} {rest rest' : Bytes} {R : Value N → Value N → Prop}
    (hvalue : ∀ rest rest', Stops valueStops rest → Stops valueStops rest' →
      canonical W m.2 ++ rest = canonical W m'.2 ++ rest' → R m.2 m'.2 ∧ rest = rest')
    (hrest : Stops valueStops rest) (hrest' : Stops valueStops rest') (h : memberBytes W m ++ rest = memberBytes W m' ++ rest') :
    (m.1 = m'.1 ∧ R m.2 m'.2) ∧ rest = rest' := by
  rw [memberBytes, memberBytes, List.append_assoc, List.append_assoc] at h
  obtain ⟨hkey, htail⟩ := string_append_inj W h
  rw [List.cons_append, List.cons_append, List.cons.injEq] at htail
  obtain ⟨hR, hend⟩ := hvalue rest rest' hrest hrest' htail.2
  exact ⟨⟨hkey, hR⟩, hend⟩

/-- The text of a value, with what follows it, tells the value up to the order of keys. -/
lemma canonical_append_inj {v w : Value N} (hv : v.Distinct) (hw : w.Distinct) {rest rest' : Bytes}
    (hrest : Stops valueStops rest) (hrest' : Stops valueStops rest') (h : canonical W v ++ rest = canonical W w ++ rest') :
    v.Same w ∧ rest = rest' := by
  have hkind := w.kind_holds
  rw [← kind_eq W h] at hkind
  induction v using Value.induct generalizing w rest rest' with
  | null =>
    obtain rfl : w = .null := hkind
    exact ⟨.null, List.append_cancel_left h⟩
  | bool b =>
    obtain rfl : w = .bool b := by cases b <;> exact hkind
    exact ⟨.bool b, List.append_cancel_left h⟩
  | number n =>
    obtain ⟨n', rfl⟩ := hkind
    rw [canonical, canonical] at h
    obtain ⟨rfl, hend⟩ := number_append_inj W hrest hrest' h
    exact ⟨.number n, hend⟩
  | string s =>
    obtain ⟨s', rfl⟩ := hkind
    rw [canonical, canonical] at h
    obtain ⟨rfl, hend⟩ := string_append_inj W h
    exact ⟨.string s, hend⟩
  | array items ih =>
    obtain ⟨items', rfl⟩ := hkind
    rw [canonical_array, canonical_array, List.cons_append, List.cons_append, List.cons.injEq, List.append_assoc,
      List.append_assoc] at h
    cases hv with
    | array hitems =>
      cases hw with
      | array hitems' =>
        have hitem : ∀ x ∈ items, ∀ y ∈ items', ∀ rest rest', Stops valueStops rest → Stops valueStops rest' →
            canonical W x ++ rest = canonical W y ++ rest' → x.Same y ∧ rest = rest' := by
          intro x hx y hy rest rest' hstop hstop' heq
          have hkind' := y.kind_holds
          rw [← kind_eq W heq] at hkind'
          exact ih x hx (hitems x hx) (hitems' y hy) hstop hstop' heq hkind'
        obtain ⟨hsame, hend⟩ := separated_inj (by decide) (by decide) (by decide) (fun x _ => canonical_starts W x)
          (fun y _ => canonical_starts W y) hitem h.2
        exact ⟨.of_forall₂ hsame, hend⟩
  | object members ih =>
    obtain ⟨members', rfl⟩ := hkind
    rw [canonical_object, canonical_object, List.cons_append, List.cons_append, List.cons.injEq, List.append_assoc,
      List.append_assoc] at h
    cases hv with
    | object hkeys hmembers =>
      cases hw with
      | object hkeys' hmembers' =>
        have hitem : ∀ m ∈ sorted Prod.fst members, ∀ m' ∈ sorted Prod.fst members', ∀ rest rest', Stops valueStops rest →
            Stops valueStops rest' → memberBytes W m ++ rest = memberBytes W m' ++ rest' →
            (m.1 = m'.1 ∧ m.2.Same m'.2) ∧ rest = rest' := by
          intro m hm m' hm' rest rest' hstop hstop' heq
          rw [mem_sorted] at hm hm'
          refine member_append_inj W (fun rest rest' hstop hstop' heq => ?_) hstop hstop' heq
          have hkind' := m'.2.kind_holds
          rw [← kind_eq W heq] at hkind'
          exact ih m hm (hmembers m hm) (hmembers' m' hm') hstop hstop' heq hkind'
        obtain ⟨hsame, hend⟩ := separated_inj (by decide) (by decide) (by decide) (fun m _ => starts_member W m)
          (fun m _ => starts_member W m) hitem h.2
        exact ⟨.of_sorted hkeys' hsame, hend⟩

/-- Values that are equal up to the order of keys have one text. -/
lemma canonical_of_same {v w : Value N} (hv : v.Distinct) (h : v.Same w) : canonical W v = canonical W w := by
  induction h with
  | null => rfl
  | bool b => rfl
  | number n => rfl
  | string s => rfl
  | @array items items' length same ih =>
    cases hv with
    | array hitems =>
      have hmap : items.map (canonical W) = items'.map (canonical W) := by
        refine List.ext_getElem (by rw [List.length_map, List.length_map, length]) fun i hi hi' => ?_
        rw [List.length_map] at hi hi'
        rw [List.getElem_map, List.getElem_map]
        exact ih i hi hi' (hitems _ (List.getElem_mem hi))
      rw [canonical_array, canonical_array, hmap]
  | @object members members' keys same ih =>
    cases hv with
    | object hkeys hmembers =>
      have hmem : ∀ a, a ∈ members.map (fun m => (m.1, canonical W m.2)) ↔ a ∈ members'.map fun m => (m.1, canonical W m.2) := by
        intro a
        constructor
        · intro ha
          obtain ⟨m, hm, rfl⟩ := List.mem_map.mp ha
          obtain ⟨m', hm', hkey⟩ := List.mem_map.mp (keys.mem_iff.mp (List.mem_map_of_mem hm))
          refine List.mem_map.mpr ⟨m', hm', ?_⟩
          rw [hkey, ih m.1 m.2 m'.2 hm (hkey ▸ hm') (hmembers m hm)]
        · intro ha
          obtain ⟨m', hm', rfl⟩ := List.mem_map.mp ha
          obtain ⟨m, hm, hkey⟩ := List.mem_map.mp (keys.mem_iff.mpr (List.mem_map_of_mem hm'))
          refine List.mem_map.mpr ⟨m, hm, ?_⟩
          rw [hkey, ih m'.1 m.2 m'.2 (hkey ▸ hm) hm' (hmembers m hm)]
      have hnodup : ∀ {l : List (String × Value N)}, (l.map Prod.fst).Nodup →
          ((l.map fun m => (m.1, canonical W m.2)).map Prod.fst).Nodup := by
        intro l hl
        rw [List.map_map]
        exact hl
      have hsorted : sorted Prod.fst (members.map fun m => (m.1, canonical W m.2)) =
          sorted Prod.fst (members'.map fun m => (m.1, canonical W m.2)) := by
        refine eq_of_strict (sorted_strict (hnodup hkeys)) (sorted_strict (hnodup (keys.nodup_iff.mp hkeys))) fun a => ?_
        rw [mem_sorted, mem_sorted, hmem]
      rw [canonical, canonical, canonicalMembers_eq, canonicalMembers_eq, hsorted]

/-- Two values have one text exactly if they are equal up to the order of keys. -/
lemma canonical_eq_iff {v w : Value N} (hv : v.Distinct) (hw : w.Distinct) : canonical W v = canonical W w ↔ v.Same w := by
  constructor
  · intro h
    have hstop : Stops valueStops [] := fun a ha => by cases ha
    exact (canonical_append_inj W hv hw hstop hstop (by rw [h])).1
  · exact canonical_of_same W hv

end Reading

end JamyeServer.Contracts
