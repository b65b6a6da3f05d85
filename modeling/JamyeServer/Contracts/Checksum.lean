import JamyeServer.Contracts.Canonical
import JamyeServer.Json.Traversal
import JamyeServer.Text

/-!
# The checksum of the manifest

What `checksum` hashes: every artifact and the core of the manifest, sorted by path, each with its path, its length and
its bytes. It can be read back, so it stands for the set of artifacts and the core.
-/

namespace JamyeServer.Contracts

open Framing Keyset

section Text

lemma utf8_injective : Function.Injective utf8 := by
  intro s t h
  rw [← String.toByteArray_inj, ← String.utf8Encode_toList, ← String.utf8Encode_toList, List.utf8Encode, List.utf8Encode]
  rw [show s.toList.flatMap String.utf8EncodeChar = t.toList.flatMap String.utf8EncodeChar from h]

/-- A byte of a character is its code or not an ASCII byte. -/
lemma mem_utf8EncodeChar {c : Char} {b : UInt8} (h : b ∈ String.utf8EncodeChar c) : b.toNat = c.toNat ∨ 128 ≤ b.toNat := by
  have hnat : ∀ {n : ℕ}, n < 256 → (UInt8.ofNat n).toNat = n := by
    intro n hn
    rw [UInt8.toNat_ofNat']
    exact Nat.mod_eq_of_lt hn
  unfold String.utf8EncodeChar at h
  dsimp only at h
  split at h
  next hlt =>
    rw [List.mem_singleton] at h
    rw [h, hnat (by omega)]
    exact .inl rfl
  split at h
  next =>
    simp only [List.mem_cons, List.not_mem_nil, or_false] at h
    rcases h with rfl | rfl <;> (rw [hnat (by omega)]; omega)
  split at h
  next =>
    simp only [List.mem_cons, List.not_mem_nil, or_false] at h
    rcases h with rfl | rfl | rfl <;> (rw [hnat (by omega)]; omega)
  next =>
    simp only [List.mem_cons, List.not_mem_nil, or_false] at h
    rcases h with rfl | rfl | rfl | rfl <;> (rw [hnat (by omega)]; omega)

/-- A text without NUL has no zero byte. -/
lemma zero_notMem_utf8 {s : String} (h : Char.ofNat 0 ∉ s.toList) : (0 : UInt8) ∉ utf8 s := by
  intro hmem
  obtain ⟨c, hc, hb⟩ := List.mem_flatMap.mp hmem
  rcases mem_utf8EncodeChar hb with heq | hge
  · have hnul : c = Char.ofNat 0 := Char.toNat_inj.mp heq.symm
    exact h (hnul ▸ hc)
  · exact absurd hge (by decide)

lemma nul_notMem_toString (n : ℕ) : Char.ofNat 0 ∉ (toString n).toList := by
  intro h
  exact absurd (Text.isDigit_of_mem_toString h) (by decide)

end Text

section Input

variable (write : Json → Bytes)

/-- A file as the checksum sees it. -/
abbrev Entry := String × Bytes

def Artifact.entry (a : Artifact) : Entry := (a.path.joined, a.bytes)

/-- The path, a NUL, the length, a NUL, and the bytes. -/
def Entry.frame (e : Entry) : Bytes := utf8 e.1 ++ 0 :: utf8 (toString e.2.length) ++ 0 :: e.2

def manifestEntry (core : ManifestCore) : Entry := ("manifest.json", canonicalJson write (.obj (coreFields core)))

/-- What `checksum` hashes. -/
def checksumInput (core : ManifestCore) (nonManifest : List Entry) : Bytes :=
  (sorted Prod.fst (nonManifest ++ [manifestEntry write core])).flatMap Entry.frame

lemma checksum_eq (core : ManifestCore) (nonManifest : List Artifact) :
    checksum write core nonManifest = digestHex (checksumInput write core (nonManifest.map Artifact.entry)) := by
  let manifest : Artifact := ⟨manifestPath, canonicalJson write (.obj (coreFields core))⟩
  have hmap : nonManifest.map Artifact.entry ++ [manifestEntry write core] = (nonManifest ++ [manifest]).map Artifact.entry := by
    rw [List.map_append]
    rfl
  have hsorted : sorted Prod.fst ((nonManifest ++ [manifest]).map Artifact.entry) =
      (sorted (fun a => a.path.joined) (nonManifest ++ [manifest])).map Artifact.entry := sorted_map (fun _ => rfl) _
  rw [checksum, checksumInput, hmap, hsorted, List.flatMap_map]
  rfl

lemma frame_append_inj {e e' : Entry} {rest rest' : Bytes} (h₀ : Char.ofNat 0 ∉ e.1.toList) (h₀' : Char.ofNat 0 ∉ e'.1.toList)
    (h : e.frame ++ rest = e'.frame ++ rest') : e = e' ∧ rest = rest' := by
  simp only [Entry.frame, List.append_assoc, List.cons_append] at h
  obtain ⟨hpath, h⟩ := append_delimiter_inj (zero_notMem_utf8 h₀) (zero_notMem_utf8 h₀') h
  obtain ⟨hlength, h⟩ := append_delimiter_inj (zero_notMem_utf8 (nul_notMem_toString _)) (zero_notMem_utf8 (nul_notMem_toString _)) h
  have hsize : e.2.length = e'.2.length := Text.toString_injective (utf8_injective hlength)
  obtain ⟨hbytes, hend⟩ := List.append_inj h hsize
  exact ⟨Prod.ext (utf8_injective hpath) hbytes, hend⟩

/-- The files of a list without NUL in a path are told from its frames. -/
lemma flatMap_frame_inj {es es' : List Entry} (h₀ : ∀ e ∈ es, Char.ofNat 0 ∉ e.1.toList) (h₀' : ∀ e ∈ es', Char.ofNat 0 ∉ e.1.toList)
    (h : es.flatMap Entry.frame = es'.flatMap Entry.frame) : es = es' := by
  have hne : ∀ (e : Entry) (rest : Bytes), e.frame ++ rest ≠ [] := by
    intro e rest hnil
    simp [Entry.frame] at hnil
  induction es generalizing es' with
  | nil =>
    cases es' with
    | nil => rfl
    | cons e' es' => exact absurd h.symm (hne e' _)
  | cons e es ih =>
    cases es' with
    | nil => exact absurd h (hne e _)
    | cons e' es' =>
      rw [List.forall_mem_cons] at h₀ h₀'
      rw [List.flatMap_cons, List.flatMap_cons] at h
      obtain ⟨rfl, hrest⟩ := frame_append_inj h₀.1 h₀'.1 h
      rw [ih h₀.2 h₀'.2 hrest]

end Input

section Values

variable (W : Writer ℤ)

/-- `serde_json::to_writer` on what is neither an array nor an object. -/
def Writer.write : Json → Bytes
  | .null => utf8 "null"
  | .bool b => utf8 (if b then "true" else "false")
  | .num n => W.number n
  | .str s => W.string s
  | _ => []

/-- A value among the values of `serde_json`. -/
def toValue : Json → Value ℤ :=
  Json.fold
    (fun j => match j with
      | .bool b => .bool b
      | .num n => .number n
      | .str s => .string s
      | _ => .null)
    .array fun fields => .object (fields.map fun f => (f.1, f.2.2))

lemma toValue_arr (items : List Json) : toValue (.arr items) = .array (items.map toValue) := Json.fold_arr items

lemma toValue_obj (fields : List (String × Json)) : toValue (.obj fields) = .object (fields.map fun f => (f.1, toValue f.2)) := by
  rw [toValue, Json.fold_obj, List.map_map]
  rfl

lemma canonicalItems_eq (items : List Json) :
    canonicalItems W.write items = separated 44 (items.map (canonicalJson W.write)) := by
  induction items with
  | nil => rfl
  | cons j rest ih =>
    cases rest with
    | nil => rfl
    | cons j' rest =>
      rw [canonicalItems, ih]
      · rfl
      · exact List.cons_ne_nil j' rest

lemma canonicalFields_eq (fields : List (String × Json)) :
    canonicalFields W.write fields = fields.map fun f => (f.1, W.string f.1 ++ 58 :: canonicalJson W.write f.2) := by
  induction fields with
  | nil => rfl
  | cons f rest ih =>
    rw [canonicalFields, ih, List.map_cons]
    rfl

lemma flatten_intersperse (comma : UInt8) (texts : List Bytes) : (texts.intersperse [comma]).flatten = separated comma texts := by
  induction texts with
  | nil => rfl
  | cons text rest ih =>
    cases rest with
    | nil => simp [separated]
    | cons text' rest =>
      rw [List.intersperse_cons_cons, List.flatten_cons, List.flatten_cons, ih]
      rfl

/-- The core is written as `canonical_json` writes any value. -/
lemma canonicalJson_eq (j : Json) : canonicalJson W.write j = canonical W (toValue j) := by
  induction j using Json.induct with
  | null => rfl
  | bool b => rfl
  | num n => rfl
  | str s => rfl
  | arr items ih =>
    have hmap : items.map (canonicalJson W.write) = (items.map toValue).map (canonical W) := by
      rw [List.map_map]
      exact List.map_congr_left ih
    rw [toValue_arr, canonical_array, canonicalJson, canonicalItems_eq, hmap, List.cons_append]
  | obj fields ih =>
    have hmap : fields.map (fun f => (f.1, W.string f.1 ++ 58 :: canonicalJson W.write f.2)) =
        (fields.map fun f => (f.1, toValue f.2)).map fun m => (m.1, memberBytes W m) := by
      rw [List.map_map]
      refine List.map_congr_left fun f hf => ?_
      rw [ih f hf]
      rfl
    have hsorted : sorted Prod.fst ((fields.map fun f => (f.1, toValue f.2)).map fun m => (m.1, memberBytes W m)) =
        (sorted Prod.fst (fields.map fun f => (f.1, toValue f.2))).map fun m => (m.1, memberBytes W m) := sorted_map (fun _ => rfl) _
    rw [toValue_obj, canonical_object, canonicalJson, canonicalFields_eq, hmap, hsorted, flatten_intersperse, List.map_map,
      List.cons_append]
    rfl

end Values

section Core

lemma same_str {s s' : String} (h : (toValue (.str s)).Same (toValue (.str s'))) : s = s' := by
  cases h
  rfl

lemma same_ofOption {o o' : Option String} (h : (toValue (Json.ofOption .str o)).Same (toValue (Json.ofOption .str o'))) : o = o' := by
  cases o with
  | none =>
    cases o' with
    | none => rfl
    | some s' => cases h
  | some s =>
    cases o' with
    | none => cases h
    | some s' => rw [same_str h]

lemma same_strings {l l' : List String} (h : (toValue (.arr (l.map .str))).Same (toValue (.arr (l'.map .str)))) : l = l' := by
  rw [toValue_arr, toValue_arr, List.map_map, List.map_map] at h
  cases h with
  | array length same =>
    rw [List.length_map, List.length_map] at length
    refine List.ext_getElem length fun i hi hi' => ?_
    have hitem := same i (by rwa [List.length_map]) (by rwa [List.length_map])
    rw [List.getElem_map, List.getElem_map] at hitem
    exact same_str hitem

lemma same_member {fields fields' : List (String × Json)} (key : String) {j j' : Json}
    (h : (toValue (.obj fields)).Same (toValue (.obj fields'))) (hj : (key, j) ∈ fields) (hj' : (key, j') ∈ fields') :
    (toValue j).Same (toValue j') := by
  rw [toValue_obj, toValue_obj] at h
  cases h with
  | object keys same => exact same key _ _ (List.mem_map_of_mem hj) (List.mem_map_of_mem hj')

/-- Values with the same keys both have a stage or both have none. -/
lemma same_keys {fields fields' : List (String × Json)} (h : (toValue (.obj fields)).Same (toValue (.obj fields'))) (key : String) :
    key ∈ fields.map Prod.fst ↔ key ∈ fields'.map Prod.fst := by
  rw [toValue_obj, toValue_obj] at h
  cases h with
  | object keys same =>
    rw [List.map_map, List.map_map] at keys
    exact keys.mem_iff

lemma stage_mem_keys (m : ManifestCore) : "stage" ∈ (coreFields m).map Prod.fst ↔ m.stage.isSome = true := by
  cases hstage : m.stage <;> simp [coreFields, hstage]

lemma same_stage {m m' : ManifestCore} (h : (toValue (.obj (coreFields m))).Same (toValue (.obj (coreFields m')))) :
    m.stage = m'.stage := by
  have hkeys := same_keys h "stage"
  rw [stage_mem_keys, stage_mem_keys] at hkeys
  cases hstage : m.stage with
  | none =>
    cases hstage' : m'.stage with
    | none => rfl
    | some stage' => simp [hstage, hstage'] at hkeys
  | some stage =>
    cases hstage' : m'.stage with
    | none => simp [hstage, hstage'] at hkeys
    | some stage' =>
      have hmember : (toValue (.str stage)).Same (toValue (.str stage')) :=
        same_member "stage" h (by simp [coreFields, hstage]) (by simp [coreFields, hstage'])
      rw [same_str hmember]

/-- The JSON of a core tells all of its fields. -/
lemma eq_of_same_core {m m' : ManifestCore} (h : (toValue (.obj (coreFields m))).Same (toValue (.obj (coreFields m')))) : m = m' := by
  have hstage : m.stage = m'.stage := same_stage h
  have htag : m.provenance.serverTag = m'.provenance.serverTag :=
    same_ofOption (same_member "server_tag" h (by simp [coreFields]) (by simp [coreFields]))
  have hcommit : m.provenance.serverCommit = m'.provenance.serverCommit :=
    same_str (same_member "server_commit" h (by simp [coreFields]) (by simp [coreFields]))
  have hcontract : m.provenance.contractVersion = m'.provenance.contractVersion :=
    same_str (same_member "contract_version" h (by simp [coreFields]) (by simp [coreFields]))
  have hserver : m.provenance.serverVersion = m'.provenance.serverVersion :=
    same_str (same_member "server_version" h (by simp [coreFields]) (by simp [coreFields]))
  have halgorithm : m.checksumAlgorithm = m'.checksumAlgorithm :=
    same_str (same_member "checksum_algorithm" h (by simp [coreFields]) (by simp [coreFields]))
  have hartifacts : m.artifacts = m'.artifacts :=
    same_strings (same_member "artifacts" h (by simp [coreFields]) (by simp [coreFields]))
  have hoperations : m.operationIds = m'.operationIds :=
    same_strings (same_member "operation_ids" h (by simp [coreFields]) (by simp [coreFields]))
  have hdiscriminants : m.realtimeDiscriminants = m'.realtimeDiscriminants :=
    same_strings (same_member "realtime_discriminants" h (by simp [coreFields]) (by simp [coreFields]))
  obtain ⟨stage, ⟨tag, commit, contract, server⟩, algorithm, artifacts, operations, discriminants⟩ := m
  obtain ⟨stage', ⟨tag', commit', contract', server'⟩, algorithm', artifacts', operations', discriminants'⟩ := m'
  subst hstage htag hcommit hcontract hserver halgorithm hartifacts hoperations hdiscriminants
  rfl

lemma distinct_strings (l : List String) : (toValue (.arr (l.map .str))).Distinct := by
  rw [toValue_arr, List.map_map]
  refine .array fun v hv => ?_
  obtain ⟨s, -, rfl⟩ := List.mem_map.mp hv
  exact .string s

lemma distinct_ofOption (o : Option String) : (toValue (Json.ofOption .str o)).Distinct := by
  cases o with
  | none => exact .null
  | some s => exact .string s

lemma distinct_core (m : ManifestCore) : (toValue (.obj (coreFields m))).Distinct := by
  rw [toValue_obj]
  refine .object ?_ ?_
  · rw [List.map_map]
    cases hstage : m.stage <;> simp [coreFields, hstage]
  · intro v hv
    obtain ⟨f, hf, rfl⟩ := List.mem_map.mp hv
    rcases List.mem_append.mp hf with hf | hf
    · obtain ⟨stage, -, rfl⟩ := Option.map_eq_some_iff.mp (Option.mem_toList.mp hf)
      exact .string stage
    · simp only [List.mem_cons, List.not_mem_nil, or_false] at hf
      rcases hf with rfl | rfl | rfl | rfl | rfl | rfl | rfl | rfl
      · exact distinct_ofOption _
      · exact .string _
      · exact .string _
      · exact .string _
      · exact .string _
      · exact distinct_strings _
      · exact distinct_strings _
      · exact distinct_strings _

/-- Cores with one text are equal. -/
lemma canonicalJson_core_inj {W : Writer ℤ} {m m' : ManifestCore}
    (h : canonicalJson W.write (.obj (coreFields m)) = canonicalJson W.write (.obj (coreFields m'))) : m = m' := by
  rw [canonicalJson_eq, canonicalJson_eq, canonical_eq_iff W (distinct_core m) (distinct_core m')] at h
  exact eq_of_same_core h

end Core

section Injective

/-- Files that a checksum can be made of: different paths without NUL, none of them the manifest's. -/
structure Admissible (es : List Entry) : Prop where
  paths : (es.map Prod.fst).Nodup
  nul : ∀ e ∈ es, Char.ofNat 0 ∉ e.1.toList
  manifest : ∀ e ∈ es, e.1 ≠ "manifest.json"

variable {W : Writer ℤ} {core core' : ManifestCore} {es es' : List Entry}

lemma Admissible.entries_nul (h : Admissible es) {e : Entry} (he : e ∈ sorted Prod.fst (es ++ [manifestEntry W.write core])) :
    Char.ofNat 0 ∉ e.1.toList := by
  rw [mem_sorted, List.mem_append, List.mem_singleton] at he
  rcases he with he | rfl
  · exact h.nul e he
  · exact (by decide : Char.ofNat 0 ∉ "manifest.json".toList)

lemma Admissible.entries_nodup (h : Admissible es) : ((es ++ [manifestEntry W.write core]).map Prod.fst).Nodup := by
  rw [List.map_append, List.map_singleton, List.nodup_append]
  refine ⟨h.paths, List.nodup_singleton _, fun path hpath path' hpath' => ?_⟩
  obtain ⟨e, he, rfl⟩ := List.mem_map.mp hpath
  rw [List.mem_singleton.mp hpath']
  exact h.manifest e he

/-- A file that is not the manifest is not among the files for being the manifest. -/
lemma Admissible.mem_of_mem_entries (h : Admissible es) {e : Entry} (he : e ∈ es) (hmem : e ∈ es' ++ [manifestEntry W.write core]) :
    e ∈ es' := by
  rcases List.mem_append.mp hmem with hmem | hmem
  · exact hmem
  · rw [List.mem_singleton.mp hmem] at he
    exact absurd rfl (h.manifest _ he)

/-- What is hashed tells the files and the core. -/
lemma checksumInput_inj (h : Admissible es) (h' : Admissible es')
    (heq : checksumInput W.write core es = checksumInput W.write core' es') : (∀ e, e ∈ es ↔ e ∈ es') ∧ core = core' := by
  have hsorted := flatMap_frame_inj (fun e he => h.entries_nul he) (fun e he => h'.entries_nul he) heq
  have hmem : ∀ e, e ∈ es ++ [manifestEntry W.write core] ↔ e ∈ es' ++ [manifestEntry W.write core'] := by
    intro e
    have hiff : e ∈ sorted Prod.fst (es ++ [manifestEntry W.write core]) ↔
        e ∈ sorted Prod.fst (es' ++ [manifestEntry W.write core']) := by rw [hsorted]
    rwa [mem_sorted, mem_sorted] at hiff
  refine ⟨fun e => ⟨fun he => ?_, fun he => ?_⟩, ?_⟩
  · exact h.mem_of_mem_entries he ((hmem e).mp (List.mem_append_left _ he))
  · exact h'.mem_of_mem_entries he ((hmem e).mpr (List.mem_append_left _ he))
  · have hmanifest := (hmem (manifestEntry W.write core)).mp (List.mem_append_right _ (List.mem_singleton_self _))
    rcases List.mem_append.mp hmanifest with hfile | hlast
    · exact absurd rfl (h'.manifest _ hfile)
    · exact canonicalJson_core_inj (congrArg Prod.snd (List.mem_singleton.mp hlast))

/-- What is hashed does not depend on the order of the files. -/
lemma checksumInput_congr (h : Admissible es) (h' : Admissible es') (hmem : ∀ e, e ∈ es ↔ e ∈ es') :
    checksumInput W.write core es = checksumInput W.write core es' := by
  have hsorted : sorted Prod.fst (es ++ [manifestEntry W.write core]) = sorted Prod.fst (es' ++ [manifestEntry W.write core]) := by
    refine eq_of_strict (sorted_strict h.entries_nodup) (sorted_strict h'.entries_nodup) fun e => ?_
    rw [mem_sorted, mem_sorted, List.mem_append, List.mem_append, hmem]
  rw [checksumInput, checksumInput, hsorted]

/-- Every order of admissible files is admissible. -/
lemma Admissible.perm (h : Admissible es) (hperm : es.Perm es') : Admissible es' where
  paths := (hperm.map Prod.fst).nodup_iff.mp h.paths
  nul := fun e he => h.nul e (hperm.mem_iff.mpr he)
  manifest := fun e he => h.manifest e (hperm.mem_iff.mpr he)

/-- `checksum` hashes bytes that stand for the set of artifacts and the core, in whatever order the artifacts are given,
and the bytes of `canonical_json` stand for a value up to the order of keys. -/
theorem checksumInput_eq_iff (W : Writer ℤ) (core core' : ManifestCore) (h : Admissible es) (h' : Admissible es') :
    (∀ artifacts : List Artifact,
      checksum W.write core artifacts = digestHex (checksumInput W.write core (artifacts.map Artifact.entry))) ∧
    (checksumInput W.write core es = checksumInput W.write core' es' ↔ (∀ e, e ∈ es ↔ e ∈ es') ∧ core = core') ∧
    (∀ given, es.Perm given → checksumInput W.write core given = checksumInput W.write core es) ∧
    (∀ j, canonicalJson W.write j = canonical W (toValue j)) ∧
    ∀ {N : Type} (V : Writer N) (v w : Value N), v.Distinct → w.Distinct → (canonical V v = canonical V w ↔ v.Same w) := by
  refine ⟨checksum_eq W.write core, ⟨checksumInput_inj h h', ?_⟩, ?_, canonicalJson_eq W, ?_⟩
  · rintro ⟨hmem, rfl⟩
    exact checksumInput_congr h h' hmem
  · intro given hperm
    exact checksumInput_congr (h.perm hperm) h fun e => hperm.symm.mem_iff
  · intro N V v w hv hw
    exact canonical_eq_iff V hv hw

lemma mem_utf8_toString {n : ℕ} {b : UInt8} (h : b ∈ utf8 (toString n)) : b ∈ utf8 "0123456789" := by
  have hdigits : ∀ d < 10, ∀ b ∈ String.utf8EncodeChar (Nat.digitChar d), b ∈ utf8 "0123456789" := by decide +kernel
  obtain ⟨c, hc, hb⟩ := List.mem_flatMap.mp h
  rw [Nat.toString_eq_repr, Nat.toList_repr] at hc
  obtain ⟨d, hd, rfl⟩ := Text.mem_toDigits (by decide) hc
  exact hdigits d hd b hb

lemma utf8_toString_ne_nil (n : ℕ) : utf8 (toString n) ≠ [] := by
  intro h
  have hempty : toString n = "" := utf8_injective h
  have hdigits := congrArg String.toList hempty
  rw [Nat.toString_eq_repr, Nat.toList_repr] at hdigits
  exact Nat.toDigits_ne_nil hdigits

/-- A number in decimal. -/
def decimal : ℤ → Bytes
  | .ofNat n => utf8 (toString n)
  | .negSucc n => 45 :: utf8 (toString (n + 1))

lemma minus_notMem_toString (n : ℕ) : 45 ∉ utf8 (toString n) := by
  intro h
  exact absurd (mem_utf8_toString h) (by decide)

lemma decimal_injective : Function.Injective decimal := by
  intro m n h
  cases m with
  | ofNat m =>
    cases n with
    | ofNat n => rw [Text.toString_injective (utf8_injective h)]
    | negSucc n =>
      have hmem : 45 ∈ utf8 (toString m) := by
        rw [show utf8 (toString m) = 45 :: utf8 (toString (n + 1)) from h]
        exact List.mem_cons_self
      exact absurd hmem (minus_notMem_toString m)
  | negSucc m =>
    cases n with
    | ofNat n =>
      have hmem : 45 ∈ utf8 (toString n) := by
        rw [← show 45 :: utf8 (toString (m + 1)) = utf8 (toString n) from h]
        exact List.mem_cons_self
      exact absurd hmem (minus_notMem_toString n)
    | negSucc n =>
      have hsucc := Text.toString_injective (utf8_injective (List.tail_eq_of_cons_eq h))
      rw [Nat.succ_injective hsucc]

lemma decimal_valid (n : ℤ) :
    ∃ first rest, decimal n = first :: rest ∧ first ∈ utf8 "-0123456789" ∧ ∀ b ∈ rest, b ∈ numberBytes := by
  have hfirst : ∀ b ∈ utf8 "0123456789", b ∈ utf8 "-0123456789" := by decide +kernel
  have hrest : ∀ b ∈ utf8 "0123456789", b ∈ numberBytes := by decide +kernel
  cases n with
  | ofNat n =>
    obtain ⟨first, rest, heq⟩ := List.exists_cons_of_ne_nil (utf8_toString_ne_nil n)
    have hbytes : ∀ b ∈ first :: rest, b ∈ utf8 "0123456789" := by
      intro b hb
      exact mem_utf8_toString (heq ▸ hb)
    rw [List.forall_mem_cons] at hbytes
    exact ⟨first, rest, heq, hfirst first hbytes.1, fun b hb => hrest b (hbytes.2 b hb)⟩
  | negSucc n => exact ⟨45, _, rfl, by decide, fun b hb => hrest b (mem_utf8_toString hb)⟩

/-- Numbers in decimal, and strings between quotes with a backslash in front of each quote and backslash. -/
def plainWriter : Writer ℤ where
  number := decimal
  string s := 34 :: (Escaping.escape 92 [34, 92] (utf8 s) ++ [34])
  number_injective := decimal_injective
  string_injective := by
    intro s t h
    have hescape := List.append_cancel_right (List.tail_eq_of_cons_eq h)
    have hunescape := congrArg (Escaping.unescape 92) hescape
    rw [Escaping.unescape_escape (by decide), Escaping.unescape_escape (by decide)] at hunescape
    exact utf8_injective hunescape
  number_valid := decimal_valid
  string_valid s := ⟨_, rfl, Escaping.escaped_escape (by decide) _⟩

def sampleCore : ManifestCore :=
  ⟨none, ⟨none, "dirty", "1.0.0", "0.1.0"⟩, checksumAlgorithm, ["asyncapi.json", "manifest.json", "openapi.json"],
    ["H1", "H2"], ["message.created"]⟩

def sampleEntries : List Entry := [("openapi.json", utf8 "[1,2]"), ("asyncapi.json", [])]

lemma admissible_sample : Admissible sampleEntries where
  paths := by decide
  nul := by decide
  manifest := by decide

/-- Two artifacts in either order, and with a core that has a stage. -/
theorem checksumInput_eq_iff_at_sample :
    checksumInput plainWriter.write sampleCore sampleEntries.reverse = checksumInput plainWriter.write sampleCore sampleEntries ∧
      checksumInput plainWriter.write sampleCore sampleEntries ≠
        checksumInput plainWriter.write { sampleCore with stage := some "release_candidate" } sampleEntries.reverse ∧
      canonical plainWriter (.object [("b", .number 1), ("a", .null)]) = canonical plainWriter (.object [("a", .null), ("b", .number 1)]) := by
  have hreverse : Admissible sampleEntries.reverse := admissible_sample.perm sampleEntries.reverse_perm.symm
  obtain ⟨-, hequal, hperm, -, hvalues⟩ := checksumInput_eq_iff plainWriter sampleCore
    { sampleCore with stage := some "release_candidate" } admissible_sample hreverse
  refine ⟨hperm _ sampleEntries.reverse_perm.symm, ?_, ?_⟩
  · intro h
    have hstage := congrArg ManifestCore.stage (hequal.mp h).2
    cases hstage
  · refine (hvalues plainWriter _ _ ?_ ?_).mpr ?_
    · exact .object (by decide) (List.forall_mem_cons.mpr ⟨.number 1, List.forall_mem_cons.mpr ⟨.null, List.forall_mem_nil _⟩⟩)
    · exact .object (by decide) (List.forall_mem_cons.mpr ⟨.null, List.forall_mem_cons.mpr ⟨.number 1, List.forall_mem_nil _⟩⟩)
    · refine .object (by decide) fun key v w hv hw => ?_
      simp only [List.mem_cons, Prod.mk.injEq, List.not_mem_nil, or_false] at hv hw
      rcases hv with ⟨rfl, rfl⟩ | ⟨rfl, rfl⟩
      · obtain ⟨hkey, -⟩ | ⟨-, rfl⟩ := hw
        · exact absurd hkey (by decide)
        · exact .number 1
      · obtain ⟨-, rfl⟩ | ⟨hkey, -⟩ := hw
        · exact .null
        · exact absurd hkey (by decide)

end Injective

end JamyeServer.Contracts
