import Mathlib.Data.Finset.Basic
import JamyeServer.Contracts.Snapshot

/-!
# What a verified contract tree holds

The files of a tree are compared with the artifacts of the profile that its own manifest names. Verification accepts
exactly the trees that hold these artifacts and nothing else, generation leaves such a tree or fails, and it writes to no
tree that holds anything else.
-/

namespace JamyeServer.Contracts

open Keyset Directory

section Results

variable {ε α β : Type}

lemma bind_ok {x : Except ε α} {f : α → Except ε β} {b : β} : (x >>= f) = .ok b ↔ ∃ a, x = .ok a ∧ f a = .ok b := by
  cases x <;> simp [bind, Except.bind]

lemma map_ok {x : Except ε α} {f : α → β} {b : β} : x.map f = .ok b ↔ ∃ a, x = .ok a ∧ f a = b := by
  cases x <;> simp [Except.map]

lemma ensure_ok {P : Prop} [Decidable P] {e : ContractError} {u : Unit} : ensure P e = .ok u ↔ P := by
  unfold ensure
  split_ifs with h <;> simp [h]

lemma unless_ok {P : Prop} [Decidable P] {e : ε} {b : β} {x : Except ε β} :
    (if P then .error e else x) = .ok b ↔ ¬ P ∧ x = .ok b := by
  split_ifs with h <;> simp [h]

end Results

section Expected

variable (B : Build) (p : Provenance) (profile : SnapshotProfile)

/-- The artifacts of a profile. -/
def expected : List Artifact := byPath (documents B profile ++ [manifestArtifact B p (documents B profile) profile])

variable {B p profile}

variable (profile) in
lemma paths_nodup : ((documentPaths profile ++ [manifestPath]).map Path.joined).Nodup := by
  cases profile <;> decide

lemma paths_normal {path : Path} (h : path ∈ documentPaths profile ++ [manifestPath]) :
    path ≠ [] ∧ path.all normalComponent = true ∧ isContribution path = false := by
  have hall : ∀ path ∈ documentPaths profile ++ [manifestPath],
      path ≠ [] ∧ path.all normalComponent = true ∧ isContribution path = false := by
    cases profile <;> decide
  exact hall path h

lemma mem_byPath {artifacts : List Artifact} {a : Artifact} : a ∈ byPath artifacts ↔ a ∈ artifacts := mem_sorted

lemma mem_documents {a : Artifact} :
    a ∈ documents B profile ↔ ∃ path ∈ documentPaths profile, Artifact.json B path (B.document profile path) = a := by
  rw [documents, mem_byPath, List.mem_map]

lemma mem_expected {a : Artifact} :
    a ∈ expected B p profile ↔ a ∈ documents B profile ∨ a = manifestArtifact B p (documents B profile) profile := by
  rw [expected, mem_byPath, List.mem_append, List.mem_singleton]

lemma path_documents {a : Artifact} (h : a ∈ documents B profile) : a.path ∈ documentPaths profile := by
  obtain ⟨path, hpath, rfl⟩ := mem_documents.mp h
  exact hpath

lemma path_expected {a : Artifact} (h : a ∈ expected B p profile) : a.path ∈ documentPaths profile ++ [manifestPath] := by
  rcases mem_expected.mp h with h | rfl
  · exact List.mem_append_left _ (path_documents h)
  · exact List.mem_append_right _ (List.mem_singleton.mpr rfl)

lemma keys_nodup {artifacts : List Artifact} (h : (artifacts.map Artifact.path).Perm (documentPaths profile ++ [manifestPath])) :
    (artifacts.map fun a => a.path.joined).Nodup := by
  have hperm := h.map Path.joined
  rw [List.map_map] at hperm
  exact hperm.nodup_iff.mpr (paths_nodup profile)

lemma documents_strict : (documents B profile).Pairwise fun a b => a.path.joined < b.path.joined := by
  refine sorted_strict ?_
  have h := (List.nodup_append.mp (List.map_append ▸ paths_nodup profile)).1
  simpa [List.map_map, Function.comp_def, Artifact.json] using h

lemma perm_documents : ((documents B profile).map Artifact.path).Perm (documentPaths profile) := by
  have h : (documents B profile).Perm ((documentPaths profile).map fun path => .json B path (B.document profile path)) :=
    List.perm_insertionSort _ _
  have hmap := h.map Artifact.path
  rw [List.map_map] at hmap
  simpa [Function.comp_def, Artifact.json] using hmap

lemma perm_expected : ((expected B p profile).map Artifact.path).Perm (documentPaths profile ++ [manifestPath]) := by
  have h : (expected B p profile).Perm (documents B profile ++ [manifestArtifact B p (documents B profile) profile]) :=
    List.perm_insertionSort _ _
  have hmap := h.map Artifact.path
  rw [List.map_append] at hmap
  exact hmap.trans (perm_documents.append (List.Perm.refl _))

lemma paths_expected {path : Path} :
    path ∈ (expected B p profile).map Artifact.path ↔ path ∈ documentPaths profile ++ [manifestPath] :=
  perm_expected.mem_iff

lemma paths_expected_nodup : ((expected B p profile).map Artifact.path).Nodup :=
  perm_expected.nodup_iff.mpr (List.Nodup.of_map _ (paths_nodup profile))

lemma expected_strict : (expected B p profile).Pairwise fun a b => a.path.joined < b.path.joined := by
  have hperm : ((documents B profile ++ [manifestArtifact B p (documents B profile) profile]).map Artifact.path).Perm
      (documentPaths profile ++ [manifestPath]) := by
    rw [List.map_append]
    exact perm_documents.append (List.Perm.refl _)
  exact sorted_strict (keys_nodup hperm)

lemma validateArtifactPaths_ok {artifacts : List Artifact} {previous : Option Path}
    (hnormal : ∀ a ∈ artifacts, a.path ≠ [] ∧ a.path.all normalComponent = true)
    (hprevious : ∀ a ∈ artifacts, previous ≠ some a.path) (hnodup : (artifacts.map Artifact.path).Nodup) :
    validateArtifactPaths previous artifacts = .ok () := by
  induction artifacts generalizing previous with
  | nil => rfl
  | cons a rest ih =>
    obtain ⟨ha, hrest⟩ := List.nodup_cons.mp hnodup
    obtain ⟨hne, hall⟩ := hnormal a List.mem_cons_self
    have hnext : ∀ b ∈ rest, some a.path ≠ some b.path := fun b hb heq =>
      ha (Option.some.inj heq ▸ List.mem_map_of_mem hb)
    simp only [validateArtifactPaths, List.isEmpty_eq_false_iff.mpr hne, hall, Bool.not_true, Bool.or_false, Bool.false_eq_true,
      if_false, hprevious a List.mem_cons_self]
    exact ih (fun b hb => hnormal b (List.mem_cons_of_mem _ hb)) hnext hrest

/-- Making the list of artifacts never fails. -/
lemma expectedArtifacts_eq : expectedArtifacts B p profile = .ok (expected B p profile) := by
  have hdocuments : validateArtifactPaths none (documents B profile) = .ok () := by
    refine validateArtifactPaths_ok (fun a ha => ?_) (fun _ _ h => by cases h) ?_
    · obtain ⟨hne, hall, -⟩ := paths_normal (List.mem_append_left [manifestPath] (path_documents ha))
      exact ⟨hne, hall⟩
    · exact perm_documents.nodup_iff.mpr (List.nodup_append.mp (List.Nodup.of_map _ (paths_nodup profile))).1
  have hexpected : validateArtifactPaths none (expected B p profile) = .ok () := by
    refine validateArtifactPaths_ok (fun a ha => ?_) (fun _ _ h => by cases h) paths_expected_nodup
    obtain ⟨hne, hall, -⟩ := paths_normal (path_expected ha)
    exact ⟨hne, hall⟩
  refine bind_ok.mpr ⟨(), hdocuments, bind_ok.mpr ⟨(), hexpected, rfl⟩⟩

lemma manifest_not_document : manifestPath ∉ documentPaths profile := by
  cases profile <;> decide

/-- Without the manifest, the expected artifacts are the documents it was made from. -/
lemma expected_filter : (expected B p profile).filter (fun a => decide (a.path ≠ manifestPath)) = documents B profile := by
  have hstrict : ((expected B p profile).filter fun a => decide (a.path ≠ manifestPath)).Pairwise
      fun a b => a.path.joined < b.path.joined := expected_strict.filter _
  refine eq_of_strict hstrict documents_strict fun a => ?_
  rw [List.mem_filter, mem_expected, decide_eq_true_eq]
  constructor
  · rintro ⟨h | rfl, hne⟩
    · exact h
    · exact absurd rfl hne
  · intro h
    exact ⟨.inl h, fun heq => manifest_not_document (heq ▸ path_documents h)⟩

lemma expected_find : (expected B p profile).find? (fun a => decide (a.path = manifestPath)) =
    some (manifestArtifact B p (documents B profile) profile) := by
  cases hf : (expected B p profile).find? fun a => decide (a.path = manifestPath) with
  | none =>
    have := List.find?_eq_none.mp hf _ (mem_expected.mpr (.inr rfl))
    exact absurd (decide_eq_true rfl) this
  | some a =>
    have hpath : a.path = manifestPath := by simpa using List.find?_some hf
    rcases mem_expected.mp (List.mem_of_find?_eq_some hf) with h | rfl
    · exact absurd (hpath ▸ path_documents h) manifest_not_document
    · rfl

end Expected

section Collected

variable {tree : Tree} {paths : Finset Path} {q : List (Option String)} {b : Bytes}

lemma relativeContractPath_ok {path : Path} : relativeContractPath q = .ok path ↔ q = place path := by
  induction q generalizing path with
  | nil =>
    cases path with
    | nil => simp [relativeContractPath, place]
    | cons name rest => simp [relativeContractPath, place]
  | cons name rest ih =>
    cases name with
    | none => cases path <;> simp [relativeContractPath, place]
    | some name =>
      simp only [relativeContractPath, map_ok, ih]
      cases path with
      | nil => simp [place]
      | cons head tail =>
        simp only [place, List.map_cons, List.cons.injEq, Option.some.injEq]
        constructor
        · rintro ⟨l, h, hn, rfl⟩
          exact ⟨hn, h⟩
        · rintro ⟨hn, h⟩
          exact ⟨tail, h, hn, rfl⟩

/-- The collected paths are those of the regular files, and there are only files. -/
lemma collectDirectory_ok {directory : List (Option String)} {found : List Path} :
    collectDirectory directory tree = .ok found ↔
      tree.Plain ∧ (tree.files.map fun f => directory ++ f.1) = found.map place := by
  induction tree generalizing directory found with
  | empty => simp [collectDirectory, Plain, files, eq_comm]
  | file name bytes rest ih =>
    simp only [collectDirectory, bind_ok, relativeContractPath_ok, ih, Plain, files, List.map_cons]
    constructor
    · rintro ⟨path, hpath, more, ⟨hplain, hmore⟩, hfound⟩
      cases hfound
      exact ⟨hplain, by rw [List.map_cons, hpath, hmore]⟩
    · rintro ⟨hplain, hfound⟩
      cases found with
      | nil => cases hfound
      | cons path more =>
        obtain ⟨hpath, hmore⟩ := List.cons.inj hfound
        exact ⟨path, hpath, more, ⟨hplain, hmore⟩, rfl⟩
  | other kind name content rest ih => cases kind <;> simp [collectDirectory, Plain]
  | directory name sub rest ihs ih =>
    simp only [collectDirectory, bind_ok, ihs, ih, Plain, files, List.map_append, List.map_map]
    have hbelow : ((fun f : List (Option String) × Bytes => directory ++ f.1) ∘ fun f : List (Option String) × Bytes =>
        (name :: f.1, f.2)) = fun f : List (Option String) × Bytes => directory ++ [name] ++ f.1 := by
      funext f
      simp
    rw [hbelow]
    constructor
    · rintro ⟨below, ⟨hsub, hbelow⟩, more, ⟨hplain, hmore⟩, hfound⟩
      cases hfound
      exact ⟨⟨hsub, hplain⟩, by rw [List.map_append, hbelow, hmore]⟩
    · rintro ⟨⟨hsub, hplain⟩, hfound⟩
      obtain ⟨below, more, rfl, hb, hm⟩ := List.map_eq_append_iff.mp hfound.symm
      exact ⟨below, ⟨hsub, hb.symm⟩, more, ⟨hplain, hm.symm⟩, rfl⟩

lemma place_inj {path path' : Path} (h : place path = place path') : path = path' :=
  List.map_injective_iff.mpr (Option.some_injective _) h

/-- A tree that is collected has files only, all of them with names. -/
structure Collects (tree : Tree) (paths : Finset Path) : Prop where
  plain : tree.Plain
  named : ∀ q b, (q, b) ∈ tree.files → ∃ path, q = place path
  mem : ∀ path, path ∈ paths ↔ ∃ b, (place path, b) ∈ tree.files

lemma collects_of_ok (h : collectRelativeFiles tree = .ok paths) : Collects tree paths := by
  obtain ⟨found, hfound, rfl⟩ := map_ok.mp h
  obtain ⟨hplain, hmap⟩ := collectDirectory_ok.mp hfound
  have hplaces : tree.files.map Prod.fst = found.map place := by simpa using hmap
  refine ⟨hplain, fun q b hq => ?_, fun path => ?_⟩
  · have hq : q ∈ found.map place := hplaces ▸ List.mem_map_of_mem hq
    obtain ⟨path, -, rfl⟩ := List.mem_map.mp hq
    exact ⟨path, rfl⟩
  · have hmem : place path ∈ found.map place ↔ path ∈ found :=
      List.mem_map_of_injective (List.map_injective_iff.mpr (Option.some_injective _))
    rw [List.mem_toFinset, ← hmem, ← hplaces, List.mem_map]
    constructor
    · rintro ⟨f, hf, hpath⟩
      exact ⟨f.2, hpath ▸ hf⟩
    · rintro ⟨b, hb⟩
      exact ⟨_, hb, rfl⟩

lemma ok_of_plain (hplain : tree.Plain) (hnamed : ∀ q b, (q, b) ∈ tree.files → ∃ path, q = place path) :
    ∃ paths, collectRelativeFiles tree = .ok paths := by
  have hall : ∀ places : List (List (Option String)), (∀ q ∈ places, ∃ path, q = place path) →
      ∃ found : List Path, places = found.map place := by
    intro places hplaces
    induction places with
    | nil => exact ⟨[], rfl⟩
    | cons q rest ih =>
      obtain ⟨path, rfl⟩ := hplaces q List.mem_cons_self
      obtain ⟨found, rfl⟩ := ih fun q hq => hplaces q (List.mem_cons_of_mem _ hq)
      exact ⟨path :: found, rfl⟩
  obtain ⟨found, hfound⟩ := hall (tree.files.map Prod.fst) fun q hq => by
    obtain ⟨f, hf, rfl⟩ := List.mem_map.mp hq
    exact hnamed f.1 f.2 hf
  exact ⟨found.toFinset, map_ok.mpr ⟨found, collectDirectory_ok.mpr ⟨hplain, by simpa using hfound⟩, rfl⟩⟩

/-- The regular files are exactly the artifacts. -/
def Holds (tree : Tree) (artifacts : List Artifact) : Prop :=
  ∀ q b, (q, b) ∈ tree.files ↔ ∃ a ∈ artifacts, q = place a.path ∧ b = a.bytes

lemma compareBytes_ok (hd : tree.Distinct) (hplain : tree.Plain) {e : ContractError} {artifacts : List Artifact} :
    compareBytes tree e artifacts = .ok () ↔ ∀ a ∈ artifacts, (place a.path, a.bytes) ∈ tree.files := by
  induction artifacts with
  | nil => simp [compareBytes]
  | cons a rest ih =>
    simp only [compareBytes, List.forall_mem_cons]
    cases hread : tree.read (place a.path) with
    | none =>
      have hnot : (place a.path, a.bytes) ∉ tree.files := fun h => by
        rw [read_of_mem_files hd h] at hread
        cases hread
      simp [hnot]
    | some bytes =>
      have hmem := mem_files_of_read hplain hread
      simp only [unless_ok, ih, not_not]
      constructor
      · rintro ⟨rfl, h⟩
        exact ⟨hmem, h⟩
      · rintro ⟨ha, h⟩
        refine ⟨?_, h⟩
        rw [read_of_mem_files hd ha] at hread
        exact (Option.some.inj hread).symm

/-- The files are the artifacts when their paths are the artifacts' paths and their bytes are the artifacts' bytes. -/
lemma holds_iff (hd : tree.Distinct) (hc : Collects tree paths) {artifacts : List Artifact} :
    Holds tree artifacts ↔
      paths = (artifacts.map Artifact.path).toFinset ∧ ∀ a ∈ artifacts, (place a.path, a.bytes) ∈ tree.files := by
  constructor
  · intro h
    refine ⟨Finset.ext fun path => ?_, fun a ha => (h _ _).mpr ⟨a, ha, rfl, rfl⟩⟩
    rw [hc.mem, List.mem_toFinset, List.mem_map]
    constructor
    · rintro ⟨b, hb⟩
      obtain ⟨a, ha, hpath, -⟩ := (h _ _).mp hb
      exact ⟨a, ha, (place_inj hpath).symm⟩
    · rintro ⟨a, ha, rfl⟩
      exact ⟨a.bytes, (h _ _).mpr ⟨a, ha, rfl, rfl⟩⟩
  · rintro ⟨rfl, hbytes⟩ q b
    constructor
    · intro hq
      obtain ⟨path, rfl⟩ := hc.named q b hq
      have hpath := (hc.mem path).mpr ⟨b, hq⟩
      obtain ⟨a, ha, rfl⟩ := List.mem_map.mp (List.mem_toFinset.mp hpath)
      have hb := (read_of_mem_files hd hq).symm.trans (read_of_mem_files hd (hbytes a ha))
      exact ⟨a, ha, rfl, Option.some.inj hb⟩
    · rintro ⟨a, ha, rfl, rfl⟩
      exact hbytes a ha

end Collected

section Accepted

variable {B : Build} {p : Provenance} {profile : SnapshotProfile} {tree : Tree} {paths : Finset Path}

variable (B p) in
/-- Nothing but files, and these are the artifacts of the profile. A release candidate may hold the contributions of its
owners too. -/
def Exact (profile : SnapshotProfile) (tree : Tree) : Prop :=
  tree.Plain ∧ (Holds tree (expected B p profile) ∨
    (profile = .releaseCandidate ∧ Holds tree (expected B p profile ++ contributions B)))

lemma named_of_holds {artifacts : List Artifact} (h : Holds tree artifacts) (q : List (Option String)) (b : Bytes)
    (hq : (q, b) ∈ tree.files) : ∃ path, q = place path := by
  obtain ⟨a, -, rfl, -⟩ := (h q b).mp hq
  exact ⟨a.path, rfl⟩

lemma paths_contributions : (contributions B).map Artifact.path = ownerContributions := by
  simp [contributions, Function.comp_def]

lemma isContribution_owner {path : Path} (h : path ∈ ownerContributions) : isContribution path = true := by
  have hall : ∀ path ∈ ownerContributions, isContribution path = true := by decide
  exact hall path h

lemma isContribution_expected {path : Path} (h : path ∈ (expected B p profile).map Artifact.path) :
    isContribution path = false :=
  (paths_normal (paths_expected.mp h)).2.2

lemma validateOwnerContributions_ok :
    validateOwnerContributions B tree paths = .ok () ↔ paths.filter (fun path => isContribution path = true) = ∅ ∨
      (paths.filter (fun path => isContribution path = true) = ownerContributions.toFinset ∧
        compareBytes tree .contributions (contributions B) = .ok ()) := by
  unfold validateOwnerContributions
  by_cases h : paths.filter (fun path => isContribution path = true) = ∅
  · simp [h]
  · simp only [h, if_false, ne_eq, unless_ok, not_not, false_or]

/-- The paths of a release candidate's tree, without its contributions. -/
lemma contractArtifactPaths_ok {actual : Finset Path} :
    contractArtifactPaths B tree = .ok actual ↔ ∃ paths, collectRelativeFiles tree = .ok paths ∧
      validateOwnerContributions B tree paths = .ok () ∧ paths.filter (fun path => isContribution path = false) = actual := by
  simp only [contractArtifactPaths, bind_ok]
  constructor
  · rintro ⟨paths, hpaths, u, hvalid, h⟩
    exact ⟨paths, hpaths, hvalid, Except.ok.inj h⟩
  · rintro ⟨paths, hpaths, hvalid, rfl⟩
    exact ⟨paths, hpaths, (), hvalid, rfl⟩

/-- A set of paths is its contributions and the others. -/
lemma eq_of_filters {s : Finset Path} (hfalse : paths.filter (fun path => isContribution path = false) = s) {t : Finset Path}
    (htrue : paths.filter (fun path => isContribution path = true) = t) : paths = s ∪ t := by
  subst hfalse htrue
  ext path
  cases h : isContribution path <;> simp [h]

lemma filter_expected (b : Bool) : ((expected B p profile).map Artifact.path).toFinset.filter (fun path => isContribution path = b) =
    if b then ∅ else ((expected B p profile).map Artifact.path).toFinset := by
  ext path
  have h : path ∈ (expected B p profile).map Artifact.path → isContribution path = false := isContribution_expected
  cases b <;> simp only [Finset.mem_filter, List.mem_toFinset, Bool.false_eq_true, if_false, if_true, Finset.notMem_empty]
  · exact ⟨And.left, fun hm => ⟨hm, h hm⟩⟩
  · exact ⟨fun hm => by rw [h hm.1] at hm; exact absurd hm.2 Bool.false_ne_true, False.elim⟩

lemma filter_owner (b : Bool) : ownerContributions.toFinset.filter (fun path => isContribution path = b) =
    if b then ownerContributions.toFinset else ∅ := by
  ext path
  have h : path ∈ ownerContributions → isContribution path = true := isContribution_owner
  cases b <;> simp only [Finset.mem_filter, List.mem_toFinset, Bool.false_eq_true, if_false, if_true, Finset.notMem_empty]
  · exact ⟨fun hm => by rw [h hm.1] at hm; exact absurd hm.2.symm Bool.false_ne_true, False.elim⟩
  · exact ⟨And.left, fun hm => ⟨hm, h hm⟩⟩

/-- The two checks of a tree's files say that it is exact. -/
lemma accepted_iff (hd : tree.Distinct) {e : ContractError} :
    (artifactPaths B tree profile = .ok ((expected B p profile).map Artifact.path).toFinset ∧
      compareBytes tree e (expected B p profile) = .ok ()) ↔ Exact B p profile tree := by
  cases profile with
  | c0 =>
    constructor
    · rintro ⟨hpaths, hbytes⟩
      have hc := collects_of_ok hpaths
      exact ⟨hc.plain, .inl ((holds_iff hd hc).mpr ⟨rfl, (compareBytes_ok hd hc.plain).mp hbytes⟩)⟩
    · rintro ⟨hplain, h | ⟨h, -⟩⟩
      · obtain ⟨paths, hpaths⟩ := ok_of_plain hplain (named_of_holds h)
        obtain ⟨rfl, hbytes⟩ := (holds_iff hd (collects_of_ok hpaths)).mp h
        exact ⟨hpaths, (compareBytes_ok hd hplain).mpr hbytes⟩
      · cases h
  | releaseCandidate =>
    have hboth : ((expected B p .releaseCandidate ++ contributions B).map Artifact.path).toFinset =
        ((expected B p .releaseCandidate).map Artifact.path).toFinset ∪ ownerContributions.toFinset := by
      rw [List.map_append, List.toFinset_append, paths_contributions]
    constructor
    · rintro ⟨hpaths, hbytes⟩
      obtain ⟨paths, hcollect, hvalid, hothers⟩ := contractArtifactPaths_ok.mp hpaths
      have hc := collects_of_ok hcollect
      have hbytes := (compareBytes_ok hd hc.plain).mp hbytes
      refine ⟨hc.plain, ?_⟩
      rcases validateOwnerContributions_ok.mp hvalid with hnone | ⟨howner, hequal⟩
      · refine .inl ((holds_iff hd hc).mpr ⟨?_, hbytes⟩)
        rw [eq_of_filters hothers hnone, Finset.union_empty]
      · refine .inr ⟨rfl, (holds_iff hd hc).mpr ⟨?_, ?_⟩⟩
        · rw [eq_of_filters hothers howner, hboth]
        · exact List.forall_mem_append.mpr ⟨hbytes, (compareBytes_ok hd hc.plain).mp hequal⟩
    · rintro ⟨hplain, h | ⟨-, h⟩⟩
      · obtain ⟨paths, hpaths⟩ := ok_of_plain hplain (named_of_holds h)
        obtain ⟨rfl, hbytes⟩ := (holds_iff hd (collects_of_ok hpaths)).mp h
        refine ⟨contractArtifactPaths_ok.mpr ⟨_, hpaths, ?_, ?_⟩, (compareBytes_ok hd hplain).mpr hbytes⟩
        · exact validateOwnerContributions_ok.mpr (.inl (filter_expected true))
        · exact filter_expected false
      · obtain ⟨paths, hpaths⟩ := ok_of_plain hplain (named_of_holds h)
        obtain ⟨rfl, hbytes⟩ := (holds_iff hd (collects_of_ok hpaths)).mp h
        rw [hboth] at hpaths
        obtain ⟨hexpected, howner⟩ := List.forall_mem_append.mp hbytes
        refine ⟨contractArtifactPaths_ok.mpr ⟨_, hpaths, ?_, ?_⟩, (compareBytes_ok hd hplain).mpr hexpected⟩
        · refine validateOwnerContributions_ok.mpr (.inr ⟨?_, (compareBytes_ok hd hplain).mpr howner⟩)
          rw [Finset.filter_union, filter_expected, filter_owner]
          simp
        · rw [Finset.filter_union, filter_expected, filter_owner]
          simp

end Accepted

section Verified

variable {B : Build} {p : Provenance} {profile : SnapshotProfile} {tree tree' : Tree}

/-- The codec reads the manifests of this build as they were written. -/
def ReadsManifests (B : Build) (p : Provenance) : Prop :=
  ∀ profile, B.ReadsBack (manifestJson (manifestOf B.serde.toVec p (documents B profile) profile))

/-- A tree is verified when it is exact for the profile that its manifest names. -/
lemma verify_ok_iff (hp : validateProvenance p = .ok ()) (hread : ReadsManifests B p) (hd : tree.Distinct) :
    (∃ n, verify B p tree = .ok n) ↔ ∃ profile, fromManifest B tree = .ok profile ∧ Exact B p profile tree := by
  constructor
  · rintro ⟨n, h⟩
    simp only [verify, bind_ok, ensure_ok] at h
    obtain ⟨_, -, profile, hprofile, artifacts, hartifacts, actual, hactual, _, hset, _, hbytes, -⟩ := h
    cases expectedArtifacts_eq.symm.trans hartifacts
    exact ⟨profile, hprofile, (accepted_iff hd).mp ⟨hset ▸ hactual, hbytes⟩⟩
  · rintro ⟨profile, hprofile, hexact⟩
    have haccepted := (accepted_iff hd (e := .artifactBytes)).mpr hexact
    refine ⟨(expected B p profile).length, bind_ok.mpr ⟨(), hp, bind_ok.mpr ⟨profile, hprofile, bind_ok.mpr ⟨_, expectedArtifacts_eq,
      bind_ok.mpr ⟨_, haccepted.1, bind_ok.mpr ⟨(), ensure_ok.mpr rfl, bind_ok.mpr ⟨(), haccepted.2, ?_⟩⟩⟩⟩⟩⟩⟩
    rw [expected_find, expected_filter]
    exact bind_ok.mpr ⟨(), verifyManifest_own (hread profile), rfl⟩

lemma fromManifest_eq (hread : ReadsManifests B p) (hd : tree.Distinct)
    (h : (place manifestPath, (manifestArtifact B p (documents B profile) profile).bytes) ∈ tree.files) :
    fromManifest B tree = .ok profile := by
  rw [fromManifest, read_of_mem_files hd h]
  refine map_ok.mpr ⟨_, isReleaseCandidate_own (hread profile), ?_⟩
  cases profile <;> rfl

/-- An exact tree of a profile is verified. -/
lemma verify_of_exact (hp : validateProvenance p = .ok ()) (hread : ReadsManifests B p) (hd : tree.Distinct)
    (h : Exact B p profile tree) : ∃ n, verify B p tree = .ok n := by
  refine (verify_ok_iff hp hread hd).mpr ⟨profile, fromManifest_eq hread hd ?_, h⟩
  have hmem : manifestArtifact B p (documents B profile) profile ∈ expected B p profile := mem_expected.mpr (.inr rfl)
  rcases h.2 with h | ⟨-, h⟩
  · exact (h _ _).mpr ⟨_, hmem, rfl, rfl⟩
  · exact (h _ _).mpr ⟨_, List.mem_append_left _ hmem, rfl, rfl⟩

end Verified

section Generated

variable {B : Build} {p : Provenance} {profile : SnapshotProfile} {tree tree' : Tree}

/-- What stands in a tree after a write. -/
lemma write_ok {a : Artifact} (hd : tree.Distinct) (hpath : a.path ≠ [])
    (h : tree.write temporaryName a.bytes (place a.path) = (tree', .ok ())) :
    tree'.Distinct ∧ (tree.Plain → tree'.Plain) ∧ ∀ q b, (q, b) ∈ tree'.files ↔
      (q = place a.path ∧ b = a.bytes) ∨ (q ≠ place a.path ∧ (q, b) ∈ tree.files) := by
  obtain ⟨name, rest, hcons⟩ := List.exists_cons_of_ne_nil hpath
  rw [hcons] at h ⊢
  have hw := wrote_write hd h
  exact ⟨hw.distinct, hw.plain, hw.files⟩

/-- After all writes the artifacts stand in the tree, with the files at other places. -/
lemma writeArtifacts_ok {artifacts : List Artifact} (hd : tree.Distinct) (hpaths : ∀ a ∈ artifacts, a.path ≠ [])
    (hnodup : (artifacts.map Artifact.path).Nodup) (h : writeArtifacts artifacts tree = (tree', .ok ())) :
    tree'.Distinct ∧ (tree.Plain → tree'.Plain) ∧ ∀ q b, (q, b) ∈ tree'.files ↔
      (∃ a ∈ artifacts, q = place a.path ∧ b = a.bytes) ∨ ((∀ a ∈ artifacts, q ≠ place a.path) ∧ (q, b) ∈ tree.files) := by
  induction artifacts generalizing tree with
  | nil =>
    cases h
    exact ⟨hd, id, fun q b => by simp⟩
  | cons a rest ih =>
    obtain ⟨ha, hrest⟩ := List.nodup_cons.mp hnodup
    rw [writeArtifacts] at h
    split at h
    · rename_i middle hwrite
      obtain ⟨hd₁, hp₁, hf₁⟩ := write_ok hd (hpaths a List.mem_cons_self) hwrite
      obtain ⟨hd₂, hp₂, hf₂⟩ := ih hd₁ (fun b hb => hpaths b (List.mem_cons_of_mem _ hb)) hrest h
      refine ⟨hd₂, fun hplain => hp₂ (hp₁ hplain), fun q b => ?_⟩
      have hother : q = place a.path → ∀ c ∈ rest, q ≠ place c.path := by
        rintro rfl c hc heq
        exact ha (place_inj heq ▸ List.mem_map_of_mem hc)
      rw [hf₂, hf₁]
      rw [List.exists_mem_cons_iff, List.forall_mem_cons]
      constructor
      · rintro (h | ⟨hnot, ⟨hq, hb⟩ | ⟨hq, hf⟩⟩)
        · exact .inl (.inr h)
        · exact .inl (.inl ⟨hq, hb⟩)
        · exact .inr ⟨⟨hq, hnot⟩, hf⟩
      · rintro ((⟨hq, hb⟩ | h) | ⟨⟨hq, hnot⟩, hf⟩)
        · exact .inr ⟨hother hq, .inl ⟨hq, hb⟩⟩
        · exact .inl h
        · exact .inr ⟨hnot, .inr ⟨hq, hf⟩⟩
    · cases h

lemma planned_ok {artifacts : List Artifact} (h : planned B p profile tree = .ok artifacts) :
    artifacts = expected B p profile ∧ ∃ existing, artifactPaths B tree profile = .ok existing ∧
      existing ⊆ ((expected B p profile).map Artifact.path).toFinset := by
  simp only [planned, bind_ok, ensure_ok] at h
  obtain ⟨artifacts', hartifacts, existing, hexisting, _, hextra, hresult⟩ := h
  cases expectedArtifacts_eq.symm.trans hartifacts
  cases hresult
  exact ⟨rfl, existing, hexisting, Finset.sdiff_eq_empty_iff_subset.mp hextra⟩

lemma generateFrom_ok {plan : Except ContractError (List Artifact)} {n : Nat} (h : generateFrom plan tree = (tree', .ok n)) :
    ∃ artifacts, plan = .ok artifacts ∧ writeArtifacts artifacts tree = (tree', .ok ()) := by
  unfold generateFrom at h
  split at h
  · cases h
  · rename_i artifacts
    split at h
    · rename_i written hwritten
      cases h
      exact ⟨artifacts, rfl, hwritten⟩
    · cases h

/-- Where nothing is planned, nothing is written. -/
lemma generateFrom_refused {plan : Except ContractError (List Artifact)} (h : ∀ artifacts, plan ≠ .ok artifacts) :
    ∃ e, generateFrom plan tree = (tree, .error e) := by
  cases plan with
  | error e => exact ⟨e, rfl⟩
  | ok artifacts => exact absurd rfl (h artifacts)

lemma paths_ne_nil {a : Artifact} (h : a ∈ expected B p profile) : a.path ≠ [] := (paths_normal (path_expected h)).1

/-- The artifacts written over files that are among them. -/
lemma holds_written {paths : Finset Path} {kept : List Artifact} (hc : Collects tree paths)
    (hsub : ∀ path ∈ paths, path ∈ (expected B p profile).map Artifact.path ∨ path ∈ kept.map Artifact.path)
    (hkept : ∀ a ∈ kept, (place a.path, a.bytes) ∈ tree.files) (hd : tree.Distinct)
    (hdisjoint : ∀ a ∈ kept, a.path ∉ (expected B p profile).map Artifact.path)
    (h : ∀ q b, (q, b) ∈ tree'.files ↔ (∃ a ∈ expected B p profile, q = place a.path ∧ b = a.bytes) ∨
      ((∀ a ∈ expected B p profile, q ≠ place a.path) ∧ (q, b) ∈ tree.files)) :
    Holds tree' (expected B p profile ++ kept) := by
  intro q b
  rw [h]
  constructor
  · rintro (⟨a, ha, hq⟩ | ⟨hother, hq⟩)
    · exact ⟨a, List.mem_append_left _ ha, hq⟩
    · obtain ⟨path, rfl⟩ := hc.named q b hq
      rcases hsub path ((hc.mem path).mpr ⟨b, hq⟩) with hpath | hpath
      · obtain ⟨a, ha, rfl⟩ := List.mem_map.mp hpath
        exact absurd rfl (hother a ha)
      · obtain ⟨a, ha, rfl⟩ := List.mem_map.mp hpath
        have hb := (read_of_mem_files hd hq).symm.trans (read_of_mem_files hd (hkept a ha))
        exact ⟨a, List.mem_append_right _ ha, rfl, Option.some.inj hb⟩
  · rintro ⟨a, ha, rfl, rfl⟩
    rcases List.mem_append.mp ha with ha | ha
    · exact .inl ⟨a, ha, rfl, rfl⟩
    · refine .inr ⟨fun c hc heq => hdisjoint a ha ?_, hkept a ha⟩
      rw [place_inj heq]
      exact List.mem_map_of_mem hc

/-- A tree that generation has finished is exact. -/
lemma exact_of_generate {n : Nat} (hd : tree.Distinct) (h : generate B p tree = (tree', .ok n)) :
    tree'.Distinct ∧ Exact B p .c0 tree' := by
  obtain ⟨artifacts, hplan, hwritten⟩ := generateFrom_ok h
  obtain ⟨_, -, hplan⟩ := bind_ok.mp hplan
  obtain ⟨hartifacts, existing, hexisting, hsub⟩ := planned_ok hplan
  rw [hartifacts] at hwritten
  have hc := collects_of_ok hexisting
  obtain ⟨hd', hplain, hfiles⟩ := writeArtifacts_ok hd (fun a ha => paths_ne_nil ha) paths_expected_nodup hwritten
  refine ⟨hd', hplain hc.plain, .inl ?_⟩
  have hholds : Holds tree' (expected B p .c0 ++ []) :=
    holds_written hc (fun path hpath => .inl (List.mem_toFinset.mp (hsub hpath))) (fun _ ha => absurd ha List.not_mem_nil) hd
      (fun _ ha => absurd ha List.not_mem_nil) hfiles
  rwa [List.append_nil] at hholds

lemma requireOwnerContributions_ok {u : Unit} (h : requireOwnerContributions B tree = .ok u) :
    ∃ paths, collectRelativeFiles tree = .ok paths ∧
      paths.filter (fun path => isContribution path = true) = ownerContributions.toFinset ∧
      compareBytes tree .contributions (contributions B) = .ok () := by
  simp only [requireOwnerContributions, bind_ok, ensure_ok] at h
  obtain ⟨paths, hpaths, _, howner, hbytes⟩ := h
  exact ⟨paths, hpaths, howner, hbytes⟩

/-- The files that a release candidate may be written over. -/
lemma paths_of_planned {paths existing : Finset Path} (hcollect : collectRelativeFiles tree = .ok paths)
    (howner : paths.filter (fun path => isContribution path = true) = ownerContributions.toFinset)
    (hexisting : artifactPaths B tree .releaseCandidate = .ok existing)
    (hsub : existing ⊆ ((expected B p .releaseCandidate).map Artifact.path).toFinset) {path : Path} (hpath : path ∈ paths) :
    path ∈ (expected B p .releaseCandidate).map Artifact.path ∨ path ∈ (contributions B).map Artifact.path := by
  obtain ⟨paths', hcollect', -, hothers⟩ := contractArtifactPaths_ok.mp hexisting
  cases hcollect.symm.trans hcollect'
  rw [paths_contributions, ← List.mem_toFinset, ← List.mem_toFinset (l := ownerContributions)]
  rw [eq_of_filters hothers howner] at hpath
  exact (Finset.mem_union.mp hpath).imp_left fun h => hsub h

lemma exact_of_generateReleaseCandidate {n : Nat} (hd : tree.Distinct)
    (h : generateReleaseCandidate B p tree = (tree', .ok n)) : tree'.Distinct ∧ Exact B p .releaseCandidate tree' := by
  obtain ⟨artifacts, hplan, hwritten⟩ := generateFrom_ok h
  obtain ⟨_, hrequired, hplan⟩ := bind_ok.mp hplan
  obtain ⟨_, -, hplan⟩ := bind_ok.mp hplan
  obtain ⟨paths, hcollect, howner, hbytes⟩ := requireOwnerContributions_ok hrequired
  obtain ⟨hartifacts, existing, hexisting, hsub⟩ := planned_ok hplan
  rw [hartifacts] at hwritten
  have hc := collects_of_ok hcollect
  obtain ⟨hd', hplain, hfiles⟩ := writeArtifacts_ok hd (fun a ha => paths_ne_nil ha) paths_expected_nodup hwritten
  refine ⟨hd', hplain hc.plain, .inr ⟨rfl, holds_written hc (fun path hpath => ?_) ?_ hd (fun a ha hmem => ?_) hfiles⟩⟩
  · exact paths_of_planned hcollect howner hexisting hsub hpath
  · exact (compareBytes_ok hd hc.plain).mp hbytes
  · have htrue : isContribution a.path = true := isContribution_owner (paths_contributions ▸ List.mem_map_of_mem ha)
    rw [isContribution_expected hmem] at htrue
    cases htrue

variable (B p) in
/-- A file that is neither an artifact of the profile nor, in a release candidate, a contribution. -/
def Unexpected (profile : SnapshotProfile) (q : List (Option String)) : Prop :=
  (∀ a ∈ expected B p profile, q ≠ place a.path) ∧
    (profile = .releaseCandidate → ∀ a ∈ contributions B, q ≠ place a.path)

lemma generate_refused (h : ¬ tree.Plain ∨ ∃ q b, (q, b) ∈ tree.files ∧ Unexpected B p .c0 q) :
    ∃ e, generate B p tree = (tree, .error e) := by
  refine generateFrom_refused fun artifacts hplan => ?_
  obtain ⟨_, -, hplan⟩ := bind_ok.mp hplan
  obtain ⟨-, existing, hexisting, hsub⟩ := planned_ok hplan
  have hc := collects_of_ok hexisting
  rcases h with h | ⟨q, b, hq, hunexpected, -⟩
  · exact h hc.plain
  · obtain ⟨path, rfl⟩ := hc.named q b hq
    have hpath := hsub ((hc.mem path).mpr ⟨b, hq⟩)
    obtain ⟨a, ha, rfl⟩ := List.mem_map.mp (List.mem_toFinset.mp hpath)
    exact hunexpected a ha rfl

lemma generateReleaseCandidate_refused (h : ¬ tree.Plain ∨ ∃ q b, (q, b) ∈ tree.files ∧ Unexpected B p .releaseCandidate q) :
    ∃ e, generateReleaseCandidate B p tree = (tree, .error e) := by
  refine generateFrom_refused fun artifacts hplan => ?_
  obtain ⟨_, hrequired, hplan⟩ := bind_ok.mp hplan
  obtain ⟨_, -, hplan⟩ := bind_ok.mp hplan
  obtain ⟨paths, hcollect, howner, -⟩ := requireOwnerContributions_ok hrequired
  obtain ⟨-, existing, hexisting, hsub⟩ := planned_ok hplan
  have hc := collects_of_ok hcollect
  rcases h with h | ⟨q, b, hq, hartifact, hcontribution⟩
  · exact h hc.plain
  · obtain ⟨path, rfl⟩ := hc.named q b hq
    rcases paths_of_planned hcollect howner hexisting hsub ((hc.mem path).mpr ⟨b, hq⟩) with hpath | hpath
    · obtain ⟨a, ha, rfl⟩ := List.mem_map.mp hpath
      exact hartifact a ha rfl
    · obtain ⟨a, ha, rfl⟩ := List.mem_map.mp hpath
      exact hcontribution rfl a ha rfl

end Generated

section Main

variable {B : Build} {p : Provenance}

/-- A tree is verified exactly when it holds what the profile of its own manifest expects; generation leaves a tree that
is verified, and writes to no tree with anything unexpected in it. -/
theorem contract_tree_exact (hp : validateProvenance p = .ok ()) (hread : ReadsManifests B p) (tree : Tree)
    (hd : tree.Distinct) :
    ((∃ n, verify B p tree = .ok n) ↔ ∃ profile, fromManifest B tree = .ok profile ∧ Exact B p profile tree) ∧
      (∀ tree' n, generate B p tree = (tree', .ok n) → ∃ m, verify B p tree' = .ok m) ∧
      (∀ tree' n, generateReleaseCandidate B p tree = (tree', .ok n) → ∃ m, verify B p tree' = .ok m) ∧
      ((¬ tree.Plain ∨ ∃ q b, (q, b) ∈ tree.files ∧ Unexpected B p .c0 q) → ∃ e, generate B p tree = (tree, .error e)) ∧
      ((¬ tree.Plain ∨ ∃ q b, (q, b) ∈ tree.files ∧ Unexpected B p .releaseCandidate q) →
        ∃ e, generateReleaseCandidate B p tree = (tree, .error e)) := by
  refine ⟨verify_ok_iff hp hread hd, fun tree' n h => ?_, fun tree' n h => ?_, generate_refused,
    generateReleaseCandidate_refused⟩
  · obtain ⟨hd', hexact⟩ := exact_of_generate hd h
    exact verify_of_exact hp hread hd' hexact
  · obtain ⟨hd', hexact⟩ := exact_of_generateReleaseCandidate hd h
    exact verify_of_exact hp hread hd' hexact

mutual

/-- A value as `serde_json` prints it, with its fields on lines of their own. -/
def prettyJson (indent : Nat) : Json → Bytes
  | .null => utf8 "null"
  | .bool value => utf8 (if value then "true" else "false")
  | .num value => utf8 (toString value)
  | .str value => utf8 ("\"" ++ value ++ "\"")
  | .arr [] => utf8 "[]"
  | .arr items => utf8 "[\n" ++ prettyItems (indent + 2) items ++ 10 :: List.replicate indent 32 ++ utf8 "]"
  | .obj [] => utf8 "\x7b\x7d"
  | .obj fields => utf8 "\x7b\n" ++ prettyFields (indent + 2) fields ++ 10 :: List.replicate indent 32 ++ utf8 "\x7d"

def prettyItems (indent : Nat) : List Json → Bytes
  | [] => []
  | [j] => List.replicate indent 32 ++ prettyJson indent j
  | j :: rest => List.replicate indent 32 ++ prettyJson indent j ++ utf8 ",\n" ++ prettyItems indent rest

def prettyFields (indent : Nat) : List (String × Json) → Bytes
  | [] => []
  | [(key, j)] => List.replicate indent 32 ++ utf8 ("\"" ++ key ++ "\": ") ++ prettyJson indent j
  | (key, j) :: rest =>
    List.replicate indent 32 ++ utf8 ("\"" ++ key ++ "\": ") ++ prettyJson indent j ++ utf8 ",\n" ++ prettyFields indent rest

end

def dirty : Provenance := ⟨none, "dirty", "0.1.0", "0.1.0"⟩

/-- A build with empty documents, before its manifests are known. -/
def bareBuild : Build where
  serde := ⟨prettyJson 0, canonicalJson (prettyJson 0), fun _ => none⟩
  document _ _ := .null
  contribution _ := []

def smallManifest (profile : SnapshotProfile) : Json :=
  manifestJson (manifestOf bareBuild.serde.toVec dirty (documents bareBuild profile) profile)

def readSmall (bytes : Bytes) : Option Json :=
  if bytes = prettyJson 0 (smallManifest .releaseCandidate) ++ [10] then some (smallManifest .releaseCandidate)
  else if bytes = prettyJson 0 (smallManifest .c0) ++ [10] then some (smallManifest .c0)
  else none

def smallBuild : Build := { bareBuild with serde := { bareBuild.serde with fromSlice := readSmall } }

lemma smallManifest_ne : prettyJson 0 (smallManifest .c0) ++ [10] ≠ prettyJson 0 (smallManifest .releaseCandidate) ++ [10] := by
  intro h
  have hsixth : some (101 : UInt8) = some 116 := congrArg (fun bytes : Bytes => bytes[6]?) h
  cases hsixth

lemma smallBuild_manifest (profile : SnapshotProfile) :
    manifestJson (manifestOf smallBuild.serde.toVec dirty (documents smallBuild profile) profile) = smallManifest profile := by
  have hdocuments : documents smallBuild profile = documents bareBuild profile := by
    simp only [documents, Artifact.json, smallBuild]
  have hwrite : smallBuild.serde.toVec = bareBuild.serde.toVec := by
    simp only [smallBuild]
  rw [hdocuments, hwrite, smallManifest]

lemma smallBuild_reads : ReadsManifests smallBuild dirty := by
  intro profile
  have hread : ∀ value, smallBuild.ReadsBack value ↔ readSmall (prettyJson 0 value ++ [10]) = some value := fun _ => Iff.rfl
  rw [smallBuild_manifest, hread, readSmall]
  cases profile with
  | c0 => rw [if_neg smallManifest_ne, if_pos rfl]
  | releaseCandidate => rw [if_pos rfl]

/-- A tree with a file that no profile knows. -/
def strayNotes : Tree := .file (some "notes.txt") [] .empty

theorem strayNotes_refused : validateProvenance dirty = .ok () ∧ ReadsManifests smallBuild dirty ∧
    (strayNotes.Distinct ∧ (∃ q b, (q, b) ∈ strayNotes.files ∧ Unexpected smallBuild dirty .c0 q) ∧
      ∃ e, generate smallBuild dirty strayNotes = (strayNotes, .error e)) ∧
    (generate smallBuild dirty .empty).2 = .ok 16 ∧
      ∃ m, verify smallBuild dirty (generate smallBuild dirty .empty).1 = .ok m := by
  have hp : validateProvenance dirty = .ok () := by decide
  have hd : strayNotes.Distinct := ⟨List.not_mem_nil, trivial⟩
  have hstray : ∃ q b, (q, b) ∈ strayNotes.files ∧ Unexpected smallBuild dirty .c0 q := by
    refine ⟨[some "notes.txt"], [], List.mem_cons_self, fun a ha heq => ?_, fun h => by cases h⟩
    have hpath : ["notes.txt"] = a.path := place_inj heq
    have hnot : ["notes.txt"] ∉ documentPaths .c0 ++ [manifestPath] := by decide
    exact hnot (hpath ▸ path_expected ha)
  have hempty : (generate smallBuild dirty .empty).2 = .ok 16 := by decide
  have hstrays := contract_tree_exact hp smallBuild_reads strayNotes hd
  have hgenerated := (contract_tree_exact hp smallBuild_reads .empty trivial).2.1 _ 16 (Prod.ext rfl hempty)
  exact ⟨hp, smallBuild_reads, ⟨hd, hstray, hstrays.2.2.2.1 (.inr hstray)⟩, hempty, hgenerated⟩

end Main

end JamyeServer.Contracts
