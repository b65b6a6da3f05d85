import Mathlib.Data.List.Nodup

/-!
# Directory trees

The content of a directory: regular files, directories, and other entries (links, devices, pipes), over any type of
names. A regular file is known by the names on the way to it. Reading follows links; writing goes through a temporary
file that is renamed onto its destination.
-/

namespace JamyeServer

abbrev Bytes := List UInt8

inductive EntryKind
  | symlink
  | special
deriving DecidableEq

/-- The entries of a directory, one after another. Another entry is known by what a reader gets from it. -/
inductive Directory (ν : Type)
  | empty
  | file (name : ν) (bytes : Bytes) (rest : Directory ν)
  | other (kind : EntryKind) (name : ν) (content : Option Bytes) (rest : Directory ν)
  | directory (name : ν) (sub rest : Directory ν)

namespace Directory

variable {ν : Type}

def names : Directory ν → List ν
  | empty => []
  | file n _ rest => n :: rest.names
  | other _ n _ rest => n :: rest.names
  | directory n _ rest => n :: rest.names

/-- No two entries of a directory have one name. -/
def Distinct : Directory ν → Prop
  | empty => True
  | file n _ rest => n ∉ rest.names ∧ rest.Distinct
  | other _ n _ rest => n ∉ rest.names ∧ rest.Distinct
  | directory n sub rest => n ∉ rest.names ∧ sub.Distinct ∧ rest.Distinct

/-- Files and directories only. -/
def Plain : Directory ν → Prop
  | empty => True
  | file _ _ rest => rest.Plain
  | other _ _ _ _ => False
  | directory _ sub rest => sub.Plain ∧ rest.Plain

/-- The regular files with the ways to them. -/
def files : Directory ν → List (List ν × Bytes)
  | empty => []
  | file n b rest => ([n], b) :: rest.files
  | other _ _ _ rest => rest.files
  | directory n sub rest => (sub.files.map fun f => (n :: f.1, f.2)) ++ rest.files

section Files

variable {d sub rest : Directory ν} {n m : ν} {q : List ν} {b c : Bytes}

lemma mem_names_of_mem_files (h : (q, b) ∈ d.files) : ∃ n q', q = n :: q' ∧ n ∈ d.names := by
  induction d generalizing q b with
  | empty => cases h
  | file n c rest ih =>
    rcases List.mem_cons.mp h with h | h
    · cases h
      exact ⟨n, [], rfl, List.mem_cons_self⟩
    · obtain ⟨m, q', hq, hm⟩ := ih h
      exact ⟨m, q', hq, List.mem_cons_of_mem _ hm⟩
  | other k n t rest ih =>
    obtain ⟨m, q', hq, hm⟩ := ih h
    exact ⟨m, q', hq, List.mem_cons_of_mem _ hm⟩
  | directory n sub rest ihs ih =>
    rcases List.mem_append.mp h with h | h
    · obtain ⟨f, hf, heq⟩ := List.mem_map.mp h
      cases heq
      exact ⟨n, f.1, rfl, List.mem_cons_self⟩
    · obtain ⟨m, q', hq, hm⟩ := ih h
      exact ⟨m, q', hq, List.mem_cons_of_mem _ hm⟩

lemma nil_not_mem_files : ([], b) ∉ d.files := by
  intro h
  obtain ⟨n, q', hq, -⟩ := mem_names_of_mem_files h
  cases hq

lemma not_mem_files_of_not_mem_names (h : n ∉ d.names) : (n :: q, b) ∉ d.files := by
  intro hmem
  obtain ⟨m, q', hq, hm⟩ := mem_names_of_mem_files hmem
  cases hq
  exact h hm

lemma mem_files_file : (q, b) ∈ (file n c rest).files ↔ (q = [n] ∧ b = c) ∨ (q, b) ∈ rest.files := by
  simp [files]

lemma mem_files_directory :
    (m :: q, b) ∈ (directory n sub rest).files ↔ (m = n ∧ (q, b) ∈ sub.files) ∨ (m :: q, b) ∈ rest.files := by
  simp only [files, List.mem_append, List.mem_map, Prod.mk.injEq, List.cons.injEq, Prod.exists]
  constructor
  · rintro (⟨q', b', h, ⟨rfl, rfl⟩, rfl⟩ | h)
    · exact .inl ⟨rfl, h⟩
    · exact .inr h
  · rintro (⟨rfl, h⟩ | h)
    · exact .inl ⟨q, b, h, ⟨rfl, rfl⟩, rfl⟩
    · exact .inr h

end Files

section Reading

variable [DecidableEq ν] {d : Directory ν} {q : List ν} {b : Bytes}

/-- Reads the entry at a place. -/
def read : Directory ν → List ν → Option Bytes
  | empty, _ => none
  | file m b rest, place => if place = [m] then some b else rest.read place
  | other _ m content rest, place => if place = [m] then content else rest.read place
  | directory m sub rest, place => if place.head? = some m then sub.read place.tail else rest.read place

/-- A regular file is read as it is. -/
lemma read_of_mem_files (hd : d.Distinct) (h : (q, b) ∈ d.files) : d.read q = some b := by
  induction d generalizing q with
  | empty => cases h
  | file n c rest ih =>
    rcases mem_files_file.mp h with ⟨rfl, rfl⟩ | h
    · exact if_pos rfl
    · have hne : q ≠ [n] := fun hq => not_mem_files_of_not_mem_names hd.1 (hq ▸ h)
      exact (if_neg hne).trans (ih hd.2 h)
  | other k n t rest ih =>
    have hne : q ≠ [n] := fun hq => not_mem_files_of_not_mem_names hd.1 (hq ▸ h)
    exact (if_neg hne).trans (ih hd.2 h)
  | directory n sub rest ihs ih =>
    cases q with
    | nil => exact absurd h nil_not_mem_files
    | cons m q =>
      rcases mem_files_directory.mp h with ⟨rfl, hs⟩ | hr
      · exact (if_pos rfl).trans (ihs hd.2.1 hs)
      · have hne : (m :: q).head? ≠ some n := fun hm =>
          not_mem_files_of_not_mem_names hd.1 (Option.some.inj hm ▸ hr)
        exact (if_neg hne).trans (ih hd.2.2 hr)

/-- What is read in a tree of files is one of them. -/
lemma mem_files_of_read (hd : d.Plain) (h : d.read q = some b) : (q, b) ∈ d.files := by
  induction d generalizing q with
  | empty => cases h
  | file n c rest ih =>
    by_cases hq : q = [n]
    · subst hq
      cases (if_pos rfl).symm.trans h
      exact List.mem_cons_self
    · exact List.mem_cons_of_mem _ (ih hd ((if_neg hq).symm.trans h))
  | other k n t rest ih => exact hd.elim
  | directory n sub rest ihs ih =>
    by_cases hq : q.head? = some n
    · obtain ⟨q', rfl⟩ : ∃ q', q = n :: q' := List.head?_eq_some_iff.mp hq
      exact mem_files_directory.mpr (.inl ⟨rfl, ihs hd.1 ((if_pos hq).symm.trans h)⟩)
    · exact List.mem_append_right _ (ih hd.2 ((if_neg hq).symm.trans h))

end Reading

section Wrote

/-- The file stands at its place, and nothing else has changed. -/
structure Wrote (d d' : Directory ν) (n : ν) (place : List ν) (b : Bytes) : Prop where
  distinct : d'.Distinct
  names : ∀ m ∈ d'.names, m = n ∨ m ∈ d.names
  plain : d.Plain → d'.Plain
  files : ∀ q c, (q, c) ∈ d'.files ↔ (q = n :: place ∧ c = b) ∨ (q ≠ n :: place ∧ (q, c) ∈ d.files)

variable {d d' sub sub' rest rest' : Directory ν} {n m : ν} {place : List ν} {b c : Bytes}

lemma Wrote.not_mem_names (h : Wrote rest rest' n place b) (hne : m ≠ n) (hm : m ∉ rest.names) : m ∉ rest'.names := by
  intro hmem
  rcases h.names m hmem with h | h
  · exact hne h
  · exact hm h

lemma mem_cons_of_names (h : Wrote rest rest' n place b) : ∀ x ∈ m :: rest'.names, x = n ∨ x ∈ m :: rest.names := by
  intro x hx
  rcases List.mem_cons.mp hx with rfl | hx
  · exact .inr List.mem_cons_self
  · exact (h.names x hx).imp_right (List.mem_cons_of_mem _)

/-- An entry of another name stays before what is written. -/
lemma Wrote.file_cons (h : Wrote rest rest' n place b) (hne : m ≠ n) (hm : m ∉ rest.names) :
    Wrote (file m c rest) (file m c rest') n place b where
  distinct := ⟨h.not_mem_names hne hm, h.distinct⟩
  names := mem_cons_of_names h
  plain := h.plain
  files q x := by
    have hq : q = [m] → q ≠ n :: place := by
      rintro rfl heq
      exact hne (List.cons.inj heq).1
    rw [mem_files_file, mem_files_file, h.files]
    tauto

lemma Wrote.other_cons {k : EntryKind} {t : Option Bytes} (h : Wrote rest rest' n place b) (hne : m ≠ n) (hm : m ∉ rest.names) :
    Wrote (other k m t rest) (other k m t rest') n place b where
  distinct := ⟨h.not_mem_names hne hm, h.distinct⟩
  names := mem_cons_of_names h
  plain := False.elim
  files := h.files

lemma Wrote.directory_cons (h : Wrote rest rest' n place b) (hne : m ≠ n) (hm : m ∉ rest.names) (hsub : sub.Distinct) :
    Wrote (directory m sub rest) (directory m sub rest') n place b where
  distinct := ⟨h.not_mem_names hne hm, hsub, h.distinct⟩
  names := mem_cons_of_names h
  plain hp := ⟨hp.1, h.plain hp.2⟩
  files q x := by
    cases q with
    | nil => simp [nil_not_mem_files]
    | cons a q =>
      have hq : a = m → a :: q ≠ n :: place := by
        rintro rfl heq
        exact hne (List.cons.inj heq).1
      rw [mem_files_directory, mem_files_directory, h.files]
      tauto

/-- A file that takes the place of an entry which is no directory. -/
lemma wrote_file (hd : rest.Distinct) (hn : n ∉ rest.names) (hnames : d.names = n :: rest.names) (hplain : d.Plain → rest.Plain)
    (hfiles : ∀ q x, q ≠ [n] → ((q, x) ∈ d.files ↔ (q, x) ∈ rest.files)) : Wrote d (file n b rest) n [] b where
  distinct := ⟨hn, hd⟩
  names m hm := .inr (hnames ▸ hm)
  plain := hplain
  files q x := by
    rw [mem_files_file]
    by_cases hq : q = [n]
    · subst hq
      have := not_mem_files_of_not_mem_names (q := []) (b := x) hn
      tauto
    · rw [hfiles q x hq]
      tauto

/-- What is written in a directory is written below its name. -/
lemma Wrote.inside {k : ν} (h : Wrote sub sub' k place b) (hd : rest.Distinct) (hn : n ∉ rest.names) :
    Wrote (directory n sub rest) (directory n sub' rest) n (k :: place) b where
  distinct := ⟨hn, h.distinct, hd⟩
  names m hm := .inr hm
  plain hp := ⟨h.plain hp.1, hp.2⟩
  files q x := by
    cases q with
    | nil => simp [nil_not_mem_files]
    | cons a q =>
      rw [mem_files_directory, mem_files_directory, h.files]
      by_cases ha : a = n
      · subst ha
        have := not_mem_files_of_not_mem_names (q := q) (b := x) hn
        simp only [List.cons.injEq, true_and, ne_eq]
        tauto
      · have hne : a :: q ≠ n :: k :: place := fun heq => ha (List.cons.inj heq).1
        tauto

end Wrote

section Writing

inductive WriteError
  | notADirectory
  | isADirectory
  | stale
  | noName
deriving DecidableEq

variable [DecidableEq ν]

/-- Goes into the directory of the name, which is made if there is no such entry. What has been made stays when the rest
fails. -/
def inside (n : ν) (f : Directory ν → Directory ν × Except WriteError Unit) : Directory ν → Directory ν × Except WriteError Unit
  | empty => (directory n (f empty).1 empty, (f empty).2)
  | file m b rest =>
    if m = n then (file m b rest, .error .notADirectory) else (file m b (rest.inside n f).1, (rest.inside n f).2)
  | other k m t rest =>
    if m = n then (other k m t rest, .error .notADirectory) else (other k m t (rest.inside n f).1, (rest.inside n f).2)
  | directory m sub rest =>
    if m = n then (directory m (f sub).1 rest, (f sub).2) else (directory m sub (rest.inside n f).1, (rest.inside n f).2)

/-- Renames a written file onto the name: it takes the place of anything but a directory. -/
def rename (n : ν) (b : Bytes) : Directory ν → Option (Directory ν)
  | empty => some (file n b empty)
  | file m c rest => if m = n then some (file n b rest) else (rest.rename n b).map (file m c)
  | other k m t rest => if m = n then some (file n b rest) else (rest.rename n b).map (other k m t)
  | directory m sub rest => if m = n then none else (rest.rename n b).map (directory m sub)

/-- Writes a file through a temporary one beside it. -/
def write (temporary : ν → ν) (b : Bytes) : List ν → Directory ν → Directory ν × Except WriteError Unit
  | [], d => (d, .error .noName)
  | [n], d =>
    if temporary n ∈ d.names then (d, .error .stale)
    else match d.rename n b with
      | some d' => (d', .ok ())
      | none => (d, .error .isADirectory)
  | n :: m :: place, d => d.inside n (write temporary b (m :: place))

variable {d d' : Directory ν} {n : ν} {place : List ν} {b : Bytes}

lemma wrote_rename (hd : d.Distinct) (h : d.rename n b = some d') : Wrote d d' n [] b := by
  induction d generalizing d' with
  | empty =>
    cases h
    exact ⟨⟨List.not_mem_nil, trivial⟩, fun m hm => .inl (List.mem_singleton.mp hm), id, by simp [files]⟩
  | file m c rest ih =>
    by_cases hm : m = n
    · subst hm
      cases (if_pos rfl).symm.trans h
      refine wrote_file hd.2 hd.1 rfl id fun q x hq => ?_
      rw [mem_files_file]
      tauto
    · obtain ⟨rest', hr, rfl⟩ := Option.map_eq_some_iff.mp ((if_neg hm).symm.trans h)
      exact (ih hd.2 hr).file_cons hm hd.1
  | other kind m t rest ih =>
    by_cases hm : m = n
    · subst hm
      cases (if_pos rfl).symm.trans h
      exact wrote_file hd.2 hd.1 rfl False.elim fun q x hq => Iff.rfl
    · obtain ⟨rest', hr, rfl⟩ := Option.map_eq_some_iff.mp ((if_neg hm).symm.trans h)
      exact (ih hd.2 hr).other_cons hm hd.1
  | directory m sub rest ihs ih =>
    by_cases hm : m = n
    · cases (if_pos hm).symm.trans h
    · obtain ⟨rest', hr, rfl⟩ := Option.map_eq_some_iff.mp ((if_neg hm).symm.trans h)
      exact (ih hd.2.2 hr).directory_cons hm hd.1 hd.2.1

lemma wrote_inside {k : ν} {f : Directory ν → Directory ν × Except WriteError Unit}
    (hf : ∀ {sub sub'}, sub.Distinct → f sub = (sub', .ok ()) → Wrote sub sub' k place b) (hd : d.Distinct)
    (h : d.inside n f = (d', .ok ())) : Wrote d d' n (k :: place) b := by
  induction d generalizing d' with
  | empty =>
    obtain ⟨rfl, hr⟩ := Prod.mk.inj h
    have hsub : Wrote empty (f empty).1 k place b := hf trivial (Prod.ext rfl hr)
    have hw : Wrote (directory n empty empty) (directory n (f empty).1 empty) n (k :: place) b :=
      hsub.inside trivial List.not_mem_nil
    refine ⟨hw.distinct, fun m hm => .inl (List.mem_singleton.mp hm), fun _ => hw.plain ⟨trivial, trivial⟩, fun q x => ?_⟩
    rw [hw.files]
    rfl
  | file m c rest ih =>
    by_cases hm : m = n
    · cases (if_pos hm).symm.trans h
    · obtain ⟨rfl, hr⟩ := Prod.mk.inj ((if_neg hm).symm.trans h)
      exact (ih hd.2 (Prod.ext rfl hr)).file_cons hm hd.1
  | other kind m t rest ih =>
    by_cases hm : m = n
    · cases (if_pos hm).symm.trans h
    · obtain ⟨rfl, hr⟩ := Prod.mk.inj ((if_neg hm).symm.trans h)
      exact (ih hd.2 (Prod.ext rfl hr)).other_cons hm hd.1
  | directory m sub rest ihs ih =>
    by_cases hm : m = n
    · subst hm
      obtain ⟨rfl, hr⟩ := Prod.mk.inj ((if_pos rfl).symm.trans h)
      exact (hf hd.2.1 (Prod.ext rfl hr)).inside hd.2.2 hd.1
    · obtain ⟨rfl, hr⟩ := Prod.mk.inj ((if_neg hm).symm.trans h)
      exact (ih hd.2.2 (Prod.ext rfl hr)).directory_cons hm hd.1 hd.2.1

/-- A write that succeeds leaves its file and every other. -/
theorem wrote_write {temporary : ν → ν} (hd : d.Distinct) (h : d.write temporary b (n :: place) = (d', .ok ())) :
    Wrote d d' n place b := by
  induction place generalizing n d d' with
  | nil =>
    simp only [write] at h
    split_ifs at h
    · cases h
    · split at h
      · cases h
        exact wrote_rename hd ‹_›
      · cases h
  | cons m place ih => exact wrote_inside (fun hsub hw => ih hsub hw) hd h

end Writing

end Directory

end JamyeServer
