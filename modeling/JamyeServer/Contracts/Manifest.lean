import Mathlib.Data.String.Basic
import JamyeServer.FileTree
import JamyeServer.Json
import JamyeServer.Keyset

/-!
# The contract manifest

A snapshot of the contract holds a manifest of its own: where it comes from, the artifacts it lists, and a SHA-256
checksum over all of them. `serde_json` and the documents that the snapshot is made of are parameters.
-/

namespace JamyeServer.Contracts

open Keyset

section Sha256

def initialState : List UInt32 := [0x6a09e667, 0xbb67ae85, 0x3c6ef372, 0xa54ff53a, 0x510e527f, 0x9b05688c, 0x1f83d9ab, 0x5be0cd19]

def roundConstants : List UInt32 :=
  [0x428a2f98, 0x71374491, 0xb5c0fbcf, 0xe9b5dba5, 0x3956c25b, 0x59f111f1, 0x923f82a4, 0xab1c5ed5,
  0xd807aa98, 0x12835b01, 0x243185be, 0x550c7dc3, 0x72be5d74, 0x80deb1fe, 0x9bdc06a7, 0xc19bf174,
  0xe49b69c1, 0xefbe4786, 0x0fc19dc6, 0x240ca1cc, 0x2de92c6f, 0x4a7484aa, 0x5cb0a9dc, 0x76f988da,
  0x983e5152, 0xa831c66d, 0xb00327c8, 0xbf597fc7, 0xc6e00bf3, 0xd5a79147, 0x06ca6351, 0x14292967,
  0x27b70a85, 0x2e1b2138, 0x4d2c6dfc, 0x53380d13, 0x650a7354, 0x766a0abb, 0x81c2c92e, 0x92722c85,
  0xa2bfe8a1, 0xa81a664b, 0xc24b8b70, 0xc76c51a3, 0xd192e819, 0xd6990624, 0xf40e3585, 0x106aa070,
  0x19a4c116, 0x1e376c08, 0x2748774c, 0x34b0bcb5, 0x391c0cb3, 0x4ed8aa4a, 0x5b9cca4f, 0x682e6ff3,
  0x748f82ee, 0x78a5636f, 0x84c87814, 0x8cc70208, 0x90befffa, 0xa4506ceb, 0xbef9a3f7, 0xc67178f2]

def rotateRight (x n : UInt32) : UInt32 := (x >>> n) ||| (x <<< (32 - n))

/-- The next word of the schedule. -/
def extend (schedule : Array UInt32) : Array UInt32 :=
  let word (back : Nat) := schedule.getD (schedule.size - back) 0
  let s0 := rotateRight (word 15) 7 ^^^ rotateRight (word 15) 18 ^^^ (word 15 >>> 3)
  let s1 := rotateRight (word 2) 17 ^^^ rotateRight (word 2) 19 ^^^ (word 2 >>> 10)
  schedule.push (word 16 + s0 + word 7 + s1)

def words : Bytes → List UInt32
  | a :: b :: c :: d :: rest =>
    ((a.toUInt32 <<< 24) ||| (b.toUInt32 <<< 16) ||| (c.toUInt32 <<< 8) ||| d.toUInt32) :: words rest
  | _ => []

def schedule (chunk : Bytes) : Array UInt32 := extend^[48] (words chunk).toArray

/-- One round, with its constant and its word of the schedule. -/
def round : List UInt32 → UInt32 × UInt32 → List UInt32
  | [a, b, c, d, e, f, g, h], (constant, word) =>
    let sum1 := rotateRight e 6 ^^^ rotateRight e 11 ^^^ rotateRight e 25
    let choose := (e &&& f) ^^^ (~~~e &&& g)
    let temporary1 := h + sum1 + choose + constant + word
    let sum0 := rotateRight a 2 ^^^ rotateRight a 13 ^^^ rotateRight a 22
    let majority := (a &&& b) ^^^ (a &&& c) ^^^ (b &&& c)
    [temporary1 + (sum0 + majority), a, b, c, d + temporary1, e, f, g]
  | state, _ => state

def compress (state : List UInt32) (chunk : Bytes) : List UInt32 :=
  state.zipWith (· + ·) ((roundConstants.zip (schedule chunk).toList).foldl round state)

def padded (input : Bytes) : Bytes :=
  let bitLength := input.length * 8
  input ++ 0x80 :: List.replicate ((119 - input.length % 64) % 64) 0 ++
    (List.range 8).map fun i => UInt8.ofNat (bitLength / 256 ^ (7 - i))

def digestHex (input : Bytes) : String :=
  let chunks := (List.range ((padded input).length / 64)).map fun i => ((padded input).drop (64 * i)).take 64
  let state := chunks.foldl compress initialState
  String.join (state.map fun word => String.ofList (List.leftpad 8 '0' (Nat.toDigits 16 word.toNat)))

end Sha256

section Parameters

/-- The names on the way to a file: joined with slashes, the path that the source keeps. -/
abbrev Path := List String

def Path.joined (path : Path) : String := "/".intercalate path

structure Artifact where
  path : Path
  bytes : Bytes
deriving DecidableEq

inductive SnapshotProfile
  | c0
  | releaseCandidate
deriving DecidableEq

/-- `serde_json` between values and their text: pretty and compact writing, and reading. -/
structure Serde where
  toVecPretty : Json → Bytes
  toVec : Json → Bytes
  fromSlice : Bytes → Option Json

/-- What is compiled in: the documents of the snapshot and the contributions of its owners. -/
structure Build where
  serde : Serde
  document : SnapshotProfile → Path → Json
  contribution : Path → Bytes

variable (B : Build)

/-- `Artifact::json`. -/
def Artifact.json (path : Path) (value : Json) : Artifact := ⟨path, B.serde.toVecPretty value ++ [10]⟩

/-- The codec reads the artifact of a document as the document. -/
def Build.ReadsBack (value : Json) : Prop := B.serde.fromSlice (B.serde.toVecPretty value ++ [10]) = some value

end Parameters

inductive ContractError
  | provenance
  | io
  | json
  | unsafePath
  | duplicatePath
  | symlink
  | nonFile
  | notUtf8
  | contributions
  | extraFiles
  | artifactSet
  | artifactBytes
  | manifestAbsent
  | manifestStage
  | manifestProvenance
  | manifestAlgorithm
  | manifestArtifacts
  | manifestOperations
  | manifestDiscriminants
  | manifestChecksum
  | write (e : Directory.WriteError)
deriving DecidableEq

section Provenance

structure Provenance where
  serverTag : Option String
  serverCommit : String
  contractVersion : String
  serverVersion : String
deriving DecidableEq

def isAsciiHexdigit (c : Char) : Bool := c.isDigit || ('a' ≤ c && c ≤ 'f') || ('A' ≤ c && c ≤ 'F')

def validateProvenance (p : Provenance) : Except ContractError Unit :=
  if p.serverVersion.isEmpty || p.contractVersion.isEmpty then .error .provenance
  else if p.serverCommit = "dirty" then
    if p.serverTag.isSome then .error .provenance else .ok ()
  else if ¬ ((p.serverCommit.utf8ByteSize = 40 ∨ p.serverCommit.utf8ByteSize = 64) ∧
      p.serverCommit.toList.all isAsciiHexdigit = true) then
    .error .provenance
  else if (p.serverTag.map String.isEmpty).getD true then .error .provenance
  else .ok ()

end Provenance

section Manifest

def checksumAlgorithm : String :=
  "sha256 over lexicographic path,NUL,decimal-length,NUL,bytes entries; manifest.json uses recursively key-sorted compact JSON without sha256; v1"

def manifestPath : Path := ["manifest.json"]

def operationIds : SnapshotProfile → List String
  | .c0 => ["H1", "H2", "C4", "S1", "R1"]
  | .releaseCandidate =>
    ["H1", "H2", "A1", "A2", "A3", "A4", "A5", "A6", "U1", "U2", "U3", "U4", "U5", "U6", "G1", "G2", "G3", "G4", "G5",
      "G6", "G7", "G8", "I1", "I2", "T1", "T2", "T3", "T4", "T5", "T6", "T7", "T8", "MD1", "MD2", "C1", "C2", "C3",
      "C4", "C5", "C6", "MD4", "MD5", "S1", "R1", "P2", "P3", "P4", "N1", "N2", "RP1", "B1", "B2", "B3"]

def realtimeDiscriminants : SnapshotProfile → List String
  | .c0 => ["message.created"]
  | .releaseCandidate => ["message.created", "topic.created", "message.deleted", "topic.deleted"]

/-- `ManifestCore`, and `ReleaseCandidateManifestCore` with its stage. -/
structure ManifestCore where
  stage : Option String
  provenance : Provenance
  checksumAlgorithm : String
  artifacts : List String
  operationIds : List String
  realtimeDiscriminants : List String

structure Manifest where
  core : ManifestCore
  sha256 : String

open Json

def coreFields (m : ManifestCore) : List (String × Json) :=
  (m.stage.map fun stage => ("stage", Json.str stage)).toList ++
    [("server_tag", ofOption .str m.provenance.serverTag), ("server_commit", .str m.provenance.serverCommit),
      ("contract_version", .str m.provenance.contractVersion), ("server_version", .str m.provenance.serverVersion),
      ("checksum_algorithm", .str m.checksumAlgorithm), ("artifacts", .arr (m.artifacts.map .str)),
      ("operation_ids", .arr (m.operationIds.map .str)), ("realtime_discriminants", .arr (m.realtimeDiscriminants.map .str))]

def manifestJson (m : Manifest) : Json := .obj (coreFields m.core ++ [("sha256", .str m.sha256)])

def manifestKeys (profile : SnapshotProfile) : List String :=
  (match profile with
    | .c0 => []
    | .releaseCandidate => ["stage"]) ++
    ["server_tag", "server_commit", "contract_version", "server_version", "checksum_algorithm", "artifacts",
      "operation_ids", "realtime_discriminants", "sha256"]

/-- Only `ReleaseCandidateManifest` has a stage. -/
def decodeStage (fields : List (String × Json)) : SnapshotProfile → Option (Option String)
  | .c0 => some none
  | .releaseCandidate => (requiredField string "stage" fields).map some

/-- The derived reader of `Manifest`, or of `ReleaseCandidateManifest`. -/
def decodeManifest (profile : SnapshotProfile) : Json → Option Manifest
  | .obj fields =>
    if known (manifestKeys profile) fields then do
      let stage ← decodeStage fields profile
      let serverTag ← optionalField string "server_tag" fields
      let serverCommit ← requiredField string "server_commit" fields
      let contractVersion ← requiredField string "contract_version" fields
      let serverVersion ← requiredField string "server_version" fields
      let algorithm ← requiredField string "checksum_algorithm" fields
      let artifacts ← requiredField (array string) "artifacts" fields
      let operations ← requiredField (array string) "operation_ids" fields
      let discriminants ← requiredField (array string) "realtime_discriminants" fields
      let sha256 ← requiredField string "sha256" fields
      return ⟨⟨stage, ⟨serverTag, serverCommit, contractVersion, serverVersion⟩, algorithm, artifacts, operations,
        discriminants⟩, sha256⟩
    else none
  | _ => none

variable (write : Json → Bytes)

mutual

/-- Compact text with the keys of every object sorted. -/
def canonicalJson : Json → Bytes
  | .arr items => 91 :: canonicalItems items ++ [93]
  | .obj fields =>
    123 :: ((sorted Prod.fst (canonicalFields fields)).map Prod.snd |>.intersperse [44]).flatten ++ [125]
  | j => write j

def canonicalItems : List Json → Bytes
  | [] => []
  | [j] => canonicalJson j
  | j :: rest => canonicalJson j ++ 44 :: canonicalItems rest

def canonicalFields : List (String × Json) → List (String × Bytes)
  | [] => []
  | (key, j) :: rest => (key, write (.str key) ++ 58 :: canonicalJson j) :: canonicalFields rest

end

def utf8 (s : String) : Bytes := s.toList.flatMap String.utf8EncodeChar

def checksum (core : ManifestCore) (nonManifest : List Artifact) : String :=
  let entries := sorted (fun a => a.path.joined) (nonManifest ++ [⟨manifestPath, canonicalJson write (.obj (coreFields core))⟩])
  digestHex (entries.flatMap fun a => utf8 a.path.joined ++ 0 :: utf8 (toString a.bytes.length) ++ 0 :: a.bytes)

def manifestPaths (nonManifest : List Artifact) : List String :=
  sorted id ((nonManifest.map fun a => a.path.joined) ++ [manifestPath.joined])

def manifestStage : SnapshotProfile → Option String
  | .c0 => none
  | .releaseCandidate => some "release_candidate"

def manifestOf (p : Provenance) (nonManifest : List Artifact) (profile : SnapshotProfile) : Manifest :=
  let core : ManifestCore := ⟨manifestStage profile, p, checksumAlgorithm, manifestPaths nonManifest, operationIds profile,
    realtimeDiscriminants profile⟩
  ⟨core, checksum write core nonManifest⟩

variable (B : Build)

/-- `manifest::artifact`. -/
def manifestArtifact (p : Provenance) (nonManifest : List Artifact) (profile : SnapshotProfile) : Artifact :=
  .json B manifestPath (manifestJson (manifestOf B.serde.toVec p nonManifest profile))

/-- `manifest::verify`, and `verify_release_candidate`. -/
def verifyManifest (manifestBytes : Bytes) (p : Provenance) (nonManifest : List Artifact) (profile : SnapshotProfile) :
    Except ContractError Unit :=
  match (B.serde.fromSlice manifestBytes).bind (decodeManifest profile) with
  | none => .error .json
  | some m =>
    if m.core.stage ≠ manifestStage profile then .error .manifestStage
    else if m.core.provenance ≠ p then .error .manifestProvenance
    else if m.core.checksumAlgorithm ≠ checksumAlgorithm then .error .manifestAlgorithm
    else if m.core.artifacts ≠ manifestPaths nonManifest then .error .manifestArtifacts
    else if m.core.operationIds ≠ operationIds profile then .error .manifestOperations
    else if m.core.realtimeDiscriminants ≠ realtimeDiscriminants profile then .error .manifestDiscriminants
    else if m.sha256 ≠ checksum B.serde.toVec m.core nonManifest then .error .manifestChecksum
    else .ok ()

def isReleaseCandidate (manifestBytes : Bytes) : Except ContractError Bool :=
  match B.serde.fromSlice manifestBytes with
  | none => .error .json
  | some value => .ok (decide (text "stage" value = some "release_candidate"))

lemma array_strings (items : List String) : array string (.arr (items.map .str)) = some items :=
  mapM_map items fun _ _ => rfl

/-- Every manifest of a profile is read as it was written. -/
lemma decode_manifestJson {profile : SnapshotProfile} {m : Manifest} (h : m.core.stage = manifestStage profile) :
    decodeManifest profile (manifestJson m) = some m := by
  have hknown : known (manifestKeys profile) (coreFields m.core ++ [("sha256", .str m.sha256)]) = true := by
    cases profile <;> simp [known, manifestKeys, coreFields, h, manifestStage]
  have hstage : decodeStage (coreFields m.core ++ [("sha256", .str m.sha256)]) profile = some m.core.stage := by
    cases profile <;> simp [decodeStage, coreFields, h, manifestStage, requiredField, lookup, string]
  simp only [decodeManifest, manifestJson, hknown, if_true, hstage, Option.bind_eq_bind, Option.bind_some]
  obtain ⟨⟨stage, ⟨tag, commit, version, server⟩, algorithm, artifacts, operations, discriminants⟩, sha256⟩ := m
  obtain rfl : stage = manifestStage profile := h
  cases profile <;>
  · rw [optional_string rfl, Option.bind_some, required_string rfl, Option.bind_some, required_string rfl, Option.bind_some,
      required_string rfl, Option.bind_some, required_string rfl, Option.bind_some,
      required_of_lookup rfl (array_strings artifacts), Option.bind_some, required_of_lookup rfl (array_strings operations),
      Option.bind_some, required_of_lookup rfl (array_strings discriminants), Option.bind_some, required_string rfl,
      Option.bind_some]
    rfl

variable {B}

/-- A manifest that is read back passes its own checks. -/
lemma verifyManifest_own {p : Provenance} {nonManifest : List Artifact} {profile : SnapshotProfile}
    (h : B.ReadsBack (manifestJson (manifestOf B.serde.toVec p nonManifest profile))) :
    verifyManifest B (manifestArtifact B p nonManifest profile).bytes p nonManifest profile = .ok () := by
  have hread : B.serde.fromSlice (manifestArtifact B p nonManifest profile).bytes =
      some (manifestJson (manifestOf B.serde.toVec p nonManifest profile)) := h
  have hdecode : decodeManifest profile (manifestJson (manifestOf B.serde.toVec p nonManifest profile)) = some _ := decode_manifestJson rfl
  simp only [verifyManifest, hread, Option.bind_some, hdecode]
  simp [manifestOf]

/-- The manifest names the profile it was made for. -/
lemma isReleaseCandidate_own {p : Provenance} {nonManifest : List Artifact} {profile : SnapshotProfile}
    (h : B.ReadsBack (manifestJson (manifestOf B.serde.toVec p nonManifest profile))) :
    isReleaseCandidate B (manifestArtifact B p nonManifest profile).bytes = .ok (decide (profile = .releaseCandidate)) := by
  have hread : B.serde.fromSlice (manifestArtifact B p nonManifest profile).bytes =
      some (manifestJson (manifestOf B.serde.toVec p nonManifest profile)) := h
  unfold isReleaseCandidate
  rw [hread]
  cases profile <;> rfl

end Manifest

end JamyeServer.Contracts
