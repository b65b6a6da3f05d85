import Mathlib.Data.Finset.Image
import Mathlib.Data.Finset.SDiff
import JamyeServer.Contracts.Manifest

/-!
# Generating and verifying a contract snapshot

`contract_generation`: the artifacts that a profile expects, the files that are found in a tree, and the two operations
that compare them. A name is `none` when it is not UTF-8. The root is a directory; one that is not there is the same as
an empty one.
-/

namespace JamyeServer.Contracts

open Keyset Directory

abbrev Tree := Directory (Option String)

/-- Where a path leads in a tree. -/
def place (path : Path) : List (Option String) := path.map some

def ensure (P : Prop) [Decidable P] (e : ContractError) : Except ContractError Unit := if P then .ok () else .error e

section Expected

variable (B : Build)

def realtimePaths : SnapshotProfile → List Path
  | .c0 => [["realtime", "client-frame.schema.json"], ["realtime", "message.created.schema.json"],
      ["realtime", "protocol.json"], ["realtime", "server-frame.schema.json"]]
  | .releaseCandidate => [["realtime", "client-frame.schema.json"], ["realtime", "message.created.schema.json"],
      ["realtime", "topic.created.schema.json"], ["realtime", "message.deleted.schema.json"],
      ["realtime", "topic.deleted.schema.json"], ["realtime", "protocol.json"], ["realtime", "server-frame.schema.json"]]

def fixturePaths (profile : SnapshotProfile) : List Path :=
  [["fixtures", "c4-content-validation.json"], ["fixtures", "c4-duplicate.json"], ["fixtures", "c4-normal.json"],
    ["fixtures", "c4-permission.json"], ["fixtures", "message.created.json"], ["fixtures", "manifest-provenance.json"],
    ["fixtures", "mobile-sync-handoff.json"], ["fixtures", "realtime-lifecycle.json"],
    ["fixtures", "unknown-event-recovery.json"], ["fixtures", "version-negotiation.json"]] ++
  match profile with
  | .c0 => []
  | .releaseCandidate => [["fixtures", "c2-health-profile-account.json"], ["fixtures", "selected-surface-mapping.json"],
      ["fixtures", "c2-mobile-handoff.json"], ["fixtures", "c2-bodyless-audio-reachability.json"]]

def documentPaths (profile : SnapshotProfile) : List Path := ["openapi.json"] :: realtimePaths profile ++ fixturePaths profile

def normalComponent (component : String) : Bool := !(component = "" || component = "." || component = "..")

/-- Rejects a path that leaves the tree, and a path that follows itself. -/
def validateArtifactPaths : Option Path → List Artifact → Except ContractError Unit
  | _, [] => .ok ()
  | previous, a :: rest =>
    if a.path.isEmpty || !a.path.all normalComponent then .error .unsafePath
    else if previous = some a.path then .error .duplicatePath
    else validateArtifactPaths (some a.path) rest

/-- The artifacts by their paths. -/
def byPath (artifacts : List Artifact) : List Artifact := sorted (fun a => a.path.joined) artifacts

def documents (profile : SnapshotProfile) : List Artifact :=
  byPath ((documentPaths profile).map fun path => .json B path (B.document profile path))

def expectedArtifacts (p : Provenance) (profile : SnapshotProfile) : Except ContractError (List Artifact) := do
  let artifacts := documents B profile
  validateArtifactPaths none artifacts
  let artifacts := byPath (artifacts ++ [manifestArtifact B p artifacts profile])
  validateArtifactPaths none artifacts
  return artifacts

end Expected

section Collected

def relativeContractPath : List (Option String) → Except ContractError Path
  | [] => .ok []
  | some name :: rest => (relativeContractPath rest).map (name :: ·)
  | none :: _ => .error .notUtf8

/-- The paths of the regular files below a directory. -/
def collectDirectory (directory : List (Option String)) : Tree → Except ContractError (List Path)
  | .empty => .ok []
  | .file name _ rest => do
    let path ← relativeContractPath (directory ++ [name])
    let paths ← collectDirectory directory rest
    return path :: paths
  | .other .symlink _ _ _ => .error .symlink
  | .other .special _ _ _ => .error .nonFile
  | .directory name sub rest => do
    let below ← collectDirectory (directory ++ [name]) sub
    let paths ← collectDirectory directory rest
    return below ++ paths

def collectRelativeFiles (tree : Tree) : Except ContractError (Finset Path) := (collectDirectory [] tree).map List.toFinset

/-- `path.starts_with("contributions/")`. -/
def isContribution (path : Path) : Bool := decide (path.head? = some "contributions") && decide (2 ≤ path.length)

def contribution (task kind name : String) : Path := ["contributions", task, kind, name]

def ownerContributions : List Path :=
  [contribution "task-5" "dto" "operations.json", contribution "task-5" "fixtures" "mobile-auth-handoff.json",
    contribution "task-5" "schemas" "auth-wire.schema.json", contribution "task-6" "dto" "operations.json",
    contribution "task-6" "fixtures" "group-invite-flow.json", contribution "task-6" "schemas" "groups-wire.schema.json",
    contribution "task-6b" "dto" "operations.json", contribution "task-6b" "fixtures" "chatroom-history-read.json",
    contribution "task-6b" "schemas" "chatrooms-wire.schema.json", contribution "task-7" "dto" "operations.json",
    contribution "task-7" "fixtures" "topic-flow.json", contribution "task-7" "schemas" "topics-wire.schema.json",
    contribution "task-8" "dto" "operations.json", contribution "task-8" "fixtures" "media-flow.json",
    contribution "task-8" "schemas" "media-wire.schema.json", contribution "task-9" "dto" "operations.json",
    contribution "task-9" "fixtures" "notifications-push-flow.json",
    contribution "task-9" "schemas" "notifications-push-wire.schema.json", contribution "task-20" "dto" "operations.json",
    contribution "task-20" "schemas" "moderation-wire.schema.json"]

variable (B : Build) (tree : Tree)

/-- The files of the list are there with their bytes. -/
def compareBytes (e : ContractError) : List Artifact → Except ContractError Unit
  | [] => .ok ()
  | a :: rest =>
    match tree.read (place a.path) with
    | none => .error .io
    | some bytes => if bytes ≠ a.bytes then .error e else compareBytes e rest

def contributions : List Artifact := ownerContributions.map fun path => ⟨path, B.contribution path⟩

def validateOwnerContributions (paths : Finset Path) : Except ContractError Unit :=
  let actual := paths.filter fun path => isContribution path = true
  if actual = ∅ then .ok ()
  else if actual ≠ ownerContributions.toFinset then .error .contributions
  else compareBytes tree .contributions (contributions B)

def requireOwnerContributions : Except ContractError Unit := do
  let paths ← collectRelativeFiles tree
  ensure (paths.filter (fun path => isContribution path = true) = ownerContributions.toFinset) .contributions
  compareBytes tree .contributions (contributions B)

def contractArtifactPaths : Except ContractError (Finset Path) := do
  let paths ← collectRelativeFiles tree
  validateOwnerContributions B tree paths
  return paths.filter fun path => isContribution path = false

/-- The paths that a profile answers for. -/
def artifactPaths : SnapshotProfile → Except ContractError (Finset Path)
  | .c0 => collectRelativeFiles tree
  | .releaseCandidate => contractArtifactPaths B tree

end Collected

section Operations

variable (B : Build) (p : Provenance)

/-- `SnapshotProfile::from_manifest`. -/
def fromManifest (tree : Tree) : Except ContractError SnapshotProfile :=
  match tree.read (place manifestPath) with
  | none => .error .io
  | some bytes => (isReleaseCandidate B bytes).map fun b => if b then .releaseCandidate else .c0

/-- The provenance is what `load_provenance` has read from its file. -/
def verify (tree : Tree) : Except ContractError Nat := do
  validateProvenance p
  let profile ← fromManifest B tree
  let expected ← expectedArtifacts B p profile
  let actual ← artifactPaths B tree profile
  ensure (actual = (expected.map Artifact.path).toFinset) .artifactSet
  compareBytes tree .artifactBytes expected
  match expected.find? fun a => decide (a.path = manifestPath) with
  | none => throw .manifestAbsent
  | some manifest =>
    verifyManifest B manifest.bytes p (expected.filter fun a => decide (a.path ≠ manifestPath)) profile
    return expected.length

/-- `.{file_name}.task-3b.tmp`. -/
def temporaryName (name : Option String) : Option String := name.map fun name => "." ++ name ++ ".task-3b.tmp"

/-- Every artifact in its turn, until one fails. -/
def writeArtifacts : List Artifact → Tree → Tree × Except ContractError Unit
  | [], tree => (tree, .ok ())
  | a :: rest, tree =>
    match tree.write temporaryName a.bytes (place a.path) with
    | (tree', .ok ()) => writeArtifacts rest tree'
    | (tree', .error e) => (tree', .error (.write e))

/-- What is to be written, if the tree may be written to. -/
def planned (profile : SnapshotProfile) (tree : Tree) : Except ContractError (List Artifact) := do
  let artifacts ← expectedArtifacts B p profile
  let existing ← artifactPaths B tree profile
  ensure (existing \ (artifacts.map Artifact.path).toFinset = ∅) .extraFiles
  return artifacts

def generateFrom (plan : Except ContractError (List Artifact)) (tree : Tree) : Tree × Except ContractError Nat :=
  match plan with
  | .error e => (tree, .error e)
  | .ok artifacts =>
    match writeArtifacts artifacts tree with
    | (tree', .ok ()) => (tree', .ok artifacts.length)
    | (tree', .error e) => (tree', .error e)

def generate (tree : Tree) : Tree × Except ContractError Nat :=
  generateFrom (do validateProvenance p; planned B p .c0 tree) tree

/-- The paths of the output and of the provenance have been found to be the approved ones. -/
def generateReleaseCandidate (tree : Tree) : Tree × Except ContractError Nat :=
  generateFrom (do requireOwnerContributions B tree; validateProvenance p; planned B p .releaseCandidate tree) tree

end Operations

end JamyeServer.Contracts
