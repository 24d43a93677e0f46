import Workstream.Artifacts.SubmissionArchive

/-!
# The semantic manifest of an archive

`artifacts/submission_manifest.py`: the canonical body of an inspected archive, the checks every
manifest passes when it is built, and its recovery from a stored body.
-/

namespace Workstream.Artifacts
open Foundation

def submissionManifestSchemaVersion : String := "workstream.submission_bundle_manifest.v1"

structure SubmissionManifest where
  sha256 : String
  entries : List SubmissionArchiveEntry
  entryCount : ℕ
  fileCount : ℕ
  directoryCount : ℕ
  totalExpandedBytes : ℕ

def SubmissionArchiveEntry.body (entry : SubmissionArchiveEntry) : Json :=
  match entry.entryType with
  | .directory =>
    .obj [("normalized_path", .str entry.normalizedPath), ("entry_type", .str "directory")]
  | .file =>
    .obj [("normalized_path", .str entry.normalizedPath), ("entry_type", .str "file"),
      ("sha256", (entry.sha256.map Json.str).getD .null), ("byte_count", .num entry.byteCount),
      ("executable", (entry.executable.map Json.bool).getD .null)]

def manifestBody (entries : List SubmissionArchiveEntry) : Json :=
  .obj [("schema_version", .str submissionManifestSchemaVersion),
    ("entries", .arr (entries.map SubmissionArchiveEntry.body))]

def SubmissionManifest.asDict (manifest : SubmissionManifest) : Json := manifestBody manifest.entries

def validateSha256 (sha256 : String) : Except ArchiveRefusal Unit :=
  require (isDigest sha256 = true) (.invalid "artifact commitment digest is invalid")

def checkIdentity (entry : SubmissionArchiveEntry) : Except ArchiveRefusal Unit :=
  match entry.entryType with
  | .directory =>
    require (entry.byteCount = 0 ∧ entry.sha256 = none ∧ entry.executable = none)
      (.invalid "submission directory identity is invalid")
  | .file => do
    require (entry.executable ≠ none) (.invalid "submission file identity is incomplete")
    let sha256 ← required entry.sha256 (.invalid "submission file identity is incomplete")
    validateSha256 sha256

def SubmissionManifest.check (u : Unicode) (sha : Sha256) (manifest : SubmissionManifest) :
    Except ArchiveRefusal Unit := do
  require (sortEntries manifest.entries = manifest.entries)
    (.invalid "submission manifest entries are not canonical")
  manifest.entries.forM checkIdentity
  validateSubmissionArchiveInventory u manifest.entries
  require (manifest.entryCount = manifest.entries.length ∧
    manifest.fileCount = countFiles manifest.entries ∧
    manifest.directoryCount = manifest.entries.length - countFiles manifest.entries ∧
    manifest.totalExpandedBytes = expandedBytes manifest.entries)
    (.invalid "submission manifest aggregates are inconsistent")
  validateSha256 manifest.sha256
  require (sha.canonicalJsonHash manifest.asDict = manifest.sha256)
    (.invalid "submission manifest digest is inconsistent")

def buildSubmissionManifest (u : Unicode) (sha : Sha256)
    (inspection : SubmissionArchiveInspectionResult) : Except ArchiveRefusal SubmissionManifest := do
  let entries := sortEntries inspection.entries
  require (∀ entry ∈ entries, entry.entryType = .file → entry.sha256 ≠ none ∧ entry.executable ≠ none)
    (.invalid "submission file identity is incomplete")
  let manifest : SubmissionManifest := {
    sha256 := sha.canonicalJsonHash (manifestBody entries)
    entries
    entryCount := inspection.entryCount
    fileCount := inspection.fileCount
    directoryCount := inspection.directoryCount
    totalExpandedBytes := inspection.totalExpandedBytes }
  manifest.check u sha
  pure manifest

def hasFields (value : List (String × Json)) (fields : List String) : Prop :=
  (∀ key ∈ value.map Prod.fst, key ∈ fields) ∧ ∀ key ∈ fields, key ∈ value.map Prod.fst

instance (value : List (String × Json)) (fields : List String) : Decidable (hasFields value fields) :=
  inferInstanceAs (Decidable (_ ∧ _))

def entryInvalid : ArchiveRefusal := .invalid "submission manifest entry is invalid"

def entryKind (value : List (String × Json)) :
    Except ArchiveRefusal (SubmissionArchiveEntryType × List String) :=
  match value.lookup "entry_type" with
  | some (.str "file") =>
    pure (.file, ["normalized_path", "entry_type", "sha256", "byte_count", "executable"])
  | some (.str "directory") => pure (.directory, ["normalized_path", "entry_type"])
  | _ => .error entryInvalid

def textField : Option Json → Except ArchiveRefusal (Option String)
  | some (.str s) => pure (some s)
  | some .null => pure none
  | none => pure none
  | some _ => .error (.invalid "artifact commitment digest is invalid")

def flagField : Option Json → Except ArchiveRefusal (Option Bool)
  | some (.bool b) => pure (some b)
  | some .null => pure none
  | none => pure none
  | some _ => .error (.invalid "submission file identity is incomplete")

def maximumManifestBytes : ℕ := 512 * 1024 * 1024

def sizeField (kind : SubmissionArchiveEntryType) (value : Option Json) : Except ArchiveRefusal ℕ :=
  match kind, value with
  | .directory, _ => pure 0
  | .file, some (.num size) => do
    require (0 ≤ size ∧ size ≤ maximumManifestBytes)
      (.invalid "submission manifest file size is invalid")
    pure size.toNat
  | .file, _ => .error (.invalid "submission manifest file size is invalid")

def readBodyEntry (u : Unicode) (read : List SubmissionArchiveEntry) (value : Json) :
    Except ArchiveRefusal (List SubmissionArchiveEntry) :=
  match value with
  | .obj fields => do
    let (kind, names) ← entryKind fields
    match fields.lookup "normalized_path" with
    | some (.str path) => do
      require (hasFields fields names ∧ path ≠ "" ∧ path ∉ read.map (·.normalizedPath)) entryInvalid
      let normalized ← normalizeSubmissionArchivePath u 4096 256 path
      require (normalized = path) (.invalid "submission manifest path is not normalized")
      let byteCount ← sizeField kind (fields.lookup "byte_count")
      let sha256 ← textField (fields.lookup "sha256")
      let executable ← flagField (fields.lookup "executable")
      pure (read ++ [⟨path, kind, byteCount, sha256, executable⟩])
    | _ => .error entryInvalid
  | _ => .error entryInvalid

def SubmissionManifest.fromDict (u : Unicode) (sha : Sha256) (body : Json) (sha256 : String) :
    Except ArchiveRefusal SubmissionManifest :=
  match body with
  | .obj fields =>
    match fields.lookup "entries" with
    | some (.arr values) => do
      require (hasFields fields ["schema_version", "entries"] ∧
        fields.lookup "schema_version" = some (.str submissionManifestSchemaVersion) ∧
        values.length ≤ 100000) (.invalid "submission manifest body is invalid")
      let entries ← values.foldlM (readBodyEntry u) []
      require (expandedBytes entries ≤ maximumManifestBytes)
        (.invalid "submission manifest expansion is invalid")
      let manifest : SubmissionManifest := {
        sha256
        entries
        entryCount := entries.length
        fileCount := countFiles entries
        directoryCount := entries.length - countFiles entries
        totalExpandedBytes := expandedBytes entries }
      manifest.check u sha
      pure manifest
    | _ => .error (.invalid "submission manifest body is invalid")
  | _ => .error (.invalid "submission manifest body is invalid")

end Workstream.Artifacts
