import Workstream.Core
import Workstream.Foundation.Checks
import Workstream.Foundation.Paths

/-!
# Inspection of an outer ZIP

`artifacts/submission_archive.py`: the central directory is read entry by entry, the directories that an
entry implies are added before it, and the list that results must name every path once and every
ancestor as a directory.
-/

namespace Workstream.Artifacts
open Foundation

inductive SubmissionArchiveFailureCode where
  | malformed
  | limitExceeded
  | unsafeEntry
  | collision
  | encrypted
  | integrityFailure
deriving DecidableEq

/-- How the intake refuses an archive. -/
inductive ArchiveRefusal where
  /-- `SubmissionArchiveRejectedError` -/
  | rejected (code : SubmissionArchiveFailureCode)
  /-- `ValueError` -/
  | invalid (message : String)
deriving DecidableEq

inductive SubmissionArchiveEntryType where
  | file
  | directory
deriving DecidableEq

structure SubmissionArchiveEntry where
  normalizedPath : String
  entryType : SubmissionArchiveEntryType
  byteCount : ℕ
  sha256 : Option String
  executable : Option Bool
deriving DecidableEq

structure SubmissionArchiveInspectionResult where
  entries : List SubmissionArchiveEntry
  entryCount : ℕ
  fileCount : ℕ
  directoryCount : ℕ
  totalExpandedBytes : ℕ
deriving DecidableEq

/-- Limits that pass `__post_init__`. -/
structure SubmissionArchiveLimits where
  maximumEntries : ℕ
  maximumPathBytes : ℕ
  maximumPathDepth : ℕ
  maximumCentralDirectoryBytes : ℕ
  maximumEntryBytes : ℕ
  maximumExpandedBytes : ℕ
  maximumCompressionRatio : ℕ
  positive : 0 < maximumEntries ∧ 0 < maximumPathBytes ∧ 0 < maximumPathDepth ∧
    0 < maximumCentralDirectoryBytes ∧ 0 < maximumEntryBytes ∧ 0 < maximumExpandedBytes ∧
    0 < maximumCompressionRatio
  inventory : maximumEntries ≤ 100000 ∧ maximumPathDepth ≤ 256
  expansion : maximumExpandedBytes ≤ 512 * 1024 * 1024
  entryWithinTotal : maximumEntryBytes ≤ maximumExpandedBytes

/-- The hexadecimal digest of some bytes. -/
structure Sha256 where
  hexdigest : List ℕ → String
  isHex : ∀ bytes, (hexdigest bytes).toList.length = 64 ∧ (hexdigest bytes).toList.all isLowerHex = true

variable (u : Unicode) (sha : Sha256) (limits : SubmissionArchiveLimits)

def Sha256.digest (bytes : List ℕ) : String := "sha256:" ++ sha.hexdigest bytes

def Sha256.canonicalJsonHash (value : Json) : String :=
  Workstream.canonicalJsonHash (fun text => sha.hexdigest (utf8 text)) value

def endsIn (part : String) (c : Char) : Bool := part.toList.getLast? == some c

def UnsafePath (maximumPathBytes maximumPathDepth : ℕ) (path : String) : Prop :=
  path = "" ∨ '\\' ∈ path.toList ∨ path.toList.head? = some '/' ∨
    (∃ c ∈ path.toList, c.toNat < 32 ∨ c.toNat = 127) ∨
    (∃ part ∈ splitPath path, part = "" ∨ part = "." ∨ part = ".." ∨ endsIn part ' ' ∨
      endsIn part '.') ∨
    (∃ part ∈ (splitPath path).head?, ':' ∈ part.toList) ∨
    maximumPathDepth < (splitPath path).length ∨
    maximumPathBytes < max (utf8 path).length (utf8 (u.nfc path)).length

instance (u : Unicode) (bytes depth : ℕ) (path : String) : Decidable (UnsafePath u bytes depth path) :=
  -- the characters of the path are tried, not all characters
  letI : Decidable (∃ c ∈ path.toList, c.toNat < 32 ∨ c.toNat = 127) := List.decidableBEx _ _
  inferInstanceAs (Decidable (_ ∨ _))

def normalizeSubmissionArchivePath (maximumPathBytes maximumPathDepth : ℕ) (path : String) :
    Except ArchiveRefusal String := do
  require (¬UnsafePath u maximumPathBytes maximumPathDepth path) (.rejected .unsafeEntry)
  pure (u.nfc path)

/-- `kinds.get(path)`: the last entry of a path decides. -/
def kindOf (entries : List SubmissionArchiveEntry) (path : String) :
    Option SubmissionArchiveEntryType :=
  (entries.reverse.find? (fun entry => entry.normalizedPath = path)).map (·.entryType)

def checkInventory (kinds : String → Option SubmissionArchiveEntryType) :
    List String → List SubmissionArchiveEntry → Except ArchiveRefusal Unit
  | _, [] => pure ()
  | foldedPaths, entry :: entries => do
    require (u.fold entry.normalizedPath ∉ foldedPaths) (.rejected .collision)
    require (∀ path ∈ ancestors (splitPath entry.normalizedPath), kinds path = some .directory)
      (.rejected .collision)
    checkInventory kinds (u.fold entry.normalizedPath :: foldedPaths) entries

/-- The checks of a finished inventory, entry by entry. -/
def validateSubmissionArchiveInventory (entries : List SubmissionArchiveEntry) :
    Except ArchiveRefusal Unit :=
  checkInventory u (kindOf entries) [] entries

/-- One record of the central directory, with what reading its member yields. -/
structure ZipInfo where
  filename : String
  fileSize : ℕ
  compressSize : ℕ
  compressType : ℕ
  externalAttr : ℕ
  flagBits : ℕ
  createSystem : ℕ
  /-- Sizes of the pieces the decompressor writes, and whether its stream ends where it should. -/
  inflated : List ℕ
  streamEnds : Bool
  /-- What `archive.open` reads, and whether it fails in the end. -/
  chunks : List (List ℕ)
  readFails : Bool

variable (info : ZipInfo)

def ZipInfo.isDir : Bool := info.filename.toList.getLast? == some '/'

def ZipInfo.mode : ℕ := info.externalAttr >>> 16

def ZipInfo.kind : ℕ := info.mode &&& 0xF000

def ZipInfo.rawPath : String :=
  if info.isDir then String.ofList info.filename.toList.dropLast else info.filename

def ZipInfo.entryType : SubmissionArchiveEntryType :=
  if info.isDir then .directory else .file

def validatedPath : Except ArchiveRefusal String := do
  require (¬(info.isDir = true ∧ (info.fileSize ≠ 0 ∨ info.compressSize ≠ 0))) (.rejected .unsafeEntry)
  let path ← normalizeSubmissionArchivePath u limits.maximumPathBytes limits.maximumPathDepth
    info.rawPath
  -- `S_IFREG` and `S_IFDIR`
  require (info.kind = 0 ∨ info.kind = 0x8000 ∨ info.kind = 0x4000) (.rejected .unsafeEntry)
  require (info.kind = 0 ∨ (info.kind = 0x4000 ↔ info.isDir = true)) (.rejected .unsafeEntry)
  require (info.flagBits % 2 = 0) (.rejected .encrypted)
  pure path

def readPieces (maximum : ℕ) : ℕ → List ℕ → Except ArchiveRefusal ℕ
  | actual, [] => pure actual
  | actual, size :: sizes => do
    require (actual + size ≤ maximum) (.rejected .limitExceeded)
    readPieces maximum (actual + size) sizes

def validateCompressedStream (maximumOutputBytes : ℕ) : Except ArchiveRefusal Unit :=
  -- `ZIP_STORED`
  if info.compressType = 0 then
    require (info.compressSize = info.fileSize) (.rejected .integrityFailure)
  else do
    require (info.compressType = 8) (.rejected .malformed)
    let actual ← readPieces maximumOutputBytes 0 info.inflated
    require (info.streamEnds = true ∧ actual = info.fileSize) (.rejected .integrityFailure)

def readMember (remainingExpandedBytes : ℕ) : Except ArchiveRefusal (ℕ × String) := do
  let maximumOutput := min limits.maximumEntryBytes remainingExpandedBytes
  require (info.fileSize ≤ maximumOutput) (.rejected .limitExceeded)
  require (info.fileSize = 0 ∨ (info.compressSize ≠ 0 ∧
    info.fileSize ≤ info.compressSize * limits.maximumCompressionRatio)) (.rejected .limitExceeded)
  validateCompressedStream info maximumOutput
  let actual ← readPieces maximumOutput 0 (info.chunks.map List.length)
  require (info.readFails = false) (.rejected .integrityFailure)
  require (actual = info.fileSize) (.rejected .integrityFailure)
  pure (actual, sha.digest info.chunks.flatten)

def normalizedExecutable : Bool :=
  info.createSystem = 3 && info.mode &&& 0o111 != 0

structure Reading where
  results : List SubmissionArchiveEntry
  /-- A dictionary from folded paths. -/
  paths : List (String × SubmissionArchiveEntryType)
  sourcePaths : List String
  total : ℕ

def Reading.initial : Reading := ⟨[], [], [], 0⟩

def setPath (folded : String) (entryType : SubmissionArchiveEntryType) :
    List (String × SubmissionArchiveEntryType) → List (String × SubmissionArchiveEntryType)
  | [] => [(folded, entryType)]
  | (key, kind) :: rest =>
    if key = folded then (key, entryType) :: rest else (key, kind) :: setPath folded entryType rest

def implicitDirectory (path : String) : SubmissionArchiveEntry := ⟨path, .directory, 0, none, none⟩

def addAncestor (reading : Reading) (implicitPath : String) : Except ArchiveRefusal Reading := do
  let ancestor := u.fold implicitPath
  require (reading.paths.lookup ancestor ≠ some .file) (.rejected .collision)
  if ancestor ∈ reading.paths.map Prod.fst then pure reading
  else do
    require (reading.paths.length + 1 ≤ limits.maximumEntries) (.rejected .limitExceeded)
    pure { reading with
      paths := reading.paths ++ [(ancestor, .directory)]
      results := reading.results ++ [implicitDirectory implicitPath] }

/-- `PurePosixPath(path).parts` of a relative path. -/
def posixParts (path : String) : List String :=
  (splitPath path).filter (fun part => part ≠ "" ∧ part ≠ ".")

def readContent (total : ℕ) : Except ArchiveRefusal (ℕ × Option String) :=
  match info.entryType with
  | .file => (readMember sha limits info (limits.maximumExpandedBytes - total)).map
      (fun read => (read.1, some read.2))
  | .directory => pure (0, none)

def addEntry (path : String) (reading : Reading) : Except ArchiveRefusal Reading :=
  if info.entryType = .directory ∧ ∃ entry ∈ reading.results, entry.normalizedPath = path then
    pure reading
  else do
    let (actual, digest) ← readContent sha limits info reading.total
    require (reading.total + actual ≤ limits.maximumExpandedBytes) (.rejected .limitExceeded)
    pure { reading with
      total := reading.total + actual
      results := reading.results ++
        [⟨path, info.entryType, actual, digest, digest.map (fun _ => normalizedExecutable info)⟩] }

def readEntry (reading : Reading) (info : ZipInfo) : Except ArchiveRefusal Reading := do
  let path ← validatedPath u limits info
  let folded := u.fold path
  require (¬(folded ∈ reading.sourcePaths ∨
    folded ∈ reading.paths.map Prod.fst ∧ info.entryType = .file)) (.rejected .collision)
  let reading ← (ancestors (posixParts path)).foldlM (addAncestor u limits) reading
  require (¬(info.entryType = .file ∧
    ∃ existing ∈ reading.paths.map Prod.fst, (folded ++ "/").toList <+: existing.toList))
    (.rejected .collision)
  addEntry sha limits info path { reading with
    paths := setPath folded info.entryType reading.paths
    sourcePaths := folded :: reading.sourcePaths }

/-- The loop of `_read_entries` over the central directory. -/
def readEntries (infos : List ZipInfo) : Except ArchiveRefusal (List SubmissionArchiveEntry) := do
  let reading ← infos.foldlM (readEntry u sha limits) .initial
  pure reading.results

/-- An archive as `inspect` opens it. -/
structure OuterZip where
  signature : List ℕ
  layoutEntryCount : ℕ
  layoutDirectoryBytes : ℕ
  infos : List ZipInfo
  /-- The outcome of `_validate_record_coverage`. -/
  coverage : Except ArchiveRefusal Unit

def sortEntries (entries : List SubmissionArchiveEntry) : List SubmissionArchiveEntry :=
  entries.insertionSort (fun a b => a.normalizedPath ≤ b.normalizedPath)

def countFiles (entries : List SubmissionArchiveEntry) : ℕ :=
  entries.countP (fun entry => entry.entryType = .file)

def expandedBytes (entries : List SubmissionArchiveEntry) : ℕ := (entries.map (·.byteCount)).sum

/-- What `inspect` returns for the entries it has read. -/
def inspectionResult (entries : List SubmissionArchiveEntry) : SubmissionArchiveInspectionResult where
  entries := sortEntries entries
  entryCount := entries.length
  fileCount := countFiles entries
  directoryCount := entries.length - countFiles entries
  totalExpandedBytes := expandedBytes entries

def inspect (archive : OuterZip) : Except ArchiveRefusal SubmissionArchiveInspectionResult := do
  -- `PK\x03\x04`, `PK\x05\x06`, `PK\x06\x06`
  require (archive.signature ∈ [[80, 75, 3, 4], [80, 75, 5, 6], [80, 75, 6, 6]]) (.rejected .malformed)
  require (archive.layoutEntryCount ≤ limits.maximumEntries ∧
    archive.layoutDirectoryBytes ≤ limits.maximumCentralDirectoryBytes) (.rejected .limitExceeded)
  require (archive.infos.length = archive.layoutEntryCount) (.rejected .malformed)
  archive.coverage
  let entries ← readEntries u sha limits archive.infos
  validateSubmissionArchiveInventory u entries
  pure (inspectionResult entries)

/-- The checks of `exported_submission_tree` before it touches the workspace. -/
def checkExport (expected : SubmissionArchiveInspectionResult) : Except ArchiveRefusal Unit := do
  validateSubmissionArchiveInventory u expected.entries
  expected.entries.forM (fun entry => do
    let path ← normalizeSubmissionArchivePath u limits.maximumPathBytes limits.maximumPathDepth
      entry.normalizedPath
    require (path = entry.normalizedPath ∧ entry.byteCount ≤ limits.maximumEntryBytes)
      (.rejected .integrityFailure))
  require (expected.entryCount ≤ limits.maximumEntries ∧
    expected.totalExpandedBytes ≤ limits.maximumExpandedBytes) (.rejected .limitExceeded)

/-- The inventory checks of the trusted intake session after an inspection. -/
def checkIntakeInventory (entries : List SubmissionArchiveEntry) : Except String Unit := do
  require (entries.length ≤ limits.maximumEntries) "intake inventory unbounded"
  let files := entries.filter (fun entry => entry.entryType = .file)
  -- `checked_add` of `u64`
  require (expandedBytes files < 2 ^ 64) "intake inventory invalid"
  require (expandedBytes files ≤ 512 * 1024 * 1024) "intake export unbounded"

end Workstream.Artifacts
