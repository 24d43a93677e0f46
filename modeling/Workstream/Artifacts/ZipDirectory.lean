import Mathlib.Control.Monad.Basic
import Workstream.Foundation.Bytes
import Workstream.Foundation.Checks

/-!
# The tail of a ZIP file

`zipDirectoryLayout` reads the end records of a ZIP file from its last bytes and returns where the
central directory lies.
-/

namespace Workstream.Artifacts

open Foundation

/-- How the reading fails: `zipfile.BadZipFile`, or a position that `seek` does not take. -/
inductive ZipFailure
  | badZipFile (text : String)
  | overflowError
  deriving DecidableEq

/-- `_EOCD` -/
def eocdMark : Bytes := [0x50, 0x4B, 0x05, 0x06]

def zip64LocatorMark : Bytes := [0x50, 0x4B, 0x06, 0x07]

def zip64EocdMark : Bytes := [0x50, 0x4B, 0x06, 0x06]

structure ZipDirectoryLayout where
  entryCount : Nat
  directoryBytes : Nat
  directoryOffset : Nat
  endRecordOffset : Nat
  deriving DecidableEq

/-- The end record as it is read: its position in the file and its fields. -/
structure EndRecord where
  absoluteMarker : Nat
  commentBytes : Nat
  entries : Nat
  directoryBytes : Nat
  directoryOffset : Nat
  deriving DecidableEq

def EndRecord.Zip64 (record : EndRecord) : Prop :=
  record.entries = 0xFFFF ∨ record.directoryBytes = 0xFFFFFFFF

instance (record : EndRecord) : Decidable record.Zip64 :=
  inferInstanceAs (Decidable (_ ∨ _))

/-- The first half of `zip_directory_layout`: the end record, looked for from the end of the file. -/
def endRecord (b : Bytes) : Except ZipFailure EndRecord := do
  let tail := b.drop (b.length - 65557)
  let marker ← required (rfind eocdMark tail) (.badZipFile "missing end of central directory")
  require (¬tail.length - marker < 22) (.badZipFile "missing end of central directory")
  let absoluteMarker := (b.length - 65557) + marker
  let commentBytes := field tail (marker + 20) 2
  require (marker + 22 + commentBytes = tail.length) (.badZipFile "trailing archive content")
  require (field tail (marker + 4) 2 = 0 ∧ field tail (marker + 6) 2 = 0)
    (.badZipFile "multi-disk archive")
  pure ⟨absoluteMarker, commentBytes, field tail (marker + 10) 2, field tail (marker + 12) 4,
    field tail (marker + 16) 4⟩

def seekLimit : Nat := 9223372036854775808

/-- The second half: the ZIP64 record, found through its locator. -/
def zip64Layout (b : Bytes) (absoluteMarker : Nat) : Except ZipFailure ZipDirectoryLayout := do
  require (¬absoluteMarker < 20) (.badZipFile "missing zip64 locator")
  let locator := slice b (absoluteMarker - 20) 20
  require (locator.length = 20 ∧ slice locator 0 4 = zip64LocatorMark)
    (.badZipFile "missing zip64 locator")
  let recordOffset := field locator 8 8
  require (field locator 4 4 = 0 ∧ field locator 16 4 = 1) (.badZipFile "multi-disk archive")
  require (recordOffset < seekLimit) .overflowError
  let record := slice b recordOffset 56
  require (¬record.length < 56 ∧ slice record 0 4 = zip64EocdMark)
    (.badZipFile "missing zip64 end record")
  let entries64 := field record 32 8
  let directoryBytes64 := field record 40 8
  let directoryOffset64 := field record 48 8
  require (field record 16 4 = 0 ∧ field record 20 4 = 0 ∧ field record 24 8 = entries64)
    (.badZipFile "multi-disk archive")
  require (directoryOffset64 + directoryBytes64 = recordOffset)
    (.badZipFile "central directory offset disagreement")
  pure ⟨entries64, directoryBytes64, directoryOffset64, recordOffset⟩

def plainLayout (record : EndRecord) : Except ZipFailure ZipDirectoryLayout := do
  require (record.directoryOffset + record.directoryBytes = record.absoluteMarker)
    (.badZipFile "central directory offset disagreement")
  pure ⟨record.entries, record.directoryBytes, record.directoryOffset, record.absoluteMarker⟩

/-- The central directory, as the records at the end of the file describe it. -/
def zipDirectoryLayout (b : Bytes) (allowZip64 : Bool) : Except ZipFailure ZipDirectoryLayout := do
  let record ← endRecord b
  if record.Zip64 then
    require (allowZip64 = true) (.badZipFile "zip64 archive is unsupported")
    zip64Layout b record.absoluteMarker
  else
    plainLayout record

/-! ## What was read -/

variable {b : Bytes} {record : EndRecord}

/-- What the end record says is read at the last end mark of the file. -/
theorem endRecord_eq_ok (h : endRecord b = .ok record) :
    rfind eocdMark b = some record.absoluteMarker ∧
      record.commentBytes = field b (record.absoluteMarker + 20) 2 ∧
      (record.Zip64 ↔ field b (record.absoluteMarker + 10) 2 = 0xFFFF ∨
        field b (record.absoluteMarker + 12) 4 = 0xFFFFFFFF) ∧
      record.absoluteMarker + 22 + record.commentBytes = b.length := by
  simp only [endRecord, eq_ok] at h
  obtain ⟨marker, hfind, -, hroom, -, hcomment, -, -, rfl⟩ := h
  refine ⟨rfind_of_drop (by decide) hfind, ?_, ?_, ?_⟩
  · simp only [field, slice_drop, Nat.add_assoc]
  · simp only [EndRecord.Zip64, field, slice_drop, Nat.add_assoc]
  · simp only [List.length_drop] at hroom hcomment
    simp only
    omega

variable {layout : ZipDirectoryLayout}

theorem zip64Layout_eq_ok {absoluteMarker : Nat} (h : zip64Layout b absoluteMarker = .ok layout) :
    20 ≤ absoluteMarker ∧ slice b (absoluteMarker - 20) 4 = zip64LocatorMark ∧
      field b (absoluteMarker - 12) 8 = layout.endRecordOffset ∧
      layout.endRecordOffset + 56 ≤ b.length ∧ slice b layout.endRecordOffset 4 = zip64EocdMark ∧
      layout.directoryOffset + layout.directoryBytes = layout.endRecordOffset := by
  simp only [zip64Layout, eq_ok] at h
  obtain ⟨-, hmark, -, ⟨-, hlocator⟩, -, -, -, -, -, ⟨hlen, hrecord⟩, -, -, -, hdir, rfl⟩ := h
  rw [slice_slice b (by omega)] at hlocator hrecord
  have hoffset : field (slice b (absoluteMarker - 20) 20) 8 8 = field b (absoluteMarker - 12) 8 := by
    rw [field_slice b (by omega), show absoluteMarker - 20 + 8 = absoluteMarker - 12 by omega]
  exact ⟨Nat.not_lt.mp hmark, hlocator, hoffset.symm,
    le_length_of_slice (Nat.not_lt.mp hlen) (by decide), hrecord, hdir⟩

theorem plainLayout_eq_ok (h : plainLayout record = .ok layout) :
    layout.directoryOffset + layout.directoryBytes = layout.endRecordOffset ∧
      layout.endRecordOffset = record.absoluteMarker := by
  simp only [plainLayout, eq_ok] at h
  obtain ⟨-, hdir, rfl⟩ := h
  exact ⟨hdir, rfl⟩

/-! ## What follows the directory -/

def EndRecord.bytes (b : Bytes) (record : EndRecord) : Bytes :=
  slice b record.absoluteMarker 22 ++ slice b (record.absoluteMarker + 22) record.commentBytes

def parsedRecords (b : Bytes) (record : EndRecord) (layout : ZipDirectoryLayout) : Bytes :=
  if record.Zip64 then
    slice b layout.endRecordOffset 56 ++ slice b (record.absoluteMarker - 20) 20 ++ record.bytes b
  else
    record.bytes b

/-- The records lie in the file, under their marks. -/
structure Parsed (b : Bytes) (record : EndRecord) (layout : ZipDirectoryLayout) : Prop where
  mark : slice b record.absoluteMarker 4 = eocdMark
  comment : record.commentBytes = field b (record.absoluteMarker + 20) 2
  reachesEnd : record.absoluteMarker + 22 + record.commentBytes = b.length
  locator : record.Zip64 → 20 ≤ record.absoluteMarker ∧
    slice b (record.absoluteMarker - 20) 4 = zip64LocatorMark ∧
    field b (record.absoluteMarker - 12) 8 = layout.endRecordOffset
  zip64Record : record.Zip64 → layout.endRecordOffset + 56 ≤ b.length ∧
    slice b layout.endRecordOffset 4 = zip64EocdMark

/-- The directory ends where the end records start, and these are all that follows. -/
structure Accounted (b : Bytes) (record : EndRecord) (layout : ZipDirectoryLayout) : Prop where
  directory : layout.directoryOffset + layout.directoryBytes = layout.endRecordOffset
  records : b.drop layout.endRecordOffset = parsedRecords b record layout

/-- Of a file whose last end mark stands at `marker` and is one of a ZIP64 file: the offset that the
locator in front of the mark gives, the 56 bytes of a record and the 20 of the locator lead to the mark. -/
def LocatorAdjacent (b : Bytes) : Prop :=
  ∀ marker, rfind eocdMark b = some marker →
    field b (marker + 10) 2 = 0xFFFF ∨ field b (marker + 12) 4 = 0xFFFFFFFF →
      field b (marker - 12) 8 + 56 + 20 = marker

theorem drop_eq_bytes (h : record.absoluteMarker + 22 + record.commentBytes = b.length) :
    b.drop record.absoluteMarker = record.bytes b := by
  rw [EndRecord.bytes, drop_eq_slice_append b record.absoluteMarker 22, drop_eq_slice h]

theorem bytes_length (h : record.absoluteMarker + 22 + record.commentBytes = b.length) :
    (record.bytes b).length = 22 + record.commentBytes := by
  rw [EndRecord.bytes, List.length_append, slice_length (by omega), slice_length (by omega)]

theorem zip64_records_iff {offset : Nat}
    (hend : record.absoluteMarker + 22 + record.commentBytes = b.length)
    (hmark : 20 ≤ record.absoluteMarker) (hoffset : offset + 56 ≤ b.length) :
    b.drop offset =
        slice b offset 56 ++ slice b (record.absoluteMarker - 20) 20 ++ record.bytes b ↔
      offset + 56 = record.absoluteMarker - 20 := by
  constructor
  · intro h
    have hlen := congrArg List.length h
    simp only [List.length_append, List.length_drop] at hlen
    rw [slice_length hoffset, slice_length (by omega), bytes_length hend] at hlen
    omega
  · intro h
    have hrest : record.absoluteMarker - 20 + 20 = record.absoluteMarker := by omega
    rw [drop_eq_slice_append b offset 56, h, drop_eq_slice_append b (record.absoluteMarker - 20) 20,
      hrest, drop_eq_bytes hend, List.append_assoc]

/-- A returned layout comes from records that were read in the file. The central directory ends where
it says, and every byte behind it is part of an end record exactly when, with ZIP64, the locator points
to the 56 bytes in front of itself. -/
theorem zipDirectoryLayout_accounted_iff (b : Bytes) (allowZip64 : Bool) (layout : ZipDirectoryLayout)
    (h : zipDirectoryLayout b allowZip64 = .ok layout) :
    ∃ record, endRecord b = .ok record ∧ Parsed b record layout ∧
      layout.directoryOffset + layout.directoryBytes = layout.endRecordOffset ∧
      (Accounted b record layout ↔ LocatorAdjacent b) := by
  simp only [zipDirectoryLayout, bind_eq_ok] at h
  obtain ⟨record, hrecord, h⟩ := h
  obtain ⟨hfind, hcomment, hzip64, hend⟩ := endRecord_eq_ok hrecord
  have hmark : slice b record.absoluteMarker 4 = eocdMark := slice_rfind hfind
  refine ⟨record, hrecord, ?_⟩
  by_cases hzip : record.Zip64
  · rw [if_pos hzip] at h
    simp only [eq_ok] at h
    obtain ⟨-, -, hlayout⟩ := h
    obtain ⟨hmarker, hlocator, hoffset, hlen, hmark64, hdir⟩ := zip64Layout_eq_ok hlayout
    have hparsed : Parsed b record layout :=
      ⟨hmark, hcomment, hend, fun _ => ⟨hmarker, hlocator, hoffset⟩, fun _ => ⟨hlen, hmark64⟩⟩
    have hiff := zip64_records_iff hend hmarker hlen
    refine ⟨hparsed, hdir, fun haccounted marker hfound _ => ?_, fun hadjacent => ⟨hdir, ?_⟩⟩
    · obtain rfl := Option.some.inj (hfind.symm.trans hfound)
      have hrecords := haccounted.records
      rw [parsedRecords, if_pos hzip] at hrecords
      have hstart := hiff.mp hrecords
      rw [hoffset]
      omega
    · have hstart := hadjacent _ hfind (hzip64.mp hzip)
      rw [hoffset] at hstart
      rw [parsedRecords, if_pos hzip]
      exact hiff.mpr (by omega)
  · rw [if_neg hzip] at h
    obtain ⟨hdir, hoffset⟩ := plainLayout_eq_ok h
    have hparsed : Parsed b record layout :=
      ⟨hmark, hcomment, hend, fun hcontra => absurd hcontra hzip, fun hcontra => absurd hcontra hzip⟩
    refine ⟨hparsed, hdir, fun _ marker hfound hcontra => ?_, fun _ => ⟨hdir, ?_⟩⟩
    · obtain rfl := Option.some.inj (hfind.symm.trans hfound)
      exact absurd (hzip64.mpr hcontra) hzip
    · rw [parsedRecords, if_neg hzip, hoffset]
      exact drop_eq_bytes hend

/-- A ZIP64 end record of no entries at the start of the file. -/
def emptyZip64Record : Bytes :=
  zip64EocdMark ++ [44, 0, 0, 0, 0, 0, 0, 0, 45, 0, 45, 0] ++ List.replicate 40 0

/-- Its locator and the end record that points to it. -/
def emptyZip64End : Bytes :=
  zip64LocatorMark ++ List.replicate 12 0 ++ [1, 0, 0, 0] ++
    eocdMark ++ List.replicate 6 0 ++ [255, 255] ++ List.replicate 10 0

/-- Four bytes between the ZIP64 record and its locator. -/
def hiddenZip : Bytes := emptyZip64Record ++ [72, 73, 68, 69] ++ emptyZip64End

/-- The layout is returned although four bytes behind the directory belong to no record. -/
theorem hiddenZip_layout :
    zipDirectoryLayout hiddenZip true = .ok ⟨0, 0, 0, 0⟩ ∧
      endRecord hiddenZip = .ok ⟨80, 0, 65535, 0, 0⟩ ∧
      ¬Accounted hiddenZip ⟨80, 0, 65535, 0, 0⟩ ⟨0, 0, 0, 0⟩ := by
  refine ⟨by decide +kernel, by decide +kernel, fun haccounted => ?_⟩
  exact absurd haccounted.records (by decide +kernel)

theorem zipDirectoryLayout_accounted_adjacent :
    ∃ record, endRecord (emptyZip64Record ++ emptyZip64End) = .ok record ∧
      Accounted (emptyZip64Record ++ emptyZip64End) record ⟨0, 0, 0, 0⟩ := by
  have hrecord : endRecord (emptyZip64Record ++ emptyZip64End) = .ok ⟨76, 0, 65535, 0, 0⟩ := by
    decide +kernel
  obtain ⟨record, hread, -, -, hiff⟩ := zipDirectoryLayout_accounted_iff
    (emptyZip64Record ++ emptyZip64End) true ⟨0, 0, 0, 0⟩ (by decide +kernel)
  rw [hrecord] at hread
  cases hread
  refine ⟨_, hrecord, hiff.mpr fun marker hfound _ => ?_⟩
  have hlast : rfind eocdMark (emptyZip64Record ++ emptyZip64End) = some 76 := by decide +kernel
  obtain rfl := Option.some.inj (hlast.symm.trans hfound)
  decide +kernel

end Workstream.Artifacts
