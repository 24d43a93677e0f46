import Workstream.Images.Tar
import Workstream.Foundation.Json

/-!
# Scanning the layers of an image

`validate_layers_bounded` and `inspect_tar`: every layer is read as a stream, after decompression, and
charged against one budget of bytes and entries.
-/

namespace Workstream.Images
open Foundation

/-- What a reader does when it is asked: it yields at least one byte unless it is at its end, or it
fails. -/
inductive Answer where
  | piece (count : ℕ)
  | failure

/-- The bytes that a reader has still to yield, and its next answers. -/
structure Source where
  rest : Bytes
  answers : List Answer

def Source.read (source : Source) (length : ℕ) : Option (Bytes × Source) :=
  match source.answers with
  | [] => some (source.rest.take length, ⟨source.rest.drop length, []⟩)
  | .failure :: _ => none
  | .piece count :: answers =>
    let count := min length (max 1 count)
    some (source.rest.take count, ⟨source.rest.drop count, answers⟩)

/-- The bytes and the entries of the layers so far. -/
structure ExpandedImage where
  bytes : ℕ
  entries : ℕ
deriving DecidableEq

structure LayerStream where
  source : Source
  /-- What the digest has been fed. -/
  digested : Bytes
  expanded : ExpandedImage

section Stream

variable (maximumBytes maximumEntries : ℕ)

def LayerStream.read (stream : LayerStream) (length : ℕ) :
    Except ImageArchiveFailure (Bytes × LayerStream) := do
  let (piece, source) ← required (stream.source.read length) .invalid
  let bytes ← required (checkedAdd stream.expanded.bytes piece.length) .capacityExceeded
  require (bytes ≤ maximumBytes) .capacityExceeded
  pure (piece,
    { source := source
      digested := stream.digested ++ piece
      expanded := { stream.expanded with bytes := bytes } })

end Stream

def pathParts (path : Bytes) : List Bytes :=
  (path.splitOn slash).filter (fun part => part ≠ [] && part ≠ [46])

def pathEntries (path : Bytes) : Except ImageArchiveFailure ℕ := do
  require (path ≠ [] ∧ path.length ≤ 4096 ∧ path.head? ≠ some slash ∧ 0 ∉ path) .invalid
  require ([46, 46] ∉ path.splitOn slash) .invalid
  pure (max (pathParts path).length 1)

section Layers

variable (validUtf8 : Bytes → Bool)

def paxRecord (remaining : Bytes) : Except ImageArchiveFailure (Bytes × Bytes × Bytes) := do
  require (32 ∈ remaining) .invalid
  let space := remaining.idxOf 32
  require (validUtf8 (remaining.take space) = true) .invalid
  let length ← required (fromRadix 10 (remaining.take space)) .invalid
  require (space + 2 < length ∧ length ≤ remaining.length ∧ remaining[length - 1]? = some 10) .invalid
  let record := slice remaining (space + 1) (length - 1 - (space + 1))
  require (validUtf8 record = true) .invalid
  require (61 ∈ record) .invalid
  pure (record.take (record.idxOf 61), record.drop (record.idxOf 61 + 1), remaining.drop length)

def paxValue (key value : Bytes) : Except ImageArchiveFailure (Option Bytes) :=
  if key = ascii "path" then do
    let _ ← pathEntries value
    pure (some value)
  else if key = ascii "linkpath" ∧ value.length ≤ 4096 ∧ 0 ∉ value then pure none
  else if key ∈ ["mtime", "atime", "ctime", "uid", "gid", "uname", "gname"].map ascii then pure none
  else if ascii "SCHILY.xattr." <+: key then pure none
  else .error .invalid

/-- `pax_path`; a record has at least one byte, so that a turn for each byte is enough. -/
def paxPath : ℕ → Bytes → List Bytes → Option Bytes → Except ImageArchiveFailure (Option Bytes)
  | _, [], _, path => pure path
  | 0, _ :: _, _, _ => .error .invalid
  | turns + 1, byte :: bytes, keys, path => do
    let (key, value, rest) ← paxRecord validUtf8 (byte :: bytes)
    require (key ∉ keys) .invalid
    let found ← paxValue key value
    paxPath turns rest (key :: keys) (found.or path)

def isMetadata (header : Bytes) : Bool := [120, 76, 75].contains (memberKind header)

def isEntry (header : Bytes) : Bool := [0, 48, 49, 50, 53].contains (memberKind header)

def isUstar (header : Bytes) : Bool := slice header 257 6 = ascii "ustar" ++ [0]

def metadataPath (header metadata : Bytes) (nextPath : Option Bytes) :
    Except ImageArchiveFailure (Option Bytes) :=
  if memberKind header = 120 then do
    let path ← paxPath validUtf8 metadata.length metadata [] none
    pure (path.or nextPath)
  else do
    let text ← tarText validUtf8 metadata
    require (text ≠ [] ∧ text.length ≤ 4096) .invalid
    pure (if memberKind header = 76 then some text else nextPath)

/-- The path in a header; an old GNU header uses the second field for something else. -/
def headerPath (header : Bytes) : Except ImageArchiveFailure Bytes := do
  let name ← tarText validUtf8 (slice header 0 100)
  let namePrefix ← if isUstar header then tarText validUtf8 (slice header 345 155) else pure []
  pure (joinName namePrefix name)

def entryPath (header : Bytes) (nextPath : Option Bytes) : Except ImageArchiveFailure Bytes :=
  match nextPath with
  | some path => pure path
  | none => headerPath validUtf8 header

variable (maximumBytes maximumEntries : ℕ)

variable (parseConfig : Bytes → Option Json) (sha256 : Bytes → String)
  (plain : ℕ → Bytes → List Answer) (gunzip : ℕ → Bytes → Source)

end Layers

end Workstream.Images
