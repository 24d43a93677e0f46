import Workstream.Foundation.Bytes
import Workstream.Foundation.Checks
import Workstream.Foundation.Words
import Mathlib.Data.List.DropRight

/-!
# Fields of a tar header

The helpers of `trial_engine/image_archive.rs` that both the outer archive and the layers use.
-/

namespace Workstream.Images
open Foundation

inductive ImageArchiveFailure where
  | invalid
  | capacityExceeded
deriving DecidableEq

def slash : UInt8 := 47

def ascii (text : String) : Bytes := text.toList.map (fun c => UInt8.ofNat c.toNat)

def isZero (bytes : Bytes) : Bool := bytes.all (· == 0)

/-- `from_str_radix` of a 64-bit word, for at most ten digits: a plus sign may stand before them. -/
def fromRadix (radix : ℕ) (text : Bytes) : Option ℕ :=
  let digits := if text.head? = some 43 then text.tail else text
  let value := digits.foldl (fun n digit => n * radix + (digit.toNat - 48)) 0
  if digits ≠ [] ∧ digits.all (fun digit => 48 ≤ digit.toNat ∧ digit.toNat < 48 + radix) ∧
    value < wordLimit then
    some value
  else none

def trimField (bytes : Bytes) : Bytes :=
  (bytes.dropWhile (fun byte => byte == 0 || byte == 32)).rdropWhile (fun byte => byte == 0 || byte == 32)

section Fields

-- which bytes `str::from_utf8` takes
variable (validUtf8 : Bytes → Bool)

def tarText (bytes : Bytes) : Except ImageArchiveFailure Bytes := do
  let text := bytes.takeWhile (· ≠ 0)
  require (validUtf8 text = true) .invalid
  pure text

def tarOctal (bytes : Bytes) : Except ImageArchiveFailure ℕ := do
  require (validUtf8 bytes = true) .invalid
  required (fromRadix 8 (trimField bytes)) .invalid

def headerSum (header : Bytes) : ℕ :=
  ((header.take 148 ++ List.replicate 8 32 ++ header.drop 156).map UInt8.toNat).sum

def validateTarChecksum (header : Bytes) : Except ImageArchiveFailure Unit := do
  let expected ← tarOctal validUtf8 (slice header 148 8)
  require (headerSum header = expected) .invalid

def tarSize (header : Bytes) : Except ImageArchiveFailure ℕ := tarOctal validUtf8 (slice header 124 12)

end Fields

def memberKind (header : Bytes) : UInt8 := header.getD 156 0

def joinName (namePrefix name : Bytes) : Bytes :=
  if namePrefix = [] then name else namePrefix ++ slash :: name

def paddedSize (size : ℕ) : ℕ := (size + 511) / 512 * 512

section Members

variable {validUtf8 : Bytes → Bool}

structure Member (validUtf8 : Bytes → Bool) where
  header : Bytes
  content : Bytes
  padding : Bytes
  header_length : header.length = 512
  header_nonzero : isZero header = false
  size : tarSize validUtf8 header = .ok content.length
  padding_length : content.length + padding.length = paddedSize content.length

def Member.bytes (member : Member validUtf8) : Bytes :=
  member.header ++ (member.content ++ member.padding)

def membersBytes (members : List (Member validUtf8)) : Bytes := members.flatMap Member.bytes

@[simp] theorem membersBytes_cons (member : Member validUtf8) (members : List (Member validUtf8)) :
    membersBytes (member :: members) = member.bytes ++ membersBytes members := by
  simp [membersBytes]

end Members

end Workstream.Images
