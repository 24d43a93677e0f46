import Workstream.Foundation.JsonText

/-!
# Shared values

Identifiers and canonical hashes, as `core/identifiers.py` and `core/hashing.py` have them.
-/

namespace Workstream
open Foundation

/-- The canonical text of an identifier. -/
abbrev Uuid := String

def isLowerHex (c : Char) : Bool := ('0' ≤ c ∧ c ≤ '9') ∨ ('a' ≤ c ∧ c ≤ 'f')

def isDigest (text : String) : Bool :=
  match dropWord "sha256:".toList text.toList with
  | some rest => rest.length = 64 ∧ rest.all isLowerHex
  | none => false

def digestOf (sha256 : String → String) (text : String) : String := "sha256:" ++ sha256 text

/-- `canonical_json_hash`: the digest of the canonical text. -/
def canonicalJsonHash (sha256 : String → String) (value : Json) : String :=
  digestOf sha256 (Json.dumps value)

end Workstream
