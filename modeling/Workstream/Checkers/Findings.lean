import Workstream.Hashing.CanonicalJson
import Workstream.Foundation.Paths
import Workstream.Foundation.Words

/-!
# Findings of an external checker

A finding is checked twice: by `validate_finding` of the checker SDK, before a checker's answer leaves
the guest, and by the model `ExternalCheckerFinding`, when the answer reaches the backend.
-/

namespace Workstream.Checkers.Results
open Foundation Hashing Hashing.Sdk

abbrev Members := List (String × Value)

def asObject : Value → Option Members
  | .object members => some members
  | _ => none

def asArray : Value → Option (List Value)
  | .array items => some items
  | _ => none

def asStr : Value → Option String
  | .string s => some s
  | _ => none

def isNull : Value → Bool
  | .null => true
  | _ => false

/-- A numeral as `u64::from_str` reads it. -/
def asU64 : Value → Option ℕ
  | .number source =>
    match Json.parseNat source.toList with
    | some (n, []) => if n < wordLimit then some n else none
    | _ => none
  | _ => none

def optional {α : Type} (read : Value → Option α) (value : Value) : Option (Option α) :=
  if isNull value then some none else (read value).map some

/-- A field of an object. -/
def field (value : Value) (name : String) : Option Value :=
  (asObject value).bind (·.lookup name)

def exactMap (object : Members) (fields : List String) : Except Refusal Unit :=
  require ((∀ key ∈ object.map Prod.fst, key ∈ fields) ∧ ∀ key ∈ fields, key ∈ object.map Prod.fst)
    (.contract "object fields are invalid")

def exactObject (value : Value) (fields : List String) : Except Refusal Members := do
  let object ← required (asObject value) (.contract "object is invalid")
  exactMap object fields
  pure object

/-- The characters that `is_safe_finding_path` lists beside the ASCII controls. -/
def formattingRanges : List (ℕ × ℕ) :=
  [(0x0080, 0x009F), (0x2028, 0x2028), (0x2029, 0x2029), (0x00AD, 0x00AD), (0x0600, 0x0605),
   (0x061C, 0x061C), (0x06DD, 0x06DD), (0x070F, 0x070F), (0x0890, 0x0891), (0x08E2, 0x08E2),
   (0x180E, 0x180E), (0x200B, 0x200F), (0x202A, 0x202E), (0x2060, 0x2064), (0x2066, 0x206F),
   (0xFEFF, 0xFEFF), (0xFFF9, 0xFFFB), (0x110BD, 0x110BD), (0x110CD, 0x110CD),
   (0x13430, 0x1343F), (0x1BCA0, 0x1BCA3), (0x1D173, 0x1D17A), (0xE0001, 0xE0001),
   (0xE0020, 0xE007F)]

def formatting (item : Char) : Bool :=
  formattingRanges.any fun (first, last) => first ≤ item.toNat && item.toNat ≤ last

def hiddenCharacter (item : Char) : Bool :=
  item.toNat < 32 || item.toNat = 127 || formatting item

def unsafePart (part : String) : Bool :=
  part ∈ ["", ".", ".."] || part.toList.getLast? = some ' ' || part.toList.getLast? = some '.'

def isSafeFindingPath (path : String) : Bool :=
  path ≠ "" && path.toList.length ≤ 1000 && !path.toList.contains '\\' &&
    path.toList.head? ≠ some '/' && !path.toList.any hiddenCharacter &&
    !(splitPath path).any unsafePart && !((splitPath path).headD "").toList.contains ':'

def identifierStart (item : Char) : Bool := 'a' ≤ item && item ≤ 'z'

def identifierNext (item : Char) : Bool :=
  identifierStart item || ('0' ≤ item && item ≤ '9') || item = '_' || item = '.' || item = '-'

def identifierShape : List Char → Bool
  | [] => false
  | first :: rest => identifierStart first && rest.all identifierNext

def isIdentifier (value : String) : Bool :=
  (utf8 value).length ≤ 100 && identifierShape value.toList

structure Finding where
  checkId : String
  code : String
  level : String
  message : String
  path : Option String
  line : Option ℕ

def findingFields : List String := ["check_id", "code", "level", "message", "path", "line"]

def findingLevels : List String := ["info", "warning", "error", "coverage_incomplete"]

/-- `serde_json::from_value`, on an object that has no other fields. -/
def readFinding (object : Members) : Option Finding := do
  let checkId ← (object.lookup "check_id").bind asStr
  let code ← (object.lookup "code").bind asStr
  let level ← (object.lookup "level").bind asStr
  let message ← (object.lookup "message").bind asStr
  let path ← optional asStr ((object.lookup "path").getD .null)
  let line ← optional asU64 ((object.lookup "line").getD .null)
  pure { checkId, code, level, message, path, line }

def Finding.admissible (finding : Finding) : Bool :=
  isIdentifier finding.checkId && isIdentifier finding.code && finding.message ≠ "" &&
    finding.message.toList.length ≤ 4096 && finding.level ∈ findingLevels &&
    finding.path.all isSafeFindingPath &&
    finding.line.all fun line => finding.path.isSome && 1 ≤ line && line ≤ 10000000

/-- `validate_finding`: whether the finding is an error. -/
def validateFinding (value : Value) : Except Refusal Bool := do
  let keys ← exactObject value findingFields
  let finding ← required (readFinding keys) (.contract "finding is invalid")
  require ((keys.lookup "path").isSome ∧ (keys.lookup "line").isSome ∧ finding.admissible = true)
    (.contract "finding is invalid")
  pure (finding.level = "error")

variable {value : Value} {cs : List Char} {n : ℕ}

variable {object : Members}

variable {finding : Finding}

/-- The Unicode tables of the interpreter; the SDK lists the characters of these categories. -/
structure UnicodeData where
  category : Char → String
  hidden : ∀ c, category c ∈ ["Cc", "Cf", "Zl", "Zp"] ↔ hiddenCharacter c = true

inductive ModelError where
  | invalid (field : String)
  | contract (message : String)
deriving DecidableEq

/-- A required field of strict text. -/
def textField (object : Members) (name : String) (accepts : String → Bool) :
    Except ModelError String := do
  let text ← required ((object.lookup name).bind asStr) (.invalid name)
  require (accepts text = true) (.invalid name)
  pure text

variable {u : UnicodeData}

end Workstream.Checkers.Results
