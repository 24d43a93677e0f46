import Workstream.Checkers.Findings
import Mathlib.Control.Monad.Basic

/-!
# Verdicts of an external checker

`validate_result` and `validate_revision_feedback` of the checker SDK fold `validate_finding` over a
list of findings to learn whether one of them is an error, and compare that with the verdict.
-/

namespace Workstream.Checkers.Results
open Foundation Hashing Hashing.Sdk

def string (object : Members) (key : String) : Except Refusal String :=
  required ((object.lookup key).bind asStr) (.contract "string field is invalid")

def digest (object : Members) (key : String) : Except Refusal String := do
  let value ← string object key
  require (isDigest value = true) (.contract "digest is invalid")
  pure value

def same {α : Type} [DecidableEq α] (left right : Except Refusal α) (message : String) :
    Except Refusal Unit := do
  let a ← left
  let b ← right
  require (a = b) (.contract message)

/-- The fields of `ValidatedRequest` that a result is compared with. -/
structure ValidatedRequest where
  value : Value
  requestDigest : String
  registryEntryId : String
  registryEntryDigest : String
  phase : String
  maximumOutputBytes : ℕ

def isForgeLocatorRequest (request : ValidatedRequest) : Bool :=
  (field ((field request.value "input").getD .null) "workstream_forge_facts_stage").isSome

def hasError (findings : List Value) : Except Refusal Bool :=
  findings.foldlM (fun found finding => if found then pure true else validateFinding finding) false

def resultSchemaVersion : String := "external_checker_result.v1"

def maxResultBytes : ℕ := 65536

def resultFields : List String :=
  ["schema_version", "request_digest", "registry_entry_id", "registry_entry_digest", "phase",
   "outcome", "verdict", "findings", "infrastructure_failure_code", "result_digest"]

def infrastructureFailureCodes : List String :=
  ["capacity_exceeded", "deadline_exceeded", "material_unavailable", "implementation_unavailable",
   "invalid_output"]

def validateInfrastructure (verdict : Value) (findings : List Value) (failure : Value) :
    Except Refusal Unit := do
  let code ← required (asStr failure) (.contract "infrastructure result is invalid")
  require (isNull verdict = true ∧ findings.isEmpty = true ∧ code ∈ infrastructureFailureCodes)
    (.contract "infrastructure result is invalid")

def validateCompleted (request : ValidatedRequest) (verdict : Value) (findings : List Value)
    (failure : Value) : Except Refusal Unit := do
  require (isForgeLocatorRequest request = false)
    (.contract "locator cannot return a work verdict")
  let passed ← required (asStr verdict) (.contract "completed result is invalid")
  require (isNull failure = true ∧ passed ∈ ["passed", "failed"])
    (.contract "completed result is invalid")
  let found ← hasError findings
  require (decide (passed = "failed") = found) (.contract "result verdict differs")

def validateOutcome (request : ValidatedRequest) (outcome : String) (verdict : Value)
    (findings : List Value) (failure : Value) : Except Refusal Unit :=
  if outcome = "infrastructure_failed" then validateInfrastructure verdict findings failure
  else if outcome = "completed" then validateCompleted request verdict findings failure
  else .error (.contract "result outcome is invalid")

section Results

variable (sha256 : String → String) (float : String → Except Refusal String)

/-- `validate_result` up to the branch on the outcome: the outcome, the findings, the verdict and the
failure code. -/
def readResult (value : Value) (request : ValidatedRequest) :
    Except Refusal (String × List Value × Value × Value) := do
  let object ← exactObject value resultFields
  let differs := "result request identity differs"
  same (string object "schema_version") (pure resultSchemaVersion) differs
  same (digest object "request_digest") (pure request.requestDigest) differs
  same (string object "registry_entry_id") (pure request.registryEntryId) differs
  same (digest object "registry_entry_digest") (pure request.registryEntryDigest) differs
  same (string object "phase") (pure request.phase) differs
  let resultDigest ← digest object "result_digest"
  let hash ← canonicalHash float sha256 (.object (object.filter (·.1 ≠ "result_digest")))
  require (hash = resultDigest) (.contract "result digest differs")
  let outcome ← string object "outcome"
  let findings ← required ((object.lookup "findings").bind asArray)
    (.contract "result findings are invalid")
  require (findings.length ≤ 256) (.contract "result findings are unbounded")
  let verdict ← required (object.lookup "verdict") (.contract "result verdict missing")
  let failure ← required (object.lookup "infrastructure_failure_code")
    (.contract "result failure missing")
  pure (outcome, findings, verdict, failure)

/-- The end of `validate_result`. -/
def checkResultSize (value : Value) (request : ValidatedRequest) : Except Refusal Unit := do
  let encoded ← canonicalJson float value
  require ((utf8 encoded).length ≤ maxResultBytes ∧
    (utf8 encoded).length ≤ request.maximumOutputBytes) (.contract "result exceeds output bound")

/-- The checks of a result against the request it answers. -/
def validateResult (value : Value) (request : ValidatedRequest) : Except Refusal Unit := do
  let (outcome, findings, verdict, failure) ← readResult sha256 float value request
  validateOutcome request outcome verdict findings failure
  checkResultSize float value request

end Results

/-- A completed result that passes every check of `validate_result` besides those of its findings and of
the verdict about them. -/
structure Framed (sha256 : String → String) (float : String → Except Refusal String) (value : Value)
    (request : ValidatedRequest) (findings : List Value) (verdict : String) : Prop where
  read : readResult sha256 float value request = .ok ("completed", findings, .string verdict, .null)
  work : isForgeLocatorRequest request = false
  known : verdict ∈ ["passed", "failed"]
  size : checkResultSize float value request = .ok ()

section Judgement

variable {sha256 : String → String} {float : String → Except Refusal String} {u : UnicodeData}
  {value : Value} {request : ValidatedRequest} {findings : List Value} {verdict : String}

theorem Framed.length_le (h : Framed sha256 float value request findings verdict) :
    findings.length ≤ 256 := by
  have hparts := h.read
  simp only [readResult, bind_eq_ok, require_eq_ok, pure_eq_ok] at hparts
  obtain ⟨_, _, _, _, _, _, _, _, _, _, _, _, _, _, _, _, _, _, _, _, _, _, _, hlen, _, _, _, _, heq⟩ :=
    hparts
  cases heq
  exact hlen

end Judgement

/-- Tables that put every hidden character in one category. -/
def plainUnicode : UnicodeData where
  category c := if hiddenCharacter c then "Cf" else "Ll"
  hidden c := by
    by_cases h : hiddenCharacter c = true
    · simp [h]
    · simp [h]

end Workstream.Checkers.Results
