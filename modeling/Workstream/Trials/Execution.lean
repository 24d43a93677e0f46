import Workstream.Artifacts.ArchiveReading
import Workstream.Trials.Plan

/-!
# What the relay accepts as an execution

The engine hands over one observation for the build and one for each planned step.
-/

namespace Workstream.Trials

open Foundation Artifacts

inductive TrialOperationOutcome
  | succeeded
  | exitNonzero
  | signalled
  | deadlineExceeded
  | cpuExceeded
  | memoryExceeded
  | pidExceeded
  | diskExceeded
  | outputExceeded
  | exportInvalid
  | dependencySkipped
  deriving DecidableEq

inductive TrialExportOutcome
  | exported
  | invalid
  | capacityExceeded
  | unavailable
  | notStarted
  deriving DecidableEq

structure RoleInventoryDigest where
  role : String
  digest : String

structure Usage where
  elapsedMs : Nat
  cpuTimeMs : Nat
  peakMemoryBytes : Nat
  peakPids : Nat
  writtenBytes : Nat
  writtenEntries : Nat
  deriving DecidableEq

def Usage.none : Usage := ⟨0, 0, 0, 0, 0, 0⟩

structure Output where
  stdout : String
  stdoutSha256 : String
  stderr : String
  stderrSha256 : String

structure TrialBuildObservation where
  outcome : TrialOperationOutcome
  exitCode : Option Int
  signal : Option Int
  output : Output
  candidateImageDigest : Option String
  candidateArchiveDigest : Option String
  exportOutcome : TrialExportOutcome
  usage : Usage
  measurementMethod : String

structure TrialStepObservation where
  slotId : String
  operationOrder : Nat
  workspaceIdentity : String
  visibleRoleInventoryDigests : List RoleInventoryDigest
  outcome : TrialOperationOutcome
  exitCode : Option Int
  signal : Option Int
  output : Output
  workspaceBeforeSha256 : String
  workspaceAfterSha256 : String
  exportOutcome : TrialExportOutcome
  usage : Usage
  measurementMethod : String

/-- What an engine reports of a trial. -/
structure TrialExecution where
  platformIdentityDigest : String
  builderImageDigest : String
  trustedLauncherDigest : String
  offlineCacheDigest : String
  approvedBaseDigests : List String
  materialInventoryDigests : List RoleInventoryDigest
  build : TrialBuildObservation
  steps : List TrialStepObservation
  cleanupConfirmed : Bool

/-! ## Measured quantities -/

def measuredLimit (observed limit overrun : Nat) (exceeded : Bool) : Bool :=
  if exceeded then limit < observed && (checkedAdd limit overrun).any (observed ≤ ·)
  else observed ≤ limit

def upperWithOverrun (observed limit overrun : Nat) (exceeded : Bool) : Bool :=
  if exceeded then (checkedAdd limit overrun).any (observed ≤ ·) else observed ≤ limit

section

variable (sha : Sha256)

variable (execution : TrialExecution)

def anyCpuExceeded : Bool :=
  execution.build.outcome = .cpuExceeded || execution.steps.any (·.outcome = .cpuExceeded)

end

end Workstream.Trials
