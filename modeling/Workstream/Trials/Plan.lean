import Workstream.Core
import Workstream.Foundation.Checks
import Workstream.Foundation.Paths
import Workstream.Foundation.Words
import Workstream.Trials.Failures

/-!
# Profiles and plans of a trial

A `TrialProfile` is what an operator has approved for one checker, with the overrun that enforcement may
add to each limit; a `TrialPlan` is what the checker asks for under it.
-/

namespace Workstream.Trials

open Foundation

structure TrialEnvironment where
  dockerfile : String
  context : String
  platform : String
  deriving DecidableEq

structure TrialResources where
  cpuQuotaMillis : Nat
  cpuTimeMs : Nat
  memoryBytes : Nat
  diskBytes : Nat
  maximumEntries : Nat
  pids : Nat
  deriving DecidableEq

structure TrialStep where
  slotId : String
  slotKind : String
  operation : String
  stateSource : String
  visibleRoles : List String
  command : List String
  workingDirectory : String
  timeoutMs : Nat
  deriving DecidableEq

structure TrialPlan where
  schemaVersion : String
  environment : TrialEnvironment
  resources : TrialResources
  buildTimeoutMs : Nat
  steps : List TrialStep
  deriving DecidableEq

/-! ## Texts -/

end Workstream.Trials
