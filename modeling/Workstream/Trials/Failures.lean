/-! # Failures of a trial -/

namespace Workstream.Trials

inductive TrialRelayFailure
  | invalidRequest
  | materialUnavailable
  | implementationUnavailable
  | capacityExceeded
  | deadlineExceeded
  | cancelled
  | cleanupUnsettled
  deriving DecidableEq

structure TrialEngineFailure where
  code : TrialRelayFailure
  cleanupUnsettled : Bool
  deriving DecidableEq

def engineFailure (code : TrialRelayFailure) : TrialEngineFailure := ⟨code, false⟩

def capacityFailure : TrialEngineFailure := engineFailure .capacityExceeded

def implementationFailure : TrialEngineFailure := engineFailure .implementationUnavailable

end Workstream.Trials
