import Workstream.Storage.System

/-!
# What the transactions change

One inversion for each transaction of the system: which branch of the source it took, and what the
tables hold afterwards.
-/

namespace Workstream.Storage
open Foundation

variable {db db' : Database} {claim : PutClaim} {attempt : ArtifactPutAttempt}
  {job : ArtifactVerificationJob} {ref : String} {replica : ArtifactReplica} {scanInterval now : ℕ}
  {settings : Settings} {activated published : Bool} {request : ClaimRequest} {receiptId : Uuid}
  {read : Except StoreError (String × ℕ)}

theorem addObservationReceipt_eq_ok {receipt : ArtifactPutObservationReceipt}
    (h : addObservationReceipt db receipt = .ok db') :
    (∀ other ∈ db.observationReceipts, (other.putAttemptId, other.executionGeneration) ≠
      (receipt.putAttemptId, receipt.executionGeneration)) ∧
    db' = { db with observationReceipts := db.observationReceipts ++ [receipt] } := by
  simp only [addObservationReceipt, eq_ok] at h
  obtain ⟨⟨⟩, hfresh, rfl⟩ := h
  exact ⟨hfresh, rfl⟩

theorem addOperationReceipt_eq_ok {receipt : ArtifactOperationReceipt}
    (h : addOperationReceipt db receipt = .ok db') :
    (∀ other ∈ db.operationReceipts, other.putAttemptId ≠ receipt.putAttemptId) ∧
    db' = { db with operationReceipts := db.operationReceipts ++ [receipt] } := by
  simp only [addOperationReceipt, eq_ok] at h
  obtain ⟨⟨⟩, hfresh, rfl⟩ := h
  exact ⟨hfresh, rfl⟩

structure JobFits (db : Database) (job : ArtifactVerificationJob) : Prop where
  id : db.job job.id = none
  initial : job.parentVerificationJobId = none → ∀ other ∈ db.jobs, other.parentVerificationJobId = none →
    other.originatingPutAttemptId ≠ job.originatingPutAttemptId
  retry : job.parentVerificationJobId ≠ none → ∀ other ∈ db.jobs,
    other.parentVerificationJobId ≠ job.parentVerificationJobId

theorem addVerificationJob_eq_ok (h : addVerificationJob db job = .ok db') :
    JobFits db job ∧ db' = { db with jobs := db.jobs ++ [job] } := by
  simp only [addVerificationJob, eq_ok] at h
  obtain ⟨⟨⟩, ⟨hid, hall⟩, rfl⟩ := h
  exact ⟨⟨hid, fun hnone other hother => (hall other hother).1 hnone,
    fun hsome other hother => (hall other hother).2 hsome⟩, rfl⟩

structure Stores (db : Database) (sha256 : String) (byteCount : ℕ) (providerObjectRef : String)
    (states : ReplicaStates) (stored : Database) (content : ArtifactContent)
    (replica : ArtifactReplica) : Prop where
  sha256_eq : content.sha256 = sha256
  byteCount_eq : content.byteCount = byteCount
  ref_eq : replica.providerObjectRef = providerObjectRef
  contents : content ∈ db.contents ∧ stored.contents = db.contents ∨
    Table.find ArtifactContent.id db.contents content.id = none ∧
      (∀ other ∈ db.contents, (other.sha256, other.byteCount) ≠ (sha256, byteCount)) ∧
      stored.contents = db.contents ++ [content]
  replicas : replica ∈ db.replicas ∧ stored.replicas = db.replicas ∨
    db.replica replica.id = none ∧ replica.contentId = content.id ∧ replica.states = states ∧
      (∀ other ∈ db.replicas, other.providerObjectRef ≠ providerObjectRef) ∧
      stored.replicas = db.replicas ++ [replica]
  rest : stored = { db with contents := stored.contents, replicas := stored.replicas }

theorem stores_of_eq_ok {sha256 : String} {byteCount : ℕ} {states : ReplicaStates}
    {contentId replicaId : Uuid} {middle stored : Database} {content : ArtifactContent}
    (hcont : getOrCreateContent db sha256 byteCount contentId = .ok (middle, content))
    (hrepl : getOrCreateReplica middle content.id ref states replicaId = .ok (stored, replica)) :
    Stores db sha256 byteCount ref states stored content replica := by
  have hfirst : content.sha256 = sha256 ∧ content.byteCount = byteCount ∧
      (content ∈ db.contents ∧ middle.contents = db.contents ∨
        Table.find ArtifactContent.id db.contents content.id = none ∧
          (∀ other ∈ db.contents, (other.sha256, other.byteCount) ≠ (sha256, byteCount)) ∧
          middle.contents = db.contents ++ [content]) ∧
      middle = { db with contents := middle.contents } := by
    unfold getOrCreateContent at hcont
    split at hcont
    · rename_i found hfound
      obtain ⟨rfl, rfl⟩ := Prod.mk.inj (pure_eq_ok.mp hcont)
      obtain ⟨hmem, hkey⟩ := Table.find_eq_some hfound
      exact ⟨congrArg Prod.fst hkey, congrArg Prod.snd hkey, .inl ⟨hmem, rfl⟩, rfl⟩
    · rename_i hnone
      simp only [eq_ok] at hcont
      obtain ⟨⟨⟩, hid, rfl, rfl⟩ := hcont
      exact ⟨rfl, rfl, .inr ⟨hid, Table.find_eq_none.mp hnone, rfl⟩, rfl⟩
  obtain ⟨hsha, hbytes, hcontents, hmid⟩ := hfirst
  have hreplicas : middle.replicas = db.replicas := by rw [hmid]
  unfold getOrCreateReplica at hrepl
  split at hrepl
  · rename_i found hfound
    obtain ⟨rfl, rfl⟩ := Prod.mk.inj (pure_eq_ok.mp hrepl)
    obtain ⟨hmem, hkey⟩ := Table.find_eq_some hfound
    exact {
      sha256_eq := hsha
      byteCount_eq := hbytes
      ref_eq := hkey
      contents := hcontents
      replicas := .inl ⟨hreplicas ▸ hmem, hreplicas⟩
      rest := by rw [hmid] }
  · rename_i hnone
    simp only [eq_ok] at hrepl
    obtain ⟨⟨⟩, hid, rfl, rfl⟩ := hrepl
    have hid' : db.replica replicaId = none := by
      rw [Database.replica, hreplicas] at hid
      exact hid
    exact {
      sha256_eq := hsha
      byteCount_eq := hbytes
      ref_eq := rfl
      contents := hcontents
      replicas := .inr ⟨hid', rfl, rfl, hreplicas ▸ Table.find_eq_none.mp hnone, by rw [hreplicas]⟩
      rest := by rw [hmid] }

def Leaves (db stored : Database) (attempt : ArtifactPutAttempt) : Prop :=
  stored = db ∨ ∃ ref states content replica, (states = pendingStates ∨ states = mismatchStates) ∧
    Stores db attempt.sha256 attempt.byteCount ref states stored content replica

/-- What a terminal transaction under a current fence may end in, with the answer it gives. An
acknowledgement of the provider has `observed` false. -/
inductive PutEnd (db : Database) (claim : PutClaim) (observed : Bool) (attempt : ArtifactPutAttempt) :
    Database → String → Prop
  | unavailable (force : Bool) (now : ℕ) (exhausted : attempt.Exhausted force) :
    PutEnd db claim observed attempt (db.setAttempt (unavailableAttempt attempt now)) "provider_unavailable"
  | unknown (force : Bool) (nextRunAt : ℕ) (left : ¬attempt.Exhausted force) :
    PutEnd db claim observed attempt (db.setAttempt (unknownAttempt attempt nextRunAt))
      "acknowledgement_unknown"
  | absent (ids : TerminalIds) (ledger : Ledger) (middle : Database) (isObserved : observed = true)
      (released : (db.ledger.linkedIds claim.attemptId).foldlM (Ledger.release ids.now) db.ledger =
        .ok ledger)
      (receipt : addObservationReceipt { db with ledger }
        (observationReceipt ids.receiptId attempt .observedMissing none) = .ok middle) :
    PutEnd db claim observed attempt (middle.setAttempt (absentAttempt attempt ids.now)) "missing"
  | confirmed (ids : TerminalIds) (ref : String) (replayed : Bool) (maximumAttempts : ℕ) (ledger : Ledger)
      (stored evidenced last : Database) (content : ArtifactContent) (replica : ArtifactReplica)
      (completed : completeCharges db.ledger claim observed ids.now = .ok ledger)
      (stores : Stores { db with ledger } attempt.sha256 attempt.byteCount ref pendingStates stored content
        replica)
      (same : replica.contentId = content.id)
      (receipt : addConfirmation stored attempt replica.id ref replayed observed ids.receiptId =
        .ok evidenced)
      (job : addInitialJob evidenced attempt replica.id ids.jobId maximumAttempts = .ok last) :
    PutEnd db claim observed attempt (last.setAttempt (confirmedAttempt attempt replica.id observed ids))
      (confirmedStatus attempt.isGuide observed)
  | mismatch (ids : TerminalIds) (ref : String) (read : String × ℕ) (ledger : Ledger)
      (stored middle : Database) (content : ArtifactContent) (replica : ArtifactReplica)
      (isObserved : observed = true)
      (completed : completeCharges db.ledger claim true ids.now = .ok ledger)
      (stores : Stores { db with ledger } attempt.sha256 attempt.byteCount ref mismatchStates stored content
        replica)
      (states : replica.states = pendingStates ∨ replica.states = mismatchStates)
      (receipt : addObservationReceipt (stored.setReplica { replica with states := mismatchStates })
        (observationReceipt ids.receiptId { attempt with replicaId := some replica.id }
          .observedIntegrityMismatch (some read)) = .ok middle) :
    PutEnd db claim observed attempt
      (middle.setAttempt (mismatchAttempt { attempt with replicaId := some replica.id } ids.now))
      "integrity_mismatch"
  | conflict (ids : TerminalIds) (ledger : Ledger) (stored middle : Database) (replicaId : Option Uuid)
      (completed : completeCharges db.ledger claim observed ids.now = .ok ledger)
      (leaves : Leaves { db with ledger } stored attempt)
      (receipt : addObservationReceipt stored (observationReceipt ids.receiptId
        { attempt with replicaId } .conflict none) = .ok middle) :
    PutEnd db claim observed attempt
      (middle.setAttempt (conflictAttempt { attempt with replicaId } ids.now)) "conflict"

def PutReturns (db : Database) (claim : PutClaim) (observed : Bool) (db' : Database) (answer : String) :
    Prop :=
  (db.fenced claim = none ∧ db' = db ∧ answer = "stale") ∨
    ∃ attempt, db.fenced claim = some attempt ∧ PutEnd db claim observed attempt db' answer

variable {answer : String} {ids : TerminalIds}

theorem conflictPut_eq_ok (h : conflictPut db attempt ids = .ok (db', answer)) :
    answer = "conflict" ∧ ∃ middle, addObservationReceipt db
      (observationReceipt ids.receiptId attempt .conflict none) = .ok middle ∧
      db' = middle.setAttempt (conflictAttempt attempt ids.now) := by
  simp only [conflictPut, eq_ok] at h
  obtain ⟨middle, hmid, rfl, rfl⟩ := h
  exact ⟨rfl, middle, hmid, rfl⟩

/-- A transaction that ends the execution when its fence is the current one. -/
theorem returns_of_fence {observed : Bool} {ends : ArtifactPutAttempt → Except Failure (Database × String)}
    (hends : ∀ attempt, ends attempt = .ok (db', answer) → PutEnd db claim observed attempt db' answer)
    (h : (match db.fenced claim with
      | none => pure (db, "stale")
      | some attempt => ends attempt) = .ok (db', answer)) : PutReturns db claim observed db' answer := by
  split at h
  · rename_i hfence
    obtain ⟨rfl, rfl⟩ := Prod.mk.inj (pure_eq_ok.mp h)
    exact .inl ⟨hfence, rfl, rfl⟩
  · rename_i attempt hfence
    exact .inr ⟨attempt, hfence, hends attempt h⟩

theorem completeTransactionB_returns {replayed observed : Bool} {maximumAttempts : ℕ}
    (h : completeTransactionB db claim ref replayed observed maximumAttempts ids = .ok (db', answer)) :
    PutReturns db claim observed db' answer := by
  refine returns_of_fence (fun attempt h => ?_) h
  obtain ⟨ledger, hledger, h⟩ := bind_eq_ok.mp h
  obtain ⟨⟨middle, content⟩, hcont, h⟩ := bind_eq_ok.mp h
  obtain ⟨⟨stored, replica⟩, hrepl, h⟩ := bind_eq_ok.mp h
  have hstores := stores_of_eq_ok hcont hrepl
  dsimp only at h
  split at h
  · rename_i hsame
    simp only [eq_ok] at h
    obtain ⟨evidenced, hevid, last, hlast, rfl, rfl⟩ := h
    exact .confirmed ids ref replayed maximumAttempts ledger stored evidenced last content replica hledger
      hstores hsame hevid hlast
  · obtain ⟨rfl, middle, hmid, rfl⟩ := conflictPut_eq_ok h
    exact .conflict ids ledger stored middle attempt.replicaId hledger
      (.inr ⟨ref, pendingStates, content, replica, .inl rfl, hstores⟩) hmid

theorem recordPutUnavailable_returns {force observed : Bool}
    (h : recordPutUnavailable db claim force scanInterval now = (db', answer)) :
    PutReturns db claim observed db' answer := by
  unfold recordPutUnavailable at h
  split at h
  · rename_i hfence
    obtain ⟨rfl, rfl⟩ := Prod.mk.inj h
    exact .inl ⟨hfence, rfl, rfl⟩
  · rename_i attempt hfence
    refine .inr ⟨attempt, hfence, ?_⟩
    split at h
    · rename_i hexh
      obtain ⟨rfl, rfl⟩ := Prod.mk.inj h
      exact .unavailable force now hexh
    · rename_i hleft
      obtain ⟨rfl, rfl⟩ := Prod.mk.inj h
      exact .unknown force (now + scanInterval) hleft

theorem recordPutAbsence_returns (h : recordPutAbsence db claim ids = .ok (db', answer)) :
    PutReturns db claim true db' answer := by
  refine returns_of_fence (fun attempt h => ?_) h
  simp only [eq_ok] at h
  obtain ⟨ledger, hledger, middle, hmid, rfl, rfl⟩ := h
  exact .absent ids ledger middle rfl hledger hmid

theorem recordPutMismatch_returns {read : String × ℕ}
    (h : recordPutMismatch db claim ref read ids = .ok (db', answer)) :
    PutReturns db claim true db' answer := by
  refine returns_of_fence (fun attempt h => ?_) h
  obtain ⟨ledger, hledger, h⟩ := bind_eq_ok.mp h
  obtain ⟨⟨middle, content⟩, hcont, h⟩ := bind_eq_ok.mp h
  obtain ⟨⟨stored, replica⟩, hrepl, h⟩ := bind_eq_ok.mp h
  have hstores := stores_of_eq_ok hcont hrepl
  dsimp only [mismatchPut] at h
  split at h
  · rename_i hstates
    simp only [eq_ok] at h
    obtain ⟨middle, hmid, rfl, rfl⟩ := h
    exact .mismatch ids ref read ledger stored middle content replica rfl hledger hstores hstates hmid
  · obtain ⟨rfl, middle, hmid, rfl⟩ := conflictPut_eq_ok h
    exact .conflict ids ledger stored middle (some replica.id) hledger
      (.inr ⟨ref, mismatchStates, content, replica, .inr rfl, hstores⟩) hmid

theorem recordPutConflict_returns (h : recordPutConflict db claim ids = .ok (db', answer)) :
    PutReturns db claim true db' answer := by
  refine returns_of_fence (fun attempt h => ?_) h
  obtain ⟨ledger, hledger, h⟩ := bind_eq_ok.mp h
  obtain ⟨rfl, middle, hmid, rfl⟩ := conflictPut_eq_ok h
  exact .conflict ids ledger _ middle attempt.replicaId hledger (.inl rfl) hmid

theorem finishCallerPut_returns {result : Except StoreError (String × Bool)}
    (h : finishCallerPut settings db claim result activated ids = .ok (db', answer)) :
    PutReturns db claim false db' answer := by
  unfold finishCallerPut at h
  split at h
  · exact completeTransactionB_returns h
  all_goals exact recordPutUnavailable_returns (pure_eq_ok.mp h)

theorem finishObservation_returns {result : Observed}
    (h : finishObservation settings db claim result activated ids = .ok (db', answer)) :
    PutReturns db claim true db' answer := by
  unfold finishObservation at h
  split at h
  · exact recordPutUnavailable_returns (pure_eq_ok.mp h)
  · exact recordPutUnavailable_returns (pure_eq_ok.mp h)
  · exact completeTransactionB_returns h
  · exact recordPutAbsence_returns h
  · exact recordPutMismatch_returns h
  · exact recordPutConflict_returns h

inductive Admits (db : Database) (request : AdmissionRequest) (ledger : Ledger) (charges : List Uuid) :
    Database → Prop
  | replayed : Admits db request ledger charges { db with ledger }
  | created (fresh : db.attempt request.attemptId = none) :
    Admits db request ledger charges { db with
      ledger := { ledger with
        links := ledger.links ++ charges.map (fun charge => (request.attemptId, charge)) }
      attempts := db.attempts ++ [newAttempt request] }

theorem admitArtifact_eq_ok {request : AdmissionRequest} {id : Uuid}
    (h : admitArtifact db request = .ok (db', id)) :
    ∃ ledger charges, ((deriveScopes request.limits request.facts).foldl Ledger.ensureScope
        db.ledger).reserveCharges request.facts
          ((deriveScopes request.limits request.facts).zip request.chargeIds) = .ok (ledger, charges) ∧
      Admits db request ledger charges db' := by
  simp only [admitArtifact, bind_eq_ok] at h
  obtain ⟨⟨⟩, -, ⟨⟩, -, replay, -, ⟨ledger, charges⟩, hresv, h⟩ := h
  refine ⟨ledger, charges, hresv, ?_⟩
  split at h
  · simp only [eq_ok] at h
    obtain ⟨⟨⟩, -, rfl, -⟩ := h
    exact .replayed
  · simp only [eq_ok] at h
    obtain ⟨⟨⟩, hfresh, rfl, -⟩ := h
    exact .created hfresh.1

structure Claims (db : Database) (request : ClaimRequest) (attempt : ArtifactPutAttempt) (db' : Database)
    (claim : PutClaim) : Prop where
  found : db.attempt request.attemptId = some attempt
  generation : attempt.executionGeneration = request.expectedGeneration
  claimable : attempt.Claimable request.now request.mode
  rows : db' = { db.setAttempt (claimed attempt request) with ledger := db'.ledger }
  caller : request.mode = .callerPut →
    (db.ledger.linkedIds request.attemptId).foldlM Ledger.reacquire db.ledger = .ok db'.ledger ∧
      claim = request.claim (db'.ledger.provisionalIds request.attemptId)
  observer : request.mode = .observation → db'.ledger = db.ledger ∧ claim = request.claim []

theorem claimPutAttempt_eq_some {row : ArtifactPutAttempt}
    (h : claimPutAttempt db request = some (db', row)) :
    ∃ attempt, db.attempt request.attemptId = some attempt ∧
      attempt.executionGeneration = request.expectedGeneration ∧
      attempt.Claimable request.now request.mode ∧ db' = db.setAttempt (claimed attempt request) := by
  unfold claimPutAttempt at h
  split at h
  · cases h
  · rename_i attempt hatt
    split at h
    · rename_i hclaim
      obtain ⟨rfl, -⟩ := Prod.mk.inj (Option.some.inj h)
      exact ⟨attempt, hatt, hclaim.1, hclaim.2, rfl⟩
    · cases h

theorem claimCallerPut_claims (hmode : request.mode = .callerPut)
    (h : claimCallerPut db request = .ok (some (db', claim))) :
    ∃ attempt, Claims db request attempt db' claim := by
  unfold claimCallerPut at h
  split at h
  · cases h
  · obtain ⟨⟨⟩, -, h⟩ := bind_eq_ok.mp h
    split at h
    · exact absurd (pure_eq_ok.mp h) nofun
    · rename_i middle row hrow
      obtain ⟨attempt, hfound, hgen, hclm, rfl⟩ := claimPutAttempt_eq_some hrow
      obtain ⟨ledger, hledger, h⟩ := bind_eq_ok.mp h
      obtain ⟨rfl, rfl⟩ := Prod.mk.inj (Option.some.inj (pure_eq_ok.mp h))
      exact ⟨attempt, hfound, hgen, hclm, rfl, fun _ => ⟨hledger, rfl⟩,
        fun hother => absurd (hmode.symm.trans hother) nofun⟩

theorem claimPut_eq_some (h : claimPut db request = some (db', claim)) :
    ∃ attempt, Claims db request attempt db' claim := by
  unfold claimPut at h
  split at h
  · rename_i hmode
    refine claimCallerPut_claims hmode ?_
    cases hcase : claimCallerPut db request with
    | error e => rw [hcase] at h; cases h
    | ok found =>
      rw [hcase] at h
      exact congrArg Except.ok h
  · rename_i hmode
    obtain ⟨⟨middle, row⟩, hrow, heq⟩ := Option.map_eq_some_iff.mp h
    obtain ⟨rfl, rfl⟩ := Prod.mk.inj heq
    obtain ⟨attempt, hfound, hgen, hclm, rfl⟩ := claimPutAttempt_eq_some hrow
    exact ⟨attempt, hfound, hgen, hclm, rfl, fun hother => absurd (hmode.symm.trans hother) nofun,
      fun _ => ⟨rfl, rfl⟩⟩

theorem Claims.claim_eq (h : Claims db request attempt db' claim) :
    ∃ seen, claim = request.claim seen := by
  cases hmode : request.mode with
  | callerPut => exact ⟨_, (h.caller hmode).2⟩
  | observation => exact ⟨_, (h.observer hmode).2⟩

def Finalizes (recoveries : List ArtifactRecoveryAttempt) (jobId : Uuid) (outcome : JobStatus) (now : ℕ)
    (recoveries' : List ArtifactRecoveryAttempt) : Prop :=
  (Table.find ArtifactRecoveryAttempt.retryVerificationJobId recoveries jobId = none ∧
      recoveries' = recoveries) ∨
    ∃ recovery, Table.find ArtifactRecoveryAttempt.retryVerificationJobId recoveries jobId = some recovery ∧
      recovery.status = .requested ∧ recovery.terminalAt = none ∧
      recoveries' = Table.replace ArtifactRecoveryAttempt.retryVerificationJobId recoveries
        (recovery.ended outcome now)

theorem finalizeRecovery_eq_ok {jobId : Uuid} {outcome : JobStatus}
    (h : finalizeRecovery db jobId outcome now = .ok db') :
    Finalizes db.recoveries jobId outcome now db'.recoveries ∧
      db' = { db with recoveries := db'.recoveries } := by
  unfold finalizeRecovery at h
  split at h
  · rename_i hnone
    obtain rfl := pure_eq_ok.mp h
    exact ⟨.inl ⟨hnone, rfl⟩, rfl⟩
  · rename_i recovery hrecv
    simp only [eq_ok] at h
    obtain ⟨⟨⟩, ⟨hstat, hterm⟩, rfl⟩ := h
    exact ⟨.inr ⟨recovery, hrecv, hstat, hterm, rfl⟩, rfl⟩

def postponedJob (job : ArtifactVerificationJob) (nextRunAt : ℕ) : ArtifactVerificationJob :=
  { job.cleared .providerUnavailable with
    nextRunAt := some nextRunAt
    terminalAt := none
    terminalResultCode := none }

inductive JobEnd (db : Database) (read : Except StoreError (String × ℕ)) (job : ArtifactVerificationJob)
    (replica : ArtifactReplica) (attempt : ArtifactPutAttempt) : Database → Prop
  | completed (outcome : VerificationOutcome) (observed : Option (String × ℕ)) (receiptId : Uuid) (now : ℕ)
      (replicas : List ArtifactReplica) (recoveries : List ArtifactRecoveryAttempt)
      (marked : replicas = db.replicas ∨ replica.isBad = false ∧ replicas =
        Table.replace ArtifactReplica.id db.replicas { replica with states := outcome.states replica })
      (matched : outcome = .verified → read = .ok (attempt.sha256, attempt.byteCount) ∧
        replica.isBad = false ∧ replicas = Table.replace ArtifactReplica.id db.replicas
          { replica with states := (.verified, .available, .valid) })
      (fresh : ∀ other ∈ db.verificationReceipts, (other.verificationJobId, other.executionGeneration) ≠
        (job.id, job.executionGeneration))
      (recovered : Finalizes db.recoveries job.id outcome.status now recoveries) :
    JobEnd db read job replica attempt { db with
      replicas, recoveries
      jobs := Table.replace ArtifactVerificationJob.id db.jobs (job.ended outcome.status now)
      verificationReceipts := db.verificationReceipts ++
        [verificationReceipt receiptId job outcome observed] }
  | exhausted (now : ℕ) (recoveries : List ArtifactRecoveryAttempt)
      (spent : job.maximumAttempts ≤ job.attemptCount)
      (recovered : Finalizes db.recoveries job.id .providerUnavailable now recoveries) :
    JobEnd db read job replica attempt { db with
      recoveries
      jobs := Table.replace ArtifactVerificationJob.id db.jobs (job.ended .providerUnavailable now) }
  | postponed (nextRunAt : ℕ) :
    JobEnd db read job replica attempt (db.setJob (postponedJob job nextRunAt))

/-- A terminal transaction of a verifier that commits. -/
def JobReturns (db : Database) (claim : JobClaim) (read : Except StoreError (String × ℕ))
    (db' : Database) : Prop :=
  db.fencedJob claim = none ∧ db' = db ∨
    ∃ job replica attempt, db.fencedJob claim = some (job, replica, attempt) ∧
      JobEnd db read job replica attempt db'

theorem endJob_eq_ok {outcome : VerificationOutcome} {observed : Option (String × ℕ)}
    {status : JobStatus} (h : endJob db job outcome observed receiptId now = .ok (db', status)) :
    (∀ other ∈ db.verificationReceipts, (other.verificationJobId, other.executionGeneration) ≠
        (job.id, job.executionGeneration)) ∧
      Finalizes db.recoveries job.id outcome.status now db'.recoveries ∧
      db' = { db with
        recoveries := db'.recoveries
        jobs := Table.replace ArtifactVerificationJob.id db.jobs (job.ended outcome.status now)
        verificationReceipts := db.verificationReceipts ++
          [verificationReceipt receiptId job outcome observed] } := by
  simp only [endJob, addVerificationReceipt, eq_ok] at h
  obtain ⟨middle, ⟨⟨⟩, hfresh, rfl⟩, last, hlast, rfl, -⟩ := h
  obtain ⟨hfin, hrows⟩ := finalizeRecovery_eq_ok hlast
  exact ⟨hfresh, hfin, hrows⟩

theorem settledOutcome_eq_verified {outcome : VerificationOutcome}
    (h : settledOutcome outcome replica = .verified) : outcome = .verified ∧ replica.isBad = false := by
  unfold settledOutcome at h
  split at h
  · split at h <;> cases h
  · rename_i hgood
    exact ⟨h, Bool.eq_false_of_not_eq_true hgood⟩

theorem completeVerification_returns {claim : JobClaim} {outcome : VerificationOutcome}
    {observed : Option (String × ℕ)} {answer : Option JobStatus}
    (hread : ∀ job replica attempt, db.fencedJob claim = some (job, replica, attempt) →
      outcome = .verified → read = .ok (attempt.sha256, attempt.byteCount))
    (h : completeVerification db claim outcome observed published receiptId now = .ok (db', answer)) :
    JobReturns db claim read db' := by
  unfold completeVerification at h
  split at h
  · rename_i hfence
    obtain ⟨rfl, -⟩ := Prod.mk.inj (pure_eq_ok.mp h)
    exact .inl ⟨hfence, rfl⟩
  · rename_i job replica attempt hfence
    refine .inr ⟨job, replica, attempt, hfence, ?_⟩
    simp only [eq_ok] at h
    obtain ⟨⟨⟩, -, ⟨last, status⟩, hend, rfl, -⟩ := h
    have hverified : ∀ settled, settledOutcome
        (if relationshipMatches db job replica attempt = true then outcome else .conflict) replica = settled →
        settled = .verified → read = .ok (attempt.sha256, attempt.byteCount) ∧ replica.isBad = false := by
      rintro settled rfl hsettled
      obtain ⟨hout, hgood⟩ := settledOutcome_eq_verified hsettled
      split at hout
      · exact ⟨hread job replica attempt hfence hout, hgood⟩
      · cases hout
    revert hend hverified
    generalize settledOutcome
      (if relationshipMatches db job replica attempt = true then outcome else .conflict) replica = settled
    intro hend hverified
    cases hbad : replica.isBad with
    | true =>
      rw [if_pos hbad] at hend
      obtain ⟨hfresh, hfin, hrows⟩ := endJob_eq_ok hend
      rw [hrows]
      refine .completed settled observed receiptId now db.replicas last.recoveries (.inl rfl)
        (fun hsettled => ?_) hfresh hfin
      cases hbad.symm.trans (hverified settled rfl hsettled).2
    | false =>
      rw [if_neg (Bool.eq_false_iff.mp hbad)] at hend
      obtain ⟨hfresh, hfin, hrows⟩ := endJob_eq_ok hend
      rw [hrows]
      refine .completed settled observed receiptId now _ last.recoveries (.inr ⟨hbad, rfl⟩)
        (fun hsettled => ?_) hfresh hfin
      subst hsettled
      exact ⟨(hverified .verified rfl rfl).1, hbad, rfl⟩

theorem recordVerificationUnavailable_returns {claim : JobClaim} {answer : Option JobStatus}
    (h : recordVerificationUnavailable db claim scanInterval receiptId now = .ok (db', answer)) :
    JobReturns db claim read db' := by
  unfold recordVerificationUnavailable at h
  split at h
  · rename_i hfence
    obtain ⟨rfl, -⟩ := Prod.mk.inj (pure_eq_ok.mp h)
    exact .inl ⟨hfence, rfl⟩
  · rename_i job replica attempt hfence
    refine .inr ⟨job, replica, attempt, hfence, ?_⟩
    split at h
    · simp only [eq_ok] at h
      obtain ⟨⟨last, status⟩, hend, rfl, -⟩ := h
      obtain ⟨hfresh, hfin, hrows⟩ := endJob_eq_ok hend
      rw [hrows]
      exact .completed .conflict none receiptId now db.replicas last.recoveries (.inl rfl)
        (fun hno => absurd hno (by decide)) hfresh hfin
    · split at h
      · rename_i hspent
        simp only [eq_ok] at h
        obtain ⟨last, hlast, rfl, -⟩ := h
        obtain ⟨hfin, hrows⟩ := finalizeRecovery_eq_ok hlast
        rw [hrows]
        exact .exhausted now last.recoveries hspent hfin
      · obtain ⟨rfl, -⟩ := Prod.mk.inj (pure_eq_ok.mp h)
        exact .postponed (now + scanInterval)

theorem finishVerification_returns {claim : JobClaim} {answer : Option JobStatus}
    (h : finishVerification settings db claim read activated published receiptId now = .ok (db', answer)) :
    JobReturns db claim read db' := by
  unfold finishVerification at h
  split at h
  · rename_i hfence
    obtain ⟨rfl, -⟩ := Prod.mk.inj (pure_eq_ok.mp h)
    exact .inl ⟨hfence, rfl⟩
  · rename_i job replica attempt hfence
    split at h
    · exact completeVerification_returns
        (fun _ _ _ _ (hno : VerificationOutcome.conflict = .verified) => absurd hno nofun) h
    · split at h
      · exact recordVerificationUnavailable_returns h
      · exact recordVerificationUnavailable_returns h
      · rename_i outcome observed hclassified
        refine completeVerification_returns (fun _ _ other hother hverified => ?_) h
        rw [hfence] at hother
        obtain ⟨-, hrows⟩ := Prod.mk.inj (Option.some.inj hother)
        obtain ⟨-, rfl⟩ := Prod.mk.inj hrows
        subst hverified
        unfold classifyRead at hclassified
        split at hclassified
        · obtain ⟨hout, -⟩ := Verified.complete.inj hclassified
          split at hout
          · rename_i hmatch
            rw [hmatch]
          · cases hout
        all_goals cases hclassified

def Retries (db : Database) (db' : Database) : Prop :=
  db' = db ∨ ∃ request source attempt taskId parent ids, db.job request.sourceVerificationJobId =
    some source ∧
    source.ExhaustedUnavailable ∧ recoveryBySource db source.id = none ∧
    JobFits db (newJob ids.retryId source.originatingPutAttemptId source.replicaId (some source.id)
      ids.maximumAttempts) ∧
    (∀ other ∈ db.recoveries, other.id ≠ ids.recoveryId ∧ other.retryVerificationJobId ≠ ids.retryId) ∧
    db' = { db with
      jobs := db.jobs ++ [newJob ids.retryId source.originatingPutAttemptId source.replicaId
        (some source.id) ids.maximumAttempts]
      recoveries := db.recoveries ++ [newRecovery request source attempt taskId parent ids] }

theorem retryVerification_eq_ok {request : RecoveryRequest} {authorized : Bool} {ids : RecoveryIds}
    {answer : Uuid × Bool} (h : retryVerification db request authorized ids = .ok (db', answer)) :
    Retries db db' := by
  simp only [retryVerification, createRecovery, bind_eq_ok] at h
  obtain ⟨⟨⟩, -, ⟨source, attempt, taskId⟩, hsrc, ⟨⟩, -, h⟩ := h
  simp only [currentRecoverySource, eq_ok] at hsrc
  obtain ⟨found, hfound, _, -, ⟨⟩, -, _, -, ⟨⟩, -, rfl, -⟩ := hsrc
  split at h
  · simp only [eq_ok] at h
    obtain ⟨⟨⟩, -, rfl, -⟩ := h
    exact .inl rfl
  · rename_i hnone
    simp only [eq_ok] at h
    obtain ⟨⟨⟩, -, ⟨⟩, hexh, ⟨⟩, -, middle, hmid, ⟨⟩, hfresh, rfl, -⟩ := h
    obtain ⟨hfits, rfl⟩ := addVerificationJob_eq_ok hmid
    have hid : found.id = request.sourceVerificationJobId := (Table.find_eq_some hfound).2
    exact .inr ⟨request, found, attempt, taskId, _, ids, hfound, hexh, hid ▸ hnone, hfits, hfresh, rfl⟩

theorem claimVerificationJob_eq_some {request : JobClaimRequest}
    (h : claimVerificationJob db request = some (db', jobClaim)) :
    ∃ job, db.job request.jobId = some job ∧ job.executionGeneration = request.expectedGeneration ∧
      job.Claimable request.now ∧ db' = db.setJob (claimedJob job request) ∧
      jobClaim.jobId = request.jobId ∧ jobClaim.generation = request.expectedGeneration + 1 := by
  unfold claimVerificationJob at h
  split at h
  · cases h
  · rename_i job hjob
    split at h
    · cases h
    · split at h
      · rename_i hclaim
        obtain ⟨rfl, rfl⟩ := Prod.mk.inj (Option.some.inj h)
        exact ⟨job, hjob, hclaim.2.1, hclaim.2.2, rfl, rfl, rfl⟩
      · cases h

def State.returned (s : State) (id : ℕ) (db : Database) : State := { s.withoutWorker id with db }

inductive Stepped (s : State) : Action → State → Prop
  | quiet (action : Action) (workers : List (ℕ × PutWorker)) (verifiers : List (ℕ × JobClaim))
      (hworkers : workers.Sublist s.workers) (hverifiers : verifiers.Sublist s.verifiers) :
    Stepped s action { s with workers, verifiers }
  | admitted (request : AdmissionRequest) (db : Database) (id : Uuid)
      (committed : admitArtifact s.db request = .ok (db, id)) :
        Stepped s (.admitArtifact request) { s with db }
  | claimedPut (id : ℕ) (request : ClaimRequest) (db : Database) (claim : PutClaim)
      (fresh : id ∉ s.workers.map Prod.fst) (committed : claimPut s.db request = some (db, claim)) :
    Stepped s (.claimPut id request)
      { s with db, workers := s.workers ++ [(id, ⟨claim, false⟩)], claims := s.claims ++ [claim] }
  | called (id : ℕ) (worker : PutWorker) (found : s.worker id = some worker)
      (mode : worker.claim.mode = .callerPut) (first : worker.called = false) :
    Stepped s (.callProvider id)
      { s with
        workers := (s.withoutWorker id).workers ++ [(id, { worker with called := true })]
        invocations := s.invocations ++ [(worker.claim.attemptId, worker.claim.generation)] }
  | callerReturned (id : ℕ) (settings : Settings) (result : Except StoreError (String × Bool))
      (activated : Bool) (ids : TerminalIds) (worker : PutWorker) (db : Database) (answer : String)
      (found : s.worker id = some worker) (called : worker.called = true)
      (committed : finishCallerPut settings s.db worker.claim result activated ids = .ok (db, answer)) :
    Stepped s (.finishCallerPut id settings result activated ids) (s.returned id db)
  | observerReturned (id : ℕ) (settings : Settings) (observation : Except StoreError (Option String))
      (read : Except StoreError (String × ℕ)) (activated : Bool) (ids : TerminalIds) (worker : PutWorker)
      (db : Database) (answer : String) (found : s.worker id = some worker)
      (mode : worker.claim.mode = .observation)
      (committed : finishObservation settings s.db worker.claim (observed s.db worker.claim observation read)
        activated ids = .ok (db, answer)) :
    Stepped s (.finishObservation id settings observation read activated ids) (s.returned id db)
  | claimedVerification (id : ℕ) (request : JobClaimRequest) (db : Database) (claim : JobClaim)
      (committed : claimVerificationJob s.db request = some (db, claim)) :
    Stepped s (.claimVerification id request) { s with db, verifiers := s.verifiers ++ [(id, claim)] }
  | verifierReturned (id : ℕ) (settings : Settings) (read : Except StoreError (String × ℕ))
      (activated published : Bool) (receiptId : Uuid) (now : ℕ) (claim : JobClaim) (db : Database)
      (answer : Option JobStatus) (found : s.verifier id = some claim)
      (committed : finishVerification settings s.db claim read activated published receiptId now =
        .ok (db, answer)) :
    Stepped s (.finishVerification id settings read activated published receiptId now)
      { s.withoutVerifier id with db }
  | retried (request : RecoveryRequest) (authorized : Bool) (ids : RecoveryIds) (db : Database)
      (recovery : Uuid × Bool)
      (committed : retryVerification s.db request authorized ids = .ok (db, recovery)) :
    Stepped s (.retryVerification request authorized ids) { s with db }

/-- What one step may write: nothing, or what one of the transactions does. -/
inductive Writes (db : Database) : Database → Prop
  | nothing : Writes db db
  | admits {request : AdmissionRequest} {ledger : Ledger} {charges : List Uuid} {db' : Database}
      (admitted : Admits db request ledger charges db') : Writes db db'
  | claims {request : ClaimRequest} {attempt : ArtifactPutAttempt} {claim : PutClaim} {db' : Database}
      (claimed : Claims db request attempt db' claim) : Writes db db'
  | returns {claim : PutClaim} {observed : Bool} {answer : String} {db' : Database}
      (returned : PutReturns db claim observed db' answer) : Writes db db'
  | claimsJob (job : ArtifactVerificationJob) (request : JobClaimRequest)
      (found : db.job job.id = some job) (claimable : job.Claimable request.now) :
    Writes db (db.setJob (claimedJob job request))
  | returnsJob {claim : JobClaim} {read : Except StoreError (String × ℕ)} {db' : Database}
      (returned : JobReturns db claim read db') : Writes db db'
  | retries {db' : Database} (retried : Retries db db') : Writes db db'

theorem Stepped.writes {s s' : State} {a : Action} (h : Stepped s a s') : Writes s.db s'.db := by
  cases h with
  | quiet | called => exact .nothing
  | admitted _ _ _ hcommit =>
    obtain ⟨_, _, -, hadm⟩ := admitArtifact_eq_ok hcommit
    exact .admits hadm
  | claimedPut _ _ _ _ _ hclaim =>
    obtain ⟨_, hclaims⟩ := claimPut_eq_some hclaim
    exact .claims hclaims
  | callerReturned _ _ _ _ _ _ _ _ _ _ hret => exact .returns (finishCallerPut_returns hret)
  | observerReturned _ _ _ _ _ _ _ _ _ _ _ hret => exact .returns (finishObservation_returns hret)
  | claimedVerification _ request _ _ hclaim =>
    obtain ⟨job, hjob, -, hclm, rfl, -, -⟩ := claimVerificationJob_eq_some hclaim
    rw [← (Table.find_eq_some hjob).2] at hjob
    exact .claimsJob job request hjob hclm
  | verifierReturned _ _ _ _ _ _ _ _ _ _ _ hret => exact .returnsJob (finishVerification_returns hret)
  | retried _ _ _ _ _ hretry => exact .retries (retryVerification_eq_ok hretry)

theorem stepped_idle (s : State) (a : Action) : Stepped s a s :=
  .quiet a s.workers s.verifiers (List.Sublist.refl _) (List.Sublist.refl _)

theorem stepped_withoutWorker (s : State) (a : Action) (id : ℕ) : Stepped s a (s.withoutWorker id) :=
  .quiet a _ s.verifiers List.filter_sublist (List.Sublist.refl _)

theorem stepped_withoutVerifier (s : State) (a : Action) (id : ℕ) : Stepped s a (s.withoutVerifier id) :=
  .quiet a s.workers _ (List.Sublist.refl _) List.filter_sublist

theorem stepped_step (s : State) (a : Action) : Stepped s a (step s a) := by
  cases a with
  | admitArtifact request =>
    show Stepped s _ (s.commit (admitArtifact s.db request))
    cases h : admitArtifact s.db request with
    | error e => exact stepped_idle s _
    | ok result => exact .admitted request result.1 result.2 h
  | claimPut id request =>
    show Stepped s _ (s.claimPut id request)
    unfold State.claimPut
    split
    · exact stepped_idle s _
    · rename_i hfresh
      split
      · exact stepped_idle s _
      · rename_i db claim h
        exact .claimedPut id request db claim hfresh h
  | callProvider id =>
    show Stepped s _ (s.callProvider id)
    unfold State.callProvider
    split
    · exact stepped_idle s _
    · rename_i worker hworker
      split
      · rename_i hmode
        exact .called id worker hworker hmode.1 hmode.2
      · exact stepped_idle s _
  | finishCallerPut id settings result activated ids =>
    show Stepped s _ (s.finishCallerPut id settings result activated ids)
    unfold State.finishCallerPut
    split
    · exact stepped_idle s _
    · rename_i worker hworker
      split
      · rename_i hcalled
        cases h : finishCallerPut settings s.db worker.claim result activated ids with
        | error e => exact stepped_withoutWorker s _ id
        | ok answer =>
          exact .callerReturned id settings result activated ids worker answer.1 answer.2 hworker hcalled h
      · exact stepped_idle s _
  | finishObservation id settings observation read activated ids =>
    show Stepped s _ (s.finishObservation id settings observation read activated ids)
    unfold State.finishObservation
    split
    · exact stepped_idle s _
    · rename_i worker hworker
      split
      · rename_i hmode
        cases h : finishObservation settings s.db worker.claim
            (observed s.db worker.claim observation read) activated ids with
        | error e => exact stepped_withoutWorker s _ id
        | ok answer =>
          exact .observerReturned id settings observation read activated ids worker answer.1 answer.2
            hworker hmode h
      · exact stepped_idle s _
  | loseWorker id => exact stepped_withoutWorker s _ id
  | claimVerification id request =>
    show Stepped s _ (s.claimVerification id request)
    unfold State.claimVerification
    split
    · exact stepped_idle s _
    · split
      · exact stepped_idle s _
      · rename_i db claim h
        exact .claimedVerification id request db claim h
  | finishVerification id settings read activated published receiptId now =>
    show Stepped s _ (s.finishVerification id settings read activated published receiptId now)
    unfold State.finishVerification
    split
    · exact stepped_idle s _
    · rename_i claim hclaim
      cases h : finishVerification settings s.db claim read activated published receiptId now with
      | error e => exact stepped_withoutVerifier s _ id
      | ok answer =>
        exact .verifierReturned id settings read activated published receiptId now claim answer.1 answer.2
          hclaim h
  | loseVerifier id => exact stepped_withoutVerifier s _ id
  | retryVerification request authorized ids =>
    show Stepped s _ (s.commit (retryVerification s.db request authorized ids))
    cases h : retryVerification s.db request authorized ids with
    | error e => exact stepped_idle s _
    | ok result => exact .retried request authorized ids result.1 result.2 h

end Workstream.Storage
