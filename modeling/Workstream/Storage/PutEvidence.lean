import Workstream.Storage.QuotaLedger

/-! # Generations and evidence of put attempts -/

namespace Workstream.Storage
open Foundation

variable {db db' : Database} {claim : PutClaim} {attempt row old : ArtifactPutAttempt} {observed : Bool}
  {answer ref : String} {replicaId attemptId : Uuid} {request : AdmissionRequest} {ledger : Ledger}
  {jobClaim : JobClaim}

def Database.confirmations (db : Database) (attemptId : Uuid) : ℕ :=
  db.operationReceipts.countP (fun receipt => receipt.putAttemptId = attemptId) +
    db.observationReceipts.countP (fun receipt =>
      receipt.putAttemptId = attemptId ∧ receipt.outcome = .observedConfirmed)

def Database.initialJobs (db : Database) (attemptId : Uuid) : ℕ :=
  db.jobs.countP (fun job => job.originatingPutAttemptId = attemptId ∧ job.parentVerificationJobId = none)

theorem confirmations_addObservation {receipt : ArtifactPutObservationReceipt}
    (h : addObservationReceipt db receipt = .ok db') (attemptId : Uuid) :
    db'.confirmations attemptId = db.confirmations attemptId +
      if receipt.putAttemptId = attemptId ∧ receipt.outcome = .observedConfirmed then 1 else 0 := by
  obtain ⟨-, rfl⟩ := addObservationReceipt_eq_ok h
  simp only [Database.confirmations, List.countP_append, List.countP_singleton, decide_eq_true_eq]
  omega

theorem confirmations_addOperation {receipt : ArtifactOperationReceipt}
    (h : addOperationReceipt db receipt = .ok db') (attemptId : Uuid) :
    db'.confirmations attemptId = db.confirmations attemptId +
      if receipt.putAttemptId = attemptId then 1 else 0 := by
  obtain ⟨-, rfl⟩ := addOperationReceipt_eq_ok h
  simp only [Database.confirmations, List.countP_append, List.countP_singleton, decide_eq_true_eq]
  omega

theorem confirmations_addOther {receipt : ArtifactPutObservationReceipt}
    (h : addObservationReceipt db receipt = .ok db') (hout : receipt.outcome ≠ .observedConfirmed)
    (attemptId : Uuid) : db'.confirmations attemptId = db.confirmations attemptId := by
  rw [confirmations_addObservation h, if_neg (fun hand => hout hand.2), Nat.add_zero]

theorem addConfirmation_eq_ok {id : Uuid} {replayed : Bool}
    (h : addConfirmation db attempt replicaId ref replayed observed id = .ok db') :
    db.observationReceipts ⊆ db'.observationReceipts ∧ db'.jobs = db.jobs ∧
      ∀ attemptId, db'.confirmations attemptId = db.confirmations attemptId +
        if attempt.id = attemptId then 1 else 0 := by
  unfold addConfirmation at h
  split at h
  · have hcount := confirmations_addObservation h
    obtain ⟨-, rfl⟩ := addObservationReceipt_eq_ok h
    refine ⟨List.subset_append_left _ _, rfl, fun attemptId => ?_⟩
    rw [hcount attemptId]
    simp only [observationReceipt, and_true]
  · have hcount := confirmations_addOperation h
    obtain ⟨-, rfl⟩ := addOperationReceipt_eq_ok h
    exact ⟨List.Subset.refl _, rfl, hcount⟩

theorem addInitialJob_eq_ok {id : Uuid} {maximumAttempts : ℕ}
    (h : addInitialJob db attempt replicaId id maximumAttempts = .ok db') :
    db'.observationReceipts = db.observationReceipts ∧ db'.operationReceipts = db.operationReceipts ∧
      ∀ attemptId, db'.initialJobs attemptId = db.initialJobs attemptId +
        if attempt.id = attemptId ∧ attempt.isGuide = false then 1 else 0 := by
  unfold addInitialJob at h
  split at h
  · rename_i hguide
    obtain rfl := pure_eq_ok.mp h
    exact ⟨rfl, rfl, fun attemptId => by rw [hguide, if_neg (fun hand => absurd hand.2 nofun), Nat.add_zero]⟩
  · rename_i hguide
    obtain ⟨-, rfl⟩ := addVerificationJob_eq_ok h
    refine ⟨rfl, rfl, fun attemptId => ?_⟩
    simp only [Database.initialJobs, List.countP_append, List.countP_singleton, newJob, decide_eq_true_eq,
      Bool.eq_false_of_not_eq_true hguide, and_true]

structure EndRow (db db' : Database) (attempt row : ArtifactPutAttempt) (observed : Bool) (answer : String) :
    Prop where
  id : row.id = attempt.id
  generation : row.executionGeneration = attempt.executionGeneration
  type : row.producerRequestType = attempt.producerRequestType
  attempts : db'.attempts = Table.replace ArtifactPutAttempt.id db.attempts row
  status : row.status ≠ .prepared ∧ row.status ≠ .putInFlight
  receipts : db.observationReceipts ⊆ db'.observationReceipts
  missing : row.status = .absentReplayRequired → observed = true ∧
    ∃ receipt ∈ db'.observationReceipts, receipt.putAttemptId = attempt.id ∧
      receipt.executionGeneration = attempt.executionGeneration ∧ receipt.outcome = .observedMissing
  unavailable : row.status = .providerUnavailable ↔ answer = "provider_unavailable"
  confirmations : ∀ attemptId, db'.confirmations attemptId = db.confirmations attemptId +
    if attempt.id = attemptId ∧ row.status = .objectConfirmed then 1 else 0
  initialJobs : ∀ attemptId, db'.initialJobs attemptId = db.initialJobs attemptId +
    if attempt.id = attemptId ∧ row.status = .objectConfirmed ∧ attempt.isGuide = false then 1 else 0

theorem EndRow.of_other (hid : row.id = attempt.id)
    (hgen : row.executionGeneration = attempt.executionGeneration)
    (htype : row.producerRequestType = attempt.producerRequestType)
    (hatts : db'.attempts = Table.replace ArtifactPutAttempt.id db.attempts row)
    (hstat : row.status ≠ .prepared ∧ row.status ≠ .putInFlight ∧ row.status ≠ .objectConfirmed)
    (hreceipts : db.observationReceipts ⊆ db'.observationReceipts)
    (hmissing : row.status = .absentReplayRequired → observed = true ∧
      ∃ receipt ∈ db'.observationReceipts, receipt.putAttemptId = attempt.id ∧
        receipt.executionGeneration = attempt.executionGeneration ∧ receipt.outcome = .observedMissing)
    (hunavailable : row.status = .providerUnavailable ↔ answer = "provider_unavailable")
    (hconfs : ∀ attemptId, db'.confirmations attemptId = db.confirmations attemptId)
    (hjobs : db'.jobs = db.jobs) : EndRow db db' attempt row observed answer where
  id := hid
  generation := hgen
  type := htype
  attempts := hatts
  status := ⟨hstat.1, hstat.2.1⟩
  receipts := hreceipts
  missing := hmissing
  unavailable := hunavailable
  confirmations := fun attemptId => by
    rw [hconfs, if_neg (fun hand => hstat.2.2 hand.2), Nat.add_zero]
  initialJobs := fun attemptId => by
    rw [Database.initialJobs, hjobs, if_neg (fun hand => hstat.2.2 hand.2.1), Nat.add_zero,
      Database.initialJobs]

theorem Stores.evidence {sha256 : String} {byteCount : ℕ} {states : ReplicaStates}
    {content : ArtifactContent} {replica : ArtifactReplica}
    (h : Stores db sha256 byteCount ref states db' content replica) :
    db'.observationReceipts = db.observationReceipts ∧ db'.operationReceipts = db.operationReceipts ∧
      db'.jobs = db.jobs := by
  rw [h.rest]
  exact ⟨rfl, rfl, rfl⟩

theorem Leaves.evidence (h : Leaves db db' attempt) :
    db'.observationReceipts = db.observationReceipts ∧ db'.operationReceipts = db.operationReceipts ∧
      db'.jobs = db.jobs := by
  rcases h with rfl | ⟨_, _, _, _, -, hstores⟩
  · exact ⟨rfl, rfl, rfl⟩
  · exact hstores.evidence

theorem confirmations_of_eq (hobs : db'.observationReceipts = db.observationReceipts)
    (hop : db'.operationReceipts = db.operationReceipts) (attemptId : Uuid) :
    db'.confirmations attemptId = db.confirmations attemptId := by
  rw [Database.confirmations, Database.confirmations, hobs, hop]

theorem initialJobs_of_eq (h : db'.jobs = db.jobs) (attemptId : Uuid) :
    db'.initialJobs attemptId = db.initialJobs attemptId := by
  rw [Database.initialJobs, Database.initialJobs, h]

theorem PutEnd.endRow (h : PutEnd db claim observed attempt db' answer) :
    ∃ row, EndRow db db' attempt row observed answer := by
  cases h with
  | unavailable force now _ =>
    exact ⟨unavailableAttempt attempt now, .of_other rfl rfl rfl rfl ⟨nofun, nofun, nofun⟩
      (List.Subset.refl _) nofun ⟨fun _ => rfl, fun _ => rfl⟩ (fun _ => rfl) rfl⟩
  | unknown force nextRunAt _ =>
    exact ⟨unknownAttempt attempt nextRunAt, .of_other rfl rfl rfl rfl ⟨nofun, nofun, nofun⟩
      (List.Subset.refl _) nofun ⟨nofun, fun h => absurd h (by decide)⟩ (fun _ => rfl) rfl⟩
  | absent ids ledger middle hobs _ hrcpt =>
    have hcount := confirmations_addOther hrcpt nofun
    obtain ⟨-, rfl⟩ := addObservationReceipt_eq_ok hrcpt
    exact ⟨absentAttempt attempt ids.now, .of_other rfl rfl rfl rfl ⟨nofun, nofun, nofun⟩
      (List.subset_append_left _ _)
      (fun _ => ⟨hobs, _, List.mem_concat_self, rfl, rfl, rfl⟩)
      ⟨nofun, fun h => absurd h (by decide)⟩ hcount rfl⟩
  | mismatch ids ref read ledger stored middle content replica _ _ hstores _ hrcpt =>
    obtain ⟨hobservation, hop, hjobs⟩ := hstores.evidence
    obtain ⟨-, hatts⟩ := hstores.frame
    have hcount := confirmations_addOther hrcpt nofun
    obtain ⟨-, rfl⟩ := addObservationReceipt_eq_ok hrcpt
    refine ⟨mismatchAttempt { attempt with replicaId := some replica.id } ids.now, .of_other rfl rfl rfl
      (congrArg (Table.replace ArtifactPutAttempt.id · _) hatts) ⟨nofun, nofun, nofun⟩ ?_ nofun
      ⟨nofun, fun h => absurd h (by decide)⟩ (fun attemptId => ?_) hjobs⟩
    · exact hobservation ▸ List.subset_append_left _ _
    · exact (hcount attemptId).trans (confirmations_of_eq hobservation hop attemptId)
  | conflict ids ledger stored middle replicaId _ hleaves hrcpt =>
    obtain ⟨hobservation, hop, hjobs⟩ := hleaves.evidence
    obtain ⟨-, hatts⟩ := hleaves.frame
    have hcount := confirmations_addOther hrcpt nofun
    obtain ⟨-, rfl⟩ := addObservationReceipt_eq_ok hrcpt
    refine ⟨conflictAttempt { attempt with replicaId } ids.now, .of_other rfl rfl rfl
      (congrArg (Table.replace ArtifactPutAttempt.id · _) hatts) ⟨nofun, nofun, nofun⟩ ?_ nofun
      ⟨nofun, fun h => absurd h (by decide)⟩ (fun attemptId => ?_) hjobs⟩
    · exact hobservation ▸ List.subset_append_left _ _
    · exact (hcount attemptId).trans (confirmations_of_eq hobservation hop attemptId)
  | confirmed ids ref replayed maximumAttempts ledger stored evidenced last content replica _ hstores _
      hrcpt hjob =>
    obtain ⟨hobservation, hop, hjobs⟩ := hstores.evidence
    obtain ⟨-, hatts⟩ := hstores.frame
    obtain ⟨-, hatts'⟩ := addConfirmation_frame hrcpt
    obtain ⟨hreceipts, hjobs', hcount⟩ := addConfirmation_eq_ok hrcpt
    obtain ⟨-, hatts''⟩ := addInitialJob_frame hjob
    obtain ⟨hobservation', hop', hinitial⟩ := addInitialJob_eq_ok hjob
    refine ⟨confirmedAttempt attempt replica.id observed ids, ?_⟩
    exact {
      id := rfl
      generation := rfl
      type := rfl
      attempts := congrArg (Table.replace ArtifactPutAttempt.id · _)
        (hatts''.trans (hatts'.trans hatts))
      status := ⟨nofun, nofun⟩
      receipts := by
        show db.observationReceipts ⊆ last.observationReceipts
        rw [hobservation', ← hobservation]
        exact hreceipts
      missing := nofun
      unavailable := ⟨nofun, fun h => absurd h (by cases attempt.isGuide <;> cases observed <;> decide)⟩
      confirmations := fun attemptId => by
        show last.confirmations attemptId = _
        rw [confirmations_of_eq hobservation' hop', hcount attemptId,
          confirmations_of_eq hobservation hop]
        simp only [confirmedAttempt, ArtifactPutAttempt.cleared, and_true]
        rfl
      initialJobs := fun attemptId => by
        show last.initialJobs attemptId = _
        rw [hinitial attemptId, initialJobs_of_eq hjobs', initialJobs_of_eq hjobs]
        simp only [confirmedAttempt, ArtifactPutAttempt.cleared, true_and]
        rfl }

def PutClaim.key (claim : PutClaim) : Uuid × ℕ := (claim.attemptId, claim.generation)

def Between (db : Database) (attemptId : Uuid) (first second : ℕ) : Prop :=
  ∃ receipt ∈ db.observationReceipts, receipt.putAttemptId = attemptId ∧ receipt.outcome = .observedMissing ∧
    first < receipt.executionGeneration ∧ receipt.executionGeneration < second

theorem Between.mono {first second : ℕ} (h : Between db attemptId first second)
    (hreceipts : db.observationReceipts ⊆ db'.observationReceipts) :
    Between db' attemptId first second := by
  obtain ⟨receipt, hrcpt, hrest⟩ := h
  exact ⟨receipt, hreceipts hrcpt, hrest⟩

structure Issued (db : Database) (claims : List PutClaim) : Prop where
  keys : (claims.map (·.key)).Nodup
  known : ∀ claim ∈ claims, 1 ≤ claim.generation ∧
    ∃ attempt, db.attempt claim.attemptId = some attempt ∧ claim.generation ≤ attempt.executionGeneration
  prepared : ∀ attempt ∈ db.attempts, attempt.status = .prepared → attempt.executionGeneration = 0
  missing : ∀ attempt ∈ db.attempts, attempt.status = .absentReplayRequired →
    ∃ receipt ∈ db.observationReceipts, receipt.putAttemptId = attempt.id ∧
      receipt.executionGeneration = attempt.executionGeneration ∧ receipt.outcome = .observedMissing
  observation : ∀ attempt ∈ db.attempts, attempt.status = .absentReplayRequired → ∀ claim ∈ claims,
    claim.key = (attempt.id, attempt.executionGeneration) → claim.mode = .observation
  separated : ∀ claim ∈ claims, ∀ claim' ∈ claims, claim.attemptId = claim'.attemptId →
    claim.mode = .callerPut → claim'.mode = .callerPut → claim.generation < claim'.generation →
    Between db claim.attemptId claim.generation claim'.generation

theorem attempt_replace (hold : db.attempt row.id = some old)
    (hatts : db'.attempts = Table.replace ArtifactPutAttempt.id db.attempts row) (id : Uuid) :
    db'.attempt id = if id = row.id then some row else db.attempt id := by
  rw [Database.attempt, hatts]
  by_cases hid : id = row.id
  · rw [if_pos hid, hid]
    exact Table.find_replace_self hold
  · rw [if_neg hid]
    exact Table.find_replace_of_ne hid

/-- The generations of claims do not exceed that of their attempt when its row is replaced by one of
no smaller generation. -/
theorem Issued.known_replace {claims : List PutClaim} (h : Issued db claims)
    (hold : db.attempt row.id = some old)
    (hatts : db'.attempts = Table.replace ArtifactPutAttempt.id db.attempts row)
    (hgen : old.executionGeneration ≤ row.executionGeneration) :
    ∀ claim ∈ claims, 1 ≤ claim.generation ∧ ∃ attempt, db'.attempt claim.attemptId = some attempt ∧
      claim.generation ≤ attempt.executionGeneration := by
  intro claim hclaim
  obtain ⟨hpos, attempt, hatt, hle⟩ := h.known claim hclaim
  refine ⟨hpos, ?_⟩
  rw [attempt_replace hold hatts]
  by_cases hid : claim.attemptId = row.id
  · rw [hid, hold] at hatt
    obtain rfl := Option.some.inj hatt
    exact ⟨row, if_pos hid, hle.trans hgen⟩
  · exact ⟨attempt, (if_neg hid).trans hatt, hle⟩

theorem Issued.le {claims : List PutClaim} (h : Issued db claims)
    (hfound : db.attempt attempt.id = some attempt)
    (hclaim : claim ∈ claims) (hid : claim.attemptId = attempt.id) :
    1 ≤ claim.generation ∧ claim.generation ≤ attempt.executionGeneration := by
  obtain ⟨hpos, found, hsome, hle⟩ := h.known claim hclaim
  rw [hid, hfound] at hsome
  obtain rfl := Option.some.inj hsome
  exact ⟨hpos, hle⟩

theorem Issued.claims {claims : List PutClaim} {request : ClaimRequest} (h : Issued db claims)
    (hclaims : Claims db request attempt db' claim) : Issued db' (claims ++ [claim]) := by
  obtain ⟨seen, hclaim⟩ := hclaims.claim_eq
  have hid : attempt.id = request.attemptId := (Table.find_eq_some hclaims.found).2
  have hfound : db.attempt attempt.id = some attempt := hid ▸ hclaims.found
  have hfound' : db.attempt (claimed attempt request).id = some attempt := hfound
  have hmem : attempt ∈ db.attempts := (Table.find_eq_some hclaims.found).1
  have hatts := hclaims.attempts_eq
  have hreceipts : db'.observationReceipts = db.observationReceipts := by rw [hclaims.rows]; rfl
  have hattemptId : claim.attemptId = attempt.id := by rw [hclaim]; exact hid.symm
  have hgeneration : claim.generation = attempt.executionGeneration + 1 := by
    rw [hclaim, hclaims.generation]; rfl
  have hmode : claim.mode = request.mode := by rw [hclaim]; rfl
  have hle : ∀ other ∈ claims, other.attemptId = attempt.id →
      1 ≤ other.generation ∧ other.generation ≤ attempt.executionGeneration :=
    fun other hother => h.le hfound hother
  -- a caller's claim finds the attempt untouched or its object absent
  have hbefore : claim.mode = .callerPut → ∀ other ∈ claims, other.attemptId = attempt.id →
      other.mode = .callerPut → Between db attempt.id other.generation claim.generation := by
    intro hcaller other hother hsame hother'
    obtain ⟨hpos, hbound⟩ := hle other hother hsame
    have hclm := hclaims.claimable
    rw [← hmode, hcaller] at hclm
    rcases hclm with hprep | habsent
    · rw [h.prepared attempt hmem hprep] at hbound
      omega
    · obtain ⟨receipt, hrcpt, hatt, hgen, hout⟩ := h.missing attempt hmem habsent
      refine ⟨receipt, hrcpt, hatt, hout, ?_, by omega⟩
      have hne : other.generation ≠ attempt.executionGeneration := by
        intro heq
        have hobs := h.observation attempt hmem habsent other hother (by rw [PutClaim.key, hsame, heq])
        exact absurd (hother'.symm.trans hobs) nofun
      omega
  have hrow : ∀ other ∈ db'.attempts, other.status ≠ .putInFlight → other ∈ db.attempts ∧
      other.id ≠ attempt.id := by
    intro other hother hstat
    rw [hatts] at hother
    rcases Table.mem_replace hother with rfl | hold
    · exact absurd rfl hstat
    · exact hold
  exact {
    keys := by
      refine Table.nodup_append h.keys (fun hin => ?_)
      obtain ⟨other, hother, hkey⟩ := List.mem_map.mp hin
      obtain ⟨hsame, hgen⟩ := Prod.mk.inj hkey
      obtain ⟨-, hbound⟩ := hle other hother (hsame.trans hattemptId)
      omega
    known := by
      intro other hother
      rcases Table.mem_append hother with hother | rfl
      · exact h.known_replace hfound' hatts (Nat.le_succ _) other hother
      · refine ⟨by omega, claimed attempt request, ?_, hgeneration.le⟩
        rw [attempt_replace hfound' hatts]
        exact if_pos hattemptId
    prepared := fun other hother hstat =>
      h.prepared other (hrow other hother (by rw [hstat]; nofun)).1 hstat
    missing := fun other hother hstat => by
      rw [hreceipts]
      exact h.missing other (hrow other hother (by rw [hstat]; nofun)).1 hstat
    observation := fun other hother hstat claim' hclaim' hkey => by
      obtain ⟨hold, hne⟩ := hrow other hother (by rw [hstat]; nofun)
      rcases Table.mem_append hclaim' with hclaim' | rfl
      · exact h.observation other hold hstat claim' hclaim' hkey
      · exact absurd ((Prod.mk.inj hkey).1.symm.trans hattemptId) hne
    separated := fun first hfirst second hsecond hsame hcaller hcaller' hlt => by
      have hmono : ∀ {g g' : ℕ}, Between db first.attemptId g g' → Between db' first.attemptId g g' :=
        fun hbetween => hbetween.mono (by rw [hreceipts]; exact List.Subset.refl _)
      rcases Table.mem_append hfirst with hold | rfl
      · rcases Table.mem_append hsecond with hold' | rfl
        · exact hmono (h.separated first hold second hold' hsame hcaller hcaller' hlt)
        · have hthis := hsame.trans hattemptId
          have hbetween := hbefore hcaller' first hold hthis hcaller
          rw [← hthis] at hbetween
          exact hmono hbetween
      · rcases Table.mem_append hsecond with hold' | rfl
        · obtain ⟨-, hbound⟩ := hle second hold' (hsame.symm.trans hattemptId)
          omega
        · exact absurd hlt (lt_irrefl _) }

theorem fenced_attempt (h : db.fenced claim = some attempt) : db.attempt claim.attemptId = some attempt := by
  unfold Database.fenced at h
  split at h
  · rename_i found hfound
    split at h
    · obtain rfl := Option.some.inj h
      exact hfound
    · cases h
  · cases h

theorem Issued.ends {claims : List PutClaim} (h : Issued db claims) (hfence : db.fenced claim = some attempt)
    (hrow : EndRow db db' attempt row observed answer) (hclaim : claim ∈ claims)
    (hmode : observed = true → claim.mode = .observation) : Issued db' claims := by
  obtain ⟨-, hid, -, -, hgen⟩ := fenced_eq_some hfence
  have hfound : db.attempt row.id = some attempt := by rw [hrow.id, hid]; exact fenced_attempt hfence
  have hcases : ∀ other ∈ db'.attempts, other = row ∨ other ∈ db.attempts := by
    intro other hother
    rw [hrow.attempts] at hother
    exact (Table.mem_replace hother).imp_right And.left
  exact {
    keys := h.keys
    known := h.known_replace hfound hrow.attempts hrow.generation.ge
    prepared := fun other hother hstat => by
      rcases hcases other hother with rfl | hold
      · exact absurd hstat hrow.status.1
      · exact h.prepared other hold hstat
    missing := fun other hother hstat => by
      rcases hcases other hother with rfl | hold
      · obtain ⟨-, receipt, hrcpt, hrest⟩ := hrow.missing hstat
        exact ⟨receipt, hrcpt, by rw [hrow.id, hrow.generation]; exact hrest⟩
      · obtain ⟨receipt, hrcpt, hrest⟩ := h.missing other hold hstat
        exact ⟨receipt, hrow.receipts hrcpt, hrest⟩
    observation := fun other hother hstat claim' hclaim' hkey => by
      rcases hcases other hother with rfl | hold
      · have hsame : claim'.key = claim.key := by
          rw [hkey, PutClaim.key, hrow.id, hrow.generation, hid, hgen]
        obtain rfl := Table.eq_of_key_eq h.keys hclaim' hclaim hsame
        exact hmode (hrow.missing hstat).1
      · exact h.observation other hold hstat claim' hclaim' hkey
    separated := fun first hfirst second hsecond hsame hcaller hcaller' hlt =>
      (h.separated first hfirst second hsecond hsame hcaller hcaller' hlt).mono hrow.receipts }

theorem Issued.of_eq {claims : List PutClaim} (h : Issued db claims) (hatts : db'.attempts = db.attempts)
    (hreceipts : db'.observationReceipts = db.observationReceipts) : Issued db' claims where
  keys := h.keys
  known := by
    unfold Database.attempt
    rw [hatts]
    exact h.known
  prepared := hatts ▸ h.prepared
  missing := by
    rw [hatts, hreceipts]
    exact h.missing
  observation := hatts ▸ h.observation
  separated := fun first hfirst second hsecond hsame hcaller hcaller' hlt =>
    (h.separated first hfirst second hsecond hsame hcaller hcaller' hlt).mono
      (by rw [hreceipts]; exact List.Subset.refl _)

theorem Issued.admits {claims : List PutClaim} {charges : List Uuid} (h : Issued db claims)
    (hadm : Admits db request ledger charges db') : Issued db' claims := by
  cases hadm with
  | replayed => exact h.of_eq rfl rfl
  | created =>
    have hcases : ∀ other ∈ db.attempts ++ [newAttempt request], other.status ≠ .prepared →
        other ∈ db.attempts := by
      intro other hother hstat
      rcases Table.mem_append hother with hold | rfl
      · exact hold
      · exact absurd rfl hstat
    exact {
      keys := h.keys
      known := fun claim hclaim => by
        obtain ⟨hpos, attempt, hatt, hle⟩ := h.known claim hclaim
        exact ⟨hpos, attempt, Table.find_append_of_some _ hatt, hle⟩
      prepared := fun other hother hstat => by
        rcases Table.mem_append hother with hold | rfl
        · exact h.prepared other hold hstat
        · rfl
      missing := fun other hother hstat =>
        h.missing other (hcases other hother (by rw [hstat]; nofun)) hstat
      observation := fun other hother hstat =>
        h.observation other (hcases other hother (by rw [hstat]; nofun)) hstat
      separated := h.separated }

/-- A confirmed attempt has one confirming receipt and, unless it is a guide document, one initial job;
nothing else has either. -/
structure Evidenced (db : Database) : Prop where
  confirmations : ∀ attempt ∈ db.attempts,
    db.confirmations attempt.id = if attempt.status = .objectConfirmed then 1 else 0
  initialJobs : ∀ attempt ∈ db.attempts, db.initialJobs attempt.id =
    if attempt.status = .objectConfirmed ∧ attempt.isGuide = false then 1 else 0
  unknown : ∀ id, db.attempt id = none → db.confirmations id = 0 ∧ db.initialJobs id = 0

theorem Evidenced.ends (h : Evidenced db) (hfence : db.fenced claim = some attempt)
    (hrow : EndRow db db' attempt row observed answer) : Evidenced db' := by
  obtain ⟨hmem, hid, hflight, -⟩ := fenced_eq_some hfence
  have hfound : db.attempt row.id = some attempt := by rw [hrow.id, hid]; exact fenced_attempt hfence
  have hguide : row.isGuide = attempt.isGuide := by
    rw [ArtifactPutAttempt.isGuide, hrow.type, ArtifactPutAttempt.isGuide]
  have hold : ∀ other ∈ db'.attempts, other = row ∨ (other ∈ db.attempts ∧ ¬attempt.id = other.id) := by
    intro other hother
    rw [hrow.attempts] at hother
    exact (Table.mem_replace hother).imp_right
      (fun hne => ⟨hne.1, fun heq => hne.2 (heq.symm.trans hrow.id.symm)⟩)
  exact {
    confirmations := fun other hother => by
      rw [hrow.confirmations]
      rcases hold other hother with rfl | ⟨hother, hne⟩
      · rw [hrow.id, h.confirmations attempt hmem, hflight, if_neg nofun, Nat.zero_add]
        simp only [true_and]
      · rw [if_neg (fun hand => hne hand.1), Nat.add_zero, h.confirmations other hother]
    initialJobs := fun other hother => by
      rw [hrow.initialJobs]
      rcases hold other hother with rfl | ⟨hother, hne⟩
      · rw [hrow.id, h.initialJobs attempt hmem, hflight, if_neg (fun hand => absurd hand.1 nofun),
          Nat.zero_add, hguide]
        simp only [true_and]
      · rw [if_neg (fun hand => hne hand.1), Nat.add_zero, h.initialJobs other hother]
    unknown := fun id hnone => by
      rw [attempt_replace hfound hrow.attempts] at hnone
      split at hnone
      · cases hnone
      · rename_i hne
        obtain ⟨hconfs, hjobs⟩ := h.unknown id hnone
        have hne' : attempt.id ≠ id := fun heq => hne (heq.symm.trans hrow.id.symm)
        rw [hrow.confirmations, hrow.initialJobs, if_neg (fun hand => hne' hand.1),
          if_neg (fun hand => hne' hand.1)]
        exact ⟨hconfs, hjobs⟩ }

/-- The evidence of a state whose attempts have the statuses and types they had. -/
theorem Evidenced.of_eq (h : Evidenced db)
    (hatts : ∀ other ∈ db'.attempts, ∃ old ∈ db.attempts, old.id = other.id ∧
      old.isGuide = other.isGuide ∧ (old.status = .objectConfirmed ↔ other.status = .objectConfirmed))
    (hunknown : ∀ id, db'.attempt id = none → db.attempt id = none)
    (hconfs : ∀ id, db'.confirmations id = db.confirmations id)
    (hjobs : ∀ id, db'.initialJobs id = db.initialJobs id) : Evidenced db' where
  confirmations := fun other hother => by
    obtain ⟨old, hold, hid, -, hstat⟩ := hatts other hother
    rw [hconfs, ← hid, h.confirmations old hold]
    simp only [hstat]
  initialJobs := fun other hother => by
    obtain ⟨old, hold, hid, hguide, hstat⟩ := hatts other hother
    rw [hjobs, ← hid, h.initialJobs old hold]
    simp only [hstat, hguide]
  unknown := fun id hnone => by
    rw [hconfs, hjobs]
    exact h.unknown id (hunknown id hnone)

def Database.lineage (db : Database) : List (Uuid × Uuid × Option Uuid) :=
  db.jobs.map (fun job => (job.id, job.originatingPutAttemptId, job.parentVerificationJobId))

theorem initialJobs_of_lineage (h : db'.lineage = db.lineage) (attemptId : Uuid) :
    db'.initialJobs attemptId = db.initialJobs attemptId := by
  have hcount : ∀ other : Database, other.initialJobs attemptId =
      other.lineage.countP (fun link => link.2.1 = attemptId ∧ link.2.2 = none) := by
    intro other
    rw [Database.lineage, List.countP_map]
    rfl
  rw [hcount, hcount, h]

theorem lineage_ids (h : db'.lineage = db.lineage) :
    db'.jobs.map (·.id) = db.jobs.map (·.id) := by
  have hids : ∀ other : Database, other.jobs.map (·.id) = other.lineage.map Prod.fst := by
    intro other
    rw [Database.lineage, List.map_map]
    rfl
  rw [hids, hids, h]

theorem lineage_setJob {job : ArtifactVerificationJob} (row : ArtifactVerificationJob)
    (hids : (db.jobs.map (·.id)).Nodup)
    (hjob : db.job row.id = some job) (horigin : row.originatingPutAttemptId = job.originatingPutAttemptId)
    (hpar : row.parentVerificationJobId = job.parentVerificationJobId) :
    (db.setJob row).lineage = db.lineage := by
  obtain ⟨hmem, hid⟩ := Table.find_eq_some hjob
  refine Table.map_replace_of_eq (fun other hother hkey => ?_)
  obtain rfl := Table.eq_of_key_eq hids hother hmem (hkey.trans hid.symm)
  rw [hkey, horigin, hpar]

theorem fencedJob_eq_some {job : ArtifactVerificationJob} {replica : ArtifactReplica}
    (h : db.fencedJob jobClaim = some (job, replica, attempt)) :
    db.job jobClaim.jobId = some job ∧ job.Fenced jobClaim ∧ db.jobRows job = some (replica, attempt) := by
  unfold Database.fencedJob at h
  split at h
  · cases h
  · rename_i found hfound
    split at h
    · rename_i hfence
      obtain ⟨rows, hrows, heq⟩ := Option.map_eq_some_iff.mp h
      obtain ⟨rfl, rfl⟩ := Prod.mk.inj heq
      exact ⟨hfound, hfence, hrows⟩
    · cases h

theorem JobReturns.lineage {read : Except StoreError (String × ℕ)} (h : JobReturns db jobClaim read db')
    (hids : (db.jobs.map (·.id)).Nodup) :
    db'.lineage = db.lineage ∧ db'.observationReceipts = db.observationReceipts ∧
      db'.operationReceipts = db.operationReceipts := by
  rcases h with ⟨-, rfl⟩ | ⟨job, replica, attempt, hfence, hend⟩
  · exact ⟨rfl, rfl, rfl⟩
  · obtain ⟨hjob, -, -⟩ := fencedJob_eq_some hfence
    have hid : job.id = jobClaim.jobId := (Table.find_eq_some hjob).2
    rw [← hid] at hjob
    cases hend with
    | completed outcome observed receiptId now =>
      exact ⟨lineage_setJob (job.ended outcome.status now) hids hjob rfl rfl, rfl, rfl⟩
    | exhausted now =>
      exact ⟨lineage_setJob (job.ended .providerUnavailable now) hids hjob rfl rfl, rfl, rfl⟩
    | postponed nextRunAt =>
      exact ⟨lineage_setJob (postponedJob job nextRunAt) hids hjob rfl rfl, rfl, rfl⟩

theorem Evidenced.frame (h : Evidenced db) (hatts : db'.attempts = db.attempts)
    (hconfs : ∀ id, db'.confirmations id = db.confirmations id)
    (hjobs : ∀ id, db'.initialJobs id = db.initialJobs id) : Evidenced db' := by
  refine h.of_eq (fun other hother => ?_) (fun id hnone => ?_) hconfs hjobs
  · exact ⟨other, hatts ▸ hother, rfl, rfl, Iff.rfl⟩
  · rw [Database.attempt, hatts] at hnone
    exact hnone

theorem Evidenced.claims {request : ClaimRequest} (h : Evidenced db)
    (hclaims : Claims db request attempt db' claim) : Evidenced db' := by
  obtain ⟨hmem, hid⟩ := Table.find_eq_some hclaims.found
  have hfound : db.attempt (claimed attempt request).id = some attempt := by
    show db.attempt attempt.id = some attempt
    rw [hid]
    exact hclaims.found
  have hunconfirmed : attempt.status ≠ .objectConfirmed := by
    intro hstat
    have hclm := hclaims.claimable
    cases hmode : request.mode <;> rw [hmode] at hclm <;>
      simp [ArtifactPutAttempt.Claimable, hstat] at hclm
  refine h.of_eq (fun other hother => ?_) (fun id hnone => ?_) (fun id => ?_) (fun id => ?_)
  · rw [hclaims.attempts_eq] at hother
    rcases Table.mem_replace hother with rfl | ⟨hold, -⟩
    · exact ⟨attempt, hmem, rfl, rfl, fun hstat => absurd hstat hunconfirmed, nofun⟩
    · exact ⟨other, hold, rfl, rfl, Iff.rfl⟩
  · rw [attempt_replace hfound hclaims.attempts_eq] at hnone
    split at hnone
    · cases hnone
    · exact hnone
  · rw [hclaims.rows]
    rfl
  · rw [hclaims.rows]
    rfl

theorem Evidenced.admits {charges : List Uuid} (h : Evidenced db)
    (hadm : Admits db request ledger charges db') : Evidenced db' := by
  cases hadm with
  | replayed => exact h.frame rfl (fun _ => rfl) (fun _ => rfl)
  | created hfresh =>
    obtain ⟨hconfs, hjobs⟩ := h.unknown request.attemptId hfresh
    exact {
      confirmations := Table.forall_append h.confirmations hconfs
      initialJobs := Table.forall_append h.initialJobs hjobs
      unknown := fun id hnone => by
        refine h.unknown id ?_
        cases hcase : db.attempt id with
        | none => rfl
        | some attempt => exact absurd ((Table.find_append_of_some _ hcase).symm.trans hnone) nofun }

theorem Evidenced.retries (h : Evidenced db) (hretries : Retries db db') : Evidenced db' := by
  rcases hretries with rfl | ⟨request, source, _, _, _, ids, -, -, -, -, -, rfl⟩
  · exact h
  · refine h.frame rfl (fun _ => rfl) (fun id => ?_)
    simp only [Database.initialJobs, List.countP_append, List.countP_singleton, newJob]
    simp

structure AddsJob (db db' : Database) (attemptId : Uuid) : Prop where
  receipts : db'.verificationReceipts = db.verificationReceipts
  recoveries : db'.recoveries = db.recoveries
  jobs : db'.jobs = db.jobs ∨ ∃ id replicaId maximumAttempts,
    JobFits db (newJob id attemptId replicaId none maximumAttempts) ∧
      db'.jobs = db.jobs ++ [newJob id attemptId replicaId none maximumAttempts]

theorem AddsJob.of_eq (hjobs : db'.jobs = db.jobs)
    (hreceipts : db'.verificationReceipts = db.verificationReceipts)
    (hrecoveries : db'.recoveries = db.recoveries) : AddsJob db db' attemptId :=
  ⟨hreceipts, hrecoveries, .inl hjobs⟩

theorem JobFits.of_eq {job : ArtifactVerificationJob} (h : JobFits db job) (hjobs : db'.jobs = db.jobs) :
    JobFits db' job := by
  refine ⟨?_, ?_, ?_⟩
  · rw [Database.job, hjobs]
    exact h.id
  · rw [hjobs]
    exact h.initial
  · rw [hjobs]
    exact h.retry

theorem PutEnd.addsJob (h : PutEnd db claim observed attempt db' answer) : AddsJob db db' attempt.id := by
  cases h with
  | unavailable | unknown => exact .of_eq rfl rfl rfl
  | absent ids ledger middle _ _ hrcpt =>
    obtain ⟨-, rfl⟩ := addObservationReceipt_eq_ok hrcpt
    exact .of_eq rfl rfl rfl
  | mismatch ids ref read ledger stored middle content replica _ _ hstores _ hrcpt =>
    obtain ⟨-, rfl⟩ := addObservationReceipt_eq_ok hrcpt
    rw [hstores.rest]
    exact .of_eq rfl rfl rfl
  | conflict ids ledger stored middle replicaId _ hleaves hrcpt =>
    obtain ⟨-, rfl⟩ := addObservationReceipt_eq_ok hrcpt
    rcases hleaves with rfl | ⟨_, _, _, _, -, hstores⟩
    · exact .of_eq rfl rfl rfl
    · rw [hstores.rest]
      exact .of_eq rfl rfl rfl
  | confirmed ids ref replayed maximumAttempts ledger stored evidenced last content replica _ hstores _
      hrcpt hjob =>
    have hevid : evidenced.jobs = db.jobs ∧ evidenced.verificationReceipts = db.verificationReceipts ∧
        evidenced.recoveries = db.recoveries := by
      unfold addConfirmation at hrcpt
      rw [hstores.rest] at hrcpt
      split at hrcpt
      · obtain ⟨-, rfl⟩ := addObservationReceipt_eq_ok hrcpt
        exact ⟨rfl, rfl, rfl⟩
      · obtain ⟨-, rfl⟩ := addOperationReceipt_eq_ok hrcpt
        exact ⟨rfl, rfl, rfl⟩
    obtain ⟨hjobs, hreceipts, hrecoveries⟩ := hevid
    unfold addInitialJob at hjob
    split at hjob
    · obtain rfl := pure_eq_ok.mp hjob
      exact .of_eq hjobs hreceipts hrecoveries
    · obtain ⟨hfits, rfl⟩ := addVerificationJob_eq_ok hjob
      exact ⟨hreceipts, hrecoveries,
        .inr ⟨ids.jobId, replica.id, maximumAttempts, hfits.of_eq hjobs.symm, congrArg (· ++ _) hjobs⟩⟩

theorem JobFits.nodup {job : ArtifactVerificationJob} (h : JobFits db job)
    (hids : (db.jobs.map (·.id)).Nodup) : ((db.jobs ++ [job]).map (·.id)).Nodup :=
  Table.nodup_append hids (Table.not_mem_of_find_eq_none h.id)

theorem PutReturns.jobIds (h : PutReturns db claim observed db' answer) (hids : (db.jobs.map (·.id)).Nodup) :
    (db'.jobs.map (·.id)).Nodup := by
  rcases h with ⟨-, rfl, -⟩ | ⟨attempt, -, hend⟩
  · exact hids
  · rcases hend.addsJob.jobs with hsame | ⟨_, _, _, hfits, hadded⟩
    · exact hsame ▸ hids
    · exact hadded ▸ hfits.nodup hids

end Workstream.Storage
