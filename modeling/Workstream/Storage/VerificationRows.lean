import Workstream.Foundation.Successions
import Workstream.Storage.PutCustody

/-! # Verification jobs and their recoveries -/

namespace Workstream.Storage
open Foundation

variable {db db' : Database} {job row : ArtifactVerificationJob} {recovery : ArtifactRecoveryAttempt}
  {now : ℕ}

def Database.jobsOf (db : Database) (attemptId : Uuid) : List ArtifactVerificationJob :=
  db.jobs.filter (fun job => job.originatingPutAttemptId = attemptId)

abbrev JobChain (jobs : List ArtifactVerificationJob) : Prop :=
  Succession ArtifactVerificationJob.parentVerificationJobId ArtifactVerificationJob.id
    ArtifactVerificationJob.ExhaustedUnavailable jobs

/-- The job has not ended. -/
def ArtifactVerificationJob.Open (job : ArtifactVerificationJob) : Prop :=
  job.terminalAt = none ∧ job.terminalResultCode = none

def ArtifactVerificationJob.Sound (job : ArtifactVerificationJob) : Prop :=
  match job.status with
  | .pending => job.Open
  | .running => job.Open
  | .providerUnavailable => job.Open ∨ job.ExhaustedUnavailable
  | status => job.terminalAt.isSome = true ∧ job.terminalResultCode = some status

def recoveryStatus : Option JobStatus → RecoveryStatus
  | none => .requested
  | some .verified => .succeeded
  | some _ => .failed

/-- A recovery that is terminal when its retry job is, with the same outcome. -/
def Carries (recovery : ArtifactRecoveryAttempt) (job : ArtifactVerificationJob) : Prop :=
  recovery.terminalResultCode = job.terminalResultCode ∧ recovery.terminalAt = job.terminalAt ∧
    recovery.status = recoveryStatus job.terminalResultCode

/-- The jobs, receipts and recoveries of all attempts fit together. -/
structure Verifications (db : Database) : Prop where
  jobIds : (db.jobs.map (·.id)).Nodup
  sound : ∀ job ∈ db.jobs, job.Sound
  chains : ∀ attemptId, JobChain (db.jobsOf attemptId)
  receiptIds : (db.verificationReceipts.map (·.verificationJobId)).Nodup
  receipts : ∀ receipt ∈ db.verificationReceipts, ∃ job ∈ db.jobs, job.id = receipt.verificationJobId ∧
    job.terminalAt.isSome = true ∧ job.terminalResultCode = some receipt.outcome
  retryIds : (db.recoveries.map (·.retryVerificationJobId)).Nodup
  sourceIds : (db.recoveries.map (·.sourceVerificationJobId)).Nodup
  links : ∀ recovery ∈ db.recoveries, ∃ job ∈ db.jobs, job.id = recovery.retryVerificationJobId ∧
    job.parentVerificationJobId = some recovery.sourceVerificationJobId ∧ Carries recovery job
  recovered : ∀ job ∈ db.jobs, ∀ source, job.parentVerificationJobId = some source →
    ∃ recovery ∈ db.recoveries, recovery.retryVerificationJobId = job.id ∧
      recovery.sourceVerificationJobId = source

theorem ArtifactVerificationJob.Open.not_exhausted (h : job.Open) : ¬job.ExhaustedUnavailable := by
  rintro ⟨-, -, hterm, -⟩
  rw [h.1] at hterm
  cases hterm

def Database.recoveryLinks (db : Database) : List (Uuid × Uuid) :=
  db.recoveries.map (fun recovery => (recovery.retryVerificationJobId, recovery.sourceVerificationJobId))

theorem recoveryLinks_ids (h : db'.recoveryLinks = db.recoveryLinks) :
    db'.recoveries.map (·.retryVerificationJobId) = db.recoveries.map (·.retryVerificationJobId) ∧
      db'.recoveries.map (·.sourceVerificationJobId) = db.recoveries.map (·.sourceVerificationJobId) := by
  have hfst : ∀ other : Database, other.recoveries.map (·.retryVerificationJobId) =
      other.recoveryLinks.map Prod.fst := by
    intro other
    rw [Database.recoveryLinks, List.map_map]
    rfl
  have hsnd : ∀ other : Database, other.recoveries.map (·.sourceVerificationJobId) =
      other.recoveryLinks.map Prod.snd := by
    intro other
    rw [Database.recoveryLinks, List.map_map]
    rfl
  rw [hfst, hfst, hsnd, hsnd, h]
  exact ⟨rfl, rfl⟩

structure JobUpdate (db db' : Database) (job row : ArtifactVerificationJob) : Prop where
  found : db.job job.id = some job
  isOpen : job.Open
  id : row.id = job.id
  origin : row.originatingPutAttemptId = job.originatingPutAttemptId
  parent : row.parentVerificationJobId = job.parentVerificationJobId
  sound : row.Sound
  jobs : db'.jobs = Table.replace ArtifactVerificationJob.id db.jobs row
  links : db'.recoveryLinks = db.recoveryLinks
  carried : ∀ recovery ∈ db'.recoveries, if recovery.retryVerificationJobId = job.id then Carries recovery row
    else recovery ∈ db.recoveries
  receipts : db'.verificationReceipts = db.verificationReceipts ∨ ∃ receipt,
    db'.verificationReceipts = db.verificationReceipts ++ [receipt] ∧ receipt.verificationJobId = job.id ∧
      row.terminalAt.isSome = true ∧ row.terminalResultCode = some receipt.outcome

theorem jobsOf_replace (hjobs : db'.jobs = Table.replace ArtifactVerificationJob.id db.jobs row)
    (hids : (db.jobs.map (·.id)).Nodup) (hmem : job ∈ db.jobs) (hid : row.id = job.id)
    (horigin : row.originatingPutAttemptId = job.originatingPutAttemptId) (attemptId : Uuid) :
    db'.jobsOf attemptId = (db.jobsOf attemptId).map
      (fun other => if other.id = row.id then row else other) := by
  rw [Database.jobsOf, hjobs, Table.replace, List.filter_map, Database.jobsOf]
  congr 1
  apply List.filter_congr
  intro other hother
  show decide ((if other.id = row.id then row else other).originatingPutAttemptId = attemptId) = _
  split
  · rename_i heq
    obtain rfl := Table.eq_of_key_eq hids hother hmem (heq.trans hid)
    rw [horigin]
  · rfl

theorem JobUpdate.chain (hu : JobUpdate db db' job row) (h : Verifications db) (attemptId : Uuid) :
    JobChain (db'.jobsOf attemptId) := by
  obtain ⟨hmem, -⟩ := Table.find_eq_some hu.found
  rw [jobsOf_replace hu.jobs h.jobIds hmem hu.id hu.origin]
  have hcase : ∀ other ∈ db.jobsOf attemptId, other.id = row.id → other = job := fun other hother heq =>
    Table.eq_of_key_eq h.jobIds (List.mem_filter.mp hother).1 hmem (heq.trans hu.id)
  refine (h.chains attemptId).map (fun other hother => ?_) (fun other hother => ?_)
    (fun other hother hclosed => ?_)
  · split
    · rename_i heq
      rw [hcase other hother heq, hu.parent]
    · rfl
  · split
    · rename_i heq
      exact heq.symm
    · rfl
  · split
    · rename_i heq
      rw [hcase other hother heq] at hclosed
      exact absurd hclosed hu.isOpen.not_exhausted
    · exact hclosed

variable {other : ArtifactVerificationJob}

theorem JobUpdate.mem_of_ne (hu : JobUpdate db db' job row) (hother : other ∈ db.jobs)
    (hne : other.id ≠ job.id) : other ∈ db'.jobs := by
  rw [hu.jobs]
  exact Table.mem_replace_of_ne hother (hu.id ▸ hne)

theorem JobUpdate.row_mem (hu : JobUpdate db db' job row) : row ∈ db'.jobs := by
  rw [hu.jobs]
  exact Table.mem_replace_self (Table.find_eq_some hu.found).1 hu.id.symm

theorem JobUpdate.mem_cases (hu : JobUpdate db db' job row) (hother : other ∈ db'.jobs) :
    other = row ∨ other ∈ db.jobs := by
  rw [hu.jobs] at hother
  exact (Table.mem_replace hother).imp_right And.left

theorem Verifications.receipt_ne (h : Verifications db) (hfound : db.job job.id = some job)
    (hopen : job.Open) :
    ∀ receipt ∈ db.verificationReceipts, receipt.verificationJobId ≠ job.id := by
  intro receipt hrcpt heq
  obtain ⟨other, hother, hid, hterm, -⟩ := h.receipts receipt hrcpt
  obtain ⟨hmem, -⟩ := Table.find_eq_some hfound
  obtain rfl := Table.eq_of_key_eq h.jobIds hother hmem (hid.trans heq)
  rw [hopen.1] at hterm
  cases hterm

theorem JobUpdate.keeps_receipts (hu : JobUpdate db db' job row) (h : Verifications db) :
    (db'.verificationReceipts.map (·.verificationJobId)).Nodup ∧
      ∀ receipt ∈ db'.verificationReceipts, ∃ job ∈ db'.jobs, job.id = receipt.verificationJobId ∧
        job.terminalAt.isSome = true ∧ job.terminalResultCode = some receipt.outcome := by
  have hne := h.receipt_ne hu.found hu.isOpen
  have hold : ∀ receipt ∈ db.verificationReceipts, ∃ job ∈ db'.jobs, job.id = receipt.verificationJobId ∧
      job.terminalAt.isSome = true ∧ job.terminalResultCode = some receipt.outcome := by
    intro receipt hrcpt
    obtain ⟨other, hother, hid, hrest⟩ := h.receipts receipt hrcpt
    exact ⟨other, hu.mem_of_ne hother (hid ▸ hne receipt hrcpt), hid, hrest⟩
  rcases hu.receipts with hsame | ⟨receipt, hnew, hid, hterm, hcode⟩
  · rw [hsame]
    exact ⟨h.receiptIds, hold⟩
  · rw [hnew]
    refine ⟨Table.nodup_append h.receiptIds (fun hin => ?_), fun other hother => ?_⟩
    · obtain ⟨earlier, hearlier, heq⟩ := List.mem_map.mp hin
      exact hne earlier hearlier (heq.trans hid)
    · rcases Table.mem_append hother with hother | rfl
      · exact hold other hother
      · exact ⟨row, hu.row_mem, hu.id.trans hid.symm, hterm, hcode⟩

/-- A recovery of one state stands for the same link as one of the other. -/
theorem mem_recoveryLinks (h : db'.recoveryLinks = db.recoveryLinks) (hrecv : recovery ∈ db'.recoveries) :
    ∃ old ∈ db.recoveries, old.retryVerificationJobId = recovery.retryVerificationJobId ∧
      old.sourceVerificationJobId = recovery.sourceVerificationJobId := by
  have hin : (recovery.retryVerificationJobId, recovery.sourceVerificationJobId) ∈ db.recoveryLinks :=
    h ▸ List.mem_map.mpr ⟨recovery, hrecv, rfl⟩
  obtain ⟨old, hold, heq⟩ := List.mem_map.mp hin
  exact ⟨old, hold, congrArg Prod.fst heq, congrArg Prod.snd heq⟩

theorem JobUpdate.keeps_links (hu : JobUpdate db db' job row) (h : Verifications db) :
    ∀ recovery ∈ db'.recoveries, ∃ job ∈ db'.jobs, job.id = recovery.retryVerificationJobId ∧
      job.parentVerificationJobId = some recovery.sourceVerificationJobId ∧ Carries recovery job := by
  intro recovery hrecv
  have hcarried := hu.carried recovery hrecv
  split at hcarried
  · rename_i heq
    obtain ⟨old, hold, hretry, hsrc⟩ := mem_recoveryLinks hu.links hrecv
    obtain ⟨other, hother, hid, hpar, -⟩ := h.links old hold
    obtain ⟨hmem, -⟩ := Table.find_eq_some hu.found
    obtain rfl := Table.eq_of_key_eq h.jobIds hother hmem (hid.trans (hretry.trans heq))
    exact ⟨row, hu.row_mem, hu.id.trans heq.symm, by rw [hu.parent, hpar, hsrc], hcarried⟩
  · rename_i hne
    obtain ⟨other, hother, hid, hrest⟩ := h.links recovery hcarried
    exact ⟨other, hu.mem_of_ne hother (hid ▸ hne), hid, hrest⟩

theorem Verifications.update (h : Verifications db) (hu : JobUpdate db db' job row) : Verifications db' := by
  obtain ⟨hretryIds, hsourceIds⟩ := recoveryLinks_ids hu.links
  obtain ⟨hreceiptIds, hreceipts⟩ := hu.keeps_receipts h
  obtain ⟨hmem, -⟩ := Table.find_eq_some hu.found
  exact {
    jobIds := by
      have hids : db'.jobs.map (·.id) = db.jobs.map (·.id) := by
        rw [hu.jobs]
        exact Table.map_key_replace _ _
      exact hids ▸ h.jobIds
    sound := fun other hother => by
      rcases hu.mem_cases hother with rfl | hold
      · exact hu.sound
      · exact h.sound other hold
    chains := hu.chain h
    receiptIds := hreceiptIds
    receipts := hreceipts
    retryIds := hretryIds ▸ h.retryIds
    sourceIds := hsourceIds ▸ h.sourceIds
    links := hu.keeps_links h
    recovered := fun other hother source hsrc => by
      have hold : ∃ recovery ∈ db.recoveries, recovery.retryVerificationJobId = other.id ∧
          recovery.sourceVerificationJobId = source := by
        rcases hu.mem_cases hother with rfl | hold
        · rw [hu.id]
          exact h.recovered job hmem source (hu.parent ▸ hsrc)
        · exact h.recovered other hold source hsrc
      obtain ⟨old, hin, hretry, hsrc'⟩ := hold
      obtain ⟨new, hnew, hretry', hsrc''⟩ := mem_recoveryLinks hu.links.symm hin
      exact ⟨new, hnew, hretry'.trans hretry, hsrc''.trans hsrc'⟩ }

theorem Verifications.reopen (h : Verifications db) (hfound : db.job job.id = some job) (hopen : job.Open)
    (hid : row.id = job.id) (horigin : row.originatingPutAttemptId = job.originatingPutAttemptId)
    (hpar : row.parentVerificationJobId = job.parentVerificationJobId) (hopen' : row.Open)
    (hsound : row.Sound) : Verifications (db.setJob row) := by
  refine h.update (?_ : JobUpdate db _ job row)
  refine ⟨hfound, hopen, hid, horigin, hpar, hsound, rfl, rfl, ?_, .inl rfl⟩
  intro recovery hrecv
  split
  · rename_i heq
    obtain ⟨other, hother, hretry, -, hcode, hat, hstat⟩ := h.links recovery hrecv
    obtain ⟨hmem, -⟩ := Table.find_eq_some hfound
    obtain rfl := Table.eq_of_key_eq h.jobIds hother hmem (hretry.trans heq)
    rw [Carries, hcode, hat, hstat, hopen.1, hopen.2, hopen'.1, hopen'.2]
    exact ⟨rfl, rfl, rfl⟩
  · exact hrecv

theorem Claimable.open (hsound : job.Sound) (h : job.Claimable now) : job.Open := by
  unfold ArtifactVerificationJob.Sound at hsound
  rcases h with hstat | ⟨hstat, -, hterm⟩ | ⟨hstat, -⟩
  · rw [hstat] at hsound
    exact hsound
  · rw [hstat] at hsound
    rcases hsound with hopen | ⟨-, -, hsome, -⟩
    · exact hopen
    · rw [hterm] at hsome
      cases hsome
  · rw [hstat] at hsound
    exact hsound

theorem running_open (hsound : job.Sound) (hstat : job.status = .running) : job.Open := by
  unfold ArtifactVerificationJob.Sound at hsound
  rw [hstat] at hsound
  exact hsound

theorem Verifications.claims {request : JobClaimRequest} (h : Verifications db)
    (hfound : db.job job.id = some job) (hclm : job.Claimable request.now) :
    Verifications (db.setJob (claimedJob job request)) := by
  have hopen := Claimable.open (h.sound job (Table.find_eq_some hfound).1) hclm
  exact h.reopen hfound hopen rfl rfl rfl hopen hopen

/-- Every job that a verifier may end is open. -/
theorem Verifications.fenced_open {claim : JobClaim} {replica : ArtifactReplica}
    {attempt : ArtifactPutAttempt} (h : Verifications db)
    (hfence : db.fencedJob claim = some (job, replica, attempt)) :
    db.job job.id = some job ∧ job.Open := by
  obtain ⟨hjob, ⟨hstat, -, -⟩, -⟩ := fencedJob_eq_some hfence
  obtain ⟨hmem, hid⟩ := Table.find_eq_some hjob
  exact ⟨by rw [hid]; exact hjob, running_open (h.sound job hmem) hstat⟩

theorem ended_sound_verification (job : ArtifactVerificationJob) (outcome : VerificationOutcome) (now : ℕ) :
    (job.ended outcome.status now).Sound := by
  cases outcome <;> exact ⟨rfl, rfl⟩

theorem ended_sound_unavailable (hspent : job.maximumAttempts ≤ job.attemptCount) :
    (job.ended .providerUnavailable now).Sound :=
  .inr ⟨rfl, rfl, rfl, rfl, rfl, rfl, hspent⟩

theorem carries_ended (recovery : ArtifactRecoveryAttempt) (job : ArtifactVerificationJob)
    (outcome : JobStatus)
    (now : ℕ) : Carries (recovery.ended outcome now) (job.ended outcome now) := by
  refine ⟨rfl, rfl, ?_⟩
  cases outcome <;> rfl

theorem Finalizes.recoveries {outcome : JobStatus} (h : Verifications db) (db' : Database)
    (hfin : Finalizes db.recoveries job.id outcome now db'.recoveries) :
    db'.recoveryLinks = db.recoveryLinks ∧ ∀ recovery ∈ db'.recoveries,
      if recovery.retryVerificationJobId = job.id then Carries recovery (job.ended outcome now)
      else recovery ∈ db.recoveries := by
  rcases hfin with ⟨hnone, hsame⟩ | ⟨recovery, hfound, -, -, hreplaced⟩
  · rw [Database.recoveryLinks, hsame]
    refine ⟨rfl, fun recovery hrecv => ?_⟩
    rw [if_neg (Table.find_eq_none.mp hnone recovery hrecv)]
    exact hrecv
  · obtain ⟨hmem, hretry⟩ := Table.find_eq_some hfound
    rw [Database.recoveryLinks, hreplaced]
    refine ⟨Table.map_replace_of_eq (fun other hother hkey => ?_), fun other hother => ?_⟩
    · have heq : other = recovery := Table.eq_of_key_eq h.retryIds hother hmem hkey
      rw [heq]
      rfl
    · rcases Table.mem_replace hother with rfl | ⟨hold, hne⟩
      · have hretry' : (recovery.ended outcome now).retryVerificationJobId = job.id := hretry
        rw [if_pos hretry']
        exact carries_ended recovery job outcome now
      · have hne' : other.retryVerificationJobId ≠ job.id := hretry ▸ hne
        rw [if_neg hne']
        exact hold

theorem Verifications.ends {read : Except StoreError (String × ℕ)} {claim : JobClaim}
    {replica : ArtifactReplica} {attempt : ArtifactPutAttempt} (h : Verifications db)
    (hfence : db.fencedJob claim = some (job, replica, attempt))
    (hend : JobEnd db read job replica attempt db') : Verifications db' := by
  obtain ⟨hfound, hopen⟩ := h.fenced_open hfence
  cases hend with
  | completed outcome observed receiptId now replicas recoveries _ _ _ hfin =>
    obtain ⟨hlinks, hcarried⟩ := Finalizes.recoveries h { db with recoveries } hfin
    refine h.update (?_ : JobUpdate db _ job (job.ended outcome.status now))
    exact ⟨hfound, hopen, rfl, rfl, rfl, ended_sound_verification job outcome now, rfl, hlinks, hcarried,
      .inr ⟨_, rfl, rfl, rfl, rfl⟩⟩
  | exhausted now recoveries hspent hfin =>
    obtain ⟨hlinks, hcarried⟩ := Finalizes.recoveries h { db with recoveries } hfin
    refine h.update (?_ : JobUpdate db _ job (job.ended .providerUnavailable now))
    exact ⟨hfound, hopen, rfl, rfl, rfl, ended_sound_unavailable hspent, rfl, hlinks, hcarried, .inl rfl⟩
  | postponed =>
    exact h.reopen hfound hopen rfl rfl rfl ⟨rfl, rfl⟩ (.inl ⟨rfl, rfl⟩)

theorem Verifications.add (h : Verifications db) (hfits : JobFits db job) (hsound : job.Sound)
    (hchain : JobChain (db.jobsOf job.originatingPutAttemptId ++ [job]))
    (recoveries : List ArtifactRecoveryAttempt)
    (hretryIds : ((db.recoveries ++ recoveries).map (·.retryVerificationJobId)).Nodup)
    (hsourceIds : ((db.recoveries ++ recoveries).map (·.sourceVerificationJobId)).Nodup)
    (hlinks : ∀ recovery ∈ recoveries, job.id = recovery.retryVerificationJobId ∧
      job.parentVerificationJobId = some recovery.sourceVerificationJobId ∧ Carries recovery job)
    (hrecovered : ∀ source, job.parentVerificationJobId = some source → ∃ recovery ∈ recoveries,
      recovery.retryVerificationJobId = job.id ∧ recovery.sourceVerificationJobId = source) :
    Verifications { db with jobs := db.jobs ++ [job], recoveries := db.recoveries ++ recoveries } where
  jobIds := hfits.nodup h.jobIds
  sound := fun other hother => by
    rcases Table.mem_append hother with hold | rfl
    · exact h.sound other hold
    · exact hsound
  chains := fun attemptId => by
    have hjobs : Database.jobsOf
        { db with jobs := db.jobs ++ [job], recoveries := db.recoveries ++ recoveries }
        attemptId = db.jobsOf attemptId ++ if job.originatingPutAttemptId = attemptId then [job] else [] := by
      rw [Database.jobsOf, List.filter_append, Database.jobsOf, List.filter_singleton]
      by_cases heq : job.originatingPutAttemptId = attemptId
      · rw [if_pos heq, decide_eq_true heq]
        rfl
      · rw [if_neg heq, decide_eq_false heq]
        rfl
    rw [hjobs]
    split
    · rename_i heq
      exact heq ▸ hchain
    · rw [List.append_nil]
      exact h.chains attemptId
  receiptIds := h.receiptIds
  receipts := fun receipt hrcpt => by
    obtain ⟨other, hother, hrest⟩ := h.receipts receipt hrcpt
    exact ⟨other, List.mem_append_left _ hother, hrest⟩
  retryIds := hretryIds
  sourceIds := hsourceIds
  links := fun recovery hrecv => by
    rcases List.mem_append.mp hrecv with hold | hnew
    · obtain ⟨other, hother, hrest⟩ := h.links recovery hold
      exact ⟨other, List.mem_append_left _ hother, hrest⟩
    · exact ⟨job, List.mem_concat_self, hlinks recovery hnew⟩
  recovered := fun other hother source hsrc => by
    rcases Table.mem_append hother with hold | rfl
    · obtain ⟨recovery, hrecv, hrest⟩ := h.recovered other hold source hsrc
      exact ⟨recovery, List.mem_append_left _ hrecv, hrest⟩
    · obtain ⟨recovery, hrecv, hrest⟩ := hrecovered source hsrc
      exact ⟨recovery, List.mem_append_right _ hrecv, hrest⟩

theorem Verifications.of_eq (h : Verifications db) (hjobs : db'.jobs = db.jobs)
    (hreceipts : db'.verificationReceipts = db.verificationReceipts)
    (hrecoveries : db'.recoveries = db.recoveries) : Verifications db' where
  jobIds := hjobs ▸ h.jobIds
  sound := hjobs ▸ h.sound
  chains := by
    unfold Database.jobsOf
    rw [hjobs]
    exact h.chains
  receiptIds := hreceipts ▸ h.receiptIds
  receipts := by
    rw [hreceipts, hjobs]
    exact h.receipts
  retryIds := hrecoveries ▸ h.retryIds
  sourceIds := hrecoveries ▸ h.sourceIds
  links := by
    rw [hrecoveries, hjobs]
    exact h.links
  recovered := by
    rw [hrecoveries, hjobs]
    exact h.recovered

/-- The initial job of an attempt that has none. -/
theorem Verifications.put {claim : PutClaim} {observed : Bool} {answer : String} (h : Verifications db)
    (hreturns : PutReturns db claim observed db' answer) : Verifications db' := by
  rcases hreturns with ⟨-, rfl, -⟩ | ⟨attempt, -, hend⟩
  · exact h
  · obtain ⟨hreceipts, hrecoveries, hjobs | ⟨_, _, _, hfits, hjobs⟩⟩ := hend.addsJob
    · exact h.of_eq hjobs hreceipts hrecoveries
    · have hempty : db.jobsOf attempt.id = [] := by
        refine (h.chains attempt.id).eq_nil_of_forall (fun other hother hnone => ?_)
        obtain ⟨hmem, horigin⟩ := List.mem_filter.mp hother
        exact hfits.initial rfl other hmem hnone (of_decide_eq_true horigin)
      have hadded := h.add hfits (⟨rfl, rfl⟩ : ArtifactVerificationJob.Open _)
        (by rw [newJob, hempty]; exact Succession.singleton rfl) []
        (by rw [List.append_nil]; exact h.retryIds) (by rw [List.append_nil]; exact h.sourceIds)
        (fun _ hno => absurd hno List.not_mem_nil) (fun _ hno => absurd hno nofun)
      exact hadded.of_eq hjobs hreceipts (hrecoveries.trans (List.append_nil _).symm)

theorem Verifications.retries (h : Verifications db) (hretries : Retries db db') : Verifications db' := by
  rcases hretries with rfl | ⟨request, source, attempt, taskId, parent, ids, hfound, hexh, hfree, hfits,
    hfresh, rfl⟩
  · exact h
  · obtain ⟨hmem, -⟩ := Table.find_eq_some hfound
    have hchain : JobChain (db.jobsOf source.originatingPutAttemptId ++
        [newJob ids.retryId source.originatingPutAttemptId source.replicaId (some source.id)
          ids.maximumAttempts]) := by
      refine (h.chains _).append (List.mem_filter.mpr ⟨hmem, decide_eq_true rfl⟩) hexh
        (fun other hother heq => ?_) rfl
      exact hfits.retry nofun other (List.mem_filter.mp hother).1 heq
    refine h.add hfits (⟨rfl, rfl⟩ : ArtifactVerificationJob.Open _) hchain
      [newRecovery request source attempt taskId parent ids] ?_ ?_ ?_ ?_
    · refine Table.nodup_append h.retryIds (fun hin => ?_)
      obtain ⟨other, hother, heq⟩ := List.mem_map.mp hin
      exact (hfresh other hother).2 heq
    · exact Table.nodup_append h.sourceIds (Table.not_mem_of_find_eq_none hfree)
    · intro recovery hrecv
      obtain rfl := List.mem_singleton.mp hrecv
      exact ⟨rfl, rfl, rfl, rfl, rfl⟩
    · intro other hother
      exact ⟨_, List.mem_singleton_self _, rfl, Option.some.inj hother⟩

theorem Verifications.writes (h : Verifications db) (hwrites : Writes db db') : Verifications db' := by
  cases hwrites with
  | nothing => exact h
  | admits hadm => cases hadm <;> exact h.of_eq rfl rfl rfl
  | claims hclaims =>
    exact h.of_eq (by rw [hclaims.rows]; rfl) (by rw [hclaims.rows]; rfl) (by rw [hclaims.rows]; rfl)
  | returns hreturns => exact h.put hreturns
  | claimsJob job request hfound hclm => exact h.claims hfound hclm
  | returnsJob hreturns =>
    rcases hreturns with ⟨-, rfl⟩ | ⟨job, replica, attempt, hfence, hend⟩
    · exact h
    · exact h.ends hfence hend
  | retries hretries => exact h.retries hretries

end Workstream.Storage
