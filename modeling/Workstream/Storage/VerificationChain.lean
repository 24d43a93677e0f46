import Workstream.Storage.VerificationRows

/-!
# The chain of verifications of an attempt

A retry follows a job that has exhausted its attempts, and a recovery attempt stands for the link.
-/

namespace Workstream.Storage
open Foundation

variable {db db' : Database} {job row : ArtifactVerificationJob} {recovery : ArtifactRecoveryAttempt}
  {answer sha256 ref : String} {states : ReplicaStates} {content : ArtifactContent} {published : Bool}

def AbsorbsJobs (db db' : Database) : Prop :=
  ∀ id job, db.job id = some job → job.terminalAt.isSome = true → db'.job id = some job

theorem AbsorbsJobs.trans {first second third : Database} (h : AbsorbsJobs first second)
    (h' : AbsorbsJobs second third) : AbsorbsJobs first third :=
  fun id job hjob hterm => h' id job (h id job hjob hterm) hterm

theorem absorbsJobs_of_eq (h : db'.jobs = db.jobs) : AbsorbsJobs db db' := by
  intro id job hjob _
  rw [Database.job, h]
  exact hjob

theorem absorbsJobs_replace (hjobs : db'.jobs = Table.replace ArtifactVerificationJob.id db.jobs row)
    (hfound : db.job row.id = some job) (hopen : job.Open) : AbsorbsJobs db db' := by
  intro id other hother hterm
  have hne : id ≠ row.id := by
    rintro rfl
    obtain rfl := Option.some.inj (hfound.symm.trans hother)
    rw [hopen.1] at hterm
    cases hterm
  rw [Database.job, hjobs, Table.find_replace_of_ne hne]
  exact hother

theorem absorbsJobs_append (hjobs : db'.jobs = db.jobs ++ [row]) : AbsorbsJobs db db' := by
  intro id other hother _
  rw [Database.job, hjobs]
  exact Table.find_append_of_some _ hother

theorem PutReturns.absorbsJobs {claim : PutClaim} {observed : Bool}
    (h : PutReturns db claim observed db' answer) : AbsorbsJobs db db' := by
  rcases h with ⟨-, rfl, -⟩ | ⟨attempt, -, hend⟩
  · exact absorbsJobs_of_eq rfl
  · rcases hend.addsJob.jobs with hsame | ⟨_, _, _, -, hadded⟩
    · exact absorbsJobs_of_eq hsame
    · exact absorbsJobs_append hadded

variable {claim : JobClaim} {read : Except StoreError (String × ℕ)} {s s' : State} {a : Action}
  {replica : ArtifactReplica} {attempt : ArtifactPutAttempt} {other : ArtifactVerificationJob}
  {now : ℕ} {outcome : VerificationOutcome} {observed : Option (String × ℕ)} {receiptId : Uuid}

theorem JobReturns.absorbsJobs (h : JobReturns db claim read db') (hdb : Verifications db) :
    AbsorbsJobs db db' := by
  rcases h with ⟨-, rfl⟩ | ⟨job, replica, attempt, hfence, hend⟩
  · exact absorbsJobs_of_eq rfl
  · obtain ⟨hfound, hopen⟩ := hdb.fenced_open hfence
    cases hend with
    | completed outcome observed receiptId now replicas recoveries _ _ _ _ =>
      exact absorbsJobs_replace (rfl : _ = Table.replace _ _ (job.ended outcome.status now)) hfound hopen
    | exhausted now recoveries _ _ =>
      exact absorbsJobs_replace (rfl : _ = Table.replace _ _ (job.ended .providerUnavailable now))
        hfound hopen
    | postponed nextRunAt =>
      exact absorbsJobs_replace (rfl : _ = Table.replace _ _ (postponedJob job nextRunAt)) hfound hopen

theorem Writes.absorbsJobs (hwrites : Writes db db') (h : Verifications db) : AbsorbsJobs db db' := by
  cases hwrites with
  | nothing => exact absorbsJobs_of_eq rfl
  | admits hadm => cases hadm <;> exact absorbsJobs_of_eq rfl
  | claims hclaims => exact absorbsJobs_of_eq (by rw [hclaims.rows]; rfl)
  | returns hreturns => exact hreturns.absorbsJobs
  | claimsJob job request hfound hclm =>
    exact absorbsJobs_replace (rfl : _ = Table.replace _ _ (claimedJob job request)) hfound
      (Claimable.open (h.sound job (Table.find_eq_some hfound).1) hclm)
  | returnsJob hreturns => exact hreturns.absorbsJobs h
  | retries hretries =>
    rcases hretries with rfl | ⟨_, _, _, _, _, _, -, -, -, -, -, rfl⟩
    · exact absorbsJobs_of_eq rfl
    · exact absorbsJobs_append rfl

structure Guards (replicas replicas' : List ArtifactReplica) : Prop where
  ids : (replicas.map (·.id)).Nodup → (replicas'.map (·.id)).Nodup
  bad : (replicas.map (·.id)).Nodup → ∀ id replica, Table.find ArtifactReplica.id replicas id = some replica →
    replica.isBad = true → Table.find ArtifactReplica.id replicas' id = some replica

section Guards

variable {replicas replicas' replicas'' : List ArtifactReplica} {replica : ArtifactReplica}

theorem Guards.refl (replicas : List ArtifactReplica) : Guards replicas replicas :=
  ⟨fun hids => hids, fun _ _ _ hfound _ => hfound⟩

theorem Guards.trans (h : Guards replicas replicas') (h' : Guards replicas' replicas'') :
    Guards replicas replicas'' where
  ids := fun hids => h'.ids (h.ids hids)
  bad := fun hids id replica hfound hbad => h'.bad (h.ids hids) id replica
    (h.bad hids id replica hfound hbad) hbad

theorem Guards.replace (new : ArtifactReplica) (hmem : replica ∈ replicas) (hid : new.id = replica.id)
    (hkept : replica.isBad = true → new = replica) :
    Guards replicas (Table.replace ArtifactReplica.id replicas new) := by
  constructor
  · intro hids
    rw [Table.map_key_replace]
    exact hids
  · intro hids id other hother hbad
    by_cases heq : id = new.id
    · have hfound : Table.find ArtifactReplica.id replicas new.id = some replica := by
        rw [hid]
        exact Table.find_of_mem hids hmem
      rw [heq, hfound] at hother
      obtain rfl := Option.some.inj hother
      have hself := hkept hbad
      rw [heq, Table.find_replace_self hfound, hself]
    · rw [Table.find_replace_of_ne heq]
      exact hother

theorem Guards.add (hfresh : Table.find ArtifactReplica.id replicas replica.id = none) :
    Guards replicas (replicas ++ [replica]) := by
  constructor
  · intro hids
    exact Table.nodup_append hids (Table.not_mem_of_find_eq_none hfresh)
  · exact fun _ id other hother _ => Table.find_append_of_some _ hother

end Guards

theorem Stores.guards {byteCount : ℕ} (h : Stores db sha256 byteCount ref states db' content replica) :
    Guards db.replicas db'.replicas := by
  rcases h.replicas with ⟨-, hsame⟩ | ⟨hfresh, -, -, -, hadded⟩
  · exact hsame ▸ Guards.refl _
  · exact hadded ▸ Guards.add hfresh

theorem Stores.replica_mem {byteCount : ℕ}
    (h : Stores db sha256 byteCount ref states db' content replica) : replica ∈ db'.replicas := by
  rcases h.replicas with ⟨hmem, hsame⟩ | ⟨-, -, -, -, hadded⟩
  · exact hsame ▸ hmem
  · exact hadded ▸ List.mem_concat_self

theorem PutReturns.guards {claim : PutClaim} {observed : Bool}
    (h : PutReturns db claim observed db' answer) : Guards db.replicas db'.replicas := by
  rcases h with ⟨-, rfl, -⟩ | ⟨attempt, -, hend⟩
  · exact .refl _
  · cases hend with
    | unavailable | unknown => exact .refl _
    | absent ids ledger middle _ _ hrcpt =>
      obtain ⟨-, rfl⟩ := addObservationReceipt_eq_ok hrcpt
      exact .refl _
    | mismatch ids ref read ledger stored middle content replica _ _ hstores hstates hrcpt =>
      obtain ⟨-, rfl⟩ := addObservationReceipt_eq_ok hrcpt
      refine hstores.guards.trans (Guards.replace { replica with states := mismatchStates }
        hstores.replica_mem rfl (fun hbad => ?_))
      rcases hstates with hpend | hmismatch
      · rw [ArtifactReplica.isBad, hpend] at hbad
        exact absurd hbad (by decide)
      · rw [← hmismatch]
    | conflict ids ledger stored middle replicaId _ hleaves hrcpt =>
      obtain ⟨-, rfl⟩ := addObservationReceipt_eq_ok hrcpt
      rcases hleaves with rfl | ⟨_, _, _, _, -, hstores⟩
      · exact .refl _
      · exact hstores.guards
    | confirmed ids ref replayed maximumAttempts ledger stored evidenced last content replica _ hstores _
        hrcpt hjob =>
      have hevid : evidenced.replicas = stored.replicas := by
        unfold addConfirmation at hrcpt
        split at hrcpt
        · obtain ⟨-, rfl⟩ := addObservationReceipt_eq_ok hrcpt
          rfl
        · obtain ⟨-, rfl⟩ := addOperationReceipt_eq_ok hrcpt
          rfl
      have hlast : last.replicas = evidenced.replicas := by
        unfold addInitialJob at hjob
        split at hjob
        · obtain rfl := pure_eq_ok.mp hjob
          rfl
        · obtain ⟨-, rfl⟩ := addVerificationJob_eq_ok hjob
          rfl
      show Guards db.replicas last.replicas
      rw [hlast, hevid]
      exact hstores.guards

theorem jobRows_eq_some (h : db.jobRows job = some (replica, attempt)) :
    db.replica job.replicaId = some replica ∧ db.attempt job.originatingPutAttemptId = some attempt := by
  unfold Database.jobRows at h
  split at h
  · rename_i found found' hrepl hatt
    obtain ⟨rfl, rfl⟩ := Prod.mk.inj (Option.some.inj h)
    exact ⟨hrepl, hatt⟩
  · cases h

theorem JobReturns.guards (h : JobReturns db claim read db') : Guards db.replicas db'.replicas := by
  rcases h with ⟨-, rfl⟩ | ⟨job, replica, attempt, hfence, hend⟩
  · exact .refl _
  · obtain ⟨-, -, hrows⟩ := fencedJob_eq_some hfence
    obtain ⟨hmem, -⟩ := Table.find_eq_some (jobRows_eq_some hrows).1
    cases hend with
    | completed outcome observed receiptId now replicas recoveries hmarked _ _ _ =>
      rcases hmarked with rfl | ⟨hgood, rfl⟩
      · exact .refl _
      · exact Guards.replace { replica with states := outcome.states replica } hmem rfl
          (fun hbad => absurd (hbad.symm.trans hgood) nofun)
    | exhausted | postponed => exact .refl _

theorem Writes.guards (h : Writes db db') : Guards db.replicas db'.replicas := by
  cases h with
  | nothing | claimsJob => exact .refl _
  | admits hadm => cases hadm <;> exact .refl _
  | claims hclaims =>
    have hreplicas : db'.replicas = db.replicas := by rw [hclaims.rows]; rfl
    exact hreplicas ▸ Guards.refl _
  | returns hreturns | returnsJob hreturns => exact hreturns.guards
  | retries hretries => rcases hretries with rfl | ⟨_, _, _, _, _, _, -, -, -, -, -, rfl⟩ <;> exact .refl _

/-- The step read the complete object with the digest and the size of the attempt, and leaves its
replica verified, available and valid. -/
def VerifiedBy (s : State) (a : Action) (s' : State) (job : ArtifactVerificationJob) : Prop :=
  ∃ id settings activated published receiptId now attempt replica,
    a = .finishVerification id settings (.ok (attempt.sha256, attempt.byteCount)) activated published
      receiptId now ∧
    s.db.attempt job.originatingPutAttemptId = some attempt ∧
    s'.db.replica job.replicaId = some replica ∧ replica.states = (.verified, .available, .valid)

/-- A job whose row is not the one it had is not verified. -/
theorem mem_of_verified (row : ArtifactVerificationJob)
    (hjobs : db'.jobs = Table.replace ArtifactVerificationJob.id db.jobs row)
    (hrow : row.status ≠ .verified) (hother : other ∈ db'.jobs) (hstat : other.status = .verified) :
    other ∈ db.jobs := by
  rw [hjobs] at hother
  rcases Table.mem_replace hother with rfl | ⟨hold, -⟩
  · exact absurd hstat hrow
  · exact hold

theorem JobEnd.verified (h : JobEnd db read job replica attempt db')
    (hrepl : db.replica job.replicaId = some replica) (hother : other ∈ db'.jobs)
    (hstat : other.status = .verified) :
    other ∈ db.jobs ∨ (other.originatingPutAttemptId = job.originatingPutAttemptId ∧
      read = .ok (attempt.sha256, attempt.byteCount) ∧
      ∃ found, db'.replica other.replicaId = some found ∧
        found.states = (.verified, .available, .valid)) := by
  cases h with
  | completed outcome observed receiptId now replicas recoveries _ hmatched _ _ =>
    rcases Table.mem_replace hother with rfl | ⟨hold, -⟩
    · have hout : outcome = .verified := by
        cases outcome with
        | verified => rfl
        | missing => cases hstat
        | integrityMismatch => cases hstat
        | conflict => cases hstat
      obtain ⟨hread, -, rfl⟩ := hmatched hout
      obtain ⟨-, hid⟩ := Table.find_eq_some hrepl
      refine .inr ⟨rfl, hread, { replica with states := (.verified, .available, .valid) }, ?_, rfl⟩
      show Table.find ArtifactReplica.id (Table.replace ArtifactReplica.id db.replicas _) job.replicaId = _
      rw [← hid]
      exact Table.find_replace_self (hid ▸ hrepl)
    · exact .inl hold
  | exhausted now =>
    exact .inl (mem_of_verified (job.ended .providerUnavailable now) rfl nofun hother hstat)
  | postponed nextRunAt => exact .inl (mem_of_verified (postponedJob job nextRunAt) rfl nofun hother hstat)

theorem verified_stepped (hstep : Stepped s a s') (hjob : job ∈ s'.db.jobs)
    (hstat : job.status = .verified) : job ∈ s.db.jobs ∨ VerifiedBy s a s' job := by
  have hput : ∀ {claim observed db' answer}, PutReturns s.db claim observed db' answer → job ∈ db'.jobs →
      job ∈ s.db.jobs := by
    rintro claim observed db' answer (⟨-, rfl, -⟩ | ⟨attempt, -, hend⟩) hin
    · exact hin
    · rcases hend.addsJob.jobs with hsame | ⟨_, _, _, -, hadded⟩
      · exact hsame ▸ hin
      · rw [hadded] at hin
        rcases Table.mem_append hin with hold | rfl
        · exact hold
        · cases hstat
  cases hstep with
  | quiet | called => exact .inl hjob
  | admitted request db id hcommit =>
    obtain ⟨_, _, -, hadm⟩ := admitArtifact_eq_ok hcommit
    cases hadm <;> exact .inl hjob
  | claimedPut id request db claim _ hclaim =>
    obtain ⟨attempt, hclaims⟩ := claimPut_eq_some hclaim
    have hjobs : db.jobs = s.db.jobs := by rw [hclaims.rows]; rfl
    exact .inl (hjobs ▸ hjob)
  | callerReturned id settings result activated ids worker db answer _ _ hret =>
    exact .inl (hput (finishCallerPut_returns hret) hjob)
  | observerReturned id settings observation read activated ids worker db answer _ _ hret =>
    exact .inl (hput (finishObservation_returns hret) hjob)
  | claimedVerification id request db claim hclaim =>
    obtain ⟨found, -, -, -, rfl, -, -⟩ := claimVerificationJob_eq_some hclaim
    exact .inl (mem_of_verified (claimedJob found request) rfl nofun hjob hstat)
  | verifierReturned id settings read activated published receiptId now claim db answer _ hret =>
    rcases finishVerification_returns hret with ⟨-, rfl⟩ | ⟨found, replica, attempt, hfence, hend⟩
    · exact .inl hjob
    · obtain ⟨-, -, hrows⟩ := fencedJob_eq_some hfence
      obtain ⟨hrepl, hatt⟩ := jobRows_eq_some hrows
      rcases hend.verified hrepl hjob hstat with hold | ⟨horigin, rfl, found', hfound', hstates⟩
      · exact .inl hold
      · exact .inr ⟨id, settings, activated, published, receiptId, now, attempt, found', rfl,
          horigin ▸ hatt, hfound', hstates⟩
  | retried request authorized ids db recovery hretry =>
    rcases retryVerification_eq_ok hretry with rfl | ⟨_, _, _, _, _, _, -, -, -, -, -, rfl⟩
    · exact .inl hjob
    · rcases Table.mem_append hjob with hold | rfl
      · exact .inl hold
      · cases hstat

def alreadyTerminal : Failure := .ingestState "artifact recovery envelope is already terminal"

/-- The recovery of an open job is open. -/
theorem Verifications.requested (h : Verifications db) (hfound : db.job job.id = some job) (hopen : job.Open)
    (hrecv : recovery ∈ db.recoveries) (hretry : recovery.retryVerificationJobId = job.id) :
    recovery.status = .requested ∧ recovery.terminalAt = none := by
  obtain ⟨other, hother, hid, -, -, hat, hstat⟩ := h.links recovery hrecv
  obtain ⟨hmem, -⟩ := Table.find_eq_some hfound
  obtain rfl := Table.eq_of_key_eq h.jobIds hother hmem (hid.trans hretry)
  rw [hat, hstat, hopen.1, hopen.2]
  exact ⟨rfl, rfl⟩

theorem finalizeRecovery_avoids {outcome : JobStatus} (hrecoveries : db'.recoveries = db.recoveries)
    (h : Verifications db) (hfound : db.job job.id = some job) (hopen : job.Open) :
    Avoids alreadyTerminal (finalizeRecovery db' job.id outcome now) := by
  unfold finalizeRecovery
  rw [hrecoveries]
  split
  · exact avoids_pure _
  · rename_i recovery hrecv
    obtain ⟨hmem, hretry⟩ := Table.find_eq_some hrecv
    refine Avoids.bind (avoids_require.mpr (fun _ => ?_)) (fun _ _ => avoids_pure _)
    exact h.requested hfound hopen hmem hretry

theorem endJob_avoids (hrecoveries : db'.recoveries = db.recoveries) (h : Verifications db)
    (hfound : db.job job.id = some job) (hopen : job.Open) :
    Avoids alreadyTerminal (endJob db' job outcome observed receiptId now) := by
  refine Avoids.bind ?_ (fun middle hmid => ?_)
  · unfold addVerificationReceipt
    exact Avoids.bind (avoids_require.mpr nofun) (fun _ _ => avoids_pure _)
  · simp only [addVerificationReceipt, eq_ok] at hmid
    obtain ⟨⟨⟩, -, rfl⟩ := hmid
    exact Avoids.bind (finalizeRecovery_avoids hrecoveries h hfound hopen) (fun _ _ => avoids_pure _)

theorem completeVerification_avoids (h : Verifications db) :
    Avoids alreadyTerminal (completeVerification db claim outcome observed published receiptId now) := by
  unfold completeVerification
  split
  · exact avoids_pure _
  · rename_i job replica attempt hfence
    obtain ⟨hfound, hopen⟩ := h.fenced_open hfence
    refine Avoids.bind (avoids_require.mpr nofun) (fun _ _ => ?_)
    refine Avoids.bind (endJob_avoids ?_ h hfound hopen) (fun _ _ => avoids_pure _)
    split <;> rfl

theorem recordVerificationUnavailable_avoids {scanInterval : ℕ} (h : Verifications db) :
    Avoids alreadyTerminal (recordVerificationUnavailable db claim scanInterval receiptId now) := by
  unfold recordVerificationUnavailable
  split
  · exact avoids_pure _
  · rename_i job replica attempt hfence
    obtain ⟨hfound, hopen⟩ := h.fenced_open hfence
    split
    · exact Avoids.bind (endJob_avoids rfl h hfound hopen) (fun _ _ => avoids_pure _)
    · split
      · have hsame : (db.setJob (job.ended .providerUnavailable now)).recoveries = db.recoveries := rfl
        exact Avoids.bind (finalizeRecovery_avoids hsame h hfound hopen) (fun _ _ => avoids_pure _)
      · exact avoids_pure _

theorem finishVerification_avoids {settings : Settings} {activated : Bool} (h : Verifications db) :
    Avoids alreadyTerminal (finishVerification settings db claim read activated published receiptId now) := by
  unfold finishVerification
  split
  · exact avoids_pure _
  · split
    · exact completeVerification_avoids h
    · split
      · exact recordVerificationUnavailable_avoids h
      · exact recordVerificationUnavailable_avoids h
      · exact completeVerification_avoids h

/-- What holds of the verifications of a reachable state. -/
structure VerificationsInOrder (s : State) : Prop where
  /-- The jobs of an attempt are one chain, and at most one of them is unfinished. -/
  chain : ∀ attemptId, JobChain (s.db.jobsOf attemptId) ∧
    (s.db.jobsOf attemptId).countP (fun job => job.terminalAt = none) ≤ 1
  /-- A job that has ended is never touched again, and has at most one receipt. -/
  once : ∀ job ∈ s.db.jobs, job.terminalAt.isSome = true →
    ∀ later, (run step s later).db.job job.id = some job
  receipt : ∀ job ∈ s.db.jobs,
    s.db.verificationReceipts.countP (fun receipt => receipt.verificationJobId = job.id) ≤ 1
  /-- Each link has one recovery attempt, which ends with the retry job and as it does. -/
  recovery : ∀ job ∈ s.db.jobs, ∀ source, job.parentVerificationJobId = some source →
    s.db.recoveries.countP (fun recovery => recovery.sourceVerificationJobId = source) = 1 ∧
      s.db.recoveries.countP (fun recovery => recovery.retryVerificationJobId = job.id) = 1 ∧
      ∃ recovery ∈ s.db.recoveries, recovery.sourceVerificationJobId = source ∧
        recovery.retryVerificationJobId = job.id ∧ Carries recovery job
  finalized : ∀ settings claim read activated published receiptId now,
    finishVerification settings s.db claim read activated published receiptId now ≠ .error alreadyTerminal
  verified : ∀ a, ∀ job ∈ (step s a).db.jobs, job.status = .verified →
    job ∈ s.db.jobs ∨ VerifiedBy s a (step s a) job
  /-- A replica once found missing or damaged keeps these states. -/
  bad : ∀ replica ∈ s.db.replicas, replica.isBad = true →
    ∀ later, (run step s later).db.replica replica.id = some replica

structure Verifiable (s : State) : Prop where
  verifications : Verifications s.db
  replicaIds : (s.db.replicas.map (·.id)).Nodup

theorem verifiable_initial : Verifiable State.initial where
  verifications := {
    jobIds := List.nodup_nil
    sound := fun _ h => absurd h List.not_mem_nil
    chains := fun _ => Succession.nil
    receiptIds := List.nodup_nil
    receipts := fun _ h => absurd h List.not_mem_nil
    retryIds := List.nodup_nil
    sourceIds := List.nodup_nil
    links := fun _ h => absurd h List.not_mem_nil
    recovered := fun _ h => absurd h List.not_mem_nil }
  replicaIds := List.nodup_nil

theorem Verifiable.step (h : Verifiable s) (a : Action) : Verifiable (Storage.step s a) where
  verifications := h.verifications.writes (stepped_step s a).writes
  replicaIds := (stepped_step s a).writes.guards.ids h.replicaIds

theorem absorbsJobs_run (h : Verifiable s) (actions : List Action) :
    AbsorbsJobs s.db (run step s actions).db :=
  run_relates (R := fun s s' : State => AbsorbsJobs s.db s'.db) h (fun _ a hs => hs.step a)
    (fun _ => absorbsJobs_of_eq rfl) (fun _ _ _ hfirst hsecond => hfirst.trans hsecond)
    (fun s a hs => (stepped_step s a).writes.absorbsJobs hs.verifications) actions

theorem guards_run (h : Verifiable s) (actions : List Action) :
    Guards s.db.replicas (run step s actions).db.replicas :=
  run_relates (R := fun s s' : State => Guards s.db.replicas s'.db.replicas) h (fun _ a hs => hs.step a)
    (fun s => .refl s.db.replicas) (fun _ _ _ hfirst hsecond => hfirst.trans hsecond)
    (fun s a _ => (stepped_step s a).writes.guards) actions

theorem countP_eq_one {α : Type} {rows : List α} {key : α → Uuid} {k : Uuid} (huniq : (rows.map key).Nodup)
    (hexists : ∃ r ∈ rows, key r = k) : rows.countP (fun r => key r = k) = 1 := by
  obtain ⟨r, hr, hkey⟩ := hexists
  refine Nat.le_antisymm (Table.countP_le_one huniq (fun r _ r' _ h h' => ?_)) ?_
  · exact (of_decide_eq_true h).trans (of_decide_eq_true h').symm
  · exact List.countP_pos_iff.mpr ⟨r, hr, decide_eq_true hkey⟩

theorem Verifiable.inOrder (h : Verifiable s) : VerificationsInOrder s where
  chain := fun attemptId => by
    refine ⟨h.verifications.chains attemptId, ?_⟩
    refine le_trans (List.countP_mono_left (fun job _ hopen => ?_))
      (h.verifications.chains attemptId).countP_open_le_one
    refine decide_eq_true (fun hexh => ?_)
    have hterm := hexh.2.2.1
    rw [of_decide_eq_true hopen] at hterm
    cases hterm
  once := fun job hjob hterm later =>
    absorbsJobs_run h later job.id job (Table.find_of_mem h.verifications.jobIds hjob) hterm
  receipt := fun job _ => Table.countP_le_one h.verifications.receiptIds
    (fun _ _ _ _ heq heq' => (of_decide_eq_true heq).trans (of_decide_eq_true heq').symm)
  recovery := fun job hjob source hsrc => by
    obtain ⟨recovery, hrecv, hretry, hsrc'⟩ := h.verifications.recovered job hjob source hsrc
    obtain ⟨other, hother, hid, -, hcarries⟩ := h.verifications.links recovery hrecv
    obtain rfl := Table.eq_of_key_eq h.verifications.jobIds hother hjob (hid.trans hretry)
    exact ⟨countP_eq_one h.verifications.sourceIds ⟨recovery, hrecv, hsrc'⟩,
      countP_eq_one h.verifications.retryIds ⟨recovery, hrecv, hretry⟩,
      recovery, hrecv, hsrc', hretry, hcarries⟩
  finalized := fun _ _ _ _ _ _ _ => finishVerification_avoids h.verifications
  verified := fun a _ hjob hstat => verified_stepped (stepped_step s a) hjob hstat
  bad := fun replica hrepl hbad later =>
    (guards_run h later).bad h.replicaIds replica.id replica (Table.find_of_mem h.replicaIds hrepl) hbad

/-- In every reachable state the verifications of every attempt are in order. -/
theorem verification_chain (actions : List Action) :
    VerificationsInOrder (run step State.initial actions) :=
  (run_invariant verifiable_initial (fun _ a hs => hs.step a) actions).inOrder

def taskAdmission : AdmissionRequest where
  facts := { (sampleAdmission "first" "one" "c1").facts with taskId := some "t" }
  limits := ⟨100, 100, 100, 100⟩
  maximumObservations := 3
  attemptId := "first"
  chargeIds := ["c1", "c2", "c3", "c4"]

def retriedRun : List Action :=
  [.admitArtifact taskAdmission,
    .claimPut 0 (sampleClaim "first" "caller" .callerPut 0 0),
    .callProvider 0,
    .finishCallerPut 0 ⟨30, 1⟩ (.ok ("sha256/0a", false)) true ⟨"k", "r", "o", "j1", 1⟩,
    .claimVerification 0 ⟨"j1", "verifier", 0, 60, 2⟩,
    .finishVerification 0 ⟨30, 1⟩ (.error .unavailable) true true "v1" 3,
    .retryVerification ⟨"operator", "one", "t", none, "j1", 2, "provider was down", "key", "digest"⟩ true
      ⟨"j2", "recovery", 1⟩,
    .claimVerification 1 ⟨"j2", "verifier", 0, 60, 4⟩,
    .finishVerification 1 ⟨30, 1⟩ (.ok ("sha256:0a", 10)) true true "v2" 5]

example : (run step State.initial retriedRun).db.jobs.map (fun job => (job.id, job.status)) =
    [("j1", .providerUnavailable), ("j2", .verified)] ∧
    (run step State.initial retriedRun).db.recoveries.map (·.status) = [.succeeded] := by
  decide +kernel

end Workstream.Storage
