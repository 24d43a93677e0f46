import Workstream.Storage.PutEvidence

/-! # Custody of one write -/

namespace Workstream.Storage
open Foundation

variable {db db' : Database} {claim : PutClaim} {attempt row : ArtifactPutAttempt} {observed : Bool}
  {answer : String} {id : ℕ} {request : ClaimRequest} {worker : PutWorker} {a : Action}
  {ids : TerminalIds}

structure Custody (s : State) : Prop where
  issued : Issued s.db s.claims
  evidenced : Evidenced s.db
  jobIds : (s.db.jobs.map (·.id)).Nodup
  held : ∀ worker ∈ s.workers, worker.2.claim ∈ s.claims
  single : ∀ worker ∈ s.workers, ∀ other ∈ s.workers, worker.2.claim.key = other.2.claim.key →
    worker.1 = other.1
  uncalled : ∀ worker ∈ s.workers, worker.2.called = false → worker.2.claim.key ∉ s.invocations
  called : ∀ worker ∈ s.workers, worker.2.called = true →
    worker.2.claim.mode = .callerPut ∧ worker.2.claim.key ∈ s.invocations
  invoked : ∀ invocation ∈ s.invocations, ∃ claim ∈ s.claims, claim.key = invocation ∧ claim.mode = .callerPut
  once : s.invocations.Nodup

theorem custody_initial : Custody State.initial where
  issued := ⟨List.nodup_nil, fun _ h => absurd h List.not_mem_nil, fun _ h => absurd h List.not_mem_nil,
    fun _ h => absurd h List.not_mem_nil, fun _ h => absurd h List.not_mem_nil,
    fun _ h => absurd h List.not_mem_nil⟩
  evidenced := ⟨fun _ h => absurd h List.not_mem_nil, fun _ h => absurd h List.not_mem_nil,
    fun _ _ => ⟨rfl, rfl⟩⟩
  jobIds := List.nodup_nil
  held := fun _ h => absurd h List.not_mem_nil
  single := fun _ h => absurd h List.not_mem_nil
  uncalled := fun _ h => absurd h List.not_mem_nil
  called := fun _ h => absurd h List.not_mem_nil
  invoked := fun _ h => absurd h List.not_mem_nil
  once := List.nodup_nil

variable {s s' : State}

/-- A step that leaves claims and invocations alone and removes workers. -/
theorem Custody.leave (h : Custody s) (hissued : Issued s'.db s.claims) (hevid : Evidenced s'.db)
    (hjobIds : (s'.db.jobs.map (·.id)).Nodup) (hworkers : s'.workers ⊆ s.workers)
    (hclaims : s'.claims = s.claims) (hinvs : s'.invocations = s.invocations) : Custody s' where
  issued := hclaims ▸ hissued
  evidenced := hevid
  jobIds := hjobIds
  held := fun worker hworker => hclaims ▸ h.held worker (hworkers hworker)
  single := fun worker hworker other hother => h.single worker (hworkers hworker) other (hworkers hother)
  uncalled := fun worker hworker => hinvs ▸ h.uncalled worker (hworkers hworker)
  called := fun worker hworker => hinvs ▸ h.called worker (hworkers hworker)
  invoked := by
    rw [hinvs, hclaims]
    exact h.invoked
  once := hinvs ▸ h.once

theorem Custody.claims (h : Custody s) (hclaims : Claims s.db request attempt db' claim) :
    Custody { s with
      db := db', workers := s.workers ++ [(id, ⟨claim, false⟩)], claims := s.claims ++ [claim] } := by
  have hissued := h.issued.claims hclaims
  have hnew : claim.key ∉ s.claims.map (·.key) := by
    have hkeys := hissued.keys
    rw [List.map_append] at hkeys
    intro hin
    exact List.disjoint_of_nodup_append hkeys hin (List.mem_singleton_self _)
  have hworker : ∀ worker ∈ s.workers, worker.2.claim.key ≠ claim.key := by
    intro worker hworker heq
    exact hnew (heq ▸ List.mem_map.mpr ⟨_, h.held worker hworker, rfl⟩)
  have huncalled : claim.key ∉ s.invocations := by
    intro hin
    obtain ⟨other, hother, hkey, -⟩ := h.invoked _ hin
    exact hnew (List.mem_map.mpr ⟨other, hother, hkey⟩)
  have hcases : ∀ worker ∈ s.workers ++ [(id, (⟨claim, false⟩ : PutWorker))],
      worker ∈ s.workers ∨ worker = (id, ⟨claim, false⟩) := by
    intro worker hworker
    exact (List.mem_append.mp hworker).imp_right List.mem_singleton.mp
  have hjobs : db'.jobs = s.db.jobs := by rw [hclaims.rows]; rfl
  exact {
    issued := hissued
    evidenced := h.evidenced.claims hclaims
    jobIds := hjobs ▸ h.jobIds
    held := fun worker hin => by
      rcases hcases worker hin with hold | rfl
      · exact List.mem_append_left _ (h.held worker hold)
      · exact List.mem_concat_self
    single := fun worker hin other hin' hkey => by
      rcases hcases worker hin with hold | rfl
      · rcases hcases other hin' with hold' | rfl
        · exact h.single worker hold other hold' hkey
        · exact absurd hkey (hworker worker hold)
      · rcases hcases other hin' with hold' | rfl
        · exact absurd hkey.symm (hworker other hold')
        · rfl
    uncalled := fun worker hin huncalled' => by
      rcases hcases worker hin with hold | rfl
      · exact h.uncalled worker hold huncalled'
      · exact huncalled
    called := fun worker hin hcalled => by
      rcases hcases worker hin with hold | rfl
      · exact h.called worker hold hcalled
      · cases hcalled
    invoked := fun invocation hin => by
      obtain ⟨other, hother, hrest⟩ := h.invoked invocation hin
      exact ⟨other, List.mem_append_left _ hother, hrest⟩
    once := h.once }

theorem Custody.call (h : Custody s) (hfound : s.worker id = some worker)
    (hmode : worker.claim.mode = .callerPut) (hfirst : worker.called = false) :
    Custody { s with
      workers := (s.withoutWorker id).workers ++ [(id, { worker with called := true })]
      invocations := s.invocations ++ [worker.claim.key] } := by
  have hmem := worker_mem hfound
  have hcases : ∀ other ∈ (s.withoutWorker id).workers ++ [(id, { worker with called := true })],
      (other ∈ s.workers ∧ other.1 ≠ id) ∨ other = (id, { worker with called := true }) := by
    intro other hother
    refine (List.mem_append.mp hother).imp (fun hold => ?_) List.mem_singleton.mp
    obtain ⟨hin, hne⟩ := List.mem_filter.mp hold
    exact ⟨hin, of_decide_eq_true hne⟩
  have hkey : ∀ other ∈ s.workers, other.1 ≠ id → other.2.claim.key ≠ worker.claim.key :=
    fun other hother hne heq => hne (h.single other hother _ hmem heq)
  exact {
    issued := h.issued
    evidenced := h.evidenced
    jobIds := h.jobIds
    held := fun other hin => by
      rcases hcases other hin with ⟨hold, -⟩ | rfl
      · exact h.held other hold
      · exact h.held (id, worker) hmem
    single := fun other hin other' hin' heq => by
      rcases hcases other hin with ⟨hold, hne⟩ | rfl
      · rcases hcases other' hin' with ⟨hold', -⟩ | rfl
        · exact h.single other hold other' hold' heq
        · exact absurd heq (hkey other hold hne)
      · rcases hcases other' hin' with ⟨hold', hne'⟩ | rfl
        · exact absurd heq.symm (hkey other' hold' hne')
        · rfl
    uncalled := fun other hin huncalled => by
      rcases hcases other hin with ⟨hold, hne⟩ | rfl
      · intro hinv
        rcases List.mem_append.mp hinv with hinv | hinv
        · exact h.uncalled other hold huncalled hinv
        · exact hkey other hold hne (List.mem_singleton.mp hinv)
      · cases huncalled
    called := fun other hin hcalled => by
      rcases hcases other hin with ⟨hold, -⟩ | rfl
      · exact ⟨(h.called other hold hcalled).1, List.mem_append_left _ (h.called other hold hcalled).2⟩
      · exact ⟨hmode, List.mem_concat_self⟩
    invoked := Table.forall_append h.invoked ⟨worker.claim, h.held _ hmem, rfl, hmode⟩
    once := by
      show (s.invocations ++ [worker.claim.key]).Nodup
      rw [← List.concat_eq_append]
      exact h.once.concat (h.uncalled _ hmem hfirst) }

theorem Custody.returns (h : Custody s) (hfound : s.worker id = some worker)
    (hmode : observed = true → worker.claim.mode = .observation)
    (hreturns : PutReturns s.db worker.claim observed db' answer) (hjobIds : (db'.jobs.map (·.id)).Nodup) :
    Custody (s.returned id db') := by
  have hworkers : (s.returned id db').workers ⊆ s.workers := fun other hother => mem_withoutWorker hother
  rcases hreturns with ⟨-, rfl, -⟩ | ⟨attempt, hfence, hend⟩
  · exact h.leave h.issued h.evidenced hjobIds hworkers rfl rfl
  · obtain ⟨row, hrow⟩ := hend.endRow
    exact h.leave (h.issued.ends hfence hrow (h.held _ (worker_mem hfound)) hmode)
      (h.evidenced.ends hfence hrow) hjobIds hworkers rfl rfl

theorem Custody.stepped (h : Custody s) (hs : s.Booked) (hstep : Stepped s a s') : Custody s' := by
  cases hstep with
  | quiet _ workers verifiers hworkers =>
    exact h.leave h.issued h.evidenced h.jobIds hworkers.subset rfl rfl
  | admitted request db id hcommit =>
    obtain ⟨ledger, charges, -, -, hadm⟩ := admitArtifact_charges hs.db.sound hcommit
    have hjobs : db.jobs = s.db.jobs := by cases hadm <;> rfl
    exact h.leave (h.issued.admits hadm) (h.evidenced.admits hadm) (hjobs ▸ h.jobIds)
      (List.Subset.refl _) rfl rfl
  | claimedPut id request db claim _ hclaim =>
    obtain ⟨attempt, hclaims⟩ := claimPut_eq_some hclaim
    exact h.claims hclaims
  | called id worker hfound hmode hfirst => exact h.call hfound hmode hfirst
  | callerReturned id settings result activated ids worker db answer hfound _ hret =>
    have hreturns := finishCallerPut_returns hret
    exact h.returns hfound (fun hno : false = true => absurd hno nofun) hreturns (hreturns.jobIds h.jobIds)
  | observerReturned id settings observation read activated ids worker db answer hfound hmode hret =>
    have hreturns := finishObservation_returns hret
    exact h.returns hfound (fun _ => hmode) hreturns (hreturns.jobIds h.jobIds)
  | claimedVerification id request db claim hclaim =>
    obtain ⟨job, hjob, -, -, rfl, -, -⟩ := claimVerificationJob_eq_some hclaim
    obtain ⟨-, hid⟩ := Table.find_eq_some hjob
    rw [← hid] at hjob
    have hlin : (s.db.setJob (claimedJob job request)).lineage = s.db.lineage :=
      lineage_setJob (claimedJob job request) h.jobIds hjob rfl rfl
    exact h.leave (h.issued.of_eq rfl rfl) (h.evidenced.frame rfl (fun _ => rfl)
      (initialJobs_of_lineage hlin))
      (lineage_ids hlin ▸ h.jobIds) (List.Subset.refl _) rfl rfl
  | verifierReturned id settings read activated published receiptId now claim db answer _ hret =>
    have hreturns := finishVerification_returns hret
    obtain ⟨-, hatts⟩ := hreturns.frame
    obtain ⟨hlin, hobs, hop⟩ := hreturns.lineage h.jobIds
    exact h.leave (h.issued.of_eq hatts hobs)
      (h.evidenced.frame hatts (confirmations_of_eq hobs hop)
        (initialJobs_of_lineage hlin))
      (lineage_ids hlin ▸ h.jobIds) (List.Subset.refl _) rfl rfl
  | retried request authorized ids db recovery hretry =>
    have hretries := retryVerification_eq_ok hretry
    have hevid := h.evidenced.retries hretries
    rcases hretries with rfl | ⟨_, _, _, _, _, _, -, -, -, hfits, -, rfl⟩
    · exact h
    · exact h.leave (h.issued.of_eq rfl rfl) hevid (hfits.nodup h.jobIds) (List.Subset.refl _) rfl rfl

abbrev PutStatus.IsTerminal (status : PutStatus) : Prop :=
  status = .objectConfirmed ∨ status = .integrityMismatch ∨ status = .conflict ∨
    status = .providerUnavailable

def Absorbs (db db' : Database) : Prop :=
  ∀ id attempt, db.attempt id = some attempt → attempt.status.IsTerminal → db'.attempt id = some attempt

theorem Claims.absorbs (h : Claims db request attempt db' claim) : Absorbs db db' := by
  obtain ⟨-, hid⟩ := Table.find_eq_some h.found
  have hfound : db.attempt (claimed attempt request).id = some attempt := hid ▸ h.found
  intro id other hother hterm
  rw [attempt_replace hfound h.attempts_eq]
  split
  · rename_i heq
    rw [heq, hfound] at hother
    obtain rfl := Option.some.inj hother
    have hclm := h.claimable
    rcases hterm with hstat | hstat | hstat | hstat <;> cases hmode : request.mode <;>
      rw [hmode] at hclm <;> simp [ArtifactPutAttempt.Claimable, hstat] at hclm
  · exact hother

theorem PutReturns.absorbs (h : PutReturns db claim observed db' answer) : Absorbs db db' := by
  rcases h with ⟨-, rfl, -⟩ | ⟨attempt, hfence, hend⟩
  · exact fun _ _ hother _ => hother
  · obtain ⟨row, hrow⟩ := hend.endRow
    obtain ⟨-, hid, hflight, -⟩ := fenced_eq_some hfence
    have hfound : db.attempt row.id = some attempt := by rw [hrow.id, hid]; exact fenced_attempt hfence
    intro id other hother hterm
    rw [attempt_replace hfound hrow.attempts]
    split
    · rename_i heq
      rw [heq, hfound] at hother
      obtain rfl := Option.some.inj hother
      rw [hflight] at hterm
      exact absurd hterm (by decide)
    · exact hother

theorem Admits.absorbs {request : AdmissionRequest} {ledger : Ledger} {charges : List Uuid}
    (h : Admits db request ledger charges db') : Absorbs db db' := by
  intro id other hother _
  cases h with
  | replayed => exact hother
  | created _ => exact Table.find_append_of_some _ hother

theorem absorbs_of_eq (h : db'.attempts = db.attempts) : Absorbs db db' := by
  intro id other hother _
  rw [Database.attempt, h]
  exact hother

theorem Writes.absorbs (h : Writes db db') : Absorbs db db' := by
  cases h with
  | nothing | claimsJob => exact absorbs_of_eq rfl
  | admits h | claims h | returns h => exact h.absorbs
  | returnsJob h | retries h => exact absorbs_of_eq h.frame.2

def Current (db : Database) (claim : PutClaim) : Prop :=
  ∃ attempt, db.attempt claim.attemptId = some attempt ∧ attempt.executorId = some claim.executorId ∧
    attempt.executionGeneration = claim.generation

theorem fenced_eq_none (h : ¬Current db claim) : db.fenced claim = none := by
  cases hcase : db.fenced claim with
  | none => rfl
  | some attempt =>
    obtain ⟨-, -, -, hexecutor, hgen⟩ := fenced_eq_some hcase
    exact absurd ⟨attempt, fenced_attempt hcase, hexecutor, hgen⟩ h

def ReturnOf (id : ℕ) : Action → Prop
  | .finishCallerPut worker _ _ _ _ => worker = id
  | .finishObservation worker _ _ _ _ _ => worker = id
  | _ => False

theorem PutReturns.eq_of_not_current (h : PutReturns db claim observed db' answer)
    (hclaim : ¬Current db claim) :
    db' = db := by
  rcases h with ⟨-, hsame, -⟩ | ⟨attempt, hfence, -⟩
  · exact hsame
  · exact absurd (hfence.symm.trans (fenced_eq_none hclaim)) nofun

theorem db_of_late (hfound : s.worker id = some worker) (hclaim : ¬Current s.db worker.claim)
    (hret : ReturnOf id a) (hstep : Stepped s a s') : s'.db = s.db := by
  cases hstep with
  | quiet => rfl
  | callerReturned id' settings result activated ids other db answer hother _ hcommit =>
    obtain rfl : id' = id := hret
    obtain rfl := Option.some.inj (hfound.symm.trans hother)
    exact (finishCallerPut_returns hcommit).eq_of_not_current hclaim
  | observerReturned id' settings observation read activated ids other db answer hother _ hcommit =>
    obtain rfl : id' = id := hret
    obtain rfl := Option.some.inj (hfound.symm.trans hother)
    exact (finishObservation_returns hcommit).eq_of_not_current hclaim
  | _ => exact hret.elim

/-- Every write of an attempt that ended as unavailable is followed by an observation generation. -/
abbrev UnavailableObserved (s : State) : Prop :=
  ∀ attempt ∈ s.db.attempts, attempt.status = .providerUnavailable →
    ∀ invocation ∈ s.invocations, invocation.1 = attempt.id →
      ∃ claim ∈ s.claims, claim.attemptId = attempt.id ∧ claim.mode = .observation ∧
        invocation.2 < claim.generation

def EndedObserving (s : State) : Prop :=
  ∀ attempt ∈ s.db.attempts, attempt.status = .providerUnavailable →
    ∃ claim ∈ s.claims, claim.key = (attempt.id, attempt.executionGeneration) ∧ claim.mode = .observation

theorem EndedObserving.unavailableObserved (h : EndedObserving s) (hs : s.Booked) (hcust : Custody s) :
    UnavailableObserved s := by
  intro attempt hatt hstat invocation hinvocation hid
  obtain ⟨claim, hclaim, hkey, hmode⟩ := h attempt hatt hstat
  obtain ⟨caller, hcaller, hcallerKey, hcallerMode⟩ := hcust.invoked invocation hinvocation
  have hfound : s.db.attempt attempt.id = some attempt := Table.find_of_mem hs.db.attemptIds hatt
  have hcallerId : caller.attemptId = attempt.id := (congrArg Prod.fst hcallerKey).trans hid
  have hcallerGeneration : caller.generation = invocation.2 := congrArg Prod.snd hcallerKey
  have hclaimId : claim.attemptId = attempt.id := congrArg Prod.fst hkey
  have hclaimGeneration : claim.generation = attempt.executionGeneration := congrArg Prod.snd hkey
  obtain ⟨-, hle⟩ := hcust.issued.le hfound hcaller hcallerId
  refine ⟨claim, hclaim, hclaimId, hmode, lt_of_le_of_ne (by omega) (fun heq => ?_)⟩
  have hsame : caller.key = claim.key := by
    rw [PutClaim.key, PutClaim.key, hcallerId, hclaimId, hcallerGeneration, heq]
  obtain rfl := Table.eq_of_key_eq hcust.issued.keys hcaller hclaim hsame
  exact absurd (hcallerMode.symm.trans hmode) (by simp)

theorem completeTransactionB_answer {ref : String} {replayed : Bool} {maximumAttempts : ℕ}
    (h : completeTransactionB db claim ref replayed observed maximumAttempts ids = .ok (db', answer)) :
    answer ≠ "provider_unavailable" := by
  unfold completeTransactionB at h
  split at h
  · obtain ⟨-, rfl⟩ := Prod.mk.inj (pure_eq_ok.mp h)
    decide
  · rename_i attempt _
    obtain ⟨ledger, -, h⟩ := bind_eq_ok.mp h
    obtain ⟨⟨middle, content⟩, -, h⟩ := bind_eq_ok.mp h
    obtain ⟨⟨stored, replica⟩, -, h⟩ := bind_eq_ok.mp h
    dsimp only at h
    split at h
    · simp only [eq_ok] at h
      obtain ⟨evidenced, -, last, -, -, rfl⟩ := h
      cases attempt.isGuide <;> cases observed <;> decide
    · obtain ⟨rfl, -⟩ := conflictPut_eq_ok h
      decide

/-- A caller ends its attempt as unavailable when the store has failed and no observation is left. -/
theorem finishCallerPut_unavailable {settings : Settings} {result : Except StoreError (String × Bool)}
    {activated : Bool} (hfence : db.fenced claim = some attempt)
    (h : finishCallerPut settings db claim result activated ids = .ok (db', answer))
    (hanswer : answer = "provider_unavailable") :
    ∃ error, result = .error error ∧ error ≠ .liveProofRequired ∧
      attempt.maximumObservations ≤ attempt.observationCount := by
  have hforced : ∀ {force : Bool}, recordPutUnavailable db claim force settings.scanInterval ids.now =
      (db', answer) → force = false ∧ attempt.maximumObservations ≤ attempt.observationCount := by
    intro force heq
    unfold recordPutUnavailable at heq
    rw [hfence] at heq
    dsimp only at heq
    split at heq
    · rename_i hexh
      exact hexh
    · exact absurd ((Prod.mk.inj heq).2.trans hanswer) (by decide)
  unfold finishCallerPut at h
  split at h
  · exact absurd hanswer (completeTransactionB_answer h)
  · exact absurd (hforced (pure_eq_ok.mp h)).1 nofun
  · exact absurd (hforced (pure_eq_ok.mp h)).1 nofun
  · rename_i error hne
    exact ⟨error, rfl, hne, (hforced (pure_eq_ok.mp h)).2⟩

/-- The steps after which an unavailable attempt has been observed: a caller whose store has failed
returns while an observation is left. -/
def Watched (s : State) : Action → Prop
  | .finishCallerPut id _ result _ _ => ∀ worker attempt error, s.worker id = some worker →
      worker.called = true → s.db.fenced worker.claim = some attempt → result = .error error →
      error ≠ .liveProofRequired → attempt.observationCount < attempt.maximumObservations
  | _ => True

/-- The attempts that a terminal transaction did not end as unavailable. -/
theorem EndedObserving.ends (h : EndedObserving s) (hrow : EndRow s.db db' attempt row observed answer)
    (hnew : row.status = .providerUnavailable → ∃ claim ∈ s.claims,
      claim.key = (attempt.id, attempt.executionGeneration) ∧ claim.mode = .observation) (id : ℕ) :
    EndedObserving (s.returned id db') := by
  intro other hother hstat
  have hin : other ∈ db'.attempts := hother
  rw [hrow.attempts] at hin
  rcases Table.mem_replace hin with rfl | ⟨hold, -⟩
  · rw [hrow.id, hrow.generation]
    exact hnew hstat
  · exact h other hold hstat

theorem EndedObserving.of_eq (h : EndedObserving s) (hatts : s'.db.attempts = s.db.attempts)
    (hclaims : s'.claims = s.claims) : EndedObserving s' := by
  intro other hother hstat
  rw [hclaims]
  exact h other (hatts ▸ hother) hstat

theorem EndedObserving.stepped (h : EndedObserving s) (hs : s.Booked) (hcust : Custody s)
    (hstep : Stepped s a s') (hwatched : Watched s a) : EndedObserving s' := by
  cases hstep with
  | quiet => exact h
  | called => exact h
  | admitted request db id hcommit =>
    obtain ⟨_, _, -, -, hadm⟩ := admitArtifact_charges hs.db.sound hcommit
    cases hadm with
    | replayed => exact h
    | created =>
      intro other hother hstat
      rcases Table.mem_append hother with hold | rfl
      · exact h other hold hstat
      · cases hstat
  | claimedPut id request db claim _ hclaim =>
    obtain ⟨attempt, hclaims⟩ := claimPut_eq_some hclaim
    intro other hother hstat
    have hin : other ∈ db.attempts := hother
    rw [hclaims.attempts_eq] at hin
    rcases Table.mem_replace hin with rfl | ⟨hold, -⟩
    · cases hstat
    · obtain ⟨found, hfound, hrest⟩ := h other hold hstat
      exact ⟨found, List.mem_append_left _ hfound, hrest⟩
  | callerReturned id settings result activated ids worker db answer hfound hcalled hret =>
    rcases finishCallerPut_returns hret with ⟨-, rfl, -⟩ | ⟨attempt, hfence, hend⟩
    · exact h
    · obtain ⟨row, hrow⟩ := hend.endRow
      refine h.ends hrow (fun hstat => ?_) id
      obtain ⟨error, hres, herror, hspent⟩ :=
        finishCallerPut_unavailable hfence hret (hrow.unavailable.mp hstat)
      have hleft := hwatched worker attempt error hfound hcalled hfence hres herror
      omega
  | observerReturned id settings observation read activated ids worker db answer hfound hmode hret =>
    rcases finishObservation_returns hret with ⟨-, rfl, -⟩ | ⟨attempt, hfence, hend⟩
    · exact h
    · obtain ⟨row, hrow⟩ := hend.endRow
      obtain ⟨-, hid, -, -, hgen⟩ := fenced_eq_some hfence
      refine h.ends hrow (fun _ => ⟨worker.claim, hcust.held _ (worker_mem hfound), ?_, hmode⟩) id
      rw [PutClaim.key, hid, hgen]
  | claimedVerification id request db claim hclaim =>
    obtain ⟨_, -, -, -, rfl, -, -⟩ := claimVerificationJob_eq_some hclaim
    exact h.of_eq rfl rfl
  | verifierReturned id settings read activated published receiptId now claim db answer _ hret =>
    exact h.of_eq (finishVerification_returns hret).frame.2 rfl
  | retried request authorized ids db recovery hretry =>
    exact h.of_eq (retryVerification_eq_ok hretry).frame.2 rfl

theorem watched_of_unavailableObserved (hcust : Custody s) (a : Action)
    (h : UnavailableObserved (step s a)) : Watched s a := by
  cases a with
  | finishCallerPut id settings result activated ids =>
    intro worker attempt error hfound hcalled hfence hres herror
    obtain ⟨hmem, hid, -, -, hgen⟩ := fenced_eq_some hfence
    by_contra hspent
    have hexh : attempt.Exhausted false := ⟨rfl, Nat.le_of_not_lt hspent⟩
    have hstep : step s (.finishCallerPut id settings result activated ids) =
        s.returned id (s.db.setAttempt (unavailableAttempt attempt ids.now)) := by
      show s.finishCallerPut id settings result activated ids = _
      have hrecord : recordPutUnavailable s.db worker.claim false settings.scanInterval ids.now =
          (s.db.setAttempt (unavailableAttempt attempt ids.now), "provider_unavailable") := by
        unfold recordPutUnavailable
        rw [hfence]
        exact if_pos hexh
      have hcommit : finishCallerPut settings s.db worker.claim result activated ids =
          .ok (s.db.setAttempt (unavailableAttempt attempt ids.now), "provider_unavailable") := by
        rw [hres, ← hrecord]
        cases error <;> first | rfl | exact absurd rfl herror
      unfold State.finishCallerPut
      rw [hfound]
      dsimp only
      rw [if_pos hcalled, hcommit]
      rfl
    rw [hstep] at h
    have hrow : unavailableAttempt attempt ids.now ∈
        (s.returned id (s.db.setAttempt (unavailableAttempt attempt ids.now))).db.attempts :=
      Table.mem_replace_self hmem rfl
    obtain ⟨-, hinv⟩ := hcust.called _ (worker_mem hfound) hcalled
    obtain ⟨claim, hclaim, hsame, -, hlt⟩ := h _ hrow rfl _ hinv hid.symm
    have hfound' : s.db.attempt attempt.id = some attempt := hid ▸ fenced_attempt hfence
    obtain ⟨-, hle⟩ := hcust.issued.le hfound' hclaim hsame
    have hlater : worker.claim.generation < claim.generation := hlt
    omega
  | _ => trivial

/-- Custody of the writes of a state: two puts of one attempt have an observed absence between them, a
late worker changes nothing, and a terminal attempt stays as it is with its evidence. -/
structure WritesInCustody (s : State) : Prop where
  separated : s.invocations.Pairwise (fun first second => first.1 = second.1 →
    Between s.db first.1 (min first.2 second.2) (max first.2 second.2))
  late : ∀ id worker, s.worker id = some worker → ¬Current s.db worker.claim →
    ∀ a, ReturnOf id a → (step s a).db = s.db
  absorbed : ∀ attempt ∈ s.db.attempts, attempt.status.IsTerminal →
    ∀ later, (run step s later).db.attempt attempt.id = some attempt
  confirmed : ∀ attempt ∈ s.db.attempts, attempt.status = .objectConfirmed →
    s.db.confirmations attempt.id = 1 ∧ (attempt.isGuide = false → s.db.initialJobs attempt.id = 1)

theorem Custody.separated (h : Custody s) : s.invocations.Pairwise (fun first second =>
    first.1 = second.1 → Between s.db first.1 (min first.2 second.2) (max first.2 second.2)) := by
  refine h.once.imp_of_mem (fun {first second} hfirst hsecond hne hsame => ?_)
  obtain ⟨claim, hclaim, hkey, hmode⟩ := h.invoked first hfirst
  obtain ⟨claim', hclaim', hkey', hmode'⟩ := h.invoked second hsecond
  have hatt : claim.attemptId = first.1 := congrArg Prod.fst hkey
  have hgen : claim.generation = first.2 := congrArg Prod.snd hkey
  have hatt' : claim'.attemptId = second.1 := congrArg Prod.fst hkey'
  have hgen' : claim'.generation = second.2 := congrArg Prod.snd hkey'
  have hids : claim.attemptId = claim'.attemptId := by rw [hatt, hatt', hsame]
  rcases lt_trichotomy first.2 second.2 with hlt | heq | hlt
  · rw [min_eq_left hlt.le, max_eq_right hlt.le, ← hatt, ← hgen, ← hgen']
    exact h.issued.separated claim hclaim claim' hclaim' hids hmode hmode' (by omega)
  · exact absurd (Prod.ext hsame heq) hne
  · rw [min_eq_right hlt.le, max_eq_left hlt.le, ← hatt, ← hgen, ← hgen', hids]
    exact h.issued.separated claim' hclaim' claim hclaim hids.symm hmode' hmode (by omega)

theorem Absorbs.trans {first second third : Database} (h : Absorbs first second)
    (h' : Absorbs second third) : Absorbs first third :=
  fun id attempt hatt hterm => h' id attempt (h id attempt hatt hterm) hterm

theorem absorbs_run (hs : s.Booked) (actions : List Action) : Absorbs s.db (run step s actions).db :=
  run_relates (R := fun s s' : State => Absorbs s.db s'.db) hs (fun s a hs => hs.stepped (stepped_step s a))
    (fun _ => absorbs_of_eq rfl) (fun _ _ _ hfirst hsecond => hfirst.trans hsecond)
    (fun s a _ => (stepped_step s a).writes.absorbs) actions

theorem Custody.writes (h : Custody s) (hs : s.Booked) : WritesInCustody s where
  separated := h.separated
  late := fun id worker hfound hclaim a hret => db_of_late hfound hclaim hret (stepped_step s a)
  absorbed := fun attempt hatt hterm later =>
    absorbs_run hs later attempt.id attempt (Table.find_of_mem hs.db.attemptIds hatt) hterm
  confirmed := fun attempt hatt hstat => by
    rw [h.evidenced.confirmations attempt hatt, if_pos hstat]
    refine ⟨rfl, fun hguide => ?_⟩
    rw [h.evidenced.initialJobs attempt hatt, if_pos ⟨hstat, hguide⟩]

/-- The writes of every reachable state are in custody, and an attempt ends as unavailable only after a
later observation all along a run if and only if no caller of the run spends the last observation. -/
theorem put_custody (actions : List Action) :
    WritesInCustody (run step State.initial actions) ∧
      ((∀ earlier later, actions = earlier ++ later → UnavailableObserved (run step State.initial earlier)) ↔
        ∀ earlier a later, actions = earlier ++ a :: later → Watched (run step State.initial earlier) a) := by
  have hinitial : State.initial.Booked ∧ Custody State.initial := ⟨booked_initial, custody_initial⟩
  have hstep : ∀ s a, State.Booked s ∧ Custody s → (step s a).Booked ∧ Custody (step s a) :=
    fun s a hs => ⟨hs.1.stepped (stepped_step s a), hs.2.stepped hs.1 (stepped_step s a)⟩
  have hreached := run_invariant (I := fun s => State.Booked s ∧ Custody s) hinitial hstep actions
  refine ⟨hreached.2.writes hreached.1, ?_⟩
  have hended : EndedObserving State.initial := fun _ h => absurd h List.not_mem_nil
  exact run_safe_iff (I := fun s => State.Booked s ∧ Custody s) EndedObserving UnavailableObserved
    hinitial hstep hended
    (fun s hs hended => hended.unavailableObserved hs.1 hs.2)
    (fun s a hs hended hwatched => hended.stepped hs.1 hs.2 (stepped_step s a) hwatched)
    (fun s a hs _ hobs => watched_of_unavailableObserved hs.2 a hobs) actions

def spentRun : List Action :=
  [.admitArtifact { sampleAdmission "first" "one" "c1" with maximumObservations := 1 },
    .claimPut 0 (sampleClaim "first" "observer" .observation 0 0),
    .finishObservation 0 ⟨30, 3⟩ (.ok none) (.error .objectMissing) true ⟨"k1", "r1", "o1", "j1", 1⟩,
    .claimPut 1 (sampleClaim "first" "caller" .callerPut 1 2),
    .callProvider 1,
    .finishCallerPut 1 ⟨30, 3⟩ (.error .unavailable) true ⟨"k2", "r2", "o2", "j2", 3⟩]

/-- The attempt ends as unavailable, and nobody looks whether the object was written. -/
theorem unavailableObserved_spentRun :
    ¬UnavailableObserved (run step State.initial spentRun) ∧
      (run step State.initial spentRun).db.attempts.map (·.status) = [.providerUnavailable] ∧
      (run step State.initial spentRun).invocations = [("first", 2)] ∧
      (run step State.initial spentRun).claims.map (fun claim => (claim.generation, claim.mode)) =
        [(1, .observation), (2, .callerPut)] := by
  decide +kernel

end Workstream.Storage
