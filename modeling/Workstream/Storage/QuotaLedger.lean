import Workstream.Storage.Effects
import Workstream.Storage.Ledger

/-!
# The quota ledger under every interleaving

The counters are exact in every reachable state.
-/

namespace Workstream.Storage
open Foundation

variable {ledger ledger' : Ledger} {db db' : Database} {claim : PutClaim} {attemptId id replicaId : Uuid}
  {now : ℕ} {ref : String} {jobClaim : JobClaim} {a : Action}

@[simp] theorem mem_linkedIds : id ∈ ledger.linkedIds attemptId ↔ (attemptId, id) ∈ ledger.links := by
  simp [Ledger.linkedIds]

structure Evolves (ledger ledger' : Ledger) : Prop where
  sound : ledger'.Sound
  links : ledger'.links = ledger.links
  present : ∀ id state, ledger.stateOf id = some state → ∃ state', ledger'.stateOf id = some state'
  completed : ∀ id, ledger.stateOf id = some .completed → ledger'.stateOf id = some .completed

/-- Moreover no charge is released. -/
structure Keeps (ledger ledger' : Ledger) : Prop extends Evolves ledger ledger' where
  counts : ∀ id, ledger.Counts id → ledger'.Counts id

theorem Keeps.refl (h : ledger.Sound) : Keeps ledger ledger where
  sound := h
  links := rfl
  present := fun _ state hstate => ⟨state, hstate⟩
  completed := fun _ hstate => hstate
  counts := fun _ hcounts => hcounts

theorem Raises.keeps (h : Raises ledger ledger') (hledger : ledger.Sound) : Keeps ledger ledger' where
  sound := h.sound hledger
  links := h.links
  present := fun id state hstate => by
    rcases h.states hledger id state hstate with hsame | ⟨-, hmoved⟩
    · exact ⟨state, hsame⟩
    · exact ⟨.provisional, hmoved⟩
  completed := fun id hstate => by
    rcases h.states hledger id .completed hstate with hsame | ⟨hno, -⟩
    · exact hsame
    · cases hno
  counts := fun _ hcounts => h.counts hledger hcounts

section Loops

variable {body : Ledger → Uuid → Except Failure Ledger} {change : ChargeState → ChargeState}
  {ids : List Uuid}

theorem Moves.evolves (h : Moves body change) (hchange : change .completed = .completed)
    (hledger : ledger.Sound) (hloop : ids.foldlM body ledger = .ok ledger') : Evolves ledger ledger' := by
  obtain ⟨hsound, hlinks, hstates⟩ := h.loop hledger hloop
  refine ⟨hsound, hlinks, fun id state hstate => ?_, fun id hstate => ?_⟩
  · rw [hstates id, hstate]
    split
    · exact ⟨change state, rfl⟩
    · exact ⟨state, rfl⟩
  · rw [hstates id, hstate]
    split
    · exact congrArg some hchange
    · rfl

theorem Moves.keeps (h : Moves body change) (hchange : change .completed = .completed)
    (hact : ∀ state, state ≠ .released → change state ≠ .released)
    (hledger : ledger.Sound) (hloop : ids.foldlM body ledger = .ok ledger') : Keeps ledger ledger' := by
  refine ⟨h.evolves hchange hledger hloop, fun id hcounts => ?_⟩
  obtain ⟨-, -, hstates⟩ := h.loop hledger hloop
  obtain ⟨state, hstate, hne⟩ := hcounts
  have hnow := hstates id
  rw [hstate] at hnow
  split at hnow
  · exact ⟨change state, hnow, hact state hne⟩
  · exact ⟨state, hnow, hne⟩

end Loops

theorem keeps_completeCharges {observed : Bool} (hledger : ledger.Sound)
    (h : completeCharges ledger claim observed now = .ok ledger') : Keeps ledger ledger' := by
  unfold completeCharges at h
  split at h
  · refine (moves_complete now).keeps rfl (fun state hstate => ?_) hledger h
    cases state with
    | provisional => nofun
    | completed => nofun
    | released => exact absurd rfl hstate
  · exact (moves_completeSeen now).keeps rfl (fun _ _ => nofun) hledger h

/-- An observer completes the charges that count. -/
theorem completeCharges_observed (hledger : ledger.Sound)
    (h : completeCharges ledger claim true now = .ok ledger')
    (hid : id ∈ ledger.linkedIds claim.attemptId) :
    ledger'.stateOf id = (ledger.stateOf id).map ChargeState.completedFrom := by
  obtain ⟨-, -, hstates⟩ := (moves_complete now).loop hledger h
  rw [hstates id, if_pos hid]

theorem completeCharges_seen (hledger : ledger.Sound)
    (h : completeCharges ledger claim false now = .ok ledger') (hid : id ∈ claim.seen)
    {state : ChargeState} (hstate : ledger.stateOf id = some state) :
    ledger'.stateOf id = some .completed := by
  obtain ⟨-, -, hstates⟩ := (moves_completeSeen now).loop hledger h
  rw [hstates id, if_pos hid, hstate]
  rfl

/-- The ledger is sound, and its links lead to attempts and charges. -/
structure Booked (db : Database) : Prop where
  sound : db.ledger.Sound
  attemptIds : (db.attempts.map (·.id)).Nodup
  attempts : ∀ link ∈ db.ledger.links, link.1 ∈ db.attempts.map (·.id)
  charges : ∀ link ∈ db.ledger.links, ∃ state, db.ledger.stateOf link.2 = some state

def Trusts (db : Database) (claim : PutClaim) : Prop :=
  claim.attemptId ∈ db.attempts.map (·.id) ∧ (claim.mode = .callerPut →
    ∀ id ∈ db.ledger.linkedIds claim.attemptId, id ∉ claim.seen → db.ledger.stateOf id = some .completed)

structure Follows (db db' : Database) : Prop where
  ids : db'.attempts.map (·.id) = db.attempts.map (·.id)
  ledger : Evolves db.ledger db'.ledger

theorem Follows.booked (h : Follows db db') (hdb : Booked db) : Booked db' where
  sound := h.ledger.sound
  attemptIds := h.ids ▸ hdb.attemptIds
  attempts := fun link hlink => by
    rw [h.ledger.links] at hlink
    exact h.ids ▸ hdb.attempts link hlink
  charges := fun link hlink => by
    rw [h.ledger.links] at hlink
    obtain ⟨state, hstate⟩ := hdb.charges link hlink
    exact h.ledger.present link.2 state hstate

theorem Follows.trusts (h : Follows db db') (hclaim : Trusts db claim) : Trusts db' claim := by
  refine ⟨h.ids ▸ hclaim.1, fun hmode id hid hseen => ?_⟩
  rw [mem_linkedIds, h.ledger.links] at hid
  exact h.ledger.completed id (hclaim.2 hmode id (mem_linkedIds.mpr hid) hseen)

theorem follows_of_eq (hdb : Booked db) (hledger : db'.ledger = db.ledger)
    (hatts : db'.attempts = db.attempts) : Follows db db' := by
  refine ⟨by rw [hatts], ?_⟩
  rw [hledger]
  exact (Keeps.refl hdb.sound).toEvolves

abbrev ArtifactPutAttempt.Stored (attempt : ArtifactPutAttempt) : Prop :=
  attempt.status = .objectConfirmed ∨ attempt.status = .integrityMismatch

abbrev ArtifactPutAttempt.Writing (attempt : ArtifactPutAttempt) : Prop :=
  attempt.status = .putInFlight ∧ attempt.executionMode = some .callerPut

def storedAnswers : List String :=
  ["document_stored", "observed_confirmed", "stored_pending_verification", "integrity_mismatch"]

theorem confirmedStatus_mem (guide observed : Bool) : confirmedStatus guide observed ∈ storedAnswers := by
  cases guide <;> cases observed <;> decide

inductive Settles (ledger : Ledger) (claim : PutClaim) (observed : Bool) (row : ArtifactPutAttempt)
    (answer : String) (ledger' : Ledger) : Prop
  | same (unchanged : ledger' = ledger) (notStored : ¬row.Stored) (other : answer ∉ storedAnswers)
      (present : answer ≠ "missing")
  | released (now : ℕ) (isObserved : observed = true)
      (loop : (ledger.linkedIds claim.attemptId).foldlM (Ledger.release now) ledger = .ok ledger')
      (notStored : ¬row.Stored) (missing : answer = "missing")
  | completed (now : ℕ) (loop : completeCharges ledger claim observed now = .ok ledger')
      (stored : row.Stored ↔ answer ∈ storedAnswers) (present : answer ≠ "missing")

theorem addConfirmation_frame {attempt : ArtifactPutAttempt} {replayed observed : Bool}
    (h : addConfirmation db attempt replicaId ref replayed observed id = .ok db') :
    db'.ledger = db.ledger ∧ db'.attempts = db.attempts := by
  unfold addConfirmation at h
  split at h
  · obtain ⟨-, rfl⟩ := addObservationReceipt_eq_ok h
    exact ⟨rfl, rfl⟩
  · obtain ⟨-, rfl⟩ := addOperationReceipt_eq_ok h
    exact ⟨rfl, rfl⟩

theorem addInitialJob_frame {attempt : ArtifactPutAttempt} {maximumAttempts : ℕ}
    (h : addInitialJob db attempt replicaId id maximumAttempts = .ok db') :
    db'.ledger = db.ledger ∧ db'.attempts = db.attempts := by
  unfold addInitialJob at h
  split at h
  · obtain rfl := pure_eq_ok.mp h
    exact ⟨rfl, rfl⟩
  · obtain ⟨-, rfl⟩ := addVerificationJob_eq_ok h
    exact ⟨rfl, rfl⟩

theorem Stores.frame {sha256 : String} {byteCount : ℕ} {states : ReplicaStates}
    {content : ArtifactContent} {replica : ArtifactReplica}
    (h : Stores db sha256 byteCount ref states db' content replica) :
    db'.ledger = db.ledger ∧ db'.attempts = db.attempts := by
  rw [h.rest]
  exact ⟨rfl, rfl⟩

theorem Leaves.frame {attempt : ArtifactPutAttempt} (h : Leaves db db' attempt) :
    db'.ledger = db.ledger ∧ db'.attempts = db.attempts := by
  rcases h with rfl | ⟨_, _, _, _, -, hstores⟩
  · exact ⟨rfl, rfl⟩
  · exact hstores.frame

theorem PutEnd.settles {observed : Bool} {attempt : ArtifactPutAttempt} {answer : String}
    (h : PutEnd db claim observed attempt db' answer) :
    ∃ row : ArtifactPutAttempt, row.id = attempt.id ∧ row.status ≠ .putInFlight ∧
      db'.attempts = Table.replace ArtifactPutAttempt.id db.attempts row ∧
      Settles db.ledger claim observed row answer db'.ledger := by
  cases h with
  | unavailable force now =>
    exact ⟨unavailableAttempt attempt now, rfl, nofun, rfl,
      .same rfl (by rintro (h | h) <;> cases h) (by decide) (by decide)⟩
  | unknown force nextRunAt =>
    exact ⟨unknownAttempt attempt nextRunAt, rfl, nofun, rfl,
      .same rfl (by rintro (h | h) <;> cases h) (by decide) (by decide)⟩
  | absent ids ledger middle hobs hloop hrcpt =>
    obtain ⟨-, rfl⟩ := addObservationReceipt_eq_ok hrcpt
    exact ⟨absentAttempt attempt ids.now, rfl, nofun, rfl,
      .released ids.now hobs hloop (by rintro (h | h) <;> cases h) rfl⟩
  | confirmed ids ref replayed maximumAttempts ledger stored evidenced last content replica hloop hstores _
      hrcpt hjob =>
    obtain ⟨hledger, hatts⟩ := hstores.frame
    obtain ⟨hledger', hatts'⟩ := addConfirmation_frame hrcpt
    obtain ⟨hledger'', hatts''⟩ := addInitialJob_frame hjob
    refine ⟨confirmedAttempt attempt replica.id observed ids, rfl, nofun, ?_,
      .completed ids.now ?_ ⟨fun _ => confirmedStatus_mem _ _, fun _ => .inl rfl⟩ ?_⟩
    · exact congrArg (Table.replace ArtifactPutAttempt.id · _) (hatts''.trans (hatts'.trans hatts))
    · rw [hloop]
      exact congrArg Except.ok (hledger''.trans (hledger'.trans hledger)).symm
    · cases attempt.isGuide <;> cases observed <;> decide
  | mismatch ids ref read ledger stored middle content replica hobs hloop hstores _ hrcpt =>
    subst hobs
    obtain ⟨hledger, hatts⟩ := hstores.frame
    obtain ⟨-, rfl⟩ := addObservationReceipt_eq_ok hrcpt
    refine ⟨mismatchAttempt { attempt with replicaId := some replica.id } ids.now, rfl, nofun,
      congrArg (Table.replace ArtifactPutAttempt.id · _) hatts,
      .completed ids.now ?_ ⟨fun _ => by decide, fun _ => .inr rfl⟩ (by decide)⟩
    rw [hloop]
    exact congrArg Except.ok hledger.symm
  | conflict ids ledger stored middle replicaId hloop hleaves hrcpt =>
    obtain ⟨hledger, hatts⟩ := hleaves.frame
    obtain ⟨-, rfl⟩ := addObservationReceipt_eq_ok hrcpt
    refine ⟨conflictAttempt { attempt with replicaId } ids.now, rfl, nofun,
      congrArg (Table.replace ArtifactPutAttempt.id · _) hatts,
      .completed ids.now ?_ ⟨?_, fun h => absurd h (by decide)⟩ (by decide)⟩
    · rw [hloop]
      exact congrArg Except.ok hledger.symm
    · rintro (h | h) <;> cases h

theorem Settles.evolves {observed : Bool} {row : ArtifactPutAttempt} {answer : String}
    (h : Settles ledger claim observed row answer ledger') (hledger : ledger.Sound) :
    Evolves ledger ledger' := by
  cases h with
  | same hsame => exact hsame ▸ (Keeps.refl hledger).toEvolves
  | released now _ hloop => exact (moves_release now).evolves rfl hledger hloop
  | completed now hloop => exact (keeps_completeCharges hledger hloop).toEvolves

theorem PutReturns.follows {observed : Bool} {answer : String}
    (h : PutReturns db claim observed db' answer) (hdb : Booked db) : Follows db db' := by
  rcases h with ⟨-, rfl, -⟩ | ⟨attempt, -, hend⟩
  · exact follows_of_eq hdb rfl rfl
  · obtain ⟨row, -, -, hatts, hsettles⟩ := hend.settles
    exact ⟨by rw [hatts]; exact Table.map_key_replace _ _, hsettles.evolves hdb.sound⟩

theorem Claims.keeps {request : ClaimRequest} {attempt : ArtifactPutAttempt}
    (h : Claims db request attempt db' claim) (hledger : db.ledger.Sound) : Keeps db.ledger db'.ledger := by
  cases hmode : request.mode with
  | observation =>
    rw [(h.observer hmode).1]
    exact Keeps.refl hledger
  | callerPut =>
    refine moves_reacquire.keeps rfl (fun state hstate => ?_) hledger (h.caller hmode).1
    cases state with
    | provisional => nofun
    | completed => nofun
    | released => exact absurd rfl hstate

theorem Claims.attempts_eq {request : ClaimRequest} {attempt : ArtifactPutAttempt}
    (h : Claims db request attempt db' claim) :
    db'.attempts = Table.replace ArtifactPutAttempt.id db.attempts (claimed attempt request) := by
  rw [h.rows]
  rfl

theorem Claims.follows {request : ClaimRequest} {attempt : ArtifactPutAttempt}
    (h : Claims db request attempt db' claim) (hdb : Booked db) : Follows db db' := by
  refine ⟨?_, (h.keeps hdb.sound).toEvolves⟩
  rw [h.attempts_eq]
  exact Table.map_key_replace _ _

/-- After the claim of a caller every charge of the attempt counts. -/
theorem Claims.counts {request : ClaimRequest} {attempt : ArtifactPutAttempt}
    (h : Claims db request attempt db' claim) (hdb : Booked db) (hmode : request.mode = .callerPut)
    (hid : id ∈ db'.ledger.linkedIds request.attemptId) : db'.ledger.Counts id := by
  obtain ⟨-, hlinks, hstates⟩ := moves_reacquire.loop hdb.sound (h.caller hmode).1
  rw [mem_linkedIds, hlinks] at hid
  obtain ⟨state, hstate⟩ := hdb.charges _ hid
  have hnow := hstates id
  rw [if_pos (mem_linkedIds.mpr hid), hstate] at hnow
  refine ⟨_, hnow, ?_⟩
  cases state <;> nofun

theorem Claims.trusts {request : ClaimRequest} {attempt : ArtifactPutAttempt}
    (h : Claims db request attempt db' claim) (hdb : Booked db) : Trusts db' claim := by
  obtain ⟨seen, hclaim⟩ := h.claim_eq
  have hmem : request.attemptId ∈ db'.attempts.map (·.id) := by
    rw [(h.follows hdb).ids]
    obtain ⟨hin, hid⟩ := Table.find_eq_some h.found
    exact List.mem_map.mpr ⟨attempt, hin, hid⟩
  refine ⟨by rw [hclaim]; exact hmem, fun hmode id hid hseen => ?_⟩
  rw [hclaim] at hmode
  obtain ⟨-, rfl⟩ := h.caller hmode
  obtain ⟨state, hstate, hact⟩ := h.counts hdb hmode hid
  cases state with
  | completed => exact hstate
  | released => exact absurd rfl hact
  | provisional =>
    obtain ⟨charge, hcharge, hprovisional⟩ := Option.map_eq_some_iff.mp hstate
    obtain ⟨hin, rfl⟩ := charge_eq_some hcharge
    refine absurd ?_ hseen
    refine List.mem_map.mpr ⟨charge, List.mem_filter.mpr ⟨List.mem_filter.mpr ⟨hin, ?_⟩, ?_⟩, rfl⟩
    · exact decide_eq_true (mem_linkedIds.mp hid)
    · exact decide_eq_true hprovisional

theorem raises_ensureScopes (specs : List ScopeSpec) (ledger : Ledger) :
    Raises ledger (specs.foldl Ledger.ensureScope ledger) := by
  induction specs generalizing ledger with
  | nil => exact Raises.refl ledger
  | cons spec specs ih => exact (raises_ensureScope ledger spec).trans (ih (ledger.ensureScope spec))

/-- The charges of an admission, before its links are added. -/
theorem admitArtifact_charges {request : AdmissionRequest} (hledger : db.ledger.Sound)
    (h : admitArtifact db request = .ok (db', id)) :
    ∃ ledger charges, Keeps db.ledger ledger ∧ (∀ charge ∈ charges, ledger.Counts charge) ∧
      Admits db request ledger charges db' := by
  obtain ⟨ledger, charges, hresv, hadm⟩ := admitArtifact_eq_ok h
  have hscopes := raises_ensureScopes (deriveScopes request.limits request.facts) db.ledger
  obtain ⟨hraises, hcounts⟩ := raises_reserveCharges hresv
  exact ⟨ledger, charges, (hscopes.trans hraises).keeps hledger, hcounts (hscopes.sound hledger), hadm⟩

section Admission

variable {request : AdmissionRequest} {charges : List Uuid}

/-- The links of the attempts that were there are those they had. -/
theorem Admits.linkedIds_eq (h : Admits db request ledger charges db')
    (hlinks : ledger.links = db.ledger.links) (hatt : attemptId ∈ db.attempts.map (·.id)) :
    db'.ledger.linkedIds attemptId = db.ledger.linkedIds attemptId := by
  cases h with
  | replayed => rw [Ledger.linkedIds, Ledger.linkedIds, hlinks]
  | created hfresh =>
    have hempty : (charges.map (fun charge => (request.attemptId, charge))).filter
        (fun link => link.1 = attemptId) = [] := by
      rw [List.filter_eq_nil_iff]
      intro link hlink heq
      obtain ⟨charge, -, rfl⟩ := List.mem_map.mp hlink
      obtain ⟨attempt, hin, hid⟩ := List.mem_map.mp hatt
      exact Table.find_eq_none.mp hfresh attempt hin (hid.trans (of_decide_eq_true heq).symm)
    rw [Ledger.linkedIds, Ledger.linkedIds, List.filter_append, hlinks, hempty, List.append_nil]

theorem Admits.stateOf_eq (h : Admits db request ledger charges db') (id : Uuid) :
    db'.ledger.stateOf id = ledger.stateOf id := by
  cases h <;> rfl

theorem Admits.ids_subset (h : Admits db request ledger charges db') :
    db.attempts.map (·.id) ⊆ db'.attempts.map (·.id) := by
  cases h with
  | replayed => exact List.Subset.refl _
  | created _ =>
    rw [List.map_append]
    exact List.subset_append_left _ _

theorem Admits.trusts (h : Admits db request ledger charges db') (hkeeps : Keeps db.ledger ledger)
    (hclaim : Trusts db claim) : Trusts db' claim := by
  refine ⟨h.ids_subset hclaim.1, fun hmode id hid hseen => ?_⟩
  rw [h.linkedIds_eq hkeeps.links hclaim.1] at hid
  rw [h.stateOf_eq]
  exact hkeeps.completed id (hclaim.2 hmode id hid hseen)

theorem Admits.booked (h : Admits db request ledger charges db') (hkeeps : Keeps db.ledger ledger)
    (hcharges : ∀ charge ∈ charges, ledger.Counts charge) (hdb : Booked db) : Booked db' := by
  have hpresent : ∀ link ∈ ledger.links, ∃ state, ledger.stateOf link.2 = some state := by
    intro link hlink
    rw [hkeeps.links] at hlink
    obtain ⟨state, hstate⟩ := hdb.charges link hlink
    exact hkeeps.present link.2 state hstate
  have hids := h.ids_subset
  cases h with
  | replayed =>
    exact ⟨hkeeps.sound, hdb.attemptIds, fun link hlink => hdb.attempts link (hkeeps.links ▸ hlink), hpresent⟩
  | created hfresh =>
    have hnew : request.attemptId ∉ db.attempts.map (·.id) := Table.not_mem_of_find_eq_none hfresh
    refine ⟨{ hkeeps.sound with }, Table.nodup_append hdb.attemptIds hnew, fun link hlink => ?_,
      fun link hlink => ?_⟩
    · rcases List.mem_append.mp hlink with hlink | hlink
      · exact hids (hdb.attempts link (hkeeps.links ▸ hlink))
      · obtain ⟨charge, -, rfl⟩ := List.mem_map.mp hlink
        exact List.mem_map.mpr ⟨newAttempt request, List.mem_concat_self, rfl⟩
    · rcases List.mem_append.mp hlink with hlink | hlink
      · exact hpresent link hlink
      · obtain ⟨charge, hcharge, rfl⟩ := List.mem_map.mp hlink
        obtain ⟨state, hstate, -⟩ := hcharges charge hcharge
        exact ⟨state, hstate⟩

end Admission

theorem JobReturns.frame {read : Except StoreError (String × ℕ)} (h : JobReturns db jobClaim read db') :
    db'.ledger = db.ledger ∧ db'.attempts = db.attempts := by
  rcases h with ⟨-, rfl⟩ | ⟨_, _, _, -, hend⟩
  · exact ⟨rfl, rfl⟩
  · cases hend <;> exact ⟨rfl, rfl⟩

theorem Retries.frame (h : Retries db db') : db'.ledger = db.ledger ∧ db'.attempts = db.attempts := by
  rcases h with rfl | ⟨_, _, _, _, _, _, -, -, -, -, -, rfl⟩ <;> exact ⟨rfl, rfl⟩

/-- The books, and what the workers have read of them. -/
structure State.Booked (s : State) : Prop where
  db : Storage.Booked s.db
  workers : ∀ worker ∈ s.workers, Trusts s.db worker.2.claim ∧
    (worker.2.called = true → worker.2.claim.mode = .callerPut)

variable {s : State}

theorem worker_mem {id : ℕ} {worker : PutWorker} (h : s.worker id = some worker) :
    (id, worker) ∈ s.workers := by
  obtain ⟨⟨_, _⟩, hfind, rfl⟩ := Option.map_eq_some_iff.mp h
  obtain ⟨hmem, rfl⟩ := Table.find_eq_some hfind
  exact hmem

theorem booked_initial : State.initial.Booked where
  db := {
    sound := ⟨List.nodup_nil, List.nodup_nil, List.nodup_nil, fun _ h => absurd h List.not_mem_nil,
      fun _ h => absurd h List.not_mem_nil, fun _ h => absurd h List.not_mem_nil,
      fun _ h => absurd h List.not_mem_nil⟩
    attemptIds := List.nodup_nil
    attempts := fun _ h => absurd h List.not_mem_nil
    charges := fun _ h => absurd h List.not_mem_nil }
  workers := fun _ h => absurd h List.not_mem_nil

variable {s' : State}

theorem State.Booked.follow (h : s.Booked) (hfollows : Follows s.db s'.db)
    (hworkers : ∀ worker ∈ s'.workers, worker ∈ s.workers ∨ Trusts s'.db worker.2.claim ∧
      (worker.2.called = true → worker.2.claim.mode = .callerPut)) : s'.Booked where
  db := hfollows.booked h.db
  workers := fun worker hworker => by
    rcases hworkers worker hworker with hold | hnew
    · exact ⟨hfollows.trusts (h.workers worker hold).1, (h.workers worker hold).2⟩
    · exact hnew

theorem mem_withoutWorker {id : ℕ} {worker : ℕ × PutWorker} (h : worker ∈ (s.withoutWorker id).workers) :
    worker ∈ s.workers :=
  (List.mem_filter.mp h).1

theorem State.Booked.stepped (h : s.Booked) (hstep : Stepped s a s') : s'.Booked := by
  have hsame : Follows s.db s.db := follows_of_eq h.db rfl rfl
  cases hstep with
  | quiet _ workers verifiers hworkers =>
    exact h.follow hsame (fun worker hworker => .inl (hworkers.subset hworker))
  | admitted request db id hcommit =>
    obtain ⟨ledger, charges, hkeeps, hcharges, hadm⟩ := admitArtifact_charges h.db.sound hcommit
    exact ⟨hadm.booked hkeeps hcharges h.db,
      fun worker hworker => ⟨hadm.trusts hkeeps (h.workers worker hworker).1, (h.workers worker hworker).2⟩⟩
  | claimedPut id request db claim _ hclaim =>
    obtain ⟨attempt, hclaims⟩ := claimPut_eq_some hclaim
    refine h.follow (hclaims.follows h.db) (fun worker hworker => ?_)
    rcases Table.mem_append hworker with hworker | rfl
    · exact .inl hworker
    · exact .inr ⟨hclaims.trusts h.db, nofun⟩
  | called id worker hfound hmode _ =>
    refine h.follow hsame (fun other hother => ?_)
    rcases Table.mem_append hother with hother | rfl
    · exact .inl (mem_withoutWorker hother)
    · exact .inr ⟨(h.workers _ (worker_mem hfound)).1, fun _ => hmode⟩
  | callerReturned id settings result activated ids worker db answer _ _ hret =>
    exact h.follow ((finishCallerPut_returns hret).follows h.db)
      (fun other hother => .inl (mem_withoutWorker hother))
  | observerReturned id settings observation read activated ids worker db answer _ _ hret =>
    exact h.follow ((finishObservation_returns hret).follows h.db)
      (fun other hother => .inl (mem_withoutWorker hother))
  | claimedVerification id request db claim hclaim =>
    obtain ⟨_, -, -, -, rfl, -, -⟩ := claimVerificationJob_eq_some hclaim
    exact h.follow (follows_of_eq h.db rfl rfl) (fun _ hworker => .inl hworker)
  | verifierReturned id settings read activated published receiptId now claim db answer _ hret =>
    obtain ⟨hledger, hatts⟩ := (finishVerification_returns hret).frame
    exact h.follow (follows_of_eq h.db hledger hatts) (fun _ hworker => .inl hworker)
  | retried request authorized ids db recovery hretry =>
    obtain ⟨hledger, hatts⟩ := (retryVerification_eq_ok hretry).frame
    exact h.follow (follows_of_eq h.db hledger hatts) (fun _ hworker => .inl hworker)

/-- The charges of a stored object are completed, and those of a write in flight count. -/
def Safe (db : Database) (attempt : ArtifactPutAttempt) : Prop :=
  (attempt.Stored → ∀ id ∈ db.ledger.linkedIds attempt.id, db.ledger.stateOf id = some .completed) ∧
    (attempt.Writing → ∀ id ∈ db.ledger.linkedIds attempt.id, db.ledger.Counts id)

/-- The charges of every attempt are safe. -/
def Kept (db : Database) : Prop := ∀ attempt ∈ db.attempts, Safe db attempt

variable {attempt : ArtifactPutAttempt}

theorem Safe.keeps (h : Safe db attempt) (hkeeps : Keeps db.ledger ledger')
    (hlinks : db'.ledger.linkedIds attempt.id = db.ledger.linkedIds attempt.id)
    (hstates : ∀ id, db'.ledger.stateOf id = ledger'.stateOf id) : Safe db' attempt := by
  refine ⟨fun hstored id hid => ?_, fun hwriting id hid => ?_⟩
  · rw [hlinks] at hid
    rw [hstates]
    exact hkeeps.completed id (h.1 hstored id hid)
  · rw [hlinks] at hid
    obtain ⟨state, hstate, hact⟩ := hkeeps.counts id (h.2 hwriting id hid)
    exact ⟨state, (hstates id).trans hstate, hact⟩

theorem linkedIds_of_links (h : ledger'.links = ledger.links) (attemptId : Uuid) :
    ledger'.linkedIds attemptId = ledger.linkedIds attemptId := by
  rw [Ledger.linkedIds, Ledger.linkedIds, h]

theorem Kept.claims {request : ClaimRequest} (h : Kept db) (hdb : Booked db)
    (hclaims : Claims db request attempt db' claim) : Kept db' := by
  have hkeeps := hclaims.keeps hdb.sound
  intro other hother
  rw [hclaims.attempts_eq] at hother
  rcases Table.mem_replace hother with rfl | ⟨hother, -⟩
  · refine ⟨?_, fun hwriting id hid => ?_⟩
    · rintro (hstat | hstat) <;> cases hstat
    · have hatt : attempt.id = request.attemptId := (Table.find_eq_some hclaims.found).2
      refine hclaims.counts hdb (Option.some.inj hwriting.2) ?_
      exact hatt ▸ hid
  · exact (h other hother).keeps hkeeps (linkedIds_of_links hkeeps.links _) (fun _ => rfl)

theorem Kept.admits {request : AdmissionRequest} {charges : List Uuid} (h : Kept db)
    (hadm : Admits db request ledger charges db') (hkeeps : Keeps db.ledger ledger) : Kept db' := by
  have hold : ∀ other ∈ db.attempts, Safe db' other := fun other hother =>
    (h other hother).keeps hkeeps
      (hadm.linkedIds_eq hkeeps.links (List.mem_map.mpr ⟨other, hother, rfl⟩)) hadm.stateOf_eq
  cases hadm with
  | replayed => exact hold
  | created _ =>
    intro other hother
    rcases Table.mem_append hother with hother | rfl
    · exact hold other hother
    · refine ⟨?_, fun hwriting => absurd hwriting.1 nofun⟩
      rintro (hstat | hstat) <;> cases hstat

theorem Kept.of_eq (h : Kept db) (hledger : db'.ledger = db.ledger) (hatts : db'.attempts = db.attempts) :
    Kept db' := by
  intro other hother
  rw [hatts] at hother
  unfold Safe
  rw [hledger]
  exact h other hother

theorem fenced_eq_some (h : db.fenced claim = some attempt) :
    attempt ∈ db.attempts ∧ attempt.id = claim.attemptId ∧ attempt.Fenced claim := by
  unfold Database.fenced at h
  split at h
  · rename_i found hfound
    split at h
    · rename_i hfence
      obtain rfl := Option.some.inj h
      obtain ⟨hmem, hid⟩ := Table.find_eq_some hfound
      exact ⟨hmem, hid, hfence⟩
    · cases h
  · cases h

/-- What a terminal answer may do to charges that others rely on: a released charge serves no write in
flight, and no charge of a stored object has been released. -/
def SparesAnswer (db : Database) (attempt : ArtifactPutAttempt) (answer : String) : Prop :=
  (answer = "missing" → ∀ other ∈ db.attempts, other.id ≠ attempt.id → other.Writing →
    ∀ id ∈ db.ledger.linkedIds attempt.id, id ∈ db.ledger.linkedIds other.id →
      db.ledger.stateOf id ≠ some .provisional) ∧
  (answer ∈ storedAnswers → ∀ id ∈ db.ledger.linkedIds attempt.id, db.ledger.stateOf id ≠ some .released)

section Settlement

variable {observed : Bool} {answer : String} {row : ArtifactPutAttempt}

/-- The charges of the attempt whose bytes have been found or acknowledged. -/
theorem Settles.stored (h : Settles db.ledger claim observed row answer ledger') (hdb : Booked db)
    (hatt : attempt.id = claim.attemptId) (hstored : row.Stored)
    (hcaller : observed = false → Trusts db claim ∧ claim.mode = .callerPut)
    (hobs : observed = true → SparesAnswer db attempt answer) (hid : id ∈ db.ledger.linkedIds attempt.id) :
    ledger'.stateOf id = some .completed := by
  cases h with
  | same _ hnot | released _ _ _ hnot => exact absurd hstored hnot
  | completed now hloop hiff _ =>
    obtain ⟨state, hstate⟩ := hdb.charges _ (mem_linkedIds.mp hid)
    cases observed with
    | true =>
      have hact := (hobs rfl).2 (hiff.mp hstored) id hid
      rw [completeCharges_observed hdb.sound hloop (hatt ▸ hid), hstate]
      rw [hstate] at hact
      cases state with
      | provisional => rfl
      | completed => rfl
      | released => exact absurd rfl hact
    | false =>
      obtain ⟨⟨-, htrust⟩, hmode⟩ := hcaller rfl
      by_cases hseen : id ∈ claim.seen
      · exact completeCharges_seen hdb.sound hloop hseen hstate
      · exact (keeps_completeCharges hdb.sound hloop).completed id (htrust hmode id (hatt ▸ hid) hseen)

/-- The charges of another write in flight. -/
theorem Settles.counts (h : Settles db.ledger claim observed row answer ledger') (hdb : Booked db)
    (hatt : attempt.id = claim.attemptId) (hobs : observed = true → SparesAnswer db attempt answer)
    {other : ArtifactPutAttempt} (hother : other ∈ db.attempts) (hne : other.id ≠ attempt.id)
    (hwriting : other.Writing) (hid : id ∈ db.ledger.linkedIds other.id) (hcounts : db.ledger.Counts id) :
    ledger'.Counts id := by
  cases h with
  | same hsame => exact hsame ▸ hcounts
  | completed now hloop => exact (keeps_completeCharges hdb.sound hloop).counts id hcounts
  | released now hobserved hloop _ hmissing =>
    obtain ⟨-, -, hstates⟩ := (moves_release now).loop hdb.sound hloop
    obtain ⟨state, hstate, hact⟩ := hcounts
    have hnow := hstates id
    rw [hstate] at hnow
    split at hnow
    · rename_i hlinked
      have hspared := (hobs hobserved).1 hmissing other hother hne hwriting id (hatt ▸ hlinked) hid
      cases state with
      | provisional => exact absurd hstate hspared
      | completed => exact ⟨.completed, hnow, nofun⟩
      | released => exact absurd rfl hact
    · exact ⟨state, hnow, hact⟩

theorem Kept.ends (h : Kept db) (hdb : Booked db) (hfence : db.fenced claim = some attempt)
    (hend : PutEnd db claim observed attempt db' answer)
    (hcaller : observed = false → Trusts db claim ∧ claim.mode = .callerPut)
    (hobs : observed = true → SparesAnswer db attempt answer) : Kept db' := by
  obtain ⟨-, hatt, -⟩ := fenced_eq_some hfence
  obtain ⟨row, hrow, hflight, hatts, hsettles⟩ := hend.settles
  have hevolves := hsettles.evolves hdb.sound
  intro other hother
  rw [hatts] at hother
  unfold Safe
  rw [linkedIds_of_links hevolves.links]
  rcases Table.mem_replace hother with rfl | ⟨hother, hne⟩
  · refine ⟨fun hstored id hid => ?_, fun hwriting => absurd hwriting.1 hflight⟩
    exact hsettles.stored hdb hatt hstored hcaller hobs (hrow ▸ hid)
  · refine ⟨fun hstored id hid => hevolves.completed id ((h other hother).1 hstored id hid), ?_⟩
    intro hwriting id hid
    exact hsettles.counts hdb hatt hobs hother (hrow ▸ hne) hwriting hid
      ((h other hother).2 hwriting id hid)

end Settlement

/-- Every attempt that is confirmed, mismatched or in flight as a caller's write has all of its charges
provisional or completed. -/
abbrev StoredCharged (db : Database) : Prop :=
  ∀ attempt ∈ db.attempts, attempt.Stored ∨ attempt.Writing →
    ∀ id ∈ db.ledger.linkedIds attempt.id, ∃ charge ∈ db.ledger.charge id,
      charge.state = .provisional ∨ charge.state = .completed

theorem counts_iff : ledger.Counts id ↔ ∃ charge ∈ ledger.charge id,
    (charge.state = .provisional ∨ charge.state = .completed) := by
  constructor
  · rintro ⟨state, hstate, hact⟩
    obtain ⟨charge, hcharge, rfl⟩ := Option.map_eq_some_iff.mp hstate
    refine ⟨charge, hcharge, ?_⟩
    cases hcase : charge.state with
    | provisional => exact .inl rfl
    | completed => exact .inr rfl
    | released => exact absurd hcase hact
  · rintro ⟨charge, hcharge, hstate⟩
    refine ⟨charge.state, by rw [Ledger.stateOf, hcharge]; rfl, ?_⟩
    rcases hstate with hstate | hstate <;> rw [hstate] <;> simp

theorem Kept.storedCharged (h : Kept db) : StoredCharged db := by
  rintro attempt hatt (hstored | hwriting) id hid
  · exact counts_iff.mp ⟨.completed, (h attempt hatt).1 hstored id hid, nofun⟩
  · exact counts_iff.mp ((h attempt hatt).2 hwriting id hid)

/-- An observation that others did not bear leaves a charge released. -/
theorem PutEnd.spares {answer : String} (hdb : Booked db) (hfence : db.fenced claim = some attempt)
    (hend : PutEnd db claim true attempt db' answer) (h : StoredCharged db') :
      SparesAnswer db attempt answer := by
  obtain ⟨hmem, hatt, -⟩ := fenced_eq_some hfence
  obtain ⟨row, hrow, -, hatts, hsettles⟩ := hend.settles
  have hlinks := linkedIds_of_links (hsettles.evolves hdb.sound).links
  constructor
  · rintro hmissing other hother hne hwriting id hid hlinked hprovisional
    cases hsettles with
    | same _ _ _ hpresent | completed _ _ _ hpresent => exact hpresent hmissing
    | released now _ hloop =>
      obtain ⟨-, -, hstates⟩ := (moves_release now).loop hdb.sound hloop
      have hnow := hstates id
      rw [if_pos (hatt ▸ hid), hprovisional] at hnow
      have hin : other ∈ db'.attempts := by
        rw [hatts]
        exact Table.mem_replace_of_ne hother (hrow ▸ hne)
      obtain ⟨state, hstate, hact⟩ := counts_iff.mpr
        (h other hin (.inr hwriting) id (by rw [hlinks]; exact hlinked))
      exact hact (Option.some.inj (hstate.symm.trans hnow))
  · intro hanswer id hid hrel
    cases hsettles with
    | same _ _ hother => exact hother hanswer
    | released _ _ _ _ hmissing => exact absurd (hmissing ▸ hanswer) (by decide)
    | completed now hloop hstored =>
      have hnow := completeCharges_observed hdb.sound hloop (hatt ▸ hid)
      rw [hrel] at hnow
      have hin : row ∈ db'.attempts := by
        rw [hatts]
        exact Table.mem_replace_self hmem hrow.symm
      obtain ⟨state, hstate, hact⟩ := counts_iff.mpr
        (h row hin (.inl (hstored.mpr hanswer)) id (by rw [hlinks, hrow]; exact hid))
      exact hact (Option.some.inj (hstate.symm.trans hnow))

/-- What the provider's answer means for the charges of an attempt: where the object is absent, no
provisional charge of the attempt serves another write in flight; where it is found, none of its charges
has been released. -/
def Spares (db : Database) (attempt : ArtifactPutAttempt) : Observed → Prop
  | .absent => ∀ other ∈ db.attempts, other.id ≠ attempt.id → other.Writing →
    ∀ id ∈ db.ledger.linkedIds attempt.id, id ∈ db.ledger.linkedIds other.id →
      db.ledger.stateOf id ≠ some .provisional
  | .confirmed _ | .mismatch _ _ _ =>
    ∀ id ∈ db.ledger.linkedIds attempt.id, db.ledger.stateOf id ≠ some .released
  | .conflict | .unavailable _ => True

/-- The rows of the terminal transaction are accepted, and the object is of the attempt's content. -/
def Closes (settings : Settings) (db : Database) (claim : PutClaim) (observed : Observed)
    (ids : TerminalIds) : Prop :=
  ∃ db' answer, finishObservation settings db claim observed true ids = .ok (db', answer) ∧
    answer ≠ "conflict"

section Answers

variable {settings : Settings} {answer : String} {ids : TerminalIds}

theorem sparesAnswer_of_ne (hmissing : answer ≠ "missing") (hstored : answer ∉ storedAnswers) :
    SparesAnswer db attempt answer :=
  ⟨fun h => absurd h hmissing, fun h => absurd h hstored⟩

theorem sparesAnswer_unavailable {force : Bool} {scanInterval : ℕ}
    (hfence : db.fenced claim = some attempt)
    (h : recordPutUnavailable db claim force scanInterval now = (db', answer)) :
    SparesAnswer db attempt answer := by
  simp only [recordPutUnavailable, hfence] at h
  split at h
  all_goals
    obtain ⟨rfl, rfl⟩ := Prod.mk.inj h
    exact sparesAnswer_of_ne (by decide) (by decide)

theorem sparesAnswer_stored (hstored : answer ∈ storedAnswers) :
    SparesAnswer db attempt answer ↔
      ∀ id ∈ db.ledger.linkedIds attempt.id, db.ledger.stateOf id ≠ some .released := by
  refine ⟨fun h => h.2 hstored, fun h => ⟨fun hmissing => ?_, fun _ => h⟩⟩
  exact absurd (hmissing ▸ hstored) (by decide)

/-- The answer of a terminal transaction that is no conflict says what the provider answered. -/
theorem sparesAnswer_iff {observed : Observed} (hfence : db.fenced claim = some attempt)
    (h : finishObservation settings db claim observed true ids = .ok (db', answer))
    (hclosed : answer ≠ "conflict") : SparesAnswer db attempt answer ↔ Spares db attempt observed := by
  cases observed with
  | confirmed =>
    simp only [finishObservation, completeTransactionB, hfence, bind_eq_ok] at h
    obtain ⟨ledger, -, ⟨middle, content⟩, -, ⟨stored, replica⟩, -, h⟩ := h
    dsimp only at h
    split at h
    · simp only [eq_ok] at h
      obtain ⟨-, -, -, -, -, rfl⟩ := h
      exact sparesAnswer_stored (confirmedStatus_mem _ _)
    · exact absurd (conflictPut_eq_ok h).1 hclosed
  | absent =>
    simp only [finishObservation, recordPutAbsence, hfence, eq_ok] at h
    obtain ⟨-, -, -, -, -, rfl⟩ := h
    exact ⟨fun h => h.1 rfl, fun h => ⟨fun _ => h, fun hstored => absurd hstored (by decide)⟩⟩
  | mismatch =>
    simp only [finishObservation, recordPutMismatch, hfence, bind_eq_ok] at h
    obtain ⟨ledger, -, ⟨middle, content⟩, -, ⟨stored, replica⟩, -, h⟩ := h
    dsimp only [mismatchPut] at h
    split at h
    · simp only [eq_ok] at h
      obtain ⟨-, -, -, rfl⟩ := h
      exact sparesAnswer_stored (by decide)
    · exact absurd (conflictPut_eq_ok h).1 hclosed
  | conflict =>
    simp only [finishObservation, recordPutConflict, hfence, bind_eq_ok] at h
    obtain ⟨ledger, -, h⟩ := h
    exact absurd (conflictPut_eq_ok h).1 hclosed
  | unavailable force =>
    exact iff_of_true (sparesAnswer_unavailable hfence (pure_eq_ok.mp h)) trivial

end Answers

/-- The steps that leave the charges of others alone: only the terminal transaction of an observation
can fail to. -/
def Covered (s : State) : Action → Prop
  | .finishObservation id settings observation read activated ids =>
    ∀ worker attempt, s.worker id = some worker → worker.claim.mode = .observation →
      s.db.fenced worker.claim = some attempt → activated = true →
      Closes settings s.db worker.claim (observed s.db worker.claim observation read) ids →
      Spares s.db attempt (observed s.db worker.claim observation read)
  | _ => True

theorem Kept.stepped (h : Kept s.db) (hs : s.Booked) (hstep : Stepped s a s') (hcov : Covered s a) :
    Kept s'.db := by
  cases hstep with
  | quiet => exact h
  | called => exact h
  | admitted request db id hcommit =>
    obtain ⟨ledger, charges, hkeeps, -, hadm⟩ := admitArtifact_charges hs.db.sound hcommit
    exact h.admits hadm hkeeps
  | claimedPut id request db claim _ hclaim =>
    obtain ⟨attempt, hclaims⟩ := claimPut_eq_some hclaim
    exact h.claims hs.db hclaims
  | callerReturned id settings result activated ids worker db answer hfound hcalled hret =>
    obtain ⟨htrusts, hmode⟩ := hs.workers _ (worker_mem hfound)
    rcases finishCallerPut_returns hret with ⟨-, rfl, -⟩ | ⟨attempt, hfence, hend⟩
    · exact h
    · exact h.ends hs.db hfence hend (fun _ => ⟨htrusts, hmode hcalled⟩) nofun
  | observerReturned id settings observation read activated ids worker db answer hfound hmode hret =>
    rcases finishObservation_returns hret with ⟨-, rfl, -⟩ | ⟨attempt, hfence, hend⟩
    · exact h
    · refine h.ends hs.db hfence hend (by simp) (fun _ => ?_)
      by_cases hclosed : answer = "conflict"
      · exact hclosed ▸ sparesAnswer_of_ne (by decide) (by decide)
      cases activated with
      | true =>
        exact (sparesAnswer_iff hfence hret hclosed).mpr
          (hcov worker attempt hfound hmode hfence rfl ⟨db, answer, hret, hclosed⟩)
      | false =>
        cases hobserved : observed s.db worker.claim observation read <;> rw [hobserved] at hret <;>
          exact sparesAnswer_unavailable hfence (pure_eq_ok.mp hret)
  | claimedVerification id request db claim hclaim =>
    obtain ⟨_, -, -, -, rfl, -, -⟩ := claimVerificationJob_eq_some hclaim
    exact h.of_eq rfl rfl
  | verifierReturned id settings read activated published receiptId now claim db answer _ hret =>
    obtain ⟨hledger, hatts⟩ := (finishVerification_returns hret).frame
    exact h.of_eq hledger hatts
  | retried request authorized ids db recovery hretry =>
    obtain ⟨hledger, hatts⟩ := (retryVerification_eq_ok hretry).frame
    exact h.of_eq hledger hatts

theorem covered_of_storedCharged (hs : s.Booked) (a : Action) (h : StoredCharged (step s a).db) :
    Covered s a := by
  cases a with
  | finishObservation id settings observation read activated ids =>
    rintro worker attempt hfound hmode hfence rfl ⟨db, answer, hret, hclosed⟩
    have hstep : (step s (.finishObservation id settings observation read true ids)).db = db := by
      show (s.finishObservation id settings observation read true ids).db = db
      unfold State.finishObservation
      rw [hfound]
      dsimp only
      rw [if_pos hmode, hret]
      rfl
    rw [hstep] at h
    rcases finishObservation_returns hret with ⟨hnone, -, -⟩ | ⟨found, hsome, hend⟩
    · exact absurd (hnone.symm.trans hfence) nofun
    · obtain rfl := Option.some.inj (hsome.symm.trans hfence)
      exact (sparesAnswer_iff hfence hret hclosed).mp (hend.spares hs.db hfence h)
  | _ => trivial

/-- Each counter is the sum of the provisional and the completed charges of its scope, a content is
charged at most once in a scope, and no counter is above its limit. -/
structure LedgerExact (ledger : Ledger) : Prop where
  once : (ledger.charges.map (·.content)).Nodup
  counted : ∀ scope ∈ ledger.scopes, scope.countedBytes =
    ((ledger.charges.filter (fun charge => charge.scope = scope.key ∧
      (charge.state = .provisional ∨ charge.state = .completed))).map (·.byteCount)).sum
  within : ∀ scope ∈ ledger.scopes, scope.countedBytes ≤ scope.limitBytes

theorem Ledger.Sound.exact (h : ledger.Sound) : LedgerExact ledger where
  once := h.contents
  counted := fun scope hscope => by
    rw [h.counted scope hscope, Table.sum_filter_eq, held]
    congr 1
    apply List.map_congr_left
    intro charge _
    have hstates : charge.state ≠ .released ↔ charge.state = .provisional ∨ charge.state = .completed := by
      cases charge.state <;> simp
    simp only [ArtifactAdmissionCharge.weight, hstates, decide_eq_true_eq]
  within := h.within

/-- The ledger is exact in every reachable state, and the bytes of stored objects and of writes in
flight are charged all along a run if and only if no observation of the run takes a charge from others. -/
theorem quota_ledger_exact (actions : List Action) :
    LedgerExact (run step State.initial actions).db.ledger ∧
      ((∀ earlier later, actions = earlier ++ later → StoredCharged (run step State.initial earlier).db) ↔
        ∀ earlier a later, actions = earlier ++ a :: later → Covered (run step State.initial earlier) a) := by
  have hstep : ∀ s a, State.Booked s → (step s a).Booked := fun s a hs => hs.stepped (stepped_step s a)
  refine ⟨(run_invariant booked_initial hstep actions).db.sound.exact, ?_⟩
  have hinitial : Kept State.initial.db := fun _ h => absurd h List.not_mem_nil
  exact run_safe_iff (fun s => Kept s.db) (fun s => StoredCharged s.db) booked_initial hstep hinitial
    (fun s _ hkept => hkept.storedCharged)
    (fun s a hs hkept hcov => hkept.stepped hs (stepped_step s a) hcov)
    (fun s a hs _ hcharged => covered_of_storedCharged hs a hcharged) actions

def sampleAdmission (operation project charge : String) : AdmissionRequest where
  facts := {
    requestType := .submissionBundle, producerType := .actorProfile, producerRef := project
    projectId := project, taskId := none, submissionId := none, operationIdentity := operation
    requestDigest := operation, sha256 := "sha256:0a", byteCount := 10 }
  limits := ⟨100, 100, 100, 100⟩
  maximumObservations := 3
  attemptId := operation
  chargeIds := [charge ++ "-d", charge ++ "-a", charge ++ "-p"]

def sampleClaim (operation executor : String) (mode : ExecutionMode) (generation now : ℕ) : ClaimRequest :=
  ⟨operation, executor, mode, generation, ("sha256:0a", 10), 60, now⟩

/-- While the first project writes, the object is observed for the second one and found absent; the
first write is acknowledged to nobody and later observed. -/
def sampleRun : List Action :=
  [.admitArtifact (sampleAdmission "first" "one" "c1"),
    .admitArtifact (sampleAdmission "second" "two" "c2"),
    .claimPut 0 (sampleClaim "first" "caller" .callerPut 0 0),
    .callProvider 0,
    .claimPut 1 (sampleClaim "second" "observer" .observation 0 1),
    .finishObservation 1 ⟨30, 3⟩ (.ok none) (.error .objectMissing) true ⟨"k1", "r1", "o1", "j1", 2⟩,
    .claimPut 2 (sampleClaim "first" "observer" .observation 1 100),
    .finishObservation 2 ⟨30, 3⟩ (.ok (some "sha256/0a")) (.ok ("sha256:0a", 10)) true
      ⟨"k2", "r2", "o2", "j2", 101⟩]

/-- The charge of the deployment is released under the write in flight, and stays released when the
object is confirmed. -/
theorem storedCharged_sampleRun :
    ¬StoredCharged (run step State.initial (sampleRun.take 6)).db ∧
      ¬StoredCharged (run step State.initial sampleRun).db ∧
      (run step State.initial sampleRun).db.attempts.map (fun attempt => (attempt.id, attempt.status)) =
        [("first", .objectConfirmed), ("second", .absentReplayRequired)] ∧
      ((run step State.initial sampleRun).db.ledger.scope (.deployment, "primary")).map
        (·.countedBytes) = some 0 := by
  decide +kernel

end Workstream.Storage
