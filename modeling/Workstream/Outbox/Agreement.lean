import Workstream.Outbox.History

/-!
# Finalizations of one attempt agree

Any number of workers finalize one claim with any causes. One of them writes the receipt; every call
that returns, returns the receipt in the row, and its cause leads to the stored outcome at the stored
time.
-/

namespace Workstream.Outbox
open Foundation

variable {sha256 : String → String} {d : OutboxDelivery} {facts : EventFacts} {s s' : State}
  {rows : Custody} {cause : FinalizationCause} {receipt : DeliveryReceipt} {claim : OutboxClaim}
  {invokedAt : Option Nat} {value : Outcome} {worker readAt : Nat}

/-- The cause leads to this outcome at the outcome's own time, given the attempt's marker. -/
def LeadsTo (d : OutboxDelivery) (facts : EventFacts) (claim : OutboxClaim) (invokedAt : Option Nat)
    (cause : FinalizationCause) (value : Outcome) : Prop :=
  outcome claim invokedAt cause value.receiptCompletedAt
    (d.optionsFor facts.eventType facts.eventVersion)
    (d.registry.canRetryUnknown facts.eventType facts.eventVersion) = .ok value

structure Holds (a : OutboxDeliveryAttempt) (receipt : DeliveryReceipt) : Prop where
  completed : a.stage = .completed
  claim_eq : a.toClaimFields = receipt.claim.toClaimFields
  json : a.outcomeJson = some receipt.outcomeJson
  digest : a.outcomeDigest = some receipt.outcomeDigest

variable (sha256 d facts)

def Settled (rows : Custody) (cause : FinalizationCause) (receipt : DeliveryReceipt) : Prop :=
  ∃ a ∈ rows.attempts, Holds a receipt ∧
    ∃ value, receipt = receiptOf sha256 receipt.claim value ∧
      LeadsTo d facts receipt.claim a.invokedAt cause value

def Proposed (cause : FinalizationCause) (proposal : Proposal) : Prop :=
  proposal.options = d.optionsFor facts.eventType facts.eventVersion ∧
    proposal.retryUnknown = d.registry.canRetryUnknown facts.eventType facts.eventVersion ∧
    ∃ value, proposal.receipt = receiptOf sha256 proposal.receipt.claim value ∧
      LeadsTo d facts proposal.receipt.claim proposal.invokedAt cause value

def Entry.written : Entry → Option Nat
  | .finalized _ receipt _ => some receipt.claim.claimGeneration
  | _ => none

/-- Writers and callers of finalizations in the history of a state. -/
structure Agreement (s : State) : Prop where
  writtenOnce : (s.log.filterMap Entry.written).Nodup
  stored : ∀ worker receipt cause, .finalized worker receipt cause ∈ s.log →
    ∃ a ∈ s.rows.attempts, Holds a receipt
  returned : ∀ worker claim cause receipt, .returned worker claim cause receipt ∈ s.log →
    receipt.claim = claim ∧ Settled sha256 d facts s.rows cause receipt

/-- The calls that are under way. -/
structure Calls (s : State) : Prop where
  proposing : ∀ worker cause proposal readAt, s.tasks worker = .proposing cause proposal readAt →
    Proposed sha256 d facts cause proposal
  replaying : ∀ worker cause proposal stored readAt,
    s.tasks worker = .replaying cause proposal stored readAt →
    Settled sha256 d facts s.rows cause stored

theorem agreement_start : Agreement sha256 d facts (start facts) where
  writtenOnce := by simp [start]
  stored := by simp [start]
  returned := by simp [start]

theorem calls_start : Calls sha256 d facts (start facts) where
  proposing := by simp [start]
  replaying := by simp [start]

variable {sha256 d facts}

theorem Settled.persists {rows' : Custody} (hrows : Persists rows rows')
    (h : Settled sha256 d facts rows cause receipt) : Settled sha256 d facts rows' cause receipt := by
  obtain ⟨a, ha, hholds, hvalue⟩ := h
  obtain ⟨a', ha', -, -, hsame⟩ := hrows a ha
  obtain rfl := hsame hholds.completed
  exact ⟨a', ha', hholds, hvalue⟩

theorem Agreement.next (h : Agreement sha256 d facts s) {s' : State} {entries : List Entry}
    (hrows : Persists s.rows s'.rows) (hlog : s'.log = s.log ++ entries)
    (honce : (s.log.filterMap Entry.written ++ entries.filterMap Entry.written).Nodup)
    (hstored : ∀ worker receipt cause, .finalized worker receipt cause ∈ entries →
      ∃ a ∈ s'.rows.attempts, Holds a receipt)
    (hreturned : ∀ worker claim cause receipt, .returned worker claim cause receipt ∈ entries →
      receipt.claim = claim ∧ Settled sha256 d facts s'.rows cause receipt) :
    Agreement sha256 d facts s' := by
  refine ⟨?_, ?_, ?_⟩
  · rw [hlog, List.filterMap_append]
    exact honce
  · intro worker receipt cause hentry
    rw [hlog] at hentry
    rcases List.mem_append.mp hentry with hold | hnew
    · obtain ⟨a, ha, hholds⟩ := h.stored worker receipt cause hold
      obtain ⟨a', ha', -, -, hsame⟩ := hrows a ha
      obtain rfl := hsame hholds.completed
      exact ⟨a', ha', hholds⟩
    · exact hstored worker receipt cause hnew
  · intro worker claim cause receipt hentry
    rw [hlog] at hentry
    rcases List.mem_append.mp hentry with hold | hnew
    · obtain ⟨hclaim, hsettled⟩ := h.returned worker claim cause receipt hold
      exact ⟨hclaim, hsettled.persists hrows⟩
    · exact hreturned worker claim cause receipt hnew

theorem Agreement.quiet (h : Agreement sha256 d facts s) {entries : List Entry}
    (hrows : Persists s.rows s'.rows) (hlog : s'.log = s.log ++ entries)
    (hfinalized : ∀ worker receipt cause, .finalized worker receipt cause ∉ entries)
    (hreturned : ∀ worker claim cause receipt, .returned worker claim cause receipt ∉ entries) :
    Agreement sha256 d facts s' := by
  have hnone : entries.filterMap Entry.written = [] := by
    rw [List.filterMap_eq_nil_iff]
    intro e he
    cases e with
    | finalized worker receipt cause => exact absurd he (hfinalized worker receipt cause)
    | _ => rfl
  refine h.next hrows hlog ?_ ?_ ?_
  · rw [hnone, List.append_nil]
    exact h.writtenOnce
  · intro worker receipt cause hentry
    exact absurd hentry (hfinalized worker receipt cause)
  · intro worker claim cause receipt hentry
    exact absurd hentry (hreturned worker claim cause receipt)

/-- The first receipt of an attempt: no earlier entry wrote one for its generation. -/
theorem Agreement.finalized (h : Agreement sha256 d facts s) (hhistory : History sha256 d facts s)
    {worker : Nat} {receipt : DeliveryReceipt} {cause : FinalizationCause}
    {attempt : OutboxDeliveryAttempt} {value : Outcome} {decisionId : Uuid} {i : TxInput} {t : Nat}
    (hfound : s.rows.findAttempt receipt.claim = some attempt)
    (hfin : Finalizes sha256 d receipt cause s.rows.event attempt value decisionId i)
    (hrows : Persists s.rows (s.rows.apply (finalizeWrite s.rows.event attempt receipt value
      decisionId))) :
    Agreement sha256 d facts (((s.commit (finalizeWrite s.rows.event attempt receipt value decisionId)
      t).setTask worker .idle).record
        [.finalized worker receipt cause, .returned worker receipt.claim cause receipt]) := by
  obtain ⟨hmem, hgen⟩ := Custody.findAttempt_eq_some hfound
  have hrow := hfin.row
  obtain ⟨htype, hver⟩ := hhistory.event_eq
  rw [htype, hver] at hrow
  have hnew : (finalizeWrite s.rows.event attempt receipt value decisionId).attempt ∈
      (s.rows.apply (finalizeWrite s.rows.event attempt receipt value decisionId)).attempts :=
    Table.mem_replace_self hmem rfl
  have hholds : Holds (finalizeWrite s.rows.event attempt receipt value decisionId).attempt receipt :=
    ⟨rfl, (claimFromAttempt_eq_some.mp hfin.claim_eq).symm, rfl, rfl⟩
  refine h.next hrows rfl ?_ ?_ ?_
  · have hentries : [Entry.finalized worker receipt cause,
        .returned worker receipt.claim cause receipt].filterMap Entry.written =
        [receipt.claim.claimGeneration] := rfl
    rw [hentries, List.nodup_append]
    refine ⟨h.writtenOnce, List.nodup_singleton _, ?_⟩
    intro g hg g' hg' hsame
    obtain rfl := List.mem_singleton.mp hg'
    obtain ⟨e, he, hwritten⟩ := List.mem_filterMap.mp hg
    cases e with
    | finalized worker' receipt' cause' =>
      obtain ⟨a, ha, hold⟩ := h.stored worker' receipt' cause' he
      have hagen : a.claimGeneration = receipt'.claim.claimGeneration := by rw [hold.claim_eq]
      have hg : receipt'.claim.claimGeneration = g := Option.some.inj hwritten
      have hsame := hhistory.custody.eq_of_generation ha hmem (by omega)
      exact hfin.unfinished (hsame ▸ hold.completed)
    | _ => cases hwritten
  · intro worker' receipt' cause' hentry
    simp only [List.mem_cons, Entry.finalized.injEq, reduceCtorEq, List.not_mem_nil, or_false] at hentry
    obtain ⟨-, rfl, -⟩ := hentry
    exact ⟨_, hnew, hholds⟩
  · intro worker' claim' cause' receipt' hentry
    simp only [List.mem_cons, Entry.returned.injEq, reduceCtorEq, List.not_mem_nil, or_false,
      false_or] at hentry
    obtain ⟨-, rfl, rfl, rfl⟩ := hentry
    exact ⟨rfl, _, hnew, hholds, value, hfin.receipt_eq, outcome_eq_ok_iff.mpr hrow⟩

theorem Calls.next (h : Calls sha256 d facts s) {s' : State} {worker : Nat} {task : Task}
    (hrows : Persists s.rows s'.rows) (htasks : s'.tasks = (s.setTask worker task).tasks)
    (hproposing : ∀ cause proposal readAt, task = .proposing cause proposal readAt →
      Proposed sha256 d facts cause proposal)
    (hreplaying : ∀ cause proposal stored readAt, task = .replaying cause proposal stored readAt →
      Settled sha256 d facts s'.rows cause stored) : Calls sha256 d facts s' := by
  refine ⟨?_, ?_⟩
  · intro w cause proposal readAt htask
    rw [htasks, setTask_tasks] at htask
    split at htask
    · exact hproposing cause proposal readAt htask
    · exact h.proposing w cause proposal readAt htask
  · intro w cause proposal stored readAt htask
    rw [htasks, setTask_tasks] at htask
    split at htask
    · exact hreplaying cause proposal stored readAt htask
    · exact (h.replaying w cause proposal stored readAt htask).persists hrows

/-- A cause that leads to the stored outcome from any marker does so from the attempt's own one: the
stored text names it. -/
theorem LeadsTo.of_stored (hhistory : History sha256 d facts s) {a : OutboxDeliveryAttempt}
    (ha : a ∈ s.rows.attempts) (hstage : a.stage = .completed)
    (hjson : a.outcomeJson = some (encode value)) (h : LeadsTo d facts claim invokedAt cause value) :
    LeadsTo d facts claim a.invokedAt cause value := by
  obtain ⟨claim', cause', value', hrec⟩ := hhistory.recorded a ha hstage
  have hsame : value' = value := by
    rw [hrec.json] at hjson
    exact encode_injective (Option.some.inj hjson)
  have hmark := hrec.row.invokedAt_eq
  have hmark' := (outcome_eq_ok_iff.mp h).invokedAt_eq
  rw [← hmark, hsame, hmark']
  exact h

theorem settled_of_stored (hhistory : History sha256 d facts s) {attempt : OutboxDeliveryAttempt}
    (hmem : attempt ∈ s.rows.attempts) {stored : DeliveryReceipt}
    (hclaim : claimFromAttempt attempt = some claim) (hstage : attempt.stage = .completed)
    (hstored : storedReceipt claim attempt = some stored) (hjson : stored.outcomeJson = encode value)
    (hleads : LeadsTo d facts claim invokedAt cause value) :
    Settled sha256 d facts s.rows cause stored := by
  obtain ⟨hsame, hrowJson, hrowDigest⟩ := storedReceipt_eq_some hstored
  subst hsame
  obtain ⟨claim', cause', value', hrec⟩ := hhistory.recorded attempt hmem hstage
  have hvalue : value' = value := by
    rw [hrec.json, hjson] at hrowJson
    exact encode_injective (Option.some.inj hrowJson)
  have hdig : stored.outcomeDigest = digestOf sha256 (encode value) := by
    rw [hrec.digest, hvalue] at hrowDigest
    exact (Option.some.inj hrowDigest).symm
  have hfields := (claimFromAttempt_eq_some.mp hclaim).symm
  refine ⟨attempt, hmem, ⟨hstage, hfields, hrowJson, hrowDigest⟩, value, ?_, ?_⟩
  · rw [← hjson] at hdig
    rw [receiptOf, ← hjson, ← hdig]
  · exact hleads.of_stored hhistory hmem hstage (hrowJson.trans (congrArg some hjson))

theorem StepTo.agreement (hstep : StepTo sha256 d s s') (hhistory : History sha256 d facts s)
    (hcalls : Calls sha256 d facts s) (h : Agreement sha256 d facts s) :
    Agreement sha256 d facts s' := by
  have hrows := hstep.persists hhistory
  cases hstep with
  | stay => exact h
  | quit hfail =>
    refine h.quiet hrows rfl ?_ ?_
    · intro worker receipt cause hentry
      cases hfail _ hentry
    · intro worker claim cause receipt hentry
      cases hfail _ hentry
  | claimRead | recoverRead | proposed | lostRace =>
    exact h.quiet hrows (List.append_nil _).symm (by simp) (by simp)
  | claimed | invoked | handlerEnded | finalizeCalled | effect =>
    exact h.quiet hrows rfl (by simp) (by simp)
  | @replayed worker cause proposal readAt receipt attempt htask hfound hclaim hstage hstored =>
    have hmem := (Custody.findAttempt_eq_some hfound).1
    have hsettled : Settled sha256 d facts s.rows cause receipt := by
      rcases htask with ⟨htask, rfl⟩ | htask
      · obtain ⟨-, -, value, hrcpt, hleads⟩ := hcalls.proposing worker cause proposal readAt htask
        have hjson : proposal.receipt.outcomeJson = encode value := by rw [hrcpt]; rfl
        exact settled_of_stored hhistory hmem hclaim hstage hstored hjson hleads
      · exact hcalls.replaying worker cause proposal receipt readAt htask
    have hnone : [Entry.returned worker receipt.claim cause receipt].filterMap Entry.written = [] := rfl
    refine h.next hrows rfl (by simpa only [hnone, List.append_nil] using h.writtenOnce) (by simp) ?_
    intro worker' claim' cause' receipt' hentry
    simp only [List.mem_singleton, Entry.returned.injEq] at hentry
    obtain ⟨-, rfl, rfl, rfl⟩ := hentry
    exact ⟨rfl, hsettled⟩
  | finalized htask hfound hfin => exact h.finalized hhistory hfound hfin hrows

theorem StepTo.calls (hstep : StepTo sha256 d s s') (hhistory : History sha256 d facts s)
    (h : Calls sha256 d facts s) : Calls sha256 d facts s' := by
  have hrows := hstep.persists hhistory
  cases hstep with
  | stay => exact h
  | @proposed worker claim cause readAt now proposal htask hnow hread =>
    refine h.next hrows rfl ?_ (by simp)
    intro cause' proposal' readAt' heq
    injection heq with hcause hprop
    subst hcause hprop
    obtain ⟨event, attempt, value, hevent, -, -, hprop, hrow, -⟩ := finalizeRead_eq_ok hread
    obtain ⟨rfl, -⟩ := Custody.findEvent_eq_some hevent
    obtain ⟨htype, hver⟩ := hhistory.event_eq
    rw [htype, hver] at hprop hrow
    subst hprop
    exact ⟨rfl, rfl, value, rfl, outcome_eq_ok_iff.mpr hrow⟩
  | @lostRace worker cause proposal readAt now stored attempt htask hfound hclaim hstage hstored hafter =>
    refine h.next hrows rfl (by simp) ?_
    intro cause' proposal' stored' readAt' heq
    injection heq with hcause hprop hstored'
    subst hcause hstored'
    have hmem := (Custody.findAttempt_eq_some hfound).1
    obtain ⟨hoptions, hretry, -⟩ := h.proposing worker cause proposal readAt htask
    obtain ⟨-, value, hjson, hrow⟩ := afterCompleted_eq_ok hafter
    rw [hoptions, hretry] at hrow
    exact settled_of_stored hhistory hmem hclaim hstage hstored hjson (outcome_eq_ok_iff.mpr hrow)
  | effect => exact ⟨h.proposing, h.replaying⟩
  | _ => exact h.next hrows rfl (by simp) (by simp)

theorem finalizeTx_of_completed {receipt stored : DeliveryReceipt} {cause : FinalizationCause}
    {found : Option OutboxEvent} {attempt : OutboxDeliveryAttempt} {i : TxInput}
    (hclaim : claimFromAttempt attempt = some receipt.claim) (hstage : attempt.stage = .completed)
    (hstored : storedReceipt receipt.claim attempt = some stored) :
    finalizeTx sha256 d receipt cause found (some attempt) i = .raised unavailable ∨
      (stored = receipt ∧
        finalizeTx sha256 d receipt cause found (some attempt) i = .replayed stored) ∨
      (stored ≠ receipt ∧
        finalizeTx sha256 d receipt cause found (some attempt) i =
          .completedDuringFinalization stored) := by
  cases hauth : i.authority with
  | refused => exact .inl (by simp [finalizeTx, hauth])
  | denied =>
    cases found with
    | none => exact .inl (by simp [finalizeTx, hauth])
    | some event =>
      by_cases hsame : stored = receipt
      · exact .inl (by simp [finalizeTx, finalizeReplay, hauth, hclaim, hstage, hstored, hsame])
      · exact .inr (.inr ⟨hsame, by
          simp [finalizeTx, finalizeReplay, hauth, hclaim, hstage, hstored, hsame]⟩)
  | allowed =>
    cases found with
    | none => exact .inl (by simp [finalizeTx, hauth])
    | some event =>
      by_cases hsame : stored = receipt
      · exact .inr (.inl ⟨hsame, by
          simp [finalizeTx, finalizeReplay, hauth, hclaim, hstage, hstored, hsame]⟩)
      · exact .inr (.inr ⟨hsame, by
          simp [finalizeTx, finalizeReplay, hauth, hclaim, hstage, hstored, hsame]⟩)

theorem Custody.findAttempt_of_mem {a : OutboxDeliveryAttempt}
    (huniq : (rows.attempts.map fun a => a.claimGeneration).Nodup) (ha : a ∈ rows.attempts)
    (hfields : claim.toClaimFields = a.toClaimFields) : rows.findAttempt claim = some a := by
  cases hfound : rows.findAttempt claim with
  | none =>
    have hnot := List.find?_eq_none.mp hfound a ha
    simp [Custody.isAttemptOf, hfields] at hnot
  | some b =>
    obtain ⟨hb, hgen⟩ := Custody.findAttempt_eq_some hfound
    rw [hfields] at hgen
    rw [Table.eq_of_key_eq huniq hb ha hgen]

/-- A lost race ends with an error that the caller sees as unavailable, unless the cause leads to the
stored outcome. -/
theorem afterCompleted_cases {proposal : Proposal} {cause : FinalizationCause}
    {stored : DeliveryReceipt} {value : Outcome} (hjson : stored.outcomeJson = encode value) :
    afterCompleted proposal cause stored = .ok stored ∨
      afterCompleted proposal cause stored = .error unavailable := by
  unfold afterCompleted
  rw [hjson, decode_encode]
  dsimp only
  cases hexpected : outcome proposal.receipt.claim proposal.invokedAt cause value.receiptCompletedAt
      proposal.options proposal.retryUnknown with
  | error e =>
    rw [outcome_eq_error hexpected]
    exact .inr rfl
  | ok expected =>
    simp only [bind, Except.bind]
    split
    · exact .inl rfl
    · exact .inr rfl

section Completed

variable (hhistory : History sha256 d facts s) (hcalls : Calls sha256 d facts s)
  {a : OutboxDeliveryAttempt} (ha : a ∈ s.rows.attempts) (hstage : a.stage = .completed)
include hhistory hcalls ha hstage

theorem stepFinalize_of_completed {proposal : Proposal} {first : Bool} {choice : TxChoice}
    (htask : (s.tasks worker = .proposing cause proposal readAt ∧ receipt = proposal.receipt ∧
        first = true) ∨
      (s.tasks worker = .replaying cause proposal receipt readAt ∧ first = false))
    (hfields : receipt.claim.toClaimFields = a.toClaimFields) :
    (s.stepFinalize sha256 d worker cause proposal receipt first readAt choice).rows = s.rows ∧
      ((∀ value, a.outcomeJson = some (encode value) →
          ¬LeadsTo d facts receipt.claim a.invokedAt cause value) →
        s.stepFinalize sha256 d worker cause proposal receipt first readAt choice =
          (s.setTask worker .idle).record [.raised worker receipt.claim cause unavailable]) := by
  obtain ⟨claim', cause', value, hrec⟩ := hhistory.recorded a ha hstage
  have hfound := Custody.findAttempt_of_mem hhistory.custody.unique ha hfields
  have hclaim : claimFromAttempt a = some receipt.claim := claimFromAttempt_eq_some.mpr hfields
  have hstored : storedReceipt receipt.claim a = some (receiptOf sha256 receipt.claim value) := by
    simp [storedReceipt, hrec.json, hrec.digest, receiptOf]
  unfold State.stepFinalize State.endFinalize
  rw [hfound]
  obtain htx | ⟨hsame, htx⟩ | ⟨hdiffers, htx⟩ :=
    @finalizeTx_of_completed sha256 d receipt _ cause
      (s.rows.findEvent receipt.claim.eventId receipt.claim.projectId) a (s.input readAt choice)
      hclaim hstage hstored
  · rw [htx]
    exact ⟨rfl, fun _ => rfl⟩
  · rw [htx]
    refine ⟨rfl, fun hdiverges => absurd ?_ (hdiverges value hrec.json)⟩
    rcases htask with ⟨htask, rfl, -⟩ | ⟨htask, -⟩
    · obtain ⟨-, -, value', hrcpt, hleads⟩ := hcalls.proposing worker cause proposal readAt htask
      have hvalue : value' = value := by
        apply encode_injective
        have hjson := congrArg DeliveryReceipt.outcomeJson (hsame.trans hrcpt)
        exact hjson.symm
      exact LeadsTo.of_stored hhistory ha hstage hrec.json (hvalue ▸ hleads)
    · obtain ⟨b, hb, hholds, value', hrcpt, hleads⟩ :=
        hcalls.replaying worker cause proposal receipt readAt htask
      have hvalue : value' = value := by
        apply encode_injective
        have hjson := congrArg DeliveryReceipt.outcomeJson (hsame.trans hrcpt)
        exact hjson.symm
      exact LeadsTo.of_stored hhistory ha hstage hrec.json (hvalue ▸ hleads)
  · rw [htx]
    dsimp only
    split
    · rename_i hfirst
      rcases htask with ⟨htask, rfl, -⟩ | ⟨-, hsecond⟩
      · obtain ⟨hoptions, hretry, -⟩ := hcalls.proposing worker cause proposal readAt htask
        obtain hafter | hafter := @afterCompleted_cases proposal cause
          (receiptOf sha256 proposal.receipt.claim value) value rfl
        · rw [hafter]
          refine ⟨rfl, fun hdiverges => absurd ?_ (hdiverges value hrec.json)⟩
          obtain ⟨-, value', hjson, hrow⟩ := afterCompleted_eq_ok hafter
          obtain rfl := encode_injective hjson
          rw [hoptions, hretry] at hrow
          exact LeadsTo.of_stored hhistory ha hstage hrec.json (outcome_eq_ok_iff.mpr hrow)
        · rw [hafter]
          exact ⟨rfl, fun _ => rfl⟩
      · rw [hsecond] at hfirst
        cases hfirst
    · exact ⟨rfl, fun _ => rfl⟩

omit hcalls in
theorem step_finalizeRead_of_completed (delay : Nat)
    (htask : s.tasks worker = .finalizing claim cause readAt)
    (hfields : claim.toClaimFields = a.toClaimFields) :
    step sha256 d s (.finalizeRead worker delay) =
        (s.setTask worker .idle).record [.raised worker claim cause unavailable] ∨
      ∃ proposal now, proposal.receipt.claim = claim ∧
        step sha256 d s (.finalizeRead worker delay) =
          s.setTask worker (.proposing cause proposal now) := by
  obtain ⟨claim', cause', value, hrec⟩ := hhistory.recorded a ha hstage
  have hfound := Custody.findAttempt_of_mem hhistory.custody.unique ha hfields
  have hclaim : claimFromAttempt a = some claim := claimFromAttempt_eq_some.mpr hfields
  simp only [step, htask, hfound]
  cases hread : finalizeRead sha256 d claim cause (s.rows.findEvent claim.eventId claim.projectId)
      (some a) (max s.clock readAt + delay) with
  | ok proposal =>
    obtain ⟨event, attempt, value', -, -, -, hprop, -⟩ := finalizeRead_eq_ok hread
    exact .inr ⟨proposal, _, by rw [hprop]; rfl, rfl⟩
  | error e =>
    have he : e = unavailable := by
      cases hevent : s.rows.findEvent claim.eventId claim.projectId with
      | none =>
        rw [hevent] at hread
        exact (Except.error.inj hread).symm
      | some event =>
        rw [hevent] at hread
        simp only [finalizeRead, hclaim, hstage, hrec.json, if_true, Option.bind_some,
          decode_encode, Option.map_some] at hread
        cases hvalue : outcome claim a.invokedAt cause value.receiptCompletedAt
            (d.optionsFor event.eventType event.eventVersion)
            (d.registry.canRetryUnknown event.eventType event.eventVersion) with
        | error e' =>
          rw [hvalue] at hread
          obtain rfl := Except.error.inj hread
          exact outcome_eq_error hvalue
        | ok value' =>
          rw [hvalue] at hread
          cases hread
    rw [he]
    exact .inl rfl

end Completed

/-- A completed attempt in all that follows. Its row stays; the next action of a finalization of its
claim writes nothing; and a call whose cause does not lead to the stored outcome raises, at the latest
in its locked transaction. -/
structure Inert (sha256 : String → String) (d : OutboxDelivery) (facts : EventFacts) (s : State)
    (a : OutboxDeliveryAttempt) : Prop where
  kept : ∀ more, a ∈ (run (step sha256 d) s more).rows.attempts
  reads : ∀ worker claim cause readAt delay, s.tasks worker = .finalizing claim cause readAt →
    claim.toClaimFields = a.toClaimFields →
    (step sha256 d s (.finalizeRead worker delay)).rows = s.rows ∧
      (step sha256 d s (.finalizeRead worker delay) =
          (s.setTask worker .idle).record [.raised worker claim cause unavailable] ∨
        ∃ proposal now, proposal.receipt.claim = claim ∧
          step sha256 d s (.finalizeRead worker delay) =
            s.setTask worker (.proposing cause proposal now))
  writes : ∀ worker claim cause choice, (s.tasks worker).call = some (claim, cause) →
    (∀ readAt, s.tasks worker ≠ .finalizing claim cause readAt) →
    claim.toClaimFields = a.toClaimFields →
    (step sha256 d s (.finalizeTx worker choice)).rows = s.rows ∧
      ((∀ value, a.outcomeJson = some (encode value) →
          ¬LeadsTo d facts claim a.invokedAt cause value) →
        step sha256 d s (.finalizeTx worker choice) =
          (s.setTask worker .idle).record [.raised worker claim cause unavailable])

theorem inert_of_completed (hhistory : History sha256 d facts s) (hcalls : Calls sha256 d facts s)
    {a : OutboxDeliveryAttempt} (ha : a ∈ s.rows.attempts) (hstage : a.stage = .completed) :
    Inert sha256 d facts s a := by
  refine ⟨?_, ?_, ?_⟩
  · intro more
    have hrows : Persists s.rows (run (step sha256 d) s more).rows :=
      run_relates (I := History sha256 d facts) (R := fun s s' => Persists s.rows s'.rows) hhistory
        (fun s x h => (step_stepTo s x).history h) (fun s => Persists.refl s.rows)
        (fun _ _ _ h h' => h.trans h') (fun s x h => (step_stepTo s x).persists h) more
    obtain ⟨a', ha', -, -, hsame⟩ := hrows a ha
    rwa [← hsame hstage]
  · intro worker claim cause readAt delay htask hfields
    have hstep := step_finalizeRead_of_completed hhistory ha hstage delay htask hfields
    refine ⟨?_, hstep⟩
    rcases hstep with heq | ⟨proposal, now, -, heq⟩
    · rw [heq]
      rfl
    · rw [heq]
      rfl
  · intro worker claim cause choice hcall hnot hfields
    cases htask : s.tasks worker with
    | proposing =>
      rw [htask] at hcall
      obtain ⟨rfl, rfl⟩ := Prod.mk.inj (Option.some.inj hcall)
      simp only [step, htask]
      exact stepFinalize_of_completed hhistory hcalls ha hstage (.inl ⟨htask, rfl, rfl⟩) hfields
    | replaying =>
      rw [htask] at hcall
      obtain ⟨rfl, rfl⟩ := Prod.mk.inj (Option.some.inj hcall)
      simp only [step, htask]
      exact stepFinalize_of_completed hhistory hcalls ha hstage (.inr ⟨htask, rfl⟩) hfields
    | finalizing claim' cause' readAt =>
      rw [htask] at hcall
      obtain ⟨rfl, rfl⟩ := Prod.mk.inj (Option.some.inj hcall)
      exact absurd htask (hnot readAt)
    | _ =>
      rw [htask] at hcall
      cases hcall

theorem run_calls (sha256 : String → String) (d : OutboxDelivery) (facts : EventFacts)
    (actions : List Action) :
    Calls sha256 d facts (run (step sha256 d) (start facts) actions) ∧
      Agreement sha256 d facts (run (step sha256 d) (start facts) actions) := by
  have hrun := run_of_stepTo
    (I := fun s => History sha256 d facts s ∧ Calls sha256 d facts s ∧ Agreement sha256 d facts s)
    ⟨history_start sha256 d facts, calls_start sha256 d facts, agreement_start sha256 d facts⟩
    (fun s s' hstep h => ⟨hstep.history h.1, hstep.calls h.1 h.2.1, hstep.agreement h.1 h.2.1 h.2.2⟩)
    actions
  exact hrun.2

/-- In every run, at most one receipt is written per attempt, every call that returns has the receipt
of the row and a cause that leads to it, and a completed attempt is inert. -/
theorem run_finalizations_agree (sha256 : String → String) (d : OutboxDelivery) (facts : EventFacts)
    (actions : List Action) :
    Agreement sha256 d facts (run (step sha256 d) (start facts) actions) ∧
      ∀ a ∈ (run (step sha256 d) (start facts) actions).rows.attempts, a.stage = .completed →
        Inert sha256 d facts (run (step sha256 d) (start facts) actions) a := by
  obtain ⟨hcalls, hagr⟩ := run_calls sha256 d facts actions
  refine ⟨hagr, ?_⟩
  intro a ha hstage
  exact inert_of_completed (run_history sha256 d facts actions) hcalls ha hstage

end Workstream.Outbox
