import Workstream.Outbox.Agreement

/-!
# Fenced effects

An observation shows that the rows hold exactly the invocation of the envelope.
-/

namespace Workstream.Outbox
open Foundation

variable {sha256 : String → String} {d : OutboxDelivery} {facts : EventFacts} {s : State}

/-- The rows show the invocation of an envelope: every field, the canonical payload and the lease are
the event's own, and the attempt is invoked and has no outcome. -/
structure Shown (sha256 : String → String) (rows : Custody) (envelope : OutboxEventEnvelope) : Prop where
  envelope_eq : envelope = envelopeOf rows.event envelope.claim
  digest : canonicalJsonHash sha256 rows.event.payload = envelope.claim.payloadDigest
  event : matchesEvent rows.event envelope.claim = true
  attempt : ∃ a ∈ rows.attempts, a.toClaimFields = envelope.claim.toClaimFields ∧ a.stage = .invoked ∧
    a.outcomeJson = none

theorem envelopePayload_eq_some {envelope : OutboxEventEnvelope} {payload : Json}
    (h : envelopePayload sha256 envelope = some payload) :
    Json.dumps payload = envelope.payloadJson ∧
      canonicalJsonHash sha256 payload = envelope.claim.payloadDigest := by
  unfold envelopePayload at h
  split at h
  · split at h
    · rename_i hchecks
      obtain rfl := Option.some.inj h
      exact hchecks
    · cases h
  · cases h

theorem dumps_eq_of_canon_eq {v w : Json} (h : v.canon = w.canon) : v.dumps = w.dumps := by
  rw [← Json.dumps_canon v, h, Json.dumps_canon]

theorem observe_eq_some {rows : Custody} {envelope : OutboxEventEnvelope} {now : Nat}
    {observation : CommittedInvocationObservation}
    (h : observe sha256 rows envelope now = some observation) :
    Shown sha256 rows envelope ∧ now < envelope.claim.claimExpiresAt ∧
      observation = ⟨envelope.claim, now⟩ := by
  unfold observe at h
  split at h
  · cases h
  rename_i payload hpayload
  split at h
  · cases h
  rename_i a ha
  split at h
  case isFalse => cases h
  rename_i hshows
  obtain ⟨htext, hhash⟩ := envelopePayload_eq_some hpayload
  have hmem := List.mem_of_find?_eq_some ha
  have hkey := List.find?_some ha
  simp only [showsInvocation, Bool.and_eq_true, decide_eq_true_eq] at hshows hkey
  obtain ⟨⟨⟨heventId, hproj, hdig, htype, hver, haggregateType, haggregateId, hcorrelation,
    hcausation, hidempotency, hoccurred, hcanon⟩, hstate, hstage, hout, hgen, howner,
    hclaimedAt, hexp⟩, haproject, hadigest, haowner, haclaimedAt, haexpires, hlive⟩ := hshows
  have hdumps := dumps_eq_of_canon_eq hcanon
  refine ⟨⟨?_, ?_, ?_, a, hmem, ?_, hstage, hout⟩, hlive, (Option.some.inj h).symm⟩
  · unfold envelopeOf
    rw [htype, hver, haggregateType, haggregateId, hcorrelation, hcausation, hidempotency,
      hoccurred, hdumps, htext]
  · rw [canonicalJsonHash, hdumps]
    exact hhash
  · exact matchesEvent_iff.mpr ⟨hstate, heventId, hproj, hdig, hgen, howner, hclaimedAt,
      hexp⟩
  · have hsameOwner : a.claimOwner = envelope.claim.claimOwner :=
      Option.some.inj (haowner.symm.trans howner)
    have hsameClaimed : a.claimedAt = envelope.claim.claimedAt :=
      Option.some.inj (haclaimedAt.symm.trans hclaimedAt)
    have hsameExpires : a.claimExpiresAt = envelope.claim.claimExpiresAt :=
      Option.some.inj (haexpires.symm.trans hexp)
    exact ClaimFields.ext (hkey.1.trans heventId) (haproject.trans hproj) (hadigest.trans hdig)
      (hkey.2.trans hgen) hsameOwner hsameClaimed hsameExpires

/-- An effect comes neither after the receipt of its generation nor after a later claim. -/
def Entry.Fences (earlier later : Entry) : Prop :=
  ∀ envelope observation, later = .effect envelope observation →
    (∀ worker receipt cause, earlier = .finalized worker receipt cause →
      receipt.claim.claimGeneration ≠ envelope.claim.claimGeneration) ∧
    ∀ worker claim, earlier = .claimed worker claim →
      claim.claimGeneration ≤ envelope.claim.claimGeneration

/-- Claims of the log are not above the event, and effects are fenced. -/
structure Fenced (s : State) : Prop where
  claimed : ∀ worker claim, .claimed worker claim ∈ s.log →
    claim.claimGeneration ≤ s.rows.event.claimGeneration
  ordered : s.log.Pairwise Entry.Fences

theorem fenced_start (facts : EventFacts) : Fenced (start facts) where
  claimed := by simp [start]
  ordered := List.Pairwise.nil

theorem Fenced.quiet (h : Fenced s) {s' : State} {entries : List Entry}
    (hlog : s'.log = s.log ++ entries)
    (hgen : s.rows.event.claimGeneration ≤ s'.rows.event.claimGeneration)
    (hclaimed : ∀ worker claim, .claimed worker claim ∈ entries →
      claim.claimGeneration ≤ s'.rows.event.claimGeneration)
    (heff : ∀ envelope observation, .effect envelope observation ∉ entries) : Fenced s' := by
  refine ⟨?_, ?_⟩
  · intro worker claim hentry
    rw [hlog] at hentry
    rcases List.mem_append.mp hentry with hold | hnew
    · exact (h.claimed worker claim hold).trans hgen
    · exact hclaimed worker claim hnew
  · have hnone : ∀ earlier : Entry, ∀ later ∈ entries, earlier.Fences later := by
      intro earlier later hlater envelope observation heq
      rw [heq] at hlater
      exact absurd hlater (heff envelope observation)
    rw [hlog, List.pairwise_append]
    refine ⟨h.ordered, ?_, fun earlier _ later hlater => hnone earlier later hlater⟩
    exact List.pairwise_of_forall_mem_list fun earlier _ later hlater => hnone earlier later hlater

theorem Fenced.effect (h : Fenced s) (hhist : History sha256 d facts s)
    (hagr : Agreement sha256 d facts s) {envelope : OutboxEventEnvelope}
    (hshown : Shown sha256 s.rows envelope) (observation : CommittedInvocationObservation) :
    Fenced (s.record [.effect envelope observation]) := by
  obtain ⟨a, ha, hfields, hstage, -⟩ := hshown.attempt
  have hageneration : a.claimGeneration = envelope.claim.claimGeneration := by rw [hfields]
  have hcur := (matchesEvent_iff.mp hshown.event).2.2.2.2.1
  refine ⟨?_, ?_⟩
  · intro worker claim hentry
    simp only [record_log, List.mem_append, List.mem_singleton, reduceCtorEq, or_false] at hentry
    exact h.claimed worker claim hentry
  · rw [record_log, List.pairwise_append]
    refine ⟨h.ordered, List.pairwise_singleton _ _, ?_⟩
    intro earlier hearlier later hlater envelope' observation' heq
    rw [List.mem_singleton.mp hlater] at heq
    injection heq with henv
    subst henv
    refine ⟨?_, ?_⟩
    · rintro worker receipt cause rfl hsame
      obtain ⟨b, hb, hholds⟩ := hagr.stored worker receipt cause hearlier
      have hbgeneration : b.claimGeneration = receipt.claim.claimGeneration := by rw [hholds.claim_eq]
      obtain rfl := hhist.custody.eq_of_generation ha hb (by omega)
      have hcomp := hholds.completed
      rw [hstage] at hcomp
      cases hcomp
    · rintro worker claim rfl
      rw [← hcur]
      exact h.claimed worker claim hearlier

theorem StepTo.fenced {s' : State} (hstep : StepTo sha256 d s s') (hhist : History sha256 d facts s)
    (hagr : Agreement sha256 d facts s) (h : Fenced s) : Fenced s' := by
  cases hstep with
  | stay => exact h
  | quit hfail =>
    refine h.quiet rfl (Nat.le_refl _) ?_ ?_
    · intro worker claim hentry
      cases hfail _ hentry
    · intro envelope observation hentry
      cases hfail _ hentry
  | claimRead | recoverRead | proposed | lostRace =>
    exact h.quiet (List.append_nil _).symm (Nat.le_refl _) (by simp) (by simp)
  | @claimed worker claim readAt choice decisionId htask hclaims =>
    have hnext := hclaims.generation
    refine h.quiet rfl (Nat.le_of_succ_le (Nat.le_of_eq hnext)) ?_ (by simp)
    intro worker' claim' hentry
    simp only [List.mem_singleton, Entry.claimed.injEq] at hentry
    obtain ⟨-, rfl⟩ := hentry
    exact Nat.le_refl _
  | effect hnow hobs =>
    exact h.effect hhist hagr (observe_eq_some hobs).1 _
  | _ => exact h.quiet rfl (Nat.le_refl _) (by simp) (by simp)

theorem run_fenced (sha256 : String → String) (d : OutboxDelivery) (facts : EventFacts)
    (actions : List Action) : Fenced (run (step sha256 d) (start facts) actions) := by
  have hrun := run_of_stepTo (I := fun s => History sha256 d facts s ∧ Calls sha256 d facts s ∧
      Agreement sha256 d facts s ∧ Fenced s)
    ⟨history_start sha256 d facts, calls_start sha256 d facts, agreement_start sha256 d facts,
      fenced_start facts⟩
    (fun s s' hstep h => ⟨hstep.history h.1, hstep.calls h.1 h.2.1, hstep.agreement h.1 h.2.1 h.2.2.1,
      hstep.fenced h.1 h.2.2.1 h.2.2.2⟩) actions
  exact hrun.2.2.2

end Workstream.Outbox
