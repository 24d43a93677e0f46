import Workstream.Revision.Allowance
import Workstream.Revision.Soundness

/-!
# The end of a window

A routed failure ends once: its contributor supersedes it, its deadline expires, or it exhausts the
assignment.
-/

namespace Workstream.Revision
open Foundation Tasks

variable {db after : Database} {a : Answers} {m : RoutingManifest} {manifestId : Uuid} {s : Submission}
  {policy : RevisionPolicy}

/-- How many ends are on record for a source. -/
def Database.ends (db : Database) (m : RoutingManifest) : Nat :=
  db.rows.countP (fun s => s.supersedesSubmissionId = some m.submissionId) +
    db.expirations.countP (fun e => e.routingManifestId = m.id) +
    db.exhaustions.countP (fun e => e.routingManifestId = m.id)

theorem ends_eq_zero_iff : db.ends m = 0 ↔
    (∀ s ∈ db.rows, s.supersedesSubmissionId ≠ some m.submissionId) ∧
      (∀ e ∈ db.expirations, e.routingManifestId ≠ m.id) ∧ ∀ e ∈ db.exhaustions,
        e.routingManifestId ≠ m.id := by
  unfold Database.ends
  simp [Nat.add_eq_zero_iff, List.countP_eq_zero, and_assoc]

/-- A receipt of a stored source has released the source's assignment. -/
theorem Sound.not_active_of_settled (h : Sound db) (hm : m ∈ db.manifests) {assignmentId : Uuid}
    (hsettled : db.Settled manifestId assignmentId) (hid : manifestId = m.id) :
    ¬db.Active m.assignmentId := by
  obtain ⟨⟨other, hother, hotherId, hasgn⟩, hinactive⟩ := hsettled
  have hsame : other = m := Table.eq_of_key_eq h.manifestIds hother hm (hotherId.trans hid)
  rw [← hsame, hasgn]
  exact hinactive

/-- While a source is the latest submission and its assignment active, nothing has ended it. -/
theorem Sound.ends_of_open (h : Sound db) (hm : m ∈ db.manifests)
    (hcur : ∀ t ∈ db.rows, t.version ≤ m.submissionVersion) (hact : db.Active m.assignmentId) :
    db.ends m = 0 := by
  obtain ⟨s, hs, hid, hver, -⟩ := h.sources m hm
  refine ends_eq_zero_iff.mpr ⟨?_, ?_, ?_⟩
  · intro t ht
    rw [← hid]
    exact h.not_superseded hs (hver ▸ hcur) ht
  · exact fun e he hman => h.not_active_of_settled hm (h.expired e he) hman hact
  · exact fun e he hman => h.not_active_of_settled hm (h.exhausted e he) hman hact

/-- A manifest that is not stored yet has no end when its submission is the latest one. -/
theorem Sound.ends_of_fresh (h : Sound db) (hlatest : db.latestSubmission = some s)
    (hsub : m.submissionId = s.id) (hfresh : ∀ other ∈ db.manifests, other.id ≠ m.id) :
    db.ends m = 0 := by
  have hrcpt : ∀ {manifestId assignmentId}, db.Settled manifestId assignmentId → manifestId ≠ m.id := by
    rintro manifestId assignmentId ⟨⟨other, hother, hid, -⟩, -⟩ hsame
    exact hfresh other hother (hid.trans hsame)
  refine ends_eq_zero_iff.mpr ⟨?_, fun e he => hrcpt (h.expired e he), fun e he => hrcpt (h.exhausted e he)⟩
  intro t ht
  rw [hsub]
  exact h.not_superseded (row_mem (latest_mem hlatest)) (fun u hu => version_le_latest hlatest hu) ht

def Database.Single (db : Database) : Prop := ∀ m ∈ db.manifests, db.ends m ≤ 1

theorem ends_congr (hrows : after.rows = db.rows) (hexpirations : after.expirations = db.expirations)
    (hexhaustions : after.exhaustions = db.exhaustions) (m : RoutingManifest) : after.ends m = db.ends m := by
  unfold Database.ends
  rw [hrows, hexpirations, hexhaustions]

theorem single_congr (hsingle : db.Single) (hmans : after.manifests = db.manifests)
    (hrows : after.rows = db.rows) (hexpirations : after.expirations = db.expirations)
    (hexhaustions : after.exhaustions = db.exhaustions) : after.Single := by
  intro m hm
  rw [ends_congr hrows hexpirations hexhaustions]
  exact hsingle m (hmans ▸ hm)

theorem single_of_manifest (hsingle : db.Single) (hnew : db.ends m = 0)
    (hmans : after.manifests = db.manifests ++ [m]) (hrows : after.rows = db.rows)
    (hexpirations : after.expirations = db.expirations) (hexhaustions : after.exhaustions = db.exhaustions) :
    after.Single := by
  intro other hother
  rw [ends_congr hrows hexpirations hexhaustions]
  rw [hmans] at hother
  rcases Table.mem_append hother with hother | rfl
  · exact hsingle other hother
  · rw [hnew]
    exact Nat.zero_le 1

/-- One more receipt for a source that had no end leaves no source with two. -/
theorem single_of_end (hsingle : db.Single) (hids : (db.manifests.map RoutingManifest.id).Nodup)
    (hm : m ∈ db.manifests) (hopen : db.ends m = 0) (hmans : after.manifests = db.manifests)
    (hself : after.ends m ≤ db.ends m + 1)
    (hothers : ∀ other : RoutingManifest, other.id ≠ m.id → after.ends other = db.ends other) :
      after.Single := by
  intro other hother
  rw [hmans] at hother
  by_cases hid : other.id = m.id
  · rw [Table.eq_of_key_eq hids hother hm hid]
    omega
  · rw [hothers other hid]
    exact hsingle other hother

@[simp] theorem ended_rows (assignmentId : Uuid) (status : AssignmentStatus) (releasedAt : Nat)
    (submissionId : Uuid) (reason : Option StatusReason) (decidedAt : Option Nat) :
    (db.ended assignmentId status releasedAt submissionId reason decidedAt).rows = db.rows := by
  unfold Database.ended
  rw [decide_rows]
  rfl

/-- A submission can supersede only a source that has not ended. -/
theorem Sound.single_submitted (h : Sound db) (hsingle : db.Single) {new : Submission}
    {assignment : Assignment} (hnew : Submitted db new assignment) : (db.submitted new).Single := by
  have hends : ∀ other, (db.submitted new).ends other =
      db.ends other + if new.supersedesSubmissionId = some other.submissionId then 1 else 0 := by
    intro other
    have hrows : (db.submitted new).rows = db.rows ++ [new.row] := by
      simp [Database.rows, Database.submitted]
    have hone : [new.row].countP (fun s => s.supersedesSubmissionId = some other.submissionId) =
        if new.supersedesSubmissionId = some other.submissionId then 1 else 0 := by
      by_cases hsame : new.supersedesSubmissionId = some other.submissionId
      · simp [hsame]
      · simp [hsame]
    have hexpirations : (db.submitted new).expirations = db.expirations := rfl
    have hexhaustions : (db.submitted new).exhaustions = db.exhaustions := rfl
    unfold Database.ends
    rw [hrows, List.countP_append, hone, hexpirations, hexhaustions]
    omega
  intro m hm
  rw [hends m]
  by_cases hsup : new.supersedesSubmissionId = some m.submissionId
  · rw [if_pos hsup]
    obtain ⟨s, policy, hs, hlatest, howner, -⟩ :=
      guardSubmissionRevisionCapacity_supersedes hnew.capacity hsup
    obtain ⟨latest, hlatestEq, hlatestId⟩ := Option.map_eq_some_iff.mp hlatest
    obtain ⟨hsmem, hsid⟩ := findSubmission_eq_some hs
    obtain ⟨row, hrow, hrowId, hrowVersion, hrowOwner⟩ := h.sources m hm
    -- The source of the manifest, the superseded submission and the latest one are the same row.
    have hrowS : row = s.row := Table.eq_of_key_eq h.submissionIds hrow (row_mem hsmem)
      (hrowId.trans hsid.symm)
    have hlatestS : latest.row = s.row :=
      Table.eq_of_key_eq h.submissionIds (row_mem (latest_mem hlatestEq)) (row_mem hsmem) hlatestId
    have hver : latest.version = m.submissionVersion := by
      rw [← hrowVersion, hrowS, ← hlatestS]
      rfl
    have hact : db.Active m.assignmentId := by
      have hasgn : m.assignmentId = new.taskAssignmentId := by
        rw [← hrowOwner, hrowS]
        exact howner
      rw [hasgn]
      exact active_of_find hnew.assignment_eq hnew.active
    have hopen := h.ends_of_open hm (fun _ ht => hver ▸ version_le_latest hlatestEq ht) hact
    omega
  · rw [if_neg hsup]
    exact hsingle m hm

variable {released : Assignment} {source : Submission} {d : ExpiryDelivery} {head row : Preparation}
  {e : Expiration} {routed : Option Uuid} {r : RetainedRouting} {action : Action}

theorem Exhausting.ends_eq_zero (h : Sound db) (hm : m ∈ db.manifests) {e : Exhaustion}
    (he : Exhausting db a m e released source policy) : db.ends m = 0 :=
  h.ends_of_open hm (fun _ ht => version_le_current he.current ht)
    (he.assignmentId ▸ active_of_find he.assignment_eq he.active)

theorem Expiring.ends_eq_zero (h : Sound db) (he : Expiring db a d m head e released source) :
    db.ends m = 0 :=
  h.ends_of_open (findManifest_eq_some he.manifest_eq).1 (fun _ ht => version_le_current he.current ht)
    (he.assignmentId ▸ active_of_find he.assignment_eq he.active)

theorem Inserted.ends_eq_zero (h : Sound db) (hm : m ∈ db.manifests)
    (hins : Inserted db a routed m row) : db.ends m = 0 := by
  obtain ⟨found, s, assignment, policy, hsourced⟩ := guardRevisionPreparation_eq_ok hins.guard
  obtain ⟨hfound, hfoundId⟩ := findManifest_eq_some hsourced.manifest_eq
  have hsame : found = m := Table.eq_of_key_eq h.manifestIds hfound hm (hfoundId.trans hins.manifestId)
  rw [← hsame]
  exact h.ends_of_open hfound (fun _ ht => version_le_current hsourced.current ht)
    (hsourced.assignmentId ▸ active_of_find hsourced.assignment_eq hsourced.active)

theorem Prepared.frame (h : Prepared db a routed m row after) :
    after.submissions = db.submissions ∧ after.manifests = db.manifests ∧
      after.expirations = db.expirations ∧ after.exhaustions = db.exhaustions := by
  obtain ⟨extra, task, f, -, -, rfl⟩ := h.after_eq
  exact ⟨rfl, rfl, rfl, rfl⟩

theorem Prepared.single (h : Prepared db a routed m row after) (hsingle : db.Single) :
    after.Single := by
  obtain ⟨hsubs, hmans, hexpirations, hexhaustions⟩ := h.frame
  refine single_congr hsingle hmans ?_ hexpirations hexhaustions
  unfold Database.rows
  rw [hsubs]

theorem Sound.single_returned (h : Sound db) (hsingle : db.Single)
    (hlatest : db.latestSubmission = some s) (hsub : m.submissionId = s.id)
    (hfresh : ∀ other ∈ db.manifests, other.id ≠ m.id) (reason : Option StatusReason)
    (decidedAt : Option Nat) : (db.returned m reason decidedAt).Single :=
  single_of_manifest hsingle (h.ends_of_fresh hlatest hsub hfresh) rfl (decide_rows _ _ _ _ _) rfl rfl

/-- A receipt that ends an open source is the only one of the source. -/
theorem Sound.single_ended (h : Sound db) (hsingle : db.Single) (hm : m ∈ db.manifests)
    (hopen : db.ends m = 0) {expirations : List Expiration} {exhaustions : List Exhaustion}
    (hone : ∀ id, expirations.countP (fun e => e.routingManifestId = id) +
      exhaustions.countP (fun e => e.routingManifestId = id) =
        db.expirations.countP (fun e => e.routingManifestId = id) +
          db.exhaustions.countP (fun e => e.routingManifestId = id) + if m.id = id then 1 else 0)
    (events : List RevisionEvent) (assignmentId : Uuid) (status : AssignmentStatus) (releasedAt : Nat)
    (submissionId : Uuid) (reason : Option StatusReason) (decidedAt : Option Nat) :
    (({ db with events, expirations, exhaustions }).ended assignmentId status releasedAt submissionId
      reason decidedAt).Single := by
  have hends : ∀ other, (({ db with events, expirations, exhaustions }).ended assignmentId status
      releasedAt submissionId reason decidedAt).ends other =
        db.ends other + if m.id = other.id then 1 else 0 := by
    intro other
    unfold Database.ends
    rw [ended_rows, Nat.add_assoc, Nat.add_assoc, Nat.add_assoc, ← Nat.add_assoc (db.expirations.countP _),
      ← hone other.id]
    rfl
  refine single_of_end hsingle h.manifestIds hm hopen rfl ?_ (fun other hother => ?_)
  · rw [hends, if_pos rfl]
  · rw [hends, if_neg (Ne.symm hother), Nat.add_zero]

theorem countP_append_singleton {α : Type} (rows : List α) (new : α) (key : α → Uuid) (id : Uuid) :
    (rows ++ [new]).countP (fun e => key e = id) =
      rows.countP (fun e => key e = id) + if key new = id then 1 else 0 := by
  rw [List.countP_append, List.countP_singleton]
  simp only [decide_eq_true_eq]

theorem Sound.single_exhaust (h : Sound db) (hsingle : db.Single) (hm : m ∈ db.manifests)
    {e : Exhaustion} (he : Exhausting db a m e released source policy) (events : List RevisionEvent)
    (reason : Option StatusReason) (decidedAt : Option Nat) :
    (({ db with events }).exhausted e reason decidedAt).Single := by
  refine h.single_ended hsingle hm (he.ends_eq_zero h hm) (fun id => ?_) _ _ _ _ _ _ _
  rw [countP_append_singleton, he.manifestId, Nat.add_assoc]

theorem Sound.single_change (h : Sound db) (hsingle : db.Single) (hchange : Change db action after) :
    after.Single := by
  have hman : ∀ {a} {r : RoutingRequest} {s : Submission} {plan : RoutingPlan} {assignment : Assignment},
      Routed db a r s plan assignment → db.ends (r.manifest s plan a.readings.now) = 0 :=
    fun hrouted => h.ends_of_fresh hrouted.latest rfl hrouted.fresh
  cases hchange with
  | announced | claimed => exact single_congr hsingle rfl rfl rfl rfl
  | submitted hsubmitted => exact h.single_submitted hsingle hsubmitted
  | reviewed hrouted | accepted hrouted =>
    exact single_of_manifest hsingle (hman hrouted) rfl (decide_rows _ _ _ _ _) rfl rfl
  | failed hrouted he reason decidedAt =>
    exact (h.routed hrouted).single_exhaust (single_of_manifest hsingle (hman hrouted) rfl rfl rfl rfl)
      List.mem_concat_self he db.events reason decidedAt
  | @returned a r s _ candidate _ _ _ _ _ hrouted _ _ hrow =>
    have hreturned := h.single_returned (m := r.returns a s candidate) hsingle hrouted.latest rfl
      hrouted.fresh
    rcases hrow with ⟨-, extra, rfl⟩ | hprep
    · exact single_congr (hreturned _ _) rfl rfl rfl rfl
    · exact hprep.single (hreturned _ _)
  | prepared hm hprep => exact hprep.single hsingle
  | exhausted hm _ _ he extra reason decidedAt => exact h.single_exhaust hsingle hm he _ reason decidedAt
  | expired he =>
    refine h.single_ended hsingle (findManifest_eq_some he.manifest_eq).1 (he.ends_eq_zero h)
      (fun id => ?_) _ _ _ _ _ _ _
    rw [countP_append_singleton, he.manifestId, Nat.add_right_comm]

structure Grows (db after : Database) : Prop where
  rows : db.rows <+: after.rows
  manifests : db.manifests <+: after.manifests
  expirations : db.expirations <+: after.expirations
  exhaustions : db.exhaustions <+: after.exhaustions

theorem Grows.refl (db : Database) : Grows db db :=
  ⟨List.prefix_rfl, List.prefix_rfl, List.prefix_rfl, List.prefix_rfl⟩

theorem Grows.trans {middle : Database} (h : Grows db middle) (h' : Grows middle after) :
    Grows db after :=
  ⟨h.rows.trans h'.rows, h.manifests.trans h'.manifests, h.expirations.trans h'.expirations,
    h.exhaustions.trans h'.exhaustions⟩

theorem Grows.ends_le (h : Grows db after) (m : RoutingManifest) : db.ends m ≤ after.ends m := by
  exact Nat.add_le_add (Nat.add_le_add h.rows.sublist.countP_le h.expirations.sublist.countP_le)
    h.exhaustions.sublist.countP_le

theorem Prepared.grows (h : Prepared db a routed m row after) : Grows db after := by
  obtain ⟨hsubs, hmans, hexpirations, hexhaustions⟩ := h.frame
  have hrows : after.rows = db.rows := by
    unfold Database.rows
    rw [hsubs]
  exact ⟨hrows ▸ List.prefix_rfl, hmans ▸ List.prefix_rfl, hexpirations ▸ List.prefix_rfl,
    hexhaustions ▸ List.prefix_rfl⟩

theorem Grows.returned (m : RoutingManifest) (reason : Option StatusReason) (decidedAt : Option Nat) :
    Grows db (db.returned m reason decidedAt) := by
  refine ⟨?_, List.prefix_append _ _, List.prefix_rfl, List.prefix_rfl⟩
  unfold Database.returned
  rw [decide_rows]
  exact List.prefix_rfl

theorem Grows.change (hchange : Change db action after) : Grows db after := by
  cases hchange with
  | announced | claimed => exact { Grows.refl db with }
  | submitted =>
    refine ⟨?_, List.prefix_rfl, List.prefix_rfl, List.prefix_rfl⟩
    simp [Database.rows, Database.submitted]
  | reviewed | accepted =>
    refine ⟨?_, List.prefix_append _ _, List.prefix_rfl, List.prefix_rfl⟩
    rw [decide_rows]
    exact List.prefix_rfl
  | failed =>
    exact ⟨(ended_rows _ _ _ _ _ _).symm ▸ List.prefix_rfl, List.prefix_append _ _, List.prefix_rfl,
      List.prefix_append _ _⟩
  | returned hrouted hold hevid hrow =>
    rcases hrow with ⟨-, extra, rfl⟩ | hprep
    · exact { Grows.returned _ _ _ with }
    · exact (Grows.returned _ _ _).trans hprep.grows
  | prepared hm hprep => exact hprep.grows
  | exhausted hm _ _ =>
    exact ⟨(ended_rows _ _ _ _ _ _).symm ▸ List.prefix_rfl, List.prefix_rfl, List.prefix_rfl,
      List.prefix_append _ _⟩
  | expired =>
    exact ⟨(ended_rows _ _ _ _ _ _).symm ▸ List.prefix_rfl, List.prefix_rfl, List.prefix_append _ _,
      List.prefix_rfl⟩

/-- A retained routing returns the latest submission, and may leave a root. -/
theorem retain_eq_ok (h : db.retain r = .ok after) :
    ∃ s reason decidedAt, db.latestSubmission = some s ∧
      (∀ other ∈ db.manifests, other.id ≠ (r.manifest s).id) ∧
      after.submissions = (db.returned (r.manifest s) reason decidedAt).submissions ∧
      after.manifests = db.manifests ++ [r.manifest s] ∧
      after.expirations = db.expirations ∧ after.exhaustions = db.exhaustions := by
  simp only [Database.retain, eq_ok, Bool.not_eq_true', List.any_eq_false, decide_eq_true_eq] at h
  obtain ⟨-, -, s, hlatest, assignment, -, -, -, -, hfresh, h⟩ := h
  cases hcand : r.candidate with
  | none =>
    rw [hcand] at h
    simp only [pure_eq_ok] at h
    rw [← h]
    exact ⟨s, _, _, hlatest, hfresh, rfl, rfl, rfl, rfl⟩
  | some candidate =>
    rw [hcand] at h
    simp only [eq_ok] at h
    obtain ⟨-, -, rfl⟩ := h
    obtain ⟨task, f, -, -, hadopt⟩ := adoptTarget_eq _ _
    rw [hadopt]
    exact ⟨s, _, _, hlatest, hfresh, rfl, rfl, rfl, rfl⟩

theorem Sound.single_retain (h : Sound db) (hsingle : db.Single) (hretain : db.retain r = .ok after) :
    after.Single := by
  obtain ⟨s, reason, decidedAt, hlatest, hfresh, hsubs, hmans, hexpirations, hexhaustions⟩ :=
    retain_eq_ok hretain
  refine single_of_manifest hsingle (h.ends_of_fresh hlatest rfl hfresh) hmans ?_ hexpirations hexhaustions
  have hrows : after.rows = (db.returned (r.manifest s) reason decidedAt).rows := by
    unfold Database.rows
    rw [hsubs]
  rw [hrows]
  exact decide_rows _ _ _ _ _

theorem Grows.retain (hretain : db.retain r = .ok after) : Grows db after := by
  obtain ⟨s, reason, decidedAt, -, -, hsubs, hmans, hexpirations, hexhaustions⟩ := retain_eq_ok hretain
  refine ⟨?_, hmans ▸ List.prefix_append _ _, hexpirations ▸ List.prefix_rfl,
    hexhaustions ▸ List.prefix_rfl⟩
  have hreturned : Grows db (db.returned (r.manifest s) reason decidedAt) := Grows.returned _ reason decidedAt
  have hrows := hreturned.rows
  unfold Database.rows at hrows ⊢
  rw [hsubs]
  exact hrows

/-- What holds of a committed entry, from what holds of its operation. -/
theorem entryStep_cases {P : Database → Prop} (entry : Entry) (hsame : P db)
    (haction : ∀ action committed, entry = .action action → db.clock ≤ action.answers.readings.now →
      db.perform action = .ok committed → P { committed with clock := action.answers.readings.committed })
    (hretained : ∀ r committed, entry = .retained r → db.retain r = .ok committed →
      P { committed with clock := r.answers.readings.committed }) : P (db.entryStep entry) := by
  cases entry with
  | action action =>
    unfold Database.entryStep Database.step
    dsimp only
    split
    · next hclock =>
      cases hperf : db.perform action with
      | error refusal => exact hsame
      | ok committed => exact haction action committed rfl hclock hperf
    · exact hsame
  | retained r =>
    unfold Database.entryStep
    dsimp only
    split
    · cases hretain : db.retain r with
      | error refusal => exact hsame
      | ok committed => exact hretained r committed rfl hretain
    · exact hsame

theorem Sound.single_entryStep (h : Sound db) (hsingle : db.Single) (entry : Entry) :
    (db.entryStep entry).Single := by
  refine entryStep_cases entry hsingle ?_ ?_
  · intro action committed _ _ hperf
    have hcommitted := h.single_change hsingle (change_of_perform hperf)
    exact single_congr hcommitted rfl rfl rfl rfl
  · intro r committed _ hretain
    have hcommitted := h.single_retain hsingle hretain
    exact single_congr hcommitted rfl rfl rfl rfl

theorem Grows.entryStep (db : Database) (entry : Entry) : Grows db (db.entryStep entry) := by
  refine entryStep_cases entry (Grows.refl db) ?_ ?_
  · intro action committed _ _ hperf
    exact { Grows.change (change_of_perform hperf) with }
  · intro r committed _ hretain
    exact { Grows.retain hretain with }

theorem Grows.run (db : Database) (entries : List Entry) : Grows db (run Database.entryStep db entries) :=
  run_relates (I := fun _ => True) trivial (fun _ _ _ => trivial) Grows.refl (fun _ _ _ => Grows.trans)
    (fun s entry _ => Grows.entryStep s entry) entries

theorem single_run (h : db.Fresh) (entries : List Entry) : (run Database.entryStep db entries).Single := by
  have hinv : Sound (run Database.entryStep db entries) ∧ (run Database.entryStep db entries).Single := by
    refine run_invariant (I := fun s => Sound s ∧ s.Single) ⟨Sound.fresh h, ?_⟩ ?_ entries
    · intro m hm
      rw [h.manifests] at hm
      cases hm
    · exact fun s entry hs => ⟨hs.1.entryStep entry, hs.1.single_entryStep hs.2 entry⟩
  exact hinv.2

theorem expirations_of_perform (h : db.perform action = .ok after)
    (hnew : after.expirations ≠ db.expirations) : ∃ a d, action = .expire a d := by
  cases change_of_perform h with
  | expired => exact ⟨_, _, rfl⟩
  | returned _ _ _ hrow =>
    rcases hrow with ⟨-, extra, rfl⟩ | hprep
    · exact absurd rfl hnew
    · exact absurd hprep.frame.2.2.1 hnew
  | prepared _ hprep => exact absurd hprep.frame.2.2.1 hnew
  | _ => exact absurd rfl hnew

/-- The preparation of a source with the greatest sequence is the head of its chain. -/
theorem Sound.isChainHead_latest (h : Sound db) (hhead : db.latestPreparation manifestId = some head) :
    head ∈ db.preparations ∧ head.routingManifestId = manifestId ∧ db.isChainHead head = true := by
  have hmem := List.argmax_mem hhead
  obtain ⟨hheadMem, hheadId⟩ := List.mem_filter.mp hmem
  have hman : head.routingManifestId = manifestId := of_decide_eq_true hheadId
  refine ⟨hheadMem, hman, ?_⟩
  simp only [Database.isChainHead, Bool.not_eq_true', List.any_eq_false, decide_eq_true_eq]
  intro child hchild hpred
  -- A successor would have a greater sequence in the same chain.
  obtain ⟨q, hq, hqid, hqmanifest, hsequence⟩ := h.predecessors child hchild _ hpred
  have hsame : q = head := Table.eq_of_key_eq h.preparationIds hq hheadMem hqid
  rw [hsame] at hqmanifest hsequence
  have hfiltered : child ∈ db.preparations.filter (fun p => p.routingManifestId = manifestId) :=
    List.mem_filter.mpr ⟨hchild, decide_eq_true (hqmanifest.symm.trans hman)⟩
  have hle : child.sequence ≤ head.sequence := List.le_of_mem_argmax hfiltered hhead
  omega

/-- The window that an expiration ends: its chain's running head, whose deadline the timer names and the clock
has reached. -/
structure Expires (db : Database) (a : Answers) (d : ExpiryDelivery) (m : RoutingManifest)
    (head : Preparation) (e : Expiration) : Prop where
  manifest : m ∈ db.manifests
  target : d.target.routingManifestId = m.id
  receipt : e.routingManifestId = m.id
  head_mem : head ∈ db.preparations
  chain : head.routingManifestId = m.id
  isHead : db.isChainHead head = true
  running : head.remainingMicroseconds = none
  deadline : head.deadlineAt = some d.target.deadlineAt
  reached : d.target.deadlineAt ≤ a.readings.observed
  expiredAt : e.expiredAt = a.readings.observed

theorem Sound.expires (h : Sound db) (he : Expiring db a d m head e released source) :
    Expires db a d m head e := by
  obtain ⟨hm, hid⟩ := findManifest_eq_some he.manifest_eq
  obtain ⟨hmem, hchain, hisHead⟩ := h.isChainHead_latest he.head_eq
  exact {
    manifest := hm
    target := hid.symm
    receipt := he.manifestId
    head_mem := hmem
    chain := hchain.trans hid.symm
    isHead := hisHead
    running := he.running
    deadline := he.timerDeadline ▸ he.deadline
    reached := he.timerDeadline ▸ he.observed ▸ he.reached
    expiredAt := he.observed }

theorem Sound.expires_of_entryStep (h : Sound db) (entry : Entry)
    (hnew : (db.entryStep entry).expirations ≠ db.expirations) :
    ∃ a d m head e, entry = .action (.expire a d) ∧ db.clock ≤ a.readings.now ∧
      (db.entryStep entry).expirations = db.expirations ++ [e] ∧ Expires db a d m head e := by
  refine entryStep_cases (P := fun s => s.expirations ≠ db.expirations → ∃ a d m head e,
    entry = .action (.expire a d) ∧ db.clock ≤ a.readings.now ∧ s.expirations = db.expirations ++ [e] ∧
      Expires db a d m head e) entry (fun hsame => absurd rfl hsame) ?_ ?_ hnew
  · intro action committed hentry hclock hperf hnew
    obtain ⟨a, d, rfl⟩ := expirations_of_perform hperf hnew
    obtain ⟨⟨outcome, result⟩, hexpire, rfl⟩ := map_eq_ok.mp hperf
    rcases expire_eq_ok hexpire with rfl | ⟨m, head, e, released, source, he, extra, reason, decidedAt, rfl⟩
    · exact absurd rfl hnew
    · exact ⟨a, d, m, head, e, hentry, hclock, rfl, h.expires he⟩
  · intro r committed _ hretain hnew
    obtain ⟨s, reason, decidedAt, -, -, -, -, hexpirations, -⟩ := retain_eq_ok hretain
    exact absurd hexpirations hnew

/-- The deliveries, repairs and recoveries of a source. -/
def Action.concerns (db : Database) (m : RoutingManifest) : Action → Prop
  | .expire _ d => d.target.routingManifestId = m.id
  | .recover _ r => r.routingManifestId = m.id
  | .recoverMissingRoot _ r => r.routingManifestId = m.id
  | .repair _ r => ∃ parent ∈ db.preparations, parent.id = r.parentPreparationId ∧
      parent.routingManifestId = m.id
  | _ => False

/-- The task, its assignments and its attempts. -/
structure SameWork (db after : Database) : Prop where
  task : after.task = db.task
  assignments : after.assignments = db.assignments
  submissions : after.submissions = db.submissions

theorem SameWork.refl (db : Database) : SameWork db db := ⟨rfl, rfl, rfl⟩

/-- An ended source is not prepared, exhausted or expired again, so that at most an intent is announced. -/
theorem Sound.sameWork_perform (h : Sound db) (hm : m ∈ db.manifests) (hended : db.ends m ≠ 0)
    (hconcerns : action.concerns db m) (hperf : db.perform action = .ok after) :
    SameWork db after := by
  have hsame : ∀ {other : RoutingManifest}, other ∈ db.manifests → other.id = m.id → other = m :=
    fun hother hid => Table.eq_of_key_eq h.manifestIds hother hm hid
  cases action with
  | claim | submit | route => exact hconcerns.elim
  | repair =>
    rcases repairRevisionContext_eq_ok hperf with rfl | ⟨parent, other, row, hpar, hid, hother, hprep⟩
    · exact SameWork.refl _
    · obtain ⟨named, hnamed, hnamedId, hnamedManifest⟩ := hconcerns
      obtain ⟨hparentMem, hparentId⟩ := findPreparation_eq_some hpar
      have hparentSame : parent = named :=
        Table.eq_of_key_eq h.preparationIds hparentMem hnamed (hparentId.trans hnamedId.symm)
      have hman : other.id = m.id := by
        rw [← hid, hparentSame]
        exact hnamedManifest
      rw [hsame hother hman] at hprep
      exact absurd (hprep.toInserted.ends_eq_zero h hm) hended
  | recoverMissingRoot =>
    rcases recoverMissingRevisionRoot_eq_ok hperf with rfl | ⟨other, row, hid, hother, hprep⟩
    · exact SameWork.refl _
    · rw [hsame hother (hid.trans hconcerns)] at hprep
      exact absurd (hprep.toInserted.ends_eq_zero h hm) hended
  | recover =>
    obtain ⟨⟨gained, committed⟩, hrecover, rfl⟩ := map_eq_ok.mp hperf
    rcases recover_eq_ok hrecover with ⟨extra, rfl⟩ | ⟨other, assignment, latest, hfound, -, -, -, hrest⟩
    · exact ⟨rfl, rfl, rfl⟩
    · obtain ⟨hother, hid⟩ := findManifest_eq_some hfound
      rw [hsame hother (hid.trans hconcerns)] at hrest
      rcases hrest with ⟨row, hprep⟩ | ⟨e, extra, reason, decidedAt, ⟨released, s, policy, he⟩, -⟩
      · exact absurd (hprep.toInserted.ends_eq_zero h hm) hended
      · exact absurd (he.ends_eq_zero h hm) hended
  | expire =>
    obtain ⟨⟨outcome, committed⟩, hexpire, rfl⟩ := map_eq_ok.mp hperf
    rcases expire_eq_ok hexpire with rfl | ⟨other, head, e, released, source, he, -⟩
    · exact SameWork.refl _
    · obtain ⟨hother, hid⟩ := findManifest_eq_some he.manifest_eq
      rw [hsame hother (hid.trans hconcerns)] at he
      exact absurd (he.ends_eq_zero h) hended

theorem Sound.sameWork_step (h : Sound db) (hm : m ∈ db.manifests) (hended : db.ends m ≠ 0)
    (hconcerns : action.concerns db m) : SameWork db (db.step action) := by
  unfold Database.step
  split
  · cases hperf : db.perform action with
    | error refusal => exact SameWork.refl db
    | ok committed =>
      exact { h.sameWork_perform hm hended hconcerns hperf with }
  · exact SameWork.refl db

/-- A revision window ends once. In every state `now` that a fresh task can reach, retained routings included:
a returned source has at most one end on record; an expiration is recorded only by a delivery for the running
head of its chain, whose deadline the timer names and the clock has reached; every running head has its timer;
and after the end of a window, whatever happens `later`, no delivery, repair or recovery for it changes the
task, an assignment or an attempt. -/
theorem revisionWindow_ends_once {db now : Database} {entries : List Entry} (h : db.Fresh)
    (hnow : now = run Database.entryStep db entries) :
    (∀ m ∈ now.manifests, m.routingRecommendation = .needsRevision → now.ends m ≤ 1) ∧
    (∀ entry, (now.entryStep entry).expirations ≠ now.expirations → ∃ a d m head e,
      entry = .action (.expire a d) ∧ now.clock ≤ a.readings.now ∧
        (now.entryStep entry).expirations = now.expirations ++ [e] ∧ Expires now a d m head e) ∧
    (∀ p ∈ now.preparations, now.isChainHead p = true → ∀ deadline, p.deadlineAt = some deadline →
      ∃ e ∈ now.events, e.Times p.routingManifestId deadline) ∧
    (∀ m ∈ now.manifests, m.routingRecommendation = .needsRevision → now.ends m ≠ 0 → ∀ later action,
      action.concerns (run Database.entryStep now later) m →
        SameWork (run Database.entryStep now later) ((run Database.entryStep now later).step action)) := by
  have hsound : Sound now := hnow ▸ Sound.run h entries
  refine ⟨?_, ?_, ?_, ?_⟩
  · exact fun m hm _ => (hnow ▸ single_run h entries : now.Single) m hm
  · exact fun entry hnew => hsound.expires_of_entryStep entry hnew
  · exact fun p hp _ deadline hdeadline => hsound.timers p hp deadline hdeadline
  · intro m hm _ hended later action hconcerns
    have hgrows : Grows now (run Database.entryStep now later) := Grows.run now later
    have hlater : Sound (run Database.entryStep now later) :=
      run_invariant hsound (fun _ entry hs => hs.entryStep entry) later
    have hstill : (run Database.entryStep now later).ends m ≠ 0 := by
      have hle := hgrows.ends_le m
      omega
    exact hlater.sameWork_step (hgrows.manifests.subset hm) hstill hconcerns

/-! A window that opens at 10 and expires an hour later. -/

def sampleFresh : Database where
  task := ⟨"task", "project", .ready, none, sampleLineage, ""⟩
  revisionPolicies := fun _ => some samplePolicy
  assignments := []
  submissions := []
  manifests := []
  preparations := []
  expirations := []
  exhaustions := []
  events := []
  clock := 0

def sampleAnswers (time : Nat) : Answers where
  readings := ⟨time, time, time, Nat.le_refl time, Nat.le_refl time⟩
  authorized := true
  fenceCurrent := true
  locked := some sampleSnapshot
  active := some ⟨sampleSnapshot, "body"⟩

def sampleRouting : RoutingRequest :=
  ⟨"submission", "run", "result", 1, "completion", [⟨true, []⟩], false, "manifest", "outcome", "receipt",
    ⟨"root", "sha256:root", "timer"⟩, none⟩

def sampleDelivery : ExpiryDelivery where
  eventId := "timer"
  idempotencyKey := "task.revision.expire:manifest"
  correlationId := "manifest"
  causationEventId := "outcome"
  target := ⟨"project", "task", "assignment", "contributor", "submission", "manifest", "root", "sha256:root",
    3600000010⟩
  observed := true
  fenced := true
  evidence := true
  expirationId := "expiration"
  outcomeEventId := "expired"

def sampleEntries : List Entry :=
  [.action (.claim (sampleAnswers 1) ⟨"assignment", "contributor"⟩),
    .action (.submit (sampleAnswers 2) ⟨"assignment", "contributor", none, "submission"⟩),
    .action (.route (sampleAnswers 10) sampleRouting),
    .action (.expire (sampleAnswers 3600000010) sampleDelivery)]

def sampleExpired : Database := run Database.entryStep sampleFresh sampleEntries

theorem sampleFresh_fresh : sampleFresh.Fresh := ⟨rfl, rfl, rfl, rfl, rfl, rfl, rfl, rfl, rfl⟩

theorem revisionWindow_ends_once_sampleExpired :
    (∃ m ∈ sampleExpired.manifests, m.routingRecommendation = .needsRevision ∧ sampleExpired.ends m = 1) ∧
      SameWork sampleExpired (sampleExpired.step (.expire (sampleAnswers 3600000020) sampleDelivery)) := by
  have hends := revisionWindow_ends_once sampleFresh_fresh (rfl : sampleExpired = _)
  have hman : ∃ m ∈ sampleExpired.manifests, m.routingRecommendation = .needsRevision ∧
      sampleExpired.ends m = 1 ∧ m.id = "manifest" := by decide +kernel
  obtain ⟨m, hm, hneeds, hone, hid⟩ := hman
  refine ⟨⟨m, hm, hneeds, hone⟩, ?_⟩
  exact hends.2.2.2 m hm hneeds (by omega) [] _ hid.symm

end Workstream.Revision
