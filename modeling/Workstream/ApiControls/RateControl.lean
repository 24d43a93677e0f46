import Mathlib.Data.List.Count
import Mathlib.Data.List.Perm.Basic
import Workstream.Core
import Workstream.Foundation.Runs
import Workstream.Foundation.Tables

/-!
# Rate control counters

`api_controls/repository.py` and `service.py`: one counter row for each scope and key, written by an
upsert that reads the clock when its statement starts and takes effect when it gets the row.
-/

namespace Workstream.ApiControls
open Foundation

inductive ControlScope
  | firstAccess
  | adminMutation
  | authorizationRead
deriving DecidableEq

/-- A scope and the digest of what is counted in it. -/
structure CounterKey where
  controlScope : ControlScope
  keyDigest : String
deriving DecidableEq

/-- `ApiRateControlCounter` -/
structure Counter where
  windowStartedAt : Nat
  windowExpiresAt : Nat
  requestCount : Nat
  updatedAt : Nat

/-- The configured limit and window of a scope. -/
structure Limits where
  limit : Nat
  windowSeconds : Nat
  limitRange : 1 ≤ limit ∧ limit ≤ 10000
  windowRange : 1 ≤ windowSeconds ∧ windowSeconds ≤ 3600

/-- `make_interval(secs => :window_seconds)` -/
def Limits.window (limits : Limits) : Nat := limits.windowSeconds * 1000000

def maximumCount : Nat := 9223372036854775807

/-- What the upsert returns to its caller. -/
structure ConsumedCounter where
  dbNow : Nat
  windowStartedAt : Nat
  windowExpiresAt : Nat
  requestCount : Nat

/-- The row that `UPSERT_COUNTER` leaves: one call more, or a new window. -/
def upsertCounter (window now : Nat) : Option Counter → Counter
  | none => ⟨now, now + window, 1, now⟩
  | some row =>
    if row.windowExpiresAt ≤ now then ⟨now, now + window, 1, now⟩
    else { row with
      requestCount := if row.requestCount = maximumCount then row.requestCount else row.requestCount + 1
      updatedAt := now }

def Counter.consumed (row : Counter) (now : Nat) : ConsumedCounter :=
  ⟨now, row.windowStartedAt, row.windowExpiresAt, row.requestCount⟩

/-- The table of counters, one row for a key. -/
def Counters : Type := CounterKey → Option Counter

/-- The table after the upsert of a key. -/
def Counters.consume (counters : Counters) (window : Nat) (key : CounterKey) (now : Nat) : Counters :=
  fun other => if other = key then some (upsertCounter window now (counters key)) else counters other

/-- `PRUNE_EXPIRED`, on the rows of other keys that its batch found and could lock. -/
def Counters.pruneExpired (counters : Counters) (key : CounterKey) (now : Nat)
    (batch : List CounterKey) : Counters :=
  fun other =>
    if other ≠ key ∧ other ∈ batch ∧ (counters other).any (fun row => row.windowExpiresAt ≤ now) then none
    else counters other

/-- What a caller is told: allowed, or how long to wait. -/
structure RateControlDecision where
  allowed : Bool
  requestCount : Nat
  retryAfter : Nat

/-- The decision of `RateControlService.consume`; seconds are rounded up. -/
def Limits.decision (limits : Limits) (consumed : ConsumedCounter) : RateControlDecision where
  allowed := consumed.requestCount ≤ limits.limit
  requestCount := consumed.requestCount
  retryAfter := max 1 (min limits.windowSeconds
    ((consumed.windowExpiresAt - consumed.dbNow + 999999) / 1000000))

/-- A call of a key, or the prune that goes with a call. -/
inductive Action
  | consume (key : CounterKey) (now : Nat)
  | prune (key : CounterKey) (now : Nat) (batch : List CounterKey)

/-- A call of a key, with the ordinal of the recorded window that counted it. -/
structure Call extends ConsumedCounter where
  window : Nat

/-- The windows that the calls of a key recorded: a window begins with its first call. -/
def recordedWindows (calls : List Call) : Nat := calls.countP (fun c => c.requestCount = 1)

/-- The counters, and the calls of one key in the order in which their upserts took effect. -/
structure History where
  counters : Counters
  calls : List Call

def History.call (h : History) (consumed : ConsumedCounter) : Call where
  toConsumedCounter := consumed
  window := if consumed.requestCount = 1 then recordedWindows h.calls + 1 else recordedWindows h.calls

section System

variable (settings : ControlScope → Limits) (key : CounterKey)

/-- One statement, with the call of `key` that it adds. -/
def History.step (h : History) : Action → History
  | .consume other now =>
    let row := upsertCounter (settings other.controlScope).window now (h.counters other)
    { counters := h.counters.consume (settings other.controlScope).window other now
      calls := if other = key then h.calls ++ [h.call (row.consumed now)] else h.calls }
  | .prune other now batch => { h with counters := h.counters.pruneExpired other now batch }

end System

/-- A key that was never used. -/
def History.fresh (counters : Counters) (key : CounterKey) : History :=
  ⟨fun other => if other = key then none else counters other, []⟩

/-- A call took effect after a window whose end is past its clock was replaced or pruned. -/
def Late (calls : List Call) (c : Call) : Prop :=
  ∃ d ∈ calls, d.window < c.window ∧ c.dbNow < d.windowExpiresAt

instance (calls : List Call) (c : Call) : Decidable (Late calls c) :=
  inferInstanceAs (Decidable (∃ d ∈ calls, d.window < c.window ∧ c.dbNow < d.windowExpiresAt))

/-- No window was recorded by a late call. -/
def RecordedInTime (calls : List Call) : Prop := ∀ c ∈ calls, c.requestCount = 1 → ¬Late calls c

structure Precedes (c d : Call) : Prop where
  window : c.window ≤ d.window
  started : c.window = d.window → c.windowStartedAt = d.windowStartedAt
  expires : c.window = d.window → c.windowExpiresAt = d.windowExpiresAt
  count : c.window = d.window → c.requestCount < d.requestCount ∨ maximumCount ≤ d.requestCount

/-- A call as its statement returned it. -/
structure Shaped (window : Nat) (c : Call) : Prop where
  length : c.windowExpiresAt = c.windowStartedAt + window
  unexpired : c.dbNow < c.windowExpiresAt
  positive : 1 ≤ c.requestCount

/-- The calls of a key and its row. -/
structure Counted (window : Nat) (key : CounterKey) (h : History) : Prop where
  shaped : ∀ c ∈ h.calls, Shaped window c
  ordered : h.calls.Pairwise Precedes
  current : ∀ c, h.calls.getLast? = some c → c.window = recordedWindows h.calls
  row : ∀ row, h.counters key = some row → ∃ c, h.calls.getLast? = some c ∧
    row.windowStartedAt = c.windowStartedAt ∧ row.windowExpiresAt = c.windowExpiresAt ∧
    row.requestCount = c.requestCount
  recorded : ∀ c ∈ h.calls, ∃ first ∈ h.calls, first.window = c.window ∧ first.requestCount = 1 ∧
    first.dbNow = c.windowStartedAt

variable {window now : Nat} {key : CounterKey} {h : History}

variable {c : Call}

theorem Counted.window_le (hc : Counted window key h) (hmem : c ∈ h.calls) :
    c.window ≤ recordedWindows h.calls := by
  have hne : h.calls ≠ [] := List.ne_nil_of_mem hmem
  have hlast := hc.current _ (List.getLast?_eq_some_getLast hne)
  have hord := hc.ordered
  rw [← List.dropLast_append_getLast hne] at hord hmem
  rw [← hlast]
  rcases Table.mem_append hmem with hmem | rfl
  · exact ((List.pairwise_append.mp hord).2.2 c hmem _ (List.mem_singleton_self _)).window
  · rfl

variable {counters : Counters} {row : Counter}

theorem Counted.record (hc : Counted window key h) (hrow : row = ⟨now, now + window, 1, now⟩)
    (hpos : 0 < window) (hcounters : counters key = some row) :
    Counted window key ⟨counters, h.calls ++ [h.call (row.consumed now)]⟩ := by
  subst hrow
  have hwindows : recordedWindows (h.calls ++ [h.call ⟨now, now, now + window, 1⟩]) =
      recordedWindows h.calls + 1 := by
    simp [recordedWindows, History.call]
  refine ⟨?_, ?_, ?_, ?_, ?_⟩
  · exact Table.forall_append hc.shaped ⟨rfl, Nat.lt_add_of_pos_right hpos, Nat.le_refl 1⟩
  · refine List.pairwise_append.mpr ⟨hc.ordered, List.pairwise_singleton _ _, fun c hmem d hd => ?_⟩
    have hlt : c.window < d.window := by
      rw [List.mem_singleton.mp hd]
      exact Nat.lt_succ_of_le (hc.window_le hmem)
    exact ⟨hlt.le, fun heq => absurd heq hlt.ne, fun heq => absurd heq hlt.ne, fun heq => absurd heq hlt.ne⟩
  · intro c hlast
    rw [List.getLast?_concat] at hlast
    cases hlast
    exact hwindows.symm
  · intro other hother
    cases hcounters.symm.trans hother
    exact ⟨_, List.getLast?_concat, rfl, rfl, rfl⟩
  · intro c hmem
    rcases Table.mem_append hmem with hmem | rfl
    · obtain ⟨first, hfirst, hfacts⟩ := hc.recorded c hmem
      exact ⟨first, List.mem_append_left _ hfirst, hfacts⟩
    · exact ⟨_, List.mem_concat_self, rfl, rfl, rfl⟩

theorem Counted.count (hc : Counted window key h) {old : Counter} (hold : h.counters key = some old)
    (hunexpired : now < old.windowExpiresAt) (hrow : row = { old with
      requestCount := if old.requestCount = maximumCount then old.requestCount else old.requestCount + 1
      updatedAt := now }) (hcounters : counters key = some row) :
    Counted window key ⟨counters, h.calls ++ [h.call (row.consumed now)]⟩ := by
  obtain ⟨last, hlast, hstarted, hexp, hcount⟩ := hc.row old hold
  have hmem : last ∈ h.calls := List.mem_of_getLast? hlast
  have hpos := (hc.shaped last hmem).positive
  have hgrows : row.requestCount ≠ 1 ∧ 1 ≤ row.requestCount ∧
      (last.requestCount < row.requestCount ∨ maximumCount ≤ row.requestCount) := by
    rw [hrow, hcount]
    dsimp only
    unfold maximumCount
    split <;> omega
  have hwindow : (h.call (row.consumed now)).window = recordedWindows h.calls := if_neg hgrows.1
  have hwindows : recordedWindows (h.calls ++ [h.call (row.consumed now)]) = recordedWindows h.calls := by
    simp [recordedWindows, History.call, Counter.consumed, hgrows.1]
  have hrowStarted : row.windowStartedAt = last.windowStartedAt := by rw [hrow, hstarted]
  have hrowExpires : row.windowExpiresAt = last.windowExpiresAt := by rw [hrow, hexp]
  refine ⟨?_, ?_, ?_, ?_, ?_⟩
  · intro c hc'
    rcases Table.mem_append hc' with hc' | rfl
    · exact hc.shaped c hc'
    · refine ⟨?_, ?_, hgrows.2.1⟩
      · exact (hrowExpires.trans (hc.shaped last hmem).length).trans (by rw [← hrowStarted]; rfl)
      · exact lt_of_lt_of_eq hunexpired (hexp.trans hrowExpires.symm)
  · refine List.pairwise_append.mpr ⟨hc.ordered, List.pairwise_singleton _ _, fun c hmemc d hd => ?_⟩
    rw [List.mem_singleton.mp hd]
    -- What precedes the last call, or is it, precedes the new one.
    have hbefore : c = last ∨ Precedes c last := by
      have hne : h.calls ≠ [] := List.ne_nil_of_mem hmem
      have hgetLast : h.calls.getLast hne = last :=
        Option.some.inj ((List.getLast?_eq_some_getLast hne).symm.trans hlast)
      have hord := hc.ordered
      rw [← List.dropLast_append_getLast hne, hgetLast] at hord hmemc
      rcases List.mem_append.mp hmemc with hmemc | hmemc
      · exact .inr ((List.pairwise_append.mp hord).2.2 c hmemc _ (List.mem_singleton_self _))
      · exact .inl (List.mem_singleton.mp hmemc)
    have hsame : (h.call (row.consumed now)).window = last.window :=
      hwindow.trans (hc.current last hlast).symm
    rcases hbefore with rfl | hbefore
    · exact ⟨hsame.ge, fun _ => hrowStarted.symm, fun _ => hrowExpires.symm, fun _ => hgrows.2.2⟩
    · refine ⟨hbefore.window.trans hsame.ge, fun heq => ?_, fun heq => ?_, fun heq => ?_⟩
      · exact (hbefore.started (heq.trans hsame)).trans hrowStarted.symm
      · exact (hbefore.expires (heq.trans hsame)).trans hrowExpires.symm
      · have hlt := hbefore.count (heq.trans hsame)
        have hnext := hgrows.2.2
        change c.requestCount < row.requestCount ∨ maximumCount ≤ row.requestCount
        omega
  · intro c hc'
    rw [List.getLast?_concat] at hc'
    cases hc'
    exact hwindow.trans hwindows.symm
  · intro other hother
    cases hcounters.symm.trans hother
    exact ⟨_, List.getLast?_concat, rfl, rfl, rfl⟩
  · intro c hc'
    rcases Table.mem_append hc' with hc' | rfl
    · obtain ⟨first, hfirst, hfacts⟩ := hc.recorded c hc'
      exact ⟨first, List.mem_append_left _ hfirst, hfacts⟩
    · obtain ⟨first, hfirst, hfirstWindow, hone, hnow⟩ := hc.recorded last hmem
      exact ⟨first, List.mem_append_left _ hfirst,
        hfirstWindow.trans ((hc.current last hlast).trans hwindow.symm), hone, hnow.trans hrowStarted.symm⟩

section Runs

variable {settings : ControlScope → Limits}

theorem Limits.window_pos (limits : Limits) : 0 < limits.window :=
  Nat.mul_pos limits.windowRange.1 (by decide)

theorem Counted.consume (hc : Counted (settings key.controlScope).window key h) (now : Nat) :
    Counted (settings key.controlScope).window key (h.step settings key (.consume key now)) := by
  have hcounters : (h.counters.consume (settings key.controlScope).window key now) key =
      some (upsertCounter (settings key.controlScope).window now (h.counters key)) := if_pos rfl
  unfold History.step
  dsimp only
  rw [if_pos rfl]
  cases hrow : h.counters key with
  | none =>
    rw [hrow] at hcounters
    exact hc.record rfl (settings key.controlScope).window_pos hcounters
  | some row =>
    rw [hrow] at hcounters
    by_cases hexp : row.windowExpiresAt ≤ now
    · exact hc.record (if_pos hexp) (settings key.controlScope).window_pos hcounters
    · exact hc.count hrow (Nat.lt_of_not_le hexp) (if_neg hexp) hcounters

/-- A prune leaves the row of a key as it is, or deletes one that is expired at the prune's clock. -/
theorem pruneExpired_cases (counters : Counters) (key other : CounterKey) (now : Nat)
    (batch : List CounterKey) :
    counters.pruneExpired other now batch key = counters key ∨
      counters.pruneExpired other now batch key = none ∧ ∃ row, counters key = some row ∧
        row.windowExpiresAt ≤ now := by
  unfold Counters.pruneExpired
  split
  · next hpruned =>
    obtain ⟨row, hrow, hexp⟩ := (Option.any_eq_true _ _).mp hpruned.2.2
    exact .inr ⟨rfl, row, hrow, of_decide_eq_true hexp⟩
  · exact .inl rfl

theorem Counted.step (hc : Counted (settings key.controlScope).window key h) (action : Action) :
    Counted (settings key.controlScope).window key (h.step settings key action) := by
  cases action with
  | consume other now =>
    by_cases hkey : other = key
    · rw [hkey]
      exact hc.consume now
    · have hrow : (h.counters.consume (settings other.controlScope).window other now) key = h.counters key :=
        if_neg (Ne.symm hkey)
      have hcalls : (h.step settings key (.consume other now)).calls = h.calls := if_neg hkey
      refine ⟨?_, ?_, ?_, ?_, ?_⟩
      · rw [hcalls]
        exact hc.shaped
      · rw [hcalls]
        exact hc.ordered
      · rw [hcalls]
        exact hc.current
      · rw [hcalls]
        exact fun row hkept => hc.row row (hrow.symm.trans hkept)
      · rw [hcalls]
        exact hc.recorded
  | prune other now batch =>
    refine ⟨hc.shaped, hc.ordered, hc.current, fun row hkept => ?_, hc.recorded⟩
    rcases pruneExpired_cases h.counters key other now batch with hsame | ⟨hnone, -⟩
    · exact hc.row row (hsame.symm.trans hkept)
    · cases hnone.symm.trans hkept

theorem Counted.fresh (window : Nat) (counters : Counters) (key : CounterKey) :
    Counted window key (History.fresh counters key) := by
  refine ⟨nofun, List.Pairwise.nil, nofun, fun row hrow => ?_, nofun⟩
  simp [History.fresh] at hrow

theorem Counted.run (counters : Counters) (actions : List Action) :
    Counted (settings key.controlScope).window key
      (run (History.step settings key) (History.fresh counters key) actions) :=
  run_invariant (Counted.fresh _ counters key) (fun _ action hc => hc.step action) actions

end Runs

variable {limits : Limits}

theorem Counted.allowed_le (hc : Counted window key h) (w : Nat) :
    h.calls.countP (fun c => c.window = w ∧ (limits.decision c.toConsumedCounter).allowed) ≤
      limits.limit := by
  rw [List.countP_eq_length_filter]
  generalize hcalls : h.calls.filter _ = calls
  have hmem : ∀ c ∈ calls, c ∈ h.calls ∧ c.window = w ∧ c.requestCount ≤ limits.limit := by
    intro c hmem
    rw [← hcalls, List.mem_filter] at hmem
    simpa [Limits.decision] using hmem
  have hnodup : (calls.map (fun c => c.requestCount)).Nodup := by
    have hord : calls.Pairwise Precedes := hcalls ▸ hc.ordered.filter _
    rw [List.Nodup, List.pairwise_map]
    refine hord.imp_of_mem (fun {c d} hcm hdm hprecedes => ?_)
    have hcount := hprecedes.count ((hmem c hcm).2.1.trans (hmem d hdm).2.1.symm)
    have hlimit := (hmem d hdm).2.2
    have hrange := limits.limitRange.2
    unfold maximumCount at hcount
    omega
  have hsubset : calls.map (fun c => c.requestCount) ⊆ List.range' 1 limits.limit := by
    intro count hcount
    obtain ⟨c, hcm, rfl⟩ := List.mem_map.mp hcount
    have hpos := (hc.shaped c (hmem c hcm).1).positive
    have hlimit := (hmem c hcm).2.2
    rw [List.mem_range'_1]
    omega
  have hlen := (List.subperm_of_subset hnodup hsubset).length_le
  simpa using hlen

variable {d : Call}

/-- Windows recorded in time follow each other. -/
theorem Counted.disjoint (hc : Counted window key h) (htime : RecordedInTime h.calls) (hcm : c ∈ h.calls)
    (hdm : d ∈ h.calls) (hlt : c.window < d.window) : c.windowExpiresAt ≤ d.windowStartedAt := by
  obtain ⟨first, hfirst, hwindow, hone, hnow⟩ := hc.recorded d hdm
  rw [← hnow]
  refine Nat.le_of_not_lt (fun hlate => htime first hfirst hone ⟨c, hcm, ?_, hlate⟩)
  rw [hwindow]
  exact hlt

/-- A call in time whose clock lies in a recorded window was counted in it. -/
theorem Counted.window_eq (hc : Counted window key h) (htime : RecordedInTime h.calls)
    (hcm : c ∈ h.calls) (hdm : d ∈ h.calls) (hintime : ¬Late h.calls d)
    (hstart : c.windowStartedAt ≤ d.dbNow) (hend : d.dbNow < c.windowExpiresAt) :
    d.window = c.window := by
  rcases Nat.lt_trichotomy d.window c.window with hlt | heq | hgt
  · have hbefore := hc.disjoint htime hdm hcm hlt
    have hunexpired := (hc.shaped d hdm).unexpired
    omega
  · exact heq
  · exact absurd ⟨c, hcm, hgt, hend⟩ hintime

/-- An interval as long as a window meets the calls in time of at most two windows. -/
theorem Counted.window_between (hc : Counted window key h) (htime : RecordedInTime h.calls) {e : Call}
    (hcm : c ∈ h.calls) (hdm : d ∈ h.calls) (hintime : ¬Late h.calls e) (hcd : c.window < d.window)
    (hde : d.window < e.window) : c.dbNow + window < e.dbNow := by
  have hc' := (hc.shaped c hcm).unexpired
  have hd' := (hc.shaped d hdm).length
  have hbefore := hc.disjoint htime hcm hdm hcd
  have hafter : d.windowExpiresAt ≤ e.dbNow := Nat.le_of_not_lt (fun hlate => hintime ⟨d, hdm, hde, hlate⟩)
  omega

/-- Any interval as long as a window contains at most twice the limit of allowed calls in time. -/
theorem Counted.allowed_le_two_mul (hc : Counted window key h) (htime : RecordedInTime h.calls)
    (start : Nat) :
    h.calls.countP (fun c => ¬Late h.calls c ∧ start ≤ c.dbNow ∧ c.dbNow < start + window ∧
      (limits.decision c.toConsumedCounter).allowed) ≤ 2 * limits.limit := by
  by_cases hnone : ∀ c ∈ h.calls, ¬(¬Late h.calls c ∧ start ≤ c.dbNow ∧ c.dbNow < start + window ∧
      (limits.decision c.toConsumedCounter).allowed)
  · have hzero : h.calls.countP (fun c => ¬Late h.calls c ∧ start ≤ c.dbNow ∧ c.dbNow < start + window ∧
        (limits.decision c.toConsumedCounter).allowed) = 0 := by
      rw [List.countP_eq_zero]
      intro c hcm
      simpa using hnone c hcm
    omega
  · push Not at hnone
    obtain ⟨b, hbm, hb⟩ := hnone
    -- Every other such call is of one further window, which depends on which side of `b` one of them lies.
    obtain ⟨other, hother⟩ : ∃ other, ∀ c ∈ h.calls, ¬Late h.calls c → start ≤ c.dbNow →
        c.dbNow < start + window → c.window = b.window ∨ c.window = other := by
      by_cases hfar : ∃ d ∈ h.calls, ¬Late h.calls d ∧ start ≤ d.dbNow ∧ d.dbNow < start + window ∧
          d.window ≠ b.window
      · obtain ⟨d, hdm, hd, hdstart, hdend, hdne⟩ := hfar
        refine ⟨d.window, fun c hcm hintime hstart hend => ?_⟩
        by_contra hne
        push Not at hne
        have hspread : ∀ {x y z : Call}, x ∈ h.calls → y ∈ h.calls → ¬Late h.calls z →
            start ≤ x.dbNow → z.dbNow < start + window → x.window < y.window → y.window < z.window →
              False := by
          intro x y z hx hy hintime hstart hend hxy hyz
          have := hc.window_between htime hx hy hintime hxy hyz
          omega
        rcases Nat.lt_or_gt_of_ne hdne with hdb | hdb
        · rcases Nat.lt_or_gt_of_ne hne.2 with hcd | hcd
          · exact hspread hcm hdm hb.1 hstart hb.2.2.1 hcd hdb
          · rcases Nat.lt_or_gt_of_ne hne.1 with hcb | hcb
            · exact hspread hdm hcm hb.1 hdstart hb.2.2.1 hcd hcb
            · exact hspread hdm hbm hintime hdstart hend hdb hcb
        · rcases Nat.lt_or_gt_of_ne hne.1 with hcb | hcb
          · exact hspread hcm hbm hd hstart hdend hcb hdb
          · rcases Nat.lt_or_gt_of_ne hne.2 with hcd | hcd
            · exact hspread hbm hcm hd hb.2.1 hdend hcb hcd
            · exact hspread hbm hdm hintime hb.2.1 hend hdb hcd
      · push Not at hfar
        exact ⟨b.window, fun c hcm hintime hstart hend => .inl (hfar c hcm hintime hstart hend)⟩
    have hsplit : h.calls.countP (fun c => ¬Late h.calls c ∧ start ≤ c.dbNow ∧ c.dbNow < start + window ∧
          (limits.decision c.toConsumedCounter).allowed) ≤
        h.calls.countP (fun c => c.window = b.window ∧ (limits.decision c.toConsumedCounter).allowed) +
          h.calls.countP (fun c => c.window = other ∧ (limits.decision c.toConsumedCounter).allowed) := by
      refine Table.countP_le_add (fun c hcm hp => ?_)
      simp only [decide_eq_true_eq] at hp ⊢
      rcases hother c hcm hp.1 hp.2.1 hp.2.2.1 with hw | hw
      · exact .inl ⟨hw, hp.2.2.2⟩
      · exact .inr ⟨hw, hp.2.2.2⟩
    have hfirst : h.calls.countP (fun c => c.window = b.window ∧
      (limits.decision c.toConsumedCounter).allowed) ≤
        limits.limit := hc.allowed_le b.window
    have hsecond : h.calls.countP (fun c => c.window = other ∧
      (limits.decision c.toConsumedCounter).allowed) ≤
        limits.limit := hc.allowed_le other
    omega

theorem row_of_quiet (settings : ControlScope → Limits) (h : History) {quiet : List Action}
    (hquiet : ∀ action ∈ quiet, ∀ now, action ≠ .consume key now) :
    (run (History.step settings key) h quiet).calls = h.calls ∧
      ((run (History.step settings key) h quiet).counters key = h.counters key ∨
        (run (History.step settings key) h quiet).counters key = none) := by
  induction quiet generalizing h with
  | nil => exact ⟨rfl, .inl rfl⟩
  | cons action quiet ih =>
    have hrest := ih (h.step settings key action) (fun a ha => hquiet a (List.mem_cons_of_mem _ ha))
    have hstep : (h.step settings key action).calls = h.calls ∧
        ((h.step settings key action).counters key = h.counters key ∨
          (h.step settings key action).counters key = none) := by
      cases action with
      | consume other now =>
        have hkey : other ≠ key := by
          rintro rfl
          exact hquiet _ (List.mem_cons_self ..) now rfl
        exact ⟨if_neg hkey, .inl (if_neg (Ne.symm hkey))⟩
      | prune other now batch =>
        exact ⟨rfl, (pruneExpired_cases h.counters key other now batch).imp id (fun hpruned => hpruned.1)⟩
    rw [run_cons]
    refine ⟨hrest.1.trans hstep.1, ?_⟩
    rcases hrest.2 with hsame | hnone
    · rw [hsame]
      exact hstep.2
    · exact .inr hnone

theorem retryAfter_range (limits : Limits) (consumed : ConsumedCounter) :
    1 ≤ (limits.decision consumed).retryAfter ∧ (limits.decision consumed).retryAfter ≤
      limits.windowSeconds := by
  have hwindow := limits.windowRange.1
  unfold Limits.decision
  dsimp only
  omega

/-- Waiting as told passes the end of the window that a call's own clock lies in. -/
theorem retryAfter_expires (limits : Limits) {consumed : ConsumedCounter}
    (hlen : consumed.windowExpiresAt = consumed.windowStartedAt + limits.window)
    (hstarted : consumed.windowStartedAt ≤ consumed.dbNow) :
    consumed.windowExpiresAt ≤ consumed.dbNow + (limits.decision consumed).retryAfter * 1000000 := by
  unfold Limits.decision
  unfold Limits.window at hlen
  dsimp only
  omega

theorem consume_of_expired (settings : ControlScope → Limits) {later : Nat}
    (hexp : ∀ row, h.counters key = some row → row.windowExpiresAt ≤ later) :
    ∃ d, (h.step settings key (.consume key later)).calls = h.calls ++ [d] ∧ d.dbNow = later ∧
      d.requestCount = 1 := by
  refine ⟨_, if_pos rfl, rfl, ?_⟩
  cases hrow : h.counters key with
  | none => rfl
  | some row =>
    have hreset : upsertCounter (settings key.controlScope).window later (some row) =
        ⟨later, later + (settings key.controlScope).window, 1, later⟩ := if_pos (hexp row hrow)
    rw [hreset]
    rfl

/-- In every history of a key, whatever clocks its calls and the prunes of other keys have: recorded
windows have the configured length, and each counts at most the limit of allowed calls. When no late
call records a window the windows follow each other, at most the limit of calls in time are allowed in
one of them, and at most twice the limit in any interval of its length. A prune deletes only a window
that is expired at its own clock. A denied call is told to wait between a second and a window, and
waiting is enough when its clock lies in the window that counted it. -/
theorem rateLimit_holds (settings : ControlScope → Limits) (key : CounterKey) (counters : Counters)
    (actions : List Action) {limits : Limits} {h : History} (hlimits : limits = settings key.controlScope)
    (hrun : h = run (History.step settings key) (History.fresh counters key) actions) :
    (∀ c ∈ h.calls, c.windowExpiresAt = c.windowStartedAt + limits.window) ∧
    (∀ w, h.calls.countP (fun c => c.window = w ∧ (limits.decision c.toConsumedCounter).allowed) ≤
      limits.limit) ∧
    (RecordedInTime h.calls →
      (∀ c ∈ h.calls, ∀ d ∈ h.calls, c.window < d.window → c.windowExpiresAt ≤ d.windowStartedAt) ∧
      (∀ c ∈ h.calls, h.calls.countP (fun d => ¬Late h.calls d ∧ c.windowStartedAt ≤ d.dbNow ∧
        d.dbNow < c.windowExpiresAt ∧ (limits.decision d.toConsumedCounter).allowed) ≤ limits.limit) ∧
      ∀ start, h.calls.countP (fun d => ¬Late h.calls d ∧ start ≤ d.dbNow ∧ d.dbNow < start + limits.window ∧
        (limits.decision d.toConsumedCounter).allowed) ≤ 2 * limits.limit) ∧
    (∀ other now batch, h.counters.pruneExpired other now batch key = h.counters key ∨
      h.counters.pruneExpired other now batch key = none ∧
        ∃ row, h.counters key = some row ∧ row.windowExpiresAt ≤ now) ∧
    ∀ c, h.calls.getLast? = some c → (limits.decision c.toConsumedCounter).allowed = false →
      (1 ≤ (limits.decision c.toConsumedCounter).retryAfter ∧
        (limits.decision c.toConsumedCounter).retryAfter ≤ limits.windowSeconds) ∧
      (c.windowStartedAt ≤ c.dbNow → ∀ quiet : List Action,
        (∀ action ∈ quiet, ∀ now, action ≠ .consume key now) → ∀ later,
        c.dbNow + (limits.decision c.toConsumedCounter).retryAfter * 1000000 ≤ later →
        ∃ d, (run (History.step settings key) h (quiet ++ [.consume key later])).calls = h.calls ++ [d] ∧
          d.dbNow = later ∧ (limits.decision d.toConsumedCounter).allowed) := by
  have hc : Counted limits.window key h := by
    rw [hlimits, hrun]
    exact Counted.run counters actions
  refine ⟨fun c hcm => (hc.shaped c hcm).length, fun w => hc.allowed_le w, fun htime => ⟨?_, ?_, ?_⟩,
    fun other now batch => pruneExpired_cases _ key other now batch, fun c hlast hdenied => ⟨?_, ?_⟩⟩
  · exact fun c hcm d hdm hlt => hc.disjoint htime hcm hdm hlt
  · intro c hcm
    refine le_trans (List.countP_mono_left (fun d hdm hp => ?_)) (hc.allowed_le c.window)
    simp only [decide_eq_true_eq] at hp ⊢
    exact ⟨hc.window_eq htime hcm hdm hp.1 hp.2.1 hp.2.2.1, hp.2.2.2⟩
  · exact fun start => hc.allowed_le_two_mul htime start
  · exact retryAfter_range limits _
  · intro hstarted quiet hquiet later hlater
    have hcm : c ∈ h.calls := List.mem_of_getLast? hlast
    obtain ⟨hcalls, hrow⟩ := row_of_quiet settings h hquiet
    have hexp := (retryAfter_expires limits (hc.shaped c hcm).length hstarted).trans hlater
    have hexpired : ∀ row, (run (History.step settings key) h quiet).counters key = some row →
        row.windowExpiresAt ≤ later := by
      intro row hkept
      rcases hrow with hsame | hnone
      · obtain ⟨last, hgetLast, -, hend, -⟩ := hc.row row (hsame.symm.trans hkept)
        cases hlast.symm.trans hgetLast
        exact hend.trans_le hexp
      · cases hnone.symm.trans hkept
    obtain ⟨d, hd, hnow, hone⟩ := consume_of_expired settings hexpired
    refine ⟨d, ?_, hnow, ?_⟩
    · rw [run_append, ← hcalls]
      exact hd
    · have hlimit := limits.limitRange.1
      simpa [Limits.decision, hone] using hlimit

def sampleLimits : Limits := ⟨2, 10, by decide, by decide⟩

def sampleKey : CounterKey := ⟨.adminMutation, "key"⟩

def sampleHistory (actions : List Action) : History :=
  run (History.step (fun _ => sampleLimits) sampleKey) (History.fresh (fun _ => none) sampleKey) actions

/-- Three windows: the second starts after a prune on the clock of another key, the third after a
denied call; a call with an older clock is counted in the window it meets. -/
def sampleCalls : List Action :=
  [.consume sampleKey 0, .consume sampleKey 9000000, .prune ⟨.firstAccess, "other"⟩ 12000000 [sampleKey],
    .consume sampleKey 12000000, .consume sampleKey 11000000, .consume sampleKey 13000000,
    .consume sampleKey 22000000]

/-- Between nine and nineteen seconds the calls of two windows are counted. -/
theorem rateLimit_holds_sampleCalls :
    RecordedInTime (sampleHistory sampleCalls).calls ∧
      (sampleHistory sampleCalls).calls.map (fun c => (c.window, c.dbNow,
        (sampleLimits.decision c.toConsumedCounter).allowed)) =
          [(1, 0, true), (1, 9000000, true), (2, 12000000, true), (2, 11000000, true),
            (2, 13000000, false), (3, 22000000, true)] ∧
      (sampleHistory sampleCalls).calls.countP (fun d => ¬Late (sampleHistory sampleCalls).calls d ∧
        9000000 ≤ d.dbNow ∧ d.dbNow < 9000000 + sampleLimits.window ∧
        (sampleLimits.decision d.toConsumedCounter).allowed) ≤ 2 * 2 :=
  have htime : RecordedInTime (sampleHistory sampleCalls).calls := by
    unfold RecordedInTime
    decide +kernel
  ⟨htime, by decide +kernel, ((rateLimit_holds (fun _ => sampleLimits) sampleKey (fun _ => none)
    sampleCalls rfl rfl).2.2.1 htime).2.2 9000000⟩

def lateCalls : List Action :=
  [.consume sampleKey 0, .consume sampleKey 1000000, .consume sampleKey 10000000, .consume sampleKey 2000000,
    .prune ⟨.firstAccess, "other"⟩ 20000000 [sampleKey], .consume sampleKey 11000000]

/-- Three calls whose clocks lie in one recorded window of limit two are allowed, and two windows overlap. -/
theorem rateLimit_late_calls :
    (sampleHistory lateCalls).calls.countP (fun d => 0 ≤ d.dbNow ∧ d.dbNow < 10000000 ∧
        (sampleLimits.decision d.toConsumedCounter).allowed) = 3 ∧
      (sampleHistory lateCalls).calls.map (fun c => (c.window, c.windowStartedAt, c.windowExpiresAt)) =
        [(1, 0, 10000000), (1, 0, 10000000), (2, 10000000, 20000000), (2, 10000000, 20000000),
          (3, 11000000, 21000000)] := by
  decide +kernel

end Workstream.ApiControls
