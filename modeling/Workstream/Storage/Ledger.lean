import Workstream.Storage.Admission

/-!
# The ledger of durable bytes

Every move of a charge keeps the ledger exact: a counter is the sum of the charges that its scope holds,
and a content is charged at most once in a scope.
-/

namespace Workstream.Storage
open Foundation

def ArtifactAdmissionCharge.weight (charge : ArtifactAdmissionCharge) (key : ScopeKey) : ℕ :=
  if charge.scope = key ∧ charge.state ≠ .released then charge.byteCount else 0

def held (charges : List ArtifactAdmissionCharge) (key : ScopeKey) : ℕ :=
  (charges.map (fun charge => charge.weight key)).sum

/-- Every counter is the sum of its charges, and within its limit. -/
structure Ledger.Sound (ledger : Ledger) : Prop where
  scopeKeys : (ledger.scopes.map (·.key)).Nodup
  chargeIds : (ledger.charges.map (·.id)).Nodup
  contents : (ledger.charges.map (·.content)).Nodup
  stamped : ∀ charge ∈ ledger.charges, charge.Stamped
  inScopes : ∀ charge ∈ ledger.charges, charge.scope ∈ ledger.scopes.map (·.key)
  counted : ∀ scope ∈ ledger.scopes, scope.countedBytes = held ledger.charges scope.key
  within : ∀ scope ∈ ledger.scopes, scope.countedBytes ≤ scope.limitBytes

def Ledger.stateOf (ledger : Ledger) (id : Uuid) : Option ChargeState :=
  (ledger.charge id).map (·.state)

variable {ledger ledger' : Ledger} {charge old new : ArtifactAdmissionCharge}
  {scope : ArtifactAdmissionScope} {now : ℕ} {id : Uuid}

theorem weight_of_released (h : charge.state = .released) (key : ScopeKey) : charge.weight key = 0 :=
  if_neg (fun hand => hand.2 h)

theorem weight_of_active (h : charge.state ≠ .released) : charge.weight charge.scope = charge.byteCount :=
  if_pos ⟨rfl, h⟩

theorem charge_eq_some (h : ledger.charge id = some charge) : charge ∈ ledger.charges ∧ charge.id = id :=
  Table.find_eq_some h

variable {key : ScopeKey} {spec : ScopeSpec} {facts : AdmissionFacts}

theorem scope_eq_some (h : ledger.scope key = some scope) :
    scope ∈ ledger.scopes ∧ scope.key = key :=
  Table.find_eq_some h

theorem stateOf_setCharge (new : ArtifactAdmissionCharge) (hold : ledger.charge new.id = some old)
    (id : Uuid) :
    (ledger.setCharge new).stateOf id = if id = new.id then some new.state else ledger.stateOf id := by
  by_cases hid : id = new.id
  · subst hid
    have hfind : (ledger.setCharge new).charge new.id = some new := Table.find_replace_self hold
    rw [if_pos rfl, Ledger.stateOf, hfind]
    rfl
  · have hfind : (ledger.setCharge new).charge id = ledger.charge id := Table.find_replace_of_ne hid
    rw [if_neg hid, Ledger.stateOf, hfind]
    rfl

theorem held_setCharge (h : ledger.Sound) (hold : ledger.charge new.id = some old) (key : ScopeKey) :
    held (ledger.setCharge new).charges key + old.weight key =
      held ledger.charges key + new.weight key := by
  obtain ⟨hmem, hid⟩ := charge_eq_some hold
  exact Table.sum_replace (fun charge => charge.weight key) h.chargeIds hmem hid

/-- The other tables of a ledger whose charge is replaced by one of the same content. -/
theorem Ledger.Sound.contents_setCharge (h : ledger.Sound) (hold : ledger.charge new.id = some old)
    (hcont : new.content = old.content) :
    (ledger.setCharge new).charges.map (·.content) = ledger.charges.map (·.content) := by
  obtain ⟨hmem, hid⟩ := charge_eq_some hold
  refine Table.map_replace_of_eq (fun r hr hkey => ?_)
  rw [Table.eq_of_key_eq h.chargeIds hr hmem (hkey.trans hid.symm), hcont]

/-- A charge moves, and the counter of its scope with it. -/
theorem Ledger.Sound.move (h : ledger.Sound) (new : ArtifactAdmissionCharge) (counted : ℕ)
    (hold : ledger.charge new.id = some old) (hcont : new.content = old.content)
    (hstamped : new.Stamped) (hscope : ledger.scope old.scope = some scope)
    (hcounted : counted + old.weight old.scope = scope.countedBytes + new.weight old.scope)
    (hle : counted ≤ scope.limitBytes) :
    ((ledger.setCharge new).setScope { scope with countedBytes := counted }).Sound := by
  obtain ⟨hmem, hid⟩ := charge_eq_some hold
  obtain ⟨hscopeMem, hscopeKey⟩ := scope_eq_some hscope
  have hsame : new.scope = old.scope := congrArg Prod.fst hcont
  have hkeys : ((ledger.setCharge new).setScope { scope with countedBytes := counted }).scopes.map
      (·.key) = ledger.scopes.map (·.key) :=
    Table.map_key_replace _ _
  have hmoved : ∀ key, held (ledger.setCharge new).charges key + old.weight key =
      held ledger.charges key + new.weight key := held_setCharge h hold
  exact {
    scopeKeys := by rw [hkeys]; exact h.scopeKeys
    chargeIds := by
      have hids : (ledger.setCharge new).charges.map (·.id) = ledger.charges.map (·.id) :=
        Table.map_key_replace _ _
      exact hids ▸ h.chargeIds
    contents := by
      have hcontents := h.contents_setCharge hold hcont
      exact hcontents ▸ h.contents
    stamped := Table.forall_replace h.stamped hstamped
    inScopes := fun charge hcharge => by
      rw [hkeys]
      rcases Table.mem_replace hcharge with rfl | ⟨hcharge, -⟩
      · rw [hsame]
        exact h.inScopes old hmem
      · exact h.inScopes charge hcharge
    counted := fun s hs => by
      rcases Table.mem_replace hs with rfl | ⟨hs, hne⟩
      · have hnow := hmoved old.scope
        have hbefore := h.counted scope hscopeMem
        show counted = held (ledger.setCharge new).charges scope.key
        rw [hscopeKey] at hbefore ⊢
        omega
      · have hnow := hmoved s.key
        have hother : old.weight s.key = 0 ∧ new.weight s.key = 0 := by
          have hne' : old.scope ≠ s.key := by rw [← hscopeKey]; exact fun heq => hne heq.symm
          rw [ArtifactAdmissionCharge.weight, ArtifactAdmissionCharge.weight, hsame]
          exact ⟨if_neg (fun h => hne' h.1), if_neg (fun h => hne' h.1)⟩
        have hbefore := h.counted s hs
        show s.countedBytes = held (ledger.setCharge new).charges s.key
        omega
    within := Table.forall_replace h.within hle }

theorem Ledger.Sound.setCharge (h : ledger.Sound) (hold : ledger.charge new.id = some old)
    (hcont : new.content = old.content) (hstamped : new.Stamped)
    (hweight : new.weight old.scope = old.weight old.scope) : (ledger.setCharge new).Sound := by
  obtain ⟨hmem, -⟩ := charge_eq_some hold
  obtain ⟨scope, hscope, hkey⟩ := List.mem_map.mp (h.inScopes old hmem)
  have hfind : ledger.scope old.scope = some scope := hkey ▸ Table.find_of_mem h.scopeKeys hscope
  have hmove := h.move new scope.countedBytes hold hcont hstamped hfind (by rw [hweight])
    (h.within scope hscope)
  have hsame : (ledger.setCharge new).setScope scope = ledger.setCharge new := by
    have hscopes : Table.replace ArtifactAdmissionScope.key ledger.scopes scope = ledger.scopes := by
      conv_rhs => rw [← List.map_id ledger.scopes]
      apply List.map_congr_left
      intro s hs
      split
      · rename_i heq
        exact (Table.eq_of_key_eq h.scopeKeys hs hscope heq).symm
      · rfl
    exact congrArg (fun scopes => { ledger.setCharge new with scopes }) hscopes
  exact hsame ▸ hmove

/-- A loop body that changes the state of one charge as `change` says and keeps the ledger exact. -/
structure Moves (body : Ledger → Uuid → Except Failure Ledger) (change : ChargeState → ChargeState) :
    Prop where
  twice : ∀ state, change (change state) = change state
  turn : ∀ ledger id ledger', ledger.Sound → body ledger id = .ok ledger' →
    ledger'.Sound ∧ ledger'.links = ledger.links ∧
      ∀ other, ledger'.stateOf other =
        if other = id then (ledger.stateOf other).map change else ledger.stateOf other

variable {body : Ledger → Uuid → Except Failure Ledger} {change : ChargeState → ChargeState}

theorem Moves.loop (h : Moves body change) {ids : List Uuid} (hledger : ledger.Sound)
    (hloop : ids.foldlM body ledger = .ok ledger') :
    ledger'.Sound ∧ ledger'.links = ledger.links ∧
      ∀ id, ledger'.stateOf id =
        if id ∈ ids then (ledger.stateOf id).map change else ledger.stateOf id := by
  induction ids generalizing ledger with
  | nil =>
    obtain rfl := pure_eq_ok.mp hloop
    exact ⟨hledger, rfl, fun id => (if_neg List.not_mem_nil).symm⟩
  | cons first ids ih =>
    obtain ⟨middle, hfirst, hrest⟩ := bind_eq_ok.mp hloop
    obtain ⟨hmid, hlinks, hstates⟩ := h.turn ledger first middle hledger hfirst
    obtain ⟨hsound, hlinks', hstates'⟩ := ih hmid hrest
    refine ⟨hsound, hlinks'.trans hlinks, fun id => ?_⟩
    rw [hstates' id, hstates id]
    by_cases hid : id = first
    · rw [if_pos hid, if_pos (List.mem_cons.mpr (.inl hid))]
      split
      · rw [Option.map_map]
        exact congrArg (fun f => Option.map f (ledger.stateOf id)) (funext h.twice)
      · rfl
    · rw [if_neg hid]
      by_cases hmem : id ∈ ids
      · rw [if_pos hmem, if_pos (List.mem_cons_of_mem _ hmem)]
      · rw [if_neg hmem, if_neg (fun hcons => (List.mem_cons.mp hcons).elim hid hmem)]

theorem stateOf_self (hcharge : ledger.charge id = some charge) (hsame : change charge.state = charge.state)
    (other : Uuid) : ledger.stateOf other =
      if other = id then (ledger.stateOf other).map change else ledger.stateOf other := by
  by_cases hother : other = id
  · rw [if_pos hother, hother, Ledger.stateOf, hcharge]
    exact congrArg some hsame.symm
  · rw [if_neg hother]

theorem stateOf_none (hcharge : ledger.charge id = none) (other : Uuid) : ledger.stateOf other =
    if other = id then (ledger.stateOf other).map change else ledger.stateOf other := by
  by_cases hother : other = id
  · rw [if_pos hother, hother, Ledger.stateOf, hcharge]
    rfl
  · rw [if_neg hother]

theorem stateOf_moved (hcharge : ledger.charge id = some charge) (hnew : new.id = id)
    (hstate : new.state = change charge.state) (other : Uuid) : (ledger.setCharge new).stateOf other =
      if other = id then (ledger.stateOf other).map change else ledger.stateOf other := by
  subst hnew
  rw [stateOf_setCharge new hcharge]
  by_cases hother : other = new.id
  · rw [if_pos hother, if_pos hother, hother, Ledger.stateOf, hcharge]
    exact congrArg some hstate
  · rw [if_neg hother, if_neg hother]

def ChargeState.released? : ChargeState → ChargeState
  | .provisional => .released
  | state => state

def ChargeState.reacquired : ChargeState → ChargeState
  | .released => .provisional
  | state => state

def ChargeState.completedFrom : ChargeState → ChargeState
  | .provisional => .completed
  | state => state

/-- A loop that writes the charges of one state and leaves the others. -/
theorem moves_of_write {source : ChargeState} {write : Ledger → ArtifactAdmissionCharge →
    Except Failure Ledger}
    (hbody : ∀ ledger id, body ledger id = match ledger.charge id with
      | none => pure ledger
      | some charge => if charge.state = source then write ledger charge else pure ledger)
    (htwice : ∀ state, change (change state) = change state)
    (hkeep : ∀ state, state ≠ source → change state = state)
    (hwrite : ∀ ledger charge ledger', ledger.Sound → ledger.charge charge.id = some charge → charge.Stamped →
      charge.state = source → write ledger charge = .ok ledger' →
        ledger'.Sound ∧ ledger'.links = ledger.links ∧ ∃ new,
          ledger'.charges = (ledger.setCharge new).charges ∧ new.id = charge.id ∧ new.state = change source) :
    Moves body change where
  twice := htwice
  turn := fun ledger id ledger' hledger hturn => by
    rw [hbody] at hturn
    split at hturn
    · rename_i hcharge
      obtain rfl := pure_eq_ok.mp hturn
      exact ⟨hledger, rfl, stateOf_none hcharge⟩
    · rename_i charge hcharge
      obtain ⟨hmem, hid⟩ := charge_eq_some hcharge
      subst hid
      split at hturn
      · rename_i hstate
        obtain ⟨hsound, hlinks, new, hcharges, hnew, hnewState⟩ :=
          hwrite ledger charge ledger' hledger hcharge (hledger.stamped charge hmem) hstate hturn
        refine ⟨hsound, hlinks, fun other => ?_⟩
        have hmoved := stateOf_moved hcharge hnew (hstate ▸ hnewState) other
        rwa [Ledger.stateOf, Ledger.charge, ← hcharges] at hmoved
      · rename_i hstate
        obtain rfl := pure_eq_ok.mp hturn
        exact ⟨hledger, rfl, stateOf_self hcharge (hkeep _ hstate)⟩

theorem moves_release (now : ℕ) : Moves (Ledger.release now) ChargeState.released? := by
  refine moves_of_write (fun _ _ => rfl) (fun state => by cases state <;> rfl)
    (fun state hstate => by cases state <;> trivial) ?_
  intro ledger charge ledger' hledger hcharge hstamped hstate hwrite
  simp only [eq_ok] at hwrite
  obtain ⟨scope, hscope, ⟨⟩, hle, rfl⟩ := hwrite
  have hwithin := hledger.within scope (scope_eq_some hscope).1
  refine ⟨hledger.move _ _ hcharge rfl ?_ hscope ?_ (by omega), rfl, _, rfl, rfl, rfl⟩
  · refine ⟨⟨(by simp), fun h => ?_⟩, ⟨fun _ => rfl, fun _ => rfl⟩⟩
    exact absurd (hstamped.1.mpr h) (by rw [hstate]; simp)
  · rw [weight_of_active (by rw [hstate]; simp), weight_of_released rfl]
    omega

theorem moves_reacquire : Moves Ledger.reacquire ChargeState.reacquired := by
  refine moves_of_write (fun _ _ => rfl) (fun state => by cases state <;> rfl)
    (fun state hstate => by cases state <;> trivial) ?_
  intro ledger charge ledger' hledger hcharge hstamped hstate hwrite
  simp only [eq_ok] at hwrite
  obtain ⟨scope, hscope, ⟨⟩, hle, rfl⟩ := hwrite
  refine ⟨hledger.move _ _ hcharge rfl ?_ hscope ?_ hle, rfl, _, rfl, rfl, rfl⟩
  · refine ⟨⟨(by simp), fun h => ?_⟩, ⟨(by simp), (by simp)⟩⟩
    exact absurd (hstamped.1.mpr h) (by rw [hstate]; simp)
  · rw [weight_of_released hstate]
    exact congrArg (scope.countedBytes + ·) (if_pos ⟨rfl, (by simp)⟩).symm

theorem moves_complete (now : ℕ) : Moves (Ledger.complete now) ChargeState.completedFrom := by
  refine moves_of_write (fun _ _ => rfl) (fun state => by cases state <;> rfl)
    (fun state hstate => by cases state <;> trivial) ?_
  intro ledger charge ledger' hledger hcharge hstamped hstate hwrite
  obtain rfl := pure_eq_ok.mp hwrite
  refine ⟨hledger.setCharge hcharge rfl ?_ ?_, rfl, _, rfl, rfl, rfl⟩
  · refine ⟨⟨fun _ => rfl, fun _ => rfl⟩, ⟨(by simp), fun h => ?_⟩⟩
    exact absurd (hstamped.2.mpr h) (by rw [hstate]; simp)
  · have hact : charge.weight charge.scope = charge.byteCount :=
      weight_of_active (by rw [hstate]; simp)
    rw [hact]
    exact if_pos ⟨rfl, (by simp)⟩

/-- A session that has read a charge as provisional cannot complete it once it is released. -/
theorem completeSeen_eq_ok (hledger : ledger.Sound) (h : ledger.completeSeen now id = .ok ledger') :
    ledger.stateOf id ≠ some .released := by
  unfold Ledger.completeSeen at h
  split at h
  · rename_i hcharge
    rw [Ledger.stateOf, hcharge]
    simp
  · rename_i charge hcharge
    simp only [eq_ok] at h
    obtain ⟨⟨⟩, ⟨-, hstamp⟩, -⟩ := h
    obtain ⟨hmem, -⟩ := charge_eq_some hcharge
    rw [Ledger.stateOf, hcharge]
    intro hrel
    have hsome := (hledger.stamped charge hmem).2.mp (Option.some.inj hrel)
    exact absurd (hstamp.mpr hsome) (by simp)

theorem moves_completeSeen (now : ℕ) : Moves (Ledger.completeSeen now) (fun _ => .completed) where
  twice := fun _ => rfl
  turn := fun ledger id ledger' hledger hturn => by
    have hnot := completeSeen_eq_ok hledger hturn
    unfold Ledger.completeSeen at hturn
    split at hturn
    · rename_i hcharge
      obtain rfl := pure_eq_ok.mp hturn
      exact ⟨hledger, rfl, stateOf_none hcharge⟩
    · rename_i charge hcharge
      simp only [eq_ok] at hturn
      obtain ⟨⟨⟩, hstamp, rfl⟩ := hturn
      obtain ⟨hmem, hid⟩ := charge_eq_some hcharge
      rw [Ledger.stateOf, hcharge] at hnot
      subst hid
      refine ⟨hledger.setCharge hcharge rfl hstamp ?_, rfl, stateOf_moved hcharge rfl rfl⟩
      rw [weight_of_active (fun h => hnot (congrArg some h))]
      exact if_pos ⟨rfl, (by simp)⟩

structure Raises (ledger ledger' : Ledger) : Prop where
  sound : ledger.Sound → ledger'.Sound
  links : ledger'.links = ledger.links
  states : ledger.Sound → ∀ id state, ledger.stateOf id = some state →
    ledger'.stateOf id = some state ∨ (state = .released ∧ ledger'.stateOf id = some .provisional)

theorem Raises.refl (ledger : Ledger) : Raises ledger ledger :=
  ⟨id, rfl, fun _ _ _ h => .inl h⟩

theorem Raises.trans {first second third : Ledger} (h : Raises first second) (h' : Raises second third) :
    Raises first third where
  sound := fun hfirst => h'.sound (h.sound hfirst)
  links := h'.links.trans h.links
  states := fun hfirst id state hstate => by
    rcases h.states hfirst id state hstate with hsame | ⟨hrel, hprovisional⟩
    · exact h'.states (h.sound hfirst) id state hsame
    · rcases h'.states (h.sound hfirst) id .provisional hprovisional with hsame | ⟨hno, -⟩
      · exact .inr ⟨hrel, hsame⟩
      · cases hno

theorem held_eq_zero {charges : List ArtifactAdmissionCharge}
    (h : ∀ charge ∈ charges, charge.scope ≠ key) : held charges key = 0 := by
  apply List.sum_eq_zero
  intro n hn
  obtain ⟨charge, hcharge, rfl⟩ := List.mem_map.mp hn
  exact if_neg (fun hand => h charge hcharge hand.1)

theorem held_append (charges : List ArtifactAdmissionCharge) (charge : ArtifactAdmissionCharge)
    (key : ScopeKey) : held (charges ++ [charge]) key = held charges key + charge.weight key := by
  rw [held, List.map_append, List.sum_append, List.map_singleton, List.sum_singleton, held]

theorem raises_ensureScope (ledger : Ledger) (spec : ScopeSpec) :
    Raises ledger (ledger.ensureScope spec) := by
  unfold Ledger.ensureScope
  split
  · exact Raises.refl ledger
  · rename_i hnone
    have hnew : spec.key ∉ ledger.scopes.map (·.key) := Table.not_mem_of_find_eq_none hnone
    refine ⟨fun h => ?_, rfl, fun _ _ _ hstate => .inl hstate⟩
    exact { h with
      scopeKeys := Table.nodup_append h.scopeKeys hnew
      inScopes := fun charge hcharge => by
        rw [List.map_append]
        exact List.mem_append_left _ (h.inScopes charge hcharge)
      counted := by
        refine Table.forall_append h.counted (held_eq_zero (fun charge hcharge heq => hnew ?_)).symm
        have hin := h.inScopes charge hcharge
        rwa [heq] at hin
      within := Table.forall_append h.within (Nat.zero_le _) }

theorem Ledger.Sound.setLimit (h : ledger.Sound) (hscope : ledger.scope key = some scope)
    {limit : ℕ} (hle : scope.countedBytes ≤ limit) :
    (ledger.setScope { scope with limitBytes := limit }).Sound := by
  obtain ⟨hmem, -⟩ := scope_eq_some hscope
  have hkeys : (ledger.setScope { scope with limitBytes := limit }).scopes.map (·.key) =
      ledger.scopes.map (·.key) := Table.map_key_replace _ _
  exact { h with
    scopeKeys := hkeys ▸ h.scopeKeys
    inScopes := fun charge hcharge => hkeys ▸ h.inScopes charge hcharge
    counted := Table.forall_replace h.counted (h.counted scope hmem)
    within := Table.forall_replace h.within hle }

theorem raises_adoptLimit (h : ledger.adoptLimit spec = .ok ledger') : Raises ledger ledger' := by
  simp only [Ledger.adoptLimit, eq_ok] at h
  obtain ⟨counter, hcounter, h⟩ := h
  split at h
  · obtain rfl := pure_eq_ok.mp h
    exact Raises.refl ledger
  · simp only [eq_ok] at h
    obtain ⟨⟨⟩, hle, rfl⟩ := h
    exact ⟨fun hledger => hledger.setLimit hcounter hle, rfl, fun _ _ _ hstate => .inl hstate⟩

/-- The bytes of a new charge are counted with it. -/
theorem Ledger.Sound.addCharge (h : ledger.Sound) (new : ArtifactAdmissionCharge)
    (hscope : ledger.scope new.scope = some scope) (hid : ledger.charge new.id = none)
    (hcont : ledger.contentCharge new.content = none) (hstamped : new.Stamped)
    (hact : new.state ≠ .released) (hle : scope.countedBytes + new.byteCount ≤ scope.limitBytes) :
    Ledger.Sound { ledger.setScope { scope with countedBytes := scope.countedBytes + new.byteCount } with
      charges := ledger.charges ++ [new] } := by
  obtain ⟨hmem, hkey⟩ := scope_eq_some hscope
  have hkeys : (ledger.setScope { scope with countedBytes := scope.countedBytes + new.byteCount }).scopes.map
      (·.key) = ledger.scopes.map (·.key) := Table.map_key_replace _ _
  exact {
    scopeKeys := hkeys ▸ h.scopeKeys
    chargeIds := Table.nodup_append h.chargeIds (Table.not_mem_of_find_eq_none hid)
    contents := Table.nodup_append h.contents (Table.not_mem_of_find_eq_none hcont)
    stamped := Table.forall_append h.stamped hstamped
    inScopes := by
      rw [hkeys]
      exact Table.forall_append h.inScopes (List.mem_map.mpr ⟨scope, hmem, hkey⟩)
    counted := fun s hs => by
      rw [held_append]
      rcases Table.mem_replace hs with rfl | ⟨hs, hne⟩
      · show scope.countedBytes + new.byteCount = held ledger.charges scope.key + new.weight scope.key
        rw [hkey, weight_of_active hact, h.counted scope hmem, hkey]
      · have hother : new.weight s.key = 0 := if_neg (fun hand => hne (hand.1.symm.trans hkey.symm))
        rw [hother, h.counted s hs, Nat.add_zero]
    within := Table.forall_replace h.within hle }

theorem stateOf_append {state : ChargeState} (hstate : ledger.stateOf id = some state) :
    Ledger.stateOf { ledger with charges := ledger.charges ++ [new] } id = some state := by
  obtain ⟨charge, hcharge, rfl⟩ := Option.map_eq_some_iff.mp hstate
  have hfind : Ledger.charge { ledger with charges := ledger.charges ++ [new] } id = some charge :=
    Table.find_append_of_some _ hcharge
  rw [Ledger.stateOf, hfind]
  rfl

theorem stateOf_append_self (hid : ledger.charge new.id = none) :
    Ledger.stateOf { ledger with charges := ledger.charges ++ [new] } new.id = some new.state := by
  have hfresh : new.id ∉ ledger.charges.map (·.id) := Table.not_mem_of_find_eq_none hid
  have hfind : Ledger.charge { ledger with charges := ledger.charges ++ [new] } new.id = some new :=
    Table.find_append_self hfresh
  rw [Ledger.stateOf, hfind]
  rfl

def Ledger.Counts (ledger : Ledger) (id : Uuid) : Prop :=
  ∃ state, ledger.stateOf id = some state ∧ state ≠ .released

theorem Raises.counts (h : Raises ledger ledger') (hledger : ledger.Sound) (hid : ledger.Counts id) :
    ledger'.Counts id := by
  obtain ⟨state, hstate, hact⟩ := hid
  rcases h.states hledger id state hstate with hsame | ⟨hrel, -⟩
  · exact ⟨state, hsame, hact⟩
  · exact absurd hrel hact

theorem raises_chargeNew {reserved : Uuid}
    (hrel : ∀ charge, ledger.contentCharge (spec.key, facts.sha256, facts.byteCount) = some charge →
      charge.state = .released)
    (h : ledger.chargeNew spec facts id = .ok (ledger', reserved)) :
    Raises ledger ledger' ∧ (ledger.Sound → ledger'.Counts reserved) := by
  simp only [Ledger.chargeNew, eq_ok] at h
  obtain ⟨counter, hcounter, ⟨⟩, hle, h⟩ := h
  split at h
  · rename_i charge hcharge
    obtain ⟨rfl, rfl⟩ := Prod.mk.inj (pure_eq_ok.mp h)
    have hstate := hrel charge hcharge
    obtain ⟨hmem, hcont⟩ := Table.find_eq_some hcharge
    have hscope : charge.scope = spec.key := congrArg Prod.fst hcont
    have hbytes : charge.byteCount = facts.byteCount := congrArg (fun c => c.2.2) hcont
    have hfind : ledger.Sound → ledger.charge charge.id = some charge :=
      fun hledger => Table.find_of_mem hledger.chargeIds hmem
    refine ⟨⟨fun hledger => ?_, rfl, fun hledger other state hother => ?_⟩, fun hledger => ?_⟩
    · obtain ⟨hstamp, -⟩ := hledger.stamped charge hmem
      refine hledger.move { charge with state := .provisional, releasedAt := none } _ (hfind hledger)
        rfl ⟨⟨(by simp), fun hsome => ?_⟩, ⟨(by simp), (by simp)⟩⟩ (hscope ▸ hcounter) ?_ hle
      · exact absurd (hstamp.mpr hsome) (by rw [hstate]; simp)
      · have hweight : ArtifactAdmissionCharge.weight
            { charge with state := .provisional, releasedAt := none } charge.scope = charge.byteCount :=
          if_pos ⟨rfl, (by simp)⟩
        rw [hweight, weight_of_released hstate, hbytes, Nat.add_zero]
    · have hmoved := stateOf_setCharge { charge with state := .provisional, releasedAt := none }
        (hfind hledger) other
      by_cases hsame : other = charge.id
      · rw [hsame, Ledger.stateOf, hfind hledger] at hother
        obtain rfl := Option.some.inj hother
        rw [if_pos hsame] at hmoved
        exact .inr ⟨hstate, hmoved⟩
      · rw [if_neg hsame, hother] at hmoved
        exact .inl hmoved
    · have hmoved := stateOf_setCharge { charge with state := .provisional, releasedAt := none }
        (hfind hledger) charge.id
      rw [if_pos rfl] at hmoved
      exact ⟨.provisional, hmoved, (by simp)⟩
  · rename_i hnone
    simp only [eq_ok] at h
    obtain ⟨⟨⟩, hid, rfl, rfl⟩ := h
    refine ⟨⟨fun hledger => ?_, rfl, fun _ other state hother => .inl (stateOf_append hother)⟩,
      fun _ => ⟨.provisional, stateOf_append_self hid, (by simp)⟩⟩
    exact hledger.addCharge ⟨id, spec.key, facts.sha256, facts.byteCount, .provisional, none, none⟩
      hcounter hid hnone ⟨⟨(by simp), (by simp)⟩, ⟨(by simp), (by simp)⟩⟩ (by simp) hle

theorem raises_reserve {reserved : Uuid}
    (h : ledger.reserve spec facts id = .ok (ledger', reserved)) :
    Raises ledger ledger' ∧ (ledger.Sound → ledger'.Counts reserved) := by
  obtain ⟨adopted, hadopted, h⟩ := bind_eq_ok.mp h
  have hadopt := raises_adoptLimit hadopted
  split at h
  · rename_i charge hcharge
    split at h
    · rename_i hstate
      obtain ⟨hraises, hcounts⟩ := raises_chargeNew
        (fun other hother => Option.some.inj (hcharge.symm.trans hother) ▸ hstate) h
      exact ⟨hadopt.trans hraises, fun hledger => hcounts (hadopt.sound hledger)⟩
    · rename_i hstate
      obtain ⟨rfl, rfl⟩ := Prod.mk.inj (pure_eq_ok.mp h)
      refine ⟨hadopt, fun hledger => ⟨charge.state, ?_, hstate⟩⟩
      obtain ⟨hmem, -⟩ := Table.find_eq_some hcharge
      have hfind : adopted.charge charge.id = some charge :=
        Table.find_of_mem (hadopt.sound hledger).chargeIds hmem
      rw [Ledger.stateOf, hfind]
      rfl
  · rename_i hnone
    obtain ⟨hraises, hcounts⟩ := raises_chargeNew
      (fun other hother => absurd (hnone.symm.trans hother) nofun) h
    exact ⟨hadopt.trans hraises, fun hledger => hcounts (hadopt.sound hledger)⟩

theorem raises_reserveCharges {specs : List (ScopeSpec × Uuid)} {reserved : List Uuid}
    (h : ledger.reserveCharges facts specs = .ok (ledger', reserved)) :
    Raises ledger ledger' ∧ (ledger.Sound → ∀ id ∈ reserved, ledger'.Counts id) := by
  induction specs generalizing ledger reserved with
  | nil =>
    obtain ⟨rfl, rfl⟩ := Prod.mk.inj (pure_eq_ok.mp h)
    exact ⟨Raises.refl _, fun _ _ hid => absurd hid List.not_mem_nil⟩
  | cons first specs ih =>
    simp only [Ledger.reserveCharges, eq_ok] at h
    obtain ⟨⟨middle, charge⟩, hfirst, ⟨last, charges⟩, hrest, rfl, rfl⟩ := h
    obtain ⟨hraises, hcounts⟩ := raises_reserve hfirst
    obtain ⟨hraises', hcounts'⟩ := ih hrest
    refine ⟨hraises.trans hraises', fun hledger id hid => ?_⟩
    rcases List.mem_cons.mp hid with rfl | hid
    · exact hraises'.counts (hraises.sound hledger) (hcounts hledger)
    · exact hcounts' (hraises.sound hledger) id hid

end Workstream.Storage
