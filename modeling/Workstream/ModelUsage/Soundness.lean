import Workstream.ModelUsage.Changes

/-! # Soundness of the ledger -/

namespace Workstream.ModelUsage
open Foundation

/-- Rows of the registry are only ever added, behind those that are there. -/
structure Registry.Grows (r r' : Registry) : Prop where
  profiles : r.profiles <+: r'.profiles
  checkerEnvelopes : r.checkerEnvelopes <+: r'.checkerEnvelopes
  checkerSlots : r.checkerSlots <+: r'.checkerSlots
  setupEnvelopes : r.setupEnvelopes <+: r'.setupEnvelopes
  setupSlots : r.setupSlots <+: r'.setupSlots

namespace Registry.Grows

variable {r r' r'' : Registry}

theorem refl (r : Registry) : r.Grows r := by
  constructor <;> exact List.prefix_rfl

theorem trans (h : r.Grows r') (h' : r'.Grows r'') : r.Grows r'' where
  profiles := h.profiles.trans h'.profiles
  checkerEnvelopes := h.checkerEnvelopes.trans h'.checkerEnvelopes
  checkerSlots := h.checkerSlots.trans h'.checkerSlots
  setupEnvelopes := h.setupEnvelopes.trans h'.setupEnvelopes
  setupSlots := h.setupSlots.trans h'.setupSlots

theorem profile (h : r.Grows r') {selector : ModelProfileSelector} {profile : ProjectModelProfile}
    (hfound : r.profileExact selector = some profile) : r'.profileExact selector = some profile :=
  h.profiles.find?_eq_some hfound

theorem view (h : r.Grows r') {owner : Ref} {view : SlotView} (hfound : r.slotView owner = some view) :
    r'.slotView owner = some view := by
  obtain ⟨kind, id⟩ := owner
  cases kind <;> obtain ⟨slot, hslot, hview⟩ := Option.map_eq_some_iff.mp hfound
  · exact Option.map_eq_some_iff.mpr ⟨slot, h.checkerSlots.find?_eq_some hslot, hview⟩
  · exact Option.map_eq_some_iff.mpr ⟨slot, h.setupSlots.find?_eq_some hslot, hview⟩

theorem envelope (h : r.Grows r') {envelope : Ref} {selector : ModelProfileSelector}
    (hfound : r.envelopeProfile envelope = some selector) : r'.envelopeProfile envelope = some selector := by
  obtain ⟨kind, id⟩ := envelope
  cases kind <;> obtain ⟨row, hrow, hsel⟩ := Option.map_eq_some_iff.mp hfound
  · exact Option.map_eq_some_iff.mpr ⟨row, h.checkerEnvelopes.find?_eq_some hrow, hsel⟩
  · exact Option.map_eq_some_iff.mpr ⟨row, h.setupEnvelopes.find?_eq_some hrow, hsel⟩

end Registry.Grows

/-- Ids are unique, and every slot has its envelope and its profile. -/
structure Registry.Sound (r : Registry) : Prop where
  profileIds : (r.profiles.map (·.profileId)).Nodup
  checkerEnvelopeIds : (r.checkerEnvelopes.map (·.id)).Nodup
  checkerSlotIds : (r.checkerSlots.map (·.id)).Nodup
  setupEnvelopeIds : (r.setupEnvelopes.map (·.id)).Nodup
  setupSlotIds : (r.setupSlots.map (·.id)).Nodup
  slotEnvelope : ∀ slot ∈ r.checkerSlots, ∃ envelope,
    r.envelope slot.key.toPaidEnvelopeKey = some envelope ∧ slot.envelopeId = envelope.id
  setupSlotEnvelope : ∀ slot ∈ r.setupSlots, ∃ envelope,
    r.setupEnvelope slot.key.toSetupEnvelopeKey = some envelope ∧ slot.envelopeId = envelope.id
  slotProfile : ∀ slot ∈ r.checkerSlots, ∃ profile, r.profileExact slot.key.selector = some profile ∧
    profile.spec.projectId = slot.key.projectId
  setupSlotProfile : ∀ slot ∈ r.setupSlots, ∃ profile, r.profileExact slot.key.selector = some profile ∧
    profile.spec.projectId = slot.key.projectId

section Registry

variable {r : Registry}

theorem slotView_checker {id : Uuid} {view : SlotView} (h : r.slotView ⟨.checker, id⟩ = some view) :
    ∃ slot ∈ r.checkerSlots, slot.id = id ∧ slot.view = view := by
  obtain ⟨slot, hslot, hview⟩ := Option.map_eq_some_iff.mp h
  obtain ⟨hmem, hid⟩ := Table.find_eq_some hslot
  exact ⟨slot, hmem, hid, hview⟩

theorem slotView_setup {id : Uuid} {view : SlotView} (h : r.slotView ⟨.setup, id⟩ = some view) :
    ∃ slot ∈ r.setupSlots, slot.id = id ∧ slot.view = view := by
  obtain ⟨slot, hslot, hview⟩ := Option.map_eq_some_iff.mp h
  obtain ⟨hmem, hid⟩ := Table.find_eq_some hslot
  exact ⟨slot, hmem, hid, hview⟩

namespace Registry.Sound

theorem view_of_slot (h : r.Sound) {slot : CheckerModelUsageSlot} (hslot : slot ∈ r.checkerSlots) :
    r.slotView ⟨.checker, slot.id⟩ = some slot.view := by
  have hfind := Table.find_of_mem h.checkerSlotIds hslot
  exact congrArg (Option.map CheckerModelUsageSlot.view) hfind

theorem view_of_setupSlot (h : r.Sound) {slot : SetupModelUsageSlot} (hslot : slot ∈ r.setupSlots) :
    r.slotView ⟨.setup, slot.id⟩ = some slot.view := by
  have hfind := Table.find_of_mem h.setupSlotIds hslot
  exact congrArg (Option.map SetupModelUsageSlot.view) hfind

theorem profile_of_view (h : r.Sound) {owner : Ref} {view : SlotView}
    (hview : r.slotView owner = some view) :
    ∃ profile, r.profileExact view.profile = some profile ∧
      profile.spec.projectId = view.projectId := by
  obtain ⟨kind, id⟩ := owner
  cases kind with
  | checker =>
    obtain ⟨slot, hslot, -, rfl⟩ := slotView_checker hview
    exact h.slotProfile slot hslot
  | setup =>
    obtain ⟨slot, hslot, -, rfl⟩ := slotView_setup hview
    exact h.setupSlotProfile slot hslot

theorem envelopeProfile_of_view (h : r.Sound) {owner : Ref} {view : SlotView}
    (hview : r.slotView owner = some view) :
    r.envelopeProfile view.envelope = some view.profile := by
  obtain ⟨kind, id⟩ := owner
  cases kind with
  | checker =>
    obtain ⟨slot, hslot, -, rfl⟩ := slotView_checker hview
    obtain ⟨envelope, hfound, hid⟩ := h.slotEnvelope slot hslot
    obtain ⟨hmem, hkey⟩ := Table.find_eq_some hfound
    have hfind := Table.find_of_mem h.checkerEnvelopeIds hmem
    have hsel : envelope.key.selector = slot.key.selector := by rw [hkey]
    unfold Registry.envelopeProfile CheckerModelUsageSlot.view
    rw [hid, hfind, ← hsel]
    rfl
  | setup =>
    obtain ⟨slot, hslot, -, rfl⟩ := slotView_setup hview
    obtain ⟨envelope, hfound, hid⟩ := h.setupSlotEnvelope slot hslot
    obtain ⟨hmem, hkey⟩ := Table.find_eq_some hfound
    have hfind := Table.find_of_mem h.setupEnvelopeIds hmem
    have hsel : envelope.key.selector = slot.key.selector := by rw [hkey]
    unfold Registry.envelopeProfile SetupModelUsageSlot.view
    rw [hid, hfind, ← hsel]
    rfl

end Registry.Sound

end Registry

theorem Change.grows {l l' : Ledger} (h : Change l l') : l.toRegistry.Grows l'.toRegistry := by
  cases h with
  | profile | checkerEnvelope | checkerSlot | setupEnvelope | setupSlot =>
    constructor <;> first | exact List.prefix_rfl | exact List.prefix_append _ _
  | _ => exact .refl _

theorem Change.registry_sound {l l' : Ledger} (h : Change l l') (hsound : l.toRegistry.Sound) :
    l'.toRegistry.Sound := by
  have hgrows := h.grows
  cases h with
  | profile row hid =>
    exact { hsound with
      profileIds := Table.nodup_append hsound.profileIds hid
      slotProfile := fun slot hslot =>
        (hsound.slotProfile slot hslot).imp fun _ h => ⟨hgrows.profile h.1, h.2⟩
      setupSlotProfile := fun slot hslot =>
        (hsound.setupSlotProfile slot hslot).imp fun _ h => ⟨hgrows.profile h.1, h.2⟩ }
  | checkerEnvelope row hid =>
    exact { hsound with
      checkerEnvelopeIds := Table.nodup_append hsound.checkerEnvelopeIds hid
      slotEnvelope := fun slot hslot => (hsound.slotEnvelope slot hslot).imp fun _ h =>
        ⟨hgrows.checkerEnvelopes.find?_eq_some h.1, h.2⟩ }
  | checkerSlot row hid henv hpar hprof hproj =>
    exact { hsound with
      checkerSlotIds := Table.nodup_append hsound.checkerSlotIds hid
      slotEnvelope := Table.forall_append hsound.slotEnvelope ⟨_, henv, hpar⟩
      slotProfile := Table.forall_append hsound.slotProfile ⟨_, hprof, hproj⟩ }
  | setupEnvelope row hid =>
    exact { hsound with
      setupEnvelopeIds := Table.nodup_append hsound.setupEnvelopeIds hid
      setupSlotEnvelope := fun slot hslot => (hsound.setupSlotEnvelope slot hslot).imp fun _ h =>
        ⟨hgrows.setupEnvelopes.find?_eq_some h.1, h.2⟩ }
  | setupSlot row hid henv hpar hprof hproj =>
    exact { hsound with
      setupSlotIds := Table.nodup_append hsound.setupSlotIds hid
      setupSlotEnvelope := Table.forall_append hsound.setupSlotEnvelope ⟨_, henv, hpar⟩
      setupSlotProfile := Table.forall_append hsound.setupSlotProfile ⟨_, hprof, hproj⟩ }
  | _ => exact hsound

/-- Every effect has the slot, the request and the columns that its state asks for. -/
structure Ledger.Sound (l : Ledger) : Prop where
  registry : l.toRegistry.Sound
  accountProjects : (l.accounts.map (·.projectId)).Nodup
  effectIds : (l.effects.map (·.id)).Nodup
  owned : ∀ row ∈ l.effects, ∃ view profile, Owned l row view profile ∧
    row.requestSha256 = view.requestSha256 ∧ row.Shape profile.spec.toProfileFields

theorem Ledger.sound_empty : ({} : Ledger).Sound where
  registry :=
    { profileIds := List.nodup_nil
      checkerEnvelopeIds := List.nodup_nil
      checkerSlotIds := List.nodup_nil
      setupEnvelopeIds := List.nodup_nil
      setupSlotIds := List.nodup_nil
      slotEnvelope := by intro slot h; cases h
      setupSlotEnvelope := by intro slot h; cases h
      slotProfile := by intro slot h; cases h
      setupSlotProfile := by intro slot h; cases h }
  accountProjects := List.nodup_nil
  effectIds := List.nodup_nil
  owned := by intro row h; cases h

section Ledger

variable {l : Ledger} {row : ModelUsageEffect} {view : SlotView} {profile : ProjectModelProfile}

theorem Owned.unique (h : Owned l row view profile) {view' : SlotView} {profile' : ProjectModelProfile}
    (h' : Owned l row view' profile') : view' = view ∧ profile' = profile := by
  have hview : view' = view := Option.some.inj (h'.view_eq.symm.trans h.view_eq)
  subst hview
  exact ⟨rfl, Option.some.inj (h'.profile_eq.symm.trans h.profile_eq)⟩

theorem Owned.shape (h : Owned l row view profile) (hsound : l.Sound) :
    row.Shape profile.spec.toProfileFields := by
  obtain ⟨view', profile', howned, -, hshape⟩ := hsound.owned row h.mem
  obtain ⟨-, rfl⟩ := h.unique howned
  exact hshape

theorem Ledger.Sound.grow (h : l.Sound) {r : Registry} (g : l.toRegistry.Grows r) (hr : r.Sound) :
    Ledger.Sound { l with toRegistry := r } where
  registry := hr
  accountProjects := h.accountProjects
  effectIds := h.effectIds
  owned := by
    intro row hrow
    obtain ⟨view, profile, howned, hrest⟩ := h.owned row hrow
    exact ⟨view, profile, ⟨hrow, g.view howned.view_eq, g.profile howned.profile_eq⟩, hrest⟩

theorem Ledger.Sound.setAccounts (h : l.Sound) (configurations : List ModelUsageBudgetConfiguration)
    {accounts : List ModelUsageBudgetAccount} (hprojects : (accounts.map (·.projectId)).Nodup) :
    Ledger.Sound { l with configurations := configurations, accounts := accounts } where
  registry := h.registry
  accountProjects := hprojects
  effectIds := h.effectIds
  owned := by
    intro row hrow
    obtain ⟨view, profile, howned, hrest⟩ := h.owned row hrow
    exact ⟨view, profile, ⟨hrow, howned.view_eq, howned.profile_eq⟩, hrest⟩

theorem Ledger.Sound.putAccount (h : l.Sound) (account : ModelUsageBudgetAccount) :
    (l.putAccount account).Sound := by
  apply h.setAccounts
  rw [Table.map_key_replace]
  exact h.accountProjects

theorem Ledger.Sound.addEffect (h : l.Sound) (hid : row.id ∉ l.effects.map (·.id))
    (hview : l.slotView row.owner = some view) (hreq : row.requestSha256 = view.requestSha256)
    (hblank : row.Blank) : Ledger.Sound { l with effects := l.effects ++ [row] } where
  registry := h.registry
  accountProjects := h.accountProjects
  effectIds := Table.nodup_append h.effectIds hid
  owned := by
    intro r hr
    rcases List.mem_append.mp hr with hold | hnew
    · obtain ⟨view, profile, howned, hrest⟩ := h.owned r hold
      exact ⟨view, profile, ⟨hr, howned.view_eq, howned.profile_eq⟩, hrest⟩
    · have heq := List.mem_singleton.mp hnew
      subst heq
      obtain ⟨profile, hprof, -⟩ := h.registry.profile_of_view hview
      exact ⟨view, profile, ⟨hr, hview, hprof⟩, hreq, hblank.shape _⟩

/-- An update of a row keeps what does not depend on its state. -/
theorem Ledger.Sound.putEffect (h : l.Sound) {row' : ModelUsageEffect} (hrow : row ∈ l.effects)
    (hid : row'.id = row.id) (howner : row'.owner = row.owner)
    (hreq : row'.requestSha256 = row.requestSha256)
    (hshape : ∀ view profile, Owned l row view profile → row'.Shape profile.spec.toProfileFields) :
    (l.putEffect row').Sound where
  registry := h.registry
  accountProjects := h.accountProjects
  effectIds := by
    unfold Ledger.putEffect
    rw [Table.map_key_replace]
    exact h.effectIds
  owned := by
    intro r hr
    rcases Table.mem_replace hr with rfl | ⟨hold, -⟩
    · obtain ⟨view, profile, howned, hsame, -⟩ := h.owned row hrow
      refine ⟨view, profile, ⟨hr, ?_, howned.profile_eq⟩, ?_, hshape view profile howned⟩
      · rw [howner]
        exact howned.view_eq
      · rw [hreq, hsame]
    · obtain ⟨view, profile, howned, hrest⟩ := h.owned r hold
      exact ⟨view, profile, ⟨hr, howned.view_eq, howned.profile_eq⟩, hrest⟩

theorem Change.sound {l' : Ledger} (h : Change l l') (hsound : l.Sound) : l'.Sound := by
  have hgrows := h.grows
  have hregistry := h.registry_sound hsound.registry
  cases h with
  | profile | checkerEnvelope | checkerSlot | setupEnvelope | setupSlot =>
    exact hsound.grow hgrows hregistry
  | opened row hid hacct =>
    exact hsound.setAccounts _ (Table.nodup_append hsound.accountProjects hacct)
  | adjusted =>
    exact (hsound.setAccounts _ hsound.accountProjects).putAccount _
  | prepared row hid hview hreq hblank | child row hid hview hreq hblank =>
    exact hsound.addEffect hid hview hreq hblank
  | dispatched evidence execution evidenceId now howned hstate =>
    refine (hsound.putAccount _).putEffect howned.mem rfl rfl rfl ?_
    intro view' profile' howned'
    obtain ⟨-, rfl⟩ := howned.unique ⟨howned'.mem, howned'.view_eq, howned'.profile_eq⟩
    exact (howned.shape hsound).dispatched hstate evidence _ execution evidenceId now
  | uncertain uncertaintyDigest providerResponseId evidenceId hrow hstate =>
    refine hsound.putEffect hrow rfl rfl rfl ?_
    intro view' profile' howned'
    exact (howned'.shape hsound).uncertain hstate uncertaintyDigest providerResponseId evidenceId
  | settled target providerResponseId evidence usage evidenceId now howned hpend htgt hbytes
      hinput houtput hacct hresv hcov =>
    refine (hsound.putAccount _).putEffect howned.mem rfl rfl rfl ?_
    intro view' profile' howned'
    obtain ⟨-, rfl⟩ := howned.unique ⟨howned'.mem, howned'.view_eq, howned'.profile_eq⟩
    exact (howned.shape hsound).settled hpend htgt providerResponseId hbytes hinput houtput
      evidenceId now
  | released proof evidenceId now howned hpend =>
    refine (hsound.putAccount _).putEffect howned.mem rfl rfl rfl ?_
    intro view' profile' howned'
    obtain ⟨-, rfl⟩ := howned.unique ⟨howned'.mem, howned'.view_eq, howned'.profile_eq⟩
    exact (howned.shape hsound).noEffect hpend proof evidenceId now

end Ledger

end Workstream.ModelUsage
