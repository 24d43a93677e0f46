import Mathlib.Control.Monad.Basic
import Workstream.Foundation.Checks
import Workstream.Foundation.Words
import Workstream.Trials.Failures

/-!
# The disk budget of a trial

`ProjectionBudget` is what an invocation may still write. Copies and directories are charged to it,
retained images and staged guest copies are reserved in it, and after each operation it is computed anew
from what lies on disk.
-/

namespace Workstream.Trials

open Foundation

/-- `LAUNCHER_BOOTSTRAP_BYTES`: `MAX_JOB_BYTES` and 64 KiB. -/
def launcherBootstrapBytes : Nat := 4 * 1024 * 1024 + 64 * 1024

def launcherBootstrapEntries : Nat := 64

def minimumTrialFilesystemBytes : Nat := 4 * 1024 * 1024

def minimumTrialFilesystemEntries : Nat := 32

/-- What `symlink_metadata` and `read_dir` show of an owned path. -/
inductive OwnedNode
  | file (length : Nat)
  | directory (children : List OwnedNode)
  | symlink
  | other

mutual

def ownedEntryUsage : OwnedNode → Nat × Nat → Except TrialEngineFailure (Nat × Nat)
  | .symlink, _ => .error implementationFailure
  | .file length, (bytes, entries) => do
    let entries ← required (checkedAdd entries 1) capacityFailure
    let bytes ← required (checkedAdd bytes length) capacityFailure
    pure (bytes, entries)
  | .directory children, (bytes, entries) => do
    let entries ← required (checkedAdd entries 1) capacityFailure
    ownedEntriesUsage children (bytes, entries)
  | .other, (_, entries) => do
    let _ ← required (checkedAdd entries 1) capacityFailure
    .error implementationFailure

def ownedEntriesUsage : List OwnedNode → Nat × Nat → Except TrialEngineFailure (Nat × Nat)
  | [], usage => pure usage
  | child :: children, usage => do
    let usage ← ownedEntryUsage child usage
    ownedEntriesUsage children usage

end

/-- `owned_tree_usage`: the bytes and the entries below a directory. -/
def ownedTreeUsage : OwnedNode → Except TrialEngineFailure (Nat × Nat)
  | .directory children => ownedEntriesUsage children (0, 0)
  | _ => .error implementationFailure

/-- What an invocation may use of the disk, has retained, and has left. -/
structure ProjectionBudget where
  maximumEntries : Nat
  maximumBytes : Nat
  retainedEntries : Nat
  retainedBytes : Nat
  entriesLeft : Nat
  bytesLeft : Nat
  deriving DecidableEq

/-- The filesystems of a build guest. -/
structure BuildAllowances where
  rootBytes : Nat
  rootEntries : Nat
  candidateBytes : Nat
  temporaryBytes : Nat
  temporaryEntries : Nat
  sharedMemoryBytes : Nat
  sharedMemoryEntries : Nat
  deriving DecidableEq

/-- The filesystems of a step guest. -/
structure StepAllowances where
  rootBytes : Nat
  rootEntries : Nat
  workspaceBytes : Nat
  workspaceEntries : Nat
  temporaryBytes : Nat
  temporaryEntries : Nat
  sharedMemoryBytes : Nat
  sharedMemoryEntries : Nat

namespace ProjectionBudget

def new (entries bytes : Nat) : ProjectionBudget :=
  { maximumEntries := entries, maximumBytes := bytes, retainedEntries := 0, retainedBytes := 0
    entriesLeft := entries, bytesLeft := bytes }

variable (budget : ProjectionBudget)

def charge (bytes : Nat) : Except TrialEngineFailure ProjectionBudget := do
  let entriesLeft ← required (checkedSub budget.entriesLeft 1) capacityFailure
  let bytesLeft ← required (checkedSub budget.bytesLeft bytes) capacityFailure
  pure { budget with entriesLeft, bytesLeft }

def reserveRetained (bytes entries : Nat) : Except TrialEngineFailure ProjectionBudget := do
  let retainedBytes ← required (checkedAdd budget.retainedBytes bytes) capacityFailure
  let retainedEntries ← required (checkedAdd budget.retainedEntries entries) capacityFailure
  let bytesLeft ← required (checkedSub budget.bytesLeft bytes) capacityFailure
  let entriesLeft ← required (checkedSub budget.entriesLeft entries) capacityFailure
  pure { budget with retainedBytes, retainedEntries, bytesLeft, entriesLeft }

def refresh (root : OwnedNode) (bytesOverrun entriesOverrun : Nat) (exceeded : Bool) :
    Except TrialEngineFailure ProjectionBudget := do
  let (bytes, entries) ← ownedTreeUsage root
  let maximumBytes ←
    required (checkedAdd budget.maximumBytes (if exceeded then bytesOverrun else 0)) capacityFailure
  let maximumEntries ←
    required (checkedAdd budget.maximumEntries (if exceeded then entriesOverrun else 0)) capacityFailure
  let totalBytes ← required (checkedAdd bytes budget.retainedBytes) capacityFailure
  let totalEntries ← required (checkedAdd entries budget.retainedEntries) capacityFailure
  require (totalBytes ≤ maximumBytes ∧ totalEntries ≤ maximumEntries) capacityFailure
  pure { budget with
    bytesLeft := budget.maximumBytes - totalBytes, entriesLeft := budget.maximumEntries - totalEntries }

/-- The reservation of one staged root in `with_guest_copies` -/
def reserveGuestCopy (operation : ProjectionBudget) (root : OwnedNode) :
    Except TrialEngineFailure ProjectionBudget := do
  let (bytes, entries) ← ownedTreeUsage root
  let entries ← required (checkedAdd entries 1) capacityFailure
  let allocated ← required ((checkedMul entries 4096).bind (checkedAdd bytes)) capacityFailure
  operation.reserveRetained allocated entries

def withGuestCopies (roots : List OwnedNode) : Except TrialEngineFailure ProjectionBudget :=
  roots.foldlM reserveGuestCopy budget

/-- The byte partition of `build_allowances`: temporary, shared memory, root and candidate. -/
def buildBytes : Except TrialEngineFailure (Nat × Nat × Nat × Nat) := do
  let remainingBytes ← required
    ((checkedSub budget.bytesLeft (launcherBootstrapBytes + minimumTrialFilesystemBytes)).bind
      (checkedSub · minimumTrialFilesystemBytes)) capacityFailure
  let temporaryBytes := clamp (remainingBytes / 8) minimumTrialFilesystemBytes (16 * 1024 * 1024)
  let sharedMemoryBytes := clamp (remainingBytes / 16) minimumTrialFilesystemBytes (4 * 1024 * 1024)
  let rootAndCandidate ← required
    (((checkedSub budget.bytesLeft launcherBootstrapBytes).bind (checkedSub · temporaryBytes)).bind
      (checkedSub · sharedMemoryBytes)) capacityFailure
  let candidateBytes := rootAndCandidate / 4
  let copies ← required (checkedMul candidateBytes 2) capacityFailure
  let rootBytes ← required (checkedSub rootAndCandidate copies) capacityFailure
  require (¬(candidateBytes = 0 ∨ rootBytes < candidateBytes ∨ rootBytes < minimumTrialFilesystemBytes))
    capacityFailure
  pure (temporaryBytes, sharedMemoryBytes, rootBytes, candidateBytes)

/-- The entry partition of `build_allowances`: temporary, shared memory and root. -/
def buildEntries : Except TrialEngineFailure (Nat × Nat × Nat) := do
  let entriesAfterBootstrap ← required
    ((checkedSub budget.entriesLeft launcherBootstrapEntries).bind (checkedSub · 1)) capacityFailure
  let temporaryEntries := clamp (entriesAfterBootstrap / 8) minimumTrialFilesystemEntries 256
  let sharedMemoryEntries := clamp (entriesAfterBootstrap / 16) minimumTrialFilesystemEntries 64
  let rootEntries ← required
    ((checkedSub entriesAfterBootstrap temporaryEntries).bind (checkedSub · sharedMemoryEntries))
    capacityFailure
  require (¬rootEntries < minimumTrialFilesystemEntries) capacityFailure
  pure (temporaryEntries, sharedMemoryEntries, rootEntries)

def buildAllowances : Except TrialEngineFailure BuildAllowances := do
  let (temporaryBytes, sharedMemoryBytes, rootBytes, candidateBytes) ← budget.buildBytes
  let (temporaryEntries, sharedMemoryEntries, rootEntries) ← budget.buildEntries
  pure { rootBytes, rootEntries, candidateBytes, temporaryBytes, temporaryEntries
         sharedMemoryBytes, sharedMemoryEntries }

/-- The byte partition of `step_allowances`: temporary, shared memory and workspace. -/
def stepBytes (rootBytes : Nat) : Except TrialEngineFailure (Nat × Nat × Nat) := do
  let bytesAfterFixed ← required
    ((checkedSub budget.bytesLeft launcherBootstrapBytes).bind (checkedSub · rootBytes)) capacityFailure
  let temporaryBytes := clamp (bytesAfterFixed / 8) minimumTrialFilesystemBytes (16 * 1024 * 1024)
  let sharedMemoryBytes := clamp (bytesAfterFixed / 16) minimumTrialFilesystemBytes (4 * 1024 * 1024)
  let shared ← required
    ((((checkedSub budget.bytesLeft launcherBootstrapBytes).bind (checkedSub · rootBytes)).bind
      (checkedSub · temporaryBytes)).bind (checkedSub · sharedMemoryBytes)) capacityFailure
  pure (temporaryBytes, sharedMemoryBytes, shared / 3)

/-- The entry partition of `step_allowances`: temporary, shared memory and workspace. -/
def stepEntries (bootstrapEntries rootEntries : Nat) : Except TrialEngineFailure (Nat × Nat × Nat) := do
  let entriesAfterFixed ← required
    ((checkedSub budget.entriesLeft bootstrapEntries).bind (checkedSub · rootEntries)) capacityFailure
  let temporaryEntries := clamp (entriesAfterFixed / 8) minimumTrialFilesystemEntries 256
  let sharedMemoryEntries := clamp (entriesAfterFixed / 16) minimumTrialFilesystemEntries 64
  let shared ← required
    ((checkedSub entriesAfterFixed temporaryEntries).bind (checkedSub · sharedMemoryEntries))
    capacityFailure
  pure (temporaryEntries, sharedMemoryEntries, shared / 3)

def stepAllowances (workspace : OwnedNode) (visibleRoleCount : Nat) :
    Except TrialEngineFailure StepAllowances := do
  let bootstrapEntries ← required (checkedAdd launcherBootstrapEntries visibleRoleCount) capacityFailure
  let rootEntries ← required
    ((checkedAdd budget.retainedEntries 16).map (max · minimumTrialFilesystemEntries)) capacityFailure
  let rootBytes ← required
    ((checkedMul rootEntries 4096).map (max · minimumTrialFilesystemBytes)) capacityFailure
  let (temporaryBytes, sharedMemoryBytes, workspaceBytes) ← budget.stepBytes rootBytes
  let (temporaryEntries, sharedMemoryEntries, workspaceEntries) ←
    budget.stepEntries bootstrapEntries rootEntries
  let (existingBytes, existingEntries) ← ownedTreeUsage workspace
  require (¬(workspaceBytes < max existingBytes minimumTrialFilesystemBytes ∨
    workspaceEntries < max existingEntries minimumTrialFilesystemEntries)) capacityFailure
  pure { rootBytes, rootEntries, workspaceBytes, workspaceEntries, temporaryBytes, temporaryEntries
         sharedMemoryBytes, sharedMemoryEntries }

end ProjectionBudget

/-! ## What is left and what is retained -/

structure Within (entries bytes : Nat) (budget : ProjectionBudget) : Prop where
  maximumEntries : budget.maximumEntries = entries
  maximumBytes : budget.maximumBytes = bytes
  entriesLeft : budget.entriesLeft + budget.retainedEntries ≤ entries
  bytesLeft : budget.bytesLeft + budget.retainedBytes ≤ bytes

variable {budget}
variable {entries bytes amount temporary sharedMemory root workspace : Nat}
  {budget operation : ProjectionBudget}

theorem within_new (entries bytes : Nat) : Within entries bytes (.new entries bytes) :=
  ⟨rfl, rfl, Nat.le_refl _, Nat.le_refl _⟩

theorem Within.charge (h : Within entries bytes budget) (hok : budget.charge amount = .ok operation) :
    Within entries bytes operation := by
  simp only [ProjectionBudget.charge, eq_ok, checkedSub_eq_some] at hok
  obtain ⟨entriesLeft, ⟨hentries, rfl⟩, bytesLeft, ⟨hbytes, rfl⟩, rfl⟩ := hok
  have hleft := h.entriesLeft
  have hleft' := h.bytesLeft
  exact ⟨h.maximumEntries, h.maximumBytes, by simp only; omega, by simp only; omega⟩

theorem Within.reserveRetained {count : Nat} (h : Within entries bytes budget)
    (hok : budget.reserveRetained amount count = .ok operation) : Within entries bytes operation := by
  simp only [ProjectionBudget.reserveRetained, eq_ok, checkedSub_eq_some, checkedAdd_eq_some] at hok
  obtain ⟨_, ⟨-, rfl⟩, _, ⟨-, rfl⟩, _, ⟨hbytes, rfl⟩, _, ⟨hentries, rfl⟩, rfl⟩ := hok
  have hleft := h.entriesLeft
  have hleft' := h.bytesLeft
  exact ⟨h.maximumEntries, h.maximumBytes, by simp only; omega, by simp only; omega⟩

/-- A refresh keeps what is retained. After a disk overrun nothing is left, and what was retained
before was within the invocation already. -/
theorem Within.refresh {root : OwnedNode} {bytesOverrun entriesOverrun : Nat} {exceeded : Bool}
    (h : Within entries bytes budget)
    (hok : budget.refresh root bytesOverrun entriesOverrun exceeded = .ok operation) :
    Within entries bytes operation := by
  simp only [ProjectionBudget.refresh, eq_ok, checkedAdd_eq_some] at hok
  obtain ⟨⟨used, count⟩, -, _, -, _, -, total, ⟨-, rfl⟩, totalEntries, ⟨-, rfl⟩, -, -, rfl⟩ := hok
  have hleft := h.entriesLeft
  have hleft' := h.bytesLeft
  have hmaximum := h.maximumEntries
  have hmaximum' := h.maximumBytes
  exact ⟨h.maximumEntries, h.maximumBytes, by simp only; omega, by simp only; omega⟩

theorem Within.withGuestCopies {roots : List OwnedNode} (h : Within entries bytes budget)
    (hok : budget.withGuestCopies roots = .ok operation) : Within entries bytes operation := by
  refine foldlM_invariant (fun s root s' hs hstep => ?_) h hok
  simp only [ProjectionBudget.reserveGuestCopy, bind_eq_ok] at hstep
  obtain ⟨⟨used, count⟩, -, _, -, _, -, hresv⟩ := hstep
  exact hs.reserveRetained hresv

inductive BudgetCall
  | charge (bytes : Nat)
  | reserveRetained (bytes entries : Nat)
  | refresh (root : OwnedNode) (bytesOverrun entriesOverrun : Nat) (exceeded : Bool)

/-- The budget after a call of its owner. -/
def ProjectionBudget.perform (budget : ProjectionBudget) :
    BudgetCall → Except TrialEngineFailure ProjectionBudget
  | .charge bytes => budget.charge bytes
  | .reserveRetained bytes entries => budget.reserveRetained bytes entries
  | .refresh root bytesOverrun entriesOverrun exceeded =>
    budget.refresh root bytesOverrun entriesOverrun exceeded

theorem within_of_calls {calls : List BudgetCall}
    (h : calls.foldlM ProjectionBudget.perform (.new entries bytes) = .ok budget) :
    Within entries bytes budget := by
  refine foldlM_invariant (fun s call s' hs hstep => ?_) (within_new entries bytes) h
  cases call with
  | charge => exact hs.charge hstep
  | reserveRetained => exact hs.reserveRetained hstep
  | refresh => exact hs.refresh hstep

/-! ## The partitions -/

/-- All that a build guest may write: the launcher's files, its filesystems and two copies of the
candidate. -/
def BuildAllowances.totalBytes (allowances : BuildAllowances) : Nat :=
  launcherBootstrapBytes + allowances.temporaryBytes + allowances.sharedMemoryBytes +
    allowances.rootBytes + 2 * allowances.candidateBytes

def BuildAllowances.totalEntries (allowances : BuildAllowances) : Nat :=
  65 + allowances.temporaryEntries + allowances.sharedMemoryEntries + allowances.rootEntries

/-- All that a step guest may write: the launcher's files, its filesystems and three copies of the
workspace. -/
def StepAllowances.totalBytes (allowances : StepAllowances) : Nat :=
  launcherBootstrapBytes + allowances.rootBytes + allowances.temporaryBytes +
    allowances.sharedMemoryBytes + 3 * allowances.workspaceBytes

def StepAllowances.totalEntries (allowances : StepAllowances) (roleCount : Nat) : Nat :=
  64 + roleCount + allowances.rootEntries + allowances.temporaryEntries +
    allowances.sharedMemoryEntries + 3 * allowances.workspaceEntries

structure BuildFits (budget : ProjectionBudget) (allowances : BuildAllowances) : Prop where
  bytes : allowances.totalBytes ≤ budget.bytesLeft
  entries : allowances.totalEntries ≤ budget.entriesLeft
  candidate : allowances.candidateBytes ≤ allowances.rootBytes
  rootBytes : minimumTrialFilesystemBytes ≤ allowances.rootBytes
  temporaryBytes : minimumTrialFilesystemBytes ≤ allowances.temporaryBytes
  sharedMemoryBytes : minimumTrialFilesystemBytes ≤ allowances.sharedMemoryBytes
  rootEntries : minimumTrialFilesystemEntries ≤ allowances.rootEntries
  temporaryEntries : minimumTrialFilesystemEntries ≤ allowances.temporaryEntries
  sharedMemoryEntries : minimumTrialFilesystemEntries ≤ allowances.sharedMemoryEntries

structure StepFits (budget : ProjectionBudget) (roleCount : Nat) (existing : Nat × Nat)
    (allowances : StepAllowances) : Prop where
  bytes : allowances.totalBytes ≤ budget.bytesLeft
  entries : allowances.totalEntries roleCount ≤ budget.entriesLeft
  existingBytes : existing.1 ≤ allowances.workspaceBytes
  existingEntries : existing.2 ≤ allowances.workspaceEntries
  rootBytes : minimumTrialFilesystemBytes ≤ allowances.rootBytes
  workspaceBytes : minimumTrialFilesystemBytes ≤ allowances.workspaceBytes
  temporaryBytes : minimumTrialFilesystemBytes ≤ allowances.temporaryBytes
  sharedMemoryBytes : minimumTrialFilesystemBytes ≤ allowances.sharedMemoryBytes
  rootEntries : minimumTrialFilesystemEntries ≤ allowances.rootEntries
  workspaceEntries : minimumTrialFilesystemEntries ≤ allowances.workspaceEntries
  temporaryEntries : minimumTrialFilesystemEntries ≤ allowances.temporaryEntries
  sharedMemoryEntries : minimumTrialFilesystemEntries ≤ allowances.sharedMemoryEntries

theorem buildBytes_eq_ok {candidate : Nat}
    (h : budget.buildBytes = .ok (temporary, sharedMemory, root, candidate)) :
    launcherBootstrapBytes + temporary + sharedMemory + root + 2 * candidate ≤ budget.bytesLeft ∧
      candidate ≤ root ∧ minimumTrialFilesystemBytes ≤ root ∧ minimumTrialFilesystemBytes ≤ temporary ∧
      minimumTrialFilesystemBytes ≤ sharedMemory := by
  simp only [ProjectionBudget.buildBytes, eq_ok, Option.bind_eq_some_iff, checkedSub_eq_some,
    checkedMul_eq_some] at h
  obtain ⟨remaining, -, both, ⟨_, ⟨_, ⟨hboot, rfl⟩, htemp, rfl⟩, hshared, rfl⟩, _, ⟨-, rfl⟩, _,
    ⟨hcopies, rfl⟩, -, hchecks, rfl, rfl, rfl, rfl⟩ := h
  have htmp := le_clamp (remaining / 8) minimumTrialFilesystemBytes (16 * 1024 * 1024) (by decide)
  have hmem := le_clamp (remaining / 16) minimumTrialFilesystemBytes (4 * 1024 * 1024) (by decide)
  simp only [not_or, Nat.not_lt] at hchecks
  exact ⟨by omega, hchecks.2.1, hchecks.2.2, htmp, hmem⟩

theorem buildEntries_eq_ok (h : budget.buildEntries = .ok (temporary, sharedMemory, root)) :
    65 + temporary + sharedMemory + root ≤ budget.entriesLeft ∧ minimumTrialFilesystemEntries ≤ root ∧
      minimumTrialFilesystemEntries ≤ temporary ∧ minimumTrialFilesystemEntries ≤ sharedMemory := by
  simp only [ProjectionBudget.buildEntries, eq_ok, Option.bind_eq_some_iff, checkedSub_eq_some,
    Nat.not_lt] at h
  obtain ⟨after, ⟨_, ⟨hboot, rfl⟩, hone, rfl⟩, _, ⟨_, ⟨htemp, rfl⟩, hshared, rfl⟩, -, hroot, rfl, rfl,
    rfl⟩ := h
  have hlauncher : launcherBootstrapEntries = 64 := rfl
  exact ⟨by omega, hroot, le_clamp _ _ _ (by decide), le_clamp _ _ _ (by decide)⟩

theorem buildAllowances_fit {allowances : BuildAllowances}
    (h : budget.buildAllowances = .ok allowances) : BuildFits budget allowances := by
  simp only [ProjectionBudget.buildAllowances, eq_ok] at h
  obtain ⟨⟨temporary, sharedMemory, root, candidate⟩, hbytes, ⟨temporaryEntries, memoryEntries, rootEntries⟩,
    hentries, rfl⟩ := h
  obtain ⟨hsum, hcand, hroot, htmp, hmem⟩ := buildBytes_eq_ok hbytes
  obtain ⟨hcount, hrootEntries, htemporaryEntries, hmemoryEntries⟩ := buildEntries_eq_ok hentries
  exact ⟨hsum, hcount, hcand, hroot, htmp, hmem, hrootEntries, htemporaryEntries,
    hmemoryEntries⟩

theorem stepBytes_eq_ok (h : budget.stepBytes root = .ok (temporary, sharedMemory, workspace)) :
    launcherBootstrapBytes + root + temporary + sharedMemory + 3 * workspace ≤ budget.bytesLeft ∧
      minimumTrialFilesystemBytes ≤ temporary ∧ minimumTrialFilesystemBytes ≤ sharedMemory := by
  simp only [ProjectionBudget.stepBytes, eq_ok, Option.bind_eq_some_iff, checkedSub_eq_some] at h
  obtain ⟨after, -, _, ⟨_, ⟨_, ⟨_, ⟨hboot, rfl⟩, hroot, rfl⟩, htemp, rfl⟩, hshared, rfl⟩, rfl, rfl, rfl⟩ := h
  exact ⟨by omega, le_clamp _ _ _ (by decide), le_clamp _ _ _ (by decide)⟩

theorem stepEntries_eq_ok {bootstrap : Nat}
    (h : budget.stepEntries bootstrap root = .ok (temporary, sharedMemory, workspace)) :
    bootstrap + root + temporary + sharedMemory + 3 * workspace ≤ budget.entriesLeft ∧
      minimumTrialFilesystemEntries ≤ temporary ∧ minimumTrialFilesystemEntries ≤ sharedMemory := by
  simp only [ProjectionBudget.stepEntries, eq_ok, Option.bind_eq_some_iff, checkedSub_eq_some] at h
  obtain ⟨after, ⟨_, ⟨hboot, rfl⟩, hroot, rfl⟩, _, ⟨_, ⟨htemp, rfl⟩, hshared, rfl⟩, rfl, rfl, rfl⟩ := h
  exact ⟨by omega, le_clamp _ _ _ (by decide), le_clamp _ _ _ (by decide)⟩

theorem stepAllowances_fit {workspace : OwnedNode} {roleCount : Nat} {allowances : StepAllowances}
    (h : budget.stepAllowances workspace roleCount = .ok allowances) :
    ∃ existing, ownedTreeUsage workspace = .ok existing ∧
      StepFits budget roleCount existing allowances := by
  simp only [ProjectionBudget.stepAllowances, eq_ok, Option.map_eq_some_iff, checkedAdd_eq_some,
    checkedMul_eq_some] at h
  obtain ⟨_, ⟨-, rfl⟩, _, ⟨_, ⟨-, rfl⟩, rfl⟩, _, ⟨_, ⟨-, rfl⟩, rfl⟩, ⟨temporary, memory, room⟩, hbytes,
    ⟨temporaryEntries, memoryEntries, roomEntries⟩, hentries, existing, husage, -, hchecks, rfl⟩ := h
  obtain ⟨hsum, htmp, hmem⟩ := stepBytes_eq_ok hbytes
  obtain ⟨hcount, htemporaryEntries, hmemoryEntries⟩ := stepEntries_eq_ok hentries
  simp only [not_or, Nat.not_lt, Nat.max_le] at hchecks
  exact ⟨existing, husage, hsum, hcount, hchecks.1.1, hchecks.2.1, Nat.le_max_right _ _, hchecks.1.2, htmp,
    hmem, Nat.le_max_right _ _, hchecks.2.2, htemporaryEntries, hmemoryEntries⟩

/-- Whatever was charged, reserved and read back from disk before, what is left and what is retained
stay within the invocation, and the filesystems of a build guest or of a step guest, cut after the
staged copies were reserved, are within what is left: with all that is retained they fit in what the
invocation owns. -/
theorem disk_allowances_fit (entries bytes : Nat) (calls : List BudgetCall) (budget : ProjectionBudget)
    (h : calls.foldlM ProjectionBudget.perform (.new entries bytes) = .ok budget) :
    budget.bytesLeft + budget.retainedBytes ≤ bytes ∧
    budget.entriesLeft + budget.retainedEntries ≤ entries ∧
    ∀ roots operation, budget.withGuestCopies roots = .ok operation →
      (∀ allowances, operation.buildAllowances = .ok allowances →
        BuildFits operation allowances ∧
        allowances.totalBytes + operation.retainedBytes ≤ bytes ∧
        allowances.totalEntries + operation.retainedEntries ≤ entries) ∧
      ∀ workspace roleCount allowances,
        operation.stepAllowances workspace roleCount = .ok allowances →
        (∃ existing, ownedTreeUsage workspace = .ok existing ∧
          StepFits operation roleCount existing allowances) ∧
        allowances.totalBytes + operation.retainedBytes ≤ bytes ∧
        allowances.totalEntries roleCount + operation.retainedEntries ≤ entries := by
  have hwithin : Within entries bytes budget := within_of_calls h
  refine ⟨hwithin.bytesLeft, hwithin.entriesLeft, fun roots operation hcopies => ?_⟩
  have hop : Within entries bytes operation := hwithin.withGuestCopies hcopies
  have hbytes := hop.bytesLeft
  have hentries := hop.entriesLeft
  constructor
  · intro allowances hok
    have hfits := buildAllowances_fit hok
    have hpart := hfits.bytes
    have hparts := hfits.entries
    exact ⟨hfits, by omega, by omega⟩
  · intro workspace roleCount allowances hok
    obtain ⟨existing, husage, hfits⟩ := stepAllowances_fit hok
    have hpart := hfits.bytes
    have hparts := hfits.entries
    exact ⟨⟨existing, husage, hfits⟩, by omega, by omega⟩

def sampleCalls : List BudgetCall := [.charge 1000, .reserveRetained 1048576 10]

def sampleBudget : ProjectionBudget := ⟨4096, 67108864, 10, 1048576, 4085, 66059288⟩

def sampleOperation : ProjectionBudget := ⟨4096, 67108864, 12, 1057768, 4083, 66050096⟩

def sampleAllowances : BuildAllowances := ⟨25460374, 3698, 12730186, 6675206, 256, 4194304, 64⟩

theorem disk_allowances_fit_build :
    sampleAllowances.totalBytes + sampleOperation.retainedBytes ≤ 67108864 ∧
      sampleAllowances.totalEntries + sampleOperation.retainedEntries ≤ 4096 := by
  have h := disk_allowances_fit 4096 67108864 sampleCalls sampleBudget (by decide +kernel)
  have hcopies : sampleBudget.withGuestCopies [.directory [.file 1000]] = .ok sampleOperation := by
    decide +kernel
  exact ((h.2.2 _ _ hcopies).1 sampleAllowances (by decide +kernel)).2

end Workstream.Trials
