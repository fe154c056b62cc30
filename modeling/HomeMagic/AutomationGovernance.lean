import HomeMagic.AutomationCompile
import HomeMagic.AutomationStore

/-! The governance tables of the automation repository: drafts, immutable versions
with their evidence, approvals and the identity with its active version. -/
namespace HomeMagic

namespace AutomationVersionState

def allowsTransitionTo : AutomationVersionState → AutomationVersionState → Bool
  | draft, validated | draft, retired
  | validated, simulated | validated, retired
  | simulated, awaitingApproval | simulated, ready | simulated, retired
  | awaitingApproval, ready | awaitingApproval, rejected | awaitingApproval, retired
  | ready, retired | rejected, retired => true
  | _, _ => false

end AutomationVersionState

namespace AutomationOperationalState

def allowsTransitionTo : AutomationOperationalState → AutomationOperationalState → Bool
  | inactive, active | disabled, active | inactive, retired | disabled, retired
  | active, disabled | active, retired => true
  | _, _ => false

theorem allowsTransitionTo_retired (next : AutomationOperationalState) :
    allowsTransitionTo .retired next = false := by
  cases next <;> rfl

end AutomationOperationalState

structure AutomationActivation where
  automationId : AutomationId
  version : ℕ
  expectedRevision : ℕ
  documentHash : String
  planHash : String
  registryRevision : ℕ
  activatedAt : Instant
  deriving DecidableEq

def nextRevision (revision : ℕ) : ℕ := min (revision + 1) (2^64 - 1)

namespace AutomationStore
variable (compiler : CompilerHost)

def ensureIdentity (store : AutomationStore) (automationId : AutomationId) (createdAt : Instant) :
    AutomationStore :=
  match h : store.identities.find automationId with
  | some _ => store
  | none => { store with
      identities := store.identities.insert ⟨automationId, .inactive, none, 0, createdAt, createdAt⟩ h }

def putDraft (store : AutomationStore) (draft : AutomationDraft) : AutomationStore :=
  match h : store.drafts.find draft.automationId with
  | some _ => { store with drafts := store.drafts.replace draft }
  | none => { store with drafts := store.drafts.insert draft h }

def storeDraft (store : AutomationStore) (draft : AutomationDraft) (expectedRevision : Option ℕ) :
    Except StorageError AutomationStore :=
  if draft.automationId ≠ draft.document.id then
    .error (.invalidAutomation "draft identity mismatch")
  else
    let found := (store.drafts.find draft.automationId).map AutomationDraft.revision
    if found ≠ expectedRevision ∨ draft.revision ≠ expectedRevision.elim 0 nextRevision then
      .error (.automationDraftConflict expectedRevision found)
    else if 2^63 ≤ draft.revision then .error .numericOverflow
    else .ok ((store.ensureIdentity draft.automationId draft.document.createdAt).putDraft draft)

structure ValidVersion (version : StoredAutomationVersion) : Prop where
  automationId : version.document.id = version.plan.automationId
  automationVersion : version.document.version = version.plan.automationVersion
  documentHash : compiler.documentHash version.document = .ok version.plan.documentHash
  planHash : compiler.planHash version.plan = .ok version.plan.planHash
  validatedDocument : version.validation.documentHash = version.plan.documentHash
  validatedPlan : version.validation.planHash = version.plan.planHash
  validatedRegistry : version.validation.registryRevision = version.plan.registryRevision
  simulated : ∀ evidence, version.simulation = some evidence →
    evidence.documentHash = version.plan.documentHash ∧ evidence.planHash = version.plan.planHash ∧
      evidence.registryRevision = version.plan.registryRevision

def validateVersion (version : StoredAutomationVersion) : Except StorageError Unit :=
  let plan := version.plan
  let evidence := version.validation
  match compiler.documentHash version.document with
  | .error _ => .error (.invalidAutomation "document hashing failed")
  | .ok documentHash =>
    match compiler.planHash plan with
    | .error _ => .error (.invalidAutomation "plan hashing failed")
    | .ok planHash =>
      if version.document.id ≠ plan.automationId ∨
          version.document.version ≠ plan.automationVersion ∨
          documentHash ≠ plan.documentHash ∨ planHash ≠ plan.planHash ∨
          evidence.documentHash ≠ plan.documentHash ∨ evidence.planHash ≠ plan.planHash ∨
          evidence.registryRevision ≠ plan.registryRevision then
        .error (.invalidAutomation "version validation evidence mismatch")
      else if version.simulation.any (fun simulation =>
          simulation.documentHash != plan.documentHash || simulation.planHash != plan.planHash ||
          simulation.registryRevision != plan.registryRevision) then
        .error (.invalidAutomation "version simulation evidence mismatch")
      else .ok ()

/-- `INSERT OR IGNORE` skips a row that breaks a uniqueness constraint or the check on
its number; only an identical stored version makes that a success. -/
def storeVersion (store : AutomationStore) (version : StoredAutomationVersion) :
    Except StorageError AutomationStore := do
  validateVersion compiler version
  let store := store.ensureIdentity version.document.id version.document.createdAt
  if 2^63 ≤ version.document.version ∨ 2^63 ≤ version.plan.registryRevision then
    .error .numericOverflow
  else match h : store.versions.find (version.document.id, version.document.version) with
    | some existing =>
      if existing = version then .ok store
      else .error (.invalidAutomation "immutable automation version conflict")
    | none =>
      if version.document.version = 0 ∨ store.versions.rows.any (fun other =>
          other.document.id == version.document.id &&
            (other.plan.documentHash == version.plan.documentHash ||
              other.plan.planHash == version.plan.planHash)) then
        .error (.invalidAutomation "immutable automation version conflict")
      else .ok { store with versions := store.versions.insert version h }

def transitionVersion (store : AutomationStore) (version : StoredAutomationVersion)
    (expectedState : AutomationVersionState) : Except StorageError AutomationStore := do
  validateVersion compiler version
  match store.loadVersion version.document.id version.document.version with
  | none => .error (.invalidAutomation "automation version missing")
  | some current =>
    if current.state ≠ expectedState ∨ current.state.allowsTransitionTo version.state = false ∨
        current.document ≠ version.document ∨ current.plan ≠ version.plan ∨
        current.validation ≠ version.validation ∨
        (current.simulation.isSome ∧ current.simulation ≠ version.simulation) then
      .error (.invalidAutomation "invalid automation version transition")
    else .ok { store with versions := store.versions.replace version }

def appendApproval (store : AutomationStore) (approval : AutomationApprovalRecord) :
    Except StorageError AutomationStore :=
  match store.loadVersion approval.automationId approval.version with
  | none => .error (.invalidAutomation "approval version missing")
  | some version =>
    if approval.documentHash ≠ version.plan.documentHash ∨
        approval.planHash ≠ version.plan.planHash then
      .error (.invalidAutomation "approval evidence mismatch")
    else match h : store.approvals.find approval.id with
      | some existing =>
        if existing = approval then .ok store
        else .error (.invalidAutomation "stable automation identity payload conflict")
      | none => .ok { store with approvals := store.approvals.insert approval h }

def hasExactApproval (store : AutomationStore) (activation : AutomationActivation) : Bool :=
  store.approvals.rows.any (fun approval =>
    approval.automationId == activation.automationId && approval.version == activation.version &&
    approval.state == .approved && approval.documentHash == activation.documentHash &&
    approval.planHash == activation.planHash)

def activate (store : AutomationStore) (activation : AutomationActivation) :
    Except StorageError (AutomationIdentityState × AutomationStore) :=
  match store.loadVersion activation.automationId activation.version with
  | none => .error (.invalidAutomation "activation version missing")
  | some version =>
    if activation.documentHash ≠ version.plan.documentHash ∨
        activation.planHash ≠ version.plan.planHash ∨
        activation.registryRevision ≠ version.plan.registryRevision then
      .error (.invalidAutomation "activation evidence mismatch")
    else match version.simulation.filter AutomationSimulationEvidence.succeeded with
      | none => .error (.invalidAutomation "successful simulation evidence missing")
      | some simulation =>
        if simulation.documentHash ≠ activation.documentHash ∨
            simulation.planHash ≠ activation.planHash ∨
            simulation.registryRevision ≠ activation.registryRevision then
          .error (.invalidAutomation "activation simulation evidence mismatch")
        else if version.plan.approval = .explicitUserApproval ∧
            store.hasExactApproval activation = false then
          .error (.invalidAutomation "exact user approval missing")
        else match store.identities.find activation.automationId with
          | none => .error (.invalidAutomation "automation identity missing")
          | some identity =>
            if identity.state = .retired then
              .error (.invalidAutomation "retired automation cannot activate")
            else if identity.revision ≠ activation.expectedRevision then
              .error (.automationIdentityConflict activation.expectedRevision identity.revision)
            else
              let identity := { identity with
                state := .active
                activeVersion := some activation.version
                revision := nextRevision identity.revision
                updatedAt := activation.activatedAt }
              if 2^63 ≤ identity.revision then .error .numericOverflow
              else .ok (identity, { store with identities := store.identities.replace identity })

def transitionIdentity (store : AutomationStore) (identity : AutomationIdentityState)
    (expectedRevision : ℕ) : Except StorageError (AutomationIdentityState × AutomationStore) :=
  match store.identities.find identity.id with
  | none => .error (.invalidAutomation "automation identity missing")
  | some current =>
    if current.revision ≠ expectedRevision then
      .error (.automationIdentityConflict expectedRevision current.revision)
    else if identity.revision ≠ nextRevision expectedRevision ∨
        current.state.allowsTransitionTo identity.state = false ∨
        current.activeVersion ≠ identity.activeVersion ∨ current.createdAt ≠ identity.createdAt then
      .error (.invalidAutomation "invalid automation identity transition")
    else if 2^63 ≤ identity.revision then .error .numericOverflow
    else .ok (identity, { store with identities := store.identities.replace identity })

end AutomationStore
end HomeMagic
