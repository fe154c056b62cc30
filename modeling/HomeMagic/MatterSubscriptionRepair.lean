import HomeMagic.MatterNodeWorkflow

/-! Explicit repair of a subscription: a gap is begun and read, then attempts to subscribe are
reserved in the subscription's recovery record and made one by one. -/
namespace HomeMagic

structure MatterSubscriptionRecoveryPolicy where
  maximumSubscribeAttempts : ℕ
  maximumGapReads : ℕ
  baseDelayMillis : ℕ
  maximumDelayMillis : ℕ
  jitterMillis : ℕ
  sleepyReadIntervalMillis : ℕ
  attempts_lt : maximumSubscribeAttempts < 2^8
  deriving DecidableEq

structure MatterRepairSettings where
  ids : MatterIdentities
  policy : MatterSubscriptionRecoveryPolicy
  digest : MatterSubscriptionId → ℕ → ℕ

def deterministicJitter (digest : MatterSubscriptionId → ℕ → ℕ) (subscriptionId : MatterSubscriptionId)
    (attempt maximum : ℕ) : ℕ :=
  if maximum = 0 then 0 else digest subscriptionId attempt % min (maximum + 1) (2^64 - 1)

def matterSubscriptionRetryAt (settings : MatterRepairSettings) (subscriptionId : MatterSubscriptionId)
    (attempt : ℕ) (now : Instant) : Option Instant :=
  let base := min (settings.policy.baseDelayMillis * 2 ^ min (attempt - 1) 31) (2^64 - 1)
  let jitter := deterministicJitter settings.digest subscriptionId attempt settings.policy.jitterMillis
  addMillis now (min (min (base + jitter) (2^64 - 1)) settings.policy.maximumDelayMillis)

inductive MatterSubscriptionRepairError
  | administration (error : MatterAdministrationError)
  | operationNotFound | subscriptionNotFound | invalidPhase | invalidProjection | invalidRetryDeadline
  | repository (error : StorageError)
  deriving DecidableEq

inductive MatterSubscriptionRepairOutcome
  | waiting (operation : MatterOperation) (retryAt : Instant)
  | completed (operation : MatterOperation)
  | repairRequired (operation : MatterOperation)
  deriving DecidableEq

def raisedRevision (revision : ℕ) : ℕ := min (revision + 1) (2^64 - 1)

namespace StoredMatterSubscription

def gapBegun (subscription : StoredMatterSubscription) (policy : MatterSubscriptionRecoveryPolicy) (now : Instant) :
    StoredMatterSubscription :=
  { subscription with
    state := .repairRequired
    recovery := ⟨some .reportGap, subscription.recovery.sleepy, 1, policy.maximumGapReads, 0,
      policy.maximumSubscribeAttempts, none, subscription.recovery.lastGapReadAt, policy.sleepyReadIntervalMillis⟩
    revision := raisedRevision subscription.revision
    updatedAt := now }

def gapRead (subscription : StoredMatterSubscription) (now : Instant) : StoredMatterSubscription :=
  { subscription with
    recovery := { subscription.recovery with lastGapReadAt := some now, subscribeAttempts := 1, retryAt := none }
    revision := raisedRevision subscription.revision
    updatedAt := now }

def attemptReserved (subscription : StoredMatterSubscription) (now : Instant) : StoredMatterSubscription :=
  { subscription with
    recovery := { subscription.recovery with
      subscribeAttempts := min (subscription.recovery.subscribeAttempts + 1) 255, retryAt := none }
    revision := raisedRevision subscription.revision
    updatedAt := now }

def subscribed (subscription : StoredMatterSubscription) (policy : MatterSubscriptionRecoveryPolicy)
    (status : MatterSubscriptionStatus) (now : Instant) : StoredMatterSubscription :=
  { subscription with
    state := .established
    reportSequence := status.reportSequence
    staleAfter := (addMillis status.verifiedAt 60000).getD status.verifiedAt
    recovery := ⟨none, subscription.recovery.sleepy, 0, policy.maximumGapReads, 0, policy.maximumSubscribeAttempts,
      none, subscription.recovery.lastGapReadAt, policy.sleepyReadIntervalMillis⟩
    revision := raisedRevision subscription.revision
    updatedAt := now }

def givenUp (subscription : StoredMatterSubscription) (now : Instant) : StoredMatterSubscription :=
  { subscription with
    state := .repairRequired
    recovery := { subscription.recovery with retryAt := none }
    revision := raisedRevision subscription.revision
    updatedAt := now }

def waiting (subscription : StoredMatterSubscription) (retryAt now : Instant) : StoredMatterSubscription :=
  { subscription with
    recovery := { subscription.recovery with retryAt := some retryAt }
    revision := raisedRevision subscription.revision
    updatedAt := now }

end StoredMatterSubscription

namespace MatterSubscriptionRepair

open Fallible MatterNodeWorkflow

abbrev RepairM := MatterM MatterSubscriptionRepairError

def inventory (actorId : ActorId) (operation : MatterOperation) :
    RepairM (MatterNodeInventoryRecord × StoredMatterSubscription) := do
  match operation.target with
  | .node fabricId nodeId =>
    let installationId ← within .administration
      (MatterAdministration.authorizeInstallationAction actorId .matterRepairSubscription)
    match ← attempt .repository (MatterCall.perform (.nodeInventoryItem installationId fabricId nodeId)) with
    | none => throw .subscriptionNotFound
    | some record =>
      match record.subscription with
      | none => throw .subscriptionNotFound
      | some subscription => pure (record, subscription)
  | _ => throw .invalidPhase

def repairCommit (operation : MatterOperation) (expectedOperationRevision : ℕ)
    (subscription : StoredMatterSubscription) (expectedSubscriptionRevision : ℕ)
    (projections : List MatterSubscriptionProjectionWrite) (repair : Option MatterRepairRecord) :
    MatterSubscriptionRepairCommit :=
  ⟨⟨operation, expectedOperationRevision, progressWithError operation (repair.map MatterRepairRecord.error),
    repair⟩, subscription, expectedSubscriptionRevision, projections⟩

def advance (operation : MatterOperation) (next : MatterOperationPhase) (before after : StoredMatterSubscription)
    (projections : List MatterSubscriptionProjectionWrite) (repair : Option MatterRepairRecord) (now : Instant) :
    RepairM MatterOperation :=
  match operation.transition next now with
  | .error _ => throw .invalidPhase
  | .ok moved => do
    attempt .repository (MatterCall.perform (.commit (.repair
      (repairCommit moved operation.revision after before.revision projections repair))))
    pure moved

def staleProjection (now : Instant) (projection : StoredMatterProjection) :
    Option MatterSubscriptionProjectionWrite :=
  match markMatterProjectionStale projection.state .reportGap with
  | .error _ => none
  | .ok state => some ⟨{ projection with
      state := state, revision := raisedRevision projection.revision, updatedAt := now }, projection.revision⟩

def beginGap (settings : MatterRepairSettings) (actorId : ActorId) (operation : MatterOperation) (now : Instant) :
    RepairM MatterOperation := do
  let (record, subscription) ← inventory actorId operation
  match record.projections.mapM (staleProjection now) with
  | none => throw .invalidProjection
  | some projections =>
    advance operation .readingGap subscription (subscription.gapBegun settings.policy now) projections none now

def readState (projection : MatterNodeCapability) (state : MatterProjectedState)
    (reports : Option (List MatterAttributeReport)) (now : Instant) : Except MatterStateError MatterProjectedState :=
  match reports.bind (fun reports => reports.find? (fun report => report.path == projection.reportPath)) with
  | none => markMatterProjectionStale state .readFailed
  | some report =>
    match normalizeMatterReport projection.toMatterCapabilityProjection report now state.reported with
    | .applied reported => advanceMatterProjectedState state reported ⟨none⟩
    | .duplicate =>
      match state.reported with
      | some reported => advanceMatterProjectedState state reported ⟨none⟩
      | none => .ok state
    | .rejected _ => .ok state

def readProjection (capabilities : List MatterNodeCapability) (reports : Option (List MatterAttributeReport))
    (now : Instant) (projection : StoredMatterProjection) : Option MatterSubscriptionProjectionWrite :=
  match capabilities.find? (fun capability => capability.projectionId == projection.projectionId) with
  | none => none
  | some capability =>
    match readState capability projection.state reports now with
    | .error _ => none
    | .ok state => some ⟨{ projection with
        state := state, revision := raisedRevision projection.revision, updatedAt := now }, projection.revision⟩

def reportSelection (ids : MatterIdentities) (record : MatterNodeInventoryRecord) :
    Option (List MatterAttributePath) :=
  attributeSelection ((record.node.descriptor.capabilities ids record.node.installationId).map
    (fun capability => capability.reportPath))

def readGap (settings : MatterRepairSettings) (actorId : ActorId) (operation : MatterOperation) (now : Instant) :
    RepairM MatterOperation := do
  let (record, subscription) ← inventory actorId operation
  let capabilities := record.node.descriptor.capabilities settings.ids record.node.installationId
  match reportSelection settings.ids record with
  | none => throw .invalidProjection
  | some selection =>
    let reports : Except MatterControllerError (List MatterAttributeReport) ←
      answer (MatterCall.read ⟨subscription.fabricId, subscription.nodeId, selection⟩)
    match record.projections.mapM (readProjection capabilities reports.toOption now) with
    | none => throw .invalidProjection
    | some projections => advance operation .subscribing subscription (subscription.gapRead now) projections none now

def ambiguousError (operation : MatterOperation) : MatterControllerError :=
  ⟨.conflict, .outcomeIndeterminate, .afterRepair, some (.operation operation.id), none⟩

def giveUp (operation : MatterOperation) (subscription : StoredMatterSubscription) (error : MatterControllerError)
    (now : Instant) : RepairM MatterSubscriptionRepairOutcome := do
  let repairId ← answer .newId
  let moved ← advance operation .repairRequired subscription (subscription.givenUp now) []
    (some (MatterAdministration.newRepair repairId operation error now)) now
  pure (.repairRequired moved)

def recordAmbiguousDispatch (actorId : ActorId) (operation : MatterOperation) (now : Instant) :
    RepairM MatterSubscriptionRepairOutcome := do
  let (_, subscription) ← inventory actorId operation
  giveUp operation subscription (ambiguousError operation) now

def recordSubscribeFailure (settings : MatterRepairSettings) (operation : MatterOperation)
    (subscription : StoredMatterSubscription) (error : MatterControllerError) (now : Instant) :
    RepairM MatterSubscriptionRepairOutcome := do
  if subscription.recovery.maximumSubscribeAttempts ≤ subscription.recovery.subscribeAttempts then
    giveUp operation subscription error now
  else
    let attempts := subscription.recovery.subscribeAttempts
    match matterSubscriptionRetryAt settings subscription.subscriptionId attempts now with
    | none => throw .invalidRetryDeadline
    | some retryAt =>
      attempt .repository (MatterCall.perform (.commit (.subscription (subscription.waiting retryAt now)
        (some subscription.revision))))
      pure (.waiting operation retryAt)

def subscriptionLostError (subscription : StoredMatterSubscription) : MatterControllerError :=
  ⟨.protocol, .subscriptionLost, .safe, some (.node subscription.fabricId subscription.nodeId), none⟩

def dispatch (settings : MatterRepairSettings) (record : MatterNodeInventoryRecord) (operation : MatterOperation)
    (subscription : StoredMatterSubscription) (now : Instant) : RepairM MatterSubscriptionRepairOutcome := do
  match reportSelection settings.ids record with
  | none => throw .invalidProjection
  | some selection =>
    let result : Except MatterControllerError MatterSubscriptionStatus ← answer (MatterCall.subscribe operation.id
      ⟨subscription.subscriptionId, subscription.fabricId, subscription.nodeId, selection⟩)
    match result with
    | .error error => recordSubscribeFailure settings operation subscription error now
    | .ok status =>
      if status.established then
        let completed ← advance operation .completed subscription (subscription.subscribed settings.policy status now)
          [] none now
        pure (.completed completed)
      else recordSubscribeFailure settings operation subscription (subscriptionLostError subscription) now

def subscribe (settings : MatterRepairSettings) (actorId : ActorId) (operation : MatterOperation) (now : Instant)
    (reservedAttempt : Bool) : RepairM MatterSubscriptionRepairOutcome := do
  let (record, subscription) ← inventory actorId operation
  match subscription.recovery.retryAt with
  | some retryAt =>
    if now < retryAt then pure (.waiting operation retryAt)
    else do
      let reserved := subscription.attemptReserved now
      attempt .repository (MatterCall.perform (.commit (.subscription reserved (some subscription.revision))))
      dispatch settings record operation reserved now
  | none =>
    if reservedAttempt then dispatch settings record operation subscription now
    else recordAmbiguousDispatch actorId operation now

def run (settings : MatterRepairSettings) (actorId : ActorId) (operationId : MatterOperationId) (now : Instant) :
    RepairM MatterSubscriptionRepairOutcome := do
  let operation ← within .administration
    (MatterAdministration.ownedOperationForAction actorId operationId .matterRepairSubscription)
  if operation.kind ≠ .repairSubscription then throw .operationNotFound
  else match operation.phase with
    | .requested => do
      let operation ← beginGap settings actorId operation now
      let operation ← readGap settings actorId operation now
      subscribe settings actorId operation now true
    | .readingGap => recordAmbiguousDispatch actorId operation now
    | .subscribing => do
      let (_, subscription) ← inventory actorId operation
      if subscription.recovery.retryAt.isSome then subscribe settings actorId operation now false
      else recordAmbiguousDispatch actorId operation now
    | .completed => pure (.completed operation)
    | .repairRequired => pure (.repairRequired operation)
    | _ => throw .invalidPhase

end MatterSubscriptionRepair
end HomeMagic
