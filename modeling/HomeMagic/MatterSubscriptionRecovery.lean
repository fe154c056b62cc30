import HomeMagic.MatterSubscriptionRepair

/-! The recovery of a lost subscription: the machine that plans it, what of the machine survives a restart, and the
status that is read off the stored record. -/
namespace HomeMagic

variable {now : Instant}

def MatterSubscriptionRecoveryPolicy.refused (policy : MatterSubscriptionRecoveryPolicy) : Bool :=
  policy.maximumSubscribeAttempts == 0 || policy.maximumGapReads == 0 || policy.baseDelayMillis == 0 ||
    decide (policy.maximumDelayMillis < policy.baseDelayMillis) ||
    decide (policy.maximumDelayMillis < policy.jitterMillis) || policy.sleepyReadIntervalMillis == 0

structure MatterSubscriptionRecoveryPolicy.Accepted (policy : MatterSubscriptionRecoveryPolicy) : Prop where
  notRefused : policy.refused = false
  gapReads_lt : policy.maximumGapReads < 2^8
  delay_lt : policy.maximumDelayMillis < 2^64
  interval_lt : policy.sleepyReadIntervalMillis < 2^64

inductive MatterSubscriptionDiagnosticState
  | established | stale | waiting | exhausted | repairRequired
  deriving DecidableEq

inductive MatterSubscriptionRemediation
  | none | waitForRetry | waitForSleepyRead | requestGapRepair | requestResubscribe | retryBudgetExhausted
  | explicitRepairRequired
  deriving DecidableEq

structure MatterSubscriptionRecoveryStatus where
  state : MatterSubscriptionDiagnosticState
  remediation : MatterSubscriptionRemediation
  stale : Bool
  subscribeAttempts : ℕ
  maximumSubscribeAttempts : ℕ
  gapReads : ℕ
  maximumGapReads : ℕ
  retryAt : Option Instant
  nextGapReadAt : Option Instant
  deriving DecidableEq

def StoredMatterSubscriptionRecovery.nextGapReadAt (recovery : StoredMatterSubscriptionRecovery) : Option Instant :=
  if recovery.sleepy then
    recovery.lastGapReadAt.bind (fun last => addMillis last recovery.sleepyReadIntervalMillis)
  else none

def StoredMatterSubscriptionRecovery.invalidBudget (recovery : StoredMatterSubscriptionRecovery) : Bool :=
  recovery.maximumSubscribeAttempts == 0 || recovery.maximumGapReads == 0 || recovery.sleepyReadIntervalMillis == 0

def isStale (stored : StoredMatterSubscription) (now : Instant) : Bool :=
  stored.state != .established || decide (stored.staleAfter ≤ now)

def remediationAt (stored : StoredMatterSubscription) (now : Instant) :
    MatterSubscriptionDiagnosticState × MatterSubscriptionRemediation :=
  let recovery := stored.recovery
  if stored.state = .repairRequired ∨ recovery.invalidBudget = true then (.repairRequired, .explicitRepairRequired)
  else if isStale stored now = false then (.established, .none)
  else if recovery.maximumSubscribeAttempts ≤ recovery.subscribeAttempts then (.exhausted, .retryBudgetExhausted)
  else if recovery.retryAt.any (fun retryAt => now < retryAt) then (.waiting, .waitForRetry)
  else if recovery.nextGapReadAt.any (fun allowedAt => now < allowedAt) then (.waiting, .waitForSleepyRead)
  else if recovery.maximumGapReads ≤ recovery.gapReads then (.stale, .requestResubscribe)
  else (.stale, .requestGapRepair)

def matterSubscriptionStatus (stored : StoredMatterSubscription) (now : Instant) :
    MatterSubscriptionRecoveryStatus where
  state := (remediationAt stored now).1
  remediation := (remediationAt stored now).2
  stale := isStale stored now
  subscribeAttempts := stored.recovery.subscribeAttempts
  maximumSubscribeAttempts := stored.recovery.maximumSubscribeAttempts
  gapReads := stored.recovery.gapReads
  maximumGapReads := stored.recovery.maximumGapReads
  retryAt := stored.recovery.retryAt
  nextGapReadAt := stored.recovery.nextGapReadAt

structure MatterIntervalRequest extends MatterSubscriptionRequest where
  minimumIntervalMillis : ℕ
  maximumIntervalMillis : ℕ
  deriving DecidableEq

def MatterIntervalRequest.new (request : MatterSubscriptionRequest)
    (minimumIntervalMillis maximumIntervalMillis : ℕ) : Option MatterIntervalRequest :=
  if maximumIntervalMillis = 0 ∨ maximumIntervalMillis < minimumIntervalMillis then none
  else some ⟨request, minimumIntervalMillis, maximumIntervalMillis⟩

inductive MatterSubscriptionRecoveryAction
  | markStale (reason : MatterSubscriptionLossReason)
  | gapRead (request : MatterReadSelection)
  | resubscribe (request : MatterIntervalRequest)
  | waitUntil (at_ : Instant)
  | repairRequired
  | complete
  deriving DecidableEq

inductive MatterSubscriptionRecoveryOutcome
  | stalePersisted | gapReadCompleted | gapReadFailed | resubscribed | resubscribeFailed
  deriving DecidableEq

inductive RecoveryPhase
  | markStale | gapRead | resubscribe | waiting | complete | repairRequired
  deriving DecidableEq

inductive MatterSubscriptionRecoveryError
  | unexpectedOutcome
  deriving DecidableEq

structure MatterSubscriptionRecovery where
  subscriptionId : MatterSubscriptionId
  fabricId : MatterFabricId
  nodeId : MatterNodeId
  selection : List MatterAttributePath
  minimumIntervalMillis : ℕ
  maximumIntervalMillis : ℕ
  lossReason : MatterSubscriptionLossReason
  sleepy : Bool
  lastGapReadAt : Option Instant
  gapReads : ℕ
  subscribeAttempts : ℕ
  retryAt : Option Instant
  phase : RecoveryPhase
  policy : MatterSubscriptionRecoveryPolicy

namespace MatterSubscriptionRecovery

def afterLoss (subscriptionId : MatterSubscriptionId) (fabricId : MatterFabricId) (nodeId : MatterNodeId)
    (selection : List MatterAttributePath) (minimumIntervalMillis maximumIntervalMillis : ℕ)
    (reason : MatterSubscriptionLossReason) (sleepy : Bool) (lastGapReadAt : Option Instant)
    (policy : MatterSubscriptionRecoveryPolicy) : MatterSubscriptionRecovery :=
  ⟨subscriptionId, fabricId, nodeId, selection, minimumIntervalMillis, maximumIntervalMillis, reason, sleepy,
    lastGapReadAt, 0, 0, none, .markStale, policy⟩

def storedPhase (stored : StoredMatterSubscription) : RecoveryPhase :=
  match stored.state with
  | .established => .markStale
  | .repairRequired => .repairRequired
  | .pending | .stale =>
    if stored.recovery.retryAt.isSome then .waiting
    else if stored.recovery.gapReads < stored.recovery.maximumGapReads then .gapRead
    else .resubscribe

def fromStored (stored : StoredMatterSubscription) (selection : List MatterAttributePath)
    (minimumIntervalMillis maximumIntervalMillis : ℕ) (policy : MatterSubscriptionRecoveryPolicy) :
    MatterSubscriptionRecovery where
  subscriptionId := stored.subscriptionId
  fabricId := stored.fabricId
  nodeId := stored.nodeId
  selection := selection
  minimumIntervalMillis := minimumIntervalMillis
  maximumIntervalMillis := maximumIntervalMillis
  lossReason := stored.recovery.gapReason.getD
    (if stored.state = .established then .controllerRestarted else .reportGap)
  sleepy := stored.recovery.sleepy
  lastGapReadAt := stored.recovery.lastGapReadAt
  gapReads := stored.recovery.gapReads
  subscribeAttempts := stored.recovery.subscribeAttempts
  retryAt := stored.recovery.retryAt
  phase := storedPhase stored
  -- the stored maximum is a `u8`
  policy := { policy with
    maximumGapReads := stored.recovery.maximumGapReads
    maximumSubscribeAttempts := stored.recovery.maximumSubscribeAttempts % 2^8
    sleepyReadIntervalMillis := stored.recovery.sleepyReadIntervalMillis
    attempts_lt := Nat.mod_lt _ (by decide) }

def checkpoint (machine : MatterSubscriptionRecovery) : StoredMatterSubscriptionRecovery where
  gapReason := if machine.phase ≠ .complete then some machine.lossReason else none
  sleepy := machine.sleepy
  gapReads := machine.gapReads
  maximumGapReads := machine.policy.maximumGapReads
  subscribeAttempts := machine.subscribeAttempts
  maximumSubscribeAttempts := machine.policy.maximumSubscribeAttempts
  retryAt := machine.retryAt
  lastGapReadAt := machine.lastGapReadAt
  sleepyReadIntervalMillis := machine.policy.sleepyReadIntervalMillis

def gapReadAllowed (machine : MatterSubscriptionRecovery) (now : Instant) : Bool :=
  if machine.policy.maximumGapReads ≤ machine.gapReads then false
  else
    !machine.sleepy || (machine.lastGapReadAt.bind (fun last =>
      addMillis last machine.policy.sleepyReadIntervalMillis)).all (fun allowedAt => allowedAt ≤ now)

def actionAt (machine : MatterSubscriptionRecovery) (now : Instant) : MatterSubscriptionRecoveryAction :=
  match machine.phase with
  | .markStale => .markStale machine.lossReason
  | .gapRead =>
    if machine.gapReadAllowed now then .gapRead ⟨machine.fabricId, machine.nodeId, machine.selection⟩
    else .waitUntil ((machine.lastGapReadAt.bind (fun last =>
      addMillis last machine.policy.sleepyReadIntervalMillis)).getD now)
  | .resubscribe =>
    match MatterIntervalRequest.new ⟨machine.subscriptionId, machine.fabricId, machine.nodeId, machine.selection⟩
        machine.minimumIntervalMillis machine.maximumIntervalMillis with
    | none => .repairRequired
    | some request => .resubscribe request
  | .waiting => .waitUntil now
  | .complete => .complete
  | .repairRequired => .repairRequired

def waits (machine : MatterSubscriptionRecovery) (now : Instant) : Bool :=
  machine.phase == .waiting && machine.retryAt.any (fun retryAt => now < retryAt)

def settled (machine : MatterSubscriptionRecovery) (now : Instant) : MatterSubscriptionRecovery :=
  if machine.waits now = false ∧ machine.phase = .waiting then { machine with phase := .resubscribe } else machine

def nextAction (machine : MatterSubscriptionRecovery) (now : Instant) : MatterSubscriptionRecoveryAction :=
  if machine.waits now then .waitUntil (machine.retryAt.getD now) else (machine.settled now).actionAt now

/-- The delay after that many failed attempts; a jitter is a digest of the subscription and the attempt. -/
def retryDelayMillis (digest : MatterSubscriptionId → ℕ → ℕ) (machine : MatterSubscriptionRecovery) : ℕ :=
  let base := min (machine.policy.baseDelayMillis * 2 ^ min (machine.subscribeAttempts - 1) 31) (2^64 - 1)
  let jitter := deterministicJitter digest machine.subscriptionId machine.subscribeAttempts machine.policy.jitterMillis
  min (min (base + jitter) (2^64 - 1)) machine.policy.maximumDelayMillis

def recordOutcome (digest : MatterSubscriptionId → ℕ → ℕ) (machine : MatterSubscriptionRecovery)
    (outcome : MatterSubscriptionRecoveryOutcome) (now : Instant) :
    Except MatterSubscriptionRecoveryError MatterSubscriptionRecovery :=
  match machine.phase, outcome with
  | .markStale, .stalePersisted => .ok { machine with phase := .gapRead }
  | .gapRead, .gapReadCompleted | .gapRead, .gapReadFailed =>
    .ok { machine with gapReads := min (machine.gapReads + 1) 255, lastGapReadAt := some now, phase := .resubscribe }
  | .resubscribe, .resubscribed =>
    .ok { machine with gapReads := 0, subscribeAttempts := 0, retryAt := none, phase := .complete }
  | .resubscribe, .resubscribeFailed =>
    let machine := { machine with subscribeAttempts := min (machine.subscribeAttempts + 1) 255 }
    if machine.policy.maximumSubscribeAttempts ≤ machine.subscribeAttempts then
      .ok { machine with phase := .repairRequired }
    else .ok { machine with retryAt := addMillis now (machine.retryDelayMillis digest), phase := .waiting }
  | _, _ => .error .unexpectedOutcome

def storedState (machine : MatterSubscriptionRecovery) : StoredMatterSubscriptionState :=
  match machine.phase with
  | .markStale => .established
  | .repairRequired => .repairRequired
  | _ => .stale

def stored (machine : MatterSubscriptionRecovery) (row : StoredMatterSubscription) : StoredMatterSubscription :=
  { row with
    subscriptionId := machine.subscriptionId
    fabricId := machine.fabricId
    nodeId := machine.nodeId
    state := machine.storedState
    recovery := machine.checkpoint }

def restarted (machine : MatterSubscriptionRecovery) (row : StoredMatterSubscription) : MatterSubscriptionRecovery :=
  fromStored (machine.stored row) machine.selection machine.minimumIntervalMillis machine.maximumIntervalMillis
    machine.policy

end MatterSubscriptionRecovery

namespace MatterSubscriptionRecovery

variable {machine : MatterSubscriptionRecovery}

def guessedPhase (machine : MatterSubscriptionRecovery) : RecoveryPhase :=
  match machine.phase with
  | .markStale => .markStale
  | .repairRequired => .repairRequired
  | _ =>
    if machine.retryAt.isSome then .waiting
    else if machine.gapReads < machine.policy.maximumGapReads then .gapRead
    else .resubscribe

theorem restarted_eq (h : machine.phase ≠ .complete) (row : StoredMatterSubscription) :
    machine.restarted row = { machine with phase := machine.guessedPhase } := by
  have hpolicy : machine.policy.maximumSubscribeAttempts % 2^8 = machine.policy.maximumSubscribeAttempts :=
    Nat.mod_eq_of_lt machine.policy.attempts_lt
  have hphase : storedPhase (machine.stored row) = machine.guessedPhase := by
    unfold storedPhase guessedPhase
    cases hcase : machine.phase <;> simp only [stored, storedState, hcase, checkpoint]
  unfold restarted fromStored
  rw [hphase]
  simp only [stored, checkpoint, ne_eq, h, not_false_eq_true, if_true, Option.getD_some, hpolicy]

theorem settled_eq (machine : MatterSubscriptionRecovery) (now : Instant) : machine.settled now = machine ∨
    machine.phase = .waiting ∧ (∀ t, machine.retryAt = some t → t ≤ now) ∧
      machine.settled now = { machine with phase := .resubscribe } := by
  unfold settled
  split
  next h =>
    refine .inr ⟨h.2, ?_, rfl⟩
    intro t ht
    have hwaits := h.1
    simp only [waits, h.2, ht, beq_self_eq_true, Option.any_some, Bool.true_and, decide_eq_false_iff_not] at hwaits
    exact not_lt.mp hwaits
  next => exact .inl rfl

theorem settled_of_ne (h : machine.phase ≠ .waiting) (now : Instant) : machine.settled now = machine := by
  simp only [settled, h, and_false, if_false]

theorem nextAction_of_ne (h : machine.phase ≠ .waiting) (now : Instant) :
    machine.nextAction now = machine.actionAt now := by
  have hwaits : machine.waits now = false := by
    simp [waits, h]
  rw [nextAction, hwaits, settled_of_ne h]
  rfl

theorem elapsed_eq (h : machine.phase = .waiting) (helapsed : ∀ t, machine.retryAt = some t → t ≤ now) :
    machine.settled now = { machine with phase := .resubscribe } ∧
      machine.nextAction now = { machine with phase := .resubscribe }.actionAt now := by
  have hwaits : machine.waits now = false := by
    simp only [waits, h, beq_self_eq_true, Bool.true_and]
    cases hretry : machine.retryAt with
    | none => rfl
    | some t =>
      have hle := helapsed t hretry
      simp only [Option.any_some, decide_eq_false_iff_not]
      exact not_lt.mpr hle
  have hsettled : machine.settled now = { machine with phase := .resubscribe } := by
    simp only [settled, hwaits, h, and_self, if_true]
  refine ⟨hsettled, ?_⟩
  rw [nextAction, hwaits, hsettled]
  rfl

theorem phase_of_actionAt : (∀ request, machine.actionAt now = .gapRead request →
    machine.phase = .gapRead) ∧ ∀ request, machine.actionAt now = .resubscribe request →
      machine.phase = .resubscribe := by
  unfold actionAt
  cases machine.phase with
  | gapRead =>
    dsimp only
    split <;> simp
  | resubscribe =>
    dsimp only
    split <;> simp
  | markStale | waiting | complete | repairRequired => simp

theorem phase_of_nextAction : (∀ request, machine.nextAction now = .gapRead request →
    machine.phase = .gapRead) ∧ ∀ request, machine.nextAction now = .resubscribe request →
      machine.phase = .resubscribe ∨ machine.phase = .waiting ∧ ∀ t, machine.retryAt = some t → t ≤ now := by
  unfold nextAction
  split
  next => simp
  next =>
    obtain hsettled | ⟨hphase, hretry, hsettled⟩ := settled_eq machine now
    · rw [hsettled]
      exact ⟨phase_of_actionAt.1, fun request hrequest => .inl (phase_of_actionAt.2 request hrequest)⟩
    · rw [hsettled]
      refine ⟨fun request hrequest => ?_, fun _ _ => .inr ⟨hphase, hretry⟩⟩
      have hwrong := phase_of_actionAt.1 request hrequest
      cases hwrong

theorem recordOutcome_cases {digest : MatterSubscriptionId → ℕ → ℕ} {outcome : MatterSubscriptionRecoveryOutcome}
    {next : MatterSubscriptionRecovery} (h : machine.recordOutcome digest outcome now = .ok next) :
    (machine.phase = .markStale ∧ outcome = .stalePersisted ∧ next = { machine with phase := .gapRead }) ∨
    (machine.phase = .gapRead ∧ (outcome = .gapReadCompleted ∨ outcome = .gapReadFailed) ∧
      next = { machine with
        gapReads := min (machine.gapReads + 1) 255, lastGapReadAt := some now, phase := .resubscribe }) ∨
    (machine.phase = .resubscribe ∧ outcome = .resubscribed ∧
      next = { machine with gapReads := 0, subscribeAttempts := 0, retryAt := none, phase := .complete }) ∨
    (machine.phase = .resubscribe ∧ outcome = .resubscribeFailed ∧
      machine.policy.maximumSubscribeAttempts ≤ min (machine.subscribeAttempts + 1) 255 ∧
      next = { machine with subscribeAttempts := min (machine.subscribeAttempts + 1) 255, phase := .repairRequired }) ∨
    (machine.phase = .resubscribe ∧ outcome = .resubscribeFailed ∧
      min (machine.subscribeAttempts + 1) 255 < machine.policy.maximumSubscribeAttempts ∧
      next = { machine with
        subscribeAttempts := min (machine.subscribeAttempts + 1) 255
        retryAt := addMillis now ({ machine with
          subscribeAttempts := min (machine.subscribeAttempts + 1) 255 }.retryDelayMillis digest)
        phase := .waiting }) := by
  unfold recordOutcome at h
  split at h
  next hphase => exact .inl ⟨hphase, rfl, (Except.ok.inj h).symm⟩
  next hphase => exact .inr (.inl ⟨hphase, .inl rfl, (Except.ok.inj h).symm⟩)
  next hphase => exact .inr (.inl ⟨hphase, .inr rfl, (Except.ok.inj h).symm⟩)
  next hphase => exact .inr (.inr (.inl ⟨hphase, rfl, (Except.ok.inj h).symm⟩))
  next hphase =>
    dsimp only at h
    split at h
    next hspent => exact .inr (.inr (.inr (.inl ⟨hphase, rfl, hspent, (Except.ok.inj h).symm⟩)))
    next hleft => exact .inr (.inr (.inr (.inr ⟨hphase, rfl, not_le.mp hleft, (Except.ok.inj h).symm⟩)))
  next => cases h

def sleepyWaits (machine : MatterSubscriptionRecovery) (now : Instant) : Bool :=
  machine.checkpoint.nextGapReadAt.any (fun allowedAt => now < allowedAt)

def due (machine : MatterSubscriptionRecovery) (now : Instant) : Bool :=
  machine.phase == .resubscribe || machine.phase == .waiting && !machine.waits now

def validInterval (machine : MatterSubscriptionRecovery) : Bool :=
  decide (machine.maximumIntervalMillis ≠ 0) && decide (machine.minimumIntervalMillis ≤ machine.maximumIntervalMillis)

end MatterSubscriptionRecovery

def MatterSubscriptionRecoveryStatus.Recommends (status : MatterSubscriptionRecoveryStatus) :
    MatterSubscriptionRecoveryAction → Prop
  | .markStale _ | .gapRead _ => status.remediation = .requestGapRepair
  | .resubscribe _ => status.remediation = .requestResubscribe
  | .waitUntil at_ => (status.remediation = .waitForRetry ∧ status.retryAt = some at_) ∨
      (status.remediation = .waitForSleepyRead ∧ status.nextGapReadAt = some at_)
  | .repairRequired => status.remediation = .retryBudgetExhausted ∨ status.remediation = .explicitRepairRequired
  | .complete => status.remediation = .none

namespace MatterSubscriptionRecovery

/-- When the status gives the advice that fits: before the stale mark the record must be overdue, and once a subscribe
call is due the gap reads must be used up; both times no sleepy interval may be running. -/
structure Advises (machine : MatterSubscriptionRecovery) (row : StoredMatterSubscription) (now : Instant) : Prop where
  marking : machine.phase = .markStale → row.staleAfter ≤ now ∧ machine.sleepyWaits now = false
  subscribing : machine.due now = true → machine.policy.maximumGapReads ≤ machine.gapReads ∧
    machine.sleepyWaits now = false ∧ machine.validInterval = true

variable {machine : MatterSubscriptionRecovery}

theorem budget_valid (h : machine.policy.Accepted) (row : StoredMatterSubscription) :
    (machine.stored row).recovery.invalidBudget = false := by
  have hrefused := h.notRefused
  simp only [MatterSubscriptionRecoveryPolicy.refused, Bool.or_eq_false_iff] at hrefused
  simp only [StoredMatterSubscriptionRecovery.invalidBudget, stored, checkpoint, Bool.or_eq_false_iff]
  exact ⟨⟨hrefused.1.1.1.1.1, hrefused.1.1.1.1.2⟩, hrefused.2⟩

theorem remediation_of_stale (h : machine.policy.Accepted) {row : StoredMatterSubscription}
    (hphase : machine.phase ≠ .repairRequired) (hstale : isStale (machine.stored row) now = true)
    (hattempts : machine.subscribeAttempts < machine.policy.maximumSubscribeAttempts) :
    (matterSubscriptionStatus (machine.stored row) now).remediation =
      if machine.retryAt.any (fun retryAt => now < retryAt) then .waitForRetry
      else if machine.sleepyWaits now then .waitForSleepyRead
      else if machine.policy.maximumGapReads ≤ machine.gapReads then .requestResubscribe
      else .requestGapRepair := by
  have hstate : (machine.stored row).state ≠ .repairRequired := by
    simp only [stored, storedState]
    cases hcase : machine.phase <;> simp_all
  have hleft : ¬ machine.policy.maximumSubscribeAttempts ≤ machine.subscribeAttempts := not_le.mpr hattempts
  simp only [matterSubscriptionStatus, remediationAt, hstate, budget_valid h row, hstale, or_self, if_false,
    Bool.false_eq_true, Bool.true_eq_false]
  simp only [stored, checkpoint, hleft, if_false, sleepyWaits]
  by_cases hretry : machine.retryAt.any (fun retryAt => decide (now < retryAt)) = true
  · simp only [hretry, if_true]
  · by_cases hsleepy : machine.checkpoint.nextGapReadAt.any (fun allowedAt => decide (now < allowedAt)) = true
    · simp only [checkpoint] at hsleepy
      simp only [hretry, hsleepy, Bool.false_eq_true, if_false, if_true]
    · by_cases hreads : machine.policy.maximumGapReads ≤ machine.gapReads <;> simp only [checkpoint] at hsleepy <;>
        simp only [hretry, hsleepy, hreads, Bool.false_eq_true, if_false, if_true]

theorem gapReadAllowed_eq (hleft : machine.gapReads < machine.policy.maximumGapReads) (now : Instant) :
    machine.gapReadAllowed now = !machine.sleepyWaits now := by
  have hnot : ¬ machine.policy.maximumGapReads ≤ machine.gapReads := not_le.mpr hleft
  simp only [gapReadAllowed, hnot, if_false, sleepyWaits, checkpoint, StoredMatterSubscriptionRecovery.nextGapReadAt]
  by_cases hsleepy : machine.sleepy = true
  · cases hnext : machine.lastGapReadAt.bind (fun last =>
        addMillis last machine.policy.sleepyReadIntervalMillis) with
    | none => simp [hsleepy]
    | some allowedAt =>
      have hle : decide (allowedAt ≤ now) = !decide (now < allowedAt) := by
        rw [← decide_not]
        exact decide_eq_decide.mpr not_lt.symm
      simp only [hsleepy, Bool.not_true, Bool.false_or, if_true, Option.all_some, Option.any_some, hle]
  · simp [hsleepy]

theorem exists_awake (machine : MatterSubscriptionRecovery) :
    ∃ at_, ∀ now, at_ ≤ now → machine.sleepyWaits now = false := by
  unfold sleepyWaits
  cases machine.checkpoint.nextGapReadAt with
  | none => exact ⟨0, fun _ _ => rfl⟩
  | some allowedAt =>
    refine ⟨allowedAt, fun now hnow => ?_⟩
    simpa using hnow

theorem subscribing_acts (h : machine.phase = .resubscribe) (digest : MatterSubscriptionId → ℕ → ℕ) (now : Instant) :
    (∀ t, machine.actionAt now ≠ .waitUntil t) ∧
      ∃ next, machine.recordOutcome digest .resubscribed now = .ok next := by
  constructor
  · intro t
    simp only [actionAt, h]
    split <;> simp
  · unfold recordOutcome
    rw [h]
    exact ⟨_, rfl⟩

theorem isStale_of_phase (h : machine.phase ≠ .markStale) (row : StoredMatterSubscription) (now : Instant) :
    isStale (machine.stored row) now = true := by
  have hstate : machine.storedState ≠ .established := by
    unfold storedState
    cases hcase : machine.phase <;> simp_all
  simp [isStale, stored, hstate]

theorem recommends_gapRead (h : machine.policy.Accepted) (hphase : machine.phase = .gapRead)
    (hretry : machine.retryAt = none) (hreads : machine.gapReads < machine.policy.maximumGapReads)
    (hattempts : machine.subscribeAttempts < machine.policy.maximumSubscribeAttempts)
    (row : StoredMatterSubscription) (now : Instant) :
    (matterSubscriptionStatus (machine.stored row) now).Recommends (machine.nextAction now) := by
  have hremediation := remediation_of_stale h (by rw [hphase]; decide)
    (isStale_of_phase (by rw [hphase]; decide) row now) hattempts
  have hnot : ¬ machine.policy.maximumGapReads ≤ machine.gapReads := not_le.mpr hreads
  rw [hretry] at hremediation
  simp only [Option.any_none, Bool.false_eq_true, if_false, hnot] at hremediation
  rw [nextAction_of_ne (by rw [hphase]; decide)]
  simp only [actionAt, hphase, gapReadAllowed_eq hreads]
  cases hwaits : machine.sleepyWaits now with
  | false =>
    rw [hwaits] at hremediation
    exact hremediation
  | true =>
    -- the device sleeps: both read the same deadline
    rw [hwaits] at hremediation
    have hdeadline := hwaits
    simp only [sleepyWaits, checkpoint, StoredMatterSubscriptionRecovery.nextGapReadAt] at hdeadline
    cases hsleepy : machine.sleepy with
    | false => simp [hsleepy] at hdeadline
    | true =>
      cases hnext : machine.lastGapReadAt.bind (fun last =>
          addMillis last machine.policy.sleepyReadIntervalMillis) with
      | none => simp [hsleepy, hnext] at hdeadline
      | some allowedAt =>
        refine .inr ⟨hremediation, ?_⟩
        simp only [matterSubscriptionStatus, stored, checkpoint, StoredMatterSubscriptionRecovery.nextGapReadAt,
          hsleepy, if_true, hnext, Option.getD_some]

theorem status_due (h : machine.policy.Accepted) (hdue : machine.due now = true)
    (hretry : ∀ t, machine.retryAt = some t → t ≤ now)
    (hattempts : machine.subscribeAttempts < machine.policy.maximumSubscribeAttempts)
    (row : StoredMatterSubscription) :
    machine.nextAction now = { machine with phase := .resubscribe }.actionAt now ∧
      (matterSubscriptionStatus (machine.stored row) now).remediation =
        if machine.sleepyWaits now then .waitForSleepyRead
        else if machine.policy.maximumGapReads ≤ machine.gapReads then .requestResubscribe
        else .requestGapRepair := by
  have hphase : machine.phase = .resubscribe ∨ machine.phase = .waiting := by
    simp only [due, Bool.or_eq_true, Bool.and_eq_true, beq_iff_eq] at hdue
    exact hdue.imp_right And.left
  have hne : machine.phase ≠ .markStale ∧ machine.phase ≠ .repairRequired := by
    obtain hcase | hcase := hphase <;> rw [hcase] <;> decide
  have hpast : machine.retryAt.any (fun retryAt => now < retryAt) = false := by
    cases hcase : machine.retryAt with
    | none => rfl
    | some t => simpa using hretry t hcase
  constructor
  · -- both phases ask for the same call
    obtain hcase | hcase := hphase
    · rw [nextAction_of_ne (by rw [hcase]; decide), ← hcase]
    · exact (elapsed_eq hcase hretry).2
  · rw [remediation_of_stale h hne.2 (isStale_of_phase hne.1 row now) hattempts, hpast]
    simp only [Bool.false_eq_true, if_false]

theorem recommends_due (h : machine.policy.Accepted) (hdue : machine.due now = true)
    (hretry : ∀ t, machine.retryAt = some t → t ≤ now)
    (hattempts : machine.subscribeAttempts < machine.policy.maximumSubscribeAttempts)
    (row : StoredMatterSubscription) :
    (matterSubscriptionStatus (machine.stored row) now).Recommends (machine.nextAction now) ↔
      machine.policy.maximumGapReads ≤ machine.gapReads ∧ machine.sleepyWaits now = false ∧
        machine.validInterval = true := by
  obtain ⟨haction, hremediation⟩ := status_due h hdue hretry hattempts row
  have hvalid : machine.validInterval = true ↔
      ¬ (machine.maximumIntervalMillis = 0 ∨ machine.maximumIntervalMillis < machine.minimumIntervalMillis) := by
    simp [validInterval]
  rw [haction, hvalid]
  simp only [actionAt, MatterIntervalRequest.new]
  by_cases hinterval : machine.maximumIntervalMillis = 0 ∨
      machine.maximumIntervalMillis < machine.minimumIntervalMillis
  · -- no remediation of a stale record stands for a request that cannot be made
    simp only [hinterval, if_true, MatterSubscriptionRecoveryStatus.Recommends, hremediation]
    cases machine.sleepyWaits now <;> by_cases hspent : machine.policy.maximumGapReads ≤ machine.gapReads <;>
      simp [hspent]
  · simp only [hinterval, if_false, MatterSubscriptionRecoveryStatus.Recommends, hremediation]
    cases machine.sleepyWaits now <;> by_cases hspent : machine.policy.maximumGapReads ≤ machine.gapReads <;>
      simp [hspent]

theorem recommends_markStale (h : machine.policy.Accepted) (hphase : machine.phase = .markStale)
    (hretry : machine.retryAt = none) (hreads : machine.gapReads < machine.policy.maximumGapReads)
    (hattempts : machine.subscribeAttempts < machine.policy.maximumSubscribeAttempts)
    (row : StoredMatterSubscription) (now : Instant) :
    (matterSubscriptionStatus (machine.stored row) now).Recommends (machine.nextAction now) ↔
      row.staleAfter ≤ now ∧ machine.sleepyWaits now = false := by
  have hnot : ¬ machine.policy.maximumGapReads ≤ machine.gapReads := not_le.mpr hreads
  rw [nextAction_of_ne (by rw [hphase]; decide)]
  simp only [actionAt, hphase, MatterSubscriptionRecoveryStatus.Recommends]
  by_cases hoverdue : row.staleAfter ≤ now
  · have hstale : isStale (machine.stored row) now = true := by
      simp [isStale, stored, hoverdue]
    rw [remediation_of_stale h (by rw [hphase]; decide) hstale hattempts, hretry]
    cases machine.sleepyWaits now <;> simp [hoverdue, hnot]
  · -- the record still counts as established
    have hfresh : isStale (machine.stored row) now = false := by
      simp [isStale, stored, storedState, hphase, hoverdue]
    have hstate : (machine.stored row).state ≠ .repairRequired := by
      simp [stored, storedState, hphase]
    simp [matterSubscriptionStatus, remediationAt, hstate, budget_valid h row, hfresh, hoverdue]

theorem recommends_waiting (h : machine.policy.Accepted) (hwaits : machine.waits now = true)
    (hattempts : machine.subscribeAttempts < machine.policy.maximumSubscribeAttempts)
    (row : StoredMatterSubscription) :
    (matterSubscriptionStatus (machine.stored row) now).Recommends (machine.nextAction now) := by
  have hwaiting := hwaits
  simp only [waits, Bool.and_eq_true, beq_iff_eq] at hwaiting
  have hremediation := remediation_of_stale h (by rw [hwaiting.1]; decide)
    (isStale_of_phase (by rw [hwaiting.1]; decide) row now) hattempts
  rw [if_pos hwaiting.2] at hremediation
  rw [nextAction, hwaits]
  cases hretry : machine.retryAt with
  | none => simp [hretry] at hwaiting
  | some t =>
    refine .inl ⟨hremediation, ?_⟩
    simp only [matterSubscriptionStatus, stored, checkpoint, hretry, Option.getD_some]

/-- The status is read off the record alone; these are the phases where it is right. -/
theorem recommends_iff (h : machine.policy.Accepted) (hcomplete : machine.phase ≠ .complete)
    (hopening : machine.phase = .markStale ∨ machine.phase = .gapRead →
      machine.retryAt = none ∧ machine.gapReads < machine.policy.maximumGapReads)
    (helapsed : machine.phase = .resubscribe → ∀ t, machine.retryAt = some t → t ≤ now)
    (hattempts : machine.phase ≠ .repairRequired →
      machine.subscribeAttempts < machine.policy.maximumSubscribeAttempts) (row : StoredMatterSubscription) :
    (matterSubscriptionStatus (machine.stored row) now).Recommends (machine.nextAction now) ↔
      machine.Advises row now := by
  -- a phase that is not due advises nothing
  have hnone : ∀ phase, machine.phase = phase → phase ≠ .markStale → machine.due now = false →
      machine.Advises row now := by
    intro phase hphase hne hdue
    constructor
    · exact fun hmark => absurd (hphase.symm.trans hmark) hne
    · exact fun hyes => absurd (hdue.symm.trans hyes) Bool.false_ne_true
  have hdueIff : machine.phase ≠ .markStale → machine.due now = true → (machine.Advises row now ↔
      machine.policy.maximumGapReads ≤ machine.gapReads ∧ machine.sleepyWaits now = false ∧
        machine.validInterval = true) := by
    intro hne hdue
    exact ⟨fun hadvises => hadvises.subscribing hdue, fun hall => ⟨fun hmark => absurd hmark hne, fun _ => hall⟩⟩
  cases hphase : machine.phase with
  | markStale =>
    obtain ⟨hretry, hreads⟩ := hopening (.inl hphase)
    rw [recommends_markStale h hphase hretry hreads (hattempts (by rw [hphase]; decide)) row now]
    have hdue : machine.due now = false := by
      simp [due, hphase]
    refine ⟨fun hmarking => ⟨fun _ => hmarking, fun hyes => ?_⟩, fun hadvises => hadvises.marking hphase⟩
    exact absurd (hdue.symm.trans hyes) Bool.false_ne_true
  | gapRead =>
    obtain ⟨hretry, hreads⟩ := hopening (.inr hphase)
    refine ⟨fun _ => hnone _ hphase (by decide) (by simp [due, hphase]), fun _ => ?_⟩
    exact recommends_gapRead h hphase hretry hreads (hattempts (by rw [hphase]; decide)) row now
  | resubscribe =>
    have hdue : machine.due now = true := by
      simp [due, hphase]
    rw [recommends_due h hdue (helapsed hphase) (hattempts (by rw [hphase]; decide)) row,
      hdueIff (by rw [hphase]; decide) hdue]
  | waiting =>
    have hleft := hattempts (by rw [hphase]; decide)
    cases hwaits : machine.waits now with
    | true =>
      refine ⟨fun _ => hnone _ hphase (by decide) (by simp [due, hphase, hwaits]), fun _ => ?_⟩
      exact recommends_waiting h hwaits hleft row
    | false =>
      have hdue : machine.due now = true := by
        simp [due, hphase, hwaits]
      have hretry : ∀ t, machine.retryAt = some t → t ≤ now := by
        intro t ht
        simpa [waits, hphase, ht] using hwaits
      rw [recommends_due h hdue hretry hleft row, hdueIff (by rw [hphase]; decide) hdue]
  | complete => exact absurd hphase hcomplete
  | repairRequired =>
    refine ⟨fun _ => hnone _ hphase (by decide) (by simp [due, hphase]), fun _ => ?_⟩
    rw [nextAction_of_ne (by rw [hphase]; decide)]
    simp only [actionAt, hphase]
    refine .inr ?_
    simp [matterSubscriptionStatus, remediationAt, stored, storedState, hphase]

end MatterSubscriptionRecovery

end HomeMagic
