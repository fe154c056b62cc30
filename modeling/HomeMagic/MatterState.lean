import HomeMagic.FoundationDomain

/-! Desired, reported and confirmed state of one Matter projection. The constructors
validate, so a value that exists is consistent. -/
namespace HomeMagic

abbrev MatterProjectionId := ℕ
abbrev MatterFabricId := ℕ
abbrev MatterNodeId := ℕ
abbrev MatterEndpointNumber := ℕ

inductive MatterStateError
  | zeroRevision | percentOutOfRange | observationAfterReceipt | confirmedRevisionAhead
  | confirmationWithoutDesiredState | confirmedConvergenceMismatch | desiredStateConvergenceMismatch
  deriving DecidableEq

inductive MatterLockState
  | locked | unlocked | notFullyLocked | unknown
  deriving DecidableEq

inductive MatterStateValue
  | onOff (on : Bool)
  | levelPercent (percent : ℕ)
  | positionPercent (percent : ℕ)
  | lock (state : MatterLockState)
  deriving DecidableEq

def MatterStateValue.valid : MatterStateValue → Bool
  | levelPercent percent | positionPercent percent => decide (percent ≤ 100)
  | onOff _ | lock _ => true

structure MatterDesiredState where
  revision : ℕ
  value : MatterStateValue
  requestedAt : Instant
  positive : 0 < revision
  valid : value.valid = true
  deriving DecidableEq

def MatterDesiredState.new (revision : ℕ) (value : MatterStateValue) (requestedAt : Instant) :
    Except MatterStateError MatterDesiredState :=
  if hrevision : revision = 0 then .error .zeroRevision
  else if hvalue : value.valid = false then .error .percentOutOfRange
  else .ok ⟨revision, value, requestedAt, Nat.pos_of_ne_zero hrevision, by simpa using hvalue⟩

structure MatterReportedState where
  value : MatterStateValue
  dataVersion : Option UInt32
  reportSequence : ℕ
  observedAt : Instant
  receivedAt : Instant
  valid : value.valid = true
  ordered : observedAt ≤ receivedAt
  deriving DecidableEq

def MatterReportedState.new (value : MatterStateValue) (dataVersion : Option UInt32)
    (reportSequence : ℕ) (observedAt receivedAt : Instant) :
    Except MatterStateError MatterReportedState :=
  if hvalue : value.valid = false then .error .percentOutOfRange
  else if htime : receivedAt < observedAt then .error .observationAfterReceipt
  else .ok ⟨value, dataVersion, reportSequence, observedAt, receivedAt, by simpa using hvalue,
    not_lt.mp htime⟩

inductive MatterStateFreshness
  | unknown | fresh | stale
  deriving DecidableEq

inductive MatterConvergence
  | noDesiredState | pending | confirmed | diverged | indeterminate
  deriving DecidableEq

inductive MatterStateUncertainty
  | subscriptionLost | reportGap | readFailed | descriptorChanged | inFlightOutcomeUnknown
  deriving DecidableEq

structure MatterProjectedState where
  projectionId : MatterProjectionId
  desired : Option MatterDesiredState
  reported : Option MatterReportedState
  confirmedRevision : Option ℕ
  freshness : MatterStateFreshness
  convergence : MatterConvergence
  uncertainty : Option MatterStateUncertainty
  notAhead : ∀ confirmed, confirmedRevision = some confirmed →
    ∃ latest, desired = some latest ∧ confirmed ≤ latest.revision
  confirms : convergence = .confirmed →
    confirmedRevision = desired.map MatterDesiredState.revision
  undesired : convergence = .noDesiredState → desired = none
  deriving DecidableEq

namespace MatterProjectedState

def aheadOf (desired : Option MatterDesiredState) (confirmedRevision : Option ℕ) : Bool :=
  desired.any (fun latest => confirmedRevision.any (fun confirmed => decide (latest.revision < confirmed)))

theorem notAhead_of_aheadOf {desired : Option MatterDesiredState} {confirmedRevision : Option ℕ}
    (hahead : aheadOf desired confirmedRevision = false)
    (hwithout : ¬(desired.isNone ∧ confirmedRevision.isSome)) :
    ∀ confirmed, confirmedRevision = some confirmed →
      ∃ latest, desired = some latest ∧ confirmed ≤ latest.revision := by
  rintro confirmed rfl
  cases desired with
  | none => exact absurd ⟨rfl, rfl⟩ hwithout
  | some latest => exact ⟨latest, rfl, by simpa [aheadOf] using hahead⟩

def new (projectionId : MatterProjectionId) (desired : Option MatterDesiredState)
    (reported : Option MatterReportedState) (confirmedRevision : Option ℕ)
    (freshness : MatterStateFreshness) (convergence : MatterConvergence)
    (uncertainty : Option MatterStateUncertainty) : Except MatterStateError MatterProjectedState :=
  if desired.any (fun latest => !latest.value.valid) then .error .percentOutOfRange
  else if hahead : aheadOf desired confirmedRevision = true then .error .confirmedRevisionAhead
  else if hwithout : desired.isNone ∧ confirmedRevision.isSome then
    .error .confirmationWithoutDesiredState
  else if hconfirms : convergence = .confirmed ∧
      confirmedRevision ≠ desired.map MatterDesiredState.revision then
    .error .confirmedConvergenceMismatch
  else if hundesired : convergence = .noDesiredState ∧ desired.isSome then
    .error .desiredStateConvergenceMismatch
  else .ok {
    projectionId := projectionId
    desired := desired
    reported := reported
    confirmedRevision := confirmedRevision
    freshness := freshness
    convergence := convergence
    uncertainty := uncertainty
    notAhead := notAhead_of_aheadOf (Bool.not_eq_true _ ▸ hahead) hwithout
    confirms := fun h => not_not.mp (fun hne => hconfirms ⟨h, hne⟩)
    undesired := fun h => Option.not_isSome_iff_eq_none.mp (fun hsome => hundesired ⟨h, hsome⟩) }

section New
variable {projectionId : MatterProjectionId} {desired : Option MatterDesiredState}
  {reported : Option MatterReportedState} {confirmedRevision : Option ℕ}
  {freshness : MatterStateFreshness} {convergence : MatterConvergence}
  {uncertainty : Option MatterStateUncertainty} {state : MatterProjectedState}

theorem new_ok (h : new projectionId desired reported confirmedRevision freshness convergence
    uncertainty = .ok state) : state.projectionId = projectionId ∧ state.desired = desired ∧
      state.reported = reported ∧ state.confirmedRevision = confirmedRevision ∧
      state.freshness = freshness ∧ state.convergence = convergence ∧
      state.uncertainty = uncertainty := by
  unfold new at h
  split at h
  · cases h
  · split at h
    · cases h
    · split at h
      · cases h
      · split at h
        · cases h
        · split at h
          · cases h
          · cases h
            exact ⟨rfl, rfl, rfl, rfl, rfl, rfl, rfl⟩

theorem exists_new (hahead : ∀ confirmed, confirmedRevision = some confirmed →
      ∃ latest, desired = some latest ∧ confirmed ≤ latest.revision)
    (hconfirms : convergence = .confirmed →
      confirmedRevision = desired.map MatterDesiredState.revision)
    (hundesired : convergence = .noDesiredState → desired = none) :
    ∃ state, new projectionId desired reported confirmedRevision freshness convergence
      uncertainty = .ok state := by
  have hvalid : desired.any (fun latest => !latest.value.valid) = false := by
    cases desired with
    | none => rfl
    | some latest => simp [latest.valid]
  have hnot : aheadOf desired confirmedRevision = false := by
    cases desired with
    | none => rfl
    | some latest =>
      cases confirmedRevision with
      | none => rfl
      | some confirmed =>
        obtain ⟨_, heq, hle⟩ := hahead confirmed rfl
        cases heq
        simpa [aheadOf] using hle
  have hwith : ¬(desired.isNone ∧ confirmedRevision.isSome) := by
    rintro ⟨hnone, hsome⟩
    obtain ⟨confirmed, hconfirmed⟩ := Option.isSome_iff_exists.mp hsome
    obtain ⟨latest, heq, _⟩ := hahead confirmed hconfirmed
    rw [heq] at hnone
    cases hnone
  unfold new
  rw [if_neg (by simp [hvalid]), dif_neg (by simp [hnot]), dif_neg hwith,
    dif_neg (fun h => h.2 (hconfirms h.1)),
    dif_neg (fun h => by rw [hundesired h.1] at h; cases h.2)]
  exact ⟨_, rfl⟩

end New
end MatterProjectedState
end HomeMagic
