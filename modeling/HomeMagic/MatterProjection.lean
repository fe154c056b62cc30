import HomeMagic.MatterState

/-! How reports and commands move the projected state: normalization of a report
against what is already known, and the three operations on a projected state. -/
namespace HomeMagic

variable {state state' : MatterProjectedState}

inductive MatterProjectionRule
  | onOffV1 | accessControlV1 | levelV1LaterFixture | positionV1LaterFixture
  deriving DecidableEq

structure MatterAttributePath where
  nodeId : MatterNodeId
  endpoint : MatterEndpointNumber
  clusterId : ℕ
  attributeId : ℕ
  deriving DecidableEq

inductive MatterAttributeValue
  | null
  | boolean (value : Bool)
  | unsigned (value : ℕ)
  | signed (value : ℤ)
  | text (value : String)
  | octets (value : List UInt8)
  deriving DecidableEq

structure MatterAttributeReport where
  path : MatterAttributePath
  value : MatterAttributeValue
  dataVersion : Option UInt32
  reportSequence : ℕ
  observedAt : Instant
  deriving DecidableEq

structure MatterCapabilityProjection where
  projectionId : MatterProjectionId
  rule : MatterProjectionRule
  reportPath : MatterAttributePath
  deriving DecidableEq

structure MatterReportCausation where
  desiredRevision : Option ℕ
  deriving DecidableEq

inductive MatterReportRejection
  | targetMismatch | staleSequence | conflictingDuplicate | staleDataVersion | incompatibleValue
  | invalidTime
  deriving DecidableEq

inductive MatterReportDecision
  | applied (reported : MatterReportedState)
  | duplicate
  | rejected (reason : MatterReportRejection)
  deriving DecidableEq

def mapReportValue : MatterProjectionRule → MatterAttributeValue → Option MatterStateValue
  | .onOffV1, .boolean on => some (.onOff on)
  | .accessControlV1, .unsigned 1 => some (.lock .notFullyLocked)
  | .accessControlV1, .unsigned 2 => some (.lock .unlocked)
  | .accessControlV1, .unsigned 3 => some (.lock .locked)
  | .accessControlV1, .unsigned _ => some (.lock .unknown)
  | _, _ => none

theorem mapReportValue_valid {rule : MatterProjectionRule} {value : MatterAttributeValue}
    {mapped : MatterStateValue} (h : mapReportValue rule value = some mapped) : mapped.valid = true := by
  unfold mapReportValue at h
  split at h <;> cases h <;> rfl

def dataVersionAdvances (current : MatterReportedState) (report : MatterAttributeReport)
    (nextValue : MatterStateValue) : Bool :=
  match current.dataVersion, report.dataVersion with
  | some previous, some next =>
    if previous = next then current.value == nextValue else decide ((next - previous).toNat < 2^31)
  | _, _ => true

def settledReport (current : MatterReportedState) (report : MatterAttributeReport)
    (value : MatterStateValue) : Option MatterReportDecision :=
  if report.reportSequence < current.reportSequence then some (.rejected .staleSequence)
  else if report.reportSequence = current.reportSequence then
    if current.value = value ∧ current.dataVersion = report.dataVersion then some .duplicate
    else some (.rejected .conflictingDuplicate)
  else if dataVersionAdvances current report value = false then some (.rejected .staleDataVersion)
  else none

def normalizeMatterReport (projection : MatterCapabilityProjection) (report : MatterAttributeReport)
    (receivedAt : Instant) (current : Option MatterReportedState) : MatterReportDecision :=
  if report.path ≠ projection.reportPath then .rejected .targetMismatch
  else match mapReportValue projection.rule report.value with
    | none => .rejected .incompatibleValue
    | some value =>
      if receivedAt < report.observedAt then .rejected .invalidTime
      else match current.bind (fun current => settledReport current report value) with
        | some decision => decision
        | none =>
          match MatterReportedState.new value report.dataVersion report.reportSequence
              report.observedAt receivedAt with
          | .error _ => .rejected .invalidTime
          | .ok reported => .applied reported

def markMatterProjectionStale (state : MatterProjectedState) (uncertainty : MatterStateUncertainty) :
    Except MatterStateError MatterProjectedState :=
  MatterProjectedState.new state.projectionId state.desired state.reported state.confirmedRevision .stale
    (if state.convergence = .confirmed ∧ state.desired.isSome then .pending else state.convergence)
    (some uncertainty)

def reportOutcome (state : MatterProjectedState) (reported : MatterReportedState)
    (causation : MatterReportCausation) : Option ℕ × MatterConvergence :=
  match state.desired with
  | none => (none, .noDesiredState)
  | some desired =>
    if desired.value = reported.value ∧ causation.desiredRevision = some desired.revision then
      (some desired.revision, .confirmed)
    else if desired.value = reported.value then (state.confirmedRevision, .pending)
    else (state.confirmedRevision, .diverged)

def advanceMatterProjectedState (state : MatterProjectedState) (reported : MatterReportedState)
    (causation : MatterReportCausation) : Except MatterStateError MatterProjectedState :=
  MatterProjectedState.new state.projectionId state.desired (some reported) (reportOutcome state reported causation).1
    .fresh (reportOutcome state reported causation).2 none

def advanceMatterDesiredState (state : MatterProjectedState) (desired : MatterDesiredState) :
    Except MatterStateError MatterProjectedState :=
  MatterProjectedState.new state.projectionId (some desired) state.reported state.confirmedRevision state.freshness
    .pending state.uncertainty

def initialMatterProjectedState (projectionId : MatterProjectionId) : MatterProjectedState where
  projectionId := projectionId
  desired := none
  reported := none
  confirmedRevision := none
  freshness := .unknown
  convergence := .noDesiredState
  uncertainty := none
  notAhead := fun _ h => nomatch h
  confirms := fun h => nomatch h
  undesired := fun _ => rfl

theorem markMatterProjectionStale_ok {uncertainty : MatterStateUncertainty}
    (h : markMatterProjectionStale state uncertainty = .ok state') :
    state'.projectionId = state.projectionId ∧ state'.desired = state.desired ∧
      state'.reported = state.reported ∧ state'.confirmedRevision = state.confirmedRevision ∧
      state'.convergence = (if state.convergence = .confirmed ∧ state.desired.isSome then .pending
        else state.convergence) ∧ state'.freshness = .stale := by
  obtain ⟨hid, hdesired, hreported, hconfirmed, hfreshness, hconvergence, _⟩ :=
    MatterProjectedState.new_ok h
  exact ⟨hid, hdesired, hreported, hconfirmed, hconvergence, hfreshness⟩

theorem advanceMatterProjectedState_ok {reported : MatterReportedState} {causation : MatterReportCausation}
    (h : advanceMatterProjectedState state reported causation = .ok state') :
    state'.projectionId = state.projectionId ∧ state'.desired = state.desired ∧
      state'.reported = some reported ∧
      state'.confirmedRevision = (reportOutcome state reported causation).1 ∧
      state'.convergence = (reportOutcome state reported causation).2 ∧ state'.freshness = .fresh := by
  obtain ⟨hid, hdesired, hreported, hconfirmed, hfreshness, hconvergence, _⟩ :=
    MatterProjectedState.new_ok h
  exact ⟨hid, hdesired, hreported, hconfirmed, hconvergence, hfreshness⟩

theorem advanceMatterDesiredState_ok {desired : MatterDesiredState}
    (h : advanceMatterDesiredState state desired = .ok state') :
    state'.projectionId = state.projectionId ∧ state'.desired = some desired ∧
      state'.reported = state.reported ∧ state'.confirmedRevision = state.confirmedRevision ∧
      state'.convergence = .pending ∧ state'.freshness = state.freshness := by
  obtain ⟨hid, hdesired, hreported, hconfirmed, hfreshness, hconvergence, _⟩ :=
    MatterProjectedState.new_ok h
  exact ⟨hid, hdesired, hreported, hconfirmed, hconvergence, hfreshness⟩

theorem exists_advanceMatterProjectedState (state : MatterProjectedState)
    (reported : MatterReportedState) (causation : MatterReportCausation) :
    ∃ state', advanceMatterProjectedState state reported causation = .ok state' := by
  have hahead := state.notAhead
  unfold advanceMatterProjectedState reportOutcome
  cases hdesired : state.desired with
  | none => exact MatterProjectedState.exists_new (fun _ h => nomatch h) (fun h => nomatch h) (fun _ => rfl)
  | some desired =>
    rw [hdesired] at hahead
    dsimp only
    split
    · apply MatterProjectedState.exists_new
      · rintro confirmed ⟨⟩
        exact ⟨desired, rfl, le_refl _⟩
      · exact fun _ => rfl
      · exact fun h => nomatch h
    · split
      · exact MatterProjectedState.exists_new hahead (fun h => nomatch h) (fun h => nomatch h)
      · exact MatterProjectedState.exists_new hahead (fun h => nomatch h) (fun h => nomatch h)

theorem exists_advanceMatterDesiredState_iff (state : MatterProjectedState)
    (desired : MatterDesiredState) :
    (∃ state', advanceMatterDesiredState state desired = .ok state') ↔
      ∀ confirmed, state.confirmedRevision = some confirmed → confirmed ≤ desired.revision := by
  constructor
  · rintro ⟨state', h⟩ confirmed hconfirmed
    obtain ⟨_, hdesired, _, hkept, _⟩ := advanceMatterDesiredState_ok h
    obtain ⟨latest, hlatest, hle⟩ := state'.notAhead confirmed (hkept.trans hconfirmed)
    rw [hdesired, Option.some.injEq] at hlatest
    exact hlatest ▸ hle
  · intro h
    apply MatterProjectedState.exists_new
    · exact fun confirmed hconfirmed => ⟨desired, rfl, h confirmed hconfirmed⟩
    · exact fun h => nomatch h
    · exact fun h => nomatch h

end HomeMagic
