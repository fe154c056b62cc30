import HomeMagic.CommandService
import HomeMagic.DeviceOperationsSpec
import HomeMagic.ShellyStatus

/-! What toggles and confirmations go by. A device is polled by refreshes, which replace its snapshot, and
pushes live observations, which do not; both make it fresh. -/
namespace HomeMagic

open Fallible

def near (tolerance value target : ℚ) : Bool := decide (|value - target| ≤ tolerance)

def positionMatches (position : PositionCommand) (percent : Option ℚ) (state : Option String) : Bool :=
  match position with
  | .open => state == some "open" || percent.any (fun value => decide (199 / 2 ≤ value))
  | .close => state == some "closed" || percent.any (fun value => decide (value ≤ 1 / 2))
  | .stop => !(state == some "opening" || state == some "closing" || state == some "calibrating")
  | .goTo target => percent.any (fun value => near 1 value target)

def snapshotMatches (payload : CommandPayload) (capability : CapabilitySnapshot) : Bool :=
  match payload, capability with
  | .onOff (.set on), .onOff actual _ => on == actual
  | .onOff .toggle, .onOff _ _ => true
  | .level level, .level percent _ => near (1 / 2) percent level.percent
  | .position position, .position percent motion _ => positionMatches position percent motion
  | _, _ => false

def capabilityOf (snapshot : DeviceSnapshot) (endpointId : EndpointId) (schema : String) : Option CapabilitySnapshot :=
  (snapshot.endpoints.find? (fun endpoint => endpoint.id == endpointId)).bind (fun endpoint =>
    endpoint.capabilities.find? (fun capability => capability.descriptor.schema == schema))

def pushedConfirmation (device : Option DeviceRecord) (envelope : CommandEnvelope) (now : Instant) :
    Except CommandFailure (Option ObservedConfirmation) :=
  match device with
  | none => .error ⟨.transportFailure, none⟩
  | some device =>
    if device.snapshot.observedAt < envelope.receivedAt then .ok none
    else .ok (((capabilityOf device.snapshot envelope.endpointId envelope.payload.schema).filter
      (snapshotMatches envelope.payload)).map (fun _ => ⟨now, device.snapshot.observedAt⟩))

inductive ReportingStep
  | refresh (ids : FreshIds) (candidates : List DiscoveryCandidate)
  | publish (batch : LiveObservationBatch)

section Runs

variable {ρ : Type} (R : DeviceRepository ρ) (identities : DeviceIdentities)

def DeviceWorld.report (world : DeviceWorld ρ) : ReportingStep → Option (DeviceWorld ρ)
  | .refresh ids candidates => (world.refresh R identities ids candidates).toOption
  | .publish batch => (world.publish R batch).toOption

def DeviceWorld.reports (world : DeviceWorld ρ) (steps : List ReportingStep) : Option (DeviceWorld ρ) :=
  steps.foldlM (DeviceWorld.report R identities) world

structure Unpopulated (world : DeviceWorld ρ) : Prop where
  repository : ∀ id, R.device world.repository id = none
  registry : world.registry.rows = []

end Runs

structure ReportTarget where
  deviceId : DeviceId
  endpointId : EndpointId
  schema : String

inductive Report
  /-- By the snapshot of a refresh. -/
  | polled (capability : CapabilitySnapshot) (observedAt : Instant)
  /-- By a live observation. -/
  | pushed (observation : SourcedObservation)

namespace Report

def observedAt : Report → Instant
  | polled _ observedAt => observedAt
  | pushed observation => observation.observedAt

def switch : Report → Option Bool
  | polled (.onOff on _) _ => some on
  | polled _ _ => none
  | pushed observation => (observation.field "on").bind (fun value => value.value.asBool)

def answers (numbers : ShellyNumbers) (payload : CommandPayload) : Report → Bool
  | polled capability _ => snapshotMatches payload capability
  | pushed observation =>
    let percent := (observation.field "percent").bind (fun value => numbers.asNumber value.value)
    match payload with
    | .onOff (.set on) => (observation.field "on").any (fun value => value.value.asBool == some on)
    | .onOff .toggle => true
    | .level level => percent.any (fun value => near (1 / 2) value level.percent)
    | .position position =>
      positionMatches position percent ((observation.field "motion").bind (fun value => value.value.asString))
    | .accessControl _ => false

def confirms (numbers : ShellyNumbers) (envelope : CommandEnvelope) (report : Report) : Bool :=
  decide (envelope.receivedAt ≤ report.observedAt) && report.answers numbers envelope.payload

/-- The newest of the reports confirms the command. -/
def newestConfirms (numbers : ShellyNumbers) (reports : List Report) (envelope : CommandEnvelope) : Prop :=
  ∃ report, reports.getLast? = some report ∧ report.confirms numbers envelope = true

variable {numbers : ShellyNumbers} {report : Report} {on : Bool}

theorem answers_set_iff : report.answers numbers (.onOff (.set on)) = true ↔ report.switch = some on := by
  cases report with
  | polled capability observedAt =>
    cases capability with
    | onOff actual risk =>
      simp only [answers, snapshotMatches, switch, beq_iff_eq, Option.some.injEq]
      exact eq_comm
    | _ => simp [answers, snapshotMatches, switch]
  | pushed observation =>
    have hfield : ∀ value : Option ObservedValue, value.any (fun value => value.value.asBool == some on) = true ↔
        value.bind (fun value => value.value.asBool) = some on := by
      intro value
      cases value <;> simp
    exact hfield _

theorem answers_toggle (h : report.switch = some on) : report.answers numbers (.onOff .toggle) = true := by
  cases report with
  | polled capability observedAt => cases capability <;> first | rfl | cases h
  | pushed observation => rfl

end Report

def CommandEnvelope.target (envelope : CommandEnvelope) : ReportTarget :=
  ⟨envelope.deviceId, envelope.endpointId, envelope.payload.schema⟩

section Histories

variable (identities : DeviceIdentities)

def lastPolled (id : DeviceId) : List ReportingStep → Option DeviceSnapshot :=
  List.foldl (fun snapshot step => match step with
    | .refresh _ candidates =>
      ((acceptedCandidates identities id candidates).getLast?.map DiscoveryCandidate.snapshot).or snapshot
    | .publish _ => snapshot) none

def polledReport (target : ReportTarget) (snapshot : DeviceSnapshot) : Option Report :=
  (capabilityOf snapshot target.endpointId target.schema).map (fun capability => .polled capability snapshot.observedAt)

def reportsOf (target : ReportTarget) (steps : List ReportingStep) : List Report :=
  steps.flatMap (fun step => match step with
    | .refresh _ candidates => (acceptedCandidates identities target.deviceId candidates).filterMap (fun candidate =>
        polledReport target candidate.snapshot)
    | .publish batch => (batch.observations.filter (fun observation => observation.deviceId == target.deviceId &&
        observation.endpointId == target.endpointId && observation.capability.schema == target.schema)).map .pushed)

def newestSwitch (target : ReportTarget) (steps : List ReportingStep) : Option Bool :=
  ((reportsOf identities target steps).filterMap Report.switch).getLast?

def polledSwitch (target : ReportTarget) (steps : List ReportingStep) : Option Bool :=
  ((lastPolled identities target.deviceId steps).bind (polledReport target)).bind Report.switch

end Histories

section Stored

variable {ρ : Type} {R : DeviceRepository ρ} {identities : DeviceIdentities}
variable {world : DeviceWorld ρ} {steps : List ReportingStep} {device : DeviceRecord} {endpointId : EndpointId}
  {now : Instant} {policy : FreshnessPolicy}

structure PolledState (R : DeviceRepository ρ) (identities : DeviceIdentities) (steps : List ReportingStep)
    (world : DeviceWorld ρ) : Prop where
  identified : Identified identities world.registry
  mirrored : ∀ id, world.registry.find id = R.device world.repository id
  snapshot : ∀ id, (world.registry.find id).map DeviceRecord.snapshot = lastPolled identities id steps

theorem Unpopulated.polled (h : Unpopulated R world) : PolledState R identities [] world := by
  have hnone : ∀ id, world.registry.find id = none := by
    intro id
    rw [Table.find_eq_none, h.registry]
    exact fun _ hmem => nomatch hmem
  refine ⟨?_, ?_, ?_⟩
  · intro record hrecord
    rw [h.registry] at hrecord
    cases hrecord
  · intro id
    rw [hnone, h.repository]
  · intro id
    rw [hnone]
    rfl

theorem lastPolled_concat (id : DeviceId) (steps : List ReportingStep) (step : ReportingStep) :
    lastPolled identities id (steps ++ [step]) = (match step with
      | .refresh _ candidates => ((acceptedCandidates identities id candidates).getLast?.map
          DiscoveryCandidate.snapshot).or (lastPolled identities id steps)
      | .publish _ => lastPolled identities id steps) := by
  unfold lastPolled
  rw [List.foldl_append]
  rfl

theorem PolledState.posted {write : FoundationWrite} {repository : ρ} (h : PolledState R identities steps world)
    (happly : R.apply world.repository write = .ok repository) (id : DeviceId) :
    (write.devices.foldl Table.upsert world.registry).find id =
        (lastWritten write.devices id).or (world.registry.find id) ∧
      (write.devices.foldl Table.upsert world.registry).find id = R.device repository id := by
  have hfind : (write.devices.foldl Table.upsert world.registry).find id =
      (lastWritten write.devices id).or (world.registry.find id) := Table.find_foldl_upsert
  refine ⟨hfind, ?_⟩
  rw [hfind, R.device_apply happly, h.mirrored]

/-- Refreshes replace what was polled, live reports do not. -/
theorem PolledState.step {steps : List ReportingStep} {step : ReportingStep} {world after : DeviceWorld ρ}
    (h : PolledState R identities steps world) (hstep : world.report R identities step = some after) :
    PolledState R identities (steps ++ [step]) after := by
  cases step with
  | refresh ids candidates =>
    obtain ⟨outcome, houtcome, hpost⟩ := bind_inv (toOption_eq_some hstep)
    obtain ⟨repository, happly, rfl⟩ := DeviceWorld.post_ok hpost
    have hspec := reconcile_ok h.identified houtcome
    refine ⟨?_, fun id => (h.posted happly id).2, ?_⟩
    · intro record hrecord
      have hfind := (h.posted happly record.snapshot.id).1
      rw [Table.find_eq_some.mpr ⟨hrecord, rfl⟩] at hfind
      rcases Option.or_eq_some_iff.mp hfind.symm with hlast | ⟨-, hkept⟩
      · exact hspec.posts.identified record (lastWritten_some hlast).1
      · exact h.identified record (Table.find_eq_some.mp hkept).1
    · intro id
      rw [(h.posted happly id).1, lastPolled_concat]
      dsimp only
      rw [← h.snapshot id]
      exact hspec.snapshot id
  | publish batch =>
    obtain ⟨devices, hdevices, repository, happly, rfl⟩ := DeviceWorld.published_ok (toOption_eq_some hstep)
    have hlive : ∀ live ∈ devices, ∃ record, world.registry.find live.snapshot.id = some record ∧
        live.snapshot = record.snapshot ∧ live.integrationId = record.integrationId := by
      intro live hmem
      obtain ⟨record, observedAt, hrecord, hrecorded, -⟩ := DeviceWorld.mem_liveDevices_record hdevices hmem
      obtain ⟨hsnapshot, hintegration, -⟩ := DeviceWorld.recordLive_ok hrecorded
      exact ⟨record, hrecord, hsnapshot, hintegration⟩
    refine ⟨?_, fun id => (h.posted happly id).2, ?_⟩
    · intro live hlive'
      have hfind := (h.posted happly live.snapshot.id).1
      rw [Table.find_eq_some.mpr ⟨hlive', rfl⟩] at hfind
      rcases Option.or_eq_some_iff.mp hfind.symm with hlast | ⟨-, hkept⟩
      · obtain ⟨record, hrecord, hsnapshot, hintegration⟩ := hlive live (lastWritten_some hlast).1
        rw [hsnapshot, hintegration]
        exact h.identified record (Table.find_eq_some.mp hrecord).1
      · exact h.identified live (Table.find_eq_some.mp hkept).1
    · intro id
      rw [(h.posted happly id).1, lastPolled_concat]
      dsimp only
      rw [← h.snapshot id]
      cases hlast : lastWritten devices id with
      | none => rfl
      | some live =>
        obtain ⟨hmem, rfl⟩ := lastWritten_some hlast
        obtain ⟨record, hrecord, hsnapshot, -⟩ := hlive live hmem
        rw [hrecord]
        exact congrArg some hsnapshot

theorem PolledState.run {before : List ReportingStep} {after : DeviceWorld ρ}
    (h : PolledState R identities before world) (hrun : world.reports R identities steps = some after) :
    PolledState R identities (before ++ steps) after := by
  induction steps generalizing before world with
  | nil =>
    cases hrun
    rw [List.append_nil]
    exact h
  | cons step rest ih =>
    unfold DeviceWorld.reports at hrun
    rw [List.foldlM_cons] at hrun
    obtain ⟨next, hnext, hrest⟩ := Option.bind_eq_some_iff.mp hrun
    have hafter := ih (h.step hnext) hrest
    rwa [List.append_assoc] at hafter

theorem schema_onOff (capability : CapabilitySnapshot) :
    (capability.descriptor.schema == "on_off.v1") = (match capability with
      | .onOff _ _ => true
      | _ => false) := by
  cases capability with
  | onOff on risk =>
    have hschema : (CapabilitySnapshot.onOff on risk).descriptor.schema = "on_off.v1" := by
      cases risk <;> cases on <;> decide +kernel
    rw [hschema]
    rfl
  | _ => rfl

theorem findSome_onOff (capabilities : List CapabilitySnapshot) :
    capabilities.findSome? (fun capability => match capability with
      | .onOff on _ => some (!on)
      | _ => none) =
    ((capabilities.find? (fun capability => capability.descriptor.schema == "on_off.v1")).bind (fun capability =>
      match capability with
      | .onOff on _ => some on
      | _ => none)).map (fun on => !on) := by
  induction capabilities with
  | nil => rfl
  | cons capability rest ih =>
    rw [List.findSome?_cons, List.find?_cons, schema_onOff]
    cases capability <;> first | rfl | exact ih

theorem effectivePayload_toggle (hfresh : device.freshnessAt policy now = .fresh) (deviceId : DeviceId) :
    effectivePayload (.onOff .toggle) endpointId device policy now =
      match (polledReport ⟨deviceId, endpointId, "on_off.v1"⟩ device.snapshot).bind Report.switch with
      | some on => .onOff (.set (!on))
      | none => .onOff .toggle := by
  have hread : (endpointOf device endpointId).bind (fun endpoint =>
      endpoint.capabilities.findSome? (fun capability => match capability with
        | .onOff on _ => some (!on)
        | _ => none)) =
      ((polledReport ⟨deviceId, endpointId, "on_off.v1"⟩ device.snapshot).bind Report.switch).map (fun on => !on) := by
    unfold endpointOf polledReport capabilityOf
    cases device.snapshot.endpoints.find? (fun endpoint => endpoint.id == endpointId) with
    | none => rfl
    | some endpoint =>
      dsimp only [Option.bind_some]
      rw [findSome_onOff]
      cases endpoint.capabilities.find? (fun capability => capability.descriptor.schema == "on_off.v1") with
      | none => rfl
      | some capability => cases capability <;> rfl
  unfold effectivePayload
  rw [if_neg (by simp [hfresh])]
  change (match (endpointOf device endpointId).bind (fun endpoint =>
      endpoint.capabilities.findSome? (fun capability => match capability with
        | .onOff on _ => some (!on)
        | _ => none)) with
    | some on => CommandPayload.onOff (.set on)
    | none => .onOff .toggle) = _
  rw [hread]
  cases (polledReport ⟨deviceId, endpointId, "on_off.v1"⟩ device.snapshot).bind Report.switch <;> rfl

theorem effectivePayload_set_iff (hfresh : device.freshnessAt policy now = .fresh) (deviceId : DeviceId) (on : Bool) :
    effectivePayload (.onOff .toggle) endpointId device policy now = .onOff (.set (!on)) ↔
      (polledReport ⟨deviceId, endpointId, "on_off.v1"⟩ device.snapshot).bind Report.switch = some on := by
  rw [effectivePayload_toggle hfresh deviceId]
  cases (polledReport ⟨deviceId, endpointId, "on_off.v1"⟩ device.snapshot).bind Report.switch with
  | none => simp
  | some polled => simp

theorem pushedConfirmation_iff {numbers : ShellyNumbers} {device : Option DeviceRecord} {envelope : CommandEnvelope}
    {now : Instant} :
    (∃ confirmation, pushedConfirmation device envelope now = .ok (some confirmation)) ↔
      ∃ report, (device.map DeviceRecord.snapshot).bind (polledReport
        ⟨envelope.deviceId, envelope.endpointId, envelope.payload.schema⟩) = some report ∧
        report.confirms numbers envelope = true := by
  unfold pushedConfirmation polledReport
  cases device with
  | none => simp
  | some device =>
    dsimp only [Option.map_some, Option.bind_some]
    cases capabilityOf device.snapshot envelope.endpointId envelope.payload.schema with
    | none =>
      split <;> simp
    | some capability =>
      by_cases hearly : device.snapshot.observedAt < envelope.receivedAt
      · rw [if_pos hearly]
        simp [Report.confirms, Report.observedAt, not_le.mpr hearly]
      · rw [if_neg hearly]
        cases hmatches : snapshotMatches envelope.payload capability <;>
          simp [Report.confirms, Report.observedAt, Report.answers, not_lt.mp hearly, hmatches, Option.filter]

theorem polled_of_run {initial : DeviceWorld ρ} (hinitial : Unpopulated R initial)
    (hrun : initial.reports R identities steps = some world) (deviceId : DeviceId) :
    (R.device world.repository deviceId).map DeviceRecord.snapshot = lastPolled identities deviceId steps := by
  have hpolled := hinitial.polled.run hrun
  rw [← hpolled.mirrored]
  exact hpolled.snapshot deviceId

theorem toggle_iff_polled {initial world : DeviceWorld ρ} {steps : List ReportingStep}
    (hinitial : Unpopulated R initial) (hrun : initial.reports R identities steps = some world) {deviceId : DeviceId}
    {device : DeviceRecord} {endpointId : EndpointId} {policy : FreshnessPolicy} {now : Instant}
    (hdevice : R.device world.repository deviceId = some device) (hfresh : device.freshnessAt policy now = .fresh)
    (on : Bool) : effectivePayload (.onOff .toggle) endpointId device policy now = .onOff (.set (!on)) ↔
      polledSwitch identities ⟨deviceId, endpointId, "on_off.v1"⟩ steps = some on := by
  have hsnapshot := polled_of_run hinitial hrun deviceId
  rw [hdevice] at hsnapshot
  rw [effectivePayload_set_iff hfresh deviceId]
  unfold polledSwitch
  rw [← hsnapshot]
  rfl

theorem switchKey_shown : blankText "switch" = false ∧ "switch".length ≤ 128 ∧
    "switch".toList.any isControl = false := by decide

def switchCommand (deviceId : DeviceId) (endpointId : EndpointId) (on : Bool) (receivedAt : Instant) :
    CommandEnvelope where
  id := 0
  actorId := 0
  deviceId := deviceId
  endpointId := endpointId
  capability := ⟨"on_off", 1, .comfort⟩
  payload := .onOff (.set on)
  idempotencyKey := ⟨"switch", switchKey_shown.1, switchKey_shown.2.1, switchKey_shown.2.2⟩
  deadline := receivedAt
  expected := none
  dryRun := false
  correlationId := .fresh 0
  causationEventId := none
  automationCausation := none
  receivedAt := receivedAt

theorem confirmed_iff_polled {numbers : ShellyNumbers} {initial world : DeviceWorld ρ} {steps : List ReportingStep}
    (hinitial : Unpopulated R initial) (hrun : initial.reports R identities steps = some world)
    (envelope : CommandEnvelope) (now : Instant) :
    (∃ confirmation, pushedConfirmation (R.device world.repository envelope.deviceId) envelope now =
        .ok (some confirmation)) ↔
      ∃ polled, (lastPolled identities envelope.deviceId steps).bind (polledReport envelope.target) = some polled ∧
        polled.confirms numbers envelope = true := by
  have hconfirms := @pushedConfirmation_iff numbers (R.device world.repository envelope.deviceId) envelope now
  rw [polled_of_run hinitial hrun] at hconfirms
  exact hconfirms

theorem polledReport_switch {target : ReportTarget} {snapshot : DeviceSnapshot} {polled : Report}
    (hschema : target.schema = "on_off.v1") (h : polledReport target snapshot = some polled) :
    ∃ on, polled.switch = some on := by
  obtain ⟨capability, hfound, rfl⟩ := Option.map_eq_some_iff.mp h
  obtain ⟨endpoint, -, hcapability⟩ := Option.bind_eq_some_iff.mp hfound
  have hmatches := List.find?_some hcapability
  rw [hschema, schema_onOff] at hmatches
  cases capability with
  | onOff on risk => exact ⟨on, rfl⟩
  | _ => cases hmatches

theorem switch_confirmed_iff (numbers : ShellyNumbers) {initial world : DeviceWorld ρ} {steps : List ReportingStep}
    (hinitial : Unpopulated R initial) (hrun : initial.reports R identities steps = some world)
    (deviceId : DeviceId) (endpointId : EndpointId) :
    (∀ (envelope : CommandEnvelope) (now : Instant), envelope.target = ⟨deviceId, endpointId, "on_off.v1"⟩ →
        (∃ confirmation, pushedConfirmation (R.device world.repository envelope.deviceId) envelope now =
          .ok (some confirmation)) →
        Report.newestConfirms numbers (reportsOf identities ⟨deviceId, endpointId, "on_off.v1"⟩ steps) envelope) ↔
      ∀ polled, (lastPolled identities deviceId steps).bind (polledReport ⟨deviceId, endpointId, "on_off.v1"⟩) =
          some polled →
        ∃ newest, (reportsOf identities ⟨deviceId, endpointId, "on_off.v1"⟩ steps).getLast? = some newest ∧
          polled.observedAt ≤ newest.observedAt ∧ newest.switch = polled.switch := by
  constructor
  · intro h polled hpolled
    obtain ⟨snapshot, -, hreport⟩ := Option.bind_eq_some_iff.mp hpolled
    obtain ⟨on, hon⟩ := polledReport_switch rfl hreport
    -- a command received when the snapshot was made, with the polled value
    have hconfirms : polled.confirms numbers (switchCommand deviceId endpointId on polled.observedAt) = true := by
      unfold Report.confirms
      rw [Bool.and_eq_true]
      exact ⟨decide_eq_true (le_refl polled.observedAt), Report.answers_set_iff.mpr hon⟩
    obtain ⟨newest, hnewest, hanswers⟩ := h (switchCommand deviceId endpointId on polled.observedAt) 0 rfl
      ((confirmed_iff_polled hinitial hrun _ 0).mpr ⟨polled, hpolled, hconfirms⟩)
    unfold Report.confirms at hanswers
    rw [Bool.and_eq_true] at hanswers
    refine ⟨newest, hnewest, of_decide_eq_true hanswers.1, ?_⟩
    rw [hon]
    exact Report.answers_set_iff.mp hanswers.2
  · intro h envelope now htarget hconfirmed
    obtain ⟨polled, hpolled, hconfirms⟩ := (@confirmed_iff_polled _ _ _ numbers _ _ _ hinitial hrun envelope now).mp
      hconfirmed
    have hdevice : envelope.deviceId = deviceId := congrArg ReportTarget.deviceId htarget
    rw [htarget, hdevice] at hpolled
    obtain ⟨newest, hnewest, htime, hswitch⟩ := h polled hpolled
    obtain ⟨snapshot, -, hreport⟩ := Option.bind_eq_some_iff.mp hpolled
    obtain ⟨on, hon⟩ := polledReport_switch rfl hreport
    unfold Report.confirms at hconfirms
    rw [Bool.and_eq_true, decide_eq_true_eq] at hconfirms
    refine ⟨newest, hnewest, ?_⟩
    unfold Report.confirms
    rw [Bool.and_eq_true, decide_eq_true_eq]
    refine ⟨hconfirms.1.trans htime, ?_⟩
    have hschema : envelope.payload.schema = "on_off.v1" := congrArg ReportTarget.schema htarget
    cases hpayload : envelope.payload with
    | onOff command =>
      rw [hpayload] at hconfirms
      cases command with
      | set asked =>
        rw [Report.answers_set_iff, hswitch]
        exact Report.answers_set_iff.mp hconfirms.2
      | toggle => exact Report.answers_toggle (hswitch.trans hon)
    | level command =>
      rw [hpayload] at hschema
      exact absurd hschema (show ¬ "level.v1" = "on_off.v1" by decide)
    | position command =>
      rw [hpayload] at hschema
      exact absurd hschema (show ¬ "position.v1" = "on_off.v1" by decide)
    | accessControl command =>
      rw [hpayload] at hschema
      exact absurd hschema (show ¬ "access_control.v1" = "on_off.v1" by decide)

/-- After every run of accepted refreshes and live batches, a toggle goes by the newest accepted on/off
value exactly when the last refresh has reported that value too. A confirmation by what is stored goes by
the newest accepted report when that is the report of the last refresh, and for every command to a switch exactly
when the newest report has the value of the last refresh and is not older. Two toggles with a report of the first
one's effect between them restore the state exactly when refreshes have reported both states. -/
theorem commands_use_newest_iff (numbers : ShellyNumbers) {initial world : DeviceWorld ρ}
    {steps : List ReportingStep} (hinitial : Unpopulated R initial)
    (hrun : initial.reports R identities steps = some world) :
    (∀ deviceId endpointId device policy now, R.device world.repository deviceId = some device →
      device.freshnessAt policy now = .fresh →
      ((∀ on, newestSwitch identities ⟨deviceId, endpointId, "on_off.v1"⟩ steps = some on →
          effectivePayload (.onOff .toggle) endpointId device policy now = .onOff (.set (!on))) ↔
        ∀ on, newestSwitch identities ⟨deviceId, endpointId, "on_off.v1"⟩ steps = some on →
          polledSwitch identities ⟨deviceId, endpointId, "on_off.v1"⟩ steps = some on)) ∧
    ((∀ envelope : CommandEnvelope, (reportsOf identities envelope.target steps).getLast? =
          (lastPolled identities envelope.deviceId steps).bind (polledReport envelope.target) →
        ∀ now, (∃ confirmation, pushedConfirmation (R.device world.repository envelope.deviceId) envelope now =
            .ok (some confirmation)) →
          Report.newestConfirms numbers (reportsOf identities envelope.target steps) envelope) ∧
      ∀ deviceId endpointId,
        (∀ (envelope : CommandEnvelope) (now : Instant), envelope.target = ⟨deviceId, endpointId, "on_off.v1"⟩ →
            (∃ confirmation, pushedConfirmation (R.device world.repository envelope.deviceId) envelope now =
              .ok (some confirmation)) →
            Report.newestConfirms numbers (reportsOf identities ⟨deviceId, endpointId, "on_off.v1"⟩ steps) envelope) ↔
          ∀ polled, (lastPolled identities deviceId steps).bind (polledReport ⟨deviceId, endpointId, "on_off.v1"⟩) =
              some polled →
            ∃ newest, (reportsOf identities ⟨deviceId, endpointId, "on_off.v1"⟩ steps).getLast? = some newest ∧
              polled.observedAt ≤ newest.observedAt ∧ newest.switch = polled.switch) ∧
    ∀ between after, world.reports R identities between = some after →
      ∀ deviceId endpointId device device' policy now now', R.device world.repository deviceId = some device →
        device.freshnessAt policy now = .fresh → R.device after.repository deviceId = some device' →
        device'.freshnessAt policy now' = .fresh →
        ∀ on, newestSwitch identities ⟨deviceId, endpointId, "on_off.v1"⟩ steps = some on →
          newestSwitch identities ⟨deviceId, endpointId, "on_off.v1"⟩ (steps ++ between) = some (!on) →
          ((effectivePayload (.onOff .toggle) endpointId device policy now = .onOff (.set (!on)) ∧
              effectivePayload (.onOff .toggle) endpointId device' policy now' = .onOff (.set on)) ↔
            polledSwitch identities ⟨deviceId, endpointId, "on_off.v1"⟩ steps = some on ∧
              polledSwitch identities ⟨deviceId, endpointId, "on_off.v1"⟩ (steps ++ between) = some (!on)) := by
  refine ⟨?_, ⟨?_, ?_⟩, ?_⟩
  · intro deviceId endpointId device policy now hdevice hfresh
    exact forall₂_congr (fun on _ => toggle_iff_polled hinitial hrun hdevice hfresh on)
  · intro envelope hnewest now hconfirmed
    obtain ⟨polled, hpolled, hconfirms⟩ := (@confirmed_iff_polled _ _ _ numbers _ _ _ hinitial hrun envelope now).mp
      hconfirmed
    exact ⟨polled, hnewest.trans hpolled, hconfirms⟩
  · exact switch_confirmed_iff numbers hinitial hrun
  · intro between after hbetween deviceId endpointId device device' policy now now' hdevice hfresh hdevice' hfresh' on
      _ _
    -- the second toggle is asked after both runs
    have hwhole : initial.reports R identities (steps ++ between) = some after := by
      unfold DeviceWorld.reports at hrun hbetween ⊢
      rw [List.foldlM_append, hrun]
      exact hbetween
    have hfirst := @toggle_iff_polled _ _ _ _ _ _ hinitial hrun _ _ endpointId _ _ hdevice hfresh on
    have hsecond := @toggle_iff_polled _ _ _ _ _ _ hinitial hwhole _ _ endpointId _ _ hdevice' hfresh' (!on)
    rw [Bool.not_not] at hsecond
    exact and_congr hfirst hsecond

end Stored

namespace DeviceWorld

def relayWorld : DeviceWorld FoundationStore := ⟨relayTables, .empty⟩

theorem relayWorld_unpopulated : Unpopulated sqliteDevices relayWorld := ⟨fun _ => rfl, rfl⟩

def relayPoll : List ReportingStep := [.refresh (plainIds 0) [relayCandidate]]

def relayPush : List ReportingStep := relayPoll ++ [.publish ⟨[relayOn 1], []⟩]

def relayPolledOn : List ReportingStep :=
  [.publish ⟨[relayOn 1], []⟩,
    .refresh (plainIds 1) [⟨1, 1, ⟨relayId, "r", "Relay", [⟨"switch:0", none, [.onOff true .comfort]⟩], 2⟩, 2, []⟩]]

def relayNumbers : ShellyNumbers := ⟨fun _ => none, fun _ => "0.0", fun _ => 0⟩

/-- The relay is switched on and off again by toggles, with a push and a poll between them, and the command that
switched it on is confirmed. -/
theorem relay_poll_used : ∃ world after device device',
    relayWorld.reports sqliteDevices plainIdentities relayPoll = some world ∧
      world.reports sqliteDevices plainIdentities relayPolledOn = some after ∧
      sqliteDevices.device world.repository relayId = some device ∧
      sqliteDevices.device after.repository relayId = some device' ∧
      (effectivePayload (.onOff .toggle) "switch:0" device minutePolicy 1 = .onOff (.set true) ∧
        effectivePayload (.onOff .toggle) "switch:0" device' minutePolicy 3 = .onOff (.set false)) ∧
      (∃ confirmation, pushedConfirmation (some device') (switchCommand relayId "switch:0" true 1) 3 =
        .ok (some confirmation)) ∧
      Report.newestConfirms relayNumbers (reportsOf plainIdentities ⟨relayId, "switch:0", "on_off.v1"⟩
        (relayPoll ++ relayPolledOn)) (switchCommand relayId "switch:0" true 1) := by
  have hread : (relayWorld.reports sqliteDevices plainIdentities relayPoll).any (fun world =>
      (sqliteDevices.device world.repository relayId).any (fun device =>
        decide (device.freshnessAt minutePolicy 1 = .fresh)) &&
      (world.reports sqliteDevices plainIdentities relayPolledOn).any (fun after =>
        (sqliteDevices.device after.repository relayId).any (fun device =>
          decide (device.freshnessAt minutePolicy 3 = .fresh ∧
            device.snapshot = ⟨relayId, "r", "Relay", [⟨"switch:0", none, [.onOff true .comfort]⟩], 2⟩)))) = true := by
    decide +kernel
  obtain ⟨world, hworld, hread⟩ := (Option.any_eq_true _ _).mp hread
  rw [Bool.and_eq_true] at hread
  obtain ⟨device, hdevice, hfresh⟩ := (Option.any_eq_true _ _).mp hread.1
  obtain ⟨after, hafter, hread'⟩ := (Option.any_eq_true _ _).mp hread.2
  obtain ⟨device', hdevice', hfresh'⟩ := (Option.any_eq_true _ _).mp hread'
  obtain ⟨hfresh', hsnapshot⟩ := of_decide_eq_true hfresh'
  have hwhole : relayWorld.reports sqliteDevices plainIdentities (relayPoll ++ relayPolledOn) = some after := by
    unfold DeviceWorld.reports at hworld hafter ⊢
    rw [List.foldlM_append, hworld]
    exact hafter
  obtain ⟨-, -, htoggles⟩ := commands_use_newest_iff relayNumbers relayWorld_unpopulated hworld
  obtain ⟨-, ⟨hconfirms, -⟩, -⟩ := commands_use_newest_iff relayNumbers relayWorld_unpopulated hwhole
  have htoggled := (htoggles relayPolledOn after hafter relayId "switch:0" device device' minutePolicy 1 3 hdevice
    (of_decide_eq_true hfresh) hdevice' hfresh' false (by decide +kernel) (by decide +kernel)).mpr
      ⟨by decide +kernel, by decide +kernel⟩
  have hconfirmed : ∃ confirmation, pushedConfirmation (some device') (switchCommand relayId "switch:0" true 1) 3 =
      .ok (some confirmation) := by
    refine ⟨⟨3, 2⟩, ?_⟩
    simp only [pushedConfirmation, hsnapshot]
    rfl
  refine ⟨world, after, device, device', hworld, hafter, hdevice, hdevice', htoggled, hconfirmed, ?_⟩
  refine hconfirms (switchCommand relayId "switch:0" true 1) rfl 3 ?_
  rw [show (switchCommand relayId "switch:0" true 1).deviceId = relayId from rfl, hdevice']
  exact hconfirmed

/-- A relay that is fresh and has said that it is on is toggled on. -/
theorem relay_toggled_on : ∃ world device,
    relayWorld.reports sqliteDevices plainIdentities relayPush = some world ∧
      sqliteDevices.device world.repository relayId = some device ∧ device.freshnessAt minutePolicy 2 = .fresh ∧
      newestSwitch plainIdentities ⟨relayId, "switch:0", "on_off.v1"⟩ relayPush = some true ∧
      effectivePayload (.onOff .toggle) "switch:0" device minutePolicy 2 = .onOff (.set true) := by
  have hrun : (relayWorld.reports sqliteDevices plainIdentities relayPush).isSome = true := by decide +kernel
  obtain ⟨world, hworld⟩ := Option.isSome_iff_exists.mp hrun
  have hread : ((relayWorld.reports sqliteDevices plainIdentities relayPush).bind (fun world =>
      sqliteDevices.device world.repository relayId)).any (fun device =>
        decide (device.freshnessAt minutePolicy 2 = .fresh ∧
          effectivePayload (.onOff .toggle) "switch:0" device minutePolicy 2 = .onOff (.set true))) = true := by
    decide +kernel
  rw [hworld] at hread
  obtain ⟨device, hdevice, htoggled⟩ := (Option.any_eq_true _ _).mp hread
  obtain ⟨hfresh, hpayload⟩ := of_decide_eq_true htoggled
  exact ⟨world, device, hworld, hdevice, hfresh, by decide +kernel, hpayload⟩

end DeviceWorld

end HomeMagic
