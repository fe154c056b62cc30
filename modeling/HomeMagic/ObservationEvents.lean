import HomeMagic.AutomationServices
import HomeMagic.SwitchReports

/-! Whether the log announces changed observations. Sessions publish what status frames have changed and
refreshes replace snapshots; the event consumer waits for `ObservationChanged` events. -/
namespace HomeMagic

open Fallible

variable {ids : FreshIds} {events events' : List DomainEvent} {record : DeviceRecord}
  {candidate : DiscoveryCandidate}

structure ObservationChange where
  deviceId : DeviceId
  endpointId : EndpointId
  capability : CapabilityDescriptor
  fields : List String
  deriving DecidableEq

def ObservationChange.asked (change : ObservationChange) (trigger : ResolvedAutomationTrigger) : Bool :=
  match trigger with
  | .observationChanged targets field =>
    targets.any (fun target => target.deviceId == change.deviceId && target.endpointId == change.endpointId &&
      target.capability == change.capability.schema) && field.all (fun field => change.fields.contains field)
  | _ => false

abbrev FieldReading := List (String × JsonValue)

def changedFields (before after : FieldReading) : List String :=
  (sortedKeys (before.map Prod.fst ++ after.map Prod.fst)).filter (fun field =>
    before.lookup field != after.lookup field)

def SourcedObservation.reading (observation : SourcedObservation) : FieldReading :=
  observation.values.map (fun entry => (entry.1, entry.2.value))

def capabilityReading (numbers : ShellyNumbers) (capability : CapabilitySnapshot) : FieldReading :=
  (observedFields numbers capability).filterMap (fun entry => entry.2.2.map (fun value => (entry.2.1, value)))

structure ObservingRepository (ρ κ : Type) [DecidableEq κ] where
  devices : DeviceRepository ρ
  observations : ObservationRepository ρ κ
  same : observations.apply = devices.apply

/-- Among the observations, which live reports write, or in the snapshot of a device, which refreshes
replace. -/
inductive StoredPlace (κ : Type)
  | live (key : κ)
  | polled (target : ReportTarget)

structure PlacedReading (κ : Type) where
  place : StoredPlace κ
  deviceId : DeviceId
  endpointId : EndpointId
  capability : CapabilityDescriptor
  reading : FieldReading

section Places

variable {ρ κ : Type} [DecidableEq κ] (Q : ObservingRepository ρ κ) (numbers : ShellyNumbers)
  (identities : DeviceIdentities)

def ObservingRepository.storedAt (world : DeviceWorld ρ) : StoredPlace κ → FieldReading
  | .live key => ((Q.observations.stored world.repository key).map SourcedObservation.reading).getD []
  | .polled target => (((Q.devices.device world.repository target.deviceId).bind (fun device =>
      capabilityOf device.snapshot target.endpointId target.schema)).map (capabilityReading numbers)).getD []

def snapshotReadings (snapshot : DeviceSnapshot) : List (PlacedReading κ) :=
  (snapshot.endpoints.flatMap (fun endpoint => endpoint.capabilities.map (fun capability =>
    (endpoint.id, capability.descriptor.schema)))).dedup.filterMap (fun target =>
      (capabilityOf snapshot target.1 target.2).map (fun capability =>
        ⟨.polled ⟨snapshot.id, target.1, target.2⟩, snapshot.id, target.1, capability.descriptor,
          capabilityReading numbers capability⟩))

/-- What a step reports: the last observation of a batch for each key, and the last accepted snapshot of
a refresh for each device. -/
def ObservingRepository.readings : ReportingStep → List (PlacedReading κ)
  | .refresh _ candidates => (candidates.map (fun candidate => candidate.snapshot.id)).dedup.flatMap (fun id =>
      ((acceptedCandidates identities id candidates).getLast?.map (fun candidate =>
        snapshotReadings numbers candidate.snapshot)).getD [])
  | .publish batch => (batch.observations.map Q.observations.key).dedup.filterMap (fun key =>
      (batch.observations.reverse.find? (fun observation => Q.observations.key observation = key)).map
        (fun observation => ⟨.live key, observation.deviceId, observation.endpointId, observation.capability,
          observation.reading⟩))

def ObservingRepository.changes (world : DeviceWorld ρ) (report : ReportingStep) (after : DeviceWorld ρ) :
    List ObservationChange :=
  (Q.readings numbers identities report).filterMap (fun placed =>
    let fields := changedFields (Q.storedAt numbers world placed.place) (Q.storedAt numbers after placed.place)
    if fields = [] then none else some ⟨placed.deviceId, placed.endpointId, placed.capability, fields⟩)

def ObservingRepository.Repeats (world : DeviceWorld ρ) (report : ReportingStep) : Prop :=
  ∀ placed ∈ Q.readings numbers identities report,
    changedFields (Q.storedAt numbers world placed.place) placed.reading = []

end Places

structure ObservationWorld (ρ : Type) where
  devices : DeviceWorld ρ
  sessions : DeviceId → Option StatusSession

inductive ObservationStep
  /-- A session reads the whole status of a device. -/
  | connect (device : DeviceRecord) (baseline : JsonObject) (now : Instant)
  /-- The session of the device receives a status frame. -/
  | frame (id : DeviceId) (notification : StatusNotification) (receivedAt : Instant)
  | refresh (ids : FreshIds) (candidates : List DiscoveryCandidate)

section Runs

variable {ρ κ : Type} [DecidableEq κ] (Q : ObservingRepository ρ κ) (numbers : ShellyNumbers)
  (identities : DeviceIdentities)

namespace ObservationWorld

def sends (world : ObservationWorld ρ) : ObservationStep → Option ReportingStep × (DeviceId → Option StatusSession)
  | .connect device baseline now =>
    let opened := openSession numbers device baseline now
    (some (.publish opened.2), Function.update world.sessions device.snapshot.id (some opened.1))
  | .frame id notification receivedAt =>
    match world.sessions id with
    | none => (none, world.sessions)
    | some session =>
      match statusFrame numbers session notification receivedAt with
      | none => (none, Function.update world.sessions id none)
      | some (session, batch) => (batch.map .publish, Function.update world.sessions id (some session))
  | .refresh ids candidates => (some (.refresh ids candidates), world.sessions)

def refused (world : ObservationWorld ρ) : ObservationStep → DeviceId → Option StatusSession
  | .connect device _ _ => Function.update world.sessions device.snapshot.id none
  | .frame id _ _ => Function.update world.sessions id none
  | .refresh _ _ => world.sessions

def next (world : ObservationWorld ρ) (step : ObservationStep) : ObservationWorld ρ :=
  match world.sends numbers step with
  | (none, sessions) => ⟨world.devices, sessions⟩
  | (some report, sessions) =>
    match world.devices.report Q.devices identities report with
    | none => ⟨world.devices, world.refused step⟩
    | some devices => ⟨devices, sessions⟩

end ObservationWorld

end Runs

section Stored

variable {ρ κ : Type} [DecidableEq κ] {Q : ObservingRepository ρ κ} {numbers : ShellyNumbers}
  {identities : DeviceIdentities} {history : List ReportingStep} {world after : DeviceWorld ρ} {report : ReportingStep}

end Stored

section Runs

variable {ρ κ : Type} [DecidableEq κ] {Q : ObservingRepository ρ κ} {numbers : ShellyNumbers}
  {identities : DeviceIdentities}

namespace ObservationWorld

/-- The registry is what the repository stores, with the snapshots of earlier refreshes. -/
structure Sound (Q : ObservingRepository ρ κ) (identities : DeviceIdentities) (world : ObservationWorld ρ) : Prop where
  polled : ∃ history, PolledState Q.devices identities history world.devices
  valid : Q.observations.valid world.devices.repository

theorem Sound.next {world : ObservationWorld ρ} (h : Sound Q identities world) (step : ObservationStep) :
    Sound Q identities (world.next Q numbers identities step) := by
  obtain ⟨history, hpolled⟩ := h.polled
  unfold ObservationWorld.next
  split
  · exact ⟨⟨history, hpolled⟩, h.valid⟩
  next report sessions hsends =>
    split
    · exact ⟨⟨history, hpolled⟩, h.valid⟩
    next after hreport =>
      refine ⟨⟨_, hpolled.step hreport⟩, ?_⟩
      cases report with
      | refresh ids candidates =>
        obtain ⟨outcome, -, hpost⟩ := bind_inv (toOption_eq_some hreport)
        obtain ⟨repository, happly, rfl⟩ := DeviceWorld.post_ok hpost
        rw [← Q.same] at happly
        exact Q.observations.keeps_valid h.valid happly
      | publish batch =>
        obtain ⟨devices, -, repository, happly, rfl⟩ := DeviceWorld.published_ok (toOption_eq_some hreport)
        rw [← Q.same] at happly
        exact Q.observations.keeps_valid h.valid happly

end ObservationWorld

end Runs

namespace ObservationWorld

end ObservationWorld

end HomeMagic
