import HomeMagic.AutomationPlan

/-! The durable registry as the automation and command paths read it. Finite
floating-point readings are kept as rationals; no modelled function computes
with them. -/
namespace HomeMagic

abbrev InstallationId := ℕ
abbrev IntegrationId := ℕ

inductive RiskClass
  | observe | comfort | mechanical | security
  deriving DecidableEq

structure CapabilityDescriptor where
  name : String
  version : ℕ
  risk : RiskClass
  deriving DecidableEq

def CapabilityDescriptor.schema (descriptor : CapabilityDescriptor) : String :=
  s!"{descriptor.name}.v{descriptor.version}"

inductive CapabilitySnapshot
  | availability (online : Bool)
  | onOff (on : Bool) (risk : RiskClass)
  | accessControl (locked : Option Bool)
  | level (percent : ℚ) (risk : RiskClass)
  | position (percent : Option ℚ) (motion : Option String) (risk : RiskClass)
  | power (watts volts amperes : Option ℚ)
  | energy (wattHours : ℚ)
  | diagnostics (firmwareVersion : Option String) (errors : List String)
  deriving DecidableEq

def CapabilitySnapshot.descriptor : CapabilitySnapshot → CapabilityDescriptor
  | availability _ => ⟨"availability", 1, .observe⟩
  | onOff _ risk => ⟨"on_off", 1, risk⟩
  | accessControl _ => ⟨"access_control", 1, .security⟩
  | level _ risk => ⟨"level", 1, risk⟩
  | position _ _ risk => ⟨"position", 1, risk⟩
  | power _ _ _ => ⟨"power", 1, .observe⟩
  | energy _ => ⟨"energy", 1, .observe⟩
  | diagnostics _ _ => ⟨"diagnostics", 1, .observe⟩

structure EndpointSnapshot where
  id : EndpointId
  name : Option String
  capabilities : List CapabilitySnapshot
  deriving DecidableEq

structure DeviceSnapshot where
  id : DeviceId
  nativeId : String
  name : String
  endpoints : List EndpointSnapshot
  observedAt : Instant
  deriving DecidableEq

inductive DeviceLifecycle
  | candidate | enrolled | stale | removed
  deriving DecidableEq

inductive LifecycleTrigger
  | enroll | markStale | rediscover | remove
  deriving DecidableEq

def DeviceLifecycle.transition : DeviceLifecycle → LifecycleTrigger → Option DeviceLifecycle
  | candidate, .enroll => some enrolled
  | enrolled, .rediscover | stale, .rediscover | removed, .rediscover => some enrolled
  | candidate, .remove | enrolled, .remove | stale, .remove => some removed
  | enrolled, .markStale => some stale
  | _, _ => none

inductive AvailabilityState
  | unknown | online | degraded | offline | sleeping
  deriving DecidableEq

structure Availability where
  state : AvailabilityState
  since : Instant
  reason : Option String
  deriving DecidableEq

namespace Availability

def unknown (at_ : Instant) : Availability := ⟨.unknown, at_, none⟩

def transition (availability : Availability) (state : AvailabilityState) (at_ : Instant)
    (reason : Option String) : Availability :=
  if availability.state = state ∧ availability.reason = reason then availability
  else ⟨state, at_, reason⟩

end Availability

structure DeviceTimestamps where
  firstSeen : Instant
  lastSeen : Instant
  lastSuccess : Option Instant
  deriving DecidableEq

namespace DeviceTimestamps

def recordSeen (timestamps : DeviceTimestamps) (at_ : Instant) : Option DeviceTimestamps :=
  if at_ < timestamps.firstSeen then none
  else some { timestamps with lastSeen := max timestamps.lastSeen at_ }

def recordSuccess (timestamps : DeviceTimestamps) (at_ : Instant) : Option DeviceTimestamps :=
  (timestamps.recordSeen at_).map (fun timestamps =>
    { timestamps with
      lastSuccess := some (timestamps.lastSuccess.elim at_ (fun current => max current at_)) })

end DeviceTimestamps

inductive FreshnessState
  | unknown | fresh | stale | offline | sleeping
  deriving DecidableEq

structure FreshnessPolicy where
  staleAfterSeconds : ℤ
  offlineAfterSeconds : ℤ
  stale_pos : 0 < staleAfterSeconds
  stale_before_offline : staleAfterSeconds < offlineAfterSeconds

def FreshnessPolicy.evaluate (policy : FreshnessPolicy) (lastSuccess : Option Instant)
    (availability : AvailabilityState) (now : Instant) : FreshnessState :=
  if availability = .sleeping then .sleeping
  else match lastSuccess with
    | none => if availability = .offline then .offline else .unknown
    | some lastSuccess =>
      let elapsed := max ((now - lastSuccess).tdiv 1000000000) 0
      if policy.offlineAfterSeconds ≤ elapsed then .offline
      else if policy.staleAfterSeconds ≤ elapsed then .stale
      else .fresh

structure DeviceRecord where
  installationId : InstallationId
  integrationId : IntegrationId
  snapshot : DeviceSnapshot
  lifecycle : DeviceLifecycle
  availability : Availability
  timestamps : DeviceTimestamps
  aliases : List String
  spaces : List SpaceId
  capabilityDescriptors : List (EndpointId × List CapabilityDescriptor)
  deriving DecidableEq

def DeviceRecord.freshnessAt (device : DeviceRecord) (policy : FreshnessPolicy) (now : Instant) :
    FreshnessState :=
  policy.evaluate device.timestamps.lastSuccess device.availability.state now

/-- `serde_json::Value`. `number` holds the text of a number outside `i64`; equal numbers have one text, so that of
`-0.0` is `0.0`. -/
inductive JsonValue
  | null
  | bool (value : Bool)
  | integer (value : ℤ)
  | number (text : String)
  | string (value : String)
  | array (elements : List JsonValue)
  | object (members : List (String × JsonValue))

structure ObservedValue where
  value : JsonValue
  observedAt : Instant

structure CapabilityObservation where
  deviceId : DeviceId
  endpointId : EndpointId
  capability : CapabilityDescriptor
  values : List (String × ObservedValue)
  receivedAt : Instant

structure FoundationSnapshot where
  devices : List DeviceRecord
  observations : List CapabilityObservation
  eventCursor : Option ℕ

end HomeMagic
