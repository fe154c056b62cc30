import HomeMagic.LiveObservations

/-! Status frames of a Shelly session: the cache that they are laid over, the capabilities that the
components project to, and the batch that a session publishes for what has changed. -/
namespace HomeMagic

abbrev JsonObject := List (String × JsonValue)

def JsonObject.set (key : String) (value : JsonValue) : JsonObject → JsonObject
  | [] => [(key, value)]
  | entry :: rest =>
    if entry.1 = key then (key, value) :: rest
    else if key < entry.1 then (key, value) :: entry :: rest
    else entry :: JsonObject.set key value rest

def JsonObject.remove (key : String) (members : JsonObject) : JsonObject :=
  members.filter (fun entry => entry.1 != key)

namespace JsonValue

def isNull : JsonValue → Bool
  | null => true
  | _ => false

def asObject : JsonValue → Option JsonObject
  | object members => some members
  | _ => none

def asBool : JsonValue → Option Bool
  | bool value => some value
  | _ => none

def asString : JsonValue → Option String
  | string value => some value
  | _ => none

end JsonValue

/-- Numbers outside the integers, and times: how the text of one reads, how a reading is written, and
which instant a device time is. -/
structure ShellyNumbers where
  read : String → Option ℚ
  write : ℚ → String
  toUtc : ℚ → Instant

def ShellyNumbers.asNumber (numbers : ShellyNumbers) : JsonValue → Option ℚ
  | .integer value => some value
  | .number text => numbers.read text
  | _ => none

mutual
def mergeValue (current : JsonValue) : JsonValue → JsonValue
  | .object patch =>
    match current with
    | .object existing => .object (mergeMembers existing patch)
    | _ => .object patch
  | .null => .null
  | .bool value => .bool value
  | .integer value => .integer value
  | .number text => .number text
  | .string value => .string value
  | .array elements => .array elements

def mergeMembers (existing : JsonObject) : List (String × JsonValue) → JsonObject
  | [] => existing
  | (key, value) :: rest =>
    mergeMembers
      (if value.isNull then JsonObject.remove key existing
      else match existing.lookup key with
        | some old => JsonObject.set key (mergeValue old value) existing
        | none => JsonObject.set key value existing)
      rest
end

structure StatusNotification where
  timestamp : ℚ
  full : Bool
  components : JsonObject

structure StatusApply where
  changedComponents : List String
  changedFields : List (String × List String)
  requiresRefresh : Bool

structure StatusCache where
  components : JsonObject
  lastTimestamp : Option ℚ

def sortedKeys (keys : List String) : List String := keys.dedup.insertionSort (· ≤ ·)

def changedTopLevelFields (before after : Option JsonValue) : List String :=
  let before := (before.bind JsonValue.asObject).getD []
  let after := (after.bind JsonValue.asObject).getD []
  (sortedKeys (before.map Prod.fst ++ after.map Prod.fst)).filter (fun key => before.lookup key != after.lookup key)

namespace StatusCache

def empty : StatusCache := ⟨[], none⟩

def overlay (components : JsonObject) (patches : JsonObject) : JsonObject :=
  patches.foldl (fun components patch =>
    JsonObject.set patch.1 (match components.lookup patch.1 with
      | some current => mergeValue current patch.2
      | none => patch.2) components) components

def apply (cache : StatusCache) (notification : StatusNotification) : StatusCache × StatusApply :=
  if cache.lastTimestamp.any (fun accepted => notification.timestamp < accepted) then (cache, ⟨[], [], true⟩)
  else
    let components :=
      if notification.full then notification.components else overlay cache.components notification.components
    let changedFields := (sortedKeys (cache.components.map Prod.fst ++ components.map Prod.fst)).filterMap
      (fun component =>
        let fields := changedTopLevelFields (cache.components.lookup component) (components.lookup component)
        if fields.isEmpty then none else some (component, fields))
    (⟨components, some notification.timestamp⟩, ⟨changedFields.map Prod.fst, changedFields, false⟩)

end StatusCache

def ShellyNumbers.number (numbers : ShellyNumbers) (component : JsonObject) (key : String) : Option ℚ :=
  (component.lookup key).bind numbers.asNumber

section Projection

variable (numbers : ShellyNumbers)

def powerAndEnergy (component : JsonObject) : List CapabilitySnapshot :=
  let watts := numbers.number component "apower"
  let volts := numbers.number component "voltage"
  let amperes := numbers.number component "current"
  (if watts.isSome || volts.isSome || amperes.isSome then [.power watts volts amperes] else []) ++
    (((component.lookup "aenergy").bind JsonValue.asObject).bind (fun energy =>
      numbers.number energy "total")).toList.map CapabilitySnapshot.energy

def projectSwitch (component : JsonObject) : List CapabilitySnapshot :=
  ((component.lookup "output").bind JsonValue.asBool).toList.map (fun on => .onOff on .comfort) ++
    powerAndEnergy numbers component

def projectLight (component : JsonObject) : List CapabilitySnapshot :=
  projectSwitch numbers component ++
    (numbers.number component "brightness").toList.map (fun percent => .level percent .comfort)

def projectCover (component : JsonObject) : List CapabilitySnapshot :=
  .position (numbers.number component "current_pos") ((component.lookup "state").bind JsonValue.asString)
    .mechanical :: powerAndEnergy numbers component

def componentKind (key : String) : Option String :=
  if ':' ∈ key.toList then some (String.ofList (key.toList.takeWhile (fun letter => letter != ':'))) else none

def projectComponent (entry : String × JsonValue) : Option EndpointSnapshot := do
  let kind ← componentKind entry.1
  let component ← entry.2.asObject
  let capabilities ←
    if kind = "switch" then some (projectSwitch numbers component)
    else if kind = "light" then some (projectLight numbers component)
    else if kind = "cover" then some (projectCover numbers component)
    else none
  some ⟨entry.1, none, capabilities⟩

def projectComponents (status : JsonObject) : List EndpointSnapshot := status.filterMap (projectComponent numbers)

def observedFields : CapabilitySnapshot → List (String × String × Option JsonValue)
  | .onOff on _ => [("output", "on", some (.bool on))]
  | .level percent _ => [("brightness", "percent", some (.number (numbers.write percent)))]
  | .position percent motion _ =>
    [("current_pos", "percent", percent.map (.number ∘ numbers.write)), ("state", "motion", motion.map .string)]
  | .power watts volts amperes =>
    [("apower", "watts", watts.map (.number ∘ numbers.write)),
      ("voltage", "volts", volts.map (.number ∘ numbers.write)),
      ("current", "amperes", amperes.map (.number ∘ numbers.write))]
  | .energy wattHours => [("aenergy", "watt_hours", some (.number (numbers.write wattHours)))]
  | .availability online => [("online", "online", some (.bool online))]
  | .diagnostics firmwareVersion errors =>
    [("firmware_version", "firmware_version", firmwareVersion.map .string),
      ("errors", "errors", some (.array (errors.map .string)))]
  | .accessControl _ => []

def observationFromCapability (device : DeviceRecord) (endpointId : EndpointId) (capability : CapabilitySnapshot)
    (rawFields : List String) (observedAt receivedAt : Instant) (full : Bool) : Option SourcedObservation :=
  let values := (observedFields numbers capability).filterMap (fun entry =>
    if full || rawFields.contains entry.1 then entry.2.2.map (fun value => (entry.2.1, ⟨value, observedAt⟩)) else none)
  if values.isEmpty then none
  else some ⟨⟨device.snapshot.id, endpointId, capability.descriptor, values, receivedAt⟩,
    ⟨device.integrationId, if full then .fullStatus else .notification, none⟩⟩

def statusBatch (device : DeviceRecord) (cache : StatusCache) (changed : List (String × List String))
    (observedAt receivedAt : Instant) (full : Bool) : LiveObservationBatch where
  observations := (projectComponents numbers cache.components).flatMap (fun endpoint =>
    match changed.lookup endpoint.id with
    | none => []
    | some rawFields => endpoint.capabilities.filterMap (fun capability =>
        observationFromCapability numbers device endpoint.id capability rawFields observedAt receivedAt full))
  events := []

structure StatusSession where
  device : DeviceRecord
  cache : StatusCache

def openSession (device : DeviceRecord) (baseline : JsonObject) (now : Instant) :
    StatusSession × LiveObservationBatch :=
  let applied := StatusCache.empty.apply ⟨0, true, baseline⟩
  (⟨device, applied.1⟩, statusBatch numbers device applied.1 applied.2.changedFields now now true)

def statusFrame (session : StatusSession) (notification : StatusNotification) (receivedAt : Instant) :
    Option (StatusSession × Option LiveObservationBatch) :=
  let applied := session.cache.apply notification
  if applied.2.requiresRefresh then none
  else some ({ session with cache := applied.1 },
    if applied.2.changedFields.isEmpty then none
    else some (statusBatch numbers session.device applied.1 applied.2.changedFields
      (numbers.toUtc notification.timestamp) receivedAt notification.full))

end Projection

end HomeMagic
