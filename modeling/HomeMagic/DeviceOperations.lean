import HomeMagic.DeviceReconciliation

/-! The operations of the application on devices, over any repository: a refresh of one integration, a
published batch of live observations, the evaluation of freshness, and the removal of a device. Each
writes its records and events in one transaction, and the registry follows. -/
namespace HomeMagic

open Fallible

def lastWritten (devices : List DeviceRecord) (id : DeviceId) : Option DeviceRecord :=
  devices.reverse.find? (fun device => device.snapshot.id = id)

structure DeviceRepository (ρ : Type) where
  apply : ρ → FoundationWrite → Except StorageError ρ
  device : ρ → DeviceId → Option DeviceRecord
  events : ρ → List DomainEvent
  device_apply : ∀ {r r' write}, apply r write = .ok r' → ∀ id,
    device r' id = (lastWritten write.devices id).or (device r id)
  events_apply : ∀ {r r' write}, apply r write = .ok r' → events r' = events r ++ write.events

structure DeviceWorld (ρ : Type) where
  repository : ρ
  registry : DeviceTable

namespace FoundationStore

variable {store store' : FoundationStore}
variable {device : DeviceRecord} {write : FoundationWrite}

def deviceRecord (store : FoundationStore) (id : DeviceId) : Option DeviceRecord :=
  (store.devices.find id).map DeviceRow.record

theorem deviceRecord_upsertDevice (h : store.upsertDevice device = .ok store') (id : DeviceId) :
    store'.deviceRecord id = if device.snapshot.id = id then some device else store.deviceRecord id := by
  have hrow := (upsertDevice_ok h).row
  unfold upsertDeviceRow at hrow
  split at hrow
  · cases hrow
  · unfold deviceRecord
    split at hrow
    next row hfind =>
      have hid : row.id = device.snapshot.id := (Table.find_eq_some.mp hfind).2
      have hdevices : store'.devices = store.devices.replace { row with record := device } :=
        (congrArg FoundationStore.devices (Except.ok.inj hrow)).symm
      have hold : store.devices.find ({ row with record := device } : DeviceRow).id = some row := hid ▸ hfind
      rw [hdevices, Table.find_replace hold]
      show Option.map _ (if row.id = id then _ else _) = _
      rw [hid]
      split <;> rfl
    next hfind =>
      split at hrow
      · cases hrow
      · have hdevices := (congrArg FoundationStore.devices (Except.ok.inj hrow)).symm
        dsimp only at hdevices
        rw [hdevices, Table.find_insert]
        dsimp only
        split <;> rfl

theorem deviceRecord_upsertDevices {devices : List DeviceRecord} (h : devices.foldlM upsertDevice store = .ok store')
    (id : DeviceId) : store'.deviceRecord id = (lastWritten devices id).or (store.deviceRecord id) := by
  induction devices generalizing store with
  | nil =>
    cases h
    rfl
  | cons device rest ih =>
    rw [List.foldlM_cons] at h
    obtain ⟨next, hnext, hrest⟩ := bind_inv h
    rw [ih hrest, deviceRecord_upsertDevice hnext]
    unfold lastWritten
    rw [List.reverse_cons, List.find?_append]
    by_cases hid : device.snapshot.id = id
    · simp [hid]
    · simp [hid]

theorem SameDevices.deviceRecord (h : SameDevices store store') (id : DeviceId) :
    store'.deviceRecord id = store.deviceRecord id := by
  unfold FoundationStore.deviceRecord
  rw [h.devices]

theorem deviceRecord_apply (h : store.apply write = .ok store') (id : DeviceId) :
    store'.deviceRecord id = (lastWritten write.devices id).or (store.deviceRecord id) := by
  obtain ⟨_, _, _, _, _, _, hinstallations, hintegrations, hspaces, hdevices, hobservations, hevents, hrepairs⟩ :=
    apply_stages h
  have hobserved := congrArg (fun store => deviceRecord store id) (upsertObservations_ok hobservations)
  rw [(foldlM_same upsertRepair_same hrepairs).deviceRecord, (foldlM_same insertEvent_same hevents).deviceRecord]
  refine hobserved.trans ?_
  show deviceRecord _ id = _
  refine (deviceRecord_upsertDevices hdevices id).trans ?_
  rw [ (foldlM_same upsertSpace_same hspaces).deviceRecord,
    (foldlM_same upsertIntegration_same hintegrations).deviceRecord,
    (foldlM_same upsertInstallation_same hinstallations).deviceRecord]

theorem insertEvents_rows {events : List DomainEvent} (h : events.foldlM insertEvent store = .ok store') :
    store'.events.rows = store.events.rows ++ events := by
  induction events generalizing store with
  | nil =>
    cases h
    exact (List.append_nil _).symm
  | cons event rest ih =>
    rw [List.foldlM_cons] at h
    obtain ⟨next, hnext, hrest⟩ := bind_inv h
    have hrows : next.events.rows = store.events.rows ++ [event] := by
      unfold insertEvent at hnext
      split at hnext
      · cases hnext
      · split at hnext
        · cases hnext
        next events hinserted =>
          cases hnext
          exact Table.rows_insertAll hinserted
    rw [ih hrest, hrows, List.append_assoc]
    rfl

def SameEvents (store store' : FoundationStore) : Prop := store'.events = store.events

theorem foldlM_sameEvents {α : Type} {f : FoundationStore → α → Except StorageError FoundationStore}
    (hf : ∀ {s s' a}, f s a = .ok s' → SameEvents s s') {l : List α} (h : l.foldlM f store = .ok store') :
    SameEvents store store' :=
  foldlM_keeps (I := SameEvents store) (fun _ _ _ _ hstep hs => (hf hstep).trans hs) h rfl

theorem upsertInstallation_events {installation : InstallationId}
    (h : store.upsertInstallation installation = .ok store') : SameEvents store store' := by
  cases h
  rfl

theorem upsertIntegration_events {integration : IntegrationInstance}
    (h : store.upsertIntegration integration = .ok store') : SameEvents store store' := by
  unfold upsertIntegration at h
  dsimp only at h
  split at h
  · cases h
  · cases h
    rfl

theorem upsertSpace_events {space : Space} (h : store.upsertSpace space = .ok store') :
    SameEvents store store' := by
  unfold upsertSpace at h
  dsimp only at h
  split at h
  · cases h
  · cases h
    rfl

theorem upsertDevice_events (h : store.upsertDevice device = .ok store') :
    SameEvents store store' := by
  obtain ⟨_, _, _, _, _, hframe⟩ := (upsertDevice_ok h).frame
  unfold SameEvents
  rw [hframe]

theorem upsertRepair_events {repair : RepairRecord} (h : store.upsertRepair repair = .ok store') :
    SameEvents store store' := by
  unfold upsertRepair at h
  split at h
  · cases h
    rfl
  · split at h
    · cases h
    · cases h
      rfl

theorem events_rows_apply (h : store.apply write = .ok store') :
    store'.events.rows = store.events.rows ++ write.events := by
  obtain ⟨_, _, _, _, _, _, hinstallations, hintegrations, hspaces, hdevices, hobservations, hevents, hrepairs⟩ :=
    apply_stages h
  have hobserved := congrArg FoundationStore.events (upsertObservations_ok hobservations)
  rw [foldlM_sameEvents upsertRepair_events hrepairs, insertEvents_rows hevents, hobserved]
  dsimp only
  rw [foldlM_sameEvents upsertDevice_events hdevices, foldlM_sameEvents upsertSpace_events hspaces,
    foldlM_sameEvents upsertIntegration_events hintegrations,
    foldlM_sameEvents upsertInstallation_events hinstallations]

end FoundationStore

def sqliteDevices : DeviceRepository FoundationStore where
  apply := FoundationStore.apply
  device := FoundationStore.deviceRecord
  events := fun store => store.events.rows
  device_apply := fun h id => FoundationStore.deviceRecord_apply h id
  events_apply := fun h => FoundationStore.events_rows_apply h

namespace DeviceWorld

variable {ρ : Type} (R : DeviceRepository ρ)

def post (world : DeviceWorld ρ) (operation : String) (devices : List DeviceRecord) (events : List DomainEvent)
    (repairs : List RepairRecord) : Except ApplicationError (DeviceWorld ρ) :=
  match R.apply world.repository ⟨[], [], [], devices, [], events, repairs⟩ with
  | .error error => .error (.repository operation error)
  | .ok repository => .ok ⟨repository, devices.foldl Table.upsert world.registry⟩

def refresh (identities : DeviceIdentities) (ids : FreshIds) (world : DeviceWorld ρ)
    (candidates : List DiscoveryCandidate) : Except ApplicationError (DeviceWorld ρ) := do
  let outcome ← reconcile identities ids world.registry candidates
  world.post R "reconcile" outcome.devices outcome.events outcome.repairs

def publish (world : DeviceWorld ρ) (batch : LiveObservationBatch) : Except PublishError (DeviceWorld ρ) :=
  match RepositoryLiveObservationSink.publish R.apply (world.repository, some world.registry) batch with
  | .error error => .error error
  | .ok (repository, registry) => .ok ⟨repository, registry.getD world.registry⟩

def transitionFrom (device : DeviceRecord) (state : DeviceLifecycle) (trigger : LifecycleTrigger) :
    Except ApplicationError DeviceRecord :=
  if device.lifecycle = state then device.transition trigger else .ok device

def assess (policy : FreshnessPolicy) (now : Instant) (device : DeviceRecord) :
    Except ApplicationError (Option DeviceRecord) :=
  if device.lifecycle = .candidate ∨ device.lifecycle = .removed then .ok none
  else match device.freshnessAt policy now with
    | .unknown | .sleeping => .ok none
    | .fresh => do
      let device ← transitionFrom device .stale .rediscover
      .ok (some (device.becomes .online now none))
    | .stale => do
      let device ← transitionFrom device .enrolled .markStale
      .ok (some (device.becomes .degraded now (some "stale")))
    | .offline => do
      let device ← transitionFrom device .enrolled .markStale
      .ok (some (device.becomes .offline now (some "freshness_timeout")))

def tellAssessment (ids : FreshIds) (now : Instant) (events : List DomainEvent) (device assessed : DeviceRecord) :
    List DomainEvent :=
  let told :=
    if assessed.lifecycle = device.lifecycle then events
    else ids.tell events assessed.snapshot.id now (.lifecycleChanged device.lifecycle assessed.lifecycle
      (if assessed.lifecycle = .stale then .markStale else .rediscover))
  if assessed.availability.state = device.availability.state then told
  else ids.tell told assessed.snapshot.id now (.availabilityChanged device.availability.state
    assessed.availability.state assessed.availability.reason)

def evaluateRecord (ids : FreshIds) (policy : FreshnessPolicy) (now : Instant)
    (changes : List DeviceRecord × List DomainEvent) (device : DeviceRecord) :
    Except ApplicationError (List DeviceRecord × List DomainEvent) := do
  match ← assess policy now device with
  | none => .ok changes
  | some assessed =>
    .ok (if assessed.lifecycle = device.lifecycle ∧ assessed.availability.state = device.availability.state
      then changes.1 else changes.1 ++ [assessed], tellAssessment ids now changes.2 device assessed)

def evaluateFreshness (ids : FreshIds) (policy : FreshnessPolicy) (now : Instant) (world : DeviceWorld ρ) :
    Except ApplicationError (DeviceWorld ρ × ℕ) := do
  let (changed, events) ← (inIdOrder world.registry).foldlM (evaluateRecord ids policy now) ([], [])
  if changed = [] then .ok (world, 0)
  else do
    let world ← world.post R "freshness" changed events []
    .ok (world, changed.length)

def removeDevice (ids : FreshIds) (world : DeviceWorld ρ) (id : DeviceId) (now : Instant) :
    Except ApplicationError (DeviceWorld ρ) :=
  match world.registry.find id with
  | none => .error (.deviceNotFound id)
  | some record =>
    if record.lifecycle = .removed then .ok world
    else do
      let removed ← record.transition .remove
      let removed := removed.becomes .offline now (some "removed")
      let events := ids.tell (ids.tell [] id now (.lifecycleChanged record.lifecycle .removed .remove)) id now
        (.availabilityChanged record.availability.state .offline (some "removed"))
      world.post R "remove_device" [removed] events []

def spelled : List Char → ℕ
  | [] => 0
  | letter :: rest => Nat.pair letter.toNat (spelled rest) + 1

theorem spelled_injective : ∀ {a b : List Char}, spelled a = spelled b → a = b
  | [], [], _ => rfl
  | [], _ :: _, h => nomatch h
  | _ :: _, [], h => nomatch h
  | letter :: rest, letter' :: rest', h => by
    obtain ⟨hletter, hrest⟩ := Nat.pair_eq_pair.mp (Nat.succ.inj h)
    rw [Char.toNat_inj.mp hletter, spelled_injective hrest]

def plainIdentities : DeviceIdentities where
  fromIntegration := fun integration native => Nat.pair integration (spelled native.toList)
  injective := by
    intro integration integration' native native' h
    obtain ⟨hintegration, hnative⟩ := Nat.pair_eq_pair.mp h
    exact ⟨hintegration, String.toList_inj.mp (spelled_injective hnative)⟩

def plainIds (n : ℕ) : FreshIds := ⟨fun i => 10 * n + i, fun i => 10 * n + i, .fresh n⟩

def relayId : DeviceId := plainIdentities.fromIntegration 1 "r"

def relayCandidate : DiscoveryCandidate :=
  ⟨1, 1, ⟨relayId, "r", "Relay", [⟨"switch:0", none, [.onOff false .comfort]⟩], 0⟩, 0, []⟩

theorem minute_pos : (0 : ℤ) < 60 := by decide

theorem minute_lt : (60 : ℤ) < 120 := by decide

def minutePolicy : FreshnessPolicy := ⟨60, 120, minute_pos, minute_lt⟩

def relayOn (at_ : Instant) : SourcedObservation :=
  ⟨⟨relayId, "switch:0", ⟨"on_off", 1, .comfort⟩, [("on", ⟨.bool true, at_⟩)], at_⟩, ⟨1, .notification, none⟩⟩

theorem installations_nodup : ([1] : List InstallationId).Nodup := List.nodup_singleton _

def relayTables : FoundationStore :=
  { FoundationStore.empty with
    installations := ⟨[1], installations_nodup⟩
    integrations := ⟨[⟨1, 1, "shelly", "main"⟩], by decide⟩ }

end DeviceWorld

end HomeMagic
