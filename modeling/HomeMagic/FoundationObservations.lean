import HomeMagic.FoundationWrites

/-! Observations in the two repositories: the one in memory, and the tables, where an
observation hangs off the endpoint of its device. -/
namespace HomeMagic
open List Table

def SourcedObservation.memoryKey (observation : SourcedObservation) : EndpointKey × CapabilityDescriptor :=
  ((observation.deviceId, observation.endpointId), observation.capability)

structure MemoryState where
  installations : Table InstallationId InstallationId id
  integrations : Table IntegrationId IntegrationInstance IntegrationInstance.id
  spaces : Table SpaceId Space Space.id
  devices : Table DeviceId DeviceRecord (fun device => device.snapshot.id)
  repairs : Table RepairId RepairRecord RepairRecord.id
  observations : Table (EndpointKey × CapabilityDescriptor) SourcedObservation SourcedObservation.memoryKey
  events : List CursorEvent

namespace MemoryState

def empty : MemoryState := ⟨.empty, .empty, .empty, .empty, .empty, .empty, []⟩

def appendEvents (events : List CursorEvent) (incoming : List DomainEvent) : List CursorEvent :=
  events ++ incoming.mapIdx (fun offset event =>
    ⟨min ((events.getLast?.map CursorEvent.cursor).getD 0 + offset + 1) (2^64 - 1), event⟩)

def apply (state : MemoryState) (write : FoundationWrite) : MemoryState where
  installations := write.installations.foldl Table.upsert state.installations
  integrations := write.integrations.foldl Table.upsert state.integrations
  spaces := write.spaces.foldl Table.upsert state.spaces
  devices := write.devices.foldl Table.upsert state.devices
  repairs := write.repairs.foldl Table.upsert state.repairs
  observations := write.observations.foldl Table.upsert state.observations
  events := appendEvents state.events write.events

end MemoryState

namespace FoundationStore

open Fallible

variable {store store' : FoundationStore} {write : FoundationWrite}

theorem upsertObservations_ok {observations : List SourcedObservation}
    (h : observations.foldlM upsertObservation store = .ok store') :
    store' = { store with observations := observations.foldl Table.upsert store.observations } := by
  induction observations generalizing store with
  | nil =>
    cases h
    rfl
  | cons observation rest ih =>
    rw [foldlM_cons] at h
    obtain ⟨next, hnext, hrest⟩ := bind_inv h
    obtain ⟨-, rfl⟩ := upsertObservation_ok hnext
    exact ih hrest

theorem find_upsertDevice {device : DeviceRecord} (hconsistent : Consistent store)
    (h : store.upsertDevice device = .ok store') (key : CapabilityKey) :
    store'.observations.find key =
      if device.snapshot.id = key.1.1 then none else store.observations.find key := by
  rw [(upsertDevice_ok h).observations, find_filter]
  cases hfind : store.observations.find key with
  | none => simp
  | some observation =>
    obtain ⟨hmem, rfl⟩ := find_eq_some.mp hfind
    have howns := @ownsEndpoint_iff store device.snapshot.id _ (hconsistent.observations observation hmem)
    by_cases heq : device.snapshot.id = observation.deviceId
    · rw [Option.filter_some, if_neg, if_pos (show _ = observation.key.1.1 from heq)]
      simp [howns.mpr heq.symm]
    · rw [Option.filter_some, if_pos, if_neg (show ¬ _ = observation.key.1.1 from heq)]
      rw [Bool.not_eq_true', Bool.eq_false_iff]
      exact fun h => heq (howns.mp h).symm

theorem find_upsertDevices {devices : List DeviceRecord} (hconsistent : Consistent store)
    (h : devices.foldlM upsertDevice store = .ok store') (key : CapabilityKey) :
    store'.observations.find key =
      if ∃ device ∈ devices, device.snapshot.id = key.1.1 then none else store.observations.find key := by
  induction devices generalizing store with
  | nil =>
    cases h
    simp
  | cons device rest ih =>
    rw [foldlM_cons] at h
    obtain ⟨next, hnext, hrest⟩ := bind_inv h
    rw [ih (hconsistent.upsertDevice hnext) hrest, find_upsertDevice hconsistent hnext]
    simp only [mem_cons, exists_eq_or_imp]
    by_cases hfirst : device.snapshot.id = key.1.1 <;>
      by_cases hothers : ∃ device ∈ rest, device.snapshot.id = key.1.1 <;> simp [hfirst, hothers]

theorem foldlM_same {α : Type} {f : FoundationStore → α → Except StorageError FoundationStore}
    (hf : ∀ {s s' a}, f s a = .ok s' → SameDevices s s') {l : List α}
    (h : l.foldlM f store = .ok store') : SameDevices store store' :=
  foldlM_keeps (I := SameDevices store)
    (fun _ _ _ _ hstep hs => ⟨(hf hstep).devices.trans hs.devices, (hf hstep).endpoints.trans hs.endpoints,
      (hf hstep).capabilities.trans hs.capabilities, (hf hstep).observations.trans hs.observations,
      (hf hstep).projections.trans hs.projections⟩)
    h ⟨rfl, rfl, rfl, rfl, rfl⟩

theorem find_apply (hconsistent : Consistent store) (h : store.apply write = .ok store')
    (key : CapabilityKey) :
    store'.observations.find key =
      (write.observations.reverse.find? (fun observation => observation.key = key)).or
        (if ∃ device ∈ write.devices, device.snapshot.id = key.1.1 then none
          else store.observations.find key) := by
  obtain ⟨_, _, _, _, _, _, hinstallations, hintegrations, hspaces, hdevices, hobservations, hevents, hrepairs⟩ :=
    apply_stages h
  have hbefore : Consistent _ := (hconsistent.of_same (foldlM_same upsertInstallation_same hinstallations)).of_same
    (foldlM_same upsertIntegration_same hintegrations) |>.of_same (foldlM_same upsertSpace_same hspaces)
  rw [(foldlM_same upsertRepair_same hrepairs).observations, (foldlM_same insertEvent_same hevents).observations,
    upsertObservations_ok hobservations]
  dsimp only
  rw [find_foldl_upsert, find_upsertDevices hbefore hdevices,
    (foldlM_same upsertSpace_same hspaces).observations,
    (foldlM_same upsertIntegration_same hintegrations).observations,
    (foldlM_same upsertInstallation_same hinstallations).observations]

def endpointAfter (store : FoundationStore) (write : FoundationWrite) (key : EndpointKey) : Bool :=
  match write.devices.reverse.find? (fun device => device.snapshot.id == key.1) with
  | some device => device.snapshot.endpoints.any (fun endpoint => endpoint.id == key.2)
  | none => (store.endpoints.find key).isSome

structure Unmentioned (store : FoundationStore) (write : FoundationWrite)
    (observation : SourcedObservation) : Prop where
  stored : observation ∈ store.observations.rows
  absent : ∀ incoming ∈ write.observations, incoming.key ≠ observation.key
  endpoint : store.endpointAfter write (observation.deviceId, observation.endpointId) = true

def Keeps (store : FoundationStore) (write : FoundationWrite) (store' : FoundationStore) : Prop :=
  ∀ observation, Unmentioned store write observation →
    store'.observations.find observation.key = some observation

theorem find_of_absent (hconsistent : Consistent store) (h : store.apply write = .ok store')
    {key : CapabilityKey} (habsent : ∀ incoming ∈ write.observations, incoming.key ≠ key) :
    store'.observations.find key =
      if ∃ device ∈ write.devices, device.snapshot.id = key.1.1 then none
        else store.observations.find key := by
  have hnone : write.observations.reverse.find? (fun observation => observation.key = key) = none := by
    rw [List.find?_eq_none]
    intro incoming hincoming
    simpa using habsent incoming (mem_reverse.mp hincoming)
  rw [find_apply hconsistent h, hnone, Option.none_or]

theorem keeps_iff (hconsistent : Consistent store) (h : store.apply write = .ok store') :
    Keeps store write store' ↔ ∀ observation, Unmentioned store write observation →
      ∀ device ∈ write.devices, device.snapshot.id ≠ observation.deviceId := by
  constructor
  · intro hkeeps observation hobservation device hdevice heq
    have hfind := hkeeps observation hobservation
    rw [find_of_absent hconsistent h hobservation.absent, if_pos ⟨device, hdevice, heq⟩] at hfind
    cases hfind
  · intro hdevices observation hobservation
    rw [find_of_absent hconsistent h hobservation.absent, if_neg]
    · exact find_eq_some.mpr ⟨hobservation.stored, rfl⟩
    · rintro ⟨device, hdevice, heq⟩
      exact hdevices observation hobservation device hdevice heq

def Covers (store : FoundationStore) (write : FoundationWrite) : Prop :=
  ∀ observation ∈ store.observations.rows,
    (∃ device ∈ write.devices, device.snapshot.id = observation.deviceId) →
    ∃ incoming ∈ write.observations, incoming.key = observation.key

def CoversAll : FoundationStore → List FoundationWrite → Prop
  | _, [] => True
  | store, write :: rest => Covers store write ∧ ∀ next, store.apply write = .ok next → CoversAll next rest

def OneDescriptor (observations : List SourcedObservation) : Prop :=
  ∀ a ∈ observations, ∀ b ∈ observations, a.key = b.key → a.capability = b.capability

theorem OneDescriptor.memoryKey_iff {all : List SourcedObservation} (h : OneDescriptor all)
    {a b : SourcedObservation} (ha : a ∈ all) (hb : b ∈ all) :
    a.memoryKey = b.memoryKey ↔ a.key = b.key := by
  constructor
  · intro heq
    simp only [SourcedObservation.memoryKey, SourcedObservation.key, Prod.mk.injEq] at heq ⊢
    rw [heq.2]
    exact ⟨heq.1, rfl, rfl⟩
  · intro heq
    have hcapability := h a ha b hb heq
    simp only [SourcedObservation.memoryKey, SourcedObservation.key, Prod.mk.injEq] at heq ⊢
    exact ⟨heq.1, hcapability⟩

def SameObservations (store : FoundationStore) (memory : MemoryState) : Prop :=
  ∀ observation, observation ∈ store.observations.rows ↔ observation ∈ memory.observations.rows

/-- A write that covers what it touches keeps both repositories alike. -/
theorem SameObservations.apply {memory : MemoryState} {all : List SourcedObservation}
    (hsame : SameObservations store memory) (hconsistent : Consistent store)
    (h : store.apply write = .ok store') (hcovers : Covers store write) (hone : OneDescriptor all)
    (hstored : ∀ observation ∈ store.observations.rows, observation ∈ all)
    (hwritten : ∀ observation ∈ write.observations, observation ∈ all) :
    SameObservations store' (memory.apply write) ∧
      ∀ observation ∈ store'.observations.rows, observation ∈ all := by
  -- both sides hold the last observation written for a key, and the old one if there is none
  have hsql : ∀ observation, observation ∈ store'.observations.rows ↔
      (write.observations.reverse.find? (fun incoming => incoming.key = observation.key)).or
        (store.observations.find observation.key) = some observation := by
    intro observation
    rw [← show store'.observations.find observation.key = some observation ↔ _ from
      find_eq_some.trans (and_iff_left rfl), find_apply hconsistent h]
    cases hlast : write.observations.reverse.find? (fun incoming => incoming.key = observation.key) with
    | some last => simp
    | none =>
      rw [Option.none_or, Option.none_or]
      split
      next hdevice =>
        constructor
        · intro h
          cases h
        · intro hfind
          obtain ⟨incoming, hincoming, hkey⟩ := hcovers observation (find_eq_some.mp hfind).1 hdevice
          have hnot := List.find?_eq_none.mp hlast incoming (mem_reverse.mpr hincoming)
          simp [hkey] at hnot
      next => rfl
  have hmemory : ∀ observation, observation ∈ (memory.apply write).observations.rows ↔
      (write.observations.reverse.find? (fun incoming => incoming.memoryKey = observation.memoryKey)).or
        (memory.observations.find observation.memoryKey) = some observation := by
    intro observation
    rw [← show (memory.apply write).observations.find observation.memoryKey = some observation ↔ _ from
      find_eq_some.trans (and_iff_left rfl)]
    unfold MemoryState.apply
    dsimp only
    rw [find_foldl_upsert]
  have hlasts : ∀ observation ∈ all,
      write.observations.reverse.find? (fun incoming => incoming.memoryKey = observation.memoryKey) =
        write.observations.reverse.find? (fun incoming => incoming.key = observation.key) := by
    intro observation hall
    apply List.find?_congr
    intro incoming hincoming
    simp only [hone.memoryKey_iff (hwritten incoming (mem_reverse.mp hincoming)) hall]
  have hfinds : ∀ observation ∈ all,
      memory.observations.find observation.memoryKey = store.observations.find observation.key := by
    intro observation hall
    apply Option.ext
    intro row
    rw [find_eq_some, find_eq_some, ← hsame row]
    constructor
    · rintro ⟨hrow, hkey⟩
      exact ⟨hrow, (hone.memoryKey_iff (hstored row hrow) hall).mp hkey⟩
    · rintro ⟨hrow, hkey⟩
      exact ⟨hrow, (hone.memoryKey_iff (hstored row hrow) hall).mpr hkey⟩
  have hall' : ∀ observation ∈ store'.observations.rows, observation ∈ all := by
    intro observation hobservation
    rcases Option.or_eq_some_iff.mp ((hsql observation).mp hobservation) with hlast | ⟨-, hold⟩
    · exact hwritten observation (mem_reverse.mp (List.mem_of_find?_eq_some hlast))
    · exact hstored observation (find_eq_some.mp hold).1
  refine ⟨?_, hall'⟩
  intro observation
  constructor
  · intro hobservation
    have hmem := hall' observation hobservation
    rw [hmemory, hlasts observation hmem, hfinds observation hmem]
    exact (hsql observation).mp hobservation
  · intro hobservation
    have hmem : observation ∈ all := by
      rcases Option.or_eq_some_iff.mp ((hmemory observation).mp hobservation) with hlast | ⟨-, hold⟩
      · exact hwritten observation (mem_reverse.mp (List.mem_of_find?_eq_some hlast))
      · exact hstored observation ((hsame observation).mpr (find_eq_some.mp hold).1)
    rw [hsql, ← hlasts observation hmem, ← hfinds observation hmem]
    exact (hmemory observation).mp hobservation

theorem sameObservations_of_run {memory : MemoryState} {all : List SourcedObservation} {writes : List FoundationWrite}
    (hone : OneDescriptor all) (hwritten : ∀ write ∈ writes, ∀ observation ∈ write.observations, observation ∈ all)
    (hconsistent : Consistent store) (hsame : SameObservations store memory)
    (hstored : ∀ observation ∈ store.observations.rows, observation ∈ all)
    (h : writes.foldlM FoundationStore.apply store = .ok store') (hcovers : CoversAll store writes) :
    SameObservations store' (writes.foldl MemoryState.apply memory) := by
  induction writes generalizing store memory with
  | nil =>
    cases h
    exact hsame
  | cons write rest ih =>
    rw [foldlM_cons] at h
    obtain ⟨next, hnext, hrest⟩ := bind_inv h
    obtain ⟨hsame', hstored'⟩ := hsame.apply hconsistent hnext hcovers.1 hone hstored
      (hwritten write mem_cons_self)
    exact ih (fun other hother => hwritten other (mem_cons_of_mem write hother))
      (hconsistent.apply hnext) hsame' hstored' hrest (hcovers.2 next hnext)

/-- From every reachable state a successful write keeps what it does not mention exactly when it
writes no device with a stored observation of this kind; and along every run of writes that mention
the stored observations of the devices they write, the tables hold what the repository in memory
holds. -/
theorem observation_writes_keep_iff (store : FoundationStore) (writes : List FoundationWrite) :
    (∀ write store', Reachable store → FoundationStore.apply store write = .ok store' →
      (Keeps store write store' ↔ ∀ observation, Unmentioned store write observation →
        ∀ device ∈ write.devices, device.snapshot.id ≠ observation.deviceId)) ∧
    (writes.foldlM FoundationStore.apply FoundationStore.empty = .ok store →
      OneDescriptor (writes.flatMap FoundationWrite.observations) → CoversAll FoundationStore.empty writes →
      SameObservations store (writes.foldl MemoryState.apply MemoryState.empty)) := by
  refine ⟨fun write store' hreachable h => keeps_iff hreachable.consistent h, ?_⟩
  intro h hone hcovers
  refine sameObservations_of_run hone ?_ Consistent.empty (fun _ => Iff.rfl) (fun _ hmem => nomatch hmem) h hcovers
  intro write hwrite observation hobservation
  exact List.mem_flatMap.mpr ⟨write, hwrite, hobservation⟩

def hallObservation : SourcedObservation :=
  ⟨⟨1, "lock", ⟨"on_off", 1, .comfort⟩, [("on", ⟨.bool true, 0⟩)], 0⟩, ⟨1, .fullStatus, none⟩⟩

def observedHall : FoundationStore :=
  { hallStore with observations := ⟨[hallObservation], by decide⟩ }

theorem observedHall_reachable : Reachable observedHall :=
  .change hallStore_reachable (.apply ⟨[], [], [], [], [hallObservation], [], []⟩ rfl)

def cellarRecord : DeviceRecord :=
  { hallRecord with snapshot := ⟨2, "node-2", "Cellar", [⟨"lock", none, []⟩], 0⟩ }

def cellarObservation : SourcedObservation :=
  ⟨⟨2, "lock", ⟨"on_off", 1, .comfort⟩, [("on", ⟨.bool false, 0⟩)], 0⟩, ⟨1, .fullStatus, none⟩⟩

def cellarWrite : FoundationWrite :=
  ⟨[1], [⟨1, 1, "matter", "main"⟩], [], [hallRecord, cellarRecord], [hallObservation, cellarObservation], [], []⟩

def observedCellar : FoundationStore :=
  { observedHall with
    devices := ⟨[⟨1, 1, 1, "node-1", hallRecord⟩, ⟨2, 1, 1, "node-2", cellarRecord⟩], by decide⟩
    endpoints := ⟨[⟨1, "lock", none⟩, ⟨2, "lock", none⟩], by decide⟩
    observations := ⟨[hallObservation, cellarObservation], by decide⟩ }

def aliasWrite : FoundationWrite :=
  ⟨[], [], [], [renamedHall], [hallObservation], [], []⟩

/-- The observation of the other device is kept, and both repositories hold the two observations. -/
theorem alias_write_keeps : ∃ kept, observedCellar.apply aliasWrite = .ok kept ∧
    Unmentioned observedCellar aliasWrite cellarObservation ∧ Keeps observedCellar aliasWrite kept ∧
      SameObservations kept ([cellarWrite, aliasWrite].foldl MemoryState.apply MemoryState.empty) := by
  obtain ⟨kept, h⟩ : ∃ kept, observedCellar.apply aliasWrite = .ok kept := ⟨_, rfl⟩
  have hobserved : FoundationStore.empty.apply cellarWrite = .ok observedCellar := rfl
  have hrows : ∀ observation ∈ observedCellar.observations.rows,
      observation.deviceId = 2 ∨ observation = hallObservation := by decide
  refine ⟨kept, h, ⟨by decide, by decide, by decide⟩, ?_, ?_⟩
  · refine ((observation_writes_keep_iff observedCellar []).1 aliasWrite kept
      (.change .empty (.apply cellarWrite hobserved)) h).mpr ?_
    intro observation hunmentioned device hdevice hid
    rw [List.mem_singleton.mp hdevice] at hid
    rcases hrows observation hunmentioned.stored with hcellar | rfl
    · rw [hcellar] at hid
      cases hid
    · exact hunmentioned.absent hallObservation (List.mem_singleton.mpr rfl) rfl
  · apply (observation_writes_keep_iff kept [cellarWrite, aliasWrite]).2
    · rw [List.foldlM_cons, hobserved]
      exact (bind_pure _).trans h
    · unfold OneDescriptor
      decide
    · refine ⟨fun _ h => (nomatch h), fun next hnext => ⟨?_, fun _ _ => trivial⟩⟩
      cases hobserved.symm.trans hnext
      rintro observation hobservation ⟨device, hdevice, hid⟩
      rw [List.mem_singleton.mp hdevice] at hid
      rcases hrows observation hobservation with hcellar | rfl
      · rw [hcellar] at hid
        cases hid
      · exact ⟨hallObservation, List.mem_singleton.mpr rfl, rfl⟩

/-- A new alias for a device erases its observation. -/
theorem alias_write_drops_observation :
    Reachable observedHall ∧ ∃ store', observedHall.apply ⟨[], [], [], [renamedHall], [], [], []⟩ = .ok store' ∧
      store'.observations.find hallObservation.key = none ∧
      ¬ Keeps observedHall ⟨[], [], [], [renamedHall], [], [], []⟩ store' := by
  obtain ⟨store', h⟩ : ∃ store', observedHall.apply ⟨[], [], [], [renamedHall], [], [], []⟩ = .ok store' :=
    ⟨_, rfl⟩
  have hnone : store'.observations.find hallObservation.key = none := by
    rw [find_of_absent observedHall_reachable.consistent h (fun _ hmem => nomatch hmem), if_pos]
    exact ⟨renamedHall, List.mem_singleton.mpr rfl, rfl⟩
  refine ⟨observedHall_reachable, store', h, hnone, ?_⟩
  intro hkeeps
  have hsome := hkeeps hallObservation ⟨List.mem_singleton.mpr rfl, fun _ hmem => (nomatch hmem), rfl⟩
  rw [hnone] at hsome
  cases hsome

end FoundationStore
end HomeMagic
