import HomeMagic.CommandService
import HomeMagic.Fallible
import HomeMagic.MatterOperation

/-! The deterministic Matter simulator, as far as commands, reads and reports go, and the
way from a command's payload to the state that a projection reads back. -/
namespace HomeMagic
open Option

inductive MatterControllerCommand
  | setOnOff (on : Bool)
  | setLevelPercent (percent : ℕ)
  | setPositionPercent (percent : ℕ)
  | stop
  | setLock (state : MatterLockState)
  deriving DecidableEq

structure MatterInvokeRequest where
  fabricId : MatterFabricId
  nodeId : MatterNodeId
  endpoint : MatterEndpointNumber
  projectionId : MatterProjectionId
  desiredRevision : ℕ
  command : MatterControllerCommand
  deriving DecidableEq

structure MatterReadRequest where
  fabricId : MatterFabricId
  nodeId : MatterNodeId
  paths : List MatterAttributePath
  deriving DecidableEq

def mapCommand : CommandPayload → Except CommandErrorCode MatterControllerCommand
  | .onOff (.set on) => .ok (.setOnOff on)
  | .accessControl .lock => .ok (.setLock .locked)
  | .accessControl .unlock => .ok (.setLock .unlocked)
  | _ => .error .capabilityMismatch

def expectedState : CommandPayload → Option MatterStateValue
  | .onOff (.set on) => some (.onOff on)
  | .accessControl .lock => some (.lock .locked)
  | .accessControl .unlock => some (.lock .unlocked)
  | _ => none

def MatterControllerCommand.asks : MatterControllerCommand → Option MatterStateValue
  | setOnOff on => some (.onOff on)
  | setLevelPercent percent => some (.levelPercent percent)
  | setPositionPercent percent => some (.positionPercent percent)
  | stop => none
  | setLock state => some (.lock state)

theorem mapCommand_asks {payload : CommandPayload} {command : MatterControllerCommand}
    (h : mapCommand payload = .ok command) :
    expectedState payload = command.asks ∧
      MatterCommandDispatchControl.desiredValue payload = command.asks := by
  unfold mapCommand at h
  split at h <;> cases h <;> exact ⟨rfl, rfl⟩

def onOffClusterId : ℕ := 0x0006
def onOffAttributeId : ℕ := 0x0000
def doorLockClusterId : ℕ := 0x0101
def doorLockStateAttributeId : ℕ := 0x0000

inductive SimulatorFixture
  | lightV1 | doorLockV1
  deriving DecidableEq

structure SimulatorAttribute where
  path : MatterAttributePath
  value : MatterAttributeValue
  dataVersion : ℕ
  deriving DecidableEq

structure SimulatorNode where
  fixture : SimulatorFixture
  nodeId : MatterNodeId
  attributes : List SimulatorAttribute
  deriving DecidableEq

structure SimulatorFabric where
  id : MatterFabricId
  nodes : List SimulatorNode
  deriving DecidableEq

structure SimulatorSubscription where
  id : MatterSubscriptionId
  fabricId : MatterFabricId
  nodeId : MatterNodeId
  paths : List MatterAttributePath
  deriving DecidableEq

structure ScheduledReport where
  deliverAt : Instant
  order : ℕ
  fabricId : MatterFabricId
  report : MatterAttributeReport
  deriving DecidableEq

inductive SimulatorOperation
  | read | invoke | eventsAfter
  deriving DecidableEq

inductive SimulatorReportFault
  | drop | duplicate | outOfOrder
  | delay (value : ℤ)
  deriving DecidableEq

inductive SimulatorFault
  | failNext (operation : SimulatorOperation) (error : MatterControllerError)
  | report (fault : SimulatorReportFault)
  | subscriptionLoss (reason : MatterSubscriptionLossReason)
  deriving DecidableEq

structure SimulatorState where
  fabrics : List SimulatorFabric
  subscriptions : List SimulatorSubscription
  events : List MatterControllerEvent
  pendingReports : List ScheduledReport
  nextReportSequence : ℕ
  nextScheduleOrder : ℕ
  faults : List SimulatorFault
  deriving DecidableEq

namespace SimulatorFixture

def nodeId : SimulatorFixture → MatterNodeId
  | lightV1 => 0x1001
  | doorLockV1 => 0x2001

def path (fixture : SimulatorFixture) : MatterAttributePath where
  nodeId := fixture.nodeId
  endpoint := 1
  clusterId := match fixture with
    | lightV1 => onOffClusterId
    | doorLockV1 => doorLockClusterId
  attributeId := 0

def initialValue : SimulatorFixture → MatterAttributeValue
  | lightV1 => .boolean false
  | doorLockV1 => .unsigned 1

def materialize (fixture : SimulatorFixture) : SimulatorNode :=
  ⟨fixture, fixture.nodeId, [⟨fixture.path, fixture.initialValue, 1⟩]⟩

def rule : SimulatorFixture → MatterProjectionRule
  | lightV1 => .onOffV1
  | doorLockV1 => .accessControlV1

end SimulatorFixture

def updateFirst {α : Type} (p : α → Bool) (f : α → α) : List α → List α
  | [] => []
  | a :: rest => if p a then f a :: rest else a :: updateFirst p f rest

variable {state : SimulatorState} {fabricId : MatterFabricId} {fixture : SimulatorFixture} {now : Instant}
  {raw : MatterAttributeValue} {request : MatterInvokeRequest} {α : Type}

theorem find?_updateFirst {κ : Type} [DecidableEq κ] (key : α → κ) {f : α → α} (hf : ∀ a, key (f a) = key a)
    (k k' : κ) (l : List α) :
    (updateFirst (fun a => key a == k) f l).find? (fun a => key a == k') =
      if k' = k then (l.find? (fun a => key a == k')).map f else l.find? (fun a => key a == k') := by
  induction l with
  | nil => simp [updateFirst]
  | cons a rest ih =>
    unfold updateFirst
    by_cases ha : key a = k
    · rw [if_pos (by simpa using ha)]
      by_cases hk : k' = k
      · subst hk
        simp [hf, ha]
      · simp [hf, ha, hk, Ne.symm hk]
    · rw [if_neg (by simpa using ha)]
      by_cases ha' : key a = k'
      · have hk : k' ≠ k := fun h => ha (ha'.trans h)
        simp [ha', hk]
      · rw [List.find?_cons_of_neg (by simpa using ha'), ih, List.find?_cons_of_neg (by simpa using ha')]

def SimulatorNode.setAttribute (node : SimulatorNode) (path : MatterAttributePath)
    (value : MatterAttributeValue) (dataVersion : ℕ) : SimulatorNode :=
  { node with
    attributes := updateFirst (fun entry => entry.path == path)
      (fun entry => { entry with value := value, dataVersion := dataVersion }) node.attributes }

def SimulatorFabric.setAttribute (fabric : SimulatorFabric) (path : MatterAttributePath)
    (value : MatterAttributeValue) (dataVersion : ℕ) : SimulatorFabric :=
  { fabric with
    nodes := updateFirst (fun node => node.nodeId == path.nodeId)
      (fun node => node.setAttribute path value dataVersion) fabric.nodes }

namespace SimulatorState

def fabric (state : SimulatorState) (fabricId : MatterFabricId) : Option SimulatorFabric :=
  state.fabrics.find? (fun fabric => fabric.id == fabricId)

def node (state : SimulatorState) (fabricId : MatterFabricId) (nodeId : MatterNodeId) :
    Option SimulatorNode :=
  (state.fabric fabricId).bind (fun fabric => fabric.nodes.find? (fun node => node.nodeId == nodeId))

def attributeAt (state : SimulatorState) (fabricId : MatterFabricId) (path : MatterAttributePath) :
    Option SimulatorAttribute :=
  (state.node fabricId path.nodeId).bind (fun node =>
    node.attributes.find? (fun entry => entry.path == path))

def setAttribute (state : SimulatorState) (fabricId : MatterFabricId) (path : MatterAttributePath)
    (value : MatterAttributeValue) (dataVersion : ℕ) : SimulatorState :=
  { state with
    fabrics := updateFirst (fun fabric => fabric.id == fabricId)
      (fun fabric => fabric.setAttribute path value dataVersion) state.fabrics }

theorem attributeAt_setAttribute (state : SimulatorState) (fabricId fabricId' : MatterFabricId)
    (path path' : MatterAttributePath) (value : MatterAttributeValue) (dataVersion : ℕ) :
    (state.setAttribute fabricId path value dataVersion).attributeAt fabricId' path' =
      if fabricId' = fabricId ∧ path' = path then
        (state.attributeAt fabricId' path').map (fun entry =>
          { entry with value := value, dataVersion := dataVersion })
      else state.attributeAt fabricId' path' := by
  unfold attributeAt node fabric setAttribute
  dsimp only
  rw [find?_updateFirst SimulatorFabric.id (f := fun fabric => fabric.setAttribute path value dataVersion) (fun _ => rfl)]
  by_cases hfabric : fabricId' = fabricId
  · rw [if_pos hfabric]
    cases state.fabrics.find? (fun fabric => fabric.id == fabricId') with
    | none => simp
    | some fabric =>
      simp only [map_some, bind_some, SimulatorFabric.setAttribute]
      rw [find?_updateFirst SimulatorNode.nodeId (f := fun node => node.setAttribute path value dataVersion) (fun _ => rfl)]
      by_cases hnode : path'.nodeId = path.nodeId
      · rw [if_pos hnode]
        cases fabric.nodes.find? (fun node => node.nodeId == path'.nodeId) with
        | none => simp
        | some node =>
          simp only [map_some, bind_some, SimulatorNode.setAttribute]
          rw [find?_updateFirst SimulatorAttribute.path
            (f := fun entry => { entry with value := value, dataVersion := dataVersion })
            (fun _ => rfl)]
          simp [hfabric]
      · have hpath : path' ≠ path := fun h => hnode (by rw [h])
        simp [hnode, hpath]
  · rw [if_neg hfabric, if_neg (fun h => hfabric h.1)]

end SimulatorState

def fabricNotFound (fabricId : MatterFabricId) : MatterControllerError :=
  ⟨.notFound, .fabricNotFound, .never, some (.fabric fabricId), none⟩

def nodeNotFound (fabricId : MatterFabricId) (nodeId : MatterNodeId) : MatterControllerError :=
  ⟨.notFound, .nodeNotFound, .never, some (.node fabricId nodeId), none⟩

def invalidInvoke (request : MatterInvokeRequest) : MatterControllerError :=
  ⟨.validation, .invalidRequest, .never,
    some (.endpoint request.fabricId request.nodeId request.endpoint), none⟩

def internalError : MatterControllerError :=
  ⟨.internal, .internalInvariant, .never, some .controller, some .updateControllerAdapter⟩

def invokedAttribute : MatterControllerCommand → Option (ℕ × ℕ × MatterAttributeValue)
  | .setOnOff on => some (onOffClusterId, onOffAttributeId, .boolean on)
  | .setLock .locked => some (doorLockClusterId, doorLockStateAttributeId, .unsigned 1)
  | .setLock .unlocked => some (doorLockClusterId, doorLockStateAttributeId, .unsigned 2)
  | _ => none

variable {allowed : MatterFabricId → MatterAttributeReport → Prop}

namespace SimulatorState

def failIfScripted (state : SimulatorState) (operation : SimulatorOperation) :
    Option MatterControllerError × SimulatorState :=
  let matching := fun fault : SimulatorFault => match fault with
    | .failNext item _ => item == operation
    | _ => false
  match state.faults.find? matching with
  | some (.failNext _ error) => (some error, { state with faults := state.faults.eraseP matching })
  | _ => (none, state)

def mutateForInvoke (state : SimulatorState) (request : MatterInvokeRequest) (now : Instant)
    (reportSequence : ℕ) : Except MatterControllerError MatterAttributeReport × SimulatorState :=
  match state.fabric request.fabricId with
  | none => (.error (fabricNotFound request.fabricId), state)
  | some _ =>
    match state.node request.fabricId request.nodeId with
    | none => (.error (nodeNotFound request.fabricId request.nodeId), state)
    | some _ =>
      match invokedAttribute request.command with
      | none => (.error (invalidInvoke request), state)
      | some (clusterId, attributeId, value) =>
        let path : MatterAttributePath := ⟨request.nodeId, request.endpoint, clusterId, attributeId⟩
        match state.attributeAt request.fabricId path with
        | none => (.error (invalidInvoke request), state)
        | some entry =>
          -- the value is written before the version is checked
          if 2^32 ≤ entry.dataVersion + 1 then
            (.error internalError,
              state.setAttribute request.fabricId path value entry.dataVersion)
          else
            (.ok ⟨path, value, some (UInt32.ofNat (entry.dataVersion + 1)), reportSequence, now⟩,
              state.setAttribute request.fabricId path value (entry.dataVersion + 1))

def emitEvent (state : SimulatorState) (fabricId : MatterFabricId) (occurredAt : Instant)
    (kind : MatterControllerEventKind) : SimulatorState :=
  { state with events := state.events ++
      [⟨(fabricId, min (state.events.length + 1) (2^64 - 1)), occurredAt, kind⟩] }

def reportDelay : Option SimulatorReportFault → ℤ
  | some (.delay value) => if 0 < value then value else 0
  | some .outOfOrder => nanosPerMilli
  | _ => 0

def scheduleReport (state : SimulatorState) (fabricId : MatterFabricId) (report : MatterAttributeReport)
    (fault : Option SimulatorReportFault) (now : Instant) : SimulatorState :=
  if fault = some .drop then state
  else
    let copies := if fault = some .duplicate then 2 else 1
    (List.range copies).foldl (fun state _ =>
      let order := min (state.nextScheduleOrder + 1) (2^64 - 1)
      { state with
        nextScheduleOrder := order
        pendingReports := state.pendingReports ++
          [⟨now + reportDelay fault, order, fabricId, report⟩] }) state

def flushDueReports (state : SimulatorState) (now : Instant) : SimulatorState :=
  let sorted := state.pendingReports.insertionSort (fun a b =>
    toLex (a.deliverAt, a.order) ≤ toLex (b.deliverAt, b.order))
  (sorted.filter (fun scheduled => decide (scheduled.deliverAt ≤ now))).foldl (fun state scheduled =>
    state.emitEvent scheduled.fabricId scheduled.deliverAt
      (.attributeReport scheduled.fabricId scheduled.report))
    { state with pendingReports := sorted.filter (fun scheduled => decide (now < scheduled.deliverAt)) }

def loseSubscriptions (state : SimulatorState) (now : Instant) (reason : MatterSubscriptionLossReason) :
    SimulatorState :=
  state.subscriptions.foldl (fun state subscription =>
    state.emitEvent subscription.fabricId now (.subscriptionLost subscription.id reason))
    { state with subscriptions := [] }

def takeReportFault (state : SimulatorState) : Option SimulatorReportFault × SimulatorState :=
  let matching := fun fault : SimulatorFault => match fault with
    | .report _ => true
    | _ => false
  match state.faults.find? matching with
  | some (.report fault) => (some fault, { state with faults := state.faults.eraseP matching })
  | _ => (none, state)

def takeSubscriptionLoss (state : SimulatorState) :
    Option MatterSubscriptionLossReason × SimulatorState :=
  let matching := fun fault : SimulatorFault => match fault with
    | .subscriptionLoss _ => true
    | _ => false
  match state.faults.find? matching with
  | some (.subscriptionLoss reason) =>
    (some reason, { state with faults := state.faults.eraseP matching })
  | _ => (none, state)

def reportInvocation (state : SimulatorState) (request : MatterInvokeRequest)
    (report : MatterAttributeReport) (now : Instant) : SimulatorState :=
  let (fault, state) := state.takeReportFault
  let (loss, state) := state.takeSubscriptionLoss
  match loss with
  | some reason => state.loseSubscriptions now reason
  | none => (state.scheduleReport request.fabricId report fault now).flushDueReports now

def invoke (state : SimulatorState) (request : MatterInvokeRequest) (now : Instant) :
    Except MatterControllerError MatterAttributeReport × SimulatorState :=
  match state.failIfScripted .invoke with
  | (some error, state) => (.error error, state)
  | (none, state) =>
    if 2^64 ≤ state.nextReportSequence + 1 then (.error internalError, state)
    else
      let reportSequence := state.nextReportSequence + 1
      match mutateForInvoke { state with nextReportSequence := reportSequence } request now
          reportSequence with
      | (.error error, state) => (.error error, state)
      | (.ok report, state) => (.ok report, state.reportInvocation request report now)

def readReports (state : SimulatorState) (request : MatterReadRequest) (now : Instant) :
    Except MatterControllerError (List MatterAttributeReport) :=
  match state.fabric request.fabricId with
  | none => .error (fabricNotFound request.fabricId)
  | some _ =>
    match state.node request.fabricId request.nodeId with
    | none => .error (nodeNotFound request.fabricId request.nodeId)
    | some node =>
      request.paths.mapM (fun path =>
        match node.attributes.find? (fun entry => entry.path == path) with
        | some entry => .ok ⟨path, entry.value, some (UInt32.ofNat entry.dataVersion),
            state.nextReportSequence, now⟩
        | none => .error (nodeNotFound request.fabricId request.nodeId))

def read (state : SimulatorState) (request : MatterReadRequest) (now : Instant) :
    Except MatterControllerError (List MatterAttributeReport) × SimulatorState :=
  match state.failIfScripted .read with
  | (some error, state) => (.error error, state)
  | (none, state) =>
    match state.readReports request now with
    | .error error => (.error error, state)
    | .ok reports =>
      if 256 < reports.length then (.error internalError, state) else (.ok reports, state)

def Logged (state : SimulatorState) (fabricId : MatterFabricId) (report : MatterAttributeReport) : Prop :=
  (∃ event ∈ state.events, event.kind = .attributeReport fabricId report) ∨
    ∃ scheduled ∈ state.pendingReports, scheduled.fabricId = fabricId ∧ scheduled.report = report

def SameNodes (state state' : SimulatorState) : Prop :=
  state'.fabrics = state.fabrics

theorem SameNodes.attributeAt {state' : SimulatorState} (h : SameNodes state state') (fabricId : MatterFabricId)
    (path : MatterAttributePath) :
    state'.attributeAt fabricId path = state.attributeAt fabricId path := by
  unfold SimulatorState.attributeAt SimulatorState.node SimulatorState.fabric
  rw [show state'.fabrics = state.fabrics from h]

theorem failIfScripted_state (state : SimulatorState) (operation : SimulatorOperation) :
    ∃ faults, (state.failIfScripted operation).2 = { state with faults := faults } := by
  unfold failIfScripted
  dsimp only
  split
  · exact ⟨_, rfl⟩
  · exact ⟨state.faults, rfl⟩

theorem takeReportFault_state (state : SimulatorState) :
    ∃ faults, state.takeReportFault.2 = { state with faults := faults } := by
  unfold takeReportFault
  dsimp only
  split
  · exact ⟨_, rfl⟩
  · exact ⟨state.faults, rfl⟩

theorem takeSubscriptionLoss_state (state : SimulatorState) :
    ∃ faults, state.takeSubscriptionLoss.2 = { state with faults := faults } := by
  unfold takeSubscriptionLoss
  dsimp only
  split
  · exact ⟨_, rfl⟩
  · exact ⟨state.faults, rfl⟩

structure LogsOnly (allowed : MatterFabricId → MatterAttributeReport → Prop)
    (state state' : SimulatorState) : Prop where
  same : SameNodes state state'
  logged : ∀ fabricId report, state'.Logged fabricId report →
    state.Logged fabricId report ∨ allowed fabricId report

namespace LogsOnly

variable {allowed : MatterFabricId → MatterAttributeReport → Prop} {s t u : SimulatorState}

theorem refl (s : SimulatorState) : LogsOnly allowed s s :=
  ⟨rfl, fun _ _ h => Or.inl h⟩

theorem trans (hst : LogsOnly allowed s t) (htu : LogsOnly allowed t u) : LogsOnly allowed s u where
  same := Eq.trans htu.same hst.same
  logged := by
    intro fabricId report h
    rcases htu.logged _ _ h with h | h
    · exact hst.logged _ _ h
    · exact Or.inr h

theorem foldl {f : SimulatorState → α → SimulatorState} {l : List α} (hf : ∀ s, ∀ a ∈ l, LogsOnly allowed s (f s a))
    (s : SimulatorState) :
    LogsOnly allowed s (l.foldl f s) := by
  induction l generalizing s with
  | nil => exact refl s
  | cons a rest ih =>
    rw [List.foldl_cons]
    apply trans (hf s a List.mem_cons_self)
    exact ih (fun s b hb => hf s b (List.mem_cons_of_mem a hb)) (f s a)

theorem absorb (h : LogsOnly (fun fabricId report => s.Logged fabricId report ∨ allowed fabricId report) s t) :
    LogsOnly allowed s t where
  same := h.same
  logged := by
    intro fabricId report hlogged
    rcases h.logged _ _ hlogged with hold | hold | hnew
    · exact Or.inl hold
    · exact Or.inl hold
    · exact Or.inr hnew

theorem of_faults {faults : List SimulatorFault} (h : t = { s with faults := faults }) :
    LogsOnly allowed s t := by
  subst h
  exact ⟨rfl, fun _ _ h => Or.inl h⟩

theorem emitEvent {occurredAt : Instant} {kind : MatterControllerEventKind}
    (hkind : ∀ fabricId report, kind = .attributeReport fabricId report → allowed fabricId report) :
    LogsOnly allowed s (s.emitEvent fabricId occurredAt kind) where
  same := rfl
  logged := by
    rintro fabricId report (⟨event, hevent, heq⟩ | hpending)
    · rcases List.mem_append.mp hevent with hold | hnew
      · exact Or.inl (Or.inl ⟨event, hold, heq⟩)
      · rw [List.mem_singleton.mp hnew] at heq
        exact Or.inr (hkind fabricId report heq)
    · exact Or.inl (Or.inr hpending)

end LogsOnly

theorem scheduleReport_logsOnly (state : SimulatorState) (fabricId : MatterFabricId)
    (report : MatterAttributeReport) (fault : Option SimulatorReportFault) (now : Instant) :
    LogsOnly (fun fabricId' report' => fabricId' = fabricId ∧ report' = report) state
      (state.scheduleReport fabricId report fault now) := by
  unfold scheduleReport
  split
  · exact LogsOnly.refl state
  · apply LogsOnly.foldl
    intro s _ _
    refine ⟨rfl, ?_⟩
    rintro fabricId' report' (hevent | ⟨scheduled, hscheduled, hfabric, hreport⟩)
    · exact Or.inl (Or.inl hevent)
    · rcases List.mem_append.mp hscheduled with hold | hnew
      · exact Or.inl (Or.inr ⟨scheduled, hold, hfabric, hreport⟩)
      · rw [List.mem_singleton.mp hnew] at hfabric hreport
        exact Or.inr ⟨hfabric.symm, hreport.symm⟩

theorem flushDueReports_logsOnly
    (state : SimulatorState) (now : Instant) : LogsOnly allowed state (state.flushDueReports now) := by
  apply LogsOnly.absorb
  unfold flushDueReports
  dsimp only
  have hsorted : ∀ scheduled ∈ state.pendingReports.insertionSort (fun a b =>
      toLex (a.deliverAt, a.order) ≤ toLex (b.deliverAt, b.order)), scheduled ∈ state.pendingReports :=
    fun _ h => (List.mem_insertionSort _).mp h
  refine LogsOnly.trans ?_ (LogsOnly.foldl ?_ _)
  · refine ⟨rfl, ?_⟩
    rintro fabricId report (hevent | ⟨scheduled, hscheduled, hwaiting⟩)
    · exact Or.inl (Or.inl hevent)
    · exact Or.inl (Or.inr ⟨scheduled, hsorted _ (List.mem_filter.mp hscheduled).1, hwaiting⟩)
  · intro s scheduled hscheduled
    apply LogsOnly.emitEvent
    rintro fabricId report ⟨⟩
    exact Or.inl (Or.inr ⟨scheduled, hsorted _ (List.mem_filter.mp hscheduled).1, rfl, rfl⟩)

theorem loseSubscriptions_logsOnly
    (state : SimulatorState) (now : Instant) (reason : MatterSubscriptionLossReason) :
    LogsOnly allowed state (state.loseSubscriptions now reason) := by
  unfold loseSubscriptions
  refine LogsOnly.trans (t := { state with subscriptions := [] }) ⟨rfl, fun _ _ h => Or.inl h⟩
    (LogsOnly.foldl ?_ _)
  intro s subscription _
  exact LogsOnly.emitEvent (fun _ _ h => nomatch h)

theorem reportInvocation_logsOnly (state : SimulatorState) (request : MatterInvokeRequest)
    (report : MatterAttributeReport) (now : Instant) :
    LogsOnly (fun fabricId report' => fabricId = request.fabricId ∧ report' = report) state
      (state.reportInvocation request report now) := by
  obtain ⟨_, hfault⟩ := state.takeReportFault_state
  obtain ⟨_, hloss⟩ := state.takeReportFault.2.takeSubscriptionLoss_state
  apply LogsOnly.trans (LogsOnly.of_faults hfault)
  apply LogsOnly.trans (LogsOnly.of_faults hloss)
  unfold reportInvocation
  dsimp only
  split
  · exact loseSubscriptions_logsOnly _ _ _
  · exact LogsOnly.trans (scheduleReport_logsOnly _ _ _ _ _) (flushDueReports_logsOnly _ _)

def invokedWrite (request : MatterInvokeRequest) : Option (MatterAttributePath × MatterAttributeValue) :=
  (invokedAttribute request.command).map (fun written =>
    (⟨request.nodeId, request.endpoint, written.1, written.2.1⟩, written.2.2))

/-- The request gets as far as writing the attribute: no failure is scripted, a report sequence
is left, and the node has the attribute that the command writes. -/
def Reaches (state : SimulatorState) (request : MatterInvokeRequest) (fabricId : MatterFabricId)
    (path : MatterAttributePath) : Prop :=
  (state.failIfScripted .invoke).1 = none ∧ state.nextReportSequence + 1 < 2^64 ∧
    request.fabricId = fabricId ∧ (invokedWrite request).map Prod.fst = some path ∧
    (state.attributeAt fabricId path).isSome

instance (state : SimulatorState) (request : MatterInvokeRequest) (fabricId : MatterFabricId)
    (path : MatterAttributePath) : Decidable (state.Reaches request fabricId path) :=
  inferInstanceAs (Decidable (_ ∧ _))

/-- An invocation is refused with the state unchanged, or writes one attribute and reports it. -/
theorem mutateForInvoke_cases (state : SimulatorState) (request : MatterInvokeRequest) (now : Instant)
    (reportSequence : ℕ) :
    ((∃ error, state.mutateForInvoke request now reportSequence = (.error error, state)) ∧
      ∀ path, (invokedWrite request).map Prod.fst = some path →
        state.attributeAt request.fabricId path = none) ∨
    ∃ path value dataVersion result, invokedWrite request = some (path, value) ∧
      (state.attributeAt request.fabricId path).isSome ∧
      state.mutateForInvoke request now reportSequence =
        (result, state.setAttribute request.fabricId path value dataVersion) ∧
      ∀ report, result = .ok report → report.path = path ∧ report.value = value := by
  have hpath : ∀ path, (invokedWrite request).map Prod.fst = some path → path.nodeId = request.nodeId := by
    intro path h
    unfold invokedWrite at h
    cases hwritten : invokedAttribute request.command with
    | none => simp [hwritten] at h
    | some written =>
      simp only [hwritten, map_some, Option.some.injEq] at h
      rw [← h]
  unfold mutateForInvoke
  cases hfabric : state.fabric request.fabricId with
  | none =>
    refine Or.inl ⟨⟨_, rfl⟩, ?_⟩
    intro path _
    simp [attributeAt, node, hfabric]
  | some fabric =>
    dsimp only
    cases hnode : state.node request.fabricId request.nodeId with
    | none =>
      refine Or.inl ⟨⟨_, rfl⟩, ?_⟩
      intro path h
      simp [attributeAt, hpath path h, hnode]
    | some node =>
      dsimp only
      cases hwritten : invokedAttribute request.command with
      | none => exact Or.inl ⟨⟨_, rfl⟩, fun path h => by simp [invokedWrite, hwritten] at h⟩
      | some written =>
        dsimp only
        cases hentry : state.attributeAt request.fabricId
            ⟨request.nodeId, request.endpoint, written.1, written.2.1⟩ with
        | none =>
          refine Or.inl ⟨⟨_, rfl⟩, ?_⟩
          intro path h
          simp only [invokedWrite, hwritten, map_some, Option.some.injEq] at h
          rw [← h, hentry]
        | some entry =>
          refine Or.inr ⟨⟨request.nodeId, request.endpoint, written.1, written.2.1⟩, written.2.2, ?_⟩
          dsimp only
          split
          · exact ⟨_, _, by simp [invokedWrite, hwritten], by simp [hentry], rfl, fun _ h => nomatch h⟩
          · refine ⟨_, _, by simp [invokedWrite, hwritten], by simp [hentry], rfl, ?_⟩
            rintro report ⟨⟩
            exact ⟨rfl, rfl⟩

theorem LogsOnly.mono {allowed' : MatterFabricId → MatterAttributeReport → Prop}
    {s t : SimulatorState} (h : LogsOnly allowed s t)
    (himp : ∀ fabricId report, allowed fabricId report → allowed' fabricId report) : LogsOnly allowed' s t where
  same := h.same
  logged := fun fabricId report hlogged => (h.logged fabricId report hlogged).imp_right (himp _ _)

/-- What an invocation logs: nothing, or reports of the attribute it has written. -/
theorem invoke_cases (state : SimulatorState) (request : MatterInvokeRequest) (now : Instant) :
    (LogsOnly (fun _ _ => False) state (state.invoke request now).2 ∧
      ∀ fabricId path, ¬ state.Reaches request fabricId path) ∨
    ∃ path value dataVersion, state.Reaches request request.fabricId path ∧
      invokedWrite request = some (path, value) ∧
      LogsOnly (fun fabricId report => fabricId = request.fabricId ∧ report.path = path ∧ report.value = value)
        (state.setAttribute request.fabricId path value dataVersion) (state.invoke request now).2 := by
  obtain ⟨faults, hfaults⟩ := state.failIfScripted_state .invoke
  unfold invoke Reaches
  rcases hscripted : state.failIfScripted .invoke with ⟨failure, after⟩
  rw [hscripted] at hfaults
  subst hfaults
  cases failure with
  | some error => exact Or.inl ⟨LogsOnly.of_faults rfl, fun _ _ h => nomatch h.1⟩
  | none =>
    dsimp only
    by_cases hsequence : 2^64 ≤ state.nextReportSequence + 1
    · rw [if_pos hsequence]
      exact Or.inl ⟨LogsOnly.of_faults rfl, fun _ _ h => absurd h.2.1 (not_lt.mpr hsequence)⟩
    · rw [if_neg hsequence]
      rcases mutateForInvoke_cases
          { state with faults := faults, nextReportSequence := state.nextReportSequence + 1 } request now
          (state.nextReportSequence + 1) with
        ⟨⟨error, hmutate⟩, hmissing⟩ | ⟨path, value, dataVersion, result, hwrite, hsome, hmutate, hreport⟩
      · rw [hmutate]
        refine Or.inl ⟨⟨rfl, fun _ _ h => Or.inl h⟩, ?_⟩
        rintro fabricId path ⟨_, _, rfl, hpath, hsome⟩
        rw [show state.attributeAt request.fabricId path = none from hmissing path hpath] at hsome
        cases hsome
      · rw [hmutate]
        refine Or.inr ⟨path, value, dataVersion, ⟨rfl, not_le.mp hsequence, rfl, by rw [hwrite]; rfl, hsome⟩,
          hwrite, ?_⟩
        cases result with
        | error error => exact ⟨rfl, fun _ _ h => Or.inl h⟩
        | ok report =>
          obtain ⟨hpath, hvalue⟩ := hreport report rfl
          dsimp only
          refine LogsOnly.trans ?_ (LogsOnly.mono (reportInvocation_logsOnly _ _ _ _) ?_)
          · exact ⟨rfl, fun _ _ h => Or.inl h⟩
          · rintro fabricId report' ⟨rfl, rfl⟩
            exact ⟨rfl, hpath, hvalue⟩

theorem invoke_of_not_reaches {path : MatterAttributePath} (h : ¬ state.Reaches request fabricId path) :
    (state.invoke request now).2.attributeAt fabricId path = state.attributeAt fabricId path ∧
      ∀ report, (state.invoke request now).2.Logged fabricId report → report.path = path →
        state.Logged fabricId report := by
  rcases invoke_cases state request now with ⟨honly, -⟩ | ⟨path', value, dataVersion, hreaches, hwrite, honly⟩
  · refine ⟨honly.same.attributeAt _ _, ?_⟩
    intro report hlogged _
    exact (honly.logged _ _ hlogged).resolve_right id
  · -- the attribute that was written is another one
    have hother : ¬ (fabricId = request.fabricId ∧ path = path') := by
      rintro ⟨rfl, rfl⟩
      exact h hreaches
    refine ⟨?_, ?_⟩
    · rw [honly.same.attributeAt, attributeAt_setAttribute, if_neg hother]
    · intro report hlogged hpath
      rcases honly.logged _ _ hlogged with hold | ⟨hfabric, hreported, -⟩
      · exact hold
      · exact absurd ⟨hfabric, hpath.symm.trans hreported⟩ hother

theorem invoke_of_reaches {state : SimulatorState} {request : MatterInvokeRequest} {now : Instant}
    {fabricId : MatterFabricId} {path : MatterAttributePath} (h : state.Reaches request fabricId path) :
    ∃ value entry, invokedWrite request = some (path, value) ∧
      (state.invoke request now).2.attributeAt fabricId path = some entry ∧ entry.value = value ∧
      ∀ report, (state.invoke request now).2.Logged fabricId report → report.path = path →
        state.Logged fabricId report ∨ report.value = value := by
  rcases invoke_cases state request now with ⟨-, hnone⟩ | ⟨path', value, dataVersion, hreaches, hwrite, honly⟩
  · exact absurd h (hnone fabricId path)
  · obtain ⟨_, _, rfl, hpath, hsome⟩ := h
    rw [hwrite, map_some, Option.some.injEq] at hpath
    subst hpath
    obtain ⟨entry, hentry⟩ := isSome_iff_exists.mp hsome
    refine ⟨value, { entry with value := value, dataVersion := dataVersion }, hwrite, ?_, rfl, ?_⟩
    · rw [honly.same.attributeAt, attributeAt_setAttribute, if_pos ⟨rfl, rfl⟩, hentry]
      rfl
    · intro report hlogged _
      rcases honly.logged _ _ hlogged with hold | ⟨-, -, hvalue⟩
      · exact Or.inl hold
      · exact Or.inr hvalue

end SimulatorState

def SimulatorFixture.initialState : SimulatorFixture → MatterStateValue
  | lightV1 => .onOff false
  | doorLockV1 => .lock .locked

def Encodes (fixture : SimulatorFixture) (value : MatterStateValue) (raw : MatterAttributeValue) : Prop :=
  ∃ command : MatterControllerCommand, command.asks = some value ∧
    invokedAttribute command = some (fixture.path.clusterId, fixture.path.attributeId, raw)

theorem encodes_initial (fixture : SimulatorFixture) :
    Encodes fixture fixture.initialState fixture.initialValue := by
  cases fixture with
  | lightV1 => exact ⟨.setOnOff false, rfl, rfl⟩
  | doorLockV1 => exact ⟨.setLock .locked, rfl, rfl⟩

theorem mapReportValue_of_encodes {value : MatterStateValue} (h : Encodes fixture value raw) :
    mapReportValue fixture.rule raw = some value ↔ value ≠ .lock .locked := by
  obtain ⟨command, hasks, hwritten⟩ := h
  unfold invokedAttribute at hwritten
  split at hwritten
  · cases fixture <;> cases hwritten
    cases hasks
    simp [mapReportValue, SimulatorFixture.rule]
  · -- the simulator's code for locked is read as not fully locked
    cases fixture <;> cases hwritten
    cases hasks
    simp [mapReportValue, SimulatorFixture.rule]
  · cases fixture <;> cases hwritten
    cases hasks
    simp [mapReportValue, SimulatorFixture.rule]
  · cases hwritten

theorem encodes_of_invokedWrite (h : SimulatorState.invokedWrite request = some (fixture.path, raw)) :
    ∃ value, request.command.asks = some value ∧ Encodes fixture value raw := by
  unfold SimulatorState.invokedWrite at h
  obtain ⟨written, hwritten, hpath⟩ := map_eq_some_iff.mp h
  simp only [Prod.mk.injEq] at hpath
  obtain ⟨hpath, hraw⟩ := hpath
  have hcluster : written.1 = fixture.path.clusterId := congrArg MatterAttributePath.clusterId hpath
  have hattribute : written.2.1 = fixture.path.attributeId := congrArg MatterAttributePath.attributeId hpath
  have hasks : ∃ value, request.command.asks = some value := by
    cases hcommand : request.command with
    | stop => rw [hcommand] at hwritten; cases hwritten
    | _ => exact ⟨_, rfl⟩
  obtain ⟨value, hvalue⟩ := hasks
  refine ⟨value, hvalue, request.command, hvalue, ?_⟩
  rw [hwritten, ← hcluster, ← hattribute, ← hraw]

namespace SimulatorState

def invokeAll (state : SimulatorState) (calls : List (MatterInvokeRequest × Instant)) : SimulatorState :=
  calls.foldl (fun state call => (state.invoke call.1 call.2).2) state

def lastAsked (fabricId : MatterFabricId) (path : MatterAttributePath) :
    SimulatorState → List (MatterInvokeRequest × Instant) → MatterStateValue → MatterStateValue
  | _, [], initial => initial
  | state, (request, now) :: rest, initial =>
    lastAsked fabricId path (state.invoke request now).2 rest
      (if state.Reaches request fabricId path then request.command.asks.getD initial else initial)

def Holds (fixture : SimulatorFixture) (fabricId : MatterFabricId) (asked : MatterStateValue)
    (state : SimulatorState) : Prop :=
  ∃ entry, state.attributeAt fabricId fixture.path = some entry ∧ Encodes fixture asked entry.value

theorem Holds.invoke {asked : MatterStateValue} (h : state.Holds fixture fabricId asked) (request : MatterInvokeRequest)
    (now : Instant) : (state.invoke request now).2.Holds fixture fabricId
      (if state.Reaches request fabricId fixture.path then request.command.asks.getD asked else asked) := by
  split
  next hreaches =>
    obtain ⟨value, entry, hwrite, hentry, hvalue, _⟩ := @invoke_of_reaches state request now _ _ hreaches
    obtain ⟨next, hasks, hencodes⟩ := encodes_of_invokedWrite hwrite
    refine ⟨entry, hentry, ?_⟩
    rw [hasks, hvalue]
    exact hencodes
  next hreaches =>
    obtain ⟨entry, hentry, hencodes⟩ := h
    exact ⟨entry, (invoke_of_not_reaches hreaches).1.trans hentry, hencodes⟩

theorem Holds.invokeAll {initial : MatterStateValue} (h : state.Holds fixture fabricId initial)
    (calls : List (MatterInvokeRequest × Instant)) :
    (state.invokeAll calls).Holds fixture fabricId
      (lastAsked fabricId fixture.path state calls initial) := by
  induction calls generalizing state initial with
  | nil => exact h
  | cons call rest ih => exact ih (h.invoke call.1 call.2)

theorem invokeAll_concat (state : SimulatorState) (calls : List (MatterInvokeRequest × Instant))
    (call : MatterInvokeRequest × Instant) :
    state.invokeAll (calls ++ [call]) = ((state.invokeAll calls).invoke call.1 call.2).2 := by
  simp [SimulatorState.invokeAll]

theorem lastAsked_concat (fabricId : MatterFabricId) (path : MatterAttributePath) (state : SimulatorState)
    (calls : List (MatterInvokeRequest × Instant)) (call : MatterInvokeRequest × Instant)
    (initial : MatterStateValue) :
    lastAsked fabricId path state (calls ++ [call]) initial =
      if (state.invokeAll calls).Reaches call.1 fabricId path then
        call.1.command.asks.getD (lastAsked fabricId path state calls initial)
      else lastAsked fabricId path state calls initial := by
  induction calls generalizing state initial with
  | nil => rfl
  | cons first rest ih => exact ih (state.invoke first.1 first.2).2 _

theorem readReports_value {state : SimulatorState} {request : MatterReadRequest} {now : Instant}
    {reports : List MatterAttributeReport} (h : state.readReports request now = .ok reports)
    {report : MatterAttributeReport} (hreport : report ∈ reports)
    (hpath : report.path.nodeId = request.nodeId) :
    ∃ entry, state.attributeAt request.fabricId report.path = some entry ∧ report.value = entry.value := by
  unfold readReports at h
  split at h
  · cases h
  · split at h
    · cases h
    · next node hnode =>
      obtain ⟨path, _, hread⟩ := Fallible.exists_of_mem_mapM h hreport
      split at hread
      · next entry hentry =>
        cases hread
        refine ⟨entry, ?_, rfl⟩
        unfold attributeAt
        rw [hpath, hnode]
        exact hentry
      · cases hread

theorem read_value {state' : SimulatorState} {request : MatterReadRequest}
    {reports : List MatterAttributeReport} (h : state.read request now = (.ok reports, state'))
    {report : MatterAttributeReport} (hreport : report ∈ reports)
    (hpath : report.path.nodeId = request.nodeId) :
    ∃ entry, state.attributeAt request.fabricId report.path = some entry ∧ report.value = entry.value := by
  obtain ⟨faults, hfaults⟩ := state.failIfScripted_state .read
  unfold read at h
  rcases hscripted : state.failIfScripted .read with ⟨failure, after⟩
  rw [hscripted] at hfaults h
  subst hfaults
  cases failure with
  | some error => cases h
  | none =>
    dsimp only at h
    split at h
    · cases h
    · next reports' hreports =>
      split at h
      · cases h
      · cases h
        exact @readReports_value { state with faults := faults } _ _ _ hreports _ hreport hpath

/-- After `calls`, the fixture's attribute is normalized to `asked` wherever it is seen: as it is
stored, as a read returns it, and as the last of the calls reports it. -/
structure ReadsBack (fixture : SimulatorFixture) (fabricId : MatterFabricId) (state : SimulatorState)
    (calls : List (MatterInvokeRequest × Instant)) (asked : MatterStateValue) : Prop where
  stored : ∃ entry, (state.invokeAll calls).attributeAt fabricId fixture.path = some entry ∧
    mapReportValue fixture.rule entry.value = some asked
  returned : ∀ nodeId paths now reports after,
    (state.invokeAll calls).read ⟨fabricId, nodeId, paths⟩ now = (.ok reports, after) →
    ∀ report ∈ reports, nodeId = fixture.nodeId → report.path = fixture.path →
      mapReportValue fixture.rule report.value = some asked
  reported : ∀ earlier last, calls = earlier ++ [last] →
    ∀ report, (state.invokeAll calls).Logged fabricId report → report.path = fixture.path →
      (state.invokeAll earlier).Logged fabricId report ∨
        mapReportValue fixture.rule report.value = some asked

theorem readsBack_of_holds (h : state.Holds fixture fabricId fixture.initialState)
    (calls : List (MatterInvokeRequest × Instant)) :
    ReadsBack fixture fabricId state calls
        (lastAsked fabricId fixture.path state calls fixture.initialState) ↔
      lastAsked fabricId fixture.path state calls fixture.initialState ≠ .lock .locked := by
  obtain ⟨entry, hentry, hencodes⟩ := h.invokeAll calls
  constructor
  · rintro ⟨⟨entry', hentry', hreads⟩, -, -⟩
    rw [hentry, Option.some.injEq] at hentry'
    subst hentry'
    exact (mapReportValue_of_encodes hencodes).mp hreads
  · intro hasked
    refine ⟨⟨entry, hentry, (mapReportValue_of_encodes hencodes).mpr hasked⟩, ?_, ?_⟩
    · rintro nodeId paths now reports after hread report hreport rfl hpath
      obtain ⟨entry', hentry', hvalue⟩ := read_value hread hreport (by rw [hpath]; rfl)
      rw [hpath, hentry, Option.some.injEq] at hentry'
      rw [hvalue, ← hentry']
      exact (mapReportValue_of_encodes hencodes).mpr hasked
    · rintro earlier last rfl report hlogged hpath
      rw [invokeAll_concat] at hlogged
      rw [lastAsked_concat] at hasked ⊢
      by_cases hreaches : (state.invokeAll earlier).Reaches last.1 fabricId fixture.path
      · rw [if_pos hreaches] at hasked ⊢
        obtain ⟨value, _, hwrite, _, _, hreports⟩ := @invoke_of_reaches _ _ last.2 _ _ hreaches
        obtain ⟨next, hasks, hnext⟩ := encodes_of_invokedWrite hwrite
        rw [hasks, getD_some] at hasked ⊢
        refine (hreports report hlogged hpath).imp_right ?_
        intro hvalue
        rw [hvalue]
        exact (mapReportValue_of_encodes hnext).mpr hasked
      · exact Or.inl ((invoke_of_not_reaches hreaches).2 report hlogged hpath)

theorem holds_of_materialized (h : state.node fabricId fixture.nodeId = some fixture.materialize) :
    state.Holds fixture fabricId fixture.initialState := by
  refine ⟨⟨fixture.path, fixture.initialValue, 1⟩, ?_, encodes_initial fixture⟩
  unfold attributeAt
  rw [show fixture.path.nodeId = fixture.nodeId from rfl, h]
  simp [SimulatorFixture.materialize]

/-- Payloads, controller commands and expected states agree, and a simulated node reads back what
its last command asked for exactly when that is not the locked state. -/
theorem simulated_state_reads_back_iff (fixture : SimulatorFixture) (fabricId : MatterFabricId)
    (state : SimulatorState) (hnode : state.node fabricId fixture.nodeId = some fixture.materialize)
    (calls : List (MatterInvokeRequest × Instant)) :
    (∀ payload command, mapCommand payload = .ok command →
      expectedState payload = command.asks ∧
        MatterCommandDispatchControl.desiredValue payload = command.asks) ∧
    (ReadsBack fixture fabricId state calls
        (lastAsked fabricId fixture.path state calls fixture.initialState) ↔
      lastAsked fabricId fixture.path state calls fixture.initialState ≠ .lock .locked) :=
  ⟨fun _ _ => mapCommand_asks, readsBack_of_holds (holds_of_materialized hnode) calls⟩

def ofFixture (fixture : SimulatorFixture) : SimulatorState :=
  ⟨[⟨1, [fixture.materialize]⟩], [], [], [], 0, 0, []⟩

/-- A light that was switched on reads back as on. -/
theorem switched_light_reads_back :
    ReadsBack .lightV1 1 (ofFixture .lightV1) [(⟨1, 0x1001, 1, 1, 1, .setOnOff true⟩, 5)] (.onOff true) :=
  ((simulated_state_reads_back_iff .lightV1 1 (ofFixture .lightV1) (by decide)
    [(⟨1, 0x1001, 1, 1, 1, .setOnOff true⟩, 5)]).2).mpr (by decide)

/-- A door that was locked does not read back as locked: it is read as not fully locked. -/
theorem locked_door_reads_unlocked :
    lastAsked 1 SimulatorFixture.doorLockV1.path (ofFixture .doorLockV1)
        [(⟨1, 0x2001, 1, 1, 1, .setLock .locked⟩, 5)] SimulatorFixture.doorLockV1.initialState =
      .lock .locked ∧
    (((ofFixture .doorLockV1).invokeAll [(⟨1, 0x2001, 1, 1, 1, .setLock .locked⟩, 5)]).attributeAt 1
        SimulatorFixture.doorLockV1.path).bind (fun entry => mapReportValue .accessControlV1 entry.value) =
      some (.lock .notFullyLocked) ∧
    ¬ ReadsBack .doorLockV1 1 (ofFixture .doorLockV1) [(⟨1, 0x2001, 1, 1, 1, .setLock .locked⟩, 5)]
        (.lock .locked) := by
  have hasked : lastAsked 1 SimulatorFixture.doorLockV1.path (ofFixture .doorLockV1)
      [(⟨1, 0x2001, 1, 1, 1, .setLock .locked⟩, 5)] SimulatorFixture.doorLockV1.initialState =
      .lock .locked := by decide
  refine ⟨hasked, by decide, ?_⟩
  intro h
  rw [← hasked] at h
  exact (readsBack_of_holds (holds_of_materialized (by decide)) _).mp h hasked

end SimulatorState
end HomeMagic
