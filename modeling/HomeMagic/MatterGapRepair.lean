import HomeMagic.MatterRepairOwner

/-! What a completed repair leaves behind: the projections of its node against what its gap read
returned, when other repairs and other services work on the same store. -/
namespace HomeMagic

variable {reported : MatterReportedState} {rule : MatterProjectionRule}

/-- A report with a value of its capability, not from the future, that is later than what is stored
or says the same again. -/
def TakesOver (rule : MatterProjectionRule) (report : MatterAttributeReport) (now : Instant)
    (current : Option MatterReportedState) : Prop :=
  match mapReportValue rule report.value with
  | none => False
  | some value => report.observedAt ≤ now ∧ ∀ reported ∈ current,
      (reported.reportSequence < report.reportSequence ∧ dataVersionAdvances reported report value = true) ∨
        (report.reportSequence = reported.reportSequence ∧ reported.value = value ∧
          reported.dataVersion = report.dataVersion)

section Normalization
variable {projection : MatterCapabilityProjection} {report : MatterAttributeReport} {now : Instant}
  {current : Option MatterReportedState} {value : MatterStateValue}

theorem normalizeMatterReport_timely (hpath : report.path = projection.reportPath)
    (hvalue : mapReportValue projection.rule report.value = some value) (htime : report.observedAt ≤ now)
    (current : Option MatterReportedState) : ∃ reported : MatterReportedState, reported.value = value ∧
      normalizeMatterReport projection report now current =
        (current.bind (fun current => settledReport current report value)).getD (.applied reported) := by
  refine ⟨⟨value, report.dataVersion, report.reportSequence, report.observedAt, now, mapReportValue_valid hvalue,
    htime⟩, rfl, ?_⟩
  unfold normalizeMatterReport
  rw [if_neg (not_not.mpr hpath), hvalue]
  simp only
  rw [if_neg (not_lt.mpr htime)]
  split
  next decision hsettled =>
    rw [hsettled]
    rfl
  next hopen =>
    rw [hopen]
    unfold MatterReportedState.new
    rw [dif_neg (by simp [mapReportValue_valid hvalue]), dif_neg (not_lt.mpr htime)]
    rfl

theorem settledReport_eq_none
    (h : reported.reportSequence < report.reportSequence ∧ dataVersionAdvances reported report value = true) :
    settledReport reported report value = none := by
  unfold settledReport
  rw [if_neg (not_lt.mpr h.1.le), if_neg h.1.ne', if_neg (by simp [h.2])]

theorem settledReport_eq_duplicate
    (h : report.reportSequence = reported.reportSequence ∧ reported.value = value ∧
      reported.dataVersion = report.dataVersion) :
    settledReport reported report value = some .duplicate := by
  unfold settledReport
  rw [if_neg (not_lt.mpr h.1.ge), if_pos h.1, if_pos h.2]

theorem settledReport_refused
    (hlater : ¬ (reported.reportSequence < report.reportSequence ∧ dataVersionAdvances reported report value = true))
    (hsame : ¬ (report.reportSequence = reported.reportSequence ∧ reported.value = value ∧
      reported.dataVersion = report.dataVersion)) :
    ∃ reason, settledReport reported report value = some (.rejected reason) := by
  unfold settledReport
  split
  · exact ⟨_, rfl⟩
  next hnot =>
    split
    next hsequence =>
      rw [if_neg (fun h => hsame ⟨hsequence, h⟩)]
      exact ⟨_, rfl⟩
    next hother =>
      have hlt : reported.reportSequence < report.reportSequence := lt_of_le_of_ne (not_lt.mp hnot) (Ne.symm hother)
      rw [if_pos (by simpa using fun h => hlater ⟨hlt, h⟩)]
      exact ⟨_, rfl⟩

theorem refused_iff (hpath : report.path = projection.reportPath) :
    (∃ reason, normalizeMatterReport projection report now current = .rejected reason) ↔
      ¬ TakesOver projection.rule report now current := by
  unfold TakesOver
  cases hvalue : mapReportValue projection.rule report.value with
  | none =>
    refine iff_of_true ⟨.incompatibleValue, ?_⟩ not_false
    unfold normalizeMatterReport
    rw [if_neg (not_not.mpr hpath), hvalue]
  | some value =>
    simp only
    by_cases htime : report.observedAt ≤ now
    · obtain ⟨taken, -, hdecision⟩ := normalizeMatterReport_timely hpath hvalue htime current
      rw [hdecision]
      cases current with
      | none => simp [htime]
      | some reported =>
        by_cases hlater : reported.reportSequence < report.reportSequence ∧
            dataVersionAdvances reported report value = true
        · rw [Option.bind_some, settledReport_eq_none hlater]
          simp [htime, hlater]
        · by_cases hsame : report.reportSequence = reported.reportSequence ∧ reported.value = value ∧
              reported.dataVersion = report.dataVersion
          · rw [Option.bind_some, settledReport_eq_duplicate hsame]
            simp [htime, hsame]
          · obtain ⟨reason, hrefused⟩ := settledReport_refused hlater hsame
            rw [Option.bind_some, hrefused]
            refine iff_of_true ⟨reason, rfl⟩ ?_
            rintro ⟨-, h⟩
            exact (h reported rfl).elim hlater hsame
    · refine iff_of_true ⟨.invalidTime, ?_⟩ (fun h => htime h.1)
      unfold normalizeMatterReport
      rw [if_neg (not_not.mpr hpath), hvalue]
      simp only
      rw [if_pos (not_le.mp htime)]

end Normalization

namespace MatterSubscriptionRepair

def reportOn (reports : Option (List MatterAttributeReport)) (capability : MatterNodeCapability) :
    Option MatterAttributeReport :=
  reports.bind (fun reports => reports.find? (fun report => report.path == capability.reportPath))

def capabilityOf (ids : MatterIdentities) (store : MatterStore) (projection : StoredMatterProjection) :
    Option MatterNodeCapability :=
  (store.nodes.find (projection.fabricId, projection.nodeId)).bind (fun node =>
    (node.descriptor.capabilities ids node.installationId).find? (fun capability =>
      capability.projectionId == projection.projectionId))

def reportFor (ids : MatterIdentities) (store : MatterStore) (reports : Option (List MatterAttributeReport))
    (projection : StoredMatterProjection) : Option (MatterProjectionRule × MatterAttributeReport) :=
  (capabilityOf ids store projection).bind (fun capability =>
    (reportOn reports capability).map (fun report => (capability.rule, report)))

/-- Fresh with the value that was read, or not fresh if nothing was read. -/
def ClosedBy (read : Option (MatterProjectionRule × MatterAttributeReport)) (state : MatterProjectedState) : Prop :=
  match read with
  | some (rule, report) => state.freshness = .fresh ∧ state.uncertainty = none ∧
      ∃ reported, state.reported = some reported ∧ mapReportValue rule report.value = some reported.value
  | none => state.freshness ≠ .fresh

/-- What a repair leaves where `before` was reported: a report that follows it is taken over; for one that does
not, the projection stays stale, with what was reported before. -/
def LeftBy (read : Option (MatterProjectionRule × MatterAttributeReport)) (now : Instant)
    (before : Option MatterReportedState) (state : MatterProjectedState) : Prop :=
  match read with
  | none => state.freshness ≠ .fresh
  | some (rule, report) => (TakesOver rule report now before → ClosedBy read state) ∧
      (¬ TakesOver rule report now before →
        state.freshness = .stale ∧ state.uncertainty = some .reportGap ∧ state.reported = before)

section ReadState
variable {capability : MatterNodeCapability} {reports : Option (List MatterAttributeReport)} {now : Instant}
  {state state' : MatterProjectedState}

theorem advanced_closed {report : MatterAttributeReport}
    (hvalue : mapReportValue rule report.value = some reported.value)
    (h : advanceMatterProjectedState state reported ⟨none⟩ = .ok state') :
    ClosedBy (some (rule, report)) state' := by
  obtain ⟨-, -, hreported, -, hfreshness, -, huncertainty⟩ := MatterProjectedState.new_ok h
  exact ⟨hfreshness, huncertainty, reported, hreported, hvalue⟩

theorem readState_unreported (hnone : reportOn reports capability = none)
    (h : readState capability state reports now = .ok state') : ClosedBy none state' := by
  unfold readState at h
  unfold reportOn at hnone
  rw [hnone] at h
  obtain ⟨-, -, -, -, -, hstale⟩ := markMatterProjectionStale_ok h
  unfold ClosedBy
  rw [hstale]
  exact fun hfresh => nomatch hfresh

theorem reportOn_path {report : MatterAttributeReport} (hsome : reportOn reports capability = some report) :
    report.path = capability.reportPath := by
  obtain ⟨listed, -, hfound⟩ := Option.bind_eq_some_iff.mp hsome
  have hpath := List.find?_some hfound
  exact beq_iff_eq.mp hpath

theorem readState_follows {report : MatterAttributeReport} (hsome : reportOn reports capability = some report)
    (hfollows : TakesOver capability.rule report now state.reported)
    (h : readState capability state reports now = .ok state') :
    ClosedBy (some (capability.rule, report)) state' := by
  have hpath := reportOn_path hsome
  unfold readState at h
  unfold reportOn at hsome
  rw [hsome] at h
  simp only at h
  unfold TakesOver at hfollows
  cases hvalue : mapReportValue capability.rule report.value with
  | none =>
    rw [hvalue] at hfollows
    exact hfollows.elim
  | some value =>
    rw [hvalue] at hfollows
    obtain ⟨htime, hlater⟩ := hfollows
    obtain ⟨taken, htaken, hdecision⟩ := normalizeMatterReport_timely hpath hvalue htime
      state.reported
    rw [hdecision] at h
    cases hreported : state.reported with
    | none =>
      rw [hreported] at h
      exact advanced_closed (hvalue.trans (congrArg some htaken.symm)) h
    | some reported =>
      rw [hreported, Option.bind_some] at h
      rcases hlater reported hreported with hlater | hsame
      · rw [settledReport_eq_none hlater] at h
        exact advanced_closed (hvalue.trans (congrArg some htaken.symm)) h
      · rw [settledReport_eq_duplicate hsame] at h
        exact advanced_closed (hvalue.trans (congrArg some hsame.2.1.symm)) h

theorem readState_refused {report : MatterAttributeReport} (hsome : reportOn reports capability = some report)
    (hrefused : ¬ TakesOver capability.rule report now state.reported) :
    readState capability state reports now = .ok state := by
  obtain ⟨reason, hdecision⟩ := (refused_iff (reportOn_path hsome)).mpr hrefused
  unfold readState
  unfold reportOn at hsome
  rw [hsome]
  simp only
  rw [hdecision]

theorem readState_leaves (hstale : state.freshness = .stale) (hgap : state.uncertainty = some .reportGap)
    (h : readState capability state reports now = .ok state') :
    LeftBy ((reportOn reports capability).map (fun report => (capability.rule, report))) now state.reported
      state' := by
  cases hon : reportOn reports capability with
  | none => exact readState_unreported hon h
  | some report =>
    refine ⟨fun hfollows => readState_follows hon hfollows h, fun hrefused => ?_⟩
    rw [readState_refused hon hrefused] at h
    cases h
    exact ⟨hstale, hgap, rfl⟩

end ReadState

structure GapRun where
  number : ℕ
  operationId : MatterOperationId
  now : Instant
  deriving DecidableEq

inductive GapParty
  | repair (gapRun : GapRun)
  | other (number : ℕ)
  deriving DecidableEq

inductive GapEvent
  /-- A run begins a repair of what is stored. -/
  | began (gapRun : GapRun) (store : MatterStore)
  /-- The gap read of a run; a read that fails returns no reports. -/
  | read (gapRun : GapRun) (reports : Option (List MatterAttributeReport))
  /-- A run completes its operation and leaves the store. -/
  | completed (gapRun : GapRun) (store : MatterStore)
  /-- A projection is added or written over. -/
  | wrote (party : GapParty) (projectionId : MatterProjectionId)
  /-- An operation is removed. -/
  | retired (operationId : MatterOperationId)

abbrev GapState := MatterStore × List GapEvent

def changes (party : GapParty) (store store' : MatterStore) : List GapEvent :=
  (store'.foundation.projections.rows.filter (fun row =>
    store.foundation.projections.find row.projectionId ≠ some row)).map (fun row => .wrote party row.projectionId)

def removals (store store' : MatterStore) : List GapEvent :=
  (store.operations.rows.filter (fun row => (store'.operations.find row.id).isNone)).map (fun row => .retired row.id)

def callEvents (gapRun : GapRun) : (c : MatterCall) → c.Response → MatterStore → MatterStore → List GapEvent
  | .read _, response, _, _ => [.read gapRun response.toOption]
  | .commit (.repair commit), .ok _, store, store' =>
    match commit.operation.operation.phase with
    | .readingGap => [.began gapRun store]
    | .completed => [.completed gapRun store']
    | _ => []
  | _, _, _, _ => []

def observeGap (gapRun : GapRun) (c : MatterCall) (response : c.Response) (store store' : MatterStore) :
    List GapEvent := callEvents gapRun c response store store' ++ changes (.repair gapRun) store store'

def readAfter (operationId : MatterOperationId) (read : Option (GapRun × Option (List MatterAttributeReport))) :
    GapEvent → Option (GapRun × Option (List MatterAttributeReport))
  | .read gapRun reports => if gapRun.operationId = operationId then some (gapRun, reports) else read
  | _ => read

def gapReadOf (events : List GapEvent) (operationId : MatterOperationId) :
    Option (GapRun × Option (List MatterAttributeReport)) := events.foldl (readAfter operationId) none

/-- Another party has written the projection since the run began its repair. -/
def Disturbed (events : List GapEvent) (beginner : GapRun) (projectionId : MatterProjectionId) : Prop :=
  ∃ before start after party, events = before ++ .began beginner start :: after ∧ party ≠ .repair beginner ∧
    .wrote party projectionId ∈ after

def reportedIn (store : MatterStore) (projectionId : MatterProjectionId) : Option MatterReportedState :=
  (store.foundation.projections.find projectionId).bind (fun projection => projection.state.reported)

/-- What holds of the projections of its node whenever a repair that was begun is completed; the gap
was read, by the run that began it. -/
def AtCompletion (ids : MatterIdentities)
    (holds : List GapEvent → GapRun → MatterStore → Option (MatterProjectionRule × MatterAttributeReport) →
      StoredMatterProjection → Prop) (events : List GapEvent) : Prop :=
  ∀ before gapRun store after, events = before ++ .completed gapRun store :: after →
    ∀ beginner start, .began beginner start ∈ before → beginner.operationId = gapRun.operationId →
      ∃ operation reports, store.operations.find gapRun.operationId = some operation ∧
        gapReadOf before gapRun.operationId = some (beginner, reports) ∧
        ∀ projection ∈ store.foundation.projections.rows,
          operation.target = .node projection.fabricId projection.nodeId →
            holds before beginner start (reportFor ids store reports projection) projection

def GapsClosed (ids : MatterIdentities) (events : List GapEvent) : Prop :=
  AtCompletion ids (fun _ _ _ read projection => ClosedBy read projection.state) events

/-- Every repair that is completed has left the projections that nothing else wrote since as its gap
read makes them of what was reported when it began. -/
def GapsSettled (ids : MatterIdentities) (events : List GapEvent) : Prop :=
  AtCompletion ids (fun before beginner start read projection =>
    ¬ Disturbed before beginner projection.projectionId →
      LeftBy read beginner.now (reportedIn start projection.projectionId) projection.state) events

def AwaitsSubscription (operation : MatterOperation) : Prop :=
  operation.kind = .repairSubscription ∧ operation.phase = .subscribing

def KeptRow (store : MatterStore) (projection' : StoredMatterProjection) : Prop :=
  ∃ projection, store.foundation.projections.find projection'.projectionId = some projection ∧
    projection.fabricId = projection'.fabricId ∧ projection.nodeId = projection'.nodeId ∧
    (projection' = projection ∨ projection.revision < projection'.revision)

structure SystemStep (state : GapState) (store' : MatterStore) : Prop where
  /-- Operations may be removed, as retention does. -/
  operations : ∀ operationId row row', state.1.operations.find operationId = some row →
    store'.operations.find operationId = some row' → row' = row ∨ row.revision < row'.revision
  /-- A new operation has an id of its own. -/
  created : ∀ operationId row', state.1.operations.find operationId = none →
    store'.operations.find operationId = some row' → .retired operationId ∉ state.2
  /-- Repairs are moved on by their own service only. -/
  awaiting : ∀ operationId operation, store'.operations.find operationId = some operation →
    operation.phase = .readingGap ∨ AwaitsSubscription operation →
      state.1.operations.find operationId = some operation
  begun : ∀ operationId row row', state.1.operations.find operationId = some row → row.phase ≠ .requested →
    store'.operations.find operationId = some row' → row'.phase ≠ .requested
  nodes : ∀ key node, state.1.nodes.find key = some node → store'.nodes.find key = some node
  /-- Projections are added with their node only, and written at later revisions. -/
  projections : ∀ projection' ∈ store'.foundation.projections.rows,
    (state.1.nodes.find (projection'.fabricId, projection'.nodeId)).isSome → KeptRow state.1 projection'

def gapDuties (settings : MatterRepairSettings) :
    Duties MatterCall MatterCall.Response GapState GapParty
      (Except MatterSubscriptionRepairError MatterSubscriptionRepairOutcome) where
  handler
    | .repair gapRun => MatterStore.handler.tracking (observeGap gapRun)
    | .other number => fun _ state _ state' => SystemStep state state'.1 ∧
        state'.2 = state.2 ++ (removals state.1 state'.1 ++ changes (.other number) state.1 state'.1)
  starts
    | .repair gapRun, program => ∃ actorId,
        program = (run settings actorId gapRun.operationId gapRun.now).run
    | .other _, _ => True
  allowed := fun _ _ _ => True

end MatterSubscriptionRepair
end HomeMagic
