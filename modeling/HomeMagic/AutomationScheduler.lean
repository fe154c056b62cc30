import HomeMagic.AutomationPorts

/-! The durable scheduler: materializing schedules, recovering work and admitting
occurrences by run mode. -/
namespace HomeMagic

def recoveryPage : ℕ := 1000

inductive AutomationSchedulerError
  | repository (error : StorageError)
  | invalidSchedule
  | invalidCatchUpInstant
  | scheduleNotMissed
  | automationNotActive
  | durationOverflow
  deriving DecidableEq

/-- The instants of a schedule in `(from, through]`, by the cron and time zone crates. -/
structure SchedulerHost where
  scheduleOccurrences : AutomationSchedule → Instant → Instant → Option (List Instant)

def request (c : AutomationCall) : Program AutomationCall AutomationCall.Response c.Response :=
  .perform c

abbrev ServiceM (ε : Type) := ExceptT ε (Program AutomationCall AutomationCall.Response)

def repository {α ε : Type} (wrap : StorageError → ε)
    (p : Program AutomationCall AutomationCall.Response (Except StorageError α)) : ServiceM ε α :=
  ExceptT.mk (p.bind (fun response => match response with
    | .ok value => .done (.ok value)
    | .error error => .done (.error (wrap error))))

theorem execute_repository {α ε σ : Type} {wrap : StorageError → ε}
    {p : Program AutomationCall AutomationCall.Response (Except StorageError α)}
    {apply : (c : AutomationCall) → σ → c.Response × σ} {value : α} {s s' : σ}
    (h : p.run apply s = (.ok value, s')) :
    Fallible.execute apply (repository wrap p) s = (.ok value, s') := by
  unfold Fallible.execute repository
  show (p.bind _).run apply s = _
  rw [Program.run_bind, h]
  rfl

abbrev SchedulerM := ServiceM AutomationSchedulerError

abbrev ask {α : Type} (p : Program AutomationCall AutomationCall.Response (Except StorageError α)) :
    SchedulerM α := repository .repository p

def clockNow {ε : Type} : ServiceM ε Instant :=
  ExceptT.mk ((request .now).bind (fun now => .done (.ok now)))

structure AutomationSchedulerTick where
  scheduled : ℕ
  accepted : ℕ
  missedSkipped : ℕ
  suppressed : ℕ
  runs : ℕ
  runsCancelled : ℕ
  timersReady : ℕ
  deriving DecidableEq

abbrev VersionKey := AutomationId × ℕ

def AutomationOccurrence.versionKey (occurrence : AutomationOccurrence) : VersionKey :=
  (occurrence.automationId, occurrence.version)

def AutomationRun.versionKey (run : AutomationRun) : VersionKey := (run.automationId, run.version)

def ActiveAutomationVersion.key (active : ActiveAutomationVersion) : VersionKey :=
  (active.identity.id, active.version.document.version)

/-- The occurrence of one schedule instant. The window is at most a year, so the sum
stays in range. -/
def scheduledOccurrence (active : ActiveAutomationVersion) (windowMs : ℕ)
    (state : AutomationOccurrenceState) (instant : Instant) : AutomationOccurrence :=
  let id : AutomationOccurrenceId :=
    ⟨active.identity.id, active.version.document.version, .schedule (timestampMillis instant)⟩
  { id := id
    automationId := active.identity.id
    version := active.version.document.version
    occurredAt := instant
    windowEndsAt := instant + windowMs * nanosPerMilli
    state := state
    eventCursor := none
    correlationId := .fromKey id
    causationEventId := none
    catchUp := none }

section Materialize
variable (host : SchedulerHost) (start through : Instant)

def materializeInstants (active : ActiveAutomationVersion) (schedule : AutomationSchedule) :
    List Instant → ℕ → SchedulerM ℕ
  | [], scheduled => pure scheduled
  | instant :: rest, scheduled => do
    ask (request (.createOccurrence
      (scheduledOccurrence active schedule.occurrenceWindowMs .scheduled instant)))
    materializeInstants active schedule rest (scheduled + 1)

def materializeTriggers (active : ActiveAutomationVersion) :
    List AutomationTrigger → ℕ → SchedulerM ℕ
  | [], scheduled => pure scheduled
  | .schedule schedule :: rest, scheduled =>
    match host.scheduleOccurrences schedule start through with
    | none => throw .invalidSchedule
    | some instants => do
      let scheduled ← materializeInstants active schedule instants scheduled
      materializeTriggers active rest scheduled
  | _ :: rest, scheduled => materializeTriggers active rest scheduled

def materialize : List ActiveAutomationVersion → ℕ → SchedulerM ℕ
  | [], scheduled => pure scheduled
  | active :: rest, scheduled => do
    let scheduled ← materializeTriggers host start through active active.version.document.triggers scheduled
    materialize rest scheduled

end Materialize

inductive Admission
  | accept | defer | suppress
  deriving DecidableEq

def admission : AutomationRunMode → ℕ → ℕ → Admission
  | .single, active, _ => if active = 0 then .accept else .suppress
  | .restart, _, _ => .accept
  | .queued capacity, active, queued =>
    if active = 0 then .accept else if queued < capacity then .defer else .suppress
  | .parallel maximumParallel, active, _ => if active < maximumParallel then .accept else .suppress

/-- The local variables of `process_recovery`. `deferred` lists the occurrences counted
in `queued_counts`. -/
structure RecoveryPass where
  result : AutomationSchedulerTick
  activeRuns : List AutomationRun
  activeCounts : VersionKey → ℕ
  deferred : List AutomationOccurrence

def RecoveryPass.queuedCount (pass : RecoveryPass) (key : VersionKey) : ℕ :=
  pass.deferred.countP (fun occurrence => occurrence.versionKey == key)

def RecoveryPass.setCount (pass : RecoveryPass) (key : VersionKey) (count : ℕ) : RecoveryPass :=
  { pass with activeCounts := fun other => if other = key then count else pass.activeCounts other }

def readyTimers (now : Instant) : List AutomationTimer → ℕ → SchedulerM (List AutomationTimer × ℕ)
  | [], count => pure ([], count)
  | timer :: rest, count =>
    if timer.state = .pending ∧ timer.readyAt ≤ now then do
      ask (request (.transitionTimer { timer with state := .ready }))
      let (rest, count) ← readyTimers now rest (count + 1)
      pure ({ timer with state := .ready } :: rest, count)
    else do
      let (rest, count) ← readyTimers now rest count
      pure (timer :: rest, count)

def restartWrite (run : AutomationRun) (timers : List AutomationTimer)
    (occurrence : AutomationOccurrence) (now : Instant) (sequence : ℕ) : AutomationStepWrite where
  run := { run with
    state := .cancelled, revision := min (run.revision + 1) (2^64 - 1), updatedAt := now }
  expectedRunRevision := run.revision
  trace := [⟨⟨run.id, sequence⟩, run.id, sequence, run.nodeId, .outcome,
    [("reason", .string "restart_mode")], now, run.correlationId, occurrence.causationEventId⟩]
  createTimers := []
  transitionTimers := (timers.filter (fun timer => timer.runId == run.id && timer.isRecoverable)).map
    (fun timer => { timer with state := .cancelled })

def cancelForRestart (timers : List AutomationTimer) (occurrence : AutomationOccurrence)
    (now : Instant) : List AutomationRun → SchedulerM (List AutomationRun × ℕ)
  | [] => pure ([], 0)
  | run :: rest =>
    if run.versionKey = occurrence.versionKey ∧ run.state.isTerminal = false then do
      let trace ← ask (request (.trace run.id none recoveryPage))
      let write := restartWrite run timers occurrence now trace.length
      ask (request (.commitStep write))
      let (rest, cancelled) ← cancelForRestart timers occurrence now rest
      pure (write.run :: rest, cancelled + 1)
    else do
      let (rest, cancelled) ← cancelForRestart timers occurrence now rest
      pure (run :: rest, cancelled)

def ensureRun (active : ActiveAutomationVersion) (occurrence : AutomationOccurrence) (now : Instant) :
    SchedulerM AutomationRun := do
  match ← ask (request (.run ⟨occurrence.id⟩)) with
  | some run => pure run
  | none =>
    let run := newRun active.version.plan active.version.document.provenance.authorId occurrence now
    ask (request (.createRun run))
    pure run

def startRun (active : ActiveAutomationVersion) (occurrence : AutomationOccurrence) (now : Instant)
    (pass : RecoveryPass) : SchedulerM RecoveryPass := do
  let run ← ensureRun active occurrence now
  let activeRuns := if run.state.isTerminal = false ∧ pass.activeRuns.all (fun item => item.id != run.id)
    then pass.activeRuns ++ [run] else pass.activeRuns
  pure { pass with
    activeRuns := activeRuns
    result := { pass.result with runs := pass.result.runs + 1 } }

def makeRoom (active : ActiveAutomationVersion) (occurrence : AutomationOccurrence) (now : Instant)
    (timers : List AutomationTimer) (pass : RecoveryPass) : SchedulerM RecoveryPass :=
  if active.version.plan.runMode = .restart then do
    let (activeRuns, cancelled) ← cancelForRestart timers occurrence now pass.activeRuns
    pure ({ pass with
      activeRuns := activeRuns
      result := { pass.result with
        runsCancelled := pass.result.runsCancelled + cancelled } }.setCount occurrence.versionKey 0)
  else pure pass

def acceptOccurrence (active : ActiveAutomationVersion) (occurrence : AutomationOccurrence)
    (now : Instant) (timers : List AutomationTimer) (pass : RecoveryPass) : SchedulerM RecoveryPass := do
  let pass ← makeRoom active occurrence now timers pass
  let counted := pass.setCount occurrence.versionKey (pass.activeCounts occurrence.versionKey + 1)
  ask (request (.transitionOccurrence { occurrence with state := .accepted }))
  startRun active { occurrence with state := .accepted } now
    { counted with result := { counted.result with accepted := counted.result.accepted + 1 } }

def recoverOccurrence (active : ActiveAutomationVersion) (occurrence : AutomationOccurrence)
    (now : Instant) (timers : List AutomationTimer) (pass : RecoveryPass) : SchedulerM RecoveryPass :=
  if occurrence.state = .scheduled then
    if occurrence.windowEndsAt < now then do
      ask (request (.transitionOccurrence { occurrence with state := .missedSkipped }))
      pure { pass with result := { pass.result with missedSkipped := pass.result.missedSkipped + 1 } }
    else if now < occurrence.occurredAt then pure pass
    else
      match admission active.version.plan.runMode (pass.activeCounts occurrence.versionKey)
          (pass.queuedCount occurrence.versionKey) with
      | .defer => pure { pass with deferred := pass.deferred ++ [occurrence] }
      | .suppress => do
        ask (request (.transitionOccurrence { occurrence with state := .suppressed }))
        pure { pass with result := { pass.result with suppressed := pass.result.suppressed + 1 } }
      | .accept => acceptOccurrence active occurrence now timers pass
  else if occurrence.state = .accepted then startRun active occurrence now pass
  else pure pass

def activeFor (active : List ActiveAutomationVersion) (occurrence : AutomationOccurrence) :
    Option ActiveAutomationVersion :=
  active.find? (fun version => version.key == occurrence.versionKey)

def recoverOccurrences (active : List ActiveAutomationVersion) (now : Instant)
    (timers : List AutomationTimer) : List AutomationOccurrence → RecoveryPass → SchedulerM RecoveryPass
  | [], pass => pure pass
  | occurrence :: rest, pass =>
    match activeFor active occurrence with
    | none => recoverOccurrences active now timers rest pass
    | some version => do
      let pass ← recoverOccurrence version occurrence now timers pass
      recoverOccurrences active now timers rest pass

def RecoveryPass.initial (runs : List AutomationRun) (scheduled timersReady : ℕ) : RecoveryPass where
  result := ⟨scheduled, 0, 0, 0, 0, 0, timersReady⟩
  activeRuns := runs
  activeCounts := fun key => runs.countP (fun run => !run.state.isTerminal && run.versionKey == key)
  deferred := []

def processRecovery (active : List ActiveAutomationVersion) (scheduled : ℕ) :
    SchedulerM RecoveryPass := do
  let now ← clockNow
  let recovery ← ask (request (.recoverableWork recoveryPage))
  let (timers, timersReady) ← readyTimers now recovery.timers 0
  recoverOccurrences active now timers recovery.occurrences
    (.initial recovery.runs scheduled timersReady)

def tick (host : SchedulerHost) (start through : Instant) : SchedulerM RecoveryPass := do
  let active ← ask (request (.activeVersions recoveryPage))
  let scheduled ← materialize host start through active 0
  processRecovery active scheduled

end HomeMagic
