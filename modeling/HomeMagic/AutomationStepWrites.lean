import HomeMagic.AutomationServices
import HomeMagic.AutomationStepEffects

/-! The shape of a step write: one trace entry, of the run it revises. -/
namespace HomeMagic

variable {write : AutomationStepWrite} {next : AutomationRun} {nodeId : ℕ}
  {createTimers transitionTimers : List AutomationTimer} {details : List (String × AutomationValue)}
  {host : EvaluatorHost} {kind : AutomationTraceKind} {outcome : AutomationRuntimeStep}

structure OneEntry (runId : AutomationRunId) (sequence : ℕ) (write : AutomationStepWrite) : Prop where
  run : write.run.id = runId
  trace : ∃ entry, write.trace = [entry] ∧ entry.id = ⟨runId, sequence⟩ ∧ entry.runId = runId ∧
    entry.sequence = sequence

def TracesOnce (write : AutomationStepWrite) : Prop :=
  ∃ sequence, OneEntry write.run.id sequence write

theorem OneEntry.tracesOnce {runId : AutomationRunId} {sequence : ℕ} (h : OneEntry runId sequence write) :
    TracesOnce write := by
  refine ⟨sequence, ?_⟩
  rw [h.run]
  exact h

theorem restartWrite_oneEntry (run : AutomationRun) (timers : List AutomationTimer)
    (occurrence : AutomationOccurrence) (now : Instant) (sequence : ℕ) :
    OneEntry run.id sequence (restartWrite run timers occurrence now sequence) :=
  ⟨rfl, _, rfl, rfl, rfl, rfl⟩

theorem cancelWrite_oneEntry (run : AutomationRun) (timers : List AutomationTimer) (now : Instant)
    (sequence : ℕ) : OneEntry run.id sequence (cancelWrite run timers now sequence) :=
  ⟨rfl, _, rfl, rfl, rfl, rfl⟩

section
variable {run : AutomationRun} {inputs : StepInputs}

theorem stepWrite_oneEntry {nodeId : Option ℕ} (hid : next.id = run.id) : OneEntry run.id inputs.traceLength
      (stepWrite run next inputs nodeId kind details createTimers transitionTimers) :=
  ⟨hid, _, rfl, by rw [← hid]; rfl, hid, rfl⟩

theorem stepRun_oneEntry {plan : AutomationExecutionPlan}
    (h : stepRun host plan run inputs = .ok (outcome, some write)) :
    OneEntry run.id inputs.traceLength write := by
  have heffect := stepRun_effect h
  obtain ⟨nodeId, kind, details, hwritten⟩ := heffect.written
  rw [hwritten]
  exact stepWrite_oneEntry heffect.effect.kept.1.id

end

end HomeMagic
