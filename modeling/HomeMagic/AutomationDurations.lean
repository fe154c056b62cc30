import HomeMagic.AutomationStepEffects

/-! Durable intervals of conditions: what one evaluation asks for, and which timers it
reads. The value of a condition does not depend on what was asked before it. -/
namespace HomeMagic
open List

mutual
def ResolvedAutomationCondition.intervals :
    ResolvedAutomationCondition → List (ResolvedAutomationCondition × ℕ)
  | .all conditions | .any conditions => intervalsOf conditions
  | .not condition => condition.intervals
  | .stateDuration condition durationMs => (condition, durationMs) :: condition.intervals
  | _ => []

def intervalsOf : List ResolvedAutomationCondition → List (ResolvedAutomationCondition × ℕ)
  | [] => []
  | condition :: rest => condition.intervals ++ intervalsOf rest
end

section
variable (host : EvaluatorHost) (now : Instant) (snapshot : FoundationSnapshot)
  (runId : AutomationRunId) (n : AutomationPlanNodeId) (durations : List AutomationConditionDuration)
  (timers : List AutomationTimer) (vars : Variables)

def evaluatedAt (condition : ResolvedAutomationCondition) (s : DurationState) :
    Except AutomationEvaluationError Bool × DurationState :=
  evaluateCondition host (runtimeContext host now snapshot runId n durations timers) vars condition s

def ValueIs (condition : ResolvedAutomationCondition) (value : Bool) : Prop :=
  ∀ s, (evaluatedAt host now snapshot runId n durations timers vars condition s).1 = .ok value

theorem holdDuration_value (hash : String) (durationMs : ℕ) (s s' : DurationState) :
    (holdDuration now runId n durations timers hash durationMs s).1 =
      (holdDuration now runId n durations timers hash durationMs s').1 := by
  unfold holdDuration
  split
  · split
    · rfl
    split
    · rfl
    split <;> rfl
  · split <;> rfl

mutual
theorem evaluateCondition_value : ∀ (condition : ResolvedAutomationCondition) (s s' : DurationState),
    (evaluateCondition host (runtimeContext host now snapshot runId n durations timers) vars
      condition s).1 = (evaluateCondition host (runtimeContext host now snapshot runId n durations
        timers) vars condition s').1
  | .literal value, s, s' => by rw [evaluateCondition, evaluateCondition]
  | .compare left operator right, s, s' => by
    rw [evaluateCondition, evaluateCondition]
    rfl
  | .all conditions, s, s' => by
    rw [evaluateCondition, evaluateCondition]
    exact evaluateAll_value conditions s s'
  | .any conditions, s, s' => by
    rw [evaluateCondition, evaluateCondition]
    exact evaluateAny_value conditions s s'
  | .not condition, s, s' => by
    rw [evaluateCondition, evaluateCondition]
    dsimp only
    rw [evaluateCondition_value condition s s']
  | .timeWindow timezone start stop, s, s' => by
    rw [evaluateCondition, evaluateCondition]
    rfl
  | .stateDuration condition durationMs, s, s' => by
    have hinner := evaluateCondition_value condition s s'
    rw [evaluateCondition, evaluateCondition]
    simp only [runtimeContext] at hinner ⊢
    split
    · rfl
    rw [hinner]
    split
    · rfl
    · rfl
    · exact holdDuration_value now runId n durations timers _ _ _ _

theorem evaluateAll_value : ∀ (conditions : List ResolvedAutomationCondition) (s s' : DurationState),
    (evaluateAll host (runtimeContext host now snapshot runId n durations timers) vars
      conditions s).1 = (evaluateAll host (runtimeContext host now snapshot runId n durations
        timers) vars conditions s').1
  | [], s, s' => by rw [evaluateAll, evaluateAll]
  | condition :: rest, s, s' => by
    rw [evaluateAll, evaluateAll, evaluateCondition_value condition s s']
    split
    · exact evaluateAll_value rest _ _
    · rfl
    · rfl

theorem evaluateAny_value : ∀ (conditions : List ResolvedAutomationCondition) (s s' : DurationState),
    (evaluateAny host (runtimeContext host now snapshot runId n durations timers) vars
      conditions s).1 = (evaluateAny host (runtimeContext host now snapshot runId n durations
        timers) vars conditions s').1
  | [], s, s' => by rw [evaluateAny, evaluateAny]
  | condition :: rest, s, s' => by
    rw [evaluateAny, evaluateAny, evaluateCondition_value condition s s']
    split
    · rfl
    · exact evaluateAny_value rest _ _
    · rfl
end

inductive Requested (intervals : List (ResolvedAutomationCondition × ℕ)) :
    RuntimeDurationRequest → Prop
  | start {condition : ResolvedAutomationCondition} {durationMs : ℕ} {hash : String}
      {readyAt : Instant} (hl : (condition, durationMs) ∈ intervals)
      (hh : host.conditionHash condition durationMs = some hash)
      (hv : ValueIs host now snapshot runId n durations timers vars condition true)
      (hf : durations.find? (fun duration => duration.conditionHash == hash) = none)
      (hr : addMillis now durationMs = some readyAt) :
      Requested intervals (.start
        ⟨n, hash, durationMs, readyAt, ⟨runId, n, .stateDuration, timestampMillis readyAt⟩, .pending⟩
        ⟨⟨runId, n, .stateDuration, timestampMillis readyAt⟩, runId, n, .stateDuration, readyAt,
          .pending⟩)
  | pending : Requested intervals .pending
  | mature {condition : ResolvedAutomationCondition} {durationMs : ℕ} {hash : String}
      {duration : AutomationConditionDuration} {timer : AutomationTimer}
      (hh : host.conditionHash condition durationMs = some hash)
      (hv : ValueIs host now snapshot runId n durations timers vars condition true)
      (hf : durations.find? (fun duration => duration.conditionHash == hash) = some duration)
      (hp : duration.phase = .pending)
      (ht : timers.find? (fun timer => timer.id == duration.timerId) = some timer)
      (hready : timer.state = .ready) : Requested intervals (.mature hash timer)

structure Asks (intervals : List (ResolvedAutomationCondition × ℕ)) (s s' : DurationState) : Prop where
  invalid : ∀ hash ∈ s'.invalid, hash ∈ s.invalid ∨ ∃ condition durationMs,
    host.conditionHash condition durationMs = some hash ∧
    ValueIs host now snapshot runId n durations timers vars condition false
  request : s'.request = s.request ∨ ∃ request, s'.request = some request ∧
    Requested host now snapshot runId n durations timers vars intervals request

end

section
variable {host : EvaluatorHost} {now : Instant} {snapshot : FoundationSnapshot}
  {runId : AutomationRunId} {n : AutomationPlanNodeId} {durations : List AutomationConditionDuration}
  {timers : List AutomationTimer} {vars : Variables}
variable {intervals intervals' : List (ResolvedAutomationCondition × ℕ)} {condition : ResolvedAutomationCondition}
  {hash : String}

theorem Requested.mono (hsub : intervals ⊆ intervals') {request : RuntimeDurationRequest}
    (h : Requested host now snapshot runId n durations timers vars intervals request) :
    Requested host now snapshot runId n durations timers vars intervals' request := by
  cases h with
  | start hl hh hv hf hr => exact .start (hsub hl) hh hv hf hr
  | pending => exact .pending
  | mature hh hv hf hp ht hready => exact .mature hh hv hf hp ht hready

theorem Asks.refl (intervals : List (ResolvedAutomationCondition × ℕ)) (s : DurationState) :
    Asks host now snapshot runId n durations timers vars intervals s s :=
  ⟨fun _ hmem => .inl hmem, .inl rfl⟩

theorem Asks.trans {a b c : DurationState} (h : Asks host now snapshot runId n durations timers vars intervals a b)
    (h' : Asks host now snapshot runId n durations timers vars intervals b c) :
    Asks host now snapshot runId n durations timers vars intervals a c := by
  refine ⟨?_, ?_⟩
  · intro hash hmem
    rcases h'.invalid hash hmem with hmem | hnew
    · exact h.invalid hash hmem
    · exact .inr hnew
  · rcases h'.request with hsame | hnew
    · rw [hsame]
      exact h.request
    · exact .inr hnew

theorem Asks.mono (hsub : intervals ⊆ intervals') {s s' : DurationState}
    (h : Asks host now snapshot runId n durations timers vars intervals s s') :
    Asks host now snapshot runId n durations timers vars intervals' s s' := by
  refine ⟨h.invalid, ?_⟩
  rcases h.request with hsame | ⟨request, hrequest, hfor⟩
  · exact .inl hsame
  · exact .inr ⟨request, hrequest, hfor.mono hsub⟩

theorem holdDuration_asks {durationMs : ℕ} (hl : (condition, durationMs) ∈ intervals)
    (hh : host.conditionHash condition durationMs = some hash)
    (hv : ValueIs host now snapshot runId n durations timers vars condition true) (s : DurationState) :
    Asks host now snapshot runId n durations timers vars intervals s
      (holdDuration now runId n durations timers hash durationMs s).2 := by
  unfold holdDuration
  split
  · rename_i duration hfound
    split
    · exact .refl _ _
    rename_i hphase
    split
    · exact .refl _ _
    rename_i timer htimer
    split
    · exact ⟨fun _ hmem => .inl hmem, .inr ⟨_, rfl, .pending⟩⟩
    · rename_i hready
      exact ⟨fun _ hmem => .inl hmem, .inr ⟨_, rfl, .mature hh hv hfound hphase htimer hready⟩⟩
    · exact .refl _ _
    · exact .refl _ _
  · rename_i hnone
    split
    · exact .refl _ _
    · rename_i hready
      exact ⟨fun _ hmem => .inl hmem, .inr ⟨_, rfl, .start hl hh hv hnone hready⟩⟩

mutual
/-- What an evaluation asks for, by recursion on the condition. -/
theorem evaluateCondition_asks : ∀ (condition : ResolvedAutomationCondition) (s : DurationState),
    Asks host now snapshot runId n durations timers vars condition.intervals s (evaluateCondition host
      (runtimeContext host now snapshot runId n durations timers) vars condition s).2
  | .literal value, s => by
    rw [evaluateCondition]
    exact .refl _ _
  | .compare left operator right, s => by
    rw [evaluateCondition]
    exact .refl _ _
  | .all conditions, s => by
    rw [evaluateCondition, ResolvedAutomationCondition.intervals]
    exact evaluateAll_asks conditions s
  | .any conditions, s => by
    rw [evaluateCondition, ResolvedAutomationCondition.intervals]
    exact evaluateAny_asks conditions s
  | .not condition, s => by
    rw [evaluateCondition, ResolvedAutomationCondition.intervals]
    exact evaluateCondition_asks condition s
  | .timeWindow timezone start stop, s => by
    rw [evaluateCondition]
    exact .refl _ _
  | .stateDuration condition durationMs, s => by
    have hinner := (evaluateCondition_asks condition s).mono
      (subset_cons_self (condition, durationMs) condition.intervals)
    have hvalue := evaluateCondition_value host now snapshot runId n durations timers vars condition s
    rw [evaluateCondition, ResolvedAutomationCondition.intervals]
    simp only [runtimeContext] at hinner hvalue ⊢
    split
    · exact .refl _ _
    rename_i hash hhash
    split
    · exact hinner
    · -- the interval is dropped because its condition is false
      rename_i hfalse
      refine hinner.trans ⟨?_, .inl rfl⟩
      intro other hmem
      rcases mem_insert_iff.mp hmem with rfl | hmem
      · exact .inr ⟨condition, durationMs, hhash, fun s' => (hvalue s').symm.trans hfalse⟩
      · exact .inl hmem
    · rename_i htrue
      refine hinner.trans (holdDuration_asks mem_cons_self hhash ?_ _)
      exact fun s' => (hvalue s').symm.trans htrue

theorem evaluateAll_asks : ∀ (conditions : List ResolvedAutomationCondition) (s : DurationState),
    Asks host now snapshot runId n durations timers vars (intervalsOf conditions) s (evaluateAll host
      (runtimeContext host now snapshot runId n durations timers) vars conditions s).2
  | [], s => by
    rw [evaluateAll]
    exact .refl _ _
  | condition :: rest, s => by
    have hhead := (evaluateCondition_asks condition s).mono
      (subset_append_left condition.intervals (intervalsOf rest))
    rw [evaluateAll, intervalsOf]
    split
    · exact hhead.trans ((evaluateAll_asks rest _).mono (subset_append_right _ _))
    · exact hhead
    · exact hhead

theorem evaluateAny_asks : ∀ (conditions : List ResolvedAutomationCondition) (s : DurationState),
    Asks host now snapshot runId n durations timers vars (intervalsOf conditions) s (evaluateAny host
      (runtimeContext host now snapshot runId n durations timers) vars conditions s).2
  | [], s => by
    rw [evaluateAny]
    exact .refl _ _
  | condition :: rest, s => by
    have hhead := (evaluateCondition_asks condition s).mono
      (subset_append_left condition.intervals (intervalsOf rest))
    rw [evaluateAny, intervalsOf]
    split
    · exact hhead
    · exact hhead.trans ((evaluateAny_asks rest _).mono (subset_append_right _ _))
    · exact hhead
end

def EvaluatorHost.HashesApart (host : EvaluatorHost) : Prop :=
  ∀ condition durationMs condition' durationMs' hash,
    host.conditionHash condition durationMs = some hash →
    host.conditionHash condition' durationMs' = some hash → condition = condition'

theorem mature_not_invalid (ha : host.HashesApart) {timer : AutomationTimer}
    (hr : (evaluatedAt host now snapshot runId n durations timers vars condition ⟨none, []⟩).2.request =
      some (.mature hash timer)) :
    hash ∉ (evaluatedAt host now snapshot runId n durations timers vars condition
      ⟨none, []⟩).2.invalid := by
  have hasks : Asks host now snapshot runId n durations timers vars condition.intervals ⟨none, []⟩
      (evaluatedAt host now snapshot runId n durations timers vars condition ⟨none, []⟩).2 :=
    evaluateCondition_asks condition ⟨none, []⟩
  intro hmem
  rcases hasks.invalid hash hmem with hnil | ⟨refuted, durationMs, hhash, hfalse⟩
  · exact absurd hnil not_mem_nil
  rcases hasks.request with hnone | ⟨request, hsome, hrequested⟩
  · rw [hr] at hnone
    cases hnone
  rw [hr] at hsome
  cases hsome
  cases hrequested with
  | mature hh hv hf hp ht hready =>
    have hsame := ha _ _ _ _ _ hhash hh
    have htrue := hv ⟨none, []⟩
    rw [← hsame, hfalse] at htrue
    cases htrue

end

structure Loads (inputs : StepInputs) (pending : List AutomationConditionDuration)
    (timers : List AutomationTimer) : Prop where
  nodup : timers.Nodup
  each : ∀ timer ∈ timers, ∃ duration ∈ pending, inputs.timer duration.timerId = some (some timer)
  every : ∀ duration ∈ pending, ∃ timer ∈ timers, inputs.timer duration.timerId = some (some timer)

theorem loadDurationTimers_loads {inputs : StepInputs} {pending : List AutomationConditionDuration}
    {timers : List AutomationTimer} (h : loadDurationTimers inputs pending = .ok timers) :
    Loads inputs pending timers := by
  induction pending generalizing timers with
  | nil =>
    cases h
    exact ⟨nodup_nil, fun _ hmem => absurd hmem not_mem_nil,
      fun _ hmem => absurd hmem not_mem_nil⟩
  | cons duration rest ih =>
    rw [loadDurationTimers] at h
    split at h
    · cases h
    · cases h
    rename_i timer htimer
    split at h
    · rename_i loaded hloaded
      cases h
      have hrest := ih hloaded
      refine ⟨hrest.nodup.insert, ?_, ?_⟩
      · intro other hmem
        rcases mem_insert_iff.mp hmem with rfl | hmem
        · exact ⟨duration, mem_cons_self, htimer⟩
        · obtain ⟨source, hsource, hread⟩ := hrest.each other hmem
          exact ⟨source, mem_cons_of_mem _ hsource, hread⟩
      · intro other hmem
        rcases mem_cons.mp hmem with rfl | hmem
        · exact ⟨timer, mem_insert_self, htimer⟩
        · obtain ⟨source, hsource, hread⟩ := hrest.every other hmem
          exact ⟨source, mem_insert_of_mem hsource, hread⟩
    · cases h

end HomeMagic
