import HomeMagic.AutomationSimulator
import HomeMagic.Fallible

/-! The rounds of the simulator's loop. A round visits one node; what it leads to decides which
rounds follow. -/
namespace HomeMagic

/-- What a round leads to. A failure policy that goes on does so without the marker of the group. -/
inductive Visit
  | ends (flow : Flow)
  | goes (next : Option AutomationPlanNodeId)
  | goesUnmarked (next : AutomationPlanNodeId)
  | group (kind : AutomationRunContinuationKind) (branches : List AutomationPlanNodeId)
      (join : Option AutomationPlanNodeId)

def Visit.isUnmarked : Visit → Bool
  | goesUnmarked _ => true
  | _ => false

def visitFailure (policy : AutomationPlanFailurePolicy) (following : Option AutomationPlanNodeId) : Visit :=
  match policy with
  | .stopRun => .ends .stopRun
  | .stopBranch => .ends .stopBranch
  | .continue => following.elim (.ends .completed) .goesUnmarked
  | .fallback entry => (entry.or following).elim (.ends .completed) .goesUnmarked

def AutomationRunContinuationKind.decided : AutomationRunContinuationKind → Flow → Option Bool
  | parallel, .stopRun | race, .stopRun => some false
  | race, .completed => some true
  | _, _ => none

def AutomationRunContinuationKind.exhausted : AutomationRunContinuationKind → Bool
  | parallel => true
  | race => false

namespace StepInterpreter
variable (host : EvaluatorHost) (fixture : AutomationSimulationFixture)

def visitNode (nodeId : AutomationPlanNodeId) (i : StepInterpreter) :
    Except AutomationSimulationError (Visit × StepInterpreter) := do
  let i ← consumeBudget fixture i
  match fixture.plan.find nodeId with
  | none => .error (.missingNode nodeId)
  | some .complete => do
    let i ← i.record fixture .outcome (some nodeId) [("status", .string "completed")]
    .ok (.ends .completed, i)
  | some (.delay durationMs next) => do
    let ready ← simulatedAfter i.ports.now durationMs
    let i ← record fixture { i with ports := i.ports.advanceTo ready } .timer (some nodeId)
      [("duration_ms", .durationMillis durationMs), ("event", .string "delay_ready")]
    .ok (.goes next, i)
  | some (.command node) => do
    let (confirmed, i) ← attemptCommand fixture nodeId node 0 node.retry.maximumRetries i
    .ok (if confirmed then .goes node.next else visitFailure node.onFailure node.next, i)
  | some (.wait condition timeoutMs onTimeout next) => do
    let deadline ← simulatedAfter i.ports.now timeoutMs
    let (satisfied, i) ← evaluate host i condition
    let (satisfied, i) ←
      if satisfied then .ok (true, i) else awaitCondition host condition deadline i.ports.changes.length i
    if satisfied then do
      let i ← i.record fixture .condition (some nodeId) [("result", .boolean true)]
      .ok (.goes next, i)
    else do
      let i ← record fixture { i with ports := i.ports.advanceTo deadline } .timer (some nodeId)
        [("event", .string "wait_timeout")]
      .ok (visitFailure onTimeout next, i)
  | some (.setVariable name value next) => do
    let value ← evaluateValue i value
    let i ← record fixture { i with vars := insertVariable name value i.vars } .variable (some nodeId)
      [("name", .string name), ("value", value)]
    .ok (.goes next, i)
  | some (.branch condition thenNode elseNode join) => do
    let (selected, i) ← evaluate host i condition
    let i ← i.record fixture .branch (some nodeId) [("then", .boolean selected)]
    .ok (.goes ((if selected then thenNode else elseNode).or join), i)
  | some (.group kind branches _ join) => .ok (.group kind branches join, i)
  | some (.join next) => .ok (.goes next, i)

def runGroup (run : AutomationPlanNodeId → StepInterpreter → Except AutomationSimulationError (Flow × StepInterpreter))
    (kind : AutomationRunContinuationKind) : List AutomationPlanNodeId → StepInterpreter →
      Except AutomationSimulationError (Bool × StepInterpreter)
  | [], i => .ok (kind.exhausted, i)
  | branch :: rest, i => do
    let (flow, i) ← run branch i
    match kind.decided flow with
    | some follows => .ok (follows, i)
    | none => runGroup run kind rest i

theorem runGroup_parallel (run : AutomationPlanNodeId → StepInterpreter →
      Except AutomationSimulationError (Flow × StepInterpreter)) (branches : List AutomationPlanNodeId)
    (i : StepInterpreter) : runParallel run branches i = (runGroup run .parallel branches i).map
      (fun decided => (!decided.1, decided.2)) := by
  induction branches generalizing i with
  | nil => rfl
  | cons branch rest ih =>
    rw [runParallel, runGroup]
    cases run branch i with
    | error error => rfl
    | ok ran =>
      obtain ⟨flow, i⟩ := ran
      cases flow with
      | completed => exact ih i
      | stopRun => rfl
      | stopBranch => exact ih i

theorem runGroup_race (run : AutomationPlanNodeId → StepInterpreter →
      Except AutomationSimulationError (Flow × StepInterpreter)) (branches : List AutomationPlanNodeId)
    (i : StepInterpreter) : runRace run branches i = runGroup run .race branches i := by
  induction branches generalizing i with
  | nil => rfl
  | cons branch rest ih =>
    rw [runRace, runGroup]
    cases run branch i with
    | error error => rfl
    | ok ran =>
      obtain ⟨flow, i⟩ := ran
      cases flow with
      | completed => rfl
      | stopRun => rfl
      | stopBranch => exact ih i

def follow (run : AutomationPlanNodeId → StepInterpreter → Except AutomationSimulationError (Flow × StepInterpreter))
    (next : Option AutomationPlanNodeId) (i : StepInterpreter) :
    Except AutomationSimulationError (Flow × StepInterpreter) :=
  next.elim (.ok (.completed, i)) (fun next => run next i)

def resume (run : AutomationPlanNodeId → Option AutomationPlanNodeId → StepInterpreter →
      Except AutomationSimulationError (Flow × StepInterpreter)) (stopBefore : Option AutomationPlanNodeId)
    (visit : Visit) (i : StepInterpreter) : Except AutomationSimulationError (Flow × StepInterpreter) :=
  match visit with
  | .ends flow => .ok (flow, i)
  | .goes next => follow (fun next i => run next stopBefore i) next i
  | .goesUnmarked next => run next none i
  | .group kind branches join => do
    let (follows, i) ← runGroup (fun branch i => run branch join i) kind branches i
    if follows then follow (fun next i => run next stopBefore i) join i else .ok (.stopRun, i)

theorem resume_visitFailure (run : AutomationPlanNodeId → Option AutomationPlanNodeId → StepInterpreter →
      Except AutomationSimulationError (Flow × StepInterpreter)) (stopBefore : Option AutomationPlanNodeId)
    (policy : AutomationPlanFailurePolicy) (following : Option AutomationPlanNodeId) (i : StepInterpreter) :
    resume run stopBefore (visitFailure policy following) i =
      applyFailure (fun next i => run next none i) policy following i := by
  cases policy with
  | stopRun => rfl
  | stopBranch => rfl
  | «continue» => cases following <;> rfl
  | fallback entry => cases entry <;> cases following <;> rfl

/-- Every round of the loop visits a node and goes on from there. -/
theorem executeFrom_visit (fuel : ℕ) (nodeId : AutomationPlanNodeId) (stopBefore : Option AutomationPlanNodeId)
    (i : StepInterpreter) (hnode : some nodeId ≠ stopBefore) :
    executeFrom host fixture (fuel + 1) nodeId stopBefore i =
      (visitNode host fixture nodeId i).bind (fun visited =>
        resume (executeFrom host fixture fuel) stopBefore visited.1 visited.2) := by
  rw [executeFrom, if_neg hnode]
  unfold visitNode
  -- both sides spend the budget, find the node and do what its kind says
  cases hbudget : consumeBudget fixture i with
  | error error => rfl
  | ok i =>
    simp only [bind, Except.bind]
    cases hfind : fixture.plan.find nodeId with
    | none => rfl
    | some kind =>
      cases kind with
      | complete =>
        dsimp only
        cases i.record fixture .outcome (some nodeId) [("status", .string "completed")] <;> rfl
      | delay durationMs next =>
        dsimp only
        cases simulatedAfter i.ports.now durationMs with
        | error error => rfl
        | ok ready =>
          dsimp only
          cases record fixture { i with ports := i.ports.advanceTo ready } .timer (some nodeId)
            [("duration_ms", .durationMillis durationMs), ("event", .string "delay_ready")] <;> rfl
      | command node =>
        dsimp only
        cases attemptCommand fixture nodeId node 0 node.retry.maximumRetries i with
        | error error => rfl
        | ok attempted =>
          obtain ⟨confirmed, i⟩ := attempted
          cases confirmed with
          | true => rfl
          | false => exact (resume_visitFailure _ _ _ _ _).symm
      | wait condition timeoutMs onTimeout next =>
        dsimp only
        cases simulatedAfter i.ports.now timeoutMs with
        | error error => rfl
        | ok deadline =>
          dsimp only
          cases evaluate host i condition with
          | error error => rfl
          | ok first =>
            obtain ⟨satisfied, i⟩ := first
            cases satisfied with
            | true =>
              simp only [if_true]
              cases i.record fixture .condition (some nodeId) [("result", .boolean true)] <;> rfl
            | false =>
              simp only [Bool.false_eq_true, if_false]
              cases awaitCondition host condition deadline i.ports.changes.length i with
              | error error => rfl
              | ok waited =>
                obtain ⟨satisfied, i⟩ := waited
                cases satisfied with
                | true =>
                  simp only [if_true]
                  cases i.record fixture .condition (some nodeId) [("result", .boolean true)] <;> rfl
                | false =>
                  simp only [Bool.false_eq_true, if_false]
                  cases record fixture { i with ports := i.ports.advanceTo deadline } .timer (some nodeId)
                    [("event", .string "wait_timeout")] with
                  | error error => rfl
                  | ok i => exact (resume_visitFailure _ _ _ _ _).symm
      | setVariable name value next =>
        dsimp only
        cases evaluateValue i value with
        | error error => rfl
        | ok value =>
          dsimp only
          cases record fixture { i with vars := insertVariable name value i.vars } .variable (some nodeId)
            [("name", .string name), ("value", value)] <;> rfl
      | branch condition thenNode elseNode join =>
        dsimp only
        cases evaluate host i condition with
        | error error => rfl
        | ok selected =>
          obtain ⟨selected, i⟩ := selected
          dsimp only
          cases i.record fixture .branch (some nodeId) [("then", .boolean selected)] <;> rfl
      | group kind branches maximumParallel join =>
        cases kind with
        | parallel =>
          dsimp only [resume]
          rw [runGroup_parallel]
          cases runGroup (fun branch i => executeFrom host fixture fuel branch join i) .parallel branches i with
          | error error => rfl
          | ok decided =>
            obtain ⟨follows, i⟩ := decided
            cases follows <;> rfl
        | race =>
          dsimp only [resume]
          rw [runGroup_race]
          cases runGroup (fun branch i => executeFrom host fixture fuel branch join i) .race branches i with
          | error error => rfl
          | ok decided => rfl
      | join next => rfl

end StepInterpreter

structure SimulationRound where
  nodeId : AutomationPlanNodeId
  stopBefore : Option AutomationPlanNodeId
  unmarked : Bool

abbrev LoggedRun (α : Type) : Type :=
  Option (List SimulationRound × Except AutomationSimulationError (α × StepInterpreter))

def LoggedRun.andThen {α β : Type} (ran : LoggedRun α) (rest : α → StepInterpreter → LoggedRun β) : LoggedRun β :=
  match ran with
  | none => none
  | some (rounds, .error error) => some (rounds, .error error)
  | some (rounds, .ok (value, i)) => (rest value i).map (fun later => (rounds ++ later.1, later.2))

namespace StepInterpreter

def logGroup (run : AutomationPlanNodeId → StepInterpreter → LoggedRun Flow) (kind : AutomationRunContinuationKind) :
    List AutomationPlanNodeId → StepInterpreter → LoggedRun Bool
  | [], i => some ([], .ok (kind.exhausted, i))
  | branch :: rest, i => (run branch i).andThen (fun flow i =>
    match kind.decided flow with
    | some follows => some ([], .ok (follows, i))
    | none => logGroup run kind rest i)

def logFollow (run : AutomationPlanNodeId → StepInterpreter → LoggedRun Flow) (next : Option AutomationPlanNodeId)
    (i : StepInterpreter) : LoggedRun Flow :=
  next.elim (some ([], .ok (.completed, i))) (fun next => run next i)

def logResume (run : AutomationPlanNodeId → Option AutomationPlanNodeId → StepInterpreter → LoggedRun Flow)
    (stopBefore : Option AutomationPlanNodeId) (visit : Visit) (i : StepInterpreter) : LoggedRun Flow :=
  match visit with
  | .ends flow => some ([], .ok (flow, i))
  | .goes next => logFollow (fun next i => run next stopBefore i) next i
  | .goesUnmarked next => run next none i
  | .group kind branches join => (logGroup (fun branch i => run branch join i) kind branches i).andThen
      (fun follows i => if follows then logFollow (fun next i => run next stopBefore i) join i
        else some ([], .ok (.stopRun, i)))

section
variable (host : EvaluatorHost) (fixture : AutomationSimulationFixture)

def logFrom : ℕ → AutomationPlanNodeId → Option AutomationPlanNodeId → StepInterpreter → LoggedRun Flow
  | 0, _, _, _ => none
  | fuel + 1, nodeId, stopBefore, i =>
    if some nodeId = stopBefore then some ([], .ok (.completed, i))
    else match visitNode host fixture nodeId i with
      | .error error => some ([⟨nodeId, stopBefore, false⟩], .error error)
      | .ok (visit, i) => (logResume (logFrom fuel) stopBefore visit i).map
          (fun later => (⟨nodeId, stopBefore, visit.isUnmarked⟩ :: later.1, later.2))

end
end StepInterpreter

variable
  {plain : AutomationPlanNodeId → StepInterpreter → Except AutomationSimulationError (Flow × StepInterpreter)}
  {α β : Type} {ran : LoggedRun α} {rest : α → StepInterpreter → LoggedRun β}
  {run : AutomationPlanNodeId → StepInterpreter → LoggedRun Flow}

theorem LoggedRun.andThen_spec {rounds : List SimulationRound}
    {result : Except AutomationSimulationError (β × StepInterpreter)} (h : ran.andThen rest = some (rounds, result)) :
    (∃ error, ran = some (rounds, .error error) ∧ result = .error error) ∨
    ∃ first value i later, ran = some (first, .ok (value, i)) ∧ rest value i = some (later, result) ∧
      rounds = first ++ later := by
  unfold andThen at h
  split at h
  · cases h
  next error =>
    cases h
    exact .inl ⟨error, rfl, rfl⟩
  next first value i =>
    obtain ⟨⟨later, result⟩, hlater, heq⟩ := Option.map_eq_some_iff.mp h
    cases heq
    exact .inr ⟨first, value, i, later, rfl, hlater, rfl⟩

theorem LoggedRun.andThen_ne_none (hran : ran ≠ none)
    (hrest : ∀ rounds value i, ran = some (rounds, .ok (value, i)) → rest value i ≠ none) :
    ran.andThen rest ≠ none := by
  unfold andThen
  split
  next hnone => exact absurd rfl hran
  · exact Option.some_ne_none _
  next rounds value i =>
    rw [Ne, Option.map_eq_none_iff]
    exact hrest rounds value i rfl

namespace StepInterpreter
variable {host : EvaluatorHost} {fixture : AutomationSimulationFixture} {fuel : ℕ} {nodeId : AutomationPlanNodeId}
  {stopBefore : Option AutomationPlanNodeId} {i : StepInterpreter} {rounds : List SimulationRound}
  {result : Except AutomationSimulationError (Flow × StepInterpreter)}

theorem logFrom_cases (h : logFrom host fixture (fuel + 1) nodeId stopBefore i = some (rounds, result)) :
    (some nodeId = stopBefore ∧ rounds = [] ∧ result = .ok (.completed, i)) ∨
    (some nodeId ≠ stopBefore ∧ ((∃ error, visitNode host fixture nodeId i = .error error ∧
        rounds = [⟨nodeId, stopBefore, false⟩] ∧ result = .error error) ∨
      ∃ visit i' later, visitNode host fixture nodeId i = .ok (visit, i') ∧
        logResume (logFrom host fixture fuel) stopBefore visit i' = some (later, result) ∧
        rounds = ⟨nodeId, stopBefore, visit.isUnmarked⟩ :: later)) := by
  unfold logFrom at h
  split at h
  next hstop =>
    cases h
    exact .inl ⟨hstop, rfl, rfl⟩
  next hnode =>
    refine .inr ⟨hnode, ?_⟩
    split at h
    next error hvisit =>
      cases h
      exact .inl ⟨error, hvisit, rfl, rfl⟩
    next visit i' hvisit =>
      obtain ⟨⟨later, rest⟩, hlater, heq⟩ := Option.map_eq_some_iff.mp h
      cases heq
      exact .inr ⟨visit, i', later, hvisit, hlater, rfl⟩

theorem logGroup_eq
    (hrun : ∀ branch i rounds result, run branch i = some (rounds, result) → plain branch i = result)
    {kind : AutomationRunContinuationKind} {branches : List AutomationPlanNodeId}
    {decided : Except AutomationSimulationError (Bool × StepInterpreter)}
    (h : logGroup run kind branches i = some (rounds, decided)) : runGroup plain kind branches i = decided := by
  induction branches generalizing i rounds with
  | nil =>
    cases h
    rfl
  | cons branch rest ih =>
    rw [logGroup] at h
    rw [runGroup]
    rcases LoggedRun.andThen_spec h with ⟨error, hran, rfl⟩ | ⟨first, flow, i', later, hran, hlater, _⟩
    · rw [hrun _ _ _ _ hran]
      rfl
    · rw [hrun _ _ _ _ hran]
      simp only [bind, Except.bind]
      split at hlater
      next follows =>
        cases hlater
        rfl
      next => exact ih hlater

theorem logFollow_eq (hrun : ∀ next i rounds result, run next i = some (rounds, result) → plain next i = result)
    {next : Option AutomationPlanNodeId} (h : logFollow run next i = some (rounds, result)) :
    follow plain next i = result := by
  cases next with
  | none =>
    cases h
    rfl
  | some next => exact hrun next i rounds result h

theorem logResume_eq
    {run : AutomationPlanNodeId → Option AutomationPlanNodeId → StepInterpreter → LoggedRun Flow}
    {plain : AutomationPlanNodeId → Option AutomationPlanNodeId → StepInterpreter →
      Except AutomationSimulationError (Flow × StepInterpreter)}
    (hrun : ∀ node stop i rounds result, run node stop i = some (rounds, result) → plain node stop i = result)
    {visit : Visit} (h : logResume run stopBefore visit i = some (rounds, result)) :
    resume plain stopBefore visit i = result := by
  cases visit with
  | ends flow =>
    cases h
    rfl
  | goes next => exact logFollow_eq (fun next i => hrun next stopBefore i) h
  | goesUnmarked next => exact hrun next none i rounds result h
  | group kind branches join =>
    rw [logResume] at h
    unfold resume
    dsimp only
    rcases LoggedRun.andThen_spec h with ⟨error, hran, rfl⟩ | ⟨first, follows, i', later, hran, hlater, _⟩
    · rw [logGroup_eq (fun branch i => hrun branch join i) hran]
      rfl
    · rw [logGroup_eq (fun branch i => hrun branch join i) hran]
      simp only [bind, Except.bind]
      cases follows with
      | true => exact logFollow_eq (fun next i => hrun next stopBefore i) hlater
      | false =>
        cases hlater
        rfl

theorem logFrom_eq (h : logFrom host fixture fuel nodeId stopBefore i = some (rounds, result)) :
    executeFrom host fixture fuel nodeId stopBefore i = result := by
  induction fuel generalizing nodeId stopBefore i rounds result with
  | zero => cases h
  | succ fuel ih =>
    rcases logFrom_cases h with ⟨hstop, _, rfl⟩ | ⟨hnode, hround⟩
    · rw [executeFrom, if_pos hstop]
    rcases hround with ⟨error, hvisit, _, rfl⟩ | ⟨visit, i', later, hvisit, hlater, _⟩
    · rw [executeFrom_visit host fixture fuel nodeId stopBefore i hnode, hvisit]
      rfl
    · rw [executeFrom_visit host fixture fuel nodeId stopBefore i hnode, hvisit]
      exact logResume_eq (fun node stop i rounds result hrun => ih hrun) hlater

end StepInterpreter
end HomeMagic
