import HomeMagic.AutomationRunProgress
import HomeMagic.AutomationSimulatorBounds

/-! A simulated execution of a compiled plan visits each node at most once, as long as no branch goes on without
the marker of its group: the nodes of a branch form an interval that only its marker leads out of. -/
namespace HomeMagic
open List Fallible

variable {n fuel j : ℕ} {branches : List ℕ} {i' : StepInterpreter} {kind : AutomationPlanNodeKind}
  {result : Except AutomationSimulationError (Bool × StepInterpreter)} {simulated : AutomationSimulationResult}

/-- The nodes from `lo` to `hi` lead to the marker or down to nodes from `lo` on, and a group lies above its join. -/
structure Enclosed (e : CompilerEnv) (plan : AutomationExecutionPlan) (stop : Option ℕ) (lo hi : ℕ) : Prop where
  below : ∀ j : ℕ, stop = some j → j < lo
  refers : ∀ n kind, lo ≤ n → n < hi → NodeAt plan.nodes n kind →
    ∀ r ∈ kind.references, some r = stop ∨ lo ≤ r ∧ r < n
  groups : ∀ n kind branches maximumParallel join, lo ≤ n → n < hi →
    NodeAt plan.nodes n (.group kind branches maximumParallel join) →
      ∃ j, join = some j ∧ GroupAt e plan.nodes lo branches j n

structure VisitsOnce (lo hi : ℕ) (rounds : List SimulationRound) : Prop where
  within : ∀ n : ℕ, n ∈ rounds.map SimulationRound.nodeId → lo ≤ n ∧ n < hi
  nodup : (rounds.map SimulationRound.nodeId).Nodup

def MarkersKept (rounds : List SimulationRound) : Prop :=
  ∀ round ∈ rounds, round.unmarked = true → round.stopBefore = none

inductive LeadsOn (kind : AutomationPlanNodeKind) : Visit → Prop
  | complete (hkind : kind = .complete) : LeadsOn kind (.ends .completed)
  | failed {flow : Flow} (hflow : flow ≠ .completed) (hkind : kind.isComplete = false) : LeadsOn kind (.ends flow)
  | goes {r : ℕ} (hr : r ∈ kind.references) : LeadsOn kind (.goes (some r))
  | goesUnmarked {r : ℕ} (hr : r ∈ kind.references) : LeadsOn kind (.goesUnmarked r)
  | group {groupKind : AutomationRunContinuationKind} {branches : List ℕ} {maximumParallel : ℕ} {join : Option ℕ}
      (hkind : kind = .group groupKind branches maximumParallel join) : LeadsOn kind (.group groupKind branches join)

namespace VisitsOnce
variable {lo hi lo' hi' : ℕ} {first later : List SimulationRound}

theorem nil : VisitsOnce lo hi [] :=
  ⟨fun _ hn => absurd hn not_mem_nil, nodup_nil⟩

theorem single (n : ℕ) (stopBefore : Option AutomationPlanNodeId) (unmarked : Bool) :
    VisitsOnce n (n + 1) [⟨n, stopBefore, unmarked⟩] := by
  refine ⟨?_, nodup_singleton n⟩
  intro m hm
  rw [mem_singleton.mp hm]
  exact ⟨le_refl n, Nat.lt_succ_self n⟩

theorem mono (h : VisitsOnce lo hi first) (hlo : lo' ≤ lo) (hhi : hi ≤ hi') : VisitsOnce lo' hi' first :=
  ⟨fun n hn => ⟨hlo.trans (h.within n hn).1, (h.within n hn).2.trans_le hhi⟩, h.nodup⟩

theorem append (h : VisitsOnce lo hi first) (h' : VisitsOnce lo' hi' later) (hapart : hi ≤ lo' ∨ hi' ≤ lo) :
    VisitsOnce (min lo lo') (max hi hi') (first ++ later) := by
  refine ⟨?_, ?_⟩
  · intro n hn
    rw [map_append] at hn
    rcases mem_append.mp hn with hn | hn
    · have := h.within n hn
      omega
    · have := h'.within n hn
      omega
  · rw [map_append]
    refine h.nodup.append h'.nodup ?_
    intro n hn hn'
    have hfirst := h.within n hn
    have hlater := h'.within n hn'
    omega

end VisitsOnce

namespace MarkersKept
variable {first later : List SimulationRound}

theorem left (h : MarkersKept (first ++ later)) : MarkersKept first :=
  fun round hround => h round (mem_append_left later hround)

theorem right (h : MarkersKept (first ++ later)) : MarkersKept later :=
  fun round hround => h round (mem_append_right first hround)

end MarkersKept

variable {lo hi : ℕ}

theorem Region.enclosed {e : CompilerEnv} {plan : AutomationExecutionPlan} {actions : List AutomationAction}
    {entry : ℕ} (hb : Region e plan.nodes (.block actions j entry) lo hi) (hj : j < lo) :
    Enclosed e plan (some j) lo hi := by
  refine ⟨?_, ?_, ?_⟩
  · intro j' heq
    cases heq
    exact hj
  · intro n kind hlo hhi hk r hr
    obtain ⟨kind', hk', hem⟩ := hb.emitted n hlo hhi
    rw [hk.unique hk'] at hr
    exact (hem.references.2 r hr).imp (congrArg some) id
  · intro n kind branches maximumParallel join hlo hhi hk
    exact hb.groupAt hlo hhi hk

namespace CompiledPlan
variable {e : CompilerEnv} {plan : AutomationExecutionPlan} (h : CompiledPlan e plan)
include h

theorem enclosed : Enclosed e plan none 0 plan.nodes.length := by
  refine ⟨fun j heq => (nomatch heq), ?_, ?_⟩
  · intro n kind _ _ hk r hr
    exact .inr ⟨Nat.zero_le r, h.reference_lt hk hr⟩
  · intro n kind branches maximumParallel join _ _ hk
    obtain ⟨j, hj, hgroup⟩ := h.groupAt (h.find_iff.mpr hk)
    exact ⟨j, hj, hgroup.mono (Nat.zero_le 1)⟩

theorem leadsOn {visit : Visit} (hk : NodeAt plan.nodes n kind) (hleads : Leads kind visit) : LeadsOn kind visit := by
  have hnext (next : Option ℕ) (ho : next ∈ kind.exits) : LeadsOn kind (.goes next) := by
    obtain ⟨r, rfl, hr⟩ := h.exits_reference hk ho
    exact .goes hr
  have hfailure (policy : AutomationPlanFailurePolicy) (following : Option ℕ)
      (ho : policy.exit following ∈ kind.exits) (hkind : kind.isComplete = false) :
      LeadsOn kind (visitFailure policy following) := by
    obtain ⟨r, hexit, hr⟩ := h.exits_reference hk ho
    cases policy with
    | stopRun | stopBranch => exact .failed (by decide) hkind
    | «continue» =>
      have hfollowing : following = some r := hexit
      rw [hfollowing]
      exact .goesUnmarked hr
    | fallback entry =>
      have hentry : entry.or following = some r := hexit
      rw [visitFailure, hentry]
      exact .goesUnmarked hr
  cases hleads with
  | complete => exact .complete rfl
  | delay => exact hnext _ (mem_singleton.mpr rfl)
  | confirmed => exact hnext _ mem_cons_self
  | failed => exact hfailure _ _ (mem_cons_of_mem _ (mem_singleton.mpr rfl)) rfl
  | satisfied => exact hnext _ mem_cons_self
  | timedOut => exact hfailure _ _ (mem_cons_of_mem _ (mem_singleton.mpr rfl)) rfl
  | assigned => exact hnext _ (mem_singleton.mpr rfl)
  | branched selected =>
    refine hnext _ ?_
    cases selected with
    | true => exact mem_cons_self
    | false => exact mem_cons_of_mem _ (mem_singleton.mpr rfl)
  | group => exact .group rfl
  | @join next =>
    -- a join has a single reference
    rcases h.emitted_or_complete hk with ⟨_, hcomplete⟩ | ⟨_, hem⟩
    · cases hcomplete
    · cases hem with
      | join => exact .goes (mem_singleton.mpr rfl)

end CompiledPlan

namespace StepInterpreter
variable {host : EvaluatorHost} {fixture : AutomationSimulationFixture} {e : CompilerEnv} {i : StepInterpreter}
  {rounds : List SimulationRound}

theorem logGroup_visitsOnce {run : AutomationPlanNodeId → StepInterpreter → LoggedRun Flow}
    (hrun : ∀ actions branch lo hi i rounds result, Region e fixture.plan.nodes (.block actions j branch) lo hi →
      j < lo → run branch i = some (rounds, result) → MarkersKept rounds → VisitsOnce lo hi rounds)
    {kind : AutomationRunContinuationKind} {authored : List (List AutomationAction)}
    (hregion : Region e fixture.plan.nodes (.branches authored j branches) lo hi) (hj : j < lo)
    (hlog : logGroup run kind branches i = some (rounds, result)) (hkept : MarkersKept rounds) :
    VisitsOnce lo hi rounds := by
  induction branches generalizing authored lo i rounds with
  | nil =>
    cases hlog
    exact .nil
  | cons branch rest ih =>
    cases hregion with
    | @moreBranches actions authored _ _ _ mid _ _ hb hrest =>
      rw [logGroup] at hlog
      rcases LoggedRun.andThen_spec hlog with ⟨error, hran, _⟩ | ⟨first, flow, next, later, hran, hlater, rfl⟩
      · exact (hrun _ _ _ _ _ _ _ hb hj hran hkept).mono (le_refl lo) hrest.le
      · have hfirst := hrun _ _ _ _ _ _ _ hb hj hran hkept.left
        split at hlater
        · cases hlater
          rw [append_nil]
          exact hfirst.mono (le_refl lo) hrest.le
        · have hothers := ih hrest (hj.trans_le hb.le) hlater hkept.right
          exact (hfirst.append hothers (.inl (le_refl mid))).mono (by have := hb.le; omega) (by have := hrest.le; omega)

theorem logGroup_inside {kind : AutomationRunContinuationKind}
    (hgroup : GroupAt e fixture.plan.nodes lo branches j n)
    (hvisits : ∀ (branch lo hi : ℕ) i rounds result, Enclosed e fixture.plan (some j) lo hi →
      some branch = some j ∨ lo ≤ branch ∧ branch < hi →
      logFrom host fixture fuel branch (some j) i = some (rounds, result) → MarkersKept rounds →
      VisitsOnce lo (branch + 1) rounds)
    (hlog : logGroup (fun branch i => logFrom host fixture fuel branch (some j) i) kind branches i =
      some (rounds, result)) (hkept : MarkersKept rounds) : VisitsOnce (j + 1) n rounds := by
  obtain ⟨authored, _, _, hregion⟩ := hgroup.branches
  refine logGroup_visitsOnce ?_ hregion (Nat.lt_succ_self j) hlog hkept
  intro actions branch lo' hi' i rounds result hb hj hran hkept
  have hentry := hb.references branch (mem_singleton.mpr rfl)
  have hbranch := hvisits branch lo' hi' _ _ _ (hb.enclosed hj) (hentry.imp_left (congrArg some)) hran hkept
  have hle := hb.le
  simp only [Shape.next] at hentry
  exact hbranch.mono (le_refl lo') (by omega)

/-- By induction on the fuel: what follows a round stays below the node it visited. -/
theorem logFrom_visitsOnce (h : CompiledPlan e fixture.plan) {stop : Option ℕ}
    (henclosed : Enclosed e fixture.plan stop lo hi) (hnode : some n = stop ∨ lo ≤ n ∧ n < hi)
    {result : Except AutomationSimulationError (Flow × StepInterpreter)}
    (hlog : logFrom host fixture fuel n stop i = some (rounds, result)) (hkept : MarkersKept rounds) :
    VisitsOnce lo (n + 1) rounds := by
  induction fuel generalizing n stop lo hi i rounds result with
  | zero => cases hlog
  | succ fuel ih =>
    rcases logFrom_cases hlog with ⟨_, rfl, _⟩ | ⟨hne, hround⟩
    · exact .nil
    have hin : lo ≤ n ∧ n < hi := hnode.resolve_left hne
    rcases hround with ⟨error, _, rfl, _⟩ | ⟨visit, next, later, hvisit, hlater, rfl⟩
    · exact (VisitsOnce.single n stop false).mono hin.1 (le_refl _)
    have hkept' : MarkersKept later := fun round hround => hkept round (mem_cons_of_mem _ hround)
    -- it is enough that the later rounds stay below the node
    suffices hbelow : VisitsOnce lo n later by
      have hfirst := VisitsOnce.single n stop visit.isUnmarked
      exact (hfirst.append hbelow (.inr (le_refl n))).mono (by omega) (by omega)
    have hrefer (r : ℕ) (hr : some r = stop ∨ lo ≤ r ∧ r < n) {i : StepInterpreter} {rounds : List SimulationRound}
        (hran : logFrom host fixture fuel r stop i = some (rounds, result)) (hkept : MarkersKept rounds) :
        VisitsOnce lo n rounds := by
      have hless : r < n := by
        rcases hr with hr | hr
        · have := henclosed.below r hr.symm
          omega
        · exact hr.2
      refine (ih henclosed ?_ hran hkept).mono (le_refl lo) hless
      exact hr.imp_right (fun hr => ⟨hr.1, hr.2.trans hin.2⟩)
    obtain ⟨kind, start, hfind, hleads, _⟩ := visitNode_spec hvisit
    have hk := h.find_iff.mp hfind
    cases h.leadsOn hk hleads with
    | complete | failed =>
      cases hlater
      exact .nil
    | @goes r hr => exact hrefer r (henclosed.refers _ _ hin.1 hin.2 hk r hr) hlater hkept'
    | @goesUnmarked r hr =>
      -- the round went on without a marker, so there was none to keep
      have hstop : stop = none := hkept _ mem_cons_self rfl
      rw [logResume, ← hstop] at hlater
      exact hrefer r (henclosed.refers _ _ hin.1 hin.2 hk r hr) hlater hkept'
    | @group groupKind branches maximumParallel join hkind =>
      rw [hkind] at hk
      obtain ⟨j, rfl, hgroup⟩ := henclosed.groups _ _ _ _ _ hin.1 hin.2 hk
      have hge := hgroup.ge
      have hlt := hgroup.lt
      have hinside {i : StepInterpreter} {rounds : List SimulationRound}
          {result : Except AutomationSimulationError (Bool × StepInterpreter)}
          (hran : logGroup (fun branch i => logFrom host fixture fuel branch (some j) i) groupKind branches i =
            some (rounds, result)) (hkept : MarkersKept rounds) : VisitsOnce (j + 1) n rounds :=
        logGroup_inside hgroup (fun _ _ _ _ _ _ henclosed hnode => ih henclosed hnode) hran hkept
      rcases LoggedRun.andThen_spec hlater with ⟨error, hran, _⟩ | ⟨first, follows, joined, rest, hran, hrest, rfl⟩
      · exact (hinside hran hkept').mono (by omega) (le_refl n)
      have hfirst := hinside hran hkept'.left
      cases follows with
      | false =>
        cases hrest
        rw [append_nil]
        exact hfirst.mono (by omega) (le_refl n)
      | true =>
        have hjoin := ih (n := j) henclosed (.inr ⟨hge, by omega⟩) hrest hkept'.right
        exact (hfirst.append hjoin (.inr (le_refl _))).mono (by omega) (by omega)

theorem completions_cons (round : SimulationRound) (later : List SimulationRound) : completions fixture.plan
    (round :: later) = completions fixture.plan [round] + completions fixture.plan later := by
  unfold completions
  rw [← countP_append, singleton_append]

theorem completions_node (hfind : fixture.plan.find n = some kind) (stopBefore : Option AutomationPlanNodeId)
    (unmarked : Bool) :
    completions fixture.plan [⟨n, stopBefore, unmarked⟩] = if kind.isComplete then 1 else 0 := by
  unfold completions
  rw [countP_singleton, hfind]
  rfl

theorem completions_inside (h : CompiledPlan e fixture.plan) (hvisits : VisitsOnce (lo + 1) hi rounds) :
    completions fixture.plan rounds = 0 := by
  unfold completions
  rw [countP_eq_zero]
  intro round hround hcomplete
  obtain ⟨kind, hfind, hkind⟩ := (Option.any_eq_true _ _).mp hcomplete
  have hn := hvisits.within round.nodeId (List.mem_map_of_mem hround)
  rcases h.emitted_or_complete (h.find_iff.mp hfind) with ⟨hzero, _⟩ | ⟨_, hem⟩
  · rw [hzero] at hn
    omega
  · cases hem <;> cases hkind

/-- An execution that starts without a marker completes one complete node or none, as its flow says. -/
theorem logFrom_completions (h : CompiledPlan e fixture.plan) (hn : n < fixture.plan.nodes.length) {flow : Flow}
    (hlog : logFrom host fixture fuel n none i = some (rounds, .ok (flow, i'))) (hkept : MarkersKept rounds) :
    completions fixture.plan rounds = if flow = .completed then 1 else 0 := by
  induction fuel generalizing n i rounds with
  | zero => cases hlog
  | succ fuel ih =>
    rcases logFrom_cases hlog with ⟨hstop, _⟩ | ⟨_, ⟨error, _, _, herror⟩ | ⟨visit, next, later, hvisit, hlater, rfl⟩⟩
    · cases hstop
    · cases herror
    have hkept' : MarkersKept later := fun round hround => hkept round (mem_cons_of_mem _ hround)
    obtain ⟨kind, start, hfind, hleads, _⟩ := visitNode_spec hvisit
    have hk := h.find_iff.mp hfind
    rw [completions_cons, completions_node hfind]
    have hrefer (r : ℕ) (hr : r ∈ kind.references) {i : StepInterpreter}
        (hran : logFrom host fixture fuel r none i = some (later, .ok (flow, i'))) :
        (if kind.isComplete then 1 else 0) + completions fixture.plan later = if flow = .completed then 1 else 0 := by
      have hkind : kind.isComplete = false := by
        cases kind with
        | complete => cases hr
        | _ => rfl
      rw [hkind, ih ((h.reference_lt hk hr).trans hn) hran hkept']
      exact Nat.zero_add _
    cases h.leadsOn hk hleads with
    | complete hkind =>
      cases hlater
      rw [hkind]
      rfl
    | failed hflow hkind =>
      cases hlater
      rw [hkind, if_neg hflow]
      rfl
    | @goes r hr => exact hrefer r hr hlater
    | @goesUnmarked r hr => exact hrefer r hr hlater
    | @group groupKind branches maximumParallel join hkind =>
      rw [hkind] at hk
      obtain ⟨j, rfl, hgroup⟩ := h.groupAt (h.find_iff.mpr hk)
      rcases LoggedRun.andThen_spec hlater with ⟨error, _, herror⟩ | ⟨first, follows, joined, rest, hran, hrest, rfl⟩
      · cases herror
      have hfirst := logGroup_inside hgroup (fun _ _ _ _ _ _ henclosed hnode => logFrom_visitsOnce h henclosed hnode)
        hran hkept'.left
      have hjoin : completions fixture.plan rest = if flow = .completed then 1 else 0 := by
        cases follows with
        | false =>
          cases hrest
          rfl
        | true => exact ih (hgroup.lt.trans hk.lt_length) hrest hkept'.right
      have happend : completions fixture.plan (first ++ rest) = completions fixture.plan rest := by
        have hnone := completions_inside h hfirst
        unfold completions at hnone ⊢
        rw [countP_append, hnone, Nat.zero_add]
      rw [hkind, happend, hjoin]
      exact Nat.zero_add _

theorem acceptTrigger_advances {decided : Option AutomationSimulationStatus}
    (h : acceptTrigger host fixture i = .ok (decided, i')) : Advances fixture i i' := by
  unfold acceptTrigger at h
  dsimp only at h
  split at h
  · obtain ⟨next, hrecord, hrest⟩ := bind_inv h
    cases hrest
    exact advances_record (by decide) hrecord
  split at h
  · obtain ⟨next, hrecord, hrest⟩ := bind_inv h
    cases hrest
    exact advances_record (by decide) hrecord
  split at h
  · obtain ⟨next, hrecord, hrest⟩ := bind_inv h
    cases hrest
    exact advances_record (by decide) hrecord
  · obtain ⟨first, hrecord, hrest⟩ := bind_inv h
    have hfirst : Advances fixture i first := advances_record (by decide) hrecord
    split at hrest
    · cases hrest
      exact hfirst
    · obtain ⟨⟨accepted, next⟩, hevaluated, hrest⟩ := bind_inv hrest
      obtain ⟨last, hlast, hrest⟩ := bind_inv hrest
      cases hrest
      exact (hfirst.trans (advances_evaluate hevaluated)).trans (advances_record (by decide) hlast)

theorem advances_new_outcomes (h : Advances fixture (.new fixture) i) : outcomes i.trace = 0 :=
  h.outcomes

end StepInterpreter

variable {i : StepInterpreter}

section
open StepInterpreter
variable (host : EvaluatorHost) (traceHash : List AutomationTraceStep → Option String)
  (fixture : AutomationSimulationFixture)

def logSimulation (i : StepInterpreter) : LoggedRun Flow :=
  logFrom host fixture (fixture.plan.budget.maximumTraceSteps + 2) fixture.plan.entry none i

variable {host traceHash fixture}

theorem finish_spec {status : AutomationSimulationStatus}
    {finish : StepInterpreter → Except AutomationSimulationError AutomationSimulationResult}
    (hfinish : ∀ i simulated, finish i = .ok simulated → simulated.trace = i.trace)
    (h : (if status = .failed then do
      let i ← i.record fixture .outcome none [("status", .string "failed")]
      finish i
      else finish i) = .ok simulated) :
    ∃ last, simulated.trace = last.trace ∧ (status ≠ .failed ∧ last = i ∨
      status = .failed ∧ i.record fixture .outcome none [("status", .string "failed")] = .ok last) := by
  split at h
  next hfailed =>
    obtain ⟨last, hrecord, h⟩ := bind_inv h
    exact ⟨last, hfinish last simulated h, .inr ⟨hfailed, hrecord⟩⟩
  next hfailed => exact ⟨i, hfinish i simulated h, .inl ⟨hfailed, rfl⟩⟩

def finishedResult (traceHash : List AutomationTraceStep → Option String) (status : AutomationSimulationStatus)
    (i : StepInterpreter) : Except AutomationSimulationError AutomationSimulationResult :=
  match traceHash i.trace with
  | none => .error .traceHash
  | some traceHash => .ok ⟨status, i.trace, i.intents, i.vars, i.ports.now, traceHash⟩

theorem finishedResult_trace {status : AutomationSimulationStatus}
    (h : finishedResult traceHash status i = .ok simulated) :
    simulated.trace = i.trace := by
  unfold finishedResult at h
  split at h
  · cases h
  · cases h
    rfl

theorem simulateFixture_spec (h : simulateFixture host traceHash fixture = .ok simulated) : ∃ decided i last,
      acceptTrigger host fixture (.new fixture) = .ok (decided, i) ∧ simulated.trace = last.trace ∧
      ((∃ status, decided = some status ∧ (last = i ∨
          i.record fixture .outcome none [("status", .string "failed")] = .ok last)) ∨
        decided = none ∧ ∃ flow i', executeFrom host fixture (fixture.plan.budget.maximumTraceSteps + 2)
          fixture.plan.entry none i = .ok (flow, i') ∧
          (flow = .completed ∧ last = i' ∨
            flow ≠ .completed ∧ i'.record fixture .outcome none [("status", .string "failed")] = .ok last)) := by
  unfold simulateFixture at h
  obtain ⟨⟨decided, i⟩, haccepted, h⟩ := bind_inv h
  cases decided with
  | some status =>
    obtain ⟨last, htrace, hlast⟩ := finish_spec (fun _ _ => finishedResult_trace) h
    refine ⟨some status, i, last, haccepted, htrace, .inl ⟨status, rfl, ?_⟩⟩
    exact hlast.imp And.right And.right
  | none =>
    obtain ⟨⟨flow, i'⟩, hexecuted, h⟩ := bind_inv h
    obtain ⟨last, htrace, hlast⟩ := finish_spec (fun _ _ => finishedResult_trace) h
    refine ⟨none, i, last, haccepted, htrace, .inr ⟨rfl, flow, i', hexecuted, ?_⟩⟩
    cases flow with
    | completed => exact hlast.imp (fun hlast => ⟨rfl, hlast.2⟩) (fun hlast => by cases hlast.1)
    | stopRun | stopBranch => exact .inr ⟨by decide, (hlast.resolve_left (fun hlast => hlast.1 rfl)).2⟩

theorem logSimulation_ends (hvalid : fixture.plan.budget.validate = .ok ())
    (haccepted : Advances fixture (.new fixture) i) : ∃ rounds result, logSimulation host fixture i =
      some (rounds, result) ∧ executeFrom host fixture (fixture.plan.budget.maximumTraceSteps + 2)
        fixture.plan.entry none i = result := by
  have hlimit := (validate_bounds _ hvalid).2.1
  unfold maxAutomationTraceSteps at hlimit
  have hzero : i.steps = 0 := haccepted.steps
  have hends : logSimulation host fixture i ≠ none :=
    logFrom_ends (by omega) host fixture.plan.entry none (by omega) (by omega)
  obtain ⟨⟨rounds, result⟩, hlog⟩ := Option.ne_none_iff_exists'.mp hends
  exact ⟨rounds, result, hlog, logFrom_eq hlog⟩

theorem simulateFixture_sound (hvalid : fixture.plan.budget.validate = .ok ())
    (h : simulateFixture host traceHash fixture = .ok simulated) :
    ∃ last : StepInterpreter, simulated.trace = last.trace ∧ TraceSound fixture last := by
  have hlimit := (validate_bounds _ hvalid).2.1
  unfold maxAutomationTraceSteps at hlimit
  obtain ⟨decided, i, last, haccepted, htrace, hran⟩ := simulateFixture_spec h
  have haccepted := acceptTrigger_advances haccepted
  have hbegun := haccepted.sound .new
  refine ⟨last, htrace, ?_⟩
  rcases hran with ⟨status, _, rfl | hrecord⟩ | ⟨_, flow, i', hexecuted, hlast⟩
  · exact hbegun
  · exact (record_sound hrecord).2.2.1 hbegun
  · obtain ⟨rounds, _, hlog, hresult⟩ := logSimulation_ends hvalid haccepted
    rw [hexecuted] at hresult
    rw [← hresult] at hlog
    have hran := logFrom_ran (by omega) hlog
    rcases hlast with ⟨_, rfl⟩ | ⟨_, hrecord⟩
    · exact hran.sound hbegun
    · exact (record_sound hrecord).2.2.1 (hran.sound hbegun)

theorem simulateFixture_outcome (hvalid : fixture.plan.budget.validate = .ok ()) {e : CompilerEnv}
    (hcompiled : CompiledPlan e fixture.plan)
    (haccepted : acceptTrigger host fixture (.new fixture) = .ok (none, i)) {rounds : List SimulationRound}
    {result : Except AutomationSimulationError (Flow × StepInterpreter)}
    (hlog : logSimulation host fixture i = some (rounds, result)) (hkept : MarkersKept rounds)
    (h : simulateFixture host traceHash fixture = .ok simulated) : outcomes simulated.trace = 1 := by
  have hlimit := (validate_bounds _ hvalid).2.1
  unfold maxAutomationTraceSteps at hlimit
  obtain ⟨decided, i', last, haccepted', htrace, hran⟩ := simulateFixture_spec h
  rw [haccepted] at haccepted'
  cases haccepted'
  have hbegun := advances_new_outcomes (acceptTrigger_advances haccepted)
  rcases hran with ⟨status, hstatus, _⟩ | ⟨_, flow, i', hexecuted, hlast⟩
  · cases hstatus
  obtain rfl : result = .ok (flow, i') := (logFrom_eq hlog).symm.trans hexecuted
  have hran := logFrom_ran (by omega) hlog
  have hcount := logFrom_completions hcompiled hcompiled.entry_lt hlog hkept
  rw [htrace]
  rcases hlast with ⟨hflow, rfl⟩ | ⟨hflow, hrecord⟩
  · rw [hran.outcomes, hbegun, hcount, if_pos hflow]
  · rw [(record_sound hrecord).2.2.2, hran.outcomes, hbegun, hcount, if_neg hflow]
    rfl

theorem awaitCondition_settles {condition : ResolvedAutomationCondition} {deadline : Instant}
    {rounds : ℕ} (hrounds : i.ports.changes.length ≤ rounds) : awaitCondition host condition deadline rounds i =
      awaitCondition host condition deadline i.ports.changes.length i := by
  induction rounds, hrounds using Nat.le_induction with
  | base => rfl
  | succ rounds hrounds ih => rw [← awaitCondition_rounds condition deadline rounds i hrounds, ih]

end

open StepInterpreter in
/-- Every simulation with a validated budget comes to an end and returns a trace within that budget. Of a compiled
plan it visits each node at most once and records one outcome, unless a failure inside a group goes on without the
marker of the group. -/
theorem simulation_within_budget (host : EvaluatorHost) (traceHash : List AutomationTraceStep → Option String)
    (fixture : AutomationSimulationFixture) (hvalid : fixture.plan.budget.validate = .ok ()) :
    (∀ i, acceptTrigger host fixture (.new fixture) = .ok (none, i) → ∃ rounds result,
      logSimulation host fixture i = some (rounds, result) ∧
      executeFrom host fixture (fixture.plan.budget.maximumTraceSteps + 2) fixture.plan.entry none i = result ∧
      ∀ e, compile e = .ok fixture.plan → MarkersKept rounds →
        (rounds.map SimulationRound.nodeId).Nodup ∧
        ∀ simulated, simulateFixture host traceHash fixture = .ok simulated → outcomes simulated.trace = 1) ∧
    (∀ condition deadline i rounds, i.ports.changes.length ≤ rounds →
      awaitCondition host condition deadline rounds i =
        awaitCondition host condition deadline i.ports.changes.length i) ∧
    ∀ simulated, simulateFixture host traceHash fixture = .ok simulated →
      simulated.trace.length ≤ fixture.plan.budget.maximumTraceSteps ∧
      simulated.trace.map AutomationTraceStep.sequence = List.range simulated.trace.length ∧
      (simulated.trace.map AutomationTraceStep.occurredAt).Pairwise (· ≤ ·) := by
  refine ⟨?_, fun _ _ _ _ hrounds => awaitCondition_settles hrounds, ?_⟩
  · intro i haccepted
    obtain ⟨rounds, result, hlog, hresult⟩ := logSimulation_ends hvalid (acceptTrigger_advances haccepted)
    refine ⟨rounds, result, hlog, hresult, ?_⟩
    intro e hcompile hkept
    have hcompiled := compile_compiledPlan e fixture.plan hcompile
    refine ⟨?_, fun simulated hsimulated => ?_⟩
    · have hentry := hcompiled.entry_lt
      exact (logFrom_visitsOnce hcompiled hcompiled.enclosed (.inr ⟨Nat.zero_le _, hentry⟩) hlog hkept).nodup
    · exact simulateFixture_outcome hvalid hcompiled haccepted hlog hkept hsimulated
  · intro simulated hsimulated
    obtain ⟨last, htrace, hsound⟩ := simulateFixture_sound hvalid hsimulated
    rw [htrace]
    exact ⟨hsound.fits, hsound.numbered, hsound.ordered⟩

def lampFixture (outcomes : List SimulationCommandOutcome) (plan : AutomationExecutionPlan) :
    AutomationSimulationFixture where
  plan := plan
  runId := ⟨⟨1, 1, .schedule 0⟩⟩
  correlationId := .fresh 1
  causationEventId := none
  trigger := ⟨.schedule, 0, 0, 0, false, 0, 0, none, false⟩
  initialState := []
  stateChanges := []
  commandOutcomes := outcomes

def simulatesTo (fixture : AutomationSimulationFixture)
    (p : List SimulationRound → AutomationSimulationResult → Bool) : Bool :=
  match StepInterpreter.acceptTrigger lampEvaluator fixture (.new fixture),
    simulateFixture lampEvaluator (fun _ => some "trace") fixture with
  | .ok (none, i), .ok simulated =>
    (logSimulation lampEvaluator fixture i).any (fun logged => p logged.1 simulated)
  | _, _ => false

theorem simulatesTo_spec {fixture : AutomationSimulationFixture}
    {p : List SimulationRound → AutomationSimulationResult → Bool} (h : simulatesTo fixture p = true) :
    ∃ i rounds result simulated,
      StepInterpreter.acceptTrigger lampEvaluator fixture (.new fixture) = .ok (none, i) ∧
      logSimulation lampEvaluator fixture i = some (rounds, result) ∧
      simulateFixture lampEvaluator (fun _ => some "trace") fixture = .ok simulated ∧ p rounds simulated = true := by
  unfold simulatesTo at h
  split at h
  next i simulated haccepted hsimulated =>
    obtain ⟨⟨rounds, result⟩, hlog, hp⟩ := (Option.any_eq_true _ _).mp h
    exact ⟨i, rounds, result, simulated, haccepted, hlog, hsimulated, hp⟩
  · cases h

def lampOutput : SimulationObservationKey := ⟨⟨7, "switch:0", "on_off.v1"⟩, "on"⟩

def eveningFixture (plan : AutomationExecutionPlan) : AutomationSimulationFixture :=
  { lampFixture [] plan with
    initialState := [(lampOutput, .boolean false)]
    stateChanges := [⟨2000000000, lampOutput, .boolean true⟩] }

/-- Through a group, a branch of the second member and the wait for the change, each node once. -/
theorem simulation_within_budget_evening : ∃ plan i rounds result simulated,
    compile (lampEnv eveningActions) = .ok plan ∧
    logSimulation lampEvaluator (eveningFixture plan) i = some (rounds, result) ∧
    simulateFixture lampEvaluator (fun _ => some "trace") (eveningFixture plan) = .ok simulated ∧
    (rounds.map SimulationRound.nodeId).Nodup ∧ 8 ≤ rounds.length ∧ outcomes simulated.trace = 1 ∧
    simulated.trace.map AutomationTraceStep.sequence = List.range simulated.trace.length := by
  have hok : (compile (lampEnv eveningActions)).toOption.any (fun plan => plan.budget.validate.toBool &&
      simulatesTo (eveningFixture plan) (fun rounds _ =>
        rounds.all (fun round => !round.unmarked) && decide (8 ≤ rounds.length))) = true := by
    decide +kernel
  obtain ⟨plan, hcompile, hchecked⟩ := compile_of_any hok
  rw [Bool.and_eq_true] at hchecked
  obtain ⟨hbudget, hruns⟩ := hchecked
  have hvalid : plan.budget.validate = .ok () := by
    cases hvalidated : plan.budget.validate with
    | ok value => rfl
    | error error =>
      rw [hvalidated] at hbudget
      cases hbudget
  obtain ⟨i, rounds, result, simulated, haccepted, hlog, hsimulated, hends⟩ := simulatesTo_spec hruns
  rw [Bool.and_eq_true, decide_eq_true_eq] at hends
  obtain ⟨hmarked, height⟩ := hends
  have hwithin := simulation_within_budget lampEvaluator (fun _ => some "trace") (eveningFixture plan) hvalid
  obtain ⟨rounds', result', hlog', _, honce⟩ := hwithin.1 i haccepted
  rw [hlog] at hlog'
  cases hlog'
  have hkept : MarkersKept rounds := by
    intro round hround hunmarked
    have hnot := List.all_eq_true.mp hmarked round hround
    rw [hunmarked] at hnot
    cases hnot
  obtain ⟨hdistinct, houtcome⟩ := honce _ hcompile hkept
  exact ⟨plan, i, rounds, result, simulated, hcompile, hlog, hsimulated, hdistinct, height, houtcome simulated hsimulated,
    (hwithin.2.2 simulated hsimulated).2.1⟩

/-- A command that fails in a branch and goes on leaves the branch: the join and the rest of the plan are executed
from there, and again after the group. -/
theorem branch_goes_on_twice : ∃ plan i rounds result simulated,
    compile (lampEnv [.parallel [[.command lampTarget (.onOff (.set true)) ⟨0, 0, []⟩ .continue]] 1]) = .ok plan ∧
    StepInterpreter.acceptTrigger lampEvaluator (lampFixture [⟨.rejected, none⟩] plan)
      (.new (lampFixture [⟨.rejected, none⟩] plan)) = .ok (none, i) ∧
    logSimulation lampEvaluator (lampFixture [⟨.rejected, none⟩] plan) i = some (rounds, result) ∧
    simulateFixture lampEvaluator (fun _ => some "trace") (lampFixture [⟨.rejected, none⟩] plan) = .ok simulated ∧
    ¬(rounds.map SimulationRound.nodeId).Nodup ∧ outcomes simulated.trace = 2 := by
  have hok : (compile (lampEnv [.parallel [[.command lampTarget (.onOff (.set true)) ⟨0, 0, []⟩
      .continue]] 1])).toOption.any (fun plan => simulatesTo (lampFixture [⟨.rejected, none⟩] plan)
        (fun rounds simulated => !decide ((rounds.map SimulationRound.nodeId).Nodup) &&
          outcomes simulated.trace == 2)) = true := by
    decide +kernel
  obtain ⟨plan, hcompile, hruns⟩ := compile_of_any hok
  obtain ⟨i, rounds, result, simulated, haccepted, hlog, hsimulated, htwice⟩ := simulatesTo_spec hruns
  rw [Bool.and_eq_true, Bool.not_eq_true', decide_eq_false_iff_not, beq_iff_eq] at htwice
  exact ⟨plan, i, rounds, result, simulated, hcompile, haccepted, hlog, hsimulated, htwice⟩

end HomeMagic
