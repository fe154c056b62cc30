import HomeMagic.AutomationLastCommand

/-! The state in which the execution of an action list leaves each authored target, and when reduction keeps it. -/
namespace HomeMagic
open List

variable {target : AutomationTargetReference} {payload : CommandPayload}

structure TargetState where
  setTo : Option CommandPayload
  stopped : Bool
  deriving DecidableEq

namespace CommandPayload

def setsState : CommandPayload → Bool
  | .onOff .toggle | .position .stop => false
  | _ => true

def inverted : CommandPayload → CommandPayload
  | .onOff (.set on) => .onOff (.set (!on))
  | payload => payload

/-- A toggle and a stop build on the state that they find, the other commands replace it. -/
def leaves (s : TargetState) : CommandPayload → TargetState
  | .onOff .toggle => ⟨s.setTo.map inverted, false⟩
  | .position .stop => { s with stopped := true }
  | payload => ⟨some payload, false⟩

end CommandPayload

def payloadsTo (sent : List (AutomationTargetReference × CommandPayload)) (target : AutomationTargetReference) :
    List CommandPayload :=
  (sent.filter (fun command => command.1 == target)).map Prod.snd

def finalState (sent : List (AutomationTargetReference × CommandPayload)) (target : AutomationTargetReference)
    (s : TargetState) : TargetState :=
  (payloadsTo sent target).foldl CommandPayload.leaves s

def sentBy (run : List AutomationAction) : List (AutomationTargetReference × CommandPayload) :=
  run.filterMap AutomationAction.sending?

/-- The last command does what all of them do: it sets a state by itself, or those before it set none and toggle an
even number of times. -/
def LastReplaces (payloads : List CommandPayload) : Prop :=
  ∀ last ∈ payloads.getLast?, last.setsState = true ∨
    (∀ payload ∈ payloads.dropLast, payload.setsState = false) ∧
      Even (payloads.dropLast.count (.onOff .toggle))

mutual
def actionsLists : List AutomationAction → List (List AutomationAction)
  | [] => []
  | action :: rest => actionLists action ++ actionsLists rest

def actionLists : AutomationAction → List (List AutomationAction)
  | .command _ _ _ _ | .delay _ | .setVariable _ _ => []
  | .wait _ _ onTimeout => failureLists onTimeout
  | .sequence actions => actions :: actionsLists actions
  | .if _ thenActions elseActions =>
    thenActions :: elseActions :: (actionsLists thenActions ++ actionsLists elseActions)
  | .parallel branches _ | .race branches _ => branchLists branches

def failureLists : AutomationFailurePolicy → List (List AutomationAction)
  | .fallback actions => actions :: actionsLists actions
  | .stopRun | .stopBranch | .continue => []

def branchLists : List (List AutomationAction) → List (List AutomationAction)
  | [] => []
  | branch :: rest => branch :: (actionsLists branch ++ branchLists rest)
end

def listRuns (actions : List AutomationAction) : List (List AutomationAction) :=
  (actions :: actionsLists actions).flatMap commandStretches

def RunReplaceable (run : List AutomationAction) : Prop :=
  ∀ target, LastReplaces (payloadsTo (sentBy run) target)

inductive ListEnding
  | through | branchFailed | runFailed
  deriving DecidableEq

structure ListOutcome where
  sent : List (AutomationTargetReference × CommandPayload)
  ending : ListEnding

namespace ListOutcome

def quiet (ending : ListEnding) : ListOutcome := ⟨[], ending⟩

def after (sent : List (AutomationTargetReference × CommandPayload)) (o : ListOutcome) : ListOutcome :=
  ⟨sent ++ o.sent, o.ending⟩

def andThen (rest : List ListOutcome) (first : ListOutcome) : List ListOutcome :=
  match first.ending with
  | .through => rest.map (after first.sent)
  | .branchFailed | .runFailed => [first]

def parallelThen (rest : List ListOutcome) (first : ListOutcome) : List ListOutcome :=
  match first.ending with
  | .through | .branchFailed => rest.map (after first.sent)
  | .runFailed => [first]

def raceThen (rest : List ListOutcome) (first : ListOutcome) : List ListOutcome :=
  match first.ending with
  | .branchFailed => rest.map (after first.sent)
  | .through | .runFailed => [first]

def final (o : ListOutcome) (target : AutomationTargetReference) (s : TargetState) : TargetState :=
  finalState o.sent target s

end ListOutcome

section
variable (mayFail : Bool)

mutual
/-- Every outcome of an action list, one for each way its conditions, waits and, where they may fail, commands turn
out. Branches of a group run one after another. -/
def actionsOutcomes : List AutomationAction → List ListOutcome
  | [] => [.quiet .through]
  | action :: rest => (actionOutcomes action).flatMap (ListOutcome.andThen (actionsOutcomes rest))

def actionOutcomes : AutomationAction → List ListOutcome
  | .command target payload _ onFailure =>
    ⟨[(target, payload)], .through⟩ ::
      if mayFail then (failureOutcomes onFailure).map (ListOutcome.after [(target, payload)]) else []
  | .delay _ | .setVariable _ _ => [.quiet .through]
  | .wait _ _ onTimeout => .quiet .through :: failureOutcomes onTimeout
  | .sequence actions => actionsOutcomes actions
  | .if _ thenActions elseActions => actionsOutcomes thenActions ++ actionsOutcomes elseActions
  | .parallel branches _ => parallelOutcomes branches
  | .race branches _ => raceOutcomes branches

def failureOutcomes : AutomationFailurePolicy → List ListOutcome
  | .stopRun => [.quiet .runFailed]
  | .stopBranch => [.quiet .branchFailed]
  | .continue => [.quiet .through]
  | .fallback actions => actionsOutcomes actions

def parallelOutcomes : List (List AutomationAction) → List ListOutcome
  | [] => [.quiet .through]
  | branch :: rest => (actionsOutcomes branch).flatMap (ListOutcome.parallelThen (parallelOutcomes rest))

def raceOutcomes : List (List AutomationAction) → List ListOutcome
  | [] => [.quiet .runFailed]
  | branch :: rest => (actionsOutcomes branch).flatMap (ListOutcome.raceThen (raceOutcomes rest))
end

end

structure SameFinal (o o' : ListOutcome) : Prop where
  ending : o.ending = o'.ending
  final : ∀ target s, o.final target s = o'.final target s

/-- Each run of commands leaves the targets as its reduction does, and so does the list on every way through it. -/
structure LeavesSame (actions : List AutomationAction) : Prop where
  runs : ∀ run ∈ listRuns actions, ∀ target s,
    finalState (sentBy run) target s = finalState (sentBy (flushSegment run)) target s
  outcomes : List.Forall₂ SameFinal (actionsOutcomes false actions) (actionsOutcomes false (reduceActions actions))

section
variable {payloads : List CommandPayload} {s s' : TargetState}

theorem inverted_involutive : Function.Involutive (Option.map CommandPayload.inverted) := by
  intro setTo
  cases setTo with
  | none => rfl
  | some payload =>
    rw [Option.map_some, Option.map_some]
    cases payload with
    | onOff command => cases command <;> simp [CommandPayload.inverted]
    | _ => rfl

theorem leaves_of_sets (h : payload.setsState = true) : payload.leaves s = ⟨some payload, false⟩ := by
  unfold CommandPayload.leaves
  split
  · cases h
  · cases h
  · rfl

theorem leaves_eq_iff (h : payload.setsState = false) :
    payload.leaves s = payload.leaves s' ↔ s.setTo = s'.setTo := by
  unfold CommandPayload.setsState at h
  split at h
  · simp only [CommandPayload.leaves, TargetState.mk.injEq, and_true]
    exact inverted_involutive.injective.eq_iff
  · simp only [CommandPayload.leaves, TargetState.mk.injEq, and_true]
  · cases h

theorem setTo_of_quiet (h : ∀ payload ∈ payloads, payload.setsState = false) :
    (payloads.foldl CommandPayload.leaves s).setTo =
      (Option.map CommandPayload.inverted)^[payloads.count (.onOff .toggle)] s.setTo := by
  induction payloads generalizing s with
  | nil => rfl
  | cons payload rest ih =>
    rw [forall_mem_cons] at h
    have hpayload := h.1
    unfold CommandPayload.setsState at hpayload
    rw [foldl_cons, ih h.2]
    split at hpayload
    · rw [count_cons_self, Function.iterate_succ_apply]
      rfl
    · rw [count_cons_of_ne (by simp)]
      rfl
    · cases hpayload

theorem foldl_of_setter (hmem : payload ∈ payloads) (h : payload.setsState = true) (s s' : TargetState) :
    payloads.foldl CommandPayload.leaves s = payloads.foldl CommandPayload.leaves s' := by
  obtain ⟨before, after, rfl⟩ := List.append_of_mem hmem
  rw [foldl_append, foldl_append, foldl_cons, foldl_cons, leaves_of_sets h, leaves_of_sets h]

theorem setTo_kept_iff : (∀ s, (payloads.foldl CommandPayload.leaves s).setTo = s.setTo) ↔
    (∀ payload ∈ payloads, payload.setsState = false) ∧ Even (payloads.count (.onOff .toggle)) := by
  constructor
  · intro h
    have hquiet : ∀ payload ∈ payloads, payload.setsState = false := by
      intro payload hmem
      by_contra hsets
      have hsame := foldl_of_setter hmem (Bool.not_eq_false _ ▸ hsets) ⟨none, false⟩ ⟨some payload, false⟩
      have hkept := (h ⟨none, false⟩).symm.trans (congrArg TargetState.setTo hsame)
      rw [h] at hkept
      cases hkept
    refine ⟨hquiet, ?_⟩
    by_contra hodd
    have hturned := h ⟨some (.onOff (.set true)), false⟩
    rw [setTo_of_quiet hquiet, inverted_involutive.iterate_odd (Nat.not_even_iff_odd.mp hodd)] at hturned
    cases hturned
  · rintro ⟨hquiet, heven⟩ s
    rw [setTo_of_quiet hquiet, inverted_involutive.iterate_even heven]
    rfl

theorem last_replaces_iff : (∀ s, payloads.foldl CommandPayload.leaves s =
    payloads.getLast?.toList.foldl CommandPayload.leaves s) ↔ LastReplaces payloads := by
  rcases payloads.eq_nil_or_concat' with rfl | ⟨before, last, rfl⟩
  · simp [LastReplaces]
  · simp only [LastReplaces, foldl_append, foldl_cons, foldl_nil, getLast?_concat, dropLast_concat,
      Option.toList_some, Option.mem_def, Option.some.injEq, forall_eq']
    by_cases hsets : last.setsState = true
    · simp only [hsets, true_or, iff_true]
      intro s
      rw [leaves_of_sets hsets, leaves_of_sets hsets]
    · have hbuilds : last.setsState = false := Bool.not_eq_true _ ▸ hsets
      simp only [leaves_eq_iff hbuilds, setTo_kept_iff, hbuilds, Bool.false_eq_true, false_or]

end

theorem payloadsTo_nil_iff (run : List AutomationAction) (target : AutomationTargetReference) :
    payloadsTo (sentBy run) target = [] ↔ run.any (fun action => action.target? == some target) = false := by
  induction run with
  | nil => simp [payloadsTo, sentBy]
  | cons action rest ih =>
    cases action with
    | command other payload retry onFailure =>
      by_cases hother : other = target
      · simp [payloadsTo, sentBy, AutomationAction.sending?, AutomationAction.target?, hother]
      · simpa [payloadsTo, sentBy, AutomationAction.sending?, AutomationAction.target?, hother] using ih
    | _ => exact ih

theorem payloadsTo_command (other : AutomationTargetReference) (payload : CommandPayload)
    (retry : AutomationRetryPolicy) (onFailure : AutomationFailurePolicy) (rest : List AutomationAction)
    (target : AutomationTargetReference) :
    payloadsTo (sentBy (.command other payload retry onFailure :: rest)) target =
      if other = target then payload :: payloadsTo (sentBy rest) target else payloadsTo (sentBy rest) target := by
  by_cases hother : other = target <;> simp [payloadsTo, sentBy, AutomationAction.sending?, hother]

theorem payloadsTo_flush (run : List AutomationAction) (target : AutomationTargetReference) :
    payloadsTo (sentBy (flushSegment run)) target = (payloadsTo (sentBy run) target).getLast?.toList := by
  induction run with
  | nil => rfl
  | cons action rest ih =>
    rw [flushSegment]
    cases action with
    | command other payload retry onFailure =>
      rw [payloadsTo_command]
      by_cases hother : other = target
      · subst hother
        rw [if_pos rfl]
        by_cases hlater : rest.any (fun candidate => candidate.target? == some other)
        · -- a later command of the run is for the same target
          have hne : payloadsTo (sentBy rest) other ≠ [] := by
            rw [ne_eq, payloadsTo_nil_iff, hlater]
            exact Bool.noConfusion
          rw [AutomationAction.target?, if_pos hlater, ih, List.getLast?_cons_of_ne_nil hne]
        · have hnil := (payloadsTo_nil_iff rest other).mpr (Bool.eq_false_iff.mpr hlater)
          rw [hnil] at ih
          rw [AutomationAction.target?, if_neg hlater, payloadsTo_command, if_pos rfl, ih, hnil]
          rfl
      · rw [if_neg hother]
        split
        · exact ih
        · rw [payloadsTo_command, if_neg hother, ih]
    | _ =>
      -- what is not a command sends nothing
      split
      · exact ih
      · exact ih

theorem run_replaceable_iff (run : List AutomationAction) :
    (∀ target s, finalState (sentBy run) target s = finalState (sentBy (flushSegment run)) target s) ↔
      RunReplaceable run := by
  unfold finalState RunReplaceable
  simp only [payloadsTo_flush, last_replaces_iff]

namespace ListOutcome

theorem final_after (sent : List (AutomationTargetReference × CommandPayload)) (o : ListOutcome)
    (target : AutomationTargetReference) (s : TargetState) :
    (o.after sent).final target s = o.final target (finalState sent target s) := by
  simp only [final, after, finalState, payloadsTo, filter_append, map_append, foldl_append]

theorem after_after (sent sent' : List (AutomationTargetReference × CommandPayload)) (o : ListOutcome) :
    (o.after sent').after sent = o.after (sent ++ sent') := by
  simp only [after, append_assoc]

end ListOutcome

section
variable {o o' first first' : ListOutcome} {rest rest' : List ListOutcome}

theorem SameFinal.refl (o : ListOutcome) : SameFinal o o := ⟨rfl, fun _ _ => rfl⟩

theorem SameFinal.after (hfirst : SameFinal first first') (h : SameFinal o o') :
    SameFinal (o.after first.sent) (o'.after first'.sent) := by
  refine ⟨h.ending, ?_⟩
  intro target s
  have hsent : finalState first.sent target s = finalState first'.sent target s := hfirst.final target s
  rw [ListOutcome.final_after, ListOutcome.final_after, h.final, hsent]

theorem SameFinal.map_after (hfirst : SameFinal first first') (h : List.Forall₂ SameFinal rest rest') :
    List.Forall₂ SameFinal (rest.map (ListOutcome.after first.sent)) (rest'.map (ListOutcome.after first'.sent)) := by
  induction h with
  | nil => exact .nil
  | cons hsame _ ih => exact .cons (hfirst.after hsame) ih

theorem SameFinal.andThen (h : List.Forall₂ SameFinal rest rest') (hfirst : SameFinal first first') :
    List.Forall₂ SameFinal (first.andThen rest) (first'.andThen rest') := by
  unfold ListOutcome.andThen
  rw [hfirst.ending]
  split
  · exact hfirst.map_after h
  · exact .cons hfirst .nil
  · exact .cons hfirst .nil

theorem SameFinal.parallelThen (h : List.Forall₂ SameFinal rest rest') (hfirst : SameFinal first first') :
    List.Forall₂ SameFinal (first.parallelThen rest) (first'.parallelThen rest') := by
  unfold ListOutcome.parallelThen
  rw [hfirst.ending]
  split
  · exact hfirst.map_after h
  · exact hfirst.map_after h
  · exact .cons hfirst .nil

theorem SameFinal.raceThen (h : List.Forall₂ SameFinal rest rest') (hfirst : SameFinal first first') :
    List.Forall₂ SameFinal (first.raceThen rest) (first'.raceThen rest') := by
  unfold ListOutcome.raceThen
  rw [hfirst.ending]
  split
  · exact hfirst.map_after h
  · exact .cons hfirst .nil
  · exact .cons hfirst .nil

theorem sameFinal_refl (outcomes : List ListOutcome) : List.Forall₂ SameFinal outcomes outcomes :=
  forall₂_same.mpr (fun o _ => .refl o)

end

section
variable {segment rest : List AutomationAction}

theorem actionsOutcomes_append (hs : ∀ action ∈ segment, action.isCommand) :
    actionsOutcomes false (segment ++ rest) =
      (actionsOutcomes false rest).map (ListOutcome.after (sentBy segment)) := by
  induction segment with
  | nil =>
    have hid : ListOutcome.after [] = id := rfl
    simp [sentBy, hid]
  | cons action segment ih =>
    rw [forall_mem_cons] at hs
    cases action with
    | command target payload retry onFailure =>
      have hsent : ∀ o : ListOutcome, (o.after (sentBy segment)).after [(target, payload)] =
          o.after (sentBy (.command target payload retry onFailure :: segment)) :=
        fun o => ListOutcome.after_after _ _ o
      simp only [cons_append, actionsOutcomes, actionOutcomes, Bool.false_eq_true, if_false, flatMap_cons,
        flatMap_nil, append_nil, ListOutcome.andThen, ih hs.2, List.map_map]
      exact List.map_congr_left (fun o _ => hsent o)
    | _ => cases hs.1

theorem commandStretches_append (hs : ∀ action ∈ segment, action.isCommand) {action : AutomationAction}
    (haction : action.isCommand = false) :
    commandStretches (segment ++ action :: rest) = segment :: commandStretches rest := by
  induction segment with
  | nil => rw [nil_append, commandStretches_cons, haction, if_neg Bool.false_ne_true]
  | cons first segment ih =>
    rw [forall_mem_cons] at hs
    rw [cons_append, commandStretches_cons, if_pos hs.1, ih hs.2, modifyHead_cons]

theorem commandStretches_commands (hs : ∀ action ∈ segment, action.isCommand) :
    commandStretches segment = [segment] := by
  induction segment with
  | nil => rfl
  | cons first segment ih =>
    rw [forall_mem_cons] at hs
    rw [commandStretches_cons, if_pos hs.1, ih hs.2, modifyHead_cons]

theorem sameFinal_run (h : RunReplaceable segment) :
    SameFinal ⟨sentBy segment, .through⟩ ⟨sentBy (flushSegment segment), .through⟩ :=
  ⟨rfl, (run_replaceable_iff segment).mpr h⟩

theorem reduceLoop_nil (actions : List AutomationAction) : reduceLoop actions [] [] = reduceRest actions := by
  rw [reduceLoop_eq actions [] [] (by simp), nil_append, nil_append]

end

mutual
/-- The segment is what `reduce_actions` has collected of the current run. -/
theorem reduceRest_final (segment actions : List AutomationAction) (hs : ∀ action ∈ segment, action.isCommand)
    (hruns : ∀ run ∈ commandStretches (segment ++ actions), RunReplaceable run)
    (hnested : ∀ run ∈ (actionsLists actions).flatMap commandStretches, RunReplaceable run) :
    List.Forall₂ SameFinal (actionsOutcomes false (segment ++ actions))
      (actionsOutcomes false (reduceRest (segment ++ actions))) := by
  match actions with
  | [] =>
    have hrun := hruns segment (by rw [append_nil, commandStretches_commands hs]; exact mem_singleton_self _)
    have hflushed := fun action h => hs action ((flushSegment_sublist segment).mem h)
    rw [reduceRest_append_segment segment [] hs rfl, reduceRest, actionsOutcomes_append hs,
      actionsOutcomes_append hflushed]
    exact (sameFinal_run hrun).map_after (sameFinal_refl _)
  | action :: rest =>
    by_cases hcommand : action.isCommand = true
    · have hsegment : ∀ other ∈ segment ++ [action], other.isCommand := by
        intro other hother
        rcases mem_append.mp hother with hother | hother
        · exact hs other hother
        · exact mem_singleton.mp hother ▸ hcommand
      rw [append_cons] at hruns ⊢
      refine reduceRest_final (segment ++ [action]) rest hsegment hruns ?_
      rw [actionsLists, flatMap_append] at hnested
      exact fun run hrun => hnested run (mem_append_right _ hrun)
    · -- the run ends here
      rw [Bool.not_eq_true] at hcommand
      rw [commandStretches_append hs hcommand, forall_mem_cons] at hruns
      rw [actionsLists, flatMap_append, forall_mem_append] at hnested
      have hrest := reduceRest_final [] rest (by simp) hruns.2 hnested.2
      have haction := reduceNested_final action hnested.1
      have hflushed := fun action h => hs action ((flushSegment_sublist segment).mem h)
      rw [reduceRest_append_segment segment _ hs (by simp [hcommand]), reduceRest,
        if_neg (by simp [AutomationAction.superseded, hcommand]), actionsOutcomes_append hs,
        actionsOutcomes_append hflushed]
      refine (sameFinal_run hruns.1).map_after ?_
      rw [actionsOutcomes, actionsOutcomes]
      exact rel_flatMap haction (fun _ _ hfirst => hfirst.andThen hrest)

theorem reduceNested_final (action : AutomationAction)
    (h : ∀ run ∈ (actionLists action).flatMap commandStretches, RunReplaceable run) :
    List.Forall₂ SameFinal (actionOutcomes false action) (actionOutcomes false (reduceNested action)) := by
  match action with
  | .command _ _ _ _ | .delay _ | .setVariable _ _ =>
    rw [reduceNested]
    exact sameFinal_refl _
  | .wait _ _ onTimeout =>
    rw [reduceNested, actionOutcomes, actionOutcomes]
    exact .cons (.refl _) (reduceFailure_final onTimeout h)
  | .sequence actions =>
    rw [actionLists, flatMap_cons, forall_mem_append] at h
    rw [reduceNested, actionOutcomes, actionOutcomes, reduceLoop_nil]
    exact reduceRest_final [] actions (by simp) h.1 h.2
  | .if _ thenActions elseActions =>
    rw [actionLists, flatMap_cons, flatMap_cons, flatMap_append, forall_mem_append, forall_mem_append,
      forall_mem_append] at h
    obtain ⟨hthen, helse, hthenLists, helseLists⟩ := h
    rw [reduceNested, actionOutcomes, actionOutcomes, reduceLoop_nil, reduceLoop_nil]
    exact rel_append (reduceRest_final [] thenActions (by simp) hthen hthenLists)
      (reduceRest_final [] elseActions (by simp) helse helseLists)
  | .parallel branches _ =>
    rw [reduceNested, actionOutcomes, actionOutcomes]
    exact parallel_final branches h
  | .race branches _ =>
    rw [reduceNested, actionOutcomes, actionOutcomes]
    exact race_final branches h

theorem reduceFailure_final (policy : AutomationFailurePolicy)
    (h : ∀ run ∈ (failureLists policy).flatMap commandStretches, RunReplaceable run) :
    List.Forall₂ SameFinal (failureOutcomes false policy) (failureOutcomes false (reduceFailure policy)) := by
  match policy with
  | .stopRun | .stopBranch | .continue =>
    rw [reduceFailure]
    exact sameFinal_refl _
  | .fallback actions =>
    rw [failureLists, flatMap_cons, forall_mem_append] at h
    rw [reduceFailure, failureOutcomes, failureOutcomes, reduceLoop_nil]
    exact reduceRest_final [] actions (by simp) h.1 h.2

theorem parallel_final (branches : List (List AutomationAction))
    (h : ∀ run ∈ (branchLists branches).flatMap commandStretches, RunReplaceable run) :
    List.Forall₂ SameFinal (parallelOutcomes false branches) (parallelOutcomes false (reduceBranches branches)) := by
  match branches with
  | [] =>
    rw [reduceBranches]
    exact sameFinal_refl _
  | branch :: rest =>
    rw [branchLists, flatMap_cons, flatMap_append, forall_mem_append, forall_mem_append] at h
    have hrest := parallel_final rest h.2.2
    rw [reduceBranches, parallelOutcomes, parallelOutcomes, reduceLoop_nil]
    exact rel_flatMap (reduceRest_final [] branch (by simp) h.1 h.2.1)
      (fun _ _ hfirst => hfirst.parallelThen hrest)

theorem race_final (branches : List (List AutomationAction))
    (h : ∀ run ∈ (branchLists branches).flatMap commandStretches, RunReplaceable run) :
    List.Forall₂ SameFinal (raceOutcomes false branches) (raceOutcomes false (reduceBranches branches)) := by
  match branches with
  | [] =>
    rw [reduceBranches]
    exact sameFinal_refl _
  | branch :: rest =>
    rw [branchLists, flatMap_cons, flatMap_append, forall_mem_append, forall_mem_append] at h
    have hrest := race_final rest h.2.2
    rw [reduceBranches, raceOutcomes, raceOutcomes, reduceLoop_nil]
    exact rel_flatMap (reduceRest_final [] branch (by simp) h.1 h.2.1) (fun _ _ hfirst => hfirst.raceThen hrest)
end

/-- A list leaves every target as its reduction does exactly when the last command of each run, for each target,
replaces the commands before it. -/
theorem leaves_same_iff (actions : List AutomationAction) :
    LeavesSame actions ↔ ∀ run ∈ listRuns actions, RunReplaceable run := by
  constructor
  · intro h run hrun
    exact (run_replaceable_iff run).mp (h.runs run hrun)
  · intro h
    refine ⟨fun run hrun => (run_replaceable_iff run).mpr (h run hrun), ?_⟩
    unfold listRuns at h
    rw [flatMap_cons, forall_mem_append] at h
    rw [reduceActions_eq]
    exact reduceRest_final [] actions (by simp) h.1 h.2

theorem commandStretches_map (actions : List AutomationAction) :
    commandStretches (actions.map reduceNested) = commandStretches actions := by
  induction actions with
  | nil => rfl
  | cons action rest ih =>
    rw [map_cons, commandStretches_cons, commandStretches_cons, reduceNested_isCommand, ih]
    by_cases hcommand : action.isCommand
    · rw [if_pos hcommand, if_pos hcommand, reduceNested_command action hcommand]
    · rw [if_neg hcommand, if_neg hcommand]

theorem keptActions_others (actions : List AutomationAction) :
    (keptActions actions).filter (fun action => !action.isCommand) =
      actions.filter (fun action => !action.isCommand) := by
  induction actions with
  | nil => rfl
  | cons action rest ih =>
    rw [keptActions]
    split
    next hsuperseded =>
      have hcommand : action.isCommand = true := (Bool.and_eq_true_iff.mp hsuperseded).1
      rw [ih, filter_cons_of_neg (by simp [hcommand])]
    · rw [filter_cons, filter_cons, ih]

theorem flushSegment_filter (run : List AutomationAction) (target : Option AutomationTargetReference) :
    (flushSegment run).filter (fun action => action.target? == target) =
      (run.filter (fun action => action.target? == target)).getLast?.toList := by
  induction run with
  | nil => rfl
  | cons action rest ih =>
    rw [flushSegment]
    by_cases htarget : action.target? = target
    · rw [filter_cons_of_pos (by simp [htarget]), htarget]
      by_cases hlater : rest.any (fun candidate => candidate.target? == target)
      · rw [if_pos hlater, ih]
        obtain ⟨later, hmem, hsame⟩ := List.any_eq_true.mp hlater
        have hne : rest.filter (fun action => action.target? == target) ≠ [] :=
          ne_nil_of_mem (List.mem_filter.mpr ⟨hmem, hsame⟩)
        rw [List.getLast?_cons_of_ne_nil hne]
      · have hnone : rest.filter (fun action => action.target? == target) = [] := by
          rw [Bool.not_eq_true, List.any_eq_false] at hlater
          exact filter_eq_nil_iff.mpr hlater
        rw [hnone] at ih
        rw [if_neg hlater, filter_cons_of_pos (by simp [htarget]), ih, hnone]
        rfl
    · rw [filter_cons_of_neg (by simp [htarget])]
      split
      · exact ih
      · rw [filter_cons_of_neg (by simp [htarget]), ih]

theorem reduceRest_length (actions : List AutomationAction) : (reduceRest actions).length ≤ actions.length := by
  induction actions with
  | nil => rfl
  | cons action rest ih =>
    rw [reduceRest, length_cons]
    split
    · omega
    · rw [length_cons]
      omega

theorem stretches_once_iff (action : AutomationAction) (rest : List AutomationAction) :
    (∀ run ∈ commandStretches (action :: rest), (run.map AutomationAction.target?).Nodup) ↔
      action.superseded rest = false ∧
        ∀ run ∈ commandStretches rest, (run.map AutomationAction.target?).Nodup := by
  obtain ⟨others, hothers⟩ := commandStretches_eq rest
  rw [commandStretches_cons]
  by_cases hcommand : action.isCommand = true
  · have hsuperseded : action.superseded rest = false ↔
        action.target? ∉ (rest.takeWhile AutomationAction.isCommand).map AutomationAction.target? := by
      rw [AutomationAction.superseded, hcommand, Bool.true_and, List.any_eq_false, mem_map]
      simp only [beq_iff_eq, not_exists, not_and]
    rw [if_pos hcommand, hothers, modifyHead_cons, forall_mem_cons, forall_mem_cons, map_cons, nodup_cons, hsuperseded]
    exact and_assoc
  · rw [if_neg hcommand, forall_mem_cons]
    simp only [map_nil, nodup_nil, AutomationAction.superseded, hcommand, Bool.false_and, true_and]

mutual
theorem reduceRest_fixed_iff (actions : List AutomationAction) :
    reduceRest actions = actions ↔
      ∀ run ∈ (actions :: actionsLists actions).flatMap commandStretches,
        (run.map AutomationAction.target?).Nodup := by
  match actions with
  | [] => simp [reduceRest, actionsLists, commandStretches]
  | action :: rest =>
    have hrest := reduceRest_fixed_iff rest
    have haction := reduceNested_fixed_iff action
    rw [flatMap_cons, forall_mem_append] at hrest
    rw [flatMap_cons, forall_mem_append, stretches_once_iff, actionsLists, flatMap_append,
      forall_mem_append, reduceRest]
    by_cases hsuperseded : action.superseded rest = true
    · rw [if_pos hsuperseded, hsuperseded]
      have hshorter := reduceRest_length rest
      simp only [Bool.true_eq_false, false_and, iff_false]
      intro hsame
      rw [hsame, length_cons] at hshorter
      omega
    · rw [if_neg hsuperseded, cons.injEq, haction, hrest]
      rw [Bool.not_eq_true] at hsuperseded
      simp only [hsuperseded, true_and]
      constructor
      · rintro ⟨hnested, hown, hlists⟩
        exact ⟨hown, hnested, hlists⟩
      · rintro ⟨hown, hnested, hlists⟩
        exact ⟨hnested, hown, hlists⟩

theorem reduceNested_fixed_iff (action : AutomationAction) :
    reduceNested action = action ↔
      ∀ run ∈ (actionLists action).flatMap commandStretches, (run.map AutomationAction.target?).Nodup := by
  match action with
  | .command _ _ _ _ | .delay _ | .setVariable _ _ => simp [reduceNested, actionLists]
  | .wait _ _ onTimeout =>
    rw [reduceNested, AutomationAction.wait.injEq, actionLists, reduceFailure_fixed_iff onTimeout]
    simp only [true_and]
  | .sequence actions =>
    rw [reduceNested, AutomationAction.sequence.injEq, reduceLoop_nil, actionLists, reduceRest_fixed_iff actions]
  | .if _ thenActions elseActions =>
    have hthen := reduceRest_fixed_iff thenActions
    have helse := reduceRest_fixed_iff elseActions
    rw [flatMap_cons, forall_mem_append] at hthen helse
    rw [reduceNested, AutomationAction.if.injEq, reduceLoop_nil, reduceLoop_nil, hthen, helse, actionLists,
      flatMap_cons, flatMap_cons, flatMap_append, forall_mem_append, forall_mem_append, forall_mem_append]
    constructor
    · rintro ⟨-, ⟨hthen, hthenLists⟩, helse, helseLists⟩
      exact ⟨hthen, helse, hthenLists, helseLists⟩
    · rintro ⟨hthen, helse, hthenLists, helseLists⟩
      exact ⟨rfl, ⟨hthen, hthenLists⟩, helse, helseLists⟩
  | .parallel branches _ =>
    rw [reduceNested, AutomationAction.parallel.injEq, actionLists, reduceBranches_fixed_iff branches]
    simp only [and_true]
  | .race branches _ =>
    rw [reduceNested, AutomationAction.race.injEq, actionLists, reduceBranches_fixed_iff branches]
    simp only [and_true]

theorem reduceFailure_fixed_iff (policy : AutomationFailurePolicy) :
    reduceFailure policy = policy ↔
      ∀ run ∈ (failureLists policy).flatMap commandStretches, (run.map AutomationAction.target?).Nodup := by
  match policy with
  | .stopRun | .stopBranch | .continue => simp [reduceFailure, failureLists]
  | .fallback actions =>
    rw [reduceFailure, AutomationFailurePolicy.fallback.injEq, reduceLoop_nil, failureLists,
      reduceRest_fixed_iff actions]

theorem reduceBranches_fixed_iff (branches : List (List AutomationAction)) :
    reduceBranches branches = branches ↔
      ∀ run ∈ (branchLists branches).flatMap commandStretches, (run.map AutomationAction.target?).Nodup := by
  match branches with
  | [] => simp [reduceBranches, branchLists]
  | branch :: rest =>
    have hbranch := reduceRest_fixed_iff branch
    rw [flatMap_cons, forall_mem_append] at hbranch
    rw [reduceBranches, cons.injEq, reduceLoop_nil, hbranch, reduceBranches_fixed_iff rest, branchLists,
      flatMap_cons, flatMap_append, forall_mem_append, forall_mem_append, and_assoc]
end

theorem reduceBranches_map (branches : List (List AutomationAction)) :
    reduceBranches branches = branches.map reduceActions := by
  induction branches with
  | nil => rw [reduceBranches, List.map_nil]
  | cons branch rest ih => rw [reduceBranches, ih, List.map_cons, reduceActions]

/-- Reduction is idempotent, keeps every action that is not a command and of each run of commands the last one for
each authored reference, in their order, and works inside out through sequences, conditions, groups and timeouts.
The fallback of a command is reduced with it exactly when there is nothing to reduce in it, and when no command fails
every reference is left in the same state exactly when the last command of each run replaces those before it. -/
theorem reduction_keeps_meaning_iff (actions : List AutomationAction) :
    reduceActions (reduceActions actions) = reduceActions actions ∧
    (reduceActions actions).filter (fun action => !action.isCommand) =
      (actions.filter (fun action => !action.isCommand)).map reduceNested ∧
    commandStretches (reduceActions actions) = (commandStretches actions).map flushSegment ∧
    (∀ run ∈ commandStretches actions, (∀ action ∈ run, action.isCommand = true) ∧ (flushSegment run).Sublist run ∧
      ∀ target, (flushSegment run).filter (fun action => action.target? == some target) =
        (run.filter (fun action => action.target? == some target)).getLast?.toList) ∧
    (reduceNested (.sequence actions) = .sequence (reduceActions actions) ∧
      (∀ condition elseActions, reduceNested (.if condition actions elseActions) =
        .if condition (reduceActions actions) (reduceActions elseActions)) ∧
      (∀ branches width, reduceNested (.parallel branches width) = .parallel (branches.map reduceActions) width) ∧
      (∀ branches width, reduceNested (.race branches width) = .race (branches.map reduceActions) width) ∧
      ∀ condition timeoutMs, reduceNested (.wait condition timeoutMs (.fallback actions)) =
        .wait condition timeoutMs (.fallback (reduceActions actions))) ∧
    ((∀ target payload retry, reduceNested (.command target payload retry (.fallback actions)) =
        .command target payload retry (.fallback (reduceActions actions))) ↔
      ∀ run ∈ listRuns actions, (run.map AutomationAction.target?).Nodup) ∧
    (LeavesSame actions ↔ ∀ run ∈ listRuns actions, RunReplaceable run) := by
  refine ⟨reduceActions_reduceActions actions, ?_, ?_, ?_, ⟨?_, ?_, ?_, ?_, ?_⟩, ?_, leaves_same_iff actions⟩
  · have hkept := keptActions_others actions
    rw [reduceActions_kept, List.filter_map, ← hkept]
    congr 1
    apply List.filter_congr
    intro action _
    simp only [Function.comp_apply, reduceNested_isCommand]
  · rw [reduceActions_kept, commandStretches_map, commandStretches_kept]
  · intro run hrun
    exact ⟨mem_commandStretches hrun, flushSegment_sublist run, fun target => flushSegment_filter run (some target)⟩
  · rw [reduceNested, reduceActions]
  · intro condition elseActions
    rw [reduceNested, reduceActions, reduceActions]
  · intro branches width
    rw [reduceNested, reduceBranches_map]
  · intro branches width
    rw [reduceNested, reduceBranches_map]
  · intro condition timeoutMs
    rw [reduceNested, reduceFailure, reduceActions]
  · have hfixed := reduceRest_fixed_iff actions
    simp only [reduceNested, AutomationAction.command.injEq, AutomationFailurePolicy.fallback.injEq, true_and]
    rw [reduceActions_eq, eq_comm]
    constructor
    · intro h
      exact hfixed.mp (h lampTarget (.onOff .toggle) ⟨0, 0, []⟩)
    · intro h _ _ _
      exact hfixed.mpr h

def toggleLamp : AutomationAction := .command lampTarget (.onOff .toggle) ⟨0, 0, []⟩ .stopRun

/-- Two toggles leave the lamp as it was, the one that reduction keeps of them turns it over. Where the first of two
commands can fail and stop the run, a run of the whole list can end with what it asked for. -/
theorem reduction_drops_toggle : reduceActions [toggleLamp, toggleLamp] = [toggleLamp] ∧
    (∃ o ∈ actionsOutcomes false [toggleLamp, toggleLamp],
      ∀ o' ∈ actionsOutcomes false (reduceActions [toggleLamp, toggleLamp]),
        o'.final lampTarget ⟨some (.onOff (.set false)), false⟩ ≠
          o.final lampTarget ⟨some (.onOff (.set false)), false⟩) ∧
    ∃ o ∈ actionsOutcomes true [switchLamp false, switchLamp true],
      ∀ o' ∈ actionsOutcomes true (reduceActions [switchLamp false, switchLamp true]), ∀ s,
        o'.final lampTarget s ≠ o.final lampTarget s := by
  have hreduced : reduceActions [toggleLamp, toggleLamp] = [toggleLamp] := by decide +kernel
  have hsecond : reduceActions [switchLamp false, switchLamp true] = [switchLamp true] := by decide +kernel
  refine ⟨hreduced, ⟨⟨[(lampTarget, .onOff .toggle), (lampTarget, .onOff .toggle)], .through⟩, ?_, ?_⟩,
    ⟨[(lampTarget, .onOff (.set false))], .runFailed⟩, ?_, ?_⟩
  · simp [toggleLamp, actionsOutcomes, actionOutcomes, ListOutcome.andThen, ListOutcome.after, ListOutcome.quiet]
  · intro o' ho'
    rw [hreduced] at ho'
    simp only [toggleLamp, actionsOutcomes, actionOutcomes, ListOutcome.andThen, ListOutcome.after,
      ListOutcome.quiet, List.map_cons, List.map_nil, List.flatMap_cons, List.flatMap_nil, List.append_nil,
      Bool.false_eq_true, if_false, List.mem_singleton] at ho'
    rw [ho']
    decide +kernel
  · simp [switchLamp, actionsOutcomes, actionOutcomes, failureOutcomes, ListOutcome.andThen, ListOutcome.after,
      ListOutcome.quiet]
  · intro o' ho' s
    rw [hsecond] at ho'
    simp only [switchLamp, actionsOutcomes, actionOutcomes, failureOutcomes, ListOutcome.andThen, ListOutcome.after,
      ListOutcome.quiet, List.map_cons, List.map_nil, List.flatMap_cons, List.flatMap_nil, List.append_nil,
      List.mem_append, List.mem_singleton, if_true] at ho'
    rcases ho' with rfl | rfl <;>
      simp [ListOutcome.final, finalState, payloadsTo, CommandPayload.leaves]

end HomeMagic
