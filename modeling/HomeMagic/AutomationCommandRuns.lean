import HomeMagic.AutomationEmission

/-! Which command of a run of adjacent commands reaches a target. Reduction compares the
references as they are written; a target can be written in several ways. -/
namespace HomeMagic
open List

variable {n segment : ℕ} {action : AutomationAction} {run actions : List AutomationAction}
  {listing listing' : Listing} {own : ℕ → List AutomationAction} {runs' : List (List AutomationAction)}

def commandStretches (actions : List AutomationAction) : List (List AutomationAction) :=
  actions.splitOnP (fun action => !action.isCommand)

def commandRuns (actions : List AutomationAction) : List (List AutomationAction) :=
  (commandStretches actions).filter (fun run => !run.isEmpty)

def keptActions : List AutomationAction → List AutomationAction
  | [] => []
  | action :: rest => if action.superseded rest then keptActions rest else action :: keptActions rest

section Runs
variable (nested : List AutomationAction → List (List AutomationAction))

def failureRuns : AutomationFailurePolicy → List (List AutomationAction)
  | .fallback actions => nested actions
  | _ => []

def actionRuns : AutomationAction → List (List AutomationAction)
  | .command _ _ _ onFailure => failureRuns nested onFailure
  | .wait _ _ onTimeout => failureRuns nested onTimeout
  | .sequence actions => nested actions
  | .if _ thenActions elseActions => nested thenActions ++ nested elseActions
  | .parallel branches _ | .race branches _ => branches.flatMap nested
  | .delay _ | .setVariable _ _ => []

end Runs

/-- The runs of an action list and, behind them, those of the lists nested in the actions
that are kept, last action first: the order in which they get their segments. -/
def authoredRuns : ℕ → List AutomationAction → List (List AutomationAction)
  | 0, _ => []
  | room + 1, actions =>
    commandRuns actions ++ (keptActions actions).reverse.flatMap (actionRuns (authoredRuns room))

def AutomationDocument.commandRuns (document : AutomationDocument) : List (List AutomationAction) :=
  authoredRuns document.budget.maximumNestingDepth document.actions

theorem commandStretches_cons (action : AutomationAction) (rest : List AutomationAction) :
    commandStretches (action :: rest) =
      if action.isCommand then (commandStretches rest).modifyHead (action :: ·)
      else [] :: commandStretches rest := by
  unfold commandStretches
  rw [splitOnP_cons_eq_if_modifyHead]
  cases action.isCommand <;> rfl

theorem commandStretches_eq (actions : List AutomationAction) :
    ∃ rest, commandStretches actions = actions.takeWhile AutomationAction.isCommand :: rest := by
  induction actions with
  | nil => exact ⟨[], rfl⟩
  | cons action actions ih =>
    rw [commandStretches_cons]
    obtain ⟨rest, hrest⟩ := ih
    by_cases hcommand : action.isCommand
    · rw [if_pos hcommand, hrest, takeWhile_cons_of_pos hcommand]
      exact ⟨rest, rfl⟩
    · rw [if_neg hcommand, takeWhile_cons_of_neg hcommand]
      exact ⟨_, rfl⟩

theorem mem_commandStretches (h : run ∈ commandStretches actions) :
    ∀ action ∈ run, action.isCommand := by
  induction actions generalizing run with
  | nil =>
    rw [mem_singleton.mp h]
    exact fun action haction => absurd haction not_mem_nil
  | cons first actions ih =>
    rw [commandStretches_cons] at h
    obtain ⟨rest, hrest⟩ := commandStretches_eq actions
    rw [hrest] at h ih
    split at h
    · rename_i hcommand
      rcases mem_cons.mp h with rfl | hmem
      · intro action haction
        rcases mem_cons.mp haction with rfl | haction
        · exact hcommand
        · exact ih mem_cons_self action haction
      · exact ih (mem_cons_of_mem _ hmem)
    · rcases mem_cons.mp h with rfl | hmem
      · exact fun action haction => absurd haction not_mem_nil
      · exact ih hmem

theorem flushSegment_ne_nil (h : run ≠ []) : flushSegment run ≠ [] := by
  induction run with
  | nil => exact absurd rfl h
  | cons action rest ih =>
    rw [flushSegment]
    split
    · rename_i hlater
      apply ih
      rintro rfl
      cases hlater
    · exact cons_ne_nil _ _

theorem flushSegment_isEmpty (run : List AutomationAction) : (flushSegment run).isEmpty = run.isEmpty := by
  cases run with
  | nil => rfl
  | cons action rest =>
    rw [isEmpty_cons, isEmpty_eq_false_iff]
    exact flushSegment_ne_nil (cons_ne_nil _ _)

theorem reduceActions_kept (actions : List AutomationAction) :
    reduceActions actions = (keptActions actions).map reduceNested := by
  rw [reduceActions_eq]
  induction actions with
  | nil => rfl
  | cons action rest ih =>
    rw [reduceRest, keptActions]
    split
    · exact ih
    · rw [map_cons, ih]

theorem commandStretches_kept (actions : List AutomationAction) :
    commandStretches (keptActions actions) = (commandStretches actions).map flushSegment := by
  induction actions with
  | nil => rfl
  | cons action actions ih =>
    obtain ⟨rest, hrest⟩ := commandStretches_eq actions
    rw [keptActions]
    by_cases hcommand : action.isCommand
    · have hflush : (commandStretches (action :: actions)).map flushSegment =
          flushSegment (action :: actions.takeWhile AutomationAction.isCommand) :: rest.map flushSegment := by
        rw [commandStretches_cons, if_pos hcommand, hrest]
        rfl
      rw [hflush, flushSegment]
      rw [hrest, map_cons] at ih
      simp only [AutomationAction.superseded, hcommand, Bool.true_and]
      split
      · exact ih
      · rw [commandStretches_cons, if_pos hcommand, ih]
        rfl
    · rw [if_neg (by simp [AutomationAction.superseded, hcommand]), commandStretches_cons,
        if_neg hcommand, commandStretches_cons, if_neg hcommand, ih]
      rfl

theorem commandRuns_kept (actions : List AutomationAction) :
    commandRuns (keptActions actions) = (commandRuns actions).map flushSegment := by
  unfold commandRuns
  rw [commandStretches_kept, List.filter_map]
  congr 1
  apply filter_congr
  intro run _
  simp only [Function.comp_apply, flushSegment_isEmpty]

mutual
theorem reduceRest_reduceRest (actions : List AutomationAction) :
    reduceRest (reduceRest actions) = reduceRest actions := by
  match actions with
  | [] => rfl
  | action :: rest =>
    rw [reduceRest]
    split
    · exact reduceRest_reduceRest rest
    · rename_i hkept
      rw [reduceRest, if_neg (fun hs => hkept (superseded_of_reduced hs)),
        reduceNested_reduceNested action, reduceRest_reduceRest rest]

theorem reduceNested_reduceNested (action : AutomationAction) :
    reduceNested (reduceNested action) = reduceNested action := by
  have hlist : ∀ actions, reduceLoop actions [] [] = reduceRest actions := by
    intro actions
    rw [reduceLoop_eq actions [] [] (by simp), nil_append, nil_append]
  match action with
  | .command _ _ _ _ | .delay _ | .setVariable _ _ => simp only [reduceNested]
  | .wait guard timeoutMs onTimeout => simp only [reduceNested, reduceFailure_reduceFailure onTimeout]
  | .sequence actions => simp only [reduceNested, hlist, reduceRest_reduceRest actions]
  | .if guard thenActions elseActions =>
    simp only [reduceNested, hlist, reduceRest_reduceRest thenActions, reduceRest_reduceRest elseActions]
  | .parallel branches maximumParallel | .race branches maximumParallel =>
    simp only [reduceNested, reduceBranches_reduceBranches branches]

theorem reduceFailure_reduceFailure (policy : AutomationFailurePolicy) :
    reduceFailure (reduceFailure policy) = reduceFailure policy := by
  match policy with
  | .stopRun | .stopBranch | .continue => simp only [reduceFailure]
  | .fallback actions =>
    simp only [reduceFailure]
    rw [reduceLoop_eq actions [] [] (by simp), nil_append, nil_append,
      reduceLoop_eq _ [] [] (by simp), nil_append, nil_append, reduceRest_reduceRest actions]

theorem reduceBranches_reduceBranches (branches : List (List AutomationAction)) :
    reduceBranches (reduceBranches branches) = reduceBranches branches := by
  match branches with
  | [] => simp only [reduceBranches]
  | branch :: rest =>
    simp only [reduceBranches]
    rw [reduceLoop_eq branch [] [] (by simp), nil_append, nil_append,
      reduceLoop_eq _ [] [] (by simp), nil_append, nil_append, reduceRest_reduceRest branch,
      reduceBranches_reduceBranches rest]
end

theorem reduceActions_reduceActions (actions : List AutomationAction) :
    reduceActions (reduceActions actions) = reduceActions actions := by
  rw [reduceActions_eq, reduceActions_eq, reduceRest_reduceRest]

theorem emittedFailure_reduce (nested : List AutomationAction → ℕ → Listing)
    (policy : AutomationFailurePolicy) (n : ℕ) :
    emittedFailure nested (reduceFailure policy) n = emittedFailure nested policy n := by
  cases policy with
  | fallback actions =>
    simp only [reduceFailure, emittedFailure]
    rw [show reduceLoop actions [] [] = reduceActions actions from rfl, reduceActions_reduceActions]
  | stopRun | stopBranch | «continue» => simp only [reduceFailure]

theorem emittedBranches_reduce (nested : List AutomationAction → ℕ → Listing)
    (branches : List (List AutomationAction)) (n : ℕ) :
    emittedBranches nested (reduceBranches branches) n = emittedBranches nested branches n := by
  induction branches generalizing n with
  | nil => simp only [reduceBranches]
  | cons branch rest ih =>
    simp only [reduceBranches, emittedBranches]
    rw [show reduceLoop branch [] [] = reduceActions branch from rfl, reduceActions_reduceActions, ih]

theorem emittedAction_reduce (nested : List AutomationAction → ℕ → Listing) (action : AutomationAction)
    (segment : Option ℕ) (n : ℕ) :
    emittedAction nested (reduceNested action) segment n = emittedAction nested action segment n := by
  have hlist : ∀ actions, reduceActions (reduceLoop actions [] []) = reduceActions actions :=
    reduceActions_reduceActions
  cases action with
  | command | delay | setVariable => simp only [reduceNested]
  | wait guard timeoutMs onTimeout => simp only [reduceNested, emittedAction, emittedFailure_reduce]
  | sequence actions => simp only [reduceNested, emittedAction, hlist]
  | «if» guard thenActions elseActions => simp only [reduceNested, emittedAction, hlist]
  | parallel branches maximumParallel | race branches maximumParallel =>
    simp only [reduceNested, emittedAction, emittedBranches_reduce]

def sentIn (commands : List EmittedCommand) (segment : ℕ) :
    List (AutomationTargetReference × CommandPayload) :=
  (commands.filter (fun command => command.segment == segment)).map
    (fun command => (command.target, command.payload))

def AutomationAction.sending? : AutomationAction → Option (AutomationTargetReference × CommandPayload)
  | .command target payload _ _ => some (target, payload)
  | _ => none

/-- What is sent for a run: its commands that no later one retargets, last one first. -/
def sentFor (run : List AutomationAction) : List (AutomationTargetReference × CommandPayload) :=
  (flushSegment run).reverse.filterMap AutomationAction.sending?

structure Numbers (listing : Listing) (n : ℕ)
    (own : ℕ → List (AutomationTargetReference × CommandPayload))
    (runs : List (List AutomationAction)) : Prop where
  next : listing.2 = n + runs.length
  sent : ∀ segment, sentIn listing.1 segment =
    if segment < n then own segment else (runs[segment - n]?).elim [] sentFor

theorem sentIn_append (commands commands' : List EmittedCommand) (segment : ℕ) :
    sentIn (commands ++ commands') segment = sentIn commands segment ++ sentIn commands' segment := by
  unfold sentIn
  rw [filter_append, map_append]

theorem Numbers.nil (n : ℕ) : Numbers ([], n) n (fun _ => []) [] := by
  refine ⟨rfl, ?_⟩
  intro segment
  split <;> rfl

theorem Numbers.append {own own' : ℕ → List (AutomationTargetReference × CommandPayload)}
    {runs : List (List AutomationAction)} (h : Numbers listing n own runs)
    (h' : Numbers listing' listing.2 own' runs')
    (hown : ∀ segment, n ≤ segment → segment < listing.2 → own' segment = []) :
    Numbers (listing.1 ++ listing'.1, listing'.2) n (fun segment => own segment ++ own' segment)
      (runs ++ runs') := by
  have hnext := h.next
  refine ⟨?_, ?_⟩
  · rw [h'.next, hnext, length_append, Nat.add_assoc]
  · intro segment
    rw [sentIn_append, h.sent, h'.sent]
    by_cases hbefore : segment < n
    · rw [if_pos hbefore, if_pos hbefore, if_pos (by omega)]
    · rw [if_neg hbefore, if_neg hbefore]
      by_cases hfirst : segment < listing.2
      · rw [if_pos hfirst, hown segment (Nat.not_lt.mp hbefore) hfirst, append_nil,
          List.getElem?_append_left (by omega)]
      · have hnone : runs[segment - n]? = none := List.getElem?_eq_none (by omega)
        rw [if_neg hfirst, hnone, List.getElem?_append_right (by omega), Option.elim_none, nil_append]
        congr 2
        omega

theorem Numbers.append_new {runs : List (List AutomationAction)} (h : Numbers listing n (fun _ => []) runs)
    (h' : Numbers listing' listing.2 (fun _ => []) runs') :
    Numbers (listing.1 ++ listing'.1, listing'.2) n (fun _ => []) (runs ++ runs') :=
  h.append h' (fun _ _ _ => rfl)

def actionsIn (pairs : List (AutomationAction × Option ℕ)) (segment : ℕ) : List AutomationAction :=
  (pairs.filter (fun pair => pair.2 == some segment)).map Prod.fst

def numbered (n : ℕ) (runs : List (List AutomationAction)) (segment : ℕ) : List AutomationAction :=
  if segment < n then [] else (runs[segment - n]?).getD []

theorem actionsIn_cons (action : AutomationAction) (assigned : Option ℕ)
    (pairs : List (AutomationAction × Option ℕ)) (segment : ℕ) :
    actionsIn ((action, assigned) :: pairs) segment =
      if assigned = some segment then action :: actionsIn pairs segment else actionsIn pairs segment := by
  unfold actionsIn
  rw [filter_cons]
  by_cases hassigned : assigned = some segment
  · rw [if_pos hassigned, if_pos (by simpa using hassigned), map_cons]
  · rw [if_neg hassigned, if_neg (by simpa using hassigned)]

theorem numbered_cons (n : ℕ) (run : List AutomationAction) (runs : List (List AutomationAction))
    (segment : ℕ) :
    numbered n (run :: runs) segment = if segment = n then run else numbered (n + 1) runs segment := by
  unfold numbered
  by_cases hbefore : segment < n
  · rw [if_pos hbefore, if_neg (by omega), if_pos (by omega)]
  · rw [if_neg hbefore]
    by_cases hfirst : segment = n
    · rw [if_pos hfirst, hfirst, Nat.sub_self]
      rfl
    · have hsub : segment - n = (segment - (n + 1)) + 1 := by omega
      rw [if_neg hfirst, if_neg (by omega), hsub, List.getElem?_cons_succ]

def laterRuns (actions : List AutomationAction) : List (List AutomationAction) :=
  (commandStretches actions).tail.filter (fun run => !run.isEmpty)

theorem commandRuns_command (h : action.isCommand) (rest : List AutomationAction) :
    commandRuns (action :: rest) =
      (action :: rest.takeWhile AutomationAction.isCommand) :: laterRuns rest ∧
    laterRuns (action :: rest) = laterRuns rest := by
  obtain ⟨stretches, hstretches⟩ := commandStretches_eq rest
  unfold commandRuns laterRuns
  rw [commandStretches_cons, if_pos h, hstretches]
  exact ⟨rfl, rfl⟩

theorem commandRuns_other (h : action.isCommand = false) (rest : List AutomationAction) :
    commandRuns (action :: rest) = commandRuns rest ∧ laterRuns (action :: rest) = commandRuns rest := by
  unfold commandRuns laterRuns
  rw [commandStretches_cons, if_neg (by simp [h])]
  exact ⟨rfl, rfl⟩

structure Assigned (segments : List (Option ℕ) × ℕ) (actions : List AutomationAction) (behind : ℕ)
    (own : ℕ → List AutomationAction) : Prop where
  counter : segments.2 = behind
  inSegment : ∀ segment, actionsIn (actions.zip segments.1) segment = own segment
  commands : ∀ pair ∈ actions.zip segments.1, pair.1.isCommand →
    ∃ segment < behind, pair.2 = some segment

theorem Assigned.nil (h : ∀ segment, own segment = []) :
    Assigned ([], n) [] n own :=
  ⟨rfl, fun segment => (h segment).symm, fun _ hpair => absurd hpair not_mem_nil⟩

theorem Assigned.cons {segments : List (Option ℕ) × ℕ} {behind : ℕ} {own' : ℕ → List AutomationAction}
    (h : Assigned segments actions behind own) {assigned : Option ℕ}
    (hassigned : action.isCommand → ∃ segment < behind, assigned = some segment) (hown : ∀ segment, own' segment =
      if assigned = some segment then action :: own segment else own segment) :
    Assigned (assigned :: segments.1, segments.2) (action :: actions) behind own' := by
  refine ⟨h.counter, ?_, ?_⟩
  · intro segment
    rw [zip_cons_cons, actionsIn_cons, h.inSegment, hown]
  · intro pair hpair hcommand
    rw [zip_cons_cons] at hpair
    rcases mem_cons.mp hpair with rfl | hpair
    · exact hassigned hcommand
    · exact h.commands pair hpair hcommand

theorem numbered_nil (n segment : ℕ) : numbered n [] segment = [] := by
  unfold numbered
  split <;> rfl

theorem numbered_lt (runs : List (List AutomationAction)) (h : segment < n) :
    numbered n runs segment = [] := if_pos h

/-- While the counter does not run out, an open segment takes the first stretch and every
further run gets the next number. -/
theorem segmentsOf_assigned (actions : List AutomationAction) :
    (∀ n, n + (commandRuns actions).length ≤ 2^32 - 1 →
      Assigned (segmentsOf actions none n) actions (n + (commandRuns actions).length)
        (numbered n (commandRuns actions))) ∧
    ∀ active n, active < n → n + (laterRuns actions).length ≤ 2^32 - 1 →
      Assigned (segmentsOf actions (some active) n) actions (n + (laterRuns actions).length)
        (fun segment => if segment = active then actions.takeWhile AutomationAction.isCommand
          else numbered n (laterRuns actions) segment) := by
  induction actions with
  | nil =>
    refine ⟨fun n _ => .nil (numbered_nil n), fun active n _ _ => .nil ?_⟩
    intro segment
    split
    · rfl
    · exact numbered_nil n segment
  | cons action rest ih =>
    obtain ⟨hnone, hsome⟩ := ih
    by_cases hcommand : action.isCommand
    · obtain ⟨hruns, hlater⟩ := commandRuns_command hcommand rest
      refine ⟨?_, ?_⟩
      · -- a command opens segment `n`
        intro n hbound
        rw [hruns, length_cons] at hbound ⊢
        have hmin : min (n + 1) (2^32 - 1) = n + 1 := Nat.min_eq_left (by omega)
        have hrest := hsome n (n + 1) (Nat.lt_succ_self n) (by omega)
        have hbehind : n + ((laterRuns rest).length + 1) = n + 1 + (laterRuns rest).length := by omega
        simp only [segmentsOf, hcommand, if_true, hmin]
        rw [hbehind]
        refine hrest.cons (fun _ => ⟨n, by omega, rfl⟩) ?_
        intro segment
        rw [numbered_cons]
        by_cases hsegment : segment = n
        · simp [hsegment]
        · simp [hsegment, Ne.symm hsegment]
      · -- a command joins the open segment
        intro active n hactive hbound
        rw [hlater] at hbound ⊢
        have hrest := hsome active n hactive hbound
        simp only [segmentsOf, hcommand, if_true]
        refine hrest.cons (fun _ => ⟨active, by omega, rfl⟩) ?_
        intro segment
        rw [takeWhile_cons_of_pos hcommand]
        by_cases hsegment : segment = active
        · simp [hsegment]
        · simp [hsegment, Ne.symm hsegment]
    · -- any other action closes it
      have hother : action.isCommand = false := by simpa using hcommand
      obtain ⟨hruns, hlater⟩ := commandRuns_other hother rest
      refine ⟨?_, ?_⟩
      · intro n hbound
        rw [hruns] at hbound ⊢
        simp only [segmentsOf, hother, Bool.false_eq_true, if_false]
        exact (hnone n hbound).cons (fun h => absurd h hcommand) (fun segment => rfl)
      · intro active n hactive hbound
        rw [hlater] at hbound ⊢
        simp only [segmentsOf, hother, Bool.false_eq_true, if_false]
        refine (hnone n hbound).cons (fun h => absurd h hcommand) ?_
        intro segment
        rw [takeWhile_cons_of_neg hcommand]
        by_cases hsegment : segment = active
        · simp [hsegment, numbered_lt _ hactive]
        · simp [hsegment]

section Levels
variable {nested : List AutomationAction → ℕ → Listing}
  {runs : List AutomationAction → List (List AutomationAction)}

def NestedNumbers (nested : List AutomationAction → ℕ → Listing)
    (runs : List AutomationAction → List (List AutomationAction)) : Prop :=
  ∀ actions n, n + (runs actions).length ≤ 2^32 - 1 →
    Numbers (nested (reduceActions actions) n) n (fun _ => []) (runs actions)

theorem emittedFailure_numbers (hn : NestedNumbers nested runs) (policy : AutomationFailurePolicy)
    (hbound : n + (failureRuns runs policy).length ≤ 2^32 - 1) :
    Numbers (emittedFailure nested policy n) n (fun _ => []) (failureRuns runs policy) := by
  cases policy with
  | fallback actions => exact hn actions n hbound
  | stopRun | stopBranch | «continue» => exact .nil n

theorem emittedBranches_numbers (hn : NestedNumbers nested runs) (branches : List (List AutomationAction))
    (hbound : n + (branches.flatMap runs).length ≤ 2^32 - 1) :
    Numbers (emittedBranches nested branches n) n (fun _ => []) (branches.flatMap runs) := by
  induction branches generalizing n with
  | nil => exact .nil n
  | cons branch rest ih =>
    rw [flatMap_cons] at hbound ⊢
    rw [length_append] at hbound
    have hbranch := hn branch n (by omega)
    have hnext := hbranch.next
    exact hbranch.append_new (ih (by omega))

def ownSent (action : AutomationAction) (assigned : Option ℕ) (segment : ℕ) :
    List (AutomationTargetReference × CommandPayload) :=
  if assigned = some segment then action.sending?.toList else []

/-- An action numbers its own run and, behind it, those nested in it. -/
theorem emittedAction_numbers (hn : NestedNumbers nested runs) (action : AutomationAction) (assigned : Option ℕ)
    (hassigned : action.isCommand → ∃ segment < n, assigned = some segment)
    (hbound : n + (actionRuns runs action).length ≤ 2^32 - 1) :
    Numbers (emittedAction nested action assigned n) n (ownSent action assigned)
      (actionRuns runs action) := by
  have hsilent : action.sending? = none → ownSent action assigned = fun _ => [] := by
    intro hnone
    funext segment
    unfold ownSent
    rw [hnone]
    split <;> rfl
  cases action with
  | command target payload retry onFailure =>
    obtain ⟨segment, hlt, rfl⟩ := hassigned rfl
    have hfailure := emittedFailure_numbers hn onFailure hbound
    refine ⟨hfailure.next, ?_⟩
    intro other
    show sentIn (_ ++ [⟨segment, target, payload⟩]) other = _
    rw [sentIn_append, hfailure.sent]
    unfold ownSent
    by_cases hsame : segment = other
    · subst hsame
      rw [if_pos hlt, if_pos hlt]
      simp [sentIn, AutomationAction.sending?]
    · have hother : sentIn [⟨segment, target, payload⟩] other = [] := by simp [sentIn, hsame]
      rw [hother, append_nil]
      split
      · rw [if_neg (fun heq => hsame (Option.some.inj heq))]
      · rfl
  | delay durationMs | setVariable name value =>
    rw [hsilent rfl]
    exact .nil n
  | wait guard timeoutMs onTimeout =>
    rw [hsilent rfl]
    exact emittedFailure_numbers hn onTimeout hbound
  | sequence actions =>
    rw [hsilent rfl]
    exact hn actions n hbound
  | «if» guard thenActions elseActions =>
    rw [hsilent rfl]
    simp only [actionRuns, length_append] at hbound
    have hthen := hn thenActions n (by omega)
    have hnext := hthen.next
    exact hthen.append_new (hn elseActions _ (by omega))
  | parallel branches maximumParallel | race branches maximumParallel =>
    rw [hsilent rfl]
    exact emittedBranches_numbers hn branches hbound

/-- The last action is compiled first, so its nested runs come first. -/
theorem emittedReversed_numbers (hn : NestedNumbers nested runs) (pairs : List (AutomationAction × Option ℕ))
    (hpairs : ∀ pair ∈ pairs, pair.1.isCommand → ∃ segment < n, pair.2 = some segment)
    (hbound : n + ((pairs.map Prod.fst).reverse.flatMap (actionRuns runs)).length ≤ 2^32 - 1) :
    Numbers (emittedReversed nested pairs n) n
      (fun segment => (actionsIn pairs segment).reverse.filterMap AutomationAction.sending?)
      ((pairs.map Prod.fst).reverse.flatMap (actionRuns runs)) := by
  induction pairs with
  | nil => exact .nil n
  | cons pair rest ih =>
    obtain ⟨action, assigned⟩ := pair
    have hruns : (((action, assigned) :: rest).map Prod.fst).reverse.flatMap (actionRuns runs) =
        (rest.map Prod.fst).reverse.flatMap (actionRuns runs) ++ actionRuns runs action := by simp
    rw [hruns] at hbound ⊢
    rw [length_append] at hbound
    have hrest := ih (fun other hother => hpairs other (mem_cons_of_mem _ hother)) (by omega)
    have hnext := hrest.next
    have hassigned : action.isCommand → ∃ segment < (emittedReversed nested rest n).2,
        assigned = some segment := by
      intro hcommand
      obtain ⟨segment, hlt, heq⟩ := hpairs (action, assigned) mem_cons_self hcommand
      exact ⟨segment, by omega, heq⟩
    have hhead := emittedAction_numbers hn action assigned hassigned (by omega)
    -- the segment of the action itself is an earlier one
    have hown : ∀ segment, n ≤ segment → segment < (emittedReversed nested rest n).2 →
        ownSent action assigned segment = [] := by
      intro segment hle _
      unfold ownSent
      split
      · rename_i heq
        by_cases hcommand : action.isCommand
        · obtain ⟨other, hlt, hother⟩ := hpairs (action, assigned) mem_cons_self hcommand
          have hsame : other = segment := Option.some.inj (hother.symm.trans heq)
          omega
        · cases action with
          | command => exact absurd rfl hcommand
          | _ => rfl
      · rfl
    have hall := hrest.append hhead hown
    refine ⟨hall.next, ?_⟩
    intro segment
    rw [show sentIn (emittedReversed nested ((action, assigned) :: rest) n).1 segment = _ from
      hall.sent segment, actionsIn_cons]
    unfold ownSent
    split
    · split
      · have hone : [action].filterMap AutomationAction.sending? = action.sending?.toList := by
          cases hsending : action.sending? <;> simp [hsending]
        rw [reverse_cons, filterMap_append, hone]
      · rw [append_nil]
    · rfl

theorem segmentsOf_map (actions : List AutomationAction) (active : Option ℕ) (n : ℕ) :
    segmentsOf (actions.map reduceNested) active n = segmentsOf actions active n := by
  induction actions generalizing active n with
  | nil => rfl
  | cons action rest ih =>
    simp only [map_cons, segmentsOf, reduceNested_isCommand]
    split
    · cases active <;> simp only [ih]
    · rw [ih]

theorem emittedReversed_map (nested : List AutomationAction → ℕ → Listing)
    (actions : List AutomationAction) (segments : List (Option ℕ)) (n : ℕ) :
    emittedReversed nested ((actions.map reduceNested).zip segments) n =
      emittedReversed nested (actions.zip segments) n := by
  induction actions generalizing segments with
  | nil => rfl
  | cons action rest ih =>
    cases segments with
    | nil => rfl
    | cons segment segments =>
      simp only [map_cons, zip_cons_cons, emittedReversed, ih, emittedAction_reduce]

end Levels

/-- The commands emitted for a list are those of its runs, run `k` in segment `n + k`. -/
theorem emittedActions_numbers (room : ℕ) :
    NestedNumbers (emittedActions room) (authoredRuns room) := by
  induction room with
  | zero => exact fun actions n _ => .nil n
  | succ room ih =>
    intro actions n hbound
    simp only [authoredRuns, length_append] at hbound ⊢
    have hkept : (commandRuns (keptActions actions)).length = (commandRuns actions).length := by
      rw [commandRuns_kept, length_map]
    have hassigned := (segmentsOf_assigned (keptActions actions)).1 n (by omega)
    have hlength : ((keptActions actions).zip (segmentsOf (keptActions actions) none n).1).map Prod.fst =
        keptActions actions :=
      map_fst_zip (le_of_eq (segmentsOf_length (keptActions actions) none n).symm)
    have hlevel : emittedActions (room + 1) (reduceActions actions) n =
        emittedReversed (emittedActions room)
          ((keptActions actions).zip (segmentsOf (keptActions actions) none n).1)
          (n + (commandRuns actions).length) := by
      rw [emittedActions, reduceActions_kept, segmentsOf_map, emittedReversed_map, hassigned.counter, hkept]
    have hall := emittedReversed_numbers ih
      ((keptActions actions).zip (segmentsOf (keptActions actions) none n).1)
      (n := n + (commandRuns actions).length) (by rw [← hkept]; exact hassigned.commands)
      (by rw [hlength]; omega)
    rw [← hlevel, hlength] at hall
    refine ⟨?_, ?_⟩
    · rw [hall.next, length_append]
      omega
    · intro segment
      rw [hall.sent, hassigned.inSegment]
      unfold numbered
      -- a segment of this level or of one below it
      by_cases hbefore : segment < n
      · rw [if_pos hbefore, if_pos (by omega), if_pos hbefore]
        rfl
      · rw [if_neg hbefore, if_neg hbefore]
        by_cases hlocal : segment < n + (commandRuns actions).length
        · rw [if_pos hlocal, List.getElem?_append_left (by omega), commandRuns_kept, List.getElem?_map]
          cases (commandRuns actions)[segment - n]? <;> rfl
        · rw [if_neg hlocal, List.getElem?_append_right (by omega)]
          congr 2
          omega

theorem laterRuns_length_le (actions : List AutomationAction) :
    (laterRuns actions).length ≤ (commandRuns actions).length := by
  obtain ⟨rest, hrest⟩ := commandStretches_eq actions
  unfold laterRuns commandRuns
  rw [hrest, tail_cons, filter_cons]
  split
  · exact Nat.le_succ _
  · exact Nat.le_refl _

theorem commandRuns_length_le (actions : List AutomationAction) :
    (commandRuns actions).length ≤ actions.countP AutomationAction.isCommand := by
  induction actions with
  | nil => exact Nat.le_refl _
  | cons action rest ih =>
    by_cases hcommand : action.isCommand
    · rw [(commandRuns_command hcommand rest).1, length_cons, countP_cons_of_pos hcommand]
      have hlater := laterRuns_length_le rest
      omega
    · rw [(commandRuns_other (by simpa using hcommand) rest).1, countP_cons_of_neg hcommand]
      exact ih

section Counting
variable {nested : List AutomationAction → ℕ → Listing}
  {runs : List AutomationAction → List (List AutomationAction)}
  (hn : ∀ actions n, (runs actions).length ≤ (nested (reduceActions actions) n).1.length)
include hn

theorem failureRuns_length_le (policy : AutomationFailurePolicy) (n : ℕ) :
    (failureRuns runs policy).length ≤ (emittedFailure nested policy n).1.length := by
  cases policy with
  | fallback actions => exact hn actions n
  | stopRun | stopBranch | «continue» => exact Nat.le_refl _

theorem branchRuns_length_le (branches : List (List AutomationAction)) (n : ℕ) :
    (branches.flatMap runs).length ≤ (emittedBranches nested branches n).1.length := by
  induction branches generalizing n with
  | nil => exact Nat.le_refl _
  | cons branch rest ih =>
    rw [flatMap_cons, length_append]
    have hbranch := hn branch n
    have hrest := ih (nested (reduceActions branch) n).2
    simp only [emittedBranches, length_append]
    omega

theorem actionRuns_length_le (action : AutomationAction) (assigned : Option ℕ) (n : ℕ) :
    (actionRuns runs action).length + (if action.isCommand then 1 else 0) ≤
      (emittedAction nested action assigned n).1.length := by
  cases action with
  | command target payload retry onFailure =>
    have hfailure := failureRuns_length_le hn onFailure n
    simp only [actionRuns, emittedAction, AutomationAction.isCommand, length_append,
      length_singleton, if_true]
    omega
  | delay | setVariable => exact Nat.le_refl _
  | wait guard timeoutMs onTimeout => exact failureRuns_length_le hn onTimeout n
  | sequence actions => exact hn actions n
  | «if» guard thenActions elseActions =>
    have hthen := hn thenActions n
    have helse := hn elseActions (nested (reduceActions thenActions) n).2
    simp only [actionRuns, emittedAction, length_append, AutomationAction.isCommand,
      Bool.false_eq_true, if_false]
    omega
  | parallel branches maximumParallel | race branches maximumParallel =>
    exact branchRuns_length_le hn branches n

theorem levelRuns_length_le (pairs : List (AutomationAction × Option ℕ)) (n : ℕ) :
    ((pairs.map Prod.fst).reverse.flatMap (actionRuns runs)).length +
        (pairs.map Prod.fst).countP AutomationAction.isCommand ≤
      (emittedReversed nested pairs n).1.length := by
  induction pairs with
  | nil => exact Nat.le_refl _
  | cons pair rest ih =>
    have hhead := actionRuns_length_le hn pair.1 pair.2 (emittedReversed nested rest n).2
    rw [map_cons, reverse_cons, flatMap_append, length_append, countP_cons,
      flatMap_singleton]
    simp only [emittedReversed, length_append]
    omega

end Counting

theorem authoredRuns_length_le (room : ℕ) (actions : List AutomationAction) (n : ℕ) :
    (authoredRuns room actions).length ≤ (emittedActions room (reduceActions actions) n).1.length := by
  induction room generalizing actions n with
  | zero => exact Nat.le_refl _
  | succ room ih =>
    have hlength : ((keptActions actions).zip (segmentsOf (keptActions actions) none n).1).map Prod.fst =
        keptActions actions :=
      map_fst_zip (le_of_eq (segmentsOf_length (keptActions actions) none n).symm)
    have hlevel := levelRuns_length_le ih
      ((keptActions actions).zip (segmentsOf (keptActions actions) none n).1)
      (segmentsOf (keptActions actions) none n).2
    rw [hlength] at hlevel
    have hruns := commandRuns_length_le (keptActions actions)
    rw [commandRuns_kept, length_map] at hruns
    rw [authoredRuns, emittedActions, reduceActions_kept, segmentsOf_map, emittedReversed_map,
      length_append]
    omega

theorem compile_segments {e : CompilerEnv} {plan : AutomationExecutionPlan} (h : compile e = .ok plan)
    (hrun : e.document.commandRuns[segment]? = some run) :
    sentIn e.document.emitted segment = sentFor run := by
  have hplan := compile_compiledPlan e plan h
  have hlimit := (validate_bounds _ hplan.valid).1
  have hnodes := hplan.nodes
  have hcommands : (commandNodes plan.nodes).length ≤ plan.nodes.length := length_filterMap_le _ _
  have hemitted := (compile_emits h).1.length_eq
  have hcount : e.document.commandRuns.length ≤ e.document.emitted.length :=
    authoredRuns_length_le e.document.budget.maximumNestingDepth e.document.actions 0
  unfold maxAutomationPlanNodes at hlimit
  have hbound : 0 + e.document.commandRuns.length ≤ 2^32 - 1 := by omega
  have hsent := (emittedActions_numbers e.document.budget.maximumNestingDepth e.document.actions 0
    hbound).sent segment
  rw [if_neg (Nat.not_lt_zero _), Nat.sub_zero] at hsent
  rw [show sentIn e.document.emitted segment = _ from hsent]
  unfold AutomationDocument.commandRuns at hrun
  rw [hrun]
  rfl

end HomeMagic
