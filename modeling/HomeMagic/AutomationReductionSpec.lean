import HomeMagic.AutomationPlanShape

/-! Reduction drops superseded commands and nothing else. -/
namespace HomeMagic
open List

@[simp] theorem reduceNested_isCommand (action : AutomationAction) :
    (reduceNested action).isCommand = action.isCommand := by
  cases action <;> simp only [reduceNested] <;> rfl

@[simp] theorem reduceNested_target (action : AutomationAction) :
    (reduceNested action).target? = action.target? := by
  cases action <;> simp only [reduceNested] <;> rfl

theorem reduceNested_command (action : AutomationAction) (h : action.isCommand) :
    reduceNested action = action := by
  cases action with
  | command target payload retry onFailure => simp only [reduceNested]
  | _ => cases h

@[simp] theorem reduceBranches_length (branches : List (List AutomationAction)) :
    (reduceBranches branches).length = branches.length := by
  induction branches with
  | nil => simp only [reduceBranches]
  | cons branch rest ih => simp only [reduceBranches, length_cons, ih]

theorem reduceBranches_ne_nil {branches : List (List AutomationAction)}
    (h : reduceBranches branches ≠ []) : branches ≠ [] := by
  rintro rfl
  simp only [reduceBranches, ne_eq, not_true_eq_false] at h

def reduceRest : List AutomationAction → List AutomationAction
  | [] => []
  | action :: rest =>
    if action.superseded rest then reduceRest rest else reduceNested action :: reduceRest rest

theorem reduceRest_append_segment (segment rest : List AutomationAction)
    (hs : ∀ action ∈ segment, action.isCommand)
    (hr : rest.takeWhile AutomationAction.isCommand = []) :
    reduceRest (segment ++ rest) = flushSegment segment ++ reduceRest rest := by
  induction segment with
  | nil => rfl
  | cons action segment ih =>
    have ha := hs action mem_cons_self
    have hseg : ∀ action ∈ segment, action.isCommand := fun a h => hs a (mem_cons_of_mem _ h)
    have hw : (segment ++ rest).takeWhile AutomationAction.isCommand = segment := by
      rw [takeWhile_append_of_pos hseg, hr, append_nil]
    simp only [cons_append, reduceRest, flushSegment, AutomationAction.superseded, ha,
      Bool.true_and, hw, ih hseg]
    split
    · rfl
    · rw [reduceNested_command action ha, cons_append]

theorem reduceLoop_eq (actions segment output : List AutomationAction)
    (hs : ∀ action ∈ segment, action.isCommand) :
    reduceLoop actions segment output = output ++ reduceRest (segment ++ actions) := by
  induction actions generalizing segment output with
  | nil => rw [reduceLoop, reduceRest_append_segment segment [] hs rfl, reduceRest, append_nil]
  | cons action rest ih =>
    rw [reduceLoop]
    split
    · rename_i ha
      have hseg : ∀ a ∈ segment ++ [action], a.isCommand := by
        intro a hm
        rcases mem_append.mp hm with hm | hm
        · exact hs a hm
        · rw [mem_singleton.mp hm]
          exact ha
      rw [ih _ _ hseg, append_assoc, singleton_append]
    · rename_i ha
      have hw : (action :: rest).takeWhile AutomationAction.isCommand = [] := by
        simp [ha]
      rw [ih [] _ (by simp), nil_append, reduceRest_append_segment segment _ hs hw, reduceRest,
        if_neg (by simp [AutomationAction.superseded, ha])]
      simp only [append_assoc, singleton_append]

theorem reduceActions_eq (actions : List AutomationAction) :
    reduceActions actions = reduceRest actions := by
  rw [reduceActions, reduceLoop_eq actions [] [] (by simp), nil_append, nil_append]

theorem reduceRest_takeWhile (rest : List AutomationAction) (target : Option AutomationTargetReference)
    (h : ((reduceRest rest).takeWhile AutomationAction.isCommand).any
      (fun candidate => candidate.target? == target)) :
    (rest.takeWhile AutomationAction.isCommand).any (fun candidate => candidate.target? == target) := by
  induction rest with
  | nil => exact h
  | cons action rest ih =>
    rw [reduceRest] at h
    split at h
    · rename_i hs
      have hc : action.isCommand := (Bool.and_eq_true_iff.mp hs).1
      rw [takeWhile_cons_of_pos hc, any_cons, ih h, Bool.or_true]
    · by_cases hc : action.isCommand
      · rw [takeWhile_cons_of_pos (by simpa using hc), any_cons, reduceNested_target,
          Bool.or_eq_true] at h
        rw [takeWhile_cons_of_pos hc, any_cons, Bool.or_eq_true]
        exact h.imp_right ih
      · rw [takeWhile_cons_of_neg (by simpa using hc)] at h
        exact absurd h (by simp)

theorem superseded_of_reduced {action : AutomationAction} {rest : List AutomationAction}
    (h : (reduceNested action).superseded (reduceRest rest)) : action.superseded rest := by
  unfold AutomationAction.superseded at h ⊢
  rw [reduceNested_isCommand, reduceNested_target, Bool.and_eq_true] at h
  rw [Bool.and_eq_true]
  exact ⟨h.1, reduceRest_takeWhile rest _ h.2⟩

variable {e : CompilerEnv} {ns : List AutomationPlanNode}

mutual
theorem Region.of_reduceRest (actions : List AutomationAction) {next entry lo hi : ℕ}
    (h : Region e ns (.block (reduceRest actions) next entry) lo hi) :
    Region e ns (.block actions next entry) lo hi := by
  match actions with
  | [] => exact h
  | action :: rest =>
    rw [reduceRest] at h
    split at h
    · rename_i hs
      exact .superseded hs (Region.of_reduceRest rest h)
    · cases h with
      | superseded hs hr => exact .superseded (superseded_of_reduced hs) (Region.of_reduceRest rest hr)
      | cons hr hs => exact .cons (Region.of_reduceRest rest hr) (Region.of_reduceNested action hs)

theorem Region.of_reduceNested (action : AutomationAction) {next entry lo hi : ℕ}
    (h : Region e ns (.step (reduceNested action) next entry) lo hi) :
    Region e ns (.step action next entry) lo hi := by
  match action with
  | .command _ _ _ _ | .delay _ | .setVariable _ _ => simpa only [reduceNested] using h
  | .wait guard timeoutMs onTimeout =>
    simp only [reduceNested] at h
    cases h with
    | wait hc hp hn => exact .wait hc (Region.of_reduceFailure onTimeout hp) hn
    | group hg => cases hg
  | .sequence actions =>
    simp only [reduceNested, reduceLoop_eq actions [] [] (by simp), nil_append] at h
    cases h with
    | sequence hr => exact .sequence (Region.of_reduceRest actions hr)
    | group hg => cases hg
  | .if guard thenActions elseActions =>
    simp only [reduceNested, reduceLoop_eq thenActions [] [] (by simp),
      reduceLoop_eq elseActions [] [] (by simp), nil_append] at h
    cases h with
    | branch hj ht he hc hn =>
      exact .branch hj (Region.of_reduceRest thenActions ht) (Region.of_reduceRest elseActions he) hc hn
    | group hg => cases hg
  | .parallel branches maximumParallel =>
    simp only [reduceNested] at h
    cases h with
    | group hg hne hw hj hb hn =>
      cases hg
      exact .group rfl (reduceBranches_ne_nil hne) (reduceBranches_length branches ▸ hw) hj
        (Region.of_reduceBranches branches hb) hn
  | .race branches maximumParallel =>
    simp only [reduceNested] at h
    cases h with
    | group hg hne hw hj hb hn =>
      cases hg
      exact .group rfl (reduceBranches_ne_nil hne) (reduceBranches_length branches ▸ hw) hj
        (Region.of_reduceBranches branches hb) hn

theorem Region.of_reduceFailure (policy : AutomationFailurePolicy) {next lo hi : ℕ}
    {compiled : AutomationPlanFailurePolicy}
    (h : Region e ns (.policy (reduceFailure policy) next compiled) lo hi) :
    Region e ns (.policy policy next compiled) lo hi := by
  match policy with
  | .stopRun | .stopBranch | .continue => simpa only [reduceFailure] using h
  | .fallback actions =>
    simp only [reduceFailure, reduceLoop_eq actions [] [] (by simp), nil_append] at h
    cases h with
    | plain hp => cases hp
    | fallback hr => exact .fallback (Region.of_reduceRest actions hr)

theorem Region.of_reduceBranches (branches : List (List AutomationAction)) {join lo hi : ℕ}
    {entries : List ℕ}
    (h : Region e ns (.branches (reduceBranches branches) join entries) lo hi) :
    Region e ns (.branches branches join entries) lo hi := by
  match branches with
  | [] => simpa only [reduceBranches] using h
  | first :: rest =>
    simp only [reduceBranches, reduceLoop_eq first [] [] (by simp), nil_append] at h
    cases h with
    | moreBranches hb hr =>
      exact .moreBranches (Region.of_reduceRest first hb) (Region.of_reduceBranches rest hr)
end

theorem Region.of_reduceActions {actions : List AutomationAction} {next entry lo hi : ℕ}
    (h : Region e ns (.block (reduceActions actions) next entry) lo hi) :
    Region e ns (.block actions next entry) lo hi := by
  rw [reduceActions_eq] at h
  exact Region.of_reduceRest actions h

end HomeMagic
