import HomeMagic.AutomationCommandRuns

/-! Within a run of adjacent commands the last command for a target wins, as long as the
target is written in one way. -/
namespace HomeMagic
open List

variable {e : CompilerEnv} {action : AutomationAction} {run : List AutomationAction}
  {target : ResolvedAutomationTarget}

def AutomationAction.reaches (e : CompilerEnv) (target : ResolvedAutomationTarget)
    (action : AutomationAction) : Bool :=
  action.target?.any (fun reference =>
    (targetsOf e reference).any (fun resolved => resolved.contains target))

def lastFor (e : CompilerEnv) (run : List AutomationAction) (target : ResolvedAutomationTarget) :
    Option CommandPayload :=
  (run.filter (AutomationAction.reaches e target)).getLast?.bind
    (fun action => action.sending?.map Prod.snd)

def sentTo (plan : AutomationExecutionPlan) (segment : ℕ) (target : ResolvedAutomationTarget) :
    List CommandPayload :=
  ((commandNodes plan.nodes).filter (fun command =>
    command.reductionSegment == segment && command.targets.contains target)).map CommandNode.payload

/-- Each run of a document sends a target the last command written for it and no other. -/
def LaterWins (e : CompilerEnv) (plan : AutomationExecutionPlan) : Prop :=
  ∀ segment run, e.document.commandRuns[segment]? = some run →
    ∀ target, sentTo plan segment target = (lastFor e run target).toList

/-- Commands of the run that resolve to a common target are written with one reference. -/
def WrittenAlike (e : CompilerEnv) (run : List AutomationAction) : Prop :=
  ∀ action ∈ run, ∀ other ∈ run, ∀ target, action.reaches e target → other.reaches e target →
    action.target? = other.target?

theorem flushSegment_sublist (run : List AutomationAction) : (flushSegment run).Sublist run := by
  induction run with
  | nil => exact .slnil
  | cons action rest ih =>
    rw [flushSegment]
    split
    · exact ih.cons action
    · exact ih.cons_cons action

theorem flushSegment_target (h : action ∈ run) : ∃ kept ∈ flushSegment run, kept.target? = action.target? := by
  induction run generalizing action with
  | nil => exact absurd h not_mem_nil
  | cons first rest ih =>
    rw [flushSegment]
    rcases mem_cons.mp h with rfl | h
    · split
      · rename_i hlater
        obtain ⟨later, hmem, htarget⟩ := List.any_eq_true.mp hlater
        obtain ⟨kept, hkept, hsame⟩ := ih hmem
        exact ⟨kept, hkept, hsame.trans (beq_iff_eq.mp htarget)⟩
      · exact ⟨action, mem_cons_self, rfl⟩
    · obtain ⟨kept, hkept, hsame⟩ := ih h
      split
      · exact ⟨kept, hkept, hsame⟩
      · exact ⟨kept, mem_cons_of_mem _ hkept, hsame⟩

theorem reaches_congr {other : AutomationAction} (h : action.target? = other.target?) :
    action.reaches e target = other.reaches e target := by
  unfold AutomationAction.reaches
  rw [h]

theorem flushSegment_last (h : WrittenAlike e run) :
    (flushSegment run).filter (AutomationAction.reaches e target) =
      (run.filter (AutomationAction.reaches e target)).getLast?.toList := by
  induction run with
  | nil => rfl
  | cons action rest ih =>
    have hrest : WrittenAlike e rest := fun a ha b hb =>
      h a (mem_cons_of_mem _ ha) b (mem_cons_of_mem _ hb)
    rw [flushSegment, filter_cons]
    by_cases hreaches : action.reaches e target
    · rw [if_pos hreaches]
      split
      · -- a later command has the same reference, so it reaches the target as well
        rename_i hlater
        obtain ⟨later, hmem, htarget⟩ := List.any_eq_true.mp hlater
        have hagain : later.reaches e target := by
          rw [reaches_congr (beq_iff_eq.mp htarget)]
          exact hreaches
        have hne : rest.filter (AutomationAction.reaches e target) ≠ [] :=
          ne_nil_of_mem (List.mem_filter.mpr ⟨hmem, hagain⟩)
        rw [ih hrest, List.getLast?_cons_of_ne_nil hne]
      · -- no later command reaches the target
        rename_i hlast
        have hnone : rest.filter (AutomationAction.reaches e target) = [] := by
          rw [filter_eq_nil_iff]
          intro later hmem hagain
          have hsame := h later (mem_cons_of_mem _ hmem) action mem_cons_self target hagain hreaches
          exact hlast (List.any_eq_true.mpr ⟨later, hmem, beq_iff_eq.mpr hsame⟩)
        rw [filter_cons_of_pos hreaches, ih hrest, hnone]
        rfl
    · rw [if_neg hreaches]
      split
      · exact ih hrest
      · rw [filter_cons_of_neg hreaches]
        exact ih hrest

theorem forall₂_filter_map {α β γ : Type} {R : α → β → Prop} {p : α → Bool} {q : β → Bool}
    {f : α → γ} {g : β → γ} (hfilter : ∀ a b, R a b → p a = q b) (hmap : ∀ a b, R a b → f a = g b)
    {l : List α} {l' : List β} (h : List.Forall₂ R l l') : (l.filter p).map f = (l'.filter q).map g := by
  induction h with
  | nil => rfl
  | cons hr _ ih =>
    rw [filter_cons, filter_cons, hfilter _ _ hr]
    split
    · rw [map_cons, map_cons, hmap _ _ hr, ih]
    · exact ih

def pairReaches (e : CompilerEnv) (target : ResolvedAutomationTarget)
    (pair : AutomationTargetReference × CommandPayload) : Bool :=
  (targetsOf e pair.1).any (fun resolved => resolved.contains target)

theorem filter_sending (e : CompilerEnv) (target : ResolvedAutomationTarget)
    (actions : List AutomationAction) :
    ((actions.filterMap AutomationAction.sending?).filter (pairReaches e target)).map Prod.snd =
      (actions.filter (AutomationAction.reaches e target)).filterMap
        (fun action => action.sending?.map Prod.snd) := by
  induction actions with
  | nil => rfl
  | cons action rest ih =>
    cases action with
    | command reference payload retry onFailure =>
      have hsame : pairReaches e target (reference, payload) =
          (AutomationAction.command reference payload retry onFailure).reaches e target := rfl
      simp only [filterMap_cons, AutomationAction.sending?, filter_cons, hsame]
      split
      · simp only [map_cons, filterMap_cons, AutomationAction.sending?, Option.map_some, ih]
      · exact ih
    | _ => exact ih

theorem sending_of_reaches (h : action.reaches e target) :
    (action.sending?.map Prod.snd).isSome := by
  cases action with
  | command reference payload retry onFailure => rfl
  | _ => cases h

theorem sentTo_eq {plan : AutomationExecutionPlan} (h : compile e = .ok plan) {segment : ℕ}
    (hrun : e.document.commandRuns[segment]? = some run) (target : ResolvedAutomationTarget) :
    sentTo plan segment target =
      ((flushSegment run).filter (AutomationAction.reaches e target)).reverse.filterMap
        (fun action => action.sending?.map Prod.snd) := by
  have hnodes : (e.document.emitted.filter (fun command =>
      pairReaches e target (command.target, command.payload) && command.segment == segment)).map
        EmittedCommand.payload = sentTo plan segment target := by
    refine forall₂_filter_map ?_ (fun _ _ has => has.payload.symm) (compile_emits h).1
    intro command node has
    unfold pairReaches
    rw [has.targets, has.segment, Option.any_some, Bool.and_comm]
  have hsegment := compile_segments h hrun
  unfold sentIn sentFor at hsegment
  rw [← hnodes, ← filter_reverse, ← filter_sending, ← hsegment, List.filter_map, List.map_map,
    List.filter_filter]
  rfl

/-- The last command written for a target wins in every run of a document exactly when
no run writes one target in two ways. -/
theorem later_command_wins_iff (e : CompilerEnv) {plan : AutomationExecutionPlan}
    (h : compile e = .ok plan) :
    LaterWins e plan ↔ ∀ run ∈ e.document.commandRuns, WrittenAlike e run := by
  constructor
  · intro hwins run hmem action haction other hother target hreaches hreaches'
    by_contra hdiffer
    obtain ⟨segment, hrun⟩ := List.getElem?_of_mem hmem
    have hsent := hwins segment run hrun target
    rw [sentTo_eq h hrun] at hsent
    -- both references are kept, and both commands are sent to the target
    obtain ⟨kept, hkept, hsame⟩ := flushSegment_target haction
    obtain ⟨kept', hkept', hsame'⟩ := flushSegment_target hother
    have hin : kept ∈ (flushSegment run).filter (AutomationAction.reaches e target) :=
      List.mem_filter.mpr ⟨hkept, by rw [reaches_congr hsame]; exact hreaches⟩
    have hin' : kept' ∈ (flushSegment run).filter (AutomationAction.reaches e target) :=
      List.mem_filter.mpr ⟨hkept', by rw [reaches_congr hsame']; exact hreaches'⟩
    have hlength := congrArg List.length hsent
    rw [List.length_filterMap_eq_countP, List.countP_reverse,
      List.countP_eq_length.mpr (fun a ha => sending_of_reaches (List.mem_filter.mp ha).2)] at hlength
    have hone : (lastFor e run target).toList.length ≤ 1 := by
      cases lastFor e run target <;> simp
    have hequal : kept = kept' := by
      match hhits : (flushSegment run).filter (AutomationAction.reaches e target) with
      | [] =>
        rw [hhits] at hin
        exact absurd hin List.not_mem_nil
      | [only] =>
        rw [hhits, List.mem_singleton] at hin hin'
        rw [hin, hin']
      | _ :: _ :: _ =>
        rw [hhits, List.length_cons, List.length_cons] at hlength
        omega
    exact hdiffer (hsame.symm.trans (hequal ▸ hsame'))
  · intro halike segment run hrun target
    have hmem : run ∈ e.document.commandRuns := List.mem_of_getElem? hrun
    rw [sentTo_eq h hrun, flushSegment_last (halike run hmem)]
    unfold lastFor
    cases (run.filter (AutomationAction.reaches e target)).getLast? with
    | none => rfl
    | some action =>
      show [action].filterMap _ = _
      cases hsending : action.sending? <;> simp [hsending]

theorem later_command_wins_lamp :
    ∃ plan, compile (lampEnv [switchLamp false, switchLamp true]) = .ok plan ∧
      LaterWins (lampEnv [switchLamp false, switchLamp true]) plan := by
  have hok : (compile (lampEnv [switchLamp false, switchLamp true])).toOption.any (fun _ => true) = true := by
    decide +kernel
  obtain ⟨plan, hc, _⟩ := compile_of_any hok
  refine ⟨plan, hc, (later_command_wins_iff (lampEnv [switchLamp false, switchLamp true]) hc).mpr ?_⟩
  have hruns : (lampEnv [switchLamp false, switchLamp true]).document.commandRuns =
      [[switchLamp false, switchLamp true]] := by decide +kernel
  rw [hruns]
  intro run hrun
  rw [List.mem_singleton.mp hrun]
  have htarget : ∀ action ∈ [switchLamp false, switchLamp true], action.target? = some lampTarget := by
    decide
  exact fun action haction other hother _ _ _ => (htarget action haction).trans (htarget other hother).symm

def twoSpellings : List AutomationAction :=
  [.command ⟨.alias "Lamp", none, "on_off.v1"⟩ (.onOff (.set true)) ⟨0, 0, []⟩ .stopRun, switchLamp false]

/-- Both commands are sent. -/
theorem two_spellings_send_twice :
    ∃ plan, compile (lampEnv twoSpellings) = .ok plan ∧
      sentTo plan 0 ⟨7, "switch:0", "on_off.v1"⟩ = [.onOff (.set false), .onOff (.set true)] ∧
      lastFor (lampEnv twoSpellings) twoSpellings ⟨7, "switch:0", "on_off.v1"⟩ =
        some (.onOff (.set false)) ∧ ¬LaterWins (lampEnv twoSpellings) plan := by
  have hok : (compile (lampEnv twoSpellings)).toOption.any (fun plan => decide
      (sentTo plan 0 ⟨7, "switch:0", "on_off.v1"⟩ = [.onOff (.set false), .onOff (.set true)])) = true := by
    decide +kernel
  obtain ⟨plan, hc, hsent⟩ := compile_of_any hok
  have hlast : lastFor (lampEnv twoSpellings) twoSpellings ⟨7, "switch:0", "on_off.v1"⟩ =
      some (.onOff (.set false)) := by decide +kernel
  have hrun : (lampEnv twoSpellings).document.commandRuns[0]? = some twoSpellings := by decide +kernel
  refine ⟨plan, hc, of_decide_eq_true hsent, hlast, ?_⟩
  intro hwins
  have hboth := hwins 0 twoSpellings hrun ⟨7, "switch:0", "on_off.v1"⟩
  rw [of_decide_eq_true hsent, hlast] at hboth
  cases hboth

end HomeMagic
