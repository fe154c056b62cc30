import HomeMagic.AutomationEmission

/-! Approval. Which commands of a document put explicit user approval on its plan, and
whether these cover the targets with a security risk. -/
namespace HomeMagic

variable {e : CompilerEnv} {plan : AutomationExecutionPlan}

def failureTargets (nested : List AutomationAction → List AutomationTargetReference) :
    AutomationFailurePolicy → List AutomationTargetReference
  | .fallback actions => nested (reduceActions actions)
  | _ => []

def actionTargets (nested : List AutomationAction → List AutomationTargetReference) :
    AutomationAction → List AutomationTargetReference
  | .command target _ _ onFailure => failureTargets nested onFailure ++ [target]
  | .wait _ _ onTimeout => failureTargets nested onTimeout
  | .sequence actions => nested (reduceActions actions)
  | .if _ thenActions elseActions => nested (reduceActions thenActions) ++ nested (reduceActions elseActions)
  | .parallel branches _ | .race branches _ =>
    branches.flatMap (fun branch => nested (reduceActions branch))
  | .delay _ | .setVariable _ _ => []

def commandTargets : ℕ → List AutomationAction → List AutomationTargetReference
  | 0, _ => []
  | room + 1, actions => actions.flatMap (actionTargets (commandTargets room))

def AutomationDocument.commandTargets (document : AutomationDocument) : List AutomationTargetReference :=
  HomeMagic.commandTargets document.budget.maximumNestingDepth (reduceActions document.actions)

section Targets
variable {nested : List AutomationAction → ℕ → Listing}
  {targets : List AutomationAction → List AutomationTargetReference}

def Listing.Targets (listing : Listing) (targets : List AutomationTargetReference) : Prop :=
  ∀ target, (∃ command ∈ listing.1, command.target = target) ↔ target ∈ targets

theorem Listing.Targets.append {listing listing' : Listing}
    {targets targets' : List AutomationTargetReference} (h : listing.Targets targets)
    (h' : listing'.Targets targets') {n : ℕ} :
    Listing.Targets (listing.1 ++ listing'.1, n) (targets ++ targets') := by
  intro target
  rw [List.mem_append, ← h target, ← h' target]
  simp only [List.mem_append, or_and_right, exists_or]

theorem Listing.targets_nil (n : ℕ) : Listing.Targets ([], n) [] := by
  intro target
  simp

theorem emittedFailure_targets (hn : ∀ actions n, (nested actions n).Targets (targets actions))
    (policy : AutomationFailurePolicy) (n : ℕ) :
    (emittedFailure nested policy n).Targets (failureTargets targets policy) := by
  cases policy with
  | fallback actions => exact hn _ _
  | stopRun | stopBranch | «continue» => exact Listing.targets_nil n

theorem emittedBranches_targets (hn : ∀ actions n, (nested actions n).Targets (targets actions))
    (branches : List (List AutomationAction)) (n : ℕ) :
    (emittedBranches nested branches n).Targets
      (branches.flatMap (fun branch => targets (reduceActions branch))) := by
  induction branches generalizing n with
  | nil => exact Listing.targets_nil n
  | cons branch rest ih =>
    rw [List.flatMap_cons]
    exact (hn _ _).append (ih _)

theorem emittedAction_targets (hn : ∀ actions n, (nested actions n).Targets (targets actions))
    (action : AutomationAction) (segment : Option ℕ) (n : ℕ) :
    (emittedAction nested action segment n).Targets (actionTargets targets action) := by
  cases action with
  | command target payload retry onFailure =>
    have hone : Listing.Targets ([⟨segment.getD 0, target, payload⟩], n) [target] := by
      intro other
      simp [eq_comm]
    exact (emittedFailure_targets hn onFailure n).append hone
  | delay | setVariable => exact Listing.targets_nil n
  | wait guard timeoutMs onTimeout => exact emittedFailure_targets hn onTimeout n
  | sequence actions => exact hn _ _
  | «if» guard thenActions elseActions => exact (hn _ _).append (hn _ _)
  | parallel branches maximumParallel | race branches maximumParallel =>
    exact emittedBranches_targets hn branches n

theorem emittedReversed_targets (hn : ∀ actions n, (nested actions n).Targets (targets actions))
    (actions : List (AutomationAction × Option ℕ)) (n : ℕ) :
    (emittedReversed nested actions n).Targets
      ((actions.map Prod.fst).flatMap (actionTargets targets)) := by
  induction actions with
  | nil => exact Listing.targets_nil n
  | cons entry rest ih =>
    intro target
    rw [List.map_cons, List.flatMap_cons, List.mem_append, or_comm, ← List.mem_append]
    exact (ih.append (emittedAction_targets hn entry.1 entry.2 _)) target

theorem emittedActions_targets (room : ℕ) (actions : List AutomationAction) (n : ℕ) :
    (emittedActions room actions n).Targets (commandTargets room actions) := by
  induction room generalizing actions n with
  | zero => exact Listing.targets_nil n
  | succ room ih =>
    have hall := emittedReversed_targets ih (actions.zip (segmentsOf actions none n).1)
      (segmentsOf actions none n).2
    rw [List.map_fst_zip (le_of_eq (segmentsOf_length actions none n).symm)] at hall
    exact hall

end Targets

theorem compile_approval (h : compile e = .ok plan) :
    (plan.approval = .explicitUserApproval ↔ ∃ target ∈ e.document.commandTargets, flagged e target) ∧
    (∀ target ∈ e.document.commandTargets, ∃ node ∈ plan.nodes, ∃ command,
      node.kind = .command command ∧ targetsOf e target = some command.targets) ∧
    ∀ node ∈ plan.nodes, ∀ command, node.kind = .command command →
      ∃ target ∈ e.document.commandTargets, targetsOf e target = some command.targets := by
  obtain ⟨hforall, _, happroval⟩ := compile_emits h
  have htargets : ∀ target, (∃ command ∈ e.document.emitted, command.target = target) ↔
      target ∈ e.document.commandTargets := emittedActions_targets _ _ _
  refine ⟨?_, ?_, ?_⟩
  · rw [happroval]
    constructor
    · rintro ⟨command, hmem, hflagged⟩
      exact ⟨command.target, (htargets _).mp ⟨command, hmem, rfl⟩, hflagged⟩
    · rintro ⟨target, hmem, hflagged⟩
      obtain ⟨command, hcommand, rfl⟩ := (htargets target).mpr hmem
      exact ⟨command, hcommand, hflagged⟩
  · intro target hmem
    obtain ⟨command, hcommand, rfl⟩ := (htargets target).mpr hmem
    obtain ⟨emitted, hemitted, has⟩ := forall₂_left hforall hcommand
    obtain ⟨node, hnode, hkind⟩ := mem_commandNodes.mp hemitted
    exact ⟨node, hnode, emitted, hkind, has.targets⟩
  · intro node hnode emitted hkind
    obtain ⟨command, hcommand, has⟩ := forall₂_right hforall (mem_commandNodes.mpr ⟨node, hnode, hkind⟩)
    exact ⟨command.target, (htargets _).mp ⟨command, hcommand, rfl⟩, has.targets⟩

def ReachesSecurity (e : CompilerEnv) (plan : AutomationExecutionPlan) : Prop :=
  ∃ node ∈ plan.nodes, ∃ command, node.kind = .command command ∧
    ∃ target ∈ command.targets, resolvedRisk e [target] = some .security

def HoldsSecurity (e : CompilerEnv) (target : AutomationTargetReference) : Prop :=
  ∃ resolved, targetsOf e target = some resolved ∧
    ∃ one ∈ resolved, resolvedRisk e [one] = some .security

structure AddsTo (e e' : CompilerEnv) : Prop where
  snapshot : e'.snapshot = e.snapshot
  commands : ∀ target ∈ e.document.commandTargets, ∃ target' ∈ e'.document.commandTargets,
    target'.capability = target.capability ∧ ∀ resolved, targetsOf e target = some resolved →
      ∃ resolved', targetsOf e' target' = some resolved' ∧ resolved ⊆ resolved'

theorem reachesSecurity_iff (h : compile e = .ok plan) :
    ReachesSecurity e plan ↔ ∃ target ∈ e.document.commandTargets, HoldsSecurity e target := by
  obtain ⟨_, hnodes, htargets⟩ := compile_approval h
  constructor
  · rintro ⟨node, hnode, command, hkind, one, hone, hrisk⟩
    obtain ⟨target, ht, hsome⟩ := htargets node hnode command hkind
    exact ⟨target, ht, command.targets, hsome, one, hone, hrisk⟩
  · rintro ⟨target, ht, resolved, hsome, one, hone, hrisk⟩
    obtain ⟨node, hnode, command, hkind, hsome'⟩ := hnodes target ht
    rw [hsome, Option.some.injEq] at hsome'
    exact ⟨node, hnode, command, hkind, one, hsome' ▸ hone, hrisk⟩

/-- Approval covers the targets with a security risk exactly when there are none or some
command is flagged, by its name or its leading target. It survives additions exactly
when nothing was flagged by a leading target or something is flagged afterwards. -/
theorem approval_covers_targets_iff (e : CompilerEnv) {plan : AutomationExecutionPlan}
    (h : compile e = .ok plan) :
    ((ReachesSecurity e plan → plan.approval = .explicitUserApproval) ↔
      ((∃ target ∈ e.document.commandTargets, HoldsSecurity e target) →
        ∃ target ∈ e.document.commandTargets, flagged e target)) ∧
    ∀ (e' : CompilerEnv) (plan' : AutomationExecutionPlan), compile e' = .ok plan' → AddsTo e e' →
      ((plan.approval = .explicitUserApproval → plan'.approval = .explicitUserApproval) ↔
        ((∃ target ∈ e.document.commandTargets, leadsSecurity e target) →
          ∃ target ∈ e'.document.commandTargets, flagged e' target)) := by
  refine ⟨?_, ?_⟩
  · rw [reachesSecurity_iff h, (compile_approval h).1]
  · intro e' plan' h' hadds
    rw [(compile_approval h).1, (compile_approval h').1]
    constructor
    · rintro hkeeps ⟨target, ht, hleads⟩
      apply hkeeps
      refine ⟨target, ht, ?_⟩
      unfold flagged
      rw [hleads, Bool.or_true]
    · rintro hleads ⟨target, ht, hflagged⟩
      rcases Bool.or_eq_true_iff.mp hflagged with hname | hrisk
      · -- a sensitive name stays
        obtain ⟨target', ht', hcapability, _⟩ := hadds.commands target ht
        refine ⟨target', ht', ?_⟩
        unfold flagged
        rw [hcapability, hname, Bool.true_or]
      · exact hleads ⟨target, ht, hrisk⟩

def alarmRecord : DeviceRecord :=
  ⟨1, 1, ⟨9, "alarm", "Alarm", [⟨"switch:0", none, [.onOff false .security]⟩], 0⟩, .enrolled,
    ⟨.online, 0, none⟩, ⟨0, 0, some 0⟩, [], [3], [("switch:0", [⟨"on_off", 1, .security⟩])]⟩

def roomEnv (device : AutomationDeviceReference) : CompilerEnv :=
  ⟨lampHost, lampDocument [.command ⟨device, none, "on_off.v1"⟩ (.onOff (.set false)) ⟨0, 0, []⟩ .stopRun],
    ⟨[{ lampRecord with spaces := [3] }, alarmRecord], [], none⟩⟩

theorem approval_covers_alarm : ∃ plan, compile (roomEnv (.device 9)) = .ok plan ∧
    ReachesSecurity (roomEnv (.device 9)) plan ∧ plan.approval = .explicitUserApproval := by
  have hok : (compile (roomEnv (.device 9))).toOption.any (fun _ => true) = true := by decide +kernel
  obtain ⟨plan, hc, _⟩ := compile_of_any hok
  have hholds : ∃ target ∈ (roomEnv (.device 9)).document.commandTargets,
      HoldsSecurity (roomEnv (.device 9)) target :=
    ⟨_, List.mem_singleton.mpr rfl, [⟨9, "switch:0", "on_off.v1"⟩], by decide +kernel,
      ⟨9, "switch:0", "on_off.v1"⟩, List.mem_singleton.mpr rfl, by decide +kernel⟩
  have hreaches := (reachesSecurity_iff hc).mpr hholds
  refine ⟨plan, hc, hreaches, ?_⟩
  refine (approval_covers_targets_iff (roomEnv (.device 9)) hc).1.mpr ?_ hreaches
  intro _
  exact ⟨_, List.mem_singleton.mpr rfl, by decide +kernel⟩

/-- Switching the alarm off needs explicit approval; switching the whole room off, the
alarm with it, does not, because the lamp comes first. -/
theorem room_hides_alarm : ∃ plan plan', compile (roomEnv (.device 9)) = .ok plan ∧
    compile (roomEnv (.space 3)) = .ok plan' ∧ AddsTo (roomEnv (.device 9)) (roomEnv (.space 3)) ∧
    ReachesSecurity (roomEnv (.space 3)) plan' ∧ plan.approval = .explicitUserApproval ∧
    plan'.approval = .activationGrant := by
  have hok : (compile (roomEnv (.device 9))).toOption.any
      (fun plan => plan.approval == .explicitUserApproval) = true := by decide +kernel
  have hok' : (compile (roomEnv (.space 3))).toOption.any
      (fun plan => plan.approval == .activationGrant) = true := by decide +kernel
  have hroom : targetsOf (roomEnv (.space 3)) ⟨.space 3, none, "on_off.v1"⟩ =
      some [⟨7, "switch:0", "on_off.v1"⟩, ⟨9, "switch:0", "on_off.v1"⟩] := by decide +kernel
  have halarm : targetsOf (roomEnv (.device 9)) ⟨.device 9, none, "on_off.v1"⟩ =
      some [⟨9, "switch:0", "on_off.v1"⟩] := by decide +kernel
  obtain ⟨plan, hc, happroval⟩ := compile_of_any hok
  obtain ⟨plan', hc', happroval'⟩ := compile_of_any hok'
  refine ⟨plan, plan', hc, hc', ⟨rfl, ?_⟩, ?_, beq_iff_eq.mp happroval, beq_iff_eq.mp happroval'⟩
  · intro target ht
    rw [List.mem_singleton.mp ht]
    refine ⟨_, List.mem_singleton.mpr rfl, rfl, ?_⟩
    intro resolved hsome
    rw [halarm, Option.some.injEq] at hsome
    refine ⟨_, hroom, ?_⟩
    rw [← hsome]
    decide
  · apply (reachesSecurity_iff hc').mpr
    exact ⟨_, List.mem_singleton.mpr rfl, _, hroom, ⟨9, "switch:0", "on_off.v1"⟩, by decide,
      by decide +kernel⟩

end HomeMagic
