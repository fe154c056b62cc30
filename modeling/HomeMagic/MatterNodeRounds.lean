import HomeMagic.MatterCommissioning

/-! A node that is commissioned, removed and commissioned again. -/
namespace HomeMagic

variable {key : MatterNodeKey} {store : MatterStore}

namespace MatterNodeWorkflow

open Fallible

theorem apply_keeps_node {commit : MatterCommit} {store' : MatterStore} (h : store.apply commit = .ok store')
    (hstored : (store.nodes.find key).isSome) :
    (store'.nodes.find key).isSome := by
  cases commit with
  | commissioning commit expectedRevision =>
    rw [(MatterStore.commitCommissioning_nodes h).2, Table.find_upsert]
    split
    · rfl
    · exact hstored
  | _ =>
    rw [MatterStore.apply_nodes (by trivial) h]
    exact hstored

theorem answering_keeps_node {answers : MatterAnswers} (c : MatterCall) (h : (store.nodes.find key).isSome) :
    ((MatterStore.answering answers c store).2.nodes.find key).isSome := by
  cases c with
  | commit written =>
    show ((store.committed ((store.apply written).map (fun store => (store, ())))).2.nodes.find key).isSome
    rcases MatterStore.committed_cases store ((store.apply written).map (fun store => (store, ()))) with
      hsame | ⟨value, hwritten⟩
    · rw [hsame]
      exact h
    · exact apply_keeps_node (MatterStore.map_unit_ok hwritten) h
  | storeFabric fabric expectedRevision =>
    rw [MatterCall.answering_nodes (c := .storeFabric fabric expectedRevision) trivial]
    exact h
  | admission operation binding progress =>
    rw [MatterCall.answering_nodes (c := .admission operation binding progress) trivial]
    exact h
  | _ => exact h

theorem execute_keeps_node {ε α : Type} (answers : MatterAnswers) (x : MatterM ε α)
    (h : (store.nodes.find key).isSome) :
    ((Fallible.execute (MatterStore.answering answers) x store).2.nodes.find key).isSome :=
  Program.run_keeps (I := fun s : MatterStore => (s.nodes.find key).isSome)
    (fun c _ _ hs => answering_keeps_node c hs) (Program.calls_true x.run) h

/-- The inputs of one round. Between the runs other workflows may make any calls: they admit the
next operations, among others. -/
structure NodeRound where
  ids : MatterIdentities
  actorId : ActorId
  store : MatterStore
  commissioning : MatterOperationId
  commissionAnswers : MatterAnswers
  commissionedAt : Instant
  beforeRemoval : List (MatterAnswers × MatterCall)
  removal : MatterOperationId
  removalAnswers : MatterAnswers
  removedAt : Instant
  beforeAgain : List (MatterAnswers × MatterCall)
  again : MatterOperationId
  againAnswers : MatterAnswers
  againAt : Instant

namespace NodeRound

def called (store : MatterStore) (calls : List (MatterAnswers × MatterCall)) : MatterStore :=
  calls.foldl (fun store call => (MatterStore.answering call.1 call.2 store).2) store

theorem called_keeps_node (calls : List (MatterAnswers × MatterCall)) (h : (store.nodes.find key).isSome) :
    ((called store calls).nodes.find key).isSome := by
  induction calls generalizing store with
  | nil => exact h
  | cons call rest ih => exact ih (answering_keeps_node call.2 h)

def commissioned (round : NodeRound) :
    Except MatterNodeWorkflowError (MatterWorkflowOutcome MatterOperationNodeResult) × MatterStore :=
  Fallible.execute (MatterStore.answering round.commissionAnswers)
    (runCommission round.ids round.actorId round.commissioning round.commissionedAt) round.store

def removed (round : NodeRound) : Except MatterNodeWorkflowError (MatterWorkflowOutcome Unit) × MatterStore :=
  Fallible.execute (MatterStore.answering round.removalAnswers)
    (runRemoveNode round.actorId round.removal round.removedAt)
    (called round.commissioned.2 round.beforeRemoval)

def vacated (round : NodeRound) : MatterStore := called round.removed.2 round.beforeAgain

def recommissioned (round : NodeRound) :
    Except MatterNodeWorkflowError (MatterWorkflowOutcome MatterOperationNodeResult) × MatterStore :=
  Fallible.execute (MatterStore.answering round.againAnswers)
    (runCommission round.ids round.actorId round.again round.againAt) round.vacated

structure SameNode (round : NodeRound) : Prop where
  first : ∃ operation, round.store.operations.find round.commissioning = some operation ∧
    operation.phase = .requested
  second : ∃ operation, round.vacated.operations.find round.again = some operation ∧
    operation.phase = .requested
  descriptors : ∃ descriptor descriptor', round.commissionAnswers.commission = .ok descriptor ∧
    round.againAnswers.commission = .ok descriptor' ∧ descriptor'.fabricId = descriptor.fabricId ∧
    descriptor'.nodeId = descriptor.nodeId

structure Repeats (round : NodeRound) : Prop where
  joined : Completes round.commissioned
  left : Completes round.removed
  rejoined : Completes round.recommissioned
  device : ∀ operation operation' result result', round.commissioned.1 = .ok (.completed operation result) →
    round.recommissioned.1 = .ok (.completed operation' result') → result'.deviceId = result.deviceId

theorem joined_stored {round : NodeRound} (hsame : round.SameNode) (hjoined : Completes round.commissioned)
    {descriptor : MatterNodeDescriptor} (hdescriptor : round.commissionAnswers.commission = .ok descriptor) :
    (round.vacated.nodes.find (descriptor.fabricId, descriptor.nodeId)).isSome := by
  obtain ⟨operation, hstored, hrequested⟩ := hsame.first
  obtain ⟨completed, result, hcompleted⟩ := hjoined
  have hrun : round.commissioned = (.ok (.completed completed result), round.commissioned.2) := by
    rw [← hcompleted]
  obtain ⟨-, descriptor', hdescriptor', -, hcommissioned⟩ := runCommission_completed hstored hrequested hrun
  obtain rfl : descriptor' = descriptor := Except.ok.inj (hdescriptor'.symm.trans hdescriptor)
  -- removal and everything else only adds nodes
  exact called_keeps_node _ (execute_keeps_node _ _ (called_keeps_node _ hcommissioned.stored))

/-- A node that was removed is never commissioned again. -/
theorem removed_node_never_recommissioned (round : NodeRound) (hsame : round.SameNode) : ¬ round.Repeats := by
  intro hrepeats
  obtain ⟨descriptor, descriptor', hfirst, hsecond, hfabric, hnode⟩ := hsame.descriptors
  have hstored := joined_stored hsame hrepeats.joined hfirst
  obtain ⟨operation, hfound, hrequested⟩ := hsame.second
  obtain ⟨completed, result, hcompleted⟩ := hrepeats.rejoined
  have hrun : round.recommissioned = (.ok (.completed completed result), round.recommissioned.2) := by
    rw [← hcompleted]
  obtain ⟨-, found, hcommission, -, hcommissioned⟩ := runCommission_completed hfound hrequested hrun
  obtain rfl : found = descriptor' := Except.ok.inj (hcommission.symm.trans hsecond)
  have hfree := hcommissioned.free
  rw [hfabric, hnode] at hfree
  rw [hfree] at hstored
  cases hstored

def removalKey : IdempotencyKey := ⟨"removal", by decide, by decide, by decide⟩
def againKey : IdempotencyKey := ⟨"again", by decide, by decide, by decide⟩

def lampRemoval : MatterOperation := .new 8 .removeNode (.node 1 4) 30

def lampAgain : MatterOperation := .new 10 .commissionNode (.fabric 1) 50

def lampRound : NodeRound where
  ids := plainIdentities
  actorId := 9
  store := lampHome
  commissioning := 7
  commissionAnswers := lampAnswers (phaseEvents 7)
  commissionedAt := 20
  beforeRemoval := [(lampAnswers [], .admission lampRemoval (lampBinding 8 .matterRemoveNode removalKey)
    (progressWithError lampRemoval none))]
  removal := 8
  removalAnswers := lampAnswers (phaseEvents 7)
  removedAt := 40
  beforeAgain := [(lampAnswers [], .admission lampAgain (lampBinding 10 .matterCommissionNode againKey)
    (progressWithError lampAgain none))]
  again := 10
  againAnswers := lampAnswers (phaseEvents 7 ++ phaseEvents 10)
  againAt := 60

theorem lampRound_sameNode : lampRound.SameNode where
  first := ⟨lampCommissioning 7, rfl, rfl⟩
  second := ⟨lampAgain, by decide +kernel, rfl⟩
  descriptors := ⟨lampDescriptor, lampDescriptor, rfl, rfl, rfl, rfl⟩

theorem lampRound_not_repeats : ¬ lampRound.Repeats :=
  removed_node_never_recommissioned lampRound lampRound_sameNode

/-- The lamp joins and leaves, and its row stays in the way when it joins again. -/
theorem lamp_rejoins_in_vain :
    lampRound.SameNode ∧ Completes lampRound.commissioned ∧ Completes lampRound.removed ∧
      lampRound.recommissioned.1 = .error (.repository (.matterRevisionConflict "node" none (some 1))) ∧
      ¬ lampRound.Repeats := by
  have herror : lampRound.recommissioned.1 =
      .error (.repository (.matterRevisionConflict "node" none (some 1))) := by
    decide +kernel
  refine ⟨lampRound_sameNode, ?_, ?_, herror, ?_⟩
  · exact ⟨⟨7, .commissionNode, .fabric 1, .completed, 8, 10, 20⟩, ⟨7, 1, 4, 4, 20⟩, by decide +kernel⟩
  · exact ⟨⟨8, .removeNode, .node 1 4, .completed, 4, 30, 40⟩, (), by decide +kernel⟩
  · intro hrepeats
    obtain ⟨completed, result, hcompleted⟩ := hrepeats.rejoined
    rw [herror] at hcompleted
    cases hcompleted

end NodeRound
end MatterNodeWorkflow
end HomeMagic
