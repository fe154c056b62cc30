import HomeMagic.MatterNodeWorkflow

/-! Runs of commissioning and removal that nothing interrupts. -/
namespace HomeMagic
open List

open Fallible

variable {operation : MatterOperation} {α : Type} {answers : MatterAnswers}

namespace MatterStore

variable {store store' : MatterStore}

def StoresNoNode : MatterCommit → Prop
  | .commissioning _ _ => False
  | _ => True

theorem Created.nodes {progress : MatterOperationProgress} {actor : Option ActorId}
    (h : Created store store' operation progress actor) : store'.nodes = store.nodes := by
  rw [h.rest]

theorem Advanced.nodes {write : MatterOperationWrite} {current : MatterOperation}
    (h : Advanced store store' write current) : store'.nodes = store.nodes := by
  rw [h.rest]

theorem createAdministrationOperation_nodes {binding : MatterOperationBinding}
    {progress : MatterOperationProgress} {outcome : MatterOperationCreateOutcome}
    (h : store.createAdministrationOperation operation binding progress = .ok (store', outcome)) :
    store'.nodes = store.nodes := by
  rcases createAdministrationOperation_ok h with rfl | hcreated
  · rfl
  · exact hcreated.nodes

theorem apply_nodes {commit : MatterCommit} (hcommit : StoresNoNode commit) (h : store.apply commit = .ok store') :
    store'.nodes = store.nodes := by
  cases commit with
  | create operation progress => exact (createMatterOperation_ok h).nodes
  | admission operation binding progress =>
    obtain ⟨⟨created, outcome⟩, hcreated, h⟩ := bind_inv h
    cases h
    exact createAdministrationOperation_nodes hcreated
  | transition write =>
    obtain ⟨current, hadvanced⟩ := transitionOperation_ok h
    exact hadvanced.nodes
  | commissioning commit expectedRevision => exact hcommit.elim
  | cancellation commit =>
    obtain ⟨middle, current, current', hfirst, hsecond⟩ := commitCancellation_ok h
    rw [hsecond.nodes, hfirst.nodes]
  | removal commit expectedRevision =>
    obtain ⟨middle, current, -, hadvanced, -, hnodes, -, -⟩ := commitNodeRemoval_ok h
    rw [hadvanced.nodes, hnodes]
  | repair commit =>
    obtain ⟨before, middle, current, hsame, hsubscribed, hadvanced, -, -⟩ := commitSubscriptionRepair_ok h
    rw [hadvanced.nodes, hsubscribed.same.2, hsame.nodes]
  | subscription subscription expectedRevision => exact (storeSubscription_ok h).same.2

theorem storeFabric_nodes {fabric : StoredMatterFabric} {expectedRevision : Option ℕ}
    (h : store.storeFabric fabric expectedRevision = .ok store') : store'.nodes = store.nodes := by
  unfold storeFabric at h
  obtain ⟨_, _, h⟩ := bind_inv h
  split at h
  · cases h
  · obtain ⟨_, _, h⟩ := bind_inv h
    split at h
    · cases h
    · cases h
      rfl

theorem commitCommissioning_nodes {commit : MatterCommissioningCommit} {expected : ℕ}
    (h : store.commitCommissioning commit expected = .ok store') :
    store.nodes.find commit.node.key = none ∧ store'.nodes = store.nodes.upsert commit.node := by
  obtain ⟨middle, current, -, hadvanced, -, hfree, hnodes⟩ := commitCommissioning_ok h
  exact ⟨hfree, hadvanced.nodes.trans hnodes⟩

theorem committed_cases (store : MatterStore) (result : Except StorageError (MatterStore × α)) :
    (store.committed result).2 = store ∨ ∃ value, result = .ok ((store.committed result).2, value) := by
  cases result with
  | error error => exact Or.inl rfl
  | ok written => exact Or.inr ⟨written.2, rfl⟩

theorem committed_nodes {result : Except StorageError (MatterStore × α)}
    (h : ∀ store' value, result = .ok (store', value) → store'.nodes = store.nodes) :
    (store.committed result).2.nodes = store.nodes := by
  rcases committed_cases store result with hsame | ⟨value, hwritten⟩
  · rw [hsame]
  · exact h _ value hwritten

theorem committed_commit {commit : MatterCommit}
    (h : (MatterCall.perform (.commit commit)).run (answering answers) store = (.ok (), store')) :
    store.apply commit = .ok store' := by
  have hcommitted : store.committed ((store.apply commit).map (fun store => (store, ()))) = (.ok (), store') := h
  cases hwritten : store.apply commit with
  | error error =>
    rw [hwritten] at hcommitted
    cases hcommitted
  | ok written =>
    rw [hwritten] at hcommitted
    cases hcommitted
    rfl

end MatterStore

variable {ε : Type} {c : MatterCall} {P : MatterCall → Prop}

namespace MatterCall

def Plain : MatterCall → Prop
  | MatterCall.commit written => MatterStore.StoresNoNode written
  | .eventsAfter _ _ => False
  | _ => True

def Reads : MatterCall → Prop
  | .storeFabric _ _ | .admission _ _ _ | .commit _ | .eventsAfter _ _ => False
  | _ => True

def StoresNoNode : MatterCall → Prop
  | MatterCall.commit written => MatterStore.StoresNoNode written
  | _ => True

def ReadsNoEvents : MatterCall → Prop
  | .eventsAfter _ _ => False
  | _ => True

theorem Plain.storesNoNode (h : c.Plain) : c.StoresNoNode := by
  cases c <;> first | exact h | exact trivial

theorem Plain.readsNoEvents (h : c.Plain) : c.ReadsNoEvents := by
  cases c with
  | eventsAfter cursor limit => exact h.elim
  | _ => trivial

theorem Reads.plain (h : c.Reads) : c.Plain := by
  cases c <;> first | exact h.elim | exact trivial

theorem Reads.leaves {store : MatterStore} (h : c.Reads) :
    (MatterStore.answering answers c store).2 = store := by
  cases c <;> first | exact h.elim | rfl

theorem calls_perform (h : P c) : c.perform.Calls P :=
  ⟨h, fun _ => trivial⟩

theorem calls_answer (h : P c) : (answer c : MatterM ε c.Response).run.Calls P := ⟨h, fun _ => trivial⟩

theorem answering_nodes {store : MatterStore} (h : c.StoresNoNode) :
    (MatterStore.answering answers c store).2.nodes = store.nodes := by
  cases c with
  | storeFabric fabric expectedRevision =>
    apply MatterStore.committed_nodes
    intro store' value hwritten
    exact MatterStore.storeFabric_nodes (MatterStore.map_unit_ok hwritten)
  | admission operation binding progress =>
    apply MatterStore.committed_nodes
    intro store' value hwritten
    exact MatterStore.createAdministrationOperation_nodes hwritten
  | commit written =>
    apply MatterStore.committed_nodes
    intro store' value hwritten
    exact MatterStore.apply_nodes h (MatterStore.map_unit_ok hwritten)
  | _ => rfl

end MatterCall

theorem execute_nodes (answers : MatterAnswers) {x : MatterM ε α}
    (h : x.run.Calls MatterCall.StoresNoNode) (store : MatterStore) :
    (Fallible.execute (MatterStore.answering answers) x store).2.nodes = store.nodes :=
  Program.run_keeps (I := fun s : MatterStore => s.nodes = store.nodes)
    (fun _ _ hc hs => (MatterCall.answering_nodes hc).trans hs) h rfl

namespace MatterAdministration

open MatterCall

theorem security_calls (actorId : ActorId) : (security actorId).run.Calls Reads := by
  refine calls_bind (calls_attempt (calls_perform trivial)) ?_
  intro stored
  cases stored <;> trivial

theorem authorize_calls (security : ActorSecurity) (action : CommandAction) :
    (authorize security action).run.Calls Reads := by
  unfold authorize
  split <;> trivial

theorem ownedOperation_calls (security : ActorSecurity) (operationId : MatterOperationId) :
    (ownedOperation security operationId).run.Calls Reads := by
  refine calls_bind (calls_attempt (calls_perform trivial)) ?_
  intro stored
  cases stored with
  | none => trivial
  | some found =>
    simp only
    split <;> trivial

theorem ownedOperationForAction_calls (actorId : ActorId) (operationId : MatterOperationId) (action : CommandAction) :
    (ownedOperationForAction actorId operationId action).run.Calls Reads := by
  refine calls_bind (security_calls actorId) ?_
  intro security
  refine calls_bind (authorize_calls security action) ?_
  intro _
  refine calls_bind (ownedOperation_calls security operationId) ?_
  intro found
  simp only
  split <;> trivial

theorem recordControllerFailure_calls (actorId : ActorId) (operationId : MatterOperationId)
    (error : MatterControllerError) (now : Instant) :
    (recordControllerFailure actorId operationId error now).run.Calls Plain := by
  refine calls_bind ((security_calls actorId).mono (fun _ => Reads.plain)) ?_
  intro security
  refine calls_bind ((ownedOperation_calls security operationId).mono (fun _ => Reads.plain)) ?_
  intro found
  refine calls_bind ((authorize_calls security _).mono (fun _ => Reads.plain)) ?_
  intro _
  split
  · trivial
  · refine calls_bind (calls_answer trivial) ?_
    intro repairId
    exact calls_bind (calls_attempt (calls_perform trivial)) (fun _ => trivial)

end MatterAdministration

variable {operationId : MatterOperationId} {actorId : ActorId} {now : Instant} {ids : MatterIdentities} {ε' : Type}
  {events events' published : List MatterControllerEvent} {descriptor : MatterNodeDescriptor}

namespace MatterNodeWorkflow

open MatterCall

theorem calls_within {wrap : ε → ε'} {x : MatterM ε α}
    (h : x.run.Calls P) : (within wrap x).run.Calls P := calls_attempt h

theorem calls_caught {x : MatterM ε α} (h : x.run.Calls P) :
    (caught x : MatterM ε' _).run.Calls P := Program.calls_bind h (fun _ => trivial)

theorem owned_calls (actorId : ActorId) (operationId : MatterOperationId) (action : CommandAction) :
    (owned actorId operationId action).run.Calls Reads :=
  calls_within (MatterAdministration.ownedOperationForAction_calls actorId operationId action)

theorem transition_calls (operation : MatterOperation) (next : MatterOperationPhase) (now : Instant) :
    (transition operation next now).run.Calls Plain := by
  unfold transition
  split
  · trivial
  · exact calls_bind (calls_attempt (calls_perform trivial)) (fun _ => trivial)

theorem enterSubscribing_calls (operation : MatterOperation) (now : Instant) :
    (enterSubscribing operation now).run.Calls Plain := by
  unfold enterSubscribing
  split
  · exact transition_calls operation .subscribing now
  · split <;> trivial

theorem moves_calls (phases : List MatterOperationPhase) (operation : MatterOperation) (now : Instant) :
    (phases.foldlM (fun operation phase => transition operation phase now) operation).run.Calls Plain := by
  induction phases generalizing operation with
  | nil => trivial
  | cons phase rest ih =>
    rw [foldlM_cons]
    exact calls_bind (transition_calls operation phase now) ih

theorem terminalControllerError_calls (actorId : ActorId) (operation : MatterOperation)
    (error : MatterControllerError) (now : Instant) :
    (terminalControllerError actorId operation error now : NodeM (MatterWorkflowOutcome α)).run.Calls Plain :=
  calls_bind (calls_within (MatterAdministration.recordControllerFailure_calls actorId operation.id error now))
    (fun _ => trivial)

theorem prepareCommissioningProjection_calls (ids : MatterIdentities) (operation : MatterOperation)
    (descriptor : MatterNodeDescriptor) (now : Instant) :
    (prepareCommissioningProjection ids operation descriptor now).run.Calls Plain := by
  unfold prepareCommissioningProjection
  split
  next fabricId _ =>
    refine calls_bind ?_ ?_
    · refine calls_bind (calls_attempt (calls_perform trivial)) ?_
      intro stored
      cases stored <;> trivial
    · intro installationId
      simp only
      split
      · trivial
      · split
        · trivial
        · refine calls_bind (calls_attempt (calls_perform trivial)) ?_
          intro reports
          split <;> trivial
  · trivial

theorem finishCommissioning_calls (ready : PreparedCommissioning) (fabricId : MatterFabricId)
    (operation : MatterOperation) (status : MatterSubscriptionStatus) (now : Instant) :
    (finishCommissioning ready fabricId operation status now).run.Calls ReadsNoEvents := by
  unfold finishCommissioning
  split
  · trivial
  · split
    · trivial
    · exact calls_bind (calls_attempt (calls_perform trivial)) (fun _ => trivial)

theorem completeCommissioning_calls (ids : MatterIdentities) (actorId : ActorId) (operation : MatterOperation)
    (descriptor : MatterNodeDescriptor) (now : Instant) :
    (completeCommissioning ids actorId operation descriptor now).run.Calls ReadsNoEvents := by
  have hplain : ∀ {α : Type} {x : NodeM α}, x.run.Calls Plain → x.run.Calls ReadsNoEvents :=
    fun hx => hx.mono (fun _ => Plain.readsNoEvents)
  unfold completeCommissioning
  split
  next fabricId _ =>
    refine calls_bind (hplain (calls_caught (prepareCommissioningProjection_calls ids operation descriptor now))) ?_
    intro result
    cases result with
    | error error => exact hplain (terminalControllerError_calls actorId operation error now)
    | ok ready =>
      refine calls_bind (hplain (enterSubscribing_calls operation now)) ?_
      intro operation
      refine calls_bind (calls_answer trivial) ?_
      intro established
      cases established with
      | error error => exact hplain (terminalControllerError_calls actorId operation error now)
      | ok status =>
        simp only
        split
        · exact finishCommissioning_calls ready fabricId operation status now
        · exact hplain (terminalControllerError_calls actorId operation _ now)
  · trivial

section Runs

variable {answers : MatterAnswers} {store store' : MatterStore}

theorem within_ok {wrap : ε → ε'} {x : MatterM ε α} {value : α}
    (h : Fallible.execute (MatterStore.answering answers) (within wrap x) store = (.ok value, store')) :
    Fallible.execute (MatterStore.answering answers) x store = (.ok value, store') := execute_attempt_inv h

theorem execute_caught (answers : MatterAnswers) (x : MatterM ε α) (store : MatterStore) :
    Fallible.execute (MatterStore.answering answers) (caught x : MatterM ε' _) store =
      (.ok (Fallible.execute (MatterStore.answering answers) x store).1,
        (Fallible.execute (MatterStore.answering answers) x store).2) := by
  unfold caught
  exact Program.run_bind _ _ _ _

theorem caught_ok {x : MatterM ε α} {result : Except ε α}
    (h : Fallible.execute (MatterStore.answering answers) (caught x : MatterM ε' _) store = (.ok result, store')) :
    Fallible.execute (MatterStore.answering answers) x store = (result, store') := by
  rw [execute_caught, Prod.mk.injEq, Except.ok.injEq] at h
  exact Prod.ext h.1 h.2

variable {security : ActorSecurity}

theorem security_ok
    (h : Fallible.execute (MatterStore.answering answers) (MatterAdministration.security actorId) store =
      (.ok security, store')) : store' = store ∧ answers.actorSecurity actorId = some security := by
  obtain ⟨stored, middle, hcall, h⟩ := execute_bind_inv h
  have hcall := execute_attempt_inv hcall
  cases hcall
  cases hstored : answers.actorSecurity actorId with
  | none =>
    rw [hstored] at h
    cases h
  | some found =>
    rw [hstored] at h
    cases h
    exact ⟨rfl, rfl⟩

variable {action : CommandAction}

theorem authorize_ok
    (h : Fallible.execute (MatterStore.answering answers) (MatterAdministration.authorize security action) store =
      (.ok (), store')) : store' = store := by
  unfold MatterAdministration.authorize at h
  split at h
  · cases h
    rfl
  · cases h

theorem ownedOperation_ok {found : MatterOperation × MatterOperationBinding}
    (h : Fallible.execute (MatterStore.answering answers)
        (MatterAdministration.ownedOperation security operationId) store =
      (.ok found, store')) : store' = store ∧ store.administrationOperation operationId = some found := by
  obtain ⟨stored, middle, hcall, h⟩ := execute_bind_inv h
  have hcall := execute_attempt_inv hcall
  cases hcall
  cases hstored : store.administrationOperation operationId with
  | none =>
    rw [hstored] at h
    cases h
  | some row =>
    rw [hstored] at h
    simp only at h
    split at h
    · cases h
      exact ⟨rfl, rfl⟩
    · cases h

theorem administrationOperation_find
    {found : MatterOperation × MatterOperationBinding} (h : store.administrationOperation operationId = some found) :
    store.operations.find operationId = some found.1 ∧ store.bindings.find operationId = some found.2 := by
  unfold MatterStore.administrationOperation at h
  split at h
  next operation binding hoperation hbinding =>
    cases h
    exact ⟨hoperation, hbinding⟩
  · cases h

theorem owned_bound
    (h : Fallible.execute (MatterStore.answering answers) (owned actorId operationId action) store =
      (.ok operation, store')) : store' = store ∧ store.operations.find operationId = some operation ∧
      ∃ binding, store.bindings.find operationId = some binding ∧ binding.action = action := by
  obtain ⟨security, _, hsecurity, hrest⟩ := execute_bind_inv (within_ok h)
  rw [(security_ok hsecurity).1] at hrest
  obtain ⟨_, _, hauthorize, hrest⟩ := execute_bind_inv hrest
  rw [authorize_ok hauthorize] at hrest
  obtain ⟨found, _, howned, hrest⟩ := execute_bind_inv hrest
  obtain ⟨hsame, hfound⟩ := ownedOperation_ok howned
  obtain ⟨hoperation, hbinding⟩ := administrationOperation_find hfound
  simp only at hrest
  split at hrest
  next haction =>
    cases hrest
    exact ⟨hsame, hoperation, found.2, hbinding, haction⟩
  · cases hrest

theorem owned_ok
    (h : Fallible.execute (MatterStore.answering answers) (owned actorId operationId action) store =
      (.ok operation, store')) : store' = store ∧ store.operations.find operationId = some operation :=
  (owned_bound h).imp_right And.left

theorem transition_ok {moved : MatterOperation} {next : MatterOperationPhase}
    (h : Fallible.execute (MatterStore.answering answers) (transition operation next now) store = (.ok moved, store')) :
    operation.transition next now = .ok moved ∧
      store.transitionOperation ⟨moved, operation.revision, progressWithError moved none, none⟩ = .ok store' := by
  unfold transition at h
  split at h
  · cases h
  next moved' hmoved =>
    obtain ⟨_, middle, hcall, h⟩ := execute_bind_inv h
    have hcall := execute_attempt_inv hcall
    cases h
    exact ⟨hmoved, MatterStore.committed_commit hcall⟩

theorem terminalControllerError_ok {error : MatterControllerError} {outcome : MatterWorkflowOutcome α}
    (h : Fallible.execute (MatterStore.answering answers) (terminalControllerError actorId operation error now) store =
      (.ok outcome, store')) : ∃ terminal, outcome = .terminal terminal := by
  obtain ⟨terminal, middle, -, h⟩ := execute_bind_inv h
  cases h
  exact ⟨terminal, rfl⟩

theorem commissioningProgress_ok {phases : List MatterOperationPhase}
    (h : Fallible.execute (MatterStore.answering answers) (commissioningProgress operationId) store =
      (.ok phases, store')) :
    store' = store ∧
      (eventPage answers.events 0 256).filterMap (reportedPhase operationId) = commissioningPhases := by
  obtain ⟨events, middle, hcall, h⟩ := execute_bind_inv h
  have hcall := execute_attempt_inv hcall
  cases hcall
  simp only at h
  split at h
  next hphases =>
    cases h
    exact ⟨rfl, hphases⟩
  · cases h

theorem prepareCommissioningProjection_ok {ready : PreparedCommissioning}
    (h : Fallible.execute (MatterStore.answering answers)
        (prepareCommissioningProjection ids operation descriptor now) store =
      (.ok ready, store')) : ready.node.descriptor = descriptor := by
  unfold prepareCommissioningProjection at h
  split at h
  · obtain ⟨installationId, middle, -, h⟩ := execute_bind_inv h
    simp only at h
    split at h
    · cases h
    · split at h
      · cases h
      · obtain ⟨reports, middle, -, h⟩ := execute_bind_inv h
        split at h
        · cases h
        · cases h
          rfl
  · cases h

structure Commissioned (store store' : MatterStore) (descriptor : MatterNodeDescriptor) : Prop where
  free : store.nodes.find (descriptor.fabricId, descriptor.nodeId) = none
  stored : (store'.nodes.find (descriptor.fabricId, descriptor.nodeId)).isSome

theorem finishCommissioning_completed {ready : PreparedCommissioning} {fabricId : MatterFabricId}
    {status : MatterSubscriptionStatus}
    {outcome : MatterWorkflowOutcome MatterOperationNodeResult}
    (h : Fallible.execute (MatterStore.answering answers)
        (finishCommissioning ready fabricId operation status now) store =
      (.ok outcome, store')) : Commissioned store store' ready.node.descriptor := by
  unfold finishCommissioning at h
  split at h
  · cases h
  · split at h
    · cases h
    · obtain ⟨_, middle, hcall, h⟩ := execute_bind_inv h
      have hcall := execute_attempt_inv hcall
      cases h
      have hcommit := MatterStore.committed_commit hcall
      obtain ⟨hfree, hnodes⟩ := MatterStore.commitCommissioning_nodes hcommit
      refine ⟨hfree, ?_⟩
      rw [hnodes]
      exact Option.isSome_iff_exists.mpr ⟨ready.node, Table.find_upsert.trans (if_pos rfl)⟩

variable {completed : MatterOperation} {result : MatterOperationNodeResult}

/-- Completing a commissioning stores the node of the descriptor. -/
theorem completeCommissioning_completed (h : Fallible.execute (MatterStore.answering answers)
        (completeCommissioning ids actorId operation descriptor now) store =
      (.ok (.completed completed result), store')) : Commissioned store store' descriptor := by
  unfold completeCommissioning at h
  split at h
  next fabricId _ =>
    obtain ⟨prepared, middle, hprepare, h⟩ := execute_bind_inv h
    have hprepare := caught_ok hprepare
    have hprepareNodes : middle.nodes = store.nodes := by
      have hkept := execute_nodes answers ((prepareCommissioningProjection_calls ids operation descriptor
        now).mono (fun _ => Plain.storesNoNode)) store
      rw [hprepare] at hkept
      exact hkept
    cases prepared with
    | error error =>
      obtain ⟨terminal, hterminal⟩ := terminalControllerError_ok h
      cases hterminal
    | ok ready =>
      have hdescriptor := prepareCommissioningProjection_ok hprepare
      obtain ⟨operation', middle', henter, h⟩ := execute_bind_inv h
      have henterNodes : middle'.nodes = middle.nodes := by
        have hkept := execute_nodes answers ((enterSubscribing_calls operation now).mono
          (fun _ => Plain.storesNoNode)) middle
        rw [henter] at hkept
        exact hkept
      obtain ⟨established, middle'', hsubscribe, h⟩ := execute_bind_inv h
      cases hsubscribe
      split at h
      · obtain ⟨terminal, hterminal⟩ := terminalControllerError_ok h
        cases hterminal
      · split at h
        · obtain ⟨hfree, hstored⟩ := finishCommissioning_completed h
          rw [hdescriptor] at hfree hstored
          refine ⟨?_, hstored⟩
          rw [← hprepareNodes, ← henterNodes]
          exact hfree
        · obtain ⟨terminal, hterminal⟩ := terminalControllerError_ok h
          cases hterminal
  · cases h

theorem followProgress_completed
    (h : Fallible.execute (MatterStore.answering answers) (followProgress ids actorId operation descriptor now) store =
      (.ok (.completed completed result), store')) :
    (eventPage answers.events 0 256).filterMap (reportedPhase operation.id) = commissioningPhases ∧
      Commissioned store store' descriptor := by
  obtain ⟨progress, middle, hprogress, h⟩ := execute_bind_inv h
  have hprogress := caught_ok hprogress
  cases progress with
  | error error =>
    obtain ⟨terminal, hterminal⟩ := terminalControllerError_ok h
    cases hterminal
  | ok phases =>
    obtain ⟨hsame, hphases⟩ := commissioningProgress_ok hprogress
    rw [hsame] at h
    obtain ⟨operation', middle', hmoves, h⟩ := execute_bind_inv h
    have hmovesNodes : middle'.nodes = store.nodes := by
      have hkept := execute_nodes answers ((moves_calls ((phases.drop 1).take 4) operation now).mono
        (fun _ => Plain.storesNoNode)) store
      rw [hmoves] at hkept
      exact hkept
    obtain ⟨hfree, hstored⟩ := completeCommissioning_completed h
    refine ⟨hphases, ?_, hstored⟩
    rw [← hmovesNodes]
    exact hfree

/-- What the controller said and the repository did when a requested commissioning completes. -/
theorem runCommission_completed
    (hstored : store.operations.find operationId = some operation) (hrequested : operation.phase = .requested)
    (h : Fallible.execute (MatterStore.answering answers) (runCommission ids actorId operationId now) store =
      (.ok (.completed completed result), store')) :
    (eventPage answers.events 0 256).filterMap (reportedPhase operationId) = commissioningPhases ∧
      ∃ descriptor, answers.commission = .ok descriptor ∧ operation.target = .fabric descriptor.fabricId ∧
        Commissioned store store' descriptor := by
  obtain ⟨loaded, middle, howned, h⟩ := execute_bind_inv h
  obtain ⟨hsameStore, hloaded⟩ := owned_ok howned
  obtain rfl : operation = loaded := Option.some.inj (hstored.symm.trans hloaded)
  have hid : operation.id = operationId := (Table.find_eq_some.mp hstored).2
  rw [hsameStore, hrequested, if_neg (by decide), if_neg (by decide)] at h
  obtain ⟨moved, middle', hmove, h⟩ := execute_bind_inv h
  obtain ⟨hmoved, hwritten⟩ := transition_ok hmove
  obtain ⟨current, hadvanced⟩ := MatterStore.transitionOperation_ok hwritten
  obtain ⟨-, hmoves⟩ := MatterOperation.transition_ok hmoved
  split at h
  next fabricId htarget =>
    obtain ⟨joined, middle'', hcommission, h⟩ := execute_bind_inv h
    cases hcommission
    split at h
    · obtain ⟨terminal, hterminal⟩ := terminalControllerError_ok h
      cases hterminal
    next descriptor hdescriptor =>
      split at h
      · obtain ⟨terminal, hterminal⟩ := terminalControllerError_ok h
        cases hterminal
      next hfabric =>
        obtain ⟨hphases, hfree, hkept⟩ := followProgress_completed h
        rw [hmoves.id, hid] at hphases
        refine ⟨hphases, descriptor, hdescriptor, ?_, ?_, hkept⟩
        · rw [← hmoves.target, htarget, not_not.mp hfabric]
        · rw [← hadvanced.nodes]
          exact hfree
  · cases h

end Runs

def Completes {α : Type} (result : Except MatterNodeWorkflowError (MatterWorkflowOutcome α) × MatterStore) : Prop :=
  ∃ operation value, result.1 = .ok (.completed operation value)

def commissionAfter (ids : MatterIdentities) (answers : MatterAnswers) (published history : List MatterControllerEvent)
    (actorId : ActorId) (operationId : MatterOperationId) (now : Instant) (store : MatterStore) :
    Except MatterNodeWorkflowError (MatterWorkflowOutcome MatterOperationNodeResult) × MatterStore :=
  Fallible.execute (MatterStore.answering { answers with events := history ++ published })
    (runCommission ids actorId operationId now) store

def PublishesPhases (operationId : MatterOperationId) (published : List MatterControllerEvent) : Prop :=
  published.map MatterControllerEvent.kind = commissioningPhases.map (.operationProgress operationId)

theorem reportedPhases_of_publishes (h : PublishesPhases operationId published) :
    published.filterMap (reportedPhase operationId) = commissioningPhases := by
  have hkinds : published.filterMap (reportedPhase operationId) =
      (published.map MatterControllerEvent.kind).filterMap (fun kind =>
        reportedPhase operationId ⟨(0, 0), 0, kind⟩) := by
    rw [filterMap_map]
    rfl
  rw [hkinds, h, filterMap_map]
  simp [commissioningPhases, reportedPhase]

theorem length_of_publishes (h : PublishesPhases operationId published) : published.length = 6 := by
  have hlength := congrArg List.length h
  rw [length_map] at hlength
  exact hlength

theorem page_phases_iff {history : List MatterControllerEvent}
    (hpublished : PublishesPhases operationId published)
    (hhistory : ∀ event ∈ history, reportedPhase operationId event = none) :
    (eventPage (history ++ published) 0 256).filterMap (reportedPhase operationId) = commissioningPhases ↔
      history.length ≤ 250 := by
  have hlength := length_of_publishes hpublished
  have hsilent : ∀ n, (history.take n).filterMap (reportedPhase operationId) = [] := by
    intro n
    rw [filterMap_eq_nil_iff]
    exact fun event hevent => hhistory event (mem_of_mem_take hevent)
  have hpage : (eventPage (history ++ published) 0 256).filterMap (reportedPhase operationId) =
      (published.take (256 - history.length)).filterMap (reportedPhase operationId) := by
    unfold eventPage
    rw [drop_zero, Nat.min_self, take_append, filterMap_append, hsilent, nil_append]
  rw [hpage]
  constructor
  · intro hphases
    have hcount := length_filterMap_le (reportedPhase operationId) (published.take (256 - history.length))
    rw [hphases, length_take] at hcount
    have hsix : commissioningPhases.length = 6 := rfl
    omega
  · intro hshort
    rw [take_of_length_le (by omega)]
    exact reportedPhases_of_publishes hpublished

theorem commissioningProgress_congr (h : (eventPage events 0 256).filterMap (reportedPhase operationId) =
      (eventPage events' 0 256).filterMap (reportedPhase operationId)) (store : MatterStore) :
    Fallible.execute (MatterStore.answering { answers with events := events })
        (commissioningProgress operationId) store =
      Fallible.execute (MatterStore.answering { answers with events := events' })
        (commissioningProgress operationId) store := by
  have hrun : ∀ events, Fallible.execute (MatterStore.answering { answers with events := events })
      (commissioningProgress operationId) store =
      (if (eventPage events 0 256).filterMap (reportedPhase operationId) = commissioningPhases
        then .ok ((eventPage events 0 256).filterMap (reportedPhase operationId))
        else .error ⟨.persistence, .outcomeIndeterminate, .afterRepair, some (.operation operationId),
          some .reviewPartialCleanup⟩, store) := by
    intro events
    show Fallible.execute _ (if (eventPage events 0 256).filterMap (reportedPhase operationId) = commissioningPhases
      then pure _ else throw _) store = _
    split <;> rfl
  rw [hrun, hrun, h]

theorem answering_congr (c : MatterCall) (store : MatterStore) (h : c.ReadsNoEvents) :
    MatterStore.answering { answers with events := events } c store =
      MatterStore.answering { answers with events := events' } c store := by
  cases c with
  | eventsAfter cursor limit => exact h.elim
  | _ => rfl

theorem execute_congr {x : MatterM ε α} (h : x.run.Calls ReadsNoEvents) (store : MatterStore) :
    Fallible.execute (MatterStore.answering { answers with events := events }) x store =
      Fallible.execute (MatterStore.answering { answers with events := events' }) x store :=
  Program.run_congr answering_congr h store

theorem commissioned_calls (operation : MatterOperation) : (commissioned operation).run.Calls ReadsNoEvents := by
  refine calls_bind (calls_attempt (calls_perform trivial)) ?_
  intro stored
  cases stored <;> trivial

theorem followProgress_congr (h : (eventPage events 0 256).filterMap (reportedPhase operation.id) =
      (eventPage events' 0 256).filterMap (reportedPhase operation.id)) (store : MatterStore) :
    Fallible.execute (MatterStore.answering { answers with events := events })
        (followProgress ids actorId operation descriptor now) store =
      Fallible.execute (MatterStore.answering { answers with events := events' })
        (followProgress ids actorId operation descriptor now) store := by
  refine execute_bind_congr ?_ ?_
  · rw [execute_caught, execute_caught, commissioningProgress_congr h]
  · intro progress middle _
    cases progress with
    | error error =>
      exact execute_congr ((terminalControllerError_calls actorId operation error now).mono
        (fun _ => Plain.readsNoEvents)) middle
    | ok phases =>
      refine execute_congr (calls_bind ?_ ?_) middle
      · exact (moves_calls ((phases.drop 1).take 4) operation now).mono (fun _ => Plain.readsNoEvents)
      · exact fun moved => completeCommissioning_calls ids actorId moved descriptor now

/-- Two logs that show the same phases of an operation make its commissioning go the same way. -/
theorem runCommission_congr (h : (eventPage events 0 256).filterMap (reportedPhase operationId) =
      (eventPage events' 0 256).filterMap (reportedPhase operationId)) (store : MatterStore) :
    Fallible.execute (MatterStore.answering { answers with events := events })
        (runCommission ids actorId operationId now) store =
      Fallible.execute (MatterStore.answering { answers with events := events' })
        (runCommission ids actorId operationId now) store := by
  have hplain : ∀ {α : Type} {x : NodeM α}, x.run.Calls Plain → ∀ store,
      Fallible.execute (MatterStore.answering { answers with events := events }) x store =
        Fallible.execute (MatterStore.answering { answers with events := events' }) x store :=
    fun hx => execute_congr (hx.mono (fun _ => Plain.readsNoEvents))
  refine execute_bind_congr
    (hplain ((owned_calls actorId operationId .matterCommissionNode).mono (fun _ => Reads.plain)) store) ?_
  intro operation loaded howned
  have hid : operation.id = operationId := (Table.find_eq_some.mp (owned_ok howned).2).2
  split
  · exact execute_congr (commissioned_calls operation) loaded
  · split
    · rfl
    · refine execute_bind_congr (hplain (transition_calls operation .validatingSetup now) loaded) ?_
      intro moved middle hmoved
      have hmovedId : moved.id = operationId :=
        (MatterOperation.transition_ok (transition_ok hmoved).1).2.id.trans hid
      split
      next fabricId _ =>
        have hcommission : (MatterCall.commission moved.id fabricId).ReadsNoEvents := trivial
        refine execute_bind_congr (execute_congr (calls_answer hcommission) middle) ?_
        intro joined middle' _
        split
        · exact hplain (terminalControllerError_calls actorId moved _ now) middle'
        · split
          · exact hplain (terminalControllerError_calls actorId moved _ now) middle'
          · exact followProgress_congr (by rw [hmovedId]; exact h) middle'
      · rfl

/-- Commissioning completes, and goes exactly as on an empty log, if and only if the log holds
at most 250 earlier events. -/
theorem commissioning_ignores_history_iff (ids : MatterIdentities) (answers : MatterAnswers)
    (published history : List MatterControllerEvent) (actorId : ActorId) (operation : MatterOperation) (now : Instant)
    (store : MatterStore) (hstored : store.operations.find operation.id = some operation)
    (hrequested : operation.phase = .requested) (hpublished : PublishesPhases operation.id published)
    (hhistory : ∀ event ∈ history, reportedPhase operation.id event = none)
    (hempty : Completes (commissionAfter ids answers published [] actorId operation.id now store)) :
    (Completes (commissionAfter ids answers published history actorId operation.id now store) ↔
      history.length ≤ 250) ∧
    (commissionAfter ids answers published history actorId operation.id now store =
      commissionAfter ids answers published [] actorId operation.id now store ↔ history.length ≤ 250) := by
  have hshort : Completes (commissionAfter ids answers published history actorId operation.id now store) →
      history.length ≤ 250 := by
    rintro ⟨completed, result, hcompleted⟩
    have hrun : commissionAfter ids answers published history actorId operation.id now store =
        (.ok (.completed completed result),
          (commissionAfter ids answers published history actorId operation.id now store).2) := by
      rw [← hcompleted]
    obtain ⟨hphases, -⟩ := runCommission_completed hstored hrequested hrun
    exact (page_phases_iff hpublished hhistory).mp hphases
  have hsame : history.length ≤ 250 →
      commissionAfter ids answers published history actorId operation.id now store =
        commissionAfter ids answers published [] actorId operation.id now store := by
    intro hlength
    apply runCommission_congr
    have hnone : ∀ event ∈ ([] : List MatterControllerEvent), reportedPhase operation.id event = none :=
      fun event hevent => absurd hevent List.not_mem_nil
    rw [(page_phases_iff hpublished hhistory).mpr hlength,
      (page_phases_iff hpublished hnone).mpr (Nat.zero_le 250)]
  refine ⟨⟨hshort, ?_⟩, ⟨?_, hsame⟩⟩
  · intro hlength
    rw [hsame hlength]
    exact hempty
  · intro heq
    rw [← heq] at hempty
    exact hshort hempty

def plainIdentities : MatterIdentities where
  integration := fun installationId _ => installationId
  device := fun _ nodeId => nodeId
  projection := fun _ nodeId _ _ => nodeId
  subscription := fun _ nodeId => nodeId
  fabricText := fun _ => "fabric"

def lampDescriptor : MatterNodeDescriptor where
  fabricId := 1
  nodeId := 4
  endpoints := [⟨1, [⟨0x0100, 1⟩], [⟨0x0006, 1, 0, [0, 1], [0]⟩], []⟩]
  descriptorRevision := 1
  nodeId_pos := by decide
  nodeId_lt := by decide
  revision_pos := by decide
  revision_lt := by decide
  bounded := by decide
  distinct := by decide

def lampCommissioning (operationId : MatterOperationId) : MatterOperation :=
  .new operationId .commissionNode (.fabric 1) 10

def phaseEvents (operationId : MatterOperationId) : List MatterControllerEvent :=
  commissioningPhases.map (fun phase => ⟨(1, 1), 12, .operationProgress operationId phase⟩)

def lampAnswers (events : List MatterControllerEvent) : MatterAnswers where
  newId := 0
  actorSecurity := fun actorId => some ⟨⟨actorId, 1, .user, true⟩,
    [⟨1, actorId, [.matterCommissionNode, .matterRemoveNode], .installation 1, .security, true⟩]⟩
  fabricStatus := .ok none
  createFabric := .ok ⟨1, .active⟩
  exportFabric := .ok .simulatorV1
  restoreFabric := .ok ⟨1, .active⟩
  commission := .ok lampDescriptor
  cancelCommissioning := .ok .cancelled
  events := events
  nodes := .ok []
  node := .ok none
  removeNode := .ok .removed
  read := fun request => .ok (request.selection.map (fun path => ⟨path, .boolean true, none, 1, 13⟩))
  subscribe := fun request => .ok ⟨request.subscriptionId, true, 1, 14⟩

def commissionKey : IdempotencyKey := ⟨"commission", by decide, by decide, by decide⟩

def lampBinding (operationId : MatterOperationId) (action : CommandAction) (key : IdempotencyKey) :
    MatterOperationBinding :=
  ⟨operationId, 9, 1, action, key, "lamp", 1⟩

theorem lampHome_installations : ([1] : List InstallationId).Nodup := List.nodup_singleton _

def lampHome : MatterStore where
  foundation := { FoundationStore.empty with installations := ⟨[1], lampHome_installations⟩ }
  fabrics := ⟨[⟨1, 1, .active, ⟨1, 2, 3⟩, 1, 0⟩], by decide⟩
  nodes := .empty
  endpoints := .empty
  subscriptions := .empty
  operations := ⟨[lampCommissioning 7], by decide⟩
  bindings := ⟨[lampBinding 7 .matterCommissionNode commissionKey], by decide⟩
  progress := ⟨[progressWithError (lampCommissioning 7) none], by decide⟩
  repairs := .empty
  results := .empty
  events := []

def lampEvent : MatterControllerEvent := ⟨(1, 1), 0, .subscriptionLost 4 .timedOut⟩

theorem lamp_commissioned :
    Completes (commissionAfter plainIdentities (lampAnswers []) (phaseEvents 7) [] 9 7 20 lampHome) := by
  refine ⟨⟨7, .commissionNode, .fabric 1, .completed, 8, 10, 20⟩, ⟨7, 1, 4, 4, 20⟩, ?_⟩
  decide +kernel

/-- An earlier event does not matter. -/
theorem lamp_commissioned_after_one :
    Completes (commissionAfter plainIdentities (lampAnswers []) (phaseEvents 7) [lampEvent] 9 7 20 lampHome) :=
  (commissioning_ignores_history_iff plainIdentities (lampAnswers []) (phaseEvents 7) [lampEvent] 9
    (lampCommissioning 7) 20 lampHome rfl rfl rfl (by simp [lampEvent, reportedPhase]) lamp_commissioned).1.mpr
    (by decide)

/-- After 251 events the controller's log no longer shows the last phase, and the commissioned lamp is
left to an operator. -/
theorem lamp_indeterminate_after_long_use :
    Completes (commissionAfter plainIdentities (lampAnswers []) (phaseEvents 7) [] 9 7 20 lampHome) ∧
      (commissionAfter plainIdentities (lampAnswers []) (phaseEvents 7) (List.replicate 251 lampEvent) 9 7 20
        lampHome).1 = .ok (.terminal ⟨7, .commissionNode, .fabric 1, .repairRequired, 3, 10, 20⟩) ∧
      ¬ Completes (commissionAfter plainIdentities (lampAnswers []) (phaseEvents 7) (List.replicate 251 lampEvent) 9 7
        20 lampHome) := by
  have hterminal : (commissionAfter plainIdentities (lampAnswers []) (phaseEvents 7) (List.replicate 251 lampEvent) 9 7
      20 lampHome).1 = .ok (.terminal ⟨7, .commissionNode, .fabric 1, .repairRequired, 3, 10, 20⟩) := by
    decide +kernel
  refine ⟨lamp_commissioned, hterminal, ?_⟩
  rintro ⟨operation, value, hcompleted⟩
  rw [hterminal] at hcompleted
  cases hcompleted

end MatterNodeWorkflow
end HomeMagic
