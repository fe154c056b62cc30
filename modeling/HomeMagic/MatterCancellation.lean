import HomeMagic.MatterCommissioning
import HomeMagic.Sequential

/-! Cancelling a commissioning, and recovering one after a restart. -/
namespace HomeMagic
open List Fallible

variable {answers : MatterAnswers} {store store' : MatterStore} {actorId : ActorId} {now : Instant}

namespace MatterNodeWorkflow
open MatterCall

theorem ownedCommissioningForCancellation_ok {operationId : MatterOperationId} {operation : MatterOperation}
    (h : Fallible.execute (MatterStore.answering answers)
        (MatterAdministration.ownedCommissioningForCancellation actorId operationId) store =
      (.ok operation, store')) :
    store' = store ∧ store.operations.find operationId = some operation ∧ operation.kind = .commissionNode ∧
      ∃ binding, store.bindings.find operationId = some binding ∧ binding.action = .matterCommissionNode := by
  obtain ⟨security, _, hsecurity, hrest⟩ := execute_bind_inv h
  rw [(security_ok hsecurity).1] at hrest
  obtain ⟨_, _, hauthorize, hrest⟩ := execute_bind_inv hrest
  rw [authorize_ok hauthorize] at hrest
  obtain ⟨found, _, howned, hrest⟩ := execute_bind_inv hrest
  obtain ⟨hsame, hfound⟩ := ownedOperation_ok howned
  obtain ⟨hoperation, hbinding⟩ := administrationOperation_find hfound
  simp only at hrest
  split at hrest
  next hcommissioning =>
    cases hrest
    exact ⟨hsame, hoperation, hcommissioning.2, found.2, hbinding, hcommissioning.1⟩
  · cases hrest

theorem enterCancelling_ok {cancellation entered : MatterOperation}
    (h : Fallible.execute (MatterStore.answering answers) (enterCancelling cancellation now) store =
      (.ok entered, store')) : entered.id = cancellation.id := by
  unfold enterCancelling at h
  split at h
  · exact (MatterOperation.transition_ok (transition_ok h).1).2.id
  · split at h
    · cases h
      rfl
    · cases h

/-- Both operations end in one commit, as the controller's answer says. -/
theorem resolveCancellation_ok {commissioning cancellation commissioned cancelled : MatterOperation}
    {outcome : Except MatterControllerError MatterCancellationOutcome} {resolved : MatterCancellationResolution}
    (hother : commissioning.id ≠ cancellation.id)
    (h : Fallible.execute (MatterStore.answering answers)
        (resolveCancellation commissioning cancellation outcome now) store =
      (.ok (commissioned, cancelled, resolved), store')) :
    (resolved, commissioned.phase, cancelled.phase) = resolution outcome ∧
      commissioned.id = commissioning.id ∧ cancelled.id = cancellation.id ∧
      commissioned.kind = commissioning.kind ∧
      store'.operations.find commissioning.id = some commissioned ∧
      store'.operations.find cancellation.id = some cancelled := by
  unfold resolveCancellation at h
  split at h
  next moved moved' hmoved hmoved' =>
    obtain ⟨repairId, middle, hanswer, h⟩ := execute_bind_inv h
    cases hanswer
    obtain ⟨repairId', middle', hanswer, h⟩ := execute_bind_inv h
    cases hanswer
    obtain ⟨_, written, hcall, h⟩ := execute_bind_inv h
    have happlied := MatterStore.committed_commit (execute_attempt_inv hcall)
    cases h
    obtain ⟨half, current, current', hfirst, hsecond⟩ := MatterStore.commitCancellation_ok happlied
    obtain ⟨hphase, hmoves⟩ := MatterOperation.transition_ok hmoved
    obtain ⟨hphase', hmoves'⟩ := MatterOperation.transition_ok hmoved'
    have hhalf : half.operations.find commissioning.id = some commissioned := by
      rw [hfirst.operations, Table.find_replace hfirst.found]
      exact if_pos hmoves.id
    refine ⟨by rw [hphase, hphase'], hmoves.id, hmoves'.id, by rw [hmoves.only], ?_, ?_⟩
    · rw [hsecond.operations, Table.find_replace hsecond.found, if_neg]
      · exact hhalf
      · intro hsame
        exact hother (hsame.symm.trans hmoves'.id)
    · rw [hsecond.operations, Table.find_replace hsecond.found]
      exact if_pos hmoves'.id
  · cases h

def Pending (commissioning : MatterOperation) (cancellationId : MatterOperationId) (store : MatterStore) : Prop :=
  store.operations.find commissioning.id = some commissioning ∧
    ∃ waiting, store.operations.find cancellationId = some waiting ∧ waiting.phase.isTerminal = false

theorem ownedCommissioningForCancellation_calls (actorId : ActorId) (operationId : MatterOperationId) :
    (MatterAdministration.ownedCommissioningForCancellation actorId operationId).run.Calls Reads := by
  refine calls_bind (MatterAdministration.security_calls actorId) ?_
  intro security
  refine calls_bind (MatterAdministration.authorize_calls security _) ?_
  intro _
  refine calls_bind (MatterAdministration.ownedOperation_calls security operationId) ?_
  intro found
  simp only
  split <;> trivial

theorem throughout_of_reads {ε α : Type} {x : MatterM ε α} {P : MatterStore → Prop} (h : x.run.Calls Reads)
    (hs : P store) : x.run.Throughout (MatterStore.answering answers) P store :=
  .of_calls (fun _ _ => Reads.leaves) h hs

theorem transition_throughout {operation moved : MatterOperation} {next : MatterOperationPhase}
    {P : MatterStore → Prop}
    (h : Fallible.execute (MatterStore.answering answers) (transition operation next now) store = (.ok moved, store'))
    (hs : P store) (hs' : P store') :
    (transition operation next now).run.Throughout (MatterStore.answering answers) P store := by
  unfold transition at h ⊢
  split at h
  · cases h
  next moved' hmoved =>
    obtain ⟨_, middle, hcall, h⟩ := execute_bind_inv h
    cases h
    have hwritten := congrArg Prod.snd (execute_attempt_inv hcall)
    refine throughout_bind hcall (throughout_attempt ⟨hs, ?_⟩) hs'
    exact hwritten ▸ hs'

/-- Taking a cancellation up moves nothing but the cancellation itself, which does not end with it. -/
theorem enterCancelling_pending {commissioning cancellation entered : MatterOperation}
    (hother : commissioning.id ≠ cancellation.id)
    (hlive : store.operations.find commissioning.id = some commissioning)
    (hfound : store.operations.find cancellation.id = some cancellation)
    (h : Fallible.execute (MatterStore.answering answers) (enterCancelling cancellation now) store =
      (.ok entered, store')) :
    Pending commissioning cancellation.id store ∧ Pending commissioning cancellation.id store' ∧
      (enterCancelling cancellation now).run.Throughout (MatterStore.answering answers)
        (Pending commissioning cancellation.id) store := by
  unfold enterCancelling at h ⊢
  split at h
  next hrequested =>
    rw [if_pos hrequested]
    have hbefore : Pending commissioning cancellation.id store :=
      ⟨hlive, cancellation, hfound, by rw [hrequested]; rfl⟩
    obtain ⟨hmoved, hwritten⟩ := transition_ok h
    obtain ⟨hphase, hmoves⟩ := MatterOperation.transition_ok hmoved
    obtain ⟨current, hadvanced⟩ := MatterStore.transitionOperation_ok hwritten
    have hafter : Pending commissioning cancellation.id store' := by
      unfold Pending
      rw [hadvanced.operations, Table.find_replace hadvanced.found, Table.find_replace hadvanced.found, hmoves.id,
        if_neg hother.symm, if_pos rfl]
      exact ⟨hlive, entered, rfl, by rw [hphase]; rfl⟩
    exact ⟨hbefore, hafter, transition_throughout h hbefore hafter⟩
  next hnew =>
    rw [if_neg hnew]
    split at h
    next hcancelling =>
      rw [if_pos hcancelling]
      cases h
      have hbefore : Pending commissioning cancellation.id store :=
        ⟨hlive, cancellation, hfound, by rw [hcancelling]; rfl⟩
      exact ⟨hbefore, hbefore, hbefore⟩
    · cases h

/-- The two operations are stored by one commit, which is the last call. -/
theorem resolveCancellation_throughout {commissioning cancellation commissioned cancelled : MatterOperation}
    {outcome : Except MatterControllerError MatterCancellationOutcome} {resolved : MatterCancellationResolution}
    {P : MatterStore → Prop}
    (h : Fallible.execute (MatterStore.answering answers)
        (resolveCancellation commissioning cancellation outcome now) store =
      (.ok (commissioned, cancelled, resolved), store')) (hs : P store) (hs' : P store') :
    (resolveCancellation commissioning cancellation outcome now).run.Throughout (MatterStore.answering answers) P
      store := by
  unfold resolveCancellation at h ⊢
  split at h
  next moved moved' hmoved hmoved' =>
    obtain ⟨repairId, middle, hanswer, h⟩ := execute_bind_inv h
    refine throughout_bind hanswer (throughout_of_reads (calls_answer (c := .newId) trivial) hs) ?_
    cases hanswer
    obtain ⟨repairId', middle', hanswer, h⟩ := execute_bind_inv h
    refine throughout_bind hanswer (throughout_of_reads (calls_answer (c := .newId) trivial) hs) ?_
    cases hanswer
    obtain ⟨_, written, hcall, h⟩ := execute_bind_inv h
    cases h
    have hwritten := congrArg Prod.snd (execute_attempt_inv hcall)
    refine throughout_bind hcall (throughout_attempt ⟨hs, ?_⟩) hs'
    exact hwritten ▸ hs'
  · cases h

/-- A cancellation that succeeds was for another operation, a commissioning that had not ended. Both end in one commit
as the controller's answer says: up to that commit the commissioning is stored as it was and the cancellation has not
ended, and with it all is done. -/
theorem cancellation_settles {cancellationId : MatterOperationId} {commissioned cancelled : MatterOperation}
    {resolved : MatterCancellationResolution}
    (h : Fallible.execute (MatterStore.answering answers) (runCancelCommissioning actorId cancellationId now) store =
      (.ok (commissioned, cancelled, resolved), store')) :
    ∃ before, store.operations.find commissioned.id = some before ∧
      commissioned.id ≠ cancellationId ∧ commissioned.kind = .commissionNode ∧ before.phase.isTerminal = false ∧
      (resolved, commissioned.phase, cancelled.phase) = resolution answers.cancelCommissioning ∧
      store'.operations.find commissioned.id = some commissioned ∧
      store'.operations.find cancellationId = some cancelled ∧
      ∀ calls, ((runCancelCommissioning actorId cancellationId now).run.runFor (MatterStore.answering answers) calls
          store).2 = store' ∨
        Pending before cancellationId ((runCancelCommissioning actorId cancellationId now).run.runFor
          (MatterStore.answering answers) calls store).2 := by
  obtain ⟨cancellation, _, howned, hrest⟩ := execute_bind_inv h
  obtain ⟨hloaded, hcancellation, binding, hbinding, haction⟩ := owned_bound howned
  rw [hloaded] at hrest howned
  have hcancellationId := (Table.find_eq_some.mp hcancellation).2
  split at hrest
  next fabricId commissioningId htarget =>
    obtain ⟨commissioning, _, hcommissioning, hrest⟩ := execute_bind_inv hrest
    obtain ⟨hread, hfound, hkind, bound, hbound, hcommission⟩ :=
      ownedCommissioningForCancellation_ok (within_ok hcommissioning)
    rw [hread] at hrest hcommissioning
    have hcommissioningId := (Table.find_eq_some.mp hfound).2
    -- one binding cannot be for both actions
    have hother : commissioningId ≠ cancellationId := by
      rintro rfl
      rw [hbinding] at hbound
      cases hbound
      rw [haction] at hcommission
      cases hcommission
    split at hrest
    · cases hrest
    next hlive =>
      obtain ⟨entered, entering, henter, hrest⟩ := execute_bind_inv hrest
      have hentered := enterCancelling_ok henter
      obtain ⟨outcome, _, hanswer, hrest⟩ := execute_bind_inv hrest
      rw [← hcommissioningId] at hfound hother
      rw [← hcancellationId] at hcancellation hother
      obtain ⟨hbefore, hafter, henters⟩ := enterCancelling_pending hother hfound hcancellation henter
      rw [hcancellationId] at hbefore hafter henters
      have hpasses : (runCancelCommissioning actorId cancellationId now).run.Throughout (MatterStore.answering answers)
          (fun s => s = store' ∨ Pending commissioning cancellationId s) store := by
        refine throughout_bind howned (throughout_of_reads (owned_calls actorId _ _) (.inr hbefore)) ?_
        rw [htarget]
        refine throughout_bind hcommissioning (throughout_of_reads
          (calls_within (ownedCommissioningForCancellation_calls actorId _)) (.inr hbefore)) ?_
        rw [if_neg hlive]
        refine throughout_bind henter (henters.mono (fun _ => .inr)) ?_
        refine throughout_bind hanswer (throughout_of_reads (calls_answer trivial) (.inr hafter)) ?_
        cases hanswer
        exact resolveCancellation_throughout hrest (.inr hafter) (.inl rfl)
      cases hanswer
      have hids : commissioning.id ≠ entered.id := fun hsame => hother (hsame.trans hentered)
      obtain ⟨hresolved, hcommissioned, -, hkept, hstored, hstored'⟩ := resolveCancellation_ok hids hrest
      rw [hentered, hcancellationId] at hstored'
      rw [← hcommissioned] at hfound hother hstored
      rw [hcancellationId] at hother
      exact ⟨commissioning, hfound, hother, hkept.trans hkind, Bool.eq_false_iff.mpr hlive, hresolved, hstored,
        hstored', hpasses.runFor⟩
  · cases hrest

def cancellingAnswers : MatterAnswers :=
  { lampAnswers [] with
    actorSecurity := fun actorId => some ⟨⟨actorId, 1, .user, true⟩,
      [⟨1, actorId, [.matterCommissionNode, .matterCancelOperation], .installation 1, .security, true⟩]⟩ }

def lampCancellation : MatterOperation :=
  .new 8 .cancelCommissioning (.operation 1 7) 15

def lampCancelling : MatterStore :=
  { lampHome with
    operations := ⟨[lampCommissioning 7, lampCancellation], by decide⟩
    bindings := ⟨[lampBinding 7 .matterCommissionNode commissionKey,
      lampBinding 8 .matterCancelOperation commissionKey], by decide⟩
    progress := ⟨[progressWithError (lampCommissioning 7) none, progressWithError lampCancellation none], by decide⟩ }

/-- The lamp's commissioning is cancelled and its cancellation completed, both at once. -/
theorem lamp_cancellation_settled :
    ∃ store', Fallible.execute (MatterStore.answering cancellingAnswers) (runCancelCommissioning 9 8 20)
        lampCancelling = (.ok (⟨7, .commissionNode, .fabric 1, .cancelled, 2, 10, 20⟩,
          ⟨8, .cancelCommissioning, .operation 1 7, .completed, 3, 15, 20⟩, .cancelled), store') ∧
      store'.operations.find 7 = some ⟨7, .commissionNode, .fabric 1, .cancelled, 2, 10, 20⟩ ∧
      store'.operations.find 8 = some ⟨8, .cancelCommissioning, .operation 1 7, .completed, 3, 15, 20⟩ ∧
      ∀ calls, ((runCancelCommissioning 9 8 20).run.runFor (MatterStore.answering cancellingAnswers) calls
          lampCancelling).2 = store' ∨
        Pending (lampCommissioning 7) 8 ((runCancelCommissioning 9 8 20).run.runFor
          (MatterStore.answering cancellingAnswers) calls lampCancelling).2 := by
  have hresult : (Fallible.execute (MatterStore.answering cancellingAnswers) (runCancelCommissioning 9 8 20)
      lampCancelling).1 = .ok (⟨7, .commissionNode, .fabric 1, .cancelled, 2, 10, 20⟩,
        ⟨8, .cancelCommissioning, .operation 1 7, .completed, 3, 15, 20⟩, .cancelled) := by
    decide +kernel
  have h : _ = (Except.ok _, _) := Prod.ext hresult rfl
  obtain ⟨before, hbefore, -, -, -, -, hcommissioned, hcancelled, hpasses⟩ := cancellation_settles h
  have hlamp : lampCancelling.operations.find 7 = some (lampCommissioning 7) := by decide +kernel
  obtain rfl : lampCommissioning 7 = before := Option.some.inj (hlamp.symm.trans hbefore)
  exact ⟨_, h, hcommissioned, hcancelled, hpasses⟩

/-- A failure that is recorded ends the operation in the phase of its error. -/
theorem recordControllerFailure_ok {operationId : MatterOperationId} {error : MatterControllerError}
    {next : MatterOperation}
    (h : Fallible.execute (MatterStore.answering answers)
        (MatterAdministration.recordControllerFailure actorId operationId error now) store = (.ok next, store')) :
    next.phase = MatterAdministration.failurePhase error ∧ next.id = operationId ∧
      store'.operations.find operationId = some next ∧
      (MatterAdministration.repairRequired error = true →
        ∃ repair ∈ store'.repairs.rows, repair.operationId = operationId ∧ repair.error = error) := by
  obtain ⟨security, _, hsecurity, h⟩ := execute_bind_inv h
  rw [(security_ok hsecurity).1] at h
  obtain ⟨found, _, howned, h⟩ := execute_bind_inv h
  obtain ⟨hread, hfound⟩ := ownedOperation_ok howned
  rw [hread] at h
  obtain ⟨_, _, hauthorize, h⟩ := execute_bind_inv h
  rw [authorize_ok hauthorize] at h
  have hid := (Table.find_eq_some.mp (administrationOperation_find hfound).1).2
  split at h
  · cases h
  next moved hmoved =>
    obtain ⟨repairId, _, hanswer, h⟩ := execute_bind_inv h
    cases hanswer
    obtain ⟨_, written, hcall, h⟩ := execute_bind_inv h
    have happlied := MatterStore.committed_commit (execute_attempt_inv hcall)
    cases h
    obtain ⟨current, hadvanced⟩ := MatterStore.transitionOperation_ok happlied
    obtain ⟨hphase, hmoves⟩ := MatterOperation.transition_ok hmoved
    have hsame : next.id = operationId := hmoves.id.trans hid
    refine ⟨hphase, hsame, ?_, ?_⟩
    · rw [hadvanced.operations, Table.find_replace hadvanced.found]
      exact if_pos hsame
    · intro hrepair
      have hstored := hadvanced.repairs
      unfold MatterStore.RepairStored MatterAdministration.failureWrite at hstored
      rw [if_pos hrepair] at hstored
      obtain ⟨-, -, -, hrows⟩ := hstored
      refine ⟨MatterAdministration.newRepair answers.newId next error now, ?_, hsame, rfl⟩
      rw [hrows]
      exact mem_append_right _ (mem_singleton.mpr rfl)

theorem recoverCommissioning_calls (actorId : ActorId) (operationId : MatterOperationId) (now : Instant) :
    (recoverCommissioning actorId operationId now).run.Calls StoresNoNode := by
  have hplain : ∀ {α : Type} {x : NodeM α}, x.run.Calls Plain → x.run.Calls StoresNoNode :=
    fun hx => hx.mono (fun _ => Plain.storesNoNode)
  refine calls_bind (hplain ((owned_calls actorId operationId .matterCommissionNode).mono (fun _ => Reads.plain))) ?_
  intro operation
  split
  · refine calls_bind (calls_attempt (calls_perform trivial)) ?_
    intro stored
    cases stored <;> trivial
  · split
    · trivial
    · split
      · trivial
      · split
        · refine calls_bind (calls_answer trivial) ?_
          intro events
          refine calls_bind (calls_answer trivial) ?_
          intro nodes
          exact hplain (terminalControllerError_calls actorId operation _ now)
        · trivial

/-- A recovery never completes a commissioning that was under way, whatever the controller says of its events and
nodes: it is left to an operator, with a record that asks for one, and no node is stored. -/
theorem recovery_leaves_repair {operationId : MatterOperationId} {operation : MatterOperation}
    {outcome : MatterWorkflowOutcome MatterOperationNodeResult}
    (hfound : store.operations.find operationId = some operation) (hlive : operation.phase.isTerminal = false)
    (h : Fallible.execute (MatterStore.answering answers) (recoverCommissioning actorId operationId now) store =
      (.ok outcome, store')) :
    operation.phase ∈ commissioningPhases ∧ store'.nodes = store.nodes ∧
      ∃ terminal : MatterOperation, outcome = .terminal terminal ∧ terminal.phase = .repairRequired ∧
        store'.operations.find operationId = some terminal ∧
        ∃ repair ∈ store'.repairs.rows, repair.operationId = operationId ∧
          repair.error = indeterminateOperationError operation := by
  have hnodes := execute_nodes answers (recoverCommissioning_calls actorId operationId now) store
  rw [h] at hnodes
  obtain ⟨current, _, howned, hrest⟩ := execute_bind_inv h
  obtain ⟨hloaded, hcurrent⟩ := owned_ok howned
  rw [hloaded] at hrest
  obtain rfl : operation = current := Option.some.inj (hfound.symm.trans hcurrent)
  have hid := (Table.find_eq_some.mp hfound).2
  have hincomplete : operation.phase ≠ .completed := by
    intro hcompleted
    rw [hcompleted] at hlive
    cases hlive
  rw [if_neg hincomplete, hlive, if_neg Bool.false_ne_true] at hrest
  split at hrest
  · cases hrest
  next hphase =>
    have hunderway : operation.phase ∈ commissioningPhases := by
      rw [not_or, Bool.not_eq_false, contains_iff_mem] at hphase
      exact hphase.2
    split at hrest
    -- the events and the nodes are read, and whatever they say is dropped
    · obtain ⟨events, _, hanswer, hrest⟩ := execute_bind_inv hrest
      cases hanswer
      obtain ⟨nodes, _, hanswer, hrest⟩ := execute_bind_inv hrest
      cases hanswer
      obtain ⟨terminal, _, hrecorded, hrest⟩ := execute_bind_inv hrest
      cases hrest
      obtain ⟨hrepair, hterminal, hstored, hrecord⟩ := recordControllerFailure_ok (within_ok hrecorded)
      rw [hid] at hstored hrecord
      exact ⟨hunderway, hnodes, terminal, rfl, hrepair, hstored, hrecord rfl⟩
    · cases hrest

def lampDiscovery : MatterOperation :=
  { lampCommissioning 7 with phase := .discovering, revision := 3, updatedAt := 12 }

def lampDiscovering : MatterStore :=
  { lampHome with
    operations := ⟨[lampDiscovery], by decide⟩
    progress := ⟨[progressWithError lampDiscovery none], by decide⟩ }

theorem lamp_recovery_leaves_repair : ∃ store' terminal,
    Fallible.execute (MatterStore.answering (lampAnswers (phaseEvents 7))) (recoverCommissioning 9 7 20)
        lampDiscovering = (.ok (.terminal terminal), store') ∧ terminal.phase = .repairRequired := by
  have hresult : (Fallible.execute (MatterStore.answering (lampAnswers (phaseEvents 7))) (recoverCommissioning 9 7 20)
      lampDiscovering).1 = .ok (.terminal ⟨7, .commissionNode, .fabric 1, .repairRequired, 4, 10, 20⟩) := by
    decide +kernel
  have h : _ = (Except.ok _, _) := Prod.ext hresult rfl
  obtain ⟨-, -, terminal, hterminal, hphase, -, -⟩ := recovery_leaves_repair rfl rfl h
  exact ⟨_, terminal, by rw [h, hterminal], hphase⟩

end MatterNodeWorkflow
end HomeMagic
