import HomeMagic.MatterRepository

/-! What each transaction of the Matter repository does when it commits. -/
namespace HomeMagic

theorem toI64_ok {value result : ℕ} (h : toI64 value = .ok result) : result = value ∧ value < 2^63 := by
  unfold toI64 at h
  split at h
  next hlt =>
    cases h
    exact ⟨rfl, hlt⟩
  · cases h

theorem validateRevision_ok {resource : String} {found expected : Option ℕ} {next : ℕ}
    (h : validateRevision resource found expected next = .ok ()) :
    found = expected ∧ next = min (expected.getD 0 + 1) (2^64 - 1) := by
  unfold validateRevision at h
  split at h
  · cases h
  next hsame =>
    rw [not_or, not_not, not_not] at hsame
    exact hsame

namespace MatterStore

open Fallible

variable {store store' : MatterStore}
variable {operation : MatterOperation} {expectedRevision : Option ℕ} {progress : MatterOperationProgress}
  {expected : ℕ} {repair : Option MatterRepairRecord} {store'' : MatterStore}
  {subscription : StoredMatterSubscription} {write : FoundationStore → Except StorageError FoundationStore}

structure SameOperations (store store' : MatterStore) : Prop where
  operations : store'.operations = store.operations
  bindings : store'.bindings = store.bindings
  progress : store'.progress = store.progress
  repairs : store'.repairs = store.repairs
  events : store'.events = store.events

theorem SameOperations.refl (store : MatterStore) : SameOperations store store := ⟨rfl, rfl, rfl, rfl, rfl⟩

theorem SameOperations.trans (h : SameOperations store store') (h' : SameOperations store' store'') :
    SameOperations store store'' :=
  ⟨h'.operations.trans h.operations, h'.bindings.trans h.bindings, h'.progress.trans h.progress,
    h'.repairs.trans h.repairs, h'.events.trans h.events⟩

theorem insertProgress_ok (h : store.insertProgress progress = .ok store') :
    (store.operations.find progress.operationId).isSome ∧ progress.revision < 2^63 ∧
      ∃ rows, rows.rows = store.progress.rows ++ [progress] ∧ store' = { store with progress := rows } := by
  unfold insertProgress at h
  obtain ⟨_, hrevision, h⟩ := bind_inv h
  split at h
  · cases h
  next hknown =>
    split at h
    · cases h
    next rows hrows =>
      cases h
      exact ⟨Option.isSome_iff_ne_none.mpr (by simpa using hknown), (toI64_ok hrevision).2, rows, Table.rows_insertAll hrows, rfl⟩

theorem storeRepair_ok {repair : MatterRepairRecord} (h : store.storeRepair repair none = .ok store') :
    repair.revision = 1 ∧ ∃ rows, rows.rows = store.repairs.rows ++ [repair] ∧
      store' = { store with repairs := rows } := by
  unfold storeRepair at h
  obtain ⟨_, hrevision, h⟩ := bind_inv h
  obtain ⟨hnone, hnext⟩ := validateRevision_ok hrevision
  rw [Option.map_eq_none_iff] at hnone
  split at h
  · cases h
  · obtain ⟨_, _, h⟩ := bind_inv h
    cases h
    refine ⟨hnext, store.repairs.upsert repair, ?_, rfl⟩
    unfold Table.upsert
    rw [dif_pos hnone]
    rfl

structure Created (store store' : MatterStore) (operation : MatterOperation) (progress : MatterOperationProgress)
    (actor : Option ActorId) : Prop where
  free : store.operations.find operation.id = none
  revision : operation.revision = 1
  active : operation.phase.isTerminal = false
  progressId : progress.operationId = operation.id
  progressRevision : progress.revision = operation.revision
  progressPhase : progress.phase = operation.phase
  operations : store'.operations.rows = store.operations.rows ++ [operation]
  progress : store'.progress.rows = store.progress.rows ++ [progress]
  repairs : store'.repairs = store.repairs
  events : store'.events = store.events ++
    [⟨operation.id, operation.kind, none, operation.phase, operation.revision, operation.updatedAt, actor⟩]
  rest : store' = { store with
    operations := store'.operations, bindings := store'.bindings, progress := store'.progress, events := store'.events }

theorem createOperation_ok (h : store.createOperation operation progress = .ok store') (actor : Option ActorId)
    (bindings : Table MatterOperationId MatterOperationBinding MatterOperationBinding.operationId) :
    Created store (appendOperationEvent { store' with bindings := bindings } operation none actor) operation progress
      actor := by
  unfold createOperation at h
  split at h
  · cases h
  next hinitial =>
    push Not at hinitial
    obtain ⟨hrevision, hactive, hid, hsame, hphase⟩ := hinitial
    obtain ⟨_, _, h⟩ := bind_inv h
    split at h
    · cases h
    next operations hoperations =>
      obtain ⟨_, _, rows, hrows, rfl⟩ := insertProgress_ok h
      have hfree : store.operations.find operation.id = none := by
        unfold Table.insertAll at hoperations
        split at hoperations
        next hfree => exact hfree
        · cases hoperations
      exact ⟨hfree, hrevision, by simpa using hactive, hid, hsame, hphase, Table.rows_insertAll hoperations,
        hrows, rfl, rfl, rfl⟩

theorem createMatterOperation_ok (h : store.createMatterOperation operation progress = .ok store') :
    Created store store' operation progress none := by
  unfold createMatterOperation at h
  obtain ⟨created, hcreated, h⟩ := bind_inv h
  cases h
  exact createOperation_ok hcreated none created.bindings

theorem createAdministrationOperation_ok {binding : MatterOperationBinding} {outcome : MatterOperationCreateOutcome}
    (h : store.createAdministrationOperation operation binding progress = .ok (store', outcome)) :
    store' = store ∨ Created store store' operation progress (some binding.actorId) := by
  unfold createAdministrationOperation at h
  split at h
  · cases h
  · obtain ⟨installationId, _, h⟩ := bind_inv h
    split at h
    · cases h
    · split at h
      · split at h
        · cases h
        · split at h
          · cases h
            exact Or.inl rfl
          · cases h
            exact Or.inl rfl
      · obtain ⟨created, hcreated, h⟩ := bind_inv h
        split at h
        · cases h
        next bindings _ =>
          cases h
          exact Or.inr (createOperation_ok hcreated (some binding.actorId) bindings)

def RepairStored (store store' : MatterStore) (write : MatterOperationWrite) : Prop :=
  match write.repair with
  | none => write.operation.phase ≠ .repairRequired ∧ store'.repairs = store.repairs
  | some repair => write.operation.phase = .repairRequired ∧ write.progress.error = some repair.error ∧
      repair.operationId = write.operation.id ∧ store'.repairs.rows = store.repairs.rows ++ [repair]

structure Advanced (store store' : MatterStore) (write : MatterOperationWrite) (current : MatterOperation) : Prop where
  found : store.operations.find write.operation.id = some current
  expected : current.revision = write.expectedRevision
  next : write.operation.revision = min (write.expectedRevision + 1) (2^64 - 1)
  bounded : write.operation.revision < 2^63
  progressId : write.progress.operationId = write.operation.id
  progressRevision : write.progress.revision = write.operation.revision
  progressPhase : write.progress.phase = write.operation.phase
  operations : store'.operations = store.operations.replace write.operation
  progress : store'.progress.rows = store.progress.rows ++ [write.progress]
  repairs : RepairStored store store' write
  events : ∃ actor, store'.events = store.events ++ [⟨write.operation.id, write.operation.kind,
    some current.phase, write.operation.phase, write.operation.revision, write.operation.updatedAt, actor⟩]
  rest : store' = { store with
    operations := store'.operations, progress := store'.progress, repairs := store'.repairs, events := store'.events }

theorem repairMatches_ok (h : repairMatches operation progress repair = .ok ()) :
    (repair = none → operation.phase ≠ .repairRequired) ∧ ∀ record, repair = some record →
      operation.phase = .repairRequired ∧ progress.error = some record.error := by
  cases repair with
  | none =>
    simp only [repairMatches] at h
    split at h
    · cases h
    next hphase => exact ⟨fun _ => hphase, fun _ hsome => (nomatch hsome)⟩
  | some repair =>
    simp only [repairMatches] at h
    split at h
    · cases h
    next hphase =>
      split at h
      next herror =>
        refine ⟨fun hnone => (nomatch hnone), ?_⟩
        rintro record ⟨⟩
        exact ⟨not_not.mp hphase, herror⟩
      · cases h

theorem storeRepairOf_ok (h : store.storeRepairOf operation repair = .ok store') :
    (repair = none ∧ store' = store) ∨ ∃ record rows, repair = some record ∧ record.operationId = operation.id ∧
      rows.rows = store.repairs.rows ++ [record] ∧ store' = { store with repairs := rows } := by
  cases repair with
  | none =>
    cases h
    exact Or.inl ⟨rfl, rfl⟩
  | some record =>
    simp only [storeRepairOf] at h
    split at h
    · cases h
    next howner =>
      obtain ⟨_, rows, hrows, hstore⟩ := storeRepair_ok h
      exact Or.inr ⟨record, rows, rfl, not_not.mp howner, hrows, hstore⟩

/-- What a transition of an operation checks and writes. -/
theorem transitionOperation_ok {write : MatterOperationWrite} (h : store.transitionOperation write = .ok store') :
    ∃ current, Advanced store store' write current := by
  unfold transitionOperation at h
  split at h
  · cases h
  next current hfound =>
    split at h
    · cases h
    · obtain ⟨_, hrevision, h⟩ := bind_inv h
      obtain ⟨hexpected, hnext⟩ := validateRevision_ok hrevision
      split at h
      · cases h
      next hprogress =>
        push Not at hprogress
        obtain ⟨hid, hsame, hphase⟩ := hprogress
        obtain ⟨_, hmatches, h⟩ := bind_inv h
        obtain ⟨_, hbounded, h⟩ := bind_inv h
        obtain ⟨middle, hmiddle, h⟩ := bind_inv h
        obtain ⟨_, _, rows, hrows, rfl⟩ := insertProgress_ok hmiddle
        obtain ⟨last, hlast, h⟩ := bind_inv h
        cases h
        obtain ⟨hunrepaired, hrepaired⟩ := repairMatches_ok hmatches
        refine ⟨current, ?_⟩
        rcases storeRepairOf_ok hlast with ⟨hnone, rfl⟩ | ⟨record, repairs, hsome, howner, hrepairs, rfl⟩
        · have hstored : RepairStored store (appendOperationEvent
              { store with operations := store.operations.replace write.operation, progress := rows }
              write.operation (some current.phase)
              ((store.bindings.find write.operation.id).map MatterOperationBinding.actorId)) write := by
            unfold RepairStored
            rw [hnone]
            exact ⟨hunrepaired hnone, rfl⟩
          exact ⟨hfound, Option.some.inj hexpected, hnext, (toI64_ok hbounded).2, hid, hsame, hphase, rfl, hrows,
            hstored, ⟨_, rfl⟩, rfl⟩
        · have hstored : RepairStored store (appendOperationEvent
              { store with operations := store.operations.replace write.operation, progress := rows, repairs := repairs }
              write.operation (some current.phase)
              ((store.bindings.find write.operation.id).map MatterOperationBinding.actorId)) write := by
            unfold RepairStored
            rw [hsome]
            exact ⟨(hrepaired record hsome).1, (hrepaired record hsome).2, howner, hrepairs⟩
          exact ⟨hfound, Option.some.inj hexpected, hnext, (toI64_ok hbounded).2, hid, hsame, hphase, rfl, hrows,
            hstored, ⟨_, rfl⟩, rfl⟩

structure SameControl (store store' : MatterStore) : Prop extends SameOperations store store' where
  subscriptions : store'.subscriptions = store.subscriptions
  nodes : store'.nodes = store.nodes
  fabrics : store'.fabrics = store.fabrics

theorem SameControl.refl (store : MatterStore) : SameControl store store :=
  ⟨SameOperations.refl store, rfl, rfl, rfl⟩

theorem SameControl.trans (h : SameControl store store') (h' : SameControl store' store'') :
    SameControl store store'' :=
  ⟨h.toSameOperations.trans h'.toSameOperations, h'.subscriptions.trans h.subscriptions,
    h'.nodes.trans h.nodes, h'.fabrics.trans h.fabrics⟩

theorem onFoundation_ok (h : store.onFoundation write = .ok store') :
    ∃ foundation, write store.foundation = .ok foundation ∧ store' = { store with foundation := foundation } := by
  unfold onFoundation at h
  obtain ⟨foundation, hwrite, h⟩ := bind_inv h
  cases h
  exact ⟨foundation, hwrite, rfl⟩

theorem onFoundation_same (h : store.onFoundation write = .ok store') : SameControl store store' := by
  obtain ⟨foundation, -, rfl⟩ := onFoundation_ok h
  exact ⟨⟨rfl, rfl, rfl, rfl, rfl⟩, rfl, rfl, rfl⟩

theorem storeNode_ok {node : StoredMatterNode} (h : store.storeNode node expectedRevision = .ok store') :
    node.descriptor.nodeId < 2^63 ∧ (store.nodes.find node.key).map StoredMatterNode.revision = expectedRevision ∧
      ∃ endpoints gone, store' = { store with
        nodes := store.nodes.upsert node
        endpoints := endpoints
        foundation := deleteProjections store.foundation gone } := by
  unfold storeNode at h
  obtain ⟨_, hid, h⟩ := bind_inv h
  obtain ⟨_, hrevision, h⟩ := bind_inv h
  split at h
  · cases h
  · obtain ⟨_, _, h⟩ := bind_inv h
    obtain ⟨_, _, h⟩ := bind_inv h
    split at h
    · cases h
    · cases h
      exact ⟨(toI64_ok hid).2, (validateRevision_ok hrevision).1, _, _, rfl⟩

structure StoresProjection (store store' : MatterStore) (projection : StoredMatterProjection)
    (expectedRevision : Option ℕ) : Prop where
  found : (store.foundation.projections.find projection.projectionId).map StoredMatterProjection.revision =
    expectedRevision
  next : projection.revision = min (expectedRevision.getD 0 + 1) (2^64 - 1)
  same : ∀ stored, store.foundation.projections.find projection.projectionId = some stored →
    CommandStore.sameIdentity stored projection = true
  bounded : projection.revision < 2^63
  rest : store' = { store with foundation := { store.foundation with
    projections := store.foundation.projections.upsert projection } }

theorem storeProjection_ok {projection : StoredMatterProjection}
    (h : store.storeProjection projection expectedRevision = .ok store') :
    StoresProjection store store' projection expectedRevision := by
  unfold storeProjection at h
  split at h
  · cases h
  · obtain ⟨_, hrevision, h⟩ := bind_inv h
    obtain ⟨hfound, hnext⟩ := validateRevision_ok hrevision
    split at h
    · cases h
    next hidentity =>
      obtain ⟨_, _, h⟩ := bind_inv h
      obtain ⟨_, hbounded, h⟩ := bind_inv h
      split at h
      · cases h
      · cases h
        refine ⟨hfound, hnext, ?_, (toI64_ok hbounded).2, rfl⟩
        rintro stored hstored
        simpa [hstored] using hidentity

theorem storeProjection_same {projection : StoredMatterProjection}
    (h : store.storeProjection projection expectedRevision = .ok store') : SameControl store store' := by
  rw [(storeProjection_ok h).rest]
  exact ⟨⟨rfl, rfl, rfl, rfl, rfl⟩, rfl, rfl, rfl⟩

theorem storeProjections_same {projections : List StoredMatterProjection}
    (h : projections.foldlM (fun store projection => store.storeProjection projection expectedRevision) store =
      .ok store') :
    SameControl store store' :=
  foldlM_keeps (I := SameControl store) (fun _ _ _ _ hstep hsame => hsame.trans (storeProjection_same hstep)) h
    (SameControl.refl store)

theorem storeRepairedProjections_same {writes : List MatterSubscriptionProjectionWrite}
    (h : writes.foldlM (storeRepairedProjection operation) store = .ok store') : SameControl store store' := by
  refine foldlM_keeps (I := SameControl store) ?_ h (SameControl.refl store)
  intro write _ before after hstep hsame
  unfold storeRepairedProjection at hstep
  split at hstep
  · cases hstep
  · exact hsame.trans (storeProjection_same hstep)

structure Subscribed (store store' : MatterStore) (subscription : StoredMatterSubscription)
    (expectedRevision : Option ℕ) : Prop where
  recovery : validRecovery subscription.recovery = true
  expected : (store.subscriptions.find subscription.subscriptionId).map StoredMatterSubscription.revision =
    expectedRevision
  next : subscription.revision = min (expectedRevision.getD 0 + 1) (2^64 - 1)
  nodeId : subscription.nodeId < 2^63
  bounded : subscription.revision < 2^63
  rest : store' = { store with subscriptions := store.subscriptions.upsert subscription }

theorem storeSubscription_ok (h : store.storeSubscription subscription expectedRevision = .ok store') :
    Subscribed store store' subscription expectedRevision := by
  unfold storeSubscription at h
  split at h
  · cases h
  next hrecovery =>
    obtain ⟨_, hrevision, h⟩ := bind_inv h
    obtain ⟨hexpected, hnext⟩ := validateRevision_ok hrevision
    obtain ⟨_, _, h⟩ := bind_inv h
    obtain ⟨_, hid, h⟩ := bind_inv h
    obtain ⟨_, _, h⟩ := bind_inv h
    obtain ⟨_, hbounded, h⟩ := bind_inv h
    split at h
    · cases h
    · cases h
      exact ⟨by simpa using hrecovery, hexpected, hnext, (toI64_ok hid).2, (toI64_ok hbounded).2, rfl⟩

theorem Subscribed.same (h : Subscribed store store' subscription expectedRevision) :
    SameOperations store store' ∧ store'.nodes = store.nodes := by
  rw [h.rest]
  exact ⟨⟨rfl, rfl, rfl, rfl, rfl⟩, rfl⟩

theorem insertNodeResult_same {result : MatterOperationNodeResult} (h : store.insertNodeResult result = .ok store') :
    SameControl store store' := by
  unfold insertNodeResult at h
  obtain ⟨_, _, h⟩ := bind_inv h
  split at h
  · cases h
  · split at h
    · cases h
    · cases h
      exact ⟨⟨rfl, rfl, rfl, rfl, rfl⟩, rfl, rfl, rfl⟩

theorem commitCommissioning_ok {commit : MatterCommissioningCommit}
    (h : store.commitCommissioning commit expected = .ok store') :
    ∃ middle current, SameOperations store middle ∧
      Advanced middle store' ⟨commit.operation, expected, commit.progress, none⟩ current ∧
      commit.node.descriptor.nodeId < 2^63 ∧ store.nodes.find commit.node.key = none ∧
      middle.nodes = store.nodes.upsert commit.node := by
  unfold commitCommissioning at h
  split at h
  · cases h
  · obtain ⟨_, hintegration, h⟩ := bind_inv h
    obtain ⟨registered, hdevice, h⟩ := bind_inv h
    obtain ⟨placed, hnode, h⟩ := bind_inv h
    obtain ⟨_, hprojections, h⟩ := bind_inv h
    obtain ⟨_, hsubscription, h⟩ := bind_inv h
    obtain ⟨middle, hresult, h⟩ := bind_inv h
    obtain ⟨current, hadvanced⟩ := transitionOperation_ok h
    have hfirst := (onFoundation_same hintegration).trans (onFoundation_same hdevice)
    obtain ⟨hid, hfree, _, _, hrest⟩ := storeNode_ok hnode
    have hprojected := storeProjections_same hprojections
    obtain ⟨hsubscribed, hsubscribedNodes⟩ := (storeSubscription_ok hsubscription).same
    have hlast := insertNodeResult_same hresult
    rw [Option.map_eq_none_iff, hfirst.nodes] at hfree
    refine ⟨middle, current, ?_, hadvanced, hid, hfree, ?_⟩
    · have hnodeSame : SameOperations registered placed := by
        rw [hrest]
        exact ⟨rfl, rfl, rfl, rfl, rfl⟩
      exact (((hfirst.toSameOperations.trans hnodeSame).trans hprojected.toSameOperations).trans hsubscribed).trans
        hlast.toSameOperations
    · rw [hlast.nodes, hsubscribedNodes, hprojected.nodes, hrest, hfirst.nodes]

theorem commitCancellation_ok {commit : MatterCancellationCommit} (h : store.commitCancellation commit = .ok store') :
    ∃ middle current current', Advanced store middle commit.commissioning current ∧
      Advanced middle store' commit.cancellation current' := by
  unfold commitCancellation at h
  obtain ⟨middle, hcommissioning, h⟩ := bind_inv h
  obtain ⟨current, hfirst⟩ := transitionOperation_ok hcommissioning
  obtain ⟨current', hsecond⟩ := transitionOperation_ok h
  exact ⟨middle, current, current', hfirst, hsecond⟩

theorem commitNodeRemoval_ok {commit : MatterNodeRemovalCommit}
    (h : store.commitNodeRemoval commit expected = .ok store') :
    ∃ middle current, SameOperations store middle ∧
      Advanced middle store' ⟨commit.operation, expected, commit.progress, none⟩ current ∧
      (store.nodes.find (commit.fabricId, commit.nodeId)).isSome ∧ middle.nodes = store.nodes ∧
      commit.operation.kind = .removeNode ∧ commit.operation.target = .node commit.fabricId commit.nodeId := by
  unfold commitNodeRemoval at h
  split at h
  · cases h
  next hkind =>
    split at h
    · cases h
    next htarget =>
      obtain ⟨_, _, h⟩ := bind_inv h
      split at h
      · cases h
      next node hnode =>
        split at h
        · cases h
        · obtain ⟨middle, hdevice, h⟩ := bind_inv h
          obtain ⟨current, hadvanced⟩ := transitionOperation_ok h
          have hsame := onFoundation_same hdevice
          rw [not_or, not_not, not_not] at hkind
          refine ⟨middle, current, ?_, hadvanced, by rw [hnode]; rfl, hsame.nodes, hkind.1, not_not.mp htarget⟩
          exact ⟨hsame.operations, hsame.bindings, hsame.progress, hsame.repairs, hsame.events⟩

theorem commitSubscriptionRepair_ok {commit : MatterSubscriptionRepairCommit}
    (h : store.commitSubscriptionRepair commit = .ok store') :
    ∃ before middle current, SameControl store before ∧
      Subscribed before middle commit.subscription (some commit.expectedSubscriptionRevision) ∧
      Advanced middle store' commit.operation current ∧ commit.operation.operation.kind = .repairSubscription ∧
      commit.operation.operation.target = .node commit.subscription.fabricId commit.subscription.nodeId ∧
      commit.projections.foldlM (storeRepairedProjection commit.operation.operation) store = .ok before := by
  unfold commitSubscriptionRepair at h
  split at h
  · cases h
  next hkind =>
    split at h
    next fabricId nodeId htarget =>
      split at h
      · cases h
      next hresource =>
        rw [not_or, not_not, not_not] at hresource
        obtain ⟨before, hprojections, h⟩ := bind_inv h
        obtain ⟨middle, hsubscription, h⟩ := bind_inv h
        obtain ⟨current, hadvanced⟩ := transitionOperation_ok h
        refine ⟨before, middle, current, storeRepairedProjections_same hprojections, storeSubscription_ok hsubscription,
          hadvanced, not_not.mp hkind, ?_, hprojections⟩
        rw [htarget, hresource.1, hresource.2]
    · cases h

end MatterStore
end HomeMagic
