import HomeMagic.MatterGapRepair
import HomeMagic.MatterRepairRuns

/-! What one call of a repair does to the gaps of all repairs. -/
namespace HomeMagic
open List

open Fallible

variable {projection row : StoredMatterProjection}

namespace MatterStore

variable {store store' : MatterStore}

theorem storeProjection_over {expectedRevision : ℕ}
    (h : store.storeProjection projection (some expectedRevision) = .ok store') :
    store'.foundation.projections = store.foundation.projections.upsert projection ∧
      ∃ stored, store.foundation.projections.find projection.projectionId = some stored ∧
        stored.revision = expectedRevision ∧ stored.revision < projection.revision ∧
        stored.fabricId = projection.fabricId ∧ stored.nodeId = projection.nodeId := by
  obtain ⟨hfound, hnext, hidentity, hbounded, rfl⟩ := storeProjection_ok h
  obtain ⟨stored, hstored, hrevision⟩ := Option.map_eq_some_iff.mp hfound
  refine ⟨rfl, stored, hstored, hrevision, ?_, ?_⟩
  · rw [hrevision]
    exact MatterSubscriptionRepair.lt_of_next hnext hbounded
  · have hsame := hidentity stored hstored
    simp only [CommandStore.sameIdentity, Bool.and_eq_true, beq_iff_eq] at hsame
    exact ⟨hsame.1.1.1.1.2, hsame.1.1.1.2⟩

end MatterStore

variable {start : MatterStore} {event : GapEvent} {operationId : MatterOperationId} {beginner : GapRun}

namespace MatterSubscriptionRepair

open MatterNodeWorkflow

section Written
variable {store store' : MatterStore} {operation moved : MatterOperation} {before after : StoredMatterSubscription}
  {projections : List MatterSubscriptionProjectionWrite} {repair : Option MatterRepairRecord}

theorem KeptRow.of_mem (h : projection ∈ store.foundation.projections.rows) :
    KeptRow store projection := ⟨projection, Table.find_eq_some.mpr ⟨h, rfl⟩, rfl, rfl, Or.inl rfl⟩

theorem KeptRow.over {stored : StoredMatterProjection} (h : KeptRow store stored)
    (hid : stored.projectionId = projection.projectionId) (hfabric : stored.fabricId = projection.fabricId)
    (hnode : stored.nodeId = projection.nodeId) (hlater : stored.revision < projection.revision) :
    KeptRow store projection := by
  obtain ⟨first, hfirst, hfirstFabric, hfirstNode, hkept⟩ := h
  rw [hid] at hfirst
  refine ⟨first, hfirst, hfirstFabric.trans hfabric, hfirstNode.trans hnode, Or.inr ?_⟩
  rcases hkept with rfl | hlt
  · exact hlater
  · exact hlt.trans hlater

theorem storeRepairedProjection_over {write : MatterSubscriptionProjectionWrite}
    (h : MatterStore.storeRepairedProjection operation store write = .ok store') :
    operation.target = .node write.projection.fabricId write.projection.nodeId ∧
      store'.foundation.projections = store.foundation.projections.upsert write.projection ∧
      ∃ stored, store.foundation.projections.find write.projection.projectionId = some stored ∧
        stored.revision = write.expectedRevision ∧ stored.revision < write.projection.revision ∧
        stored.fabricId = write.projection.fabricId ∧ stored.nodeId = write.projection.nodeId := by
  unfold MatterStore.storeRepairedProjection at h
  split at h
  · cases h
  next htarget => exact ⟨not_not.mp htarget, MatterStore.storeProjection_over h⟩

theorem repaired_kept (h : projections.foldlM (MatterStore.storeRepairedProjection operation) store = .ok store') :
    ∀ row ∈ store'.foundation.projections.rows, KeptRow store row ∧
      (row ∈ store.foundation.projections.rows ∨ operation.target = .node row.fabricId row.nodeId) := by
  refine foldlM_keeps (I := fun middle => ∀ row ∈ middle.foundation.projections.rows, KeptRow store row ∧
    (row ∈ store.foundation.projections.rows ∨ operation.target = .node row.fabricId row.nodeId)) ?_ h ?_
  · intro write _ middle next hwrite hkept row hrow
    obtain ⟨htarget, htable, stored, hstored, -, hlater, hfabric, hnode⟩ := storeRepairedProjection_over hwrite
    rw [htable] at hrow
    obtain ⟨hmem, hid⟩ := Table.find_eq_some.mp hstored
    rcases Table.mem_upsert.mp hrow with rfl | ⟨hold, -⟩
    · exact ⟨(hkept stored hmem).1.over hid hfabric hnode hlater, Or.inr htarget⟩
    · exact hkept row hold
  · exact fun row hrow => ⟨KeptRow.of_mem hrow, Or.inl hrow⟩

theorem repaired_rows
    (h : projections.foldlM (MatterStore.storeRepairedProjection operation) store = .ok store')
    (hnodup : (projections.map (fun write => write.projection.projectionId)).Nodup) :
    ∀ row ∈ store'.foundation.projections.rows,
      (row ∈ store.foundation.projections.rows ∧
        ∀ write ∈ projections, write.projection.projectionId ≠ row.projectionId) ∨
      ∃ write ∈ projections, row = write.projection ∧ ∃ stored,
        store.foundation.projections.find row.projectionId = some stored ∧
          stored.revision = write.expectedRevision := by
  induction projections generalizing store with
  | nil =>
    cases h
    exact fun row hrow => Or.inl ⟨hrow, fun write hwrite => absurd hwrite not_mem_nil⟩
  | cons write rest ih =>
    rw [foldlM_cons] at h
    obtain ⟨middle, hwrite, hrest⟩ := bind_inv h
    obtain ⟨-, htable, stored, hstored, hexpected, -⟩ := storeRepairedProjection_over hwrite
    rw [map_cons, nodup_cons] at hnodup
    intro row hrow
    rcases ih hrest hnodup.2 row hrow with ⟨hmem, hunwritten⟩ | ⟨other, hother, rfl, found, hfound, hrevision⟩
    · rw [htable] at hmem
      rcases Table.mem_upsert.mp hmem with rfl | ⟨hold, hne⟩
      · exact Or.inr ⟨write, mem_cons_self, rfl, stored, hstored, hexpected⟩
      · refine Or.inl ⟨hold, ?_⟩
        intro other hother
        rcases mem_cons.mp hother with rfl | hother
        · exact Ne.symm hne
        · exact hunwritten other hother
    · refine Or.inr ⟨other, mem_cons_of_mem _ hother, rfl, found, ?_, hrevision⟩
      have hne : write.projection.projectionId ≠ other.projection.projectionId := by
        intro hsame
        apply hnodup.1
        rw [hsame]
        exact List.mem_map_of_mem hother
      rw [htable, Table.find_upsert, if_neg hne] at hfound
      exact hfound

structure RepairWrote (store store' : MatterStore) (moved : MatterOperation)
    (projections : List MatterSubscriptionProjectionWrite) : Prop where
  kind : moved.kind = .repairSubscription
  nodes : store'.nodes = store.nodes
  kept : ∀ row ∈ store'.foundation.projections.rows, KeptRow store row ∧
    (row ∈ store.foundation.projections.rows ∨ moved.target = .node row.fabricId row.nodeId)
  rows : (projections.map (fun write => write.projection.projectionId)).Nodup →
    ∀ row ∈ store'.foundation.projections.rows,
      (row ∈ store.foundation.projections.rows ∧
        ∀ write ∈ projections, write.projection.projectionId ≠ row.projectionId) ∨
      ∃ write ∈ projections, row = write.projection ∧ ∃ stored,
        store.foundation.projections.find row.projectionId = some stored ∧
          stored.revision = write.expectedRevision
  unwritten : projections = [] → store'.foundation.projections = store.foundation.projections

theorem repairWrote
    (h : store.apply (.repair (repairCommit moved operation.revision after before.revision projections repair)) =
      .ok store') : RepairWrote store store' moved projections := by
  obtain ⟨first, middle, current, hsame, hsubscribed, hadvanced, hkind, -, hprojections⟩ :=
    MatterStore.commitSubscriptionRepair_ok h
  have htable : store'.foundation.projections = first.foundation.projections := by
    rw [hadvanced.rest, hsubscribed.rest]
  have hfold : projections.foldlM (MatterStore.storeRepairedProjection moved) store = .ok first := hprojections
  refine ⟨hkind, ?_, ?_, ?_, ?_⟩
  · rw [hadvanced.rest, hsubscribed.rest]
    exact hsame.nodes
  · rw [htable]
    exact repaired_kept hfold
  · rw [htable]
    exact repaired_rows hfold
  · rintro rfl
    cases hfold
    exact htable

end Written

def Unread (events : List GapEvent) : Prop := ∀ gapRun reports, .read gapRun reports ∉ events

theorem gapReadOf_append {events more : List GapEvent} (h : Unread more) (operationId : MatterOperationId) :
    gapReadOf (events ++ more) operationId = gapReadOf events operationId := by
  unfold gapReadOf
  rw [foldl_append]
  generalize events.foldl (readAfter operationId) none = read
  induction more with
  | nil => rfl
  | cons event rest ih =>
    have hrest : Unread rest := fun gapRun reports hmem => h gapRun reports (mem_cons_of_mem _ hmem)
    have hsame : readAfter operationId read event = read := by
      cases event with
      | read gapRun reports => exact absurd mem_cons_self (h gapRun reports)
      | _ => rfl
    rw [foldl_cons, hsame]
    exact ih hrest

theorem gapReadOf_read (events : List GapEvent) (gapRun : GapRun) (reports : Option (List MatterAttributeReport))
    (operationId : MatterOperationId) : gapReadOf (events ++ [.read gapRun reports]) operationId =
      if gapRun.operationId = operationId then some (gapRun, reports) else gapReadOf events operationId := by
  unfold gapReadOf
  rw [foldl_append]
  rfl

section Changes
variable {party : GapParty} {store store' : MatterStore}

theorem mem_changes (h : event ∈ changes party store store') :
    ∃ projectionId, event = .wrote party projectionId := by
  obtain ⟨row, -, rfl⟩ := List.mem_map.mp h
  exact ⟨row.projectionId, rfl⟩

theorem changes_unread : Unread (changes party store store') := by
  intro gapRun reports hmem
  obtain ⟨projectionId, hevent⟩ := mem_changes hmem
  cases hevent

theorem changes_same (h : store'.foundation.projections = store.foundation.projections) :
    changes party store store' = [] := by
  unfold changes
  rw [h, map_eq_nil_iff, filter_eq_nil_iff]
  intro row hrow
  have hfound : store.foundation.projections.find row.projectionId = some row :=
    Table.find_eq_some.mpr ⟨hrow, rfl⟩
  simp [hfound]

theorem wrote_of_changed (hrow : row ∈ store'.foundation.projections.rows)
    (hnew : row ∉ store.foundation.projections.rows) :
    .wrote party row.projectionId ∈ changes party store store' := by
  refine List.mem_map.mpr ⟨row, List.mem_filter.mpr ⟨hrow, ?_⟩, rfl⟩
  refine decide_eq_true (fun hfound => ?_)
  exact hnew (Table.find_eq_some.mp hfound).1

theorem mem_removals (h : event ∈ removals store store') :
    ∃ operationId, event = .retired operationId ∧ store'.operations.find operationId = none := by
  obtain ⟨row, hrow, rfl⟩ := List.mem_map.mp h
  exact ⟨row.id, rfl, Option.isNone_iff_eq_none.mp (List.mem_filter.mp hrow).2⟩

theorem retired_of_removed {row : MatterOperation}
    (hrow : store.operations.find operationId = some row) (hgone : store'.operations.find operationId = none) :
    .retired operationId ∈ removals store store' := by
  obtain ⟨hmem, rfl⟩ := Table.find_eq_some.mp hrow
  exact List.mem_map.mpr ⟨row, List.mem_filter.mpr ⟨hmem, Option.isNone_iff_eq_none.mpr hgone⟩, rfl⟩

end Changes

section Disturbance
variable {events more : List GapEvent} {beginner : GapRun} {projectionId : MatterProjectionId} {party : GapParty}
  {start : MatterStore}

theorem Disturbed.append (h : Disturbed events beginner projectionId) :
    Disturbed (events ++ more) beginner projectionId := by
  obtain ⟨before, start, after, party, rfl, hother, hwrote⟩ := h
  exact ⟨before, start, after ++ more, party, by simp, hother, mem_append_left _ hwrote⟩

theorem disturbed_of_wrote (hbegan : .began beginner start ∈ events) (hother : party ≠ .repair beginner)
    (hwrote : .wrote party projectionId ∈ more) : Disturbed (events ++ more) beginner projectionId := by
  obtain ⟨before, after, rfl⟩ := append_of_mem hbegan
  exact ⟨before, start, after ++ more, party, by simp, hother, mem_append_right _ hwrote⟩

theorem undisturbed_row {store store' : MatterStore} (hbegan : .began beginner start ∈ events)
    (hother : party ≠ .repair beginner) (hmore : ∀ event ∈ changes party store store', event ∈ more)
    (hrow : row ∈ store'.foundation.projections.rows) (h : ¬ Disturbed (events ++ more) beginner row.projectionId) :
    row ∈ store.foundation.projections.rows ∧ ¬ Disturbed events beginner row.projectionId := by
  refine ⟨?_, fun hdisturbed => h hdisturbed.append⟩
  by_contra hnew
  exact h (disturbed_of_wrote hbegan hother (hmore _ (wrote_of_changed hrow hnew)))

end Disturbance

section Completions
variable {ids : MatterIdentities} {events : List GapEvent}

theorem GapsSettled.append (h : GapsSettled ids events)
    (hlast : ∀ gapRun store, event = .completed gapRun store → ∀ beginner start, .began beginner start ∈ events →
      beginner.operationId = gapRun.operationId →
        ∃ operation reports, store.operations.find gapRun.operationId = some operation ∧
          gapReadOf events gapRun.operationId = some (beginner, reports) ∧
          ∀ projection ∈ store.foundation.projections.rows,
            operation.target = .node projection.fabricId projection.nodeId →
              ¬ Disturbed events beginner projection.projectionId →
                LeftBy (reportFor ids store reports projection) beginner.now
                  (reportedIn start projection.projectionId) projection.state) :
    GapsSettled ids (events ++ [event]) := by
  intro before gapRun store after hsplit
  rcases eq_nil_or_concat after with rfl | ⟨rest, last, rfl⟩
  · obtain ⟨rfl, hevent⟩ := append_inj' hsplit rfl
    exact hlast gapRun store (singleton_inj.mp hevent)
  · have hparts : events ++ [event] = (before ++ .completed gapRun store :: rest) ++ [last] := by
      rw [hsplit, concat_eq_append]
      simp
    obtain ⟨hevents, -⟩ := append_inj' hparts rfl
    exact h before gapRun store rest hevents

theorem GapsSettled.append_open {more : List GapEvent} (h : GapsSettled ids events)
    (hopen : ∀ gapRun store, .completed gapRun store ∉ more) : GapsSettled ids (events ++ more) := by
  induction more using List.reverseRecOn with
  | nil =>
    rw [append_nil]
    exact h
  | append_singleton rest event ih =>
    rw [← append_assoc]
    refine (ih (fun gapRun store hmem => hopen gapRun store (mem_append_left _ hmem))).append ?_
    rintro gapRun store rfl
    exact absurd (mem_append_right _ (mem_singleton.mpr rfl)) (hopen gapRun store)

end Completions

def Awaits (store : MatterStore) (operationId : MatterOperationId) : Prop :=
  ∃ operation, store.operations.find operationId = some operation ∧ AwaitsSubscription operation

def MarkedStale (store : MatterStore) (events : List GapEvent) (start : MatterStore) (gapRun : GapRun)
    (operation : MatterOperation) : Prop :=
  ∀ projection ∈ store.foundation.projections.rows,
    operation.target = .node projection.fabricId projection.nodeId →
      ¬ Disturbed events gapRun projection.projectionId →
        projection.state.freshness = .stale ∧ projection.state.uncertainty = some .reportGap ∧
          projection.state.reported = reportedIn start projection.projectionId

structure Settled (ids : MatterIdentities) (store : MatterStore) (events : List GapEvent) (start : MatterStore)
    (gapRun : GapRun) (operation : MatterOperation) (reports : Option (List MatterAttributeReport)) : Prop where
  described : ∃ fabricId nodeId node, operation.target = .node fabricId nodeId ∧
    store.nodes.find (fabricId, nodeId) = some node
  left : ∀ projection ∈ store.foundation.projections.rows,
    operation.target = .node projection.fabricId projection.nodeId →
      ¬ Disturbed events gapRun projection.projectionId →
        LeftBy (reportFor ids store reports projection) gapRun.now (reportedIn start projection.projectionId)
          projection.state

theorem Settled.keep {ids : MatterIdentities} {store store' : MatterStore} {events events' : List GapEvent}
    {gapRun : GapRun} {operation : MatterOperation} {reports : Option (List MatterAttributeReport)}
    (h : Settled ids store events start gapRun operation reports)
    (hnodes : ∀ key node, store.nodes.find key = some node → store'.nodes.find key = some node)
    (hrows : ∀ row ∈ store'.foundation.projections.rows, ¬ Disturbed events' gapRun row.projectionId →
      row ∈ store.foundation.projections.rows ∧ ¬ Disturbed events gapRun row.projectionId) :
    Settled ids store' events' start gapRun operation reports := by
  obtain ⟨fabricId, nodeId, node, htarget, hnode⟩ := h.described
  refine ⟨⟨fabricId, nodeId, node, htarget, hnodes _ _ hnode⟩, ?_⟩
  intro row hmem hplace hundisturbed
  obtain ⟨hold, hundisturbed'⟩ := hrows row hmem hundisturbed
  have hkey : (fabricId, nodeId) = (row.fabricId, row.nodeId) := by
    rw [htarget] at hplace
    cases hplace
    rfl
  -- the node is described as before, so the same report is looked up
  have hsame : reportFor ids store' reports row = reportFor ids store reports row := by
    unfold reportFor capabilityOf
    rw [← hkey, hnode, hnodes _ _ hnode]
  rw [hsame]
  exact h.left row hold hplace hundisturbed'

structure GapInvariant (ids : MatterIdentities) (state : GapState) : Prop where
  settled : GapsSettled ids state.2
  retired : ∀ operationId, .retired operationId ∈ state.2 → state.1.operations.find operationId = none
  begun : ∀ gapRun start, .began gapRun start ∈ state.2 → .retired gapRun.operationId ∈ state.2 ∨ ∃ operation,
    state.1.operations.find gapRun.operationId = some operation ∧ operation.phase ≠ .requested
  single : ∀ gapRun start gapRun' start', .began gapRun start ∈ state.2 → .began gapRun' start' ∈ state.2 →
    gapRun.operationId = gapRun'.operationId → gapRun = gapRun' ∧ start = start'
  reading : ∀ gapRun start operation, .began gapRun start ∈ state.2 →
    state.1.operations.find gapRun.operationId = some operation → operation.phase = .readingGap →
      MarkedStale state.1 state.2 start gapRun operation
  awaiting : ∀ gapRun start operation, .began gapRun start ∈ state.2 →
    state.1.operations.find gapRun.operationId = some operation → AwaitsSubscription operation →
      ∃ reports, gapReadOf state.2 gapRun.operationId = some (gapRun, reports) ∧
        Settled ids state.1 state.2 start gapRun operation reports

/-- The others neither read the gap for a run nor bring its operation further. -/
structure GapRely (gapRun : GapRun) (state state' : GapState) : Prop where
  operations : ∀ operationId, Newer MatterOperation.revision (state.1.operations.find operationId)
    (state'.1.operations.find operationId) ∨ .retired operationId ∈ state'.2
  nodes : ∀ key node, state.1.nodes.find key = some node → state'.1.nodes.find key = some node
  log : ∀ event ∈ state.2, event ∈ state'.2
  read : ∀ start, .began gapRun start ∈ state.2 →
    gapReadOf state'.2 gapRun.operationId = gapReadOf state.2 gapRun.operationId
  awaiting : ∀ start, .began gapRun start ∈ state.2 → Awaits state'.1 gapRun.operationId →
    Awaits state.1 gapRun.operationId
  projections : ∀ projection' ∈ state'.1.foundation.projections.rows,
    (state.1.nodes.find (projection'.fabricId, projection'.nodeId)).isSome → KeptRow state.1 projection'

theorem GapRely.refl (gapRun : GapRun) (state : GapState) : GapRely gapRun state state :=
  ⟨fun _ => Or.inl (Newer.refl _), fun _ _ h => h, fun _ h => h, fun _ _ => rfl, fun _ _ h => h,
    fun _ hmem _ => KeptRow.of_mem hmem⟩

theorem GapRely.trans {gapRun : GapRun} {first second third : GapState} (h : GapRely gapRun first second)
    (h' : GapRely gapRun second third) : GapRely gapRun first third where
  operations := by
    intro operationId
    rcases h.operations operationId with hnewer | hretired
    · exact (h'.operations operationId).imp hnewer.trans id
    · exact Or.inr (h'.log _ hretired)
  nodes := fun key node hnode => h'.nodes key node (h.nodes key node hnode)
  log := fun event hmem => h'.log event (h.log event hmem)
  read := fun start hbegan => (h'.read start (h.log _ hbegan)).trans (h.read start hbegan)
  awaiting := fun start hbegan hawaits => h.awaiting start hbegan (h'.awaiting start (h.log _ hbegan) hawaits)
  projections := by
    intro projection'' hmem hplaced
    obtain ⟨node, hnode⟩ := Option.isSome_iff_exists.mp hplaced
    have hplaced' : (second.1.nodes.find (projection''.fabricId, projection''.nodeId)).isSome :=
      Option.isSome_iff_exists.mpr ⟨node, h.nodes _ _ hnode⟩
    obtain ⟨projection', hfound, hfabric, hnodeId, hkept⟩ := h'.projections projection'' hmem hplaced'
    obtain ⟨hmem', hid⟩ := Table.find_eq_some.mp hfound
    have hrow := h.projections projection' hmem' (by rw [hfabric, hnodeId]; exact hplaced)
    rcases hkept with rfl | hlater
    · exact hrow
    · exact hrow.over hid hfabric hnodeId hlater

structure GapStep (ids : MatterIdentities) (gapRun : GapRun) (state state' : GapState) : Prop where
  invariant : GapInvariant ids state'
  others : ∀ other, other ≠ gapRun → GapRely other state state'

def movedEvents (gapRun : GapRun) (moved : MatterOperation) (store store' : MatterStore) : List GapEvent :=
  (match moved.phase with
    | .readingGap => [.began gapRun store]
    | .completed => [.completed gapRun store']
    | _ => []) ++ changes (.repair gapRun) store store'

section Steps
variable {ids : MatterIdentities} {gapRun : GapRun} {state : GapState} {store' : MatterStore}
  {operation moved : MatterOperation} {projections : List MatterSubscriptionProjectionWrite}

theorem movedEvents_unread : Unread (movedEvents gapRun moved state.1 store') := by
  intro other reports hmem
  rcases mem_append.mp hmem with hmem | hmem
  · split at hmem <;> simp at hmem
  · exact changes_unread other reports hmem

theorem began_moved (h : .began beginner start ∈ movedEvents gapRun moved state.1 store') :
    (beginner = gapRun ∧ start = state.1) ∧ moved.phase = .readingGap := by
  rcases mem_append.mp h with hmem | hmem
  · split at hmem
    next hphase =>
      cases mem_singleton.mp hmem
      exact ⟨⟨rfl, rfl⟩, hphase⟩
    · cases mem_singleton.mp hmem
    · cases hmem
  · obtain ⟨projectionId, hevent⟩ := mem_changes hmem
    cases hevent

theorem retired_moved (h : .retired operationId ∈ state.2 ++
    movedEvents gapRun moved state.1 store') : .retired operationId ∈ state.2 := by
  rcases mem_append.mp h with hmem | hmem
  · exact hmem
  · rcases mem_append.mp hmem with hmem | hmem
    · split at hmem <;> simp at hmem
    · obtain ⟨projectionId, hevent⟩ := mem_changes hmem
      cases hevent

theorem same_step (h : GapInvariant ids state)
    (hoperations : ∀ operationId, store'.operations.find operationId = state.1.operations.find operationId)
    (hnodes : store'.nodes = state.1.nodes)
    (hprojections : store'.foundation.projections = state.1.foundation.projections) :
    GapStep ids gapRun state (store', state.2) := by
  refine ⟨⟨h.settled, ?_, ?_, h.single, ?_, ?_⟩, ?_⟩
  · intro operationId hretired
    rw [hoperations]
    exact h.retired operationId hretired
  · intro beginner start hbegan
    rw [hoperations]
    exact h.begun beginner start hbegan
  · intro beginner start row hbegan hrow hreading projection hmem
    rw [hoperations] at hrow
    rw [hprojections] at hmem
    exact h.reading beginner start row hbegan hrow hreading projection hmem
  · intro beginner start row hbegan hrow hawaits
    rw [hoperations] at hrow
    obtain ⟨reports, hread, hsettled⟩ := h.awaiting beginner start row hbegan hrow hawaits
    refine ⟨reports, hread, hsettled.keep (fun key node hnode => ?_) (fun projection hmem hundisturbed => ?_)⟩
    · rw [hnodes]
      exact hnode
    · rw [hprojections] at hmem
      exact ⟨hmem, hundisturbed⟩
  · intro other _
    refine ⟨fun operationId => ?_, fun key node hnode => ?_, fun _ hmem => hmem, fun _ _ => rfl, ?_, ?_⟩
    · rw [hoperations]
      exact Or.inl (Newer.refl _)
    · rw [hnodes]
      exact hnode
    · rintro start _ ⟨row, hrow, hawaits⟩
      rw [hoperations] at hrow
      exact ⟨row, hrow, hawaits⟩
    · intro projection' hmem _
      rw [hprojections] at hmem
      exact KeptRow.of_mem hmem

theorem MovedTo.elsewhere {before : MatterOperation} (h : MovedTo state.1 store' before moved)
    (hid : moved.id = gapRun.operationId) {row : MatterOperation}
    (hother : operationId ≠ gapRun.operationId) (hrow : store'.operations.find operationId = some row) :
    state.1.operations.find operationId = some row := by
  rw [h.find, if_neg (by rw [hid]; exact Ne.symm hother)] at hrow
  exact hrow

theorem undisturbed_commit (hbegan : .began beginner start ∈ state.2)
    (hother : beginner ≠ gapRun) (hrow : row ∈ store'.foundation.projections.rows)
    (h : ¬ Disturbed (state.2 ++ movedEvents gapRun moved state.1 store') beginner row.projectionId) :
    row ∈ state.1.foundation.projections.rows ∧ ¬ Disturbed state.2 beginner row.projectionId :=
  undisturbed_row hbegan (fun hsame => hother (GapParty.repair.inj hsame).symm)
    (fun _ hmem => mem_append_right _ hmem) hrow h

theorem began_commit (h : .began beginner start ∈ state.2 ++ movedEvents gapRun moved state.1 store') :
    .began beginner start ∈ state.2 ∨ (beginner = gapRun ∧ start = state.1) ∧ moved.phase = .readingGap := by
  rcases mem_append.mp h with hmem | hmem
  · exact Or.inl hmem
  · exact Or.inr (began_moved hmem)

structure MovesOn (ids : MatterIdentities) (gapRun : GapRun) (moved : MatterOperation) (state : GapState)
    (store' : MatterStore) : Prop where
  phase : moved.phase ≠ .requested
  reading : moved.phase = .readingGap →
    (∀ earlier start, .began earlier start ∈ state.2 → earlier.operationId ≠ gapRun.operationId) ∧
      MarkedStale store' (state.2 ++ movedEvents gapRun moved state.1 store') state.1 gapRun moved
  awaiting : AwaitsSubscription moved → ∃ start reports, .began gapRun start ∈ state.2 ∧
    gapReadOf state.2 gapRun.operationId = some (gapRun, reports) ∧
      Settled ids store' (state.2 ++ movedEvents gapRun moved state.1 store') start gapRun moved reports
  completed : moved.phase = .completed → ∀ beginner start, .began beginner start ∈ state.2 →
    beginner.operationId = gapRun.operationId → ∃ reports,
      gapReadOf state.2 gapRun.operationId = some (beginner, reports) ∧
        Settled ids store' state.2 start beginner moved reports

theorem commit_settled (h : GapsSettled ids state.2)
    (hfound : store'.operations.find gapRun.operationId = some moved)
    (hmoves : MovesOn ids gapRun moved state store') :
    GapsSettled ids (state.2 ++ movedEvents gapRun moved state.1 store') := by
  have hchanges : ∀ other store, .completed other store ∉ changes (.repair gapRun) state.1 store' := by
    intro other store hmem
    obtain ⟨projectionId, hevent⟩ := mem_changes hmem
    cases hevent
  unfold movedEvents
  rw [← append_assoc]
  refine GapsSettled.append_open ?_ hchanges
  split
  · exact h.append_open (fun _ _ hmem => nomatch mem_singleton.mp hmem)
  next hphase =>
    refine h.append ?_
    rintro _ _ ⟨⟩ beginner start hbegan hsame
    obtain ⟨reports, hread, hsettled⟩ := hmoves.completed hphase beginner start hbegan hsame
    exact ⟨moved, reports, hfound, hread, hsettled.left⟩
  · exact h.append_open (fun _ _ hmem => nomatch hmem)

/-- The commit of a repair writes the projections of its node and moves its operation. -/
theorem commit_step {before : MatterOperation} (h : GapInvariant ids state) (hid : moved.id = gapRun.operationId)
    (hmovedTo : MovedTo state.1 store' before moved) (hwrote : RepairWrote state.1 store' moved projections)
    (hmoves : MovesOn ids gapRun moved state store') :
    GapStep ids gapRun state (store', state.2 ++ movedEvents gapRun moved state.1 store') := by
  have hfound : store'.operations.find gapRun.operationId = some moved := by
    rw [← hid]
    exact hmovedTo.find_moved
  have hunread : ∀ operationId, gapReadOf (state.2 ++ movedEvents gapRun moved state.1 store') operationId =
      gapReadOf state.2 operationId := gapReadOf_append movedEvents_unread
  have hnodes : ∀ key node, state.1.nodes.find key = some node → store'.nodes.find key = some node := by
    intro key node hnode
    rw [hwrote.nodes]
    exact hnode
  refine ⟨⟨commit_settled h.settled hfound hmoves, ?_, ?_, ?_, ?_, ?_⟩, ?_⟩
  · -- the fields of the invariant in order, then what the other runs rely on
    intro operationId hmem
    have hnone := h.retired operationId (retired_moved hmem)
    rw [hmovedTo.find, if_neg]
    · exact hnone
    · rintro rfl
      obtain ⟨current, hcurrent, -⟩ := hmovedTo.current
      rw [hnone] at hcurrent
      cases hcurrent
  · intro beginner start hmem
    rcases began_commit hmem with hmem | ⟨⟨rfl, -⟩, -⟩
    · refine (h.begun beginner start hmem).imp (fun hretired => mem_append_left _ hretired) ?_
      rintro ⟨row, hrow, hrowPhase⟩
      exact hmovedTo.staysBegun hmoves.phase _ row hrow hrowPhase
    · exact Or.inr ⟨moved, hfound, hmoves.phase⟩
  · intro first start second start' hfirst hsecond hsame
    rcases began_commit hfirst with hearlier | ⟨⟨hmine, hstart⟩, hphase⟩
    · rcases began_commit hsecond with hsecond | ⟨⟨rfl, -⟩, hphase⟩
      · exact h.single first start second start' hearlier hsecond hsame
      · exact absurd hsame ((hmoves.reading hphase).1 first start hearlier)
    · -- a run that begins reads its gap first, and no other has begun its operation
      rw [hmine] at hsame ⊢
      rcases began_commit hsecond with hsecond | ⟨⟨rfl, rfl⟩, -⟩
      · exact absurd hsame.symm ((hmoves.reading hphase).1 second start' hsecond)
      · exact ⟨rfl, hstart⟩
  · intro beginner start row hmem hrow hrowReading
    by_cases hmine : beginner.operationId = gapRun.operationId
    · rw [hmine, hfound] at hrow
      cases hrow
      obtain ⟨hfresh, hstale⟩ := hmoves.reading hrowReading
      rcases began_commit hmem with hmem | ⟨⟨rfl, rfl⟩, -⟩
      · exact absurd hmine (hfresh beginner start hmem)
      · exact hstale
    · rcases began_commit hmem with hmem | ⟨⟨rfl, -⟩, -⟩
      · intro projection hprojection hplace hundisturbed
        obtain ⟨hold, hundisturbed'⟩ := undisturbed_commit hmem
          (fun hsame => hmine (congrArg GapRun.operationId hsame)) hprojection hundisturbed
        exact h.reading beginner start row hmem (MovedTo.elsewhere hmovedTo hid hmine hrow) hrowReading projection
          hold hplace hundisturbed'
      · exact absurd rfl hmine
  · intro beginner start row hmem hrow hrowAwaits
    rw [hunread]
    by_cases hmine : beginner.operationId = gapRun.operationId
    · rw [hmine, hfound] at hrow
      cases hrow
      obtain ⟨start', reports, hknown, hread, hsettled⟩ := hmoves.awaiting hrowAwaits
      have hphase : moved.phase = .subscribing := hrowAwaits.2
      -- an operation has one beginner, which is this run
      have hbeginner : beginner = gapRun ∧ start = start' := by
        rcases began_commit hmem with hmem | ⟨-, hreading⟩
        · exact h.single beginner start gapRun start' hmem hknown hmine
        · rw [hphase] at hreading
          cases hreading
      rw [hbeginner.1, hbeginner.2]
      exact ⟨reports, hread, hsettled⟩
    · rcases began_commit hmem with hmem | ⟨⟨rfl, -⟩, -⟩
      · obtain ⟨reports, hread, hsettled⟩ :=
          h.awaiting beginner start row hmem (MovedTo.elsewhere hmovedTo hid hmine hrow) hrowAwaits
        exact ⟨reports, hread, hsettled.keep hnodes (fun projection hprojection => undisturbed_commit hmem
          (fun hsame => hmine (congrArg GapRun.operationId hsame)) hprojection)⟩
      · exact absurd rfl hmine
  · intro other hother
    refine ⟨fun operationId => Or.inl (hmovedTo.newer_find operationId), hnodes, fun _ hmem => mem_append_left _ hmem,
      fun _ _ => hunread _, ?_, fun projection' hmem _ => (hwrote.kept projection' hmem).1⟩
    rintro start hknown ⟨row, hrow, hrowAwaits⟩
    by_cases hmine : other.operationId = gapRun.operationId
    · -- only one run begins an operation, and this one brings it to its subscription
      rw [hmine, hfound] at hrow
      cases hrow
      obtain ⟨start', -, hbegan, -⟩ := hmoves.awaiting hrowAwaits
      exact absurd (h.single other start gapRun start' hknown hbegan hmine).1 hother
    · exact ⟨row, MovedTo.elsewhere hmovedTo hid hmine hrow, hrowAwaits⟩

/-- The gap read of a repair that has not read its gap before. -/
theorem read_step (h : GapInvariant ids state) (hknown : .began gapRun start ∈ state.2)
    (hwaiting : ¬ Awaits state.1 gapRun.operationId) (reports : Option (List MatterAttributeReport)) :
    GapStep ids gapRun state (state.1, state.2 ++ [.read gapRun reports]) := by
  have hold : ∀ beginner start, .began beginner start ∈ state.2 ++ [.read gapRun reports] →
      .began beginner start ∈ state.2 := by
    intro beginner start hmem
    rcases mem_append.mp hmem with hmem | hmem
    · exact hmem
    · cases mem_singleton.mp hmem
  have hunread : ∀ operationId, operationId ≠ gapRun.operationId →
      gapReadOf (state.2 ++ [.read gapRun reports]) operationId = gapReadOf state.2 operationId := by
    intro operationId hother
    rw [gapReadOf_read]
    exact if_neg (Ne.symm hother)
  refine ⟨⟨h.settled.append_open (fun _ _ hmem => nomatch mem_singleton.mp hmem), ?_, ?_,
    fun first start second start' hfirst hsecond =>
      h.single first start second start' (hold first start hfirst) (hold second start' hsecond), ?_, ?_⟩, ?_⟩
  · intro operationId hmem
    rcases mem_append.mp hmem with hmem | hmem
    · exact h.retired operationId hmem
    · cases mem_singleton.mp hmem
  · intro beginner start hmem
    exact (h.begun beginner start (hold beginner start hmem)).imp (fun hretired => mem_append_left _ hretired) id
  · intro beginner start row hmem hrow hreading projection hprojection hplace hundisturbed
    exact h.reading beginner start row (hold beginner start hmem) hrow hreading projection hprojection hplace
      (fun hdisturbed => hundisturbed hdisturbed.append)
  · intro beginner start row hmem hrow hawaits
    have hother : beginner.operationId ≠ gapRun.operationId := by
      intro hmine
      rw [hmine] at hrow
      exact hwaiting ⟨row, hrow, hawaits⟩
    rw [hunread _ hother]
    obtain ⟨reports, hread, hsettled⟩ := h.awaiting beginner start row (hold beginner start hmem) hrow hawaits
    exact ⟨reports, hread, hsettled.keep (fun _ _ hnode => hnode)
      (fun projection hprojection hundisturbed =>
        ⟨hprojection, fun hdisturbed => hundisturbed hdisturbed.append⟩)⟩
  · intro other hother
    refine ⟨fun _ => Or.inl (Newer.refl _), fun _ _ hnode => hnode, fun _ hmem => mem_append_left _ hmem, ?_,
      fun _ _ hawaits => hawaits, fun _ hmem _ => KeptRow.of_mem hmem⟩
    intro start' hotherBegan
    apply hunread
    intro hmine
    exact hother (h.single other start' gapRun start hotherBegan hknown hmine).1

/-- What other workflows do is seen as removals and changes by others. -/
theorem system_step (number : ℕ) (h : GapInvariant ids state) (hrest : SystemStep state store') :
    GapInvariant ids (store', state.2 ++ (removals state.1 store' ++ changes (.other number) state.1 store')) ∧
      ∀ gapRun, GapRely gapRun state
        (store', state.2 ++ (removals state.1 store' ++ changes (.other number) state.1 store')) := by
  have hadded : ∀ event ∈ removals state.1 store' ++ changes (.other number) state.1 store',
      (∃ operationId, event = .retired operationId ∧ store'.operations.find operationId = none) ∨
        ∃ projectionId, event = .wrote (.other number) projectionId :=
    fun event hmem => (mem_append.mp hmem).imp mem_removals mem_changes
  have hold : ∀ beginner start,
      .began beginner start ∈ state.2 ++ (removals state.1 store' ++ changes (.other number) state.1 store') →
        .began beginner start ∈ state.2 := by
    intro beginner start hmem
    rcases mem_append.mp hmem with hmem | hmem
    · exact hmem
    · rcases hadded _ hmem with ⟨_, hevent, -⟩ | ⟨_, hevent⟩ <;> cases hevent
  have hunread : ∀ operationId, gapReadOf (state.2 ++ (removals state.1 store' ++
      changes (.other number) state.1 store')) operationId = gapReadOf state.2 operationId := by
    refine gapReadOf_append (fun gapRun reports hmem => ?_)
    rcases hadded _ hmem with ⟨_, hevent, -⟩ | ⟨_, hevent⟩ <;> cases hevent
  have hframe : ∀ beginner start, .began beginner start ∈ state.2 → ∀ row ∈ store'.foundation.projections.rows,
      ¬ Disturbed (state.2 ++ (removals state.1 store' ++ changes (.other number) state.1 store')) beginner
        row.projectionId →
        row ∈ state.1.foundation.projections.rows ∧ ¬ Disturbed state.2 beginner row.projectionId := by
    intro beginner start hbegan row hrow
    have hother : GapParty.other number ≠ .repair beginner := fun hsame => nomatch hsame
    exact undisturbed_row hbegan hother (fun _ hmem => mem_append_right _ hmem) hrow
  refine ⟨⟨h.settled.append_open ?_, ?_, ?_, fun first start second start' hfirst hsecond =>
    h.single first start second start' (hold first start hfirst) (hold second start' hsecond), ?_, ?_⟩, ?_⟩
  · intro gapRun store hmem
    rcases hadded _ hmem with ⟨_, hevent, -⟩ | ⟨_, hevent⟩ <;> cases hevent
  · intro operationId hmem
    rcases mem_append.mp hmem with hmem | hmem
    · cases hrow : store'.operations.find operationId with
      | none => rfl
      | some row => exact absurd hmem (hrest.created operationId row (h.retired operationId hmem) hrow)
    · rcases hadded _ hmem with ⟨_, hevent, hnone⟩ | ⟨_, hevent⟩
      · cases hevent
        exact hnone
      · cases hevent
  · intro beginner start hmem
    rcases h.begun beginner start (hold beginner start hmem) with hretired | ⟨row, hrow, hphase⟩
    · exact Or.inl (mem_append_left _ hretired)
    · cases hrow' : store'.operations.find beginner.operationId with
      | none => exact Or.inl (mem_append_right _ (mem_append_left _ (retired_of_removed hrow hrow')))
      | some row' => exact Or.inr ⟨row', rfl, hrest.begun _ row row' hrow hphase hrow'⟩
  · intro beginner start row hmem hrow hreading projection hprojection hplace hundisturbed
    have hbegan := hold beginner start hmem
    obtain ⟨hprojection', hundisturbed'⟩ := hframe beginner start hbegan projection hprojection hundisturbed
    exact h.reading beginner start row hbegan (hrest.awaiting _ row hrow (Or.inl hreading)) hreading projection
      hprojection' hplace hundisturbed'
  · intro beginner start row hmem hrow hawaits
    have hbegan := hold beginner start hmem
    obtain ⟨reports, hread, hsettled⟩ :=
      h.awaiting beginner start row hbegan (hrest.awaiting _ row hrow (Or.inr hawaits)) hawaits
    rw [hunread]
    exact ⟨reports, hread, hsettled.keep hrest.nodes (hframe beginner start hbegan)⟩
  · intro gapRun
    refine ⟨?_, hrest.nodes, fun _ hmem => mem_append_left _ hmem, fun _ _ => hunread _, ?_, hrest.projections⟩
    · intro operationId
      cases hrow : state.1.operations.find operationId with
      | none => exact Or.inl (fun row h => nomatch h)
      | some row =>
        cases hrow' : store'.operations.find operationId with
        | none => exact Or.inr (mem_append_right _ (mem_append_left _ (retired_of_removed hrow hrow')))
        | some row' =>
          refine Or.inl (fun known hknown => ⟨row', rfl, ?_⟩)
          cases hknown
          exact hrest.operations operationId row row' hrow hrow'
    · rintro start _ ⟨row, hrow, hawaits⟩
      exact ⟨row, hrest.awaiting _ row hrow (Or.inr hawaits), hawaits⟩

end Steps

end MatterSubscriptionRepair
end HomeMagic
