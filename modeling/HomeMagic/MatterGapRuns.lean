import HomeMagic.MatterGapSteps

/-! Runs of subscription repair, with what each call knows of the gap. -/
namespace HomeMagic
open List

variable {reports : Option (List MatterAttributeReport)} {write : MatterSubscriptionProjectionWrite}
  {c : MatterCall} {error : MatterControllerError} {fabricId : MatterFabricId} {installationId : InstallationId}
  {loaded : List StoredMatterProjection} {nodeId : MatterNodeId} {subscription : StoredMatterSubscription}

variable {record : MatterNodeInventoryRecord} {store' : MatterStore} {events : List GapEvent}

namespace MatterSubscriptionRepair

open Fallible MatterNodeWorkflow

variable {state' : GapState}

section Rules
variable {ids : MatterIdentities} {gapRun : GapRun} {ε ε' α β : Type} {state : GapState}

def GapSafe (ids : MatterIdentities) (gapRun : GapRun) (x : MatterM ε α) (Q : α → GapState → Prop)
    (state : GapState) : Prop :=
  x.run.Guards (MatterStore.handler.tracking (observeGap gapRun)) (fun _ _ => True) (GapRely gapRun)
    (fun state state' => ∀ other, other ≠ gapRun → GapRely other state state') (GapInvariant ids) (OnOk Q) state

theorem GapSafe.bind {x : MatterM ε α} {f : α → MatterM ε β} {P : α → GapState → Prop} {Q : β → GapState → Prop}
    (hx : GapSafe ids gapRun x P state) (hs : GapInvariant ids state)
    (hf : ∀ a state, GapInvariant ids state → P a state → GapSafe ids gapRun (f a) Q state) :
    GapSafe ids gapRun (x >>= f) Q state := by
  apply guards_bind (GapRely.refl gapRun) hs
  apply Program.Guards.mono hx
  intro result state' hs' hresult a ha
  exact hf a state' hs' (hresult a ha)

theorem gapSafe_pure {a : α} {Q : α → GapState → Prop} (h : ∀ state', GapRely gapRun state state' → Q a state') :
    GapSafe ids gapRun (pure a : MatterM ε α) Q state :=
  guards_pure (fun state' hr _ => h state' hr)

theorem gapSafe_throw {error : ε} {Q : α → GapState → Prop} :
    GapSafe ids gapRun (throw error : MatterM ε α) Q state := guards_throw

theorem GapSafe.and {x : MatterM ε α} {Q Q' : α → GapState → Prop} (h : GapSafe ids gapRun x Q state)
    (h' : GapSafe ids gapRun x Q' state) : GapSafe ids gapRun x (fun a state => Q a state ∧ Q' a state) state :=
  (Program.Guards.and h h').mono (fun _ _ _ hboth a ha => ⟨hboth.1 a ha, hboth.2 a ha⟩)

def Silent : MatterCall → Prop
  | .newId | .actorSecurity _ | .administrationOperation _ | .nodeInventoryItem _ _ _ | .subscribe _ _ => True
  | _ => False

theorem silent_same (hsilent : Silent c) {r : c.Response}
    (h : MatterStore.handler.tracking (observeGap gapRun) c state r state') :
    state' = state ∧ MatterStore.handler c state.1 r state.1 := by
  obtain ⟨hstore, hevents⟩ := h
  have hcall : state'.1 = state.1 ∧ callEvents gapRun c r state.1 state'.1 = [] := by
    cases c with
    | newId | actorSecurity actorId => exact ⟨hstore, rfl⟩
    | administrationOperation operationId | nodeInventoryItem installationId fabricId nodeId =>
      exact ⟨hstore.1, rfl⟩
    | subscribe operationId request => exact ⟨hstore, rfl⟩
    | _ => exact hsilent.elim
  have hnone : observeGap gapRun c r state.1 state'.1 = [] := by
    unfold observeGap
    rw [hcall.2, hcall.1, changes_same rfl]
    rfl
  rw [hnone, append_nil] at hevents
  have heq : state' = state := Prod.ext hcall.1 hevents
  rw [heq] at hstore
  exact ⟨heq, hstore⟩

theorem gapSafe_silent {x : MatterM ε α} (hcalls : x.run.Calls Silent) {K : GapState → Prop}
    (hstable : ∀ state state', GapRely gapRun state state' → K state → K state') (hk : K state) :
    GapSafe ids gapRun x (fun _ => K) state := by
  refine Program.Guards.mono (Program.Guards.of_silent (fun c s r s' hc hh => (silent_same hc hh).1)
    (fun s other _ => GapRely.refl other s) hstable hcalls hk) ?_
  exact fun _ _ _ hk _ _ => hk

theorem guards_silent (hsilent : Silent c) {P : c.Response → GapState → Prop}
    (h : ∀ state', GapRely gapRun state state' → ∀ r, MatterStore.handler c state'.1 r state'.1 → P r state')
    (hstable : ∀ r state state', GapRely gapRun state state' → P r state → P r state') :
    c.perform.Guards (MatterStore.handler.tracking (observeGap gapRun)) (fun _ _ => True)
      (GapRely gapRun) (fun state state' => ∀ other, other ≠ gapRun → GapRely other state state') (GapInvariant ids) P
      state := by
  intro state' hr hi _ r state'' hhandler
  obtain ⟨rfl, hhandled⟩ := silent_same hsilent hhandler
  refine ⟨hi, fun other _ => GapRely.refl other _, ?_⟩
  intro state''' hr' _
  exact hstable r _ _ hr' (h _ hr r hhandled)

theorem gapSafe_commit {commit : MatterCommit} {wrap : StorageError → ε} {Q : GapState → Prop}
    (hs : GapInvariant ids state) (hstable : ∀ state state', GapRely gapRun state state' → Q state → Q state')
    (h : ∀ state' store', GapRely gapRun state state' → GapInvariant ids state' →
      state'.1.apply commit = .ok store' →
      ∃ events, observeGap gapRun (.commit commit) (.ok ()) state'.1 store' = events ∧
        GapStep ids gapRun state' (store', state'.2 ++ events) ∧ Q (store', state'.2 ++ events)) :
    GapSafe ids gapRun (Fallible.attempt wrap (MatterCall.perform (.commit commit)) : MatterM ε Unit) (fun _ => Q)
      state := by
  refine guards_attempt (GapRely.refl gapRun) hs (fun _ state state' hr _ => hstable state state' hr) ?_
  intro state' hr hi _ r state'' hhandler
  obtain ⟨hstore, hevents⟩ := hhandler
  rcases hstore with ⟨value, hwritten, hresponse⟩ | ⟨hsame, error, hresponse⟩
  · have happly := MatterStore.map_unit_ok hwritten
    obtain ⟨events, hobserved, hstep, hq⟩ := h state' state''.1 hr hi happly
    cases hresponse
    rw [hobserved] at hevents
    have heq : state'' = (state''.1, state'.2 ++ events) := Prod.ext rfl hevents
    rw [heq]
    refine ⟨hstep.invariant, hstep.others, ?_⟩
    intro state''' hr' _ _ _
    exact hstable _ _ hr' hq
  · cases hresponse
    have hnone : observeGap gapRun (.commit commit) (.error error) state'.1 state''.1 = [] := by
      unfold observeGap
      rw [hsame, changes_same rfl, append_nil]
      cases commit <;> rfl
    rw [hnone, append_nil] at hevents
    obtain rfl : state'' = state' := Prod.ext hsame hevents
    refine ⟨hi, fun other _ => GapRely.refl other _, ?_⟩
    intro _ _ _ _ hok
    cases hok

end Rules

section Loading
variable {ids : MatterIdentities} {gapRun : GapRun} {state : GapState} {actorId : ActorId}
  {operation : MatterOperation}

structure HeldBy (gapRun : GapRun) (operation : MatterOperation) (state : GapState) : Prop where
  stored : Newer MatterOperation.revision (some operation) (state.1.operations.find operation.id) ∨
    .retired operation.id ∈ state.2
  id : operation.id = gapRun.operationId

theorem HeldBy.stable (h : HeldBy gapRun operation state)
    (hrely : GapRely gapRun state state') : HeldBy gapRun operation state' := by
  refine ⟨?_, h.id⟩
  rcases h.stored with hnewer | hretired
  · exact (hrely.operations operation.id).imp hnewer.trans (fun hretired => hretired)
  · exact Or.inr (hrely.log _ hretired)

theorem HeldBy.found {moved : MatterOperation} (h : HeldBy gapRun operation state)
    (hi : GapInvariant ids state) (hmovedTo : MovedTo state.1 store' operation moved) (hid : moved.id = operation.id) :
    state.1.operations.find operation.id = some operation := by
  obtain ⟨row, hrow, hrevision⟩ := hmovedTo.current
  rw [hid] at hrow
  rcases h.stored with hnewer | hretired
  · obtain rfl := hnewer.current hrow hrevision
    exact hrow
  · rw [hi.retired _ hretired] at hrow
    cases hrow

structure Surveyed (operation : MatterOperation) (record : MatterNodeInventoryRecord) (state : GapState) : Prop where
  node : ∃ fabricId nodeId, operation.target = .node fabricId nodeId ∧
    state.1.nodes.find (fabricId, nodeId) = some record.node
  distinct : (record.projections.map StoredMatterProjection.projectionId).Nodup
  rows : ∀ projection ∈ state.1.foundation.projections.rows,
    operation.target = .node projection.fabricId projection.nodeId →
      ∃ loaded ∈ record.projections, loaded.projectionId = projection.projectionId ∧
        (projection = loaded ∨ loaded.revision < projection.revision)

theorem Surveyed.stable (h : Surveyed operation record state) (hrely : GapRely gapRun state state') :
    Surveyed operation record state' := by
  obtain ⟨fabricId, nodeId, htarget, hnode⟩ := h.node
  refine ⟨⟨fabricId, nodeId, htarget, hrely.nodes _ _ hnode⟩, h.distinct, ?_⟩
  intro projection' hmem hplace
  have hplaced : (state.1.nodes.find (projection'.fabricId, projection'.nodeId)).isSome := by
    rw [htarget] at hplace
    cases hplace
    exact Option.isSome_iff_exists.mpr ⟨record.node, hnode⟩
  obtain ⟨projection, hprojection, hfabric, hnodeId, hkept⟩ := hrely.projections projection' hmem hplaced
  obtain ⟨hmem', hid⟩ := Table.find_eq_some.mp hprojection
  obtain ⟨loaded, hloaded, hloadedId, hlater⟩ :=
    h.rows projection hmem' (by rw [hfabric, hnodeId]; exact hplace)
  refine ⟨loaded, hloaded, hloadedId.trans hid, ?_⟩
  rcases hkept with rfl | hlt
  · exact hlater
  · rcases hlater with rfl | hlt'
    · exact Or.inr hlt
    · exact Or.inr (hlt'.trans hlt)

theorem surveyed_of_loaded (htarget : operation.target = .node fabricId nodeId)
    (h : state.1.nodeInventoryItem installationId fabricId nodeId = .ok (some record)) :
    Surveyed operation record state := by
  obtain ⟨hnode, hprojections, -⟩ := nodeInventoryItem_ok h
  refine ⟨⟨fabricId, nodeId, htarget, hnode⟩, ?_, ?_⟩
  · rw [hprojections]
    exact Table.nodup_page _ _ _ _
  · intro projection hmem hplace
    rw [htarget] at hplace
    cases hplace
    have hloaded : projection ∈ record.projections := by
      rw [hprojections]
      exact Table.mem_page_of_count_le countP_le_length hmem (by simp)
    exact ⟨projection, hloaded, rfl, Or.inl rfl⟩

def StableFor (gapRun : GapRun) (K : GapState → Prop) : Prop :=
  ∀ state state', GapRely gapRun state state' → K state → K state'

theorem nodeInventoryItem_gapSafe (hs : GapInvariant ids state) (hheld : HeldBy gapRun operation state)
    (htarget : operation.target = .node fabricId nodeId) :
    GapSafe ids gapRun
      (attempt .repository (MatterCall.perform (.nodeInventoryItem installationId fabricId nodeId)) :
        RepairM (Option MatterNodeInventoryRecord))
      (fun found state => ∀ record, found = some record → HeldBy gapRun operation state ∧
        Surveyed operation record state) state := by
  have hstable : ∀ (found : Option MatterNodeInventoryRecord) (state state' : GapState),
      GapRely gapRun state state' → (∀ record, found = some record → HeldBy gapRun operation state ∧
        Surveyed operation record state) →
      ∀ record, found = some record → HeldBy gapRun operation state' ∧ Surveyed operation record state' := by
    intro found state state' hr h record hfound
    obtain ⟨hheld, hsurveyed⟩ := h record hfound
    exact ⟨hheld.stable hr, hsurveyed.stable hr⟩
  refine guards_attempt (GapRely.refl gapRun) hs (fun found state state' hr _ => hstable found state state' hr) ?_
  refine guards_silent (c := .nodeInventoryItem installationId fabricId nodeId) trivial ?_ ?_
  · intro state' hr r hhandler found hok record hfound
    cases hok
    rcases hhandler.2 with hread | ⟨error, herror⟩
    · rw [hfound] at hread
      exact ⟨hheld.stable hr, surveyed_of_loaded htarget hread.symm⟩
    · cases herror
  · intro r state state' hr h found hok
    exact hstable found state state' hr (h found hok)

theorem inventory_gapSafe {K : GapState → Prop} (hs : GapInvariant ids state)
    (hheld : HeldBy gapRun operation state) (hstable : StableFor gapRun K) (hk : K state) :
    GapSafe ids gapRun (inventory actorId operation)
      (fun found state => (HeldBy gapRun operation state ∧ Surveyed operation found.1 state) ∧ K state) state := by
  refine GapSafe.and ?_
    (gapSafe_silent (inventory_calls (fun _ => trivial) (fun _ _ _ => trivial) actorId operation) hstable hk)
  unfold inventory
  split
  next fabricId nodeId htarget =>
    refine GapSafe.bind (P := fun _ => HeldBy gapRun operation)
      (gapSafe_silent ?_ (fun _ _ hr h => HeldBy.stable h hr) hheld) hs ?_
    · exact calls_attempt (authorizeInstallationAction_calls (fun _ => trivial) actorId _)
    · intro installationId state hs hheld
      refine GapSafe.bind (nodeInventoryItem_gapSafe hs hheld htarget) hs ?_
      intro found state _ hfound
      cases found with
      | none => exact gapSafe_throw
      | some record =>
        simp only
        split
        · exact gapSafe_throw
        · refine gapSafe_pure (fun state' hr => ?_)
          obtain ⟨hheld, hsurveyed⟩ := hfound record rfl
          exact ⟨hheld.stable hr, hsurveyed.stable hr⟩
  · exact gapSafe_throw

theorem ownedOperation_gapSafe {security : ActorSecurity} (hs : GapInvariant ids state) :
    GapSafe ids gapRun (MatterAdministration.ownedOperation security gapRun.operationId)
      (fun found state => HeldBy gapRun found.1 state) state := by
  have hload : GapSafe ids gapRun
      (attempt .repository (MatterCall.perform (.administrationOperation gapRun.operationId)) :
        MatterM MatterAdministrationError (Option (MatterOperation × MatterOperationBinding)))
      (fun found state => ∀ row, found = some row → HeldBy gapRun row.1 state) state := by
    refine guards_attempt (GapRely.refl gapRun) hs
      (fun found state state' hr _ h row hrow => (h row hrow).stable hr) ?_
    refine guards_silent (c := .administrationOperation gapRun.operationId) trivial ?_ ?_
    · intro state' _ r hhandler found hok row hrow
      cases hok
      rcases hhandler.2 with hread | ⟨error, herror⟩
      · rw [hrow] at hread
        have hfind := administrationOperation_found (Except.ok.inj hread).symm
        have hid : row.1.id = gapRun.operationId := (Table.find_eq_some.mp hfind).2
        refine ⟨Or.inl ?_, hid⟩
        rintro _ ⟨⟩
        refine ⟨row.1, ?_, Or.inl rfl⟩
        rw [hid]
        exact hfind
      · cases herror
    · intro r state state' hr h found hok row hrow
      exact (h found hok row hrow).stable hr
  refine GapSafe.bind hload hs ?_
  intro found state _ hfound
  cases found with
  | none => exact gapSafe_throw
  | some row =>
    simp only
    split
    · exact gapSafe_pure (fun state' hr => (hfound row rfl).stable hr)
    · exact gapSafe_throw

theorem ownedOperationForAction_gapSafe {action : CommandAction} (hs : GapInvariant ids state) :
    GapSafe ids gapRun (MatterAdministration.ownedOperationForAction actorId gapRun.operationId action)
      (fun operation state => HeldBy gapRun operation state) state := by
  refine GapSafe.bind (P := fun _ _ => True)
    (gapSafe_silent (security_calls (fun _ => trivial) actorId) (fun _ _ _ h => h) trivial) hs ?_
  intro security state hs _
  refine GapSafe.bind (P := fun _ _ => True)
    (gapSafe_silent (authorize_calls security action) (fun _ _ _ h => h) trivial) hs ?_
  intro _ state hs _
  refine GapSafe.bind (ownedOperation_gapSafe hs) hs ?_
  intro found state _ hheld
  simp only
  split
  · exact gapSafe_pure (fun state' hr => hheld.stable hr)
  · exact gapSafe_throw

end Loading

section Moving
variable {ids : MatterIdentities} {settings : MatterRepairSettings} {gapRun : GapRun} {state : GapState}
  {actorId : ActorId} {operation moved : MatterOperation} {next : MatterOperationPhase}
  {before after : StoredMatterSubscription} {projections : List MatterSubscriptionProjectionWrite}
  {repair : Option MatterRepairRecord} {now : Instant}

structure MovedBy (gapRun : GapRun) (operation : MatterOperation) (next : MatterOperationPhase)
    (moved : MatterOperation) (state : GapState) : Prop where
  held : HeldBy gapRun moved state
  phase : moved.phase = next
  target : moved.target = operation.target

theorem MovedBy.stable (h : MovedBy gapRun operation next moved state)
    (hrely : GapRely gapRun state state') : MovedBy gapRun operation next moved state' :=
  ⟨h.held.stable hrely, h.phase, h.target⟩

theorem advance_gapSafe {Q : GapState → Prop} (hs : GapInvariant ids state) (hheld : HeldBy gapRun operation state)
    (hstable : StableFor gapRun Q)
    (h : ∀ moved state' store', operation.transition next now = .ok moved → GapRely gapRun state state' →
      GapInvariant ids state' → state'.1.operations.find operation.id = some operation →
      RepairWrote state'.1 store' moved projections → MovedTo state'.1 store' operation moved →
      MovesOn ids gapRun moved state' store' ∧ Q (store', state'.2 ++ movedEvents gapRun moved state'.1 store')) :
    GapSafe ids gapRun (advance operation next before after projections repair now)
      (fun moved state => MovedBy gapRun operation next moved state ∧ Q state) state := by
  unfold advance
  split
  · exact gapSafe_throw
  next moved hmoved =>
    obtain ⟨hphase, hmoves⟩ := MatterOperation.transition_ok hmoved
    have hid : moved.id = gapRun.operationId := hmoves.id.trans hheld.id
    have hcommit : GapSafe ids gapRun
        (attempt .repository (MatterCall.perform (.commit (.repair
          (repairCommit moved operation.revision after before.revision projections repair)))) : RepairM Unit)
        (fun _ state => MovedBy gapRun operation next moved state ∧ Q state) state := by
      refine gapSafe_commit hs (fun state state' hr hq => ⟨hq.1.stable hr, hstable state state' hr hq.2⟩) ?_
      intro state' store' hr hi hwritten
      obtain ⟨-, hmovedTo⟩ := repair_written hwritten
      have hwrote := repairWrote hwritten
      obtain ⟨hmovesOn, hq⟩ := h moved state' store' hmoved hr hi ((hheld.stable hr).found hi hmovedTo hmoves.id) hwrote
        hmovedTo
      refine ⟨movedEvents gapRun moved state'.1 store', rfl, commit_step hi hid hmovedTo hwrote hmovesOn,
        ⟨⟨Or.inl ?_, hid⟩, hphase, hmoves.target⟩, hq⟩
      rintro row ⟨⟩
      exact ⟨moved, hmovedTo.find_moved, Or.inl rfl⟩
    refine GapSafe.bind hcommit hs ?_
    intro _ state _ hq
    exact gapSafe_pure (fun state' hr => ⟨hq.1.stable hr, hstable state state' hr hq.2⟩)

section Writes
variable {f : StoredMatterProjection → Option MatterSubscriptionProjectionWrite}
  {record : MatterNodeInventoryRecord} {store store' : MatterStore} {events : List GapEvent}

theorem written_ids (hf : ∀ projection write, f projection = some write →
      write.projection.projectionId = projection.projectionId)
    (h : List.Forall₂ (fun projection write => f projection = some write) loaded projections) :
    projections.map (fun write => write.projection.projectionId) =
      loaded.map StoredMatterProjection.projectionId := by
  induction h with
  | nil => rfl
  | cons hfirst _ ih =>
    rw [map_cons, map_cons, hf _ _ hfirst, ih]

theorem written_of_mem (h : List.Forall₂ (fun projection write => f projection = some write) loaded projections)
    (hmem : write ∈ projections) : ∃ projection ∈ loaded, f projection = some write := by
  induction h with
  | nil => cases hmem
  | cons hfirst _ ih =>
    rcases mem_cons.mp hmem with rfl | hmem
    · exact ⟨_, mem_cons_self, hfirst⟩
    · obtain ⟨projection, hprojection, hwritten⟩ := ih hmem
      exact ⟨projection, mem_cons_of_mem _ hprojection, hwritten⟩

theorem written_row (hsurveyed : Surveyed operation record (store, events))
    (htarget : moved.target = operation.target) (hwrote : RepairWrote store store' moved projections)
    (hf : ∀ projection write, f projection = some write → write.expectedRevision = projection.revision ∧
      write.projection.projectionId = projection.projectionId ∧ write.projection.fabricId = projection.fabricId ∧
      write.projection.nodeId = projection.nodeId)
    (hwritten : List.Forall₂ (fun projection write => f projection = some write) record.projections projections)
    {row : StoredMatterProjection} (hrow : row ∈ store'.foundation.projections.rows)
    (hplace : moved.target = .node row.fabricId row.nodeId) :
    ∃ loaded ∈ store.foundation.projections.rows, ∃ write, f loaded = some write ∧ row = write.projection ∧
      operation.target = .node loaded.fabricId loaded.nodeId := by
  have hids := written_ids (fun projection write hfound => (hf projection write hfound).2.1) hwritten
  have hdistinct : (projections.map (fun write => write.projection.projectionId)).Nodup := by
    rw [hids]
    exact hsurveyed.distinct
  rcases hwrote.rows hdistinct row hrow with ⟨hold, hunwritten⟩ | ⟨write, hwrite, rfl, stored, hstored, hrevision⟩
  · -- every projection of the node was loaded, so every one was written
    obtain ⟨loaded, hloaded, hid, -⟩ := hsurveyed.rows row hold (htarget ▸ hplace)
    have hwrittenId : row.projectionId ∈ projections.map (fun write => write.projection.projectionId) := by
      rw [hids, ← hid]
      exact List.mem_map_of_mem hloaded
    obtain ⟨write, hwrite, hsame⟩ := List.mem_map.mp hwrittenId
    exact absurd hsame (hunwritten write hwrite)
  · obtain ⟨loaded, hloaded, hfound⟩ := written_of_mem hwritten hwrite
    obtain ⟨hexpected, hloadedId, hloadedFabric, hloadedNode⟩ := hf loaded write hfound
    have hloadedPlace : operation.target = .node loaded.fabricId loaded.nodeId := by
      rw [← hloadedFabric, ← hloadedNode]
      exact htarget ▸ hplace
    obtain ⟨hmem, hid⟩ := Table.find_eq_some.mp hstored
    obtain ⟨kept, hkept, hfabric, hnodeId, -⟩ := (hwrote.kept _ hrow).1
    obtain rfl : stored = kept := Option.some.inj (hstored.symm.trans hkept)
    -- the row that is written over has the revision of the one that was loaded
    obtain ⟨other, hother, hotherId, hlater⟩ := hsurveyed.rows stored hmem (by
      rw [hfabric, hnodeId]
      exact htarget ▸ hplace)
    obtain rfl : other = loaded :=
      inj_on_of_nodup_map hsurveyed.distinct hother hloaded ((hotherId.trans hid).trans hloadedId)
    rcases hlater with rfl | hlt
    · exact ⟨stored, hmem, write, hfound, rfl, hloadedPlace⟩
    · exact absurd (hrevision.trans hexpected) hlt.ne'

end Writes

def Begun (gapRun : GapRun) (state : GapState) : Prop :=
  (∃ start, .began gapRun start ∈ state.2) ∧ ¬ Awaits state.1 gapRun.operationId

theorem Begun.stable : StableFor gapRun (Begun gapRun) := by
  rintro _ _ hr ⟨⟨start, hbegan⟩, hwaiting⟩
  exact ⟨⟨start, hr.log _ hbegan⟩, fun hawaits => hwaiting (hr.awaiting start hbegan hawaits)⟩

theorem staleProjection_some {loaded : StoredMatterProjection} (h : staleProjection now loaded = some write) :
    ∃ projected, markMatterProjectionStale loaded.state .reportGap = .ok projected ∧
      write = ⟨{ loaded with
        state := projected, revision := raisedRevision loaded.revision, updatedAt := now }, loaded.revision⟩ := by
  unfold staleProjection at h
  split at h
  · cases h
  next projected hprojected =>
    cases h
    exact ⟨projected, hprojected, rfl⟩

theorem markedStale_by_begin {store : MatterStore} {events' : List GapEvent}
    (hsurveyed : Surveyed operation record (store, events))
    (htarget : moved.target = operation.target) (hwrote : RepairWrote store store' moved projections)
    (hwritten : record.projections.mapM (staleProjection now) = some projections) :
    MarkedStale store' events' store gapRun moved := by
  have hfields : ∀ projection write, staleProjection now projection = some write →
      write.expectedRevision = projection.revision ∧ write.projection.projectionId = projection.projectionId ∧
        write.projection.fabricId = projection.fabricId ∧ write.projection.nodeId = projection.nodeId := by
    intro projection write hwrite
    obtain ⟨projected, -, rfl⟩ := staleProjection_some hwrite
    exact ⟨rfl, rfl, rfl, rfl⟩
  intro row hmem hplace _
  obtain ⟨loaded, hloaded, write, hwrite, rfl, -⟩ :=
    written_row hsurveyed htarget hwrote hfields (forall₂_of_mapM hwritten) hmem hplace
  obtain ⟨projected, hprojected, rfl⟩ := staleProjection_some hwrite
  obtain ⟨-, -, hreported, -, hfreshness, -, huncertainty⟩ := MatterProjectedState.new_ok hprojected
  refine ⟨hfreshness, huncertainty, ?_⟩
  have hfound : store.foundation.projections.find loaded.projectionId = some loaded :=
    Table.find_eq_some.mpr ⟨hloaded, rfl⟩
  unfold reportedIn
  rw [hfound]
  exact hreported

/-- Beginning a gap marks the projections of the node stale. -/
theorem beginGap_gapSafe (hs : GapInvariant ids state) (hheld : HeldBy gapRun operation state)
    (hrequested : operation.phase = .requested) :
    GapSafe ids gapRun (beginGap settings actorId operation now)
      (fun moved state => MovedBy gapRun operation .readingGap moved state ∧ Begun gapRun state) state := by
  refine GapSafe.bind (inventory_gapSafe hs hheld (K := fun _ => True) (fun _ _ _ h => h) trivial) hs ?_
  rintro ⟨record, subscription⟩ state hs ⟨⟨hheld, hsurveyed⟩, -⟩
  simp only
  split
  · exact gapSafe_throw
  next projections hprojections =>
    refine advance_gapSafe hs hheld Begun.stable ?_
    intro moved state' store' hmoved hr hi hfound hwrote hmovedTo
    obtain ⟨hphase, hmoves⟩ := MatterOperation.transition_ok hmoved
    have hunawaited : ¬ AwaitsSubscription moved := by
      rintro ⟨-, hsubscribing⟩
      rw [hphase] at hsubscribing
      cases hsubscribing
    -- the operation is only requested, so no run has begun it before
    have hfresh : ∀ earlier start, .began earlier start ∈ state'.2 → earlier.operationId ≠ gapRun.operationId := by
      intro earlier start hearlier hsame
      rcases hi.begun earlier start hearlier with hretired | ⟨row, hrow, hrowPhase⟩
      · have hnone := hi.retired _ hretired
        rw [hsame, ← hheld.id, hfound] at hnone
        cases hnone
      · rw [hsame, ← hheld.id, hfound] at hrow
        cases hrow
        exact hrowPhase hrequested
    refine ⟨⟨?_, ?_, fun hawaits => absurd hawaits hunawaited, ?_⟩, ?_, ?_⟩
    · rw [hphase]
      exact fun h => nomatch h
    · exact fun _ => ⟨hfresh, markedStale_by_begin (hsurveyed.stable hr) hmoves.target hwrote hprojections⟩
    · rw [hphase]
      exact fun h => nomatch h
    · refine ⟨state'.1, mem_append_right _ (mem_append_left _ ?_)⟩
      rw [hphase]
      exact mem_singleton.mpr rfl
    · rintro ⟨row, hrow, hawaits⟩
      rw [← hheld.id, ← hmoves.id, hmovedTo.find_moved] at hrow
      cases hrow
      exact hunawaited hawaits

def HasRead (gapRun : GapRun) (reports : Option (List MatterAttributeReport)) (state : GapState) : Prop :=
  Begun gapRun state ∧ gapReadOf state.2 gapRun.operationId = some (gapRun, reports)

theorem HasRead.stable : StableFor gapRun (HasRead gapRun reports) :=
  fun state state' hr h => ⟨Begun.stable state state' hr h.1, (hr.read _ h.1.1.choose_spec).trans h.2⟩

theorem read_gapSafe {request : MatterReadSelection}
    (hheld : HeldBy gapRun operation state) (hsurveyed : Surveyed operation record state)
    (hbegun : Begun gapRun state) :
    GapSafe ids gapRun (answer (MatterCall.read request) : RepairM (MatterCall.read request).Response)
      (fun reports state => (HeldBy gapRun operation state ∧ Surveyed operation record state) ∧
        HasRead gapRun (Except.toOption reports) state) state := by
  intro state' hr hi _ response state'' hhandler
  obtain ⟨hstore, hevents⟩ := hhandler
  have hheld' := hheld.stable hr
  have hsurveyed' := hsurveyed.stable hr
  have hbegun' := Begun.stable _ _ hr hbegun
  have hobserved : observeGap gapRun (.read request) response state'.1 state''.1 =
      [.read gapRun (Except.toOption response)] := by
    have hsame : state''.1 = state'.1 := hstore
    unfold observeGap
    rw [hsame, changes_same rfl]
    rfl
  rw [hobserved] at hevents
  have heq : state'' = (state'.1, state'.2 ++ [.read gapRun (Except.toOption response)]) := Prod.ext hstore hevents
  obtain ⟨start, hbegan⟩ := hbegun'.1
  have hstep := read_step hi hbegan hbegun'.2 (Except.toOption response)
  have hread : HasRead gapRun (Except.toOption response)
      (state'.1, state'.2 ++ [.read gapRun (Except.toOption response)]) := by
    refine ⟨⟨⟨start, mem_append_left _ hbegan⟩, hbegun'.2⟩, ?_⟩
    rw [gapReadOf_read]
    exact if_pos rfl
  have hkept : HeldBy gapRun operation (state'.1, state'.2 ++ [.read gapRun (Except.toOption response)]) ∧
      Surveyed operation record (state'.1, state'.2 ++ [.read gapRun (Except.toOption response)]) :=
    ⟨⟨hheld'.stored.imp (fun hstored => hstored) (fun hretired => mem_append_left _ hretired), hheld'.id⟩,
      hsurveyed'.node, hsurveyed'.distinct, hsurveyed'.rows⟩
  rw [heq]
  refine ⟨hstep.invariant, hstep.others, ?_⟩
  intro last hr' _ reports hreports
  cases hreports
  exact ⟨⟨hkept.1.stable hr', hkept.2.stable hr'⟩, HasRead.stable _ _ hr' hread⟩

theorem readProjection_some {capabilities : List MatterNodeCapability} {loaded : StoredMatterProjection}
    (h : readProjection capabilities reports now loaded = some write) :
    ∃ capability projected, capabilities.find? (fun capability => capability.projectionId == loaded.projectionId) =
        some capability ∧ readState capability loaded.state reports now = .ok projected ∧
      write = ⟨{ loaded with
        state := projected, revision := raisedRevision loaded.revision, updatedAt := now }, loaded.revision⟩ := by
  unfold readProjection at h
  split at h
  · cases h
  next capability hcapability =>
    split at h
    · cases h
    next projected hprojected =>
      cases h
      exact ⟨capability, projected, hcapability, hprojected, rfl⟩

/-- What the gap read returned is in the projections that only the repair has written. -/
theorem settled_by_read {store start : MatterStore} {events' : List GapEvent}
    (hsurveyed : Surveyed operation record (store, events))
    (htarget : moved.target = operation.target) (hwrote : RepairWrote store store' moved projections)
    (hwritten : record.projections.mapM (readProjection
      (record.node.descriptor.capabilities ids record.node.installationId) reports gapRun.now) = some projections)
    (hstale : MarkedStale store events start gapRun operation)
    (hlog : ∀ projectionId, Disturbed events gapRun projectionId → Disturbed events' gapRun projectionId) :
    Settled ids store' events' start gapRun moved reports := by
  have hfields : ∀ projection write, readProjection
      (record.node.descriptor.capabilities ids record.node.installationId) reports gapRun.now projection =
        some write → write.expectedRevision = projection.revision ∧
      write.projection.projectionId = projection.projectionId ∧ write.projection.fabricId = projection.fabricId ∧
      write.projection.nodeId = projection.nodeId := by
    intro projection write hwrite
    obtain ⟨capability, projected, -, -, rfl⟩ := readProjection_some hwrite
    exact ⟨rfl, rfl, rfl, rfl⟩
  obtain ⟨fabricId, nodeId, hplace, hnode⟩ := hsurveyed.node
  refine ⟨⟨fabricId, nodeId, record.node, htarget.trans hplace, by rw [hwrote.nodes]; exact hnode⟩, ?_⟩
  intro row hmem hrowPlace hundisturbed
  obtain ⟨loaded, hloaded, write, hwrite, rfl, hloadedPlace⟩ :=
    written_row hsurveyed htarget hwrote hfields (forall₂_of_mapM hwritten) hmem hrowPlace
  obtain ⟨capability, projected, hcapability, hprojected, rfl⟩ := readProjection_some hwrite
  obtain ⟨hfreshness, huncertainty, hreported⟩ := hstale loaded hloaded hloadedPlace
    (fun hdisturbed => hundisturbed (hlog _ hdisturbed))
  have hreport : reportFor ids store' reports { loaded with
      state := projected, revision := raisedRevision loaded.revision, updatedAt := gapRun.now } =
        (reportOn reports capability).map (fun report => (capability.rule, report)) := by
    have hkey : (loaded.fabricId, loaded.nodeId) = (fabricId, nodeId) := by
      rw [hplace] at hloadedPlace
      cases hloadedPlace
      rfl
    have hstored : store.nodes.find (fabricId, nodeId) = some record.node := hnode
    unfold reportFor capabilityOf
    simp only
    rw [hwrote.nodes, hkey, hstored, Option.bind_some, hcapability, Option.bind_some]
  show LeftBy (reportFor ids store' reports { loaded with
    state := projected, revision := raisedRevision loaded.revision, updatedAt := gapRun.now }) gapRun.now
      (reportedIn start loaded.projectionId) projected
  rw [hreport, ← hreported]
  exact readState_leaves hfreshness huncertainty hprojected

theorem readGap_gapSafe (hs : GapInvariant settings.ids state) (hheld : HeldBy gapRun operation state)
    (hreading : operation.phase = .readingGap) (hbegun : Begun gapRun state) :
    GapSafe settings.ids gapRun (readGap settings actorId operation gapRun.now)
      (fun moved state => MovedBy gapRun operation .subscribing moved state) state := by
  refine GapSafe.bind (inventory_gapSafe hs hheld Begun.stable hbegun) hs ?_
  rintro ⟨record, subscription⟩ state hs ⟨⟨hheld, hsurveyed⟩, hbegun⟩
  simp only
  split
  · exact gapSafe_throw
  · refine GapSafe.bind (read_gapSafe hheld hsurveyed hbegun) hs ?_
    rintro reports state hs ⟨⟨hheld, hsurveyed⟩, hread⟩
    split
    · exact gapSafe_throw
    next projections hprojections =>
      refine Program.Guards.mono (advance_gapSafe (Q := fun _ => True) hs hheld (fun _ _ _ h => h) ?_)
        (fun _ _ _ h a ha => (h a ha).1)
      intro moved state' store' hmoved hr hi hfound hwrote hmovedTo
      obtain ⟨hphase, hmoves⟩ := MatterOperation.transition_ok hmoved
      have hread' := HasRead.stable _ _ hr hread
      obtain ⟨start, hbegan⟩ := hread'.1.1
      have hstale : MarkedStale state'.1 state'.2 start gapRun operation := by
        refine hi.reading gapRun start operation hbegan ?_ hreading
        rw [← hheld.id]
        exact hfound
      have hsettled : Settled settings.ids store' (state'.2 ++ movedEvents gapRun moved state'.1 store') start gapRun
          moved (Except.toOption reports) :=
        settled_by_read (hsurveyed.stable hr) hmoves.target hwrote hprojections hstale
          (fun _ hdisturbed => hdisturbed.append)
      refine ⟨⟨?_, ?_, fun _ => ⟨start, _, hbegan, hread'.2, hsettled⟩, ?_⟩, trivial⟩
      · rw [hphase]
        exact fun h => nomatch h
      · rw [hphase]
        exact fun h => nomatch h
      · rw [hphase]
        exact fun h => nomatch h

theorem giveUp_gapSafe (hs : GapInvariant ids state) (hheld : HeldBy gapRun operation state) :
    GapSafe ids gapRun (giveUp operation subscription error now) (fun _ _ => True) state := by
  have hid : (answer MatterCall.newId : RepairM MatterCall.newId.Response).run.Calls Silent :=
    ⟨trivial, fun _ => trivial⟩
  refine GapSafe.bind (gapSafe_silent hid (fun _ _ hr h => HeldBy.stable h hr) hheld) hs ?_
  intro repairId state hs hheld
  refine GapSafe.bind (P := fun _ _ => True) ?_ hs (fun _ _ _ _ => gapSafe_pure (fun _ _ => trivial))
  refine Program.Guards.mono (advance_gapSafe (Q := fun _ => True) hs hheld (fun _ _ _ h => h) ?_)
    (fun _ _ _ _ _ _ => trivial)
  intro moved state' store' hmoved _ _ _ _ _
  obtain ⟨hphase, -⟩ := MatterOperation.transition_ok hmoved
  refine ⟨⟨?_, ?_, ?_, ?_⟩, trivial⟩
  · rw [hphase]
    exact fun h => nomatch h
  · rw [hphase]
    exact fun h => nomatch h
  · rintro ⟨-, hsubscribing⟩
    rw [hphase] at hsubscribing
    cases hsubscribing
  · rw [hphase]
    exact fun h => nomatch h

theorem complete_gapSafe (hs : GapInvariant ids state) (hheld : HeldBy gapRun operation state)
    (hsubscribing : operation.phase = .subscribing) :
    GapSafe ids gapRun (advance operation .completed before after [] none now) (fun _ _ => True) state := by
  refine Program.Guards.mono (advance_gapSafe (Q := fun _ => True) hs hheld (fun _ _ _ h => h) ?_)
    (fun _ _ _ _ _ _ => trivial)
  intro moved state' store' hmoved hr hi hfound hwrote hmovedTo
  obtain ⟨hphase, hmoves⟩ := MatterOperation.transition_ok hmoved
  have hkind : operation.kind = .repairSubscription := by
    have hkind := hwrote.kind
    rw [hmoves.only] at hkind
    exact hkind
  refine ⟨⟨?_, ?_, ?_, ?_⟩, trivial⟩
  · rw [hphase]
    exact fun h => nomatch h
  · rw [hphase]
    exact fun h => nomatch h
  · rintro ⟨-, hawaiting⟩
    rw [hphase] at hawaiting
    cases hawaiting
  · intro _ beginner start hbegan hsame
    have hrow : state'.1.operations.find beginner.operationId = some operation := by
      rw [hsame, ← hheld.id]
      exact hfound
    obtain ⟨reports, hread, hsettled⟩ := hi.awaiting beginner start operation hbegan hrow ⟨hkind, hsubscribing⟩
    have hkept : Settled ids store' state'.2 start beginner operation reports := by
      refine hsettled.keep (fun key node hnode => ?_) (fun projection hmem hundisturbed => ?_)
      · rw [hwrote.nodes]
        exact hnode
      · rw [hwrote.unwritten rfl] at hmem
        exact ⟨hmem, hundisturbed⟩
    refine ⟨reports, ?_, ?_⟩
    · rw [← hsame]
      exact hread
    · obtain ⟨hdescribed, hleft⟩ := hkept
      rw [← hmoves.target] at hdescribed hleft
      exact ⟨hdescribed, hleft⟩

theorem storeSubscription_gapSafe (hs : GapInvariant ids state) (hheld : HeldBy gapRun operation state) :
    GapSafe ids gapRun (attempt .repository (MatterCall.perform (.commit (.subscription subscription
      (some before.revision)))) : RepairM Unit) (fun _ => HeldBy gapRun operation) state := by
  refine gapSafe_commit hs (fun _ _ hr h => HeldBy.stable h hr) ?_
  intro state' store' hr hi hwritten
  have hsubscribed := MatterStore.storeSubscription_ok hwritten
  have hheld' := hheld.stable hr
  have hobserved : observeGap gapRun (.commit (.subscription subscription (some before.revision))) (.ok ()) state'.1
      store' = [] := by
    have hsame : store'.foundation.projections = state'.1.foundation.projections := by
      rw [hsubscribed.rest]
    unfold observeGap
    rw [changes_same hsame]
    rfl
  refine ⟨[], hobserved, ?_, ?_⟩
  · rw [append_nil]
    apply same_step hi
    · intro operationId
      rw [hsubscribed.rest]
    · rw [hsubscribed.rest]
    · rw [hsubscribed.rest]
  · refine ⟨hheld'.stored.imp ?_ (fun hretired => mem_append_left _ hretired), hheld'.id⟩
    rw [hsubscribed.rest]
    exact id

theorem recordAmbiguousDispatch_gapSafe (hs : GapInvariant ids state) (hheld : HeldBy gapRun operation state) :
    GapSafe ids gapRun (recordAmbiguousDispatch actorId operation now) (fun _ _ => True) state := by
  refine GapSafe.bind (inventory_gapSafe hs hheld (K := fun _ => True) (fun _ _ _ h => h) trivial) hs ?_
  rintro ⟨record, subscription⟩ state hs ⟨⟨hheld, -⟩, -⟩
  exact giveUp_gapSafe hs hheld

theorem recordSubscribeFailure_gapSafe (hs : GapInvariant ids state) (hheld : HeldBy gapRun operation state) :
    GapSafe ids gapRun (recordSubscribeFailure settings operation before error now) (fun _ _ => True) state := by
  unfold recordSubscribeFailure
  split
  · exact giveUp_gapSafe hs hheld
  · simp only
    split
    · exact gapSafe_throw
    · refine GapSafe.bind (storeSubscription_gapSafe hs hheld) hs ?_
      intro _ state _ _
      exact gapSafe_pure (fun _ _ => trivial)

theorem dispatch_gapSafe (hs : GapInvariant ids state)
    (hheld : HeldBy gapRun operation state) (hsubscribing : operation.phase = .subscribing) :
    GapSafe ids gapRun (dispatch settings record operation before now) (fun _ _ => True) state := by
  unfold dispatch
  split
  · exact gapSafe_throw
  next selection _ =>
    have hcalls : (answer (MatterCall.subscribe operation.id
        ⟨before.subscriptionId, before.fabricId, before.nodeId, selection⟩) :
        RepairM (MatterCall.subscribe operation.id
          ⟨before.subscriptionId, before.fabricId, before.nodeId, selection⟩).Response).run.Calls Silent :=
      ⟨trivial, fun _ => trivial⟩
    refine GapSafe.bind (gapSafe_silent hcalls (fun _ _ hr h => HeldBy.stable h hr) hheld) hs ?_
    intro result state hs hheld
    split
    · exact recordSubscribeFailure_gapSafe hs hheld
    · split
      · refine GapSafe.bind (complete_gapSafe hs hheld hsubscribing) hs ?_
        intro completed state _ _
        exact gapSafe_pure (fun _ _ => trivial)
      · exact recordSubscribeFailure_gapSafe hs hheld

theorem subscribe_gapSafe {reservedAttempt : Bool} (hs : GapInvariant ids state)
    (hheld : HeldBy gapRun operation state) (hsubscribing : operation.phase = .subscribing) :
    GapSafe ids gapRun (subscribe settings actorId operation now reservedAttempt) (fun _ _ => True) state := by
  refine GapSafe.bind (inventory_gapSafe hs hheld (K := fun _ => True) (fun _ _ _ h => h) trivial) hs ?_
  rintro ⟨record, subscription⟩ state hs ⟨⟨hheld, -⟩, -⟩
  simp only
  split
  · split
    · exact gapSafe_pure (fun _ _ => trivial)
    · refine GapSafe.bind (storeSubscription_gapSafe hs hheld) hs ?_
      intro _ state hs hheld
      exact dispatch_gapSafe hs hheld hsubscribing
  · split
    · exact dispatch_gapSafe hs hheld hsubscribing
    · exact recordAmbiguousDispatch_gapSafe hs hheld

theorem run_gapSafe (hs : GapInvariant settings.ids state) :
    GapSafe settings.ids gapRun (run settings actorId gapRun.operationId gapRun.now) (fun _ _ => True) state := by
  have hload : GapSafe settings.ids gapRun
      (within .administration (MatterAdministration.ownedOperationForAction actorId gapRun.operationId
        .matterRepairSubscription) : RepairM MatterOperation) (fun operation => HeldBy gapRun operation) state := by
    refine guards_attempt (GapRely.refl gapRun) hs (fun _ _ _ hr _ h => HeldBy.stable h hr) ?_
    exact ownedOperationForAction_gapSafe hs
  refine GapSafe.bind hload hs ?_
  intro operation state hs hheld
  split
  · exact gapSafe_throw
  · split
    next hrequested =>
      refine GapSafe.bind (beginGap_gapSafe hs hheld hrequested) hs ?_
      rintro begun state hs ⟨hbegun, hknown⟩
      refine GapSafe.bind (readGap_gapSafe hs hbegun.held hbegun.phase hknown) hs ?_
      intro reading state hs hmoved
      exact subscribe_gapSafe hs hmoved.held hmoved.phase
    · exact recordAmbiguousDispatch_gapSafe hs hheld
    next hsubscribing =>
      refine GapSafe.bind (inventory_gapSafe hs hheld (K := fun _ => True) (fun _ _ _ h => h) trivial) hs ?_
      rintro ⟨record, subscription⟩ state hs ⟨⟨hheld, -⟩, -⟩
      simp only
      split
      · exact subscribe_gapSafe hs hheld hsubscribing
      · exact recordAmbiguousDispatch_gapSafe hs hheld
    · exact gapSafe_pure (fun _ _ => trivial)
    · exact gapSafe_pure (fun _ _ => trivial)
    · exact gapSafe_throw

end Moving

def gapRelies : GapParty → GapState → GapState → Prop
  | .repair gapRun => GapRely gapRun
  | .other _ => fun _ _ => True

def gapGuarantees : GapParty → GapState → GapState → Prop
  | .repair gapRun => fun state state' => ∀ other, other ≠ gapRun → GapRely other state state'
  | .other _ => fun state state' => ∀ gapRun, GapRely gapRun state state'

theorem other_guards {settings : MatterRepairSettings} {number : ℕ} {state : GapState}
    (program : Program MatterCall MatterCall.Response
      (Except MatterSubscriptionRepairError MatterSubscriptionRepairOutcome)) :
    program.Guards ((gapDuties settings).handler (.other number)) ((gapDuties settings).allowed (.other number))
      (gapRelies (.other number)) (gapGuarantees (.other number)) (GapInvariant settings.ids) (fun _ _ => True)
      state := by
  induction program generalizing state with
  | done a => exact fun _ _ _ => trivial
  | call c next ih =>
    intro state' _ hi _ r state'' hhandler
    obtain ⟨hrest, hevents⟩ := hhandler
    have heq : state'' = (state''.1, state'.2 ++ (removals state'.1 state''.1 ++
        changes (.other number) state'.1 state''.1)) := Prod.ext rfl hevents
    obtain ⟨hinvariant, hrely⟩ := system_step number hi hrest
    rw [heq]
    exact ⟨hinvariant, hrely, ih r⟩

/-- Every repair that completes leaves what only it has written as its gap read makes it, whatever
the controller, the other repairs and the other services do. -/
theorem repair_settles_gap (settings : MatterRepairSettings) (store : MatterStore)
    {reached : Parties MatterCall MatterCall.Response GapState GapParty
      (Except MatterSubscriptionRepairError MatterSubscriptionRepairOutcome)}
    (hrun : Relation.ReflTransGen (Parties.Acts (gapDuties settings)) ⟨(store, []), []⟩ reached) :
    GapsSettled settings.ids reached.state.2 := by
  have hstart : GapInvariant settings.ids (store, []) := by
    refine ⟨?_, fun _ h => (nomatch h), fun _ _ h => (nomatch h), fun _ _ _ _ h => (nomatch h),
      fun _ _ _ h => (nomatch h), fun _ _ _ h => (nomatch h)⟩
    intro before gapRun store after hsplit
    cases before <;> cases hsplit
  have hinvariant : GapInvariant settings.ids reached.state := by
    refine Parties.invariant (R := gapRelies) (G := gapGuarantees) (I := GapInvariant settings.ids) ?_ ?_ ?_ ?_ hrun
      hstart rfl
    · intro party first second third h h'
      cases party with
      | repair gapRun => exact GapRely.trans h h'
      | other number => trivial
    · intro party actor state state' hne _ hactor
      cases party with
      | other number => trivial
      | repair gapRun =>
        cases actor with
        | repair other => exact hactor gapRun (fun hsame => hne (congrArg GapParty.repair hsame))
        | other number => exact hactor gapRun
    · intro party state
      cases party with
      | repair gapRun => exact GapRely.refl gapRun state
      | other number => trivial
    · intro party program state hstarts hi
      cases party with
      | repair gapRun =>
        obtain ⟨actorId, rfl⟩ := hstarts
        exact Program.Guards.mono (run_gapSafe hi) (fun _ _ _ _ => trivial)
      | other number => exact other_guards program
  exact hinvariant.settled

def darkAnswers (reportSequence : ℕ) : MatterAnswers :=
  { vainAnswers with
    read := fun request => .ok (request.selection.map (fun path => ⟨path, .boolean false, none, reportSequence, 35⟩))
    subscribe := fun request => .ok ⟨request.subscriptionId, true, 1, 36⟩ }

def darkCalls (reportSequence : ℕ) (gapRun : GapRun) (calls : ℕ) (program : Program MatterCall MatterCall.Response
    (Except MatterSubscriptionRepairError MatterSubscriptionRepairOutcome)) (state : GapState) :
    Program MatterCall MatterCall.Response
      (Except MatterSubscriptionRepairError MatterSubscriptionRepairOutcome) × GapState :=
  program.runFor (trackingApply (MatterStore.answering (darkAnswers reportSequence)) (observeGap gapRun)) calls state

def darkProgram (gapRun : GapRun) : Program MatterCall MatterCall.Response
    (Except MatterSubscriptionRepairError MatterSubscriptionRepairOutcome) :=
  (run lampSettings 9 gapRun.operationId gapRun.now).run

theorem darkProgram_starts (gapRun : GapRun) :
    (gapDuties lampSettings).starts (.repair gapRun) (darkProgram gapRun) := ⟨9, rfl⟩

theorem dark_handles (reportSequence : ℕ) (gapRun : GapRun) (c : MatterCall) (state : GapState) :
    (gapDuties lampSettings).handler (.repair gapRun) c state
      (trackingApply (MatterStore.answering (darkAnswers reportSequence)) (observeGap gapRun) c state).1
      (trackingApply (MatterStore.answering (darkAnswers reportSequence)) (observeGap gapRun) c state).2 :=
  trackingApply_handles (MatterStore.answering_handles (darkAnswers reportSequence)) _ c state

def lampRepaired (reportSequence : ℕ) : GapState :=
  (darkCalls reportSequence ⟨1, 11, 40⟩ 30 (darkProgram ⟨1, 11, 40⟩) (lampAdmitted, [])).2

theorem lampRepaired_acts (reportSequence : ℕ) : Relation.ReflTransGen (Parties.Acts (gapDuties lampSettings))
    ⟨(lampAdmitted, []), []⟩ ⟨lampRepaired reportSequence, []⟩ :=
  Parties.of_runFor (dark_handles reportSequence _) (darkProgram_starts ⟨1, 11, 40⟩) []
    (fun _ hmember => absurd hmember not_mem_nil) 30 (lampAdmitted, [])
    (Program.permittedFor_of_forall (fun _ _ => trivial) 30 _ _)

def lampGapRead : Program MatterCall MatterCall.Response
    (Except MatterSubscriptionRepairError MatterSubscriptionRepairOutcome) × GapState :=
  darkCalls 2 ⟨1, 11, 40⟩ 9 (darkProgram ⟨1, 11, 40⟩) (lampAdmitted, [])

def lampBegunAgain : GapState := (darkCalls 2 ⟨2, 12, 50⟩ 5 (darkProgram ⟨2, 12, 50⟩) lampGapRead.2).2

def lampRepairedBetween : GapState := (darkCalls 2 ⟨1, 11, 40⟩ 30 lampGapRead.1 lampBegunAgain).2

theorem lampRepairedBetween_acts : ∃ members, Relation.ReflTransGen (Parties.Acts (gapDuties lampSettings))
    ⟨(lampAdmitted, []), []⟩ ⟨lampRepairedBetween, members⟩ := by
  have hpermitted : ∀ (party : GapParty) (apply : (c : MatterCall) → GapState → c.Response × GapState) (calls : ℕ)
      (program : Program MatterCall MatterCall.Response
        (Except MatterSubscriptionRepairError MatterSubscriptionRepairOutcome)) (state : GapState),
      program.PermittedFor apply ((gapDuties lampSettings).allowed party) calls state :=
    fun party apply calls program state => Program.permittedFor_of_forall (fun _ _ => trivial) calls program state
  have hjoin : Parties.Acts (gapDuties lampSettings) ⟨(lampAdmitted, []), []⟩
      ⟨(lampAdmitted, []), [] ++ (.repair ⟨1, 11, 40⟩, darkProgram ⟨1, 11, 40⟩) :: []⟩ :=
    .join (fun _ hmember => absurd hmember not_mem_nil) (darkProgram_starts ⟨1, 11, 40⟩)
  have hread := Parties.runFor_acts (dark_handles 2 ⟨1, 11, 40⟩) [] [] 9 (darkProgram ⟨1, 11, 40⟩) (lampAdmitted, [])
    (hpermitted _ _ _ _ _)
  have hagain := Parties.of_runFor (dark_handles 2 ⟨2, 12, 50⟩) (darkProgram_starts ⟨2, 12, 50⟩)
    [(.repair ⟨1, 11, 40⟩, lampGapRead.1)] (by simp) 5 lampGapRead.2 (hpermitted _ _ _ _ _)
  have hgoes := Parties.runFor_acts (dark_handles 2 ⟨1, 11, 40⟩) [] [] 30 lampGapRead.1 lampBegunAgain
    (hpermitted _ _ _ _ _)
  exact ⟨_, ((Relation.ReflTransGen.head hjoin hread).trans hagain).trans hgoes⟩

def hasBegun (gapRun : GapRun) : GapEvent → Bool
  | .began beginner _ => beginner == gapRun
  | _ => false

def completedStale (ids : MatterIdentities) (events : List GapEvent) : Bool :=
  match events.getLast? with
  | some (.completed gapRun store) =>
    match store.operations.find gapRun.operationId, gapReadOf events.dropLast gapRun.operationId with
    | some operation, some (beginner, reports) =>
      events.dropLast.any (hasBegun beginner) && beginner.operationId == gapRun.operationId &&
        store.foundation.projections.rows.any (fun projection =>
          operation.target == .node projection.fabricId projection.nodeId &&
            (reportFor ids store reports projection).isSome && projection.state.freshness == .stale)
    | _, _ => false
  | _ => false

theorem completedStale_open {ids : MatterIdentities}
    (h : completedStale ids events = true) : ¬ GapsClosed ids events := by
  intro hclosed
  unfold completedStale at h
  split at h
  next gapRun store hlast =>
    split at h
    next operation beginner reports hoperation hread =>
      simp only [Bool.and_eq_true, beq_iff_eq, List.any_eq_true] at h
      obtain ⟨⟨⟨event, hevent, hbegun⟩, hsame⟩, projection, hmem, ⟨hplace, hsome⟩, hstale⟩ := h
      have hsplit : events = events.dropLast ++ .completed gapRun store :: [] :=
        (dropLast_append_getLast? _ hlast).symm
      obtain ⟨start, hbegan⟩ : ∃ start, .began beginner start ∈ events.dropLast := by
        cases event with
        | began other start =>
          obtain rfl : other = beginner := beq_iff_eq.mp hbegun
          exact ⟨start, hevent⟩
        | _ => cases hbegun
      obtain ⟨row, found, hrow, hfound, hholds⟩ :=
        hclosed events.dropLast gapRun store [] hsplit beginner start hbegan hsame
      obtain rfl : operation = row := Option.some.inj (hoperation.symm.trans hrow)
      rw [hread] at hfound
      cases hfound
      have hprojection := hholds projection hmem hplace
      obtain ⟨read, hreport⟩ := Option.isSome_iff_exists.mp hsome
      rw [hreport] at hprojection
      have hfresh := hprojection.1
      rw [hstale] at hfresh
      cases hfresh
    · cases h
  · cases h

/-- A repair of the lamp by one run, whose controller goes on counting. -/
theorem lamp_gap_settled : GapsSettled lampSettings.ids (lampRepaired 2).2 :=
  repair_settles_gap lampSettings lampAdmitted (lampRepaired_acts 2)

/-- Two ways to complete with a stale lamp that was read: the controller was restarted and counts from
one again, so that its report is refused as a conflict with the stored one; or the report was taken
over, and another repair of the lamp begins before the first one ends. -/
theorem completed_lamps_left_stale :
    (∃ reached : Parties MatterCall MatterCall.Response GapState GapParty
        (Except MatterSubscriptionRepairError MatterSubscriptionRepairOutcome),
      Relation.ReflTransGen (Parties.Acts (gapDuties lampSettings)) ⟨(lampAdmitted, []), []⟩ reached ∧
        reached.state = lampRepaired 1 ∧ ¬ GapsClosed lampSettings.ids reached.state.2) ∧
    ∃ reached : Parties MatterCall MatterCall.Response GapState GapParty
        (Except MatterSubscriptionRepairError MatterSubscriptionRepairOutcome),
      Relation.ReflTransGen (Parties.Acts (gapDuties lampSettings)) ⟨(lampAdmitted, []), []⟩ reached ∧
        reached.state = lampRepairedBetween ∧ ¬ GapsClosed lampSettings.ids reached.state.2 := by
  have hrestarted : completedStale lampSettings.ids (lampRepaired 1).2 = true := by decide +kernel
  have hbegunAgain : completedStale lampSettings.ids lampRepairedBetween.2 = true := by decide +kernel
  obtain ⟨members, hbetween⟩ := lampRepairedBetween_acts
  exact ⟨⟨⟨lampRepaired 1, []⟩, lampRepaired_acts 1, rfl, completedStale_open hrestarted⟩,
    ⟨⟨lampRepairedBetween, members⟩, hbetween, rfl, completedStale_open hbegunAgain⟩⟩

end MatterSubscriptionRepair
end HomeMagic
