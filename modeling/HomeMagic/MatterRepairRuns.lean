import HomeMagic.MatterNodeRounds
import HomeMagic.MatterRepairOwner

/-! Runs of subscription repair, call by call. -/
namespace HomeMagic

variable {subscription : StoredMatterSubscription} {P : MatterCall → Prop} {store : MatterStore} {c : MatterCall}
  {error : MatterControllerError} {fabricId : MatterFabricId} {installationId : InstallationId}
  {moved : MatterOperation} {nodeId : MatterNodeId} {operationId : MatterOperationId}
  {record : MatterNodeInventoryRecord}

variable {operation : MatterOperation}

namespace MatterSubscriptionRepair

open Fallible MatterNodeWorkflow

variable {state' : RepairState}

section Rules
variable {settings : MatterRepairSettings} {subscriptionId : MatterSubscriptionId} {repairRun : RepairRun}
  {ε ε' α β : Type} {state : RepairState}

abbrev Holds (settings : MatterRepairSettings) (subscriptionId : MatterSubscriptionId) (state : RepairState) : Prop :=
  RepairInvariant settings.policy.maximumSubscribeAttempts subscriptionId state

def Safe (settings : MatterRepairSettings) (subscriptionId : MatterSubscriptionId) (repairRun : RepairRun)
    (x : MatterM ε α) (Q : α → RepairState → Prop) (state : RepairState) : Prop :=
  x.run.Guards (MatterStore.handler.tracking (observe subscriptionId repairRun)) (Unshared subscriptionId repairRun)
    (Rely repairRun) (fun state state' => ∀ other, other ≠ repairRun → Rely other state state')
    (Holds settings subscriptionId) (OnOk Q) state

theorem Safe.bind {x : MatterM ε α} {f : α → MatterM ε β} {P : α → RepairState → Prop} {Q : β → RepairState → Prop}
    (hx : Safe settings subscriptionId repairRun x P state) (hs : Holds settings subscriptionId state)
    (hf : ∀ a state, Holds settings subscriptionId state → P a state →
      Safe settings subscriptionId repairRun (f a) Q state) :
    Safe settings subscriptionId repairRun (x >>= f) Q state := by
  apply guards_bind (Rely.refl repairRun) hs
  apply Program.Guards.mono hx
  intro result state' hs' hresult a ha
  exact hf a state' hs' (hresult a ha)

theorem safe_pure {a : α} {Q : α → RepairState → Prop} (h : ∀ state', Rely repairRun state state' → Q a state') :
    Safe settings subscriptionId repairRun (pure a : MatterM ε α) Q state :=
  guards_pure (fun state' hr _ => h state' hr)

theorem safe_throw {error : ε} {Q : α → RepairState → Prop} :
    Safe settings subscriptionId repairRun (throw error : MatterM ε α) Q state := guards_throw

def Quiet : MatterCall → Prop
  | .newId | .actorSecurity _ | .administrationOperation _ | .nodeInventoryItem _ _ _ | .read _ => True
  | _ => False

theorem quiet_same (hquiet : Quiet c) {r : c.Response}
    (h : MatterStore.handler.tracking (observe subscriptionId repairRun) c state r state') :
    state' = state ∧ MatterStore.handler c state.1 r state.1 := by
  obtain ⟨hstore, hevents⟩ := h
  have hsame : state'.1 = state.1 ∧ observe subscriptionId repairRun c r state.1 state'.1 = [] := by
    cases c with
    | newId | actorSecurity actorId => exact ⟨hstore, rfl⟩
    | administrationOperation operationId | nodeInventoryItem installationId fabricId nodeId =>
      exact ⟨hstore.1, rfl⟩
    | read request => exact ⟨hstore, rfl⟩
    | _ => exact hquiet.elim
  rw [hsame.2, List.append_nil] at hevents
  have heq : state' = state := Prod.ext hsame.1 hevents
  rw [heq] at hstore
  exact ⟨heq, hstore⟩

theorem guards_quiet (hquiet : Quiet c) {P : c.Response → RepairState → Prop}
    (h : ∀ state', Rely repairRun state state' → ∀ r, MatterStore.handler c state'.1 r state'.1 → P r state')
    (hstable : ∀ r state state', Rely repairRun state state' → P r state → P r state') :
    c.perform.Guards (MatterStore.handler.tracking (observe subscriptionId repairRun))
      (Unshared subscriptionId repairRun) (Rely repairRun)
      (fun state state' => ∀ other, other ≠ repairRun → Rely other state state') (Holds settings subscriptionId) P
      state := by
  intro state' hr hi _ r state'' hhandler
  obtain ⟨rfl, hhandled⟩ := quiet_same hquiet hhandler
  refine ⟨hi, fun other _ => Rely.refl other _, ?_⟩
  intro state''' hr' _
  exact hstable r _ _ hr' (h _ hr r hhandled)

theorem Safe.and {x : MatterM ε α} {Q Q' : α → RepairState → Prop}
    (h : Safe settings subscriptionId repairRun x Q state) (h' : Safe settings subscriptionId repairRun x Q' state) :
    Safe settings subscriptionId repairRun x (fun a state => Q a state ∧ Q' a state) state :=
  (Program.Guards.and h h').mono (fun _ _ _ hboth a ha => ⟨hboth.1 a ha, hboth.2 a ha⟩)

theorem safe_quiet {x : MatterM ε α} (hcalls : x.run.Calls Quiet) {K : RepairState → Prop}
    (hstable : ∀ state state', Rely repairRun state state' → K state → K state') (hk : K state) :
    Safe settings subscriptionId repairRun x (fun _ => K) state := by
  refine Program.Guards.mono (Program.Guards.of_silent (fun c s r s' hc hh => (quiet_same hc hh).1)
    (fun s other _ => Rely.refl other s) hstable hcalls hk) ?_
  exact fun _ _ _ hk _ _ => hk

theorem safe_commit {commit : MatterCommit} {wrap : StorageError → ε} {Q : RepairState → Prop}
    (hs : Holds settings subscriptionId state)
    (hstable : ∀ state state', Rely repairRun state state' → Q state → Q state')
    (h : ∀ state' store', Rely repairRun state state' → Holds settings subscriptionId state' →
      Unshared subscriptionId repairRun (.commit commit) state' → state'.1.apply commit = .ok store' →
      ∃ events, observe subscriptionId repairRun (.commit commit) (.ok ()) state'.1 store' = events ∧
        StepsTo settings.policy.maximumSubscribeAttempts subscriptionId repairRun state'
          (store', state'.2 ++ events) ∧ Q (store', state'.2 ++ events)) :
    Safe settings subscriptionId repairRun
      (Fallible.attempt wrap (MatterCall.perform (.commit commit)) : MatterM ε Unit) (fun _ => Q) state := by
  refine guards_attempt (Rely.refl repairRun) hs (fun _ state state' hr _ => hstable state state' hr) ?_
  intro state' hr hi ha r state'' hhandler
  obtain ⟨hstore, hevents⟩ := hhandler
  rcases hstore with ⟨value, hwritten, hresponse⟩ | ⟨hsame, error, hresponse⟩
  · have happly := MatterStore.map_unit_ok hwritten
    obtain ⟨events, hobserved, hsteps, hq⟩ := h state' state''.1 hr hi ha happly
    cases hresponse
    rw [hobserved] at hevents
    have heq : state'' = (state''.1, state'.2 ++ events) := Prod.ext rfl hevents
    rw [heq]
    refine ⟨hsteps.invariant, hsteps.others, ?_⟩
    intro state''' hr' _ _ _
    exact hstable _ _ hr' hq
  · cases hresponse
    have hnone : observe subscriptionId repairRun (.commit commit) (.error error) state'.1 state''.1 = [] := by
      cases commit <;> rfl
    rw [hnone, List.append_nil] at hevents
    obtain rfl : state'' = state' := Prod.ext hsame hevents
    refine ⟨hi, fun other _ => Rely.refl other _, ?_⟩
    intro _ _ _ _ hok
    cases hok

end Rules

section Loading
variable {settings : MatterRepairSettings} {subscriptionId : MatterSubscriptionId} {repairRun : RepairRun}
  {state : RepairState} {actorId : ActorId}

theorem security_calls (hsecurity : ∀ actorId, P (.actorSecurity actorId)) (actorId : ActorId) :
    (MatterAdministration.security actorId).run.Calls P := by
  refine calls_bind (calls_attempt ⟨hsecurity actorId, fun _ => trivial⟩) ?_
  intro stored
  cases stored <;> trivial

theorem authorize_calls (security : ActorSecurity) (action : CommandAction) :
    (MatterAdministration.authorize security action).run.Calls P := by
  unfold MatterAdministration.authorize
  split <;> trivial

theorem authorizeInstallationAction_calls (hsecurity : ∀ actorId, P (.actorSecurity actorId)) (actorId : ActorId)
    (action : CommandAction) :
    (MatterAdministration.authorizeInstallationAction actorId action).run.Calls P := by
  refine calls_bind (security_calls hsecurity actorId) ?_
  intro security
  exact calls_bind (authorize_calls security action) (fun _ => trivial)

theorem inventory_calls (hsecurity : ∀ actorId, P (.actorSecurity actorId))
    (hitem : ∀ installationId fabricId nodeId, P (.nodeInventoryItem installationId fabricId nodeId))
    (actorId : ActorId) (operation : MatterOperation) : (inventory actorId operation).run.Calls P := by
  unfold inventory
  split
  next fabricId nodeId _ =>
    refine calls_bind (calls_attempt (authorizeInstallationAction_calls hsecurity actorId _)) ?_
    intro installationId
    refine calls_bind (calls_attempt ⟨hitem installationId fabricId nodeId, fun _ => trivial⟩) ?_
    intro found
    cases found with
    | none => trivial
    | some record =>
      simp only
      split <;> trivial
  · trivial

theorem inventory_quiet (actorId : ActorId) (operation : MatterOperation) :
    (inventory actorId operation).run.Calls Quiet :=
  inventory_calls (fun _ => trivial) (fun _ _ _ => trivial) actorId operation

def recordOf (store : MatterStore) (operation : MatterOperation) : Option MatterSubscriptionId :=
  match operation.target with
  | .node fabricId nodeId => ((places store).find? (fun place => place.2 == (fabricId, nodeId))).map Prod.fst
  | _ => none

theorem recordOf_stable (h : Rely repairRun state state') :
    recordOf state'.1 operation = recordOf state.1 operation := by
  unfold recordOf
  rw [h.places]

theorem subscriptionOf_placed {key : MatterNodeKey} (h : store.subscriptionOf key = some subscription) :
    store.subscriptions.find subscription.subscriptionId = some subscription ∧
      ((places store).find? (fun place => place.2 == key)).map Prod.fst = some subscription.subscriptionId := by
  refine ⟨Table.find_eq_some.mpr ⟨List.mem_of_find?_eq_some h, rfl⟩, ?_⟩
  have hplace : (places store).find? (fun place => place.2 == key) =
      (store.subscriptionOf key).map (fun row => (row.subscriptionId, row.fabricId, row.nodeId)) := by
    unfold places
    rw [List.find?_map]
    rfl
  rw [hplace, h]
  rfl

theorem nodeInventoryItem_ok (h : store.nodeInventoryItem installationId fabricId nodeId = .ok (some record)) :
    store.nodes.find (fabricId, nodeId) = some record.node ∧
      record.projections = store.projectionsOf (fabricId, nodeId) ∧
      record.subscription = store.subscriptionOf (fabricId, nodeId) := by
  unfold MatterStore.nodeInventoryItem at h
  obtain ⟨_, _, h⟩ := bind_inv h
  split at h
  · cases h
  next node hnode =>
    split at h
    · cases h
    · obtain ⟨loaded, hloaded, h⟩ := bind_inv h
      cases h
      unfold MatterStore.loadInventoryRecord at hloaded
      split at hloaded
      · cases hloaded
      · simp only at hloaded
        split at hloaded
        · cases hloaded
          have hkey : node.key = (fabricId, nodeId) := (Table.find_eq_some.mp hnode).2
          show _ ∧ store.projectionsOf node.key = _ ∧ store.subscriptionOf node.key = _
          rw [hkey]
          exact ⟨hnode, rfl, rfl⟩
        · cases hloaded

def LoadedFor (operation : MatterOperation) (subscription : StoredMatterSubscription) (state : RepairState) : Prop :=
  Loaded subscription state ∧ recordOf state.1 operation = some subscription.subscriptionId

theorem LoadedFor.stable (h : LoadedFor operation subscription state) (hrely : Rely repairRun state state') :
    LoadedFor operation subscription state' :=
  ⟨h.1.stable hrely, (recordOf_stable hrely).trans h.2⟩

theorem nodeInventoryItem_safe (hs : Holds settings subscriptionId state)
    (htarget : operation.target = .node fabricId nodeId) :
    Safe settings subscriptionId repairRun
      (attempt .repository (MatterCall.perform (.nodeInventoryItem installationId fabricId nodeId)) :
        RepairM (Option MatterNodeInventoryRecord))
      (fun found state => ∀ record subscription, found = some record → record.subscription = some subscription →
        LoadedFor operation subscription state) state := by
  have hstable : ∀ (found : Option MatterNodeInventoryRecord) (state state' : RepairState),
      Rely repairRun state state' → (∀ record subscription, found = some record →
        record.subscription = some subscription → LoadedFor operation subscription state) →
      ∀ record subscription, found = some record → record.subscription = some subscription →
        LoadedFor operation subscription state' :=
    fun found state state' hr h record subscription hfound hsome => (h record subscription hfound hsome).stable hr
  refine guards_attempt (Rely.refl repairRun) hs (fun found state state' hr _ => hstable found state state' hr) ?_
  refine guards_quiet (c := .nodeInventoryItem installationId fabricId nodeId) trivial ?_ ?_
  · intro state' _ r hhandler found hok record subscription hfound hsome
    cases hok
    rcases hhandler.2 with hread | ⟨error, herror⟩
    · rw [hfound] at hread
      obtain ⟨-, -, hrecord⟩ := nodeInventoryItem_ok hread.symm
      rw [hsome] at hrecord
      obtain ⟨hrow, hplaced⟩ := subscriptionOf_placed hrecord.symm
      refine ⟨?_, ?_⟩
      · rintro row ⟨⟩
        exact ⟨subscription, hrow, Or.inl rfl⟩
      · unfold recordOf
        rw [htarget]
        exact hplaced
    · cases herror
  · intro r state state' hr h found hok
    exact hstable found state state' hr (h found hok)

theorem inventory_safe {K : RepairState → Prop} (hs : Holds settings subscriptionId state)
    (hstable : ∀ state state', Rely repairRun state state' → K state → K state') (hk : K state) :
    Safe settings subscriptionId repairRun (inventory actorId operation)
      (fun found state => LoadedFor operation found.2 state ∧ K state) state := by
  refine Safe.and ?_ (safe_quiet (inventory_quiet actorId operation) hstable hk)
  unfold inventory
  split
  next fabricId nodeId htarget =>
    refine Safe.bind (P := fun _ _ => True) (safe_quiet ?_ (fun _ _ _ h => h) trivial) hs ?_
    · exact calls_attempt (authorizeInstallationAction_calls (fun _ => trivial) actorId _)
    · intro installationId state hs _
      refine Safe.bind (nodeInventoryItem_safe hs htarget) hs ?_
      intro found state _ hfound
      cases found with
      | none => exact safe_throw
      | some record =>
        simp only
        split
        · exact safe_throw
        next subscription hsome =>
          exact safe_pure (fun state' hr => (hfound record subscription rfl hsome).stable hr)
  · exact safe_throw

def HeldFor (repairRun : RepairRun) (operation : MatterOperation) (state : RepairState) : Prop :=
  Held operation state ∧ operation.id = repairRun.operationId

theorem HeldFor.stable (h : HeldFor repairRun operation state)
    (hrely : Rely repairRun state state') : HeldFor repairRun operation state' := ⟨h.1.stable hrely, h.2⟩

theorem administrationOperation_found {row : MatterOperation × MatterOperationBinding}
    (h : store.administrationOperation operationId = some row) :
    store.operations.find operationId = some row.1 := by
  unfold MatterStore.administrationOperation at h
  split at h
  next operation binding hoperation _ =>
    cases h
    exact hoperation
  · cases h

theorem ownedOperation_safe {security : ActorSecurity} (hs : Holds settings subscriptionId state) :
    Safe settings subscriptionId repairRun
      (MatterAdministration.ownedOperation security repairRun.operationId)
      (fun found state => HeldFor repairRun found.1 state) state := by
  have hload : Safe settings subscriptionId repairRun
      (attempt .repository (MatterCall.perform (.administrationOperation repairRun.operationId)) :
        MatterM MatterAdministrationError (Option (MatterOperation × MatterOperationBinding)))
      (fun found state => ∀ row, found = some row → HeldFor repairRun row.1 state) state := by
    refine guards_attempt (Rely.refl repairRun) hs
      (fun found state state' hr _ h row hrow => (h row hrow).stable hr) ?_
    refine guards_quiet (c := .administrationOperation repairRun.operationId) trivial ?_ ?_
    · intro state' _ r hhandler found hok row hrow
      cases hok
      rcases hhandler.2 with hread | ⟨error, herror⟩
      · rw [hrow] at hread
        have hfind := administrationOperation_found (Except.ok.inj hread).symm
        have hid : row.1.id = repairRun.operationId := (Table.find_eq_some.mp hfind).2
        refine ⟨?_, hid⟩
        rintro _ ⟨⟩
        refine ⟨row.1, ?_, Or.inl rfl⟩
        rw [hid]
        exact hfind
      · cases herror
    · intro r state state' hr h found hok row hrow
      exact (h found hok row hrow).stable hr
  refine Safe.bind hload hs ?_
  intro found state _ hfound
  cases found with
  | none => exact safe_throw
  | some row =>
    simp only
    split
    · exact safe_pure (fun state' hr => (hfound row rfl).stable hr)
    · exact safe_throw

theorem ownedOperationForAction_safe {action : CommandAction} (hs : Holds settings subscriptionId state) :
    Safe settings subscriptionId repairRun
      (MatterAdministration.ownedOperationForAction actorId repairRun.operationId action)
      (fun operation state => HeldFor repairRun operation state) state := by
  refine Safe.bind (P := fun _ _ => True) (safe_quiet (security_calls (fun _ => trivial) actorId) (fun _ _ _ h => h) trivial) hs ?_
  intro security state hs _
  refine Safe.bind (P := fun _ _ => True)
    (safe_quiet (authorize_calls security action) (fun _ _ _ h => h) trivial) hs ?_
  intro _ state hs _
  refine Safe.bind (ownedOperation_safe hs) hs ?_
  intro found state _ hheld
  simp only
  split
  · exact safe_pure (fun state' hr => hheld.stable hr)
  · exact safe_throw

end Loading

section Moving
variable {settings : MatterRepairSettings} {subscriptionId : MatterSubscriptionId} {repairRun : RepairRun}
  {state : RepairState} {actorId : ActorId} {operation : MatterOperation} {next : MatterOperationPhase}
  {before after : StoredMatterSubscription} {projections : List MatterSubscriptionProjectionWrite}
  {repair : Option MatterRepairRecord} {now : Instant}

structure MovedFor (repairRun : RepairRun) (operation : MatterOperation) (next : MatterOperationPhase)
    (moved : MatterOperation) (state : RepairState) : Prop where
  held : HeldFor repairRun moved state
  phase : moved.phase = next
  target : moved.target = operation.target

theorem MovedFor.stable (h : MovedFor repairRun operation next moved state)
    (hrely : Rely repairRun state state') :
    MovedFor repairRun operation next moved state' := ⟨h.held.stable hrely, h.phase, h.target⟩

theorem advance_safe {Q : RepairState → Prop} (hs : Holds settings subscriptionId state)
    (hheld : HeldFor repairRun operation state)
    (hstable : ∀ state state', Rely repairRun state state' → Q state → Q state')
    (h : ∀ moved state' store', operation.transition next now = .ok moved → Rely repairRun state state' →
      Holds settings subscriptionId state' → Unshared subscriptionId repairRun (.commit (.repair
        (repairCommit moved operation.revision after before.revision projections repair))) state' →
      state'.1.apply (.repair (repairCommit moved operation.revision after before.revision projections repair)) =
        .ok store' →
      ∃ events, observe subscriptionId repairRun (.commit (.repair (repairCommit moved operation.revision after
          before.revision projections repair))) (.ok ()) state'.1 store' = events ∧
        StepsTo settings.policy.maximumSubscribeAttempts subscriptionId repairRun state'
          (store', state'.2 ++ events) ∧ Q (store', state'.2 ++ events)) :
    Safe settings subscriptionId repairRun (advance operation next before after projections repair now)
      (fun moved state => MovedFor repairRun operation next moved state ∧ Q state) state := by
  unfold advance
  split
  · exact safe_throw
  next moved hmoved =>
    obtain ⟨hphase, hmoves⟩ := MatterOperation.transition_ok hmoved
    have hcommit : Safe settings subscriptionId repairRun
        (attempt .repository (MatterCall.perform (.commit (.repair
          (repairCommit moved operation.revision after before.revision projections repair)))) : RepairM Unit)
        (fun _ state => MovedFor repairRun operation next moved state ∧ Q state) state := by
      refine safe_commit hs (fun state state' hr hq => ⟨hq.1.stable hr, hstable state state' hr hq.2⟩) ?_
      intro state' store' hr hi ha hwritten
      obtain ⟨events, hobserved, hsteps, hq⟩ := h moved state' store' hmoved hr hi ha hwritten
      refine ⟨events, hobserved, hsteps, ⟨⟨?_, hmoves.id.trans hheld.2⟩, hphase, hmoves.target⟩, hq⟩
      exact (repair_written hwritten).2.held_moved _
    refine Safe.bind hcommit hs ?_
    intro _ state _ hq
    exact safe_pure (fun state' hr => ⟨hq.1.stable hr, hstable state state' hr hq.2⟩)

theorem beginGap_safe (hs : Holds settings subscriptionId state) (hheld : HeldFor repairRun operation state)
    (hrequested : operation.phase = .requested) :
    Safe settings subscriptionId repairRun (beginGap settings actorId operation now)
      (fun moved state => MovedFor repairRun operation .readingGap moved state) state := by
  refine Safe.bind (inventory_safe hs (fun _ _ hr h => HeldFor.stable h hr) hheld) hs ?_
  rintro ⟨record, subscription⟩ state hs ⟨hloaded, hheld⟩
  simp only
  split
  · exact safe_throw
  next projections _ =>
    refine Program.Guards.mono (advance_safe (Q := fun _ => True) hs hheld (fun _ _ _ h => h) ?_)
      (fun _ _ _ h a ha => (h a ha).1)
    intro moved state' store' hmoved hr hi ha hwritten
    by_cases hmine : subscription.subscriptionId = subscriptionId
    · obtain ⟨events, hobserved, hsteps⟩ := begin_step hi hmine (hloaded.1.stable hr) (hheld.1.stable hr) hheld.2
        hrequested hmoved hwritten
      exact ⟨events, hobserved, hsteps, trivial⟩
    · have hother : (subscription.gapBegun settings.policy now).subscriptionId ≠ subscriptionId := hmine
      obtain ⟨hobserved, hsteps⟩ := foreign_commit hi hother (hloaded.1.stable hr) ⟨rfl, rfl, rfl⟩
        (hheld.1.stable hr) hmoved ⟨fun h => (nomatch h), fun _ => hrequested⟩ hwritten
      refine ⟨[], hobserved, ?_, trivial⟩
      rw [List.append_nil]
      exact hsteps

theorem owner_of_unshared {expected expected' : ℕ}
    (h : Unshared subscriptionId repairRun (.commit (.repair (repairCommit moved expected after expected' projections
      repair))) state) (hmine : after.subscriptionId = subscriptionId) (hphase : moved.phase ≠ .readingGap) :
    (ledger state.2).owner = some repairRun.operationId := h hmine hphase

def AttemptsOn (subscriptionId : MatterSubscriptionId) (repairRun : RepairRun) (attempt : RepairAttempt)
    (recordId : Option MatterSubscriptionId) (state : RepairState) : Prop :=
  recordId = some subscriptionId → Attempts repairRun attempt state

/-- Reading the gap ends in the reservation of the first attempt. -/
theorem readGap_safe (hs : Holds settings subscriptionId state) (hheld : HeldFor repairRun operation state)
    (hreading : operation.phase = .readingGap) :
    Safe settings subscriptionId repairRun (readGap settings actorId operation now)
      (fun moved state => MovedFor repairRun operation .subscribing moved state ∧
        AttemptsOn subscriptionId repairRun (.reserved repairRun) (recordOf state.1 operation) state) state := by
  refine Safe.bind (inventory_safe hs (fun _ _ hr h => HeldFor.stable h hr) hheld) hs ?_
  rintro ⟨record, subscription⟩ state hs ⟨hloaded, hheld⟩
  simp only
  split
  · exact safe_throw
  next selection _ =>
    have hread : (answer (MatterCall.read ⟨subscription.fabricId, subscription.nodeId, selection⟩) :
        RepairM (MatterCall.read ⟨subscription.fabricId, subscription.nodeId, selection⟩).Response).run.Calls Quiet :=
      ⟨trivial, fun _ => trivial⟩
    refine Safe.bind (safe_quiet hread (K := fun state => LoadedFor operation subscription state ∧
      HeldFor repairRun operation state) (fun _ _ hr h => ⟨h.1.stable hr, h.2.stable hr⟩) ⟨hloaded, hheld⟩) hs ?_
    rintro reports state hs ⟨hloaded, hheld⟩
    split
    · exact safe_throw
    next projections _ =>
      refine advance_safe hs hheld ?_ ?_
      · intro state state' hr hattempts hrecord
        rw [recordOf_stable hr] at hrecord
        exact (hattempts hrecord).stable (Or.inl rfl) hr
      · intro moved state' store' hmoved hr hi ha hwritten
        have hloaded' := hloaded.stable hr
        have hplaces : places store' = places state'.1 :=
          (repair_written hwritten).1.keeps_places hloaded'.1 ⟨rfl, rfl, rfl⟩
        have hphase := (MatterOperation.transition_ok hmoved).1
        by_cases hmine : subscription.subscriptionId = subscriptionId
        · have howner := owner_of_unshared ha hmine (by rw [hphase]; exact fun h => nomatch h)
          obtain ⟨hobserved, hsteps, hattempts⟩ := gapRead_step hi howner hmine hloaded'.1 (hheld.1.stable hr) hheld.2
            hreading hmoved hwritten
          exact ⟨_, hobserved, hsteps, fun _ => hattempts⟩
        · have hother : (subscription.gapRead now).subscriptionId ≠ subscriptionId := hmine
          obtain ⟨hobserved, hsteps⟩ := foreign_commit hi hother hloaded'.1 ⟨rfl, rfl, rfl⟩ (hheld.1.stable hr) hmoved
            ⟨fun h => (nomatch h), fun h => (nomatch h)⟩ hwritten
          refine ⟨[], hobserved, ?_, ?_⟩
          · rw [List.append_nil]
            exact hsteps
          · intro hrecord
            have hsame : recordOf store' operation = recordOf state'.1 operation := by
              unfold recordOf
              rw [hplaces]
            rw [hsame, hloaded'.2] at hrecord
            exact absurd (Option.some.inj hrecord) hmine

theorem AttemptsOn.stable {attempt : RepairAttempt} {recordId : Option MatterSubscriptionId}
    (h : AttemptsOn subscriptionId repairRun attempt recordId state)
    (hown : attempt = .reserved repairRun ∨ attempt = .called repairRun) (hrely : Rely repairRun state state') :
    AttemptsOn subscriptionId repairRun attempt recordId state' :=
  fun hrecord => (h hrecord).stable hown hrely

/-- A terminal phase may be written with any record that has no deadline. -/
theorem ending_safe (hs : Holds settings subscriptionId state) (hheld : HeldFor repairRun operation state)
    (hloaded : Loaded before state) (hterminal : next.isTerminal = true) (hplace : SamePlace before after)
    (hretry : after.recovery.retryAt = none)
    (hbudget : before.recovery.maximumSubscribeAttempts = settings.policy.maximumSubscribeAttempts →
      after.recovery.maximumSubscribeAttempts = settings.policy.maximumSubscribeAttempts)
    (hcount : ∀ state', Rely repairRun state state' → before.subscriptionId = subscriptionId →
      (ledger state'.2).owner = some repairRun.operationId → (ledger state'.2).attempt ≠ .called repairRun →
      after.recovery.subscribeAttempts = before.recovery.subscribeAttempts) :
    Safe settings subscriptionId repairRun (advance operation next before after projections repair now)
      (fun _ _ => True) state := by
  refine Program.Guards.mono (advance_safe (Q := fun _ => True) hs hheld (fun _ _ _ h => h) ?_)
    (fun _ _ _ _ _ _ => trivial)
  intro moved state' store' hmoved hr hi ha hwritten
  have hphase : moved.phase = next := (MatterOperation.transition_ok hmoved).1
  have hreading : next ≠ .readingGap := by
    rintro rfl
    cases hterminal
  by_cases hmine : before.subscriptionId = subscriptionId
  · have hafter : after.subscriptionId = subscriptionId := hplace.1.trans hmine
    have howner := owner_of_unshared ha hafter (by rw [hphase]; exact hreading)
    obtain ⟨hobserved, hsteps⟩ := end_step hi howner hmine (hloaded.stable hr) (hheld.1.stable hr) hheld.2 hmoved
      hterminal hplace hretry hbudget (hcount state' hr hmine howner) hwritten
    exact ⟨_, hobserved, hsteps, trivial⟩
  · have hother : after.subscriptionId ≠ subscriptionId := by
      rw [hplace.1]
      exact hmine
    have hrequested : next ≠ .requested := by
      rintro rfl
      cases hterminal
    obtain ⟨hobserved, hsteps⟩ := foreign_commit hi hother (hloaded.stable hr) hplace (hheld.1.stable hr) hmoved
      ⟨hrequested, fun h => absurd h hreading⟩ hwritten
    refine ⟨[], hobserved, ?_, trivial⟩
    rw [List.append_nil]
    exact hsteps

def Holding (repairRun : RepairRun) (operation : MatterOperation) (subscription : StoredMatterSubscription)
    (state : RepairState) : Prop :=
  HeldFor repairRun operation state ∧ Loaded subscription state

theorem Holding.stable (h : Holding repairRun operation subscription state)
    (hrely : Rely repairRun state state') :
    Holding repairRun operation subscription state' := ⟨h.1.stable hrely, h.2.stable hrely⟩

theorem giveUp_safe (hs : Holds settings subscriptionId state) (hholding : Holding repairRun operation before state) :
    Safe settings subscriptionId repairRun (giveUp operation before error now) (fun _ _ => True) state := by
  have hid : (answer MatterCall.newId : RepairM MatterCall.newId.Response).run.Calls Quiet :=
    ⟨trivial, fun _ => trivial⟩
  refine Safe.bind (safe_quiet hid (fun _ _ hr h => Holding.stable h hr) hholding) hs ?_
  rintro repairId state hs ⟨hheld, hloaded⟩
  refine Safe.bind (ending_safe hs hheld hloaded rfl ⟨rfl, rfl, rfl⟩ rfl (fun h => h) (fun _ _ _ _ _ => rfl)) hs ?_
  intro moved state _ _
  exact safe_pure (fun _ _ => trivial)

theorem recordAmbiguousDispatch_safe (hs : Holds settings subscriptionId state)
    (hheld : HeldFor repairRun operation state) :
    Safe settings subscriptionId repairRun (recordAmbiguousDispatch actorId operation now) (fun _ _ => True)
      state := by
  refine Safe.bind (inventory_safe hs (fun _ _ hr h => HeldFor.stable h hr) hheld) hs ?_
  rintro ⟨record, subscription⟩ state hs ⟨hloaded, hheld⟩
  exact giveUp_safe hs ⟨hheld, hloaded.1⟩

theorem owner_of_write {expected : Option ℕ}
    (h : Unshared subscriptionId repairRun (.commit (.subscription subscription expected)) state)
    (hmine : subscription.subscriptionId = subscriptionId) :
    (ledger state.2).owner = some repairRun.operationId := h hmine

theorem recordSubscribeFailure_safe (hs : Holds settings subscriptionId state)
    (hholding : Holding repairRun operation before state)
    (hcalled : AttemptsOn subscriptionId repairRun (.called repairRun) (some before.subscriptionId) state) :
    Safe settings subscriptionId repairRun (recordSubscribeFailure settings operation before error now)
      (fun _ _ => True) state := by
  unfold recordSubscribeFailure
  split
  · exact giveUp_safe hs hholding
  next hspare =>
    simp only
    split
    · exact safe_throw
    next retryAt _ =>
      have hcommit : Safe settings subscriptionId repairRun
          (attempt .repository (MatterCall.perform (.commit (.subscription (before.waiting retryAt now)
            (some before.revision)))) : RepairM Unit) (fun _ _ => True) state := by
        refine safe_commit (Q := fun _ => True) hs (fun _ _ _ h => h) ?_
        intro state' store' hr hi ha hwritten
        by_cases hmine : before.subscriptionId = subscriptionId
        · have hattempts := (hcalled (by rw [hmine])).stable (Or.inr rfl) hr
          obtain ⟨hobserved, hsteps⟩ := record_step hi (owner_of_write ha hmine) hmine (hholding.2.stable hr) hattempts
            (not_le.mp hspare) hwritten
          exact ⟨_, hobserved, hsteps, trivial⟩
        · have hother : (before.waiting retryAt now).subscriptionId ≠ subscriptionId := hmine
          obtain ⟨hobserved, hsteps⟩ := foreign_write hi hother (hholding.2.stable hr) ⟨rfl, rfl, rfl⟩ hwritten
          refine ⟨[], hobserved, ?_, trivial⟩
          rw [List.append_nil]
          exact hsteps
      refine Safe.bind hcommit hs ?_
      intro _ state _ _
      exact safe_pure (fun _ _ => trivial)

/-- The call to the controller leaves the store as it is. -/
theorem subscribe_call_safe {request : MatterSubscriptionRequest}
    (hholding : Holding repairRun operation subscription state)
    (hreserved : AttemptsOn subscriptionId repairRun (.reserved repairRun) (some request.subscriptionId) state) :
    Safe settings subscriptionId repairRun
      (answer (MatterCall.subscribe operationId request) : RepairM (MatterCall.subscribe operationId request).Response)
      (fun _ state => Holding repairRun operation subscription state ∧
        AttemptsOn subscriptionId repairRun (.called repairRun) (some request.subscriptionId) state) state := by
  intro state' hr hi ha response state'' hhandler
  obtain ⟨hstore, hevents⟩ := hhandler
  have hsame : state''.1 = state'.1 := hstore
  have hkept : Holding repairRun operation subscription state' := hholding.stable hr
  have hholding' : Holding repairRun operation subscription (state'.1, state''.2) := hkept
  rw [← hsame] at hholding'
  have hobserved : state''.2 = state'.2 ++ (if request.subscriptionId = subscriptionId then
      [.called repairRun (deadlineOf state'.1 subscriptionId)] else []) := hevents
  by_cases hmine : request.subscriptionId = subscriptionId
  · have howner : (ledger state'.2).owner = some repairRun.operationId := ha hmine
    obtain ⟨hdeadline, hsteps, hcalled⟩ := call_step hi howner ((hreserved (by rw [hmine])).stable (Or.inl rfl) hr)
    rw [if_pos hmine, hdeadline] at hobserved
    have heq : state'' = (state'.1, state'.2 ++ [.called repairRun none]) := Prod.ext hsame hobserved
    rw [← heq] at hsteps hcalled
    refine ⟨hsteps.invariant, hsteps.others, ?_⟩
    intro state''' hr' _ _ _
    exact ⟨hholding'.stable hr', fun _ => hcalled.stable (Or.inr rfl) hr'⟩
  · rw [if_neg hmine, List.append_nil] at hobserved
    have heq : state'' = state' := Prod.ext hsame hobserved
    rw [heq] at hholding' ⊢
    refine ⟨hi, fun other _ => Rely.refl other _, ?_⟩
    intro state''' hr' _ _ _
    exact ⟨hholding'.stable hr', fun hrecord => absurd (Option.some.inj hrecord) hmine⟩

theorem dispatch_safe (hs : Holds settings subscriptionId state)
    (hholding : Holding repairRun operation before state)
    (hreserved : AttemptsOn subscriptionId repairRun (.reserved repairRun) (some before.subscriptionId) state) :
    Safe settings subscriptionId repairRun (dispatch settings record operation before now) (fun _ _ => True)
      state := by
  unfold dispatch
  split
  · exact safe_throw
  next selection _ =>
    refine Safe.bind (subscribe_call_safe hholding hreserved) hs ?_
    rintro result state hs ⟨hholding, hcalled⟩
    split
    · exact recordSubscribeFailure_safe hs hholding hcalled
    next status =>
      split
      · have hcount : ∀ state', Rely repairRun state state' → before.subscriptionId = subscriptionId →
            (ledger state'.2).owner = some repairRun.operationId → (ledger state'.2).attempt ≠ .called repairRun →
            (before.subscribed settings.policy status now).recovery.subscribeAttempts =
              before.recovery.subscribeAttempts := by
          intro state' hr hmine howner hother
          have hattempts := (hcalled (by rw [hmine])).stable (Or.inr rfl) hr
          exact absurd (hattempts.2 howner) hother
        refine Safe.bind (ending_safe hs hholding.1 hholding.2 rfl ⟨rfl, rfl, rfl⟩ rfl (fun _ => rfl) hcount) hs ?_
        intro completed state _ _
        exact safe_pure (fun _ _ => trivial)
      · exact recordSubscribeFailure_safe hs hholding hcalled

theorem reserve_safe (hs : Holds settings subscriptionId state) {deadline : Instant}
    (hholding : Holding repairRun operation before state) (hdeadline : before.recovery.retryAt = some deadline)
    (hnow : ¬ now < deadline) :
    Safe settings subscriptionId repairRun
      (attempt .repository (MatterCall.perform (.commit (.subscription (before.attemptReserved now)
        (some before.revision)))) : RepairM Unit)
      (fun _ state => Holding repairRun operation (before.attemptReserved now) state ∧
        AttemptsOn subscriptionId repairRun (.reserved repairRun) (some before.subscriptionId) state) state := by
  refine safe_commit hs (fun _ _ hr h => ⟨h.1.stable hr, h.2.stable (Or.inl rfl) hr⟩) ?_
  intro state' store' hr hi ha hwritten
  obtain ⟨hwrote, hoperations⟩ := subscription_written hwritten
  have hholding' := hholding.stable hr
  have hkept : ∀ events, Holding repairRun operation (before.attemptReserved now) (store', events) := by
    intro events
    refine ⟨⟨?_, hholding'.1.2⟩, ?_⟩
    · intro row hrow
      rw [hoperations]
      exact hholding'.1.1 row hrow
    · rintro row ⟨⟩
      refine ⟨before.attemptReserved now, ?_, Or.inl rfl⟩
      rw [hwrote.find]
      exact if_pos rfl
  by_cases hmine : before.subscriptionId = subscriptionId
  · obtain ⟨hobserved, hsteps, hattempts, -⟩ := reserve_step hi settings.policy.attempts_lt (owner_of_write ha hmine)
      hmine hholding'.2 hdeadline hnow hwritten
    exact ⟨_, hobserved, hsteps, hkept _, fun _ => hattempts⟩
  · have hother : (before.attemptReserved now).subscriptionId ≠ subscriptionId := hmine
    obtain ⟨hobserved, hsteps⟩ := foreign_write hi hother hholding'.2 ⟨rfl, rfl, rfl⟩ hwritten
    refine ⟨[], hobserved, ?_, hkept _, fun hrecord => absurd (Option.some.inj hrecord) hmine⟩
    rw [List.append_nil]
    exact hsteps

theorem subscribe_safe {reservedAttempt : Bool} (hs : Holds settings subscriptionId state)
    (hheld : HeldFor repairRun operation state)
    (hreserved : reservedAttempt = true →
      AttemptsOn subscriptionId repairRun (.reserved repairRun) (recordOf state.1 operation) state) :
    Safe settings subscriptionId repairRun (subscribe settings actorId operation now reservedAttempt)
      (fun _ _ => True) state := by
  have hstable : ∀ state state', Rely repairRun state state' →
      (HeldFor repairRun operation state ∧ (reservedAttempt = true →
        AttemptsOn subscriptionId repairRun (.reserved repairRun) (recordOf state.1 operation) state)) →
      HeldFor repairRun operation state' ∧ (reservedAttempt = true →
        AttemptsOn subscriptionId repairRun (.reserved repairRun) (recordOf state'.1 operation) state') := by
    intro state state' hr h
    refine ⟨h.1.stable hr, fun htrue => ?_⟩
    rw [recordOf_stable hr]
    exact (h.2 htrue).stable (Or.inl rfl) hr
  refine Safe.bind (inventory_safe hs hstable ⟨hheld, hreserved⟩) hs ?_
  rintro ⟨record, subscription⟩ state hs ⟨hloaded, hheld, hreserved⟩
  simp only
  split
  next retryAt hdeadline =>
    split
    · exact safe_pure (fun _ _ => trivial)
    next hnow =>
      refine Safe.bind (reserve_safe hs ⟨hheld, hloaded.1⟩ hdeadline hnow) hs ?_
      rintro _ state hs ⟨hholding, hattempts⟩
      exact dispatch_safe hs hholding hattempts
  · split
    next htrue =>
      have hattempts := hreserved htrue
      rw [hloaded.2] at hattempts
      exact dispatch_safe hs ⟨hheld, hloaded.1⟩ hattempts
    · exact recordAmbiguousDispatch_safe hs hheld

theorem run_safe (hs : Holds settings subscriptionId state) :
    Safe settings subscriptionId repairRun (run settings actorId repairRun.operationId now) (fun _ _ => True)
      state := by
  have hload : Safe settings subscriptionId repairRun
      (within .administration (MatterAdministration.ownedOperationForAction actorId repairRun.operationId
        .matterRepairSubscription) : RepairM MatterOperation) (fun operation => HeldFor repairRun operation) state := by
    refine guards_attempt (Rely.refl repairRun) hs (fun _ _ _ hr _ h => HeldFor.stable h hr) ?_
    exact ownedOperationForAction_safe hs
  refine Safe.bind hload hs ?_
  intro operation state hs hheld
  split
  · exact safe_throw
  · split
    next hrequested =>
      refine Safe.bind (beginGap_safe hs hheld hrequested) hs ?_
      intro begun state hs hbegun
      refine Safe.bind (readGap_safe hs hbegun.held hbegun.phase) hs ?_
      rintro reading state hs ⟨hmoved, hattempts⟩
      refine subscribe_safe hs hmoved.held (fun _ => ?_)
      have hrecord : recordOf state.1 reading = recordOf state.1 begun := by
        unfold recordOf
        rw [hmoved.target]
      rw [hrecord]
      exact hattempts
    · exact recordAmbiguousDispatch_safe hs hheld
    · refine Safe.bind (inventory_safe hs (fun _ _ hr h => HeldFor.stable h hr) hheld) hs ?_
      rintro ⟨record, subscription⟩ state hs ⟨hloaded, hheld⟩
      simp only
      split
      · exact subscribe_safe hs hheld (fun h => nomatch h)
      · exact recordAmbiguousDispatch_safe hs hheld
    · exact safe_pure (fun _ _ => trivial)
    · exact safe_pure (fun _ _ => trivial)
    · exact safe_throw

end Moving

/-- Repairs that never write over one another's record stay within their budget, whatever the clock,
the controller and the crashes are. An established subscription is degraded by an operation without a call of its
own exactly where such an operation begins its repair. -/
theorem repairs_within_budget (settings : MatterRepairSettings) (subscriptionId : MatterSubscriptionId)
    (store : MatterStore) {reached : Parties MatterCall MatterCall.Response RepairState RepairRun
      (Except MatterSubscriptionRepairError MatterSubscriptionRepairOutcome)}
    (hrun : Relation.ReflTransGen
      (Parties.Acts (repairDuties settings subscriptionId (Unshared subscriptionId))) ⟨(store, []), []⟩ reached) :
    WithinBudget settings.policy.maximumSubscribeAttempts reached.state.2 ∧
      (Undegraded reached.state.2 ↔ BeginsNoEstablished reached.state.2) := by
  have hstart : Holds settings subscriptionId (store, []) := by
    refine ⟨⟨fun _ => Nat.zero_le _, ?_, ⟨fun _ _ _ h => (nomatch h), fun _ _ h => (nomatch h)⟩, ?_⟩,
      fun _ h => (nomatch h), fun _ _ => ⟨rfl, rfl⟩, fun _ h => (nomatch h)⟩
    · intro before run deadline after hsplit
      cases before <;> cases hsplit
    · intro before run after hsplit
      cases before <;> cases hsplit
  have hinvariant : Holds settings subscriptionId reached.state := by
    refine Parties.invariant (R := Rely) (G := fun run state state' => ∀ other, other ≠ run → Rely other state state')
      (I := Holds settings subscriptionId) (fun _ _ _ _ h h' => h.trans h')
      (fun _ _ _ _ hne _ h => h _ hne) (fun run state => Rely.refl run state) ?_ hrun hstart rfl
    rintro run program state ⟨actorId, now, rfl⟩ hi
    exact Program.Guards.mono (run_safe hi) (fun _ _ _ _ => trivial)
  exact ⟨hinvariant.budget, hinvariant.budget.undegraded_iff⟩

theorem lampAttempts_lt : 5 < 2^8 := by decide

def lampSettings : MatterRepairSettings :=
  ⟨plainIdentities, ⟨5, 1, 1000, 60000, 0, 60000, lampAttempts_lt⟩, fun _ _ => 0⟩

def lampRepair (operationId : MatterOperationId) : MatterOperation :=
  .new operationId .repairSubscription (.node 1 4) 30

def lampAdmission (operationId : MatterOperationId) (key : IdempotencyKey) : MatterCall :=
  .admission (lampRepair operationId) (lampBinding operationId .matterRepairSubscription key)
    (progressWithError (lampRepair operationId) none)

def lampAdmitted : MatterStore :=
  NodeRound.called NodeRound.lampRound.commissioned.2
    [(lampAnswers [], lampAdmission 11 NodeRound.removalKey), (lampAnswers [], lampAdmission 12 NodeRound.againKey)]

def vainAnswers : MatterAnswers :=
  { lampAnswers [] with
    actorSecurity := fun actorId => some ⟨⟨actorId, 1, .user, true⟩,
      [⟨1, actorId, [.matterRepairSubscription], .installation 1, .security, true⟩]⟩
    subscribe := fun request => .ok ⟨request.subscriptionId, false, 1, 14⟩ }

def lampProgram (repairRun : RepairRun) (now : Instant) :
    Program MatterCall MatterCall.Response (Except MatterSubscriptionRepairError MatterSubscriptionRepairOutcome) :=
  (run lampSettings 9 repairRun.operationId now).run

def lampRunFor (repairRun : RepairRun) (now : Instant) (calls : ℕ) (state : RepairState) : RepairState :=
  ((lampProgram repairRun now).runFor
    (trackingApply (MatterStore.answering vainAnswers) (observe 4 repairRun)) calls state).2

theorem lampRunFor_acts {allowed : RepairRun → MatterCall → RepairState → Prop} (repairRun : RepairRun) (now : Instant)
    (calls : ℕ) (state : RepairState) (h : (lampProgram repairRun now).PermittedFor
      (trackingApply (MatterStore.answering vainAnswers) (observe 4 repairRun)) (allowed repairRun) calls state) :
    Relation.ReflTransGen (Parties.Acts (repairDuties lampSettings 4 allowed)) ⟨state, []⟩
      ⟨lampRunFor repairRun now calls state, []⟩ := by
  have hstarts : (repairDuties lampSettings 4 allowed).starts repairRun (lampProgram repairRun now) := ⟨9, now, rfl⟩
  exact Parties.of_runFor (trackingApply_handles (MatterStore.answering_handles vainAnswers) _) hstarts []
    (fun _ hmember => absurd hmember List.not_mem_nil) calls state h

def lampRepairedTwice : RepairState := lampRunFor ⟨2, 11⟩ 2000000000 30 (lampRunFor ⟨1, 11⟩ 40 30 (lampAdmitted, []))

theorem lamp_within_budget : WithinBudget 5 lampRepairedTwice.2 ∧
    (Undegraded lampRepairedTwice.2 ↔ BeginsNoEstablished lampRepairedTwice.2) :=
  repairs_within_budget lampSettings 4 lampAdmitted
    ((lampRunFor_acts ⟨1, 11⟩ 40 30 (lampAdmitted, []) (by decide +kernel)).trans
      (lampRunFor_acts ⟨2, 11⟩ 2000000000 30 _ (by decide +kernel)))

/-- The first repair stops after its call. The deadline that the second repair leaves lets the first
one call again, though the result of its call was never recorded. -/
theorem lamp_called_again :
    Relation.ReflTransGen (Parties.Acts (repairDuties lampSettings 4 (fun _ _ _ => True))) ⟨(lampAdmitted, []), []⟩
        ⟨lampRunFor ⟨3, 11⟩ 2000000000 30 (lampRunFor ⟨2, 12⟩ 50 30 (lampRunFor ⟨1, 11⟩ 40 12 (lampAdmitted, []))), []⟩ ∧
      ¬ WithinBudget 5 (lampRunFor ⟨3, 11⟩ 2000000000 30
        (lampRunFor ⟨2, 12⟩ 50 30 (lampRunFor ⟨1, 11⟩ 40 12 (lampAdmitted, [])))).2 := by
  refine ⟨?_, ?_⟩
  · have hall : ∀ (repairRun : RepairRun) (now : Instant) (calls : ℕ) (state : RepairState),
        Relation.ReflTransGen (Parties.Acts (repairDuties lampSettings 4 (fun _ _ _ => True))) ⟨state, []⟩
          ⟨lampRunFor repairRun now calls state, []⟩ :=
      fun repairRun now calls state => lampRunFor_acts repairRun now calls state
        (Program.permittedFor_of_forall (fun _ _ => trivial) calls _ _)
    exact ((hall ⟨1, 11⟩ 40 12 _).trans (hall ⟨2, 12⟩ 50 30 _)).trans (hall ⟨3, 11⟩ 2000000000 30 _)
  · intro hbudget
    have hevents : (lampRunFor ⟨3, 11⟩ 2000000000 30
        (lampRunFor ⟨2, 12⟩ 50 30 (lampRunFor ⟨1, 11⟩ 40 12 (lampAdmitted, [])))).2 =
        [.began ⟨1, 11⟩, .degraded ⟨1, 11⟩, .reserved ⟨1, 11⟩ none 40, .called ⟨1, 11⟩ none, .began ⟨2, 12⟩,
          .reserved ⟨2, 12⟩ none 50, .called ⟨2, 12⟩ none, .recorded ⟨2, 12⟩, .reserved ⟨3, 11⟩ (some 1000000050) 2000000000] ++
        .called ⟨3, 11⟩ none :: [.recorded ⟨3, 11⟩] := by
      decide +kernel
    have hnone := hbudget.unrepeated _ _ _ _ hevents
    revert hnone
    decide

end MatterSubscriptionRepair
end HomeMagic
