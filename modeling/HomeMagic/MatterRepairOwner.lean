import HomeMagic.MatterRepairBudget

/-! Why an unshared record keeps repairs within their budget. -/
namespace HomeMagic
open List

variable {after subscription : StoredMatterSubscription} {store : MatterStore} {operationId : MatterOperationId}
  {α : Type} {revision : α → ℕ}

variable {store' : MatterStore} {before : StoredMatterSubscription} {events : List RepairEvent}
  {operation : MatterOperation}

namespace MatterSubscriptionRepair

open Fallible MatterNodeWorkflow

theorem ledger_append (events : List RepairEvent) (event : RepairEvent) :
    ledger (events ++ [event]) = (ledger events).after event := by
  unfold ledger
  rw [foldl_append]
  rfl

theorem pendingCall_append (operationId : MatterOperationId) (events : List RepairEvent) (event : RepairEvent) :
    pendingCall operationId (events ++ [event]) = pendingAfter operationId (pendingCall operationId events) event := by
  unfold pendingCall
  rw [foldl_append]
  rfl

theorem owner_mem_begun (h : (ledger events).owner = some operationId) :
    operationId ∈ (ledger events).begun := by
  induction events using List.reverseRecOn with
  | nil => cases h
  | append_singleton events event ih =>
    rw [ledger_append] at h ⊢
    cases event with
    | began run =>
      cases h
      exact mem_cons_self
    | ended run =>
      simp only [RepairLedger.after] at h ⊢
      split at h
      next hcalled =>
        rw [if_pos hcalled]
        exact ih h
      next hother =>
        rw [if_neg hother]
        exact ih h
    | _ => exact ih h

def RepairAttempt.pending : RepairAttempt → Option RepairRun
  | .called run => some run
  | _ => none

def RepairAttempt.outstanding : RepairAttempt → ℕ
  | .reserved _ => 1
  | _ => 0

/-- An event that is within the bounds. -/
theorem WithinBudget.append {maximum : ℕ} {event : RepairEvent} (h : WithinBudget maximum events)
    (hattempts : ∀ operationId, (events ++ [event]).countP (isCallFor operationId) ≤ maximum)
    (hunrepeated : ∀ run deadline, event = .called run deadline →
      pendingCall run.operationId events = none ∧ deadline = none)
    (hpunctual : ∀ run deadline now, event = .reserved run (some deadline) now → deadline ≤ now)
    (hkept : ∀ run, event = .degraded run → events.getLast? = some (.began run)) :
    WithinBudget maximum (events ++ [event]) where
  attempts := hattempts
  unrepeated := by
    intro before run deadline after hsplit
    rcases eq_nil_or_concat after with rfl | ⟨rest, last, rfl⟩
    · have hlast := append_inj' (hsplit.trans rfl) rfl
      obtain ⟨rfl, hevent⟩ := hlast
      exact (hunrepeated run deadline (singleton_inj.mp hevent)).1
    · have hparts : events ++ [event] = (before ++ .called run deadline :: rest) ++ [last] := by
        rw [hsplit, concat_eq_append]
        simp
      obtain ⟨hevents, -⟩ := append_inj' hparts rfl
      exact h.unrepeated before run deadline rest hevents
  punctual := by
    refine ⟨?_, ?_⟩
    · intro run deadline now hmem
      rcases mem_append.mp hmem with hmem | hmem
      · exact h.punctual.1 run deadline now hmem
      · exact hpunctual run deadline now (mem_singleton.mp hmem).symm
    · intro run deadline hmem
      rcases mem_append.mp hmem with hmem | hmem
      · exact h.punctual.2 run deadline hmem
      · exact (hunrepeated run deadline (mem_singleton.mp hmem).symm).2
  kept := by
    intro before run after hsplit
    rcases eq_nil_or_concat after with rfl | ⟨rest, last, rfl⟩
    · obtain ⟨rfl, hevent⟩ := append_inj' (hsplit.trans rfl) rfl
      exact Or.inl (hkept run (singleton_inj.mp hevent))
    · have hparts : events ++ [event] = (before ++ .degraded run :: rest) ++ [last] := by
        rw [hsplit, concat_eq_append]
        simp
      obtain ⟨hevents, -⟩ := append_inj' hparts rfl
      exact h.kept before run rest hevents

structure Owned (maximum : ℕ) (subscriptionId : MatterSubscriptionId) (state : RepairState)
    (operationId : MatterOperationId) : Prop where
  pending : pendingCall operationId state.2 = (ledger state.2).attempt.pending
  calls : state.2.countP (isCallFor operationId) + (ledger state.2).attempt.outstanding ≤
    (ledger state.2).reservations
  bound : (ledger state.2).reservations ≤ maximum
  record : ∃ subscription, state.1.subscriptions.find subscriptionId = some subscription ∧
    subscription.recovery.maximumSubscribeAttempts = maximum ∧
    (∀ retryAt, subscription.recovery.retryAt = some retryAt →
      (ledger state.2).attempt = .waiting ∧ subscription.recovery.subscribeAttempts < maximum) ∧
    ((ledger state.2).attempt ≠ .over_ →
      subscription.recovery.subscribeAttempts = (ledger state.2).reservations) ∧
    (subscription.state = .established →
      ∃ operation, state.1.operations.find operationId = some operation ∧ operation.phase.isTerminal = true)
  reading : ∀ operation, state.1.operations.find operationId = some operation → operation.phase = .readingGap →
    (ledger state.2).attempt = .idle ∧ (ledger state.2).reservations = 0

structure RepairInvariant (maximum : ℕ) (subscriptionId : MatterSubscriptionId) (state : RepairState) : Prop where
  budget : WithinBudget maximum state.2
  begun : ∀ operationId ∈ (ledger state.2).begun, ∃ operation,
    state.1.operations.find operationId = some operation ∧ operation.phase ≠ .requested
  unbegun : ∀ operationId, operationId ∉ (ledger state.2).begun →
    state.2.countP (isCallFor operationId) = 0 ∧ pendingCall operationId state.2 = none
  owned : ∀ operationId, (ledger state.2).owner = some operationId → Owned maximum subscriptionId state operationId

def Newer {α : Type} (revision : α → ℕ) (old new : Option α) : Prop :=
  ∀ row, old = some row → ∃ row', new = some row' ∧ (row' = row ∨ revision row < revision row')

theorem Newer.refl (old : Option α) : Newer revision old old :=
  fun row hrow => ⟨row, hrow, Or.inl rfl⟩

theorem Newer.trans {first second third : Option α} (h : Newer revision first second)
    (h' : Newer revision second third) : Newer revision first third := by
  intro row hrow
  obtain ⟨row', hrow', hnewer⟩ := h row hrow
  obtain ⟨row'', hrow'', hnewer'⟩ := h' row' hrow'
  refine ⟨row'', hrow'', ?_⟩
  rcases hnewer with rfl | hlt
  · exact hnewer'
  · rcases hnewer' with rfl | hlt'
    · exact Or.inr hlt
    · exact Or.inr (hlt.trans hlt')

def places (store : MatterStore) : List (MatterSubscriptionId × MatterNodeKey) :=
  store.subscriptions.rows.map (fun row => (row.subscriptionId, row.fabricId, row.nodeId))

/-- The others never touch the attempt of a run, unless they begin a repair of their own. -/
structure Rely (run : RepairRun) (state state' : RepairState) : Prop where
  operations : ∀ operationId, Newer MatterOperation.revision (state.1.operations.find operationId)
    (state'.1.operations.find operationId)
  records : ∀ recordId, Newer StoredMatterSubscription.revision (state.1.subscriptions.find recordId)
    (state'.1.subscriptions.find recordId)
  places : places state'.1 = places state.1
  begun : ∀ operationId ∈ (ledger state.2).begun, operationId ∈ (ledger state'.2).begun
  owner : (ledger state'.2).owner = (ledger state.2).owner ∨
    ∃ operationId, operationId ∉ (ledger state.2).begun ∧ (ledger state'.2).owner = some operationId
  attempt : (ledger state'.2).owner = (ledger state.2).owner → ∀ attempt,
    attempt = .reserved run ∨ attempt = .called run → (ledger state.2).attempt = attempt →
    (ledger state'.2).attempt = attempt

theorem Rely.refl (run : RepairRun) (state : RepairState) : Rely run state state :=
  ⟨fun _ => Newer.refl _, fun _ => Newer.refl _, rfl, fun _ h => h, Or.inl rfl, fun _ _ _ h => h⟩

theorem Rely.trans {run : RepairRun} {first second third : RepairState}
    (h : Rely run first second) (h' : Rely run second third) :
    Rely run first third where
  operations := fun operationId => (h.operations operationId).trans (h'.operations operationId)
  records := fun recordId => (h.records recordId).trans (h'.records recordId)
  places := h'.places.trans h.places
  begun := fun operationId hmem => h'.begun operationId (h.begun operationId hmem)
  owner := by
    rcases h'.owner with hsame | ⟨operationId, hfresh, howner⟩
    · rcases h.owner with hsame' | ⟨operationId, hfresh, howner⟩
      · exact Or.inl (hsame.trans hsame')
      · exact Or.inr ⟨operationId, hfresh, hsame.trans howner⟩
    · exact Or.inr ⟨operationId, fun hmem => hfresh (h.begun operationId hmem), howner⟩
  attempt := by
    intro hsame attempt hmine hattempt
    -- an owner that returns would have begun twice
    have hsecond : (ledger second.2).owner = (ledger first.2).owner := by
      rcases h.owner with hkept | ⟨operationId, hfresh, howner⟩
      · exact hkept
      · rcases h'.owner with hkept' | ⟨operationId', hfresh', howner'⟩
        · rw [hsame, howner] at hkept'
          exact absurd (owner_mem_begun hkept') hfresh
        · rw [hsame] at howner'
          exact absurd (h.begun operationId' (owner_mem_begun howner')) hfresh'
    exact h'.attempt (hsame.trans hsecond.symm) attempt hmine (h.attempt hsecond attempt hmine hattempt)

structure Wrote (store store' : MatterStore) (before after : StoredMatterSubscription) : Prop where
  current : ∃ row, store.subscriptions.find after.subscriptionId = some row ∧ row.revision = before.revision
  table : store'.subscriptions = store.subscriptions.upsert after
  valid : MatterStore.validRecovery after.recovery = true
  newer : before.revision < after.revision

structure MovedTo (store store' : MatterStore) (operation moved : MatterOperation) : Prop where
  current : ∃ row, store.operations.find moved.id = some row ∧ row.revision = operation.revision
  find : ∀ operationId, store'.operations.find operationId =
    if moved.id = operationId then some moved else store.operations.find operationId
  newer : operation.revision < moved.revision

theorem Wrote.find {store store' : MatterStore} {before after : StoredMatterSubscription}
    (h : Wrote store store' before after) (recordId : MatterSubscriptionId) :
    store'.subscriptions.find recordId =
      if after.subscriptionId = recordId then some after else store.subscriptions.find recordId := by
  rw [h.table]
  exact Table.find_upsert

theorem lt_of_next {expected revision : ℕ} (hnext : revision = min (expected + 1) (2^64 - 1))
    (hbounded : revision < 2^63) : expected < revision := by
  omega

theorem wrote_of_subscribed
    (h : MatterStore.Subscribed store store' after (some before.revision)) : Wrote store store' before after where
  current := by
    have hexpected := h.expected
    rw [Option.map_eq_some_iff] at hexpected
    exact hexpected
  table := by
    rw [h.rest]
  valid := h.recovery
  newer := lt_of_next h.next h.bounded

theorem subscription_written (h : store.apply (.subscription after (some before.revision)) = .ok store') :
    Wrote store store' before after ∧ ∀ operationId, store'.operations.find operationId =
      store.operations.find operationId := by
  have hsubscribed := MatterStore.storeSubscription_ok h
  refine ⟨wrote_of_subscribed hsubscribed, ?_⟩
  intro operationId
  rw [hsubscribed.same.1.operations]

theorem repair_written {moved : MatterOperation} {projections : List MatterSubscriptionProjectionWrite}
    {repair : Option MatterRepairRecord}
    (h : store.apply (.repair (repairCommit moved operation.revision after before.revision projections repair)) =
      .ok store') :
    Wrote store store' before after ∧ MovedTo store store' operation moved := by
  obtain ⟨first, middle, current, hsame, hsubscribed, hadvanced, -, -⟩ := MatterStore.commitSubscriptionRepair_ok h
  have hwrote : Wrote first middle before after := wrote_of_subscribed hsubscribed
  have hsubscriptions : store'.subscriptions = middle.subscriptions := by
    rw [hadvanced.rest]
  have hoperations : middle.operations = store.operations := by
    rw [hsubscribed.same.1.operations, hsame.operations]
  refine ⟨⟨?_, ?_, hwrote.valid, hwrote.newer⟩, ?_, ?_, ?_⟩
  · rw [← hsame.subscriptions]
    exact hwrote.current
  · rw [hsubscriptions, hwrote.table, hsame.subscriptions]
  · refine ⟨current, ?_, hadvanced.expected⟩
    rw [← hoperations]
    exact hadvanced.found
  · intro operationId
    rw [hadvanced.operations, Table.find_replace hadvanced.found, hoperations]
    rfl
  · exact lt_of_next hadvanced.next hadvanced.bounded

def Held (operation : MatterOperation) (state : RepairState) : Prop :=
  Newer MatterOperation.revision (some operation) (state.1.operations.find operation.id)

def Loaded (subscription : StoredMatterSubscription) (state : RepairState) : Prop :=
  Newer StoredMatterSubscription.revision (some subscription)
    (state.1.subscriptions.find subscription.subscriptionId)

theorem Newer.current {row row' : α} {new : Option α} (h : Newer revision (some row) new) (hnew : new = some row')
    (hsame : revision row' = revision row) :
    row' = row := by
  obtain ⟨row'', hrow'', hnewer⟩ := h row rfl
  rw [hnew] at hrow''
  cases hrow''
  rcases hnewer with rfl | hlt
  · rfl
  · omega

section Stability
variable {run : RepairRun} {state state' : RepairState}

theorem Held.stable (h : Held operation state) (hrely : Rely run state state') : Held operation state' :=
  Newer.trans h (hrely.operations operation.id)

theorem Loaded.stable (h : Loaded subscription state) (hrely : Rely run state state') : Loaded subscription state' :=
  Newer.trans h (hrely.records subscription.subscriptionId)

def Attempts (run : RepairRun) (attempt : RepairAttempt) (state : RepairState) : Prop :=
  run.operationId ∈ (ledger state.2).begun ∧
    ((ledger state.2).owner = some run.operationId → (ledger state.2).attempt = attempt)

theorem Attempts.stable {attempt : RepairAttempt} (h : Attempts run attempt state)
    (hmine : attempt = .reserved run ∨ attempt = .called run) (hrely : Rely run state state') :
    Attempts run attempt state' := by
  refine ⟨hrely.begun _ h.1, ?_⟩
  intro howner
  rcases hrely.owner with hsame | ⟨operationId, hfresh, hother⟩
  · exact hrely.attempt hsame attempt hmine (h.2 (hsame ▸ howner))
  · rw [howner] at hother
    cases hother
    exact absurd h.1 hfresh

end Stability

theorem MovedTo.held {state : RepairState} {store' : MatterStore} {operation moved : MatterOperation}
    (h : MovedTo state.1 store' operation moved) (hheld : Held operation state) (hid : moved.id = operation.id) :
    state.1.operations.find operation.id = some operation := by
  obtain ⟨row, hrow, hrevision⟩ := h.current
  rw [hid] at hrow
  obtain rfl := hheld.current hrow hrevision
  exact hrow

theorem Wrote.loaded {state : RepairState}
    (h : Wrote state.1 store' before after) (hloaded : Loaded before state)
    (hid : after.subscriptionId = before.subscriptionId) :
    state.1.subscriptions.find before.subscriptionId = some before := by
  obtain ⟨row, hrow, hrevision⟩ := h.current
  rw [hid] at hrow
  obtain rfl := hloaded.current hrow hrevision
  exact hrow

def SamePlace (before after : StoredMatterSubscription) : Prop :=
  after.subscriptionId = before.subscriptionId ∧ after.fabricId = before.fabricId ∧ after.nodeId = before.nodeId

theorem Wrote.keeps_places {state : RepairState}
    (h : Wrote state.1 store' before after) (hloaded : Loaded before state) (hplace : SamePlace before after) :
    places store' = places state.1 := by
  obtain ⟨hid, hfabric, hnode⟩ := hplace
  unfold places
  rw [h.table]
  have hfound : state.1.subscriptions.find after.subscriptionId = some before := by
    rw [hid]
    exact h.loaded hloaded hid
  apply Table.map_rows_upsert hfound
  rw [hid, hfabric, hnode]

theorem MovedTo.newer_find {moved : MatterOperation}
    (h : MovedTo store store' operation moved) (operationId : MatterOperationId) :
    Newer MatterOperation.revision (store.operations.find operationId) (store'.operations.find operationId) := by
  intro row hrow
  rw [h.find]
  split
  next hsame =>
    obtain ⟨current, hcurrent, hrevision⟩ := h.current
    rw [hsame, hrow] at hcurrent
    cases hcurrent
    refine ⟨moved, rfl, Or.inr ?_⟩
    rw [hrevision]
    exact h.newer
  · exact ⟨row, hrow, Or.inl rfl⟩

theorem Wrote.newer_find (h : Wrote store store' before after) (subscriptionId : MatterSubscriptionId) :
    Newer StoredMatterSubscription.revision (store.subscriptions.find subscriptionId)
      (store'.subscriptions.find subscriptionId) := by
  intro row hrow
  rw [h.find]
  split
  next hsame =>
    obtain ⟨current, hcurrent, hrevision⟩ := h.current
    rw [hsame, hrow] at hcurrent
    cases hcurrent
    refine ⟨after, rfl, Or.inr ?_⟩
    rw [hrevision]
    exact h.newer
  · exact ⟨row, hrow, Or.inl rfl⟩

def RepairEvent.run : RepairEvent → RepairRun
  | began run | reserved run _ _ | called run _ | recorded run | ended run | degraded run => run

section Steps
variable {maximum : ℕ} {subscriptionId : MatterSubscriptionId} {state : RepairState} {store' : MatterStore}
  {event : RepairEvent}

theorem countP_append_other (hother : event.run.operationId ≠ operationId) :
    (events ++ [event]).countP (isCallFor operationId) = events.countP (isCallFor operationId) := by
  have hnot : isCallFor operationId event = false := by
    cases event with
    | called run deadline => exact beq_eq_false_iff_ne.mpr hother
    | _ => rfl
  rw [countP_append, countP_singleton, hnot]
  rfl

theorem pendingAfter_none_other (hother : event.run.operationId ≠ operationId) :
    pendingAfter operationId none event = none := by
  cases event with
  | called run deadline => exact if_neg hother
  | recorded run => simp [pendingAfter]
  | ended run => simp [pendingAfter]
  | _ => rfl

theorem after_same (hbegan : ∀ run, event ≠ .began run) (ledger : RepairLedger) :
    (ledger.after event).owner = ledger.owner ∧ (ledger.after event).begun = ledger.begun := by
  cases event with
  | began run => exact absurd rfl (hbegan run)
  | ended run =>
    simp only [RepairLedger.after]
    split <;> exact ⟨rfl, rfl⟩
  | _ => exact ⟨rfl, rfl⟩

def StaysBegun (store store' : MatterStore) : Prop :=
  ∀ operationId row, store.operations.find operationId = some row → row.phase ≠ .requested →
    ∃ row', store'.operations.find operationId = some row' ∧ row'.phase ≠ .requested

/-- An event of the operation that the record belongs to. -/
theorem RepairInvariant.owner_step (h : RepairInvariant maximum subscriptionId state)
    (howner : (ledger state.2).owner = some event.run.operationId) (hbegan : ∀ run, event ≠ .began run)
    (hdegraded : ∀ run, event ≠ .degraded run)
    (hcalled : ∀ run deadline, event = .called run deadline →
      (ledger state.2).attempt.pending = none ∧ deadline = none)
    (hreserved : ∀ run deadline now, event = .reserved run (some deadline) now → deadline ≤ now)
    (hstays : StaysBegun state.1 store')
    (howned : Owned maximum subscriptionId (store', state.2 ++ [event]) event.run.operationId) :
    RepairInvariant maximum subscriptionId (store', state.2 ++ [event]) := by
  obtain ⟨hsameOwner, hsameBegun⟩ := after_same hbegan (ledger state.2)
  have hmem := owner_mem_begun howner
  refine ⟨h.budget.append ?_ ?_ hreserved (fun run heq => absurd heq (hdegraded run)), ?_, ?_, ?_⟩
  · intro operationId
    by_cases hmine : event.run.operationId = operationId
    · rw [← hmine]
      have hcalls : (state.2 ++ [event]).countP (isCallFor event.run.operationId) +
          (ledger (state.2 ++ [event])).attempt.outstanding ≤ (ledger (state.2 ++ [event])).reservations := howned.calls
      have hbound : (ledger (state.2 ++ [event])).reservations ≤ maximum := howned.bound
      omega
    · rw [countP_append_other hmine]
      exact h.budget.attempts operationId
  · intro run deadline heq
    obtain ⟨hpending, hdeadline⟩ := hcalled run deadline heq
    refine ⟨?_, hdeadline⟩
    have hrun : event.run = run := by
      rw [heq]
      rfl
    rw [← hrun, (h.owned _ howner).pending]
    exact hpending
  · intro operationId hbegun
    rw [ledger_append, hsameBegun] at hbegun
    obtain ⟨row, hrow, hphase⟩ := h.begun operationId hbegun
    exact hstays operationId row hrow hphase
  · intro operationId hunbegun
    rw [ledger_append, hsameBegun] at hunbegun
    have hother : event.run.operationId ≠ operationId := by
      intro hsame
      rw [hsame] at hmem
      exact hunbegun hmem
    obtain ⟨hcount, hpending⟩ := h.unbegun operationId hunbegun
    refine ⟨(countP_append_other hother).trans hcount, ?_⟩
    rw [pendingCall_append, hpending]
    exact pendingAfter_none_other hother
  · intro operationId howner'
    rw [ledger_append, hsameOwner, howner] at howner'
    cases howner'
    exact howned

theorem rely_of_owner_step (event : RepairEvent) (hbegan : ∀ run, event ≠ .began run)
    (hoperations : ∀ operationId, Newer MatterOperation.revision (state.1.operations.find operationId)
      (store'.operations.find operationId))
    (hrecords : ∀ recordId, Newer StoredMatterSubscription.revision (state.1.subscriptions.find recordId)
      (store'.subscriptions.find recordId)) (hplaces : places store' = places state.1)
    {other : RepairRun} (hattempt : ∀ attempt, attempt = .reserved other ∨ attempt = .called other →
      (ledger state.2).attempt = attempt → ((ledger state.2).after event).attempt = attempt) :
    Rely other state (store', state.2 ++ [event]) := by
  obtain ⟨hsameOwner, hsameBegun⟩ := after_same hbegan (ledger state.2)
  refine ⟨hoperations, hrecords, hplaces, ?_, Or.inl ?_, ?_⟩
  · intro operationId hmem
    rw [ledger_append, hsameBegun]
    exact hmem
  · rw [ledger_append, hsameOwner]
  · intro _ attempt hmine hbefore
    rw [ledger_append]
    exact hattempt attempt hmine hbefore

theorem isEstablished_eq (h : store.subscriptions.find subscriptionId = some subscription) :
    isEstablished store subscriptionId = (subscription.state == .established) := by
  unfold isEstablished
  rw [h]
  rfl

theorem degrades_nil {run : RepairRun} (hbefore : store.subscriptions.find subscriptionId = some before)
    (hafter : store'.subscriptions.find subscriptionId = some after)
    (hstate : before.state = .established → after.state = .established) :
    degrades subscriptionId run store store' = [] := by
  unfold degrades
  rw [isEstablished_eq hbefore, isEstablished_eq hafter]
  by_cases hestablished : before.state = .established
  · rw [hestablished, hstate hestablished]
    rfl
  · rw [beq_eq_false_iff_ne.mpr hestablished]
    rfl

theorem deadlineOf_eq (h : store.subscriptions.find subscriptionId = some subscription) :
    deadlineOf store subscriptionId = subscription.recovery.retryAt := by
  unfold deadlineOf
  rw [h]
  rfl

structure StepsTo (maximum : ℕ) (subscriptionId : MatterSubscriptionId) (run : RepairRun)
    (state state' : RepairState) : Prop where
  invariant : RepairInvariant maximum subscriptionId state'
  others : ∀ other, other ≠ run → Rely other state state'

variable {run : RepairRun} {before : StoredMatterSubscription} {now : Instant}

theorem StaysBegun.of_same (h : ∀ operationId, store'.operations.find operationId =
    state.1.operations.find operationId) : StaysBegun state.1 store' := by
  intro operationId row hrow hphase
  exact ⟨row, (h operationId).trans hrow, hphase⟩

theorem newer_of_same (h : ∀ operationId, store'.operations.find operationId =
    state.1.operations.find operationId) (operationId : MatterOperationId) :
    Newer MatterOperation.revision (state.1.operations.find operationId) (store'.operations.find operationId) := by
  rw [h operationId]
  exact Newer.refl _

theorem Wrote.around (h : Wrote state.1 store' before after) (hloaded : Loaded before state)
    (hmine : before.subscriptionId = subscriptionId) (hplace : after.subscriptionId = before.subscriptionId) :
    state.1.subscriptions.find subscriptionId = some before ∧ store'.subscriptions.find subscriptionId = some after := by
  subst hmine
  refine ⟨h.loaded hloaded hplace, ?_⟩
  rw [h.find]
  exact if_pos hplace

theorem Owned.no_deadline (h : Owned maximum subscriptionId state operationId)
    (hbefore : state.1.subscriptions.find subscriptionId = some before)
    (hattempt : (ledger state.2).attempt ≠ .waiting) : before.recovery.retryAt = none := by
  obtain ⟨subscription, hfound, -, hretry, -, -⟩ := h.record
  obtain rfl : before = subscription := Option.some.inj (hbefore.symm.trans hfound)
  cases hdeadline : before.recovery.retryAt with
  | none => rfl
  | some deadline => exact absurd (hretry deadline hdeadline).1 hattempt

theorem Attempts.append {attempt : RepairAttempt}
    (howner : (ledger state.2).owner = some run.operationId) (hbegan : ∀ run, event ≠ .began run)
    (hattempt : ((ledger state.2).after event).attempt = attempt) :
    Attempts run attempt (store', state.2 ++ [event]) := by
  refine ⟨?_, fun _ => ?_⟩
  · rw [ledger_append, (after_same hbegan _).2]
    exact owner_mem_begun howner
  · rw [ledger_append]
    exact hattempt

/-- A deadline that has passed lets its owner reserve the next attempt. -/
theorem reserve_step (h : RepairInvariant maximum subscriptionId state) (hmaximum : maximum < 2^8)
    (howner : (ledger state.2).owner = some run.operationId) (hmine : before.subscriptionId = subscriptionId)
    (hloaded : Loaded before state) {deadline : Instant}
    (hdeadline : before.recovery.retryAt = some deadline) (hnow : ¬ now < deadline)
    (hwritten : state.1.apply (.subscription (before.attemptReserved now) (some before.revision)) = .ok store') :
    observe subscriptionId run (.commit (.subscription (before.attemptReserved now) (some before.revision))) (.ok ())
        state.1 store' = [.reserved run (some deadline) now] ∧
      StepsTo maximum subscriptionId run state (store', state.2 ++ [.reserved run (some deadline) now]) ∧
      Attempts run (.reserved run) (store', state.2 ++ [.reserved run (some deadline) now]) ∧
      store'.subscriptions.find subscriptionId = some (before.attemptReserved now) := by
  obtain ⟨hwrote, hoperations⟩ := subscription_written hwritten
  obtain ⟨hbefore, hafter⟩ := hwrote.around hloaded hmine rfl
  have howned := h.owned run.operationId howner
  obtain ⟨subscription, hfound, hbudget, hretry, hcounted, hestablished⟩ := howned.record
  obtain rfl : before = subscription := Option.some.inj (hbefore.symm.trans hfound)
  obtain ⟨hwaiting, hspare⟩ := hretry deadline hdeadline
  have hcount : before.recovery.subscribeAttempts = (ledger state.2).reservations :=
    hcounted (by rw [hwaiting]; exact fun h => nomatch h)
  have hattempts : (before.attemptReserved now).recovery.subscribeAttempts = (ledger state.2).reservations + 1 := by
    show min (before.recovery.subscribeAttempts + 1) 255 = _
    omega
  refine ⟨?_, ⟨?_, ?_⟩, ?_, hafter⟩
  · show (if before.subscriptionId = subscriptionId then _ else _) = _
    rw [if_pos hmine, degrades_nil hbefore hafter id]
    show [RepairEvent.reserved run (deadlineOf state.1 subscriptionId) now] = _
    rw [deadlineOf_eq hbefore, hdeadline]
  · refine h.owner_step howner (fun _ h => nomatch h) (fun _ h => nomatch h) (fun _ _ h => nomatch h) ?_
      (StaysBegun.of_same hoperations) ⟨?_, ?_, ?_, ?_, ?_⟩
    · rintro _ _ _ ⟨⟩
      exact not_lt.mp hnow
    · rw [pendingCall_append, ledger_append]
      show pendingCall run.operationId state.2 = none
      rw [howned.pending, hwaiting]
      rfl
    · rw [ledger_append, countP_append]
      have hcalls := howned.calls
      rw [hwaiting] at hcalls
      show _ + 0 + 1 ≤ (ledger state.2).reservations + 1
      exact Nat.succ_le_succ hcalls
    · rw [ledger_append]
      show (ledger state.2).reservations + 1 ≤ maximum
      omega
    · refine ⟨_, hafter, hbudget, fun _ h => (nomatch h), ?_, ?_⟩
      · intro _
        rw [ledger_append]
        exact hattempts
      · intro hstate
        obtain ⟨row, hrow, hterminal⟩ := hestablished hstate
        exact ⟨row, (hoperations _).trans hrow, hterminal⟩
    · intro row hrow hreading
      have hidle := (howned.reading row ((hoperations _).symm.trans hrow) hreading).1
      rw [hwaiting] at hidle
      cases hidle
  · intro other _
    refine rely_of_owner_step (.reserved run (some deadline) now) (fun _ h => nomatch h) (newer_of_same hoperations)
      hwrote.newer_find (hwrote.keeps_places hloaded ⟨rfl, rfl, rfl⟩) ?_
    intro attempt hmine' hattempt
    rw [hwaiting] at hattempt
    rcases hmine' with rfl | rfl <;> cases hattempt
  · exact Attempts.append howner (fun _ h => nomatch h) rfl

/-- The caller records that its call failed. -/
theorem record_step (h : RepairInvariant maximum subscriptionId state)
    (howner : (ledger state.2).owner = some run.operationId) (hmine : before.subscriptionId = subscriptionId)
    (hloaded : Loaded before state) (hcalled : Attempts run (.called run) state) {retryAt : Instant}
    (hspare : before.recovery.subscribeAttempts < before.recovery.maximumSubscribeAttempts)
    (hwritten : state.1.apply (.subscription (before.waiting retryAt now) (some before.revision)) = .ok store') :
    observe subscriptionId run (.commit (.subscription (before.waiting retryAt now) (some before.revision))) (.ok ())
        state.1 store' = [.recorded run] ∧
      StepsTo maximum subscriptionId run state (store', state.2 ++ [.recorded run]) := by
  obtain ⟨hwrote, hoperations⟩ := subscription_written hwritten
  obtain ⟨hbefore, hafter⟩ := hwrote.around hloaded hmine rfl
  have howned := h.owned run.operationId howner
  obtain ⟨subscription, hfound, hbudget, -, hcounted, hestablished⟩ := howned.record
  obtain rfl : before = subscription := Option.some.inj (hbefore.symm.trans hfound)
  have hattempt := hcalled.2 howner
  refine ⟨?_, ?_, ?_⟩
  · show (if before.subscriptionId = subscriptionId then _ else _) = _
    rw [if_pos hmine, degrades_nil hbefore hafter id]
    rfl
  · refine h.owner_step howner (fun _ h => nomatch h) (fun _ h => nomatch h) (fun _ _ h => nomatch h)
      (fun _ _ _ h => nomatch h) (StaysBegun.of_same hoperations) ⟨?_, ?_, ?_, ?_, ?_⟩
    · rw [pendingCall_append, ledger_append]
      show (if pendingCall run.operationId state.2 = some run then none else _) = none
      rw [howned.pending, hattempt]
      exact if_pos rfl
    · rw [ledger_append, countP_append]
      have hcalls := howned.calls
      rw [hattempt] at hcalls
      exact hcalls
    · rw [ledger_append]
      exact howned.bound
    · refine ⟨_, hafter, hbudget, ?_, ?_, ?_⟩
      · intro _ _
        rw [ledger_append]
        exact ⟨rfl, by rw [← hbudget]; exact hspare⟩
      · intro _
        rw [ledger_append]
        exact hcounted (by rw [hattempt]; exact fun h => nomatch h)
      · intro hstate
        obtain ⟨row, hrow, hterminal⟩ := hestablished hstate
        exact ⟨row, (hoperations _).trans hrow, hterminal⟩
    · intro row hrow hreading
      have hidle := (howned.reading row ((hoperations _).symm.trans hrow) hreading).1
      rw [hattempt] at hidle
      cases hidle
  · intro other hother
    refine rely_of_owner_step (.recorded run) (fun _ h => nomatch h) (newer_of_same hoperations)
      hwrote.newer_find (hwrote.keeps_places hloaded ⟨rfl, rfl, rfl⟩) ?_
    intro attempt hmine' hattempt'
    rw [hattempt] at hattempt'
    rcases hmine' with rfl | rfl <;> cases hattempt'
    exact absurd rfl hother

/-- The call that was reserved. -/
theorem call_step (h : RepairInvariant maximum subscriptionId state)
    (howner : (ledger state.2).owner = some run.operationId) (hreserved : Attempts run (.reserved run) state) :
    deadlineOf state.1 subscriptionId = none ∧
      StepsTo maximum subscriptionId run state (state.1, state.2 ++ [.called run none]) ∧
      Attempts run (.called run) (state.1, state.2 ++ [.called run none]) := by
  have howned := h.owned run.operationId howner
  obtain ⟨subscription, hfound, hbudget, hretry, hcounted, hestablished⟩ := howned.record
  have hattempt := hreserved.2 howner
  have hnone := howned.no_deadline hfound (by rw [hattempt]; exact fun h => nomatch h)
  refine ⟨(deadlineOf_eq hfound).trans hnone, ⟨?_, ?_⟩, ?_⟩
  · refine h.owner_step howner (fun _ h => nomatch h) (fun _ h => nomatch h) ?_ (fun _ _ _ h => nomatch h)
      (StaysBegun.of_same (fun _ => rfl)) ⟨?_, ?_, ?_, ?_, ?_⟩
    · rintro _ _ ⟨⟩
      rw [hattempt]
      exact ⟨rfl, rfl⟩
    · rw [pendingCall_append, ledger_append]
      exact if_pos rfl
    · rw [ledger_append, countP_append, countP_singleton]
      have hcalls := howned.calls
      rw [hattempt] at hcalls
      have hmine : isCallFor run.operationId (.called run none) = true := beq_self_eq_true _
      show _ + (if isCallFor run.operationId (.called run none) = true then 1 else 0) + 0 ≤ _
      rw [if_pos hmine]
      exact hcalls
    · rw [ledger_append]
      exact howned.bound
    · refine ⟨subscription, hfound, hbudget, ?_, ?_, hestablished⟩
      · intro deadline hdeadline
        rw [hnone] at hdeadline
        cases hdeadline
      · intro _
        rw [ledger_append]
        exact hcounted (by rw [hattempt]; exact fun h => nomatch h)
    · intro row hrow hreading
      have hidle := (howned.reading row hrow hreading).1
      rw [hattempt] at hidle
      cases hidle
  · intro other hother
    refine rely_of_owner_step (.called run none) (fun _ h => nomatch h) (fun _ => Newer.refl _)
      (fun _ => Newer.refl _) rfl ?_
    intro attempt hmine' hattempt'
    rw [hattempt] at hattempt'
    rcases hmine' with rfl | rfl <;> cases hattempt'
    exact absurd rfl hother
  · exact Attempts.append howner (fun _ h => nomatch h) rfl

variable {operation moved : MatterOperation} {next : MatterOperationPhase}
  {projections : List MatterSubscriptionProjectionWrite} {repair : Option MatterRepairRecord}

theorem MovedTo.staysBegun (h : MovedTo store store' operation moved) (hphase : moved.phase ≠ .requested) :
    StaysBegun store store' := by
  intro operationId row hrow hrowPhase
  rw [h.find]
  split
  · exact ⟨moved, rfl, hphase⟩
  · exact ⟨row, hrow, hrowPhase⟩

theorem MovedTo.find_moved (h : MovedTo store store' operation moved) :
    store'.operations.find moved.id = some moved := by
  rw [h.find]
  exact if_pos rfl

theorem MovedTo.held_moved (h : MovedTo state.1 store' operation moved) (events : List RepairEvent) :
    Held moved (store', events) := by
  rintro row ⟨⟩
  exact ⟨moved, h.find_moved, Or.inl rfl⟩

theorem Owned.active (h : Owned maximum subscriptionId state operationId)
    (hbefore : state.1.subscriptions.find subscriptionId = some before)
    (hfound : state.1.operations.find operationId = some operation) (hactive : operation.phase.isTerminal = false) :
    before.state ≠ .established := by
  intro hstate
  obtain ⟨subscription, hsubscription, -, -, -, hestablished⟩ := h.record
  obtain rfl : before = subscription := Option.some.inj (hbefore.symm.trans hsubscription)
  obtain ⟨row, hrow, hterminal⟩ := hestablished hstate
  obtain rfl : operation = row := Option.some.inj (hfound.symm.trans hrow)
  rw [hactive] at hterminal
  cases hterminal

/-- The gap is read and the first attempt is reserved. -/
theorem gapRead_step (h : RepairInvariant maximum subscriptionId state)
    (howner : (ledger state.2).owner = some run.operationId) (hmine : before.subscriptionId = subscriptionId)
    (hloaded : Loaded before state) (hheld : Held operation state)
    (hoperation : operation.id = run.operationId) (hreading : operation.phase = .readingGap)
    (hmoved : operation.transition .subscribing now = .ok moved)
    (hwritten : state.1.apply (.repair (repairCommit moved operation.revision (before.gapRead now) before.revision
      projections none)) = .ok store') :
    observe subscriptionId run (.commit (.repair (repairCommit moved operation.revision (before.gapRead now)
        before.revision projections none))) (.ok ()) state.1 store' = [.reserved run none now] ∧
      StepsTo maximum subscriptionId run state (store', state.2 ++ [.reserved run none now]) ∧
      Attempts run (.reserved run) (store', state.2 ++ [.reserved run none now]) := by
  obtain ⟨hwrote, hmovedTo⟩ := repair_written hwritten
  obtain ⟨hphase, hmoves⟩ := MatterOperation.transition_ok hmoved
  obtain ⟨hbefore, hafter⟩ := hwrote.around hloaded hmine rfl
  have hfoundOperation := hmovedTo.held hheld hmoves.id
  have howned := h.owned run.operationId howner
  rw [hoperation] at hfoundOperation
  obtain ⟨hidle, hnone⟩ := howned.reading operation hfoundOperation hreading
  have hinactive := howned.active hbefore hfoundOperation hmoves.active
  obtain ⟨subscription, hfound, hbudget, hretry, -, -⟩ := howned.record
  obtain rfl : before = subscription := Option.some.inj (hbefore.symm.trans hfound)
  have hdeadline := howned.no_deadline hbefore (by rw [hidle]; exact fun h => by cases h)
  -- a stored record admits at least one attempt
  have hone : 1 ≤ maximum := by
    have hvalid := hwrote.valid
    unfold MatterStore.validRecovery at hvalid
    rw [Bool.and_eq_true, decide_eq_true_eq] at hvalid
    rw [← hbudget]
    exact hvalid.2
  refine ⟨?_, ⟨?_, ?_⟩, ?_⟩
  · show (if before.subscriptionId = subscriptionId then _ else _) = _
    rw [if_pos hmine, degrades_nil hbefore hafter id]
    refine (congrArg (fun event => [event]) (commitEvent_subscribing hphase)).trans ?_
    rw [deadlineOf_eq hbefore, hdeadline]
    rfl
  · -- the reservation is the first of its owner
    refine h.owner_step howner (fun _ h => by cases h) (fun _ h => by cases h) (fun _ _ h => by cases h)
      (fun _ _ _ h => by cases h) (hmovedTo.staysBegun (by rw [hphase]; exact fun h => by cases h)) ⟨?_, ?_, ?_, ?_, ?_⟩
    · rw [pendingCall_append, ledger_append]
      show pendingCall run.operationId state.2 = none
      rw [howned.pending, hidle]
      rfl
    · rw [ledger_append, countP_append]
      have hcalls := howned.calls
      rw [hidle] at hcalls
      exact Nat.succ_le_succ hcalls
    · rw [ledger_append]
      show (ledger state.2).reservations + 1 ≤ maximum
      omega
    · refine ⟨_, hafter, hbudget, fun _ h => (by cases h), ?_, ?_⟩
      · intro _
        rw [ledger_append]
        show 1 = (ledger state.2).reservations + 1
        omega
      · intro hstate
        exact absurd hstate hinactive
    · intro row hrow hrowReading
      have hrowMoved : row = moved := by
        have hfind := hmovedTo.find_moved
        rw [hmoves.id, hoperation] at hfind
        exact Option.some.inj (hrow.symm.trans hfind)
      rw [hrowMoved, hphase] at hrowReading
      cases hrowReading
  · intro other _
    refine rely_of_owner_step (.reserved run none now) (fun _ h => by cases h) hmovedTo.newer_find
      hwrote.newer_find (hwrote.keeps_places hloaded ⟨rfl, rfl, rfl⟩) ?_
    intro attempt hmine' hattempt
    rw [hidle] at hattempt
    rcases hmine' with rfl | rfl <;> cases hattempt
  · exact Attempts.append howner (fun _ h => by cases h) rfl

/-- The owner ends; an attempt of its own that was under way is over. -/
theorem end_step (h : RepairInvariant maximum subscriptionId state)
    (howner : (ledger state.2).owner = some run.operationId) (hmine : before.subscriptionId = subscriptionId)
    (hloaded : Loaded before state) (hheld : Held operation state) (hoperation : operation.id = run.operationId)
    (hmoved : operation.transition next now = .ok moved) (hterminal : next.isTerminal = true)
    (hplace : SamePlace before after) (hretry : after.recovery.retryAt = none)
    (hbudget : before.recovery.maximumSubscribeAttempts = maximum → after.recovery.maximumSubscribeAttempts = maximum)
    (hcount : (ledger state.2).attempt ≠ .called run →
      after.recovery.subscribeAttempts = before.recovery.subscribeAttempts)
    (hwritten : state.1.apply (.repair (repairCommit moved operation.revision after before.revision projections
      repair)) = .ok store') :
    observe subscriptionId run (.commit (.repair (repairCommit moved operation.revision after before.revision
        projections repair))) (.ok ()) state.1 store' = [.ended run] ∧
      StepsTo maximum subscriptionId run state (store', state.2 ++ [.ended run]) := by
  obtain ⟨hwrote, hmovedTo⟩ := repair_written hwritten
  obtain ⟨hphase, hmoves⟩ := MatterOperation.transition_ok hmoved
  obtain ⟨hbefore, hafter⟩ := hwrote.around hloaded hmine hplace.1
  have hfoundOperation := hmovedTo.held hheld hmoves.id
  rw [hoperation] at hfoundOperation
  have hfindMoved : store'.operations.find run.operationId = some moved := by
    have hfind := hmovedTo.find_moved
    rw [hmoves.id, hoperation] at hfind
    exact hfind
  have hmovedTerminal : moved.phase.isTerminal = true := by
    rw [hphase]
    exact hterminal
  have howned := h.owned run.operationId howner
  have hinactive := howned.active hbefore hfoundOperation hmoves.active
  obtain ⟨subscription, hfound, hmaximum, -, hcounted, -⟩ := howned.record
  obtain rfl : before = subscription := Option.some.inj (hbefore.symm.trans hfound)
  refine ⟨?_, ?_, ?_⟩
  · show (if after.subscriptionId = subscriptionId then _ else _) = _
    rw [if_pos (hplace.1.trans hmine), degrades_nil hbefore hafter (fun hstate => absurd hstate hinactive)]
    exact congrArg (fun event => [event]) (commitEvent_terminal hmovedTerminal)
  · -- the invariant: only the attempt of the owner moves
    refine h.owner_step howner (fun _ h => by cases h) (fun _ h => by cases h) (fun _ _ h => by cases h)
      (fun _ _ _ h => by cases h) (hmovedTo.staysBegun ?_) ⟨?_, ?_, ?_, ?_, ?_⟩
    · intro hrequested
      rw [hrequested] at hmovedTerminal
      cases hmovedTerminal
    · rw [pendingCall_append, ledger_append]
      show (if pendingCall run.operationId state.2 = some run then none else pendingCall run.operationId state.2) =
        (if (ledger state.2).attempt = .called run then _ else _ : RepairLedger).attempt.pending
      rw [howned.pending]
      by_cases hcalled : (ledger state.2).attempt = .called run
      · rw [hcalled]
        simp [RepairAttempt.pending]
      · rw [if_neg hcalled, if_neg]
        intro hpending
        cases hattempt : (ledger state.2).attempt with
        | called caller =>
          rw [hattempt] at hpending hcalled
          cases hpending
          exact hcalled rfl
        | _ =>
          rw [hattempt] at hpending
          cases hpending
    · rw [ledger_append, countP_append]
      have hcalls := howned.calls
      simp only [RepairLedger.after]
      split
      next hcalled =>
        rw [hcalled] at hcalls
        exact hcalls
      · exact hcalls
    · rw [ledger_append]
      simp only [RepairLedger.after]
      split <;> exact howned.bound
    · refine ⟨after, hafter, hbudget hmaximum, ?_, ?_, fun _ => ⟨moved, hfindMoved, hmovedTerminal⟩⟩
      · intro deadline hdeadline
        rw [hretry] at hdeadline
        cases hdeadline
      · rw [ledger_append]
        simp only [RepairLedger.after]
        split
        · intro hover
          exact absurd rfl hover
        next hcalled =>
          intro hover
          rw [hcount hcalled]
          exact hcounted hover
    · intro row hrow hreading
      obtain rfl : moved = row := Option.some.inj (hfindMoved.symm.trans hrow)
      rw [hreading] at hmovedTerminal
      cases hmovedTerminal
  · -- the other runs: this one calls nothing, so theirs stay as they are
    intro other hother
    refine rely_of_owner_step (.ended run) (fun _ h => by cases h) hmovedTo.newer_find
      hwrote.newer_find (hwrote.keeps_places hloaded hplace) ?_
    intro attempt hmine' hattempt
    simp only [RepairLedger.after]
    split
    next hcalled =>
      rw [hcalled] at hattempt
      rcases hmine' with rfl | rfl <;> cases hattempt
      exact absurd rfl hother
    · exact hattempt

/-- A repair begins, and the record is its own from then on. -/
theorem began_step {policy : MatterSubscriptionRecoveryPolicy}
    (h : RepairInvariant policy.maximumSubscribeAttempts subscriptionId state)
    (hmine : before.subscriptionId = subscriptionId) (hloaded : Loaded before state) (hheld : Held operation state)
    (hoperation : operation.id = run.operationId) (hrequested : operation.phase = .requested)
    (hmoved : operation.transition .readingGap now = .ok moved)
    (hwritten : state.1.apply (.repair (repairCommit moved operation.revision (before.gapBegun policy now)
      before.revision projections none)) = .ok store') :
    StepsTo policy.maximumSubscribeAttempts subscriptionId run state (store', state.2 ++ [.began run]) := by
  obtain ⟨hwrote, hmovedTo⟩ := repair_written hwritten
  obtain ⟨hphase, hmoves⟩ := MatterOperation.transition_ok hmoved
  obtain ⟨hbefore, hafter⟩ := hwrote.around hloaded hmine rfl
  have hfoundOperation := hmovedTo.held hheld hmoves.id
  rw [hoperation] at hfoundOperation
  have hfindMoved : store'.operations.find run.operationId = some moved := by
    have hfind := hmovedTo.find_moved
    rw [hmoves.id, hoperation] at hfind
    exact hfind
  have hstays : StaysBegun state.1 store' := hmovedTo.staysBegun (by rw [hphase]; exact fun h => by cases h)
  -- a requested operation has not begun before
  have hfresh : run.operationId ∉ (ledger state.2).begun := by
    intro hmem
    obtain ⟨row, hrow, hbegun⟩ := h.begun _ hmem
    obtain rfl : operation = row := Option.some.inj (hfoundOperation.symm.trans hrow)
    exact hbegun hrequested
  obtain ⟨hcount, hpending⟩ := h.unbegun _ hfresh
  refine ⟨⟨h.budget.append ?_ (fun _ _ h => by cases h) (fun _ _ _ h => by cases h) (fun _ h => by cases h), ?_, ?_, ?_⟩,
    ?_⟩
  · intro operationId
    rw [countP_append]
    exact h.budget.attempts operationId
  · intro operationId hmem
    rw [ledger_append] at hmem
    rcases mem_cons.mp hmem with rfl | hmem
    · refine ⟨moved, hfindMoved, ?_⟩
      rw [hphase]
      exact fun h => by cases h
    · obtain ⟨row, hrow, hbegun⟩ := h.begun operationId hmem
      exact hstays operationId row hrow hbegun
  · intro operationId hunbegun
    rw [ledger_append] at hunbegun
    obtain ⟨hnone, hnobody⟩ := h.unbegun operationId (fun hmem => hunbegun (mem_cons_of_mem _ hmem))
    refine ⟨?_, ?_⟩
    · rw [countP_append, hnone]
      rfl
    · rw [pendingCall_append]
      exact hnobody
  · intro operationId howner
    rw [ledger_append] at howner
    obtain rfl : run.operationId = operationId := Option.some.inj howner
    refine ⟨?_, ?_, ?_, ?_, ?_⟩
    · rw [pendingCall_append, ledger_append]
      exact hpending
    · rw [ledger_append, countP_append, hcount]
      exact le_refl 0
    · rw [ledger_append]
      exact Nat.zero_le _
    · refine ⟨_, hafter, rfl, fun _ h => (by cases h), ?_, fun h => by cases h⟩
      intro _
      rw [ledger_append]
      rfl
    · intro _ _ _
      rw [ledger_append]
      exact ⟨rfl, rfl⟩
  · intro other _
    refine ⟨hmovedTo.newer_find, hwrote.newer_find, hwrote.keeps_places hloaded ⟨rfl, rfl, rfl⟩, ?_,
      Or.inr ⟨run.operationId, hfresh, ?_⟩, ?_⟩
    · intro operationId hmem
      rw [ledger_append]
      exact mem_cons_of_mem _ hmem
    · rw [ledger_append]
      rfl
    · intro hsame
      rw [ledger_append] at hsame
      exact absurd (owner_mem_begun hsame.symm) hfresh

theorem Owned.of_events {events' : List RepairEvent} (h : Owned maximum subscriptionId (store, events) operationId)
    (hledger : ledger events' = ledger events)
    (hpending : pendingCall operationId events' = pendingCall operationId events)
    (hcount : events'.countP (isCallFor operationId) = events.countP (isCallFor operationId)) :
    Owned maximum subscriptionId (store, events') operationId := by
  obtain ⟨hcalled, hcalls, hbound, hrecord, hreading⟩ := h
  refine ⟨?_, ?_, ?_, ?_, ?_⟩ <;> simp only [hledger, hpending, hcount] <;> assumption

/-- That an established subscription is degraded as a repair begins changes nothing else. -/
theorem StepsTo.degraded (h : StepsTo maximum subscriptionId run state (store', state.2 ++ [.began run])) :
    StepsTo maximum subscriptionId run state (store', state.2 ++ [.began run] ++ [.degraded run]) := by
  have hledger : ledger (state.2 ++ [.began run] ++ [.degraded run]) = ledger (state.2 ++ [.began run]) :=
    ledger_append _ _
  have hpending : ∀ operationId, pendingCall operationId (state.2 ++ [.began run] ++ [.degraded run]) =
      pendingCall operationId (state.2 ++ [.began run]) := fun operationId => pendingCall_append operationId _ _
  have hcount : ∀ operationId, (state.2 ++ [RepairEvent.began run] ++ [RepairEvent.degraded run]).countP
      (isCallFor operationId) = (state.2 ++ [RepairEvent.began run]).countP (isCallFor operationId) := by
    intro operationId
    rw [countP_append]
    rfl
  refine ⟨⟨?_, ?_, ?_, ?_⟩, ?_⟩
  · refine h.invariant.budget.append ?_ (fun _ _ h => by cases h) (fun _ _ _ h => by cases h) ?_
    · intro operationId
      rw [hcount]
      exact h.invariant.budget.attempts operationId
    · intro other hother
      cases hother
      exact getLast?_concat
  · intro operationId hmem
    rw [hledger] at hmem
    exact h.invariant.begun operationId hmem
  · intro operationId hunbegun
    rw [hledger] at hunbegun
    rw [hcount, hpending]
    exact h.invariant.unbegun operationId hunbegun
  · intro operationId howner
    rw [hledger] at howner
    exact (h.invariant.owned operationId howner).of_events hledger (hpending operationId) (hcount operationId)
  · intro other hother
    have hrely := h.others other hother
    refine ⟨hrely.operations, hrely.records, hrely.places, ?_, ?_, ?_⟩
    · rw [hledger]
      exact hrely.begun
    · rw [hledger]
      exact hrely.owner
    · rw [hledger]
      exact hrely.attempt

theorem begin_step {policy : MatterSubscriptionRecoveryPolicy}
    (h : RepairInvariant policy.maximumSubscribeAttempts subscriptionId state)
    (hmine : before.subscriptionId = subscriptionId) (hloaded : Loaded before state) (hheld : Held operation state)
    (hoperation : operation.id = run.operationId) (hrequested : operation.phase = .requested)
    (hmoved : operation.transition .readingGap now = .ok moved)
    (hwritten : state.1.apply (.repair (repairCommit moved operation.revision (before.gapBegun policy now)
      before.revision projections none)) = .ok store') :
    ∃ events, observe subscriptionId run (.commit (.repair (repairCommit moved operation.revision
        (before.gapBegun policy now) before.revision projections none))) (.ok ()) state.1 store' = events ∧
      StepsTo policy.maximumSubscribeAttempts subscriptionId run state (store', state.2 ++ events) := by
  have hbegan := began_step h hmine hloaded hheld hoperation hrequested hmoved hwritten
  have hobserved : observe subscriptionId run (.commit (.repair (repairCommit moved operation.revision
      (before.gapBegun policy now) before.revision projections none))) (.ok ()) state.1 store' =
      .began run :: degrades subscriptionId run state.1 store' := by
    show (if before.subscriptionId = subscriptionId then _ else _) = _
    rw [if_pos hmine]
    exact congrArg (fun event => event :: degrades subscriptionId run state.1 store')
      (commitEvent_readingGap (MatterOperation.transition_ok hmoved).1)
  rw [hobserved]
  unfold degrades
  split
  · refine ⟨_, rfl, ?_⟩
    have hboth := hbegan.degraded
    rw [append_assoc] at hboth
    exact hboth
  · exact ⟨_, rfl, hbegan⟩

theorem foreign_step (h : RepairInvariant maximum subscriptionId state)
    (hrecord : store'.subscriptions.find subscriptionId = state.1.subscriptions.find subscriptionId)
    (hrecords : ∀ recordId, Newer StoredMatterSubscription.revision (state.1.subscriptions.find recordId)
      (store'.subscriptions.find recordId)) (hplaces : places store' = places state.1)
    (hnewer : ∀ operationId, Newer MatterOperation.revision (state.1.operations.find operationId)
      (store'.operations.find operationId))
    (hstays : StaysBegun state.1 store')
    (hended : ∀ operationId row, state.1.operations.find operationId = some row → row.phase.isTerminal = true →
      store'.operations.find operationId = some row)
    (hreading : ∀ operationId ∈ (ledger state.2).begun, ∀ row, store'.operations.find operationId = some row →
      row.phase = .readingGap → state.1.operations.find operationId = some row) :
    StepsTo maximum subscriptionId run state (store', state.2) := by
  refine ⟨⟨h.budget, ?_, h.unbegun, ?_⟩, ?_⟩
  · intro operationId hmem
    obtain ⟨row, hrow, hbegun⟩ := h.begun operationId hmem
    exact hstays operationId row hrow hbegun
  · intro operationId howner
    have howned := h.owned operationId howner
    refine ⟨howned.pending, howned.calls, howned.bound, ?_, ?_⟩
    · obtain ⟨subscription, hfound, hbudget, hretry, hcounted, hestablished⟩ := howned.record
      refine ⟨subscription, hrecord.trans hfound, hbudget, hretry, hcounted, ?_⟩
      intro hstate
      obtain ⟨row, hrow, hterminal⟩ := hestablished hstate
      exact ⟨row, hended operationId row hrow hterminal, hterminal⟩
    · intro row hrow hrowReading
      exact howned.reading row (hreading operationId (owner_mem_begun howner) row hrow hrowReading) hrowReading
  · intro other _
    exact ⟨hnewer, hrecords, hplaces, fun _ hmem => hmem, Or.inl rfl, fun _ _ _ hattempt => hattempt⟩

theorem foreign_write (h : RepairInvariant maximum subscriptionId state)
    (hother : after.subscriptionId ≠ subscriptionId) (hloaded : Loaded before state)
    (hplace : SamePlace before after)
    (hwritten : state.1.apply (.subscription after (some before.revision)) = .ok store') :
    observe subscriptionId run (.commit (.subscription after (some before.revision))) (.ok ()) state.1 store' = [] ∧
      StepsTo maximum subscriptionId run state (store', state.2) := by
  obtain ⟨hwrote, hoperations⟩ := subscription_written hwritten
  refine ⟨if_neg hother, foreign_step h ?_ hwrote.newer_find (hwrote.keeps_places hloaded hplace)
    (newer_of_same hoperations) (StaysBegun.of_same hoperations) ?_ ?_⟩
  · rw [hwrote.find]
    exact if_neg hother
  · intro operationId row hrow _
    exact (hoperations operationId).trans hrow
  · intro operationId _ row hrow _
    exact (hoperations operationId).symm.trans hrow

/-- A commit on another subscription. -/
theorem foreign_commit (h : RepairInvariant maximum subscriptionId state)
    (hother : after.subscriptionId ≠ subscriptionId) (hloaded : Loaded before state)
    (hplace : SamePlace before after) (hheld : Held operation state)
    (hmoved : operation.transition next now = .ok moved)
    (hnext : next ≠ .requested ∧ (next = .readingGap → operation.phase = .requested))
    (hwritten : state.1.apply (.repair (repairCommit moved operation.revision after before.revision projections
      repair)) = .ok store') :
    observe subscriptionId run (.commit (.repair (repairCommit moved operation.revision after before.revision
        projections repair))) (.ok ()) state.1 store' = [] ∧
      StepsTo maximum subscriptionId run state (store', state.2) := by
  obtain ⟨hwrote, hmovedTo⟩ := repair_written hwritten
  obtain ⟨hphase, hmoves⟩ := MatterOperation.transition_ok hmoved
  have hfoundOperation := hmovedTo.held hheld hmoves.id
  refine ⟨if_neg hother, foreign_step h ?_ hwrote.newer_find (hwrote.keeps_places hloaded hplace)
    hmovedTo.newer_find (hmovedTo.staysBegun ?_) ?_ ?_⟩
  · rw [hwrote.find]
    exact if_neg hother
  · rw [hphase]
    exact hnext.1
  · intro operationId row hrow hterminal
    rw [hmovedTo.find, if_neg]
    · exact hrow
    · intro hsame
      rw [← hsame, hmoves.id, hfoundOperation] at hrow
      cases hrow
      rw [hmoves.active] at hterminal
      cases hterminal
  · intro operationId hbegun row hrow hreading
    rw [hmovedTo.find] at hrow
    split at hrow
    next hsame =>
      cases hrow
      -- it would have begun a second time
      obtain ⟨row, hrow, hnotRequested⟩ := h.begun operationId hbegun
      rw [← hsame, hmoves.id, hfoundOperation] at hrow
      cases hrow
      rw [hphase] at hreading
      exact absurd (hnext.2 hreading) hnotRequested
    · exact hrow

end Steps

end MatterSubscriptionRepair
end HomeMagic
