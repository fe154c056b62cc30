import HomeMagic.MatterSubscriptionRepair
import HomeMagic.Parties

/-! The budget of subscription repair. All repair operations of a node share the recovery record of
its subscription; the events below are what happens to one subscription. -/
namespace HomeMagic

namespace MatterSubscriptionRepair

open Fallible MatterNodeWorkflow

structure RepairRun where
  number : ℕ
  operationId : MatterOperationId
  deriving DecidableEq

inductive RepairEvent
  | began (run : RepairRun)
  /-- An attempt is reserved, with the deadline stored until then. -/
  | reserved (run : RepairRun) (deadline : Option Instant) (now : Instant)
  /-- The controller is called, with the deadline stored at that time. -/
  | called (run : RepairRun) (deadline : Option Instant)
  /-- A failed call is recorded with the next deadline. -/
  | recorded (run : RepairRun)
  /-- The operation ends. -/
  | ended (run : RepairRun)
  /-- An established subscription is no longer established. -/
  | degraded (run : RepairRun)
  deriving DecidableEq

abbrev RepairState := MatterStore × List RepairEvent

def deadlineOf (store : MatterStore) (subscriptionId : MatterSubscriptionId) : Option Instant :=
  (store.subscriptions.find subscriptionId).bind (fun subscription => subscription.recovery.retryAt)

def isEstablished (store : MatterStore) (subscriptionId : MatterSubscriptionId) : Bool :=
  (store.subscriptions.find subscriptionId).any (fun subscription => subscription.state == .established)

def degrades (subscriptionId : MatterSubscriptionId) (run : RepairRun) (store store' : MatterStore) :
    List RepairEvent :=
  if isEstablished store subscriptionId && !isEstablished store' subscriptionId then [.degraded run] else []

def commitEvent (subscriptionId : MatterSubscriptionId) (run : RepairRun) (commit : MatterSubscriptionRepairCommit)
    (store : MatterStore) : RepairEvent :=
  match commit.operation.operation.phase with
  | .readingGap => .began run
  | .subscribing => .reserved run (deadlineOf store subscriptionId) commit.subscription.updatedAt
  | _ => .ended run

section
variable {subscriptionId : MatterSubscriptionId} {run : RepairRun} {commit : MatterSubscriptionRepairCommit}
  {store : MatterStore}

theorem commitEvent_readingGap (h : commit.operation.operation.phase = .readingGap) :
    commitEvent subscriptionId run commit store = .began run := by
  unfold commitEvent
  rw [h]

theorem commitEvent_subscribing (h : commit.operation.operation.phase = .subscribing) :
    commitEvent subscriptionId run commit store =
      .reserved run (deadlineOf store subscriptionId) commit.subscription.updatedAt := by
  unfold commitEvent
  rw [h]

theorem commitEvent_terminal (h : commit.operation.operation.phase.isTerminal = true) :
    commitEvent subscriptionId run commit store = .ended run := by
  unfold commitEvent
  cases hphase : commit.operation.operation.phase <;> rw [hphase] at h <;> first | rfl | cases h

end

def writeEvent (subscriptionId : MatterSubscriptionId) (run : RepairRun) (subscription : StoredMatterSubscription)
    (store : MatterStore) : RepairEvent :=
  match subscription.recovery.retryAt with
  | some _ => .recorded run
  | none => .reserved run (deadlineOf store subscriptionId) subscription.updatedAt

def observe (subscriptionId : MatterSubscriptionId) (run : RepairRun) :
    (c : MatterCall) → c.Response → MatterStore → MatterStore → List RepairEvent
  | .subscribe _ request, _, store, _ =>
    if request.subscriptionId = subscriptionId then [.called run (deadlineOf store subscriptionId)] else []
  | .commit (.repair commit), .ok _, store, store' =>
    if commit.subscription.subscriptionId = subscriptionId then
      commitEvent subscriptionId run commit store :: degrades subscriptionId run store store'
    else []
  | .commit (.subscription subscription _), .ok _, store, store' =>
    if subscription.subscriptionId = subscriptionId then
      writeEvent subscriptionId run subscription store :: degrades subscriptionId run store store'
    else []
  | _, _, _, _ => []

def isCallFor (operationId : MatterOperationId) : RepairEvent → Bool
  | .called run _ => run.operationId == operationId
  | _ => false

def pendingAfter (operationId : MatterOperationId) (pending : Option RepairRun) : RepairEvent → Option RepairRun
  | .called run _ => if run.operationId = operationId then some run else pending
  | .recorded run | .ended run => if pending = some run then none else pending
  | _ => pending

def pendingCall (operationId : MatterOperationId) (events : List RepairEvent) : Option RepairRun :=
  events.foldl (pendingAfter operationId) none

structure WithinBudget (maximumSubscribeAttempts : ℕ) (events : List RepairEvent) : Prop where
  /-- No operation calls more often than it may. -/
  attempts : ∀ operationId, events.countP (isCallFor operationId) ≤ maximumSubscribeAttempts
  /-- No operation calls again before the result of its last call is recorded. -/
  unrepeated : ∀ before run deadline after, events = before ++ .called run deadline :: after →
    pendingCall run.operationId before = none
  /-- No attempt is reserved before its deadline, and none is made while a deadline is stored. -/
  punctual : (∀ run deadline now, .reserved run (some deadline) now ∈ events → deadline ≤ now) ∧
    ∀ run deadline, .called run deadline ∈ events → deadline = none
  /-- An operation that has not called the controller degrades an established subscription only as its own
  repair begins. -/
  kept : ∀ before run after, events = before ++ .degraded run :: after →
    before.getLast? = some (.began run) ∨ before.any (isCallFor run.operationId) = true

/-- An established subscription is degraded by operations only that have called the controller. -/
def Undegraded (events : List RepairEvent) : Prop :=
  ∀ before run after, events = before ++ .degraded run :: after → before.any (isCallFor run.operationId) = true

/-- An operation that has not called the controller begins no repair of an established subscription. -/
def BeginsNoEstablished (events : List RepairEvent) : Prop :=
  ∀ before run after, events = before ++ .began run :: .degraded run :: after →
    before.any (isCallFor run.operationId) = true

theorem WithinBudget.undegraded_iff {maximum : ℕ} {events : List RepairEvent} (h : WithinBudget maximum events) :
    Undegraded events ↔ BeginsNoEstablished events := by
  have hbegan : ∀ (before : List RepairEvent) (run : RepairRun),
      (before ++ [RepairEvent.began run]).any (isCallFor run.operationId) = before.any (isCallFor run.operationId) := by
    intro before run
    rw [List.any_append]
    exact Bool.or_false _
  constructor
  · intro hundegraded before run after hsplit
    rw [← hbegan]
    exact hundegraded (before ++ [.began run]) run after (hsplit.trans (List.append_cons before _ _))
  · intro hbegins before run after hsplit
    rcases h.kept before run after hsplit with hlast | hcalled
    · have hbefore := List.dropLast_append_getLast? _ hlast
      rw [← hbefore, hbegan]
      apply hbegins before.dropLast run after
      rw [hsplit, List.append_cons before.dropLast, hbefore]
    · exact hcalled

inductive RepairAttempt
  | idle
  | reserved (run : RepairRun)
  | called (run : RepairRun)
  | waiting
  | over_
  deriving DecidableEq

structure RepairLedger where
  owner : Option MatterOperationId
  begun : List MatterOperationId
  attempt : RepairAttempt
  reservations : ℕ

def RepairLedger.after (ledger : RepairLedger) : RepairEvent → RepairLedger
  | .began run => ⟨some run.operationId, run.operationId :: ledger.begun, .idle, 0⟩
  | .reserved run _ _ => { ledger with attempt := .reserved run, reservations := ledger.reservations + 1 }
  | .called run _ => { ledger with attempt := .called run }
  | .recorded _ => { ledger with attempt := .waiting }
  | .ended run => if ledger.attempt = .called run then { ledger with attempt := .over_ } else ledger
  | .degraded _ => ledger

def ledger (events : List RepairEvent) : RepairLedger := events.foldl RepairLedger.after ⟨none, [], .idle, 0⟩

/-- The record belongs to the operation that began last: an operation that another one has
superseded neither writes the record nor calls the controller. -/
def Unshared (subscriptionId : MatterSubscriptionId) (run : RepairRun) : MatterCall → RepairState → Prop
  | .commit (.repair commit), state =>
    commit.subscription.subscriptionId = subscriptionId → commit.operation.operation.phase ≠ .readingGap →
      (ledger state.2).owner = some run.operationId
  | .commit (.subscription subscription _), state =>
    subscription.subscriptionId = subscriptionId → (ledger state.2).owner = some run.operationId
  | .subscribe _ request, state =>
    request.subscriptionId = subscriptionId → (ledger state.2).owner = some run.operationId
  | _, _ => True

instance Unshared.decidable (subscriptionId : MatterSubscriptionId) (run : RepairRun) :
    ∀ (c : MatterCall) (state : RepairState), Decidable (Unshared subscriptionId run c state)
  | .commit (.repair commit), state => inferInstanceAs (Decidable (commit.subscription.subscriptionId = subscriptionId →
      commit.operation.operation.phase ≠ .readingGap → (ledger state.2).owner = some run.operationId))
  | .commit (.subscription subscription _), state => inferInstanceAs (Decidable (
      subscription.subscriptionId = subscriptionId → (ledger state.2).owner = some run.operationId))
  | .subscribe _ request, state => inferInstanceAs (Decidable (
      request.subscriptionId = subscriptionId → (ledger state.2).owner = some run.operationId))
  | .commit (.create _ _), _ | .commit (.admission _ _ _), _ | .commit (.transition _), _
  | .commit (.commissioning _ _), _ | .commit (.cancellation _), _ | .commit (.removal _ _), _ | .newId, _
  | .actorSecurity _, _ | .fabric _, _ | .storeFabric _ _, _ | .administrationOperation _, _
  | .operationNodeResult _, _ | .nodeInventoryItem _ _ _, _ | .admission _ _ _, _ | .fabricStatus _, _
  | .createFabric _ _ _, _ | .exportFabric _ _, _ | .restoreFabric _ _, _ | .commission _ _, _
  | .cancelCommissioning _, _ | .eventsAfter _ _, _ | .nodes _, _ | .node _ _, _ | .removeNode _ _ _, _
  | .read _, _ => inferInstanceAs (Decidable True)

def repairDuties (settings : MatterRepairSettings) (subscriptionId : MatterSubscriptionId)
    (allowed : RepairRun → MatterCall → RepairState → Prop) :
    Duties MatterCall MatterCall.Response RepairState RepairRun
      (Except MatterSubscriptionRepairError MatterSubscriptionRepairOutcome) where
  handler := fun run => MatterStore.handler.tracking (observe subscriptionId run)
  starts := fun repairRun program => ∃ actorId now, program = (run settings actorId repairRun.operationId now).run
  allowed := allowed

end MatterSubscriptionRepair
end HomeMagic
