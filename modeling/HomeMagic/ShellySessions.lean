import HomeMagic.AutomationDomain
import HomeMagic.KeyedTable

/-! The supervisor of the Shelly sessions: tasks that run a session and start it again, the map of the
sessions that it owns, and calls that start, stop and shut down, each up to its next await. -/
namespace HomeMagic

inductive SessionTaskPhase
  /-- About to look at the flag, at first or after the backoff. -/
  | checking
  /-- In `runner.run`. -/
  | running
  | ended (panicked : Bool)
  deriving DecidableEq

def SessionTaskPhase.live : SessionTaskPhase → Bool
  | checking | running => true
  | ended _ => false

structure SessionTask where
  device : DeviceId
  /-- What the watch channel holds. -/
  cancelled : Bool
  /-- The sender of the channel was dropped. -/
  released : Bool
  phase : SessionTaskPhase
  deriving DecidableEq

inductive SessionTaskMove
  /-- Looks at the flag. -/
  | check
  /-- The runner returns, with or without an error. -/
  | return_
  /-- The backoff ends because the sender was dropped. -/
  | leave
  | panic
  deriving DecidableEq

def SessionTask.move (task : SessionTask) : SessionTaskMove → Option SessionTask
  | .check =>
    match task.phase with
    | .checking => some { task with phase := if task.cancelled then .ended false else .running }
    | _ => none
  | .return_ =>
    match task.phase with
    | .running => some { task with phase := if task.cancelled then .ended false else .checking }
    | _ => none
  | .leave =>
    match task.phase with
    | .checking => if task.released then some { task with phase := .ended false } else none
    | _ => none
  | .panic =>
    match task.phase with
    | .running => some { task with phase := .ended true }
    | _ => none

inductive SessionRequest
  | start (device : DeviceId)
  | stop (device : DeviceId)
  | shutdown
  deriving DecidableEq

def SessionRequest.touches (device : DeviceId) : SessionRequest → Prop
  | start other | stop other => other = device
  | shutdown => True

def SessionRequest.stops (device : DeviceId) : SessionRequest → Prop
  | start _ => False
  | stop other => other = device
  | shutdown => True

inductive SessionStage
  /-- Awaits the lock of the map. -/
  | called
  /-- These tasks are no longer in the map, and the next one is to be cancelled. -/
  | removed (failed : Bool) (tasks : List ℕ)
  /-- Awaits the end of a task, with more to cancel after it. -/
  | awaiting (failed : Bool) (task : ℕ) (rest : List ℕ)
  | returned (failed : Bool)
  /-- The future was dropped at an await. -/
  | abandoned
  deriving DecidableEq

namespace SessionStage

def pending : SessionStage → List ℕ
  | removed _ tasks => tasks
  | awaiting _ task rest => task :: rest
  | called | returned _ | abandoned => []

def taken : SessionStage → Bool
  | removed _ _ | awaiting _ _ _ | returned _ => true
  | called | abandoned => false

def proceed (failed : Bool) : List ℕ → SessionStage
  | [] => returned failed
  | task :: rest => removed failed (task :: rest)

end SessionStage

structure SessionCall where
  request : SessionRequest
  stage : SessionStage
  seen : ℕ
  deriving DecidableEq

structure ManagedSession where
  device : DeviceId
  task : ℕ
  deriving DecidableEq

/-- The supervisor, the tasks it has spawned, and the calls to it. A start holds the lock of the map
while it awaits. The requests stand in the order in which they had the map. -/
structure SessionSupervisor where
  tasks : List SessionTask
  sessions : Table DeviceId ManagedSession ManagedSession.device
  held : Option ℕ
  calls : List SessionCall
  order : List SessionRequest

inductive SessionAction
  | call (request : SessionRequest)
  /-- The call gets the lock. -/
  | take (call : ℕ)
  | cancel (call : ℕ)
  /-- The awaited task has ended. -/
  | resume (call : ℕ)
  | abandon (call : ℕ)
  | move (task : ℕ) (how : SessionTaskMove)
  deriving DecidableEq

namespace SessionSupervisor

def new : SessionSupervisor := ⟨[], .empty, none, [], []⟩

def spawn (s : SessionSupervisor) (device : DeviceId) : SessionSupervisor :=
  { s with
    tasks := s.tasks ++ [⟨device, false, false, .checking⟩]
    sessions := s.sessions.upsert ⟨device, s.tasks.length⟩ }

def putCall (s : SessionSupervisor) (c : ℕ) (call : SessionCall) : SessionSupervisor :=
  { s with calls := s.calls.set c call }

def setTask (s : SessionSupervisor) (t : ℕ) (f : SessionTask → SessionTask) : SessionSupervisor :=
  { s with tasks := s.tasks.modify t f }

def remove (s : SessionSupervisor) (device : DeviceId) : SessionSupervisor :=
  { s with sessions := s.sessions.filter (fun managed => managed.device ≠ device) }

def hold (s : SessionSupervisor) (held : Option ℕ) : SessionSupervisor := { s with held := held }

def takeMap (s : SessionSupervisor) (c : ℕ) (request : SessionRequest) : SessionSupervisor :=
  let order := s.order ++ [request]
  let s := { s with order := order }
  let at_ := fun stage => SessionCall.mk request stage order.length
  match request with
  | .start device =>
    match s.sessions.find device with
    | none => (s.spawn device).putCall c (at_ (.returned false))
    | some previous => ((s.remove device).putCall c (at_ (.removed false [previous.task]))).hold (some c)
  | .stop device =>
    match s.sessions.find device with
    | none => s.putCall c (at_ (.returned false))
    | some managed => (s.remove device).putCall c (at_ (.removed false [managed.task]))
  | .shutdown =>
    { s with sessions := .empty }.putCall c (at_ (.proceed false (s.sessions.rows.map ManagedSession.task)))

def resumed (s : SessionSupervisor) (c : ℕ) (call : SessionCall) (failed : Bool) (rest : List ℕ) :
    SessionSupervisor :=
  match call.request with
  | .start device =>
    if failed then (s.putCall c { call with stage := .returned true }).hold none
    else ((s.spawn device).putCall c { call with stage := .returned false }).hold none
  | .stop _ | .shutdown => s.putCall c { call with stage := .proceed failed rest }

def release (s : SessionSupervisor) (tasks : List ℕ) : SessionSupervisor :=
  tasks.foldl (fun s t => s.setTask t (fun task => { task with released := true })) s

def step (s : SessionSupervisor) : SessionAction → Option SessionSupervisor
  | .call request => some { s with calls := s.calls ++ [⟨request, .called, 0⟩] }
  | .take c =>
    match s.calls[c]?, s.held with
    | some ⟨request, .called, _⟩, none => some (s.takeMap c request)
    | _, _ => none
  | .cancel c =>
    match s.calls[c]? with
    | some ⟨request, .removed failed (t :: rest), seen⟩ =>
      some ((s.setTask t (fun task => { task with cancelled := true })).putCall c
        ⟨request, .awaiting failed t rest, seen⟩)
    | _ => none
  | .resume c =>
    match s.calls[c]? with
    | some ⟨request, .awaiting failed t rest, seen⟩ =>
      match (s.tasks[t]?).map SessionTask.phase with
      | some (.ended panicked) => some (s.resumed c ⟨request, .awaiting failed t rest, seen⟩ (failed || panicked) rest)
      | _ => none
    | _ => none
  | .abandon c =>
    match s.calls[c]? with
    | some ⟨request, .called, seen⟩ => some (s.putCall c ⟨request, .abandoned, seen⟩)
    | some ⟨request, .awaiting _ t rest, seen⟩ =>
      some (((s.release (t :: rest)).putCall c ⟨request, .abandoned, seen⟩).hold
        (if s.held = some c then none else s.held))
    | _ => none
  | .move t how =>
    match s.tasks[t]? with
    | some task => (task.move how).map (fun task => s.setTask t (fun _ => task))
    | none => none

def run : SessionSupervisor → List SessionAction → Option SessionSupervisor
  | s, [] => some s
  | s, action :: rest => (s.step action).bind (fun s' => s'.run rest)

def Live (s : SessionSupervisor) (device : DeviceId) (t : ℕ) : Prop :=
  ∃ task, s.tasks[t]? = some task ∧ task.device = device ∧ task.phase.live = true

def Active (s : SessionSupervisor) (device : DeviceId) (t : ℕ) : Prop :=
  ∃ task, s.tasks[t]? = some task ∧ task.device = device ∧ task.phase = .running

/-- At most one runner is active for a device, none after a stop or shutdown that no start came after,
and a session is left by a start that nothing came after. -/
structure Exclusive (s : SessionSupervisor) : Prop where
  one : ∀ device t t', s.Active device t → s.Active device t' → t = t'
  stopped : ∀ call ∈ s.calls, ∀ device failed, call.request.stops device → call.stage = .returned failed →
    .start device ∉ s.order.drop call.seen → ∀ t, ¬ s.Active device t
  started : ∀ call ∈ s.calls, ∀ device failed, call.request = .start device → call.stage = .returned failed →
    (∀ request ∈ s.order.drop call.seen, ¬ request.touches device) →
    ∃ managed task, s.sessions.find device = some managed ∧ s.tasks[managed.task]? = some task ∧
      task.device = device ∧ task.cancelled = false ∧ task.released = false

/-- A call that gets the lock finds every task of its devices that has not ended in the map, and no
start awaits a task that panics. -/
def Permitted (s : SessionSupervisor) : SessionAction → Prop
  | .take c => ∀ call, s.calls[c]? = some call → ∀ device t, call.request.touches device → s.Live device t →
      ∃ managed, s.sessions.find device = some managed ∧ managed.task = t
  | .resume c => ∀ device failed t rest seen, s.calls[c]? = some ⟨.start device, .awaiting failed t rest, seen⟩ →
      (s.tasks[t]?).map SessionTask.phase ≠ some (.ended true)
  | _ => True

def PermittedRun : SessionSupervisor → List SessionAction → Prop
  | _, [] => True
  | s, action :: rest => s.Permitted action ∧ ∀ s', s.step action = some s' → s'.PermittedRun rest

end SessionSupervisor
end HomeMagic
