import HomeMagic.ShellySessions

/-! At most one live session for each device, over every permitted run of the supervisor. -/
namespace HomeMagic
open List

variable {how : SessionTaskMove} {previous : ManagedSession} {task task' : SessionTask}

namespace SessionStage

def failed : SessionStage → Bool
  | removed failed _ | awaiting failed _ _ | returned failed => failed
  | called | abandoned => false

theorem pending_proceed (failed : Bool) (tasks : List ℕ) : (proceed failed tasks).pending = tasks := by
  cases tasks <;> rfl

end SessionStage

namespace SessionSupervisor

def Serves (s : SessionSupervisor) (device : DeviceId) (t : ℕ) : Prop :=
  ∃ task, s.tasks[t]? = some task ∧ task.device = device ∧ task.cancelled = false ∧ task.released = false

structure Holds (s : SessionSupervisor) (c : ℕ) (call : SessionCall) (device : DeviceId) (t : ℕ) : Prop where
  at_ : s.calls[c]? = some call
  request : call.request = .start device
  pending : call.stage.pending = [t]
  failed : call.stage.failed = false
  vacant : s.sessions.find device = none
  previous : ∀ t', s.Live device t' → t' = t
  last : ∀ (c' : ℕ) (call' : SessionCall), c' ≠ c → s.calls[c']? = some call' → call'.stage.taken = true →
    .start device ∈ s.order.drop call'.seen

structure SessionInvariant (s : SessionSupervisor) : Prop where
  owned : ∀ device managed, s.sessions.find device = some managed → s.Serves device managed.task
  alone : ∀ device t t', s.Live device t → s.Live device t' → t = t'
  seen : ∀ (c : ℕ) (call : SessionCall), s.calls[c]? = some call → call.seen ≤ s.order.length
  pending : ∀ (c : ℕ) (call : SessionCall), s.calls[c]? = some call → ∀ t ∈ call.stage.pending, t < s.tasks.length ∧
    ∀ device managed, s.sessions.find device = some managed → managed.task ≠ t
  holder : ∀ c, s.held = some c → ∃ call device t, s.Holds c call device t
  holds : ∀ (c : ℕ) (call : SessionCall) device, s.calls[c]? = some call → call.request = .start device →
    call.stage.pending ≠ [] → s.held = some c
  stopped : ∀ (c : ℕ) (call : SessionCall) device, s.calls[c]? = some call → call.request.stops device →
    call.stage.taken = true → .start device ∉ s.order.drop call.seen → ∀ t, s.Live device t → t ∈ call.stage.pending
  started : ∀ (c : ℕ) (call : SessionCall) device, s.calls[c]? = some call → call.request = .start device →
    call.stage.taken = true → call.stage.pending = [] → (∀ request ∈ s.order.drop call.seen, ¬ request.touches device) →
    ∃ managed, s.sessions.find device = some managed

section Changes
variable {s : SessionSupervisor} {device other : DeviceId} {t t' : ℕ}

theorem find_remove : (s.remove device).sessions.find other =
    if other = device then none else s.sessions.find other := by
  unfold remove
  rw [Table.find_filter]
  cases hfind : s.sessions.find other with
  | none => simp
  | some managed =>
    have hdevice := (Table.find_eq_some.mp hfind).2
    by_cases hother : other = device
    · simp [Option.filter, hdevice, hother]
    · simp [Option.filter, hdevice, hother]

theorem find_spawn : (s.spawn device).sessions.find other =
    if device = other then some ⟨device, s.tasks.length⟩ else s.sessions.find other :=
  Table.find_upsert

theorem get_spawn : (s.spawn device).tasks[t]? =
    if t < s.tasks.length then s.tasks[t]? else if t = s.tasks.length then some ⟨device, false, false, .checking⟩
      else none := by
  unfold spawn
  simp only
  split
  next hlt => exact List.getElem?_append_left hlt
  next hge =>
    rw [List.getElem?_append_right (by omega)]
    split
    next heq => rw [heq, Nat.sub_self]; rfl
    next hne => exact List.getElem?_eq_none (by simp only [length_singleton]; omega)

theorem live_spawn : (s.spawn device).Live other t ↔ s.Live other t ∨ (other = device ∧ t = s.tasks.length) := by
  unfold Live
  rw [get_spawn]
  constructor
  · rintro ⟨task, hget, hdevice, hlive⟩
    split at hget
    · exact Or.inl ⟨task, hget, hdevice, hlive⟩
    · split at hget
      next heq =>
        cases hget
        exact Or.inr ⟨hdevice.symm, heq⟩
      · cases hget
  · rintro (⟨task, hget, hdevice, hlive⟩ | ⟨rfl, rfl⟩)
    · have hlt := (List.getElem?_eq_some_iff.mp hget).1
      rw [if_pos hlt]
      exact ⟨task, hget, hdevice, hlive⟩
    · rw [if_neg (Nat.lt_irrefl _), if_pos rfl]
      exact ⟨_, rfl, rfl, rfl⟩

theorem serves_spawn_self : (s.spawn device).Serves device s.tasks.length := by
  unfold Serves
  rw [get_spawn, if_neg (Nat.lt_irrefl _), if_pos rfl]
  exact ⟨_, rfl, rfl, rfl, rfl⟩

theorem Serves.spawn (h : s.Serves other t) : (s.spawn device).Serves other t := by
  obtain ⟨task, hget, hserves⟩ := h
  have hlt := (List.getElem?_eq_some_iff.mp hget).1
  refine ⟨task, ?_, hserves⟩
  rw [get_spawn, if_pos hlt]
  exact hget

theorem getElem?_putCall {c c' : ℕ} {call : SessionCall} (hc : c < s.calls.length) :
    (s.putCall c call).calls[c']? = if c' = c then some call else s.calls[c']? := by
  unfold putCall
  simp only
  by_cases heq : c' = c
  · rw [if_pos heq, heq]
    exact List.getElem?_set_self hc
  · rw [if_neg heq]
    exact List.getElem?_set_ne (Ne.symm heq)

end Changes

structure Continues (call call' : SessionCall) : Prop where
  request : call'.request = call.request
  seen : call'.seen = call.seen
  pending : call'.stage.pending = call.stage.pending
  taken : call'.stage.taken = call.stage.taken
  failed : call'.stage.failed = call.stage.failed

structure Calm (s s' : SessionSupervisor) : Prop where
  sessions : s'.sessions = s.sessions
  order : s'.order = s.order
  held : s'.held = s.held
  length : s'.tasks.length = s.tasks.length
  live : ∀ device t, s'.Live device t → s.Live device t
  serves : ∀ device managed, s.sessions.find device = some managed → s.Serves device managed.task →
    s'.Serves device managed.task
  forward : ∀ (c : ℕ) (call : SessionCall), s.calls[c]? = some call →
    ∃ call', s'.calls[c]? = some call' ∧ Continues call call'
  backward : ∀ (c : ℕ) (call' : SessionCall), s'.calls[c]? = some call' →
    ∃ call, s.calls[c]? = some call ∧ Continues call call'

/-- Steps of tasks bring none to life. -/
theorem SessionInvariant.calm {s s' : SessionSupervisor} (h : s.SessionInvariant) (hcalm : Calm s s') :
    s'.SessionInvariant := by
  refine ⟨?_, ?_, ?_, ?_, ?_, ?_, ?_, ?_⟩
  · intro device managed hfind
    rw [hcalm.sessions] at hfind
    exact hcalm.serves device managed hfind (h.owned device managed hfind)
  · intro device t t' hlive hlive'
    exact h.alone device t t' (hcalm.live device t hlive) (hcalm.live device t' hlive')
  · intro c call' hget
    obtain ⟨call, hcall, hcontinues⟩ := hcalm.backward c call' hget
    rw [hcontinues.seen, hcalm.order]
    exact h.seen c call hcall
  · intro c call' hget t ht
    obtain ⟨call, hcall, hcontinues⟩ := hcalm.backward c call' hget
    rw [hcontinues.pending] at ht
    rw [hcalm.sessions, hcalm.length]
    exact h.pending c call hcall t ht
  · intro c hheld
    rw [hcalm.held] at hheld
    obtain ⟨call, device, t, hholds⟩ := h.holder c hheld
    obtain ⟨call', hcall', hcontinues⟩ := hcalm.forward c call hholds.at_
    refine ⟨call', device, t, hcall', hcontinues.request.trans hholds.request,
      hcontinues.pending.trans hholds.pending, hcontinues.failed.trans hholds.failed, ?_, ?_, ?_⟩
    · rw [hcalm.sessions]
      exact hholds.vacant
    · exact fun t' hlive => hholds.previous t' (hcalm.live device t' hlive)
    · intro c' other hne hother htaken
      obtain ⟨before, hbefore, hcontinues⟩ := hcalm.backward c' other hother
      rw [hcontinues.taken] at htaken
      rw [hcalm.order, hcontinues.seen]
      exact hholds.last c' before hne hbefore htaken
  · intro c call' device hget hrequest hpending
    obtain ⟨call, hcall, hcontinues⟩ := hcalm.backward c call' hget
    rw [hcontinues.request] at hrequest
    rw [hcontinues.pending] at hpending
    rw [hcalm.held]
    exact h.holds c call device hcall hrequest hpending
  · intro c call' device hget hstops htaken hno t hlive
    obtain ⟨call, hcall, hcontinues⟩ := hcalm.backward c call' hget
    rw [hcontinues.request] at hstops
    rw [hcontinues.taken] at htaken
    rw [hcalm.order, hcontinues.seen] at hno
    rw [hcontinues.pending]
    exact h.stopped c call device hcall hstops htaken hno t (hcalm.live device t hlive)
  · intro c call' device hget hrequest htaken hpending hlast
    obtain ⟨call, hcall, hcontinues⟩ := hcalm.backward c call' hget
    rw [hcontinues.request] at hrequest
    rw [hcontinues.taken] at htaken
    rw [hcontinues.pending] at hpending
    rw [hcalm.order, hcontinues.seen] at hlast
    rw [hcalm.sessions]
    exact h.started c call device hcall hrequest htaken hpending hlast

section Tasks
variable {s : SessionSupervisor} {device : DeviceId} {t i : ℕ} {f : SessionTask → SessionTask}

theorem getElem?_setTask : (s.setTask t f).tasks[i]? = if i = t then (s.tasks[i]?).map f else s.tasks[i]? := by
  unfold setTask
  simp only
  rw [List.getElem?_modify]
  by_cases hi : i = t
  · rw [if_pos hi]
    simp only [hi, if_true]
    rfl
  · rw [if_neg hi]
    simp only [Ne.symm hi, if_false]
    exact congrFun Option.map_id _

theorem live_setTask (hf : ∀ task, s.tasks[t]? = some task → (f task).device = task.device ∧
    ((f task).phase.live = true → task.phase.live = true)) (h : (s.setTask t f).Live device i) :
    s.Live device i := by
  obtain ⟨task', hget, hdevice, hlive⟩ := h
  rw [getElem?_setTask] at hget
  split at hget
  next hi =>
    rw [hi] at hget ⊢
    obtain ⟨task, htask, rfl⟩ := Option.map_eq_some_iff.mp hget
    obtain ⟨hsame, hback⟩ := hf task htask
    exact ⟨task, htask, hsame.symm.trans hdevice, hback hlive⟩
  · exact ⟨task', hget, hdevice, hlive⟩

theorem serves_setTask_ne (hi : i ≠ t) (h : s.Serves device i) : (s.setTask t f).Serves device i := by
  obtain ⟨task, hget, hserves⟩ := h
  refine ⟨task, ?_, hserves⟩
  rw [getElem?_setTask, if_neg hi]
  exact hget

theorem serves_setTask (hf : ∀ task, s.tasks[t]? = some task → (f task).device = task.device ∧
    (f task).cancelled = task.cancelled ∧ (f task).released = task.released) (h : s.Serves device i) :
    (s.setTask t f).Serves device i := by
  by_cases hi : i = t
  · obtain ⟨task, hget, hdevice, hcancelled, hreleased⟩ := h
    rw [hi] at hget
    obtain ⟨hsame, hsame', hsame''⟩ := hf task hget
    refine ⟨f task, ?_, hsame.trans hdevice, hsame'.trans hcancelled, hsame''.trans hreleased⟩
    rw [getElem?_setTask, if_pos hi, hi, hget]
    rfl
  · exact serves_setTask_ne hi h

theorem length_setTask : (s.setTask t f).tasks.length = s.tasks.length := length_modify ..

theorem move_keeps (h : task.move how = some task') :
    task'.device = task.device ∧ task'.cancelled = task.cancelled ∧ task'.released = task.released ∧
      (task'.phase.live = true → task.phase.live = true) := by
  unfold SessionTask.move at h
  cases how with
  | check | return_ | panic =>
    simp only at h
    split at h
    next hphase =>
      cases h
      exact ⟨rfl, rfl, rfl, fun _ => by rw [hphase]; rfl⟩
    · cases h
  | leave =>
    simp only at h
    split at h
    next hphase =>
      split at h
      · cases h
        exact ⟨rfl, rfl, rfl, fun hlive => nomatch hlive⟩
      · cases h
    · cases h

theorem SessionInvariant.move (h : s.SessionInvariant) (hget : s.tasks[t]? = some task)
    (hmove : task.move how = some task') :
    (s.setTask t (fun _ => task')).SessionInvariant := by
  obtain ⟨hdevice, hcancelled, hreleased, hlive⟩ := move_keeps hmove
  apply h.calm
  refine ⟨rfl, rfl, rfl, length_setTask, ?_, ?_, ?_, ?_⟩
  · intro device i
    apply live_setTask
    intro before hbefore
    rw [hget] at hbefore
    cases hbefore
    exact ⟨hdevice, hlive⟩
  · intro device managed _ hserves
    apply serves_setTask _ hserves
    intro before hbefore
    rw [hget] at hbefore
    cases hbefore
    exact ⟨hdevice, hcancelled, hreleased⟩
  · exact fun c call hcall => ⟨call, hcall, rfl, rfl, rfl, rfl, rfl⟩
  · exact fun c call hcall => ⟨call, hcall, rfl, rfl, rfl, rfl, rfl⟩

theorem release_keeps (tasks : List ℕ) (s : SessionSupervisor) :
    (s.release tasks).sessions = s.sessions ∧ (s.release tasks).order = s.order ∧
      (s.release tasks).held = s.held ∧ (s.release tasks).calls = s.calls ∧
      (s.release tasks).tasks.length = s.tasks.length ∧
      (∀ device i, (s.release tasks).Live device i → s.Live device i) ∧
      (∀ device i, i ∉ tasks → s.Serves device i → (s.release tasks).Serves device i) := by
  induction tasks generalizing s with
  | nil => exact ⟨rfl, rfl, rfl, rfl, rfl, fun _ _ => id, fun _ _ _ => id⟩
  | cons t rest ih =>
    have hrest := ih (s.setTask t (fun task => { task with released := true }))
    obtain ⟨hsessions, horder, hheld, hcalls, hlength, hlive, hserves⟩ := hrest
    refine ⟨hsessions, horder, hheld, hcalls, hlength.trans length_setTask, ?_, ?_⟩
    · intro device i h
      have hbefore := hlive device i h
      refine live_setTask ?_ hbefore
      intro task _
      exact ⟨rfl, id⟩
    · intro device i hi h
      have hne : i ≠ t := fun heq => hi (heq ▸ mem_cons_self)
      exact hserves device i (fun hmem => hi (mem_cons_of_mem t hmem)) (serves_setTask_ne hne h)

end Tasks

section Calls
variable {s s' : SessionSupervisor} {c : ℕ} {call call' : SessionCall}

theorem call_lt (hcall : s.calls[c]? = some call) : c < s.calls.length := (List.getElem?_eq_some_iff.mp hcall).1

theorem Continues.refl (call : SessionCall) : Continues call call := ⟨rfl, rfl, rfl, rfl, rfl⟩

theorem putCall_cases (hc : c < s.calls.length) {c' : ℕ} {other : SessionCall}
    (hother : (s.putCall c call').calls[c']? = some other) :
    (c' = c ∧ other = call') ∨ (c' ≠ c ∧ s.calls[c']? = some other) := by
  rw [getElem?_putCall hc] at hother
  split at hother
  next heq => exact Or.inl ⟨heq, (Option.some.inj hother).symm⟩
  next hne => exact Or.inr ⟨hne, hother⟩

theorem putCall_calm (hcall : s.calls[c]? = some call) (hcontinues : Continues call call') :
    Calm s (s.putCall c call') := by
  have hc := call_lt hcall
  refine ⟨rfl, rfl, rfl, rfl, fun _ _ => id, fun _ _ _ => id, ?_, ?_⟩
  · intro c' other hother
    rw [getElem?_putCall hc]
    split
    next heq =>
      rw [heq, hcall] at hother
      cases hother
      exact ⟨call', rfl, hcontinues⟩
    · exact ⟨other, hother, Continues.refl other⟩
  · intro c' other hother
    rcases putCall_cases hc hother with ⟨rfl, rfl⟩ | ⟨-, hother⟩
    · exact ⟨call, hcall, hcontinues⟩
    · exact ⟨other, hother, Continues.refl other⟩

theorem SessionInvariant.ask (h : s.SessionInvariant) (request : SessionRequest) :
    ({ s with calls := s.calls ++ [⟨request, .called, 0⟩] } : SessionSupervisor).SessionInvariant := by
  have hget : ∀ (c : ℕ) (call : SessionCall), (s.calls ++ [⟨request, .called, 0⟩])[c]? = some call →
      s.calls[c]? = some call ∨ call = ⟨request, .called, 0⟩ := by
    intro c call hcall
    by_cases hc : c < s.calls.length
    · rw [List.getElem?_append_left hc] at hcall
      exact Or.inl hcall
    · rw [List.getElem?_append_right (by omega)] at hcall
      exact Or.inr (mem_singleton.mp (mem_of_getElem? hcall))
  refine ⟨h.owned, h.alone, ?_, ?_, ?_, ?_, ?_, ?_⟩
  · intro c call hcall
    rcases hget c call hcall with hcall | rfl
    · exact h.seen c call hcall
    · exact Nat.zero_le _
  · intro c call hcall t ht
    rcases hget c call hcall with hcall | rfl
    · exact h.pending c call hcall t ht
    · cases ht
  · intro c hheld
    obtain ⟨call, device, t, hholds⟩ := h.holder c hheld
    refine ⟨call, device, t, ?_, hholds.request, hholds.pending, hholds.failed, hholds.vacant, hholds.previous, ?_⟩
    · exact (List.getElem?_append_left (call_lt hholds.at_)).trans hholds.at_
    · intro c' other hne hother htaken
      rcases hget c' other hother with hother | rfl
      · exact hholds.last c' other hne hother htaken
      · cases htaken
  · intro c call device hcall hrequest hpending
    rcases hget c call hcall with hcall | rfl
    · exact h.holds c call device hcall hrequest hpending
    · exact absurd rfl hpending
  · intro c call device hcall hstops htaken
    rcases hget c call hcall with hcall | rfl
    · exact h.stopped c call device hcall hstops htaken
    · cases htaken
  · intro c call device hcall hrequest htaken
    rcases hget c call hcall with hcall | rfl
    · exact h.started c call device hcall hrequest htaken
    · cases htaken

/-- A call that owns nothing more lets go of the lock. -/
theorem SessionInvariant.withdraw (h : s.SessionInvariant) (hcall : s.calls[c]? = some call)
    (hidle : call'.stage.pending = [] ∧ call'.stage.taken = false) (hseen : call'.seen = call.seen) :
    ((s.putCall c call').hold (if s.held = some c then none else s.held)).SessionInvariant := by
  have hc := call_lt hcall
  have hget := fun c' other => @putCall_cases s c call' hc c' other
  refine ⟨h.owned, h.alone, ?_, ?_, ?_, ?_, ?_, ?_⟩
  · intro c' other hother
    rcases hget c' other hother with ⟨rfl, rfl⟩ | ⟨-, hother⟩
    · rw [hseen]
      exact h.seen c' call hcall
    · exact h.seen c' other hother
  · intro c' other hother t ht
    rcases hget c' other hother with ⟨rfl, rfl⟩ | ⟨-, hother⟩
    · rw [hidle.1] at ht
      cases ht
    · exact h.pending c' other hother t ht
  · intro holder hheld
    have hbefore : s.held = some holder ∧ holder ≠ c := by
      unfold hold at hheld
      simp only at hheld
      split at hheld
      · cases hheld
      next hother =>
        refine ⟨hheld, ?_⟩
        rintro rfl
        exact hother hheld
    obtain ⟨holding, device, t, hholds⟩ := h.holder holder hbefore.1
    refine ⟨holding, device, t, ?_, hholds.request, hholds.pending, hholds.failed, hholds.vacant,
      hholds.previous, ?_⟩
    · show (s.putCall c call').calls[holder]? = some holding
      rw [getElem?_putCall hc, if_neg hbefore.2]
      exact hholds.at_
    · intro c' other hne hother htaken
      rcases hget c' other hother with ⟨rfl, rfl⟩ | ⟨-, hother⟩
      · rw [hidle.2] at htaken
        cases htaken
      · exact hholds.last c' other hne hother htaken
  · intro c' other device hother hrequest hpending
    rcases hget c' other hother with ⟨rfl, rfl⟩ | ⟨hne, hother⟩
    · exact absurd hidle.1 hpending
    · have hheld := h.holds c' other device hother hrequest hpending
      show (if s.held = some c then none else s.held) = some c'
      rw [if_neg]
      · exact hheld
      · rw [hheld]
        exact fun heq => hne (Option.some.inj heq)
  · intro c' other device hother hstops htaken
    rcases hget c' other hother with ⟨rfl, rfl⟩ | ⟨-, hother⟩
    · rw [hidle.2] at htaken
      cases htaken
    · exact h.stopped c' other device hother hstops htaken
  · intro c' other device hother hrequest htaken
    rcases hget c' other hother with ⟨rfl, rfl⟩ | ⟨-, hother⟩
    · rw [hidle.2] at htaken
      cases htaken
    · exact h.started c' other device hother hrequest htaken

theorem SessionInvariant.spawn_serves (h : s.SessionInvariant) {device : DeviceId} :
    ∀ other managed, (s.spawn device).sessions.find other = some managed →
      (s.spawn device).Serves other managed.task := by
  intro other managed hmanaged
  rw [find_spawn] at hmanaged
  split at hmanaged
  next heq =>
    cases hmanaged
    exact heq ▸ serves_spawn_self
  · exact Serves.spawn (h.owned other managed hmanaged)

theorem SessionInvariant.spawn_alone (h : s.SessionInvariant) {device : DeviceId}
    (hnone : ∀ t, ¬ s.Live device t) :
    ∀ other t t', (s.spawn device).Live other t → (s.spawn device).Live other t' → t = t' := by
  intro other t t' hlive hlive'
  rcases live_spawn.mp hlive with hbefore | ⟨rfl, rfl⟩
  · rcases live_spawn.mp hlive' with hbefore' | ⟨rfl, -⟩
    · exact h.alone other t t' hbefore hbefore'
    · exact absurd hbefore (hnone t)
  · rcases live_spawn.mp hlive' with hbefore' | ⟨-, rfl⟩
    · exact absurd hbefore' (hnone t')
    · rfl

/-- A call sees the end of a task that it took out. -/
theorem SessionInvariant.seenEnd (h : s.SessionInvariant) (hcall : s.calls[c]? = some call) {t : ℕ} {rest : List ℕ}
    (hpending : call.stage.pending = t :: rest) (htaken : call.stage.taken = true)
    (hstop : ∀ device, call.request ≠ .start device) (hended : ∀ device, ¬ s.Live device t)
    (hrequest : call'.request = call.request) (hseen : call'.seen = call.seen)
    (hpending' : call'.stage.pending = rest) : (s.putCall c call').SessionInvariant := by
  have hc := call_lt hcall
  have hget := fun c' other => @putCall_cases s c call' hc c' other
  refine ⟨h.owned, h.alone, ?_, ?_, ?_, ?_, ?_, ?_⟩
  · intro c' other hother
    rcases hget c' other hother with ⟨rfl, rfl⟩ | ⟨-, hother⟩
    · rw [hseen]
      exact h.seen c' call hcall
    · exact h.seen c' other hother
  · intro c' other hother t' ht'
    rcases hget c' other hother with ⟨rfl, rfl⟩ | ⟨-, hother⟩
    · rw [hpending'] at ht'
      exact h.pending c' call hcall t' (hpending ▸ mem_cons_of_mem t ht')
    · exact h.pending c' other hother t' ht'
  · intro holder hheld
    obtain ⟨holding, device, previous, hholds⟩ := h.holder holder hheld
    have hne : holder ≠ c := by
      rintro rfl
      have hsame := hholds.at_
      rw [hcall] at hsame
      cases hsame
      exact hstop device hholds.request
    refine ⟨holding, device, previous, ?_, hholds.request, hholds.pending, hholds.failed, hholds.vacant,
      hholds.previous, ?_⟩
    · rw [getElem?_putCall hc, if_neg hne]
      exact hholds.at_
    · intro c' other hne' hother htaken'
      rcases hget c' other hother with ⟨rfl, rfl⟩ | ⟨-, hother⟩
      · rw [hseen]
        exact hholds.last c' call hne' hcall htaken
      · exact hholds.last c' other hne' hother htaken'
  · intro c' other device hother hstart
    rcases hget c' other hother with ⟨rfl, rfl⟩ | ⟨-, hother⟩
    · exact absurd (hrequest.symm.trans hstart) (hstop device)
    · exact h.holds c' other device hother hstart
  · intro c' other device hother hstops htaken' hno t' hlive
    rcases hget c' other hother with ⟨rfl, rfl⟩ | ⟨-, hother⟩
    · rw [hrequest] at hstops
      rw [hseen] at hno
      have hmem := h.stopped c' call device hcall hstops htaken hno t' hlive
      rw [hpending] at hmem
      rw [hpending']
      rcases mem_cons.mp hmem with rfl | hmem
      · exact absurd hlive (hended device)
      · exact hmem
    · exact h.stopped c' other device hother hstops htaken' hno t' hlive
  · intro c' other device hother hstart
    rcases hget c' other hother with ⟨rfl, rfl⟩ | ⟨-, hother⟩
    · exact absurd (hrequest.symm.trans hstart) (hstop device)
    · exact h.started c' other device hother hstart

/-- A start whose previous task has ended spawns the next one and returns. -/
theorem SessionInvariant.startEnd (h : s.SessionInvariant) {device : DeviceId} {t : ℕ}
    (hholds : s.Holds c call device t) (hended : ¬ s.Live device t)
    (hrequest : call'.request = call.request) (hseen : call'.seen = call.seen)
    (hstage : call'.stage = .returned false) :
    (((s.spawn device).putCall c call').hold none).SessionInvariant := by
  have hcall := hholds.at_
  have hc := call_lt hcall
  have hget := fun c' other => @putCall_cases (s.spawn device) c call' hc c' other
  have hnone : ∀ t', ¬ s.Live device t' := fun t' hlive => hended (hholds.previous t' hlive ▸ hlive)
  have hheld : s.held = some c :=
    h.holds c call device hcall hholds.request (by rw [hholds.pending]; exact cons_ne_nil t [])
  have hfind := fun other => @find_spawn s device other
  refine ⟨h.spawn_serves, h.spawn_alone hnone, ?_, ?_, fun _ hholder => (nomatch hholder), ?_, ?_, ?_⟩
  · intro c' other hother
    rcases hget c' other hother with ⟨rfl, rfl⟩ | ⟨-, hother⟩
    · rw [hseen]
      exact h.seen c' call hcall
    · exact h.seen c' other hother
  · intro c' other hother t' ht'
    rcases hget c' other hother with ⟨rfl, rfl⟩ | ⟨-, hother⟩
    · rw [hstage] at ht'
      cases ht'
    · obtain ⟨hlt, hfree⟩ := h.pending c' other hother t' ht'
      refine ⟨?_, ?_⟩
      · show t' < (s.tasks ++ [_]).length
        rw [length_append]
        omega
      · intro device' managed hmanaged
        have hmanaged : (s.spawn device).sessions.find device' = some managed := hmanaged
        rw [hfind] at hmanaged
        split at hmanaged
        · cases hmanaged
          exact (Nat.ne_of_lt hlt).symm
        · exact hfree device' managed hmanaged
  · intro c' other device' hother hstart hpending
    rcases hget c' other hother with ⟨rfl, rfl⟩ | ⟨hne, hother⟩
    · rw [hstage] at hpending
      exact absurd rfl hpending
    · have hother' := h.holds c' other device' hother hstart hpending
      rw [hheld] at hother'
      exact absurd (Option.some.inj hother').symm hne
  · intro c' other device' hother hstops htaken hno t' hlive
    have hlive : (s.spawn device).Live device' t' := hlive
    rcases hget c' other hother with ⟨rfl, rfl⟩ | ⟨hne, hother⟩
    · rw [hrequest, hholds.request] at hstops
      exact absurd hstops id
    · rcases live_spawn.mp hlive with hbefore | ⟨rfl, -⟩
      · exact h.stopped c' other device' hother hstops htaken hno t' hbefore
      · exact absurd (hholds.last c' other hne hother htaken) hno
  · intro c' other device' hother hstart htaken hpending hlast
    show ∃ managed, (s.spawn device).sessions.find device' = some managed
    rw [hfind]
    split
    · exact ⟨_, rfl⟩
    next hne =>
      rcases hget c' other hother with ⟨rfl, rfl⟩ | ⟨-, hother⟩
      · have hsame := hholds.request.symm.trans (hrequest.symm.trans hstart)
        cases hsame
        exact absurd rfl hne
      · exact h.started c' other device' hother hstart htaken hpending hlast

end Calls

section Take
variable {s s' : SessionSupervisor} {c : ℕ} {request : SessionRequest}

structure Takes (s s' : SessionSupervisor) (c : ℕ) (request : SessionRequest) (stage : SessionStage) : Prop where
  order : s'.order = s.order ++ [request]
  calls : ∀ (c' : ℕ) (call' : SessionCall), s'.calls[c']? = some call' →
    (c' = c ∧ call' = ⟨request, stage, s.order.length + 1⟩) ∨ (c' ≠ c ∧ s.calls[c']? = some call')
  at_ : s'.calls[c]? = some ⟨request, stage, s.order.length + 1⟩
  length : s.tasks.length ≤ s'.tasks.length
  find : ∀ device managed, s'.sessions.find device = some managed →
    s.sessions.find device = some managed ∨ s.tasks.length ≤ managed.task
  kept : ∀ device, ¬ request.touches device → s'.sessions.find device = s.sessions.find device
  serves : ∀ device managed, s'.sessions.find device = some managed → s'.Serves device managed.task
  alone : ∀ device t t', s'.Live device t → s'.Live device t' → t = t'
  live : ∀ device t, request ≠ .start device → s'.Live device t → s.Live device t
  pending : ∀ t ∈ stage.pending, t < s'.tasks.length ∧
    ∀ device managed, s'.sessions.find device = some managed → managed.task ≠ t
  stopped : ∀ device, request.stops device → ∀ t, s'.Live device t → t ∈ stage.pending
  started : ∀ device, request = .start device → stage.pending = [] →
    ∃ managed, s'.sessions.find device = some managed
  held : (s'.held = none ∧ ∀ device, request = .start device → stage.pending = []) ∨
    (s'.held = some c ∧ ∃ device t, request = .start device ∧ stage.pending = [t] ∧ stage.failed = false ∧
      s'.sessions.find device = none ∧ ∀ t', s'.Live device t' → t' = t)

/-- Having the map: the sessions of the request are taken out, and perhaps a new one is brought in. -/
theorem SessionInvariant.take {stage : SessionStage} (h : s.SessionInvariant) (hheld : s.held = none)
    (htakes : Takes s s' c request stage) : s'.SessionInvariant := by
  have hdrop : ∀ (c' : ℕ) (other : SessionCall), s.calls[c']? = some other →
      s'.order.drop other.seen = s.order.drop other.seen ++ [request] := by
    intro c' other hother
    rw [htakes.order, drop_append_of_le_length (h.seen c' other hother)]
  refine ⟨htakes.serves, htakes.alone, ?_, ?_, ?_, ?_, ?_, ?_⟩
  · intro c' other hother
    rw [htakes.order, length_append, length_singleton]
    rcases htakes.calls c' other hother with ⟨-, rfl⟩ | ⟨-, hother⟩
    · exact Nat.le_refl _
    · exact (h.seen c' other hother).trans (Nat.le_succ _)
  · intro c' other hother t ht
    rcases htakes.calls c' other hother with ⟨-, rfl⟩ | ⟨-, hother⟩
    · exact htakes.pending t ht
    · obtain ⟨hlt, hfree⟩ := h.pending c' other hother t ht
      refine ⟨Nat.lt_of_lt_of_le hlt htakes.length, ?_⟩
      intro device managed hfind
      rcases htakes.find device managed hfind with hbefore | hnew
      · exact hfree device managed hbefore
      · omega
  · intro holder hholder
    rcases htakes.held with ⟨hnone, -⟩ | ⟨hself, device, t, hrequest, hpending, hfailed, hvacant, hprevious⟩
    · rw [hnone] at hholder
      cases hholder
    · rw [hself] at hholder
      cases hholder
      refine ⟨_, device, t, htakes.at_, hrequest, hpending, hfailed, hvacant, hprevious, ?_⟩
      intro c' other hne hother _
      rcases htakes.calls c' other hother with ⟨heq, -⟩ | ⟨-, hother⟩
      · exact absurd heq hne
      · rw [hdrop c' other hother, hrequest]
        exact mem_append_right _ (mem_singleton.mpr rfl)
  · intro c' other device hother hstart hpending
    rcases htakes.calls c' other hother with ⟨rfl, rfl⟩ | ⟨-, hother⟩
    · rcases htakes.held with ⟨-, hnone⟩ | ⟨hself, -⟩
      · exact absurd (hnone device hstart) hpending
      · exact hself
    · have hbefore := h.holds c' other device hother hstart hpending
      rw [hheld] at hbefore
      cases hbefore
  · intro c' other device hother hstops htaken hno t hlive
    rcases htakes.calls c' other hother with ⟨-, rfl⟩ | ⟨-, hother⟩
    · exact htakes.stopped device hstops t hlive
    · rw [hdrop c' other hother, mem_append, mem_singleton, not_or] at hno
      have hbefore := htakes.live device t (Ne.symm hno.2) hlive
      exact h.stopped c' other device hother hstops htaken hno.1 t hbefore
  · intro c' other device hother hstart htaken hpending hlast
    rcases htakes.calls c' other hother with ⟨-, rfl⟩ | ⟨-, hother⟩
    · exact htakes.started device hstart hpending
    · rw [hdrop c' other hother] at hlast
      have hother' := hlast request (mem_append_right _ (mem_singleton.mpr rfl))
      rw [htakes.kept device hother']
      exact h.started c' other device hother hstart htaken hpending
        (fun r hr => hlast r (mem_append_left _ hr))

theorem removed_pending (h : s.SessionInvariant) {device : DeviceId}
    (hprevious : s.sessions.find device = some previous) :
    ∀ t ∈ [previous.task], t < s.tasks.length ∧
      ∀ other managed, (s.remove device).sessions.find other = some managed → managed.task ≠ t := by
  intro t ht
  rw [mem_singleton.mp ht]
  have hserves := h.owned device previous hprevious
  have hlt : previous.task < s.tasks.length := by
    obtain ⟨task, hget, -⟩ := hserves
    exact (List.getElem?_eq_some_iff.mp hget).1
  refine ⟨hlt, ?_⟩
  intro other managed hfind heq
  rw [find_remove] at hfind
  split at hfind
  · cases hfind
  next hne =>
    have hother := h.owned other managed hfind
    rw [heq] at hother
    obtain ⟨task, hget, hdevice, -⟩ := hserves
    obtain ⟨task', hget', hdevice', -⟩ := hother
    rw [hget] at hget'
    cases hget'
    exact hne (hdevice'.symm.trans hdevice)

/-- A stop takes the session of its device, whose task is the only live one. -/
theorem remove_takes (h : s.SessionInvariant) {device : DeviceId} {held : Option ℕ}
    (hprevious : s.sessions.find device = some previous) (hc : c < s.calls.length)
    (hpermitted : ∀ t, s.Live device t → t = previous.task)
    (htouches : ∀ other, request.touches other ↔ other = device)
    (hheld : (held = none ∧ ∀ device, request ≠ .start device) ∨ (held = some c ∧ request = .start device)) :
    Takes s (((({ s with order := s.order ++ [request] } : SessionSupervisor).remove device).putCall c
      ⟨request, .removed false [previous.task], (s.order ++ [request]).length⟩).hold held) c request
      (.removed false [previous.task]) := by
  let before : SessionSupervisor := ({ s with order := s.order ++ [request] } : SessionSupervisor).remove device
  have hfind : ∀ other, before.sessions.find other = if other = device then none else s.sessions.find other :=
    fun other => find_remove
  have hlength : (s.order ++ [request]).length = s.order.length + 1 := length_append
  have hstops : ∀ other, request.stops other → other = device := by
    intro other hstops
    apply (htouches other).mp
    cases request with
    | start _ => exact absurd hstops id
    | stop _ => exact hstops
    | shutdown => exact trivial
  refine ⟨rfl, ?_, ?_, Nat.le_refl _, ?_, ?_, ?_, h.alone, fun _ _ _ => id, removed_pending h hprevious, ?_, ?_, ?_⟩
  · intro c' call' hcall'
    rw [← hlength]
    exact putCall_cases (s := before) hc hcall'
  · rw [← hlength]
    exact (getElem?_putCall (s := before) hc).trans (if_pos rfl)
  · intro other managed hmanaged
    have hmanaged : before.sessions.find other = some managed := hmanaged
    rw [hfind] at hmanaged
    split at hmanaged
    · cases hmanaged
    · exact Or.inl hmanaged
  · intro other hother
    show before.sessions.find other = _
    rw [hfind, if_neg (fun heq => hother ((htouches other).mpr heq))]
  · intro other managed hmanaged
    have hmanaged : before.sessions.find other = some managed := hmanaged
    rw [hfind] at hmanaged
    split at hmanaged
    · cases hmanaged
    · exact h.owned other managed hmanaged
  · intro other hother t hlive
    rw [hstops other hother] at hlive
    exact mem_singleton.mpr (hpermitted t hlive)
  · intro other hstart hpending
    cases hpending
  · rcases hheld with ⟨hnone, hrequest⟩ | ⟨hself, hrequest⟩
    · exact Or.inl ⟨hnone, fun other hother => absurd hother (hrequest other)⟩
    · refine Or.inr ⟨hself, device, previous.task, hrequest, rfl, rfl, ?_, hpermitted⟩
      show before.sessions.find device = none
      rw [hfind, if_pos rfl]

theorem idle_takes (h : s.SessionInvariant) (hc : c < s.calls.length) (hheld : s.held = none)
    (hstart : ∀ device, request ≠ .start device) (hnone : ∀ device t, request.stops device → ¬ s.Live device t) :
    Takes s (({ s with order := s.order ++ [request] } : SessionSupervisor).putCall c
      ⟨request, .returned false, (s.order ++ [request]).length⟩) c request (.returned false) := by
  have hlength : (s.order ++ [request]).length = s.order.length + 1 := length_append
  refine ⟨rfl, ?_, ?_, Nat.le_refl _, fun _ _ => Or.inl, fun _ _ => rfl, h.owned, h.alone, fun _ _ _ => id, ?_,
    ?_, ?_, ?_⟩
  · intro c' call' hcall'
    rw [← hlength]
    exact putCall_cases (s := { s with order := s.order ++ [request] }) hc hcall'
  · rw [← hlength]
    exact (getElem?_putCall (s := { s with order := s.order ++ [request] }) hc).trans (if_pos rfl)
  · intro t ht
    cases ht
  · exact fun device hstops t hlive => absurd hlive (hnone device t hstops)
  · exact fun device hrequest => absurd hrequest (hstart device)
  · exact Or.inl ⟨hheld, fun _ _ => rfl⟩

/-- A start without a previous session spawns at once. -/
theorem spawn_takes (h : s.SessionInvariant) (hc : c < s.calls.length) (hheld : s.held = none) {device : DeviceId}
    (hnone : ∀ t, ¬ s.Live device t) :
    Takes s ((({ s with order := s.order ++ [.start device] } : SessionSupervisor).spawn device).putCall c
      ⟨.start device, .returned false, (s.order ++ [SessionRequest.start device]).length⟩) c (.start device)
      (.returned false) := by
  let after : SessionSupervisor := { s with order := s.order ++ [.start device] }
  have hlength : (s.order ++ [SessionRequest.start device]).length = s.order.length + 1 := length_append
  have hfind : ∀ other, (after.spawn device).sessions.find other =
      if device = other then some ⟨device, s.tasks.length⟩ else s.sessions.find other := fun other => find_spawn
  refine ⟨rfl, ?_, ?_, ?_, ?_, ?_, h.spawn_serves, h.spawn_alone hnone, ?_, ?_, ?_, ?_, ?_⟩
  · intro c' call' hcall'
    rw [← hlength]
    exact putCall_cases (s := after.spawn device) hc hcall'
  · rw [← hlength]
    exact (getElem?_putCall (s := after.spawn device) hc).trans (if_pos rfl)
  · show s.tasks.length ≤ (s.tasks ++ [_]).length
    rw [length_append]
    exact Nat.le_add_right _ _
  · intro other managed hmanaged
    have hmanaged : (after.spawn device).sessions.find other = some managed := hmanaged
    rw [hfind] at hmanaged
    split at hmanaged
    · cases hmanaged
      exact Or.inr (Nat.le_refl _)
    · exact Or.inl hmanaged
  · intro other hother
    show (after.spawn device).sessions.find other = _
    rw [hfind, if_neg (fun heq : device = other => hother heq)]
  · intro other t hne hlive
    have hlive : (s.spawn device).Live other t := hlive
    rcases live_spawn.mp hlive with hbefore | ⟨rfl, -⟩
    · exact hbefore
    · exact absurd rfl hne
  · intro t ht
    cases ht
  · exact fun other hstops => absurd hstops id
  · intro other hrequest _
    cases hrequest
    refine ⟨⟨device, s.tasks.length⟩, ?_⟩
    show (after.spawn device).sessions.find device = _
    rw [hfind, if_pos rfl]
  · exact Or.inl ⟨hheld, fun _ _ => rfl⟩

theorem shutdown_takes (h : s.SessionInvariant) (hc : c < s.calls.length) (hheld : s.held = none)
    (hpermitted : ∀ device t, s.Live device t → ∃ managed, s.sessions.find device = some managed ∧ managed.task = t) :
    Takes s (({ s with order := s.order ++ [.shutdown], sessions := .empty } : SessionSupervisor).putCall c
      ⟨.shutdown, .proceed false (s.sessions.rows.map ManagedSession.task),
        (s.order ++ [SessionRequest.shutdown]).length⟩) c .shutdown
      (.proceed false (s.sessions.rows.map ManagedSession.task)) := by
  let after : SessionSupervisor := { s with order := s.order ++ [.shutdown], sessions := .empty }
  have hlength : (s.order ++ [SessionRequest.shutdown]).length = s.order.length + 1 := length_append
  have hfind : ∀ other managed, after.sessions.find other ≠ some managed := by
    intro other managed hmanaged
    exact absurd (Table.find_eq_some.mp hmanaged).1 not_mem_nil
  refine ⟨rfl, ?_, ?_, Nat.le_refl _, ?_, ?_, ?_, h.alone, fun _ _ _ => id, ?_, ?_, ?_, ?_⟩
  · intro c' call' hcall'
    rw [← hlength]
    exact putCall_cases (s := after) hc hcall'
  · rw [← hlength]
    exact (getElem?_putCall (s := after) hc).trans (if_pos rfl)
  · exact fun other managed hmanaged => absurd hmanaged (hfind other managed)
  · exact fun other hother => absurd trivial hother
  · exact fun other managed hmanaged => absurd hmanaged (hfind other managed)
  · intro t ht
    rw [SessionStage.pending_proceed] at ht
    obtain ⟨managed, hmem, rfl⟩ := List.mem_map.mp ht
    obtain ⟨task, hget, -⟩ := h.owned managed.device managed (Table.find_eq_some.mpr ⟨hmem, rfl⟩)
    exact ⟨(List.getElem?_eq_some_iff.mp hget).1, fun other row hrow => absurd hrow (hfind other row)⟩
  · intro device _ t hlive
    obtain ⟨managed, hmanaged, rfl⟩ := hpermitted device t hlive
    rw [SessionStage.pending_proceed]
    exact List.mem_map_of_mem (Table.find_eq_some.mp hmanaged).1
  · exact fun device hrequest => (nomatch hrequest)
  · exact Or.inl ⟨hheld, fun device hrequest => (nomatch hrequest)⟩

end Take

section Runs
variable {s s' : SessionSupervisor}

theorem SessionInvariant.takeMap {c seen : ℕ} {request : SessionRequest} (h : s.SessionInvariant)
    (hcall : s.calls[c]? = some ⟨request, .called, seen⟩) (hheld : s.held = none)
    (hpermitted : s.Permitted (.take c)) : (s.takeMap c request).SessionInvariant := by
  have hc := call_lt hcall
  have howned := hpermitted _ hcall
  have hnone : ∀ device, request.touches device → s.sessions.find device = none → ∀ t, ¬ s.Live device t := by
    intro device htouches hfind t hlive
    obtain ⟨managed, hmanaged, -⟩ := howned device t htouches hlive
    rw [hfind] at hmanaged
    cases hmanaged
  have honly : ∀ device managed, request.touches device → s.sessions.find device = some managed →
      ∀ t, s.Live device t → t = managed.task := by
    intro device managed htouches hfind t hlive
    obtain ⟨other, hother, rfl⟩ := howned device t htouches hlive
    rw [hfind] at hother
    cases hother
    rfl
  unfold SessionSupervisor.takeMap
  cases request with
  | start device =>
    simp only
    split
    next hfind => exact h.take hheld (spawn_takes h hc hheld (hnone device rfl hfind))
    next previous hfind =>
      exact h.take hheld (remove_takes h hfind hc (honly device previous rfl hfind)
        (fun other => eq_comm) (Or.inr ⟨rfl, rfl⟩))
  | stop device =>
    simp only
    have hstop : ∀ other, SessionRequest.stop device ≠ .start other := fun _ hrequest => by cases hrequest
    split
    next hfind =>
      apply h.take hheld (idle_takes h hc hheld hstop ?_)
      intro other t hstops
      cases hstops
      exact hnone device rfl hfind t
    next managed hfind =>
      exact h.take hheld (remove_takes h hfind hc (honly device managed rfl hfind) (fun other => eq_comm)
        (Or.inl ⟨hheld, hstop⟩))
  | shutdown => exact h.take hheld (shutdown_takes h hc hheld (fun device t => howned device t trivial))

/-- Every permitted step keeps the invariant, by the kind of action. -/
theorem SessionInvariant.step {action : SessionAction} (h : s.SessionInvariant) (hpermitted : s.Permitted action)
    (hstep : s.step action = some s') : s'.SessionInvariant := by
  unfold SessionSupervisor.step at hstep
  cases action with
  | call request =>
    cases hstep
    exact h.ask request
  | take c =>
    simp only at hstep
    split at hstep
    next request seen hcall hheld =>
      cases hstep
      exact h.takeMap hcall hheld hpermitted
    · cases hstep
  | cancel c =>
    simp only at hstep
    split at hstep
    next request failed t rest seen hcall =>
      cases hstep
      have hfree := (h.pending c _ hcall t mem_cons_self).2
      have hcancelled : (s.setTask t (fun task => { task with cancelled := true })).SessionInvariant := by
        apply h.calm
        refine ⟨rfl, rfl, rfl, length_setTask, ?_, ?_, ?_, ?_⟩
        · intro device i hlive
          refine live_setTask ?_ hlive
          intro task _
          exact ⟨rfl, id⟩
        · exact fun device managed hfind hserves => serves_setTask_ne (hfree device managed hfind) hserves
        · exact fun c call hcall => ⟨call, hcall, Continues.refl call⟩
        · exact fun c call hcall => ⟨call, hcall, Continues.refl call⟩
      exact hcancelled.calm (putCall_calm hcall ⟨rfl, rfl, rfl, rfl, rfl⟩)
    · cases hstep
  | resume c =>
    simp only at hstep
    split at hstep
    next request failed t rest seen hcall =>
      split at hstep
      next panicked hphase =>
        cases hstep
        obtain ⟨ended, hget, hended⟩ := Option.map_eq_some_iff.mp hphase
        -- the awaited task has ended
        have hdead : ∀ device, ¬ s.Live device t := by
          rintro device ⟨task, htask, -, hlive⟩
          rw [hget] at htask
          cases htask
          rw [hended] at hlive
          cases hlive
        unfold resumed
        cases request with
        | start device =>
          have hheld := h.holds c _ device hcall rfl (cons_ne_nil t rest)
          obtain ⟨call, device', t', hholds⟩ := h.holder c hheld
          have hsame := hholds.at_
          rw [hcall] at hsame
          cases hsame
          cases hholds.request
          cases hholds.pending
          cases hholds.failed
          have hreturned : panicked = false := by
            cases panicked with
            | false => rfl
            | true => exact absurd hphase (hpermitted device false t [] seen hcall)
          simp only [hreturned, Bool.or_self, Bool.false_eq_true, if_false]
          exact h.startEnd hholds (hdead device) rfl rfl rfl
        | stop device =>
          have hstop : ∀ other, SessionRequest.stop device ≠ .start other := fun _ hrequest => (nomatch hrequest)
          exact h.seenEnd hcall rfl rfl hstop hdead rfl rfl (SessionStage.pending_proceed _ rest)
        | shutdown =>
          have hstop : ∀ other, SessionRequest.shutdown ≠ .start other := fun _ hrequest => (nomatch hrequest)
          exact h.seenEnd hcall rfl rfl hstop hdead rfl rfl (SessionStage.pending_proceed _ rest)
      · cases hstep
    · cases hstep
  | abandon c =>
    simp only at hstep
    split at hstep
    next request seen hcall =>
      cases hstep
      exact h.calm (putCall_calm hcall ⟨rfl, rfl, rfl, rfl, rfl⟩)
    next request failed t rest seen hcall =>
      cases hstep
      obtain ⟨hsessions, horder, hheld, hcalls, hlength, hlive, hserves⟩ := release_keeps (t :: rest) s
      have hreleased : (s.release (t :: rest)).SessionInvariant := by
        apply h.calm
        refine ⟨hsessions, horder, hheld, hlength, hlive, ?_, ?_, ?_⟩
        · intro device managed hfind
          apply hserves
          intro hmem
          exact (h.pending c _ hcall managed.task hmem).2 device managed hfind rfl
        · intro c' call hcall'
          rw [hcalls]
          exact ⟨call, hcall', Continues.refl call⟩
        · intro c' call hcall'
          rw [hcalls] at hcall'
          exact ⟨call, hcall', Continues.refl call⟩
      rw [← hheld]
      rw [← hcalls] at hcall
      exact hreleased.withdraw hcall ⟨rfl, rfl⟩ rfl
    · cases hstep
  | move t how =>
    simp only at hstep
    split at hstep
    next task hget =>
      obtain ⟨task', hmove, rfl⟩ := Option.map_eq_some_iff.mp hstep
      exact h.move hget hmove
    · cases hstep

theorem SessionInvariant.new : SessionSupervisor.new.SessionInvariant := by
  have hlive : ∀ device t, ¬ SessionSupervisor.new.Live device t := by
    rintro device t ⟨task, hget, -⟩
    cases hget
  refine ⟨?_, ?_, ?_, ?_, ?_, ?_, ?_, ?_⟩
  · intro device managed hfind
    cases hfind
  · exact fun device t t' h => absurd h (hlive device t)
  · intro c call hget
    cases hget
  · intro c call hget
    cases hget
  · intro c hheld
    cases hheld
  · intro c call device hget
    cases hget
  · intro c call device hget
    cases hget
  · intro c call device hget
    cases hget

theorem SessionInvariant.run {actions : List SessionAction} (h : s.SessionInvariant)
    (hpermitted : s.PermittedRun actions) (hrun : s.run actions = some s') : s'.SessionInvariant := by
  induction actions generalizing s with
  | nil =>
    cases hrun
    exact h
  | cons action rest ih =>
    obtain ⟨next, hstep, hrest⟩ := Option.bind_eq_some_iff.mp hrun
    exact ih (h.step hpermitted.1 hstep) (hpermitted.2 next hstep) hrest

theorem SessionInvariant.exclusive (h : s.SessionInvariant) : s.Exclusive := by
  have hlive : ∀ device t, s.Active device t → s.Live device t := by
    rintro device t ⟨task, hget, hdevice, hphase⟩
    exact ⟨task, hget, hdevice, by rw [hphase]; rfl⟩
  refine ⟨?_, ?_, ?_⟩
  · exact fun device t t' hactive hactive' => h.alone device t t' (hlive device t hactive) (hlive device t' hactive')
  · intro call hmem device failed hstops hstage hno t hactive
    obtain ⟨c, hget⟩ := mem_iff_getElem?.mp hmem
    have hpending := h.stopped c call device hget hstops (by rw [hstage]; rfl) hno t (hlive device t hactive)
    rw [hstage] at hpending
    cases hpending
  · intro call hmem device failed hrequest hstage hlast
    obtain ⟨c, hget⟩ := mem_iff_getElem?.mp hmem
    obtain ⟨managed, hfind⟩ := h.started c call device hget hrequest (by rw [hstage]; rfl) (by rw [hstage]; rfl) hlast
    obtain ⟨task, htask, hserves⟩ := h.owned device managed hfind
    exact ⟨managed, task, hfind, htask, hserves⟩

end Runs

/-- Where every call that gets the map finds the living tasks of its devices in it, and no start awaits
a task that panics, a device has at most one session. -/
theorem one_session_per_device {s : SessionSupervisor} {actions : List SessionAction}
    (hpermitted : SessionSupervisor.new.PermittedRun actions) (hrun : SessionSupervisor.new.run actions = some s) :
    s.Exclusive :=
  (SessionInvariant.new.run hpermitted hrun).exclusive

def lampStart : List SessionAction := [.call (.start 7), .take 0, .move 0 .check]

def lampStop : List SessionAction := [.call (.stop 7), .take 1, .cancel 1, .move 0 .return_, .resume 1]

theorem lamp_one_session : ∃ s, SessionSupervisor.new.run (lampStart ++ lampStop) = some s ∧ s.Exclusive := by
  have hpermitted : SessionSupervisor.new.PermittedRun (lampStart ++ lampStop) := by
    refine ⟨trivial, ?_⟩
    rintro _ ⟨⟩
    refine ⟨?_, ?_⟩
    · rintro call - device t - ⟨task, hget, -⟩
      cases hget
    rintro _ ⟨⟩
    refine ⟨trivial, ?_⟩
    rintro _ ⟨⟩
    refine ⟨trivial, ?_⟩
    rintro _ ⟨⟩
    refine ⟨?_, ?_⟩
    · -- the stop finds the session of the only task
      rintro _ ⟨⟩ device t ⟨⟩ ⟨task, hget, -⟩
      have ht : t = 0 := Nat.lt_one_iff.mp (List.getElem?_eq_some_iff.mp hget).1
      exact ⟨⟨7, 0⟩, rfl, ht.symm⟩
    rintro _ ⟨⟩
    refine ⟨trivial, ?_⟩
    rintro _ ⟨⟩
    refine ⟨trivial, ?_⟩
    rintro _ ⟨⟩
    refine ⟨?_, fun _ _ => trivial⟩
    intro device failed t rest seen hcall
    cases hcall
  exact ⟨_, rfl, one_session_per_device hpermitted rfl⟩

def lampRestart : List SessionAction :=
  lampStart ++ [.call (.stop 7), .take 1, .cancel 1, .call (.start 7), .take 2, .move 1 .check]

theorem lamp_two_sessions : ¬ ∀ s, SessionSupervisor.new.run lampRestart = some s → s.Exclusive := by
  intro h
  cases hrun : SessionSupervisor.new.run lampRestart with
  | none =>
    have hsome : (SessionSupervisor.new.run lampRestart).isSome = true := by decide +kernel
    rw [hrun] at hsome
    cases hsome
  | some s =>
    have htasks : s.tasks = [⟨7, true, false, .running⟩, ⟨7, false, false, .running⟩] := by
      have hmap : (SessionSupervisor.new.run lampRestart).map SessionSupervisor.tasks =
          some [⟨7, true, false, .running⟩, ⟨7, false, false, .running⟩] := by decide +kernel
      rw [hrun] at hmap
      exact Option.some.inj hmap
    have hone := (h s hrun).one 7 0 1 ⟨⟨7, true, false, .running⟩, by rw [htasks]; rfl, rfl, rfl⟩
      ⟨⟨7, false, false, .running⟩, by rw [htasks]; rfl, rfl, rfl⟩
    cases hone

end SessionSupervisor
end HomeMagic
