import HomeMagic.CommandService
import HomeMagic.SlidingWindow

/-! Command limits: a window of requests for each actor and a semaphore for each device, taken one after
the other by calls that may interleave. -/
namespace HomeMagic
open List

structure CommandLimitConfig where
  actorRequests : ℕ
  actorWindow : ℤ
  deviceConcurrency : ℕ
  requests_pos : 0 < actorRequests
  window_pos : 0 < actorWindow
  concurrency_pos : 0 < deviceConcurrency

/-- The recorded requests of each actor, and the available permits of each semaphore; one that no call has
asked for yet has all of them. -/
structure LimitState where
  actorRequests : ActorId → List Instant
  devices : DeviceId → ℕ

namespace LimitState

def new (config : CommandLimitConfig) : LimitState := ⟨fun _ => [], fun _ => config.deviceConcurrency⟩

def record (config : CommandLimitConfig) (state : LimitState) (actorId : ActorId) (now : Instant) :
    LimitState × CapacityState :=
  let requests := SlidingWindow.prune config.actorWindow now (state.actorRequests actorId)
  if requests.length < config.actorRequests then
    ({ state with actorRequests := Function.update state.actorRequests actorId (requests ++ [now]) }, .available)
  else ({ state with actorRequests := Function.update state.actorRequests actorId requests }, .exhausted)

def available (state : LimitState) (deviceId : DeviceId) : Bool := decide (0 < state.devices deviceId)

def acquire (state : LimitState) (deviceId : DeviceId) (rate : CapacityState) : LimitState × Bool :=
  if rate = .available ∧ 0 < state.devices deviceId then
    ({ state with devices := Function.update state.devices deviceId (state.devices deviceId - 1) }, true)
  else (state, false)

def release (state : LimitState) (deviceId : DeviceId) (permit : Bool) : LimitState :=
  if permit then { state with devices := Function.update state.devices deviceId (state.devices deviceId + 1) }
  else state

end LimitState

inductive LimitStage
  | recorded
  /-- Whether a permit was available. -/
  | looked (wasAvailable : Bool)
  /-- The device capacity that the policy is told, and whether the call holds a permit. -/
  | answered (device : CapacityState) (permit : Bool)
  | released (device : CapacityState)
  deriving DecidableEq

/-- A call of `try_acquire`, and its command until that lets the permit go. -/
structure LimitCall where
  actorId : ActorId
  deviceId : DeviceId
  now : Instant
  rate : CapacityState
  stage : LimitStage

namespace LimitCall

def deviceCapacity (permit wasAvailable : Bool) : CapacityState :=
  if permit || wasAvailable then .available else .exhausted

def holds (call : LimitCall) : Bool :=
  match call.stage with
  | .answered _ permit => permit
  | _ => false

def admitted (call : LimitCall) : Bool :=
  match call.stage with
  | .answered device _ => call.rate == .available && device == .available
  | _ => false

def spends (actorId : ActorId) (call : LimitCall) : Bool :=
  call.actorId == actorId && call.rate == .available

end LimitCall

structure LimitWorld where
  state : LimitState
  calls : List LimitCall

def LimitWorld.start (config : CommandLimitConfig) : LimitWorld := ⟨.new config, []⟩

inductive LimitSteps (config : CommandLimitConfig) (may : LimitState → LimitCall → Prop) :
    LimitWorld → LimitWorld → Prop
  | record {state : LimitState} {calls : List LimitCall} {actorId : ActorId} {deviceId : DeviceId} {now : Instant}
      (hnow : ∀ call ∈ calls, call.now ≤ now) :
      LimitSteps config may ⟨state, calls⟩
        ⟨(state.record config actorId now).1,
          calls ++ [⟨actorId, deviceId, now, (state.record config actorId now).2, .recorded⟩]⟩
  | look {state : LimitState} {before after : List LimitCall} {call : LimitCall} (hstage : call.stage = .recorded) :
      LimitSteps config may ⟨state, before ++ call :: after⟩
        ⟨state, before ++ { call with stage := .looked (state.available call.deviceId) } :: after⟩
  | acquire {state : LimitState} {before after : List LimitCall} {call : LimitCall} {wasAvailable : Bool}
      (hstage : call.stage = .looked wasAvailable) (hmay : may state call) :
      LimitSteps config may ⟨state, before ++ call :: after⟩
        ⟨(state.acquire call.deviceId call.rate).1, before ++ { call with
          stage := .answered (LimitCall.deviceCapacity (state.acquire call.deviceId call.rate).2 wasAvailable)
            (state.acquire call.deviceId call.rate).2 } :: after⟩
  | release {state : LimitState} {before after : List LimitCall} {call : LimitCall} {device : CapacityState}
      {permit : Bool} (hstage : call.stage = .answered device permit) :
      LimitSteps config may ⟨state, before ++ call :: after⟩
        ⟨state.release call.deviceId permit, before ++ { call with stage := .released device } :: after⟩

abbrev anyCall : LimitState → LimitCall → Prop := fun _ _ => True

/-- A call for the device that has seen a permit still finds one. -/
def findsPermit (deviceId : DeviceId) (state : LimitState) (call : LimitCall) : Prop :=
  call.deviceId = deviceId → call.rate = .available → call.stage = .looked true → state.available deviceId = true

variable {actorId : ActorId} {call : LimitCall} {calls before after later : List LimitCall} {stage : LimitStage}
  {state state' : LimitState} {world : LimitWorld} {deviceId : DeviceId} {now : Instant}

namespace LimitWorld

def spent (actorId : ActorId) (calls : List LimitCall) : List Instant :=
  (calls.filter (LimitCall.spends actorId)).map LimitCall.now

def held (deviceId : DeviceId) (calls : List LimitCall) : ℕ :=
  calls.countP (fun call => call.deviceId == deviceId && call.holds)

structure Limited (config : CommandLimitConfig) (world : LimitWorld) : Prop where
  queues : ∀ actorId now, (∀ call ∈ world.calls, call.now ≤ now) →
    SlidingWindow.Keeps config.actorRequests config.actorWindow now (spent actorId world.calls)
      (world.state.actorRequests actorId)
  permits : ∀ deviceId, world.state.devices deviceId + held deviceId world.calls = config.deviceConcurrency

variable {config : CommandLimitConfig} {may : LimitState → LimitCall → Prop}

theorem start_limited : Limited config (.start config) where
  queues := fun _ now _ => SlidingWindow.keeps_nil _ _ now
  permits := fun _ => rfl

theorem spent_append :
    spent actorId (calls ++ later) = spent actorId calls ++ spent actorId later := by
  unfold spent
  rw [filter_append, map_append]

theorem held_append :
    held deviceId (calls ++ later) = held deviceId calls + held deviceId later :=
  countP_append

theorem held_cons :
    held deviceId (call :: calls) =
      held deviceId calls + if call.deviceId = deviceId ∧ call.holds = true then 1 else 0 := by
  unfold held
  rw [countP_cons]
  simp only [Bool.and_eq_true, beq_iff_eq]

theorem spent_moved {after : List LimitCall} :
    spent actorId (before ++ { call with stage := stage } :: after) = spent actorId (before ++ call :: after) := by
  have hspends : LimitCall.spends actorId { call with stage := stage } = LimitCall.spends actorId call := rfl
  unfold spent
  rw [filter_append, filter_append, filter_cons, filter_cons, hspends]
  cases LimitCall.spends actorId call <;> simp

theorem now_moved (h : ∀ other ∈ before ++ { call with stage := stage } :: after, other.now ≤ now) :
    ∀ other ∈ before ++ call :: after, other.now ≤ now := by
  intro other hother
  rcases mem_append.mp hother with hbefore | hcons
  · exact h other (mem_append_left _ hbefore)
  rcases mem_cons.mp hcons with rfl | hafter
  · exact h { other with stage := stage } (mem_append_right _ mem_cons_self)
  · exact h other (mem_append_right _ (mem_cons_of_mem _ hafter))

theorem Limited.moved (h : Limited config ⟨state, before ++ call :: after⟩)
    (hqueues : state'.actorRequests = state.actorRequests) (hpermits : ∀ deviceId, state'.devices deviceId +
      (if call.deviceId = deviceId ∧ ({ call with stage := stage } : LimitCall).holds = true then 1 else 0) =
        state.devices deviceId + if call.deviceId = deviceId ∧ call.holds = true then 1 else 0) :
    Limited config ⟨state', before ++ { call with stage := stage } :: after⟩ := by
  refine ⟨?_, ?_⟩
  · intro actorId now hnow
    rw [spent_moved]
    show SlidingWindow.Keeps _ _ now _ (state'.actorRequests actorId)
    rw [hqueues]
    exact h.queues actorId now (now_moved hnow)
  · intro deviceId
    have hbefore := h.permits deviceId
    have hchange := hpermits deviceId
    dsimp only at hbefore ⊢
    rw [held_append, held_cons] at hbefore ⊢
    dsimp only at hbefore hchange ⊢
    omega

theorem record_devices :
    (state.record config actorId now).1.devices = state.devices := by
  unfold LimitState.record
  dsimp only
  split <;> rfl

/-- Recording a request keeps to the limit of its actor. -/
theorem Limited.record {state : LimitState} {calls : List LimitCall} {actorId : ActorId} {deviceId : DeviceId}
    {now : Instant} (h : Limited config ⟨state, calls⟩) (hnow : ∀ call ∈ calls, call.now ≤ now) :
    Limited config ⟨(state.record config actorId now).1,
      calls ++ [⟨actorId, deviceId, now, (state.record config actorId now).2, .recorded⟩]⟩ := by
  refine ⟨?_, ?_⟩
  · intro other later hlater
    have hkeeps := h.queues other now hnow
    have hle : now ≤ later := hlater _ (mem_append_right _ mem_cons_self)
    dsimp only at hkeeps ⊢
    rw [spent_append]
    unfold LimitState.record
    dsimp only
    by_cases hother : actorId = other
    · subst hother
      split
      next hroom =>
        have hadmitted := (hkeeps.admitted le_rfl hroom).later hle
        dsimp only
        rw [Function.update_self]
        have hone : spent actorId [⟨actorId, deviceId, now, .available, .recorded⟩] = [now] := by
          simp [spent, LimitCall.spends]
        rw [hone]
        exact hadmitted
      next =>
        have hpruned := (hkeeps.prune le_rfl).later hle
        dsimp only
        rw [Function.update_self]
        have hnone : spent actorId [⟨actorId, deviceId, now, .exhausted, .recorded⟩] = [] := by
          simp [spent, LimitCall.spends]
        rw [hnone, append_nil]
        exact hpruned
    · -- the request of another actor
      have hnone : ∀ rate, spent other [⟨actorId, deviceId, now, rate, .recorded⟩] = [] := by
        intro rate
        simp [spent, LimitCall.spends, hother]
      split
      all_goals
        dsimp only
        rw [Function.update_of_ne (Ne.symm hother), hnone, append_nil]
        exact hkeeps.later hle
  · intro device
    have hbefore := h.permits device
    dsimp only at hbefore ⊢
    rw [record_devices, held_append, held_cons, if_neg (fun hboth => by cases hboth.2)]
    exact hbefore

/-- Every atomic step keeps the window and the permits. -/
theorem Limited.step {after : LimitWorld} (h : Limited config world) (hstep : LimitSteps config may world after) :
    Limited config after := by
  cases hstep with
  | record hnow => exact h.record hnow
  | @look state before rest call hstage =>
    refine h.moved rfl (fun deviceId => ?_)
    have hidle : call.holds = false := by
      unfold LimitCall.holds
      rw [hstage]
    rw [hidle]
    rfl
  | @acquire state before rest call wasAvailable hstage hmay =>
    have hidle : call.holds = false := by
      unfold LimitCall.holds
      rw [hstage]
    unfold LimitState.acquire
    split
    next hboth =>
      refine h.moved rfl (fun deviceId => ?_)
      rw [hidle]
      by_cases hdevice : call.deviceId = deviceId
      · subst hdevice
        simp only [Function.update_self, LimitCall.holds]
        have hpositive := hboth.2
        simp only [true_and, if_true, Bool.false_eq_true, if_false]
        omega
      · simp [Function.update_of_ne (Ne.symm hdevice), hdevice]
    next =>
      refine h.moved rfl (fun deviceId => ?_)
      rw [hidle]
      rfl
  | @release state before rest call device permit hstage =>
    have hholds : call.holds = permit := by
      unfold LimitCall.holds
      rw [hstage]
    unfold LimitState.release
    cases permit with
    | false =>
      refine h.moved rfl (fun deviceId => ?_)
      rw [hholds]
      rfl
    | true =>
      refine h.moved rfl (fun deviceId => ?_)
      rw [hholds]
      by_cases hdevice : call.deviceId = deviceId
      · subst hdevice
        simp [LimitCall.holds]
      · simp [Function.update_of_ne (Ne.symm hdevice), hdevice]

theorem Limited.run {after : LimitWorld} (h : Limited config world)
    (hrun : Relation.ReflTransGen (LimitSteps config may) world after) : Limited config after := by
  induction hrun with
  | refl => exact h
  | tail _ hstep ih => exact ih.step hstep

theorem spent_countP {p : Instant → Bool} :
    (spent actorId calls).countP p = calls.countP (fun call => call.spends actorId && p call.now) := by
  unfold spent
  rw [countP_map, countP_filter]
  refine countP_congr (fun call _ => ?_)
  rw [Bool.and_comm]
  rfl

theorem exists_latest (calls : List LimitCall) : ∃ now, ∀ call ∈ calls, call.now ≤ now := by
  induction calls with
  | nil => exact ⟨0, fun _ h => absurd h not_mem_nil⟩
  | cons call rest ih =>
    obtain ⟨now, hnow⟩ := ih
    refine ⟨max call.now now, ?_⟩
    intro other hother
    rcases mem_cons.mp hother with rfl | hrest
    · exact le_max_left _ _
    · exact (hnow other hrest).trans (le_max_right _ _)

theorem Limited.window {world : LimitWorld} (h : Limited config world) (actorId : ActorId) {p : Instant → Bool}
    (hp : ∀ earlier time, p earlier = true → p time = true → time - config.actorWindow < earlier) :
    world.calls.countP (fun call => call.spends actorId && p call.now) ≤ config.actorRequests := by
  obtain ⟨now, hnow⟩ := exists_latest world.calls
  have hcount := (h.queues actorId now hnow).bounded.countP_le hp
  rwa [spent_countP] at hcount

theorem Limited.rate {world : LimitWorld} (h : Limited config world) {actorId : ActorId} {now : Instant}
    (hnow : ∀ call ∈ world.calls, call.now ≤ now) :
    (world.state.record config actorId now).2 = .available ↔
      world.calls.countP (fun call => call.spends actorId && decide (now - config.actorWindow < call.now)) <
        config.actorRequests := by
  have hlength := (h.queues actorId now hnow).length_prune le_rfl
  rw [spent_countP] at hlength
  rw [← hlength]
  unfold LimitState.record
  dsimp only
  split
  next hroom => exact iff_of_true rfl hroom
  next hfull => exact iff_of_false (fun h => nomatch h) hfull

/-- The admitted commands of the device hold its permits. -/
def Truthful (deviceId : DeviceId) (world : LimitWorld) : Prop :=
  ∀ call ∈ world.calls, call.deviceId = deviceId → call.admitted = true → call.holds = true

theorem truthful_moved (h : Truthful deviceId ⟨state, before ++ call :: after⟩)
    (hcall : call.deviceId = deviceId → ({ call with stage := stage } : LimitCall).admitted = true →
      ({ call with stage := stage } : LimitCall).holds = true) :
    Truthful deviceId ⟨state', before ++ { call with stage := stage } :: after⟩ := by
  intro other hother
  rcases mem_append.mp hother with hbefore | hcons
  · exact h other (mem_append_left _ hbefore)
  rcases mem_cons.mp hcons with rfl | hafter
  · exact hcall
  · exact h other (mem_append_right _ (mem_cons_of_mem _ hafter))

theorem Truthful.step {after : LimitWorld} (h : Truthful deviceId world)
    (hstep : LimitSteps config (findsPermit deviceId) world after) : Truthful deviceId after := by
  cases hstep with
  | record hnow =>
    intro other hother hdevice hadmitted
    rcases mem_append.mp hother with hbefore | hlast
    · exact h other hbefore hdevice hadmitted
    · rw [mem_singleton.mp hlast] at hadmitted
      cases hadmitted
  | look hstage | release hstage => exact truthful_moved h (fun _ hadmitted => nomatch hadmitted)
  | @acquire state before rest call wasAvailable hstage hmay =>
    refine truthful_moved h (fun hsame hadmitted => ?_)
    subst hsame
    unfold LimitCall.admitted at hadmitted
    dsimp only at hadmitted
    rw [Bool.and_eq_true, beq_iff_eq, beq_iff_eq] at hadmitted
    obtain ⟨hrate, hdevice⟩ := hadmitted
    unfold LimitCall.holds
    dsimp only
    by_contra hnone
    have hrefused : (state.acquire call.deviceId call.rate).2 = false := Bool.eq_false_iff.mpr hnone
    rw [hrefused] at hdevice
    -- the call was told of a permit that it has seen, and it finds that permit
    have hseen : wasAvailable = true := by
      cases wasAvailable with
      | true => rfl
      | false => cases hdevice
    have hfound := hmay rfl hrate (hseen ▸ hstage)
    unfold LimitState.acquire at hrefused
    rw [if_pos ⟨hrate, of_decide_eq_true hfound⟩] at hrefused
    cases hrefused

theorem Truthful.run {after : LimitWorld} (h : Truthful deviceId world)
    (hrun : Relation.ReflTransGen (LimitSteps config (findsPermit deviceId)) world after) :
    Truthful deviceId after := by
  induction hrun with
  | refl => exact h
  | tail _ hstep ih => exact ih.step hstep

/-- However calls interleave, an actor has at most the configured number of recorded requests, and so of
admitted ones, in any window of the configured length, and calls hold at most the configured number of
permits of a device. When no call for a device loses a permit that it has seen, its admitted commands hold them,
so there are no more of these either. A request counts for the rate whatever the device says. -/
theorem limits_hold (config : CommandLimitConfig) :
    (∀ world, Relation.ReflTransGen (LimitSteps config anyCall) (.start config) world →
      (∀ actorId start, world.calls.countP (fun call => call.spends actorId &&
          (decide (start ≤ call.now) && decide (call.now < start + config.actorWindow))) ≤ config.actorRequests) ∧
      (∀ deviceId, held deviceId world.calls ≤ config.deviceConcurrency) ∧
      ∀ actorId now, (∀ call ∈ world.calls, call.now ≤ now) →
        ((world.state.record config actorId now).2 = .available ↔
          world.calls.countP (fun call => call.spends actorId && decide (now - config.actorWindow < call.now)) <
            config.actorRequests)) ∧
    ∀ deviceId world, Relation.ReflTransGen (LimitSteps config (findsPermit deviceId)) (.start config) world →
      world.calls.countP (fun call => call.deviceId == deviceId && call.admitted) ≤ config.deviceConcurrency := by
  refine ⟨?_, ?_⟩
  · intro world hrun
    have hlimited := start_limited.run hrun
    refine ⟨?_, ?_, fun actorId now hnow => hlimited.rate hnow⟩
    · intro actorId start
      refine @Limited.window config world hlimited actorId
        (fun time => decide (start ≤ time) && decide (time < start + config.actorWindow)) ?_
      intro earlier time hearlier htime
      rw [Bool.and_eq_true, decide_eq_true_eq, decide_eq_true_eq] at hearlier htime
      have hend : time < earlier + config.actorWindow := htime.2.trans_le (add_le_add_left hearlier.1 _)
      exact sub_lt_iff_lt_add.mpr hend
    · intro deviceId
      have hpermits := hlimited.permits deviceId
      omega
  · intro deviceId world hrun
    have hpermits := (start_limited.run hrun).permits deviceId
    have htruthful : Truthful deviceId world := Truthful.run (fun _ h => absurd h List.not_mem_nil) hrun
    calc world.calls.countP (fun call => call.deviceId == deviceId && call.admitted)
        ≤ held deviceId world.calls := by
          refine List.countP_mono_left ?_
          intro call hcall hadmitted
          rw [Bool.and_eq_true] at hadmitted ⊢
          exact ⟨hadmitted.1, htruthful call hcall (beq_iff_eq.mp hadmitted.1) hadmitted.2⟩
      _ ≤ config.deviceConcurrency := by omega

theorem window_pos : (0 : ℤ) < 60 := by decide

def oneEach : CommandLimitConfig := ⟨1, 60, 1, Nat.one_pos, window_pos, Nat.one_pos⟩

/-- Device 8 admits two commands in a race; the permit of device 7 is found by the call that has seen it. -/
theorem one_device_held : ∃ world,
    Relation.ReflTransGen (LimitSteps oneEach (findsPermit 7)) (.start oneEach) world ∧
      world.calls.countP (fun call => call.deviceId == 8 && call.admitted) = 2 ∧
      world.calls.countP (fun call => call.deviceId == 7 && call.admitted) = 1 ∧
      world.calls.countP (fun call => call.deviceId == 7 && call.admitted) ≤ oneEach.deviceConcurrency := by
  have hother : ∀ (state : LimitState) (call : LimitCall), call.deviceId = 8 → findsPermit 7 state call :=
    fun _ _ height hseven => absurd (height.symm.trans hseven) (by decide)
  have hasked : Relation.ReflTransGen (LimitSteps oneEach (findsPermit 7)) (.start oneEach) _ :=
    ((Relation.ReflTransGen.single (@LimitSteps.record oneEach (findsPermit 7) _ [] 1 8 0
      (fun _ h => absurd h not_mem_nil))).tail (@LimitSteps.record oneEach (findsPermit 7) _ [_] 2 8 0
        (by simp))).tail (@LimitSteps.record oneEach (findsPermit 7) _ [_, _] 3 7 0 (by simp))
  have hlooked := ((hasked.tail (@LimitSteps.look oneEach (findsPermit 7) _ [] [_, _] _ rfl)).tail
    (@LimitSteps.look oneEach (findsPermit 7) _ [_] [_] _ rfl)).tail
      (@LimitSteps.look oneEach (findsPermit 7) _ [_, _] [] _ rfl)
  have hacquired := ((hlooked.tail
    (@LimitSteps.acquire oneEach (findsPermit 7) _ [] [_, _] _ _ rfl (hother _ _ rfl))).tail
    (@LimitSteps.acquire oneEach (findsPermit 7) _ [_] [_] _ _ rfl (hother _ _ rfl))).tail
      (@LimitSteps.acquire oneEach (findsPermit 7) _ [_, _] [] _ _ rfl (fun _ _ _ => rfl))
  exact ⟨_, hacquired, by decide, by decide, (limits_hold oneEach).2 7 _ hacquired⟩

theorem both_asked : Relation.ReflTransGen (LimitSteps oneEach anyCall) (.start oneEach)
    ⟨(((LimitState.new oneEach).record oneEach 1 0).1.record oneEach 2 0).1,
      [⟨1, 7, 0, .available, .recorded⟩, ⟨2, 7, 0, .available, .recorded⟩]⟩ :=
  .tail (.tail .refl (@LimitSteps.record oneEach anyCall _ [] 1 7 0 (fun _ h => absurd h not_mem_nil)))
    (@LimitSteps.record oneEach anyCall _ [⟨1, 7, 0, .available, .recorded⟩] 2 7 0 (by simp))

/-- Both calls see the permit of the device before one of them takes it: the policy admits two commands. And
when the second call looks after the first one, it is refused for the device and still has used up its actor's
only request. -/
theorem permit_seen_twice :
    (∃ world, Relation.ReflTransGen (LimitSteps oneEach anyCall) (.start oneEach) world ∧
      world.calls.countP (fun call => call.deviceId == 7 && call.admitted) = 2 ∧ oneEach.deviceConcurrency = 1) ∧
    ∃ world, Relation.ReflTransGen (LimitSteps oneEach anyCall) (.start oneEach) world ∧
      world.calls.countP (fun call => call.actorId == 2 && call.admitted) = 0 ∧
      (world.state.record oneEach 2 0).2 = .exhausted := by
  constructor
  · have hlooked := (both_asked.tail (@LimitSteps.look oneEach anyCall _ [] [_] _ rfl)).tail
      (@LimitSteps.look oneEach anyCall _ [_] [] _ rfl)
    have hacquired := (hlooked.tail (@LimitSteps.acquire oneEach anyCall _ [] [_] _ _ rfl trivial)).tail
      (@LimitSteps.acquire oneEach anyCall _ [_] [] _ _ rfl trivial)
    exact ⟨_, hacquired, by decide, rfl⟩
  · have hfirst := (both_asked.tail (@LimitSteps.look oneEach anyCall _ [] [_] _ rfl)).tail
      (@LimitSteps.acquire oneEach anyCall _ [] [_] _ _ rfl trivial)
    have hsecond := (hfirst.tail (@LimitSteps.look oneEach anyCall _ [_] [] _ rfl)).tail
      (@LimitSteps.acquire oneEach anyCall _ [_] [] _ _ rfl trivial)
    exact ⟨_, hsecond, by decide, by decide⟩

end LimitWorld

end HomeMagic
