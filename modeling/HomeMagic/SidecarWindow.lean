import HomeMagic.SidecarSupervisor

/-! When the sidecar acknowledges exactly the events that were handled. -/
namespace HomeMagic
open List

namespace SidecarProcess

def runCalls (binding : SessionBinding) : EventWindow → List SidecarCall → List SidecarTurn → List ControlEvent
  | _, [], _ => []
  | window, call :: calls, turns =>
    let ended := requestControlled binding call window turns
    match ended.outcome with
    | none => ended.events
    | some outcome =>
      let failure := match outcome.result with
        | .ok _ => []
        | .error _ => [.failed ended.window]
      ended.events ++ (failure ++ runCalls binding ended.window calls ended.unread)

end SidecarProcess

def ControlEvent.window : ControlEvent → EventWindow
  | handled _ _ window | acknowledged _ window | failed window => window

def acknowledgedSequence : ControlEvent → Option ℕ
  | .acknowledged sequence _ => some sequence
  | _ => none

def handledSequence : ControlEvent → Option ℕ
  | .handled sequence _ _ => some sequence
  | _ => none

def acks (events : List ControlEvent) : List ℕ := events.filterMap acknowledgedSequence

def handed (events : List ControlEvent) : List ℕ := events.filterMap handledSequence

/-- Acknowledgements follow one another without gap, each after the handler accepted its event; no
event is handled twice; the window keeps its bounds; and after an error the first event that was not
acknowledged can come again. -/
structure AcknowledgesHandled (capacity : ℕ) (events : List ControlEvent) : Prop where
  contiguous : acks events = List.range' 1 (acks events).length
  accepted : ∀ before sequence window after, events = before ++ .acknowledged sequence window :: after →
    ∃ received, .handled sequence true received ∈ before
  once : (handed events).Nodup
  bounded : ∀ event ∈ events, event.window.highestAcked ≤ event.window.highestReceived ∧
    event.window.outstanding ≤ capacity
  redelivery : ∀ before window after, events = before ++ .failed window :: after →
    (acks before).length + 1 < 2^64 → ∃ received, window.receive ((acks before).length + 1) = .ok received

namespace SidecarProcess

def Smooth (binding : SessionBinding) (window : EventWindow) (turn : SidecarTurn) : Prop :=
  ∀ event received, turn.reading = .frame (.event event) → event.session = binding →
    window.receive event.sequence = .ok received →
    turn.accepts = true ∧ turn.written = true ∧ window.highestReceived < 2^64 - 1

def SmoothServe (binding : SessionBinding) (request : SidecarRequest) (state : RemoteOperationState) :
    EventWindow → List SidecarTurn → Prop
  | _, [] => True
  | window, turn :: rest => Smooth binding window turn ∧
    ((serveTurn binding request state window turn).outcome = none →
      SmoothServe binding request state (serveTurn binding request state window turn).window rest)

def SmoothCalls (binding : SessionBinding) : EventWindow → List SidecarCall → List SidecarTurn → Prop
  | _, [], _ => True
  | window, call :: calls, turns =>
    (call.request.session = binding → call.written = true →
      SmoothServe binding call.request call.state window turns) ∧
    ((requestControlled binding call window turns).outcome ≠ none →
      SmoothCalls binding (requestControlled binding call window turns).window calls
        (requestControlled binding call window turns).unread)

section Window
variable {capacity n : ℕ}

def inStep (capacity n : ℕ) : EventWindow := ⟨capacity, n, n⟩

theorem inStep_receive {sequence : ℕ} {received : EventWindow}
    (h : (inStep capacity n).receive sequence = .ok received) :
    sequence = min (n + 1) (2^64 - 1) ∧ received = ⟨capacity, sequence, n⟩ := by
  unfold EventWindow.receive inStep at h
  simp only at h
  split at h
  · cases h
  next hlow =>
    split at h
    · cases h
    next hhigh =>
      split at h
      · cases h
      · cases h
        exact ⟨by omega, rfl⟩

theorem inStep_receive_next (hcapacity : 0 < capacity) (hn : n + 1 < 2^64) :
    (inStep capacity n).receive (n + 1) = .ok ⟨capacity, n + 1, n⟩ := by
  have hmin : min (n + 1) (2^64 - 1) = n + 1 := by omega
  unfold EventWindow.receive inStep EventWindow.outstanding
  simp only [hmin, Nat.lt_irrefl, if_false, Nat.sub_self, Nat.zero_min]
  exact if_neg (Nat.not_le.mpr hcapacity)

theorem acknowledge_next :
    EventWindow.acknowledge ⟨capacity, n + 1, n⟩ (n + 1) = .ok (inStep capacity (n + 1)) := by
  unfold EventWindow.acknowledge
  simp only
  exact if_neg (by omega)

end Window

structure AcknowledgesFrom (capacity n : ℕ) (events : List ControlEvent) : Prop where
  contiguous : acks events = List.range' (n + 1) (acks events).length
  accepted : ∀ before sequence window after, events = before ++ .acknowledged sequence window :: after →
    ∃ received, .handled sequence true received ∈ before
  once : (List.range' 1 n ++ handed events).Nodup
  bounded : ∀ event ∈ events, event.window.highestAcked ≤ event.window.highestReceived ∧
    event.window.outstanding ≤ capacity
  redelivery : ∀ before window after, events = before ++ .failed window :: after →
    n + (acks before).length + 1 < 2^64 → ∃ received, window.receive (n + (acks before).length + 1) = .ok received

theorem AcknowledgesFrom.all {capacity : ℕ} {events : List ControlEvent} (h : AcknowledgesFrom capacity 0 events) :
    AcknowledgesHandled capacity events where
  contiguous := h.contiguous
  accepted := h.accepted
  once := h.once
  bounded := h.bounded
  redelivery := by
    intro before window after hsplit
    have hfrom := h.redelivery before window after hsplit
    rw [Nat.zero_add] at hfrom
    exact hfrom

section From
variable {capacity n : ℕ} {rest : List ControlEvent}

theorem range'_succ_append (n : ℕ) (l : List ℕ) :
    List.range' 1 (n + 1) ++ l = List.range' 1 n ++ (n + 1) :: l := by
  rw [List.range'_concat, append_assoc, Nat.one_mul, Nat.add_comm 1 n]
  rfl

/-- An event that is handled and acknowledged. -/
theorem from_event (hcapacity : 0 < capacity) (h : AcknowledgesFrom capacity (n + 1) rest) :
    AcknowledgesFrom capacity n (.handled (n + 1) true ⟨capacity, n + 1, n⟩ ::
      .acknowledged (n + 1) (inStep capacity (n + 1)) :: rest) := by
  have hacks : ∀ events, acks (.handled (n + 1) true ⟨capacity, n + 1, n⟩ ::
      .acknowledged (n + 1) (inStep capacity (n + 1)) :: events) = (n + 1) :: acks events := fun _ => rfl
  have hhanded : handed (.handled (n + 1) true ⟨capacity, n + 1, n⟩ ::
      .acknowledged (n + 1) (inStep capacity (n + 1)) :: rest) = (n + 1) :: handed rest := rfl
  refine ⟨?_, ?_, ?_, ?_, ?_⟩
  · rw [hacks, length_cons, List.range'_succ, ← h.contiguous]
  · intro before sequence window after hsplit
    cases before with
    | nil => cases hsplit
    | cons first before =>
      obtain ⟨rfl, htail⟩ := List.cons.inj hsplit
      cases before with
      | nil =>
        obtain ⟨hhead, -⟩ := List.cons.inj htail
        cases hhead
        exact ⟨_, mem_cons_self⟩
      | cons second before =>
        obtain ⟨rfl, hrest⟩ := List.cons.inj htail
        obtain ⟨received, hmem⟩ := h.accepted before sequence window after hrest
        exact ⟨received, mem_cons_of_mem _ (mem_cons_of_mem _ hmem)⟩
  · rw [hhanded, ← range'_succ_append]
    exact h.once
  · intro event hmem
    rcases mem_cons.mp hmem with rfl | hmem
    · refine ⟨Nat.le_succ n, ?_⟩
      show min (n + 1 - n) (2^32 - 1) ≤ capacity
      omega
    · rcases mem_cons.mp hmem with rfl | hmem
      · refine ⟨Nat.le_refl _, ?_⟩
        show min (n + 1 - (n + 1)) (2^32 - 1) ≤ capacity
        omega
      · exact h.bounded event hmem
  · intro before window after hsplit hlt
    cases before with
    | nil => cases hsplit
    | cons first before =>
      obtain ⟨rfl, htail⟩ := List.cons.inj hsplit
      cases before with
      | nil => cases htail
      | cons second before =>
        obtain ⟨rfl, hrest⟩ := List.cons.inj htail
        have hnext := h.redelivery before window after hrest
        have hshift : n + 1 + (acks before).length + 1 = n + ((acks before).length + 1) + 1 := by omega
        rw [hacks, length_cons] at hlt ⊢
        rw [hshift] at hnext
        exact hnext hlt

theorem from_failed (hcapacity : 0 < capacity) (h : AcknowledgesFrom capacity n rest) :
    AcknowledgesFrom capacity n (.failed (inStep capacity n) :: rest) := by
  refine ⟨h.contiguous, ?_, h.once, ?_, ?_⟩
  · intro before sequence window after hsplit
    cases before with
    | nil => cases hsplit
    | cons first before =>
      obtain ⟨rfl, htail⟩ := List.cons.inj hsplit
      obtain ⟨received, hmem⟩ := h.accepted before sequence window after htail
      exact ⟨received, mem_cons_of_mem _ hmem⟩
  · intro event hmem
    rcases mem_cons.mp hmem with rfl | hmem
    · refine ⟨Nat.le_refl _, ?_⟩
      show min (n - n) (2^32 - 1) ≤ capacity
      omega
    · exact h.bounded event hmem
  · intro before window after hsplit hlt
    cases before with
    | nil =>
      obtain ⟨hhead, -⟩ := List.cons.inj hsplit
      cases hhead
      exact ⟨_, inStep_receive_next hcapacity hlt⟩
    | cons first before =>
      obtain ⟨rfl, htail⟩ := List.cons.inj hsplit
      exact h.redelivery before window after htail hlt

theorem from_nil : AcknowledgesFrom capacity n [] where
  contiguous := rfl
  accepted := by
    intro before sequence window after hsplit
    cases before <;> cases hsplit
  once := by
    rw [show handed [] = [] from rfl, append_nil]
    exact nodup_range'
  bounded := fun event hmem => absurd hmem not_mem_nil
  redelivery := by
    intro before window after hsplit
    cases before <;> cases hsplit

end From

section Calls
variable {binding : SessionBinding} {request : SidecarRequest} {state : RemoteOperationState} {capacity n : ℕ}
  {turn : SidecarTurn}

/-- A smooth round is one such event. -/
theorem serveTurn_smooth (hsmooth : Smooth binding (inStep capacity n) turn) :
    let served := serveTurn binding request state (inStep capacity n) turn
    (served.events = [] ∧ served.window = inStep capacity n) ∨
      (served.outcome = none ∧ served.window = inStep capacity (n + 1) ∧
        served.events = [.handled (n + 1) true ⟨capacity, n + 1, n⟩,
          .acknowledged (n + 1) (inStep capacity (n + 1))]) := by
  unfold serveTurn
  split
  · exact Or.inl ⟨rfl, rfl⟩
  · exact Or.inl ⟨rfl, rfl⟩
  · split
    · exact Or.inl ⟨rfl, rfl⟩
    · exact Or.inl ⟨rfl, rfl⟩
  next secretRequest hreading =>
    unfold serveSecret
    split
    · exact Or.inl ⟨rfl, rfl⟩
    · split
      · exact Or.inl ⟨rfl, rfl⟩
      · split
        · exact Or.inl ⟨rfl, rfl⟩
        · exact Or.inl ⟨rfl, rfl⟩
  next event hreading =>
    unfold serveEvent
    split
    · exact Or.inl ⟨rfl, rfl⟩
    next hsession =>
      split
      · exact Or.inl ⟨rfl, rfl⟩
      next received hreceived =>
        obtain ⟨haccepts, hwritten, hroom⟩ := hsmooth event received hreading (not_not.mp hsession) hreceived
        obtain ⟨hsequence, rfl⟩ := inStep_receive hreceived
        have hnext : event.sequence = n + 1 := by
          rw [hsequence]
          have hlt : n < 2^64 - 1 := hroom
          omega
        simp only [haccepts, Bool.true_eq_false, if_false, hnext, acknowledge_next, hwritten, if_true]
        exact Or.inr ⟨trivial, trivial, trivial⟩
  · exact Or.inl ⟨rfl, rfl⟩

def following (binding : SessionBinding) (calls : List SidecarCall) (ended : CallEnd) : List ControlEvent :=
  match ended.outcome with
  | none => []
  | some outcome =>
    (match outcome.result with
      | .ok _ => []
      | .error _ => [.failed ended.window]) ++ runCalls binding ended.window calls ended.unread

theorem runCalls_cons (window : EventWindow) (call : SidecarCall) (calls : List SidecarCall)
    (turns : List SidecarTurn) :
    runCalls binding window (call :: calls) turns = (requestControlled binding call window turns).events ++
      following binding calls (requestControlled binding call window turns) := by
  unfold runCalls following
  simp only
  split
  · exact (append_nil _).symm
  · rfl

theorem following_from (hcapacity : 0 < capacity) {calls : List SidecarCall}
    (hcalls : ∀ n turns, SmoothCalls binding (inStep capacity n) calls turns →
      AcknowledgesFrom capacity n (runCalls binding (inStep capacity n) calls turns))
    {outcome : CallOutcome} {events : List ControlEvent} {unread : List SidecarTurn}
    (hnext : SmoothCalls binding (inStep capacity n) calls unread) :
    AcknowledgesFrom capacity n (following binding calls ⟨events, inStep capacity n, some outcome, unread⟩) := by
  have hrest := hcalls n unread hnext
  unfold following
  simp only
  split
  · exact hrest
  · exact from_failed hcapacity hrest

theorem serve_from (hcapacity : 0 < capacity) {calls : List SidecarCall}
    (hcalls : ∀ n turns, SmoothCalls binding (inStep capacity n) calls turns →
      AcknowledgesFrom capacity n (runCalls binding (inStep capacity n) calls turns))
    (turns : List SidecarTurn) (n : ℕ) (hsmooth : SmoothServe binding request state (inStep capacity n) turns)
    (hnext : (serve binding request state (inStep capacity n) turns).outcome ≠ none →
      SmoothCalls binding (serve binding request state (inStep capacity n) turns).window calls
        (serve binding request state (inStep capacity n) turns).unread) :
    AcknowledgesFrom capacity n ((serve binding request state (inStep capacity n) turns).events ++
      following binding calls (serve binding request state (inStep capacity n) turns)) := by
  induction turns generalizing n with
  | nil => exact from_nil
  | cons turn rest ih =>
    obtain ⟨hturn, hrest⟩ := hsmooth
    have hserved := @serveTurn_smooth _ request state _ _ _ hturn
    unfold serve at hnext ⊢
    simp only at hnext ⊢ hserved
    cases houtcome : (serveTurn binding request state (inStep capacity n) turn).outcome with
    | some outcome =>
      rw [houtcome] at hnext hserved
      rcases hserved with ⟨hevents, hwindow⟩ | ⟨hnone, -⟩
      · rw [hwindow] at hnext
        simp only [hevents, hwindow, nil_append]
        exact following_from hcapacity hcalls (hnext (fun h => nomatch h))
      · cases hnone
    | none =>
      rw [houtcome] at hnext hserved
      have hrest' := hrest houtcome
      rcases hserved with ⟨hevents, hwindow⟩ | ⟨-, hwindow, hevents⟩
      · rw [hwindow] at hnext hrest'
        simp only [hevents, hwindow, nil_append]
        exact ih n hrest' hnext
      · rw [hwindow] at hnext hrest'
        simp only [hevents, hwindow]
        exact from_event hcapacity (ih (n + 1) hrest' hnext)

theorem runCalls_from (hcapacity : 0 < capacity) (calls : List SidecarCall) (n : ℕ) (turns : List SidecarTurn)
    (hsmooth : SmoothCalls binding (inStep capacity n) calls turns) :
    AcknowledgesFrom capacity n (runCalls binding (inStep capacity n) calls turns) := by
  induction calls generalizing n turns with
  | nil => exact from_nil
  | cons call calls ih =>
    obtain ⟨hserve, hnext⟩ := hsmooth
    rw [runCalls_cons]
    unfold requestControlled at hnext ⊢
    split
    next hsession =>
      rw [if_pos hsession] at hnext
      rw [nil_append]
      exact following_from hcapacity ih (hnext (fun h => nomatch h))
    next hsession =>
      rw [if_neg hsession] at hnext
      split
      next hwritten =>
        rw [if_pos hwritten] at hnext
        rw [nil_append]
        exact following_from hcapacity ih (hnext (fun h => nomatch h))
      next hwritten =>
        rw [if_neg hwritten] at hnext
        have hsent : call.written = true := by simpa using hwritten
        exact serve_from hcapacity ih turns n (hserve (not_not.mp hsession) hsent) hnext

end Calls

/-- Where every event that the window takes is accepted and acknowledged, the acknowledgements are
those of the handled events, in order. -/
theorem sidecar_acknowledges_handled {capacity : ℕ} {window : EventWindow}
    (hnew : EventWindow.new capacity = .ok window) (binding : SessionBinding) (calls : List SidecarCall)
    (turns : List SidecarTurn)
    (hsmooth : SmoothCalls binding window calls turns) :
    AcknowledgesHandled capacity (runCalls binding window calls turns) := by
  unfold EventWindow.new at hnew
  split at hnew
  · cases hnew
  next hvalid =>
    cases hnew
    have hcapacity : 0 < capacity := by omega
    exact (runCalls_from hcapacity calls 0 turns hsmooth).all

def lampBinding : SessionBinding := ⟨"child", "session"⟩

def emptySecrets : SidecarSecretStore where
  get _ := .ok none
  put _ _ := .ok 1
  delete _ := .ok false
  compareAndSwap _ _ _ := .error .conflict

def lampCall (requestId : String) : SidecarCall := ⟨⟨lampBinding, requestId⟩, .preMutation, true⟩

def lampAnswer (requestId : String) : SidecarTurn :=
  ⟨.frame (.response ⟨lampBinding, requestId, .result⟩), emptySecrets, true, true⟩

def lampReport (sequence : ℕ) (h : sequence < 2^64) (accepts : Bool) : SidecarTurn :=
  ⟨.frame (.event ⟨lampBinding, sequence, h⟩), emptySecrets, accepts, true⟩

theorem one_lt_sequences : 1 < 2^64 := by decide

theorem two_lt_sequences : 2 < 2^64 := by decide

theorem smooth_report {window : EventWindow} {sequence : ℕ} {h : sequence < 2^64}
    (hlow : window.highestReceived < 2^64 - 1) : Smooth lampBinding window (lampReport sequence h true) := by
  intro event received _ _ _
  exact ⟨rfl, rfl, hlow⟩

theorem smooth_answer {window : EventWindow} {requestId : String} :
    Smooth lampBinding window (lampAnswer requestId) := by
  intro event received hreading
  cases hreading

def lampRepeated : List SidecarTurn :=
  [lampReport 1 one_lt_sequences true, lampReport 1 one_lt_sequences true, lampReport 2 two_lt_sequences true,
    lampAnswer "second"]

theorem lamp_acknowledges :
    runCalls lampBinding ⟨2, 0, 0⟩ [lampCall "first", lampCall "second"] lampRepeated =
        [.handled 1 true ⟨2, 1, 0⟩, .acknowledged 1 ⟨2, 1, 1⟩, .failed ⟨2, 1, 1⟩, .handled 2 true ⟨2, 2, 1⟩,
          .acknowledged 2 ⟨2, 2, 2⟩] ∧
      AcknowledgesHandled 2 (runCalls lampBinding ⟨2, 0, 0⟩ [lampCall "first", lampCall "second"] lampRepeated) := by
  refine ⟨by decide, sidecar_acknowledges_handled rfl lampBinding _ _ ?_⟩
  refine ⟨fun _ _ => ⟨smooth_report (by decide), fun _ => ⟨smooth_report (by decide), ?_⟩⟩, fun _ => ?_⟩
  · intro hnone
    cases hnone
  · refine ⟨fun _ _ => ⟨smooth_report (by decide), fun _ => ⟨smooth_answer, ?_⟩⟩, fun _ => trivial⟩
    intro hnone
    cases hnone

def lampRejected : List SidecarTurn :=
  [lampReport 1 one_lt_sequences false, lampReport 2 two_lt_sequences true, lampAnswer "second"]

/-- The first event is never acknowledged, and the window takes it no more. -/
theorem lamp_rejected_skipped :
    ¬ AcknowledgesHandled 2
      (runCalls lampBinding ⟨2, 0, 0⟩ [lampCall "first", lampCall "second"] lampRejected) := by
  intro h
  have hcontiguous := h.contiguous
  have hacks : acks (runCalls lampBinding ⟨2, 0, 0⟩ [lampCall "first", lampCall "second"] lampRejected) = [2] := rfl
  rw [hacks] at hcontiguous
  exact absurd hcontiguous (by decide)

end SidecarProcess
end HomeMagic
