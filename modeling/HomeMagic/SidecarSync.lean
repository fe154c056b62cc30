import HomeMagic.SidecarWindow

/-! When the sidecar protocol stays in step after errors. -/
namespace HomeMagic

def SupervisorError.tellsPartial : SupervisorError → Bool
  | processLost isPartial | requestTimeout isPartial => isPartial
  | unexpectedFrame | eventRejected => false

def SecretRequest.wellShaped (request : SecretRequest) : Bool :=
  match request.method, request.expectedRevision, request.value with
  | .get, none, none | .put, none, some _ | .delete, none, none | .compareAndSwap, some _, some _ => true
  | _, _, _ => false

theorem dispatchSecretRequest_ok (store : SidecarSecretStore) (request : SecretRequest) :
    (∃ response, dispatchSecretRequest store request = .ok response) ↔ request.wellShaped = true := by
  obtain ⟨session, requestId, method, handle, expectedRevision, value⟩ := request
  unfold dispatchSecretRequest SecretRequest.wellShaped
  cases method <;> cases expectedRevision <;> cases value <;>
    simp only [bind, Except.bind, pure, Except.pure, reduceCtorEq, exists_false, Bool.false_eq_true, iff_true]
  · split <;> exact ⟨_, rfl⟩
  · split <;> exact ⟨_, rfl⟩
  · split <;> exact ⟨_, rfl⟩
  · split <;> exact ⟨_, rfl⟩

namespace SidecarProcess

structure AskedCall where
  call : SidecarCall
  controlled : Bool
  ownWindow : Option EventWindow

def AskedCall.window (asked : AskedCall) (window : EventWindow) : EventWindow := asked.ownWindow.getD window

def perform (binding : SessionBinding) (asked : AskedCall) (window : EventWindow) (turns : List SidecarTurn) :
    CallEnd :=
  if asked.controlled then requestControlled binding asked.call window turns
  else request binding asked.call window turns

structure CallStart where
  asked : AskedCall
  window : EventWindow
  turns : List SidecarTurn

def CallStart.ended (binding : SessionBinding) (start : CallStart) : CallEnd :=
  perform binding start.asked start.window start.turns

def starts (binding : SessionBinding) : EventWindow → List AskedCall → List SidecarTurn → List CallStart
  | _, [], _ => []
  | window, asked :: calls, turns =>
    let start := ⟨asked, asked.window window, turns⟩
    let ended := start.ended binding
    start :: if ended.outcome = none then [] else starts binding ended.window calls ended.unread

def Answers (request : SidecarRequest) (response : SidecarResponse) : Prop :=
  response.session = request.session ∧ response.requestId = request.requestId

def AnswersNow (request : SidecarRequest) (turn : SidecarTurn) : Prop :=
  ∃ response, turn.reading = .frame (.response response) ∧ Answers request response

/-- The next call succeeds when the child answers each of the two requests, the abandoned one first. -/
def NextSucceeds (binding : SessionBinding) (abandoned : SidecarRequest) (window : EventWindow) : Prop :=
  ∀ next : AskedCall, next.call.request.session = binding → next.call.request.requestId ≠ abandoned.requestId →
    next.call.written = true → ∀ first second, AnswersNow abandoned first → AnswersNow next.call.request second →
    ∃ response killed, (perform binding next (next.window window) [first, second]).outcome = some ⟨.ok response, killed⟩

def Sent (binding : SessionBinding) (call : SidecarCall) : Prop :=
  call.request.session = binding ∧ call.written = true

structure InStep (binding : SessionBinding) (start : CallStart) : Prop where
  answered : ∀ response killed, (start.ended binding).outcome = some ⟨.ok response, killed⟩ →
    Answers start.asked.call.request response
  recovers : ∀ error killed, (start.ended binding).outcome = some ⟨.error error, killed⟩ →
    Sent binding start.asked.call → killed = true ∨
      NextSucceeds binding start.asked.call.request (start.ended binding).window
  told : ∀ error killed, (start.ended binding).outcome = some ⟨.error error, killed⟩ →
    Sent binding start.asked.call → start.asked.call.state = .mutationDispatched → error.tellsPartial = true

/-- Up to the answer, a lost pipe or the deadline, the child sends only secret requests and events of
the session that can be served. -/
def Settles (binding : SessionBinding) (request : SidecarRequest) : EventWindow → List SidecarTurn → Prop
  | _, [] => True
  | window, turn :: rest =>
    match turn.reading with
    | .lost | .timedOut => True
    | .frame (.response response) => response.session = binding ∧ response.requestId = request.requestId
    | .frame (.secretRequest secretRequest) => secretRequest.session = binding ∧
        secretRequest.wellShaped = true ∧ turn.written = true ∧ Settles binding request window rest
    | .frame (.event event) => event.session = binding ∧ ∃ received acked,
        window.receive event.sequence = .ok received ∧ turn.accepts = true ∧
        received.acknowledge event.sequence = .ok acked ∧ turn.written = true ∧ Settles binding request acked rest
    | .frame _ => False

def SettlesAtOnce (binding : SessionBinding) (request : SidecarRequest) : List SidecarTurn → Prop
  | [] => True
  | turn :: _ =>
    match turn.reading with
    | .lost | .timedOut => True
    | .frame (.response response) => response.session = binding ∧ response.requestId = request.requestId
    | .frame _ => False

def CallStart.Settled (binding : SessionBinding) (start : CallStart) : Prop :=
  Sent binding start.asked.call →
    if start.asked.controlled then Settles binding start.asked.call.request start.window start.turns
    else SettlesAtOnce binding start.asked.call.request start.turns

inductive EndsWell (request : SidecarRequest) (state : RemoteOperationState) : Option CallOutcome → Prop
  | answered (response : SidecarResponse) :
      Answers request response → EndsWell request state (some ⟨.ok response, false⟩)
  | lost : EndsWell request state (some ⟨.error (.processLost state.disconnectIsPartial), true⟩)
  | timedOut : EndsWell request state (some ⟨.error (.requestTimeout state.disconnectIsPartial), true⟩)
  | waiting : EndsWell request state none

def EndsLoose (outcome : Option CallOutcome) : Prop := ∃ error, outcome = some ⟨.error error, false⟩

section Calls
variable {binding : SessionBinding} {request : SidecarRequest} {state : RemoteOperationState}

theorem serveSecret_cases (window : EventWindow) (turn : SidecarTurn) (secretRequest : SecretRequest) :
    let serves := secretRequest.session = binding ∧ secretRequest.wellShaped = true ∧ turn.written = true
    let served := serveSecret binding state window turn secretRequest
    (serves ∧ served = ⟨[], window, none⟩) ∨ (¬ serves ∧ EndsLoose served.outcome) := by
  simp only
  unfold serveSecret
  by_cases hsession : secretRequest.session = binding
  · rw [if_neg (not_not.mpr hsession)]
    cases hdispatch : dispatchSecretRequest turn.secrets secretRequest with
    | error error =>
      refine Or.inr ⟨?_, _, rfl⟩
      rintro ⟨-, hshaped, -⟩
      obtain ⟨response, hresponse⟩ := (dispatchSecretRequest_ok turn.secrets secretRequest).mpr hshaped
      rw [hdispatch] at hresponse
      cases hresponse
    | ok response =>
      have hshaped := (dispatchSecretRequest_ok turn.secrets secretRequest).mp ⟨response, hdispatch⟩
      by_cases hwritten : turn.written = true
      · exact Or.inl ⟨⟨hsession, hshaped, hwritten⟩, if_pos hwritten⟩
      · simp only [if_neg hwritten]
        exact Or.inr ⟨fun h => hwritten h.2.2, _, rfl⟩
  · rw [if_pos hsession]
    exact Or.inr ⟨fun h => hsession h.1, _, rfl⟩

theorem serveEvent_cases (window : EventWindow) (turn : SidecarTurn) (event : SidecarEvent) :
    let serves := fun acked => event.session = binding ∧ ∃ received, window.receive event.sequence = .ok received ∧
      turn.accepts = true ∧ received.acknowledge event.sequence = .ok acked ∧ turn.written = true
    let served := serveEvent binding state window turn event
    (∃ acked, serves acked ∧ served.window = acked ∧ served.outcome = none) ∨
      ((∀ acked, ¬ serves acked) ∧ EndsLoose served.outcome) := by
  simp only
  unfold serveEvent
  by_cases hsession : event.session = binding
  · rw [if_neg (not_not.mpr hsession)]
    cases hreceived : window.receive event.sequence with
    | error error =>
      refine Or.inr ⟨?_, _, rfl⟩
      rintro acked ⟨-, received, hok, -⟩
      cases hok
    | ok received =>
      simp only
      by_cases haccepts : turn.accepts = true
      · rw [if_neg (by simp [haccepts])]
        cases hacked : received.acknowledge event.sequence with
        | error error =>
          refine Or.inr ⟨?_, _, rfl⟩
          rintro acked ⟨-, other, hok, -, hacknowledge, -⟩
          cases hok
          rw [hacked] at hacknowledge
          cases hacknowledge
        | ok acked =>
          by_cases hwritten : turn.written = true
          · simp only [if_pos hwritten]
            refine Or.inl ⟨acked, ⟨hsession, received, rfl, haccepts, hacked, hwritten⟩, ?_⟩
            exact ⟨rfl, trivial⟩
          · simp only [if_neg hwritten]
            exact Or.inr ⟨fun _ h => hwritten (h.2.elim fun _ h => h.2.2.2), _, rfl⟩
      · rw [if_pos (by simpa using haccepts)]
        exact Or.inr ⟨fun _ h => haccepts (h.2.elim fun _ h => h.2.1), _, rfl⟩
  · rw [if_pos hsession]
    exact Or.inr ⟨fun _ h => hsession h.1, _, rfl⟩

/-- A call ends well when the child settles it, and loose when it does not. -/
theorem serve_cases (hrequest : request.session = binding) (turns : List SidecarTurn) (window : EventWindow) :
    let ended := serve binding request state window turns
    (Settles binding request window turns ∧ EndsWell request state ended.outcome) ∨
      (¬ Settles binding request window turns ∧ EndsLoose ended.outcome) := by
  induction turns generalizing window with
  | nil => exact Or.inl ⟨trivial, .waiting⟩
  | cons turn rest ih =>
    simp only
    unfold serve Settles serveTurn
    cases turn.reading with
    | lost => exact Or.inl ⟨trivial, .lost⟩
    | timedOut => exact Or.inl ⟨trivial, .timedOut⟩
    | frame frame =>
      cases frame with
      | response response =>
        by_cases hmatch : response.session = binding ∧ response.requestId = request.requestId
        · have hanswers : Answers request response := ⟨hmatch.1.trans hrequest.symm, hmatch.2⟩
          simp only [hmatch.1, hmatch.2, ne_eq, not_true_eq_false, or_self, if_false, and_self]
          exact Or.inl ⟨trivial, .answered response hanswers⟩
        · have hother : response.session ≠ binding ∨ response.requestId ≠ request.requestId :=
            not_and_or.mp hmatch
          simp only [if_pos hother]
          exact Or.inr ⟨hmatch, _, rfl⟩
      | secretRequest secretRequest =>
        have hcases := @serveSecret_cases binding state window turn secretRequest
        simp only at hcases ⊢
        rcases hcases with ⟨⟨hsession, hshaped, hwritten⟩, hserved⟩ | ⟨hserves, error, houtcome⟩
        · rw [hserved]
          simp only [hsession, hshaped, hwritten, true_and]
          exact ih window
        · rw [houtcome]
          refine Or.inr ⟨fun h => hserves ⟨h.1, h.2.1, h.2.2.1⟩, error, rfl⟩
      | event event =>
        have hcases := @serveEvent_cases binding state window turn event
        simp only at hcases ⊢
        rcases hcases with ⟨acked, hserves, hwindow, houtcome⟩ | ⟨hserves, error, houtcome⟩
        · rw [houtcome, hwindow]
          obtain ⟨hsession, received, hreceived, haccepts, hacked, hwritten⟩ := hserves
          rcases ih acked with ⟨hsettles, hends⟩ | ⟨hsettles, hends⟩
          · exact Or.inl ⟨⟨hsession, received, acked, hreceived, haccepts, hacked, hwritten, hsettles⟩, hends⟩
          · refine Or.inr ⟨?_, hends⟩
            rintro ⟨-, other, last, hother, -, hlast, -, hrest⟩
            cases hreceived.symm.trans hother
            cases hacked.symm.trans hlast
            exact hsettles hrest
        · rw [houtcome]
          refine Or.inr ⟨?_, error, rfl⟩
          rintro ⟨hsession, received, acked, hreceived, haccepts, hacked, hwritten, -⟩
          exact hserves acked ⟨hsession, received, hreceived, haccepts, hacked, hwritten⟩
      | hello | accept | request | eventAck | secretResponse | cancellationAck => exact Or.inr ⟨id, _, rfl⟩

theorem request_cases (call : SidecarCall) (hsent : Sent binding call) (window : EventWindow)
    (turns : List SidecarTurn) :
    let ended := SidecarProcess.request binding call window turns
    (SettlesAtOnce binding call.request turns ∧ EndsWell call.request call.state ended.outcome) ∨
      (¬ SettlesAtOnce binding call.request turns ∧ EndsLoose ended.outcome) := by
  obtain ⟨hsession, hwritten⟩ := hsent
  simp only
  unfold SidecarProcess.request
  rw [if_neg (not_not.mpr hsession), if_neg (by simp [hwritten])]
  cases turns with
  | nil => exact Or.inl ⟨trivial, .waiting⟩
  | cons turn rest =>
    unfold SettlesAtOnce
    simp only
    cases turn.reading with
    | lost => exact Or.inl ⟨trivial, .lost⟩
    | timedOut => exact Or.inl ⟨trivial, .timedOut⟩
    | frame frame =>
      cases frame with
      | response response =>
        by_cases hmatch : response.session = binding ∧ response.requestId = call.request.requestId
        · have hanswers : Answers call.request response := ⟨hmatch.1.trans hsession.symm, hmatch.2⟩
          simp only [hmatch.1, hmatch.2, ne_eq, not_true_eq_false, or_self, if_false, and_self]
          exact Or.inl ⟨trivial, .answered response hanswers⟩
        · have hother : response.session ≠ binding ∨ response.requestId ≠ call.request.requestId :=
            not_and_or.mp hmatch
          simp only [if_pos hother]
          exact Or.inr ⟨hmatch, _, rfl⟩
      | hello | accept | request | eventAck | secretResponse | cancellationAck
      | secretRequest secretRequest | event event => exact Or.inr ⟨id, _, rfl⟩

theorem ended_cases (start : CallStart) (hsent : Sent binding start.asked.call) :
    (start.Settled binding ∧ EndsWell start.asked.call.request start.asked.call.state (start.ended binding).outcome) ∨
      (¬ start.Settled binding ∧ EndsLoose (start.ended binding).outcome) := by
  unfold CallStart.Settled CallStart.ended perform
  by_cases hcontrolled : start.asked.controlled = true
  · simp only [if_pos hcontrolled]
    unfold requestControlled
    rw [if_neg (not_not.mpr hsent.1), if_neg (by simp [hsent.2])]
    rcases @serve_cases _ _ start.asked.call.state hsent.1 start.turns start.window with
      ⟨hsettles, hends⟩ | ⟨hsettles, hends⟩
    · exact Or.inl ⟨fun _ => hsettles, hends⟩
    · exact Or.inr ⟨fun h => hsettles (h hsent), hends⟩
  · simp only [if_neg hcontrolled]
    rcases request_cases start.asked.call hsent start.window start.turns with ⟨hsettles, hends⟩ | ⟨hsettles, hends⟩
    · exact Or.inl ⟨fun _ => hsettles, hends⟩
    · exact Or.inr ⟨fun h => hsettles (h hsent), hends⟩

theorem unsent_error (start : CallStart) (hsent : ¬ Sent binding start.asked.call) :
    ∃ error killed, (start.ended binding).outcome = some ⟨.error error, killed⟩ := by
  unfold CallStart.ended perform requestControlled SidecarProcess.request
  by_cases hsession : start.asked.call.request.session = binding
  · have hwritten : start.asked.call.written = false := by
      have hnot : ¬ start.asked.call.written = true := fun h => hsent ⟨hsession, h⟩
      simpa using hnot
    simp only [hsession, hwritten, ne_eq, not_true_eq_false, if_false, if_true]
    split
    · exact ⟨_, _, rfl⟩
    · exact ⟨_, _, rfl⟩
  · simp only [ne_eq, hsession, not_false_eq_true, if_true]
    split
    · exact ⟨_, _, rfl⟩
    · exact ⟨_, _, rfl⟩

theorem next_fails {abandoned : SidecarRequest} (window : EventWindow) :
    ¬ NextSucceeds binding abandoned window := by
  intro h
  have hfresh : abandoned.requestId ++ "'" ≠ abandoned.requestId := by
    intro heq
    have hlength := congrArg String.length heq
    rw [String.length_append, show "'".length = 1 from rfl] at hlength
    omega
  let answer := fun request : SidecarRequest => SidecarTurn.mk
    (.frame (.response ⟨request.session, request.requestId, .result⟩)) ⟨fun _ => .ok none, fun _ _ => .ok 0,
      fun _ => .ok false, fun _ _ _ => .ok 0⟩ true true
  let next : SidecarRequest := ⟨binding, abandoned.requestId ++ "'"⟩
  obtain ⟨response, killed, hresponse⟩ := h ⟨⟨next, .preMutation, true⟩, false, none⟩ rfl hfresh rfl
    (answer abandoned) (answer next) ⟨_, rfl, rfl, rfl⟩ ⟨_, rfl, rfl, rfl⟩
  have hother : abandoned.session ≠ binding ∨ abandoned.requestId ≠ abandoned.requestId ++ "'" := Or.inr hfresh.symm
  simp only [perform, SidecarProcess.request, next, answer, ne_eq, not_true_eq_false, Bool.true_eq_false, if_false,
    Bool.false_eq_true] at hresponse
  rw [if_pos hother] at hresponse
  cases hresponse

theorem inStep_iff_settled (start : CallStart) : InStep binding start ↔ start.Settled binding := by
  by_cases hsent : Sent binding start.asked.call
  · rcases ended_cases start hsent with ⟨hsettled, hwell⟩ | ⟨hsettled, hloose⟩
    · refine iff_of_true ⟨?_, ?_, ?_⟩ hsettled
      · intro response killed houtcome
        rw [houtcome] at hwell
        cases hwell with
        | answered _ hanswers => exact hanswers
      · intro error killed houtcome _
        rw [houtcome] at hwell
        cases hwell with
        | lost | timedOut => exact Or.inl rfl
      · intro error killed houtcome _ hstate
        rw [houtcome, hstate] at hwell
        cases hwell with
        | lost | timedOut => rfl
    · refine iff_of_false ?_ hsettled
      intro hstep
      obtain ⟨error, houtcome⟩ := hloose
      rcases hstep.recovers error false houtcome hsent with hkilled | hnext
      · cases hkilled
      · exact next_fails _ hnext
  · refine iff_of_true ⟨?_, fun _ _ _ h => absurd h hsent, fun _ _ _ h => absurd h hsent⟩ fun h => absurd h hsent
    intro response killed houtcome
    obtain ⟨error, other, herror⟩ := unsent_error start hsent
    rw [herror] at houtcome
    cases houtcome

end Calls

/-- All calls of a run keep in step exactly when each deals with all it reads. -/
theorem sidecar_in_step (binding : SessionBinding) (window : EventWindow) (calls : List AskedCall)
    (turns : List SidecarTurn) :
    (∀ start ∈ starts binding window calls turns, InStep binding start) ↔
      ∀ start ∈ starts binding window calls turns, start.Settled binding :=
  forall₂_congr fun start _ => inStep_iff_settled start

def lampMutation : AskedCall := ⟨⟨⟨lampBinding, "switch"⟩, .mutationDispatched, true⟩, true, none⟩

def lampRefused : List SidecarTurn := [lampReport 1 one_lt_sequences false, lampAnswer "first"]

/-- The caller is not told of the mutation, and the answer is left in the pipe. -/
theorem lamp_out_of_step : ¬ ∀ start ∈ starts lampBinding ⟨2, 0, 0⟩ [lampMutation] lampRefused,
    InStep lampBinding start := by
  intro h
  have hstep := h ⟨lampMutation, ⟨2, 0, 0⟩, lampRefused⟩ List.mem_cons_self
  have htold := hstep.told .eventRejected false rfl ⟨rfl, rfl⟩ rfl
  cases htold

end SidecarProcess
end HomeMagic
