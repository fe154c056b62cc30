import Mathlib

/-! The supervisor of the Matter sidecar: requests to the child, the secrets and the events it serves
while it waits for the answer, and the window of unacknowledged events. -/
namespace HomeMagic

structure SessionBinding where
  childNonce : String
  sessionNonce : String
  deriving DecidableEq

structure SidecarRequest where
  session : SessionBinding
  requestId : String
  deriving DecidableEq

inductive ResponseDisposition
  | result
  | partial_ (phase : String)
  | error (code : String) (retryable : Bool)
  deriving DecidableEq

structure SidecarResponse where
  session : SessionBinding
  requestId : String
  disposition : ResponseDisposition
  deriving DecidableEq

structure SidecarEvent where
  session : SessionBinding
  sequence : ℕ
  sequence_lt : sequence < 2^64

instance : DecidableEq SidecarEvent := fun a b =>
  decidable_of_iff (a.session = b.session ∧ a.sequence = b.sequence) (by cases a; cases b; simp)

abbrev SensitiveBytes := List UInt8

inductive SecretMethod
  | get | put | delete | compareAndSwap
  deriving DecidableEq

structure SecretRequest where
  session : SessionBinding
  requestId : String
  method : SecretMethod
  handle : String
  expectedRevision : Option ℕ
  value : Option SensitiveBytes
  deriving DecidableEq

structure SecretRecord where
  revision : ℕ
  value : SensitiveBytes
  deriving DecidableEq

inductive SecretDisposition
  | found (record : SecretRecord)
  | missing
  | stored (revision : ℕ)
  | deleted (existed : Bool)
  | conflict | unavailable
  deriving DecidableEq

structure SecretResponse where
  session : SessionBinding
  requestId : String
  disposition : SecretDisposition
  deriving DecidableEq

inductive SidecarFrame
  | hello | accept | request | eventAck | secretResponse | cancellationAck
  | response (response : SidecarResponse)
  | event (event : SidecarEvent)
  | secretRequest (request : SecretRequest)
  deriving DecidableEq

inductive ProtocolError
  | malformedFrame | invalidLimits | duplicateSequence | sequenceGap | eventWindowExhausted
  | invalidAcknowledgement
  deriving DecidableEq

inductive SecretDriverError
  | unavailable | conflict
  deriving DecidableEq

structure SidecarSecretStore where
  get : String → Except SecretDriverError (Option SecretRecord)
  put : String → SensitiveBytes → Except SecretDriverError ℕ
  delete : String → Except SecretDriverError Bool
  compareAndSwap : String → ℕ → SensitiveBytes → Except SecretDriverError ℕ

def SecretDriverError.disposition : SecretDriverError → SecretDisposition
  | unavailable => .unavailable
  | conflict => .conflict

def dispatchSecretRequest (store : SidecarSecretStore) (request : SecretRequest) :
    Except ProtocolError SecretResponse := do
  let disposition ← match request.method, request.expectedRevision, request.value with
    | .get, none, none =>
      match store.get request.handle with
      | .ok (some record) => .ok (.found record)
      | .ok none => .ok .missing
      | .error error => .ok error.disposition
    | .put, none, some value =>
      match store.put request.handle value with
      | .ok revision => .ok (.stored revision)
      | .error error => .ok error.disposition
    | .delete, none, none =>
      match store.delete request.handle with
      | .ok existed => .ok (.deleted existed)
      | .error error => .ok error.disposition
    | .compareAndSwap, some expected, some value =>
      match store.compareAndSwap request.handle expected value with
      | .ok revision => .ok (.stored revision)
      | .error error => .ok error.disposition
    | _, _, _ => .error .malformedFrame
  pure ⟨request.session, request.requestId, disposition⟩

inductive RemoteOperationState
  | preMutation | mutationDispatched | completed | uncancellable
  deriving DecidableEq

def RemoteOperationState.disconnectIsPartial (state : RemoteOperationState) : Bool := state == .mutationDispatched

structure EventWindow where
  capacity : ℕ
  highestReceived : ℕ
  highestAcked : ℕ
  deriving DecidableEq

def maxEventWindow : ℕ := 1024

namespace EventWindow

def new (capacity : ℕ) : Except ProtocolError EventWindow :=
  if capacity = 0 ∨ maxEventWindow < capacity then .error .invalidLimits else .ok ⟨capacity, 0, 0⟩

def outstanding (window : EventWindow) : ℕ := min (window.highestReceived - window.highestAcked) (2^32 - 1)

def receive (window : EventWindow) (sequence : ℕ) : Except ProtocolError EventWindow :=
  let expected := min (window.highestReceived + 1) (2^64 - 1)
  if sequence < expected then .error .duplicateSequence
  else if expected < sequence then .error .sequenceGap
  else if window.capacity ≤ window.outstanding then .error .eventWindowExhausted
  else .ok { window with highestReceived := sequence }

def acknowledge (window : EventWindow) (throughSequence : ℕ) : Except ProtocolError EventWindow :=
  if throughSequence < window.highestAcked ∨ window.highestReceived < throughSequence then
    .error .invalidAcknowledgement
  else .ok { window with highestAcked := throughSequence }

end EventWindow

inductive SupervisorError
  | unexpectedFrame
  | processLost (isPartial : Bool)
  | requestTimeout (isPartial : Bool)
  | eventRejected
  deriving DecidableEq

inductive Reading
  | frame (frame : SidecarFrame)
  /-- The pipe fails, or the frame is malformed or too large. -/
  | lost
  | timedOut
  deriving DecidableEq

/-- One round of the loop: what is read, what the secret store would answer, whether the handler
accepts the event, and whether the reply can be written. -/
structure SidecarTurn where
  reading : Reading
  secrets : SidecarSecretStore
  accepts : Bool
  written : Bool

inductive ControlEvent
  /-- The handler was given an event. -/
  | handled (sequence : ℕ) (accepted : Bool) (window : EventWindow)
  /-- An acknowledgement was sent. -/
  | acknowledged (sequence : ℕ) (window : EventWindow)
  /-- A call ended with an error. -/
  | failed (window : EventWindow)
  deriving DecidableEq

structure CallOutcome where
  result : Except SupervisorError SidecarResponse
  killed : Bool
  deriving DecidableEq

structure Served where
  events : List ControlEvent
  window : EventWindow
  outcome : Option CallOutcome
  deriving DecidableEq

namespace SidecarProcess

def returning (error : SupervisorError) (window : EventWindow) : Served := ⟨[], window, some ⟨.error error, false⟩⟩

def serveSecret (binding : SessionBinding) (state : RemoteOperationState) (window : EventWindow) (turn : SidecarTurn)
    (request : SecretRequest) : Served :=
  if request.session ≠ binding then returning .unexpectedFrame window
  else match dispatchSecretRequest turn.secrets request with
    | .error _ => returning .unexpectedFrame window
    | .ok _ =>
      if turn.written then ⟨[], window, none⟩
      else returning (.processLost state.disconnectIsPartial) window

def serveEvent (binding : SessionBinding) (state : RemoteOperationState) (window : EventWindow) (turn : SidecarTurn)
    (event : SidecarEvent) : Served :=
  if event.session ≠ binding then returning .unexpectedFrame window
  else match window.receive event.sequence with
    | .error _ => returning .unexpectedFrame window
    | .ok received =>
      let handled := .handled event.sequence turn.accepts received
      if turn.accepts = false then ⟨[handled], received, some ⟨.error .eventRejected, false⟩⟩
      else match received.acknowledge event.sequence with
        | .error _ => ⟨[handled], received, some ⟨.error .unexpectedFrame, false⟩⟩
        | .ok acked =>
          if turn.written then ⟨[handled, .acknowledged event.sequence acked], acked, none⟩
          else ⟨[handled], acked, some ⟨.error (.processLost state.disconnectIsPartial), false⟩⟩

def serveTurn (binding : SessionBinding) (request : SidecarRequest) (state : RemoteOperationState)
    (window : EventWindow) (turn : SidecarTurn) : Served :=
  match turn.reading with
  | .lost => ⟨[], window, some ⟨.error (.processLost state.disconnectIsPartial), true⟩⟩
  | .timedOut => ⟨[], window, some ⟨.error (.requestTimeout state.disconnectIsPartial), true⟩⟩
  | .frame (.response response) =>
    if response.session ≠ binding ∨ response.requestId ≠ request.requestId then returning .unexpectedFrame window
    else ⟨[], window, some ⟨.ok response, false⟩⟩
  | .frame (.secretRequest secretRequest) => serveSecret binding state window turn secretRequest
  | .frame (.event event) => serveEvent binding state window turn event
  | .frame _ => returning .unexpectedFrame window

structure CallEnd where
  events : List ControlEvent
  window : EventWindow
  outcome : Option CallOutcome
  unread : List SidecarTurn

def serve (binding : SessionBinding) (request : SidecarRequest) (state : RemoteOperationState) :
    EventWindow → List SidecarTurn → CallEnd
  | window, [] => ⟨[], window, none, []⟩
  | window, turn :: rest =>
    let served := serveTurn binding request state window turn
    match served.outcome with
    | some outcome => ⟨served.events, served.window, some outcome, rest⟩
    | none =>
      let ended := serve binding request state served.window rest
      { ended with events := served.events ++ ended.events }

structure SidecarCall where
  request : SidecarRequest
  state : RemoteOperationState
  written : Bool
  deriving DecidableEq

def requestControlled (binding : SessionBinding) (call : SidecarCall) (window : EventWindow)
    (turns : List SidecarTurn) : CallEnd :=
  if call.request.session ≠ binding then ⟨[], window, some ⟨.error .unexpectedFrame, false⟩, turns⟩
  else if call.written = false then
    ⟨[], window, some ⟨.error (.processLost call.state.disconnectIsPartial), true⟩, turns⟩
  else serve binding call.request call.state window turns

def request (binding : SessionBinding) (call : SidecarCall) (window : EventWindow) (turns : List SidecarTurn) :
    CallEnd :=
  if call.request.session ≠ binding then ⟨[], window, some ⟨.error .unexpectedFrame, false⟩, turns⟩
  else if call.written = false then
    ⟨[], window, some ⟨.error (.processLost call.state.disconnectIsPartial), true⟩, turns⟩
  else match turns with
    | [] => ⟨[], window, none, []⟩
    | turn :: rest =>
      match turn.reading with
      | .lost => ⟨[], window, some ⟨.error (.processLost call.state.disconnectIsPartial), true⟩, rest⟩
      | .timedOut => ⟨[], window, some ⟨.error (.requestTimeout call.state.disconnectIsPartial), true⟩, rest⟩
      | .frame (.response response) =>
        if response.session ≠ binding ∨ response.requestId ≠ call.request.requestId then
          ⟨[], window, some ⟨.error .unexpectedFrame, false⟩, rest⟩
        else ⟨[], window, some ⟨.ok response, false⟩, rest⟩
      | .frame _ => ⟨[], window, some ⟨.error .unexpectedFrame, false⟩, rest⟩

end SidecarProcess
end HomeMagic
