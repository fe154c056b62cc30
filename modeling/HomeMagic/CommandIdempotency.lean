import HomeMagic.CommandDispatch

/-! One command for each retry key of an actor: what repeated and concurrent
executions find, and that the automation runtime repeats its requests unchanged. -/
namespace HomeMagic
open List Fallible

variable {host : CommandHost} {R : CommandStore → CommandStore → Prop} {key : IdempotencyKey} {actor : Actor}
  {nodeId : AutomationPlanNodeId} {run : AutomationRun} {runIdText : AutomationRunId → String} {actorId : ActorId}
  {audit : CommandAuditRecord} {node : CommandNode} {now : Instant} {request : CommandRequest}
  {requestHash : CanonicalRequestHash} {result : Except CommandServiceError CommandAggregate} {row : StoredCommand}
  {attempt maximumRunDurationMs : ℕ} {command : CommandAggregate}

def attemptKey (runIdText : AutomationRunId → String) (run : AutomationRun)
    (nodeId : AutomationPlanNodeId) (attempt targetIndex : ℕ) :
    Except AutomationRuntimeError IdempotencyKey :=
  match IdempotencyKey.new ("automation:" ++ runIdText run.id ++ ":" ++ toString nodeId ++ ":" ++
      toString targetIndex ++ ":" ++ toString attempt) with
  | .ok key => .ok key
  | .error _ => .error .invalidIdempotencyKey

def attemptRequest (run : AutomationRun) (node : CommandNode) (target : ResolvedAutomationTarget)
    (key : IdempotencyKey) (deadline : Instant) : CommandRequest where
  deviceId := target.deviceId
  endpointId := target.endpointId
  payload := node.payload
  idempotencyKey := key
  deadline := deadline
  expected := none
  dryRun := false
  correlationId := run.correlationId
  causationEventId := run.causationEventId
  automationCausation := some ⟨run.automationId, run.version, run.id⟩

def dispatchTargets (host : CommandHost) (runIdText : AutomationRunId → String) (run : AutomationRun)
    (nodeId : AutomationPlanNodeId) (node : CommandNode) (actor : Actor) (deadline : Instant)
    (attempt : ℕ) : List ℕ → CommandPathM AutomationRuntimeError (List CommandAggregate)
  | [] => pure []
  | targetIndex :: rest =>
    match node.targets[targetIndex]?, attemptKey runIdText run nodeId attempt targetIndex with
    | none, _ => throw .invalidPlan
    | some _, .error error => throw error
    | some target, .ok key => do
      let now ← asking .now
      let command ← calling (fun _ => AutomationRuntimeError.command)
        (execute host actor (attemptRequest run node target key deadline) now).run
      let commands ← dispatchTargets host runIdText run nodeId node actor deadline attempt rest
      pure (command :: commands)

def dispatchAttemptCommands (host : CommandHost) (runIdText : AutomationRunId → String)
    (run : AutomationRun) (nodeId : AutomationPlanNodeId) (node : CommandNode)
    (maximumRunDurationMs : ℕ) : CommandPathM AutomationRuntimeError (List CommandAggregate) :=
  match dispatchAttempt run node with
  | .error error => throw error
  | .ok (attempt, targetIndices) =>
    if targetIndices.isEmpty then throw .invalidPlan
    else do
      match ← calling (fun _ => AutomationRuntimeError.repository)
          (invoke (.actorSecurity run.actorId)) with
      | none => throw .commandActorUnavailable
      | some security =>
        match addMillis run.createdAt maximumRunDurationMs with
        | none => throw .durationOverflow
        | some deadline =>
          dispatchTargets host runIdText run nodeId node security.actor deadline attempt targetIndices

def creationDiscipline (P : CommandAggregate → CanonicalRequestHash → Prop) :
    Discipline CommandCall CommandCall.Response Unit where
  valid := commandDiscipline.valid
  allows := fun _ c => ∀ command requestHash audit, c = .createCommand command requestHash audit →
    P command requestHash
  move := fun _ _ _ => ()

abbrev Creating {ε α : Type} (P : CommandAggregate → CanonicalRequestHash → Prop)
    (p : CommandPathM ε α) : Prop :=
  p.run.Obeys (creationDiscipline P) (Fallible.OnOk (fun _ _ => True)) ()

variable {store : CommandStore} {storeHost : StoreHost} {commandIdText : CommandId → String}

section Creating
variable {P : CommandAggregate → CanonicalRequestHash → Prop} {ε ε' α β : Type}

theorem creating_bind {x : CommandPathM ε α} {f : α → CommandPathM ε β} (hx : Creating P x)
    (hf : ∀ a, Creating P (f a)) : Creating P (x >>= f) := by
  apply obeys_bind
  apply hx.mono
  intro result _ _ a _
  exact hf a

theorem creating_calling {wrap : ε → ε'} {p : Program CommandCall CommandCall.Response (Except ε α)}
    (h : p.Obeys (creationDiscipline P) (fun _ _ => True) ()) : Creating P (calling wrap p) := by
  apply Program.Obeys.bind
  apply h.mono
  intro result _ _
  cases result <;> exact fun _ _ => trivial

theorem Creating.imp {P' : CommandAggregate → CanonicalRequestHash → Prop} {p : CommandPathM ε α}
    (h : Creating P p) (himp : ∀ command requestHash, P command requestHash → P' command requestHash) :
    Creating P' p := by
  have hallows : ∀ (g g' : Unit) c, True → (creationDiscipline P).allows g c →
      (creationDiscipline P').allows g' c :=
    fun _ _ _ _ hallows command requestHash audit hc =>
      himp command requestHash (hallows command requestHash audit hc)
  exact Program.Obeys.mono (h.transfer (creationDiscipline P') (fun _ _ => True)
    (fun _ _ hvalid => hvalid) hallows (fun _ _ _ _ _ => trivial) trivial) (fun _ _ _ _ _ => trivial)

theorem creating_execute (h : ∀ device id, P (.received (requestEnvelope host actor.id request device now id))
      (host.canonicalHash (canonicalRequest actor.id request))) :
    (execute host actor request now).run.Obeys (creationDiscipline P) (fun _ _ => True) () := by
  have hkeeps := keeping_execute (g := .initial now P (!host.dispatchControl)) host actor request rfl
    rfl h
  have hallows : ∀ (g : CommandGhost) (g' : Unit) c, g.creates = P → commandDiscipline.allows g c →
      (creationDiscipline P).allows g' c := by
    rintro g _ c hj hallows command requestHash audit rfl
    exact hj ▸ hallows
  have hmove : ∀ (g : CommandGhost) (g' : Unit) c r, g.creates = P →
      (commandDiscipline.move g c r).creates = P :=
    fun g _ c r hj => (g.move_creates c r).trans hj
  exact Program.Obeys.mono (hkeeps.transfer (creationDiscipline P) (fun g _ => g.creates = P)
    (fun _ _ hvalid => hvalid) hallows hmove rfl) (fun _ _ _ => trivial)

theorem Creating.made {p : CommandPathM ε α} (hp : Creating P p) {trace : List (CommandStore × CommandCall)}
    (h : p.run.Performs (commandHandler storeHost commandIdText) R store trace)
    {made : CommandStore × CommandCall} (hmade : made ∈ trace)
    (hc : made.2 = .createCommand command requestHash audit) : P command requestHash := by
  have hvalid : ∀ c s r s', commandHandler storeHost commandIdText c s r s' →
      (creationDiscipline P).valid c r := fun _ _ _ _ hh => CommandStore.commandHandler_valid hh
  obtain ⟨_, _, hallowed⟩ := h.allowed (J := fun _ => True) hvalid (fun _ _ _ _ => trivial) hp
    trivial made hmade
  exact hallowed command requestHash audit hc

def AttemptCreates (host : CommandHost) (runIdText : AutomationRunId → String) (run : AutomationRun)
    (nodeId : AutomationPlanNodeId) (node : CommandNode) (deadline : Instant) (attempt : ℕ)
    (command : CommandAggregate) (requestHash : CanonicalRequestHash) : Prop :=
  ∃ targetIndex target key, node.targets[targetIndex]? = some target ∧
    attemptKey runIdText run nodeId attempt targetIndex = .ok key ∧
    command.envelope.actorId = run.actorId ∧ command.envelope.idempotencyKey = key ∧
    requestHash = host.canonicalHash
      (canonicalRequest run.actorId (attemptRequest run node target key deadline))

theorem creating_dispatchTargets {deadline : Instant} (hactor : actor.id = run.actorId) (targetIndices : List ℕ) :
    Creating (AttemptCreates host runIdText run nodeId node deadline attempt)
      (dispatchTargets host runIdText run nodeId node actor deadline attempt targetIndices) := by
  induction targetIndices with
  | nil => exact obeys_pure trivial
  | cons targetIndex rest ih =>
    unfold dispatchTargets
    split
    · exact obeys_throw
    · exact obeys_throw
    · rename_i target key htarget hkey
      refine creating_bind ⟨fun _ _ _ h => (nomatch h), fun _ _ _ _ => trivial⟩ ?_
      intro now
      refine creating_bind (creating_calling (creating_execute ?_)) ?_
      · intro device id
        exact ⟨targetIndex, target, key, htarget, hkey, hactor, rfl, by rw [hactor]⟩
      · intro command
        exact creating_bind ih (fun _ => obeys_pure trivial)

theorem creating_dispatchAttemptCommands :
    Creating (fun command requestHash => ∃ attempt targetIndices deadline,
        dispatchAttempt run node = .ok (attempt, targetIndices) ∧
        addMillis run.createdAt maximumRunDurationMs = some deadline ∧
        AttemptCreates host runIdText run nodeId node deadline attempt command requestHash)
      (dispatchAttemptCommands host runIdText run nodeId node maximumRunDurationMs) := by
  unfold dispatchAttemptCommands
  split
  · exact obeys_throw
  · rename_i attempt targetIndices hattempt
    split
    · exact obeys_throw
    · apply obeys_bind
      apply Program.Obeys.bind
      refine ⟨fun _ _ _ h => (nomatch h), ?_⟩
      intro response hvalid
      rcases response with error | found
      · exact fun _ h => (nomatch h)
      · intro found' hfound
        cases hfound
        cases found with
        | none => exact obeys_throw
        | some security =>
          have hactor : security.actor.id = run.actorId := hvalid
          dsimp only
          split
          · exact obeys_throw
          · rename_i deadline hdeadline
            exact (creating_dispatchTargets hactor targetIndices).imp
              (fun command requestHash h => ⟨attempt, targetIndices, deadline, hattempt, hdeadline, h⟩)

end Creating

theorem IdempotencyKey.new_ok {text : String} (h : IdempotencyKey.new text = .ok key) :
    key.text = text := by
  unfold IdempotencyKey.new at h
  split at h
  · cases h
  · split at h
    · cases h
    · split at h
      · cases h
      · cases h
        rfl

theorem attemptKey_inj {i j : ℕ} (hi : attemptKey runIdText run nodeId attempt i = .ok key)
    (hj : attemptKey runIdText run nodeId attempt j = .ok key) : i = j := by
  have htext : ∀ {k}, attemptKey runIdText run nodeId attempt k = .ok key →
      key.text = "automation:" ++ runIdText run.id ++ ":" ++ toString nodeId ++ ":" ++
        toString k ++ ":" ++ toString attempt := by
    intro k hk
    unfold attemptKey at hk
    split at hk
    · rename_i made hmade
      cases hk
      exact IdempotencyKey.new_ok hmade
    · cases hk
  have hlists := congrArg String.toList ((htext hi).symm.trans (htext hj))
  simp only [String.toList_append, append_cancel_right_eq, append_cancel_left_eq,
    Nat.toString_eq_repr, Nat.toList_repr] at hlists
  have hvalues := congrArg (fun digits => Nat.ofDigitChars 10 digits 0) hlists
  simpa only [Nat.ofDigitChars_toDigits (b := 10) (by decide) (by decide)] using hvalues

variable {store' : CommandStore}

theorem reissued_equal {trace trace' : List (CommandStore × CommandCall)}
    (h : (dispatchAttemptCommands host runIdText run nodeId node maximumRunDurationMs).run.Performs
      (commandHandler storeHost commandIdText) (CommandStore.Reaches storeHost commandIdText) store trace)
    (h' : (dispatchAttemptCommands host runIdText run nodeId node maximumRunDurationMs).run.Performs
      (commandHandler storeHost commandIdText) (CommandStore.Reaches storeHost commandIdText) store' trace')
    {made made' : CommandStore × CommandCall} (hmade : made ∈ trace) (hmade' : made' ∈ trace')
    {command' : CommandAggregate} {requestHash' : CanonicalRequestHash} {audit' : CommandAuditRecord}
    (hc : made.2 = .createCommand command requestHash audit)
    (hc' : made'.2 = .createCommand command' requestHash' audit')
    (hkey : command.envelope.idempotencyKey = command'.envelope.idempotencyKey) :
    command.envelope.actorId = command'.envelope.actorId ∧ requestHash = requestHash' := by
  obtain ⟨attempt, _, deadline, hattempt, hdeadline, i, target, key, htarget, hi, hactor, hk, hhash⟩ :=
    creating_dispatchAttemptCommands.made h hmade hc
  obtain ⟨attempt', _, deadline', hattempt', hdeadline', j, target', key', htarget', hj, hactor', hk',
    hhash'⟩ := creating_dispatchAttemptCommands.made h' hmade' hc'
  -- the attempt and its deadline come from the stored run alone
  obtain rfl : attempt = attempt' := by
    rw [hattempt] at hattempt'
    cases hattempt'
    rfl
  obtain rfl : deadline = deadline' := Option.some.inj (hdeadline.symm.trans hdeadline')
  obtain rfl : key = key' := hk.symm.trans (hkey.trans hk')
  obtain rfl := attemptKey_inj hi hj
  obtain rfl : target = target' := Option.some.inj (htarget.symm.trans htarget')
  exact ⟨hactor.trans hactor'.symm, hhash.trans hhash'.symm⟩

namespace CommandStore

def KeyedBy (row : StoredCommand) (actorId : ActorId) (key : IdempotencyKey) : Prop :=
  row.command.envelope.actorId = actorId ∧ row.command.envelope.idempotencyKey = key

theorem commandByKey_some (h : store.commandByKey actorId key = some row) :
    row ∈ store.commands.rows ∧ KeyedBy row actorId key := by
  refine ⟨List.mem_of_find?_eq_some h, ?_⟩
  have hfound := List.find?_some h
  simpa [KeyedBy] using hfound

theorem commandByKey_none (h : store.commandByKey actorId key = none) (hrow : row ∈ store.commands.rows) :
    ¬ KeyedBy row actorId key := by
  have hnone := List.find?_eq_none.mp h row hrow
  simpa [KeyedBy] using hnone

/-- What retry keys and devices rely on: a key has one command, and the device of a
command stays registered. -/
structure Keyed (store : CommandStore) : Prop where
  once : ∀ row ∈ store.commands.rows, ∀ other ∈ store.commands.rows,
    row.command.envelope.actorId = other.command.envelope.actorId →
    row.command.envelope.idempotencyKey = other.command.envelope.idempotencyKey → row = other
  registered : ∀ row ∈ store.commands.rows, ∃ device ∈ store.devices.rows,
    device.snapshot.id = row.command.envelope.deviceId

/-- Commands and devices stay, so keys stay taken. -/
theorem Keyed.changes {P : CommandState → Prop} (h : Keyed store)
    (hdevices : ∀ device ∈ store.devices.rows, ∃ device' ∈ store'.devices.rows,
      device'.snapshot.id = device.snapshot.id) (hc : Changes P store store') : Keyed store' := by
  have hkept : ∀ row ∈ store.commands.rows, ∃ device ∈ store'.devices.rows,
      device.snapshot.id = row.command.envelope.deviceId := by
    intro row hrow
    obtain ⟨device, hdevice, hid⟩ := h.registered row hrow
    obtain ⟨device', hdevice', hid'⟩ := hdevices device hdevice
    exact ⟨device', hdevice', hid'.trans hid⟩
  cases hc with
  | same hc _ => exact ⟨hc ▸ h.once, hc ▸ hkept⟩
  | created row audit hc =>
    refine ⟨?_, ?_⟩
    · -- the new key was free
      intro a ha b hb hactor hkey
      rw [hc.commands, mem_append, mem_singleton] at ha hb
      rcases ha with ha | rfl <;> rcases hb with hb | rfl
      · exact h.once a ha b hb hactor hkey
      · exact absurd ⟨hactor, hkey⟩ (commandByKey_none hc.unkeyed ha)
      · exact absurd ⟨hactor.symm, hkey.symm⟩ (commandByKey_none hc.unkeyed hb)
      · rfl
    · intro a ha
      rw [hc.commands, mem_append, mem_singleton] at ha
      rcases ha with ha | rfl
      · exact hkept a ha
      · obtain ⟨device, hdevice⟩ := hc.device
        obtain ⟨hin, hid⟩ := Table.find_eq_some.mp hdevice
        obtain ⟨device', hdevice', hid'⟩ := hdevices device hin
        exact ⟨device', hdevice', hid'.trans hid⟩
  | moved current next audit hm _ =>
    -- every row has the envelope of a row before
    have hbefore : ∀ a ∈ store'.commands.rows, ∃ a' ∈ store.commands.rows,
        a'.command.envelope = a.command.envelope := by
      intro a ha
      rw [hm.commands] at ha
      rcases (Table.mem_replace hm.found).mp ha with rfl | ⟨ha, _⟩
      · exact ⟨current, (Table.find_eq_some.mp hm.found).1, hm.move.envelope.symm⟩
      · exact ⟨a, ha, rfl⟩
    refine ⟨?_, ?_⟩
    · intro a ha b hb hactor hkey
      obtain ⟨a', ha', heqa⟩ := hbefore a ha
      obtain ⟨b', hb', heqb⟩ := hbefore b hb
      have hsame : a' = b' := by
        apply h.once a' ha' b' hb'
        · rw [heqa, heqb, hactor]
        · rw [heqa, heqb, hkey]
      apply Table.eq_of_key ha hb
      rw [← heqa, ← heqb, hsame]
    · intro a ha
      obtain ⟨a', ha', heqa⟩ := hbefore a ha
      rw [← heqa]
      exact hkept a' ha'

theorem Reaches.keyed (hrun : Reaches storeHost commandIdText store store')
    (h : Keyed store) : Keyed store' := by
  induction hrun with
  | refl => exact h
  | tail _ hstep ih =>
    obtain ⟨c, r, hcall⟩ := hstep
    exact ih.changes (commandHandler_devices hcall) (commandHandler_changes hcall)

end CommandStore
abbrev CommandTrace := List (Program.Made CommandCall CommandStore)

def QuietCall (made : Program.Made CommandCall CommandStore) : Prop :=
  made.after = made.before ∧ (made.call = .loadFoundation ∨ made.call = .newId ∨
    ∃ command requestHash audit, made.call = .createCommand command requestHash audit)

def KeyTaken (actor : Actor) (request : CommandRequest) (trace : CommandTrace) : Prop :=
  ∀ made ∈ trace, ∀ command requestHash audit,
    made.call = .createCommand command requestHash audit →
    ∃ row ∈ made.before.commands.rows, CommandStore.KeyedBy row actor.id request.idempotencyKey

inductive Replayed (host : CommandHost) (actor : Actor) (request : CommandRequest)
    (trace : CommandTrace) : Except CommandServiceError CommandAggregate → Prop
  | equivalent (made : Program.Made CommandCall CommandStore) (hmade : made ∈ trace)
      (row : StoredCommand) (hrow : row ∈ made.before.commands.rows)
      (hkey : CommandStore.KeyedBy row actor.id request.idempotencyKey)
      (hhash : row.requestHash = host.canonicalHash (canonicalRequest actor.id request)) :
      Replayed host actor request trace (.ok row.command)
  | conflict (made : Program.Made CommandCall CommandStore) (hmade : made ∈ trace)
      (row : StoredCommand) (hrow : row ∈ made.before.commands.rows)
      (hkey : CommandStore.KeyedBy row actor.id request.idempotencyKey)
      (hhash : row.requestHash ≠ host.canonicalHash (canonicalRequest actor.id request)) :
      Replayed host actor request trace (.error (.idempotencyConflict row.command.envelope.id))
  | unknownDevice (made : Program.Made CommandCall CommandStore) (hmade : made ∈ trace)
      (hdevice : ∀ device ∈ made.before.devices.rows, device.snapshot.id ≠ request.deviceId)
      (hother : ∀ row ∈ made.before.commands.rows,
        row.command.envelope.deviceId ≠ request.deviceId) :
      Replayed host actor request trace (.error .deviceNotFound)
  | repository (source : BoxError) : Replayed host actor request trace (.error (.repository source))

section Executions
variable {storeHost : StoreHost} {commandIdText : CommandId → String} {ε ε' α : Type}
  {store store' : CommandStore} {trace : CommandTrace}

theorem completes_invoke {c : CommandCall} {r : c.Response}
    (h : (invoke c).Completes (commandHandler storeHost commandIdText) R store trace r store') :
    ∃ store₁, R store store₁ ∧ commandHandler storeHost commandIdText c store₁ r store' ∧
      trace = [⟨store₁, c, store'⟩] := by
  unfold invoke Program.perform at h
  cases h with
  | call hr hh hdone =>
    cases hdone with
    | done => exact ⟨_, hr, hh, rfl⟩

theorem completes_calling {wrap : ε → ε'} {p : Program CommandCall CommandCall.Response (Except ε α)}
    {result : Except ε' α}
    (h : (calling wrap p).run.Completes (commandHandler storeHost commandIdText) R store trace result
      store') :
    ∃ response, p.Completes (commandHandler storeHost commandIdText) R store trace response store' ∧
      result = response.mapError wrap := by
  obtain ⟨trace₁, response, store₁, trace₂, rfl, hp, hdone⟩ := Program.Completes.of_bind h
  refine ⟨response, ?_, ?_⟩
  · cases response <;> cases hdone <;> rwa [append_nil]
  · cases response <;> cases hdone <;> rfl

theorem completes_freshId {result : Except ε ℕ}
    (h : (freshId : CommandPathM ε ℕ).run.Completes (commandHandler storeHost commandIdText) R store
      trace result store') :
    ∃ id, result = .ok id ∧ R store store' ∧ trace = [⟨store', .newId, store'⟩] := by
  obtain ⟨trace₁, id, store₁, trace₂, rfl, hinvoke, hdone⟩ := Program.Completes.of_bind h
  obtain ⟨store₂, hr, rfl, rfl⟩ := completes_invoke hinvoke
  cases hdone
  exact ⟨id, rfl, hr, rfl⟩

theorem createCommand_taken {c : CommandAggregate} {response : Except StorageError CommandCreateOutcome}
    (hh : commandHandler storeHost commandIdText (.createCommand c requestHash audit) store response store')
    (htaken : ∃ row ∈ store.commands.rows,
      CommandStore.KeyedBy row c.envelope.actorId c.envelope.idempotencyKey) :
    store' = store ∧ ((∃ error, response = .error error) ∨
      ∃ row ∈ store.commands.rows,
        CommandStore.KeyedBy row c.envelope.actorId c.envelope.idempotencyKey ∧
        response = .ok (if row.requestHash = requestHash then .existingEquivalent row.command
          else .conflict row.command.envelope.id)) := by
  rcases hh with ⟨outcome, rfl, hok⟩ | ⟨hfailed, heq⟩
  · rcases CommandStore.createCommand_ok hok with ⟨row, hfound, heq, rfl⟩ | ⟨_, hcreated, _⟩
    · obtain ⟨hrow, hkey⟩ := CommandStore.commandByKey_some hfound
      exact ⟨heq, .inr ⟨row, hrow, hkey, rfl⟩⟩
    · obtain ⟨row, hrow, hkey⟩ := htaken
      exact absurd hkey (CommandStore.commandByKey_none hcreated.unkeyed hrow)
  · exact ⟨heq, .inl hfailed⟩

theorem completes_loadFoundation {result : Except CommandServiceError (List DeviceRecord)}
    (h : (stored (invoke .loadFoundation)).run.Completes (commandHandler storeHost commandIdText) R
      store trace result store') :
    R store store' ∧ trace = [⟨store', .loadFoundation, store'⟩] ∧
      (result = .ok store'.devices.rows ∨ ∃ error, result = .error (.repository (.storage error))) := by
  obtain ⟨response, hinvoke, rfl⟩ := completes_calling h
  obtain ⟨store₁, hr, ⟨rfl, hread⟩, rfl⟩ := completes_invoke hinvoke
  refine ⟨hr, rfl, ?_⟩
  cases response with
  | ok devices => exact .inl (congrArg Except.ok (hread devices rfl))
  | error error => exact .inr ⟨error, rfl⟩

/-- What comes after a receipt: the stored command, a conflict, or the created one. -/
theorem completes_receipt {created : CommandM CommandAggregate}
    (h : (do
      match ← stored (invoke (.createCommand command requestHash audit)) with
      | .existingEquivalent existing => pure existing
      | .conflict existing => throw (.idempotencyConflict existing)
      | .created _ => created : CommandM CommandAggregate).run.Completes
        (commandHandler storeHost commandIdText) R store trace result store')
    (hactor : command.envelope.actorId = actorId) (hkey : command.envelope.idempotencyKey = key)
    (htaken : ∀ made ∈ trace, ∀ command requestHash audit,
      made.call = .createCommand command requestHash audit →
      ∃ row ∈ made.before.commands.rows, CommandStore.KeyedBy row actorId key) :
    (∀ made ∈ trace, QuietCall made) ∧ ∃ made ∈ trace,
      (∃ source, result = .error (.repository source)) ∨
      ∃ row ∈ made.before.commands.rows, CommandStore.KeyedBy row actorId key ∧
        result = if row.requestHash = requestHash then .ok row.command
          else .error (.idempotencyConflict row.command.envelope.id) := by
  rcases completes_bind h with ⟨error, rfl, hcreate⟩ | ⟨_, outcome, s₁, rest, rfl, hcreate, hthen⟩
  · obtain ⟨response, hinvoke, heq⟩ := completes_calling hcreate
    obtain ⟨s, _, hh, rfl⟩ := completes_invoke hinvoke
    have hrow := htaken _ mem_cons_self _ _ _ rfl
    rw [← hactor, ← hkey] at hrow
    obtain ⟨hsame, _⟩ := createCommand_taken hh hrow
    refine ⟨?_, _, mem_cons_self, .inl ?_⟩
    · intro made hmade
      rw [mem_singleton.mp hmade]
      exact ⟨hsame, .inr (.inr ⟨_, _, _, rfl⟩)⟩
    · cases response with
      | ok outcome => cases heq
      | error source =>
        cases heq
        exact ⟨_, rfl⟩
  · obtain ⟨response, hinvoke, heq⟩ := completes_calling hcreate
    obtain ⟨s, _, hh, rfl⟩ := completes_invoke hinvoke
    have hrow := htaken _ mem_cons_self _ _ _ rfl
    rw [← hactor, ← hkey] at hrow
    obtain ⟨hsame, hanswer⟩ := createCommand_taken hh hrow
    rcases hanswer with ⟨source, rfl⟩ | ⟨row, hin, hrowKey, rfl⟩
    · cases heq
    cases heq
    have hdone : rest = [] ∧ result = if row.requestHash = requestHash then .ok row.command
        else .error (.idempotencyConflict row.command.envelope.id) := by
      by_cases hhash : row.requestHash = requestHash
      · rw [if_pos hhash] at hthen ⊢
        cases hthen
        exact ⟨rfl, rfl⟩
      · rw [if_neg hhash] at hthen ⊢
        cases hthen
        exact ⟨rfl, rfl⟩
    obtain ⟨rfl, rfl⟩ := hdone
    refine ⟨?_, _, mem_cons_self, .inr ⟨row, hin, ?_, rfl⟩⟩
    · intro made hmade
      rw [append_nil, mem_singleton] at hmade
      rw [hmade]
      exact ⟨hsame, .inr (.inr ⟨_, _, _, rfl⟩)⟩
    · rw [← hactor, ← hkey]
      exact hrowKey

/-- With its key taken, an execution makes quiet calls only and answers from the stored command. -/
theorem execute_replayed (hkeyed : CommandStore.Keyed store)
    (h : (execute host actor request now).run.Completes (commandHandler storeHost commandIdText)
      (CommandStore.Reaches storeHost commandIdText) store trace result store')
    (htaken : KeyTaken actor request trace) :
    (∀ made ∈ trace, QuietCall made) ∧ Replayed host actor request trace result := by
  have hquiet : ∀ s, QuietCall ⟨s, .loadFoundation, s⟩ ∧ QuietCall ⟨s, .newId, s⟩ :=
    fun s => ⟨⟨rfl, .inl rfl⟩, ⟨rfl, .inr (.inl rfl)⟩⟩
  unfold execute at h
  rcases completes_bind h with ⟨error, rfl, hload⟩ | ⟨_, devices, s₁, rest, rfl, hload, hfind⟩
  · -- the devices could not be loaded
    obtain ⟨_, rfl, hresult⟩ := completes_loadFoundation hload
    refine ⟨?_, ?_⟩
    · intro made hmade
      rw [mem_singleton.mp hmade]
      exact (hquiet _).1
    · rcases hresult with hresult | ⟨source, hresult⟩
      · cases hresult
      · cases hresult
        exact .repository _
  obtain ⟨hr, rfl, hresult⟩ := completes_loadFoundation hload
  obtain rfl : devices = s₁.devices.rows := by
    rcases hresult with hresult | ⟨source, hresult⟩
    · exact Except.ok.inj hresult
    · cases hresult
  dsimp only at hfind
  split at hfind
  · -- an unregistered device is no device of a stored command
    rename_i hnone
    have hmissing : ∀ device ∈ s₁.devices.rows, device.snapshot.id ≠ request.deviceId := by
      intro device hdevice hid
      exact List.find?_eq_none.mp hnone device hdevice (beq_iff_eq.mpr hid)
    have hother : ∀ row ∈ s₁.commands.rows, row.command.envelope.deviceId ≠ request.deviceId := by
      intro row hrow hid
      obtain ⟨device, hdevice, hdeviceId⟩ := (hr.keyed hkeyed).registered row hrow
      exact hmissing device hdevice (hdeviceId.trans hid)
    cases hfind
    refine ⟨?_, .unknownDevice ⟨store', .loadFoundation, store'⟩ (by simp) hmissing hother⟩
    intro made hmade
    rw [append_nil, mem_singleton] at hmade
    exact hmade ▸ (hquiet _).1
  · rename_i device _
    rcases completes_bind hfind with ⟨error, rfl, hid⟩ | ⟨_, id, s₂, rest₁, rfl, hid, hsecond⟩
    · obtain ⟨id, heq, _⟩ := completes_freshId hid
      cases heq
    obtain ⟨_, _, _, rfl⟩ := completes_freshId hid
    rcases completes_bind hsecond with ⟨error, rfl, hid'⟩ |
      ⟨_, auditId, s₃, rest₂, rfl, hid', hreceipt⟩
    · obtain ⟨auditId, heq, _⟩ := completes_freshId hid'
      cases heq
    obtain ⟨_, _, _, rfl⟩ := completes_freshId hid'
    -- both ids are drawn; now the receipt meets the taken key
    have hreceived := completes_receipt hreceipt rfl rfl (fun made hmade => htaken made (by simp [hmade]))
    obtain ⟨hall, made, hmade, houtcome⟩ := hreceived
    refine ⟨?_, ?_⟩
    · intro other hother
      simp only [cons_append, nil_append, mem_cons] at hother
      rcases hother with rfl | rfl | rfl | hother
      · exact (hquiet _).1
      · exact (hquiet _).2
      · exact (hquiet _).2
      · exact hall other hother
    · rcases houtcome with ⟨source, rfl⟩ | ⟨row, hrow, hkey, hanswer⟩
      · exact .repository source
      · have hin : made ∈ [(⟨s₁, .loadFoundation, s₁⟩ : Program.Made CommandCall CommandStore)] ++
            ([⟨s₂, .newId, s₂⟩] ++ ([⟨s₃, .newId, s₃⟩] ++ rest₂)) := by simp [hmade]
        split at hanswer
        · rename_i hhash
          rw [hanswer]
          exact .equivalent made hin row hrow hkey hhash
        · rename_i hhash
          rw [hanswer]
          exact .conflict made hin row hrow hkey hhash

theorem keyTaken_of_stored (hrow : row ∈ store.commands.rows)
    (hkey : CommandStore.KeyedBy row actor.id request.idempotencyKey)
    (h : (execute host actor request now).run.Completes (commandHandler storeHost commandIdText)
      (CommandStore.Reaches storeHost commandIdText) store trace result store') :
    KeyTaken actor request trace := by
  intro made hmade _ _ _ _
  have hreaches : CommandStore.Reaches storeHost commandIdText store made.before := by
    generalize (execute host actor request now).run = p at h
    clear hrow
    induction h with
    | done => cases hmade
    | @call c next s s₁ s₂ s' r trace a hr hh h ih =>
      rcases mem_cons.mp hmade with rfl | hmade
      · exact hr
      · exact (hr.tail ⟨c, r, hh⟩).trans (ih hmade)
  obtain ⟨row', hrow', hkept⟩ := hreaches.persists row hrow
  refine ⟨row', hrow', ?_⟩
  unfold CommandStore.KeyedBy
  rw [hkept.envelope]
  exact hkey

end Executions

theorem reaches_of_interleaving
    {start reached : Processes CommandCall CommandCall.Response (CommandStore × List Sent) Unit}
    (hrun : Relation.ReflTransGen (Interleaves (commandRules host storeHost commandIdText)) start reached) :
    CommandStore.Reaches storeHost commandIdText start.state.1 reached.state.1 := by
  have hcall : ∀ c s r s', True → (commandRules host storeHost commandIdText).handler c s r s' →
      CommandStore.Reaches storeHost commandIdText s.1 s'.1 :=
    fun c _ r _ _ hh => .single ⟨c, r, hh.1⟩
  obtain ⟨_, hreaches⟩ := Interleaves.guarantee (fun _ => .refl) (fun _ _ _ hab hbc => hab.trans hbc)
    (fun p _ => p.calls_true) (fun p _ => p.calls_true) hcall
    ⟨fun p _ => p.calls_true, fun p _ => p.calls_true⟩ hrun
  exact hreaches

/-- In every interleaving of service calls a retry key of an actor has at most one
command. An execution that finds its key taken leaves the store as it is, sends,
publishes and reserves nothing, and answers with the stored command of an equal hash;
otherwise it fails with a conflict, or because its device is not registered, or because
the repository failed. Two runs of one automation attempt, cut off anywhere, create
commands of one key with one actor and one hash. -/
theorem commands_idempotent {host : CommandHost} {storeHost : StoreHost}
    {commandIdText : CommandId → String} {start : CommandStore}
    {reached : Processes CommandCall CommandCall.Response (CommandStore × List Sent) Unit}
    (hcommands : start.commands.rows = [])
    (hrun : Relation.ReflTransGen (Interleaves (commandRules host storeHost commandIdText))
      ⟨(start, []), none, []⟩ reached) :
    (∀ row ∈ reached.state.1.commands.rows, ∀ other ∈ reached.state.1.commands.rows,
      row.command.envelope.actorId = other.command.envelope.actorId →
      row.command.envelope.idempotencyKey = other.command.envelope.idempotencyKey → row = other) ∧
    (∀ actor request now trace result store',
      (execute host actor request now).run.Completes (commandHandler storeHost commandIdText)
        (CommandStore.Reaches storeHost commandIdText) reached.state.1 trace result store' →
      KeyTaken actor request trace →
      (∀ made ∈ trace, QuietCall made) ∧ Replayed host actor request trace result) ∧
    (∀ (runIdText : AutomationRunId → String) run nodeId node maximumRunDurationMs store store' trace trace',
      (dispatchAttemptCommands host runIdText run nodeId node maximumRunDurationMs).run.Performs
        (commandHandler storeHost commandIdText) (CommandStore.Reaches storeHost commandIdText)
        store trace →
      (dispatchAttemptCommands host runIdText run nodeId node maximumRunDurationMs).run.Performs
        (commandHandler storeHost commandIdText) (CommandStore.Reaches storeHost commandIdText)
        store' trace' →
      ∀ made ∈ trace, ∀ made' ∈ trace', ∀ command command' requestHash requestHash' audit audit',
        made.2 = .createCommand command requestHash audit →
        made'.2 = .createCommand command' requestHash' audit' →
        command.envelope.idempotencyKey = command'.envelope.idempotencyKey →
        command.envelope.actorId = command'.envelope.actorId ∧ requestHash = requestHash') := by
  have hstart : CommandStore.Keyed start := by
    refine ⟨?_, ?_⟩ <;> rw [hcommands] <;> exact fun row hrow => absurd hrow List.not_mem_nil
  have hkeyed := (reaches_of_interleaving hrun).keyed hstart
  refine ⟨hkeyed.once, ?_, ?_⟩
  · intro actor request now trace result store' h htaken
    exact execute_replayed hkeyed h htaken
  · intro runIdText run nodeId node maximumRunDurationMs store store' trace trace' h h' made hmade made'
      hmade' command command' requestHash requestHash' audit audit' hc hc' hkey
    exact reissued_equal h h' hmade hmade' hc hc' hkey

def lampAgain (request : CommandRequest) :
    Except CommandServiceError CommandAggregate × CommandStore :=
  (execute residentHost resident request 7).run.run
    (commandApply minuteStoreHost (fun id => toString id) 7) lampSends.1

theorem lampAgain_completes (request : CommandRequest) :
    ∃ trace, (execute residentHost resident request 7).run.Completes
      (commandHandler minuteStoreHost (fun id => toString id))
      (CommandStore.Reaches minuteStoreHost (fun id => toString id)) lampSends.1 trace
      (lampAgain request).1 (lampAgain request).2 :=
  Program.Completes.of_run (fun _ => .refl) (commandApply_handles _ _ 7) _ _

theorem lampKey_stored : ∃ row ∈ lampSends.1.commands.rows,
    CommandStore.KeyedBy row resident.id lampKey ∧ row.requestHash = "7:10" := by
  have hany : lampSends.1.commands.rows.any (fun row =>
      decide (row.command.envelope.actorId = resident.id ∧
        row.command.envelope.idempotencyKey = lampKey ∧ row.requestHash = "7:10")) = true := by
    decide +kernel
  obtain ⟨row, hrow, hmatch⟩ := List.any_eq_true.mp hany
  obtain ⟨hactor, hkey, hhash⟩ := of_decide_eq_true hmatch
  exact ⟨row, hrow, ⟨hactor, hkey⟩, hhash⟩

/-- The lamp request once more returns the stored command. -/
theorem commands_idempotent_lamp :
    (lampAgain lampOn).1.toOption.map (fun command => (command.envelope.id, command.state)) =
      some (0, .acknowledged) ∧
    ∃ trace, (∀ made ∈ trace, QuietCall made) ∧
      Replayed residentHost resident lampOn trace (lampAgain lampOn).1 := by
  refine ⟨by decide +kernel, ?_⟩
  obtain ⟨trace, h⟩ := lampAgain_completes lampOn
  obtain ⟨row, hrow, hkey, _⟩ := lampKey_stored
  obtain ⟨_, hreplayed, _⟩ := commands_idempotent rfl lampSends_reached
  exact ⟨trace, hreplayed resident lampOn 7 trace _ _ h (keyTaken_of_stored hrow hkey h)⟩

/-- The key of the lamp command with an unregistered device is refused for the device,
not as a conflict. -/
theorem unknown_device_before_conflict :
    ¬ ∀ (host : CommandHost) (storeHost : StoreHost) (commandIdText : CommandId → String)
      (start : CommandStore)
      (reached : Processes CommandCall CommandCall.Response (CommandStore × List Sent) Unit),
      start.commands.rows = [] →
      Relation.ReflTransGen (Interleaves (commandRules host storeHost commandIdText))
        ⟨(start, []), none, []⟩ reached →
      ∀ row ∈ reached.state.1.commands.rows, ∀ actor request now trace error store',
        CommandStore.KeyedBy row actor.id request.idempotencyKey →
        row.requestHash ≠ host.canonicalHash (canonicalRequest actor.id request) →
        (execute host actor request now).run.Completes (commandHandler storeHost commandIdText)
          (CommandStore.Reaches storeHost commandIdText) reached.state.1 trace (.error error) store' →
        (∀ source, error ≠ .repository source) → ∃ id, error = .idempotencyConflict id := by
  intro hclaim
  let request : CommandRequest := { lampOn with deviceId := 8 }
  obtain ⟨trace, h⟩ := lampAgain_completes request
  obtain ⟨row, hrow, hkey, hhash⟩ := lampKey_stored
  have hresult : (lampAgain request).1 = .error .deviceNotFound := by decide +kernel
  rw [hresult] at h
  have hdifferent : row.requestHash ≠
      residentHost.canonicalHash (canonicalRequest resident.id request) := by
    rw [hhash]
    decide
  obtain ⟨id, heq⟩ := hclaim _ _ _ lampCommands _ rfl lampSends_reached row hrow resident request 7 trace
    _ _ hkey hdifferent h (fun _ hsource => (nomatch hsource))
  cases heq

end HomeMagic
