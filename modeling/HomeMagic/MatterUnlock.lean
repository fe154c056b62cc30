import HomeMagic.MatterRegistration

/-! An unlock that reaches a Matter lock was approved for exactly that command, as long
as no projection is taken away from under an unlock that waits for its approval. -/
namespace HomeMagic
open List Table

structure UnlockConsumption where
  id : MatterUnlockAuthorizationId
  write : MatterDispatchWrite
  before : CommandStore
  after : CommandStore

/-- A command was validated, with the projection its target had at that moment; an
authorization was used; a command was sent. -/
inductive UnlockEvent
  | validated (envelope : CommandEnvelope) (projection : Option StoredMatterProjection)
  | consumed (consumption : UnlockConsumption)
  | sent (sent : Sent)

namespace UnlockEvent

def consumes (id : CommandId) : UnlockEvent → Bool
  | consumed consumption => consumption.write.command.envelope.id == id
  | _ => false

def validates (envelope : CommandEnvelope) : UnlockEvent → Bool
  | validated other (some _) => other == envelope
  | _ => false

end UnlockEvent

def unlockEvents : (c : CommandCall) → c.Response → CommandStore → CommandStore → List UnlockEvent
  | .transitionCommand command _ _, .ok (), store, _ =>
    if command.state = .validated then
      [.validated command.envelope (store.projectionForTarget command.envelope.deviceId
        command.envelope.endpointId command.envelope.payload.schema)]
    else []
  | .authorizeAndRecordUnlockDispatch id write, .ok .consumed, store, store' =>
    [.consumed ⟨id, write, store, store'⟩]
  | .dispatch envelope, _, store, _ => [.sent ⟨envelope, store⟩]
  | _, _, _, _ => []

def sentOf (log : List UnlockEvent) : List Sent :=
  log.filterMap (fun event => match event with
    | .sent sent => some sent
    | _ => none)

def consumedOf (log : List UnlockEvent) : List CommandId :=
  log.filterMap (fun event => match event with
    | .consumed consumption => some consumption.write.command.envelope.id
    | _ => none)

theorem sentOf_append (log log' : List UnlockEvent) : sentOf (log ++ log') = sentOf log ++ sentOf log' :=
  filterMap_append

theorem consumedOf_append (log log' : List UnlockEvent) :
    consumedOf (log ++ log') = consumedOf log ++ consumedOf log' :=
  filterMap_append

theorem mem_sentOf {log : List UnlockEvent} {sent : Sent} :
    sent ∈ sentOf log ↔ .sent sent ∈ log := by
  unfold sentOf
  rw [mem_filterMap]
  constructor
  · rintro ⟨event, hevent, hsome⟩
    cases event with
    | sent other =>
      cases hsome
      exact hevent
    | validated | consumed => cases hsome
  · exact fun h => ⟨_, h, rfl⟩

theorem countP_consumes (log : List UnlockEvent) (id : CommandId) :
    log.countP (UnlockEvent.consumes id) = (consumedOf log).count id := by
  induction log with
  | nil => rfl
  | cons event log ih =>
    have hsplit : consumedOf (event :: log) = consumedOf [event] ++ consumedOf log :=
      consumedOf_append [event] log
    rw [hsplit, count_append, countP_cons, ih]
    cases event with
    | validated | sent => simp [UnlockEvent.consumes, consumedOf]
    | consumed consumption =>
      have hone : consumedOf [.consumed consumption] = [consumption.write.command.envelope.id] := rfl
      rw [hone, count_singleton]
      exact add_comm _ _

/-- Everything that makes the use of an authorization the approval of a command: it was
given for this command, the projection of its target and the desired revision, it was
not used before and had not expired, the projection was fresh and its open slot was held
by the command, the approver was an enabled user with an exact unlock grant, and the same
transaction moved the command from validated to dispatched. -/
structure Approval (consumption : UnlockConsumption) (envelope : CommandEnvelope)
    (authorization : MatterUnlockAuthorization) (projection : StoredMatterProjection)
    (slot : MatterDesiredCommandSlot) (security : ActorSecurity) : Prop where
  written : consumption.write.command.envelope = envelope
  authorized : consumption.before.authorizations.find consumption.id = some authorization
  command : authorization.commandId = envelope.id
  unused : authorization.consumedAt = none
  unexpired : consumption.write.dispatchedAt < authorization.expiresAt
  projected : consumption.before.projections.find authorization.projectionId = some projection
  device : envelope.deviceId = projection.deviceId
  endpoint : envelope.endpointId = projection.endpointId
  fresh : projection.state.freshness = .fresh
  held : consumption.before.slots.find authorization.projectionId = some slot
  holder : slot.commandId = envelope.id
  open_ : slot.dispatchedAt = none
  revision : slot.desiredRevision = authorization.desiredRevision
  approver : consumption.before.actors.find authorization.approvingActorId = some security
  enabled : security.actor.enabled = true
  user : security.actor.kind = .user
  granted : ∃ grant ∈ security.grants, grant.enabled = true ∧
    grant.maximumRisk.permits .security = true ∧ .approveUnlock ∈ grant.actions ∧
    grant.scope = .capability envelope.deviceId envelope.endpointId "access_control.v1"
  used : consumption.after.authorizations.find consumption.id =
    some { authorization with consumedAt := some consumption.write.dispatchedAt }
  moved : ∃ current next audit, CommandStore.Moved consumption.before consumption.after current next
    audit ∧ next.command.envelope = envelope ∧ current.command.state = .validated ∧
      next.command.state = .dispatched

def UnlockConsumption.Approves (consumption : UnlockConsumption) (envelope : CommandEnvelope) : Prop :=
  ∃ authorization projection slot security,
    Approval consumption envelope authorization projection slot security

/-- Every unlock that was sent, of a command whose target had a projection when it was
validated, comes after the one use of an authorization that approves it. -/
def UnlocksApproved (log : List UnlockEvent) : Prop :=
  ∀ before sent after, log = before ++ .sent sent :: after →
    sent.envelope.payload = .accessControl .unlock →
    (∃ projection, .validated sent.envelope (some projection) ∈ log) →
    log.countP (UnlockEvent.consumes sent.envelope.id) = 1 ∧
      ∃ consumption, .consumed consumption ∈ before ∧ consumption.Approves sent.envelope

namespace CommandStore
variable {store store' : CommandStore}
variable {c : CommandCall} {r : c.Response} {P : CommandState → Prop} {gs : List CommandGhost}
  {row current next : StoredCommand} {audit : CommandAuditRecord} {command : CommandAggregate}
  {s : CommandStore × List UnlockEvent} {state : CommandState} {write : MatterDispatchWrite}

def Targets (store : CommandStore) (slot : MatterDesiredCommandSlot) : Prop :=
  ∃ projection row, store.projections.find slot.projectionId = some projection ∧
    row ∈ store.commands.rows ∧ row.command.envelope.id = slot.commandId ∧
    row.command.envelope.deviceId = projection.deviceId ∧
    row.command.envelope.endpointId = projection.endpointId

theorem Targets.kept {slot slot' : MatterDesiredCommandSlot} (h : Targets store slot)
    (hpersists : Persists store store') (hprojection : slot'.projectionId = slot.projectionId)
    (hcommand : slot'.commandId = slot.commandId)
    (hsame : ∀ projection, store.projections.find slot.projectionId = some projection →
      ∃ projection', store'.projections.find slot.projectionId = some projection' ∧
        projection'.deviceId = projection.deviceId ∧ projection'.endpointId = projection.endpointId) :
    Targets store' slot' := by
  obtain ⟨projection, row, hfound, hrow, hid, hdevice, hendpoint⟩ := h
  obtain ⟨row', hrow', hkept⟩ := hpersists row hrow
  obtain ⟨projection', hfound', hdevice', hendpoint'⟩ := hsame projection hfound
  refine ⟨projection', row', hprojection ▸ hfound', hrow', ?_, ?_, ?_⟩
  · rw [hkept.envelope, hid, hcommand]
  · rw [hkept.envelope, hdevice, hdevice']
  · rw [hkept.envelope, hendpoint, hendpoint']

theorem targets_matter (h : ∀ slot ∈ store.slots.rows, Targets store slot)
    (hpersists : Persists store store') (hwritten : MatterWritten store store') :
    ∀ slot ∈ store'.slots.rows, Targets store' slot := by
  intro slot hslot
  have hin : slot ∈ store.slots.rows := hwritten.slots.subset hslot
  refine (h slot hin).kept hpersists rfl rfl ?_
  intro projection hfound
  obtain ⟨projection', hfound'⟩ := Option.isSome_iff_exists.mp ((hwritten.removed slot hin).mp hslot)
  obtain ⟨hin', hid'⟩ := find_eq_some.mp hfound'
  obtain ⟨hstored, hid⟩ := find_eq_some.mp hfound
  refine ⟨projection', hfound', ?_⟩
  rcases hwritten.projections projection' hin' with hsame | ⟨other, hother, hmoved⟩ | ⟨habsent, _⟩
  · obtain rfl : projection' = projection := eq_of_key hsame hstored (hid'.trans hid.symm)
    exact ⟨rfl, rfl⟩
  · have hotherId : other.projectionId = slot.projectionId := by
      rw [← hid', hmoved.only]
    obtain rfl : other = projection := eq_of_key hother hstored (hotherId.trans hid.symm)
    rw [hmoved.only]
    exact ⟨rfl, rfl⟩
  · rw [hid', hfound] at habsent
    cases habsent

theorem sameIdentity_target {stored projection : StoredMatterProjection}
    (h : sameIdentity stored projection = true) :
    projection.deviceId = stored.deviceId ∧ projection.endpointId = stored.endpointId := by
  simp only [sameIdentity, Bool.and_eq_true, beq_iff_eq] at h
  exact ⟨h.1.2.symm, h.2.symm⟩

/-- Registering keeps every slot with the target of its command. -/
theorem targets_registered {write : MatterDesiredStateWrite}
    (h : ∀ slot ∈ store.slots.rows, Targets store slot) (hpersists : Persists store store')
    (hwritten : Registered store store' write) : ∀ slot ∈ store'.slots.rows, Targets store' slot := by
  obtain ⟨replaced, htaken, hstore⟩ := hwritten.taken
  obtain ⟨stored, hstores⟩ := hwritten.stores
  obtain ⟨projection, command, hholds⟩ := hwritten.holds
  have hfound : store.projections.find write.projection.projectionId = some stored := hstores.found
  have hprojections : ∀ k, store'.projections.find k =
      if write.projection.projectionId = k then some write.projection else store.projections.find k := by
    intro k
    rw [hstore, ← find_replace hfound, ← htaken.projections]
  obtain ⟨hdevice, hendpoint⟩ := sameIdentity_target hstores.same
  intro slot hslot
  have hfind : store'.slots.find slot.projectionId = some slot := find_eq_some.mpr ⟨hslot, rfl⟩
  rw [hstore] at hfind
  have hcases := htaken.find_slot slot.projectionId
  rw [show replaced.slots.find slot.projectionId = some slot from hfind] at hcases
  split at hcases
  · -- the new holder was checked against the projection
    rename_i hid
    obtain rfl : slot = write.slot := Option.some.inj hcases
    obtain ⟨row, hrow, hcommand⟩ := Option.map_eq_some_iff.mp hholds.foundCommand
    obtain ⟨hin, hrowId⟩ := find_eq_some.mp hrow
    obtain ⟨row', hrow', hkept⟩ := hpersists row hin
    have hsame : stored = projection := by
      have hfound' := hholds.foundProjection
      rw [← hwritten.target, hfound] at hfound'
      exact Option.some.inj hfound'
    refine ⟨write.projection, row', ?_, hrow', ?_, ?_, ?_⟩
    · rw [hprojections, if_pos hwritten.target]
    · rw [hkept.envelope, hrowId]
    · rw [hkept.envelope, hcommand, hholds.device, hdevice, hsame]
    · rw [hkept.envelope, hcommand, hholds.endpoint, hendpoint, hsame]
  · refine (h slot (find_eq_some.mp hcases.symm).1).kept hpersists rfl rfl ?_
    intro other hother
    rw [hprojections]
    split
    · rename_i hid
      rw [← hid, hfound] at hother
      obtain rfl : stored = other := Option.some.inj hother
      exact ⟨write.projection, rfl, hdevice, hendpoint⟩
    · exact ⟨other, hother, rfl, rfl⟩

theorem targets_effect (h : ∀ slot ∈ store.slots.rows, Targets store slot)
    (hpersists : Persists store store') (heffect : DesiredEffect store store') :
    ∀ slot ∈ store'.slots.rows, Targets store' slot := by
  cases heffect with
  | quiet hprojections hslots _ =>
    rw [hslots]
    intro slot hslot
    refine (h slot hslot).kept hpersists rfl rfl ?_
    rw [hprojections]
    exact fun projection hfound => ⟨projection, hfound, rfl, rfl⟩
  | matter hwritten => exact targets_matter h hpersists hwritten
  | registered write hwritten => exact targets_registered h hpersists hwritten
  | dispatched marked now hmarked =>
    intro slot hslot
    rw [hmarked.slots] at hslot
    let replaced : MatterDesiredCommandSlot := { marked with dispatchedAt := some now, updatedAt := now }
    have hfound : store.slots.find replaced.projectionId = some marked := hmarked.found
    have hsame : ∀ k projection, store.projections.find k = some projection →
        ∃ projection', store'.projections.find k = some projection' ∧
          projection'.deviceId = projection.deviceId ∧ projection'.endpointId = projection.endpointId := by
      rw [hmarked.projections]
      exact fun k projection hk => ⟨projection, hk, rfl, rfl⟩
    rcases (mem_replace hfound).mp hslot with rfl | ⟨hslot, _⟩
    · exact (h marked (find_eq_some.mp hmarked.found).1).kept hpersists rfl rfl (hsame _)
    · exact (h slot hslot).kept hpersists rfl rfl (hsame _)

theorem state_of_dispatched (h : state.allowsTransitionTo .dispatched = true) :
    state = .validated := by
  cases state <;> first | rfl | cases h

theorem state_of_validated (h : state.allowsTransitionTo .validated = true) :
    state = .received := by
  cases state <;> first | rfl | cases h

/-- The transaction checks everything that makes an approval. -/
theorem authorizeAndRecordUnlockDispatch_approves {id : MatterUnlockAuthorizationId}
    (htargets : ∀ slot ∈ store.slots.rows, Targets store slot)
    (h : store.authorizeAndRecordUnlockDispatch id write = .ok (.consumed, store')) :
    UnlockConsumption.Approves ⟨id, write, store, store'⟩ write.command.envelope := by
  obtain ⟨authorization, row, projection, hconsumes⟩ := authorizeAndRecordUnlockDispatch_consumed h
  obtain ⟨_, hdispatches⟩ := hconsumes.dispatches
  have hmoved := hdispatches.moved
  have hbound := hconsumes.bound
  simp only [consumptionBound, Bool.and_eq_true, beq_iff_eq] at hbound
  obtain ⟨⟨⟨⟨⟨⟨⟨⟨⟨⟨⟨⟨⟨hcommand, hprojectionId⟩, _⟩, _⟩, hschema⟩, _⟩, _⟩, _⟩, _⟩, hfresh⟩, _⟩,
    hslot⟩, _⟩, hgrant⟩ := hbound
  obtain ⟨slot, hslot, hholds⟩ := (Option.any_eq_true _ _).mp hslot
  obtain ⟨security, happrover, hgrant⟩ := (Option.any_eq_true _ _).mp hgrant
  simp only [Bool.and_eq_true, beq_iff_eq, Option.isNone_iff_eq_none] at hholds
  obtain ⟨⟨hopen, hholder⟩, hrevision⟩ := hholds
  simp only [Bool.and_eq_true, beq_iff_eq, List.any_eq_true] at hgrant
  obtain ⟨⟨henabled, huser⟩, grant, hin, ⟨⟨hgranted, hrisk⟩, haction⟩, hscope⟩ := hgrant
  -- the holder of the slot is the command, so the projection is that of its target
  obtain ⟨projection', held, hprojection', hheld, hid', hdevice, hendpoint⟩ :=
    htargets slot (find_eq_some.mp hslot).1
  have hrow := find_eq_some.mp hconsumes.foundCommand
  have hsame : held = row :=
    eq_of_key hheld hrow.1 (hid'.trans (hholder.trans hrow.2.symm))
  have hslotId : slot.projectionId = write.projectionId := (find_eq_some.mp hslot).2
  rw [hslotId, hconsumes.foundProjection] at hprojection'
  obtain rfl : projection = projection' := Option.some.inj hprojection'
  rw [hsame, ← show write.command.envelope = row.command.envelope from
    hmoved.move.envelope] at hdevice hendpoint
  refine ⟨authorization, projection, slot, security, rfl, hconsumes.foundAuthorization, hcommand, hconsumes.unused,
    hconsumes.unexpired, by rw [hprojectionId]; exact hconsumes.foundProjection, hdevice, hendpoint, hfresh,
    by rw [hprojectionId]; exact hslot, hholder, hopen, hrevision, happrover, henabled, huser,
    ⟨grant, hin, hgranted, hrisk, by simpa using haction, by rw [hscope, hschema]⟩, ?_,
    ⟨row, _, _, hmoved, rfl, ?_, hdispatches.state⟩⟩
  · show store'.authorizations.find id = _
    have hid : authorization.id = id := (find_eq_some.mp hconsumes.foundAuthorization).2
    let used : MatterUnlockAuthorization :=
      { authorization with consumedAt := some write.dispatchedAt }
    have hused : store.authorizations.find used.id = some authorization := hid.symm ▸ hconsumes.foundAuthorization
    rw [hconsumes.authorizations]
    show (store.authorizations.replace used).find id = _
    rw [find_replace hused, if_pos hid]
  · apply state_of_dispatched
    rw [← hdispatches.state]
    exact hmoved.move.allowed

inductive UnlockStep (g : CommandGhost) (store store' : CommandStore) : List UnlockEvent → Prop
  | quiet (h : Changes (fun state => state ≠ .validated ∧ state ≠ .dispatched) store store') :
      UnlockStep g store store' []
  | validated {current next : StoredCommand} {audit : CommandAuditRecord}
      (h : Moved store store' current next audit) (hstate : next.command.state = .validated)
      (hschema : next.command.envelope.capability.schema = next.command.envelope.payload.schema)
      (hprojections : store'.projections = store.projections) :
      UnlockStep g store store' [.validated next.command.envelope
        (store.projectionForTarget next.command.envelope.deviceId next.command.envelope.endpointId
          next.command.envelope.payload.schema)]
  | unapproved {current next : StoredCommand} {audit : CommandAuditRecord}
      (h : Moved store store' current next audit) (hstate : next.command.state = .dispatched)
      (hunlock : next.command.envelope.payload = .accessControl .unlock → g.uncontrolled = true ∨
        (next.command.envelope.id, current.command.version) ∈ g.cleared) :
      UnlockStep g store store' []
  | consumed {current next : StoredCommand} {audit : CommandAuditRecord}
      {consumption : UnlockConsumption} (h : Moved store store' current next audit)
      (hstate : next.command.state = .dispatched)
      (hid : consumption.write.command.envelope.id = next.command.envelope.id)
      (happroves : consumption.Approves next.command.envelope) :
      UnlockStep g store store' [.consumed consumption]
  | sent {envelope : CommandEnvelope} (h : store' = store) (hheld : envelope ∈ g.held) :
      UnlockStep g store store' [.sent ⟨envelope, store⟩]

section Handler
variable {host : StoreHost} {commandIdText : CommandId → String} {g : CommandGhost}

/-- What a call of the service does to an unlock. -/
theorem commandHandler_unlock (htargets : ∀ slot ∈ store.slots.rows, Targets store slot)
    (hallows : commandDiscipline.allows g c) (h : commandHandler host commandIdText c store r store') :
    UnlockStep g store store' (unlockEvents c r store store') := by
  have hchanges := commandHandler_changes h
  have hsame : store' = store → UnlockStep g store store' [] := by
    rintro rfl
    exact .quiet (.same rfl rfl)
  cases c with
  | now | newId | loadFoundation | foundationWrite | actorSecurity | storeActor | replaceActorGrants
  | createCommand | command | commandRequestHash | recoverableCommands | matterProjectionForTarget
  | matterDesiredSlot | matterWrite | createUnlockAuthorization | consumeUnlockAuthorization
  | tryAcquire | confirm | publish =>
    exact .quiet (hchanges.mono (fun _ hmoves => hmoves.elim))
  | replaceMatterDesiredSlot | replaceMatterDesiredState =>
    exact .quiet (hchanges.mono (fun state hmoves => by rw [hmoves]; decide))
  | dispatch envelope => exact .sent h hallows.1
  | transitionCommand command expectedVersion audit =>
    rcases stores_ok h with ⟨rfl, hok⟩ | ⟨⟨error, rfl⟩, heq⟩
    · obtain ⟨current, hversion, hmoved, hrest⟩ := transitionCommand_ok hok
      by_cases hvalidated : command.state = .validated
      · have hevents : unlockEvents (.transitionCommand command expectedVersion audit) (.ok ()) store
            store' = [.validated command.envelope (store.projectionForTarget command.envelope.deviceId
              command.envelope.endpointId command.envelope.payload.schema)] := if_pos hvalidated
        rw [hevents]
        exact .validated hmoved hvalidated (hallows.1 hvalidated) (by rw [hrest])
      · have hevents : unlockEvents (.transitionCommand command expectedVersion audit) (.ok ()) store
            store' = [] := if_neg hvalidated
        rw [hevents]
        by_cases hdispatched : command.state = .dispatched
        · refine .unapproved hmoved hdispatched ?_
          rw [hversion]
          exact (hallows.2 hdispatched).2
        · exact .quiet (.moved _ _ _ hmoved ⟨hvalidated, hdispatched⟩)
    · exact hsame heq
  | recordMatterDispatch write =>
    rcases stores_ok h with ⟨rfl, hok⟩ | ⟨⟨error, rfl⟩, heq⟩
    · obtain ⟨_, _, hdispatches, _⟩ := recordDispatch_cases hok
      exact .unapproved hdispatches.moved hdispatches.state (fun hunlock => absurd hunlock hallows)
    · exact hsame heq
  | authorizeAndRecordUnlockDispatch id write =>
    rcases h with ⟨outcome, rfl, hok⟩ | ⟨⟨error, rfl⟩, heq⟩
    · rcases authorizeAndRecordUnlockDispatch_cases hok with ⟨hother, heq⟩ | ⟨rfl, _, _, _, hconsumes⟩
      · cases outcome with
        | consumed => exact absurd rfl hother
        | notFound | alreadyConsumed | expired | bindingMismatch => exact hsame heq
      · obtain ⟨_, hdispatches⟩ := hconsumes.dispatches
        exact .consumed hdispatches.moved hdispatches.state rfl (authorizeAndRecordUnlockDispatch_approves htargets hok)
    · exact hsame heq

/-- What a call has seen of commands is stored. -/
theorem commandHandler_seen (h : commandHandler host commandIdText c store r store') :
    ∀ command ∈ (g.move c r).seen, command ∈ g.seen ∨
      ∃ row ∈ store'.commands.rows, row.command = command := by
  intro command hcommand
  cases c with
  | now | newId | loadFoundation | foundationWrite | actorSecurity | storeActor | replaceActorGrants
  | commandRequestHash | matterDesiredSlot | matterWrite
  | createUnlockAuthorization | consumeUnlockAuthorization | tryAcquire | confirm | publish
  | replaceMatterDesiredSlot | replaceMatterDesiredState | dispatch => exact .inl hcommand
  | matterProjectionForTarget => rcases r with _ | _ | projection <;> exact .inl hcommand
  | transitionCommand moved expectedVersion audit =>
    rcases stores_ok h with ⟨rfl, hok⟩ | ⟨⟨error, rfl⟩, _⟩
    · obtain ⟨current, _, hmoved, _⟩ := transitionCommand_ok hok
      have hseen : (g.move (.transitionCommand moved expectedVersion audit) (.ok ())).seen =
          moved :: g.seen := by
        rw [g.move_transition]
        split <;> rfl
      rw [hseen] at hcommand
      rcases mem_cons.mp hcommand with rfl | hcommand
      · refine .inr ⟨⟨command, current.requestHash⟩, ?_, rfl⟩
        rw [hmoved.commands]
        exact (mem_replace hmoved.found).mpr (.inl rfl)
      · exact .inl hcommand
    · exact .inl hcommand
  | recordMatterDispatch write =>
    left
    rcases stores_ok h with ⟨rfl, _⟩ | ⟨⟨error, rfl⟩, _⟩ <;> exact hcommand
  | authorizeAndRecordUnlockDispatch id write =>
    left
    rcases h with ⟨outcome, rfl, _⟩ | ⟨⟨error, rfl⟩, _⟩
    · cases outcome <;> exact hcommand
    · exact hcommand
  | command id =>
    rcases r with error | _ | found
    · exact .inl hcommand
    · exact .inl hcommand
    · obtain ⟨rfl, hread⟩ := h
      rcases mem_cons.mp hcommand with rfl | hseen
      · have hloaded := hread _ rfl
        obtain ⟨row, hfound, rfl⟩ := Option.map_eq_some_iff.mp hloaded.symm
        exact .inr ⟨row, (find_eq_some.mp hfound).1, rfl⟩
      · exact .inl hseen
  | recoverableCommands limit =>
    rcases r with error | commands
    · exact .inl hcommand
    · obtain ⟨rfl, hread⟩ := h
      rcases mem_append.mp hcommand with hnew | hseen
      · rw [hread _ rfl] at hnew
        obtain ⟨row, hrow, rfl⟩ := List.mem_map.mp hnew
        exact .inr ⟨row, (mem_of_mem_page hrow).1, rfl⟩
      · exact .inl hseen
  | createCommand created requestHash audit =>
    rcases h with ⟨outcome, rfl, hok⟩ | ⟨⟨error, rfl⟩, _⟩
    · rcases createCommand_ok hok with ⟨existing, _, _, rfl⟩ | ⟨rfl, hcreated, _⟩
      · left
        split at hcommand <;> exact hcommand
      · rcases mem_cons.mp hcommand with rfl | hseen
        · right
          refine ⟨⟨command, requestHash⟩, ?_, rfl⟩
          rw [hcreated.commands]
          exact mem_append_right _ (mem_singleton.mpr rfl)
        · exact .inl hseen
    · exact .inl hcommand

/-- A command is cleared by the look-up that finds no projection for it. -/
theorem commandHandler_cleared (h : commandHandler host commandIdText c store r store') :
    ∀ pair ∈ (g.move c r).cleared, pair ∈ g.cleared ∨ store' = store ∧ ∃ command ∈ g.seen,
      pair = (command.envelope.id, command.version) ∧
      store.projectionForTarget command.envelope.deviceId command.envelope.endpointId
        command.envelope.capability.schema = none := by
  intro pair hpair
  cases c with
  | now | newId | loadFoundation | foundationWrite | actorSecurity | storeActor | replaceActorGrants
  | commandRequestHash | matterDesiredSlot | matterWrite
  | createUnlockAuthorization | consumeUnlockAuthorization | tryAcquire | confirm | publish
  | replaceMatterDesiredSlot | replaceMatterDesiredState | dispatch => exact .inl hpair
  | transitionCommand moved expectedVersion audit =>
    left
    rcases stores_ok h with ⟨rfl, _⟩ | ⟨⟨error, rfl⟩, _⟩
    · rw [g.move_transition] at hpair
      split at hpair <;> exact hpair
    · exact hpair
  | recordMatterDispatch write =>
    left
    rcases stores_ok h with ⟨rfl, _⟩ | ⟨⟨error, rfl⟩, _⟩ <;> exact hpair
  | authorizeAndRecordUnlockDispatch id write =>
    left
    rcases h with ⟨outcome, rfl, _⟩ | ⟨⟨error, rfl⟩, _⟩
    · cases outcome <;> exact hpair
    · exact hpair
  | command id => rcases r with _ | _ | found <;> exact .inl hpair
  | recoverableCommands limit => rcases r with error | commands <;> exact .inl hpair
  | createCommand created requestHash audit =>
    rcases r with error | outcome
    · exact .inl hpair
    · cases outcome <;> exact .inl hpair
  | matterProjectionForTarget deviceId endpointId schema =>
    rcases r with error | _ | projection
    · exact .inl hpair
    · obtain ⟨rfl, hread⟩ := h
      rcases mem_append.mp hpair with hnew | hold
      · obtain ⟨command, hcommand, rfl⟩ := List.mem_map.mp hnew
        obtain ⟨hseen, htarget⟩ := List.mem_filter.mp hcommand
        simp only [Bool.and_eq_true, beq_iff_eq] at htarget
        obtain ⟨⟨hdevice, hendpoint⟩, hschema⟩ := htarget
        refine .inr ⟨rfl, command, hseen, rfl, ?_⟩
        rw [hdevice, hendpoint, hschema]
        exact (hread _ rfl).symm
      · exact .inl hold
    · exact .inl hpair

end Handler

theorem UnlockStep.changes {g : CommandGhost} {events : List UnlockEvent}
    (h : UnlockStep g store store' events) : Changes (fun _ => True) store store' := by
  cases h with
  | quiet h => exact h.mono (fun _ _ => trivial)
  | validated h | unapproved h | consumed h => exact .moved _ _ _ h trivial
  | sent h => exact .same (by rw [h]) (by rw [h])

theorem Changes.row_cases (h : Changes P store store') (hrow : row ∈ store'.commands.rows) :
    row ∈ store.commands.rows ∨ row.command.state = .received ∨
      ∃ current audit, Moved store store' current row audit := by
  cases h with
  | same hc _ => exact .inl (hc ▸ hrow)
  | created created audit h =>
    rw [h.commands, mem_append, mem_singleton] at hrow
    rcases hrow with hrow | rfl
    · exact .inl hrow
    · exact .inr (.inl h.receipt.state)
  | moved current next audit h _ =>
    rw [h.commands] at hrow
    rcases (mem_replace h.found).mp hrow with rfl | ⟨hrow, _⟩
    · exact .inr (.inr ⟨current, audit, h⟩)
    · exact .inl hrow

theorem Moved.version_lt (h : Moved store store' current next audit) :
    current.command.version < next.command.version := by
  have hbound := h.bounded
  have hversion := h.move.version
  unfold CommandAggregate.nextVersion at hversion
  omega

theorem Moved.ne_received (h : Moved store store' current next audit) : next.command.state ≠ .received := by
  intro hreceived
  have hallowed := h.move.allowed
  rw [hreceived] at hallowed
  cases hcurrent : current.command.state <;> rw [hcurrent] at hallowed <;> cases hallowed

theorem Changes.later (h : Changes P store store') (hrow : row ∈ store.commands.rows) : ∃ row' ∈ store'.commands.rows,
      row' = row ∨ ∃ audit, Moved store store' row row' audit := by
  cases h with
  | same hc _ => exact ⟨row, hc ▸ hrow, .inl rfl⟩
  | created created audit h => exact ⟨row, h.commands ▸ mem_append_left _ hrow, .inl rfl⟩
  | moved current next audit h _ =>
    obtain ⟨hcurrent, hid⟩ := find_eq_some.mp h.found
    rw [h.commands]
    by_cases hsame : row.command.envelope.id = next.command.envelope.id
    · obtain rfl : row = current := eq_of_key hrow hcurrent (hsame.trans hid.symm)
      exact ⟨next, (mem_replace h.found).mpr (.inl rfl), .inr ⟨audit, h⟩⟩
    · exact ⟨row, (mem_replace h.found).mpr (.inr ⟨hrow, hsame⟩), .inl rfl⟩

theorem Audited.not_dispatched (h : Audited store) (hrow : row ∈ store.commands.rows)
    (hstate : row.command.state = .received) :
    ∀ audit ∈ store.auditOf row.command.envelope.id, audit.toState ≠ .dispatched := by
  intro audit haudit hdispatched
  have hhistory := h.histories row hrow
  obtain ⟨last, hlast, hcurrent⟩ := Option.map_eq_some_iff.mp hhistory.current
  rw [hstate] at hcurrent
  rcases hhistory.last_latest hlast haudit with rfl | hbefore
  · rw [hcurrent] at hdispatched
    cases hdispatched
  · rw [hcurrent, hdispatched] at hbefore
    cases hbefore

theorem UnlockStep.of_validated {g : CommandGhost} {events : List UnlockEvent}
    (h : UnlockStep g store store' events) {envelope : CommandEnvelope}
    {projection : Option StoredMatterProjection} (hin : .validated envelope projection ∈ events) :
    ∃ current next audit, Moved store store' current next audit ∧
      next.command.envelope = envelope ∧ next.command.state = .validated ∧
      current ∈ store.commands.rows ∧ current.command.envelope = envelope ∧
      current.command.state = .received := by
  cases h with
  | quiet | unapproved => cases hin
  | consumed | sent => cases mem_singleton.mp hin
  | @validated current next audit h hstate _ _ =>
    cases mem_singleton.mp hin
    refine ⟨current, next, audit, h, rfl, hstate, (find_eq_some.mp h.found).1,
      h.move.envelope.symm, ?_⟩
    apply state_of_validated
    rw [← hstate]
    exact h.move.allowed

def Seen (store : CommandStore) (command : CommandAggregate) : Prop :=
  ∃ row ∈ store.commands.rows, row.command.envelope = command.envelope ∧
    command.version ≤ row.command.version

/-- As long as the command stays at this version, it is no unlock that waits for its
approval and had a projection when it was validated. -/
def Cleared (store : CommandStore) (log : List UnlockEvent) (pair : CommandId × ℕ) : Prop :=
  ∃ row ∈ store.commands.rows, row.command.envelope.id = pair.1 ∧ pair.2 ≤ row.command.version ∧
    (row.command.version = pair.2 → row.command.state = .validated →
      row.command.envelope.payload = .accessControl .unlock →
      ∀ projection, .validated row.command.envelope (some projection) ∉ log)

/-- No step takes the projection away from an unlock that waits for its approval. -/
def Spares (store store' : CommandStore) : Prop :=
  ∀ row ∈ store.commands.rows, row.command.state = .validated →
    row.command.envelope.payload = .accessControl .unlock →
    (store.projectionForTarget row.command.envelope.deviceId row.command.envelope.endpointId
      row.command.envelope.capability.schema).isSome →
    (store'.projectionForTarget row.command.envelope.deviceId row.command.envelope.endpointId
      row.command.envelope.capability.schema).isSome

instance (store store' : CommandStore) : Decidable (Spares store store') :=
  inferInstanceAs (Decidable (∀ row ∈ store.commands.rows, _ → _ → _ → _))

def Approved (store : CommandStore) (log : List UnlockEvent) : Prop :=
  ∀ row ∈ store.commands.rows, (∃ audit ∈ store.auditOf row.command.envelope.id,
      audit.toState = .dispatched) →
    row.command.envelope.payload = .accessControl .unlock →
    ∀ projection, .validated row.command.envelope (some projection) ∈ log →
    ∃ consumption, .consumed consumption ∈ log ∧ consumption.Approves row.command.envelope

structure Approving (store : CommandStore) (log : List UnlockEvent) : Prop where
  targets : ∀ slot ∈ store.slots.rows, Targets store slot
  validated : ∀ envelope projection, .validated envelope projection ∈ log →
    envelope.capability.schema = envelope.payload.schema ∧
    ∃ row ∈ store.commands.rows, row.command.envelope = envelope ∧ row.command.state ≠ .received
  waiting : ∀ row ∈ store.commands.rows, row.command.state = .validated →
    row.command.envelope.payload = .accessControl .unlock →
    ∀ projection, .validated row.command.envelope (some projection) ∈ log →
    (store.projectionForTarget row.command.envelope.deviceId row.command.envelope.endpointId
      row.command.envelope.capability.schema).isSome
  approved : Approved store log
  counted : (consumedOf log : Multiset CommandId) ≤ store.dispatches

section Step
variable {g : CommandGhost} {log events : List UnlockEvent}

theorem Seen.step (h : Seen store command) (hchanges : Changes P store store') : Seen store' command := by
  obtain ⟨row, hrow, henvelope, hversion⟩ := h
  obtain ⟨row', hrow', rfl | ⟨audit, hmoved⟩⟩ := hchanges.later hrow
  · exact ⟨row', hrow', henvelope, hversion⟩
  · exact ⟨row', hrow', hmoved.move.envelope.trans henvelope, hversion.trans hmoved.version_lt.le⟩

theorem Cleared.step {pair : CommandId × ℕ} (h : Cleared store log pair)
    (hstep : UnlockStep g store store' events) : Cleared store' (log ++ events) pair := by
  obtain ⟨row, hrow, hid, hversion, hclear⟩ := h
  obtain ⟨row', hrow', rfl | ⟨audit, hmoved⟩⟩ := hstep.changes.later hrow
  · refine ⟨row', hrow', hid, hversion, ?_⟩
    intro hsame hstate hunlock projection hin
    rcases mem_append.mp hin with hin | hin
    · exact hclear hsame hstate hunlock projection hin
    · -- the command of a new validation has just been received
      obtain ⟨current, _, _, _, _, _, hcurrent, henvelope, hreceived⟩ := hstep.of_validated hin
      obtain rfl : row' = current := eq_of_key hrow hcurrent (by rw [henvelope])
      rw [hreceived] at hstate
      cases hstate
  · have hlater := hmoved.version_lt
    refine ⟨row', hrow', hmoved.move.envelope ▸ hid, by omega, ?_⟩
    intro hsame
    omega

theorem Approving.cleared (h : Approving store log) (hseen : Seen store command)
    (hnone : store.projectionForTarget command.envelope.deviceId command.envelope.endpointId
      command.envelope.capability.schema = none) :
    Cleared store log (command.envelope.id, command.version) := by
  obtain ⟨row, hrow, henvelope, hversion⟩ := hseen
  refine ⟨row, hrow, by rw [henvelope], hversion, ?_⟩
  intro _ hstate hunlock projection hin
  have hwaiting := h.waiting row hrow hstate hunlock projection hin
  rw [henvelope, hnone] at hwaiting
  cases hwaiting

theorem Approving.step_validated (h : Approving store log) (hstep : UnlockStep g store store' events) :
    ∀ envelope projection, .validated envelope projection ∈ log ++ events →
      envelope.capability.schema = envelope.payload.schema ∧
      ∃ row ∈ store'.commands.rows, row.command.envelope = envelope ∧ row.command.state ≠ .received := by
  intro envelope projection hin
  rcases mem_append.mp hin with hin | hin
  · obtain ⟨hschema, row, hrow, henvelope, hstate⟩ := h.validated envelope projection hin
    obtain ⟨row', hrow', rfl | ⟨audit, hmoved⟩⟩ := hstep.changes.later hrow
    · exact ⟨hschema, row', hrow', henvelope, hstate⟩
    · exact ⟨hschema, row', hrow', hmoved.move.envelope.trans henvelope, hmoved.ne_received⟩
  · cases hstep with
    | quiet | unapproved => cases hin
    | consumed | sent => cases mem_singleton.mp hin
    | @validated current next audit hmoved hstate hschema _ =>
      cases mem_singleton.mp hin
      refine ⟨hschema, next, ?_, rfl, ?_⟩
      · rw [hmoved.commands]
        exact (mem_replace hmoved.found).mpr (.inl rfl)
      · rw [hstate]
        decide

theorem Approving.step_waiting (h : Approving store log) (hspares : Spares store store')
    (hstep : UnlockStep g store store' events) :
    ∀ row ∈ store'.commands.rows, row.command.state = .validated →
      row.command.envelope.payload = .accessControl .unlock →
      ∀ projection, .validated row.command.envelope (some projection) ∈ log ++ events →
      (store'.projectionForTarget row.command.envelope.deviceId row.command.envelope.endpointId
        row.command.envelope.capability.schema).isSome := by
  intro row hrow hstate hunlock projection hin
  rcases mem_append.mp hin with hin | hin
  · obtain ⟨_, old, hold, henvelope, hreceived⟩ := h.validated _ _ hin
    rcases hstep.changes.row_cases hrow with hsame | hnew | ⟨current, audit, hmoved⟩
    · exact hspares row hsame hstate hunlock (h.waiting row hsame hstate hunlock projection hin)
    · rw [hstate] at hnew
      cases hnew
    · -- what was validated before is not validated again
      have hcurrent := find_eq_some.mp hmoved.found
      obtain rfl : old = current := eq_of_key hold hcurrent.1 (by rw [henvelope, hcurrent.2])
      have hallowed := hmoved.move.allowed
      rw [hstate] at hallowed
      exact absurd (state_of_validated hallowed) hreceived
  · cases hstep with
    | quiet | unapproved => cases hin
    | consumed | sent => cases mem_singleton.mp hin
    | @validated current next audit hmoved _ hschema hprojections =>
      injection mem_singleton.mp hin with henvelope hprojection
      rw [henvelope, hschema]
      unfold projectionForTarget at hprojection ⊢
      rw [hprojections, ← hprojection]
      rfl

/-- A use of an authorization approves the command it dispatches. -/
theorem Approving.step_approved (h : Approving store log) (haudited : Audited store)
    (hcontrolled : g.uncontrolled = false) (hcleared : ∀ pair ∈ g.cleared, Cleared store log pair)
    (hstep : UnlockStep g store store' events) : Approved store' (log ++ events) := by
  intro row hrow ⟨audit, haudit, hdispatched⟩ hunlock projection hin
  -- the command was stored before, and a validation in the log is an old one if it was dispatched before
  have hbefore : ∀ old ∈ store.commands.rows, old.command.envelope = row.command.envelope →
      audit ∈ store.auditOf old.command.envelope.id →
      ∃ consumption, .consumed consumption ∈ log ++ events ∧ consumption.Approves row.command.envelope := by
    intro old hold henvelope haudit
    rcases mem_append.mp hin with hin | hin
    · obtain ⟨consumption, hconsumption, happroves⟩ := h.approved old hold ⟨audit, haudit, hdispatched⟩
        (henvelope ▸ hunlock) projection (henvelope ▸ hin)
      exact ⟨consumption, mem_append_left _ hconsumption, henvelope ▸ happroves⟩
    · obtain ⟨current, _, _, _, _, _, hcurrent, henvelope', hreceived⟩ := hstep.of_validated hin
      obtain rfl : old = current := eq_of_key hold hcurrent (by rw [henvelope, henvelope'])
      exact absurd hdispatched (haudited.not_dispatched hold hreceived audit haudit)
  have hmoves : ∀ {current next : StoredCommand} {added : CommandAuditRecord},
      Moved store store' current next added → (next.command.state = .dispatched → row = next →
        ∃ consumption, .consumed consumption ∈ log ++ events ∧
          consumption.Approves row.command.envelope) →
      ∃ consumption, .consumed consumption ∈ log ++ events ∧
        consumption.Approves row.command.envelope := by
    intro current next added hmoved hnew
    have hcurrent := find_eq_some.mp hmoved.found
    obtain ⟨hin', hid⟩ := mem_auditOf.mp haudit
    rw [hmoved.commands] at hrow
    rw [hmoved.audit, mem_append, mem_singleton] at hin'
    rcases (mem_replace hmoved.found).mp hrow with rfl | ⟨hrow, hother⟩
    · rcases hin' with hold | rfl
      · exact hbefore current hcurrent.1 hmoved.move.envelope.symm
          (mem_auditOf.mpr ⟨hold, hid.trans hcurrent.2.symm⟩)
      · exact hnew (hmoved.move.toState.symm.trans hdispatched) rfl
    · rcases hin' with hold | rfl
      · exact hbefore row hrow rfl (mem_auditOf.mpr ⟨hold, hid⟩)
      · exact absurd (hid.symm.trans hmoved.move.commandId) hother
  cases hstep with
  | sent hsame =>
    subst hsame
    exact hbefore row hrow rfl haudit
  | validated hmoved hstate =>
    refine hmoves hmoved (fun hnew _ => ?_)
    rw [hstate] at hnew
    cases hnew
  | consumed hmoved _ _ happroves =>
    exact hmoves hmoved (fun _ hsame => ⟨_, mem_append_right _ (mem_singleton.mpr rfl),
      hsame ▸ happroves⟩)
  | @unapproved current next _ hmoved hstate hclear =>
    refine hmoves hmoved (fun _ hsame => ?_)
    subst hsame
    rcases hclear hunlock with huncontrolled | hclear
    · rw [hcontrolled] at huncontrolled
      cases huncontrolled
    · -- the command still was as the program had seen it when it found no projection
      obtain ⟨old, hold, hid, _, hnone⟩ := hcleared _ hclear
      have hcurrent := find_eq_some.mp hmoved.found
      obtain rfl : old = current := eq_of_key hold hcurrent.1 (hid.trans hcurrent.2.symm)
      have hvalidated : old.command.state = .validated := by
        apply state_of_dispatched
        rw [← hstate]
        exact hmoved.move.allowed
      rw [append_nil, hmoved.move.envelope] at hin
      rw [hmoved.move.envelope] at hunlock
      exact absurd hin (hnone rfl hvalidated hunlock projection)
  | quiet hchanges =>
    cases hchanges with
    | same hc ha =>
      refine hbefore row (hc ▸ hrow) rfl ?_
      unfold auditOf at haudit ⊢
      rwa [ha] at haudit
    | moved current next added hmoved hother =>
      exact hmoves hmoved (fun hnew _ => absurd hnew hother.2)
    | created created added hcreated =>
      obtain ⟨hin', hid⟩ := mem_auditOf.mp haudit
      rw [hcreated.audit, mem_append, mem_singleton] at hin'
      rw [hcreated.commands, mem_append, mem_singleton] at hrow
      rcases hin' with hold | rfl
      · rcases hrow with hrow | rfl
        · exact hbefore row hrow rfl (mem_auditOf.mpr ⟨hold, hid⟩)
        · obtain ⟨owner, howner, hownerId⟩ := haudited.owned audit hold
          exact absurd (hownerId.trans hid) (find_eq_none.mp hcreated.absent owner howner)
      · rw [hcreated.receipt.toState] at hdispatched
        cases hdispatched

theorem Approving.step_counted (h : Approving store log) (hstep : UnlockStep g store store' events) :
    (consumedOf (log ++ events) : Multiset CommandId) ≤ store'.dispatches := by
  have hcounted := h.counted
  cases hstep with
  | quiet hchanges =>
    rw [append_nil, (hchanges.mono (fun _ hstate => hstate.2)).dispatches_eq]
    exact hcounted
  | validated hmoved hstate =>
    have hchanges : Changes (· ≠ .dispatched) store store' :=
      .moved _ _ _ hmoved (by rw [hstate]; decide)
    rw [consumedOf_append, hchanges.dispatches_eq]
    exact (append_nil (consumedOf log)).symm ▸ hcounted
  | unapproved hmoved hstate =>
    rw [append_nil, hmoved.dispatches_eq hstate]
    exact hcounted.trans (Multiset.le_cons_self _ _)
  | @consumed current next audit consumption hmoved hstate hid _ =>
    have hone : consumedOf [.consumed consumption] = [next.command.envelope.id] :=
      congrArg (fun id => [id]) hid
    rw [consumedOf_append, hone, hmoved.dispatches_eq hstate, ← Multiset.coe_add, Multiset.coe_singleton,
      add_comm, Multiset.singleton_add]
    exact Multiset.cons_le_cons _ hcounted
  | sent hsame =>
    rw [consumedOf_append, hsame]
    exact (append_nil (consumedOf log)).symm ▸ hcounted

theorem Approving.step (h : Approving store log) (haudited : Audited store)
    (hcontrolled : g.uncontrolled = false) (hcleared : ∀ pair ∈ g.cleared, Cleared store log pair)
    (htargets : ∀ slot ∈ store'.slots.rows, Targets store' slot) (hspares : Spares store store')
    (hstep : UnlockStep g store store' events) : Approving store' (log ++ events) :=
  ⟨htargets, h.step_validated hstep, h.step_waiting hspares hstep,
    h.step_approved haudited hcontrolled hcleared hstep, h.step_counted hstep⟩

end Step

def SentApproved (log : List UnlockEvent) : Prop :=
  ∀ before sent after, log = before ++ .sent sent :: after →
    sent.envelope.payload = .accessControl .unlock →
    (∃ projection, .validated sent.envelope (some projection) ∈ log) →
    ∃ consumption, .consumed consumption ∈ before ∧ consumption.Approves sent.envelope

structure Guarded (s : CommandStore × List UnlockEvent) (gs : List CommandGhost) : Prop where
  governed : Governed (s.1, sentOf s.2) gs
  approving : Approving s.1 s.2
  controlled : ∀ g ∈ gs, g.uncontrolled = false
  seen : ∀ g ∈ gs, ∀ command ∈ g.seen, Seen s.1 command
  cleared : ∀ g ∈ gs, ∀ pair ∈ g.cleared, Cleared s.1 s.2 pair
  sent : SentApproved s.2

def Starts (g : CommandGhost) : Prop :=
  g.Initial ∧ g.seen = [] ∧ g.cleared = [] ∧ g.uncontrolled = false

theorem Guarded.started {g : CommandGhost} (h : Guarded s gs) (hg : Starts g) : Guarded s (g :: gs) := by
  obtain ⟨hinitial, hseen, hcleared, hcontrolled⟩ := hg
  refine ⟨h.governed.started hinitial, h.approving, ?_, ?_, ?_, h.sent⟩
  · intro g' hg'
    rcases mem_cons.mp hg' with rfl | hg'
    · exact hcontrolled
    · exact h.controlled g' hg'
  · intro g' hg'
    rcases mem_cons.mp hg' with rfl | hg'
    · rw [hseen]
      exact fun _ hin => absurd hin not_mem_nil
    · exact h.seen g' hg'
  · intro g' hg'
    rcases mem_cons.mp hg' with rfl | hg'
    · rw [hcleared]
      exact fun _ hin => absurd hin not_mem_nil
    · exact h.cleared g' hg'

theorem Guarded.crashed (h : Guarded s gs) : Guarded s [] :=
  ⟨h.governed.crashed, h.approving, fun _ hg => absurd hg not_mem_nil,
    fun _ hg => absurd hg not_mem_nil, fun _ hg => absurd hg not_mem_nil, h.sent⟩

theorem sentOf_unlockEvents (c : CommandCall) (r : c.Response) (store store' : CommandStore) :
    sentOf (unlockEvents c r store store') = sends c r store store' := by
  cases c with
  | transitionCommand command expectedVersion audit =>
    rcases r with error | ⟨⟩
    · rfl
    · show sentOf (if command.state = .validated then _ else _) = []
      split <;> rfl
  | authorizeAndRecordUnlockDispatch id write =>
    rcases r with error | outcome
    · rfl
    · cases outcome <;> rfl
  | _ => rfl

section Interleaved
variable {storeHost : StoreHost} {commandIdText : CommandId → String}
  {log : List UnlockEvent} {before after : List CommandGhost} {g : CommandGhost}

/-- A sent unlock was dispatched by the call that sends it, and so approved. -/
theorem Guarded.step_sent {events : List UnlockEvent} (h : Guarded (store, log) gs) (hg : g ∈ gs)
    (hstep : UnlockStep g store store' events) :
    SentApproved (log ++ events) := by
  intro earlier sent later hlog hunlock ⟨projection, hvalidated⟩
  have haudited : Audited store := h.governed.audited
  by_cases hold : .sent sent ∈ log ∧ ∃ rest, log = earlier ++ .sent sent :: rest
  · obtain ⟨hin, rest, hsplit⟩ := hold
    refine h.sent earlier sent rest hsplit hunlock ⟨projection, ?_⟩
    rcases mem_append.mp hvalidated with hvalidated | hvalidated
    · exact hvalidated
    · -- what was sent has been dispatched, and is not validated afterwards
      obtain ⟨current, _, _, _, _, _, hcurrent, henvelope, hreceived⟩ := hstep.of_validated hvalidated
      have hcounted : sent.envelope.id ∈ store.dispatches := by
        apply Multiset.mem_of_le ((Multiset.le_add_right _ _).trans h.governed.counted)
        exact Multiset.mem_coe.mpr (List.mem_map_of_mem (f := fun sent : Sent => sent.envelope.id)
          (mem_sentOf.mpr hin))
      obtain ⟨audit, haudit, hid⟩ := List.mem_map.mp (Multiset.mem_coe.mp hcounted)
      obtain ⟨hrow, hstate⟩ := List.mem_filter.mp haudit
      have hof : audit ∈ store.auditOf current.command.envelope.id :=
        mem_auditOf.mpr ⟨hrow, hid.trans (by rw [henvelope])⟩
      exact absurd (beq_iff_eq.mp hstate) (haudited.not_dispatched hcurrent hreceived audit hof)
  · have hnew : .sent sent ∈ events ∧ earlier = log := by
      rcases append_eq_append_iff.mp hlog with ⟨rest, hearlier, hevents⟩ | ⟨rest, hlog, hevents⟩
      · have hin : .sent sent ∈ events := by
          rw [hevents]
          exact mem_append_right _ mem_cons_self
        refine ⟨hin, ?_⟩
        cases hstep with
        | quiet | unapproved => cases hin
        | consumed | validated => cases mem_singleton.mp hin
        | sent =>
          cases rest with
          | nil => rw [hearlier, append_nil]
          | cons first rest =>
            have hlength := congrArg List.length hevents
            simp at hlength
      · cases rest with
        | nil =>
          rw [nil_append] at hevents
          refine ⟨hevents ▸ mem_cons_self, ?_⟩
          rw [hlog, append_nil]
        | cons first rest =>
          injection hevents with hfirst _
          refine absurd ⟨?_, rest, ?_⟩ hold
          · rw [hlog, ← hfirst]
            exact mem_append_right _ mem_cons_self
          · rw [hlog, ← hfirst]
    obtain ⟨hin, rfl⟩ := hnew
    cases hstep with
    | quiet | unapproved => cases hin
    | consumed | validated => cases mem_singleton.mp hin
    | @sent envelope hsame hheld =>
      cases mem_singleton.mp hin
      obtain ⟨⟨row, hrow, henvelope⟩, hdispatched⟩ := h.governed.held g hg envelope hheld
      have hin : .validated envelope (some projection) ∈ earlier := by
        rcases mem_append.mp hvalidated with hvalidated | hvalidated
        · exact hvalidated
        · cases mem_singleton.mp hvalidated
      subst henvelope
      exact h.approving.approved row hrow hdispatched hunlock projection hin

theorem governed_unlock {c : CommandCall} {r : c.Response} (hallows : commandDiscipline.allows g c)
    (hh : commandHandler storeHost commandIdText c store r store')
    (h : Governed (store, sentOf log) (before ++ g :: after)) :
    Governed (store', sentOf (log ++ unlockEvents c r store store'))
      (before ++ commandDiscipline.move g c r :: after) := by
  have htracked : (commandHandler storeHost commandIdText).tracking sends c (store, sentOf log) r
      (store', sentOf (log ++ unlockEvents c r store store')) := by
    refine ⟨hh, ?_⟩
    show sentOf (log ++ _) = _
    rw [sentOf_append, sentOf_unlockEvents]
  exact h.call hallows htracked

theorem Guarded.call {c : CommandCall} {r : c.Response} (hallows : commandDiscipline.allows g c)
    (hh : commandHandler storeHost commandIdText c store r store') (hspares : Spares store store')
    (h : Guarded (store, log) (before ++ g :: after)) :
    Guarded (store', log ++ unlockEvents c r store store')
      (before ++ commandDiscipline.move g c r :: after) := by
  have hg : g ∈ before ++ g :: after := mem_append_right _ mem_cons_self
  have hstep := commandHandler_unlock h.approving.targets hallows hh
  have hslot : ∀ slot superseded, c ≠ .replaceMatterDesiredSlot slot superseded := by
    rintro slot superseded rfl
    exact hallows
  have htargets := targets_effect h.approving.targets (commandHandler_changes hh).persists
    (commandHandler_desired hslot hh)
  refine ⟨governed_unlock hallows hh h.governed, h.approving.step h.governed.audited (h.controlled g hg)
    (h.cleared g hg) htargets hspares hstep, ?_, ?_, ?_, h.step_sent hg hstep⟩
  · intro g' hg'
    rcases mem_moved hg' with rfl | hg'
    · exact (g.move_uncontrolled c r).trans (h.controlled g hg)
    · exact h.controlled g' hg'
  · intro g' hg' command hcommand
    rcases mem_moved hg' with rfl | hg'
    · rcases commandHandler_seen hh command hcommand with hold | ⟨row, hrow, rfl⟩
      · exact (h.seen g hg command hold).step hstep.changes
      · exact ⟨row, hrow, rfl, le_refl _⟩
    · exact (h.seen g' hg' command hcommand).step hstep.changes
  · intro g' hg' pair hpair
    rcases mem_moved hg' with rfl | hg'
    · rcases commandHandler_cleared hh pair hpair with hold | ⟨rfl, command, hseen, rfl, hnone⟩
      · exact (h.cleared g hg pair hold).step hstep
      · exact (h.approving.cleared (h.seen g hg command hseen) hnone).step hstep
    · exact (h.cleared g' hg' pair hpair).step hstep

end Interleaved

theorem guarded_start {start : CommandStore} (hcommands : start.commands.rows = [])
    (haudit : start.audit.rows = []) (hslots : start.slots.rows = []) : Guarded (start, []) [] := by
  refine ⟨governed_start hcommands haudit hslots, ⟨?_, ?_, ?_, ?_, Multiset.zero_le _⟩, ?_, ?_, ?_, ?_⟩
  · rw [hslots]
    exact fun slot hslot => absurd hslot not_mem_nil
  · exact fun _ _ hin => absurd hin not_mem_nil
  · exact fun _ _ _ _ _ hin => absurd hin not_mem_nil
  · exact fun _ _ _ _ _ hin => absurd hin not_mem_nil
  · exact fun g hg => absurd hg not_mem_nil
  · exact fun g hg => absurd hg not_mem_nil
  · exact fun g hg => absurd hg not_mem_nil
  · intro earlier sent later hlog
    have hlength := congrArg List.length hlog
    simp at hlength

end CommandStore

/-- The service under interleaving, with the log of validations, approvals and sends;
`permits` says which changes of the repository occur. -/
def unlockRules (host : CommandHost) (storeHost : StoreHost) (commandIdText : CommandId → String)
    (permits : CommandStore → CommandStore → Prop) :
    Rules CommandCall CommandCall.Response (CommandStore × List UnlockEvent) Unit where
  handler := Handler.tracking (fun c store r store' =>
    commandHandler storeHost commandIdText c store r store' ∧ permits store store') unlockEvents
  main := fun _ => False
  client := CommandRequested host
  mainAllowed := fun _ _ => True
  clientAllowed := fun _ _ => True

section Runs
variable {host : CommandHost} {storeHost : StoreHost} {commandIdText : CommandId → String} {start : CommandStore}
  {permits : CommandStore → CommandStore → Prop}
  {reached : Processes CommandCall CommandCall.Response (CommandStore × List UnlockEvent) Unit}

namespace CommandStore

theorem governed_of_unlocks (hcommands : start.commands.rows = []) (haudit : start.audit.rows = [])
    (hslots : start.slots.rows = [])
    (hrun : Relation.ReflTransGen (Interleaves (unlockRules host storeHost commandIdText permits))
      ⟨(start, []), none, []⟩ reached) :
    ∃ gs, Governed (reached.state.1, sentOf reached.state.2) gs := by
  let Inv := fun (s : CommandStore × List UnlockEvent) gs => Governed (s.1, sentOf s.2) gs
  have hclient : ∀ p, (unlockRules host storeHost commandIdText permits).client p →
      ∃ g : CommandGhost, g.Initial ∧ p.Obeys commandDiscipline (fun _ _ => True) g :=
    fun _ hp => CommandRequested.obeys hp
  have hcall : ∀ c s r s' before after g, commandDiscipline.allows g c →
      (unlockRules host storeHost commandIdText permits).handler c s r s' →
      Inv s (before ++ g :: after) → Inv s' (before ++ commandDiscipline.move g c r :: after) := by
    rintro c ⟨store, log⟩ r ⟨store', log'⟩ before after g hallows ⟨⟨hh, _⟩, hlog⟩ h
    obtain rfl : log' = log ++ unlockEvents c r store store' := hlog
    exact governed_unlock hallows hh h
  obtain ⟨_, gs, hgoverned, _⟩ := Interleaves.disciplined (fun _ hp => hp) hclient
    (fun _ _ _ _ hh => commandHandler_valid hh.1.1) (fun _ _ _ hg h => Governed.started h hg) hcall
    (fun _ _ h => Governed.crashed h) hrun (governed_start hcommands haudit hslots) rfl rfl
  exact ⟨gs, hgoverned⟩

theorem guarded_of_run (hcontrol : host.dispatchControl = true) (hpermits : ∀ s s', permits s s' → Spares s s')
    (hcommands : start.commands.rows = []) (haudit : start.audit.rows = []) (hslots : start.slots.rows = [])
    (hrun : Relation.ReflTransGen (Interleaves (unlockRules host storeHost commandIdText permits))
      ⟨(start, []), none, []⟩ reached) :
    ∃ gs, Guarded reached.state gs := by
  have hclient : ∀ p, (unlockRules host storeHost commandIdText permits).client p →
      ∃ g, Starts g ∧ p.Obeys commandDiscipline (fun _ _ => True) g := by
    intro p hp
    obtain ⟨now, hobeys⟩ := CommandRequested.obeys_initial hp
    refine ⟨_, ⟨⟨rfl, rfl⟩, rfl, rfl, ?_⟩, hobeys⟩
    show (!host.dispatchControl) = false
    rw [hcontrol]
    rfl
  have hcall : ∀ c s r s' before after g, commandDiscipline.allows g c →
      (unlockRules host storeHost commandIdText permits).handler c s r s' →
      Guarded s (before ++ g :: after) → Guarded s' (before ++ commandDiscipline.move g c r :: after) := by
    rintro c ⟨store, log⟩ r ⟨store', log'⟩ before after g hallows ⟨⟨hh, hpermitted⟩, hlog⟩ h
    obtain rfl : log' = log ++ unlockEvents c r store store' := hlog
    exact h.call hallows hh (hpermits _ _ hpermitted)
  obtain ⟨_, gs, hguarded, _⟩ := Interleaves.disciplined (fun _ hp => hp) hclient
    (fun _ _ _ _ hh => commandHandler_valid hh.1.1) (fun _ _ _ hg h => h.started hg) hcall
    (fun _ _ h => h.crashed) hrun (guarded_start hcommands haudit hslots) rfl rfl
  exact ⟨gs, hguarded⟩

end CommandStore

open CommandStore in
/-- With the dispatch control attached, however service calls, node removals and changes
of actors and grants interleave and crash: as long as no step takes the projection away
from an unlock that is validated and not yet dispatched, every unlock that reaches the
adapter for a target that had a projection when the command was validated was approved for
exactly this command, once and before it was sent. -/
theorem unlock_sent_approved {host : CommandHost} {storeHost : StoreHost}
    {commandIdText : CommandId → String} {start : CommandStore}
    {reached : Processes CommandCall CommandCall.Response (CommandStore × List UnlockEvent) Unit}
    (hcontrol : host.dispatchControl = true) (hcommands : start.commands.rows = [])
    (haudit : start.audit.rows = []) (hslots : start.slots.rows = [])
    (hrun : Relation.ReflTransGen (Interleaves (unlockRules host storeHost commandIdText Spares))
      ⟨(start, []), none, []⟩ reached) : UnlocksApproved reached.state.2 := by
  obtain ⟨gs, hguarded⟩ := guarded_of_run hcontrol (fun _ _ h => h) hcommands haudit hslots hrun
  intro before sent after hlog hunlock hvalidated
  obtain ⟨consumption, hconsumed, happroves⟩ := hguarded.sent before sent after hlog hunlock hvalidated
  refine ⟨?_, consumption, hconsumed, happroves⟩
  have hnodup : (consumedOf reached.state.2).Nodup :=
    Multiset.coe_nodup.mp (Multiset.nodup_of_le hguarded.approving.counted
      hguarded.governed.audited.nodup_dispatches)
  rw [countP_consumes]
  apply List.count_eq_one_of_mem hnodup
  apply List.mem_filterMap.mpr
  refine ⟨.consumed consumption, ?_, ?_⟩
  · rw [hlog]
    exact List.mem_append_left _ hconsumed
  · obtain ⟨_, _, _, _, happroval⟩ := happroves
    exact congrArg (fun envelope => some envelope.id) happroval.written

def awaitsApproval (host : CommandHost) (log : List UnlockEvent) (envelope : CommandEnvelope) : Bool :=
  host.dispatchControl && envelope.payload == .accessControl .unlock && log.any (UnlockEvent.validates envelope) &&
    log.countP (UnlockEvent.consumes envelope.id) == 0

open CommandStore in
/-- However service calls and the writes of other services interleave and crash, from a repository without commands
on: no command is sent twice, and each send is one of a stored physical command whose dispatch was recorded before and
that was never rejected or cancelled. When no step takes the projection away from an unlock that is validated and not
yet dispatched, none is sent that awaits its approval. -/
theorem command_sent_once (hcommands : start.commands.rows = []) (haudit : start.audit.rows = [])
    (hslots : start.slots.rows = [])
    (hrun : Relation.ReflTransGen (Interleaves (unlockRules host storeHost commandIdText permits))
      ⟨(start, []), none, []⟩ reached) :
    ((sentOf reached.state.2).map (fun sent => sent.envelope.id)).Nodup ∧
      (∀ sent ∈ sentOf reached.state.2, MaySend sent) ∧
      ((∀ s s', permits s s' → Spares s s') → ∀ before sent after,
        reached.state.2 = before ++ .sent sent :: after → awaitsApproval host before sent.envelope = false) := by
  obtain ⟨gs, hgoverned⟩ := governed_of_unlocks hcommands haudit hslots hrun
  refine ⟨hgoverned.sent_nodup, hgoverned.sent, ?_⟩
  intro hpermits before sent after hlog
  by_contra hawaits
  rw [Bool.not_eq_false] at hawaits
  simp only [awaitsApproval, Bool.and_eq_true, beq_iff_eq, List.any_eq_true] at hawaits
  obtain ⟨⟨⟨hcontrol, hunlock⟩, event, hevent, hvalidates⟩, hnone⟩ := hawaits
  obtain ⟨_, hguarded⟩ := guarded_of_run hcontrol hpermits hcommands haudit hslots hrun
  have hvalidated : ∃ projection, .validated sent.envelope (some projection) ∈ reached.state.2 := by
    unfold UnlockEvent.validates at hvalidates
    split at hvalidates
    next other projection =>
      refine ⟨projection, ?_⟩
      rw [hlog, ← beq_iff_eq.mp hvalidates]
      exact mem_append_left _ hevent
    · cases hvalidates
  obtain ⟨consumption, hconsumed, _, _, _, _, happroval⟩ := hguarded.sent before sent after hlog hunlock hvalidated
  rw [countP_eq_zero] at hnone
  apply hnone _ hconsumed
  show (consumption.write.command.envelope.id == sent.envelope.id) = true
  rw [happroval.written, beq_self_eq_true]

end Runs

def removedDevice (device : DeviceRecord) (now : Instant) : DeviceRecord :=
  { device with
    lifecycle := .removed
    availability := device.availability.transition .offline now (some "removed")
    snapshot := { device.snapshot with endpoints := [] }
    capabilityDescriptors := [] }

namespace CommandStore

def removeNode (store : CommandStore) (fabricId : MatterFabricId) (nodeId : MatterNodeId)
    (deviceId : DeviceId) (now : Instant) : CommandStore :=
  let projections := store.projections.filter (fun projection =>
    !(projection.fabricId == fabricId && projection.nodeId == nodeId))
  { store with
    devices := match store.devices.find deviceId with
      | some device => store.devices.replace (removedDevice device now)
      | none => store.devices
    projections := projections
    slots := store.slots.filter (fun slot => (projections.find slot.projectionId).isSome)
    authorizations := store.authorizations.filter (fun authorization =>
      (projections.find authorization.projectionId).isSome)
    supersessions := store.supersessions.filter (fun supersession =>
      (projections.find supersession.projectionId).isSome) }

theorem removeNode_written (store : CommandStore) (fabricId : MatterFabricId) (nodeId : MatterNodeId)
    (deviceId : DeviceId) (now : Instant) :
    MatterWritten store (store.removeNode fabricId nodeId deviceId now) := by
  refine ⟨rfl, ⟨rfl, ?_⟩, ?_, filter_sublist, ?_, filter_sublist, filter_sublist⟩
  · intro device hdevice
    show ∃ device' ∈ Table.rows (match store.devices.find deviceId with
      | some device => store.devices.replace (removedDevice device now)
      | none => store.devices), _
    cases hfound : store.devices.find deviceId with
    | none => exact ⟨device, hdevice, rfl, rfl⟩
    | some stored =>
      obtain ⟨hin, hid⟩ := find_eq_some.mp hfound
      have hreplaced : store.devices.find (removedDevice stored now).snapshot.id = some stored :=
        hid.symm ▸ hfound
      by_cases hsame : device.snapshot.id = stored.snapshot.id
      · obtain rfl : device = stored := eq_of_key hdevice hin hsame
        exact ⟨removedDevice device now, (mem_replace hreplaced).mpr (.inl rfl), rfl, rfl⟩
      · exact ⟨device, (mem_replace hreplaced).mpr (.inr ⟨hdevice, hsame⟩), rfl, rfl⟩
  · exact fun projection hin => .inl (Table.mem_filter.mp hin).1
  · intro slot hslot
    constructor
    · exact fun hin => (Table.mem_filter.mp hin).2
    · exact fun hkept => Table.mem_filter.mpr ⟨hslot, hkept⟩

end CommandStore

def unlockApply (now : Instant) : (c : CommandCall) → CommandStore × List UnlockEvent →
    c.Response × (CommandStore × List UnlockEvent) :=
  trackingApply (fun c store => match c with
    | .matterWrite => (.ok (), store.removeNode 3 4 8 now)
    | c => commandApply minuteStoreHost (fun id => toString id) now c store) unlockEvents

theorem unlockApply_handles (permits : CommandStore → CommandStore → Prop) (now : Instant)
    (c : CommandCall) (s : CommandStore × List UnlockEvent)
    (hpermits : permits s.1 (unlockApply now c s).2.1) :
    (unlockRules doorHost minuteStoreHost (fun id => toString id) permits).handler c s
      (unlockApply now c s).1 (unlockApply now c s).2 := by
  refine ⟨⟨?_, hpermits⟩, rfl⟩
  cases c with
  | matterWrite => exact .inr (CommandStore.removeNode_written _ _ _ _ _)
  | _ => exact commandApply_handles minuteStoreHost (fun id => toString id) now _ s.1

def unapprovedSend (log : List UnlockEvent) : Bool :=
  log.any (fun event => match event with
    | .sent sent => sent.envelope.payload == .accessControl .unlock &&
        log.any (fun other => match other with
          | .validated envelope (some _) => envelope == sent.envelope
          | _ => false) &&
        log.countP (UnlockEvent.consumes sent.envelope.id) == 0
    | _ => false)

theorem not_unlocksApproved {log : List UnlockEvent} (h : unapprovedSend log = true) :
    ¬UnlocksApproved log := by
  intro happroved
  obtain ⟨event, hin, hevent⟩ := List.any_eq_true.mp h
  cases event with
  | validated | consumed => cases hevent
  | sent sent =>
    simp only [Bool.and_eq_true, beq_iff_eq, List.any_eq_true] at hevent
    obtain ⟨⟨hunlock, other, hother, hvalidated⟩, hcount⟩ := hevent
    obtain ⟨before, after, hlog⟩ := append_of_mem hin
    have hprojection : ∃ projection, .validated sent.envelope (some projection) ∈ log := by
      cases other with
      | consumed | sent => cases hvalidated
      | validated envelope projection =>
        cases projection with
        | none => cases hvalidated
        | some projection =>
          obtain rfl : envelope = sent.envelope := beq_iff_eq.mp hvalidated
          exact ⟨projection, hother⟩
    have hone := (happroved before sent after hlog hunlock hprojection).1
    omega

def removeDoor : Program CommandCall CommandCall.Response Unit := asRequest (invoke .matterWrite)

def recoverDoor : Program CommandCall CommandCall.Response Unit :=
  asRequest (recoverCommands doorHost 20).run

def doorRemoved : CommandStore × List UnlockEvent :=
  (recoverDoor.run (unlockApply 20) (removeDoor.run (unlockApply 10)
    (unlockDoor.run (unlockApply 5) (doorCommands, [])).2).2).2

theorem doorRemoved_reached : Relation.ReflTransGen
    (Interleaves (unlockRules doorHost minuteStoreHost (fun id => toString id) (fun _ _ => True)))
    ⟨(doorCommands, []), none, []⟩ ⟨doorRemoved, none, [.done (), .done (), .done ()]⟩ := by
  have hclient : ∀ (now : Instant) (p : Program CommandCall CommandCall.Response Unit)
      (s : CommandStore × List UnlockEvent) (clients : List (Program CommandCall CommandCall.Response Unit)),
      CommandRequested doorHost p → Relation.ReflTransGen (Interleaves (unlockRules doorHost
        minuteStoreHost (fun id => toString id) (fun _ _ => True))) ⟨s, none, clients⟩
          ⟨(p.run (unlockApply now) s).2, none, .done () :: clients⟩ :=
    fun now p s clients hp => Interleaves.of_run_client
      (fun c s => unlockApply_handles (fun _ _ => True) now c s trivial) (fun _ _ => trivial) hp s none clients
  exact ((hclient 5 unlockDoor _ [] (.execute resident (doorRequest .unlock unlockKey) 5)).trans
    (hclient 10 removeDoor _ _ .matterWrite)).trans (hclient 20 recoverDoor _ _ (.recover 20))

/-- Nobody has approved the unlock that is sent then. -/
theorem removed_door_unlocks : Relation.ReflTransGen
      (Interleaves (unlockRules doorHost minuteStoreHost (fun id => toString id) (fun _ _ => True)))
      ⟨(doorCommands, []), none, []⟩ ⟨doorRemoved, none, [.done (), .done (), .done ()]⟩ ∧
    ¬UnlocksApproved doorRemoved.2 :=
  ⟨doorRemoved_reached, not_unlocksApproved (by decide +kernel)⟩

def sendsAwaiting (host : CommandHost) (before : List UnlockEvent) : List UnlockEvent → Bool
  | [] => false
  | .sent sent :: rest =>
    awaitsApproval host before sent.envelope || sendsAwaiting host (before ++ [.sent sent]) rest
  | event :: rest => sendsAwaiting host (before ++ [event]) rest

theorem sendsAwaiting_split {host : CommandHost} {before log : List UnlockEvent}
    (h : sendsAwaiting host before log = true) : ∃ earlier sent after,
      before ++ log = earlier ++ .sent sent :: after ∧ awaitsApproval host earlier sent.envelope = true := by
  induction log generalizing before with
  | nil => cases h
  | cons event rest ih =>
    have hrest : sendsAwaiting host (before ++ [event]) rest = true → ∃ earlier sent after,
        before ++ event :: rest = earlier ++ .sent sent :: after ∧
          awaitsApproval host earlier sent.envelope = true := by
      intro hrest
      rw [append_cons]
      exact ih hrest
    cases event with
    | sent sent =>
      rcases Bool.or_eq_true_iff.mp h with hsent | hlater
      · exact ⟨before, sent, rest, rfl, hsent⟩
      · exact hrest hlater
    | validated | consumed => exact hrest h

/-- The recovery sends the unlock that has waited for its approval. -/
theorem removed_door_sends : Relation.ReflTransGen
      (Interleaves (unlockRules doorHost minuteStoreHost (fun id => toString id) (fun _ _ => True)))
      ⟨(doorCommands, []), none, []⟩ ⟨doorRemoved, none, [.done (), .done (), .done ()]⟩ ∧
    ∃ before sent after, doorRemoved.2 = before ++ .sent sent :: after ∧
      awaitsApproval doorHost before sent.envelope = true := by
  have hsends : sendsAwaiting doorHost [] doorRemoved.2 = true := by decide +kernel
  have hsplit := sendsAwaiting_split hsends
  exact ⟨doorRemoved_reached, hsplit⟩

def lockedDoor : CommandStore :=
  { doorCommands with
    projections := ⟨[{ doorProjection with
      state := { initialMatterProjectedState 9 with
        reported := some ⟨.lock .locked, none, 1, 1, 1, rfl, le_refl _⟩
        freshness := .fresh } }], List.nodup_singleton _⟩ }

def approveDoor : Program CommandCall CommandCall.Response Unit :=
  asRequest (approveUnlock doorHost resident 0 6).run

def doorApproved : CommandStore × List UnlockEvent :=
  (approveDoor.run (unlockApply 6) (unlockDoor.run (unlockApply 5) (lockedDoor, [])).2).2

theorem doorApproved_reached : Relation.ReflTransGen
    (Interleaves (unlockRules doorHost minuteStoreHost (fun id => toString id) CommandStore.Spares))
    ⟨(lockedDoor, []), none, []⟩ ⟨doorApproved, none, [.done (), .done ()]⟩ := by
  have hclient : ∀ (now : Instant) (p : Program CommandCall CommandCall.Response Unit)
      (s : CommandStore × List UnlockEvent) (clients : List (Program CommandCall CommandCall.Response Unit)),
      CommandRequested doorHost p →
      p.Permitted (unlockApply now) (fun c s => CommandStore.Spares s.1 (unlockApply now c s).2.1) s →
      Relation.ReflTransGen (Interleaves (unlockRules doorHost minuteStoreHost (fun id => toString id)
        CommandStore.Spares)) ⟨s, none, clients⟩ ⟨(p.run (unlockApply now) s).2, none, .done () :: clients⟩ :=
    fun now p s clients hp hspares => Interleaves.of_handled_client
      (fun c s hs => ⟨trivial, unlockApply_handles CommandStore.Spares now c s hs⟩) hp s hspares none clients
  exact (hclient 5 unlockDoor (lockedDoor, []) []
    (.execute resident (doorRequest .unlock unlockKey) 5) (by decide +kernel)).trans
    (hclient 6 approveDoor _ _ (.approveUnlock resident 0 6) (by decide +kernel))

/-- It is sent, and the log shows its approval. -/
theorem unlock_sent_approved_door : (sentOf doorApproved.2).length = 1 ∧ UnlocksApproved doorApproved.2 :=
  ⟨by decide +kernel, unlock_sent_approved rfl rfl rfl rfl doorApproved_reached⟩

/-- The door's unlock is sent once, and when it is sent it has its approval. -/
theorem command_sent_once_door : (sentOf doorApproved.2).map (fun sent => (sent.envelope.id, sent.envelope.payload)) =
      [(0, .accessControl .unlock)] ∧
    ((sentOf doorApproved.2).map (fun sent => sent.envelope.id)).Nodup ∧
    (∀ sent ∈ sentOf doorApproved.2, MaySend sent) ∧ ∀ before sent after,
      doorApproved.2 = before ++ .sent sent :: after → awaitsApproval doorHost before sent.envelope = false := by
  have hcommands : lockedDoor.commands.rows = [] := rfl
  have honce := command_sent_once hcommands rfl rfl doorApproved_reached
  exact ⟨by decide +kernel, honce.1, honce.2.1, honce.2.2 (fun _ _ h => h)⟩

end HomeMagic
