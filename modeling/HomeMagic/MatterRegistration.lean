import HomeMagic.MatterDesired

/-! When `register_desired` makes a validated command the holder of its slot, with no
other writer next to it. -/
namespace HomeMagic
open List Option

variable {current : Option MatterDesiredCommandSlot} {slot : MatterDesiredCommandSlot}
  {superseded : Option MatterSupersededCommand} {prior : CommandAggregate} {id : CommandId} {row : StoredCommand}
  {write : MatterDesiredStateWrite}

def aloneApply (host : StoreHost) (commandIdText : CommandId → String) (now : Instant)
    (fresh : CommandStore → ℕ) : (c : CommandCall) → CommandStore → c.Response × CommandStore
  | .newId, store => (fresh store, store)
  | c, store => commandApply host commandIdText now c store

namespace CommandStore
variable {store : CommandStore}

theorem exists_insertAudit {audit : CommandAuditRecord} (hbound : audit.sequence < 2^63)
    (hsequence : ∀ row ∈ store.audit.rows, row.commandId = audit.commandId →
      row.sequence ≠ audit.sequence)
    (hid : store.audit.find audit.id = none) : ∃ store', store.insertAudit audit = .ok store' := by
  have hany : store.audit.rows.any (fun row =>
      row.commandId == audit.commandId && row.sequence == audit.sequence) = false := by
    simpa using hsequence
  unfold insertAudit
  rw [if_neg (not_le.mpr hbound), hany]
  simp only [Bool.false_eq_true, if_false]
  split
  · rename_i hsome
    rw [hid] at hsome
    cases hsome
  · exact ⟨_, rfl⟩

theorem exists_transitionCommand {current : StoredCommand} {next : CommandAggregate}
    {audit : CommandAuditRecord} (hfound : store.commands.find next.envelope.id = some current)
    (hvalid : validateTransition current.command next audit = .ok ())
    (hbound : next.version < 2^63) (haudit : audit.sequence = next.version)
    (hsequence : ∀ row ∈ store.audit.rows, row.commandId = audit.commandId →
      row.sequence ≠ audit.sequence)
    (hid : store.audit.find audit.id = none) :
    ∃ store', store.transitionCommand next current.command.version audit = .ok store' := by
  unfold transitionCommand
  simp only [hfound, ne_eq, not_true_eq_false, if_false, hvalid]
  rw [show ∀ (f : Unit → Except StorageError CommandStore), (Except.ok () >>= f) = f () from
    fun _ => rfl, if_neg (not_le.mpr hbound)]
  exact exists_insertAudit (haudit ▸ hbound) hsequence hid

theorem Audited.sequence_ne (h : Audited store) (hrow : row ∈ store.commands.rows) :
    ∀ audit ∈ store.audit.rows, audit.commandId = row.command.envelope.id →
      audit.sequence ≠ row.command.version + 1 := by
  intro audit haudit hid heq
  have hin : audit ∈ store.auditOf row.command.envelope.id := mem_auditOf.mpr ⟨haudit, hid⟩
  have hsequence := List.mem_map_of_mem (f := CommandAuditRecord.sequence) hin
  rw [(h.histories row hrow).sequences, mem_range] at hsequence
  omega

theorem Audited.version_le (h : Audited store) (hrow : row ∈ store.commands.rows)
    (hstate : row.command.state = .received ∨ row.command.state = .validated) :
    row.command.version ≤ 1 := by
  have hhistory := h.histories row hrow
  obtain ⟨last, hlast, hcurrent⟩ := map_eq_some_iff.mp hhistory.current
  obtain ⟨earlier, heq⟩ := List.getLast?_eq_some_iff.mp hlast
  have hpairwise := hhistory.pairwise
  have hlength := congrArg List.length hhistory.sequences
  rw [length_map, length_range, heq, length_append, length_singleton] at hlength
  rw [heq, pairwise_append] at hpairwise
  -- all that comes before one of these two states is the receipt, and only once
  have hreceived : ∀ audit ∈ earlier, audit.toState = .received := by
    intro audit haudit
    have hbefore := hpairwise.2.2 audit haudit last (mem_singleton.mpr rfl)
    rw [hcurrent] at hbefore
    rcases hstate with hstate | hstate <;> rw [hstate] at hbefore <;>
      cases hto : audit.toState <;> rw [hto] at hbefore <;> first | rfl | cases hbefore
  match earlier, hpairwise.1, hreceived, hlength with
  | [], _, _, hlength =>
    have hzero : 0 + 1 = row.command.version + 1 := hlength
    omega
  | [_], _, _, hlength =>
    have hone : 1 + 1 = row.command.version + 1 := hlength
    omega
  | first :: second :: _, hpairs, hreceived, _ =>
    have hbefore := (pairwise_cons.mp hpairs).1 second mem_cons_self
    rw [hreceived first mem_cons_self,
      hreceived second (mem_cons_of_mem _ mem_cons_self)] at hbefore
    cases hbefore

def supersededCommand (prior : CommandAggregate) (now : Instant) : CommandAggregate :=
  { prior with
    failure := some ⟨.supersededBeforeDispatch, none⟩
    state := .cancelled
    version := CommandAggregate.nextVersion prior.version
    updatedAt := now }

theorem validateTransition_superseded (now : Instant) (id : AuditId)
    (hstate : prior.state = .received ∨ prior.state = .validated) :
    validateTransition prior (supersededCommand prior now)
      (commandAudit id (supersededCommand prior now) (some prior.state)) = .ok () := by
  have hallowed : prior.state.allowsTransitionTo .cancelled = true := by
    rcases hstate with h | h <;> rw [h] <;> rfl
  simp [validateTransition, supersededCommand, commandAudit, hallowed, needsPolicy]

/-- A slot whose command waits for its dispatch can be closed. -/
theorem exists_closeSlot {row : StoredCommand} {current : MatterDesiredCommandSlot} {id : AuditId}
    (haudited : Audited store) (hcoordinated : Coordinated store)
    (hrow : store.commands.find current.commandId = some row)
    (hstate : row.command.state = .received ∨ row.command.state = .validated)
    (hopen : current.dispatchedAt = none) (hfresh : store.audit.find id = none)
    (slot : MatterDesiredCommandSlot) (now : Instant) :
    ∃ closed, store.closeSlot slot current (some ⟨supersededCommand row.command now,
      row.command.version, commandAudit id (supersededCommand row.command now)
        (some row.command.state)⟩) = .ok closed := by
  obtain ⟨hin, hid⟩ := Table.find_eq_some.mp hrow
  have hversion : CommandAggregate.nextVersion row.command.version = row.command.version + 1 := by
    have hle := haudited.version_le hin hstate
    unfold CommandAggregate.nextVersion
    omega
  have hnext : (supersededCommand row.command now).version < 2^63 := by
    have hle := haudited.version_le hin hstate
    show CommandAggregate.nextVersion row.command.version < 2^63
    omega
  have hfound : store.commands.find (supersededCommand row.command now).envelope.id = some row :=
    hid.symm ▸ hrow
  have hsequence : ∀ audit ∈ store.audit.rows, audit.commandId = row.command.envelope.id →
      audit.sequence ≠ CommandAggregate.nextVersion row.command.version := by
    rw [hversion]
    exact haudited.sequence_ne hin
  obtain ⟨moved, hmoved⟩ := @exists_transitionCommand store row _
    (commandAudit id (supersededCommand row.command now) (some row.command.state)) hfound
    (validateTransition_superseded now id hstate) hnext rfl hsequence hfresh
  -- a command that was superseded before would be cancelled
  have habsent : moved.supersessions.find current.commandId = none := by
    obtain ⟨_, _, _, hrest⟩ := transitionCommand_ok hmoved
    have hsame : moved.supersessions = store.supersessions := by rw [hrest]
    rw [hsame]
    apply Table.find_eq_none.mpr
    intro supersession hsupersession hold
    obtain ⟨other, hother, hotherId, hcancelled⟩ := hcoordinated.superseded supersession hsupersession
    have hrow' : other = row := Table.eq_of_key hother hin (hotherId.trans (hold.trans hid.symm))
    rw [hrow'] at hcancelled
    rw [hcancelled] at hstate
    rcases hstate with h | h <;> cases h
  unfold closeSlot supersede
  simp only [hopen, isNone_none, if_true]
  rw [if_neg (by simp [supersededCommand, hid]), hmoved]
  show ∃ closed, moved.insertSupersession _ = .ok closed
  unfold insertSupersession
  split
  · rename_i hsome
    have hnone : moved.supersessions.find current.commandId = _ := hsome
    rw [habsent] at hnone
    cases hnone
  · exact ⟨_, rfl⟩

theorem exists_replaceDesiredSlot {projection : StoredMatterProjection} {command : CommandAggregate}
    (hholds : MayHold store slot projection command)
    (hfree : store.slots.find slot.projectionId = none → superseded = none)
    (htaken : ∀ current, store.slots.find slot.projectionId = some current →
      current.desiredRevision < slot.desiredRevision ∧ current.commandId ≠ slot.commandId ∧
        ∃ closed, store.closeSlot slot current superseded = .ok closed) :
    ∃ store', store.replaceDesiredSlot slot superseded = .ok store' := by
  have hslot : ¬(slot.desiredRevision = 0 ∨ slot.dispatchedAt.isSome) := by
    have hpos := hholds.revision
    rw [hholds.open_]
    simp
    omega
  have htarget : ¬(command.envelope.deviceId ≠ projection.deviceId ∨
      command.envelope.endpointId ≠ projection.endpointId) := by
    simp [hholds.device, hholds.endpoint]
  have hpending : ¬(command.state ≠ .received ∧ command.state ≠ .validated) := by
    rintro ⟨hreceived, hvalidated⟩
    exact hholds.state.elim hreceived hvalidated
  have hbound : ¬2^63 ≤ slot.desiredRevision := not_le.mpr hholds.bounded
  unfold replaceDesiredSlot
  rw [if_neg hslot, hholds.foundProjection, hholds.foundCommand]
  simp only
  rw [if_neg htarget, if_neg hpending]
  split
  · rename_i hnone
    rw [hfree hnone]
    simp only [isSome_none, Bool.false_eq_true, if_false]
    rw [if_neg hbound]
    exact ⟨_, rfl⟩
  · rename_i current hcurrent
    obtain ⟨hrevision, hother, closed, hclosed⟩ := htaken current hcurrent
    unfold overwriteSlot
    rw [if_neg (not_le.mpr hrevision), if_neg hother, hclosed]
    show ∃ store', (if 2^63 ≤ slot.desiredRevision then _ else _) = Except.ok store'
    rw [if_neg hbound]
    exact ⟨_, rfl⟩

theorem exists_storeProjection {projection stored : StoredMatterProjection}
    (h : MayStore store projection (projection.revision - 1) stored) :
    ∃ store', store.storeProjection projection (projection.revision - 1) = .ok store' := by
  have hrevision : ¬(stored.revision ≠ projection.revision - 1 ∨
      projection.revision ≠ min (projection.revision - 1 + 1) (2^64 - 1)) := by
    have hnext := h.next
    have hbound := h.bounded
    omega
  unfold storeProjection
  rw [if_neg (by simp [h.identified]), h.found]
  simp only
  rw [if_neg hrevision, if_neg (by simp [h.same]), if_neg (not_le.mpr h.bounded)]
  exact ⟨_, rfl⟩

theorem exists_replaceMatterDesiredState {write : MatterDesiredStateWrite}
    {stored : StoredMatterProjection}
    (htarget : write.projection.projectionId = write.slot.projectionId)
    (hdesired : write.projection.state.desired.map MatterDesiredState.revision =
      some write.slot.desiredRevision)
    (hslot : ∃ replaced, store.replaceDesiredSlot write.slot write.superseded = .ok replaced)
    (hstores : MayStore store write.projection (write.projection.revision - 1) stored) :
    ∃ store', store.replaceMatterDesiredState write = .ok store' := by
  obtain ⟨replaced, hreplaced⟩ := hslot
  have hsame := (replaceDesiredSlot_cases hreplaced).2.projections
  have hmatch : ¬(write.projection.projectionId ≠ write.slot.projectionId ∨
      write.projection.state.desired.all (fun desired =>
        desired.revision != write.slot.desiredRevision)) := by
    obtain ⟨desired, hsome, hrevision⟩ := map_eq_some_iff.mp hdesired
    simp [htarget, hsome, hrevision]
  have hpos : ¬write.projection.revision = 0 := by
    have hnext := hstores.next
    omega
  unfold replaceMatterDesiredState
  rw [if_neg hmatch, hreplaced]
  show ∃ store', (if write.projection.revision = 0 then _ else _) = Except.ok store'
  rw [if_neg hpos]
  exact exists_storeProjection ⟨hstores.identified, hsame.symm ▸ hstores.found, hstores.expected,
    hstores.next, hstores.same, hstores.bounded⟩

/-- The slot of the projection can go to the command: it is free, the command's own or
dispatched, or its holder still waits for its dispatch; and no counter is exhausted. -/
def Replaceable (store : CommandStore) (projection : StoredMatterProjection)
    (command : CommandAggregate) : Prop :=
  match store.slots.find projection.projectionId with
  | none => projection.revision + 1 < 2^63
  | some slot => slot.commandId = command.envelope.id ∨
      projection.revision + 1 < 2^63 ∧ slot.desiredRevision + 1 < 2^63 ∧
        (slot.dispatchedAt = none → ∀ prior ∈ store.loadCommand slot.commandId,
          prior.state = .received ∨ prior.state = .validated)

instance Replaceable.decidable (store : CommandStore) (projection : StoredMatterProjection)
    (command : CommandAggregate) : Decidable (store.Replaceable projection command) := by
  unfold Replaceable
  cases store.slots.find projection.projectionId with
  | none => exact inferInstanceAs (Decidable (_ < _))
  | some slot => exact inferInstanceAs (Decidable (_ ∨ _))

end CommandStore

namespace MatterCommandDispatchControl
open Fallible

section Execute
variable {host : StoreHost} {commandIdText : CommandId → String} {clock now : Instant}
  {fresh : CommandStore → ℕ} {store : CommandStore} {command : CommandAggregate}
  {projection : StoredMatterProjection}

theorem execute_controlled {α : Type} (apply : (c : CommandCall) → CommandStore → c.Response × CommandStore)
    (p : Program CommandCall CommandCall.Response (Except StorageError α)) (store : CommandStore) :
    Fallible.execute apply (controlled p) store = match p.run apply store with
      | (.ok value, store') => (.ok value, store')
      | (.error error, store') => (.error (.storage error), store') := by
  unfold Fallible.execute controlled calling
  show (p.bind _).run apply store = _
  rw [Program.run_bind]
  cases hp : p.run apply store with
  | mk result store' => cases result <;> rfl

theorem execute_registerOnce (hreplaceable : isReplaceable command.envelope.payload = true)
    (hprojection : store.projectionForTarget command.envelope.deviceId command.envelope.endpointId
      command.envelope.capability.schema = some projection) :
    Fallible.execute (aloneApply host commandIdText clock fresh) (registerOnce command now) store =
      match (store.slots.find projection.projectionId).filter
          (fun slot => slot.commandId == command.envelope.id) with
      | some slot => (.ok (.managed projection.projectionId slot.desiredRevision none), store)
      | none => Fallible.execute (aloneApply host commandIdText clock fresh)
          (replaceDesired command now projection (store.slots.find projection.projectionId)) store := by
  have hfound : Fallible.execute (aloneApply host commandIdText clock fresh) (projectionFor command)
      store = (.ok (some projection), store) := by
    unfold projectionFor
    rw [if_pos hreplaceable, execute_controlled, ← hprojection]
    rfl
  have hslot : Fallible.execute (aloneApply host commandIdText clock fresh)
      (controlled (invoke (.matterDesiredSlot projection.projectionId))) store =
        (.ok (store.slots.find projection.projectionId), store) := by
    rw [execute_controlled]
    rfl
  unfold registerOnce
  rw [execute_bind_ok hfound]
  dsimp only
  rw [execute_bind_ok hslot]
  generalize (store.slots.find projection.projectionId).filter _ = held
  cases held <;> rfl

theorem allowsTransitionTo_cancelled {state : CommandState} :
    state.allowsTransitionTo .cancelled = true ↔ state = .received ∨ state = .validated := by
  cases state <;> decide

theorem execute_command :
    Fallible.execute (aloneApply host commandIdText clock fresh) (controlled (invoke (.command id))) store =
      (.ok (store.loadCommand id), store) := by
  rw [execute_controlled]
  rfl

theorem execute_supersededBy_open (hopen : slot.dispatchedAt = none)
    (hprior : store.loadCommand slot.commandId = some prior)
    (hstate : prior.state = .received ∨ prior.state = .validated) :
    Fallible.execute (aloneApply host commandIdText clock fresh) (supersededBy (some slot) now) store =
      (.ok (some ⟨CommandStore.supersededCommand prior now, prior.version,
        commandAudit (fresh store) (CommandStore.supersededCommand prior now) (some prior.state)⟩),
        store) := by
  unfold supersededBy
  simp only [hopen, isSome_none, Bool.false_eq_true, if_false]
  rw [execute_bind_ok execute_command, hprior]
  dsimp only
  unfold CommandAggregate.transition
  rw [if_pos (allowsTransitionTo_cancelled.mpr hstate)]
  rfl

theorem execute_supersededBy_ended (hopen : slot.dispatchedAt = none)
    (hprior : store.loadCommand slot.commandId = some prior)
    (hstate : ¬(prior.state = .received ∨ prior.state = .validated)) :
    Fallible.execute (aloneApply host commandIdText clock fresh) (supersededBy (some slot) now) store =
      (.error (.control .priorCommandNotCancellable), store) := by
  unfold supersededBy
  simp only [hopen, isSome_none, Bool.false_eq_true, if_false]
  rw [execute_bind_ok execute_command, hprior]
  dsimp only
  unfold CommandAggregate.transition
  rw [if_neg (fun h => hstate (allowsTransitionTo_cancelled.mp h))]
  rfl

theorem execute_supersededBy_none (h : ∀ slot, current = some slot → slot.dispatchedAt.isSome) :
    Fallible.execute (aloneApply host commandIdText clock fresh) (supersededBy current now) store =
      (.ok none, store) := by
  unfold supersededBy
  cases current with
  | none => rfl
  | some slot =>
    simp only [h slot rfl, if_true]
    rfl

def nextRevision (current : Option MatterDesiredCommandSlot) : ℕ :=
  current.elim 1 (fun slot => slot.desiredRevision + 1)

theorem desiredWrite_ok (h : desiredWrite command now projection current superseded = .ok write) :
    write.slot = ⟨projection.projectionId, nextRevision current, command.envelope.id, none, now⟩ ∧
      write.projection = { projection with
        state := write.projection.state, revision := projection.revision + 1, updatedAt := now } ∧
      write.projection.state.projectionId = projection.state.projectionId ∧
      write.projection.state.desired.map MatterDesiredState.revision = some (nextRevision current) ∧
      write.superseded = superseded := by
  unfold desiredWrite at h
  dsimp only at h
  split at h
  · cases h
  · split at h
    · cases h
    · split at h
      · cases h
      · rename_i state hstate
        split at h
        · cases h
        · cases h
          unfold advanceDesired at hstate
          obtain ⟨desired, hdesired, hadvance⟩ := CommandStore.bind_ok hstate
          obtain ⟨hid, hnew, _⟩ := advanceMatterDesiredState_ok hadvance
          have hrevision : desired.revision = nextRevision current := by
            unfold MatterDesiredState.new at hdesired
            split at hdesired
            · cases hdesired
            · split at hdesired
              · cases hdesired
              · cases hdesired
                rfl
          refine ⟨rfl, rfl, hid, ?_, rfl⟩
          show state.desired.map _ = _
          rw [hnew, map_some, hrevision]

theorem desiredValue_of_replaceable {payload : CommandPayload} (h : isReplaceable payload = true) :
    ∃ value, desiredValue payload = some value ∧ value.valid = true := by
  unfold isReplaceable at h
  split at h
  · exact ⟨_, rfl, rfl⟩
  · rename_i action
    cases action <;> exact ⟨_, rfl, rfl⟩
  · cases h

theorem exists_desiredWrite (now : Instant) (hreplaceable : isReplaceable command.envelope.payload = true)
    (haligned : projection.state.desired.map MatterDesiredState.revision =
      current.map MatterDesiredCommandSlot.desiredRevision) (hslot : nextRevision current < 2^63)
    (hrevision : projection.revision + 1 < 2^63) (superseded : Option MatterSupersededCommand) :
    ∃ write, desiredWrite command now projection current superseded = .ok write := by
  obtain ⟨value, hvalue, hvalid⟩ := desiredValue_of_replaceable hreplaceable
  have hpos : nextRevision current ≠ 0 := by
    cases current with
    | none => decide
    | some slot => exact Nat.succ_ne_zero _
  have hnew : MatterDesiredState.new (nextRevision current) value now =
      .ok ⟨nextRevision current, value, now, Nat.pos_of_ne_zero hpos, hvalid⟩ := by
    unfold MatterDesiredState.new
    rw [dif_neg hpos, dif_neg (by simp [hvalid])]
  have hadvance : ∃ state, advanceDesired projection.state (nextRevision current) value now =
      .ok state := by
    unfold advanceDesired
    rw [hnew]
    apply (exists_advanceMatterDesiredState_iff projection.state _).mpr
    intro confirmed hconfirmed
    obtain ⟨latest, hlatest, hle⟩ := projection.state.notAhead confirmed hconfirmed
    rw [hlatest, map_some] at haligned
    obtain ⟨slot, hcurrent, heq⟩ := map_eq_some_iff.mp haligned.symm
    show confirmed ≤ nextRevision current
    rw [hcurrent]
    show confirmed ≤ slot.desiredRevision + 1
    omega
  obtain ⟨state, hstate⟩ := hadvance
  unfold desiredWrite
  unfold nextRevision at hslot hstate
  rw [if_neg (by omega), hvalue]
  dsimp only
  rw [hstate]
  dsimp only
  rw [if_neg (by omega)]
  exact ⟨_, rfl⟩

structure Registrable (store : CommandStore) (command : CommandAggregate)
    (projection : StoredMatterProjection) : Prop where
  replaceable : isReplaceable command.envelope.payload = true
  stored : store.loadCommand command.envelope.id = some command
  validated : command.state = .validated
  target : store.projectionForTarget command.envelope.deviceId command.envelope.endpointId
    command.envelope.capability.schema = some projection

theorem Registrable.found (h : Registrable store command projection) :
    store.projections.find projection.projectionId = some projection ∧
      projection ∈ store.projections.rows ∧ projection.deviceId = command.envelope.deviceId ∧
      projection.endpointId = command.envelope.endpointId := by
  have htarget := h.target
  have hin := List.mem_of_find?_eq_some htarget
  have hmatch := List.find?_some htarget
  simp only [Bool.and_eq_true, beq_iff_eq] at hmatch
  exact ⟨Table.find_eq_some.mpr ⟨hin, rfl⟩, hin, hmatch.1.1, hmatch.1.2⟩

def Holds (store : CommandStore) (projection : StoredMatterProjection) (command : CommandAggregate)
    (revision : ℕ) : Prop :=
  ∃ slot, store.slots.find projection.projectionId = some slot ∧
    slot.commandId = command.envelope.id ∧ slot.desiredRevision = revision

/-- The writes of a registration that is not refused. -/
theorem exists_write {current : Option MatterDesiredCommandSlot}
    {superseded : Option MatterSupersededCommand} {write : MatterDesiredStateWrite}
    (hcoordinated : CommandStore.Coordinated store) (h : Registrable store command projection)
    (hcurrent : store.slots.find projection.projectionId = current)
    (hwrite : desiredWrite command now projection current none = .ok write)
    (hbound : nextRevision current < 2^63) (hrevision : projection.revision + 1 < 2^63)
    (hfree : current = none → superseded = none)
    (htaken : ∀ slot, current = some slot → slot.commandId ≠ command.envelope.id ∧
      ∃ closed, store.closeSlot write.slot slot superseded = .ok closed) :
    ∃ store', store.replaceMatterDesiredState { write with superseded := superseded } = .ok store' := by
  obtain ⟨hslot, hprojection, hid, hdesired, _⟩ := desiredWrite_ok hwrite
  obtain ⟨hfound, hin, hdevice, hendpoint⟩ := h.found
  have hpos : 0 < nextRevision current := by
    cases current with
    | none => decide
    | some slot => exact Nat.succ_pos _
  have hholds : CommandStore.MayHold store write.slot projection command := by
    rw [hslot]
    exact ⟨hpos, hbound, rfl, hfound, h.stored, hdevice.symm, hendpoint.symm, .inr h.validated⟩
  have hstores : CommandStore.MayStore store write.projection (write.projection.revision - 1)
      projection := by
    rw [hprojection]
    refine ⟨hid.trans (hcoordinated.identified projection hin), hfound, ?_, rfl, ?_, hrevision⟩
    · show projection.revision = projection.revision + 1 - 1
      omega
    · simp [CommandStore.sameIdentity]
  have hslotId : write.slot.projectionId = projection.projectionId := by rw [hslot]
  refine @CommandStore.exists_replaceMatterDesiredState store { write with superseded := superseded }
    projection ?_ ?_ ?_ hstores
  · show write.projection.projectionId = write.slot.projectionId
    rw [hprojection, hslot]
  · show write.projection.state.desired.map _ = some write.slot.desiredRevision
    rw [hdesired, hslot]
  · apply CommandStore.exists_replaceDesiredSlot hholds
    · intro hnone
      rw [hslotId, hcurrent] at hnone
      exact hfree hnone
    · intro slot hsome
      rw [hslotId, hcurrent] at hsome
      obtain ⟨hother, hclosed⟩ := htaken slot hsome
      refine ⟨?_, ?_, hclosed⟩
      · rw [hslot, hsome]
        exact Nat.lt_succ_self _
      · rw [hslot]
        exact hother

theorem execute_replaceMatterDesiredState (write : MatterDesiredStateWrite) :
    Fallible.execute (aloneApply host commandIdText clock fresh)
        (controlled (invoke (.replaceMatterDesiredState write))) store =
      match store.replaceMatterDesiredState write with
      | .ok store' => (.ok (), store')
      | .error error => (.error (.storage error), store) := by
  have hrun : (invoke (.replaceMatterDesiredState write)).run
      (aloneApply host commandIdText clock fresh) store =
        CommandStore.commit ((store.replaceMatterDesiredState write).map (fun s => ((), s))) store := rfl
  rw [execute_controlled, hrun]
  cases store.replaceMatterDesiredState write <;> rfl

theorem execute_replaceDesired (hwrite : desiredWrite command now projection current none = .ok write)
    (hsuperseded : Fallible.execute (aloneApply host commandIdText clock fresh)
      (supersededBy current now) store = (.ok superseded, store)) :
    Fallible.execute (aloneApply host commandIdText clock fresh)
        (replaceDesired command now projection current) store =
      match store.replaceMatterDesiredState { write with superseded := superseded } with
      | .ok store' => (.ok (.managed projection.projectionId write.slot.desiredRevision
          (superseded.map MatterSupersededCommand.audit)), store')
      | .error error => (.error (.storage error), store) := by
  unfold replaceDesired
  rw [hwrite]
  dsimp only
  rw [execute_bind_ok hsuperseded, execute_bind, execute_replaceMatterDesiredState]
  cases store.replaceMatterDesiredState { write with superseded := superseded } <;> rfl

theorem execute_supersededBy_replaceable (haudited : CommandStore.Audited store)
    (hcoordinated : CommandStore.Coordinated store)
    (hslots : ∀ slot ∈ store.slots.rows, CommandStore.Physical store slot.commandId)
    (hfresh : store.audit.find (fresh store) = none) (hin : slot ∈ store.slots.rows)
    (hprior : slot.dispatchedAt = none → ∀ prior, store.loadCommand slot.commandId = some prior →
      prior.state = .received ∨ prior.state = .validated) :
    ∃ superseded, Fallible.execute (aloneApply host commandIdText clock fresh)
        (supersededBy (some slot) now) store = (.ok superseded, store) ∧
      ∀ next, ∃ closed, store.closeSlot next slot superseded = .ok closed := by
  cases hopen : slot.dispatchedAt with
  | some dispatchedAt =>
    refine ⟨none, execute_supersededBy_none ?_, fun next => ⟨store, ?_⟩⟩
    · rintro _ ⟨⟩
      rw [hopen]
      rfl
    · simp [CommandStore.closeSlot, hopen]
  | none =>
    obtain ⟨row, hrow, hid, _⟩ := hslots slot hin
    have hfound : store.commands.find slot.commandId = some row := Table.find_eq_some.mpr ⟨hrow, hid⟩
    have hloaded : store.loadCommand slot.commandId = some row.command := by
      unfold CommandStore.loadCommand
      rw [hfound]
      rfl
    have hstate := hprior hopen row.command hloaded
    exact ⟨_, execute_supersededBy_open hopen hloaded hstate, fun next =>
      CommandStore.exists_closeSlot haudited hcoordinated hfound hstate hopen hfresh next now⟩

/-- A registration nobody disturbs succeeds where the slot can be taken. -/
theorem registerOnce_accepts (haudited : CommandStore.Audited store)
    (hcoordinated : CommandStore.Coordinated store)
    (hslots : ∀ slot ∈ store.slots.rows, CommandStore.Physical store slot.commandId)
    (hfresh : store.audit.find (fresh store) = none) (h : Registrable store command projection)
    (hreplaceable : store.Replaceable projection command) :
    ∃ revision audit store', Fallible.execute (aloneApply host commandIdText clock fresh)
        (registerOnce command now) store =
          (.ok (.managed projection.projectionId revision audit), store') ∧
      Holds store' projection command revision := by
  have hin := h.found.2.1
  have haligned := hcoordinated.aligned projection hin
  rw [execute_registerOnce h.replaceable h.target]
  unfold CommandStore.Replaceable at hreplaceable
  -- the rest is the same for a free slot and for one taken over
  have hwritten : ∀ {current superseded}, store.slots.find projection.projectionId = current →
      nextRevision current < 2^63 → projection.revision + 1 < 2^63 →
      Fallible.execute (aloneApply host commandIdText clock fresh) (supersededBy current now) store =
        (.ok superseded, store) → (current = none → superseded = none) →
      (∀ slot next, current = some slot → slot.commandId ≠ command.envelope.id ∧
        ∃ closed, store.closeSlot next slot superseded = .ok closed) →
      ∃ revision audit store', Fallible.execute (aloneApply host commandIdText clock fresh)
        (replaceDesired command now projection current) store =
          (.ok (.managed projection.projectionId revision audit), store') ∧
        Holds store' projection command revision := by
    intro current superseded hcurrent hbound hrevision hsuperseded hfree htaken
    obtain ⟨write, hwrite⟩ := exists_desiredWrite now h.replaceable (hcurrent ▸ haligned) hbound hrevision
      none
    obtain ⟨store', hstore⟩ := exists_write hcoordinated h hcurrent hwrite hbound hrevision hfree
      (fun slot hslot => htaken slot write.slot hslot)
    refine ⟨write.slot.desiredRevision, superseded.map MatterSupersededCommand.audit, store', ?_, ?_⟩
    · rw [execute_replaceDesired hwrite hsuperseded, hstore]
    · obtain ⟨replaced, hslot, heq⟩ := (CommandStore.replaceMatterDesiredState_cases hstore).taken
      obtain ⟨hslotEq, _⟩ := desiredWrite_ok hwrite
      refine ⟨write.slot, ?_, by rw [hslotEq], rfl⟩
      rw [heq]
      show replaced.slots.find projection.projectionId = some write.slot
      rw [hslot.find_slot, if_pos (by show write.slot.projectionId = _; rw [hslotEq])]
  cases hslot : store.slots.find projection.projectionId with
  | none =>
    rw [hslot] at hreplaceable
    exact hwritten hslot (by decide) hreplaceable (execute_supersededBy_none (fun _ hnone => nomatch hnone))
      (fun _ => rfl) (fun _ _ hnone => nomatch hnone)
  | some slot =>
    rw [hslot] at hreplaceable
    by_cases hmine : slot.commandId = command.envelope.id
    · refine ⟨slot.desiredRevision, none, store, ?_, slot, hslot, hmine, rfl⟩
      simp [Option.filter, hmine]
    · obtain ⟨hrevision, hbound, hprior⟩ := hreplaceable.resolve_left hmine
      obtain ⟨superseded, hsuperseded, hclosed⟩ := execute_supersededBy_replaceable haudited
        hcoordinated hslots hfresh (Table.find_eq_some.mp hslot).1 hprior
      have hother : (some slot).filter (fun slot => slot.commandId == command.envelope.id) = none := by
        simp [Option.filter, hmine]
      rw [hother]
      refine hwritten hslot hbound hrevision hsuperseded (fun hnone => nomatch hnone) ?_
      rintro _ next ⟨⟩
      exact ⟨hmine, hclosed next⟩

theorem replaceDesired_exhausted (hsuperseded : Fallible.execute (aloneApply host commandIdText clock fresh)
      (supersededBy current now) store = (.ok superseded, store))
    (hbound : ¬(projection.revision + 1 < 2^63 ∧ nextRevision current < 2^63)) :
    ∃ error, Fallible.execute (aloneApply host commandIdText clock fresh)
      (replaceDesired command now projection current) store = (.error error, store) := by
  cases hwrite : desiredWrite command now projection current none with
  | error error =>
    refine ⟨.control error, ?_⟩
    unfold replaceDesired
    rw [hwrite]
    rfl
  | ok write =>
    rw [execute_replaceDesired hwrite hsuperseded]
    cases hstore : store.replaceMatterDesiredState { write with superseded := superseded } with
    | error error => exact ⟨.storage error, rfl⟩
    | ok store' =>
      obtain ⟨hslot, hprojection, _⟩ := desiredWrite_ok hwrite
      have hregistered := CommandStore.replaceMatterDesiredState_cases hstore
      obtain ⟨_, _, hholds⟩ := hregistered.holds
      obtain ⟨_, hstores⟩ := hregistered.stores
      have hrevision : write.projection.revision < 2^63 := hstores.bounded
      have hdesired : write.slot.desiredRevision < 2^63 := hholds.bounded
      rw [hprojection] at hrevision
      rw [hslot] at hdesired
      exact absurd ⟨hrevision, hdesired⟩ hbound

/-- Where the slot cannot be taken, nothing is registered. -/
theorem registerOnce_refuses (haudited : CommandStore.Audited store)
    (hcoordinated : CommandStore.Coordinated store)
    (hslots : ∀ slot ∈ store.slots.rows, CommandStore.Physical store slot.commandId)
    (hfresh : store.audit.find (fresh store) = none) (h : Registrable store command projection)
    (hreplaceable : ¬store.Replaceable projection command) :
    ∃ error, Fallible.execute (aloneApply host commandIdText clock fresh) (registerOnce command now)
      store = (.error error, store) := by
  rw [execute_registerOnce h.replaceable h.target]
  unfold CommandStore.Replaceable at hreplaceable
  cases hslot : store.slots.find projection.projectionId with
  | none =>
    rw [hslot] at hreplaceable
    exact replaceDesired_exhausted (execute_supersededBy_none (fun _ hnone => nomatch hnone))
      (fun hbound => hreplaceable hbound.1)
  | some slot =>
    rw [hslot] at hreplaceable
    push Not at hreplaceable
    obtain ⟨hother, hrefused⟩ := hreplaceable
    have hfilter : (some slot).filter (fun slot => slot.commandId == command.envelope.id) = none := by
      simp [Option.filter, hother]
    rw [hfilter]
    by_cases hprior : slot.dispatchedAt = none → ∀ prior, store.loadCommand slot.commandId = some prior →
        prior.state = .received ∨ prior.state = .validated
    · obtain ⟨superseded, hsuperseded, _⟩ := execute_supersededBy_replaceable haudited hcoordinated
        hslots hfresh (Table.find_eq_some.mp hslot).1 hprior
      apply replaceDesired_exhausted hsuperseded
      rintro ⟨hrevision, hbound⟩
      obtain ⟨hopen, prior, hloaded, hreceived, hvalidated⟩ := hrefused hrevision hbound
      exact (hprior hopen prior hloaded).elim hreceived hvalidated
    · push Not at hprior
      obtain ⟨hopen, prior, hloaded, hreceived, hvalidated⟩ := hprior
      have hended : ¬(prior.state = .received ∨ prior.state = .validated) :=
        fun hstate => hstate.elim hreceived hvalidated
      unfold replaceDesired
      cases desiredWrite command now projection (some slot) none with
      | error error => exact ⟨.control error, rfl⟩
      | ok write =>
        dsimp only
        rw [execute_bind, execute_supersededBy_ended hopen hloaded hended]
        exact ⟨_, rfl⟩

theorem execute_registerDesired (attempts : ℕ) (last : BoxError) :
    Fallible.execute (aloneApply host commandIdText clock fresh)
        (registerDesired command now (attempts + 1) last) store =
      match Fallible.execute (aloneApply host commandIdText clock fresh) (registerOnce command now)
          store with
      | (.ok registration, store') => (.ok registration, store')
      | (.error error, store') => Fallible.execute (aloneApply host commandIdText clock fresh)
          (registerDesired command now attempts error) store' := by
  unfold Fallible.execute
  show ((registerOnce command now).run.bind _).run _ store = _
  rw [Program.run_bind]
  cases hrun : (registerOnce command now).run.run (aloneApply host commandIdText clock fresh) store with
  | mk result store' => cases result <;> rfl

theorem registerDesired_refuses {error : BoxError}
    (h : Fallible.execute (aloneApply host commandIdText clock fresh) (registerOnce command now)
      store = (.error error, store)) (attempts : ℕ) (last : BoxError) :
    ∃ error, Fallible.execute (aloneApply host commandIdText clock fresh)
      (registerDesired command now attempts last) store = (.error error, store) := by
  induction attempts generalizing last with
  | zero => exact ⟨last, rfl⟩
  | succ attempts ih =>
    rw [execute_registerDesired, h]
    exact ih error

end Execute

def Accepts (host : StoreHost) (commandIdText : CommandId → String) (clock : Instant)
    (fresh : CommandStore → ℕ) (store : CommandStore) (command : CommandAggregate)
    (projection : StoredMatterProjection) (now : Instant) : Prop :=
  ∃ revision audit store', Fallible.execute (aloneApply host commandIdText clock fresh)
      (registerDesired command now desiredRegistrationAttempts (.control .registrationFailed)) store =
        (.ok (.managed projection.projectionId revision audit), store') ∧
    Holds store' projection command revision

end MatterCommandDispatchControl

open MatterCommandDispatchControl in
/-- In every state that service calls and Matter workflows reach, however they
interleave and crash, a validated replaceable command becomes the holder of its slot
exactly when the slot is free, its own or dispatched, or its holder still waits for its
dispatch, and no revision counter is exhausted. -/
theorem desired_slot_accepts_iff {host : CommandHost} {storeHost : StoreHost}
    {commandIdText : CommandId → String} {start : CommandStore}
    {reached : Processes CommandCall CommandCall.Response (CommandStore × List Sent) Unit}
    (hcommands : start.commands.rows = []) (haudit : start.audit.rows = [])
    (hslots : start.slots.rows = []) (hsupersessions : start.supersessions.rows = [])
    (hprojections : ∀ projection ∈ start.projections.rows, projection.state.desired = none ∧
      projection.state.projectionId = projection.projectionId)
    (hrun : Relation.ReflTransGen (Interleaves (commandRules host storeHost commandIdText))
      ⟨(start, []), none, []⟩ reached)
    {fresh : CommandStore → ℕ} (hfresh : ∀ store : CommandStore, store.audit.find (fresh store) = none)
    {command : CommandAggregate} {projection : StoredMatterProjection}
    (h : Registrable reached.state.1 command projection) (clock now : Instant) :
    Accepts storeHost commandIdText clock fresh reached.state.1 command projection now ↔
      reached.state.1.Replaceable projection command := by
  obtain ⟨gs, hgoverned⟩ := CommandStore.governed_of_run hrun
    (CommandStore.governed_start hcommands haudit hslots) rfl rfl
  have hstart : CommandStore.Coordinated start := by
    refine ⟨fun projection hin => (hprojections projection hin).2, ?_, ?_, ?_⟩
    · intro projection hin
      have hnone : start.slots.find projection.projectionId = none := by
        apply Table.find_eq_none.mpr
        rw [hslots]
        exact fun slot hslot => absurd hslot List.not_mem_nil
      rw [(hprojections projection hin).1, hnone]
      rfl
    · rw [hslots]
      exact fun slot hslot => absurd hslot List.not_mem_nil
    · rw [hsupersessions]
      exact fun supersession hin => absurd hin List.not_mem_nil
  have hcoordinated := CommandStore.coordinated_of_run hrun hstart rfl rfl
  constructor
  · rintro ⟨revision, audit, store', haccepts, _⟩
    by_contra hreplaceable
    obtain ⟨error, herror⟩ := registerOnce_refuses hgoverned.audited hcoordinated hgoverned.slots
      (hfresh _) h hreplaceable
    obtain ⟨error, hrefused⟩ := registerDesired_refuses herror desiredRegistrationAttempts
      (.control .registrationFailed)
    rw [hrefused] at haccepts
    cases haccepts
  · intro hreplaceable
    obtain ⟨revision, audit, store', hregistered, hholds⟩ := registerOnce_accepts hgoverned.audited
      hcoordinated hgoverned.slots (hfresh _) h hreplaceable
    refine ⟨revision, audit, store', ?_, hholds⟩
    unfold desiredRegistrationAttempts
    rw [execute_registerDesired, hregistered]

def doorRecord : DeviceRecord where
  installationId := 1
  integrationId := 2
  snapshot := ⟨8, "node:4", "Front door", [⟨"matter:1", none, [.accessControl (some true)]⟩], 0⟩
  lifecycle := .enrolled
  availability := lampRecord.availability
  timestamps := lampRecord.timestamps
  aliases := []
  spaces := []
  capabilityDescriptors := [("matter:1", [⟨"access_control", 1, .security⟩])]

def doorProjection : StoredMatterProjection where
  installationId := 1
  fabricId := 3
  nodeId := 4
  endpointNumber := 1
  projectionId := 9
  deviceId := 8
  endpointId := "matter:1"
  capabilitySchema := "access_control.v1"
  state := initialMatterProjectedState 9
  revision := 1
  updatedAt := 0

def doorGrant : ActorGrant :=
  ⟨2, 1, [.execute, .approveUnlock], .capability 8 "matter:1" "access_control.v1", .security, true⟩

def doorCommands : CommandStore where
  devices := ⟨[doorRecord], List.nodup_singleton _⟩
  actors := ⟨[⟨resident, [doorGrant]⟩], List.nodup_singleton _⟩
  commands := .empty
  audit := .empty
  projections := ⟨[doorProjection], List.nodup_singleton _⟩
  slots := .empty
  authorizations := .empty
  supersessions := .empty

def doorHost : CommandHost := { residentHost with dispatchControl := true }

def doorRequest (action : AccessControlCommand) (key : IdempotencyKey) : CommandRequest :=
  ⟨8, "matter:1", .accessControl action, key, 100, none, false, .fresh 1, none, none⟩

def unlockKey : IdempotencyKey := ⟨"unlock", by decide, by decide, by decide⟩
def lockKey : IdempotencyKey := ⟨"lock", by decide, by decide, by decide⟩

def nextAuditId (store : CommandStore) : ℕ := (store.audit.rows.map CommandAuditRecord.id).sum + 1

theorem find_nextAuditId (store : CommandStore) : store.audit.find (nextAuditId store) = none := by
  apply Table.find_eq_none.mpr
  intro row hrow heq
  have hle : row.id ≤ (store.audit.rows.map CommandAuditRecord.id).sum :=
    single_le_sum (fun _ _ => Nat.zero_le _) _ (List.mem_map_of_mem hrow)
  rw [heq] at hle
  exact Nat.not_succ_le_self _ hle

def doorApply (now : Instant) : (c : CommandCall) → CommandStore × List Sent →
    c.Response × (CommandStore × List Sent) :=
  trackingApply (commandApply minuteStoreHost (fun id => toString id) now) sends

theorem doorApply_handles (now : Instant) (c : CommandCall) (s : CommandStore × List Sent) :
    (commandRules doorHost minuteStoreHost (fun id => toString id)).handler c s (doorApply now c s).1
      (doorApply now c s).2 :=
  trackingApply_handles (commandApply_handles _ _ now) sends c s

def unlockDoor : Program CommandCall CommandCall.Response Unit :=
  asRequest (execute doorHost resident (doorRequest .unlock unlockKey) 5).run

def lockDoor : Program CommandCall CommandCall.Response Unit :=
  asRequest (execute doorHost resident (doorRequest .lock lockKey) 7).run

def doorWaiting : CommandStore × List Sent :=
  (lockDoor.runFor (doorApply 7) 9 (unlockDoor.run (doorApply 5) (doorCommands, [])).2).2

theorem doorWaiting_reached : Relation.ReflTransGen
    (Interleaves (commandRules doorHost minuteStoreHost (fun id => toString id)))
    ⟨(doorCommands, []), none, []⟩ ⟨doorWaiting, none, [(lockDoor.runFor (doorApply 7) 9
      (unlockDoor.run (doorApply 5) (doorCommands, [])).2).1, .done ()]⟩ :=
  (Interleaves.of_run_client (doorApply_handles 5) (fun _ _ => trivial)
    (CommandRequested.execute resident (doorRequest .unlock unlockKey) 5) _ none []).trans
    (Interleaves.of_runFor_client (doorApply_handles 7) (fun _ _ => trivial)
      (CommandRequested.execute resident (doorRequest .lock lockKey) 7) 9 _ none [.done ()])

def CommandStore.registrableWith (store : CommandStore) (id : CommandId)
    (P : CommandAggregate → StoredMatterProjection → Bool) : Bool :=
  (store.loadCommand id).any (fun command =>
    command.envelope.id == id && command.state == .validated &&
    MatterCommandDispatchControl.isReplaceable command.envelope.payload &&
    (store.projectionForTarget command.envelope.deviceId command.envelope.endpointId
      command.envelope.capability.schema).any (P command))

theorem CommandStore.exists_registrable {store : CommandStore}
    {P : CommandAggregate → StoredMatterProjection → Bool} (h : store.registrableWith id P = true) :
    ∃ command projection, MatterCommandDispatchControl.Registrable store command projection ∧
      P command projection = true := by
  obtain ⟨command, hcommand, hmatch⟩ := (Option.any_eq_true _ _).mp h
  simp only [Bool.and_eq_true, beq_iff_eq] at hmatch
  obtain ⟨⟨⟨hid, hstate⟩, hreplaceable⟩, hprojection⟩ := hmatch
  obtain ⟨projection, htarget, hp⟩ := (Option.any_eq_true _ _).mp hprojection
  exact ⟨command, projection, ⟨hreplaceable, hid.symm ▸ hcommand, hstate, htarget⟩, hp⟩

/-- The validated lock takes the slot from the unlock that waits for its approval. -/
theorem desired_slot_accepts_waiting : ∃ command projection,
    command.envelope.payload = .accessControl .lock ∧
    MatterCommandDispatchControl.Registrable doorWaiting.1 command projection ∧
    MatterCommandDispatchControl.Accepts minuteStoreHost (fun id => toString id) 8 nextAuditId
      doorWaiting.1 command projection 8 := by
  have hread : doorWaiting.1.registrableWith 2 (fun command projection =>
      decide (command.envelope.payload = .accessControl .lock) &&
        decide (doorWaiting.1.Replaceable projection command)) = true := by decide +kernel
  obtain ⟨command, projection, hregistrable, hmatch⟩ := CommandStore.exists_registrable hread
  simp only [Bool.and_eq_true, decide_eq_true_eq] at hmatch
  refine ⟨command, projection, hmatch.1, hregistrable, ?_⟩
  refine (desired_slot_accepts_iff rfl rfl rfl rfl ?_ doorWaiting_reached find_nextAuditId hregistrable
    8 8).mpr hmatch.2
  intro projection hin
  obtain rfl := List.mem_singleton.mp hin
  exact ⟨rfl, rfl⟩

/-- However calls interleave and crash, a projection's slot carries the revision of its desired state, every slot
belongs to a projection, and a command that was superseded is cancelled. -/
theorem desired_slots_coordinated {host : CommandHost} {storeHost : StoreHost}
    {commandIdText : CommandId → String} {start : CommandStore}
    {reached : Processes CommandCall CommandCall.Response (CommandStore × List Sent) Unit}
    (hslots : start.slots.rows = []) (hsupersessions : start.supersessions.rows = [])
    (hprojections : ∀ projection ∈ start.projections.rows, projection.state.desired = none ∧
      projection.state.projectionId = projection.projectionId)
    (hrun : Relation.ReflTransGen (Interleaves (commandRules host storeHost commandIdText))
      ⟨(start, []), none, []⟩ reached) :
    (∀ projection ∈ reached.state.1.projections.rows,
      projection.state.desired.map MatterDesiredState.revision =
        (reached.state.1.slots.find projection.projectionId).map MatterDesiredCommandSlot.desiredRevision) ∧
    (∀ slot ∈ reached.state.1.slots.rows, ∃ projection ∈ reached.state.1.projections.rows,
      projection.projectionId = slot.projectionId) ∧
    ∀ supersession ∈ reached.state.1.supersessions.rows, ∃ row ∈ reached.state.1.commands.rows,
      row.command.envelope.id = supersession.oldCommandId ∧ row.command.state = .cancelled := by
  have hnone : ∀ id, start.slots.find id = none := by
    intro id
    apply Table.find_eq_none.mpr
    rw [hslots]
    exact fun slot hslot => absurd hslot List.not_mem_nil
  have hstart : CommandStore.Coordinated start := by
    refine ⟨fun projection hin => (hprojections projection hin).2, ?_, ?_, ?_⟩
    · intro projection hin
      rw [(hprojections projection hin).1, hnone]
      rfl
    · rw [hslots]
      exact fun slot hslot => absurd hslot List.not_mem_nil
    · rw [hsupersessions]
      exact fun supersession hin => absurd hin List.not_mem_nil
  have hcoordinated := CommandStore.coordinated_of_run hrun hstart rfl rfl
  refine ⟨hcoordinated.aligned, ?_, hcoordinated.superseded⟩
  intro slot hin
  obtain ⟨projection, hfind⟩ := Option.isSome_iff_exists.mp (hcoordinated.owned slot hin)
  exact ⟨projection, Table.find_eq_some.mp hfind⟩

def doorSuperseded : CommandStore × List Sent :=
  (lockDoor.run (doorApply 7) (unlockDoor.run (doorApply 5) (doorCommands, [])).2).2

/-- The lock has taken the slot over from the unlock that waited, which is cancelled. -/
theorem doorSuperseded_coordinated : (doorSuperseded.1.slots.rows.length = 1 ∧
      doorSuperseded.1.supersessions.rows.length = 1) ∧
    (∀ projection ∈ doorSuperseded.1.projections.rows,
      projection.state.desired.map MatterDesiredState.revision =
        (doorSuperseded.1.slots.find projection.projectionId).map MatterDesiredCommandSlot.desiredRevision) ∧
    (∀ slot ∈ doorSuperseded.1.slots.rows, ∃ projection ∈ doorSuperseded.1.projections.rows,
      projection.projectionId = slot.projectionId) ∧
    ∀ supersession ∈ doorSuperseded.1.supersessions.rows, ∃ row ∈ doorSuperseded.1.commands.rows,
      row.command.envelope.id = supersession.oldCommandId ∧ row.command.state = .cancelled := by
  have hreached : Relation.ReflTransGen
      (Interleaves (commandRules doorHost minuteStoreHost (fun id => toString id)))
      ⟨(doorCommands, []), none, []⟩ ⟨doorSuperseded, none, [.done (), .done ()]⟩ :=
    (Interleaves.of_run_client (doorApply_handles 5) (fun _ _ => trivial)
      (CommandRequested.execute resident (doorRequest .unlock unlockKey) 5) _ none []).trans
      (Interleaves.of_run_client (doorApply_handles 7) (fun _ _ => trivial)
        (CommandRequested.execute resident (doorRequest .lock lockKey) 7) _ none [.done ()])
  refine ⟨by decide +kernel, desired_slots_coordinated rfl rfl ?_ hreached⟩
  intro projection hin
  obtain rfl := List.mem_singleton.mp hin
  exact ⟨rfl, rfl⟩

def doorBlocked : CommandStore × List Sent :=
  (lockDoor.run (doorApply 7) ((asRequest (cancel 1 0 6).run).run (doorApply 6)
    (unlockDoor.run (doorApply 5) (doorCommands, [])).2).2).2

/-- The slot stays with the cancelled unlock, and every attempt to give it to the lock
fails. -/
theorem ended_holder_keeps_slot :
    Relation.ReflTransGen (Interleaves (commandRules doorHost minuteStoreHost (fun id => toString id)))
      ⟨(doorCommands, []), none, []⟩ ⟨doorBlocked, none, [.done (), .done (), .done ()]⟩ ∧
    doorBlocked.1.commands.rows.map (fun row => (row.command.envelope.id, row.command.state)) =
      [(0, .cancelled), (3, .validated)] ∧
    ∃ command projection, MatterCommandDispatchControl.Registrable doorBlocked.1 command projection ∧
      ¬MatterCommandDispatchControl.Accepts minuteStoreHost (fun id => toString id) 8 nextAuditId
        doorBlocked.1 command projection 8 := by
  refine ⟨?_, by decide +kernel, ?_⟩
  · exact ((Interleaves.of_run_client (doorApply_handles 5) (fun _ _ => trivial)
      (CommandRequested.execute resident (doorRequest .unlock unlockKey) 5) _ none []).trans
      (Interleaves.of_run_client (doorApply_handles 6) (fun _ _ => trivial)
        (CommandRequested.cancel 1 0 6) _ none [.done ()])).trans
      (Interleaves.of_run_client (doorApply_handles 7) (fun _ _ => trivial)
        (CommandRequested.execute resident (doorRequest .lock lockKey) 7) _ none [.done (), .done ()])
  · have hread : doorBlocked.1.registrableWith 3 (fun command _ =>
        (Fallible.execute (aloneApply minuteStoreHost (fun id => toString id) 8 nextAuditId)
          (MatterCommandDispatchControl.registerDesired command 8
            MatterCommandDispatchControl.desiredRegistrationAttempts (.control .registrationFailed))
          doorBlocked.1).1.toOption.isNone) = true := by
      decide +kernel
    obtain ⟨command, projection, hregistrable, hmatch⟩ := CommandStore.exists_registrable hread
    refine ⟨command, projection, hregistrable, ?_⟩
    rintro ⟨revision, audit, store', haccepts, _⟩
    rw [haccepts] at hmatch
    cases hmatch

end HomeMagic
