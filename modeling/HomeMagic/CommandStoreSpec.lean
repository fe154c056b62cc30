import HomeMagic.CommandPorts

/-! What the repository calls can do to the command and audit tables. -/
namespace HomeMagic
open Table

variable {slot current : MatterDesiredCommandSlot} {superseded : Option MatterSupersededCommand}
  {audit : CommandAuditRecord} {command : CommandAggregate} {write : MatterDispatchWrite} {c : CommandCall}
  {r : c.Response} {P : CommandState → Prop} {actor : Actor} {actorId : ActorId} {extra : CommandId → Prop}
  {grants : List ActorGrant} {id : MatterUnlockAuthorizationId} {outcome : MatterUnlockConsumption}
  {requestHash : CanonicalRequestHash}

structure ValidReceipt (command : CommandAggregate) (audit : CommandAuditRecord) : Prop where
  state : command.state = .received
  version : command.version = 0
  commandId : audit.commandId = command.envelope.id
  sequence : audit.sequence = 0
  fromState : audit.fromState = none
  toState : audit.toState = .received

theorem validateReceipt_ok (h : validateReceipt command audit = .ok ()) : ValidReceipt command audit := by
  unfold validateReceipt at h
  split at h
  · cases h
  · rename_i hinitial
    split at h
    · cases h
    · rename_i haudit
      push Not at hinitial haudit
      obtain ⟨hstate, hversion, _⟩ := hinitial
      obtain ⟨hid, _, hsequence, hfrom, hto, _⟩ := haudit
      exact ⟨hstate, hversion, hid, hsequence, by simpa using hfrom, hto⟩

structure ValidMove (current next : CommandAggregate) (audit : CommandAuditRecord) : Prop where
  envelope : next.envelope = current.envelope
  version : next.version = CommandAggregate.nextVersion current.version
  allowed : current.state.allowsTransitionTo next.state = true
  commandId : audit.commandId = next.envelope.id
  sequence : audit.sequence = next.version
  fromState : audit.fromState = some current.state
  toState : audit.toState = next.state
  policy : needsPolicy next.state = true → next.policy.any PolicyDecision.allowed = true

theorem validateTransition_ok {current next : CommandAggregate} (h : validateTransition current next audit = .ok ()) :
    ValidMove current next audit := by
  unfold validateTransition at h
  split at h
  · cases h
  · rename_i hsame
    split at h
    · cases h
    · rename_i hallowed
      split at h
      · cases h
      · rename_i haudit
        split at h
        · cases h
        · rename_i hpolicy
          push Not at hsame haudit
          obtain ⟨henvelope, hversion⟩ := hsame
          obtain ⟨hid, _, hsequence, hfrom, hto, _⟩ := haudit
          refine ⟨henvelope, hversion, by simpa using hallowed, hid, hsequence, hfrom, hto, ?_⟩
          intro hneeds
          by_contra hno
          exact hpolicy ⟨hneeds, hno⟩

variable {store store' closed : CommandStore}

namespace CommandStore

structure Created (store store' : CommandStore) (row : StoredCommand) (audit : CommandAuditRecord) :
    Prop where
  unkeyed : store.commandByKey row.command.envelope.actorId row.command.envelope.idempotencyKey = none
  absent : store.commands.find row.command.envelope.id = none
  device : ∃ device, store.devices.find row.command.envelope.deviceId = some device
  receipt : ValidReceipt row.command audit
  commands : store'.commands.rows = store.commands.rows ++ [row]
  audit : store'.audit.rows = store.audit.rows ++ [audit]

structure Moved (store store' : CommandStore) (current next : StoredCommand)
    (audit : CommandAuditRecord) : Prop where
  found : store.commands.find next.command.envelope.id = some current
  requestHash : next.requestHash = current.requestHash
  move : ValidMove current.command next.command audit
  bounded : next.command.version < 2^63
  commands : store'.commands = store.commands.replace next
  audit : store'.audit.rows = store.audit.rows ++ [audit]

/-- All that one repository call does to commands and their audit: nothing, a new
row, or one transition into a state with `P`. -/
inductive Changes (P : CommandState → Prop) (store store' : CommandStore) : Prop
  | same (hc : store'.commands = store.commands) (ha : store'.audit = store.audit)
  | created (row : StoredCommand) (audit : CommandAuditRecord) (h : Created store store' row audit)
  | moved (current next : StoredCommand) (audit : CommandAuditRecord)
      (h : Moved store store' current next audit) (hp : P next.command.state)

theorem Changes.mono {Q : CommandState → Prop} (h : Changes P store store')
    (hpq : ∀ state, P state → Q state) : Changes Q store store' := by
  cases h with
  | same hc ha => exact .same hc ha
  | created row audit h => exact .created row audit h
  | moved current next audit h hp => exact .moved current next audit h (hpq _ hp)

theorem Changes.congr {other : CommandStore} (h : Changes P store store')
    (hc : other.commands = store'.commands) (ha : other.audit = store'.audit) : Changes P store other := by
  cases h with
  | same hc' ha' => exact .same (hc.trans hc') (ha.trans ha')
  | created row audit h =>
    exact .created row audit ⟨h.unkeyed, h.absent, h.device, h.receipt, by rw [hc, h.commands],
      by rw [ha, h.audit]⟩
  | moved current next audit h hp =>
    exact .moved current next audit ⟨h.found, h.requestHash, h.move, h.bounded,
      hc.trans h.commands, by rw [ha, h.audit]⟩ hp

theorem bind_ok {ε α β : Type} {x : Except ε α} {f : α → Except ε β} {b : β}
    (h : (x >>= f) = .ok b) : ∃ a, x = .ok a ∧ f a = .ok b := by
  cases x with
  | error error => cases h
  | ok a => exact ⟨a, rfl, h⟩

theorem insertAudit_ok (h : store.insertAudit audit = .ok store') :
    store' = { store with audit := store'.audit } ∧
      store'.audit.rows = store.audit.rows ++ [audit] := by
  unfold insertAudit at h
  split at h
  · cases h
  · split at h
    · cases h
    · split at h
      · cases h
      · cases h
        exact ⟨rfl, rfl⟩

theorem insertCommand_ok (h : store.insertCommand command requestHash = .ok store') :
    store' = { store with commands := store'.commands } ∧
      store'.commands.rows = store.commands.rows ++ [⟨command, requestHash⟩] ∧
      store.commands.find command.envelope.id = none ∧
      ∃ device, store.devices.find command.envelope.deviceId = some device := by
  unfold insertCommand at h
  split at h
  · rename_i security device hactor hdevice
    split at h
    · cases h
    · split at h
      · cases h
      · rename_i habsent
        cases h
        exact ⟨rfl, rfl, habsent, device, hdevice⟩
  · cases h

theorem createCommand_ok {outcome : CommandCreateOutcome}
    (h : store.createCommand command requestHash audit = .ok (outcome, store')) :
    (∃ existing, store.commandByKey command.envelope.actorId command.envelope.idempotencyKey =
        some existing ∧ store' = store ∧ outcome =
          if existing.requestHash = requestHash then .existingEquivalent existing.command
          else .conflict existing.command.envelope.id) ∨
    (outcome = .created command ∧ Created store store' ⟨command, requestHash⟩ audit ∧
      store' = { store with commands := store'.commands, audit := store'.audit }) := by
  unfold createCommand at h
  split at h
  · rename_i existing hkey
    simp only [Except.ok.injEq, Prod.mk.injEq] at h
    exact .inl ⟨existing, hkey, h.2.symm, h.1.symm⟩
  · rename_i hkey
    obtain ⟨_, hreceipt, h⟩ := bind_ok h
    obtain ⟨inserted, hcommand, h⟩ := bind_ok h
    obtain ⟨audited, haudit, h⟩ := bind_ok h
    simp only [Except.ok.injEq, Prod.mk.injEq] at h
    obtain ⟨houtcome, rfl⟩ := h
    obtain ⟨hrest, hrows, habsent, hdevice⟩ := insertCommand_ok hcommand
    obtain ⟨hrest', haudits⟩ := insertAudit_ok haudit
    refine .inr ⟨houtcome.symm, ⟨hkey, habsent, hdevice, validateReceipt_ok hreceipt, ?_, ?_⟩, ?_⟩
    · rw [hrest', hrows]
    · rw [haudits, hrest]
    · rw [hrest', hrest]

theorem transitionCommand_ok {expectedVersion : ℕ}
    (h : store.transitionCommand command expectedVersion audit = .ok store') :
    ∃ current, current.command.version = expectedVersion ∧
      Moved store store' current ⟨command, current.requestHash⟩ audit ∧
      store' = { store with commands := store'.commands, audit := store'.audit } := by
  unfold transitionCommand at h
  split at h
  · cases h
  · rename_i current hfound
    split at h
    · cases h
    · rename_i hversion
      obtain ⟨_, hvalid, h⟩ := bind_ok h
      split at h
      · cases h
      · rename_i hbound
        obtain ⟨hrest, haudits⟩ := insertAudit_ok h
        refine ⟨current, by simpa using hversion, ⟨hfound, rfl, validateTransition_ok hvalid,
          by simpa using hbound, ?_, haudits⟩, ?_⟩
        · rw [hrest]
        · rw [hrest]

theorem insertSupersession_ok {supersession : MatterCommandSupersession}
    (h : store.insertSupersession supersession = .ok store') :
    store' = { store with supersessions := store'.supersessions } := by
  unfold insertSupersession at h
  split at h
  · cases h
  · cases h
    rfl

def SlotsNamed (store store' : CommandStore) (extra : CommandId → Prop) : Prop :=
  ∀ slot ∈ store'.slots.rows,
    (∃ slot' ∈ store.slots.rows, slot'.commandId = slot.commandId) ∨ extra slot.commandId

theorem slotsNamed_of_sublist (h : store'.slots.rows.Sublist store.slots.rows) :
    SlotsNamed store store' extra :=
  fun slot hslot => .inl ⟨slot, h.subset hslot, rfl⟩

theorem slotsNamed_of_eq (h : store'.slots = store.slots) : SlotsNamed store store' extra :=
  slotsNamed_of_sublist (h ▸ List.Sublist.refl _)

inductive Closed (store closed : CommandStore) (slot current : MatterDesiredCommandSlot) :
    Option MatterSupersededCommand → Prop
  | dispatched (h : current.dispatchedAt.isSome) (hstore : closed = store) :
      Closed store closed slot current none
  | cancelled {replacement : MatterSupersededCommand} {row : StoredCommand}
      (h : current.dispatchedAt = none) (hid : replacement.command.envelope.id = current.commandId)
      (hstate : replacement.command.state = .cancelled)
      (hmoved : Moved store closed row ⟨replacement.command, row.requestHash⟩ replacement.audit)
      (hsupersessions : ∀ supersession ∈ closed.supersessions.rows,
        supersession ∈ store.supersessions.rows ∨ supersession.oldCommandId = current.commandId)
      (hrest : closed = { store with
        commands := closed.commands, audit := closed.audit, supersessions := closed.supersessions }) :
      Closed store closed slot current (some replacement)

/-- Everything that closing the slot of another command checks and changes. -/
theorem closeSlot_cases
    (h : store.closeSlot slot current superseded = .ok closed) :
    Closed store closed slot current superseded := by
  unfold closeSlot supersede at h
  split at h
  · rename_i hopen
    have hnone : current.dispatchedAt = none := Option.isNone_iff_eq_none.mp hopen
    split at h
    · cases h
    · rename_i replacement
      split at h
      · cases h
      · rename_i hmatch
        push Not at hmatch
        obtain ⟨moved, htransition, h⟩ := bind_ok h
        obtain ⟨row, _, hmoved, hrest⟩ := transitionCommand_ok htransition
        have hrest' := insertSupersession_ok h
        have hsupersessions : ∀ supersession ∈ closed.supersessions.rows,
            supersession ∈ moved.supersessions.rows ∨ supersession.oldCommandId = current.commandId := by
          intro supersession hin
          unfold insertSupersession at h
          split at h
          · cases h
          · rename_i habsent
            cases h
            rcases (mem_insert (h := habsent)).mp hin with hin | rfl
            · exact .inl hin
            · exact .inr rfl
        have hsame : moved.supersessions = store.supersessions := by rw [hrest]
        refine .cancelled hnone hmatch.1 hmatch.2 ⟨hmoved.found, hmoved.requestHash, hmoved.move,
          hmoved.bounded, ?_, ?_⟩ (hsame ▸ hsupersessions) ?_
        · rw [hrest', hmoved.commands]
        · rw [hrest', hmoved.audit]
        · rw [hrest', hrest]
  · rename_i hdispatched
    split at h
    · cases h
    · rename_i hnone
      cases h
      obtain rfl : superseded = none := by simpa using hnone
      exact .dispatched (by simpa [Option.isSome_iff_ne_none] using hdispatched) rfl

inductive SlotTaken (store store' : CommandStore) (slot : MatterDesiredCommandSlot) :
    Option MatterSupersededCommand → Prop
  | first (h : store.slots.find slot.projectionId = none)
      (hstore : store' = { store with slots := store.slots.insert slot h }) :
      SlotTaken store store' slot none
  | again {current : MatterDesiredCommandSlot} (h : store.slots.find slot.projectionId = some current)
      (hsame : current.commandId = slot.commandId)
      (hrevision : current.desiredRevision < slot.desiredRevision)
      (hstore : store' = { store with slots := store.slots.replace slot }) :
      SlotTaken store store' slot none
  | replaced {current : MatterDesiredCommandSlot} {closed : CommandStore}
      {superseded : Option MatterSupersededCommand}
      (h : store.slots.find slot.projectionId = some current)
      (hother : current.commandId ≠ slot.commandId)
      (hrevision : current.desiredRevision < slot.desiredRevision)
      (hclosed : Closed store closed slot current superseded)
      (hstore : store' = { closed with
        slots := closed.slots.replace slot
        authorizations := closed.authorizations.filter (fun authorization =>
          !(authorization.commandId == current.commandId && authorization.consumedAt.isNone)) }) :
      SlotTaken store store' slot superseded

structure MayHold (store : CommandStore) (slot : MatterDesiredCommandSlot)
    (projection : StoredMatterProjection) (command : CommandAggregate) : Prop where
  revision : 0 < slot.desiredRevision
  bounded : slot.desiredRevision < 2^63
  open_ : slot.dispatchedAt = none
  foundProjection : store.projections.find slot.projectionId = some projection
  foundCommand : store.loadCommand slot.commandId = some command
  device : command.envelope.deviceId = projection.deviceId
  endpoint : command.envelope.endpointId = projection.endpointId
  state : command.state = .received ∨ command.state = .validated

/-- Everything that taking a slot checks and changes. -/
theorem replaceDesiredSlot_cases (h : store.replaceDesiredSlot slot superseded = .ok store') :
    (∃ projection command, MayHold store slot projection command) ∧
      SlotTaken store store' slot superseded := by
  unfold replaceDesiredSlot at h
  split at h
  · cases h
  · rename_i hslot
    push Not at hslot
    split at h
    · cases h
    · cases h
    · rename_i projection command hprojection hcommand
      split at h
      · cases h
      · rename_i htarget
        push Not at htarget
        split at h
        · cases h
        · rename_i hstate
          have hpending : command.state = .received ∨ command.state = .validated := by
            by_contra hno
            push Not at hno
            exact hstate hno
          have hholds : slot.desiredRevision < 2^63 →
              ∃ projection command, MayHold store slot projection command := fun hbound =>
            ⟨projection, command, Nat.pos_of_ne_zero hslot.1, hbound, by simpa using hslot.2,
              hprojection, hcommand, htarget.1, htarget.2, hpending⟩
          split at h
          · rename_i habsent
            split at h
            · cases h
            · rename_i hnone
              split at h
              · cases h
              · rename_i hbound
                cases h
                obtain rfl : superseded = none := by simpa using hnone
                exact ⟨hholds (not_le.mp hbound), .first habsent rfl⟩
          · rename_i current hcurrent
            obtain ⟨replaced, hreplaced, h⟩ := bind_ok h
            split at h
            · cases h
            · rename_i hbound
              cases h
              refine ⟨hholds (not_le.mp hbound), ?_⟩
              unfold overwriteSlot at hreplaced
              split at hreplaced
              · cases hreplaced
              · rename_i hrevision
                split at hreplaced
                · rename_i hsame
                  split at hreplaced
                  · cases hreplaced
                  · rename_i hnone
                    cases hreplaced
                    obtain rfl : superseded = none := by simpa using hnone
                    exact .again hcurrent hsame (not_le.mp hrevision) rfl
                · rename_i hother
                  obtain ⟨closed, hclosed, hreplaced⟩ := bind_ok hreplaced
                  cases hreplaced
                  exact .replaced hcurrent hother (not_le.mp hrevision) (closeSlot_cases hclosed) rfl

structure MayStore (store : CommandStore) (projection : StoredMatterProjection)
    (expectedRevision : ℕ) (stored : StoredMatterProjection) : Prop where
  identified : projection.state.projectionId = projection.projectionId
  found : store.projections.find projection.projectionId = some stored
  expected : stored.revision = expectedRevision
  next : projection.revision = stored.revision + 1
  same : sameIdentity stored projection = true
  bounded : projection.revision < 2^63

theorem storeProjection_cases {projection : StoredMatterProjection} {expectedRevision : ℕ}
    (h : store.storeProjection projection expectedRevision = .ok store') :
    (∃ stored, MayStore store projection expectedRevision stored) ∧
      store' = { store with projections := store.projections.replace projection } := by
  unfold storeProjection at h
  split at h
  · cases h
  · rename_i hid
    push Not at hid
    split at h
    · cases h
    · rename_i stored hstored
      split at h
      · cases h
      · rename_i hrevision
        push Not at hrevision
        split at h
        · cases h
        · rename_i hsame
          split at h
          · cases h
          · rename_i hbound
            cases h
            refine ⟨⟨stored, hid, hstored, hrevision.1, ?_, by simpa using hsame, not_le.mp hbound⟩, rfl⟩
            obtain ⟨hexpected, hnext⟩ := hrevision
            omega

theorem Closed.rest (h : Closed store closed slot current superseded) :
    closed = { store with
      commands := closed.commands, audit := closed.audit, supersessions := closed.supersessions } := by
  cases h with
  | dispatched _ hstore => rw [hstore]
  | cancelled _ _ _ _ _ hrest => exact hrest

theorem Closed.slots (h : Closed store closed slot current superseded) : closed.slots = store.slots := by
  rw [h.rest]

theorem Closed.changes (h : Closed store closed slot current superseded) :
    Changes (· = .cancelled) store closed := by
  cases h with
  | dispatched _ hstore => exact .same (by rw [hstore]) (by rw [hstore])
  | cancelled _ _ hstate hmoved => exact .moved _ _ _ hmoved hstate

theorem SlotTaken.rest (h : SlotTaken store store' slot superseded) :
    store' = { store with
      commands := store'.commands, audit := store'.audit, supersessions := store'.supersessions
      slots := store'.slots, authorizations := store'.authorizations } := by
  cases h with
  | first _ hstore | again _ _ _ hstore => rw [hstore]
  | replaced _ _ _ hclosed hstore => rw [hstore, hclosed.rest]

theorem SlotTaken.projections (h : SlotTaken store store' slot superseded) :
    store'.projections = store.projections := by
  rw [h.rest]

theorem SlotTaken.changes (h : SlotTaken store store' slot superseded) :
    Changes (· = .cancelled) store store' := by
  cases h with
  | first _ hstore | again _ _ _ hstore => exact .same (by rw [hstore]) (by rw [hstore])
  | replaced _ _ _ hclosed hstore => exact hclosed.changes.congr (by rw [hstore]) (by rw [hstore])

theorem SlotTaken.slotsNamed (h : SlotTaken store store' slot superseded) :
    SlotsNamed store store' (· = slot.commandId) := by
  intro other hother
  have hor : other = slot ∨ other ∈ store.slots.rows := by
    cases h with
    | first habsent hstore =>
      rw [hstore] at hother
      exact ((mem_insert (h := habsent)).mp hother).symm
    | again hcurrent _ _ hstore =>
      rw [hstore] at hother
      exact ((mem_replace hcurrent).mp hother).imp_right And.left
    | replaced hcurrent _ _ hclosed hstore =>
      rw [hstore] at hother
      rw [← hclosed.slots] at hcurrent ⊢
      exact ((mem_replace hcurrent).mp hother).imp_right And.left
  rcases hor with rfl | hother
  · exact .inr rfl
  · exact .inl ⟨other, hother, rfl⟩

theorem SlotTaken.find_slot (h : SlotTaken store store' slot superseded) (k : MatterProjectionId) :
    store'.slots.find k =
      if slot.projectionId = k then some slot else store.slots.find k := by
  cases h with
  | first h hstore =>
    rw [hstore]
    exact find_insert (h := h)
  | again h _ _ hstore =>
    rw [hstore]
    exact find_replace h
  | replaced h _ _ hclosed hstore =>
    have hfound := h
    rw [← hclosed.slots] at hfound
    rw [hstore]
    show (Table.replace _ slot).find k = _
    rw [find_replace hfound, hclosed.slots]

structure Registered (store store' : CommandStore) (write : MatterDesiredStateWrite) : Prop where
  target : write.projection.projectionId = write.slot.projectionId
  desired : write.projection.state.desired.map MatterDesiredState.revision =
    some write.slot.desiredRevision
  holds : ∃ projection command, MayHold store write.slot projection command
  stores : ∃ stored, MayStore store write.projection (write.projection.revision - 1) stored
  taken : ∃ replaced, SlotTaken store replaced write.slot write.superseded ∧
    store' = { replaced with projections := replaced.projections.replace write.projection }

theorem replaceMatterDesiredState_cases {write : MatterDesiredStateWrite}
    (h : store.replaceMatterDesiredState write = .ok store') :
    Registered store store' write := by
  unfold replaceMatterDesiredState at h
  split at h
  · cases h
  · rename_i hmatch
    push Not at hmatch
    obtain ⟨htarget, hdesired⟩ := hmatch
    obtain ⟨replaced, hreplaced, h⟩ := bind_ok h
    obtain ⟨hholds, htaken⟩ := replaceDesiredSlot_cases hreplaced
    split at h
    · cases h
    · obtain ⟨⟨stored, hstores⟩, hstore⟩ := storeProjection_cases h
      refine ⟨htarget, ?_, hholds, ⟨stored, hstores.identified, ?_, hstores.expected, hstores.next,
        hstores.same, hstores.bounded⟩, ⟨replaced, htaken, hstore⟩⟩
      · cases hstate : write.projection.state.desired with
        | none => simp [hstate] at hdesired
        | some desired => simpa [hstate] using hdesired
      · rw [← htaken.projections]
        exact hstores.found

theorem Registered.changes {write : MatterDesiredStateWrite} (h : Registered store store' write) :
    Changes (· = .cancelled) store store' := by
  obtain ⟨replaced, htaken, hstore⟩ := h.taken
  exact htaken.changes.congr (by rw [hstore]) (by rw [hstore])

theorem Registered.slotsNamed {write : MatterDesiredStateWrite} (h : Registered store store' write) :
    SlotsNamed store store' (· = write.slot.commandId) := by
  obtain ⟨replaced, htaken, hstore⟩ := h.taken
  rw [hstore]
  exact htaken.slotsNamed

structure Dispatches (store store' : CommandStore) (write : MatterDispatchWrite)
    (slot : MatterDesiredCommandSlot) (current : StoredCommand) : Prop where
  state : write.command.state = .dispatched
  found : store.slots.find write.projectionId = some slot
  open_ : slot.dispatchedAt = none
  holder : slot.commandId = write.command.envelope.id
  expected : current.command.version = write.expectedVersion
  moved : Moved store store' current ⟨write.command, current.requestHash⟩ write.audit
  rest : store' = { store with
    commands := store'.commands, audit := store'.audit, authorizations := store'.authorizations
    slots := store.slots.replace
      { slot with dispatchedAt := some write.dispatchedAt, updatedAt := write.dispatchedAt } }

/-- Everything that recording a dispatch checks and changes. -/
theorem recordDispatch_cases (h : store.recordDispatch write = .ok store') :
    ∃ slot current, Dispatches store store' write slot current ∧
      store'.authorizations = store.authorizations := by
  unfold recordDispatch at h
  split at h
  · cases h
  · rename_i hstate
    split at h
    · cases h
    · rename_i slot hslot
      split at h
      · cases h
      · rename_i hopen
        split at h
        · cases h
        · rename_i hholder
          push Not at hstate hholder
          obtain ⟨moved, htransition, h⟩ := bind_ok h
          cases h
          obtain ⟨current, hexpected, hmoved, hrest⟩ := transitionCommand_ok htransition
          refine ⟨slot, current, ⟨hstate, hslot, by simpa using hopen, hholder, hexpected,
            ⟨hmoved.found, rfl, hmoved.move, hmoved.bounded, hmoved.commands, hmoved.audit⟩, ?_⟩, ?_⟩
          · rw [hrest]
          · rw [hrest]

theorem Dispatches.mem_slot {current : StoredCommand} (h : Dispatches store store' write slot current) :
    slot ∈ store.slots.rows ∧ slot.projectionId = write.projectionId := find_eq_some.mp h.found

theorem Dispatches.slotsNamed {current : StoredCommand} (h : Dispatches store store' write slot current) :
    SlotsNamed store store' (fun _ => False) := by
  obtain ⟨hin, hid⟩ := h.mem_slot
  intro other hother
  rw [h.rest] at hother
  let marked : MatterDesiredCommandSlot :=
    { slot with dispatchedAt := some write.dispatchedAt, updatedAt := write.dispatchedAt }
  have hfound : store.slots.find marked.projectionId = some slot := hid.symm ▸ h.found
  rcases (mem_replace hfound).mp hother with rfl | ⟨hother, _⟩
  · exact .inl ⟨slot, hin, rfl⟩
  · exact .inl ⟨other, hother, rfl⟩

theorem createAuthorization_ok {authorization : MatterUnlockAuthorization}
    (h : store.createAuthorization authorization = .ok store') :
    store' = { store with authorizations := store'.authorizations } := by
  unfold createAuthorization at h
  split at h
  · cases h
  · split at h
    · split at h
      · cases h
      · split at h
        · cases h
        · cases h
          rfl
    · cases h

theorem consumeAuthorization_eq (store : CommandStore) (id : MatterUnlockAuthorizationId)
    (commandId : CommandId) (projectionId : MatterProjectionId) (consumedAt : Instant) :
    (store.consumeAuthorization id commandId projectionId consumedAt).2 =
      { store with
        authorizations :=
          (store.consumeAuthorization id commandId projectionId consumedAt).2.authorizations } := by
  unfold consumeAuthorization
  split
  · rfl
  · split
    · rfl
    · split
      · rfl
      · split <;> rfl

structure Consumes (store store' : CommandStore) (id : MatterUnlockAuthorizationId)
    (write : MatterDispatchWrite) (authorization : MatterUnlockAuthorization) (row : StoredCommand)
    (projection : StoredMatterProjection) : Prop where
  foundAuthorization : store.authorizations.find id = some authorization
  unused : authorization.consumedAt = none
  unexpired : write.dispatchedAt < authorization.expiresAt
  foundCommand : store.commands.find write.command.envelope.id = some row
  foundProjection : store.projections.find write.projectionId = some projection
  bound : store.consumptionBound authorization write row projection = true
  dispatches : ∃ slot, Dispatches store store' write slot row
  authorizations : store'.authorizations =
    store.authorizations.replace { authorization with consumedAt := some write.dispatchedAt }

/-- An authorization is used up together with the dispatch, or nothing changes. -/
theorem authorizeAndRecordUnlockDispatch_cases
    (h : store.authorizeAndRecordUnlockDispatch id write = .ok (outcome, store')) :
    (outcome ≠ .consumed ∧ store' = store) ∨ (outcome = .consumed ∧
      ∃ authorization row projection, Consumes store store' id write authorization row projection) := by
  have hother : ∀ other, other ≠ .consumed →
      (.ok (other, store) : Except StorageError (MatterUnlockConsumption × CommandStore)) =
        .ok (outcome, store') → outcome ≠ .consumed ∧ store' = store := by
    rintro other hne heq
    cases heq
    exact ⟨hne, rfl⟩
  unfold authorizeAndRecordUnlockDispatch at h
  split at h
  · exact .inl (hother _ (fun hno => by cases hno) h)
  · rename_i authorization hauthorization
    split at h
    · exact .inl (hother _ (fun hno => by cases hno) h)
    · rename_i hunused
      split at h
      · exact .inl (hother _ (fun hno => by cases hno) h)
      · rename_i hunexpired
        split at h
        · cases h
        · cases h
        · rename_i row projection hrow hprojection
          split at h
          · exact .inl (hother _ (fun hno => by cases hno) h)
          · rename_i hbound
            obtain ⟨recorded, hrecorded, h⟩ := bind_ok h
            cases h
            obtain ⟨slot, current, hdispatches, hauthorizations⟩ := recordDispatch_cases hrecorded
            obtain ⟨hstate, hfound, hopen, hholder, hexpected, hmoved, hrest⟩ := hdispatches
            obtain rfl : row = current := Option.some.inj (hrow.symm.trans hmoved.found)
            exact .inr ⟨rfl, authorization, row, projection, hauthorization, by simpa using hunused,
              not_le.mp hunexpired, hrow, hprojection, by simpa using hbound, ⟨slot, hstate, hfound, hopen,
              hholder, hexpected, ⟨hmoved.found, rfl, hmoved.move, hmoved.bounded, hmoved.commands,
              hmoved.audit⟩, hrest⟩, hauthorizations⟩

theorem authorizeAndRecordUnlockDispatch_consumed
    (h : store.authorizeAndRecordUnlockDispatch id write = .ok (.consumed, store')) :
    ∃ authorization row projection, Consumes store store' id write authorization row projection :=
  (authorizeAndRecordUnlockDispatch_cases h).elim (fun hother => absurd rfl hother.1) And.right

theorem storeActor_ok (h : store.storeActor actor = .ok store') :
    store' = { store with actors := store'.actors } := by
  unfold storeActor at h
  split at h
  · cases h
    rfl
  · split at h
    · cases h
    · cases h
      rfl

theorem replaceActorGrants_ok (h : store.replaceActorGrants actorId grants = .ok store') :
    store' = { store with actors := store'.actors } := by
  unfold replaceActorGrants at h
  split at h
  · cases h
  · split at h
    · split at h
      · cases h
        rfl
      · cases h
    · split at h
      · cases h
        rfl
      · cases h

theorem stores_ok {result : Except StorageError CommandStore} {response : Except StorageError Unit}
    (h : Stores result response store store') :
    (response = .ok () ∧ result = .ok store') ∨ (∃ error, response = .error error) ∧ store' = store := by
  rcases h with ⟨value, hresponse, hresult⟩ | hfailed
  · refine .inl ⟨hresponse, ?_⟩
    cases result with
    | error error => cases hresult
    | ok stored =>
      simp only [Except.map, Except.ok.injEq, Prod.mk.injEq, true_and] at hresult
      rw [hresult]
  · exact .inr hfailed

def movesTo : CommandCall → CommandState → Prop
  | .transitionCommand command _ _ => (· = command.state)
  | .recordMatterDispatch _ | .authorizeAndRecordUnlockDispatch _ _ => (· = .dispatched)
  | .replaceMatterDesiredSlot _ _ | .replaceMatterDesiredState _ => (· = .cancelled)
  | _ => fun _ => False

section Handler
variable {host : StoreHost} {commandIdText : CommandId → String} {store store' : CommandStore}

inductive CommandWrote (store store' : CommandStore) : CommandCall → Prop
  | foundationWrite (h : FoundationWritten store store') : CommandWrote store store' .foundationWrite
  | matterWrite (h : MatterWritten store store') : CommandWrote store store' .matterWrite
  | storeActor {actor : Actor} (h : store.storeActor actor = .ok store') :
      CommandWrote store store' (.storeActor actor)
  | replaceActorGrants {actorId : ActorId} {grants : List ActorGrant}
      (h : store.replaceActorGrants actorId grants = .ok store') :
      CommandWrote store store' (.replaceActorGrants actorId grants)
  | createCommand {command : CommandAggregate} {requestHash : CanonicalRequestHash} {audit : CommandAuditRecord}
      (h : Created store store' ⟨command, requestHash⟩ audit)
      (hrest : store' = { store with commands := store'.commands, audit := store'.audit }) :
      CommandWrote store store' (.createCommand command requestHash audit)
  | transitionCommand {command : CommandAggregate} {expectedVersion : ℕ} {audit : CommandAuditRecord}
      (h : store.transitionCommand command expectedVersion audit = .ok store') :
      CommandWrote store store' (.transitionCommand command expectedVersion audit)
  | replaceMatterDesiredSlot {slot : MatterDesiredCommandSlot} {superseded : Option MatterSupersededCommand}
      (h : store.replaceDesiredSlot slot superseded = .ok store') :
      CommandWrote store store' (.replaceMatterDesiredSlot slot superseded)
  | replaceMatterDesiredState {write : MatterDesiredStateWrite} (h : store.replaceMatterDesiredState write = .ok store') :
      CommandWrote store store' (.replaceMatterDesiredState write)
  | recordMatterDispatch {write : MatterDispatchWrite} (h : store.recordDispatch write = .ok store') :
      CommandWrote store store' (.recordMatterDispatch write)
  | createUnlockAuthorization {authorization : MatterUnlockAuthorization}
      (h : store' = { store with authorizations := store'.authorizations }) :
      CommandWrote store store' (.createUnlockAuthorization authorization)
  | consumeUnlockAuthorization {id : MatterUnlockAuthorizationId} {commandId : CommandId}
      {projectionId : MatterProjectionId} {consumedAt : Instant}
      (h : store' = { store with authorizations := store'.authorizations }) :
      CommandWrote store store' (.consumeUnlockAuthorization id commandId projectionId consumedAt)
  | authorizeAndRecordUnlockDispatch {id : MatterUnlockAuthorizationId} {write : MatterDispatchWrite}
      (h : store.authorizeAndRecordUnlockDispatch id write = .ok (.consumed, store')) :
      CommandWrote store store' (.authorizeAndRecordUnlockDispatch id write)

/-- A call leaves the store alone or has written. -/
theorem commandHandler_wrote (h : commandHandler host commandIdText c store r store') :
    store' = store ∨ CommandWrote store store' c := by
  cases c with
  | now | newId | tryAcquire | dispatch | confirm | publish => exact .inl h
  | loadFoundation | actorSecurity | command | commandRequestHash | recoverableCommands
  | matterProjectionForTarget | matterDesiredSlot => exact .inl h.1
  | foundationWrite => exact h.imp_right .foundationWrite
  | matterWrite => exact h.imp_right .matterWrite
  | storeActor => exact (stores_ok h).elim (fun h => .inr (.storeActor h.2)) (fun h => .inl h.2)
  | replaceActorGrants => exact (stores_ok h).elim (fun h => .inr (.replaceActorGrants h.2)) (fun h => .inl h.2)
  | createCommand command requestHash audit =>
    rcases h with ⟨outcome, _, hok⟩ | ⟨_, heq⟩
    · rcases createCommand_ok hok with ⟨_, _, heq, _⟩ | ⟨_, hcreated, hrest⟩
      · exact .inl heq
      · exact .inr (.createCommand hcreated hrest)
    · exact .inl heq
  | transitionCommand => exact (stores_ok h).elim (fun h => .inr (.transitionCommand h.2)) (fun h => .inl h.2)
  | replaceMatterDesiredSlot =>
    exact (stores_ok h).elim (fun h => .inr (.replaceMatterDesiredSlot h.2)) (fun h => .inl h.2)
  | replaceMatterDesiredState =>
    exact (stores_ok h).elim (fun h => .inr (.replaceMatterDesiredState h.2)) (fun h => .inl h.2)
  | recordMatterDispatch => exact (stores_ok h).elim (fun h => .inr (.recordMatterDispatch h.2)) (fun h => .inl h.2)
  | createUnlockAuthorization =>
    exact (stores_ok h).elim (fun h => .inr (.createUnlockAuthorization (createAuthorization_ok h.2))) (fun h => .inl h.2)
  | consumeUnlockAuthorization id commandId projectionId consumedAt =>
    rcases h with ⟨outcome, _, hok⟩ | ⟨_, heq⟩
    · have hrest := consumeAuthorization_eq store id commandId projectionId consumedAt
      rw [Except.ok.inj hok] at hrest
      exact .inr (.consumeUnlockAuthorization hrest)
    · exact .inl heq
  | authorizeAndRecordUnlockDispatch id write =>
    rcases h with ⟨outcome, _, hok⟩ | ⟨_, heq⟩
    · rcases authorizeAndRecordUnlockDispatch_cases hok with ⟨_, heq⟩ | ⟨rfl, _⟩
      · exact .inl heq
      · exact .inr (.authorizeAndRecordUnlockDispatch hok)
    · exact .inl heq

theorem commandHandler_changes (h : commandHandler host commandIdText c store r store') :
    Changes (movesTo c) store store' := by
  rcases commandHandler_wrote h with rfl | hwrote
  · exact .same rfl rfl
  cases hwrote with
  | foundationWrite hok | matterWrite hok =>
    rw [hok.only]
    exact .same rfl rfl
  | storeActor hok =>
    rw [storeActor_ok hok]
    exact .same rfl rfl
  | replaceActorGrants hok =>
    rw [replaceActorGrants_ok hok]
    exact .same rfl rfl
  | createCommand hcreated => exact .created _ _ hcreated
  | transitionCommand hok =>
    obtain ⟨current, _, hmoved, _⟩ := transitionCommand_ok hok
    exact .moved _ _ _ hmoved rfl
  | replaceMatterDesiredSlot hok => exact (replaceDesiredSlot_cases hok).2.changes
  | replaceMatterDesiredState hok => exact (replaceMatterDesiredState_cases hok).changes
  | recordMatterDispatch hok =>
    obtain ⟨_, _, hdispatches, _⟩ := recordDispatch_cases hok
    exact .moved _ _ _ hdispatches.moved hdispatches.state
  | createUnlockAuthorization hrest | consumeUnlockAuthorization hrest =>
    rw [hrest]
    exact .same rfl rfl
  | authorizeAndRecordUnlockDispatch hok =>
    obtain ⟨_, _, _, hconsumes⟩ := authorizeAndRecordUnlockDispatch_consumed hok
    obtain ⟨_, hdispatches⟩ := hconsumes.dispatches
    exact .moved _ _ _ hdispatches.moved hdispatches.state

def SameOwners (store store' : CommandStore) : Prop :=
  store'.devices = store.devices ∧ store'.actors = store.actors

theorem SlotTaken.owners (h : SlotTaken store store' slot superseded) : SameOwners store store' := by
  rw [h.rest]
  exact ⟨rfl, rfl⟩

theorem Registered.owners {write : MatterDesiredStateWrite} (h : Registered store store' write) :
    SameOwners store store' := by
  obtain ⟨replaced, htaken, hstore⟩ := h.taken
  rw [hstore]
  exact htaken.owners

theorem Dispatches.owners {current : StoredCommand} (h : Dispatches store store' write slot current) :
    SameOwners store store' := by
  rw [h.rest]
  exact ⟨rfl, rfl⟩

structure OwnersKept (store store' : CommandStore) : Prop where
  devices : ∀ device ∈ store.devices.rows, ∃ device' ∈ store'.devices.rows,
    device'.snapshot.id = device.snapshot.id
  actors : ∀ id, (store.actors.find id).isSome = true → (store'.actors.find id).isSome = true

theorem SameOwners.kept (h : SameOwners store store') : OwnersKept store store' := by
  obtain ⟨hdevices, hactors⟩ := h
  refine ⟨fun device hdevice => ⟨device, hdevices ▸ hdevice, rfl⟩, ?_⟩
  rw [hactors]
  exact fun _ hactor => hactor

theorem find_replace_isSome {actors : Table ActorId ActorSecurity (fun row => row.actor.id)}
    {security : ActorSecurity} {id : ActorId} (h : (actors.find id).isSome = true) :
    ((actors.replace security).find id).isSome = true := by
  obtain ⟨row, hrow⟩ := Option.isSome_iff_exists.mp h
  obtain ⟨hin, rfl⟩ := Table.find_eq_some.mp hrow
  by_contra hnone
  have hmissing := Table.find_eq_none.mp (Option.not_isSome_iff_eq_none.mp hnone)
  by_cases hsame : row.actor.id = security.actor.id
  · exact hmissing security (List.mem_map.mpr ⟨row, hin, if_pos hsame⟩) hsame.symm
  · exact hmissing row (List.mem_map.mpr ⟨row, hin, if_neg hsame⟩) rfl

theorem storeActor_owners (h : store.storeActor actor = .ok store') :
    OwnersKept store store' := by
  unfold storeActor at h
  split at h
  · rename_i habsent
    cases h
    refine ⟨fun device hdevice => ⟨device, hdevice, rfl⟩, ?_⟩
    intro id hactor
    show ((store.actors.insert ⟨actor, []⟩ habsent).find id).isSome = true
    rw [Table.find_insert]
    split
    · rfl
    · exact hactor
  · split at h
    · cases h
    · cases h
      exact ⟨fun device hdevice => ⟨device, hdevice, rfl⟩, fun _ => find_replace_isSome⟩

theorem replaceActorGrants_owners (h : store.replaceActorGrants actorId grants = .ok store') :
    OwnersKept store store' := by
  have hsame : OwnersKept store store := SameOwners.kept ⟨rfl, rfl⟩
  unfold replaceActorGrants at h
  split at h
  · cases h
  · split at h
    · split at h
      · cases h
        exact hsame
      · cases h
    · split at h
      · cases h
        exact ⟨hsame.devices, fun _ => find_replace_isSome⟩
      · cases h

theorem commandHandler_owners (h : commandHandler host commandIdText c store r store') : OwnersKept store store' := by
  rcases commandHandler_wrote h with rfl | hwrote
  · exact SameOwners.kept ⟨rfl, rfl⟩
  cases hwrote with
  | foundationWrite hok =>
    refine ⟨?_, by rw [hok.only]; exact fun _ hactor => hactor⟩
    intro device hdevice
    obtain ⟨device', hdevice', hid, _⟩ := hok.kept device hdevice
    exact ⟨device', hdevice', hid⟩
  | matterWrite hok =>
    refine ⟨?_, by rw [hok.only]; exact fun _ hactor => hactor⟩
    intro device hdevice
    obtain ⟨device', hdevice', hid, _⟩ := hok.foundation.kept device hdevice
    exact ⟨device', hdevice', hid⟩
  | storeActor hok => exact storeActor_owners hok
  | replaceActorGrants hok => exact replaceActorGrants_owners hok
  | createCommand _ hrest => exact SameOwners.kept (by rw [hrest]; exact ⟨rfl, rfl⟩)
  | transitionCommand hok =>
    obtain ⟨_, _, _, hrest⟩ := transitionCommand_ok hok
    exact SameOwners.kept (by rw [hrest]; exact ⟨rfl, rfl⟩)
  | replaceMatterDesiredSlot hok => exact (replaceDesiredSlot_cases hok).2.owners.kept
  | replaceMatterDesiredState hok => exact (replaceMatterDesiredState_cases hok).owners.kept
  | recordMatterDispatch hok =>
    obtain ⟨_, _, hdispatches, _⟩ := recordDispatch_cases hok
    exact hdispatches.owners.kept
  | createUnlockAuthorization hrest | consumeUnlockAuthorization hrest =>
    exact SameOwners.kept (by rw [hrest]; exact ⟨rfl, rfl⟩)
  | authorizeAndRecordUnlockDispatch hok =>
    obtain ⟨_, _, _, hconsumes⟩ := authorizeAndRecordUnlockDispatch_consumed hok
    obtain ⟨_, hdispatches⟩ := hconsumes.dispatches
    exact hdispatches.owners.kept

theorem commandHandler_devices (h : commandHandler host commandIdText c store r store') :
    ∀ device ∈ store.devices.rows, ∃ device' ∈ store'.devices.rows,
      device'.snapshot.id = device.snapshot.id :=
  (commandHandler_owners h).devices

end Handler
end CommandStore
end HomeMagic
