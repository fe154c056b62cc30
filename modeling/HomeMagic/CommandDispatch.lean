import HomeMagic.CommandDiscipline
import HomeMagic.CommandHistory

/-! A command reaches its adapter at most once, and only after its dispatch was
committed, whichever service calls run next to each other and crash: the invariant. -/
namespace HomeMagic
open List

def CommandState.precedes : CommandState → CommandState → Bool
  | received, received => false
  | received, _ => true
  | validated, received | validated, validated => false
  | validated, _ => true
  | dispatched, acknowledged | dispatched, confirmed | dispatched, failed | dispatched, timedOut => true
  | acknowledged, confirmed | acknowledged, failed | acknowledged, timedOut => true
  | _, _ => false

variable {c : CommandCall} {r : c.Response} {envelope : CommandEnvelope} {command : CommandAggregate}
  {held held' : Multiset CommandEnvelope} {history : List CommandAuditRecord} {a b : CommandState}
  {audit : CommandAuditRecord} {gs : List CommandGhost} {id : CommandId}
  {p : Program CommandCall CommandCall.Response Unit}

theorem CommandState.precedes_of_allows (h : a.allowsTransitionTo b = true) :
    a.precedes b = true := by
  cases a <;> cases b <;> first | rfl | exact absurd h (by decide)

theorem CommandState.precedes_trans {c : CommandState} (hab : a.precedes b = true) (hbc : b.precedes c = true) :
    a.precedes c = true := by
  cases a <;> cases b <;> first | exact absurd hab (by decide) |
    (cases c <;> first | rfl | exact absurd hbc (by decide))

theorem CompleteHistory.pairwise (h : CompleteHistory command history) :
    history.Pairwise (fun earlier later => earlier.toState.precedes later.toState = true) := by
  have hchain : history.IsChain (fun earlier later => earlier.toState.precedes later.toState = true) :=
    h.linked.imp (fun _ _ hfollows => CommandState.precedes_of_allows hfollows.2)
  have : IsTrans CommandAuditRecord
      (fun earlier later => earlier.toState.precedes later.toState = true) :=
    ⟨fun _ _ _ => CommandState.precedes_trans⟩
  exact isChain_iff_pairwise.mp hchain

theorem CompleteHistory.ordered (h : CompleteHistory command history) {a b : CommandAuditRecord} (ha : a ∈ history)
    (hb : b ∈ history) :
    a = b ∨ a.toState.precedes b.toState = true ∨ b.toState.precedes a.toState = true := by
  obtain ⟨i, hi, rfl⟩ := mem_iff_getElem.mp ha
  obtain ⟨j, hj, rfl⟩ := mem_iff_getElem.mp hb
  have hpairwise := pairwise_iff_getElem.mp h.pairwise
  rcases lt_trichotomy i j with hij | rfl | hji
  · exact .inr (.inl (hpairwise i j hi hj hij))
  · exact .inl rfl
  · exact .inr (.inr (hpairwise j i hj hi hji))

theorem CompleteHistory.last_latest (h : CompleteHistory command history) {a last : CommandAuditRecord}
    (hlast : history.getLast? = some last) (ha : a ∈ history) :
    a = last ∨ a.toState.precedes last.toState = true := by
  obtain ⟨earlier, rfl⟩ := List.getLast?_eq_some_iff.mp hlast
  have hpairwise := (pairwise_append.mp h.pairwise).2.2
  rcases mem_append.mp ha with ha | ha
  · exact .inr (hpairwise a ha last (mem_singleton.mpr rfl))
  · exact .inl (mem_singleton.mp ha)

variable {store store' : CommandStore} {g : CommandGhost}

namespace CommandStore

theorem mem_auditOf : audit ∈ store.auditOf id ↔ audit ∈ store.audit.rows ∧ audit.commandId = id := by
  simp [auditOf]

def Physical (store : CommandStore) (id : CommandId) : Prop :=
  ∃ row ∈ store.commands.rows, row.command.envelope.id = id ∧ row.command.envelope.dryRun = false

theorem Physical.persists (h : Physical store id) (hp : Persists store store') : Physical store' id := by
  obtain ⟨row, hrow, hid, hdry⟩ := h
  obtain ⟨row', hrow', hkept⟩ := hp row hrow
  refine ⟨row', hrow', ?_, ?_⟩ <;> rw [hkept.envelope] <;> assumption

def dispatches (store : CommandStore) : Multiset CommandId :=
  ((store.audit.rows.filter (fun audit => audit.toState == .dispatched)).map
    CommandAuditRecord.commandId : List CommandId)

theorem Audited.pairwise (h : Audited store) :
    store.audit.rows.Pairwise (fun earlier later => earlier.commandId = later.commandId →
      earlier.toState.precedes later.toState = true) := by
  rw [pairwise_iff_getElem]
  intro i j hi hj hij hsame
  obtain ⟨row, hrow, hid⟩ := h.owned _ (getElem_mem hi)
  have hhistory := (h.histories row hrow).pairwise
  unfold auditOf at hhistory
  rw [pairwise_filter, pairwise_iff_getElem] at hhistory
  exact hhistory i j hi hj hij (by simp [hid]) (by simp [hid, hsame])

theorem Audited.nodup_dispatches (h : Audited store) : store.dispatches.Nodup := by
  apply Multiset.coe_nodup.mpr
  apply pairwise_map.mpr
  apply pairwise_filter.mpr
  apply h.pairwise.imp
  intro earlier later hordered hearlier hlater hsame
  have hprecedes := hordered hsame
  rw [beq_iff_eq.mp hearlier, beq_iff_eq.mp hlater] at hprecedes
  cases hprecedes

def Issued (store : CommandStore) (envelope : CommandEnvelope) : Prop :=
  (∃ row ∈ store.commands.rows, row.command.envelope = envelope) ∧
    ∃ audit ∈ store.auditOf envelope.id, audit.toState = .dispatched

theorem Persists.stored (hp : Persists store store')
    (h : ∃ row ∈ store.commands.rows, row.command.envelope = envelope) :
    ∃ row ∈ store'.commands.rows, row.command.envelope = envelope := by
  obtain ⟨row, hrow, henvelope⟩ := h
  obtain ⟨row', hrow', hkept⟩ := hp row hrow
  exact ⟨row', hrow', hkept.envelope.trans henvelope⟩

theorem Issued.persists (h : Issued store envelope) (hp : Persists store store') : Issued store' envelope := by
  obtain ⟨⟨row, hrow, rfl⟩, audit, haudit, hstate⟩ := h
  refine ⟨hp.stored ⟨row, hrow, rfl⟩, audit, ?_, hstate⟩
  obtain ⟨_, _, hkept⟩ := hp row hrow
  exact hkept.audit.subset haudit

theorem Changes.dispatches_eq
    (h : Changes (· ≠ .dispatched) store store') : store'.dispatches = store.dispatches := by
  have happend : ∀ {audit : CommandAuditRecord}, audit.toState ≠ .dispatched →
      store'.audit.rows = store.audit.rows ++ [audit] → store'.dispatches = store.dispatches := by
    intro audit hstate haudit
    unfold dispatches
    rw [haudit, filter_append]
    simp [hstate]
  cases h with
  | same _ ha =>
    unfold dispatches
    rw [ha]
  | created row audit h => exact happend (by rw [h.receipt.toState]; decide) h.audit
  | moved current next audit h hp => exact happend (by rw [h.move.toState]; exact hp) h.audit

theorem Moved.dispatches_eq {current next : StoredCommand}
    (h : Moved store store' current next audit) (hstate : next.command.state = .dispatched) :
    store'.dispatches = next.command.envelope.id ::ₘ store.dispatches := by
  unfold dispatches
  have haudit : audit.toState = .dispatched := h.move.toState.trans hstate
  rw [h.audit, filter_append, filter_singleton, haudit]
  simp [h.move.commandId, Multiset.cons_coe]

def names : CommandCall → CommandId → Prop
  | .replaceMatterDesiredSlot slot _ => (· = slot.commandId)
  | .replaceMatterDesiredState write => (· = write.slot.commandId)
  | _ => fun _ => False

section Handler
variable {host : StoreHost} {commandIdText : CommandId → String} {store store' : CommandStore}

theorem commandHandler_slots (h : commandHandler host commandIdText c store r store') :
    SlotsNamed store store' (names c) := by
  rcases commandHandler_wrote h with rfl | hwrote
  · exact slotsNamed_of_eq rfl
  cases hwrote with
  | foundationWrite hok => exact slotsNamed_of_eq (by rw [hok.only])
  | matterWrite hok => exact slotsNamed_of_sublist hok.slots
  | storeActor hok => exact slotsNamed_of_eq (by rw [storeActor_ok hok])
  | replaceActorGrants hok => exact slotsNamed_of_eq (by rw [replaceActorGrants_ok hok])
  | createCommand _ hrest => exact slotsNamed_of_eq (by rw [hrest])
  | transitionCommand hok =>
    obtain ⟨current, _, _, hrest⟩ := transitionCommand_ok hok
    exact slotsNamed_of_eq (by rw [hrest])
  | replaceMatterDesiredSlot hok => exact (replaceDesiredSlot_cases hok).2.slotsNamed
  | replaceMatterDesiredState hok => exact (replaceMatterDesiredState_cases hok).slotsNamed
  | recordMatterDispatch hok =>
    obtain ⟨_, _, hdispatches, _⟩ := recordDispatch_cases hok
    exact hdispatches.slotsNamed
  | createUnlockAuthorization hrest | consumeUnlockAuthorization hrest => exact slotsNamed_of_eq (by rw [hrest])
  | authorizeAndRecordUnlockDispatch hok =>
    obtain ⟨_, _, _, hconsumes⟩ := authorizeAndRecordUnlockDispatch_consumed hok
    obtain ⟨_, hdispatches⟩ := hconsumes.dispatches
    exact hdispatches.slotsNamed

inductive Effect (store store' : CommandStore) (held held' : Multiset CommandEnvelope) : Prop
  | quiet (h : Changes (· ≠ .dispatched) store store') (hheld : held' = held)
  | commits (current next : StoredCommand) (audit : CommandAuditRecord)
      (h : Moved store store' current next audit) (hstate : next.command.state = .dispatched)
      (hphysical : Physical store next.command.envelope.id)
      (hheld : held' = next.command.envelope ::ₘ held)

/-- What a call other than a send does to commands and to held dispatches. -/
theorem commandHandler_effect (hsends : ∀ envelope, c ≠ .dispatch envelope)
    (hallows : commandDiscipline.allows g c) (hslots : ∀ slot ∈ store.slots.rows, Physical store slot.commandId)
    (h : commandHandler host commandIdText c store r store') :
    Effect store store' g.held (g.move c r).held := by
  have hchanges := commandHandler_changes h
  have hsame : store' = store → Changes (· ≠ .dispatched) store store' := by
    rintro rfl
    exact .same rfl rfl
  cases c with
  | dispatch envelope => exact absurd rfl (hsends envelope)
  | now | newId | loadFoundation | foundationWrite | actorSecurity | storeActor | replaceActorGrants
  | commandRequestHash | matterDesiredSlot | matterWrite
  | createUnlockAuthorization | consumeUnlockAuthorization | tryAcquire | confirm | publish =>
    exact .quiet (hchanges.mono (fun _ hmoves => hmoves.elim)) rfl
  | matterProjectionForTarget =>
    refine .quiet (hchanges.mono (fun _ hmoves => hmoves.elim)) ?_
    rcases r with _ | _ | projection <;> rfl
  | command id =>
    refine .quiet (hchanges.mono (fun _ hmoves => hmoves.elim)) ?_
    rcases r with _ | _ | command <;> rfl
  | recoverableCommands limit =>
    refine .quiet (hchanges.mono (fun _ hmoves => hmoves.elim)) ?_
    cases r <;> rfl
  | createCommand command requestHash audit =>
    refine .quiet (hchanges.mono (fun _ hmoves => hmoves.elim)) ?_
    rcases r with _ | outcome
    · rfl
    · cases outcome <;> rfl
  | replaceMatterDesiredSlot | replaceMatterDesiredState =>
    exact .quiet (hchanges.mono (fun state hmoves => by rw [hmoves]; decide)) rfl
  | transitionCommand command expectedVersion audit =>
    rcases stores_ok h with ⟨rfl, hok⟩ | ⟨⟨error, rfl⟩, heq⟩
    · obtain ⟨current, _, hmoved, _⟩ := transitionCommand_ok hok
      by_cases hstate : command.state = .dispatched
      · refine .commits current _ audit hmoved hstate ?_ ?_
        · obtain ⟨hcurrent, hid⟩ := Table.find_eq_some.mp hmoved.found
          refine ⟨current, hcurrent, hid, ?_⟩
          rw [← hmoved.move.envelope]
          exact (hallows.2 hstate).1
        · rw [g.move_transition, if_pos hstate]
          rfl
      · refine .quiet (.moved _ _ _ hmoved hstate) ?_
        rw [g.move_transition, if_neg hstate]
        rfl
    · exact .quiet (hsame heq) rfl
  | recordMatterDispatch write =>
    rcases stores_ok h with ⟨rfl, hok⟩ | ⟨⟨error, rfl⟩, heq⟩
    · obtain ⟨slot, current, hdispatches, _⟩ := recordDispatch_cases hok
      exact .commits current _ _ hdispatches.moved hdispatches.state
        (hdispatches.holder ▸ hslots slot hdispatches.mem_slot.1) rfl
    · exact .quiet (hsame heq) rfl
  | authorizeAndRecordUnlockDispatch id write =>
    rcases h with ⟨outcome, rfl, hok⟩ | ⟨⟨error, rfl⟩, h⟩
    · rcases authorizeAndRecordUnlockDispatch_cases hok with ⟨hother, h⟩ | ⟨rfl, _, current, _, hconsumes⟩
      · refine .quiet (hsame h) ?_
        cases outcome with
        | consumed => exact absurd rfl hother
        | notFound | alreadyConsumed | expired | bindingMismatch => rfl
      · obtain ⟨slot, hdispatches⟩ := hconsumes.dispatches
        exact .commits current _ _ hdispatches.moved hdispatches.state
          (hdispatches.holder ▸ hslots slot hdispatches.mem_slot.1) rfl
    · exact .quiet (hsame h) rfl

/-- A program learns stored commands only. -/
theorem commandHandler_known (h : commandHandler host commandIdText c store r store') :
    ∀ envelope ∈ (g.move c r).known, envelope ∈ g.known ∨
      ∃ row ∈ store'.commands.rows, row.command.envelope = envelope := by
  intro envelope henvelope
  cases c with
  | now | newId | loadFoundation | foundationWrite | actorSecurity | storeActor | replaceActorGrants
  | commandRequestHash | matterDesiredSlot | matterWrite
  | createUnlockAuthorization | consumeUnlockAuthorization | tryAcquire | confirm | publish
  | replaceMatterDesiredSlot | replaceMatterDesiredState | dispatch => exact .inl henvelope
  | matterProjectionForTarget => rcases r with _ | _ | projection <;> exact .inl henvelope
  | transitionCommand command expectedVersion audit =>
    left
    rcases stores_ok h with ⟨rfl, _⟩ | ⟨⟨error, rfl⟩, _⟩
    · rw [g.move_transition] at henvelope
      split at henvelope <;> exact henvelope
    · exact henvelope
  | recordMatterDispatch write =>
    left
    rcases stores_ok h with ⟨rfl, _⟩ | ⟨⟨error, rfl⟩, _⟩ <;> exact henvelope
  | authorizeAndRecordUnlockDispatch id write =>
    left
    rcases h with ⟨outcome, rfl, _⟩ | ⟨⟨error, rfl⟩, _⟩
    · cases outcome <;> exact henvelope
    · exact henvelope
  | command id =>
    rcases r with error | found
    · exact .inl henvelope
    · cases found with
      | none => exact .inl henvelope
      | some command =>
        obtain ⟨rfl, hread⟩ := h
        rcases mem_cons.mp henvelope with rfl | hknown
        · have hloaded := hread _ rfl
          obtain ⟨row, hfound, rfl⟩ := Option.map_eq_some_iff.mp hloaded.symm
          exact .inr ⟨row, (Table.find_eq_some.mp hfound).1, rfl⟩
        · exact .inl hknown
  | recoverableCommands limit =>
    rcases r with error | commands
    · exact .inl henvelope
    · obtain ⟨rfl, hread⟩ := h
      rcases mem_append.mp henvelope with hnew | hknown
      · obtain ⟨command, hcommand, rfl⟩ := List.mem_map.mp hnew
        rw [hread _ rfl] at hcommand
        obtain ⟨row, hrow, rfl⟩ := List.mem_map.mp hcommand
        exact .inr ⟨row, (Table.mem_of_mem_page hrow).1, rfl⟩
      · exact .inl hknown
  | createCommand command requestHash audit =>
    rcases h with ⟨outcome, rfl, hok⟩ | ⟨⟨error, rfl⟩, _⟩
    · rcases createCommand_ok hok with ⟨existing, _, _, rfl⟩ | ⟨rfl, hcreated, _⟩
      · left
        split at henvelope <;> exact henvelope
      · rcases mem_cons.mp henvelope with rfl | hknown
        · right
          refine ⟨⟨command, requestHash⟩, ?_, rfl⟩
          rw [hcreated.commands]
          exact mem_append_right _ (mem_singleton.mpr rfl)
        · exact .inl hknown
    · exact .inl henvelope

theorem commandHandler_valid (h : commandHandler host commandIdText c store r store') :
    commandDiscipline.valid c r := by
  cases c with
  | recoverableCommands limit =>
    rcases r with error | commands
    · trivial
    · intro command hcommand
      rw [h.2 _ rfl] at hcommand
      obtain ⟨row, hrow, rfl⟩ := List.mem_map.mp hcommand
      simpa using (Table.mem_of_mem_page hrow).2
  | actorSecurity actorId =>
    rcases r with error | _ | security
    · trivial
    · trivial
    · exact (Table.find_eq_some.mp (h.2 _ rfl).symm).2
  | _ => trivial

end Handler
end CommandStore

structure Sent where
  envelope : CommandEnvelope
  store : CommandStore

def sends : (c : CommandCall) → c.Response → CommandStore → CommandStore → List Sent
  | .dispatch envelope, _, store, _ => [⟨envelope, store⟩]
  | _, _, _, _ => []

def asRequest {α : Type} (p : Program CommandCall CommandCall.Response α) :
    Program CommandCall CommandCall.Response Unit := p.bind (fun _ => .done ())

inductive CommandRequested (host : CommandHost) : Program CommandCall CommandCall.Response Unit → Prop
  | execute (actor : Actor) (request : CommandRequest) (now : Instant) :
      CommandRequested host (asRequest (HomeMagic.execute host actor request now).run)
  | cancel (actorId : ActorId) (commandId : CommandId) (now : Instant) :
      CommandRequested host (asRequest (HomeMagic.cancel actorId commandId now).run)
  | recover (now : Instant) :
      CommandRequested host (asRequest (HomeMagic.recoverCommands host now).run)
  | approveUnlock (approver : Actor) (commandId : CommandId) (now : Instant) :
      CommandRequested host (asRequest (HomeMagic.approveUnlock host approver commandId now).run)
  | foundationWrite : CommandRequested host (asRequest (invoke .foundationWrite))
  | matterWrite : CommandRequested host (asRequest (invoke .matterWrite))
  | storeActor (actor : Actor) : CommandRequested host (asRequest (invoke (.storeActor actor)))
  | replaceActorGrants (actorId : ActorId) (grants : List ActorGrant) :
      CommandRequested host (asRequest (invoke (.replaceActorGrants actorId grants)))

def commandRules (host : CommandHost) (storeHost : StoreHost) (commandIdText : CommandId → String) :
    Rules CommandCall CommandCall.Response (CommandStore × List Sent) Unit where
  handler := (commandHandler storeHost commandIdText).tracking sends
  main := fun _ => False
  client := CommandRequested host
  mainAllowed := fun _ _ => True
  clientAllowed := fun _ _ => True

def CommandGhost.Initial (g : CommandGhost) : Prop := g.known = [] ∧ g.held = 0

theorem asRequest_obeys {α : Type} {p : Program CommandCall CommandCall.Response α}
    {Q : α → CommandGhost → Prop} (h : p.Obeys commandDiscipline Q g) :
    (asRequest p).Obeys commandDiscipline (fun _ _ => True) g :=
  Program.Obeys.bind (h.mono (fun _ _ _ => trivial))

variable {host : CommandHost}

theorem CommandRequested.obeys_initial (h : CommandRequested host p) :
    ∃ now, p.Obeys commandDiscipline (fun _ _ => True)
      (.initial now (fun _ _ => True) (!host.dispatchControl)) := by
  cases h with
  | execute actor request now =>
    exact ⟨now, asRequest_obeys (keeping_execute host actor request rfl rfl (fun _ _ => trivial))⟩
  | cancel actorId commandId now => exact ⟨now, asRequest_obeys (keeping_cancel actorId commandId now)⟩
  | recover now => exact ⟨now, asRequest_obeys (keeping_recoverCommands host rfl rfl)⟩
  | approveUnlock approver commandId now =>
    exact ⟨now, asRequest_obeys (keeping_approveUnlock host approver commandId rfl)⟩
  | foundationWrite | matterWrite | storeActor | replaceActorGrants =>
    exact ⟨0, trivial, fun _ _ => trivial⟩

theorem CommandRequested.obeys (h : CommandRequested host p) :
    ∃ g : CommandGhost, g.Initial ∧ p.Obeys commandDiscipline (fun _ _ => True) g := by
  obtain ⟨now, hobeys⟩ := h.obeys_initial
  exact ⟨_, ⟨rfl, rfl⟩, hobeys⟩

/-- A send as it has to be: of a stored command that is no dry run and has left `received` and `validated`, whose
dispatch is recorded, and that was neither rejected nor cancelled. -/
structure MaySend (sent : Sent) : Prop where
  physical : sent.envelope.dryRun = false
  stored : ∃ row ∈ sent.store.commands.rows, row.command.envelope = sent.envelope ∧
    row.command.state ≠ .received ∧ row.command.state ≠ .validated
  recorded : ∃ audit ∈ sent.store.auditOf sent.envelope.id, audit.toState = .dispatched
  admitted : ∀ audit ∈ sent.store.auditOf sent.envelope.id,
    audit.toState ≠ .rejected ∧ audit.toState ≠ .cancelled

namespace CommandStore

theorem Issued.maySend (h : Issued store envelope) (haudited : Audited store)
    (hdispatched : ∀ audit ∈ store.audit.rows, audit.toState = .dispatched →
      Physical store audit.commandId) :
    MaySend ⟨envelope, store⟩ := by
  obtain ⟨⟨row, hrow, rfl⟩, audit, haudit, hstate⟩ := h
  have hhistory := haudited.histories row hrow
  obtain ⟨hin, hid⟩ := mem_auditOf.mp haudit
  refine ⟨?_, ⟨row, hrow, rfl, ?_⟩, ⟨audit, haudit, hstate⟩, ?_⟩
  · obtain ⟨other, hother, hotherId, hdry⟩ := hdispatched audit hin hstate
    rwa [Table.eq_of_key hother hrow (hotherId.trans hid)] at hdry
  · -- the last entry of the history is the state of the row
    obtain ⟨last, hlast, hcurrent⟩ := Option.map_eq_some_iff.mp hhistory.current
    rw [← hcurrent]
    rcases hhistory.last_latest hlast haudit with rfl | hbefore
    · rw [hstate]
      decide
    · rw [hstate] at hbefore
      constructor <;> intro hbad <;> rw [hbad] at hbefore <;> cases hbefore
  · intro other hother
    rcases hhistory.ordered haudit hother with heq | hbefore | hafter
    · rw [← heq, hstate]
      decide
    · rw [hstate] at hbefore
      constructor <;> intro hbad <;> rw [hbad] at hbefore <;> cases hbefore
    · rw [hstate] at hafter
      constructor <;> intro hbad <;> rw [hbad] at hafter <;> cases hafter

def heldIds (gs : List CommandGhost) : Multiset CommandId :=
  (gs.map (fun g => g.held.map CommandEnvelope.id)).sum

theorem heldIds_append (before after : List CommandGhost) (g : CommandGhost) :
    heldIds (before ++ g :: after) =
      (heldIds before + heldIds after) + g.held.map CommandEnvelope.id := by
  unfold heldIds
  rw [map_append, sum_append, map_cons, sum_cons, add_assoc]
  exact congrArg _ (add_comm _ _)

structure Governed (s : CommandStore × List Sent) (gs : List CommandGhost) : Prop where
  audited : Audited s.1
  slots : ∀ slot ∈ s.1.slots.rows, Physical s.1 slot.commandId
  dispatched : ∀ audit ∈ s.1.audit.rows, audit.toState = .dispatched → Physical s.1 audit.commandId
  known : ∀ g ∈ gs, ∀ envelope ∈ g.known, ∃ row ∈ s.1.commands.rows, row.command.envelope = envelope
  held : ∀ g ∈ gs, ∀ envelope ∈ g.held, Issued s.1 envelope
  counted : (s.2.map (fun sent => sent.envelope.id) : Multiset CommandId) + heldIds gs ≤ s.1.dispatches
  sent : ∀ sent ∈ s.2, MaySend sent

theorem Governed.started {s : CommandStore × List Sent} {g : CommandGhost} (h : Governed s gs) (hg : g.Initial) :
    Governed s (g :: gs) := by
  obtain ⟨hknown, hheld⟩ := hg
  have hcounted : heldIds (g :: gs) = heldIds gs := by
    unfold heldIds
    rw [map_cons, sum_cons, hheld, Multiset.map_zero, zero_add]
  refine ⟨h.audited, h.slots, h.dispatched, ?_, ?_, hcounted ▸ h.counted, h.sent⟩
  · intro g' hg' envelope henvelope
    rcases mem_cons.mp hg' with rfl | hg'
    · rw [hknown] at henvelope
      cases henvelope
    · exact h.known g' hg' envelope henvelope
  · intro g' hg' envelope henvelope
    rcases mem_cons.mp hg' with rfl | hg'
    · rw [hheld] at henvelope
      exact absurd henvelope (Multiset.notMem_zero _)
    · exact h.held g' hg' envelope henvelope

theorem Governed.crashed {s : CommandStore × List Sent} (h : Governed s gs) :
    Governed s [] := by
  refine ⟨h.audited, h.slots, h.dispatched, ?_, ?_, ?_, h.sent⟩
  · exact fun g hg => absurd hg not_mem_nil
  · exact fun g hg => absurd hg not_mem_nil
  · exact (Multiset.add_le_add_left (Multiset.zero_le _)).trans h.counted

section Step
variable {storeHost : StoreHost} {commandIdText : CommandId → String} {store store' : CommandStore}
  {log : List Sent} {before after : List CommandGhost} {g : CommandGhost}

theorem mem_moved {g' g'' : CommandGhost} (h : g'' ∈ before ++ g' :: after) :
    g'' = g' ∨ g'' ∈ before ++ g :: after := by
  rcases mem_append.mp h with h | h
  · exact .inr (mem_append_left _ h)
  · rcases mem_cons.mp h with rfl | h
    · exact .inl rfl
    · exact .inr (mem_append_right _ (mem_cons_of_mem _ h))

theorem Governed.dispatch (hheld : envelope ∈ g.held) (h : Governed (store, log) (before ++ g :: after)) :
    Governed (store, log ++ [⟨envelope, store⟩])
      (before ++ { g with held := g.held.erase envelope } :: after) := by
  have hg : g ∈ before ++ g :: after := mem_append_right _ mem_cons_self
  refine ⟨h.audited, h.slots, h.dispatched, ?_, ?_, ?_, ?_⟩
  · intro g' hg'
    rcases mem_moved hg' with rfl | hg'
    · exact h.known g hg
    · exact h.known g' hg'
  · intro g' hg' other hother
    rcases mem_moved hg' with rfl | hg'
    · exact h.held g hg other (Multiset.mem_of_mem_erase hother)
    · exact h.held g' hg' other hother
  · have hcounted := h.counted
    rw [heldIds_append] at hcounted ⊢
    have hsplit : g.held.map CommandEnvelope.id =
        envelope.id ::ₘ (g.held.erase envelope).map CommandEnvelope.id := by
      rw [← Multiset.map_cons, Multiset.cons_erase hheld]
    rw [hsplit, Multiset.add_cons, Multiset.add_cons] at hcounted
    rw [map_append, map_singleton, ← Multiset.coe_add, Multiset.coe_singleton,
      add_right_comm, add_comm _ ({envelope.id} : Multiset CommandId), Multiset.singleton_add]
    exact hcounted
  · intro sent hsent
    rcases mem_append.mp hsent with hsent | hsent
    · exact h.sent sent hsent
    · rw [mem_singleton.mp hsent]
      exact (h.held g hg envelope hheld).maySend h.audited h.dispatched

theorem physical_slots (hallows : commandDiscipline.allows g c)
    (hknown : ∀ envelope ∈ g.known, ∃ row ∈ store.commands.rows, row.command.envelope = envelope)
    (hslots : ∀ slot ∈ store.slots.rows, Physical store slot.commandId)
    (hh : commandHandler storeHost commandIdText c store r store') :
    ∀ slot ∈ store'.slots.rows, Physical store slot.commandId := by
  intro slot hslot
  rcases commandHandler_slots hh slot hslot with ⟨slot', hslot', hid⟩ | hnames
  · exact hid ▸ hslots slot' hslot'
  · cases c with
    | replaceMatterDesiredSlot => exact hallows.elim
    | replaceMatterDesiredState write =>
      obtain ⟨envelope, henvelope, hid, hdry⟩ := hallows
      obtain ⟨row, hrow, rfl⟩ := hknown envelope henvelope
      exact ⟨row, hrow, hid.trans hnames.symm, hdry⟩
    | _ => exact hnames.elim

theorem Effect.dispatches (h : Effect store store' held held') {others : Multiset CommandId}
    (hcounted : others + held.map CommandEnvelope.id ≤ store.dispatches) :
    others + held'.map CommandEnvelope.id ≤ store'.dispatches := by
  cases h with
  | quiet h hheld =>
    rw [hheld, h.dispatches_eq]
    exact hcounted
  | commits current next audit h hstate _ hheld =>
    rw [hheld, h.dispatches_eq hstate, Multiset.map_cons, Multiset.add_cons]
    exact Multiset.cons_le_cons _ hcounted

theorem Effect.issued (h : Effect store store' held held') (hpersists : Persists store store')
    (hheld : ∀ envelope ∈ held, Issued store envelope) :
    ∀ envelope ∈ held', Issued store' envelope := by
  intro envelope henvelope
  cases h with
  | quiet _ heq => exact (hheld envelope (heq ▸ henvelope)).persists hpersists
  | commits current next audit h hstate _ heq =>
    rw [heq] at henvelope
    rcases Multiset.mem_cons.mp henvelope with rfl | henvelope
    · refine ⟨⟨next, ?_, rfl⟩, audit, ?_, h.move.toState.trans hstate⟩
      · rw [h.commands]
        exact (Table.mem_replace h.found).mpr (.inl rfl)
      · rw [mem_auditOf, h.audit]
        exact ⟨mem_append_right _ (mem_singleton.mpr rfl), h.move.commandId⟩
    · exact (hheld envelope henvelope).persists hpersists

theorem Effect.dispatched (h : Effect store store' held held') (hpersists : Persists store store')
    (hdispatched : ∀ audit ∈ store.audit.rows, audit.toState = .dispatched →
      Physical store audit.commandId) :
    ∀ audit ∈ store'.audit.rows, audit.toState = .dispatched → Physical store' audit.commandId := by
  intro audit haudit hstate
  have hold : audit ∈ store.audit.rows → Physical store' audit.commandId :=
    fun hin => (hdispatched audit hin hstate).persists hpersists
  cases h with
  | quiet h _ =>
    cases h with
    | same _ ha => exact hold (ha ▸ haudit)
    | created row added h =>
      rw [h.audit, mem_append, mem_singleton] at haudit
      rcases haudit with hin | rfl
      · exact hold hin
      · rw [h.receipt.toState] at hstate
        cases hstate
    | moved current next added h hp =>
      rw [h.audit, mem_append, mem_singleton] at haudit
      rcases haudit with hin | rfl
      · exact hold hin
      · exact absurd (h.move.toState.symm.trans hstate) hp
  | commits current next added h _ hphysical _ =>
    rw [h.audit, mem_append, mem_singleton] at haudit
    rcases haudit with hin | rfl
    · exact hold hin
    · rw [h.move.commandId]
      exact hphysical.persists hpersists

theorem Governed.performed (hsends : ∀ envelope, c ≠ .dispatch envelope) (hallows : commandDiscipline.allows g c)
    (hh : commandHandler storeHost commandIdText c store r store')
    (h : Governed (store, log) (before ++ g :: after)) :
    Governed (store', log) (before ++ g.move c r :: after) := by
  have hg : g ∈ before ++ g :: after := mem_append_right _ mem_cons_self
  have hchanges := commandHandler_changes hh
  have hpersists := hchanges.persists
  have heffect := commandHandler_effect hsends hallows h.slots hh
  refine ⟨h.audited.changes hchanges, ?_, heffect.dispatched hpersists h.dispatched, ?_, ?_, ?_, h.sent⟩
  · intro slot hslot
    exact (physical_slots hallows (h.known g hg) h.slots hh slot hslot).persists hpersists
  · intro g' hg' envelope henvelope
    rcases mem_moved hg' with rfl | hg'
    · rcases commandHandler_known hh envelope henvelope with hknown | hstored
      · exact hpersists.stored (h.known g hg envelope hknown)
      · exact hstored
    · exact hpersists.stored (h.known g' hg' envelope henvelope)
  · intro g' hg' envelope henvelope
    rcases mem_moved hg' with rfl | hg'
    · exact heffect.issued hpersists (h.held g hg) envelope henvelope
    · exact (h.held g' hg' envelope henvelope).persists hpersists
  · have hcounted := h.counted
    rw [heldIds_append, ← add_assoc] at hcounted ⊢
    exact heffect.dispatches hcounted

theorem Governed.call {c : CommandCall} {r : c.Response} {s s' : CommandStore × List Sent}
    (hallows : commandDiscipline.allows g c)
    (hh : (commandHandler storeHost commandIdText).tracking sends c s r s')
    (h : Governed s (before ++ g :: after)) :
    Governed s' (before ++ commandDiscipline.move g c r :: after) := by
  obtain ⟨store, log⟩ := s
  obtain ⟨store', log'⟩ := s'
  obtain ⟨hstore, hlog⟩ := hh
  by_cases hsend : ∃ envelope, c = .dispatch envelope
  · obtain ⟨envelope, rfl⟩ := hsend
    obtain rfl : store' = store := hstore
    obtain rfl : log' = log ++ [⟨envelope, store'⟩] := hlog
    exact h.dispatch hallows.1
  · push Not at hsend
    have hnone : sends c r store store' = [] := by
      cases c with
      | dispatch envelope => exact absurd rfl (hsend envelope)
      | _ => rfl
    obtain rfl : log' = log := by
      rw [show log' = _ from hlog, hnone, append_nil]
    exact h.performed hsend hallows hstore

end Step

theorem governed_of_run {storeHost : StoreHost} {commandIdText : CommandId → String}
    {start reached : Processes CommandCall CommandCall.Response (CommandStore × List Sent) Unit}
    (hrun : Relation.ReflTransGen (Interleaves (commandRules host storeHost commandIdText)) start reached)
    (hstart : Governed start.state []) (hidle : start.main = none) (hquiet : start.clients = []) :
    ∃ gs, Governed reached.state gs := by
  have hclient : ∀ p, (commandRules host storeHost commandIdText).client p →
      ∃ g : CommandGhost, g.Initial ∧ p.Obeys commandDiscipline (fun _ _ => True) g :=
    fun _ hp => CommandRequested.obeys hp
  have hcall : ∀ c s r s' before after g, commandDiscipline.allows g c →
      (commandRules host storeHost commandIdText).handler c s r s' →
      Governed s (before ++ g :: after) →
      Governed s' (before ++ commandDiscipline.move g c r :: after) :=
    fun _ _ _ _ _ _ _ hallows hh h => h.call hallows hh
  obtain ⟨_, gs, hgoverned, _⟩ := Interleaves.disciplined (fun _ hp => hp) hclient
    (fun _ _ _ _ hh => commandHandler_valid hh.1) (fun _ _ _ hg h => h.started hg) hcall
    (fun _ _ h => h.crashed) hrun hstart hidle hquiet
  exact ⟨gs, hgoverned⟩

theorem governed_start {start : CommandStore} (hcommands : start.commands.rows = [])
    (haudit : start.audit.rows = []) (hslots : start.slots.rows = []) : Governed (start, []) [] := by
  refine ⟨⟨?_, ?_⟩, ?_, ?_, ?_, ?_, ?_, ?_⟩
  · rw [hcommands]
    exact fun row hrow => absurd hrow not_mem_nil
  · rw [haudit]
    exact fun audit haudit => absurd haudit not_mem_nil
  · rw [hslots]
    exact fun slot hslot => absurd hslot not_mem_nil
  · rw [haudit]
    exact fun audit haudit => absurd haudit not_mem_nil
  · exact fun g hg => absurd hg not_mem_nil
  · exact fun g hg => absurd hg not_mem_nil
  · exact Multiset.zero_le _
  · exact fun sent hsent => absurd hsent not_mem_nil

theorem Governed.sent_nodup {s : CommandStore × List Sent} (h : Governed s gs) :
    (s.2.map (fun sent => sent.envelope.id)).Nodup :=
  Multiset.coe_nodup.mp (Multiset.nodup_of_le ((Multiset.le_add_right _ _).trans h.counted)
    h.audited.nodup_dispatches)

end CommandStore

def lampSends : CommandStore × List Sent :=
  ((asRequest (execute residentHost resident lampOn 5).run).run
    (trackingApply (commandApply minuteStoreHost (fun id => toString id) 5) sends)
    (lampCommands, [])).2

theorem lampSends_reached : Relation.ReflTransGen
    (Interleaves (commandRules residentHost minuteStoreHost (fun id => toString id)))
    ⟨(lampCommands, []), none, []⟩ ⟨lampSends, none, [.done ()]⟩ :=
  Interleaves.of_run_client (trackingApply_handles (commandApply_handles _ _ 5) sends)
    (fun _ _ => trivial) (CommandRequested.execute resident lampOn 5) _ none []

end HomeMagic
