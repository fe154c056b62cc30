import HomeMagic.AutomationAdmission
import HomeMagic.CommandService
import HomeMagic.CommandStoreSpec

/-! The audit of a command is its complete history, whatever is asked of the
repository and in whatever order. -/
namespace HomeMagic
open List Table

variable {store store' : CommandStore} {audit : CommandAuditRecord} {commandIdText : CommandId → String}
  {host : StoreHost} {P : CommandState → Prop} {α : Type}

def FollowsOn (earlier later : CommandAuditRecord) : Prop :=
  later.fromState = some earlier.toState ∧
    earlier.toState.allowsTransitionTo later.toState = true

structure CompleteHistory (command : CommandAggregate) (history : List CommandAuditRecord) : Prop where
  sequences : history.map CommandAuditRecord.sequence = List.range (command.version + 1)
  received : history.head?.map (fun audit => (audit.fromState, audit.toState)) = some (none, .received)
  linked : history.IsChain FollowsOn
  current : history.getLast?.map CommandAuditRecord.toState = some command.state

theorem CommandState.allowsTransitionTo_terminal {state next : CommandState}
    (h : state.allowsTransitionTo next = true) : state.isTerminal = false := by
  cases state <;> cases next <;> first | rfl | exact absurd h (by decide)

theorem CompleteHistory.extend {current next : CommandAggregate} {history : List CommandAuditRecord}
    (h : CompleteHistory current history) (hmove : ValidMove current next audit) (hbound : next.version < 2^63) :
    CompleteHistory next (history ++ [audit]) := by
  have hversion : next.version = current.version + 1 := by
    have hnext := hmove.version
    unfold CommandAggregate.nextVersion at hnext
    omega
  refine ⟨?_, ?_, ?_, ?_⟩
  · rw [map_append, h.sequences, hversion, range_succ (n := current.version + 1),
      map_singleton, hmove.sequence, hversion]
  · have hreceived := h.received
    cases history with
    | nil => cases hreceived
    | cons first rest => exact hreceived
  · refine h.linked.append (isChain_singleton _) ?_
    intro last hlast added hadded
    obtain rfl : audit = added := by simpa using hadded
    have hcurrent := h.current
    rw [Option.mem_def.mp hlast] at hcurrent
    have hstate : last.toState = current.state := by simpa using hcurrent
    refine ⟨?_, ?_⟩
    · rw [hmove.fromState, hstate]
    · rw [hstate, hmove.toState]
      exact hmove.allowed
  · rw [List.getLast?_concat, Option.map_some, hmove.toState]

theorem CompleteHistory.receipt {command : CommandAggregate} (h : ValidReceipt command audit) :
    CompleteHistory command [audit] := by
  refine ⟨?_, ?_, isChain_singleton _, ?_⟩
  · rw [map_singleton, h.sequence, h.version]
    rfl
  · show some (audit.fromState, audit.toState) = _
    rw [h.fromState, h.toState]
  · show some audit.toState = _
    rw [h.toState, h.state]

namespace CommandStore

theorem auditOf_append (h : store'.audit.rows = store.audit.rows ++ [audit]) (id : CommandId) :
    store'.auditOf id = store.auditOf id ++ if audit.commandId = id then [audit] else [] := by
  unfold auditOf
  rw [h, filter_append]
  by_cases hid : audit.commandId = id <;> simp [hid]

structure Audited (store : CommandStore) : Prop where
  histories : ∀ row ∈ store.commands.rows,
    CompleteHistory row.command (store.auditOf row.command.envelope.id)
  owned : ∀ audit ∈ store.audit.rows, ∃ row ∈ store.commands.rows,
    row.command.envelope.id = audit.commandId

theorem Audited.created {row : StoredCommand} (h : Audited store) (hc : Created store store' row audit) :
    Audited store' := by
  have hnone : ∀ other ∈ store.commands.rows,
      other.command.envelope.id ≠ row.command.envelope.id := find_eq_none.mp hc.absent
  refine ⟨?_, ?_⟩
  · intro other hother
    rw [hc.commands, mem_append, mem_singleton] at hother
    rw [auditOf_append hc.audit]
    rcases hother with hother | rfl
    · have hne : audit.commandId ≠ other.command.envelope.id := by
        rw [hc.receipt.commandId]
        exact (hnone other hother).symm
      rw [if_neg hne, append_nil]
      exact h.histories other hother
    · -- no audit row can belong to an identifier that was not stored
      have hempty : store.auditOf other.command.envelope.id = [] := by
        unfold auditOf
        rw [filter_eq_nil_iff]
        intro earlier hearlier heq
        obtain ⟨owner, howner, hid⟩ := h.owned earlier hearlier
        exact hnone owner howner (hid.trans (beq_iff_eq.mp heq))
      rw [hempty, if_pos hc.receipt.commandId]
      exact .receipt hc.receipt
  · intro entry hentry
    rw [hc.audit, mem_append, mem_singleton] at hentry
    rw [hc.commands]
    rcases hentry with hentry | rfl
    · obtain ⟨owner, howner, hid⟩ := h.owned entry hentry
      exact ⟨owner, mem_append_left _ howner, hid⟩
    · exact ⟨row, mem_append_right _ (mem_singleton.mpr rfl), hc.receipt.commandId.symm⟩

theorem Audited.moved {current next : StoredCommand} (h : Audited store)
    (hm : Moved store store' current next audit) :
    Audited store' := by
  obtain ⟨hcurrent, hid⟩ := find_eq_some.mp hm.found
  refine ⟨?_, ?_⟩
  · intro other hother
    rw [hm.commands] at hother
    rw [auditOf_append hm.audit, hm.move.commandId]
    rcases (mem_replace hm.found).mp hother with rfl | ⟨hother, hne⟩
    · rw [if_pos rfl]
      have hhistory := h.histories current hcurrent
      rw [hid] at hhistory
      exact hhistory.extend hm.move hm.bounded
    · rw [if_neg hne.symm, append_nil]
      exact h.histories other hother
  · intro entry hentry
    rw [hm.audit, mem_append, mem_singleton] at hentry
    rw [hm.commands]
    have hnext : next ∈ (store.commands.replace next).rows :=
      (mem_replace hm.found).mpr (.inl rfl)
    rcases hentry with hentry | rfl
    · obtain ⟨owner, howner, hownerId⟩ := h.owned entry hentry
      by_cases hsame : owner.command.envelope.id = next.command.envelope.id
      · exact ⟨next, hnext, hsame.symm.trans hownerId⟩
      · exact ⟨owner, (mem_replace hm.found).mpr (.inr ⟨howner, hsame⟩), hownerId⟩
    · exact ⟨next, hnext, hm.move.commandId.symm⟩

theorem Audited.changes (h : Audited store) (hc : Changes P store store') : Audited store' := by
  cases hc with
  | same hc ha =>
    have haudit : ∀ id, store'.auditOf id = store.auditOf id := by
      intro id
      unfold auditOf
      rw [ha]
    refine ⟨?_, ?_⟩
    · intro row hrow
      rw [haudit]
      exact h.histories row (hc ▸ hrow)
    · rw [ha, hc]
      exact h.owned
  | created row audit hc => exact h.created hc
  | moved current next audit hm _ => exact h.moved hm

/-- What is left of a stored command later: the request as it was, the same audit rows
and perhaps more of them, and everything as it was once the state is terminal. -/
structure Kept (store store' : CommandStore) (row row' : StoredCommand) : Prop where
  envelope : row'.command.envelope = row.command.envelope
  requestHash : row'.requestHash = row.requestHash
  audit : store.auditOf row.command.envelope.id <+: store'.auditOf row.command.envelope.id
  terminal : row.command.state.isTerminal = true → row' = row ∧
    store'.auditOf row.command.envelope.id = store.auditOf row.command.envelope.id

def Persists (store store' : CommandStore) : Prop :=
  ∀ row ∈ store.commands.rows, ∃ row' ∈ store'.commands.rows, Kept store store' row row'

theorem Persists.refl (store : CommandStore) : Persists store store :=
  fun row hrow => ⟨row, hrow, rfl, rfl, prefix_rfl, fun _ => ⟨rfl, rfl⟩⟩

theorem Persists.trans {a b c : CommandStore} (hab : Persists a b) (hbc : Persists b c) :
    Persists a c := by
  intro row hrow
  obtain ⟨row', hrow', hkept⟩ := hab row hrow
  obtain ⟨row'', hrow'', hkept'⟩ := hbc row' hrow'
  have haudit := hkept'.audit
  have hterminal := hkept'.terminal
  rw [hkept.envelope] at haudit hterminal
  refine ⟨row'', hrow'', hkept'.envelope.trans hkept.envelope,
    hkept'.requestHash.trans hkept.requestHash, hkept.audit.trans haudit, ?_⟩
  intro hstate
  obtain ⟨rfl, hsame⟩ := hkept.terminal hstate
  obtain ⟨hrows, haudits⟩ := hterminal hstate
  exact ⟨hrows, haudits.trans hsame⟩

theorem Changes.persists (h : Changes P store store') : Persists store store' := by
  intro row hrow
  cases h with
  | same hc ha =>
    have haudit : store'.auditOf row.command.envelope.id = store.auditOf row.command.envelope.id := by
      unfold auditOf
      rw [ha]
    exact ⟨row, hc ▸ hrow, rfl, rfl, haudit ▸ prefix_rfl, fun _ => ⟨rfl, haudit⟩⟩
  | created created audit hc =>
    have haudit := auditOf_append hc.audit row.command.envelope.id
    have hne : audit.commandId ≠ row.command.envelope.id := by
      rw [hc.receipt.commandId]
      exact (find_eq_none.mp hc.absent row hrow).symm
    rw [if_neg hne, append_nil] at haudit
    exact ⟨row, hc.commands ▸ mem_append_left _ hrow, rfl, rfl, haudit ▸ prefix_rfl,
      fun _ => ⟨rfl, haudit⟩⟩
  | moved current next audit hm _ =>
    have haudit := auditOf_append hm.audit row.command.envelope.id
    rw [hm.move.commandId] at haudit
    obtain ⟨hcurrent, hid⟩ := find_eq_some.mp hm.found
    rw [hm.commands]
    by_cases hsame : row.command.envelope.id = next.command.envelope.id
    · -- the row that moves was in a state that allows it, so it was not terminal
      have hrow' : row = current := eq_of_key hrow hcurrent (hsame.trans hid.symm)
      subst hrow'
      refine ⟨next, (mem_replace hm.found).mpr (.inl rfl), hm.move.envelope, hm.requestHash,
        haudit ▸ prefix_append _ _, ?_⟩
      intro hterminal
      rw [CommandState.allowsTransitionTo_terminal hm.move.allowed] at hterminal
      cases hterminal
    · rw [if_neg (Ne.symm hsame), append_nil] at haudit
      exact ⟨row, (mem_replace hm.found).mpr (.inr ⟨hrow, hsame⟩), rfl, rfl,
        haudit ▸ prefix_rfl, fun _ => ⟨rfl, haudit⟩⟩

def Reaches (host : StoreHost) (commandIdText : CommandId → String) :
    CommandStore → CommandStore → Prop :=
  Relation.ReflTransGen (fun store store' => ∃ (c : CommandCall) (r : c.Response),
    commandHandler host commandIdText c store r store')

theorem Reaches.persists (h : Reaches host commandIdText store store') :
    Persists store store' := by
  induction h with
  | refl => exact .refl _
  | tail _ hstep ih =>
    obtain ⟨c, r, hcall⟩ := hstep
    exact ih.trans (commandHandler_changes hcall).persists

theorem Reaches.audited (h : Reaches host commandIdText store store') (hstart : Audited store) : Audited store' := by
  induction h with
  | refl => exact hstart
  | tail _ hstep ih =>
    obtain ⟨c, r, hcall⟩ := hstep
    exact ih.changes (commandHandler_changes hcall)

theorem Reaches.of_run (now : Instant) (p : Program CommandCall CommandCall.Response α) (store : CommandStore) :
    Reaches host commandIdText store (p.run (commandApply host commandIdText now) store).2 := by
  induction p generalizing store with
  | done a => exact .refl
  | call c next ih =>
    exact .head ⟨c, _, commandApply_handles host commandIdText now c store⟩ (ih _ _)

end CommandStore

/-- From a repository without commands on, every command always has a complete linked
history, and whatever happens afterwards keeps its request, keeps its history as the
beginning of the later one, and changes nothing once its state is terminal. -/
theorem command_history_complete {host : StoreHost} {commandIdText : CommandId → String}
    {start store later : CommandStore} (hcommands : start.commands.rows = [])
    (haudit : start.audit.rows = []) (hrun : CommandStore.Reaches host commandIdText start store)
    (hlater : CommandStore.Reaches host commandIdText store later) :
    (∀ row ∈ store.commands.rows,
      CompleteHistory row.command (store.auditOf row.command.envelope.id)) ∧
    CommandStore.Persists store later := by
  have hstart : CommandStore.Audited start := by
    refine ⟨?_, ?_⟩
    · rw [hcommands]
      exact fun row hrow => absurd hrow List.not_mem_nil
    · rw [haudit]
      exact fun audit haudit => absurd haudit List.not_mem_nil
  exact ⟨(hrun.audited hstart).histories, hlater.persists⟩

def resident : Actor := ⟨1, 1, .user, true⟩

def lampCommands : CommandStore where
  devices := ⟨[lampRecord], List.nodup_singleton _⟩
  actors := ⟨[⟨resident, [⟨1, 1, [.execute], .device 7, .comfort, true⟩]⟩], List.nodup_singleton _⟩
  commands := .empty
  audit := .empty
  projections := .empty
  slots := .empty
  authorizations := .empty
  supersessions := .empty

def lampKey : IdempotencyKey := ⟨"lamp", by decide, by decide, by decide⟩

def lampOn : CommandRequest :=
  ⟨7, "switch:0", .onOff (.set true), lampKey, 10, none, false, .fresh 1, none, none⟩

def lampLater : CommandRequest :=
  { lampOn with deadline := 30, idempotencyKey := ⟨"later", by decide, by decide, by decide⟩ }

def residentHost : CommandHost where
  canonicalHash := fun request => toString request.deviceId ++ ":" ++ toString request.deadline
  freshness := ⟨60, 120, by decide, by decide⟩
  dispatchControl := false

def CommandStore.after {α : Type} (store : CommandStore) (p : CommandM α) (now : Instant) :
    CommandStore :=
  (p.run.run (commandApply minuteStoreHost (fun id => toString id) now) store).2

theorem CommandStore.reaches_after (store : CommandStore) (p : CommandM α) (now : Instant) :
    Reaches minuteStoreHost (fun id => toString id) store (store.after p now) :=
  .of_run now p.run store

def lampSent : CommandStore := lampCommands.after (execute residentHost resident lampOn 5) 5

def lampRecovered : CommandStore := lampSent.after (recoverCommands residentHost 20) 20

theorem command_history_complete_lamp :
    lampSent.commands.rows.map (fun row => (row.command.state, row.command.version)) =
      [(.acknowledged, 3)] ∧
    lampRecovered.commands.rows.map (fun row => (row.command.state, row.command.version)) =
      [(.timedOut, 4)] ∧
    (∀ row ∈ lampSent.commands.rows,
      CompleteHistory row.command (lampSent.auditOf row.command.envelope.id)) ∧
    CommandStore.Persists lampSent lampRecovered := by
  have hcommands : lampCommands.commands.rows = [] := rfl
  refine ⟨by decide +kernel, by decide +kernel, ?_⟩
  exact command_history_complete hcommands rfl (lampCommands.reaches_after _ 5)
    (lampSent.reaches_after _ 20)

end HomeMagic
