import HomeMagic.CommandStore
import HomeMagic.Fallible
import HomeMagic.MatterOperation
import HomeMagic.TableRetention

/-! Retention of commands and of Matter operations, on the columns that its statements read.
Operation bindings and node results go with their operation, as progress rows do. -/
namespace HomeMagic
open Table Fallible Bool

structure CommandRow where
  id : CommandId
  installationId : InstallationId
  terminal : Bool
  updatedAt : Instant
  deriving DecidableEq

structure AuditRow where
  cursor : ℕ
  installationId : InstallationId
  occurredAt : Instant
  deriving DecidableEq

structure AuthorizationRow where
  installationId : InstallationId
  authorization : MatterUnlockAuthorization
  deriving DecidableEq

structure MatterOperationRow where
  installationId : InstallationId
  operation : MatterOperation
  deriving DecidableEq

structure MatterRepairRow where
  installationId : InstallationId
  repair : MatterRepairRecord
  deriving DecidableEq

structure RetentionStore where
  commands : Table CommandId CommandRow CommandRow.id
  audit : Table ℕ AuditRow AuditRow.cursor
  slots : Table MatterProjectionId MatterDesiredCommandSlot MatterDesiredCommandSlot.projectionId
  authorizations : Table MatterUnlockAuthorizationId AuthorizationRow (fun row => row.authorization.id)
  supersessions : Table CommandId MatterCommandSupersession MatterCommandSupersession.oldCommandId
  operations : Table MatterOperationId MatterOperationRow (fun row => row.operation.id)
  repairs : Table ℕ MatterRepairRow (fun row => row.repair.id)
  progress : Table (MatterOperationId × ℕ) MatterOperationProgress (fun row => (row.operationId, row.revision))

structure CommandRetention where
  installationId : InstallationId
  terminalBefore : Instant
  maximumTerminalCommands : ℕ
  auditBefore : Instant
  maximumAuditRecords : ℕ
  deriving DecidableEq

structure CommandRetentionResult where
  commandsRemoved : ℕ
  auditRecordsRemoved : ℕ
  deriving DecidableEq

structure MatterRetention where
  installationId : InstallationId
  now : Instant
  terminalBefore : Instant
  resolvedRepairBefore : Instant
  authorizationBefore : Instant
  maximumTerminalOperations : ℕ
  deriving DecidableEq

structure MatterRetentionResult where
  operationsRemoved : ℕ
  repairsRemoved : ℕ
  authorizationsRemoved : ℕ
  deriving DecidableEq

def toI64Usize (value : ℕ) : Except StorageError ℕ :=
  if value < 2^63 then .ok value else .error .numericOverflow

def newestFirst (time : Instant) (id : ℕ) : (ℤ ×ₗ ℕ)ᵒᵈ :=
  OrderDual.toDual (toLex (time, id))

namespace CommandRetention

def eligible (policy : CommandRetention) (row : CommandRow) : Bool :=
  row.installationId == policy.installationId && row.terminal

def expired (policy : CommandRetention) (row : CommandRow) : Bool :=
  decide (row.updatedAt < policy.terminalBefore)

def auditEligible (policy : CommandRetention) (row : AuditRow) : Bool :=
  row.installationId == policy.installationId

def auditExpired (policy : CommandRetention) (row : AuditRow) : Bool :=
  decide (row.occurredAt < policy.auditBefore)

end CommandRetention

variable {policy : MatterRetention} {gone : CommandRow → Bool} {id id' : ℕ} {result : CommandRetentionResult}
  {time time' : Instant}

namespace RetentionStore

def deleteCommands (store : RetentionStore) (gone : CommandRow → Bool) :
    Except StorageError (RetentionStore × ℕ) :=
  let deleted := fun id => (store.commands.find id).any gone
  if store.slots.rows.any (fun slot => deleted slot.commandId) then .error .constraint
  else .ok ({ store with
    commands := store.commands.filter (fun row => !gone row)
    authorizations := store.authorizations.filter (fun row => !deleted row.authorization.commandId)
    supersessions := store.supersessions.filter (fun row =>
      !(deleted row.oldCommandId || deleted row.newCommandId)) }, store.commands.count gone)

def deleteAudit (store : RetentionStore) (gone : AuditRow → Bool) : RetentionStore × ℕ :=
  ({ store with audit := store.audit.filter (fun row => !gone row) }, store.audit.count gone)

def retainCommands (store : RetentionStore) (policy : CommandRetention) :
    Except StorageError (RetentionStore × CommandRetentionResult) := do
  let (store, expired) ← store.deleteCommands (fun row => policy.eligible row && policy.expired row)
  let maximum ← toI64Usize policy.maximumTerminalCommands
  let newest := store.commands.page policy.eligible (fun row => newestFirst row.updatedAt row.id) maximum
  let (store, surplus) ← store.deleteCommands (fun row => policy.eligible row && !newest.contains row)
  let (store, expiredAudit) := store.deleteAudit (fun row => policy.auditEligible row && policy.auditExpired row)
  let maximum ← toI64Usize policy.maximumAuditRecords
  let newest := store.audit.page policy.auditEligible (fun row => newestFirst row.occurredAt row.cursor) maximum
  let (store, surplusAudit) := store.deleteAudit (fun row => policy.auditEligible row && !newest.contains row)
  .ok (store, ⟨expired + surplus, expiredAudit + surplusAudit⟩)

def authorizationGone (policy : MatterRetention) (row : AuthorizationRow) : Bool :=
  row.installationId == policy.installationId &&
    (row.authorization.consumedAt.any (fun consumedAt => decide (consumedAt < policy.authorizationBefore)) ||
      (row.authorization.consumedAt.isNone && decide (row.authorization.expiresAt ≤ policy.now) &&
        decide (row.authorization.expiresAt < policy.authorizationBefore)))

def repairGone (policy : MatterRetention) (row : MatterRepairRow) : Bool :=
  row.installationId == policy.installationId && row.repair.status == .resolved &&
    decide (row.repair.updatedAt < policy.resolvedRepairBefore)

def unresolved (store : RetentionStore) (operationId : MatterOperationId) : Bool :=
  store.repairs.rows.any (fun row => row.repair.operationId == operationId && row.repair.status != .resolved)

def operationEligible (store : RetentionStore) (policy : MatterRetention) (row : MatterOperationRow) : Bool :=
  row.installationId == policy.installationId && row.operation.phase.isTerminal &&
    !store.unresolved row.operation.id

def operationExpired (policy : MatterRetention) (row : MatterOperationRow) : Bool :=
  decide (row.operation.updatedAt < policy.terminalBefore)

def deleteOperations (store : RetentionStore) (gone : MatterOperationRow → Bool) : RetentionStore × ℕ :=
  let deleted := fun id => (store.operations.find id).any gone
  ({ store with
    operations := store.operations.filter (fun row => !gone row)
    repairs := store.repairs.filter (fun row => !deleted row.repair.operationId)
    progress := store.progress.filter (fun row => !deleted row.operationId) }, store.operations.count gone)

def retain (store : RetentionStore) (policy : MatterRetention) :
    Except StorageError (RetentionStore × MatterRetentionResult) := do
  let authorizationsRemoved := store.authorizations.count (authorizationGone policy)
  let store := { store with
    authorizations := store.authorizations.filter (fun row => !authorizationGone policy row) }
  let repairsRemoved := store.repairs.count (repairGone policy)
  let store := { store with repairs := store.repairs.filter (fun row => !repairGone policy row) }
  let (store, expired) := store.deleteOperations (fun row =>
    store.operationEligible policy row && operationExpired policy row)
  let maximum ← toI64Usize policy.maximumTerminalOperations
  let newest := store.operations.page (store.operationEligible policy)
    (fun row => newestFirst row.operation.updatedAt row.operation.id) maximum
  let (store, surplus) := store.deleteOperations (fun row =>
    store.operationEligible policy row && !newest.contains row)
  .ok (store, ⟨expired + surplus, repairsRemoved, authorizationsRemoved⟩)

/-- A finished command of the installation that is older than the cutoff or beyond the newest. -/
def DueCommand (store : RetentionStore) (policy : CommandRetention) : CommandRow → Prop :=
  store.commands.Due policy.eligible policy.expired (fun row => newestFirst row.updatedAt row.id)
    policy.maximumTerminalCommands

/-- A finished operation without an open repair that is older than the cutoff or beyond the newest. -/
def DueOperation (store : RetentionStore) (policy : MatterRetention) : MatterOperationRow → Prop :=
  store.operations.Due (store.operationEligible policy) (operationExpired policy)
    (fun row => newestFirst row.operation.updatedAt row.operation.id) policy.maximumTerminalOperations

def Needed (store : RetentionStore) (row : CommandRow) : Prop :=
  ∃ slot ∈ store.slots.rows, slot.commandId = row.id

theorem newestFirst_inj (h : newestFirst time id = newestFirst time' id') :
    id = id' := by
  have hlex : toLex (time, id) = toLex (time', id') := congrArg OrderDual.ofDual h
  exact congrArg (fun pair => (ofLex pair).2) hlex

theorem expired_of_newestFirst {cutoff : Instant} (h : newestFirst time' id' < newestFirst time id)
    (hexpired : time' < cutoff) : time < cutoff := by
  have hlex : toLex (time, id) < toLex (time', id') := h
  rcases (Prod.Lex.lt_iff).mp hlex with hlt | ⟨heq, -⟩
  · exact lt_trans hlt hexpired
  · exact lt_of_le_of_lt (le_of_eq heq) hexpired

theorem injOn_commands (store : RetentionStore) :
    Set.InjOn (fun row => newestFirst row.updatedAt row.id) {row | row ∈ store.commands.rows} :=
  fun _ ha _ hb h => eq_of_key ha hb (newestFirst_inj h)

theorem injOn_audit (store : RetentionStore) :
    Set.InjOn (fun row => newestFirst row.occurredAt row.cursor) {row | row ∈ store.audit.rows} :=
  fun _ ha _ hb h => eq_of_key ha hb (newestFirst_inj h)

theorem injOn_operations (store : RetentionStore) :
    Set.InjOn (fun row => newestFirst row.operation.updatedAt row.operation.id)
      {row | row ∈ store.operations.rows} :=
  fun _ ha _ hb h => eq_of_key ha hb (newestFirst_inj h)

variable {store store' : RetentionStore}

theorem toI64Usize_ok {value result : ℕ} (h : toI64Usize value = .ok result) :
    result = value ∧ value < 2^63 := by
  unfold toI64Usize at h
  split at h
  next hlt =>
    cases h
    exact ⟨rfl, hlt⟩
  · cases h

theorem deleteCommands_ok {removed : ℕ} (h : store.deleteCommands gone = .ok (store', removed)) :
    (∀ slot ∈ store.slots.rows, ∀ row ∈ store.commands.rows, gone row = true → slot.commandId ≠ row.id) ∧
      store'.commands = store.commands.filter (fun row => !gone row) ∧ store'.slots = store.slots ∧
      store'.audit = store.audit ∧ removed = store.commands.count gone := by
  unfold deleteCommands at h
  dsimp only at h
  split at h
  · cases h
  next hfree =>
    cases h
    refine ⟨?_, rfl, rfl, rfl, rfl⟩
    intro slot hslot row hrow hgone heq
    apply hfree
    rw [List.any_eq_true]
    refine ⟨slot, hslot, ?_⟩
    rw [heq, find_eq_some.mpr ⟨hrow, rfl⟩]
    exact hgone

theorem exists_deleteCommands (hfree : ∀ slot ∈ store.slots.rows, ∀ row ∈ store.commands.rows, gone row = true →
      slot.commandId ≠ row.id) :
    ∃ result, store.deleteCommands gone = .ok result := by
  unfold deleteCommands
  dsimp only
  rw [if_neg]
  · exact ⟨_, rfl⟩
  · intro hany
    obtain ⟨slot, hslot, hdeleted⟩ := List.any_eq_true.mp hany
    rw [Option.any_eq_true] at hdeleted
    obtain ⟨row, hfind, hgone⟩ := hdeleted
    obtain ⟨hrow, hid⟩ := find_eq_some.mp hfind
    exact hfree slot hslot row hrow hgone hid.symm

def keptCommands (store : RetentionStore) (policy : CommandRetention) :
    Table CommandId CommandRow CommandRow.id :=
  (store.commands.expire policy.eligible policy.expired).trim policy.eligible
    (fun row => newestFirst row.updatedAt row.id) policy.maximumTerminalCommands

def keptAudit (store : RetentionStore) (policy : CommandRetention) : Table ℕ AuditRow AuditRow.cursor :=
  (store.audit.expire policy.auditEligible policy.auditExpired).trim policy.auditEligible
    (fun row => newestFirst row.occurredAt row.cursor) policy.maximumAuditRecords

theorem mem_keptCommands {policy : CommandRetention} {row : CommandRow} :
    row ∈ (store.keptCommands policy).rows ↔ row ∈ store.commands.rows ∧ ¬ store.DueCommand policy row := by
  refine mem_trim_expire (injOn_commands store) ?_
  intro a b hrank hexpired
  simp only [CommandRetention.expired, decide_eq_true_eq] at hexpired ⊢
  exact expired_of_newestFirst hrank hexpired

/-- Neither cutoff nor maximum is out of range, and no slot names a due command. -/
structure Removable (store : RetentionStore) (policy : CommandRetention) : Prop where
  commands : policy.maximumTerminalCommands < 2^63
  audit : policy.maximumAuditRecords < 2^63
  unnamed : ∀ row ∈ store.commands.rows, store.DueCommand policy row → ¬ store.Needed row

/-- What a successful retention of commands has checked and removed. -/
theorem retainCommands_ok {policy : CommandRetention} (h : store.retainCommands policy = .ok (store', result)) :
    Removable store policy ∧ store'.commands = store.keptCommands policy ∧
      store'.audit = store.keptAudit policy ∧ store'.slots = store.slots ∧
      result.commandsRemoved = store.commands.count (fun row => policy.eligible row && policy.expired row) +
        (store.commands.expire policy.eligible policy.expired).count (fun row => policy.eligible row &&
          !((store.commands.expire policy.eligible policy.expired).page policy.eligible
            (fun row => newestFirst row.updatedAt row.id) policy.maximumTerminalCommands).contains row) ∧
      result.auditRecordsRemoved =
        store.audit.count (fun row => policy.auditEligible row && policy.auditExpired row) +
        (store.audit.expire policy.auditEligible policy.auditExpired).count (fun row =>
          policy.auditEligible row &&
          !((store.audit.expire policy.auditEligible policy.auditExpired).page policy.auditEligible
            (fun row => newestFirst row.occurredAt row.cursor) policy.maximumAuditRecords).contains row) := by
  unfold retainCommands at h
  obtain ⟨⟨first, expired⟩, hexpired, h⟩ := bind_inv h
  obtain ⟨hfree, hcommands, hslots, haudit, rfl⟩ := deleteCommands_ok hexpired
  obtain ⟨maximum, hmaximum, h⟩ := bind_inv h
  obtain ⟨rfl, hbound⟩ := toI64Usize_ok hmaximum
  obtain ⟨⟨second, surplus⟩, hsurplus, h⟩ := bind_inv h
  obtain ⟨hfree', hcommands', hslots', haudit', rfl⟩ := deleteCommands_ok hsurplus
  obtain ⟨maximum, hmaximum', h⟩ := bind_inv h
  obtain ⟨rfl, hbound'⟩ := toI64Usize_ok hmaximum'
  cases h
  rw [show first.commands = store.commands.expire policy.eligible policy.expired from hcommands] at hcommands' hfree' ⊢
  have haudits : second.audit = store.audit := haudit'.trans haudit
  refine ⟨⟨hbound, hbound', ?_⟩, hcommands', ?_, hslots'.trans hslots, rfl, ?_⟩
  · rintro row hrow hdue ⟨slot, hslot, heq⟩
    by_cases hold : policy.expired row = true
    · exact hfree slot hslot row hrow (by rw [hdue.1, hold]; rfl) heq
    · -- not expired, so it falls to the second deletion
      have hkept : row ∈ (store.commands.expire policy.eligible policy.expired).rows :=
        mem_expire.mpr ⟨hrow, fun h => hold h.2⟩
      have hgone : row ∉ (store.keptCommands policy).rows := fun h => (mem_keptCommands.mp h).2 hdue
      refine hfree' slot (hslots ▸ hslot) row hkept ?_ heq
      by_contra hnot
      apply hgone
      unfold keptCommands Table.trim
      rw [Table.mem_filter]
      exact ⟨hkept, by rw [not_eq_true', eq_false_iff]; exact hnot⟩
  · unfold keptAudit Table.trim Table.expire
    dsimp only
    rw [haudits]
  · unfold Table.expire
    dsimp only
    rw [haudits]

theorem exists_retainCommands {policy : CommandRetention} (h : Removable store policy) :
    ∃ store' result, store.retainCommands policy = .ok (store', result) := by
  have hfree : ∀ slot ∈ store.slots.rows, ∀ row ∈ store.commands.rows,
      (policy.eligible row && policy.expired row) = true → slot.commandId ≠ row.id := by
    intro slot hslot row hrow hgone heq
    rw [and_eq_true] at hgone
    exact h.unnamed row hrow ⟨hgone.1, Or.inl hgone.2⟩ ⟨slot, hslot, heq⟩
  obtain ⟨⟨first, expired⟩, hexpired⟩ := exists_deleteCommands hfree
  obtain ⟨-, hcommands, hslots, -, -⟩ := deleteCommands_ok hexpired
  have hfree' : ∀ slot ∈ first.slots.rows, ∀ row ∈ first.commands.rows,
      (policy.eligible row && !(first.commands.page policy.eligible
        (fun row => newestFirst row.updatedAt row.id) policy.maximumTerminalCommands).contains row) = true →
      slot.commandId ≠ row.id := by
    rw [hslots, hcommands]
    intro slot hslot row hrow hgone heq
    have hrow' : row ∈ store.commands.rows := (Table.mem_filter.mp hrow).1
    refine h.unnamed row hrow' ?_ ⟨slot, hslot, heq⟩
    by_contra hnot
    have hkept := mem_keptCommands.mpr ⟨hrow', hnot⟩
    unfold keptCommands Table.trim at hkept
    have hstays := (Table.mem_filter.mp hkept).2
    rw [show store.commands.expire policy.eligible policy.expired =
      store.commands.filter (fun row => !(policy.eligible row && policy.expired row)) from rfl, hgone] at hstays
    cases hstays
  obtain ⟨⟨second, surplus⟩, hsurplus⟩ := exists_deleteCommands hfree'
  have hmaximum : toI64Usize policy.maximumTerminalCommands = .ok policy.maximumTerminalCommands :=
    if_pos h.commands
  have hmaximum' : toI64Usize policy.maximumAuditRecords = .ok policy.maximumAuditRecords :=
    if_pos h.audit
  have hresult : ∃ result, store.retainCommands policy = .ok result := by
    unfold retainCommands
    apply exists_bind hexpired
    apply exists_bind hmaximum
    apply exists_bind hsurplus
    apply exists_bind hmaximum'
    exact ⟨_, rfl⟩
  obtain ⟨⟨store', result⟩, hok⟩ := hresult
  exact ⟨store', result, hok⟩

/-- What `retain_commands` promises: it succeeds, keeps exactly the commands that are not due or
that a slot still names, and removes nothing when it runs again. -/
def RetainsCommands (store : RetentionStore) (policy : CommandRetention) : Prop :=
  ∃ store' result, store.retainCommands policy = .ok (store', result) ∧
    (∀ row, row ∈ store'.commands.rows ↔
      row ∈ store.commands.rows ∧ (¬ store.DueCommand policy row ∨ store.Needed row)) ∧
    ∃ store'', store'.retainCommands policy = .ok (store'', ⟨0, 0⟩)

/-- A second retention finds nothing to remove. -/
theorem retainCommands_again {policy : CommandRetention} (h : store.retainCommands policy = .ok (store', result)) :
    ∃ store'', store'.retainCommands policy = .ok (store'', ⟨0, 0⟩) := by
  obtain ⟨hremovable, hcommands, haudit, hslots, -, -⟩ := retainCommands_ok h
  have hmono : ∀ a b : CommandRow, newestFirst b.updatedAt b.id < newestFirst a.updatedAt a.id →
      policy.expired b = true → policy.expired a = true := by
    intro a b hrank hexpired
    simp only [CommandRetention.expired, decide_eq_true_eq] at hexpired ⊢
    exact expired_of_newestFirst hrank hexpired
  have hmonoAudit : ∀ a b : AuditRow, newestFirst b.occurredAt b.cursor < newestFirst a.occurredAt a.cursor →
      policy.auditExpired b = true → policy.auditExpired a = true := by
    intro a b hrank hexpired
    simp only [CommandRetention.auditExpired, decide_eq_true_eq] at hexpired ⊢
    exact expired_of_newestFirst hrank hexpired
  have hnone : ∀ row ∈ store'.commands.rows, ¬ store'.DueCommand policy row := by
    intro row hrow
    unfold DueCommand
    rw [hcommands] at hrow ⊢
    exact not_due_of_mem_trim_expire (injOn_commands store) hmono hrow
  have hnoneAudit : ∀ row ∈ store'.audit.rows, ¬ store'.audit.Due policy.auditEligible policy.auditExpired
      (fun row => newestFirst row.occurredAt row.cursor) policy.maximumAuditRecords row := by
    intro row hrow
    rw [haudit] at hrow ⊢
    exact not_due_of_mem_trim_expire (injOn_audit store) hmonoAudit hrow
  obtain ⟨store'', again, hok⟩ := @exists_retainCommands store' policy
    ⟨hremovable.commands, hremovable.audit, fun row hrow hdue => absurd hdue (hnone row hrow)⟩
  obtain ⟨-, -, -, -, hremoved, hremovedAudit⟩ := retainCommands_ok hok
  have hsame : store'.commands.expire policy.eligible policy.expired = store'.commands :=
    Table.filter_eq_self (fun row hrow => by rw [expire_of_none_due hnone row hrow]; rfl)
  have hsameAudit : store'.audit.expire policy.auditEligible policy.auditExpired = store'.audit :=
    Table.filter_eq_self (fun row hrow => by rw [expire_of_none_due hnoneAudit row hrow]; rfl)
  rw [hsame, Table.count_eq_zero (expire_of_none_due hnone),
    Table.count_eq_zero (trim_of_none_due (injOn_commands store') hnone)] at hremoved
  rw [hsameAudit, Table.count_eq_zero (expire_of_none_due hnoneAudit),
    Table.count_eq_zero (trim_of_none_due (injOn_audit store') hnoneAudit)] at hremovedAudit
  refine ⟨store'', ?_⟩
  rw [hok]
  congr 2
  cases again
  congr

theorem retainsCommands_iff {policy : CommandRetention} :
    store.RetainsCommands policy ↔ store.Removable policy := by
  constructor
  · rintro ⟨store', result, hok, -, -⟩
    exact (retainCommands_ok hok).1
  · intro hremovable
    obtain ⟨store', result, hok⟩ := exists_retainCommands hremovable
    obtain ⟨-, hcommands, -⟩ := retainCommands_ok hok
    refine ⟨store', result, hok, ?_, retainCommands_again hok⟩
    intro row
    rw [hcommands, mem_keptCommands]
    constructor
    · rintro ⟨hrow, hnot⟩
      exact ⟨hrow, Or.inl hnot⟩
    · rintro ⟨hrow, hnot | hneeded⟩
      · exact ⟨hrow, hnot⟩
      · exact ⟨hrow, fun hdue => hremovable.unnamed row hrow hdue hneeded⟩

theorem unresolved_filter {kept : MatterRepairRow → Bool}
    (hkept : ∀ row ∈ store.repairs.rows, kept row = false → row.repair.status ≠ .resolved →
      store.unresolved row.repair.operationId = false) (operationId : MatterOperationId) :
    ({ store with repairs := store.repairs.filter kept } : RetentionStore).unresolved operationId =
      store.unresolved operationId := by
  rw [Bool.eq_iff_iff]
  unfold unresolved
  rw [List.any_eq_true, List.any_eq_true]
  constructor
  · rintro ⟨row, hrow, hopen⟩
    exact ⟨row, (Table.mem_filter.mp hrow).1, hopen⟩
  · rintro ⟨row, hrow, hopen⟩
    refine ⟨row, Table.mem_filter.mpr ⟨hrow, ?_⟩, hopen⟩
    by_contra hgone
    rw [and_eq_true, beq_iff_eq, bne_iff_ne] at hopen
    have hnone := hkept row hrow (by simpa using hgone) hopen.2
    rw [unresolved, List.any_eq_false] at hnone
    exact hnone row hrow (by simp [hopen.2])

theorem unresolved_deleteOperations {gone : MatterOperationRow → Bool}
    (hgone : ∀ row ∈ store.operations.rows, gone row = true → store.unresolved row.operation.id = false) :
    (store.deleteOperations gone).1.unresolved = store.unresolved := by
  funext operationId
  refine @unresolved_filter store _ ?_ operationId
  intro row _ hdeleted _
  rw [not_eq_false', Option.any_eq_true] at hdeleted
  obtain ⟨operation, hfind, hgoneRow⟩ := hdeleted
  obtain ⟨hoperation, hid⟩ := find_eq_some.mp hfind
  rw [← hid]
  exact hgone operation hoperation hgoneRow

def beforeOperations (store : RetentionStore) (policy : MatterRetention) : RetentionStore :=
  { store with
    authorizations := store.authorizations.filter (fun row => !authorizationGone policy row)
    repairs := store.repairs.filter (fun row => !repairGone policy row) }

theorem unresolved_beforeOperations :
    (store.beforeOperations policy).unresolved = store.unresolved := by
  funext operationId
  refine @unresolved_filter { store with
    authorizations := store.authorizations.filter (fun row => !authorizationGone policy row) } _ ?_ operationId
  intro row _ hgone hopen
  simp only [repairGone, not_eq_false', and_eq_true, beq_iff_eq] at hgone
  exact absurd hgone.1.2 hopen

theorem operationEligible_congr (h : store'.unresolved = store.unresolved) :
    store'.operationEligible policy = store.operationEligible policy := by
  funext row
  unfold operationEligible
  rw [h]

theorem not_unresolved_of_eligible {row : MatterOperationRow} {b : Bool}
    (h : (store.operationEligible policy row && b) = true) : store.unresolved row.operation.id = false := by
  simp only [operationEligible, and_eq_true, not_eq_true'] at h
  exact h.1.2

def withoutExpired (store : RetentionStore) (policy : MatterRetention) : RetentionStore :=
  ((store.beforeOperations policy).deleteOperations (fun row =>
    (store.beforeOperations policy).operationEligible policy row && operationExpired policy row)).1

theorem unresolved_withoutExpired :
    (store.withoutExpired policy).unresolved = store.unresolved :=
  (unresolved_deleteOperations (fun _ _ h => not_unresolved_of_eligible h)).trans unresolved_beforeOperations

theorem operations_withoutExpired :
    (store.withoutExpired policy).operations =
      store.operations.expire (store.operationEligible policy) (operationExpired policy) := by
  unfold withoutExpired deleteOperations Table.expire
  dsimp only
  rw [operationEligible_congr unresolved_beforeOperations]
  rfl

def surplusOperation (store : RetentionStore) (policy : MatterRetention) (row : MatterOperationRow) : Bool :=
  (store.withoutExpired policy).operationEligible policy row &&
    !((store.withoutExpired policy).operations.page ((store.withoutExpired policy).operationEligible policy)
      (fun row => newestFirst row.operation.updatedAt row.operation.id)
      policy.maximumTerminalOperations).contains row

def withoutSurplus (store : RetentionStore) (policy : MatterRetention) : RetentionStore :=
  ((store.withoutExpired policy).deleteOperations (store.surplusOperation policy)).1

theorem unresolved_withoutSurplus :
    (store.withoutSurplus policy).unresolved = store.unresolved :=
  (unresolved_deleteOperations (fun _ _ h => not_unresolved_of_eligible h)).trans unresolved_withoutExpired

/-- What a successful retention of operations has checked and removed. -/
theorem retain_ok {policy : MatterRetention} {result : MatterRetentionResult}
    (h : store.retain policy = .ok (store', result)) :
    policy.maximumTerminalOperations < 2^63 ∧
      store'.operations = (store.operations.expire (store.operationEligible policy)
        (operationExpired policy)).trim (store.operationEligible policy)
        (fun row => newestFirst row.operation.updatedAt row.operation.id) policy.maximumTerminalOperations ∧
      store'.unresolved = store.unresolved ∧
      (∀ row ∈ store'.repairs.rows, repairGone policy row = false) ∧
      (∀ row ∈ store'.authorizations.rows, authorizationGone policy row = false) ∧
      result = ⟨store.operations.count (fun row =>
          store.operationEligible policy row && operationExpired policy row) +
        (store.operations.expire (store.operationEligible policy) (operationExpired policy)).count (fun row =>
          store.operationEligible policy row &&
          !((store.operations.expire (store.operationEligible policy) (operationExpired policy)).page
            (store.operationEligible policy)
            (fun row => newestFirst row.operation.updatedAt row.operation.id)
            policy.maximumTerminalOperations).contains row),
        store.repairs.count (repairGone policy), store.authorizations.count (authorizationGone policy)⟩ := by
  unfold retain at h
  obtain ⟨maximum, hmaximum, h⟩ := bind_inv h
  obtain ⟨rfl, hbound⟩ := toI64Usize_ok hmaximum
  have heligible : (store.beforeOperations policy).operationEligible policy = store.operationEligible policy :=
    operationEligible_congr unresolved_beforeOperations
  have heligible' : (store.withoutExpired policy).operationEligible policy = store.operationEligible policy :=
    operationEligible_congr unresolved_withoutExpired
  have hoperations : (store.withoutExpired policy).operations =
    store.operations.expire (store.operationEligible policy) (operationExpired policy) := operations_withoutExpired
  change Except.ok (store.withoutSurplus policy, (⟨(store.beforeOperations policy).operations.count (fun row =>
      (store.beforeOperations policy).operationEligible policy row && operationExpired policy row) +
    (store.withoutExpired policy).operations.count (store.surplusOperation policy),
    store.repairs.count (repairGone policy), store.authorizations.count (authorizationGone policy)⟩ :
      MatterRetentionResult)) = Except.ok (store', result) at h
  cases h
  refine ⟨hbound, ?_, ?_, ?_, ?_, ?_⟩
  · unfold withoutSurplus deleteOperations surplusOperation Table.trim
    dsimp only
    rw [heligible', hoperations]
  · exact unresolved_withoutSurplus
  · intro row hrow
    have hkept := (Table.mem_filter.mp (Table.mem_filter.mp (Table.mem_filter.mp hrow).1).1).2
    rwa [not_eq_true'] at hkept
  · intro row hrow
    have hkept := (Table.mem_filter.mp hrow).2
    rwa [not_eq_true'] at hkept
  · unfold surplusOperation
    rw [heligible, heligible', hoperations]
    rfl

theorem exists_retain {policy : MatterRetention} (h : policy.maximumTerminalOperations < 2^63) :
    ∃ store' result, store.retain policy = .ok (store', result) := by
  have hmaximum : toI64Usize policy.maximumTerminalOperations = .ok policy.maximumTerminalOperations :=
    if_pos h
  have hresult : ∃ result, store.retain policy = .ok result := by
    unfold retain
    apply exists_bind hmaximum
    exact ⟨_, rfl⟩
  obtain ⟨⟨store', result⟩, hok⟩ := hresult
  exact ⟨store', result, hok⟩

theorem operationExpired_of_newestFirst (a b : MatterOperationRow)
    (hrank : newestFirst b.operation.updatedAt b.operation.id < newestFirst a.operation.updatedAt a.operation.id)
    (hexpired : operationExpired policy b = true) : operationExpired policy a = true := by
  simp only [operationExpired, decide_eq_true_eq] at hexpired ⊢
  exact expired_of_newestFirst hrank hexpired

/-- What `retain` promises: it succeeds, keeps exactly the operations that are not due, and
removes nothing when it runs again. -/
def RetainsOperations (store : RetentionStore) (policy : MatterRetention) : Prop :=
  ∃ store' result, store.retain policy = .ok (store', result) ∧
    (∀ row, row ∈ store'.operations.rows ↔ row ∈ store.operations.rows ∧ ¬ store.DueOperation policy row) ∧
    ∃ store'', store'.retain policy = .ok (store'', ⟨0, 0, 0⟩)

theorem retain_again {policy : MatterRetention} {result : MatterRetentionResult}
    (h : store.retain policy = .ok (store', result)) :
    ∃ store'', store'.retain policy = .ok (store'', ⟨0, 0, 0⟩) := by
  obtain ⟨hbound, hoperations, hunresolved, hrepairs, hauthorizations, -⟩ := retain_ok h
  have heligible : store'.operationEligible policy = store.operationEligible policy :=
    operationEligible_congr hunresolved
  have hnone : ∀ row ∈ store'.operations.rows, ¬ store'.DueOperation policy row := by
    intro row hrow
    unfold DueOperation
    rw [heligible]
    rw [hoperations] at hrow ⊢
    exact not_due_of_mem_trim_expire (injOn_operations store) operationExpired_of_newestFirst hrow
  obtain ⟨store'', again, hok⟩ := @exists_retain store' policy hbound
  obtain ⟨-, -, -, -, -, hremoved⟩ := retain_ok hok
  have hsame : store'.operations.expire (store'.operationEligible policy) (operationExpired policy) =
      store'.operations :=
    Table.filter_eq_self (fun row hrow => by rw [expire_of_none_due hnone row hrow]; rfl)
  rw [hsame, Table.count_eq_zero (expire_of_none_due hnone),
    Table.count_eq_zero (trim_of_none_due (injOn_operations store') hnone),
    Table.count_eq_zero hrepairs, Table.count_eq_zero hauthorizations] at hremoved
  exact ⟨store'', by rw [hok, hremoved]⟩

theorem retainsOperations_iff {policy : MatterRetention} :
    store.RetainsOperations policy ↔ policy.maximumTerminalOperations < 2^63 := by
  constructor
  · rintro ⟨store', result, hok, -, -⟩
    exact (retain_ok hok).1
  · intro hbound
    obtain ⟨store', result, hok⟩ := @exists_retain store policy hbound
    obtain ⟨-, hoperations, -⟩ := retain_ok hok
    refine ⟨store', result, hok, ?_, retain_again hok⟩
    intro row
    rw [hoperations]
    exact mem_trim_expire (injOn_operations store) operationExpired_of_newestFirst

/-- Retention keeps its promise exactly when no desired slot names a due command and the maxima
are in the range of the stored integers. -/
theorem retention_removes_due_iff (store : RetentionStore) (commands : CommandRetention)
    (operations : MatterRetention) :
    (store.RetainsCommands commands ∧ store.RetainsOperations operations) ↔
      (commands.maximumTerminalCommands < 2^63 ∧ commands.maximumAuditRecords < 2^63 ∧
        ∀ row ∈ store.commands.rows, store.DueCommand commands row → ¬ store.Needed row) ∧
      operations.maximumTerminalOperations < 2^63 := by
  rw [retainsCommands_iff, retainsOperations_iff]
  constructor
  · rintro ⟨hremovable, hbound⟩
    exact ⟨⟨hremovable.commands, hremovable.audit, hremovable.unnamed⟩, hbound⟩
  · rintro ⟨⟨hcommands, haudit, hunnamed⟩, hbound⟩
    exact ⟨⟨hcommands, haudit, hunnamed⟩, hbound⟩

def desiredOnce : RetentionStore where
  commands := ⟨[⟨1, 0, true, 10⟩], by decide⟩
  audit := .empty
  slots := ⟨[⟨7, 1, 1, none, 10⟩], by decide⟩
  authorizations := .empty
  supersessions := .empty
  operations := .empty
  repairs := .empty
  progress := .empty

/-- Its retention fails. -/
theorem desired_command_stops_retention :
    desiredOnce.retainCommands ⟨0, 100, 50, 100, 50⟩ = .error .constraint ∧
      ¬ (desiredOnce.RetainsCommands ⟨0, 100, 50, 100, 50⟩ ∧
        desiredOnce.RetainsOperations ⟨0, 100, 100, 100, 100, 50⟩) := by
  have herror : desiredOnce.retainCommands ⟨0, 100, 50, 100, 50⟩ = .error .constraint := by
    rfl
  refine ⟨herror, ?_⟩
  rintro ⟨⟨store', result, hok, -⟩, -⟩
  rw [herror] at hok
  cases hok

end RetentionStore
end HomeMagic
