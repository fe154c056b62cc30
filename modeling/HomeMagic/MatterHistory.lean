import HomeMagic.MatterRepositorySpec

/-! The history of Matter operations. A workflow holds operations that it loaded at any time
before; it moves one in the domain and commits the result against the revision it loaded. -/
namespace HomeMagic
open List Table

def progressWithError (operation : MatterOperation) (error : Option MatterControllerError) :
    MatterOperationProgress :=
  ⟨operation.id, operation.revision, operation.phase, operation.updatedAt, error⟩

inductive MatterCommit
  | create (operation : MatterOperation) (progress : MatterOperationProgress)
  | admission (operation : MatterOperation) (binding : MatterOperationBinding) (progress : MatterOperationProgress)
  | transition (write : MatterOperationWrite)
  | commissioning (commit : MatterCommissioningCommit) (expectedRevision : ℕ)
  | cancellation (commit : MatterCancellationCommit)
  | removal (commit : MatterNodeRemovalCommit) (expectedRevision : ℕ)
  | repair (commit : MatterSubscriptionRepairCommit)
  | subscription (subscription : StoredMatterSubscription) (expectedRevision : Option ℕ)

namespace MatterCommit

def created : MatterCommit → Option (MatterOperation × MatterOperationProgress)
  | create operation progress | admission operation _ progress => some (operation, progress)
  | _ => none

def written : MatterCommit → List MatterOperationWrite
  | transition write => [write]
  | commissioning commit expectedRevision => [⟨commit.operation, expectedRevision, commit.progress, none⟩]
  | cancellation commit => [commit.commissioning, commit.cancellation]
  | removal commit expectedRevision => [⟨commit.operation, expectedRevision, commit.progress, none⟩]
  | repair commit => [commit.operation]
  | create _ _ | admission _ _ _ | subscription _ _ => []

end MatterCommit

namespace MatterStore

def apply (store : MatterStore) : MatterCommit → Except StorageError MatterStore
  | .create operation progress => store.createMatterOperation operation progress
  | .admission operation binding progress => do
    let (store, _) ← store.createAdministrationOperation operation binding progress
    .ok store
  | .transition write => store.transitionOperation write
  | .commissioning commit expectedRevision => store.commitCommissioning commit expectedRevision
  | .cancellation commit => store.commitCancellation commit
  | .removal commit expectedRevision => store.commitNodeRemoval commit expectedRevision
  | .repair commit => store.commitSubscriptionRepair commit
  | .subscription subscription expectedRevision => store.storeSubscription subscription expectedRevision

def runWrite (store : MatterStore) (commit : MatterCommit) : MatterStore :=
  match store.apply commit with
  | .ok store' => store'
  | .error _ => store

def history (store : MatterStore) (operationId : MatterOperationId) : List MatterOperationProgress :=
  store.progress.rows.filter (fun row => row.operationId == operationId)

def repairsOf (store : MatterStore) (operationId : MatterOperationId) : List MatterRepairRecord :=
  store.repairs.rows.filter (fun repair => repair.operationId == operationId)

structure Follows (kind : MatterOperationKind) (earlier later : MatterOperationProgress) : Prop where
  edge : validTransition kind earlier.phase later.phase = true
  active : earlier.phase.isTerminal = false
  time : earlier.occurredAt ≤ later.occurredAt

structure Recorded (store : MatterStore) (operation : MatterOperation) : Prop where
  revisions : (store.history operation.id).map MatterOperationProgress.revision = List.range' 1 operation.revision
  moves : (store.history operation.id).IsChain (Follows operation.kind)
  last : ∃ row, (store.history operation.id).getLast? = some row ∧ row.phase = operation.phase ∧
    row.occurredAt = operation.updatedAt
  repaired : operation.phase = .repairRequired → ∃ repair row, store.repairsOf operation.id = [repair] ∧
    repair.status = .open_ ∧ (store.history operation.id).getLast? = some row ∧ row.error = some repair.error
  unrepaired : operation.phase ≠ .repairRequired → store.repairsOf operation.id = []

def eventSummary (event : MatterOperationTransitioned) :
    MatterOperationId × ℕ × MatterOperationPhase × Instant :=
  (event.operationId, event.revision, event.target, event.occurredAt)

def progressSummary (row : MatterOperationProgress) : MatterOperationId × ℕ × MatterOperationPhase × Instant :=
  (row.operationId, row.revision, row.phase, row.occurredAt)

/-- The tables of the operations agree: every operation is recorded, no row is without an
operation, and the events are the progress rows, one for one and in order. -/
structure Coherent (store : MatterStore) : Prop where
  recorded : ∀ operation ∈ store.operations.rows, Recorded store operation
  progressOwned : ∀ row ∈ store.progress.rows, (store.operations.find row.operationId).isSome
  repairsOwned : ∀ repair ∈ store.repairs.rows, (store.operations.find repair.operationId).isSome
  events : store.events.map eventSummary = store.progress.rows.map progressSummary

end MatterStore

structure MatterSystem where
  store : MatterStore
  held : List MatterOperation

namespace MatterSystem

structure Moved (held : List MatterOperation) (write : MatterOperationWrite) : Prop where
  moves : ∃ operation ∈ held, ∃ phase now, operation.transition phase now = .ok write.operation ∧
    write.expectedRevision = operation.revision
  progress : ∃ error, write.progress = progressWithError write.operation error
  repair : ∀ repair, write.repair = some repair → repair.status = .open_

structure Prepared (held : List MatterOperation) (commit : MatterCommit) : Prop where
  created : ∀ operation progress, commit.created = some (operation, progress) →
    ∃ id kind target now, operation = MatterOperation.new id kind target now ∧
      progress = progressWithError operation none
  written : ∀ write ∈ commit.written, Moved held write

inductive Reachable : MatterSystem → Prop
  | start {store : MatterStore} (hoperations : store.operations = .empty) (hprogress : store.progress = .empty)
      (hrepairs : store.repairs = .empty) (hevents : store.events = []) : Reachable ⟨store, []⟩
  | load {store : MatterStore} {held : List MatterOperation} {operation : MatterOperation}
      (h : Reachable ⟨store, held⟩) (hstored : operation ∈ store.operations.rows) :
      Reachable ⟨store, operation :: held⟩
  | write {store : MatterStore} {held : List MatterOperation} {commit : MatterCommit}
      (h : Reachable ⟨store, held⟩) (hprepared : Prepared held commit) : Reachable ⟨store.runWrite commit, held⟩

end MatterSystem

namespace MatterStore

variable {store store' : MatterStore} {operation : MatterOperation} {held : List MatterOperation}
variable {actor : Option ActorId} {id : MatterOperationId} {now : Instant} {progress : MatterOperationProgress}
  {error : Option MatterControllerError}

inductive AdvancedBy : MatterStore → List MatterOperationWrite → MatterStore → Prop
  | done {store store' : MatterStore} (h : SameOperations store store') : AdvancedBy store [] store'
  | step {store before after store' : MatterStore} {write : MatterOperationWrite} {rest : List MatterOperationWrite}
      {current : MatterOperation} (hsame : SameOperations store before)
      (hadvanced : Advanced before after write current) (hrest : AdvancedBy after rest store') :
      AdvancedBy store (write :: rest) store'

theorem AdvancedBy.one {before : MatterStore} {write : MatterOperationWrite} {current : MatterOperation}
    (hsame : SameOperations store before) (hadvanced : Advanced before store' write current) :
    AdvancedBy store [write] store' :=
  .step hsame hadvanced (.done (SameOperations.refl _))

theorem apply_ok {commit : MatterCommit} (h : store.apply commit = .ok store') :
    (∃ operation progress actor, commit.created = some (operation, progress) ∧
      Created store store' operation progress actor) ∨ AdvancedBy store commit.written store' := by
  cases commit with
  | create operation progress => exact Or.inl ⟨operation, progress, none, rfl, createMatterOperation_ok h⟩
  | admission operation binding progress =>
    unfold apply at h
    obtain ⟨⟨store'', outcome⟩, hadmit, h⟩ := Fallible.bind_inv h
    cases h
    rcases createAdministrationOperation_ok hadmit with rfl | hcreated
    · exact Or.inr (.done (SameOperations.refl _))
    · exact Or.inl ⟨operation, progress, some binding.actorId, rfl, hcreated⟩
  | transition write =>
    obtain ⟨current, hadvanced⟩ := transitionOperation_ok h
    exact Or.inr (.one (SameOperations.refl _) hadvanced)
  | commissioning commit expectedRevision =>
    obtain ⟨middle, current, hsame, hadvanced, -⟩ := commitCommissioning_ok h
    exact Or.inr (.one hsame hadvanced)
  | cancellation commit =>
    obtain ⟨middle, current, current', hfirst, hsecond⟩ := commitCancellation_ok h
    exact Or.inr (.step (SameOperations.refl _) hfirst (.one (SameOperations.refl _) hsecond))
  | removal commit expectedRevision =>
    obtain ⟨middle, current, hsame, hadvanced, -⟩ := commitNodeRemoval_ok h
    exact Or.inr (.one hsame hadvanced)
  | repair commit =>
    obtain ⟨before, middle, current, hsame, hsubscribed, hadvanced, -⟩ := commitSubscriptionRepair_ok h
    exact Or.inr (.one (hsame.toSameOperations.trans hsubscribed.same.1) hadvanced)
  | subscription subscription expectedRevision => exact Or.inr (.done (storeSubscription_ok h).same.1)

theorem Recorded.of_same (hsame : SameOperations store store') (h : Recorded store operation) :
    Recorded store' operation := by
  have hhistory : store'.history operation.id = store.history operation.id := by
    unfold history
    rw [hsame.progress]
  have hrepairs : store'.repairsOf operation.id = store.repairsOf operation.id := by
    unfold repairsOf
    rw [hsame.repairs]
  obtain ⟨hrevisions, hmoves, hlast, hrepaired, hunrepaired⟩ := h
  rw [← hhistory] at hrevisions hmoves hlast hrepaired
  rw [← hrepairs] at hrepaired hunrepaired
  exact ⟨hrevisions, hmoves, hlast, hrepaired, hunrepaired⟩

theorem Coherent.of_same (hsame : SameOperations store store') (h : Coherent store) : Coherent store' := by
  refine ⟨?_, ?_, ?_, ?_⟩
  · rw [hsame.operations]
    exact fun operation hoperation => (h.recorded operation hoperation).of_same hsame
  · rw [hsame.operations, hsame.progress]
    exact h.progressOwned
  · rw [hsame.operations, hsame.repairs]
    exact h.repairsOwned
  · rw [hsame.events, hsame.progress]
    exact h.events

theorem history_append {row : MatterOperationProgress} (h : store'.progress.rows = store.progress.rows ++ [row])
    (id : MatterOperationId) : store'.history id = store.history id ++ if row.operationId = id then [row] else [] := by
  unfold history
  rw [h, filter_append, filter_singleton]
  simp

theorem repairsOf_append {repair : MatterRepairRecord} (h : store'.repairs.rows = store.repairs.rows ++ [repair])
    (id : MatterOperationId) :
    store'.repairsOf id = store.repairsOf id ++ if repair.operationId = id then [repair] else [] := by
  unfold repairsOf
  rw [h, filter_append, filter_singleton]
  simp

variable {write : MatterOperationWrite} {current : MatterOperation}

theorem RepairStored.repairsOf_eq (h : RepairStored store store' write) (id : MatterOperationId) :
    store'.repairsOf id = store.repairsOf id ++
      if write.operation.id = id then write.repair.toList else [] := by
  unfold RepairStored at h
  cases hrepair : write.repair with
  | none =>
    rw [hrepair] at h
    have hsame : store'.repairsOf id = store.repairsOf id := by
      unfold repairsOf
      rw [h.2]
    rw [hsame, Option.toList_none, ite_self, append_nil]
  | some repair =>
    rw [hrepair] at h
    obtain ⟨-, -, howner, hrows⟩ := h
    rw [repairsOf_append hrows, howner, Option.toList_some]

/-- The operation that moved is recorded with its new row. -/
theorem Recorded.advance (h : Recorded store current) (hadvanced : Advanced store store' write current)
    (hmoves : MatterOperation.Moves current write.operation now)
    (hprogress : write.progress = progressWithError write.operation error)
    (hopen : ∀ repair, write.repair = some repair → repair.status = .open_) : Recorded store' write.operation := by
  have hid : write.operation.id = current.id := by rw [hmoves.only]
  have hkind : write.operation.kind = current.kind := by rw [hmoves.only]
  have hrevision : write.operation.revision = current.revision + 1 := by rw [hmoves.only]
  have htime : write.operation.updatedAt = now := by rw [hmoves.only]
  have hhistory : store'.history write.operation.id = store.history current.id ++ [write.progress] := by
    rw [history_append hadvanced.progress, hadvanced.progressId, if_pos rfl, hid]
  have hrepairs : store'.repairsOf write.operation.id = write.repair.toList := by
    -- the operation was not terminal, so it had no repair yet
    have hnone : store.repairsOf current.id = [] := by
      apply h.unrepaired
      intro hphase
      have hactive := hmoves.active
      rw [hphase] at hactive
      cases hactive
    rw [hadvanced.repairs.repairsOf_eq, if_pos rfl, hid, hnone, nil_append]
  have hlast : (store'.history write.operation.id).getLast? = some write.progress := by
    rw [hhistory, List.getLast?_concat]
  have hstored := hadvanced.repairs
  unfold RepairStored at hstored
  refine ⟨?_, ?_, ?_, ?_, ?_⟩
  · rw [hhistory, map_append, h.revisions, hrevision, List.range'_1_concat, map_singleton,
      hadvanced.progressRevision, hrevision, Nat.add_comm]
  · rw [hhistory, hkind, isChain_append]
    refine ⟨h.moves, isChain_singleton _, ?_⟩
    obtain ⟨row, hrow, hphase, hoccurred⟩ := h.last
    intro earlier hearlier later hlater
    rw [hrow] at hearlier
    cases hearlier
    cases hlater
    refine ⟨?_, ?_, ?_⟩
    · rw [hphase, hadvanced.progressPhase]
      exact hmoves.valid
    · rw [hphase]
      exact hmoves.active
    · rw [hoccurred, hprogress]
      change current.updatedAt ≤ write.operation.updatedAt
      rw [htime]
      exact hmoves.time
  · refine ⟨write.progress, hlast, hadvanced.progressPhase, ?_⟩
    rw [hprogress]
    rfl
  · intro hphase
    cases hrepair : write.repair with
    | none =>
      rw [hrepair] at hstored
      exact absurd hphase hstored.1
    | some repair =>
      rw [hrepair] at hstored hrepairs
      exact ⟨repair, write.progress, hrepairs, hopen repair hrepair, hlast, hstored.2.1⟩
  · intro hphase
    cases hrepair : write.repair with
    | none =>
      rw [hrepair] at hrepairs
      exact hrepairs
    | some repair =>
      rw [hrepair] at hstored
      exact absurd hstored.1 hphase

theorem Recorded.other (h : Recorded store operation) (hadvanced : Advanced store store' write current)
    (hne : write.operation.id ≠ operation.id) : Recorded store' operation := by
  have hhistory : store'.history operation.id = store.history operation.id := by
    rw [history_append hadvanced.progress, hadvanced.progressId, if_neg hne, append_nil]
  have hrepairs : store'.repairsOf operation.id = store.repairsOf operation.id := by
    rw [hadvanced.repairs.repairsOf_eq, if_neg hne, append_nil]
  obtain ⟨hrevisions, hmoves, hlast, hrepaired, hunrepaired⟩ := h
  rw [← hhistory] at hrevisions hmoves hlast hrepaired
  rw [← hrepairs] at hrepaired hunrepaired
  exact ⟨hrevisions, hmoves, hlast, hrepaired, hunrepaired⟩

theorem Advanced.find_isSome (hadvanced : Advanced store store' write current)
    (h : (store.operations.find id).isSome) : (store'.operations.find id).isSome := by
  rw [hadvanced.operations, find_replace hadvanced.found]
  split
  · rfl
  · exact h

/-- A transition adds the progress row of its revision. -/
theorem Coherent.advance (h : Coherent store) (hadvanced : Advanced store store' write current)
    (hmoves : MatterOperation.Moves current write.operation now)
    (hprogress : write.progress = progressWithError write.operation error)
    (hopen : ∀ repair, write.repair = some repair → repair.status = .open_) : Coherent store' := by
  have hcurrent := find_eq_some.mp hadvanced.found
  have hknown : (store'.operations.find write.operation.id).isSome := by
    apply hadvanced.find_isSome
    rw [hadvanced.found]
    rfl
  refine ⟨?_, ?_, ?_, ?_⟩
  · intro operation hoperation
    rw [hadvanced.operations, mem_replace hadvanced.found] at hoperation
    rcases hoperation with rfl | ⟨hoperation, hne⟩
    · exact (h.recorded current hcurrent.1).advance hadvanced hmoves hprogress hopen
    · exact (h.recorded operation hoperation).other hadvanced (Ne.symm hne)
  · intro row hrow
    rw [hadvanced.progress, mem_append, mem_singleton] at hrow
    rcases hrow with hrow | rfl
    · exact hadvanced.find_isSome (h.progressOwned row hrow)
    · rw [hadvanced.progressId]
      exact hknown
  · intro repair hrepair
    have hstored := hadvanced.repairs
    unfold RepairStored at hstored
    cases hwritten : write.repair with
    | none =>
      rw [hwritten] at hstored
      rw [hstored.2] at hrepair
      exact hadvanced.find_isSome (h.repairsOwned repair hrepair)
    | some record =>
      rw [hwritten] at hstored
      obtain ⟨-, -, howner, hrows⟩ := hstored
      rw [hrows, mem_append, mem_singleton] at hrepair
      rcases hrepair with hrepair | rfl
      · exact hadvanced.find_isSome (h.repairsOwned repair hrepair)
      · rw [howner]
        exact hknown
  · obtain ⟨actor, hevents⟩ := hadvanced.events
    rw [hevents, hadvanced.progress, map_append, map_append, h.events, hprogress]
    rfl

theorem Created.find_isSome (hcreated : Created store store' operation progress actor)
    (h : (store.operations.find id).isSome ∨ id = operation.id) : (store'.operations.find id).isSome := by
  rw [Option.isSome_iff_exists]
  rcases h with h | rfl
  · obtain ⟨stored, hstored⟩ := Option.isSome_iff_exists.mp h
    obtain ⟨hmem, hid⟩ := find_eq_some.mp hstored
    exact ⟨stored, find_eq_some.mpr ⟨by rw [hcreated.operations]; exact mem_append_left _ hmem, hid⟩⟩
  · exact ⟨operation, find_eq_some.mpr ⟨by rw [hcreated.operations]; simp, rfl⟩⟩

theorem Coherent.unrecorded (h : Coherent store) (hfree : store.operations.find id = none) :
    store.history id = [] ∧ store.repairsOf id = [] := by
  constructor
  · rw [history, filter_eq_nil_iff]
    intro row hrow heq
    have hknown := h.progressOwned row hrow
    rw [beq_iff_eq.mp heq, hfree] at hknown
    cases hknown
  · rw [repairsOf, filter_eq_nil_iff]
    intro repair hrepair heq
    have hknown := h.repairsOwned repair hrepair
    rw [beq_iff_eq.mp heq, hfree] at hknown
    cases hknown

/-- An operation begins with its first progress row. -/
theorem Coherent.create (h : Coherent store) (hcreated : Created store store' operation progress actor)
    (hprogress : progress = progressWithError operation none) : Coherent store' := by
  have hrepairs (id : MatterOperationId) : store'.repairsOf id = store.repairsOf id := by
    unfold repairsOf
    rw [hcreated.repairs]
  obtain ⟨hempty, hunrepaired⟩ := h.unrecorded hcreated.free
  refine ⟨?_, ?_, ?_, ?_⟩
  · intro stored hstored
    rw [hcreated.operations, mem_append, mem_singleton] at hstored
    rcases hstored with hstored | rfl
    · have hne : operation.id ≠ stored.id := by
        intro heq
        exact find_eq_none.mp hcreated.free stored hstored heq.symm
      have hhistory : store'.history stored.id = store.history stored.id := by
        rw [history_append hcreated.progress, hcreated.progressId, if_neg hne, append_nil]
      obtain ⟨hrevisions, hmoves, hlast, hrepaired, hnone⟩ := h.recorded stored hstored
      rw [← hhistory] at hrevisions hmoves hlast hrepaired
      rw [← hrepairs] at hrepaired hnone
      exact ⟨hrevisions, hmoves, hlast, hrepaired, hnone⟩
    · have hhistory : store'.history stored.id = [progress] := by
        rw [history_append hcreated.progress, hcreated.progressId, if_pos rfl, hempty, nil_append]
      refine ⟨?_, ?_, ?_, ?_, ?_⟩
      · rw [hhistory, hcreated.revision, map_singleton, hcreated.progressRevision, hcreated.revision]
        rfl
      · rw [hhistory]
        exact isChain_singleton _
      · refine ⟨progress, by rw [hhistory]; rfl, hcreated.progressPhase, ?_⟩
        rw [hprogress]
        rfl
      · intro hphase
        have hactive := hcreated.active
        rw [hphase] at hactive
        cases hactive
      · intro _
        rw [hrepairs, hunrepaired]
  · intro row hrow
    rw [hcreated.progress, mem_append, mem_singleton] at hrow
    rcases hrow with hrow | rfl
    · exact hcreated.find_isSome (Or.inl (h.progressOwned row hrow))
    · exact hcreated.find_isSome (Or.inr hcreated.progressId)
  · intro repair hrepair
    rw [hcreated.repairs] at hrepair
    exact hcreated.find_isSome (Or.inl (h.repairsOwned repair hrepair))
  · rw [hcreated.events, hcreated.progress, map_append, map_append, h.events, hprogress]
    rfl

def Known (store : MatterStore) (held : List MatterOperation) : Prop :=
  ∀ operation ∈ held, ∃ current, store.operations.find operation.id = some current ∧
    operation.revision ≤ current.revision ∧ (operation.revision = current.revision → operation = current)

theorem Known.of_same (hsame : SameOperations store store') (h : Known store held) : Known store' held := by
  unfold Known
  rw [hsame.operations]
  exact h

theorem Known.load (h : Known store held) (hstored : operation ∈ store.operations.rows) :
    Known store (operation :: held) := by
  intro loaded hloaded
  rcases mem_cons.mp hloaded with rfl | hloaded
  · exact ⟨loaded, find_eq_some.mpr ⟨hstored, rfl⟩, le_refl _, fun _ => rfl⟩
  · exact h loaded hloaded

theorem Known.create (h : Known store held) (hcreated : Created store store' operation progress actor) :
    Known store' held := by
  intro loaded hloaded
  obtain ⟨current, hcurrent, hrest⟩ := h loaded hloaded
  obtain ⟨hmem, hid⟩ := find_eq_some.mp hcurrent
  refine ⟨current, find_eq_some.mpr ⟨?_, hid⟩, hrest⟩
  rw [hcreated.operations]
  exact mem_append_left _ hmem

theorem Known.advance (h : Known store held) (hadvanced : Advanced store store' write current)
    (hmoves : MatterOperation.Moves current write.operation now) : Known store' held := by
  intro loaded hloaded
  obtain ⟨stored, hstored, hle, hsame⟩ := h loaded hloaded
  rw [hadvanced.operations, find_replace hadvanced.found]
  by_cases hid : write.operation.id = loaded.id
  · rw [if_pos hid]
    have hcurrent : stored = current := by
      rw [← hid, hadvanced.found] at hstored
      exact (Option.some.inj hstored).symm
    have hrevision : write.operation.revision = current.revision + 1 := by rw [hmoves.only]
    rw [hcurrent] at hle
    exact ⟨write.operation, rfl, by omega, fun heq => by omega⟩
  · rw [if_neg hid]
    exact ⟨stored, hstored, hle, hsame⟩

theorem Known.moves (h : Known store held) (hmoved : MatterSystem.Moved held write)
    (hadvanced : Advanced store store' write current) : ∃ now, MatterOperation.Moves current write.operation now := by
  obtain ⟨operation, hheld, phase, now, htransition, hexpected⟩ := hmoved.moves
  obtain ⟨-, hmoves⟩ := MatterOperation.transition_ok htransition
  have hid : write.operation.id = operation.id := by rw [hmoves.only]
  obtain ⟨stored, hstored, -, hsame⟩ := h operation hheld
  have hcurrent : stored = current := by
    rw [← hid, hadvanced.found] at hstored
    exact (Option.some.inj hstored).symm
  have heq : operation = current := by
    rw [← hcurrent]
    apply hsame
    rw [hcurrent, hadvanced.expected, hexpected]
  rw [heq] at hmoves
  exact ⟨now, hmoves⟩

theorem coherent_of_advancedBy {writes : List MatterOperationWrite} (hadvanced : AdvancedBy store writes store')
    (hmoved : ∀ write ∈ writes, MatterSystem.Moved held write) (hcoherent : Coherent store)
    (hknown : Known store held) : Coherent store' ∧ Known store' held := by
  induction hadvanced with
  | done hsame => exact ⟨hcoherent.of_same hsame, hknown.of_same hsame⟩
  | @step _ _ _ _ write _ _ hsame hadvanced _ ih =>
    have hwrite := hmoved write mem_cons_self
    have hknown := hknown.of_same hsame
    have hcoherent := hcoherent.of_same hsame
    obtain ⟨now, hmoves⟩ := hknown.moves hwrite hadvanced
    obtain ⟨error, hprogress⟩ := hwrite.progress
    exact ih (fun write hmem => hmoved write (mem_cons_of_mem _ hmem))
      (hcoherent.advance hadvanced hmoves hprogress hwrite.repair) (hknown.advance hadvanced hmoves)

end MatterStore

namespace MatterSystem

open MatterStore

theorem Reachable.coherent {system : MatterSystem} (h : Reachable system) :
    Coherent system.store ∧ Known system.store system.held := by
  induction h with
  | @start store hoperations hprogress hrepairs hevents =>
    refine ⟨⟨?_, ?_, ?_, ?_⟩, fun _ hmem => (nomatch hmem)⟩
    · rw [hoperations]
      exact fun _ hmem => (nomatch hmem)
    · rw [hprogress]
      exact fun _ hmem => (nomatch hmem)
    · rw [hrepairs]
      exact fun _ hmem => (nomatch hmem)
    · rw [hevents, hprogress]
      rfl
  | load _ hstored ih => exact ⟨ih.1, ih.2.load hstored⟩
  | @write store held commit _ hprepared ih =>
    unfold runWrite
    cases happly : store.apply commit with
    | error error => exact ih
    | ok store' =>
      rcases apply_ok happly with ⟨operation, progress, actor, hnew, hcreated⟩ | hadvanced
      · obtain ⟨_, _, _, _, -, hprogress⟩ := hprepared.created operation progress hnew
        exact ⟨ih.1.create hcreated hprogress, ih.2.create hcreated⟩
      · exact coherent_of_advancedBy hadvanced hprepared.written ih.1 ih.2

/-- Whatever the workflows load and commit, in whatever order, every operation is recorded row by
row, with one event for each row and one open repair when it ended in repair, and a commit that
fails changes nothing. -/
theorem operation_history_recorded {system : MatterSystem} (h : Reachable system) :
    Coherent system.store ∧ ∀ commit error, system.store.apply commit = .error error →
      system.store.runWrite commit = system.store := by
  refine ⟨h.coherent.1, ?_⟩
  intro commit error herror
  unfold runWrite
  rw [herror]

def newHome : MatterStore where
  foundation := .empty
  fabrics := ⟨[⟨1, 1, .unavailable, ⟨1, 2, 3⟩, 1, 0⟩], by decide⟩
  nodes := .empty
  endpoints := .empty
  subscriptions := .empty
  operations := .empty
  bindings := .empty
  progress := .empty
  repairs := .empty
  results := .empty
  events := []

def creation : MatterOperation := MatterOperation.new 5 .createFabric (.fabric 1) 10

def creating : MatterOperation := ⟨5, .createFabric, .fabric 1, .creatingFabric, 2, 10, 11⟩

def started : MatterStore :=
  (newHome.runWrite (.create creation (progressWithError creation none))).runWrite
    (.transition ⟨creating, 1, progressWithError creating none, none⟩)

theorem started_reachable : Reachable ⟨started, [creation]⟩ := by
  refine .write (.load (.write (.start rfl rfl rfl rfl) ?_) ?_) ?_
  · refine ⟨?_, fun _ hwrite => (nomatch hwrite)⟩
    rintro operation progress ⟨⟩
    exact ⟨5, .createFabric, .fabric 1, 10, rfl, rfl⟩
  · exact mem_singleton.mpr rfl
  · refine ⟨fun _ _ hcreated => (nomatch hcreated), ?_⟩
    intro write hwrite
    rw [mem_singleton.mp hwrite]
    exact ⟨⟨creation, mem_cons_self, .creatingFabric, 11, rfl, rfl⟩, ⟨none, rfl⟩, fun _ hrepair => (nomatch hrepair)⟩

/-- Two commits leave two rows. -/
theorem started_recorded : started.history 5 = [progressWithError creation none, progressWithError creating none] ∧
    Coherent started :=
  ⟨rfl, (operation_history_recorded started_reachable).1⟩

end MatterSystem
end HomeMagic
