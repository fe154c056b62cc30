import HomeMagic.CommandPublication

/-! The event log of command transitions over whole runs. As long as every publication
appends its event, the next transition of a command waits for the event of the one
before, and a crash finds nothing unpublished, the log is the audit. -/
namespace HomeMagic
open List

variable {s s' : PublishedStore} {gs : List (Option CommandAuditRecord)}

def publishes : CommandCall → Bool
  | .publish _ => true
  | _ => false

/-- A call in its turn: a publication appends its event, and a record is committed only
when all earlier ones of the command have their events. -/
def InTurn (c : CommandCall) (s : PublishedStore) (r : c.Response) (s' : PublishedStore) : Prop :=
  (publishes c = true → s.2.length < s'.2.length) ∧
    ∀ audit ∈ committed c r, Published s audit.commandId

instance (c : CommandCall) (s : PublishedStore) (r : c.Response) (s' : PublishedStore) :
    Decidable (InTurn c s r s') := inferInstanceAs (Decidable (_ ∧ _))

def inTurnRules (host : CommandHost) (storeHost : StoreHost) (commandIdText : CommandId → String) :
    Rules CommandCall CommandCall.Response PublishedStore Unit :=
  { publicationRules host storeHost commandIdText with
    handler := fun c s r s' => publicationHandler storeHost commandIdText c s r s' ∧ InTurn c s r s' }

abbrev SteadyStep (host : CommandHost) (storeHost : StoreHost) (commandIdText : CommandId → String) :
    Processes CommandCall CommandCall.Response PublishedStore Unit →
      Processes CommandCall CommandCall.Response PublishedStore Unit → Prop :=
  Interleaves.Within (inTurnRules host storeHost commandIdText) (fun s => ∀ id, Published s id)

theorem published_of_ids (ids : List CommandId) (hlog : ∀ event ∈ s.2, event.commandId ∈ ids)
    (haudit : ∀ audit ∈ s.1.audit.rows, audit.commandId ∈ ids) (h : ∀ id ∈ ids, Published s id) (id : CommandId) :
    Published s id := by
  by_cases hid : id ∈ ids
  · exact h id hid
  · have hevents : loggedOf s.2 id = [] := by
      unfold loggedOf
      rw [filter_eq_nil_iff]
      intro event hevent hsame
      exact hid (beq_iff_eq.mp hsame ▸ hlog event hevent)
    have hrecords : s.1.auditOf id = [] := by
      rw [CommandStore.auditOf, filter_eq_nil_iff]
      intro audit hstored hsame
      exact hid (beq_iff_eq.mp hsame ▸ haudit audit hstored)
    rw [Published, hevents, hrecords]
    rfl

def owedOf (gs : List (Option CommandAuditRecord)) (id : CommandId) : List CommandAuditRecord :=
  gs.filterMap (fun owed => owed.filter (fun audit => audit.commandId == id))

theorem owedOf_append (before after : List (Option CommandAuditRecord)) (id : CommandId) :
    owedOf (before ++ after) id = owedOf before id ++ owedOf after id :=
  filterMap_append

theorem owedOf_none (before after : List (Option CommandAuditRecord)) (id : CommandId) :
    owedOf (before ++ none :: after) id = owedOf before id ++ owedOf after id := by
  rw [owedOf_append]
  rfl

theorem owedOf_some (before after : List (Option CommandAuditRecord)) (audit : CommandAuditRecord)
    (id : CommandId) : owedOf (before ++ some audit :: after) id =
      owedOf before id ++ (if audit.commandId = id then [audit] else []) ++ owedOf after id := by
  rw [owedOf_append, append_assoc]
  congr 1
  unfold owedOf
  by_cases hid : audit.commandId = id <;> simp [Option.filter, hid]

theorem loggedOf_append (log : List CommandTransitionedEvent) (event : CommandTransitionedEvent)
    (id : CommandId) : loggedOf (log ++ [event]) id =
      loggedOf log id ++ if event.commandId = id then [event] else [] := by
  unfold loggedOf
  rw [filter_append]
  by_cases hid : event.commandId = id <;> simp [hid]

structure LogInStep (s : PublishedStore) (gs : List (Option CommandAuditRecord)) : Prop where
  audited : CommandStore.Audited s.1
  single : ∀ id, (owedOf gs id).length ≤ 1
  logged : ∀ id, (s.1.auditOf id).map CommandAuditRecord.outcome =
    (loggedOf s.2 id).map CommandTransitionedEvent.outcome ++
      (owedOf gs id).map CommandAuditRecord.outcome

theorem LogInStep.owed_nil (h : LogInStep s gs) {id : CommandId} (hpublished : Published s id) :
    owedOf gs id = [] := by
  have hlogged := h.logged id
  rw [← hpublished] at hlogged
  have hnil := append_right_eq_self.mp hlogged.symm
  exact map_eq_nil_iff.mp hnil

section Step
variable {storeHost : StoreHost} {commandIdText : CommandId → String}
  {before after : List (Option CommandAuditRecord)} {owed : Option CommandAuditRecord}

theorem LogInStep.publish {s : PublishedStore} {event : CommandTransitionedEvent}
    {audit : CommandAuditRecord} (hid : event.commandId = audit.commandId)
    (houtcome : event.outcome = audit.outcome) (h : LogInStep s (before ++ some audit :: after)) :
    LogInStep (s.1, s.2 ++ [event]) (before ++ none :: after) := by
  have hothers : owedOf before audit.commandId = [] ∧ owedOf after audit.commandId = [] := by
    have hsingle := h.single audit.commandId
    rw [owedOf_some, if_pos rfl] at hsingle
    simp only [length_append, length_singleton] at hsingle
    exact ⟨length_eq_zero_iff.mp (by omega), length_eq_zero_iff.mp (by omega)⟩
  refine ⟨h.audited, ?_, ?_⟩
  · intro id
    have hsingle := h.single id
    rw [owedOf_some] at hsingle
    rw [owedOf_none]
    simp only [length_append] at hsingle ⊢
    omega
  · intro id
    have hlogged := h.logged id
    rw [owedOf_some] at hlogged
    rw [hlogged, owedOf_none, loggedOf_append, hid]
    by_cases hsame : audit.commandId = id
    · subst hsame
      rw [if_pos rfl, if_pos rfl, hothers.1, hothers.2]
      simp [houtcome]
    · rw [if_neg hsame, if_neg hsame]
      simp

theorem LogInStep.commit {audit : CommandAuditRecord} (haudited : CommandStore.Audited s'.1)
    (haudit : s'.1.audit.rows = s.1.audit.rows ++ [audit]) (hlog : s'.2 = s.2)
    (hpublished : Published s audit.commandId) (h : LogInStep s (before ++ none :: after)) :
    LogInStep s' (before ++ some audit :: after) := by
  have hnone := h.owed_nil hpublished
  rw [owedOf_none, append_eq_nil_iff] at hnone
  refine ⟨haudited, ?_, ?_⟩
  · intro id
    rw [owedOf_some]
    by_cases hsame : audit.commandId = id
    · subst hsame
      rw [hnone.1, hnone.2, if_pos rfl]
      exact le_refl 1
    · have hsingle := h.single id
      rw [owedOf_none] at hsingle
      rw [if_neg hsame, append_nil]
      exact hsingle
  · intro id
    have hlogged := h.logged id
    rw [owedOf_none] at hlogged
    rw [CommandStore.auditOf_append haudit, map_append, hlogged, owedOf_some, hlog]
    by_cases hsame : audit.commandId = id
    · subst hsame
      rw [hnone.1, hnone.2, if_pos rfl]
      simp
    · rw [if_neg hsame]
      simp

theorem LogInStep.kept (haudited : CommandStore.Audited s'.1) (haudit : s'.1.audit.rows = s.1.audit.rows)
    (hlog : s'.2 = s.2) (h : LogInStep s gs) : LogInStep s' gs := by
  refine ⟨haudited, h.single, ?_⟩
  intro id
  have hsame : s'.1.auditOf id = s.1.auditOf id := by
    unfold CommandStore.auditOf
    rw [haudit]
  rw [hsame, hlog]
  exact h.logged id

theorem LogInStep.perform {c : CommandCall} {r : c.Response} (hpublish : ∀ audit, c ≠ .publish audit)
    (hallows : publicationDiscipline.allows owed c) (hh : commandHandler storeHost commandIdText c s.1 r s'.1)
    (hlog : s'.2 = s.2) (hturn : ∀ audit ∈ committed c r, Published s audit.commandId)
    (h : LogInStep s (before ++ owed :: after)) :
    LogInStep s' (before ++ publicationDiscipline.move owed c r :: after) := by
  have hmove : publicationDiscipline.move owed c r = (committed c r).or owed := by
    cases c with
    | publish audit => exact absurd rfl (hpublish audit)
    | _ => rfl
  have haudited := h.audited.changes (CommandStore.commandHandler_changes hh)
  have haudit := (CommandStore.commandHandler_appends hh).audit
  rw [hmove]
  cases hcommitted : committed c r with
  | none =>
    rw [hcommitted, Option.toList_none, append_nil] at haudit
    rw [Option.none_or]
    exact h.kept haudited haudit hlog
  | some audit =>
    rw [hcommitted, Option.toList_some] at haudit
    rw [Option.some_or]
    -- only the committing calls commit, and they are made without a debt
    have hnone : owed = none := by
      cases c with
      | createCommand | transitionCommand | replaceMatterDesiredSlot | replaceMatterDesiredState
      | recordMatterDispatch | authorizeAndRecordUnlockDispatch => exact hallows
      | _ => cases hcommitted
    rw [hnone] at h
    exact h.commit haudited haudit hlog (hturn audit hcommitted)

theorem LogInStep.call {c : CommandCall} {r : c.Response} {s s' : PublishedStore}
    (hallows : publicationDiscipline.allows owed c)
    (hh : publicationHandler storeHost commandIdText c s r s' ∧ InTurn c s r s')
    (h : LogInStep s (before ++ owed :: after)) :
    LogInStep s' (before ++ publicationDiscipline.move owed c r :: after) := by
  obtain ⟨hhandled, happended, hturn⟩ := hh
  by_cases hpublish : ∃ audit, c = .publish audit
  · obtain ⟨audit, rfl⟩ := hpublish
    obtain rfl : owed = some audit := hallows
    obtain ⟨hstore, hevent⟩ := hhandled
    have hgrown := happended rfl
    have hlogged : ∃ id command, s'.2 = s.2 ++ [commandTransitionedEvent id command audit] := by
      split at hevent
      · rw [hevent.1] at hgrown
        exact absurd hgrown (lt_irrefl _)
      · rename_i command _
        rcases hevent with ⟨id, happend⟩ | ⟨hsame, _⟩
        · exact ⟨id, command.envelope, happend⟩
        · rw [hsame] at hgrown
          exact absurd hgrown (lt_irrefl _)
    obtain ⟨id, envelope, hlog⟩ := hlogged
    have hnext := @LogInStep.publish _ _ _ (commandTransitionedEvent id envelope audit) _ rfl rfl h
    rw [← hstore, ← hlog] at hnext
    exact hnext
  · push Not at hpublish
    have hother : commandHandler storeHost commandIdText c s.1 r s'.1 ∧ s'.2 = s.2 := by
      cases c with
      | publish audit => exact absurd rfl (hpublish audit)
      | _ => exact hhandled
    exact h.perform hpublish hallows hother.1 hother.2 hturn

end Step

theorem CommandStore.Audited.increasing {store : CommandStore} (h : CommandStore.Audited store)
    (id : CommandId) :
    ((store.auditOf id).map CommandAuditRecord.sequence).Pairwise (· < ·) := by
  by_cases hrow : ∃ row ∈ store.commands.rows, row.command.envelope.id = id
  · obtain ⟨row, hrow, rfl⟩ := hrow
    rw [(h.histories row hrow).sequences]
    exact pairwise_lt_range
  · have hnil : store.auditOf id = [] := by
      rw [CommandStore.auditOf, filter_eq_nil_iff]
      intro audit haudit hid
      obtain ⟨row, hstored, howner⟩ := h.owned audit haudit
      exact hrow ⟨row, hstored, howner.trans (beq_iff_eq.mp hid)⟩
    rw [hnil]
    exact List.Pairwise.nil

theorem LogInStep.prefixed (h : LogInStep s gs) (id : CommandId) :
    (loggedOf s.2 id).map CommandTransitionedEvent.outcome <+:
      (s.1.auditOf id).map CommandAuditRecord.outcome := by
  rw [h.logged id]
  exact prefix_append _ _

theorem LogInStep.increasing (h : LogInStep s gs) (id : CommandId) :
    ((loggedOf s.2 id).map CommandTransitionedEvent.sequence).Pairwise (· < ·) := by
  have hlog : (loggedOf s.2 id).map CommandTransitionedEvent.sequence =
      ((loggedOf s.2 id).map CommandTransitionedEvent.outcome).map (fun outcome => outcome.2.2) := by
    rw [List.map_map]
    rfl
  have haudit : (s.1.auditOf id).map CommandAuditRecord.sequence =
      ((s.1.auditOf id).map CommandAuditRecord.outcome).map (fun outcome => outcome.2.2) := by
    rw [List.map_map]
    rfl
  have hincreasing := h.audited.increasing id
  rw [haudit] at hincreasing
  rw [hlog]
  exact hincreasing.sublist ((h.prefixed id).sublist.map _)

def Quiescent (p : Processes CommandCall CommandCall.Response PublishedStore Unit) : Prop :=
  ∀ program ∈ p.clients, program = .done ()

theorem owedOf_quiescent {programs : List (Program CommandCall CommandCall.Response Unit)}
    (hall : Interleaves.DisciplinedTo publicationDiscipline (fun _ owed => owed = none) programs gs)
    (hdone : ∀ program ∈ programs, program = .done ()) (id : CommandId) :
    owedOf gs id = [] := by
  induction hall with
  | nil => rfl
  | @cons p g programs gs hobeys _ ih =>
    obtain rfl : p = .done () := hdone p mem_cons_self
    obtain rfl : g = none := hobeys
    exact ih (fun program hprogram => hdone program (mem_cons_of_mem _ hprogram))

/-- From a repository without commands and an empty log on, as long as all calls come in
their turn and a crash finds everything published: at every moment the events of each
command are the first of its audit records, in increasing sequence, and whenever no call
is in progress they are all of them. -/
theorem publication_lossless {host : CommandHost} {storeHost : StoreHost}
    {commandIdText : CommandId → String} {start : CommandStore} (hcommands : start.commands.rows = [])
    (haudit : start.audit.rows = [])
    {reached : Processes CommandCall CommandCall.Response PublishedStore Unit}
    (hrun : Relation.ReflTransGen (SteadyStep host storeHost commandIdText) ⟨(start, []), none, []⟩
      reached) :
    (∀ id, (loggedOf reached.state.2 id).map CommandTransitionedEvent.outcome <+:
        (reached.state.1.auditOf id).map CommandAuditRecord.outcome ∧
      ((loggedOf reached.state.2 id).map CommandTransitionedEvent.sequence).Pairwise (· < ·)) ∧
    (Quiescent reached → PublishedLosslessly reached.state) := by
  have hempty : ∀ id, start.auditOf id = [] := by
    intro id
    rw [CommandStore.auditOf, haudit, List.filter_nil]
  have hstart : LogInStep (start, []) [] := by
    refine ⟨⟨?_, ?_⟩, fun _ => Nat.zero_le 1, ?_⟩
    · rw [hcommands]
      exact fun row hrow => absurd hrow List.not_mem_nil
    · rw [haudit]
      exact fun audit haudit => absurd haudit List.not_mem_nil
    · intro id
      rw [hempty id]
      rfl
  have hjoin : ∀ (s : PublishedStore) gs g, g = none → LogInStep s gs → LogInStep s (g :: gs) := by
    rintro s gs _ rfl h
    exact ⟨h.audited, h.single, h.logged⟩
  have hcrash : ∀ (s : PublishedStore) gs, (∀ id, Published s id) → LogInStep s gs → LogInStep s [] := by
    intro s gs hpublished h
    refine ⟨h.audited, fun _ => Nat.zero_le 1, ?_⟩
    intro id
    have hlogged := h.logged id
    rw [h.owed_nil (hpublished id)] at hlogged
    exact hlogged
  obtain ⟨_, gs, hstep, hall⟩ := @Interleaves.disciplined_within _ _ _ _ _
    (inTurnRules host storeHost commandIdText) publicationDiscipline (· = none) LogInStep _ _
    (fun _ => id) (fun p hp => ⟨none, rfl, CommandRequested.settles hp⟩) (fun _ _ _ _ _ => trivial)
    hjoin (fun _ _ _ _ _ _ _ hallows hh h => h.call hallows hh) hcrash _ _ hrun hstart rfl rfl
  refine ⟨fun id => ⟨hstep.prefixed id, hstep.increasing id⟩, ?_⟩
  intro hquiescent
  refine ⟨?_, hstep.increasing⟩
  intro id
  have hlogged := hstep.logged id
  rw [owedOf_quiescent hall hquiescent id, List.map_nil, List.append_nil] at hlogged
  exact hlogged.symm

def publicationApply (host : StoreHost) (commandIdText : CommandId → String) (now : Instant) :
    (c : CommandCall) → PublishedStore → c.Response × PublishedStore
  | .publish audit, s => match s.1.loadCommand audit.commandId with
    | none => (.error (), s)
    | some command =>
      (.ok (), (s.1, s.2 ++ [commandTransitionedEvent s.2.length command.envelope audit]))
  | c, s => ((commandApply host commandIdText now c s.1).1,
      ((commandApply host commandIdText now c s.1).2, s.2))

theorem publicationApply_handles (host : StoreHost) (commandIdText : CommandId → String) (now : Instant)
    (c : CommandCall) (s : PublishedStore) :
    publicationHandler host commandIdText c s (publicationApply host commandIdText now c s).1
      (publicationApply host commandIdText now c s).2 := by
  cases c with
  | publish audit =>
    unfold publicationHandler publicationApply
    dsimp only
    cases hcommand : s.1.loadCommand audit.commandId with
    | none => exact ⟨rfl, rfl, rfl⟩
    | some command => exact ⟨rfl, .inl ⟨_, rfl⟩⟩
  | _ => exact ⟨commandApply_handles host commandIdText now _ s.1, rfl⟩

abbrev lampPublication (now : Instant) :
    (c : CommandCall) → PublishedStore → c.Response × PublishedStore :=
  publicationApply minuteStoreHost (fun id => toString id) now

def lampExecution : Program CommandCall CommandCall.Response Unit :=
  asRequest (execute residentHost resident lampOn 5).run

def lampRecovery : Program CommandCall CommandCall.Response Unit :=
  asRequest (recoverCommands residentHost 6).run

def laterExecution : Program CommandCall CommandCall.Response Unit :=
  asRequest (execute residentHost resident lampLater 4).run

abbrev steadyCalls (now : Instant) (k : ℕ) (p : Program CommandCall CommandCall.Response Unit)
    (s : PublishedStore) : Program CommandCall CommandCall.Response Unit × PublishedStore :=
  p.runFor (lampPublication now) k s

def laterReceived := steadyCalls 4 5 laterExecution (lampCommands, [])

def lampValidated := steadyCalls 5 9 lampExecution laterReceived.2

def laterValidated := steadyCalls 4 6 laterReceived.1 lampValidated.2

def lampPublished := steadyCalls 5 1 lampValidated.1 laterValidated.2

def bothRecovered := steadyCalls 6 40 lampRecovery lampPublished.2

theorem bothRecovered_reached : Relation.ReflTransGen (SteadyStep residentHost minuteStoreHost (fun id => toString id))
    ⟨(lampCommands, []), none, []⟩ ⟨bothRecovered.2, none, [bothRecovered.1]⟩ := by
  let InTurnAt := fun (now : Instant) (c : CommandCall) (s : PublishedStore) =>
    InTurn c s (lampPublication now c s).1 (lampPublication now c s).2
  have hcalls : ∀ (now : Instant) (k : ℕ) (p : Program CommandCall CommandCall.Response Unit) (s : PublishedStore)
      (before after : List (Program CommandCall CommandCall.Response Unit)),
      p.PermittedFor (lampPublication now) (InTurnAt now) k s →
      Relation.ReflTransGen (SteadyStep residentHost minuteStoreHost (fun id => toString id))
        ⟨s, none, before ++ p :: after⟩
        ⟨(steadyCalls now k p s).2, none, before ++ (steadyCalls now k p s).1 :: after⟩ :=
    fun now k p s before after hpermitted => @Interleaves.within_of_runFor _ _ _ _
      (inTurnRules residentHost minuteStoreHost (fun id => toString id)) _ (lampPublication now) (InTurnAt now)
      (fun c s hturn => ⟨trivial, publicationApply_handles _ _ now c s, hturn⟩) k p s hpermitted none before after
  have hrequests : ∀ {p : Program CommandCall CommandCall.Response Unit},
      CommandRequested residentHost p → ∀ (s : PublishedStore)
      (clients : List (Program CommandCall CommandCall.Response Unit)),
      SteadyStep residentHost minuteStoreHost (fun id => toString id) ⟨s, none, clients⟩ ⟨s, none, p :: clients⟩ :=
    fun hp _ _ => ⟨.request hp, (nomatch ·)⟩
  have hlater := hcalls 4 5 laterExecution (lampCommands, []) [] [] (by decide +kernel)
  have hlamp := hcalls 5 9 lampExecution laterReceived.2 [] [laterReceived.1] (by decide +kernel)
  have hlaterOn := hcalls 4 6 laterReceived.1 lampValidated.2 [lampValidated.1] [] (by decide +kernel)
  have hlampOn := hcalls 5 1 lampValidated.1 laterValidated.2 [] [laterValidated.1] (by decide +kernel)
  have hrecovered := hcalls 6 40 lampRecovery lampPublished.2 [] [] (by decide +kernel)
  have hpublished : ∀ id, Published lampPublished.2 id :=
    published_of_ids [0, 1] (by decide +kernel) (by decide +kernel) (by decide +kernel)
  have hcrash : SteadyStep residentHost minuteStoreHost (fun id => toString id)
      ⟨lampPublished.2, none, [lampPublished.1, laterValidated.1]⟩ ⟨lampPublished.2, none, []⟩ :=
    ⟨.crash, fun _ => hpublished⟩
  have hboth := (((Relation.ReflTransGen.head (hrequests (.execute resident lampLater 4) _ _) hlater).tail
    (hrequests (.execute resident lampOn 5) _ _)).trans hlamp).trans (hlaterOn.trans hlampOn)
  exact ((hboth.tail hcrash).tail (hrequests (.recover 6) _ _)).trans hrecovered

/-- One command is validated between the validation and the event of the other; the service crashes when both
have their events, and recovery sends both. -/
theorem publication_lossless_lamps :
    (bothRecovered.2.2.map (fun event => (event.commandId, event.outcome)) =
      [(0, none, .received, 0), (1, none, .received, 0), (0, some .received, .validated, 1),
        (1, some .received, .validated, 1), (0, some .validated, .dispatched, 2),
        (0, some .dispatched, .acknowledged, 3), (1, some .validated, .dispatched, 2),
        (1, some .dispatched, .acknowledged, 3)]) ∧
      PublishedLosslessly bothRecovered.2 := by
  refine ⟨by decide +kernel, ?_⟩
  have hcommands : lampCommands.commands.rows = [] := rfl
  refine (publication_lossless hcommands rfl bothRecovered_reached).2 ?_
  intro program hprogram
  rw [List.mem_singleton.mp hprogram]
  rfl

/-- The service crashes between the receipt and its event. Recovery finishes the command
and publishes what it commits itself, but the receipt never has an event. -/
theorem receipt_never_published :
    ∃ reached : Processes CommandCall CommandCall.Response PublishedStore Unit,
      Relation.ReflTransGen (Interleaves (publicationRules residentHost minuteStoreHost
        (fun id => toString id))) ⟨(lampCommands, []), none, []⟩ reached ∧
      reached.clients = [.done ()] ∧
      reached.state.2.map CommandTransitionedEvent.outcome =
        [(some .received, .validated, 1), (some .validated, .dispatched, 2),
          (some .dispatched, .acknowledged, 3)] ∧
      ¬ PublishedLosslessly reached.state := by
  let crashed := (lampExecution.runFor (lampPublication 5) 4 (lampCommands, [])).2
  refine ⟨⟨(lampRecovery.run (lampPublication 6) crashed).2, none, [.done ()]⟩, ?_, rfl,
    by decide +kernel, ?_⟩
  · have hexecute := @Interleaves.of_runFor_client _ _ _ _ (publicationRules residentHost minuteStoreHost
        (fun id => toString id)) (lampPublication 5) (publicationApply_handles _ _ 5)
      (fun _ _ => trivial) _ (CommandRequested.execute resident lampOn 5) 4 (lampCommands, []) none []
    have hrecover := @Interleaves.of_run_client _ _ _ _ (publicationRules residentHost minuteStoreHost
        (fun id => toString id)) (lampPublication 6) (publicationApply_handles _ _ 6)
      (fun _ _ => trivial) _ (CommandRequested.recover 6) crashed none []
    exact (hexecute.tail .crash).trans hrecover
  · intro h
    have hreceipt := h.exact 0
    revert hreceipt
    decide +kernel

end HomeMagic
