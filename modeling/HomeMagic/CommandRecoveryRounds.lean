import HomeMagic.CommandRecovery

/-! Rounds of recovery. A round that is not disturbed finishes every command of its page
whose deadline has passed, and no command becomes open again, so that as many rounds as
there are such commands are enough when each page holds one of them. -/
namespace HomeMagic
open Table

open CommandStore Fallible

variable {c : CommandCall} {r : c.Response} {a b : CommandStore} {g : CommandGhost}
  {result : Except CommandServiceError ℕ}

section Calls
variable {storeHost : StoreHost} {commandIdText : CommandId → String} {s s' : CommandStore}

structure Carries (s s' : CommandStore) : Prop where
  closed : ∀ id, Closed s id → Closed s' id
  housed : ∀ envelope, Housed s envelope → Housed s' envelope

theorem Carries.refl (s : CommandStore) : Carries s s := ⟨fun _ h => h, fun _ h => h⟩

theorem Carries.trans {c : CommandStore} (hab : Carries a b) (hbc : Carries b c) : Carries a c :=
  ⟨fun id h => hbc.closed id (hab.closed id h), fun envelope h => hbc.housed envelope (hab.housed envelope h)⟩

theorem CommandStore.OwnersKept.housed {envelope : CommandEnvelope} (h : OwnersKept s s')
    (hhoused : Housed s envelope) : Housed s' envelope := by
  obtain ⟨device, hdevice, hid⟩ := hhoused.device
  obtain ⟨device', hdevice', hid'⟩ := h.devices device hdevice
  exact ⟨⟨device', hdevice', hid'.trans hid⟩, h.actors _ hhoused.actor⟩

theorem carries_call (h : commandHandler storeHost commandIdText c s r s') : Carries s s' := by
  refine ⟨?_, fun _ => (commandHandler_owners h).housed⟩
  rintro id ⟨row, hrow, hid, hterminal⟩
  obtain ⟨row', hrow', hkept⟩ := (commandHandler_changes h).persists row hrow
  obtain ⟨rfl, _⟩ := hkept.terminal hterminal
  exact ⟨row', hrow', hid, hterminal⟩

theorem ensures_carries {α : Type} (p : Program CommandCall CommandCall.Response α) (s : CommandStore) :
    p.Ensures (undisturbed storeHost commandIdText) (fun _ s' => Carries s s') s :=
  .of_calls Carries.refl (fun _ _ _ => Carries.trans) (fun _ _ _ _ hh => carries_call hh.1) p s

theorem housed_call (h : commandHandler storeHost commandIdText c s r s')
    (hhoused : ∀ row ∈ s.commands.rows, Housed s row.command.envelope) :
    ∀ row ∈ s'.commands.rows, Housed s' row.command.envelope := by
  have howners := commandHandler_owners h
  have happends := commandHandler_appends h
  generalize hcommitted : committed c r = committedAudit at happends
  intro row hrow
  cases happends with
  | kept hc _ => exact howners.housed (hhoused row (hc ▸ hrow))
  | moved current next audit hmoved =>
    rw [hmoved.commands] at hrow
    rcases (mem_replace hmoved.found).mp hrow with rfl | ⟨hrow, _⟩
    · rw [hmoved.move.envelope]
      exact howners.housed (hhoused current (find_eq_some.mp hmoved.found).1)
    · exact howners.housed (hhoused row hrow)
  | created command requestHash audit hcall hcreated =>
    subst hcall
    rw [hcreated.commands, List.mem_append, List.mem_singleton] at hrow
    rcases hrow with hrow | rfl
    · exact howners.housed (hhoused row hrow)
    · rcases h with ⟨outcome, rfl, hok⟩ | ⟨⟨error, rfl⟩, _⟩
      · obtain ⟨device, hdevice⟩ := hcreated.device
        obtain ⟨hin, hid⟩ := find_eq_some.mp hdevice
        apply howners.housed
        refine ⟨⟨device, hin, hid⟩, ?_⟩
        -- the insertion has looked the actor up
        unfold createCommand at hok
        rw [hcreated.unkeyed] at hok
        obtain ⟨_, _, hok⟩ := bind_ok hok
        obtain ⟨_, hinserted, _⟩ := bind_ok hok
        unfold insertCommand at hinserted
        split at hinserted
        · rename_i security _ hactor _
          show (s.actors.find command.envelope.actorId).isSome = true
          rw [hactor]
          rfl
        · cases hinserted
      · cases hcommitted

def Stems (s s' : CommandStore) : Prop :=
  ∀ row' ∈ s'.commands.rows, ∃ row ∈ s.commands.rows,
    row.command.envelope = row'.command.envelope ∧
      (row'.command.isTerminal = false → row.command.isTerminal = false)

theorem Stems.refl (s : CommandStore) : Stems s s := fun row hrow => ⟨row, hrow, rfl, id⟩

theorem Stems.trans {c : CommandStore} (hab : Stems a b) (hbc : Stems b c) : Stems a c := by
  intro row'' hrow''
  obtain ⟨row', hrow', henvelope', hopen'⟩ := hbc row'' hrow''
  obtain ⟨row, hrow, henvelope, hopen⟩ := hab row' hrow'
  exact ⟨row, hrow, henvelope.trans henvelope', fun h => hopen (hopen' h)⟩

theorem physical_dispatched {current next : StoredCommand} {audit : CommandAuditRecord}
    (hallows : commandDiscipline.allows g c) (hslots : ∀ slot ∈ s.slots.rows, Physical s slot.commandId)
    (h : commandHandler storeHost commandIdText c s r s') (hsends : ∀ envelope, c ≠ .dispatch envelope)
    (hmoved : Moved s s' current next audit) (hstate : next.command.state = .dispatched) :
    current.command.envelope.dryRun = false := by
  have hdispatches := hmoved.dispatches_eq hstate
  have hphysical : Physical s next.command.envelope.id := by
    cases commandHandler_effect hsends hallows hslots h with
    | quiet hquiet _ =>
      rw [hquiet.dispatches_eq] at hdispatches
      have hcard := congrArg Multiset.card hdispatches
      rw [Multiset.card_cons] at hcard
      omega
    | commits _ other _ hother hotherState hphysical _ =>
      rw [hother.dispatches_eq hotherState] at hdispatches
      rw [← (Multiset.cons_inj_left _).mp hdispatches]
      exact hphysical
  obtain ⟨row, hrow, hid, hdry⟩ := hphysical
  obtain ⟨hcurrent, hcurrentId⟩ := find_eq_some.mp hmoved.found
  rw [← eq_of_key hrow hcurrent (hid.trans hcurrentId.symm)]
  exact hdry

theorem CommandState.eq_dispatched {next : CommandState}
    (hallowed : CommandState.validated.allowsTransitionTo next = true) (hopen : next.isTerminal = false) :
    next = .dispatched := by
  cases next <;> first | rfl | exact absurd hallowed (by decide) | exact absurd hopen (by decide)

theorem stems_call (hallows : commandDiscipline.allows g c) (hcreates : ∀ command hash, ¬ g.creates command hash)
    (hslots : ∀ slot ∈ s.slots.rows, Physical s slot.commandId)
    (h : commandHandler storeHost commandIdText c s r s') : Stems s s' := by
  have happends := commandHandler_appends h
  generalize hcommitted : committed c r = committedAudit at happends
  intro row' hrow'
  cases happends with
  | kept hc _ => exact ⟨row', hc ▸ hrow', rfl, id⟩
  | created command requestHash audit hcall _ =>
    subst hcall
    exact absurd hallows (hcreates command requestHash)
  | moved current next audit hmoved =>
    rw [hmoved.commands] at hrow'
    rcases (mem_replace hmoved.found).mp hrow' with rfl | ⟨hrow', _⟩
    · refine ⟨current, (find_eq_some.mp hmoved.found).1, hmoved.move.envelope.symm, ?_⟩
      intro hopen
      have hallowed := hmoved.move.allowed
      unfold CommandAggregate.isTerminal at hopen ⊢
      rw [Bool.or_eq_false_iff] at hopen ⊢
      refine ⟨CommandState.allowsTransitionTo_terminal hallowed, ?_⟩
      cases hstate : current.command.state with
      | validated =>
        rw [hstate] at hallowed
        have hdispatched := CommandState.eq_dispatched hallowed hopen.1
        have hsends : ∀ envelope, c ≠ .dispatch envelope := by
          rintro envelope rfl
          cases hcommitted
        rw [physical_dispatched hallows hslots h hsends hmoved hdispatched]
        rfl
      | _ => exact Bool.and_false _
    · exact ⟨row', hrow', rfl, id⟩

end Calls

section Round
variable {host : CommandHost} {storeHost : StoreHost} {commandIdText : CommandId → String}
  {now : Instant} {s s' : CommandStore}

def commandPage (storeHost : StoreHost) (commandIdText : CommandId → String) (s : CommandStore) :
    List CommandAggregate :=
  s.loadRecoverableCommands storeHost commandIdText commandRecoveryPage

theorem commandPage_mem {command : CommandAggregate}
    (h : command ∈ commandPage storeHost commandIdText s) :
    ∃ row ∈ s.commands.rows, row.command = command ∧ command.isTerminal = false := by
  obtain ⟨row, hrow, rfl⟩ := List.mem_map.mp h
  obtain ⟨hin, hopen⟩ := mem_of_mem_page hrow
  exact ⟨row, hin, rfl, by simpa using hopen⟩

theorem recovers_recoverAll (commands : List CommandAggregate) :
    ∀ {s : CommandStore}, (∀ command ∈ commands, Housed s command.envelope) →
      (∀ command ∈ commands, command.isTerminal = false) →
      Recovers storeHost commandIdText (recoverAll host now commands) (fun _ s' =>
        ∀ command ∈ commands, command.envelope.deadline ≤ now → Closed s' command.envelope.id) s := by
  induction commands with
  | nil => exact fun _ _ => succeeds_pure (fun command hcommand => absurd hcommand List.not_mem_nil)
  | cons command rest ih =>
    intro s hhoused hopen
    have hone := @recovers_recoverOne storeHost commandIdText _ host
      _ now (hhoused command List.mem_cons_self) (hopen command List.mem_cons_self)
    apply succeeds_bind
    apply (hone.and (ensures_carries _ s)).mono
    rintro _ s₁ ⟨hclosed, hcarries⟩
    have hrest := ih (s := s₁)
      (fun other hother => hcarries.housed _ (hhoused other (List.mem_cons_of_mem _ hother)))
      (fun other hother => hopen other (List.mem_cons_of_mem _ hother))
    apply (hrest.and (ensures_carries _ s₁)).mono
    rintro _ s₂ ⟨hfinished, hcarries⟩ other hother hdue
    rcases List.mem_cons.mp hother with rfl | hother
    · exact hcarries.closed _ (hclosed hdue)
    · exact hfinished other hother hdue

/-- The first commands of a page are recovered whatever comes after them. -/
theorem recoverAll_append (before after : List CommandAggregate) :
    recoverAll host now (before ++ after) = (do recoverAll host now before; recoverAll host now after) := by
  induction before with
  | nil =>
    show _ = ((pure () : CommandM Unit) >>= fun _ => recoverAll host now after)
    rw [pure_bind, List.nil_append]
  | cons command rest ih =>
    show (recoverOne host command now >>= fun _ => recoverAll host now (rest ++ after)) = _
    rw [ih]
    exact (bind_assoc _ _ _).symm

theorem closed_of_recovered {before after : List CommandAggregate}
    (hhoused : ∀ row ∈ s.commands.rows, Housed s row.command.envelope)
    (hpage : commandPage storeHost commandIdText s = before ++ after)
    {trace : List (Program.Made CommandCall CommandStore)} {outcome : Except CommandServiceError Unit}
    (hrun : (recoverAll host now before).run.Completes (undisturbed storeHost commandIdText) Eq s trace
      outcome s') {last : CommandStore}
    (hlater : CommandStore.Reaches storeHost commandIdText s' last) :
    ∀ command ∈ before, command.envelope.deadline ≤ now → Closed last command.envelope.id := by
  have hbefore : ∀ command ∈ before, Housed s command.envelope ∧ command.isTerminal = false := by
    intro command hcommand
    obtain ⟨row, hrow, rfl, hopen⟩ := commandPage_mem (hpage ▸ List.mem_append_left after hcommand)
    exact ⟨hhoused row hrow, hopen⟩
  obtain ⟨_, -, hclosed⟩ := (recovers_recoverAll before (fun command hcommand => (hbefore command hcommand).1)
    (fun command hcommand => (hbefore command hcommand).2)).completes hrun
  intro command hcommand hdue
  have hkept : Carries s' last := by
    induction hlater with
    | refl => exact .refl _
    | tail _ hstep ih =>
      obtain ⟨c, r, hcall⟩ := hstep
      exact ih.trans (carries_call hcall)
  exact hkept.closed _ (hclosed command hcommand hdue)

theorem recovers_recoverCommands (hhoused : ∀ row ∈ s.commands.rows, Housed s row.command.envelope) :
    Recovers storeHost commandIdText (recoverCommands host now) (fun count s' =>
      count = (commandPage storeHost commandIdText s).length ∧
        ∀ command ∈ commandPage storeHost commandIdText s, command.envelope.deadline ≤ now →
          Closed s' command.envelope.id) s := by
  unfold recoverCommands
  apply succeeds_bind
  apply recovers_calling
  intro response s₁ hh
  obtain ⟨⟨rfl, hread⟩, hok⟩ := hh
  obtain ⟨commands, rfl⟩ := exists_of_isOk hok
  obtain rfl : commands = commandPage storeHost commandIdText s₁ := hread commands rfl
  refine ⟨_, rfl, ?_⟩
  apply succeeds_bind
  have hpage : ∀ command ∈ commandPage storeHost commandIdText s₁,
      Housed s₁ command.envelope ∧ command.isTerminal = false := by
    intro command hcommand
    obtain ⟨row, hrow, rfl, hopen⟩ := commandPage_mem hcommand
    exact ⟨hhoused row hrow, hopen⟩
  apply (recovers_recoverAll _ (fun command hcommand => (hpage command hcommand).1)
    (fun command hcommand => (hpage command hcommand).2)).mono
  exact fun _ _ hclosed => succeeds_pure ⟨rfl, hclosed⟩

def RecoveryRound (host : CommandHost) (storeHost : StoreHost) (commandIdText : CommandId → String)
    (now : Instant) (s : CommandStore) (result : Except CommandServiceError ℕ) (s' : CommandStore) : Prop :=
  ∃ trace, (recoverCommands host now).run.Completes (undisturbed storeHost commandIdText) Eq s trace
    result s'

structure Settling (s : CommandStore) : Prop where
  housed : ∀ row ∈ s.commands.rows, Housed s row.command.envelope
  governed : ∃ log, Governed (s, log) []

theorem RecoveryRound.recovers (hs : Settling s) (h : RecoveryRound host storeHost commandIdText now s result s') :
    result = .ok (commandPage storeHost commandIdText s).length ∧
      (∀ command ∈ commandPage storeHost commandIdText s, command.envelope.deadline ≤ now →
        Closed s' command.envelope.id) ∧ Stems s s' ∧ Settling s' := by
  obtain ⟨trace, hrun⟩ := h
  obtain ⟨log, hgoverned⟩ := hs.governed
  obtain ⟨count, hresult, hcount, hclosed⟩ := (recovers_recoverCommands hs.housed).completes hrun
  let ghost := CommandGhost.initial now (fun _ _ => False) (!host.dispatchControl)
  let Inv : CommandStore → CommandGhost → Prop := fun s g =>
    (∃ log, Governed (s, log) [g]) ∧ ∀ command hash, ¬ g.creates command hash
  have hstart : Inv s ghost := ⟨⟨log, hgoverned.started ⟨rfl, rfl⟩⟩, fun _ _ => id⟩
  have hcall : ∀ g c s r s', commandDiscipline.allows g c → undisturbed storeHost commandIdText c s r s' →
      Inv s g → Inv s' (commandDiscipline.move g c r) ∧ Stems s s' := by
    rintro g c s r s' hallows ⟨hh, _⟩ ⟨⟨log, hg⟩, hcreates⟩
    refine ⟨⟨⟨log ++ sends c r s s', ?_⟩, ?_⟩, stems_call hallows hcreates hg.slots hh⟩
    · exact @Governed.call _ _ [] [] _ _ _ _ _ hallows ⟨hh, rfl⟩ hg
    · intro command hash
      show ¬ (g.move c r).creates command hash
      rw [CommandGhost.move_creates]
      exact hcreates command hash
  have hstems := (Program.Ensures.of_obeys Stems.refl (fun _ _ _ => Stems.trans)
    (fun c s r s' hh => commandHandler_valid hh.1) hcall
    (keeping_recoverCommands host (g := ghost) rfl rfl) hstart).completes hrun
  obtain ⟨⟨g, ⟨log', hg⟩, _⟩, hstems⟩ := hstems
  have hcarries := (ensures_carries _ s).completes hrun
  rw [hcount] at hresult
  refine ⟨hresult, hclosed, hstems, ?_, log', hg.crashed⟩
  intro row' hrow'
  obtain ⟨row, hrow, henvelope, _⟩ := hstems row' hrow'
  rw [← henvelope]
  exact hcarries.housed _ (hs.housed row hrow)

def isDue (now : Instant) (row : StoredCommand) : Bool :=
  !row.command.isTerminal && decide (row.command.envelope.deadline ≤ now)

def dueCommands (now : Instant) (s : CommandStore) : ℕ := s.commands.count (isDue now)

/-- The page holds an open command whose deadline has passed, if there is one. -/
def PageDue (storeHost : StoreHost) (commandIdText : CommandId → String) (now : Instant)
    (s : CommandStore) : Prop :=
  0 < dueCommands now s →
    ∃ command ∈ commandPage storeHost commandIdText s, command.envelope.deadline ≤ now

instance (storeHost : StoreHost) (commandIdText : CommandId → String) (now : Instant)
    (s : CommandStore) : Decidable (PageDue storeHost commandIdText now s) :=
  inferInstanceAs (Decidable (_ → _))

inductive RecoveryRounds (host : CommandHost) (storeHost : StoreHost) (commandIdText : CommandId → String)
    (now : Instant) : ℕ → CommandStore → CommandStore → Prop
  | none (s : CommandStore) : RecoveryRounds host storeHost commandIdText now 0 s s
  | round {n : ℕ} {s s' s'' : CommandStore} {result : Except CommandServiceError ℕ}
      (h : RecoveryRounds host storeHost commandIdText now n s s')
      (hpage : PageDue storeHost commandIdText now s')
      (hround : RecoveryRound host storeHost commandIdText now s' result s'') :
      RecoveryRounds host storeHost commandIdText now (n + 1) s s''

theorem Stems.isDue (h : Stems s s') : ∀ row' ∈ s'.commands.rows, HomeMagic.isDue now row' = true →
    ∃ row ∈ s.commands.rows, HomeMagic.isDue now row = true ∧
      row.command.envelope.id = row'.command.envelope.id := by
  intro row' hrow' hdue
  obtain ⟨row, hrow, henvelope, hopen⟩ := h row' hrow'
  unfold HomeMagic.isDue at hdue
  rw [Bool.and_eq_true, Bool.not_eq_true'] at hdue
  refine ⟨row, hrow, ?_, congrArg CommandEnvelope.id henvelope⟩
  unfold HomeMagic.isDue
  rw [Bool.and_eq_true, Bool.not_eq_true', henvelope]
  exact ⟨hopen hdue.1, hdue.2⟩

theorem RecoveryRound.due_lt (hs : Settling s) (hpage : PageDue storeHost commandIdText now s)
    (h : RecoveryRound host storeHost commandIdText now s result s') :
    dueCommands now s' ≤ dueCommands now s - 1 := by
  obtain ⟨_, hclosed, hstems, _⟩ := h.recovers hs
  have hle : dueCommands now s' ≤ dueCommands now s := count_le_of_keys hstems.isDue
  by_cases hnone : dueCommands now s = 0
  · omega
  · obtain ⟨command, hcommand, hdeadline⟩ := hpage (Nat.pos_of_ne_zero hnone)
    obtain ⟨row, hrow, rfl, hopen⟩ := commandPage_mem hcommand
    have hdue : isDue now row = true := by
      unfold isDue
      rw [hopen, Bool.not_false, Bool.true_and, decide_eq_true_eq]
      exact hdeadline
    obtain ⟨finished, hfinished, hid, hterminal⟩ := hclosed _ hcommand hdeadline
    have hmiss : ∀ row' ∈ s'.commands.rows, isDue now row' = true →
        row'.command.envelope.id ≠ row.command.envelope.id := by
      intro row' hrow' hdue' hsame
      obtain rfl := eq_of_key hrow' hfinished (hsame.trans hid.symm)
      unfold isDue CommandAggregate.isTerminal at hdue'
      rw [hterminal] at hdue'
      cases hdue'
    have hlt : dueCommands now s' < dueCommands now s :=
      count_lt_of_keys hstems.isDue hrow hdue hmiss
    omega

theorem RecoveryRounds.due_le {n : ℕ} (hs : Settling s)
    (h : RecoveryRounds host storeHost commandIdText now n s s') :
    Settling s' ∧ dueCommands now s' ≤ dueCommands now s - n := by
  induction h with
  | none s => exact ⟨hs, le_refl _⟩
  | round _ hpage hround ih =>
    obtain ⟨hsettling, hle⟩ := ih hs
    have hnext := hround.due_lt hsettling hpage
    exact ⟨(hround.recovers hsettling).2.2.2, by omega⟩

end Round

theorem settling_of_run {host : CommandHost} {storeHost : StoreHost} {commandIdText : CommandId → String}
    {first : CommandStore} (hcommands : first.commands.rows = []) (haudit : first.audit.rows = [])
    (hslots : first.slots.rows = [])
    {reached : Processes CommandCall CommandCall.Response (CommandStore × List Sent) Unit}
    (hrun : Relation.ReflTransGen (Interleaves (commandRules host storeHost commandIdText))
      ⟨(first, []), none, []⟩ reached) : Settling reached.state.1 := by
  obtain ⟨gs, hgoverned⟩ := governed_of_run hrun (governed_start hcommands haudit hslots) rfl rfl
  refine ⟨?_, reached.state.2, hgoverned.crashed⟩
  have hfirst : ∀ row ∈ first.commands.rows, Housed first row.command.envelope := by
    rw [hcommands]
    exact fun row hrow => absurd hrow List.not_mem_nil
  exact @Interleaves.invariant_of_calls _ _ _ _ (commandRules host storeHost commandIdText)
    (fun _ => True)
    (fun s : CommandStore × List Sent => ∀ row ∈ s.1.commands.rows, Housed s.1 row.command.envelope)
    (fun p _ => p.calls_true) (fun p _ => p.calls_true)
    (fun _ _ _ _ _ _ hhoused hh => housed_call hh.1 hhoused) _ _ hrun hfirst rfl rfl

/-- Whatever the service has left: as long as recovery is not disturbed and each page
holds an open command whose deadline has passed if there is one, every call of `recover`
recovers its whole page, and after as many calls as there were such commands none is left. What comes
after them in a page does not keep the commands before it from being finished. -/
theorem recovery_complete {host : CommandHost} {storeHost : StoreHost} {commandIdText : CommandId → String}
    {first : CommandStore} (hcommands : first.commands.rows = []) (haudit : first.audit.rows = [])
    (hslots : first.slots.rows = [])
    {reached : Processes CommandCall CommandCall.Response (CommandStore × List Sent) Unit}
    (hrun : Relation.ReflTransGen (Interleaves (commandRules host storeHost commandIdText))
      ⟨(first, []), none, []⟩ reached) {now : Instant} {n : ℕ} {s : CommandStore}
    (hrounds : RecoveryRounds host storeHost commandIdText now n reached.state.1 s) :
    (∀ result s', RecoveryRound host storeHost commandIdText now s result s' →
      result = .ok (commandPage storeHost commandIdText s).length ∧
        ∀ command ∈ commandPage storeHost commandIdText s, command.envelope.deadline ≤ now →
          Closed s' command.envelope.id) ∧
    (dueCommands now reached.state.1 ≤ n → dueCommands now s = 0) ∧
    ∀ before after, commandPage storeHost commandIdText s = before ++ after →
      recoverAll host now (before ++ after) = (do recoverAll host now before; recoverAll host now after) ∧
      ∀ trace outcome s', (recoverAll host now before).run.Completes (undisturbed storeHost commandIdText) Eq s trace
          outcome s' → ∀ last, CommandStore.Reaches storeHost commandIdText s' last →
        ∀ command ∈ before, command.envelope.deadline ≤ now → Closed last command.envelope.id := by
  obtain ⟨hsettling, hle⟩ := hrounds.due_le (settling_of_run hcommands haudit hslots hrun)
  refine ⟨?_, fun hn => by omega, fun before after hpage => ⟨recoverAll_append before after, ?_⟩⟩
  swap
  · intro trace outcome s' hrecovered last hlater
    exact closed_of_recovered hsettling.housed hpage hrecovered hlater
  intro result s' hround
  obtain ⟨hresult, hclosed, _⟩ := hround.recovers hsettling
  exact ⟨hresult, hclosed⟩

def lampRecoveredAt (now : Instant) (s : CommandStore) : CommandStore :=
  ((recoverCommands residentHost now).run.run (commandApply minuteStoreHost (fun id => toString id) now) s).2

def lampsSent : CommandStore × List Sent :=
  ((asRequest (execute residentHost resident lampOn 5).run).run
    (trackingApply (commandApply minuteStoreHost (fun id => toString id) 5) sends)
    ((asRequest (execute residentHost resident lampLater 4).run).run
      (trackingApply (commandApply minuteStoreHost (fun id => toString id) 4) sends)
      (lampCommands, [])).2).2

theorem lampsSent_reached : Relation.ReflTransGen
    (Interleaves (commandRules residentHost minuteStoreHost (fun id => toString id)))
    ⟨(lampCommands, []), none, []⟩ ⟨lampsSent, none, [.done (), .done ()]⟩ :=
  (Interleaves.of_run_client (trackingApply_handles (commandApply_handles _ _ 4) sends)
    (fun _ _ => trivial) (CommandRequested.execute resident lampLater 4) _ none []).trans
  (Interleaves.of_run_client (trackingApply_handles (commandApply_handles _ _ 5) sends)
    (fun _ _ => trivial) (CommandRequested.execute resident lampOn 5) _ none _)

theorem lampRecoveredAt_round (s : CommandStore) (h : (recoverCommands residentHost 40).run.Permitted
    (commandApply minuteStoreHost (fun id => toString id) 40)
    (fun c s => CommandStore.Answered s c (commandApply minuteStoreHost (fun id => toString id) 40 c s).1) s) :
    RecoveryRound residentHost minuteStoreHost (fun id => toString id) 40 s
      ((recoverCommands residentHost 40).run.run (commandApply minuteStoreHost (fun id => toString id) 40) s).1
      (lampRecoveredAt 40 s) :=
  @Program.Completes.of_permitted _ _ _ _
    (undisturbed minuteStoreHost (fun id => toString id)) Eq
    (commandApply minuteStoreHost (fun id => toString id) 40)
    (fun c s => CommandStore.Answered s c (commandApply minuteStoreHost (fun id => toString id) 40 c s).1)
    (fun _ => rfl) (fun c s ha => ⟨commandApply_handles _ _ 40 c s, ha⟩)
    (recoverCommands residentHost 40).run s h

/-- Two acknowledged commands whose deadlines have passed: the first call recovers both, and the second one has
nothing left to do. -/
theorem recovery_complete_lamps :
    dueCommands 40 lampsSent.1 = 2 ∧
      ((recoverCommands residentHost 40).run.run (commandApply minuteStoreHost (fun id => toString id) 40)
        lampsSent.1).1 = .ok 2 ∧
      dueCommands 40 (lampRecoveredAt 40 (lampRecoveredAt 40 lampsSent.1)) = 0 := by
  have hfirst := lampRecoveredAt_round lampsSent.1 (by decide +kernel)
  have hsecond := lampRecoveredAt_round (lampRecoveredAt 40 lampsSent.1) (by decide +kernel)
  have hpage : PageDue minuteStoreHost (fun id => toString id) 40 lampsSent.1 := by decide +kernel
  have hnext : PageDue minuteStoreHost (fun id => toString id) 40 (lampRecoveredAt 40 lampsSent.1) := by
    decide +kernel
  have hlength : (commandPage minuteStoreHost (fun id => toString id) lampsSent.1).length = 2 := by decide +kernel
  have hdue : dueCommands 40 lampsSent.1 = 2 := by decide +kernel
  have hnone : RecoveryRounds residentHost minuteStoreHost (fun id => toString id) 40 0 lampsSent.1 lampsSent.1 :=
    .none _
  have hstart := @recovery_complete _ _ _ lampCommands rfl rfl rfl _ lampsSent_reached _ _ _ hnone
  have hrounds := RecoveryRounds.round (.round hnone hpage hfirst) hnext hsecond
  refine ⟨hdue, ?_, (@recovery_complete _ _ _ lampCommands rfl rfl rfl _ lampsSent_reached _ _ _ hrounds).2.1
    (le_of_eq hdue)⟩
  rw [(hstart.1 _ _ hfirst).1, hlength]

def deafApply (now : Instant) : (c : CommandCall) → CommandStore → c.Response × CommandStore
  | .confirm command, s => (if command.envelope.id = 0 then .error () else .ok .pending, s)
  | c, s => commandApply minuteStoreHost (fun id => toString id) now c s

theorem deafApply_handles (now : Instant) (c : CommandCall) (s : CommandStore) :
    commandHandler minuteStoreHost (fun id => toString id) c s (deafApply now c s).1
      (deafApply now c s).2 := by
  cases c with
  | confirm => rfl
  | _ => exact commandApply_handles _ _ now _ s

def deafRecovery (s : CommandStore) : CommandStore :=
  ((recoverCommands residentHost 20).run.run (deafApply 20) s).2

/-- The outcome of the first command cannot be read, so that every call of `recover` ends
there. The other command has its deadline behind it and would be finished at once, and
however often recovery is called it stays open. -/
theorem deaf_confirmation_blocks_recovery :
    Relation.ReflTransGen
      (Interleaves (commandRules residentHost minuteStoreHost (fun id => toString id)))
      ⟨(lampCommands, []), none, []⟩ ⟨lampsSent, none, [.done (), .done ()]⟩ ∧
    (∀ c s, commandHandler minuteStoreHost (fun id => toString id) c s (deafApply 20 c s).1
      (deafApply 20 c s).2) ∧
    (∀ n, dueCommands 20 (deafRecovery^[n] lampsSent.1) = 1) ∧
    (commandPage minuteStoreHost (fun id => toString id) lampsSent.1).map
      (fun command => (command.envelope.id, command.envelope.deadline)) = [(0, 30), (4, 10)] ∧
    ∃ command ∈ commandPage minuteStoreHost (fun id => toString id) lampsSent.1,
      dueCommands 20 ((recoverOne residentHost command 20).run.run (deafApply 20) lampsSent.1).2 = 0 := by
  refine ⟨lampsSent_reached, deafApply_handles 20, ?_, by decide +kernel, by decide +kernel⟩
  intro n
  have hfixed : deafRecovery lampsSent.1 = lampsSent.1 := by rfl
  rw [Function.iterate_fixed hfixed n]
  decide +kernel

end HomeMagic
