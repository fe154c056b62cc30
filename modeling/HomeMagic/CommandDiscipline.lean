import HomeMagic.Discipline
import HomeMagic.CommandService

/-! What every call of the command service keeps to: it sends a command only after
a dispatch it committed itself and has not used yet, with a deadline after the
instant it was given, it never commits or registers a dry run, and under the Matter
control it commits an unlock without an authorization only after it found no projection
for it. -/
namespace HomeMagic
open List

/-- What a service call in progress has to itself: the instant it was given, the
envelopes of stored commands it has seen, the dispatches it committed and has not sent,
the commands it may create, the commands as it has seen them, those of them (with their
versions) for which it then found no projection, and whether no dispatch control is
attached. -/
structure CommandGhost where
  now : Instant
  known : List CommandEnvelope
  held : Multiset CommandEnvelope
  creates : CommandAggregate → CanonicalRequestHash → Prop
  seen : List CommandAggregate
  cleared : List (CommandId × ℕ)
  uncontrolled : Bool

variable {command : CommandAggregate} {g' a b c : CommandGhost}

variable {g : CommandGhost}

namespace CommandGhost

def initial (now : Instant) (creates : CommandAggregate → CanonicalRequestHash → Prop)
    (uncontrolled : Bool) : CommandGhost :=
  ⟨now, [], 0, creates, [], [], uncontrolled⟩

def learn (g : CommandGhost) (commands : List CommandAggregate) : CommandGhost :=
  { g with known := commands.map CommandAggregate.envelope ++ g.known, seen := commands ++ g.seen }

def see (g : CommandGhost) (command : CommandAggregate) : CommandGhost :=
  { g with seen := command :: g.seen }

def clear (g : CommandGhost) (deviceId : DeviceId) (endpointId : EndpointId) (schema : String) :
    CommandGhost :=
  let found := g.seen.filter (fun command => command.envelope.deviceId == deviceId &&
    command.envelope.endpointId == endpointId && command.envelope.capability.schema == schema)
  { g with cleared := found.map (fun c => (c.envelope.id, c.version)) ++ g.cleared }

def hold (g : CommandGhost) (envelope : CommandEnvelope) : CommandGhost :=
  { g with held := envelope ::ₘ g.held }

def move (g : CommandGhost) : (c : CommandCall) → c.Response → CommandGhost
  | .createCommand command _ _, .ok (.created _) => g.learn [command]
  | .command _, .ok (some command) => g.learn [command]
  | .recoverableCommands _, .ok commands => g.learn commands
  | .transitionCommand command _ _, .ok () =>
    if command.state = .dispatched then (g.hold command.envelope).see command else g.see command
  | .matterProjectionForTarget deviceId endpointId schema, .ok none =>
    g.clear deviceId endpointId schema
  | .recordMatterDispatch write, .ok () => g.hold write.command.envelope
  | .authorizeAndRecordUnlockDispatch _ write, .ok .consumed => g.hold write.command.envelope
  | .dispatch envelope, _ => { g with held := g.held.erase envelope }
  | _, _ => g

theorem move_transition (g : CommandGhost) (command : CommandAggregate) (expectedVersion : ℕ)
    (audit : CommandAuditRecord) :
    g.move (.transitionCommand command expectedVersion audit) (.ok ()) =
      if command.state = .dispatched then (g.hold command.envelope).see command else g.see command := rfl

theorem move_now (g : CommandGhost) (c : CommandCall) (r : c.Response) :
    (g.move c r).now = g.now := by
  unfold move
  split
  case h_4 => split <;> rfl
  all_goals rfl

theorem move_creates (g : CommandGhost) (c : CommandCall) (r : c.Response) :
    (g.move c r).creates = g.creates := by
  unfold move
  split
  case h_4 => split <;> rfl
  all_goals rfl

theorem move_uncontrolled (g : CommandGhost) (c : CommandCall) (r : c.Response) :
    (g.move c r).uncontrolled = g.uncontrolled := by
  unfold move
  split
  case h_4 => split <;> rfl
  all_goals rfl

structure Stays (g g' : CommandGhost) : Prop where
  now : g'.now = g.now
  known : g.known ⊆ g'.known
  seen : g.seen ⊆ g'.seen
  cleared : g.cleared ⊆ g'.cleared
  uncontrolled : g'.uncontrolled = g.uncontrolled

theorem Stays.refl (g : CommandGhost) : Stays g g :=
  ⟨rfl, List.Subset.refl _, List.Subset.refl _, List.Subset.refl _, rfl⟩

theorem Stays.trans (hab : Stays a b) (hbc : Stays b c) : Stays a c :=
  ⟨hbc.now.trans hab.now, List.Subset.trans hab.known hbc.known, List.Subset.trans hab.seen hbc.seen,
    List.Subset.trans hab.cleared hbc.cleared, hbc.uncontrolled.trans hab.uncontrolled⟩

structure Grows (g g' : CommandGhost) : Prop where
  stays : Stays g g'
  held : g.held ≤ g'.held

theorem Grows.now (h : Grows g g') : g'.now = g.now := h.stays.now

theorem Grows.known (h : Grows g g') : g.known ⊆ g'.known := h.stays.known

theorem Grows.seen (h : Grows g g') : g.seen ⊆ g'.seen := h.stays.seen

theorem Grows.refl (g : CommandGhost) : Grows g g := ⟨.refl g, le_refl _⟩

theorem Grows.trans (hab : Grows a b) (hbc : Grows b c) : Grows a c :=
  ⟨hab.stays.trans hbc.stays, hab.held.trans hbc.held⟩

theorem grows_learn (g : CommandGhost) (commands : List CommandAggregate) :
    Grows g (g.learn commands) :=
  ⟨⟨rfl, subset_append_right _ _, subset_append_right _ _, List.Subset.refl _, rfl⟩, le_refl _⟩

theorem grows_hold (g : CommandGhost) (envelope : CommandEnvelope) : Grows g (g.hold envelope) :=
  ⟨⟨rfl, List.Subset.refl _, List.Subset.refl _, List.Subset.refl _, rfl⟩, Multiset.le_cons_self _ _⟩

theorem grows_see (g : CommandGhost) (command : CommandAggregate) : Grows g (g.see command) :=
  ⟨⟨rfl, List.Subset.refl _, subset_cons_self _ _, List.Subset.refl _, rfl⟩, le_refl _⟩

theorem grows_clear (g : CommandGhost) (deviceId : DeviceId) (endpointId : EndpointId)
    (schema : String) : Grows g (g.clear deviceId endpointId schema) :=
  ⟨⟨rfl, List.Subset.refl _, List.Subset.refl _, subset_append_right _ _, rfl⟩, le_refl _⟩

theorem mem_cleared (h : command ∈ g.seen) :
    (command.envelope.id, command.version) ∈ (g.clear command.envelope.deviceId
      command.envelope.endpointId command.envelope.capability.schema).cleared := by
  apply mem_append_left
  exact List.mem_map.mpr ⟨command, List.mem_filter.mpr ⟨h, by simp⟩, rfl⟩

end CommandGhost

def commandDiscipline : Discipline CommandCall CommandCall.Response CommandGhost where
  valid := fun c r => match c, r with
    | .recoverableCommands _, .ok commands => ∀ command ∈ commands, command.isTerminal = false
    | .actorSecurity actorId, .ok (some security) => security.actor.id = actorId
    | _, _ => True
  allows := fun g c => match c with
    | .createCommand command requestHash _ => g.creates command requestHash
    | .dispatch envelope => envelope ∈ g.held ∧ g.now < envelope.deadline
    | .transitionCommand command expectedVersion _ =>
        (command.state = .validated →
          command.envelope.capability.schema = command.envelope.payload.schema) ∧
        (command.state = .dispatched → command.envelope.dryRun = false ∧
          (command.envelope.payload = .accessControl .unlock → g.uncontrolled = true ∨
            (command.envelope.id, expectedVersion) ∈ g.cleared))
    | .recordMatterDispatch write => write.command.envelope.payload ≠ .accessControl .unlock
    | .replaceMatterDesiredState write => ∃ envelope ∈ g.known,
        envelope.id = write.slot.commandId ∧ envelope.dryRun = false
    | .replaceMatterDesiredSlot _ _ => False
    | _ => True
  move := CommandGhost.move

open Fallible CommandGhost

section Walk
variable {ε ε' α β : Type} {g : CommandGhost}

abbrev Keeping (p : CommandPathM ε α) (Q : α → CommandGhost → Prop) (g : CommandGhost) : Prop :=
  p.run.Obeys commandDiscipline (OnOk Q) g

theorem Keeping.mono {p : CommandPathM ε α} {Q Q' : α → CommandGhost → Prop} (h : Keeping p Q g)
    (hq : ∀ a g, Q a g → Q' a g) : Keeping p Q' g :=
  Program.Obeys.mono h (fun _ g hresult a ha => hq a g (hresult a ha))

theorem keeping_calling {wrap : ε → ε'} {p : Program CommandCall CommandCall.Response (Except ε α)}
    {Q : α → CommandGhost → Prop} (h : p.Obeys commandDiscipline (OnOk Q) g) :
    Keeping (calling wrap p) Q g := by
  apply Program.Obeys.bind
  apply h.mono
  intro result g' hresult
  cases result with
  | ok value =>
    intro a ha
    cases ha
    exact hresult value rfl
  | error error =>
    intro a ha
    cases ha

theorem keeping_freshId : Keeping (freshId : CommandPathM ε ℕ) (fun _ g' => g = g') g :=
  ⟨trivial, fun r _ a ha => by cases ha; rfl⟩

theorem keeping_readClock : Keeping readClock (fun _ g' => g = g') g :=
  ⟨trivial, fun r _ a ha => by cases ha; rfl⟩

theorem keeping_publish (audit : CommandAuditRecord) :
    Keeping (publish audit) (fun _ g' => g = g') g :=
  keeping_calling ⟨trivial, fun _ _ _ _ => rfl⟩

/-- A transition grants what it commits: a dispatch may be sent once. -/
theorem keeping_transition {command : CommandAggregate} {next : CommandState} (now : Instant)
    (hschema : next = .validated →
      command.envelope.capability.schema = command.envelope.payload.schema)
    (hallowed : next = .dispatched → command.envelope.dryRun = false ∧
      (command.envelope.payload = .accessControl .unlock → g.uncontrolled = true ∨
        (command.envelope.id, command.version) ∈ g.cleared)) :
    Keeping (transition command next now) (fun moved g' => moved.envelope = command.envelope ∧
      moved ∈ g'.seen ∧ Grows g g' ∧ (next = .dispatched → command.envelope ∈ g'.held)) g := by
  unfold transition
  split
  · exact obeys_throw
  · rename_i moved hmoved
    have hfields : moved.state = next ∧ moved.envelope = command.envelope := by
      unfold CommandAggregate.transition at hmoved
      split at hmoved
      · cases hmoved
        exact ⟨rfl, rfl⟩
      · cases hmoved
    obtain ⟨hstate, henvelope⟩ := hfields
    apply obeys_bind
    apply keeping_freshId.mono
    rintro auditId _ rfl
    apply obeys_bind
    apply keeping_calling
    refine ⟨?_, ?_⟩
    · show (moved.state = .validated →
          moved.envelope.capability.schema = moved.envelope.payload.schema) ∧
        (moved.state = .dispatched → moved.envelope.dryRun = false ∧
          (moved.envelope.payload = .accessControl .unlock → g.uncontrolled = true ∨
            (moved.envelope.id, command.version) ∈ g.cleared))
      rw [hstate, henvelope]
      exact ⟨hschema, hallowed⟩
    · intro response _ value hresponse
      subst hresponse
      apply obeys_bind
      apply (keeping_publish _).mono
      rintro _ _ rfl
      apply obeys_pure
      show moved.envelope = command.envelope ∧
        moved ∈ (if moved.state = .dispatched then (g.hold moved.envelope).see moved
          else g.see moved).seen ∧
        Grows g (if moved.state = .dispatched then (g.hold moved.envelope).see moved
          else g.see moved) ∧
        (next = .dispatched → command.envelope ∈
          (if moved.state = .dispatched then (g.hold moved.envelope).see moved else g.see moved).held)
      refine ⟨henvelope, ?_, ?_, ?_⟩
      · split <;> exact mem_cons_self
      · split
        · exact (grows_hold g moved.envelope).trans (grows_see _ moved)
        · exact grows_see g moved
      · intro hnext
        rw [if_pos (hstate.trans hnext), henvelope]
        exact Multiset.mem_cons_self _ _

theorem keeping_settle {next : CommandState} (now : Instant) (hnext : next ≠ .validated ∧ next ≠ .dispatched) :
    Keeping (transition command next now) (fun _ g' => Grows g g') g :=
  (keeping_transition now (fun h => absurd h hnext.1) (fun h => absurd h hnext.2)).mono
    (fun _ _ h => h.2.2.1)

theorem keeping_reject (command : CommandAggregate) (code : CommandErrorCode) (now : Instant)
    (policy : Option PolicyDecision) :
    Keeping (reject command code now policy) (fun _ g' => Grows g g') g :=
  keeping_settle now (by decide)

theorem keeping_timeout (command : CommandAggregate) (now : Instant) :
    Keeping (timeout command now) (fun _ g' => Grows g g') g :=
  keeping_settle now (by decide)

theorem keeping_confirm (command : CommandAggregate) (now : Instant) :
    Keeping (confirm command now) (fun _ g' => Grows g g') g := by
  unfold confirm
  apply obeys_bind
  apply keeping_calling
  refine ⟨trivial, ?_⟩
  intro response _ outcome hresponse
  subst hresponse
  cases outcome with
  | confirmed confirmation | failed failure => exact keeping_settle now (by decide)
  | pending =>
    show Keeping (if command.envelope.deadline ≤ now then timeout command now else pure command) _ _
    split
    · exact keeping_timeout command now
    · exact obeys_pure (.refl _)

theorem keeping_dispatchCommitted (hheld : command.envelope ∈ g.held)
    (hdeadline : g.now < command.envelope.deadline) :
    Keeping (dispatchCommitted command) (fun _ g' => Stays g g') g := by
  have hafter : ∀ {g' : CommandGhost},
      Grows { g with held := g.held.erase command.envelope } g' → Stays g g' :=
    fun h => ⟨h.now, h.known, h.seen, h.stays.cleared, h.stays.uncontrolled⟩
  unfold dispatchCommitted
  apply obeys_bind
  refine ⟨⟨hheld, hdeadline⟩, ?_⟩
  intro response _ outcome hresponse
  cases hresponse
  cases response with
  | error failure =>
    apply obeys_bind
    apply keeping_readClock.mono
    rintro now _ rfl
    exact (keeping_settle now (by decide)).mono (fun _ _ => hafter)
  | ok acknowledgement =>
    apply obeys_bind
    apply keeping_readClock.mono
    rintro now _ rfl
    show Keeping (if command.envelope.deadline ≤ now then _ else _) _ _
    split
    · exact (keeping_timeout _ now).mono (fun _ _ => hafter)
    · apply obeys_bind
      apply (keeping_settle now (by decide)).mono
      intro moved g₁ hg₁
      apply obeys_bind
      apply keeping_readClock.mono
      rintro later _ rfl
      exact (keeping_confirm moved later).mono (fun _ _ h => hafter (hg₁.trans h))

abbrev Growing (p : CommandPathM ε α) (g : CommandGhost) : Prop :=
  p.run.Obeys commandDiscipline (fun _ g' => Grows g g') g

theorem growing_pure (a : α) : Growing (pure a : CommandPathM ε α) g := Grows.refl g

theorem growing_throw (error : ε) : Growing (throw error : CommandPathM ε α) g := Grows.refl g

theorem growing_bind {x : CommandPathM ε α} {f : α → CommandPathM ε β} (hx : Growing x g)
    (hf : ∀ a g', Grows g g' → Growing (f a) g') : Growing (x >>= f) g := by
  apply obeys_bind_any
  apply Program.Obeys.mono hx
  intro result g' hg'
  cases result with
  | error error => exact hg'
  | ok a => exact Program.Obeys.mono (hf a g' hg') (fun _ _ h => hg'.trans h)

theorem growing_calling {wrap : ε → ε'} {p : Program CommandCall CommandCall.Response (Except ε α)}
    (h : p.Obeys commandDiscipline (fun _ g' => Grows g g') g) : Growing (calling wrap p) g := by
  apply Program.Obeys.bind
  apply h.mono
  intro result g' hg'
  cases result <;> exact hg'

theorem growing_freshId : Growing (freshId : CommandPathM ε ℕ) g :=
  ⟨trivial, fun _ _ => Grows.refl g⟩

theorem Growing.keeping {p : CommandPathM ε α} (h : Growing p g) :
    Keeping p (fun _ g' => Grows g g') g :=
  Program.Obeys.mono h (fun _ _ hg _ _ => hg)

end Walk

variable {now : Instant}

namespace MatterCommandDispatchControl
variable {g : CommandGhost}

theorem growing_command (id : CommandId) :
    Growing (controlled (invoke (.command id))) g := by
  apply growing_calling
  refine ⟨trivial, ?_⟩
  intro response _
  cases response with
  | error error => exact .refl g
  | ok found =>
    cases found with
    | none => exact .refl g
    | some command => exact grows_learn g [command]

theorem growing_projectionFor (command : CommandAggregate) : Growing (projectionFor command) g := by
  unfold projectionFor
  split
  · apply growing_calling
    refine ⟨trivial, ?_⟩
    intro response _
    cases response with
    | error error => exact .refl g
    | ok found =>
      cases found with
      | none => exact grows_clear g _ _ _
      | some projection => exact .refl g
  · exact growing_pure none

theorem keeping_projectionFor (hseen : command ∈ g.seen) :
    Keeping (projectionFor command) (fun found g' => Grows g g' ∧ (found = none →
      command.envelope.payload = .accessControl .unlock →
        (command.envelope.id, command.version) ∈ g'.cleared)) g := by
  unfold projectionFor
  split
  · apply keeping_calling
    refine ⟨trivial, ?_⟩
    intro response _ found hresponse
    subst hresponse
    cases found with
    | none => exact ⟨grows_clear g _ _ _, fun _ _ => mem_cleared hseen⟩
    | some projection => exact ⟨.refl g, fun h => nomatch h⟩
  · rename_i hreplaceable
    apply obeys_pure
    refine ⟨.refl g, fun _ hunlock => ?_⟩
    rw [hunlock] at hreplaceable
    exact absurd rfl hreplaceable

theorem growing_matterDesiredSlot (projectionId : MatterProjectionId) :
    Growing (controlled (invoke (.matterDesiredSlot projectionId))) g :=
  growing_calling ⟨trivial, fun _ _ => Grows.refl g⟩

theorem growing_supersededBy (current : Option MatterDesiredCommandSlot) (now : Instant) :
    Growing (supersededBy current now) g := by
  unfold supersededBy
  split
  · exact growing_pure none
  · split
    · exact growing_pure none
    · apply growing_bind (growing_command _)
      intro found g' _
      cases found with
      | none => exact growing_throw _
      | some prior =>
        dsimp only
        split
        · exact growing_throw _
        · exact growing_bind growing_freshId (fun _ _ _ => growing_pure _)

theorem desiredWrite_slot {projection : StoredMatterProjection}
    {current : Option MatterDesiredCommandSlot} {superseded : Option MatterSupersededCommand}
    {write : MatterDesiredStateWrite} (h : desiredWrite command now projection current superseded = .ok write) :
    write.slot.commandId = command.envelope.id := by
  unfold desiredWrite at h
  dsimp only at h
  split at h
  · cases h
  · split at h
    · cases h
    · split at h
      · cases h
      · split at h
        · cases h
        · cases h
          rfl

theorem growing_replaceDesired (now : Instant) (projection : StoredMatterProjection)
    (current : Option MatterDesiredCommandSlot) (hknown : command.envelope ∈ g.known)
    (hdry : command.envelope.dryRun = false) :
    Growing (replaceDesired command now projection current) g := by
  unfold replaceDesired
  split
  · exact growing_throw _
  · rename_i write hwrite
    apply growing_bind (growing_supersededBy current now)
    intro superseded g' hg'
    refine growing_bind (growing_calling ⟨?_, fun _ _ => Grows.refl g'⟩) (fun _ _ _ => growing_pure _)
    exact ⟨command.envelope, hg'.known hknown, (desiredWrite_slot hwrite).symm, hdry⟩

theorem growing_registerOnce (now : Instant) (hknown : command.envelope ∈ g.known)
    (hdry : command.envelope.dryRun = false) :
    Growing (registerOnce command now) g := by
  unfold registerOnce
  apply growing_bind (growing_projectionFor command)
  intro found g₁ hg₁
  cases found with
  | none => exact growing_pure _
  | some projection =>
    apply growing_bind (growing_matterDesiredSlot _)
    intro current g₂ hg₂
    split
    · exact growing_pure _
    · exact growing_replaceDesired now projection current (hg₂.known (hg₁.known hknown)) hdry

theorem growing_registerDesired (now : Instant) (hdry : command.envelope.dryRun = false) (attempts : ℕ) :
    ∀ (last : BoxError) {g : CommandGhost}, command.envelope ∈ g.known →
      Growing (registerDesired command now attempts last) g := by
  induction attempts with
  | zero =>
    intro last g _
    exact growing_throw last
  | succ attempts ih =>
    intro last g hknown
    apply Program.Obeys.bind
    apply Program.Obeys.mono (growing_registerOnce now hknown hdry)
    intro result g' hg'
    cases result with
    | ok registration => exact hg'
    | error error =>
      exact Program.Obeys.mono (ih error (hg'.known hknown)) (fun _ _ h => hg'.trans h)

structure Admitted (command : CommandAggregate) (g : CommandGhost) (admission : MatterDispatchAdmission)
    (g' : CommandGhost) : Prop where
  grows : Grows g g'
  committed : ∀ dispatched audit, admission = .committed dispatched audit →
    dispatched.envelope = command.envelope ∧ command.envelope ∈ g'.held
  unmanaged : admission = .unmanaged → command.envelope.payload = .accessControl .unlock →
    (command.envelope.id, command.version) ∈ g'.cleared

theorem Admitted.after {admission : MatterDispatchAdmission} {g₁ g₂ : CommandGhost}
    (h : Admitted command g₁ admission g₂) (hg : Grows g g₁) :
    Admitted command g admission g₂ :=
  ⟨hg.trans h.grows, h.committed, h.unmanaged⟩

theorem keeping_dispatchWrite (command : CommandAggregate) (now : Instant)
    (projectionId : MatterProjectionId) :
    Keeping (dispatchWrite command now projectionId)
      (fun write g' => g = g' ∧ write.command.envelope = command.envelope) g := by
  unfold dispatchWrite
  split
  · exact obeys_throw
  · rename_i dispatched hdispatched
    have henvelope : dispatched.envelope = command.envelope := by
      unfold CommandAggregate.transition at hdispatched
      split at hdispatched
      · cases hdispatched
        rfl
      · cases hdispatched
    apply obeys_bind
    apply keeping_freshId.mono
    rintro auditId _ rfl
    exact obeys_pure ⟨rfl, henvelope⟩

theorem admitted_superseded (command : CommandAggregate) :
    Keeping (superseded command) (Admitted command g) g := by
  unfold superseded
  apply obeys_bind
  apply (growing_command _).keeping.mono
  intro found g' hg'
  cases found with
  | none => exact obeys_throw
  | some durable => exact obeys_pure ⟨hg', fun _ _ h => (nomatch h), fun h => (nomatch h)⟩

/-- A dispatch is committed for a command that the call has seen. -/
theorem keeping_commitDispatch (now : Instant) (hseen : command ∈ g.seen) :
    Keeping (commitDispatch command now) (Admitted command g) g := by
  unfold commitDispatch
  apply obeys_bind
  apply (keeping_projectionFor hseen).mono
  rintro found g₁ ⟨hg₁, hcleared⟩
  cases found with
  | none => exact obeys_pure ⟨hg₁, fun _ _ h => (nomatch h), fun _ => hcleared rfl⟩
  | some projection =>
    apply obeys_bind
    apply (growing_matterDesiredSlot _).keeping.mono
    intro slot g₂ hg₂
    have hg : Grows g g₂ := hg₁.trans hg₂
    cases slot with
    | none => exact obeys_throw
    | some slot =>
      dsimp only
      split
      · exact (admitted_superseded command).mono (fun _ _ h => h.after hg)
      · split
        · exact obeys_pure ⟨hg, fun _ _ h => (nomatch h), fun h => (nomatch h)⟩
        · rename_i hunlock
          apply obeys_bind
          apply (keeping_dispatchWrite command now _).mono
          rintro write _ ⟨rfl, henvelope⟩
          apply obeys_bind
          apply keeping_calling
          refine ⟨?_, ?_⟩
          · show write.command.envelope.payload ≠ .accessControl .unlock
            rw [henvelope]
            exact hunlock
          intro response _ value hresponse
          subst hresponse
          apply obeys_pure
          refine ⟨hg.trans (grows_hold g₂ _), ?_, fun h => nomatch h⟩
          rintro dispatched audit ⟨⟩
          refine ⟨henvelope, ?_⟩
          show command.envelope ∈ (g₂.hold write.command.envelope).held
          rw [henvelope]
          exact Multiset.mem_cons_self _ _

theorem keeping_useAuthorization (approver : Actor) (command : CommandAggregate)
    (approval : PolicyDecision) (now : Instant) (projection : StoredMatterProjection)
    (slot : MatterDesiredCommandSlot) (requestHash : CanonicalRequestHash) :
    Keeping (useAuthorization approver command approval now projection slot requestHash)
      (Admitted command g) g := by
  unfold useAuthorization
  dsimp only
  split
  · exact obeys_throw
  · apply obeys_bind
    apply keeping_freshId.mono
    rintro id _ rfl
    apply obeys_bind
    apply keeping_calling
    refine ⟨trivial, ?_⟩
    intro response _ value hresponse
    subst hresponse
    apply obeys_bind
    apply (keeping_dispatchWrite command now _).mono
    rintro write _ ⟨rfl, henvelope⟩
    apply obeys_bind
    apply keeping_calling
    refine ⟨trivial, ?_⟩
    intro response _ outcome hresponse
    subst hresponse
    cases outcome with
    | consumed =>
      apply obeys_pure
      refine ⟨grows_hold _ _, ?_, fun h => nomatch h⟩
      rintro dispatched audit ⟨⟩
      refine ⟨henvelope, ?_⟩
      show command.envelope ∈ (g.hold write.command.envelope).held
      rw [henvelope]
      exact Multiset.mem_cons_self _ _
    | notFound | alreadyConsumed | expired | bindingMismatch => exact obeys_throw

theorem keeping_authorizeUnlock (approver : Actor) (command : CommandAggregate)
    (approval : PolicyDecision) (now : Instant) :
    Keeping (authorizeUnlock approver command approval now) (Admitted command g) g := by
  unfold authorizeUnlock
  split
  · exact obeys_throw
  · apply obeys_bind
    apply (growing_projectionFor command).keeping.mono
    intro found g₁ hg₁
    cases found with
    | none => exact obeys_throw
    | some projection =>
      apply obeys_bind
      apply (growing_matterDesiredSlot _).keeping.mono
      intro slot g₂ hg₂
      have hg : Grows g g₂ := hg₁.trans hg₂
      cases slot with
      | none => exact obeys_throw
      | some slot =>
        dsimp only
        split
        · exact (admitted_superseded command).mono (fun _ _ h => h.after hg)
        · apply obeys_bind
          apply keeping_calling
          refine ⟨trivial, ?_⟩
          intro response _ hash hresponse
          subst hresponse
          cases hash with
          | none => exact obeys_throw
          | some requestHash =>
            exact (keeping_useAuthorization approver command approval now projection slot
              requestHash).mono (fun _ _ h => h.after hg)

end MatterCommandDispatchControl

section Service
variable {g : CommandGhost}

theorem keeping_viaControl {α : Type} {p : ControlM α} {Q : α → CommandGhost → Prop}
    (h : Keeping p Q g) : Keeping (viaControl p) Q g :=
  keeping_calling h

structure Dispatchable (command : CommandAggregate) (now : Instant) (g : CommandGhost) : Prop where
  now : g.now = now
  known : command.envelope ∈ g.known
  seen : command ∈ g.seen
  dryRun : command.envelope.dryRun = false

theorem Dispatchable.grows (h : Dispatchable command now g) (hg : Grows g g') : Dispatchable command now g' :=
  ⟨hg.now.trans h.now, hg.known h.known, hg.seen h.seen, h.dryRun⟩

theorem keeping_dispatchUnmanaged (h : Dispatchable command now g) (hdeadline : now < command.envelope.deadline)
    (hunlock : command.envelope.payload = .accessControl .unlock → g.uncontrolled = true ∨
      (command.envelope.id, command.version) ∈ g.cleared) :
    Keeping (transition command .dispatched now >>= dispatchCommitted) (fun _ g' => Stays g g') g := by
  apply obeys_bind
  apply (keeping_transition now (fun hnext : CommandState.dispatched = .validated => nomatch hnext)
    (fun _ => ⟨h.dryRun, hunlock⟩)).mono
  rintro moved g₁ ⟨henvelope, _, hg₁, hheld⟩
  have hsend : Keeping (dispatchCommitted moved) (fun _ g' => Stays g₁ g') g₁ := by
    apply keeping_dispatchCommitted
    · rw [henvelope]
      exact hheld rfl
    · rw [henvelope, hg₁.now, h.now]
      exact hdeadline
  exact hsend.mono (fun _ _ hstays => hg₁.stays.trans hstays)

theorem keeping_dispatchAdmitted {dispatched : CommandAggregate} (audit : CommandAuditRecord)
    (hnow : g.now = now) (henvelope : dispatched.envelope = command.envelope) (hheld : command.envelope ∈ g.held)
    (hdeadline : now < command.envelope.deadline) :
    Keeping (publish audit >>= fun _ => dispatchCommitted dispatched) (fun _ g' => Stays g g') g := by
  apply obeys_bind
  apply (keeping_publish audit).mono
  rintro _ _ rfl
  apply keeping_dispatchCommitted
  · rw [henvelope]
    exact hheld
  · rw [henvelope, hnow]
    exact hdeadline

theorem keeping_publishSuperseded (registration : DesiredStateRegistration) :
    Keeping (publishSuperseded registration) (fun _ g' => g = g') g := by
  unfold publishSuperseded
  split
  · exact keeping_publish _
  · exact obeys_pure rfl

open MatterCommandDispatchControl in
theorem keeping_dispatchControlled (h : Dispatchable command now g)
    (hdeadline : now < command.envelope.deadline) :
    Keeping (dispatchControlled command now) (fun _ g' => Stays g g') g := by
  have hregister := growing_registerDesired now h.dryRun desiredRegistrationAttempts
    (.control .registrationFailed) h.known
  unfold dispatchControlled
  apply obeys_bind
  apply (keeping_viaControl hregister.keeping).mono
  intro registration g₁ hg₁
  apply obeys_bind
  apply (keeping_publishSuperseded registration).mono
  rintro _ _ rfl
  apply obeys_bind
  apply (keeping_viaControl (keeping_commitDispatch now (hg₁.seen h.seen))).mono
  rintro admission g₂ ⟨hg₂, hcommitted, hunmanaged⟩
  have hg : Grows g g₂ := hg₁.trans hg₂
  cases admission with
  | unmanaged =>
    exact (keeping_dispatchUnmanaged (h.grows hg) hdeadline (fun hunlock =>
      .inr (hunmanaged rfl hunlock))).mono (fun _ _ => hg.stays.trans)
  | committed dispatched audit =>
    obtain ⟨henvelope, hheld⟩ := hcommitted dispatched audit rfl
    exact (keeping_dispatchAdmitted audit (hg.now.trans h.now) henvelope hheld hdeadline).mono
      (fun _ _ => hg.stays.trans)
  | superseded durable | awaitingUnlockAuthorization => exact obeys_pure hg.stays

theorem keeping_dispatch (host : CommandHost) (hcontrol : g.uncontrolled = !host.dispatchControl)
    (h : Dispatchable command now g) : Keeping (dispatch host command now) (fun _ g' => Stays g g') g := by
  unfold dispatch
  split
  · exact (keeping_timeout command now).mono (fun _ _ => Grows.stays)
  · rename_i hdeadline
    have hbefore : now < command.envelope.deadline := not_le.mp hdeadline
    split
    · exact keeping_dispatchControlled h hbefore
    · rename_i hnone
      exact keeping_dispatchUnmanaged h hbefore (fun _ => .inl (by simpa [hnone] using hcontrol))

theorem keeping_admitReceived (host : CommandHost) (security : ActorSecurity)
    (device : DeviceRecord) (hcontrol : g.uncontrolled = !host.dispatchControl)
    (hnow : g.now = now) (hknown : command.envelope ∈ g.known)
    (hschema : command.envelope.capability.schema = command.envelope.payload.schema) :
    Keeping (admitReceived host command security device now) (fun _ g' => Stays g g') g := by
  unfold admitReceived
  apply obeys_bind
  refine ⟨trivial, ?_⟩
  intro capacities _ _ heq
  cases heq
  dsimp only
  split
  · exact (keeping_reject _ _ now _).mono (fun _ _ => Grows.stays)
  · apply obeys_bind
    have hvalidate := @keeping_transition g { command with policy := some (PolicyEvaluator.evaluate
      (executeInput host security.actor command device capacities now) security.grants) }
      .validated now (fun _ => hschema) (fun hstate => nomatch hstate)
    apply Keeping.mono hvalidate
    rintro moved g₁ ⟨henvelope, hseen, hg₁, _⟩
    split
    · exact obeys_pure hg₁.stays
    · rename_i hdry
      have hready : Dispatchable moved now g₁ := by
        refine ⟨hg₁.now.trans hnow, ?_, hseen, by simpa using hdry⟩
        rw [henvelope]
        exact hg₁.known hknown
      exact (keeping_dispatch host (hg₁.stays.uncontrolled.trans hcontrol) hready).mono
        (fun _ _ => hg₁.stays.trans)

theorem validateTarget_schema {device : DeviceRecord} (h : validateTarget command device now = .ok ()) :
    command.envelope.capability.schema = command.envelope.payload.schema := by
  by_contra hschema
  have hfailed : ∃ code, command.envelope.validate now = .error code := by
    unfold CommandEnvelope.validate
    split
    · exact ⟨_, rfl⟩
    · exact ⟨_, rfl⟩
  obtain ⟨code, hcode⟩ := hfailed
  unfold validateTarget at h
  rw [hcode] at h
  cases h

theorem keeping_continueReceived (host : CommandHost) (actorId : ActorId) (device : DeviceRecord)
    (hcontrol : g.uncontrolled = !host.dispatchControl) (hnow : g.now = now) (hknown : command.envelope ∈ g.known) :
    Keeping (continueReceived host command actorId device now) (fun _ g' => Stays g g') g := by
  unfold continueReceived
  split
  · exact (keeping_reject _ _ now _).mono (fun _ _ => Grows.stays)
  · rename_i hvalid
    apply obeys_bind
    apply keeping_calling
    refine ⟨trivial, ?_⟩
    intro response _ found hresponse
    subst hresponse
    cases found with
    | none => exact obeys_throw
    | some security =>
      exact keeping_admitReceived host security device hcontrol hnow hknown (validateTarget_schema hvalid)

/-- Executing a request keeps to the discipline. -/
theorem keeping_execute (host : CommandHost) (actor : Actor) (request : CommandRequest)
    (hcontrol : g.uncontrolled = !host.dispatchControl) (hnow : g.now = now)
    (hcreates : ∀ device id, g.creates
      (.received (requestEnvelope host actor.id request device now id))
      (host.canonicalHash (canonicalRequest actor.id request))) :
    Keeping (execute host actor request now) (fun _ _ => True) g := by
  unfold execute
  apply obeys_bind
  apply keeping_calling
  refine ⟨trivial, ?_⟩
  intro response _ devices hresponse
  subst hresponse
  dsimp only
  split
  · exact obeys_throw
  · rename_i device _
    apply obeys_bind
    apply keeping_freshId.mono
    rintro id _ rfl
    apply obeys_bind
    apply keeping_freshId.mono
    rintro auditId _ rfl
    apply obeys_bind
    apply keeping_calling
    refine ⟨hcreates device id, ?_⟩
    intro response _ outcome hresponse
    subst hresponse
    cases outcome with
    | existingEquivalent existing => exact obeys_pure trivial
    | conflict existing => exact obeys_throw
    | created command =>
      apply obeys_bind
      apply (keeping_publish _).mono
      rintro _ _ rfl
      let received := CommandAggregate.received (requestEnvelope host actor.id request device now id)
      have hcreated : received.envelope ∈ (g.learn [received]).known := mem_cons_self
      have hcontinue := keeping_continueReceived host actor.id device (g := g.learn [received]) hcontrol
        hnow hcreated
      exact hcontinue.mono (fun _ _ _ => trivial)

theorem keeping_cancel (actorId : ActorId) (commandId : CommandId) (now : Instant) :
    Keeping (cancel actorId commandId now) (fun _ _ => True) g := by
  unfold cancel get
  apply obeys_bind
  apply obeys_bind
  apply keeping_calling
  refine ⟨trivial, ?_⟩
  intro response _ found hresponse
  subst hresponse
  cases found with
  | none =>
    apply obeys_pure
    exact obeys_throw
  | some command =>
    dsimp only
    split
    · exact obeys_throw
    · apply obeys_pure
      dsimp only
      split
      · exact obeys_throw
      · exact (keeping_settle now (by decide)).mono (fun _ _ _ => trivial)

theorem keeping_recoveryContext (command : CommandAggregate) :
    Keeping (recoveryContext command) (fun _ g' => g = g') g := by
  unfold recoveryContext
  apply obeys_bind
  apply keeping_calling
  refine ⟨trivial, ?_⟩
  intro response _ devices hresponse
  subst hresponse
  split
  · exact obeys_throw
  · apply obeys_bind
    apply keeping_calling
    refine ⟨trivial, ?_⟩
    intro response _ found hresponse
    subst hresponse
    cases found with
    | none => exact obeys_throw
    | some security => exact obeys_pure rfl

theorem keeping_recoverValidated (host : CommandHost) (device : DeviceRecord) (security : ActorSecurity)
    (hcontrol : g.uncontrolled = !host.dispatchControl) (h : Dispatchable command now g) :
    Keeping (recoverValidated host command device security now) (fun _ g' => Stays g g') g := by
  unfold recoverValidated
  apply obeys_bind
  refine ⟨trivial, ?_⟩
  intro capacities _ _ heq
  cases heq
  dsimp only
  split
  · exact keeping_dispatch host hcontrol h
  · exact (keeping_reject _ _ now _).mono (fun _ _ => Grows.stays)

theorem keeping_discard {α : Type} {p : CommandM α} {Q : CommandGhost → Prop}
    (h : Keeping p (fun _ => Q) g) : Keeping (p >>= fun _ => pure ()) (fun _ => Q) g := by
  apply obeys_bind
  exact h.mono (fun _ _ hq => obeys_pure hq)

theorem keeping_recoverOne (host : CommandHost) (hcontrol : g.uncontrolled = !host.dispatchControl)
    (hnow : g.now = now) (hknown : command.envelope ∈ g.known) (hseen : command ∈ g.seen)
    (hopen : command.isTerminal = false) :
    Keeping (recoverOne host command now) (fun _ g' => Stays g g') g := by
  unfold recoverOne
  split
  · split
    · exact keeping_discard ((keeping_timeout command now).mono (fun _ _ => Grows.stays))
    · apply obeys_bind
      apply (keeping_recoveryContext command).mono
      rintro ⟨device, security⟩ _ rfl
      exact keeping_discard (keeping_continueReceived host _ device hcontrol hnow hknown)
  · rename_i hstate
    split
    · exact keeping_discard ((keeping_timeout command now).mono (fun _ _ => Grows.stays))
    · have hdry : command.envelope.dryRun = false := by
        simp only [CommandAggregate.isTerminal, hstate, Bool.or_eq_false_iff, beq_self_eq_true,
          Bool.and_true] at hopen
        exact hopen.2
      apply obeys_bind
      apply (keeping_recoveryContext command).mono
      rintro ⟨device, security⟩ _ rfl
      exact keeping_discard (keeping_recoverValidated host device security hcontrol
        ⟨hnow, hknown, hseen, hdry⟩)
  · exact keeping_discard ((keeping_confirm command now).mono (fun _ _ => Grows.stays))
  · exact keeping_discard ((keeping_confirm command now).mono (fun _ _ => Grows.stays))
  · exact obeys_pure (.refl g)

theorem keeping_recoverAll (host : CommandHost) (commands : List CommandAggregate) :
    ∀ {g : CommandGhost}, g.uncontrolled = (!host.dispatchControl) → g.now = now →
      (∀ command ∈ commands, command.envelope ∈ g.known ∧ command ∈ g.seen) →
      (∀ command ∈ commands, command.isTerminal = false) →
      Keeping (recoverAll host now commands) (fun _ _ => True) g := by
  induction commands with
  | nil => exact fun _ _ _ _ => obeys_pure trivial
  | cons command rest ih =>
    intro g hcontrol hnow hloaded hopen
    obtain ⟨hknown, hseen⟩ := hloaded command mem_cons_self
    apply obeys_bind
    apply (keeping_recoverOne host hcontrol hnow hknown hseen (hopen command mem_cons_self)).mono
    intro _ g₁ hg₁
    refine ih (hg₁.uncontrolled.trans hcontrol) (hg₁.now.trans hnow) ?_
      (fun other hother => hopen other (mem_cons_of_mem _ hother))
    intro other hother
    obtain ⟨hknown, hseen⟩ := hloaded other (mem_cons_of_mem _ hother)
    exact ⟨hg₁.known hknown, hg₁.seen hseen⟩

theorem keeping_recoverCommands (host : CommandHost)
    (hcontrol : g.uncontrolled = !host.dispatchControl) (hnow : g.now = now) :
    Keeping (recoverCommands host now) (fun _ _ => True) g := by
  unfold recoverCommands
  apply obeys_bind
  apply keeping_calling
  refine ⟨trivial, ?_⟩
  intro response hvalid commands hresponse
  subst hresponse
  apply obeys_bind
  have hall := keeping_recoverAll host commands (g := g.learn commands) hcontrol hnow
    (fun command hcommand => ⟨mem_append_left _ (List.mem_map_of_mem hcommand),
      mem_append_left _ hcommand⟩) hvalid
  exact hall.mono (fun _ _ _ => obeys_pure trivial)

open MatterCommandDispatchControl in
/-- Approving an unlock keeps to the discipline. -/
theorem keeping_approveUnlock (host : CommandHost) (approver : Actor) (commandId : CommandId) (hnow : g.now = now) :
    Keeping (approveUnlock host approver commandId now) (fun _ _ => True) g := by
  unfold approveUnlock
  apply obeys_bind
  apply keeping_calling
  refine ⟨trivial, ?_⟩
  intro response _ found hresponse
  subst hresponse
  cases found with
  | none => exact obeys_throw
  | some command =>
    dsimp only
    split
    · exact obeys_throw
    · rename_i hpending
      push Not at hpending
      obtain ⟨_, hdeadline, _⟩ := hpending
      apply obeys_bind
      apply keeping_calling
      refine ⟨trivial, ?_⟩
      intro response _ found hresponse
      subst hresponse
      cases found with
      | none => exact obeys_throw
      | some security =>
        apply obeys_bind
        apply keeping_calling
        refine ⟨trivial, ?_⟩
        intro response _ devices hresponse
        subst hresponse
        split
        · exact obeys_throw
        · split
          · exact obeys_throw
          · split
            · exact obeys_throw
            · apply obeys_bind
              apply (keeping_viaControl (keeping_authorizeUnlock _ command _ now)).mono
              rintro admission g₁ ⟨hg₁, hcommitted, _⟩
              cases admission with
              | committed dispatched audit =>
                obtain ⟨henvelope, hheld⟩ := hcommitted dispatched audit rfl
                exact (keeping_dispatchAdmitted audit (hg₁.now.trans hnow) henvelope hheld
                  hdeadline).mono (fun _ _ _ => trivial)
              | superseded durable => exact obeys_pure trivial
              | unmanaged | awaitingUnlockAuthorization => exact obeys_throw

end Service
end HomeMagic
