import HomeMagic.MatterSubscriptionRecovery

/-! Runs of the recovery machine beside one that is never restarted: the actions of both, the calls they issue, and the
advice of the stored record on the way. -/
namespace HomeMagic

/-- An action as it was given, with the retry deadline in force and the calls that had been answered by then. -/
structure RecoveryCall where
  at_ : Instant
  action : MatterSubscriptionRecoveryAction
  deadline : Option Instant
  reads : ℕ
  subscribes : ℕ

/-- A machine that is restarted, `live`, beside a `plain` one. The deadline is counted without a bound; a restart is
`misread` until the next action if it takes a machine that is to subscribe for a waiting one. -/
structure RecoveryRun where
  plain : MatterSubscriptionRecovery
  live : MatterSubscriptionRecovery
  clock : Instant
  plainActions : List MatterSubscriptionRecoveryAction
  calls : List RecoveryCall
  advice : List (MatterSubscriptionRecoveryStatus × MatterSubscriptionRecoveryAction)
  deadline : Option Instant
  reads : ℕ
  subscribes : ℕ
  accepted : ℕ
  misread : Bool

inductive RecoveryStep
  | next (now : Instant)
  | record (outcome : MatterSubscriptionRecoveryOutcome) (now : Instant)
  | restart (row : StoredMatterSubscription)
  | status (row : StoredMatterSubscription) (now : Instant)

def MatterSubscriptionRecoveryOutcome.ofRead : MatterSubscriptionRecoveryOutcome → Bool
  | .gapReadCompleted | .gapReadFailed => true
  | _ => false

def MatterSubscriptionRecoveryOutcome.ofSubscribe : MatterSubscriptionRecoveryOutcome → Bool
  | .resubscribed | .resubscribeFailed => true
  | _ => false

namespace RecoveryRun

def start (machine : MatterSubscriptionRecovery) (clock : Instant) : RecoveryRun :=
  ⟨machine, machine, clock, [], [], [], none, 0, 0, 0, false⟩

def answered (digest : MatterSubscriptionId → ℕ → ℕ) (machine : MatterSubscriptionRecovery)
    (outcome : MatterSubscriptionRecoveryOutcome) (now : Instant) : MatterSubscriptionRecovery :=
  match machine.recordOutcome digest outcome now with
  | .ok next => next
  | .error _ => machine

def recorded (digest : MatterSubscriptionId → ℕ → ℕ) (s : RecoveryRun)
    (outcome : MatterSubscriptionRecoveryOutcome) (now : Instant) : RecoveryRun :=
  match s.live.recordOutcome digest outcome now with
  | .error _ => { s with plain := answered digest s.plain outcome now, clock := now }
  | .ok live =>
    { s with
      plain := answered digest s.plain outcome now
      live := live
      clock := now
      deadline := if outcome = .resubscribeFailed then
          some (now + live.retryDelayMillis digest * nanosPerMilli)
        else s.deadline
      reads := s.reads + if outcome.ofRead then 1 else 0
      subscribes := s.subscribes + if outcome.ofSubscribe then 1 else 0
      accepted := s.accepted + 1 }

def act (digest : MatterSubscriptionId → ℕ → ℕ) (s : RecoveryRun) : RecoveryStep → Option RecoveryRun
  | .next now =>
    if s.clock ≤ now then
      some { s with
        plain := s.plain.settled now
        live := s.live.settled now
        clock := now
        plainActions := s.plainActions ++ [s.plain.nextAction now]
        calls := s.calls ++ [⟨now, s.live.nextAction now, s.deadline, s.reads, s.subscribes⟩]
        misread := false }
    else none
  | .record outcome now => if s.clock ≤ now then some (s.recorded digest outcome now) else none
  | .restart row =>
    if s.live.phase ≠ .complete then
      some { s with
        live := s.live.restarted row
        misread := s.misread || s.live.phase == .resubscribe && s.live.retryAt.isSome }
    else none
  | .status row now =>
    if s.clock ≤ now ∧ s.live.phase ≠ .complete then
      some { s with advice := s.advice ++
        [(matterSubscriptionStatus (s.live.stored row) now, s.live.nextAction now)] }
    else none

inductive Run (digest : MatterSubscriptionId → ℕ → ℕ) (permitted : RecoveryRun → RecoveryStep → Prop)
    (first : RecoveryRun) : RecoveryRun → Prop
  | start : Run digest permitted first first
  | step {s s' : RecoveryRun} {action : RecoveryStep} (h : Run digest permitted first s)
      (hpermitted : permitted s action) (hact : s.act digest action = some s') : Run digest permitted first s'

/-- No restart comes after a gap read that leaves others and before the first failed call; the outcome of a subscribe
call is not recorded by a machine that was restarted since and not asked again; retry deadlines can be represented;
and the status is asked for where it advises. -/
def Permitted (digest : MatterSubscriptionId → ℕ → ℕ) (s : RecoveryRun) : RecoveryStep → Prop
  | .next _ => True
  | .record outcome now => (s.misread = true → outcome.ofSubscribe = false) ∧
      (outcome = .resubscribeFailed → s.live.phase = .resubscribe →
        s.live.subscribeAttempts + 1 < s.live.policy.maximumSubscribeAttempts →
          (addMillis now ({ s.live with
            subscribeAttempts := s.live.subscribeAttempts + 1 }.retryDelayMillis digest)).isSome)
  | .restart _ => s.live.phase = .resubscribe → s.live.retryAt = none →
      s.live.policy.maximumGapReads ≤ s.live.gapReads
  | .status row now => s.live.Advises row now

end RecoveryRun

structure RecoveryCall.Sound (policy : MatterSubscriptionRecoveryPolicy) (call : RecoveryCall) : Prop where
  read : ∀ request, call.action = .gapRead request → call.reads < policy.maximumGapReads
  subscribe : ∀ request, call.action = .resubscribe request → call.subscribes < policy.maximumSubscribeAttempts
  deadline : ∀ request, call.action = .resubscribe request → ∀ t, call.deadline = some t → t ≤ call.at_

structure RecoverySound (digest : MatterSubscriptionId → ℕ → ℕ) (policy : MatterSubscriptionRecoveryPolicy)
    (s : RecoveryRun) : Prop where
  actions : s.calls.map RecoveryCall.action = s.plainActions
  calls : ∀ call ∈ s.calls, call.Sound policy
  bounded : s.reads ≤ policy.maximumGapReads ∧ s.subscribes ≤ policy.maximumSubscribeAttempts
  finite : s.accepted ≤ 1 + policy.maximumGapReads + policy.maximumSubscribeAttempts
  progress : ∃ at_, ∀ now, at_ ≤ now → (∀ t, s.live.nextAction now ≠ .waitUntil t) ∧
    (s.live.nextAction now = .complete ∨ s.live.nextAction now = .repairRequired ∨
      ∃ outcome next, (s.live.settled now).recordOutcome digest outcome now = .ok next)
  advised : ∀ given ∈ s.advice, given.1.Recommends given.2

def workLeft (policy : MatterSubscriptionRecoveryPolicy) (machine : MatterSubscriptionRecovery) : ℕ :=
  match machine.phase with
  | .markStale => 2 + (policy.maximumSubscribeAttempts - machine.subscribeAttempts)
  | .gapRead => 1 + (policy.maximumSubscribeAttempts - machine.subscribeAttempts)
  | .resubscribe | .waiting => policy.maximumSubscribeAttempts - machine.subscribeAttempts
  | .complete | .repairRequired => 0

structure PlainInv (policy : MatterSubscriptionRecoveryPolicy) (s : RecoveryRun) : Prop where
  samePolicy : s.plain.policy = policy
  opening : s.plain.phase = .markStale ∨ s.plain.phase = .gapRead →
    s.plain.retryAt = none ∧ s.plain.gapReads < policy.maximumGapReads ∧ s.deadline = none
  budget : s.plain.phase ≠ .repairRequired → s.plain.phase ≠ .complete →
    s.plain.subscribeAttempts < policy.maximumSubscribeAttempts ∧ s.plain.gapReads = s.reads ∧
      s.plain.subscribeAttempts = s.subscribes
  elapsed : s.plain.phase = .resubscribe →
    (∀ t, s.plain.retryAt = some t → t ≤ s.clock) ∧ ∀ t, s.deadline = some t → t ≤ s.clock
  waiting : s.plain.phase = .waiting → s.plain.retryAt = s.deadline ∧ s.plain.retryAt.isSome
  bounded : s.reads ≤ policy.maximumGapReads ∧ s.subscribes ≤ policy.maximumSubscribeAttempts
  finite : s.accepted + workLeft policy s.plain ≤ 2 + policy.maximumSubscribeAttempts

variable {now : Instant} {s' : RecoveryRun} {outcome : MatterSubscriptionRecoveryOutcome}
  {row : StoredMatterSubscription}

namespace PlainInv

variable {digest : MatterSubscriptionId → ℕ → ℕ} {policy : MatterSubscriptionRecoveryPolicy} {s : RecoveryRun}

theorem call_sound (h : PlainInv policy s) (hnow : s.clock ≤ now) :
    RecoveryCall.Sound policy ⟨now, s.plain.nextAction now, s.deadline, s.reads, s.subscribes⟩ := by
  have hsubscribing : ∀ request, s.plain.nextAction now = .resubscribe request →
      s.subscribes < policy.maximumSubscribeAttempts ∧ ∀ t, s.deadline = some t → t ≤ now := by
    intro request hrequest
    obtain hphase | ⟨hphase, helapsed⟩ := MatterSubscriptionRecovery.phase_of_nextAction.2 request hrequest
    · obtain ⟨hleft, _, hcount⟩ := h.budget (by rw [hphase]; decide) (by rw [hphase]; decide)
      exact ⟨hcount ▸ hleft, fun t ht => ((h.elapsed hphase).2 t ht).trans hnow⟩
    · obtain ⟨hleft, _, hcount⟩ := h.budget (by rw [hphase]; decide) (by rw [hphase]; decide)
      refine ⟨hcount ▸ hleft, fun t ht => helapsed t ?_⟩
      rw [(h.waiting hphase).1, ht]
  constructor
  case read =>
    intro request hrequest
    have hphase := MatterSubscriptionRecovery.phase_of_nextAction.1 request hrequest
    have hcount := (h.budget (by rw [hphase]; decide) (by rw [hphase]; decide)).2.1
    exact hcount ▸ (h.opening (.inr hphase)).2.1
  case subscribe => exact fun request hrequest => (hsubscribing request hrequest).1
  case deadline => exact fun request hrequest => (hsubscribing request hrequest).2

theorem later (h : PlainInv policy s) (hclock : s.clock ≤ s'.clock) (hplain : s'.plain = s.plain)
    (hdeadline : s'.deadline = s.deadline) (hreads : s'.reads = s.reads)
    (hsubscribes : s'.subscribes = s.subscribes) (haccepted : s'.accepted = s.accepted) : PlainInv policy s' := by
  constructor
  case samePolicy => rw [hplain]; exact h.samePolicy
  case opening => rw [hplain, hdeadline]; exact h.opening
  case budget => rw [hplain, hreads, hsubscribes]; exact h.budget
  case elapsed =>
    rw [hplain, hdeadline]
    intro hphase
    obtain ⟨hretry, hpast⟩ := h.elapsed hphase
    exact ⟨fun t ht => (hretry t ht).trans hclock, fun t ht => (hpast t ht).trans hclock⟩
  case waiting => rw [hplain, hdeadline]; exact h.waiting
  case bounded => rw [hreads, hsubscribes]; exact h.bounded
  case finite => rw [hplain, haccepted]; exact h.finite

theorem settle (h : PlainInv policy s) (hnow : s.clock ≤ now) (hplain : s'.plain = s.plain.settled now)
    (hclock : s'.clock = now) (hdeadline : s'.deadline = s.deadline) (hreads : s'.reads = s.reads)
    (hsubscribes : s'.subscribes = s.subscribes) (haccepted : s'.accepted = s.accepted) :
    PlainInv policy s' := by
  obtain hsettled | ⟨hphase, helapsed, hsettled⟩ := MatterSubscriptionRecovery.settled_eq s.plain now
  · rw [hsettled] at hplain
    exact h.later (hclock ▸ hnow) hplain hdeadline hreads hsubscribes haccepted
  · -- the deadline has passed
    rw [hsettled] at hplain
    constructor
    case samePolicy => rw [hplain]; exact h.samePolicy
    case opening =>
      rw [hplain]
      intro hopening
      obtain hwrong | hwrong := hopening <;> cases hwrong
    case budget =>
      rw [hplain, hreads, hsubscribes]
      exact fun _ _ => h.budget (by rw [hphase]; decide) (by rw [hphase]; decide)
    case elapsed =>
      rw [hplain, hdeadline, hclock]
      refine fun _ => ⟨helapsed, fun t ht => helapsed t ?_⟩
      rw [(h.waiting hphase).1, ht]
    case waiting =>
      rw [hplain]
      intro hwrong
      cases hwrong
    case bounded => rw [hreads, hsubscribes]; exact h.bounded
    case finite =>
      have hfinite := h.finite
      rw [workLeft, hphase] at hfinite
      rw [hplain, haccepted]
      exact hfinite

theorem marked (h : PlainInv policy s) (hphase : s.plain.phase = .markStale)
    (hplain : s'.plain = { s.plain with phase := .gapRead }) (hdeadline : s'.deadline = s.deadline)
    (hreads : s'.reads = s.reads) (hsubscribes : s'.subscribes = s.subscribes)
    (haccepted : s'.accepted = s.accepted + 1) : PlainInv policy s' := by
  have hfinite := h.finite
  rw [workLeft, hphase] at hfinite
  constructor
  case samePolicy => rw [hplain]; exact h.samePolicy
  case opening => rw [hplain, hdeadline]; exact fun _ => h.opening (.inl hphase)
  case budget =>
    rw [hplain, hreads, hsubscribes]
    exact fun _ _ => h.budget (by rw [hphase]; decide) (by rw [hphase]; decide)
  case elapsed => rw [hplain]; intro hwrong; cases hwrong
  case waiting => rw [hplain]; intro hwrong; cases hwrong
  case bounded => rw [hreads, hsubscribes]; exact h.bounded
  case finite =>
    rw [hplain, haccepted]
    change s.accepted + 1 + (1 + (policy.maximumSubscribeAttempts - s.plain.subscribeAttempts)) ≤ _
    dsimp only at hfinite
    omega

theorem gapRead (h : PlainInv policy s) (hpolicy : policy.Accepted) (hphase : s.plain.phase = .gapRead)
    (hplain : s'.plain = { s.plain with
      gapReads := min (s.plain.gapReads + 1) 255, lastGapReadAt := some now, phase := .resubscribe })
    (hdeadline : s'.deadline = s.deadline) (hreads : s'.reads = s.reads + 1)
    (hsubscribes : s'.subscribes = s.subscribes) (haccepted : s'.accepted = s.accepted + 1) :
    PlainInv policy s' := by
  have hfinite := h.finite
  have hbounded := h.bounded
  have hwidth := hpolicy.gapReads_lt
  obtain ⟨hretry, hfewer, hnone⟩ := h.opening (.inr hphase)
  obtain ⟨hleft, hcount, hcount'⟩ := h.budget (by rw [hphase]; decide) (by rw [hphase]; decide)
  rw [workLeft, hphase] at hfinite
  constructor
  case samePolicy => rw [hplain]; exact h.samePolicy
  case opening =>
    rw [hplain]
    intro hopening
    obtain hwrong | hwrong := hopening <;> cases hwrong
  case budget =>
    rw [hplain, hreads, hsubscribes]
    refine fun _ _ => ⟨hleft, ?_, hcount'⟩
    change min (s.plain.gapReads + 1) 255 = s.reads + 1
    omega
  case elapsed =>
    -- nothing has failed yet, so there is no deadline
    rw [hplain, hdeadline, hnone]
    refine fun _ => ⟨fun t ht => ?_, fun t ht => nomatch ht⟩
    rw [show s.plain.retryAt = some t from ht] at hretry
    cases hretry
  case waiting => rw [hplain]; intro hwrong; cases hwrong
  case bounded => omega
  case finite =>
    rw [hplain, haccepted]
    change s.accepted + 1 + (policy.maximumSubscribeAttempts - s.plain.subscribeAttempts) ≤ _
    dsimp only at hfinite
    omega

theorem ended (h : PlainInv policy s) (hphase : s.plain.phase = .resubscribe)
    (hended : s'.plain.phase = .complete ∨ s'.plain.phase = .repairRequired)
    (hsame : s'.plain.policy = s.plain.policy) (hreads : s'.reads = s.reads)
    (hsubscribes : s'.subscribes = s.subscribes + 1) (haccepted : s'.accepted = s.accepted + 1) :
    PlainInv policy s' := by
  have hfinite := h.finite
  have hbounded := h.bounded
  obtain ⟨hleft, _, hcount⟩ := h.budget (by rw [hphase]; decide) (by rw [hphase]; decide)
  rw [workLeft, hphase] at hfinite
  have hdone : workLeft policy s'.plain = 0 := by
    unfold workLeft
    obtain hcase | hcase := hended <;> rw [hcase]
  have hnot : ∀ phase, phase ≠ .complete → phase ≠ .repairRequired → s'.plain.phase ≠ phase := by
    intro phase hcomplete hrepair heq
    obtain hcase | hcase := hended
    · exact hcomplete (heq.symm.trans hcase)
    · exact hrepair (heq.symm.trans hcase)
  constructor
  case samePolicy => rw [hsame]; exact h.samePolicy
  case opening =>
    intro hopening
    obtain hwrong | hwrong := hopening
    · exact absurd hwrong (hnot _ (by decide) (by decide))
    · exact absurd hwrong (hnot _ (by decide) (by decide))
  case budget =>
    intro hrepair hcomplete
    exact absurd hended (not_or.mpr ⟨hcomplete, hrepair⟩)
  case elapsed => exact fun hwrong => absurd hwrong (hnot _ (by decide) (by decide))
  case waiting => exact fun hwrong => absurd hwrong (hnot _ (by decide) (by decide))
  case bounded => omega
  case finite =>
    rw [hdone, haccepted]
    dsimp only at hfinite
    omega

theorem retried (h : PlainInv policy s) (hphase : s.plain.phase = .resubscribe) {t : Instant}
    (hleft : s.plain.subscribeAttempts + 1 < policy.maximumSubscribeAttempts) (hplain : s'.plain = { s.plain with
      subscribeAttempts := s.plain.subscribeAttempts + 1, retryAt := some t, phase := .waiting })
    (hdeadline : s'.deadline = some t) (hreads : s'.reads = s.reads)
    (hsubscribes : s'.subscribes = s.subscribes + 1) (haccepted : s'.accepted = s.accepted + 1) :
    PlainInv policy s' := by
  have hfinite := h.finite
  have hbounded := h.bounded
  obtain ⟨_, hcount, hcount'⟩ := h.budget (by rw [hphase]; decide) (by rw [hphase]; decide)
  rw [workLeft, hphase] at hfinite
  constructor
  case samePolicy => rw [hplain]; exact h.samePolicy
  case opening =>
    rw [hplain]
    intro hopening
    obtain hwrong | hwrong := hopening <;> cases hwrong
  case budget =>
    rw [hplain, hreads, hsubscribes]
    exact fun _ _ => ⟨hleft, hcount, congrArg (· + 1) hcount'⟩
  case elapsed => rw [hplain]; intro hwrong; cases hwrong
  case waiting => rw [hplain, hdeadline]; exact fun _ => ⟨rfl, rfl⟩
  case bounded => omega
  case finite =>
    rw [hplain, haccepted]
    change s.accepted + 1 + (policy.maximumSubscribeAttempts - (s.plain.subscribeAttempts + 1)) ≤ _
    dsimp only at hfinite
    omega

theorem addMillis_isSome {milliseconds : ℕ} (h : (addMillis now milliseconds).isSome) :
    addMillis now milliseconds = some (now + milliseconds * nanosPerMilli) := by
  unfold addMillis at h ⊢
  split at h
  next hfits => rw [if_pos hfits]
  next => cases h

theorem answer (h : PlainInv policy s) (hpolicy : policy.Accepted) {next : MatterSubscriptionRecovery}
    (hnext : s.plain.recordOutcome digest outcome now = .ok next)
    (hdelay : outcome = .resubscribeFailed → s.plain.phase = .resubscribe →
      s.plain.subscribeAttempts + 1 < policy.maximumSubscribeAttempts →
        (addMillis now ({ s.plain with
          subscribeAttempts := s.plain.subscribeAttempts + 1 }.retryDelayMillis digest)).isSome)
    (hplain : s'.plain = next) (hdeadline : s'.deadline = if outcome = .resubscribeFailed then
      some (now + next.retryDelayMillis digest * nanosPerMilli) else s.deadline)
    (hreads : s'.reads = s.reads + if outcome.ofRead then 1 else 0)
    (hsubscribes : s'.subscribes = s.subscribes + if outcome.ofSubscribe then 1 else 0)
    (haccepted : s'.accepted = s.accepted + 1) : PlainInv policy s' := by
  obtain ⟨hphase, rfl, rfl⟩ | ⟨hphase, houtcome, rfl⟩ | ⟨hphase, rfl, rfl⟩ | ⟨hphase, rfl, hspent, rfl⟩ |
    ⟨hphase, rfl, hleft, rfl⟩ := MatterSubscriptionRecovery.recordOutcome_cases hnext
  · exact h.marked hphase hplain hdeadline hreads hsubscribes haccepted
  · have hread : outcome.ofRead = true ∧ outcome.ofSubscribe = false ∧ outcome ≠ .resubscribeFailed := by
      obtain rfl | rfl := houtcome <;> decide
    rw [hread.1, if_pos rfl] at hreads
    rw [hread.2.1, if_neg Bool.false_ne_true] at hsubscribes
    rw [if_neg hread.2.2] at hdeadline
    exact h.gapRead hpolicy hphase hplain hdeadline hreads hsubscribes haccepted
  · exact h.ended hphase (.inl (by rw [hplain])) (by rw [hplain]) hreads hsubscribes haccepted
  · exact h.ended hphase (.inr (by rw [hplain])) (by rw [hplain]) hreads hsubscribes haccepted
  · rw [h.samePolicy] at hleft
    have hwidth : policy.maximumSubscribeAttempts < 2^8 := policy.attempts_lt
    have hmin : min (s.plain.subscribeAttempts + 1) 255 = s.plain.subscribeAttempts + 1 := by
      omega
    rw [hmin] at hplain hleft hdeadline
    have hsome := addMillis_isSome (hdelay rfl hphase hleft)
    rw [hsome] at hplain
    exact h.retried hphase hleft hplain hdeadline hreads hsubscribes haccepted

end PlainInv

/-- The restarted machine is the plain one but for a phase that the next action sets right. -/
structure RecoveryInv (policy : MatterSubscriptionRecoveryPolicy) (s : RecoveryRun) : Prop where
  plain : PlainInv policy s
  same : s.live = { s.plain with phase := s.live.phase }
  phases : s.live.phase = s.plain.phase ∨
    (s.misread = true ∧ s.plain.phase = .resubscribe ∧ s.live.phase = .waiting ∧ s.plain.retryAt.isSome)
  actions : s.calls.map RecoveryCall.action = s.plainActions
  calls : ∀ call ∈ s.calls, call.Sound policy
  advised : ∀ given ∈ s.advice, given.1.Recommends given.2

namespace RecoveryInv

variable {digest : MatterSubscriptionId → ℕ → ℕ} {policy : MatterSubscriptionRecoveryPolicy} {s : RecoveryRun}

theorem live_eq (h : RecoveryInv policy s) (hphase : s.live.phase = s.plain.phase) : s.live = s.plain := by
  rw [h.same, hphase]

theorem agree (h : RecoveryInv policy s) (hnow : s.clock ≤ now) :
    s.live.settled now = s.plain.settled now ∧ s.live.nextAction now = s.plain.nextAction now := by
  obtain hphase | ⟨_, hplain, hlive, _⟩ := h.phases
  · rw [h.live_eq hphase]
    exact ⟨rfl, rfl⟩
  · have hretry : s.live.retryAt = s.plain.retryAt := by
      rw [h.same]
    obtain ⟨hsettled, haction⟩ := MatterSubscriptionRecovery.elapsed_eq hlive
      (fun t ht => ((h.plain.elapsed hplain).1 t (hretry ▸ ht)).trans hnow)
    have hne : s.plain.phase ≠ .waiting := by
      rw [hplain]
      decide
    have hplainly : { s.live with phase := .resubscribe } = s.plain := by
      rw [h.same, ← hplain]
    rw [hsettled, haction, hplainly, MatterSubscriptionRecovery.settled_of_ne hne,
      MatterSubscriptionRecovery.nextAction_of_ne hne]
    exact ⟨rfl, rfl⟩

theorem next (h : RecoveryInv policy s) (hnow : s.clock ≤ now) :
    RecoveryInv policy { s with
      plain := s.plain.settled now
      live := s.live.settled now
      clock := now
      plainActions := s.plainActions ++ [s.plain.nextAction now]
      calls := s.calls ++ [⟨now, s.live.nextAction now, s.deadline, s.reads, s.subscribes⟩]
      misread := false } := by
  obtain ⟨hsettled, haction⟩ := h.agree hnow
  rw [hsettled, haction]
  constructor
  case plain => exact h.plain.settle hnow rfl rfl rfl rfl rfl rfl
  case same => rfl
  case phases => exact .inl rfl
  case actions =>
    change (s.calls ++ _).map RecoveryCall.action = _
    rw [List.map_append, h.actions]
    rfl
  case calls =>
    intro call hcall
    obtain hold | hnew := List.mem_append.mp hcall
    · exact h.calls call hold
    · rw [List.mem_singleton.mp hnew]
      exact h.plain.call_sound hnow
  case advised => exact h.advised

/-- The outcome of an action is recorded. -/
theorem record (h : RecoveryInv policy s) (hpolicy : policy.Accepted) {outcome : MatterSubscriptionRecoveryOutcome}
    {now : Instant} (hnow : s.clock ≤ now) (hpermitted : s.Permitted digest (.record outcome now)) :
    RecoveryInv policy (s.recorded digest outcome now) := by
  obtain ⟨hmisread, hdelay⟩ := hpermitted
  -- a machine that refuses stays as it is
  have hrefused : ∀ {error : MatterSubscriptionRecoveryError}, s.live.recordOutcome digest outcome now = .error error →
      RecoveryRun.answered digest s.plain outcome now = s.plain →
        RecoveryInv policy (s.recorded digest outcome now) := by
    intro error hlive hplain
    unfold RecoveryRun.recorded
    rw [hlive, hplain]
    exact ⟨h.plain.later hnow rfl rfl rfl rfl rfl, h.same, h.phases, h.actions, h.calls, h.advised⟩
  obtain hphase | ⟨hmark, hplain, hlive, _⟩ := h.phases
  · have heq := h.live_eq hphase
    cases hrecord : s.live.recordOutcome digest outcome now with
    | error error =>
      apply hrefused hrecord
      unfold RecoveryRun.answered
      rw [← heq, hrecord]
    | ok live =>
      rw [heq] at hrecord hdelay
      rw [h.plain.samePolicy] at hdelay
      have hanswered : RecoveryRun.answered digest s.plain outcome now = live := by
        unfold RecoveryRun.answered
        rw [hrecord]
      unfold RecoveryRun.recorded
      rw [heq, hrecord, hanswered]
      exact ⟨h.plain.answer hpolicy hrecord hdelay rfl rfl rfl rfl rfl, rfl, .inl rfl, h.actions, h.calls, h.advised⟩
  · -- neither machine accepts what is not the outcome of a subscribe call
    have hother := hmisread hmark
    cases hrecord : s.live.recordOutcome digest outcome now with
    | ok live =>
      have hcases := MatterSubscriptionRecovery.recordOutcome_cases hrecord
      simp [hlive] at hcases
    | error error =>
      apply hrefused hrecord
      unfold RecoveryRun.answered
      cases hrecord' : s.plain.recordOutcome digest outcome now with
      | error => rfl
      | ok live =>
        have hcases := MatterSubscriptionRecovery.recordOutcome_cases hrecord'
        simp only [hplain, reduceCtorEq, false_and, true_and, false_or] at hcases
        obtain ⟨rfl, _⟩ | ⟨rfl, _⟩ | ⟨rfl, _⟩ := hcases <;> cases hother

/-- A restart reads the phase off the stored record. -/
theorem restart (h : RecoveryInv policy s) (hcomplete : s.live.phase ≠ .complete)
    (hpermitted : s.Permitted digest (.restart row)) : RecoveryInv policy { s with
      live := s.live.restarted row
      misread := s.misread || s.live.phase == .resubscribe && s.live.retryAt.isSome } := by
  have hspent : s.live.phase = .resubscribe → s.live.retryAt = none →
    s.live.policy.maximumGapReads ≤ s.live.gapReads := hpermitted
  have hpolicy : s.live.policy = policy := by
    rw [h.same]
    exact h.plain.samePolicy
  have hretry : s.live.retryAt = s.plain.retryAt := by
    rw [h.same]
  have hreads : s.live.gapReads = s.plain.gapReads := by
    rw [h.same]
  have hsame : s.live.restarted row = { s.plain with phase := s.live.guessedPhase } := by
    rw [MatterSubscriptionRecovery.restarted_eq hcomplete row, h.same]
  have hphases : s.live.guessedPhase = s.plain.phase ∨
      ((s.misread || s.live.phase == .resubscribe && s.live.retryAt.isSome) = true ∧ s.plain.phase = .resubscribe ∧
        s.live.guessedPhase = .waiting ∧ s.plain.retryAt.isSome) := by
    obtain hphase | ⟨hmark, hplain, hlive, hsome⟩ := h.phases
    · cases hcase : s.live.phase with
      | markStale | repairRequired =>
        refine .inl ?_
        rw [← hphase, hcase, MatterSubscriptionRecovery.guessedPhase, hcase]
      | complete => exact absurd hcase hcomplete
      | gapRead =>
        obtain ⟨hnone, hfewer, _⟩ := h.plain.opening (.inr (hphase ▸ hcase))
        refine .inl ?_
        rw [← hphase, hcase, MatterSubscriptionRecovery.guessedPhase, hcase, hretry, hnone, hreads, hpolicy]
        simp only [Option.isSome_none, Bool.false_eq_true, if_false, hfewer, if_true]
      | waiting =>
        have hsome := (h.plain.waiting (hphase ▸ hcase)).2
        refine .inl ?_
        rw [← hphase, hcase, MatterSubscriptionRecovery.guessedPhase, hcase, hretry]
        simp only [hsome, if_true]
      | resubscribe =>
        cases hdeadline : s.plain.retryAt with
        | none =>
          have hnot := not_lt.mpr (hspent hcase (hretry.trans hdeadline))
          refine .inl ?_
          rw [← hphase, hcase, MatterSubscriptionRecovery.guessedPhase, hcase, hretry, hdeadline]
          simp only [Option.isSome_none, Bool.false_eq_true, if_false, hnot]
        | some t =>
          -- the deadline is still stored, so the machine is taken for a waiting one
          refine .inr ⟨?_, hphase ▸ hcase, ?_, rfl⟩
          · rw [hretry, hdeadline]
            simp
          · rw [MatterSubscriptionRecovery.guessedPhase, hcase, hretry, hdeadline]
            rfl
    · refine .inr ⟨by rw [hmark]; rfl, hplain, ?_, hsome⟩
      rw [MatterSubscriptionRecovery.guessedPhase, hlive, hretry]
      simp only [hsome, if_true]
  have hlivePhase : (s.live.restarted row).phase = s.live.guessedPhase := by
    rw [hsame]
  constructor
  case plain => exact h.plain.later le_rfl rfl rfl rfl rfl rfl
  case same =>
    change s.live.restarted row = { s.plain with phase := (s.live.restarted row).phase }
    rw [hlivePhase, hsame]
  case phases =>
    change (s.live.restarted row).phase = s.plain.phase ∨ _
    rw [hlivePhase]
    exact hphases
  case actions => exact h.actions
  case calls => exact h.calls
  case advised => exact h.advised

theorem advice (h : RecoveryInv policy s) (hpolicy : policy.Accepted) (hnow : s.clock ≤ now)
    (hcomplete : s.live.phase ≠ .complete) (hadvises : s.live.Advises row now) :
    (matterSubscriptionStatus (s.live.stored row) now).Recommends (s.live.nextAction now) := by
  have hsamePolicy : s.live.policy = policy := by
    rw [h.same]
    exact h.plain.samePolicy
  have hplainPhase : s.live.phase ≠ .waiting → s.plain.phase = s.live.phase := by
    intro hne
    obtain hphase | ⟨_, _, hlive, _⟩ := h.phases
    · exact hphase.symm
    · exact absurd hlive hne
  have hretry : s.live.retryAt = s.plain.retryAt := by
    rw [h.same]
  have hreads : s.live.gapReads = s.plain.gapReads := by
    rw [h.same]
  have hattempts : s.live.subscribeAttempts = s.plain.subscribeAttempts := by
    rw [h.same]
  apply (MatterSubscriptionRecovery.recommends_iff (hsamePolicy ▸ hpolicy) hcomplete ?_ ?_ ?_ row).mpr hadvises
  · intro hopening
    have hphase := hplainPhase (by obtain hcase | hcase := hopening <;> rw [hcase] <;> decide)
    obtain ⟨hnone, hfewer, _⟩ := h.plain.opening (by rw [hphase]; exact hopening)
    rw [hretry, hreads, hsamePolicy]
    exact ⟨hnone, hfewer⟩
  · intro hphase t ht
    have hplain := hplainPhase (by rw [hphase]; decide)
    exact ((h.plain.elapsed (hplain.trans hphase)).1 t (hretry ▸ ht)).trans hnow
  · intro hrepair
    rw [hattempts, hsamePolicy]
    obtain hphase | ⟨_, hplain, _, _⟩ := h.phases
    · exact (h.plain.budget (hphase ▸ hrepair) (hphase ▸ hcomplete)).1
    · exact (h.plain.budget (by rw [hplain]; decide) (by rw [hplain]; decide)).1

theorem step (h : RecoveryInv policy s) (hpolicy : policy.Accepted) {action : RecoveryStep}
    (hpermitted : s.Permitted digest action) (hact : s.act digest action = some s') : RecoveryInv policy s' := by
  cases action with
  | next now =>
    simp only [RecoveryRun.act] at hact
    split at hact
    next hnow =>
      rw [← Option.some.inj hact]
      exact h.next hnow
    next => cases hact
  | record outcome now =>
    simp only [RecoveryRun.act] at hact
    split at hact
    next hnow =>
      rw [← Option.some.inj hact]
      exact h.record hpolicy hnow hpermitted
    next => cases hact
  | restart row =>
    simp only [RecoveryRun.act] at hact
    split at hact
    next hcomplete =>
      rw [← Option.some.inj hact]
      exact h.restart hcomplete hpermitted
    next => cases hact
  | status row now =>
    simp only [RecoveryRun.act] at hact
    split at hact
    next hdue =>
      rw [← Option.some.inj hact]
      refine ⟨h.plain.later le_rfl rfl rfl rfl rfl rfl, h.same, h.phases, h.actions, h.calls, ?_⟩
      intro given hgiven
      obtain hold | hnew := List.mem_append.mp hgiven
      · exact h.advised given hold
      · rw [List.mem_singleton.mp hnew]
        exact h.advice hpolicy hdue.1 hdue.2 hpermitted
    next => cases hact

/-- From some instant on the machine does not wait, and its action can be recorded or is the last. -/
theorem progress (h : RecoveryInv policy s) : ∃ at_, ∀ now, at_ ≤ now →
    (∀ t, s.live.nextAction now ≠ .waitUntil t) ∧
      (s.live.nextAction now = .complete ∨ s.live.nextAction now = .repairRequired ∨
        ∃ outcome next, (s.live.settled now).recordOutcome digest outcome now = .ok next) := by
  -- what the plain machine does from some time on
  have hplain : ∃ at_, ∀ now, at_ ≤ now → (∀ t, s.plain.nextAction now ≠ .waitUntil t) ∧
      (s.plain.nextAction now = .complete ∨ s.plain.nextAction now = .repairRequired ∨
        ∃ outcome next, (s.plain.settled now).recordOutcome digest outcome now = .ok next) := by
    by_cases hwaiting : s.plain.phase = .waiting
    · obtain ⟨t, ht⟩ := Option.isSome_iff_exists.mp (h.plain.waiting hwaiting).2
      refine ⟨t, fun now hnow => ?_⟩
      have helapsed : ∀ t', s.plain.retryAt = some t' → t' ≤ now := by
        intro t' ht'
        rw [ht] at ht'
        exact Option.some.inj ht' ▸ hnow
      obtain ⟨hsettled, haction⟩ := MatterSubscriptionRecovery.elapsed_eq hwaiting helapsed
      rw [hsettled, haction]
      obtain ⟨hacts, haccepts⟩ := MatterSubscriptionRecovery.subscribing_acts
        (show ({ s.plain with phase := .resubscribe } : MatterSubscriptionRecovery).phase = .resubscribe from rfl)
        digest now
      exact ⟨hacts, .inr (.inr ⟨.resubscribed, haccepts⟩)⟩
    · obtain ⟨at_, hawake⟩ := MatterSubscriptionRecovery.exists_awake s.plain
      refine ⟨at_, fun now hnow => ?_⟩
      rw [MatterSubscriptionRecovery.nextAction_of_ne hwaiting, MatterSubscriptionRecovery.settled_of_ne hwaiting]
      cases hphase : s.plain.phase with
      | waiting => exact absurd hphase hwaiting
      | resubscribe =>
        obtain ⟨hacts, haccepts⟩ := MatterSubscriptionRecovery.subscribing_acts hphase digest now
        exact ⟨hacts, .inr (.inr ⟨.resubscribed, haccepts⟩)⟩
      | gapRead =>
        have hfewer := (h.plain.opening (.inr hphase)).2.1
        have hallowed : s.plain.gapReadAllowed now = true := by
          rw [MatterSubscriptionRecovery.gapReadAllowed_eq (h.plain.samePolicy.symm ▸ hfewer), hawake now hnow]
          rfl
        simp only [MatterSubscriptionRecovery.actionAt, MatterSubscriptionRecovery.recordOutcome, hphase, hallowed,
          if_true]
        exact ⟨by simp, .inr (.inr ⟨.gapReadCompleted, _, rfl⟩)⟩
      | markStale =>
        simp only [MatterSubscriptionRecovery.actionAt, MatterSubscriptionRecovery.recordOutcome, hphase]
        exact ⟨by simp, .inr (.inr ⟨.stalePersisted, _, rfl⟩)⟩
      | complete | repairRequired => simp [MatterSubscriptionRecovery.actionAt, hphase]
  obtain ⟨at_, hacts⟩ := hplain
  refine ⟨max at_ s.clock, fun now hnow => ?_⟩
  obtain ⟨hsettled, haction⟩ := h.agree ((le_max_right _ _).trans hnow)
  rw [hsettled, haction]
  exact hacts now ((le_max_left _ _).trans hnow)

theorem start (hpolicy : policy.Accepted) {machine : MatterSubscriptionRecovery} (hsame : machine.policy = policy)
    (hphase : machine.phase = .markStale) (hretry : machine.retryAt = none) (hreads : machine.gapReads = 0)
    (hattempts : machine.subscribeAttempts = 0) (clock : Instant) :
    RecoveryInv policy (RecoveryRun.start machine clock) := by
  have hrefused := hpolicy.notRefused
  simp only [MatterSubscriptionRecoveryPolicy.refused, Bool.or_eq_false_iff, beq_eq_false_iff_ne] at hrefused
  have hpositive := Nat.pos_of_ne_zero hrefused.1.1.1.1.1
  have hpositive' := Nat.pos_of_ne_zero hrefused.1.1.1.1.2
  refine ⟨?_, rfl, .inl rfl, rfl, fun _ hcall => (by cases hcall), fun _ hgiven => by cases hgiven⟩
  constructor
  case samePolicy => exact hsame
  case opening => exact fun _ => ⟨hretry, by rw [RecoveryRun.start, hreads]; exact hpositive', rfl⟩
  case budget => exact fun _ _ => ⟨by rw [RecoveryRun.start, hattempts]; exact hpositive, hreads, hattempts⟩
  case elapsed =>
    intro hwrong
    cases hphase.symm.trans hwrong
  case waiting =>
    intro hwrong
    cases hphase.symm.trans hwrong
  case bounded => exact ⟨Nat.zero_le _, Nat.zero_le _⟩
  case finite =>
    rw [workLeft, RecoveryRun.start, hphase, hattempts]
    change 0 + (2 + _) ≤ _
    omega

end RecoveryInv

/-- In every run whose steps are all permitted, restarts change nothing: the actions are those of the machine that is
never restarted, the calls stay within their budgets and deadlines, the recovery ends, and the advice fits. -/
theorem recovery_restart_safe (digest : MatterSubscriptionId → ℕ → ℕ) {policy : MatterSubscriptionRecoveryPolicy}
    (hpolicy : policy.Accepted) (subscriptionId : MatterSubscriptionId) (fabricId : MatterFabricId)
    (nodeId : MatterNodeId) (selection : List MatterAttributePath) (minimumIntervalMillis maximumIntervalMillis : ℕ)
    (reason : MatterSubscriptionLossReason) (sleepy : Bool) (lastGapReadAt : Option Instant) (clock : Instant)
    {s : RecoveryRun} (h : RecoveryRun.Run digest (RecoveryRun.Permitted digest)
      (.start (.afterLoss subscriptionId fabricId nodeId selection minimumIntervalMillis maximumIntervalMillis reason
        sleepy lastGapReadAt policy) clock) s) : RecoverySound digest policy s := by
  have hinv : RecoveryInv policy s := by
    induction h with
    | start => exact .start hpolicy rfl rfl rfl rfl rfl clock
    | step _ hpermitted hact ih => exact ih.step hpolicy hpermitted hact
  have hreads : 1 ≤ policy.maximumGapReads := by
    have hrefused := hpolicy.notRefused
    simp only [MatterSubscriptionRecoveryPolicy.refused, Bool.or_eq_false_iff, beq_eq_false_iff_ne] at hrefused
    exact Nat.pos_of_ne_zero hrefused.1.1.1.1.2
  have hfinite := hinv.plain.finite
  constructor
  case actions => exact hinv.actions
  case calls => exact hinv.calls
  case bounded => exact hinv.plain.bounded
  case finite => omega
  case progress => exact hinv.progress
  case advised => exact hinv.advised

def readingPolicy (maximumGapReads : ℕ) : MatterSubscriptionRecoveryPolicy :=
  ⟨5, maximumGapReads, 500, 30000, 250, 60000, by decide⟩

def lightRow : StoredMatterSubscription := ⟨1, 1, 4, .established, 0, 0, .initial, 1, 0⟩

def lightRecovery (maximumGapReads : ℕ) : MatterSubscriptionRecovery :=
  .afterLoss 1 1 4 [⟨4, 1, 6, 0⟩] 0 60000 .sessionClosed false none (readingPolicy maximumGapReads)

theorem readingPolicy_accepted {maximumGapReads : ℕ} (h : 0 < maximumGapReads) (hlt : maximumGapReads < 2^8) :
    (readingPolicy maximumGapReads).Accepted := by
  refine ⟨?_, hlt, (by decide : 30000 < 2^64), (by decide : 60000 < 2^64)⟩
  have hne : (maximumGapReads == 0) = false := by
    simpa using Nat.ne_of_gt h
  simp [MatterSubscriptionRecoveryPolicy.refused, readingPolicy, hne]

/-- The recovery of a light with one gap read, restarted after the stale mark and after the read; the status is asked
for before the subscribe call, which has to be made again. -/
theorem restarted_recovery_sound : ∃ s, (s.calls.length = 3 ∧ s.advice.length = 1) ∧
    RecoverySound (fun _ _ => 7) (readingPolicy 1) s := by
  let digest : MatterSubscriptionId → ℕ → ℕ := fun _ _ => 7
  have h0 : RecoveryRun.Run digest (RecoveryRun.Permitted digest) (.start (lightRecovery 1) 0)
      (.start (lightRecovery 1) 0) := .start
  have h1 := h0.step (show RecoveryRun.Permitted digest _ (.next 0) from trivial) rfl
  have h2 := h1.step (show RecoveryRun.Permitted digest _ (.record .stalePersisted 0) from
    ⟨fun _ => rfl, fun hfailed => nomatch hfailed⟩) rfl
  have h3 := h2.step (show RecoveryRun.Permitted digest _ (.restart lightRow) from fun hphase => nomatch hphase) rfl
  have h4 := h3.step (show RecoveryRun.Permitted digest _ (.next 1) from trivial) rfl
  have h5 := h4.step (show RecoveryRun.Permitted digest _ (.record .gapReadCompleted 1) from
    ⟨fun _ => rfl, fun hfailed => nomatch hfailed⟩) rfl
  have h6 := h5.step (show RecoveryRun.Permitted digest _ (.restart lightRow) from fun _ _ => Nat.le_refl 1) rfl
  have h7 := h6.step (show RecoveryRun.Permitted digest _ (.status lightRow 1) from
    ⟨fun hphase => (nomatch hphase), fun _ => ⟨Nat.le_refl 1, rfl, rfl⟩⟩) rfl
  have h8 := h7.step (show RecoveryRun.Permitted digest _ (.record .resubscribeFailed 1) from
    ⟨fun hmisread => (nomatch hmisread), fun _ _ _ => by decide +kernel⟩) rfl
  have h9 := h8.step (show RecoveryRun.Permitted digest _ (.next 600000000) from trivial) rfl
  exact ⟨_, ⟨rfl, rfl⟩, recovery_restart_safe digest (readingPolicy_accepted (by decide) (by decide)) 1 1 4
    [⟨4, 1, 6, 0⟩] 0 60000 .sessionClosed false none 0 h9⟩

/-- With a second gap read in the budget, a restart after the first reads again where the machine would subscribe. -/
theorem gap_read_again : ¬ ∀ (digest : MatterSubscriptionId → ℕ → ℕ) (maximumGapReads : ℕ) (s : RecoveryRun),
    (readingPolicy maximumGapReads).Accepted →
      RecoveryRun.Run digest (fun _ _ => True) (.start (lightRecovery maximumGapReads) 0) s →
        RecoverySound digest (readingPolicy maximumGapReads) s := by
  intro hall
  let digest : MatterSubscriptionId → ℕ → ℕ := fun _ _ => 7
  have h0 : RecoveryRun.Run digest (fun _ _ => True) (.start (lightRecovery 2) 0) (.start (lightRecovery 2) 0) := .start
  have h1 := h0.step trivial (show RecoveryRun.act digest _ (.record .stalePersisted 0) = some _ from rfl)
  have h2 := h1.step trivial (show RecoveryRun.act digest _ (.record .gapReadCompleted 1) = some _ from rfl)
  have h3 := h2.step trivial (show RecoveryRun.act digest _ (.restart lightRow) = some _ from rfl)
  have h4 := h3.step trivial (show RecoveryRun.act digest _ (.next 1) = some _ from rfl)
  have hactions := (hall digest 2 _ (readingPolicy_accepted (by decide) (by decide)) h4).actions
  have hread : [MatterSubscriptionRecoveryAction.gapRead ⟨1, 4, [⟨4, 1, 6, 0⟩]⟩] =
      [.resubscribe ⟨⟨1, 1, 4, [⟨4, 1, 6, 0⟩]⟩, 0, 60000⟩] := hactions
  cases hread

end HomeMagic
