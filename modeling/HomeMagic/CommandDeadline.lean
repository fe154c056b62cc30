import HomeMagic.CommandDispatch

/-! When a command is sent, relative to its deadline. The service tests the deadline
against the instant it was called with; time passes at every call it then makes. -/
namespace HomeMagic
open List

def readsClock : (c : CommandCall) → c.Response → Instant → Instant → Prop
  | .now, reading, earliest, latest => earliest ≤ reading ∧ reading ≤ latest
  | _, _, _, _ => True

def timedHandler (storeHost : StoreHost) (commandIdText : CommandId → String) :
    Handler CommandCall CommandCall.Response (CommandStore × Instant) :=
  fun c s r s' => commandHandler storeHost commandIdText c s.1 r s'.1 ∧ s.2 ≤ s'.2 ∧
    readsClock c r s.2 s'.2

def Waits (storeHost : StoreHost) (commandIdText : CommandId → String)
    (s s' : CommandStore × Instant) : Prop :=
  CommandStore.Reaches storeHost commandIdText s.1 s'.1 ∧ s.2 ≤ s'.2

inductive SendingCall (host : CommandHost) (now : Instant) :
    Program CommandCall CommandCall.Response Unit → Prop
  | execute (actor : Actor) (request : CommandRequest) :
      SendingCall host now (asRequest (HomeMagic.execute host actor request now).run)
  | recover : SendingCall host now (asRequest (recoverCommands host now).run)
  | approveUnlock (approver : Actor) (commandId : CommandId) :
      SendingCall host now (asRequest (HomeMagic.approveUnlock host approver commandId now).run)

abbrev TimedTrace := List ((CommandStore × Instant) × CommandCall)

def clocks (trace : TimedTrace) : List Instant := trace.map (fun made => made.1.2)

def SentInTime (trace : TimedTrace) : Prop :=
  ∀ before made after envelope, trace = before ++ made :: after → made.2 = .dispatch envelope →
    made.1.2 < envelope.deadline

def NeverCrosses (deadline : Instant) (times : List Instant) : Prop :=
  times.IsChain (fun earlier later => earlier < deadline → later < deadline)

/-- From the start of the service call up to each send, no wait carries the clock over
the deadline of what is sent. -/
def WaitsWithinDeadlines (now : Instant) (trace : TimedTrace) : Prop :=
  ∀ before made after envelope, trace = before ++ made :: after → made.2 = .dispatch envelope →
    NeverCrosses envelope.deadline (now :: clocks (before ++ [made]))

theorem SendingCall.obeys {host : CommandHost} {now : Instant}
    {p : Program CommandCall CommandCall.Response Unit} (h : SendingCall host now p) :
    p.Obeys commandDiscipline (fun _ _ => True)
      (.initial now (fun _ _ => True) (!host.dispatchControl)) := by
  cases h with
  | execute actor request =>
    exact asRequest_obeys (keeping_execute host actor request rfl rfl (fun _ _ => trivial))
  | recover => exact asRequest_obeys (keeping_recoverCommands host rfl rfl)
  | approveUnlock approver commandId =>
    exact asRequest_obeys (keeping_approveUnlock host approver commandId rfl)

section Traces
variable {host : CommandHost} {storeHost : StoreHost} {commandIdText : CommandId → String}
  {p : Program CommandCall CommandCall.Response Unit} {now : Instant} {store : CommandStore}
  {trace : TimedTrace}
variable {deadline : Instant} {times : List Instant}

theorem now_lt_deadline (hp : SendingCall host now p)
    (h : p.Performs (timedHandler storeHost commandIdText) (Waits storeHost commandIdText)
      (store, now) trace) :
    ∀ made ∈ trace, ∀ envelope, made.2 = .dispatch envelope → now < envelope.deadline := by
  intro made hmade envelope hsend
  obtain ⟨g, hnow, hallowed⟩ := h.allowed (J := fun g => g.now = now)
    (fun _ _ _ _ hh => CommandStore.commandHandler_valid hh.1) (fun g c r hg => (g.move_now c r).trans hg)
    hp.obeys rfl made hmade
  rw [hsend] at hallowed
  exact hnow ▸ hallowed.2

theorem clocks_sorted {s : CommandStore × Instant}
    (h : p.Performs (timedHandler storeHost commandIdText) (Waits storeHost commandIdText) s trace) :
    (s.2 :: clocks trace).Pairwise (· ≤ ·) := by
  induction h with
  | stops p s => exact pairwise_singleton _ _
  | @acts c next s s₁ s₂ r trace hr hh h ih =>
    have hbefore : s.2 ≤ s₁.2 := hr.2
    have hduring : s₁.2 ≤ s₂.2 := hh.2.1
    obtain ⟨hlater, hrest⟩ := pairwise_cons.mp ih
    have hafter : ∀ t ∈ clocks trace, s₁.2 ≤ t := fun t ht => hduring.trans (hlater t ht)
    refine pairwise_cons.mpr ⟨?_, pairwise_cons.mpr ⟨hafter, hrest⟩⟩
    intro t ht
    rcases mem_cons.mp ht with rfl | ht
    · exact hbefore
    · exact hbefore.trans (hafter t ht)

theorem NeverCrosses.lt {start : Instant} (h : NeverCrosses deadline (start :: times)) (hstart : start < deadline) :
    ∀ t ∈ times, t < deadline := by
  induction times generalizing start with
  | nil => exact fun t ht => absurd ht not_mem_nil
  | cons next rest ih =>
    obtain ⟨hstep, hrest⟩ := isChain_cons_cons.mp h
    intro t ht
    rcases mem_cons.mp ht with rfl | ht
    · exact hstep hstart
    · exact ih hrest (hstep hstart) t ht

theorem neverCrosses_of_lt (h : ∀ t ∈ times, t < deadline) : NeverCrosses deadline times := by
  induction times with
  | nil => exact isChain_nil
  | cons first rest ih =>
    have hrest := ih (fun t ht => h t (mem_cons_of_mem _ ht))
    cases rest with
    | nil => exact isChain_singleton _
    | cons second rest =>
      exact isChain_cons_cons.mpr
        ⟨fun _ => h second (mem_cons_of_mem _ mem_cons_self), hrest⟩

end Traces

/-- The sends of an execution, a recovery or an unlock approval come before their
deadlines exactly when no wait up to the send carries the clock over the deadline. -/
theorem sent_in_time_iff {host : CommandHost} {storeHost : StoreHost}
    {commandIdText : CommandId → String} {p : Program CommandCall CommandCall.Response Unit}
    {now : Instant} {store : CommandStore} {trace : TimedTrace} (hp : SendingCall host now p)
    (h : p.Performs (timedHandler storeHost commandIdText) (Waits storeHost commandIdText)
      (store, now) trace) :
    SentInTime trace ↔ WaitsWithinDeadlines now trace := by
  have hstart := now_lt_deadline hp h
  have hsorted := clocks_sorted h
  refine ⟨?_, ?_⟩
  · intro htime before made after envelope htrace hsend
    have hlast := htime before made after envelope htrace hsend
    -- the clock at the send bounds every earlier one
    apply neverCrosses_of_lt
    intro t ht
    have hsplit : now :: clocks trace = (now :: clocks before) ++ (made.1.2 :: clocks after) := by
      rw [htrace]
      simp [clocks]
    rw [hsplit, List.pairwise_append] at hsorted
    have hor : t ∈ now :: clocks before ∨ t = made.1.2 := by
      simpa [clocks, or_assoc] using ht
    rcases hor with hearlier | rfl
    · exact (hsorted.2.2 t hearlier made.1.2 List.mem_cons_self).trans_lt hlast
    · exact hlast
  · intro hwaits before made after envelope htrace hsend
    have hin : made ∈ trace := by
      rw [htrace]
      exact List.mem_append_right _ List.mem_cons_self
    have hbefore := hstart made hin envelope hsend
    have hchain := hwaits before made after envelope htrace hsend
    exact hchain.lt hbefore made.1.2 (by simp [clocks])

def pacedApply (pace : ℕ) (c : CommandCall) (s : CommandStore × Instant) :
    c.Response × (CommandStore × Instant) :=
  let answer := commandApply minuteStoreHost (fun id => toString id) s.2 c s.1
  (answer.1, answer.2, s.2 + pace)

theorem pacedApply_handles (pace : ℕ) (c : CommandCall) (s : CommandStore × Instant) :
    timedHandler minuteStoreHost (fun id => toString id) c s (pacedApply pace c s).1
      (pacedApply pace c s).2 := by
  have hlater : s.2 ≤ s.2 + (pace : ℤ) := Int.le_add_of_nonneg_right (Int.natCast_nonneg pace)
  refine ⟨commandApply_handles _ _ s.2 c s.1, hlater, ?_⟩
  cases c with
  | now => exact ⟨le_refl _, hlater⟩
  | _ => trivial

def lampTrace (pace : ℕ) : TimedTrace :=
  (asRequest (execute residentHost resident lampOn 5).run).trace (pacedApply pace) (lampCommands, 5)

theorem lampTrace_performs (pace : ℕ) : (asRequest (execute residentHost resident lampOn 5).run).Performs
    (timedHandler minuteStoreHost (fun id => toString id)) (Waits minuteStoreHost (fun id => toString id))
    (lampCommands, 5) (lampTrace pace) :=
  .of_trace (fun _ => ⟨.refl, le_refl _⟩) (pacedApply_handles pace) _ _

def sendTimes (trace : TimedTrace) : List (Instant × Instant) :=
  trace.filterMap (fun made => match made.2 with
    | .dispatch envelope => some (made.1.2, envelope.deadline)
    | _ => none)

theorem SentInTime.sendTimes {trace : TimedTrace} (h : SentInTime trace) :
    ∀ times ∈ sendTimes trace, times.1 < times.2 := by
  intro times htimes
  obtain ⟨made, hmade, heq⟩ := mem_filterMap.mp htimes
  obtain ⟨before, after, htrace⟩ := append_of_mem hmade
  split at heq
  · rename_i envelope hsend
    cases heq
    exact h before made after envelope htrace hsend
  · cases heq

/-- Calls that take no time leave the lamp command in time. -/
theorem sent_in_time_lamp : sendTimes (lampTrace 0) = [(5, 10)] ∧
    (SentInTime (lampTrace 0) ↔ WaitsWithinDeadlines 5 (lampTrace 0)) :=
  ⟨by decide +kernel, sent_in_time_iff (.execute resident lampOn) (lampTrace_performs 0)⟩

/-- When every call takes one nanosecond, the lamp command is sent at 18. -/
theorem sent_after_deadline :
    ¬ ∀ (host : CommandHost) (storeHost : StoreHost) (commandIdText : CommandId → String)
      (p : Program CommandCall CommandCall.Response Unit) (now : Instant) (store : CommandStore)
      (trace : TimedTrace), SendingCall host now p →
      p.Performs (timedHandler storeHost commandIdText) (Waits storeHost commandIdText)
        (store, now) trace → SentInTime trace := by
  intro hclaim
  have htime := hclaim residentHost minuteStoreHost (fun id => toString id) _ 5 lampCommands
    (lampTrace 1) (.execute resident lampOn) (lampTrace_performs 1)
  have hsent : sendTimes (lampTrace 1) = [(18, 10)] := by decide +kernel
  have hlate := htime.sendTimes (18, 10) (by rw [hsent]; exact List.mem_singleton.mpr rfl)
  exact absurd hlate (by decide)

end HomeMagic
