import Mathlib

/-! A map whose operations take effect at one moment between their call and their return, whatever else is called in
between: what a store that several callers use at once is compared with. -/
namespace HomeMagic
open List Option

inductive MapOp (κ α : Type)
  | put (key : κ) (value : α) | get (key : κ) | delete (key : κ)
  deriving DecidableEq

inductive MapReply (α ε : Type)
  | stored | found (value : α) | removed | error (error : ε)
  deriving DecidableEq

inductive MapEvent (κ α ε : Type)
  | called (id : ℕ) (op : MapOp κ α) | returned (id : ℕ) (op : MapOp κ α) (reply : MapReply α ε) | crashed
  deriving DecidableEq

/-- A call that has not returned: its effect is still to come, or its reply is settled. -/
inductive PendingCall (κ α ε : Type)
  | waiting (op : MapOp κ α) | settled (op : MapOp κ α) (reply : MapReply α ε)

def PendingCall.op {κ α ε : Type} : PendingCall κ α ε → MapOp κ α
  | waiting op => op
  | settled op _ => op

structure AtomicState (κ α ε : Type) where
  map : κ → Option α
  calls : ℕ → Option (PendingCall κ α ε)
  started : ℕ

structure MapErrors (κ α ε : Type) where
  absent : MapOp κ α → ε
  own : MapOp κ α → ε → Prop

namespace AtomicState
variable {κ α ε : Type}

def empty : AtomicState κ α ε := ⟨fun _ => none, fun _ => none, 0⟩

def setCall (s : AtomicState κ α ε) (id : ℕ) (call : Option (PendingCall κ α ε)) : AtomicState κ α ε :=
  { s with calls := Function.update s.calls id call }

def setValue [DecidableEq κ] (s : AtomicState κ α ε) (key : κ) (value : Option α) : AtomicState κ α ε :=
  { s with map := Function.update s.map key value }

@[simp] theorem setCall_started (s : AtomicState κ α ε) (id : ℕ) (call : Option (PendingCall κ α ε)) :
    (s.setCall id call).started = s.started := rfl

@[simp] theorem setCall_calls (s : AtomicState κ α ε) (id : ℕ) (call : Option (PendingCall κ α ε)) :
    (s.setCall id call).calls = Function.update s.calls id call := rfl

end AtomicState

section
variable {κ α ε : Type} [DecidableEq κ] (errors : MapErrors κ α ε)
variable {events later before : List (MapEvent κ α ε)} {s start s' middle : AtomicState κ α ε} {id : ℕ} {error : ε}
  {event : Option (MapEvent κ α ε)} {key : κ} {value : α}

inductive AtomicStep : AtomicState κ α ε → Option (MapEvent κ α ε) → AtomicState κ α ε → Prop
  | call {s : AtomicState κ α ε} (op : MapOp κ α) :
    AtomicStep s (some (.called s.started op))
      { s.setCall s.started (some (.waiting op)) with started := s.started + 1 }
  | put {s : AtomicState κ α ε} {id : ℕ} {key : κ} {value : α} (h : s.calls id = some (.waiting (.put key value))) :
    AtomicStep s none ((s.setValue key (some value)).setCall id (some (.settled (.put key value) .stored)))
  | get {s : AtomicState κ α ε} {id : ℕ} {key : κ} {value : α} (h : s.calls id = some (.waiting (.get key)))
      (hvalue : s.map key = some value) :
    AtomicStep s none (s.setCall id (some (.settled (.get key) (.found value))))
  | getAbsent {s : AtomicState κ α ε} {id : ℕ} {key : κ} (h : s.calls id = some (.waiting (.get key)))
      (habsent : s.map key = none) :
    AtomicStep s none (s.setCall id (some (.settled (.get key) (.error (errors.absent (.get key))))))
  | delete {s : AtomicState κ α ε} {id : ℕ} {key : κ} {value : α} (h : s.calls id = some (.waiting (.delete key)))
      (hvalue : s.map key = some value) :
    AtomicStep s none ((s.setValue key none).setCall id (some (.settled (.delete key) .removed)))
  | deleteAbsent {s : AtomicState κ α ε} {id : ℕ} {key : κ} (h : s.calls id = some (.waiting (.delete key)))
      (habsent : s.map key = none) :
    AtomicStep s none (s.setCall id (some (.settled (.delete key) (.error (errors.absent (.delete key))))))
  | fail {s : AtomicState κ α ε} {id : ℕ} {op : MapOp κ α} {error : ε} (h : s.calls id = some (.waiting op))
      (herror : errors.own op error) : AtomicStep s none (s.setCall id (some (.settled op (.error error))))
  /-- A get may still fail with the value it has seen. -/
  | failGet {s : AtomicState κ α ε} {id : ℕ} {key : κ} {value : α} {error : ε}
      (h : s.calls id = some (.settled (.get key) (.found value))) (herror : errors.own (.get key) error) :
    AtomicStep s none (s.setCall id (some (.settled (.get key) (.error error))))
  | ret {s : AtomicState κ α ε} {id : ℕ} {op : MapOp κ α} {reply : MapReply α ε}
      (h : s.calls id = some (.settled op reply)) : AtomicStep s (some (.returned id op reply)) (s.setCall id none)
  | crash {s : AtomicState κ α ε} : AtomicStep s (some .crashed) { s with calls := fun _ => none }

inductive AtomicTrace (start : AtomicState κ α ε) : List (MapEvent κ α ε) → AtomicState κ α ε → Prop
  | start : AtomicTrace start [] start
  | step {events : List (MapEvent κ α ε)} {s s' : AtomicState κ α ε} {event : Option (MapEvent κ α ε)}
      (h : AtomicTrace start events s) (hstep : AtomicStep errors s event s') :
    AtomicTrace start (events ++ event.toList) s'

variable {errors}

theorem AtomicTrace.silent (h : AtomicTrace errors start events s) (hstep : AtomicStep errors s none s') :
    AtomicTrace errors start events s' := by
  have hnext := h.step hstep
  rwa [toList_none, append_nil] at hnext

theorem AtomicTrace.failed {op : MapOp κ α} (h : AtomicTrace errors start events s)
    (hcall : s.calls id = some (.waiting op)) (herror : errors.own op error) :
    AtomicTrace errors start (events ++ [.returned id op (.error error)]) (s.setCall id none) := by
  have hfailed := h.silent (.fail hcall herror)
  have hsettled : (s.setCall id (some (.settled op (.error error)))).calls id = some (.settled op (.error error)) :=
    Function.update_self _ _ _
  have hreturned := hfailed.step (.ret hsettled)
  simpa [AtomicState.setCall] using hreturned

theorem AtomicTrace.failedGet (h : AtomicTrace errors start events s)
    (hcall : s.calls id = some (.settled (.get key) (.found value))) (herror : errors.own (.get key) error) :
    AtomicTrace errors start (events ++ [.returned id (.get key) (.error error)]) (s.setCall id none) := by
  have hfailed := h.silent (.failGet hcall herror)
  have hsettled : (s.setCall id (some (.settled (.get key) (.error error)))).calls id =
      some (.settled (.get key) (.error error)) := Function.update_self _ _ _
  have hreturned := hfailed.step (.ret hsettled)
  simpa [AtomicState.setCall] using hreturned

theorem AtomicTrace.append (h : AtomicTrace errors start events middle) (hlater : AtomicTrace errors middle later s) :
    AtomicTrace errors start (events ++ later) s := by
  induction hlater with
  | start => rwa [append_nil]
  | step _ hstep ih =>
    rw [← append_assoc]
    exact ih.step hstep

theorem AtomicTrace.split {all : List (MapEvent κ α ε)} (h : AtomicTrace errors start all s)
    (hall : all = events ++ later) :
    ∃ middle, AtomicTrace errors start events middle ∧ AtomicTrace errors middle later s := by
  induction h generalizing later with
  | start =>
    obtain ⟨rfl, rfl⟩ := append_eq_nil_iff.mp hall.symm
    exact ⟨start, .start, .start⟩
  | @step seen s s' event hseen hstep ih =>
    cases event with
    | none =>
      rw [toList_none, append_nil] at hall
      obtain ⟨middle, hfirst, hsecond⟩ := ih hall
      exact ⟨middle, hfirst, hsecond.silent hstep⟩
    | some event =>
      rcases eq_nil_or_concat later with rfl | ⟨front, last, rfl⟩
      · rw [append_nil] at hall
        exact ⟨s', hall ▸ hseen.step hstep, .start⟩
      · rw [concat_eq_append, ← append_assoc] at hall
        obtain ⟨hfront, hlast⟩ := append_inj' hall rfl
        obtain ⟨middle, hfirst, hsecond⟩ := ih hfront
        refine ⟨middle, hfirst, ?_⟩
        rw [concat_eq_append, ← hlast]
        exact hsecond.step hstep

structure TraceKept (events : List (MapEvent κ α ε)) (s : AtomicState κ α ε) : Prop where
  called : ∀ id call, s.calls id = some call → .called id call.op ∈ events
  unreturned : ∀ id call, s.calls id = some call → ∀ op reply, .returned id op reply ∉ events
  fresh : ∀ id, s.started ≤ id → s.calls id = none
  returned : ∀ id op reply, .returned id op reply ∈ events → id < s.started

omit [DecidableEq κ] in
theorem TraceKept.settle {call call' : PendingCall κ α ε} (h : TraceKept events s) (hcall : s.calls id = some call)
    (hcalls : s'.calls = Function.update s.calls id (some call')) (hop : call'.op = call.op)
    (hstarted : s'.started = s.started) : TraceKept events s' := by
  have hcases : ∀ id' other, s'.calls id' = some other →
      ∃ before, s.calls id' = some before ∧ other.op = before.op := by
    intro id' other hother
    rw [hcalls, Function.update_apply] at hother
    split_ifs at hother with heq
    · rw [heq]
      exact ⟨call, hcall, by rw [← Option.some.inj hother, hop]⟩
    · exact ⟨other, hother, rfl⟩
  constructor
  case called =>
    intro id' other hother
    obtain ⟨before, hbefore, hsame⟩ := hcases id' other hother
    rw [hsame]
    exact h.called id' before hbefore
  case unreturned =>
    intro id' other hother
    obtain ⟨before, hbefore, _⟩ := hcases id' other hother
    exact h.unreturned id' before hbefore
  case fresh =>
    intro id' hfresh
    rw [hstarted] at hfresh
    rw [hcalls, Function.update_apply]
    split_ifs with heq
    · have hnone := h.fresh id' hfresh
      rw [heq, hcall] at hnone
      cases hnone
    · exact h.fresh id' hfresh
  case returned =>
    rw [hstarted]
    exact h.returned

/-- The trace and the pending calls tell the same. -/
theorem TraceKept.step (h : TraceKept events s) (hstep : AtomicStep errors s event s') :
    TraceKept (events ++ event.toList) s' := by
  cases hstep with
  | call op =>
    rw [toList_some]
    constructor
    case called =>
      intro id call hcall
      simp only [AtomicState.setCall_calls, Function.update_apply] at hcall
      split_ifs at hcall with heq
      · rw [← Option.some.inj hcall, heq]
        exact mem_append_right _ mem_cons_self
      · exact mem_append_left _ (h.called id call hcall)
    case unreturned =>
      intro id call hcall op' reply hmem
      have hearlier : .returned id op' reply ∈ events := by simpa using hmem
      simp only [AtomicState.setCall_calls, Function.update_apply] at hcall
      split_ifs at hcall with heq
      · have hless := h.returned id op' reply hearlier
        omega
      · exact h.unreturned id call hcall op' reply hearlier
    case fresh =>
      intro id hfresh
      simp only [AtomicState.setCall_calls, Function.update_apply]
      have hfresh' : s.started + 1 ≤ id := hfresh
      rw [if_neg (by omega)]
      exact h.fresh id (by omega)
    case returned =>
      intro id op' reply hmem
      have hearlier : .returned id op' reply ∈ events := by simpa using hmem
      exact Nat.lt_succ_of_lt (h.returned id op' reply hearlier)
  | put hcall | get hcall | getAbsent hcall | delete hcall | deleteAbsent hcall | fail hcall
  | failGet hcall => rw [toList_none, append_nil]; exact h.settle hcall rfl rfl rfl
  | @ret id op reply hcall =>
    rw [toList_some]
    -- the call that returns is taken out, the others stay
    have hothers : ∀ id' call, (s.setCall id none).calls id' = some call → id' ≠ id ∧ s.calls id' = some call := by
      intro id' call hother
      rw [AtomicState.setCall_calls, Function.update_apply] at hother
      split_ifs at hother with heq
      exact ⟨heq, hother⟩
    constructor
    case called =>
      intro id' call hother
      exact mem_append_left _ (h.called id' call (hothers id' call hother).2)
    case unreturned =>
      intro id' call hother op' reply' hmem
      obtain ⟨hne, hbefore⟩ := hothers id' call hother
      rcases mem_append.mp hmem with hearlier | hlast
      · exact h.unreturned id' call hbefore op' reply' hearlier
      · exact hne (MapEvent.returned.inj (mem_singleton.mp hlast)).1
    case fresh =>
      intro id' hfresh
      rw [AtomicState.setCall_calls, Function.update_apply]
      split_ifs
      · rfl
      · exact h.fresh id' hfresh
    case returned =>
      intro id' op' reply' hmem
      rcases mem_append.mp hmem with hearlier | hlast
      · exact h.returned id' op' reply' hearlier
      · rw [(MapEvent.returned.inj (mem_singleton.mp hlast)).1]
        by_contra hfresh
        have hnone := h.fresh id (Nat.not_lt.mp hfresh)
        rw [hcall] at hnone
        cases hnone
  | crash =>
    rw [toList_some]
    constructor
    -- a crash leaves no call under way
    case called => intro id call hcall; cases hcall
    case unreturned => intro id call hcall; cases hcall
    case fresh => intro id _; rfl
    case returned =>
      intro id op reply hmem
      have hearlier : .returned id op reply ∈ events := by simpa using hmem
      exact h.returned id op reply hearlier

theorem AtomicTrace.kept (h : AtomicTrace errors .empty events s) : TraceKept events s := by
  induction h with
  | start =>
    constructor
    case called => intro id call hcall; cases hcall
    case unreturned => intro id call hcall; cases hcall
    case fresh => intro id _; rfl
    case returned => intro id op reply hmem; cases hmem
  | step _ hstep ih => exact ih.step hstep

def ValuesPut (events : List (MapEvent κ α ε)) (s : AtomicState κ α ε) : Prop :=
  ∀ key value, s.map key = some value → ∃ id, .called id (.put key value) ∈ events ∧
    (∀ error, .returned id (.put key value) (.error error) ∉ events) ∧
    (s.calls id = none ∧ id < s.started ∨ s.calls id = some (.settled (.put key value) .stored))

/-- What is in the map or on its way out was put before. -/
theorem ValuesPut.step (hkept : TraceKept events s) (h : ValuesPut events s) (hstep : AtomicStep errors s event s') :
    ValuesPut (events ++ event.toList) s' := by
  -- a call that changes without touching the map was not a put that has been stored
  have hsettle : ∀ {id : ℕ} {call call' : PendingCall κ α ε}, s.calls id = some call →
      (∀ key value, call ≠ .settled (.put key value) .stored) →
      ValuesPut events (s.setCall id (some call')) := by
    intro id call call' hcall hother key value hvalue
    obtain ⟨id', hcalled, hfine, hstands⟩ := h key value hvalue
    have hne : id' ≠ id := by
      rintro rfl
      rcases hstands with ⟨hgone, _⟩ | hstored
      · rw [hcall] at hgone; cases hgone
      · rw [hcall] at hstored
        exact hother key value (Option.some.inj hstored)
    refine ⟨id', hcalled, hfine, ?_⟩
    rw [AtomicState.setCall_calls, Function.update_of_ne hne]
    exact hstands
  have hwaiting : ∀ {id : ℕ} {op : MapOp κ α} {call' : PendingCall κ α ε}, s.calls id = some (.waiting op) →
      ValuesPut events (s.setCall id (some call')) :=
    fun hcall => hsettle hcall (fun _ _ hsame => (nomatch hsame))
  cases hstep with
  | call op =>
    rw [toList_some]
    intro key value hvalue
    obtain ⟨id, hcalled, hfine, hstands⟩ := h key value hvalue
    have hold : id ≠ s.started := by
      rintro rfl
      rcases hstands with ⟨_, hless⟩ | hstored
      · exact Nat.lt_irrefl _ hless
      · rw [hkept.fresh _ (Nat.le_refl _)] at hstored
        cases hstored
    refine ⟨id, mem_append_left _ hcalled, fun error => by simpa using hfine error, ?_⟩
    change Function.update s.calls s.started _ id = none ∧ id < s.started + 1 ∨
      Function.update s.calls s.started _ id = _
    rw [Function.update_of_ne hold]
    exact hstands.imp (fun hgone => ⟨hgone.1, Nat.lt_succ_of_lt hgone.2⟩) (fun hstored => hstored)
  | @put id key value hcall =>
    rw [toList_none, append_nil]
    intro key' value' hvalue
    change Function.update s.map key (some value) key' = some value' at hvalue
    rw [Function.update_apply] at hvalue
    split_ifs at hvalue with hkey
    · obtain rfl := Option.some.inj hvalue
      subst hkey
      exact ⟨id, hkept.called id _ hcall, fun error => hkept.unreturned id _ hcall _ _, .inr (by simp)⟩
    · exact hwaiting hcall key' value' hvalue
  | get hcall | getAbsent hcall => rw [toList_none, append_nil]; exact hwaiting hcall
  | @delete id key _ hcall =>
    rw [toList_none, append_nil]
    intro key' value' hvalue
    change Function.update s.map key none key' = some value' at hvalue
    rw [Function.update_apply] at hvalue
    split_ifs at hvalue with hkey
    exact hwaiting hcall key' value' hvalue
  | deleteAbsent hcall | fail hcall => rw [toList_none, append_nil]; exact hwaiting hcall
  | failGet hcall =>
    rw [toList_none, append_nil]
    exact hsettle hcall (fun _ _ hsame => (nomatch hsame))
  | @ret id op reply hcall =>
    rw [toList_some]
    intro key value hvalue
    obtain ⟨id', hcalled, hfine, hstands⟩ := h key value hvalue
    refine ⟨id', mem_append_left _ hcalled, ?_, ?_⟩
    · intro error hmem
      rcases mem_append.mp hmem with hearlier | hlast
      · exact hfine error hearlier
      · -- it returns as it has been settled
        obtain ⟨rfl, rfl, rfl⟩ := MapEvent.returned.inj (mem_singleton.mp hlast)
        rcases hstands with ⟨hgone, _⟩ | hstored
        · rw [hcall] at hgone; cases hgone
        · rw [hcall] at hstored; cases hstored
    · rw [AtomicState.setCall_calls, Function.update_apply, AtomicState.setCall_started]
      split_ifs with heq
      · refine .inl ⟨rfl, ?_⟩
        rw [heq]
        by_contra hfresh
        have hnone := hkept.fresh id (Nat.not_lt.mp hfresh)
        rw [hcall] at hnone
        cases hnone
      · exact hstands
  | crash =>
    rw [toList_some]
    intro key value hvalue
    obtain ⟨id, hcalled, hfine, hstands⟩ := h key value hvalue
    refine ⟨id, mem_append_left _ hcalled, fun error => by simpa using hfine error, .inl ⟨rfl, ?_⟩⟩
    by_contra hfresh
    rcases hstands with ⟨_, hless⟩ | hstored
    · exact hfresh hless
    · rw [hkept.fresh id (Nat.not_lt.mp hfresh)] at hstored
      cases hstored

theorem AtomicTrace.valuesPut (h : AtomicTrace errors .empty events s) : ValuesPut events s := by
  induction h with
  | start => intro key value hvalue; cases hvalue
  | step hevents hstep ih => exact ih.step hevents.kept hstep

/-- A put of the value that has been called, and had not failed when the earlier events were over. -/
def PutUnfailed (before events : List (MapEvent κ α ε)) (key : κ) (value : α) : Prop :=
  ∃ id, .called id (.put key value) ∈ events ∧ ∀ error, .returned id (.put key value) (.error error) ∉ before

omit [DecidableEq κ] in
theorem PutUnfailed.mono (h : PutUnfailed before events key value) :
    PutUnfailed before (events ++ later) key value := by
  obtain ⟨id, hcalled, hfine⟩ := h
  exact ⟨id, mem_append_left _ hcalled, hfine⟩

/-- A get that is called after some events finds a value of a put that had not failed then. -/
theorem AtomicTrace.found_of_put (hbefore : AtomicTrace errors .empty before middle)
    (h : AtomicTrace errors middle later s) :
    (∀ key value, s.map key = some value → PutUnfailed before (before ++ later) key value) ∧
    (∀ id key value, middle.started ≤ id → s.calls id = some (.settled (.get key) (.found value)) →
      PutUnfailed before (before ++ later) key value) ∧
    ∀ id key value, middle.started ≤ id → .returned id (.get key) (.found value) ∈ later →
      PutUnfailed before (before ++ later) key value := by
  induction h with
  | start =>
    refine ⟨?_, ?_, fun _ _ _ _ hmem => by cases hmem⟩
    · intro key value hvalue
      obtain ⟨id, hcalled, hfine, _⟩ := hbefore.valuesPut key value hvalue
      exact ⟨id, mem_append_left _ hcalled, hfine⟩
    · intro id key value hfresh hcall
      rw [hbefore.kept.fresh id hfresh] at hcall
      cases hcall
  | @step events s s' event hevents hstep ih =>
    obtain ⟨hmap, hsettled, hreturned⟩ := ih
    have hkept := (hbefore.append hevents).kept
    rw [← append_assoc]
    -- calls that stay, and one that may change
    have hcalls : ∀ {id : ℕ} {call' : Option (PendingCall κ α ε)},
        (∀ key value, call' = some (.settled (.get key) (.found value)) →
          PutUnfailed before (before ++ events ++ event.toList) key value) →
        ∀ id' key value, middle.started ≤ id' →
          Function.update s.calls id call' id' = some (.settled (.get key) (.found value)) →
          PutUnfailed before (before ++ events ++ event.toList) key value := by
      intro id call' hchanged id' key value hfresh hcall
      rw [Function.update_apply] at hcall
      split_ifs at hcall
      · exact hchanged key value hcall
      · exact (hsettled id' key value hfresh hcall).mono
    have hmap' : ∀ key value, s.map key = some value →
        PutUnfailed before (before ++ events ++ event.toList) key value :=
      fun key value hvalue => (hmap key value hvalue).mono
    have hreturned' : ∀ id key value, middle.started ≤ id → .returned id (.get key) (.found value) ∈ events →
        PutUnfailed before (before ++ events ++ event.toList) key value :=
      fun id key value hfresh hmem => (hreturned id key value hfresh hmem).mono
    cases hstep with
    | call op =>
      refine ⟨hmap', hcalls (fun _ _ hcall => by cases hcall), fun id key value hfresh hmem => ?_⟩
      exact hreturned' id key value hfresh (by simpa using hmem)
    | @put id key value hcall =>
      refine ⟨fun key' value' hvalue => ?_, hcalls (fun _ _ hcall => by cases hcall),
        fun id key value hfresh hmem => ?_⟩
      · change Function.update s.map key (some value) key' = some value' at hvalue
        rw [Function.update_apply] at hvalue
        split_ifs at hvalue with hkey
        · obtain rfl := Option.some.inj hvalue
          subst hkey
          have hunfailed : PutUnfailed before (before ++ events) key' value :=
            ⟨id, hkept.called id _ hcall, fun error hmem =>
              hkept.unreturned id _ hcall _ _ (mem_append_left _ hmem)⟩
          exact hunfailed.mono
        · exact hmap' key' value' hvalue
      · exact hreturned' id key value hfresh (by simpa using hmem)
    | @get id key value hcall hvalue =>
      refine ⟨hmap', hcalls (fun key' value' hcall' => ?_), fun id key value hfresh hmem => ?_⟩
      · obtain ⟨hkey, hfound⟩ := PendingCall.settled.inj (Option.some.inj hcall')
        rw [← MapOp.get.inj hkey, ← MapReply.found.inj hfound]
        exact hmap' _ _ hvalue
      · exact hreturned' id key value hfresh (by simpa using hmem)
    | getAbsent =>
      refine ⟨hmap', hcalls (fun _ _ hcall => by cases hcall), fun id key value hfresh hmem => ?_⟩
      exact hreturned' id key value hfresh (by simpa using hmem)
    | @delete id key _ hcall =>
      refine ⟨fun key' value' hvalue => ?_, hcalls (fun _ _ hcall => by cases hcall),
        fun id key value hfresh hmem => ?_⟩
      · change Function.update s.map key none key' = some value' at hvalue
        rw [Function.update_apply] at hvalue
        split_ifs at hvalue
        exact hmap' key' value' hvalue
      · exact hreturned' id key value hfresh (by simpa using hmem)
    | deleteAbsent | fail | failGet =>
      refine ⟨hmap', hcalls (fun _ _ hcall => by cases hcall), fun id key value hfresh hmem => ?_⟩
      exact hreturned' id key value hfresh (by simpa using hmem)
    | @ret id op reply hcall =>
      refine ⟨hmap', hcalls (fun _ _ hcall => by cases hcall), fun id' key value hfresh hmem => ?_⟩
      rcases mem_append.mp hmem with hearlier | hlast
      · exact hreturned' id' key value hfresh hearlier
      · obtain ⟨rfl, rfl, rfl⟩ := MapEvent.returned.inj (mem_singleton.mp hlast)
        exact (hsettled id' key value hfresh hcall).mono
    | crash =>
      refine ⟨hmap', fun _ _ _ _ hcall => (nomatch hcall), fun id key value hfresh hmem => ?_⟩
      exact hreturned' id key value hfresh (by simpa using hmem)

theorem AtomicTrace.called_from (h : AtomicTrace errors start events s) : start.started ≤ s.started ∧
      ∀ id op, .called id op ∈ events → start.started ≤ id := by
  induction h with
  | start => exact ⟨Nat.le_refl _, fun _ _ hmem => by cases hmem⟩
  | step _ hstep ih =>
    obtain ⟨hle, hcalled⟩ := ih
    cases hstep with
    | call op =>
      refine ⟨Nat.le_succ_of_le hle, fun id op' hmem => ?_⟩
      rcases mem_append.mp hmem with hearlier | hlast
      · exact hcalled id op' hearlier
      · rw [(MapEvent.called.inj (mem_singleton.mp hlast)).1]
        exact hle
    | _ => exact ⟨hle, fun id op' hmem => hcalled id op' (by simpa using hmem)⟩

end

end HomeMagic
