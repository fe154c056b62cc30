import Mathlib

/-! A resumable subscription to the event log: pages read after a cursor while events are appended and pruned, and what
of the log reaches the subscriber. -/
namespace HomeMagic
open List Option

inductive StreamEventKind
  | automationVersionTransitioned | automationOperationalTransitioned | automationRunTransitioned
  | matterOperationTransitioned | other
  deriving DecidableEq

structure StreamEvent where
  id : String
  kind : StreamEventKind
  actor : Option String
  deriving DecidableEq

def StreamEvent.visibleTo (event : StreamEvent) (actorId : String) : Bool :=
  event.kind == .other || event.actor == some actorId

structure StreamRow where
  cursor : ℕ
  event : StreamEvent
  deriving DecidableEq

def eventPageLimit : ℕ := 128

structure StoredEvents where
  rows : List StreamRow
  sequence : ℕ

inductive EventsError
  | repository
  | cursorExpired (requested earliest : ℕ)
  deriving DecidableEq

namespace StoredEvents

def earliestCursor (events : StoredEvents) : Option ℕ := events.rows.head?.map StreamRow.cursor

def latestCursor (events : StoredEvents) : Option ℕ := events.rows.getLast?.map StreamRow.cursor

def eventsAfter (events : StoredEvents) (cursor limit : ℕ) : Except EventsError (List StreamRow) :=
  if 2^63 ≤ cursor then .error .repository
  else
    let page := (events.rows.filter (fun row => cursor < row.cursor)).take (min (max limit 1) 128)
    match events.earliestCursor with
    | none => .ok page
    | some earliest => if cursor + 1 < earliest then .error (.cursorExpired cursor earliest) else .ok page

def append (events : StoredEvents) (event : StreamEvent) : StoredEvents :=
  ⟨events.rows ++ [⟨events.sequence + 1, event⟩], events.sequence + 1⟩

def prune (events : StoredEvents) (kept : ℕ → Bool) : StoredEvents :=
  { events with rows := events.rows.filter (fun row => kept row.cursor) }

end StoredEvents

/-- Where a subscription stands: its cursor is still to be checked, it asks for a page, it sends the rest of a page
that had `count` events, it waits for a wake-up, or it has ended. -/
inductive StreamPhase
  | checking
  | reading
  | sending (page : List StreamRow) (count : ℕ)
  | idle
  | refused (error : EventsError)
  | failed (error : EventsError)
  | closed
  deriving DecidableEq

/-- A subscription. What it has `sent`, and the last cursors that had been given out when it was accepted and when it
last read a page, are kept for what is said about it. -/
structure EventStream where
  actorId : String
  start : ℕ
  cursor : ℕ
  phase : StreamPhase
  sent : List StreamRow
  acceptedAt : ℕ
  readAt : ℕ

structure StreamState where
  events : StoredEvents
  appended : List StreamRow
  stream : Option EventStream

inductive StreamAction
  | append (event : StreamEvent)
  | prune (kept : ℕ → Bool)
  | subscribe (actorId : String) (requested : Option ℕ)
  | check
  | read
  | send (delivered : Bool)
  | wake
  | disconnect

namespace EventStream

def subscribe (events : StoredEvents) (actorId : String) (requested : Option ℕ) : EventStream where
  actorId := actorId
  start := requested.getD (events.latestCursor.getD 0)
  cursor := requested.getD (events.latestCursor.getD 0)
  phase := if requested.isSome then .checking else .reading
  sent := []
  acceptedAt := events.sequence
  readAt := 0

def check (stream : EventStream) (events : StoredEvents) : Option EventStream :=
  match stream.phase with
  | .checking =>
    match events.eventsAfter stream.cursor 1 with
    | .error error => some { stream with phase := .refused error }
    | .ok _ => some { stream with phase := .reading, acceptedAt := events.sequence }
  | _ => none

def read (stream : EventStream) (events : StoredEvents) : Option EventStream :=
  match stream.phase with
  | .reading =>
    match events.eventsAfter stream.cursor eventPageLimit with
    | .error error => some { stream with phase := .failed error }
    | .ok page => some { stream with phase := .sending page page.length, readAt := events.sequence }
  | _ => none

def send (stream : EventStream) (delivered : Bool) : Option EventStream :=
  match stream.phase with
  | .sending [] count => some { stream with phase := if count < eventPageLimit then .idle else .reading }
  | .sending (row :: rest) count =>
    if row.event.visibleTo stream.actorId then
      if delivered then
        some { stream with cursor := row.cursor, sent := stream.sent ++ [row], phase := .sending rest count }
      else some { stream with cursor := row.cursor, phase := .closed }
    else some { stream with cursor := row.cursor, phase := .sending rest count }
  | _ => none

def wake (stream : EventStream) : Option EventStream :=
  match stream.phase with
  | .idle => some { stream with phase := .reading }
  | _ => none

def accepted (stream : EventStream) : Bool :=
  match stream.phase with
  | .reading | .sending _ _ | .idle | .failed _ => true
  | .checking | .refused _ | .closed => false

end EventStream

namespace StreamState

def empty : StreamState := ⟨⟨[], 0⟩, [], none⟩

def act (s : StreamState) : StreamAction → Option StreamState
  | .append event =>
    if s.events.sequence + 1 < 2^63 then
      some { s with
        events := s.events.append event, appended := s.appended ++ [⟨s.events.sequence + 1, event⟩] }
    else none
  | .prune kept => some { s with events := s.events.prune kept }
  | .subscribe actorId requested =>
    if s.stream.isNone then some { s with stream := some (EventStream.subscribe s.events actorId requested) } else none
  | .check => s.stream.bind (fun stream => (stream.check s.events).map (fun next => { s with stream := some next }))
  | .read => s.stream.bind (fun stream => (stream.read s.events).map (fun next => { s with stream := some next }))
  | .send delivered =>
    s.stream.bind (fun stream => (stream.send delivered).map (fun next => { s with stream := some next }))
  | .wake => s.stream.bind (fun stream => stream.wake.map (fun next => { s with stream := some next }))
  | .disconnect => s.stream.map (fun stream => { s with stream := some { stream with phase := .closed } })

inductive Run (permitted : StreamState → StreamAction → Prop) : StreamState → Prop
  | start : Run permitted empty
  | step {s s' : StreamState} {action : StreamAction} (h : Run permitted s) (hpermitted : permitted s action)
      (hact : s.act action = some s') : Run permitted s'

def wanted (s : StreamState) (stream : EventStream) : List StreamRow :=
  s.appended.filter (fun row => (stream.start < row.cursor || stream.acceptedAt < row.cursor) &&
    row.event.visibleTo stream.actorId)

end StreamState

/-- A complete stream has sent what it is to send up to its cursor, each event once and in order, and when it waits it
has left nothing behind of what had been appended when it last read. -/
structure StreamComplete (s : StreamState) (stream : EventStream) : Prop where
  exact : stream.accepted = true → stream.sent = (s.wanted stream).filter (fun row => row.cursor ≤ stream.cursor)
  opening : stream.sent <+: s.wanted stream
  drained : stream.phase = .idle → ∀ row ∈ s.wanted stream, row.cursor ≤ stream.readAt → row ∈ stream.sent

/-- Retention removes the oldest events, a cursor is asked for that has been given out, and no page is read from a log
that has been emptied of events that are still to be sent. -/
def StreamState.Retains (s : StreamState) : StreamAction → Prop
  | .prune kept => ∃ floor, ∀ row ∈ s.events.rows, kept row.cursor = decide (floor < row.cursor)
  | .check => ∀ stream, s.stream = some stream → stream.cursor ≤ s.events.sequence
  | .read => ∀ stream, s.stream = some stream → s.events.rows = [] → s.events.sequence ≤ stream.cursor
  | _ => True

abbrev RowsIncrease (rows : List StreamRow) : Prop := rows.Pairwise (fun row later => row.cursor < later.cursor)

variable {s : StreamState} {stream : EventStream} {cursor limit : ℕ} {page rest rows : List StreamRow}
  {row : StreamRow}

theorem RowsIncrease.cut (h : RowsIncrease rows) (n : ℕ) :
    rows = rows.filter (fun row => row.cursor ≤ n) ++ rows.filter (fun row => n < row.cursor) := by
  induction rows with
  | nil => rfl
  | cons row rest ih =>
    obtain ⟨hfirst, hrest⟩ := pairwise_cons.mp h
    by_cases hrow : row.cursor ≤ n
    · have hnot : ¬ n < row.cursor := by omega
      rw [filter_cons_of_pos (by simpa using hrow), filter_cons_of_neg (by simpa using hrow),
        cons_append]
      exact congrArg (row :: ·) (ih hrest)
    · have hall : ∀ later ∈ row :: rest, n < later.cursor := by
        intro later hlater
        rcases mem_cons.mp hlater with rfl | hmem
        · omega
        · have := hfirst later hmem
          omega
      have hnone : (row :: rest).filter (fun row => decide (row.cursor ≤ n)) = [] := by
        rw [filter_eq_nil_iff]
        intro later hlater
        have := hall later hlater
        simp only [decide_eq_true_eq]
        omega
      have hevery : (row :: rest).filter (fun row => decide (n < row.cursor)) = row :: rest := by
        rw [List.filter_eq_self]
        intro later hlater
        simpa using hall later hlater
      rw [hnone, hevery, nil_append]

/-- The next row behind a position. -/
theorem RowsIncrease.next {n : ℕ} (h : RowsIncrease rows)
    (hrest : rows.filter (fun row => n < row.cursor) = row :: rest) :
    rows.filter (fun later => row.cursor < later.cursor) = rest ∧
      rows.filter (fun earlier => earlier.cursor ≤ row.cursor) =
        rows.filter (fun earlier => earlier.cursor ≤ n) ++ [row] := by
  have hcut := h.cut n
  rw [hrest] at hcut
  have hsorted := h
  rw [hcut] at hsorted
  obtain ⟨_, htail, hbefore⟩ := pairwise_append.mp hsorted
  obtain ⟨hafter, _⟩ := pairwise_cons.mp htail
  have hnrow : n < row.cursor := by
    have hmem : row ∈ rows.filter (fun row => n < row.cursor) := by rw [hrest]; exact mem_cons_self
    simpa using (List.mem_filter.mp hmem).2
  have hearlier : ∀ earlier ∈ rows.filter (fun row => row.cursor ≤ n), earlier.cursor < row.cursor :=
    fun earlier hmem => hbefore earlier hmem row mem_cons_self
  constructor
  · calc rows.filter (fun later => row.cursor < later.cursor)
        = (rows.filter (fun row => row.cursor ≤ n) ++ row :: rest).filter
            (fun later => row.cursor < later.cursor) := by rw [← hcut]
      _ = rest := by
        rw [filter_append, filter_cons_of_neg (by simp)]
        have hnone : (rows.filter (fun row => row.cursor ≤ n)).filter
            (fun later => decide (row.cursor < later.cursor)) = [] := by
          rw [filter_eq_nil_iff]
          intro earlier hmem
          have := hearlier earlier hmem
          simp only [decide_eq_true_eq]
          omega
        rw [hnone, nil_append, List.filter_eq_self]
        intro later hmem
        simpa using hafter later hmem
  · calc rows.filter (fun earlier => earlier.cursor ≤ row.cursor)
        = (rows.filter (fun row => row.cursor ≤ n) ++ row :: rest).filter
            (fun earlier => earlier.cursor ≤ row.cursor) := by rw [← hcut]
      _ = rows.filter (fun earlier => earlier.cursor ≤ n) ++ [row] := by
        rw [filter_append, filter_cons_of_pos (by simp)]
        have hall : (rows.filter (fun row => row.cursor ≤ n)).filter
            (fun earlier => decide (earlier.cursor ≤ row.cursor)) = rows.filter (fun row => row.cursor ≤ n) := by
          rw [List.filter_eq_self]
          intro earlier hmem
          have := hearlier earlier hmem
          simp only [decide_eq_true_eq]
          omega
        have hnone : rest.filter (fun earlier => decide (earlier.cursor ≤ row.cursor)) = [] := by
          rw [filter_eq_nil_iff]
          intro later hmem
          have := hafter later hmem
          simp only [decide_eq_true_eq]
          omega
        rw [hall, hnone]

structure LogKept (s : StreamState) : Prop where
  increasing : RowsIncrease s.appended
  bounded : ∀ row ∈ s.appended, row.cursor ≤ s.events.sequence
  retained : ∃ floor, s.events.rows = s.appended.filter (fun row => floor < row.cursor)
  small : s.events.sequence < 2^63

def sentBetween (s : StreamState) (stream : EventStream) (cursor : ℕ) : List StreamRow :=
  (s.appended.filter (fun row => row.cursor ≤ cursor)).filter (fun row => stream.start < row.cursor &&
    row.event.visibleTo stream.actorId)

structure StreamKept (s : StreamState) (stream : EventStream) : Prop where
  start_le : stream.start ≤ stream.cursor
  started : stream.start ≤ stream.acceptedAt
  accepted_le : stream.acceptedAt ≤ s.events.sequence
  cursor_le : stream.cursor ≤ s.events.sequence
  read_le : stream.readAt ≤ s.events.sequence
  sent : stream.sent = sentBetween s stream stream.cursor
  page : ∀ page count, stream.phase = .sending page count →
    page <+: s.appended.filter (fun row => stream.cursor < row.cursor) ∧
      (count < eventPageLimit → ∀ row ∈ s.appended, stream.cursor < row.cursor → row.cursor ≤ stream.readAt →
        row ∈ page)
  idle : stream.phase = .idle → ∀ row ∈ s.appended, row.cursor ≤ stream.readAt → row.cursor ≤ stream.cursor

structure StreamInv (s : StreamState) : Prop where
  log : LogKept s
  opening : ∀ stream, s.stream = some stream → stream.sent <+: s.wanted stream
  checking : ∀ stream, s.stream = some stream → stream.phase = .checking →
    stream.sent = [] ∧ stream.cursor = stream.start ∧ stream.readAt = 0
  kept : ∀ stream, s.stream = some stream → stream.accepted = true → StreamKept s stream

theorem wanted_eq (h : stream.start ≤ stream.acceptedAt) :
    s.wanted stream = s.appended.filter (fun row => stream.start < row.cursor &&
      row.event.visibleTo stream.actorId) := by
  unfold StreamState.wanted
  congr 1
  funext row
  have hor : (decide (stream.start < row.cursor) || decide (stream.acceptedAt < row.cursor)) =
      decide (stream.start < row.cursor) := by
    rw [← Bool.decide_or, decide_eq_decide]
    omega
  rw [hor]

theorem sentBetween_opening (hlog : LogKept s) (h : stream.start ≤ stream.acceptedAt) (cursor : ℕ) :
    sentBetween s stream cursor <+: s.wanted stream := by
  rw [wanted_eq h]
  unfold sentBetween
  conv_rhs => rw [hlog.increasing.cut cursor]
  rw [filter_append]
  exact prefix_append _ _

theorem sentBetween_eq (h : stream.start ≤ stream.acceptedAt) (cursor : ℕ) :
    sentBetween s stream cursor = (s.wanted stream).filter (fun row => row.cursor ≤ cursor) := by
  rw [wanted_eq h]
  unfold sentBetween
  rw [List.filter_filter, List.filter_filter]
  congr 1
  funext row
  exact Bool.and_comm _ _

theorem StreamInv.complete (h : StreamInv s) (hstream : s.stream = some stream) : StreamComplete s stream := by
  constructor
  case exact =>
    intro haccepted
    have hkept := h.kept stream hstream haccepted
    rw [hkept.sent]
    exact sentBetween_eq hkept.started stream.cursor
  case opening => exact h.opening stream hstream
  case drained =>
    intro hidle row hrow hread
    have haccepted : stream.accepted = true := by unfold EventStream.accepted; rw [hidle]
    have hkept := h.kept stream hstream haccepted
    rw [hkept.sent, sentBetween_eq hkept.started]
    have hmem : row ∈ s.appended := (List.mem_filter.mp hrow).1
    exact List.mem_filter.mpr ⟨hrow, by simpa using hkept.idle hidle row hmem hread⟩

theorem eventsAfter_ok {events : StoredEvents} (h : events.eventsAfter cursor limit = .ok page) :
    page = (events.rows.filter (fun row => cursor < row.cursor)).take (min (max limit 1) 128) ∧
      ∀ row, events.rows.head? = some row → row.cursor ≤ cursor + 1 := by
  unfold StoredEvents.eventsAfter StoredEvents.earliestCursor at h
  split_ifs at h
  cases hhead : events.rows.head? with
  | none =>
    rw [hhead] at h
    exact ⟨(Except.ok.inj h).symm, fun row hrow => nomatch hrow⟩
  | some first =>
    rw [hhead] at h
    simp only [map_some] at h
    split_ifs at h with hexpired
    refine ⟨(Except.ok.inj h).symm, fun row hrow => ?_⟩
    rw [← Option.some.inj hrow]
    omega

theorem LogKept.after_eq (h : LogKept s) (hpage : s.events.eventsAfter cursor limit = .ok page)
    (hrows : s.events.rows = [] → s.events.sequence ≤ cursor) :
    s.events.rows.filter (fun row => cursor < row.cursor) = s.appended.filter (fun row => cursor < row.cursor) := by
  obtain ⟨floor, hfloor⟩ := h.retained
  cases hall : s.events.rows with
  | nil =>
    have hle := hrows hall
    symm
    rw [filter_nil, filter_eq_nil_iff]
    intro row hrow
    have := h.bounded row hrow
    simp only [decide_eq_true_eq]
    omega
  | cons first rest =>
    have hfirst := (eventsAfter_ok hpage).2 first (by rw [hall]; rfl)
    have hmem : first ∈ s.appended.filter (fun row => floor < row.cursor) := by
      rw [← hfloor, hall]
      exact mem_cons_self
    have hless : floor < first.cursor := by simpa using (List.mem_filter.mp hmem).2
    rw [← hall, hfloor, List.filter_filter]
    refine filter_congr (fun row _ => ?_)
    rw [← Bool.decide_and, decide_eq_decide]
    omega

theorem LogKept.append (h : LogKept s) {event : StreamEvent} (hsmall : s.events.sequence + 1 < 2^63) :
    LogKept { s with
      events := s.events.append event, appended := s.appended ++ [⟨s.events.sequence + 1, event⟩] } := by
  constructor
  case increasing =>
    refine pairwise_append.mpr ⟨h.increasing, pairwise_singleton _ _, fun row hrow last hlast => ?_⟩
    rw [mem_singleton.mp hlast]
    exact Nat.lt_succ_of_le (h.bounded row hrow)
  case bounded =>
    intro row hrow
    rcases mem_append.mp hrow with hold | hnew
    · exact Nat.le_succ_of_le (h.bounded row hold)
    · rw [mem_singleton.mp hnew]
      exact Nat.le_refl _
  case retained =>
    obtain ⟨floor, hfloor⟩ := h.retained
    refine ⟨min floor s.events.sequence, ?_⟩
    have hold : s.appended.filter (fun row => decide (min floor s.events.sequence < row.cursor)) = s.events.rows := by
      rw [hfloor]
      refine filter_congr (fun row hrow => ?_)
      have := h.bounded row hrow
      rw [decide_eq_decide]
      omega
    change s.events.rows ++ _ = (s.appended ++ _).filter _
    rw [filter_append, hold, filter_cons_of_pos (by simp), filter_nil]
  case small => exact hsmall

theorem LogKept.prune (h : LogKept s) {kept : ℕ → Bool} {floor : ℕ}
    (hkept : ∀ row ∈ s.events.rows, kept row.cursor = decide (floor < row.cursor)) :
    LogKept { s with events := s.events.prune kept } := by
  constructor
  case increasing => exact h.increasing
  case bounded => exact h.bounded
  case retained =>
    obtain ⟨before, hbefore⟩ := h.retained
    refine ⟨max before floor, ?_⟩
    change s.events.rows.filter (fun row => kept row.cursor) = _
    rw [filter_congr hkept, hbefore, List.filter_filter]
    refine filter_congr (fun row _ => ?_)
    rw [← Bool.decide_and, decide_eq_decide]
    omega
  case small => exact h.small

theorem StreamKept.append (h : StreamKept s stream) {event : StreamEvent} :
    StreamKept { s with
      events := s.events.append event, appended := s.appended ++ [⟨s.events.sequence + 1, event⟩] } stream := by
  constructor
  case start_le => exact h.start_le
  case started => exact h.started
  case accepted_le => exact Nat.le_succ_of_le h.accepted_le
  case cursor_le => exact Nat.le_succ_of_le h.cursor_le
  case read_le => exact Nat.le_succ_of_le h.read_le
  case sent =>
    have hlate : ¬ s.events.sequence + 1 ≤ stream.cursor := by
      have := h.cursor_le
      omega
    rw [h.sent]
    unfold sentBetween
    change _ = List.filter _ ((s.appended ++ _).filter _)
    rw [filter_append, filter_cons_of_neg (by simpa using hlate), filter_nil, append_nil]
  case page =>
    intro page count hphase
    obtain ⟨hopening, hcovers⟩ := h.page page count hphase
    refine ⟨?_, fun hcount row hrow hafter hread => ?_⟩
    · change page <+: (s.appended ++ _).filter _
      rw [filter_append]
      exact hopening.trans (prefix_append _ _)
    · rcases mem_append.mp hrow with hold | hnew
      · exact hcovers hcount row hold hafter hread
      · rw [mem_singleton.mp hnew] at hread
        have hlate : s.events.sequence + 1 ≤ stream.readAt := hread
        have := h.read_le
        omega
  case idle =>
    intro hphase row hrow hread
    rcases mem_append.mp hrow with hold | hnew
    · exact h.idle hphase row hold hread
    · rw [mem_singleton.mp hnew] at hread
      have hlate : s.events.sequence + 1 ≤ stream.readAt := hread
      have := h.read_le
      omega

theorem StreamKept.prune (h : StreamKept s stream) (kept : ℕ → Bool) :
    StreamKept { s with events := s.events.prune kept } stream :=
  ⟨h.start_le, h.started, h.accepted_le, h.cursor_le, h.read_le, h.sent, h.page, h.idle⟩

theorem StreamKept.turn (h : StreamKept s stream) {phase : StreamPhase}
    (hpage : ∀ page count, phase = .sending page count →
      page <+: s.appended.filter (fun row => stream.cursor < row.cursor) ∧
        (count < eventPageLimit → ∀ row ∈ s.appended, stream.cursor < row.cursor → row.cursor ≤ stream.readAt →
          row ∈ page))
    (hidle : phase = .idle → ∀ row ∈ s.appended, row.cursor ≤ stream.readAt → row.cursor ≤ stream.cursor) :
    StreamKept s { stream with phase := phase } :=
  ⟨h.start_le, h.started, h.accepted_le, h.cursor_le, h.read_le, h.sent, hpage, hidle⟩

theorem StreamInv.move (h : StreamInv s) {next : EventStream}
    (hchecking : next.phase = .checking → next.sent = [] ∧ next.cursor = next.start ∧ next.readAt = 0)
    (hkept : next.accepted = true → StreamKept s next)
    (hopening : next.accepted = false → next.sent <+: s.wanted next) :
    StreamInv { s with stream := some next } := by
  constructor
  case log => exact ⟨h.log.increasing, h.log.bounded, h.log.retained, h.log.small⟩
  case opening =>
    intro stream hstream
    obtain rfl := Option.some.inj hstream
    cases haccepted : next.accepted with
    | true =>
      have hstands := hkept haccepted
      rw [hstands.sent]
      exact sentBetween_opening h.log hstands.started _
    | false => exact hopening haccepted
  case checking =>
    intro stream hstream
    obtain rfl := Option.some.inj hstream
    exact hchecking
  case kept =>
    intro stream hstream haccepted
    obtain rfl := Option.some.inj hstream
    have hstands := hkept haccepted
    exact ⟨hstands.start_le, hstands.started, hstands.accepted_le, hstands.cursor_le, hstands.read_le, hstands.sent,
      hstands.page, hstands.idle⟩

theorem sentBetween_start (s : StreamState) (stream : EventStream) : sentBetween s stream stream.start = [] := by
  unfold sentBetween
  rw [List.filter_filter, filter_eq_nil_iff]
  intro row _ hrow
  simp only [Bool.and_eq_true, decide_eq_true_eq] at hrow
  omega

theorem latestCursor_le (h : LogKept s) : s.events.latestCursor.getD 0 ≤ s.events.sequence := by
  unfold StoredEvents.latestCursor
  cases hlast : s.events.rows.getLast? with
  | none => exact Nat.zero_le _
  | some row =>
    obtain ⟨floor, hfloor⟩ := h.retained
    have hmem : row ∈ s.events.rows := List.mem_of_getLast? hlast
    rw [hfloor] at hmem
    exact h.bounded row (List.mem_filter.mp hmem).1

theorem StreamInv.subscribe (h : StreamInv s) (actorId : String) (requested : Option ℕ) :
    StreamInv { s with stream := some (EventStream.subscribe s.events actorId requested) } := by
  refine h.move (fun _ => ⟨rfl, rfl, rfl⟩) (fun haccepted => ?_) (fun _ => nil_prefix)
  cases requested with
  | some cursor => cases haccepted
  | none =>
    have hlatest := latestCursor_le h.log
    constructor
    case start_le => exact Nat.le_refl _
    case started => exact hlatest
    case accepted_le => exact Nat.le_refl _
    case cursor_le => exact hlatest
    case read_le => exact Nat.zero_le _
    case sent => exact (sentBetween_start s (EventStream.subscribe s.events actorId none)).symm
    case page => intro page count hphase; cases hphase
    case idle => intro hphase; cases hphase

theorem StreamInv.check (h : StreamInv s) {next : EventStream} (hstream : s.stream = some stream)
    (hcursor : stream.cursor ≤ s.events.sequence) (hcheck : stream.check s.events = some next) :
    StreamInv { s with stream := some next } := by
  unfold EventStream.check at hcheck
  cases hphase : stream.phase with
  | checking =>
    rw [hphase] at hcheck
    obtain ⟨hsent, hstart, hread⟩ := h.checking stream hstream hphase
    cases hpage : s.events.eventsAfter stream.cursor 1 with
    | error error =>
      rw [hpage] at hcheck
      cases hcheck
      refine h.move (fun hchecking => nomatch hchecking) (fun haccepted => nomatch haccepted) (fun _ => ?_)
      dsimp only
      rw [hsent]
      exact nil_prefix
    | ok page =>
      rw [hpage] at hcheck
      cases hcheck
      refine h.move (fun hchecking => nomatch hchecking) (fun _ => ?_) (fun haccepted => nomatch haccepted)
      constructor
      case start_le => exact Nat.le_of_eq hstart.symm
      case started => exact hstart ▸ hcursor
      case accepted_le => exact Nat.le_refl _
      case cursor_le => exact hcursor
      case read_le => dsimp only; rw [hread]; exact Nat.zero_le _
      case sent =>
        dsimp only
        rw [hsent, hstart]
        exact (sentBetween_start s _).symm
      case page => intro page count hphase; cases hphase
      case idle => intro hphase; cases hphase
  | _ => rw [hphase] at hcheck; cases hcheck

/-- A page starts right behind the cursor. -/
theorem StreamInv.read (h : StreamInv s) {next : EventStream} (hstream : s.stream = some stream)
    (hrows : s.events.rows = [] → s.events.sequence ≤ stream.cursor) (hread : stream.read s.events = some next) :
    StreamInv { s with stream := some next } := by
  unfold EventStream.read at hread
  cases hphase : stream.phase with
  | reading =>
    rw [hphase] at hread
    have hkept := h.kept stream hstream (by unfold EventStream.accepted; rw [hphase])
    cases hpage : s.events.eventsAfter stream.cursor eventPageLimit with
    | error error =>
      rw [hpage] at hread
      cases hread
      refine h.move (fun hchecking => nomatch hchecking) (fun _ => ?_) (fun haccepted => nomatch haccepted)
      exact hkept.turn (fun page count hsending => nomatch hsending) (fun hidle => nomatch hidle)
    | ok page =>
      rw [hpage] at hread
      cases hread
      have hpageEq := (eventsAfter_ok hpage).1
      rw [h.log.after_eq hpage hrows] at hpageEq
      have hlimit : min (max eventPageLimit 1) 128 = eventPageLimit := by decide
      rw [hlimit] at hpageEq
      refine h.move (fun hchecking => nomatch hchecking) (fun _ => ?_) (fun haccepted => nomatch haccepted)
      constructor
      case start_le => exact hkept.start_le
      case started => exact hkept.started
      case accepted_le => exact hkept.accepted_le
      case cursor_le => exact hkept.cursor_le
      case read_le => exact Nat.le_refl _
      case sent => exact hkept.sent
      case page =>
        intro page' count hsending
        obtain ⟨rfl, rfl⟩ := StreamPhase.sending.inj hsending
        refine ⟨by rw [hpageEq]; exact take_prefix _ _, fun hcount row hrow hafter _ => ?_⟩
        -- a page that is not full has everything
        have hall : page = s.appended.filter (fun row => stream.cursor < row.cursor) := by
          rw [hpageEq, length_take] at hcount
          rw [hpageEq, take_of_length_le (by omega)]
        rw [hall]
        exact List.mem_filter.mpr ⟨hrow, by simpa using hafter⟩
      case idle => intro hidle; cases hidle
  | _ => rw [hphase] at hread; cases hread

theorem StreamKept.advance (hlog : LogKept s) (h : StreamKept s stream) {count : ℕ}
    (hphase : stream.phase = .sending (row :: rest) count) {sent : List StreamRow}
    (hsent : sent = stream.sent ++ if row.event.visibleTo stream.actorId then [row] else []) :
    StreamKept s { stream with cursor := row.cursor, sent := sent, phase := .sending rest count } := by
  obtain ⟨hopening, hcovers⟩ := h.page (row :: rest) count hphase
  obtain ⟨later, hlater⟩ := hopening
  obtain ⟨hafter, hupTo⟩ := hlog.increasing.next hlater.symm
  have hmem : row ∈ s.appended.filter (fun row => stream.cursor < row.cursor) := by
    rw [← hlater]
    exact mem_append_left _ mem_cons_self
  have hless : stream.cursor < row.cursor := by simpa using (List.mem_filter.mp hmem).2
  have hstart := h.start_le
  constructor
  case start_le => exact Nat.le_trans hstart (Nat.le_of_lt hless)
  case started => exact h.started
  case accepted_le => exact h.accepted_le
  case cursor_le => exact hlog.bounded row (List.mem_filter.mp hmem).1
  case read_le => exact h.read_le
  case sent =>
    dsimp only
    rw [hsent, h.sent]
    unfold sentBetween
    dsimp only
    rw [hupTo, filter_append]
    congr 1
    have hstarted : decide (stream.start < row.cursor) = true := by
      rw [decide_eq_true_eq]
      omega
    rw [filter_cons, hstarted, Bool.true_and, filter_nil]
  case page =>
    intro page count' hsending
    obtain ⟨rfl, rfl⟩ := StreamPhase.sending.inj hsending
    refine ⟨by dsimp only; rw [hafter]; exact prefix_append _ _, fun hcount other hother hlate hread => ?_⟩
    have hbefore : row.cursor < other.cursor := hlate
    rcases mem_cons.mp (hcovers hcount other hother (Nat.lt_trans hless hlate) hread) with rfl | hrest
    · exact absurd hbefore (Nat.lt_irrefl _)
    · exact hrest
  case idle => intro hidle; cases hidle

/-- Sending keeps the order and leaves nothing out. -/
theorem StreamInv.send (h : StreamInv s) {next : EventStream} (hstream : s.stream = some stream) {delivered : Bool}
    (hsend : stream.send delivered = some next) :
    StreamInv { s with stream := some next } := by
  unfold EventStream.send at hsend
  cases hphase : stream.phase with
  | sending page count =>
    rw [hphase] at hsend
    have hkept := h.kept stream hstream (by unfold EventStream.accepted; rw [hphase])
    cases page with
    | nil =>
      dsimp only at hsend
      cases hsend
      refine h.move ?_ (fun _ => ?_) ?_
      · intro hchecking
        dsimp only at hchecking
        split_ifs at hchecking
      · apply hkept.turn
        case hpage =>
          intro page' count' hsending
          split_ifs at hsending
        case hidle =>
          intro hidle row hrow hread
          split_ifs at hidle with hcount
          -- a page that was not full held every row up to the reading
          by_contra hlate
          have hmem := (hkept.page [] count hphase).2 hcount row hrow (Nat.not_le.mp hlate) hread
          cases hmem
      · intro haccepted
        unfold EventStream.accepted at haccepted
        dsimp only at haccepted
        split_ifs at haccepted
    | cons row rest =>
      dsimp only at hsend
      split_ifs at hsend with hvisible hdelivered
      · cases hsend
        refine h.move (fun hchecking => nomatch hchecking) (fun _ => ?_) (fun haccepted => nomatch haccepted)
        exact hkept.advance h.log hphase (by rw [if_pos hvisible])
      · cases hsend
        exact h.move (fun hchecking => nomatch hchecking) (fun haccepted => nomatch haccepted)
          (fun _ => h.opening stream hstream)
      · cases hsend
        refine h.move (fun hchecking => nomatch hchecking) (fun _ => ?_) (fun haccepted => nomatch haccepted)
        exact hkept.advance h.log hphase (by rw [if_neg hvisible, append_nil])
  | _ => rw [hphase] at hsend; cases hsend

theorem StreamInv.wake (h : StreamInv s) {next : EventStream} (hstream : s.stream = some stream)
    (hwake : stream.wake = some next) :
    StreamInv { s with stream := some next } := by
  unfold EventStream.wake at hwake
  cases hphase : stream.phase with
  | idle =>
    rw [hphase] at hwake
    cases hwake
    have hkept := h.kept stream hstream (by unfold EventStream.accepted; rw [hphase])
    refine h.move (fun hchecking => nomatch hchecking) (fun _ => ?_) (fun haccepted => nomatch haccepted)
    exact hkept.turn (fun page count hsending => nomatch hsending) (fun hidle => nomatch hidle)
  | _ => rw [hphase] at hwake; cases hwake

/-- By the kind of action: the log, a subscription, or what it reads and sends. -/
theorem StreamInv.step {s' : StreamState} {action : StreamAction} (h : StreamInv s) (hretains : s.Retains action)
    (hact : s.act action = some s') : StreamInv s' := by
  cases action with
  | append event =>
    unfold StreamState.act at hact
    dsimp only at hact
    split_ifs at hact with hsmall
    cases hact
    constructor
    case log => exact h.log.append hsmall
    case opening =>
      intro stream hstream
      refine (h.opening stream hstream).trans ?_
      change _ <+: (s.appended ++ _).filter _
      rw [filter_append]
      exact prefix_append _ _
    case checking => exact h.checking
    case kept => exact fun stream hstream haccepted => (h.kept stream hstream haccepted).append
  | prune kept =>
    cases hact
    obtain ⟨floor, hfloor⟩ := hretains
    constructor
    case log => exact h.log.prune hfloor
    case opening => exact h.opening
    case checking => exact h.checking
    case kept => exact fun stream hstream haccepted => (h.kept stream hstream haccepted).prune kept
  | subscribe actorId requested =>
    unfold StreamState.act at hact
    dsimp only at hact
    split_ifs at hact
    cases hact
    exact h.subscribe actorId requested
  | check =>
    obtain ⟨stream, hstream, hnext⟩ := bind_eq_some_iff.mp hact
    obtain ⟨next, hcheck, rfl⟩ := map_eq_some_iff.mp hnext
    exact h.check hstream (hretains stream hstream) hcheck
  | read =>
    obtain ⟨stream, hstream, hnext⟩ := bind_eq_some_iff.mp hact
    obtain ⟨next, hread, rfl⟩ := map_eq_some_iff.mp hnext
    exact h.read hstream (hretains stream hstream) hread
  | send delivered =>
    obtain ⟨stream, hstream, hnext⟩ := bind_eq_some_iff.mp hact
    obtain ⟨next, hsend, rfl⟩ := map_eq_some_iff.mp hnext
    exact h.send hstream hsend
  | wake =>
    obtain ⟨stream, hstream, hnext⟩ := bind_eq_some_iff.mp hact
    obtain ⟨next, hwake, rfl⟩ := map_eq_some_iff.mp hnext
    exact h.wake hstream hwake
  | disconnect =>
    obtain ⟨stream, hstream, rfl⟩ := map_eq_some_iff.mp hact
    exact h.move (fun hchecking => nomatch hchecking) (fun haccepted => nomatch haccepted)
      (fun _ => h.opening stream hstream)

/-- In every run that retains what is still to be sent, the stream is complete in every state. -/
theorem event_stream_complete {s : StreamState} (h : StreamState.Run StreamState.Retains s) {stream : EventStream}
    (hstream : s.stream = some stream) : StreamComplete s stream := by
  have hinv : StreamInv s := by
    clear hstream
    induction h with
    | start =>
      constructor
      case log => exact ⟨List.Pairwise.nil, fun _ hrow => (nomatch hrow), ⟨0, rfl⟩, by decide⟩
      case opening => intro stream hstream; cases hstream
      case checking => intro stream hstream; cases hstream
      case kept => intro stream hstream; cases hstream
    | step _ hretains hact ih => exact ih.step hretains hact
  exact hinv.complete hstream

def deviceFact : StreamEvent := ⟨"first", .other, none⟩

def replayed : EventStream := ⟨"owner", 0, 2, .idle, [⟨1, deviceFact⟩, ⟨2, deviceFact⟩], 1, 2⟩

theorem replayed_complete : StreamComplete ⟨⟨[⟨2, deviceFact⟩], 2⟩, [⟨1, deviceFact⟩, ⟨2, deviceFact⟩], some replayed⟩
    replayed := by
  let row : StreamRow := ⟨1, deviceFact⟩
  let row' : StreamRow := ⟨2, deviceFact⟩
  have hread : ∀ (s : StreamState) (stream : EventStream), s.stream = some stream → s.events.rows ≠ [] →
      s.Retains .read := fun _ _ _ hrows _ _ hempty => absurd hempty hrows
  have h0 : StreamState.Run StreamState.Retains .empty := .start
  have h1 : StreamState.Run StreamState.Retains ⟨⟨[row], 1⟩, [row], none⟩ :=
    h0.step (show StreamState.Retains _ (.append deviceFact) from trivial) rfl
  have h2 : StreamState.Run StreamState.Retains
      ⟨⟨[row], 1⟩, [row], some ⟨"owner", 0, 0, .checking, [], 1, 0⟩⟩ :=
    h1.step (show StreamState.Retains _ (.subscribe "owner" (some 0)) from trivial) rfl
  have h3 : StreamState.Run StreamState.Retains
      ⟨⟨[row], 1⟩, [row], some ⟨"owner", 0, 0, .reading, [], 1, 0⟩⟩ :=
    h2.step (show StreamState.Retains _ .check from fun stream hstream => by
      rw [← Option.some.inj hstream]; exact Nat.zero_le _) rfl
  have h4 : StreamState.Run StreamState.Retains
      ⟨⟨[row], 1⟩, [row], some ⟨"owner", 0, 0, .sending [row] 1, [], 1, 1⟩⟩ :=
    h3.step (hread _ _ rfl (List.cons_ne_nil _ _)) rfl
  have h5 : StreamState.Run StreamState.Retains
      ⟨⟨[row], 1⟩, [row], some ⟨"owner", 0, 1, .sending [] 1, [row], 1, 1⟩⟩ :=
    h4.step (show StreamState.Retains _ (.send true) from trivial) rfl
  have h6 : StreamState.Run StreamState.Retains
      ⟨⟨[row], 1⟩, [row], some ⟨"owner", 0, 1, .idle, [row], 1, 1⟩⟩ :=
    h5.step (show StreamState.Retains _ (.send true) from trivial) rfl
  have h7 : StreamState.Run StreamState.Retains ⟨⟨[], 1⟩, [row], some ⟨"owner", 0, 1, .idle, [row], 1, 1⟩⟩ :=
    h6.step (show StreamState.Retains _ (.prune (fun cursor => decide (1 < cursor))) from ⟨1, fun _ _ => rfl⟩) rfl
  have h8 : StreamState.Run StreamState.Retains
      ⟨⟨[row'], 2⟩, [row, row'], some ⟨"owner", 0, 1, .idle, [row], 1, 1⟩⟩ :=
    h7.step (show StreamState.Retains _ (.append deviceFact) from trivial) rfl
  have h9 : StreamState.Run StreamState.Retains
      ⟨⟨[row'], 2⟩, [row, row'], some ⟨"owner", 0, 1, .reading, [row], 1, 1⟩⟩ :=
    h8.step (show StreamState.Retains _ .wake from trivial) rfl
  have h10 : StreamState.Run StreamState.Retains
      ⟨⟨[row'], 2⟩, [row, row'], some ⟨"owner", 0, 1, .sending [row'] 1, [row], 1, 2⟩⟩ :=
    h9.step (hread _ _ rfl (List.cons_ne_nil _ _)) rfl
  have h11 : StreamState.Run StreamState.Retains
      ⟨⟨[row'], 2⟩, [row, row'], some ⟨"owner", 0, 2, .sending [] 1, [row, row'], 1, 2⟩⟩ :=
    h10.step (show StreamState.Retains _ (.send true) from trivial) rfl
  have h12 : StreamState.Run StreamState.Retains ⟨⟨[row'], 2⟩, [row, row'], some replayed⟩ :=
    h11.step (show StreamState.Retains _ (.send true) from trivial) rfl
  exact event_stream_complete h12 rfl

/-- A cursor that has not been given out yet is accepted, and the event that gets it is never sent. -/
theorem future_cursor_skips : ¬ ∀ (s : StreamState) (stream : EventStream), StreamState.Run (fun _ _ => True) s →
    s.stream = some stream → StreamComplete s stream := by
  intro hall
  let row : StreamRow := ⟨1, deviceFact⟩
  have h0 : StreamState.Run (fun _ _ => True) .empty := .start
  have h1 : StreamState.Run (fun _ _ => True) ⟨⟨[], 0⟩, [], some ⟨"owner", 1, 1, .checking, [], 0, 0⟩⟩ :=
    h0.step trivial (show StreamState.act _ (.subscribe "owner" (some 1)) = _ from rfl)
  have h2 : StreamState.Run (fun _ _ => True) ⟨⟨[], 0⟩, [], some ⟨"owner", 1, 1, .reading, [], 0, 0⟩⟩ :=
    h1.step trivial (show StreamState.act _ .check = _ from rfl)
  have h3 : StreamState.Run (fun _ _ => True) ⟨⟨[row], 1⟩, [row], some ⟨"owner", 1, 1, .reading, [], 0, 0⟩⟩ :=
    h2.step trivial (show StreamState.act _ (.append deviceFact) = _ from rfl)
  have h4 : StreamState.Run (fun _ _ => True) ⟨⟨[row], 1⟩, [row], some ⟨"owner", 1, 1, .sending [] 0, [], 0, 1⟩⟩ :=
    h3.step trivial (show StreamState.act _ .read = _ from rfl)
  have h5 : StreamState.Run (fun _ _ => True) ⟨⟨[row], 1⟩, [row], some ⟨"owner", 1, 1, .idle, [], 0, 1⟩⟩ :=
    h4.step trivial (show StreamState.act _ (.send true) = _ from rfl)
  have hwanted := (hall _ _ h5 rfl).drained rfl row (by decide +kernel) (by decide)
  cases hwanted

end HomeMagic
