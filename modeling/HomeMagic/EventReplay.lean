import HomeMagic.FoundationStore
import HomeMagic.ObjectText

/-! The replay filter of a Shelly session: a window of the fingerprints of the newest events, held as a queue and as a
set. -/
namespace HomeMagic
open List

structure ShellyEvent where
  component : String
  event : String
  timestamp : ℚ
  data : List (String × JsonValue)
  deriving DecidableEq

structure EventTexts where
  timestampText : ℚ → String
  dataText : List (String × JsonValue) → String

structure EventDeduplicator where
  capacity : ℕ
  order : List String
  fingerprints : Finset String

def defaultEventWindow : ℕ := 256

section
variable (texts : EventTexts)
variable {capacity : ℕ} {filter : EventDeduplicator} {events : List ShellyEvent}

def eventFingerprint (event : ShellyEvent) : String :=
  event.component ++ ":" ++ event.event ++ ":" ++ texts.timestampText event.timestamp ++ ":" ++
    texts.dataText event.data

namespace EventDeduplicator

def new (capacity : ℕ) : EventDeduplicator := ⟨max capacity 1, [], ∅⟩

def evict (capacity : ℕ) : List String → Finset String → List String × Finset String
  | [], fingerprints => ([], fingerprints)
  | expired :: rest, fingerprints =>
    if capacity < rest.length + 1 then evict capacity rest (fingerprints.erase expired)
    else (expired :: rest, fingerprints)

def accept (filter : EventDeduplicator) (event : ShellyEvent) : EventDeduplicator × Bool :=
  let fingerprint := eventFingerprint texts event
  if fingerprint ∈ filter.fingerprints then (filter, false)
  else
    let kept := evict filter.capacity (filter.order ++ [fingerprint]) (insert fingerprint filter.fingerprints)
    ({ filter with order := kept.1, fingerprints := kept.2 }, true)

def acceptAll (filter : EventDeduplicator) (events : List ShellyEvent) : EventDeduplicator × List ShellyEvent :=
  events.foldl (fun (filter, accepted) event =>
    ((filter.accept texts event).1, if (filter.accept texts event).2 then accepted ++ [event] else accepted))
    (filter, [])

end EventDeduplicator

def newestEvents (capacity : ℕ) (accepted : List ShellyEvent) : List ShellyEvent :=
  accepted.drop (accepted.length - capacity)

structure WindowKept (capacity : ℕ) (filter : EventDeduplicator) (accepted : List ShellyEvent) : Prop where
  size : filter.capacity = capacity
  order : filter.order = (newestEvents capacity accepted).map (eventFingerprint texts)
  fingerprints : filter.fingerprints = filter.order.toFinset
  nodup : filter.order.Nodup

theorem newestEvents_length (capacity : ℕ) (accepted : List ShellyEvent) :
    (newestEvents capacity accepted).length ≤ capacity := by
  unfold newestEvents
  rw [length_drop]
  omega

theorem newestEvents_append (capacity : ℕ) (accepted : List ShellyEvent) (event : ShellyEvent) (h : 1 ≤ capacity) :
    newestEvents capacity (accepted ++ [event]) =
      (newestEvents capacity accepted ++ [event]).drop ((newestEvents capacity accepted).length + 1 - capacity) := by
  unfold newestEvents
  rw [length_append, length_singleton, length_drop]
  by_cases hfull : capacity ≤ accepted.length
  · have hsplit : accepted.length + 1 - capacity = (accepted.length - capacity) + 1 := by omega
    have hone : accepted.length - (accepted.length - capacity) + 1 - capacity = 1 := by omega
    rw [hsplit, hone, ← drop_append_of_le_length (by omega), drop_drop]
  · have hzero : accepted.length + 1 - capacity = 0 := by omega
    have hzero' : accepted.length - capacity = 0 := by omega
    have hzero'' : accepted.length - 0 + 1 - capacity = 0 := by omega
    rw [hzero, hzero', hzero'']
    rfl

theorem evict_eq {order : List String} (h : order.length ≤ capacity + 1) (hnodup : order.Nodup) :
    EventDeduplicator.evict capacity order order.toFinset =
      (order.drop (order.length - capacity), (order.drop (order.length - capacity)).toFinset) := by
  cases order with
  | nil => simp [EventDeduplicator.evict]
  | cons expired rest =>
    obtain ⟨hnot, _⟩ := nodup_cons.mp hnodup
    rw [length_cons] at h ⊢
    unfold EventDeduplicator.evict
    split_ifs with hfull
    · have hone : rest.length + 1 - capacity = 1 := by omega
      have herase : (expired :: rest).toFinset.erase expired = rest.toFinset := by
        rw [toFinset_cons, Finset.erase_insert (by rwa [List.mem_toFinset])]
      rw [hone, herase, drop_one, tail_cons]
      cases rest with
      | nil => simp [EventDeduplicator.evict]
      | cons second rest =>
        unfold EventDeduplicator.evict
        rw [if_neg (by rw [length_cons] at h; omega)]
    · have hzero : rest.length + 1 - capacity = 0 := by omega
      rw [hzero, drop_zero]

/-- What the filter lets through enters the window, and the oldest goes. -/
theorem WindowKept.accept {accepted : List ShellyEvent} (h : WindowKept texts capacity filter accepted)
    (hcapacity : 1 ≤ capacity) (event : ShellyEvent) :
    ((filter.accept texts event).2 = false ↔
      eventFingerprint texts event ∈ (newestEvents capacity accepted).map (eventFingerprint texts)) ∧
    WindowKept texts capacity (filter.accept texts event).1
      (if (filter.accept texts event).2 then accepted ++ [event] else accepted) := by
  have hmem : eventFingerprint texts event ∈ filter.fingerprints ↔
      eventFingerprint texts event ∈ (newestEvents capacity accepted).map (eventFingerprint texts) := by
    rw [h.fingerprints, List.mem_toFinset, h.order]
  unfold EventDeduplicator.accept
  by_cases hseen : eventFingerprint texts event ∈ filter.fingerprints
  · simp only [if_pos hseen]
    exact ⟨⟨fun _ => hmem.mp hseen, fun _ => trivial⟩, h⟩
  · have hnew : eventFingerprint texts event ∉ filter.order := by
      rw [h.fingerprints, List.mem_toFinset] at hseen
      exact hseen
    have hnodup : (filter.order ++ [eventFingerprint texts event]).Nodup :=
      nodup_append.mpr ⟨h.nodup, nodup_singleton _, fun a ha b hb hab =>
        hnew (by rw [← mem_singleton.mp hb, ← hab]; exact ha)⟩
    have hset : insert (eventFingerprint texts event) filter.fingerprints =
        (filter.order ++ [eventFingerprint texts event]).toFinset := by
      ext fingerprint
      rw [h.fingerprints, Finset.mem_insert, List.mem_toFinset, List.mem_toFinset, mem_append,
        mem_singleton, or_comm]
    have hlength : (filter.order ++ [eventFingerprint texts event]).length ≤ capacity + 1 := by
      rw [length_append, length_singleton, h.order, length_map]
      have := newestEvents_length capacity accepted
      omega
    have hkept := evict_eq hlength hnodup
    simp only [if_neg hseen]
    rw [hset, h.size, hkept]
    refine ⟨⟨fun hfalse => (nomatch hfalse), fun hin => absurd (hmem.mpr hin) hseen⟩, ?_⟩
    constructor
    case size => rfl
    case order =>
      have hlast : (filter.order ++ [eventFingerprint texts event]) =
          (newestEvents capacity accepted ++ [event]).map (eventFingerprint texts) := by
        rw [h.order, map_append]; rfl
      simp only [if_true]
      rw [newestEvents_append capacity accepted event hcapacity, map_drop, ← hlast, length_append,
        length_singleton, h.order, length_map]
    case fingerprints => rfl
    case nodup => exact hnodup.sublist (drop_sublist _ _)

theorem windowKept_run (h : WindowKept texts capacity filter []) (hcapacity : 1 ≤ capacity)
    (events : List ShellyEvent) :
    WindowKept texts capacity (filter.acceptAll texts events).1 (filter.acceptAll texts events).2 := by
  induction events using List.reverseRecOn with
  | nil => exact h
  | append_singleton earlier event ih =>
    unfold EventDeduplicator.acceptAll at ih ⊢
    rw [foldl_append]
    exact (ih.accept texts hcapacity event).2

theorem mem_of_accepted {event : ShellyEvent} (h : event ∈ (filter.acceptAll texts events).2) : event ∈ events := by
  induction events using List.reverseRecOn with
  | nil => cases h
  | append_singleton earlier last ih =>
    unfold EventDeduplicator.acceptAll at ih h
    rw [foldl_append] at h
    simp only [foldl_cons, foldl_nil] at h
    split_ifs at h
    · rcases mem_append.mp h with hearlier | hlast
      · exact mem_append_left _ (ih hearlier)
      · exact mem_append_right _ hlast
    · exact mem_append_left _ (ih h)

/-- What is known of the texts of some events: timestamps and data are printed injectively, timestamps without a
colon, and data as a JSON object. -/
structure EventTexts.Prints (events : List ShellyEvent) : Prop where
  timestamps : ∀ e ∈ events, ∀ e' ∈ events,
    texts.timestampText e.timestamp = texts.timestampText e'.timestamp → e.timestamp = e'.timestamp
  plain : ∀ e ∈ events, ':' ∉ (texts.timestampText e.timestamp).toList
  data : ∀ e ∈ events, ∀ e' ∈ events, texts.dataText e.data = texts.dataText e'.data → e.data = e'.data
  objects : ∀ e ∈ events, ObjectText (texts.dataText e.data).toList

def ShellyEvent.sourceText (event : ShellyEvent) : String := event.component ++ ":" ++ event.event

theorem eventFingerprint_eq_iff (h : texts.Prints events) {e e' : ShellyEvent} (he : e ∈ events) (he' : e' ∈ events) :
    eventFingerprint texts e = eventFingerprint texts e' ↔
      e.sourceText = e'.sourceText ∧ e.timestamp = e'.timestamp ∧ e.data = e'.data := by
  have hsplit : ∀ event : ShellyEvent, (eventFingerprint texts event).toList =
      (event.sourceText.toList ++ ':' :: (texts.timestampText event.timestamp).toList) ++
        ':' :: (texts.dataText event.data).toList := by
    intro event
    simp [eventFingerprint, ShellyEvent.sourceText]
  constructor
  · intro heq
    have hlists := congrArg String.toList heq
    rw [hsplit e, hsplit e'] at hlists
    have hdata : (texts.dataText e.data).toList = (texts.dataText e'.data).toList := by
      have hend : ∀ front text : List Char, text <:+ front ++ ':' :: text :=
        fun front text => ⟨front ++ [':'], by simp⟩
      have hends := hend (e.sourceText.toList ++ ':' :: (texts.timestampText e.timestamp).toList)
        (texts.dataText e.data).toList
      rw [hlists] at hends
      -- one of the two texts ends with the other
      rcases suffix_or_suffix_of_suffix hends (hend _ _) with hsuffix | hsuffix
      · exact (h.objects e he).suffix_eq (h.objects e' he') hsuffix
      · exact ((h.objects e' he').suffix_eq (h.objects e he) hsuffix).symm
    rw [hdata, append_cancel_right_eq] at hlists
    obtain ⟨hsource, htimestamp⟩ := append_cons_inj_of_notMem_right (h.plain e he) (h.plain e' he') hlists
    exact ⟨String.toList_inj.mp hsource, h.timestamps e he e' he' (String.toList_inj.mp htimestamp),
      h.data e he e' he' (String.toList_inj.mp hdata)⟩
  · rintro ⟨hsource, htimestamp, hdata⟩
    unfold ShellyEvent.sourceText at hsource
    unfold eventFingerprint
    rw [hsource, htimestamp, hdata]

/-- An exact replay filter over a sequence of events: what it refuses is what it has let through lately. -/
structure FiltersExactly (capacity : ℕ) (events : List ShellyEvent) : Prop where
  refuses : ∀ earlier event later, events = earlier ++ event :: later →
    ((((EventDeduplicator.new capacity).acceptAll texts earlier).1.accept texts event).2 = false ↔
      event ∈ newestEvents (max capacity 1) ((EventDeduplicator.new capacity).acceptAll texts earlier).2)
  collections : ∀ earlier later, events = earlier ++ later →
    ∀ filter, filter = ((EventDeduplicator.new capacity).acceptAll texts earlier).1 →
      (∀ fingerprint, fingerprint ∈ filter.fingerprints ↔ fingerprint ∈ filter.order) ∧ filter.order.Nodup ∧
        filter.order.length ≤ max capacity 1 ∧ filter.capacity = max capacity 1
  distinct : ∀ e ∈ events, ∀ e' ∈ events, e ≠ e' → eventFingerprint texts e ≠ eventFingerprint texts e'

/-- The filter is exact over a sequence of events exactly if no two of them, alike in timestamp and data, put their
colons so that component and event name run together to the same text. -/
theorem filters_exactly_iff (capacity : ℕ) (events : List ShellyEvent) (hprints : texts.Prints events) :
    FiltersExactly texts capacity events ↔ ∀ e ∈ events, ∀ e' ∈ events, e.timestamp = e'.timestamp →
      e.data = e'.data → e.sourceText = e'.sourceText → e.component = e'.component := by
  constructor
  · intro h e he e' he' htimestamp hdata hsource
    by_contra hcomponent
    have hne : e ≠ e' := fun heq => hcomponent (congrArg ShellyEvent.component heq)
    exact h.distinct e he e' he' hne ((eventFingerprint_eq_iff texts hprints he he').mpr ⟨hsource, htimestamp, hdata⟩)
  · intro h
    have hinjective : ∀ e ∈ events, ∀ e' ∈ events, eventFingerprint texts e = eventFingerprint texts e' → e = e' := by
      intro e he e' he' hfingerprint
      obtain ⟨hsource, htimestamp, hdata⟩ := (eventFingerprint_eq_iff texts hprints he he').mp hfingerprint
      have hcomponent := h e he e' he' htimestamp hdata hsource
      have hevent : e.event = e'.event := by
        have hlists := congrArg String.toList hsource
        unfold ShellyEvent.sourceText at hlists
        simp only [hcomponent, String.toList_append, List.append_cancel_left_eq] at hlists
        exact String.toList_inj.mp hlists
      cases e
      cases e'
      simp_all
    have hwindow : ∀ earlier, WindowKept texts (max capacity 1)
        ((EventDeduplicator.new capacity).acceptAll texts earlier).1
        ((EventDeduplicator.new capacity).acceptAll texts earlier).2 :=
      windowKept_run texts ⟨rfl, by simp [newestEvents, EventDeduplicator.new], rfl, List.nodup_nil⟩ (le_max_right _ _)
    constructor
    case refuses =>
      rintro earlier event later rfl
      rw [((hwindow earlier).accept texts (le_max_right _ _) event).1, List.mem_map]
      constructor
      · rintro ⟨accepted, haccepted, hfingerprint⟩
        have hcame := mem_of_accepted texts (List.mem_of_mem_drop haccepted)
        have heq := hinjective accepted (List.mem_append_left _ hcame) event
          (List.mem_append_right _ List.mem_cons_self) hfingerprint
        rwa [heq] at haccepted
      · exact fun hin => ⟨event, hin, rfl⟩
    case collections =>
      rintro earlier later rfl filter rfl
      have hkept := hwindow earlier
      refine ⟨fun fingerprint => ?_, hkept.nodup, ?_, hkept.size⟩
      · rw [hkept.fingerprints, List.mem_toFinset]
      · rw [hkept.order, List.length_map]
        exact newestEvents_length _ _
    case distinct => exact fun e he e' he' hne hfingerprint => hne (hinjective e he e' he' hfingerprint)

end

def plainTexts : EventTexts := ⟨fun _ => "1", fun _ => "\x7b\x7d"⟩

def shortPush : ShellyEvent := ⟨"input:0", "single_push", 1, []⟩

def longPush : ShellyEvent := ⟨"input:0", "long_push", 1, []⟩

theorem filters_exactly_pushes : FiltersExactly plainTexts defaultEventWindow [shortPush, longPush, shortPush] := by
  refine (filters_exactly_iff plainTexts defaultEventWindow [shortPush, longPush, shortPush] ?_).mpr (by decide +kernel)
  have hobject : ObjectText "\x7b\x7d".toList := ⟨['}'], by decide +kernel, rfl⟩
  exact ⟨by decide +kernel, by decide +kernel, by decide +kernel, fun _ _ => hobject⟩

def shiftedPush : ShellyEvent := ⟨"input", "0:single_push", 1, []⟩

/-- It is taken for the first one. -/
theorem shifted_push_dropped : ¬ FiltersExactly plainTexts defaultEventWindow [shortPush, shiftedPush] := by
  intro h
  exact h.distinct shortPush (by simp) shiftedPush (by simp) (by decide +kernel) (by decide +kernel)

end HomeMagic
