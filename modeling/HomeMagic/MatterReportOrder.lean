import HomeMagic.MatterProjection

/-! Streams of attribute reports: which of them move a projected state, and where a stream of one source ends
however it is delivered. -/
namespace HomeMagic
open List Option

structure MatterDelivery where
  report : MatterAttributeReport
  receivedAt : Instant
  causation : MatterReportCausation
  deriving DecidableEq

section
variable (projection : MatterCapabilityProjection)

def appliedReport (state : MatterProjectedState) (d : MatterDelivery) : Option MatterReportedState :=
  match normalizeMatterReport projection d.report d.receivedAt state.reported with
  | .applied reported => some reported
  | .duplicate | .rejected _ => none

def takeReport (state : MatterProjectedState) (d : MatterDelivery) : MatterProjectedState :=
  match appliedReport projection state d with
  | some reported => (advanceMatterProjectedState state reported d.causation).toOption.getD state
  | none => state

def takeReports (state : MatterProjectedState) (deliveries : List MatterDelivery) : MatterProjectedState :=
  deliveries.foldl (takeReport projection) state

def appliedDeliveries : MatterProjectedState → List MatterDelivery → List MatterDelivery
  | _, [] => []
  | state, d :: rest =>
    if (appliedReport projection state d).isSome then d :: appliedDeliveries (takeReport projection state d) rest
    else appliedDeliveries (takeReport projection state d) rest

end

/-- A data version that is absent on either side, or ahead by less than half of its range. -/
def VersionAhead (previous next : Option UInt32) : Prop :=
  previous = none ∨ next = none ∨
    ∃ p n, previous = some p ∧ next = some n ∧ p ≠ n ∧ (n - p).toNat < 2^31

structure ReportApplied (projection : MatterCapabilityProjection) (current : Option MatterReportedState)
    (d : MatterDelivery) (reported : MatterReportedState) : Prop where
  path : d.report.path = projection.reportPath
  value : mapReportValue projection.rule d.report.value = some reported.value
  version : reported.dataVersion = d.report.dataVersion
  sequence : reported.reportSequence = d.report.reportSequence
  time : d.report.observedAt ≤ d.receivedAt
  later : ∀ before, current = some before → before.reportSequence < reported.reportSequence ∧
    (before.value ≠ reported.value → VersionAhead before.dataVersion reported.dataVersion)

variable {j i : ℕ} {value : MatterStateValue} {deliveries : List MatterDelivery} {report : MatterAttributeReport}

section
variable {projection : MatterCapabilityProjection} {state : MatterProjectedState} {d : MatterDelivery}
  {current reported : MatterReportedState}

theorem settledReport_none (h : settledReport current report value = none) :
    current.reportSequence < report.reportSequence ∧
      dataVersionAdvances current report value = true := by
  unfold settledReport at h
  split at h
  · cases h
  next hstale =>
    split at h
    · split at h <;> cases h
    next hsame =>
      split at h
      · cases h
      next hadvances => exact ⟨by omega, Bool.eq_true_of_not_eq_false hadvances⟩

theorem versionAhead_of_advances (h : dataVersionAdvances current report value = true)
    (hvalue : current.value ≠ value) :
    VersionAhead current.dataVersion report.dataVersion := by
  unfold dataVersionAdvances at h
  split at h
  next previous next hprevious hnext =>
    refine .inr (.inr ⟨previous, next, hprevious, hnext, ?_⟩)
    split at h
    · exact absurd (beq_iff_eq.mp h) hvalue
    next hne => exact ⟨hne, of_decide_eq_true h⟩
  next hnone =>
    cases hprevious : current.dataVersion with
    | none => exact .inl rfl
    | some previous =>
      cases hnext : report.dataVersion with
      | none => exact .inr (.inl rfl)
      | some next => exact absurd hnext (hnone previous next hprevious)

theorem MatterReportedState.new_ok {dataVersion : Option UInt32} {reportSequence : ℕ}
    {observedAt receivedAt : Instant}
    (h : MatterReportedState.new value dataVersion reportSequence observedAt receivedAt = .ok reported) :
    reported.value = value ∧ reported.dataVersion = dataVersion ∧ reported.reportSequence = reportSequence := by
  unfold MatterReportedState.new at h
  split at h
  · cases h
  split at h
  · cases h
  · cases h
    exact ⟨rfl, rfl, rfl⟩

/-- What an applied report has passed. -/
theorem appliedReport_some (h : appliedReport projection state d = some reported) :
    ReportApplied projection state.reported d reported := by
  unfold appliedReport at h
  split at h
  next other hdecision =>
    cases h
    unfold normalizeMatterReport at hdecision
    split at hdecision
    · cases hdecision
    next hpath =>
      split at hdecision
      · cases hdecision
      next value hvalue =>
        split at hdecision
        · cases hdecision
        next htime =>
          split at hdecision
          next decision hsettled =>
            -- a settled report is a duplicate or rejected
            obtain ⟨before, _, hsome⟩ := bind_eq_some_iff.mp hsettled
            unfold settledReport at hsome
            rw [hdecision] at hsome
            split at hsome
            · cases hsome
            split at hsome
            · split at hsome <;> cases hsome
            split at hsome <;> cases hsome
          next hnone =>
            split at hdecision
            · cases hdecision
            next made hmade =>
              cases hdecision
              obtain ⟨hmadeValue, hversion, hsequence⟩ := MatterReportedState.new_ok hmade
              refine ⟨not_not.mp hpath, hmadeValue ▸ hvalue, hversion, hsequence, not_lt.mp htime, ?_⟩
              intro before hbefore
              rw [hbefore, bind_some] at hnone
              obtain ⟨hless, hadvances⟩ := settledReport_none hnone
              refine ⟨hsequence ▸ hless, ?_⟩
              intro hne
              rw [hmadeValue] at hne
              exact hversion ▸ versionAhead_of_advances hadvances hne
  · cases h
  · cases h

theorem takeReport_reported (h : appliedReport projection state d = some reported) :
    (takeReport projection state d).reported = some reported := by
  obtain ⟨state', hok⟩ := exists_advanceMatterProjectedState state reported d.causation
  have hkept := (advanceMatterProjectedState_ok hok).2.2.1
  unfold takeReport
  rw [h]
  dsimp only
  rw [hok]
  exact hkept

theorem takeReport_none (h : appliedReport projection state d = none) : takeReport projection state d = state := by
  unfold takeReport
  rw [h]

theorem takeReport_cases (projection : MatterCapabilityProjection) (state : MatterProjectedState) (d : MatterDelivery) :
    takeReport projection state d = state ∨ ∃ reported, ReportApplied projection state.reported d reported ∧
      (takeReport projection state d).reported = some reported := by
  cases h : appliedReport projection state d with
  | none => exact .inl (takeReport_none h)
  | some reported => exact .inr ⟨reported, appliedReport_some h, takeReport_reported h⟩

def SequenceFrom (bound : ℕ) (state : MatterProjectedState) : Prop :=
  ∃ reported, state.reported = some reported ∧ bound ≤ reported.reportSequence

theorem SequenceFrom.takeReport {bound : ℕ} (h : SequenceFrom bound state) (d : MatterDelivery) :
    SequenceFrom bound (takeReport projection state d) := by
  obtain ⟨reported, hreported, hbound⟩ := h
  rcases takeReport_cases projection state d with hsame | ⟨next, happlied, hnext⟩
  · rw [hsame]
    exact ⟨reported, hreported, hbound⟩
  · have hless := (happlied.later reported hreported).1
    exact ⟨next, hnext, by omega⟩

theorem SequenceFrom.takeReports {bound : ℕ} (h : SequenceFrom bound state) (deliveries : List MatterDelivery) :
    SequenceFrom bound (takeReports projection state deliveries) := by
  induction deliveries generalizing state with
  | nil => exact h
  | cons d rest ih => exact ih (h.takeReport d)

theorem appliedDeliveries_after {bound : ℕ} (h : SequenceFrom bound state) (deliveries : List MatterDelivery) :
    ∀ d ∈ appliedDeliveries projection state deliveries, bound < d.report.reportSequence := by
  induction deliveries generalizing state with
  | nil => exact fun d hd => absurd hd not_mem_nil
  | cons first rest ih =>
    rw [appliedDeliveries]
    have hnext : SequenceFrom bound (takeReport projection state first) := h.takeReport first
    have hrest := ih hnext
    split
    next hsome =>
      obtain ⟨reported, hreported⟩ := isSome_iff_exists.mp hsome
      have happlied := appliedReport_some hreported
      obtain ⟨current, hcurrent, hbound⟩ := h
      have hless := (happlied.later current hcurrent).1
      rw [forall_mem_cons]
      refine ⟨?_, hrest⟩
      rw [← happlied.sequence]
      omega
    · exact hrest

theorem appliedDeliveries_increasing (state : MatterProjectedState) (deliveries : List MatterDelivery) :
    (appliedDeliveries projection state deliveries).Pairwise
      (fun d d' => d.report.reportSequence < d'.report.reportSequence) := by
  induction deliveries generalizing state with
  | nil => exact .nil
  | cons first rest ih =>
    rw [appliedDeliveries]
    split
    next hsome =>
      obtain ⟨reported, hreported⟩ := isSome_iff_exists.mp hsome
      have happlied := appliedReport_some hreported
      refine .cons (appliedDeliveries_after ?_ rest) (ih _)
      exact ⟨reported, takeReport_reported hreported, happlied.sequence.ge⟩
    · exact ih _

end

/-- The reports of one attribute in the order in which they were made: sequences increase, data versions go up by one
and wrap around. -/
structure OneSource (projection : MatterCapabilityProjection) (source : List MatterAttributeReport) : Prop where
  path : ∀ report ∈ source, report.path = projection.reportPath
  representable : ∀ report ∈ source, mapReportValue projection.rule report.value ≠ none
  increasing : (source.map MatterAttributeReport.reportSequence).Pairwise (· < ·)
  versions : ∃ first : UInt32, ∀ i, ∀ h : i < source.length, source[i].dataVersion = some (first + UInt32.ofNat i)
  few : source.length < 2^31

theorem version_sub {first : UInt32} (hle : i ≤ j) (hj : j < 2^31) :
    ((first + UInt32.ofNat j) - (first + UInt32.ofNat i)).toNat = j - i := by
  have hfirst := first.toNat_lt
  simp only [UInt32.toNat_sub, UInt32.toNat_add, UInt32.toNat_ofNat']
  omega

structure HoldsReport (projection : MatterCapabilityProjection) (report : MatterAttributeReport)
    (reported : MatterReportedState) : Prop where
  value : mapReportValue projection.rule report.value = some reported.value
  version : reported.dataVersion = report.dataVersion
  sequence : reported.reportSequence = report.reportSequence

def KnowsBefore (projection : MatterCapabilityProjection) (source : List MatterAttributeReport) (n : ℕ)
    (state : MatterProjectedState) : Prop :=
  state.reported = none ∨ ∃ i, ∃ h : i < source.length, i < n ∧ ∃ reported, state.reported = some reported ∧
    HoldsReport projection source[i] reported

section
variable {projection : MatterCapabilityProjection} {source : List MatterAttributeReport} {state : MatterProjectedState}
  {d : MatterDelivery}

theorem OneSource.sequence_lt (hsource : OneSource projection source) (hi : i < source.length)
    (hj : j < source.length) (hlt : i < j) : source[i].reportSequence < source[j].reportSequence := by
  have hordered := pairwise_iff_getElem.mp hsource.increasing i j
    (by rwa [length_map]) (by rwa [length_map]) hlt
  simpa using hordered

/-- A report of the source applies where only earlier ones are known. -/
theorem OneSource.applied (hsource : OneSource projection source) (hj : j < source.length)
    (hd : d.report = source[j]) (htime : d.report.observedAt ≤ d.receivedAt)
    (hknown : KnowsBefore projection source j state) :
    ∃ reported, appliedReport projection state d = some reported := by
  have hmem : d.report ∈ source := hd ▸ getElem_mem hj
  obtain ⟨value, hvalue⟩ := ne_none_iff_exists'.mp (hsource.representable _ hmem)
  have hopen : state.reported.bind (fun current => settledReport current d.report value) = none := by
    rcases hknown with hnone | ⟨i, hi, hlt, current, hcurrent, hholds⟩
    · rw [hnone, bind_none]
    · rw [hcurrent, bind_some]
      have hsequence := hsource.sequence_lt hi hj hlt
      rw [← hholds.sequence, ← hd] at hsequence
      -- the version is ahead by the number of reports between them
      have hadvances : dataVersionAdvances current d.report value = true := by
        obtain ⟨first, hversions⟩ := hsource.versions
        have hfew := hsource.few
        have hstep : ((first + UInt32.ofNat j) - (first + UInt32.ofNat i)).toNat = j - i :=
          version_sub hlt.le (by omega : j < 2^31)
        unfold dataVersionAdvances
        rw [hholds.version, hd, hversions i hi, hversions j hj]
        dsimp only
        rw [if_neg]
        · rw [decide_eq_true_eq, hstep]
          omega
        · intro hsame
          rw [hsame, UInt32.sub_self] at hstep
          have hzero : (0 : UInt32).toNat = 0 := rfl
          omega
      unfold settledReport
      rw [if_neg (by omega), if_neg (by omega), hadvances, if_neg (by decide)]
  unfold appliedReport normalizeMatterReport
  rw [if_neg (not_not.mpr (hsource.path _ hmem)), hvalue]
  dsimp only
  rw [if_neg (not_lt.mpr htime), hopen]
  dsimp only
  unfold MatterReportedState.new
  rw [dif_neg (by simp [mapReportValue_valid hvalue]), dif_neg (not_lt.mpr htime)]
  exact ⟨_, rfl⟩

theorem OneSource.takes (hsource : OneSource projection source) (hj : j < source.length) (hd : d.report = source[j])
    (htime : d.report.observedAt ≤ d.receivedAt) (hknown : KnowsBefore projection source j state) :
    ∃ reported, (takeReport projection state d).reported = some reported ∧
      HoldsReport projection source[j] reported := by
  obtain ⟨reported, hreported⟩ := hsource.applied hj hd htime hknown
  have happlied := appliedReport_some hreported
  exact ⟨reported, takeReport_reported hreported, hd ▸ happlied.value, hd ▸ happlied.version, hd ▸ happlied.sequence⟩

theorem OneSource.in_order (hsource : OneSource projection source) {n : ℕ}
    (hreports : deliveries.map MatterDelivery.report = source.drop n)
    (htimes : ∀ d ∈ deliveries, d.report.observedAt ≤ d.receivedAt) (hknown : KnowsBefore projection source n state) :
    appliedDeliveries projection state deliveries = deliveries := by
  induction deliveries generalizing n state with
  | nil => rfl
  | cons d rest ih =>
    rw [forall_mem_cons] at htimes
    have hn : n < source.length := by
      by_contra hge
      rw [drop_eq_nil_of_le (by omega)] at hreports
      cases hreports
    rw [drop_eq_getElem_cons hn, map_cons, List.cons.injEq] at hreports
    obtain ⟨reported, hreported⟩ := hsource.applied hn hreports.1 htimes.1 hknown
    obtain ⟨held, hheld, hholds⟩ := hsource.takes hn hreports.1 htimes.1 hknown
    rw [appliedDeliveries, hreported, isSome_some, if_pos rfl]
    rw [ih hreports.2 htimes.2 (.inr ⟨n, hn, by omega, held, hheld, hholds⟩)]

theorem KnowsBefore.takeReport (hd : d.report ∈ source) (hknown : KnowsBefore projection source source.length state) :
    KnowsBefore projection source source.length (HomeMagic.takeReport projection state d) := by
  rcases takeReport_cases projection state d with hsame | ⟨reported, happlied, hreported⟩
  · rw [hsame]
    exact hknown
  · obtain ⟨i, hi, heq⟩ := getElem_of_mem hd
    refine .inr ⟨i, hi, hi, reported, hreported, ?_⟩
    rw [heq]
    exact ⟨happlied.value, happlied.version, happlied.sequence⟩

theorem KnowsBefore.takeReports (hmem : ∀ d ∈ deliveries, d.report ∈ source)
    (hknown : KnowsBefore projection source source.length state) :
    KnowsBefore projection source source.length (HomeMagic.takeReports projection state deliveries) := by
  induction deliveries generalizing state with
  | nil => exact hknown
  | cons d rest ih =>
    rw [forall_mem_cons] at hmem
    exact ih hmem.2 (hknown.takeReport hmem.1)

theorem OneSource.newest (hsource : OneSource projection source) {newest : MatterAttributeReport}
    (hnewest : source.getLast? = some newest) (hd : d.report = newest) (htime : d.report.observedAt ≤ d.receivedAt)
    (hknown : KnowsBefore projection source source.length state) :
    ∃ reported, (takeReport projection state d).reported = some reported ∧ HoldsReport projection newest reported := by
  have hlast : ∃ h : source.length - 1 < source.length, source[source.length - 1] = newest := by
    rw [List.getLast?_eq_getElem?, List.getElem?_eq_some_iff] at hnewest
    exact hnewest
  obtain ⟨hlt, hget⟩ := hlast
  rcases hknown with hnone | ⟨i, hi, _, current, hcurrent, hholds⟩
  · obtain ⟨reported, hreported, hnew⟩ := hsource.takes hlt (hd.trans hget.symm) htime (.inl hnone)
    exact ⟨reported, hreported, hget ▸ hnew⟩
  · by_cases hbefore : i < source.length - 1
    · obtain ⟨reported, hreported, hnew⟩ := hsource.takes hlt (hd.trans hget.symm) htime
        (.inr ⟨i, hi, hbefore, current, hcurrent, hholds⟩)
      exact ⟨reported, hreported, hget ▸ hnew⟩
    · -- the newest one is known already
      have hsame : source[i] = newest := by
        rw [← hget]
        congr 1
        omega
      rw [hsame] at hholds
      rcases takeReport_cases projection state d with hstays | ⟨reported, happlied, _⟩
      · exact ⟨current, by rw [hstays, hcurrent], hholds⟩
      · have hless := (happlied.later current hcurrent).1
        rw [happlied.sequence, hholds.sequence, hd] at hless
        exact absurd hless (Nat.lt_irrefl _)

end

/-- Reports move a projection forward only, each sequence once, and a value gives way only to a version that is not
behind. The reports of one source are all applied in order, and any delivery of them that ends with the newest one
ends with its value. -/
theorem reports_ordered (projection : MatterCapabilityProjection) (state : MatterProjectedState)
    (deliveries : List MatterDelivery) :
    (∀ earlier later, deliveries = earlier ++ later → ∀ before,
      (takeReports projection state earlier).reported = some before →
        ∃ reported, (takeReports projection state deliveries).reported = some reported ∧
          before.reportSequence ≤ reported.reportSequence) ∧
    (appliedDeliveries projection state deliveries).Pairwise
      (fun d d' => d.report.reportSequence < d'.report.reportSequence) ∧
    (∀ before, state.reported = some before → ∀ d ∈ appliedDeliveries projection state deliveries,
      before.reportSequence < d.report.reportSequence) ∧
    (∀ earlier d later, deliveries = earlier ++ d :: later → ∀ before reported,
      (takeReports projection state earlier).reported = some before →
      (takeReports projection state (earlier ++ [d])).reported = some reported → before.value ≠ reported.value →
        before.reportSequence < reported.reportSequence ∧ VersionAhead before.dataVersion reported.dataVersion) ∧
    ∀ source, OneSource projection source → state.reported = none →
      (∀ d ∈ deliveries, d.report ∈ source ∧ d.report.observedAt ≤ d.receivedAt) →
        (deliveries.map MatterDelivery.report = source → appliedDeliveries projection state deliveries = deliveries) ∧
        ∀ newest, source.getLast? = some newest → (deliveries.getLast?.map MatterDelivery.report) = some newest →
          ∃ reported, (takeReports projection state deliveries).reported = some reported ∧
            mapReportValue projection.rule newest.value = some reported.value := by
  refine ⟨?_, appliedDeliveries_increasing state deliveries, ?_, ?_, ?_⟩
  · rintro earlier later rfl before hbefore
    have hfrom : SequenceFrom before.reportSequence (takeReports projection state earlier) := ⟨before, hbefore, le_rfl⟩
    have hlater : SequenceFrom before.reportSequence
        (takeReports projection (takeReports projection state earlier) later) := hfrom.takeReports later
    unfold takeReports at hlater ⊢
    rw [List.foldl_append]
    exact hlater
  · intro before hbefore
    exact appliedDeliveries_after ⟨before, hbefore, le_rfl⟩ deliveries
  · intro earlier d later _ before reported hbefore hreported hchanged
    unfold takeReports at hreported
    rw [List.foldl_append, List.foldl_cons, List.foldl_nil] at hreported
    rcases takeReport_cases projection (takeReports projection state earlier) d with hsame | ⟨next, happlied, hnext⟩
    · unfold takeReports at hsame hbefore
      rw [hsame, hbefore, Option.some.injEq] at hreported
      exact absurd (congrArg MatterReportedState.value hreported) hchanged
    · unfold takeReports at hnext
      rw [hnext, Option.some.injEq] at hreported
      subst hreported
      obtain ⟨hless, hahead⟩ := happlied.later before hbefore
      exact ⟨hless, hahead hchanged⟩
  · intro source hsource hnone hall
    have htimes : ∀ d ∈ deliveries, d.report.observedAt ≤ d.receivedAt := fun d hd => (hall d hd).2
    refine ⟨fun horder => hsource.in_order (n := 0) horder htimes (.inl hnone), ?_⟩
    intro newest hnewest hlast
    obtain ⟨d, hgetLast, hd⟩ := Option.map_eq_some_iff.mp hlast
    obtain ⟨earlier, rfl⟩ := List.getLast?_eq_some_iff.mp hgetLast
    have hknown : KnowsBefore projection source source.length (takeReports projection state earlier) :=
      KnowsBefore.takeReports (fun d hd => (hall d (List.mem_append_left _ hd)).1) (.inl hnone)
    obtain ⟨reported, hreported, hholds⟩ := hsource.newest hnewest hd
      (htimes d (List.mem_append_right _ List.mem_cons_self)) hknown
    refine ⟨reported, ?_, hholds.value⟩
    unfold takeReports at hreported ⊢
    rw [List.foldl_append]
    exact hreported

def lightReports : List MatterAttributeReport :=
  [⟨⟨1, 1, 6, 0⟩, .boolean true, some 4294967295, 4, 0⟩, ⟨⟨1, 1, 6, 0⟩, .boolean true, some 0, 5, 1⟩,
    ⟨⟨1, 1, 6, 0⟩, .boolean false, some 1, 9, 2⟩]

theorem lightReports_source : OneSource ⟨0, .onOffV1, ⟨1, 1, 6, 0⟩⟩ lightReports := by
  refine ⟨by decide, by decide, by decide, ⟨4294967295, ?_⟩, by decide⟩
  decide

/-- Delivered out of order and twice, the reports of the light end with off. -/
theorem reports_ordered_light : ∃ reported,
    (takeReports ⟨0, .onOffV1, ⟨1, 1, 6, 0⟩⟩ (initialMatterProjectedState 0)
      ([lightReports[1], lightReports[0], lightReports[1], lightReports[2]].map (⟨·, 7, ⟨none⟩⟩))).reported =
        some reported ∧ reported.value = .onOff false := by
  obtain ⟨_, _, _, _, hsource⟩ := reports_ordered ⟨0, .onOffV1, ⟨1, 1, 6, 0⟩⟩ (initialMatterProjectedState 0)
    ([lightReports[1], lightReports[0], lightReports[1], lightReports[2]].map (⟨·, 7, ⟨none⟩⟩))
  obtain ⟨_, hnewest⟩ := hsource lightReports lightReports_source rfl (by decide)
  obtain ⟨reported, hreported, hvalue⟩ := hnewest _ rfl rfl
  exact ⟨reported, hreported, (Option.some.inj hvalue).symm⟩

end HomeMagic
