import HomeMagic.AutomationGovernanceSpec

/-! Where the evidence of a stored version comes from: a validation, a simulation and a decision that were asked of
the lifecycle service. -/
namespace HomeMagic
open Table Fallible

section
variable (host : LifecycleHost) (asked : ActorId → LifecycleRequest → Prop)

def ValidatedBy (version : StoredAutomationVersion) : Prop :=
  ∃ actorId snapshot, asked actorId (.validate version.document.id) ∧
    compile ⟨host.compiler, version.document, snapshot⟩ = .ok version.plan

def SimulatedBy (version : StoredAutomationVersion) (evidence : AutomationSimulationEvidence) : Prop :=
  ∃ actorId input inputHash result,
    asked actorId (.simulate version.document.id version.document.version input) ∧
      host.inputHash input = some inputHash ∧
      simulateFixture host.evaluator host.traceHash (Lifecycle.simulationFixture version.document.id
        version.document.version version.plan inputHash input) = .ok result ∧
      evidence.traceHash = result.traceHash ∧ evidence.succeeded = (result.status == .completed)

def DecidedBy (approval : AutomationApprovalRecord) : Prop :=
  asked approval.actorId (.decide approval.automationId approval.version (approval.state == .approved)
    approval.rationale)

structure Backed (version : StoredAutomationVersion) : Prop where
  validated : ValidatedBy host asked version
  simulated : ∀ evidence, version.simulation = some evidence → SimulatedBy host asked version evidence

/-- Every row of the governance tables has a request behind it, and drafts name their own automation. -/
structure Supported (store : AutomationStore) : Prop where
  drafts : ∀ draft ∈ store.drafts.rows, draft.automationId = draft.document.id
  versions : ∀ version ∈ store.versions.rows, Backed host asked version
  approvals : ∀ approval ∈ store.approvals.rows, DecidedBy asked approval

/-- What a version rests on: it was compiled by a validation, a simulation of it completed and, where its plan needs
one, a decision that approves it was asked for by the actor of the approval. -/
structure Substantiated (store : AutomationStore) (version : StoredAutomationVersion) : Prop where
  validated : ValidatedBy host asked version
  simulated : ∃ evidence, version.simulation = some evidence ∧ evidence.succeeded = true ∧
    SimulatedBy host asked version evidence
  approved : version.plan.approval = .explicitUserApproval → ∃ approval ∈ store.approvals.rows,
    approval.documentHash = version.plan.documentHash ∧ approval.planHash = version.plan.planHash ∧
      asked approval.actorId (.decide version.document.id version.document.version true approval.rationale)

def Evidenced : LifecycleCall → Prop
  | .storeVersion version | .transitionVersion version _ => Backed host asked version
  | .appendApproval approval => DecidedBy asked approval
  | _ => True

end

variable {host : LifecycleHost} {asked : ActorId → LifecycleRequest → Prop} {store store' : AutomationStore}

theorem Supported.substantiated {version : StoredAutomationVersion} (h : Supported host asked store)
    {id : AutomationId} {number : ℕ}
    (hactive : AutomationStore.Activatable host.compiler store id number version) :
    Substantiated host asked store version := by
  obtain ⟨hmem, hkey⟩ := find_eq_some.mp hactive.stored
  have hbacked := h.versions version hmem
  obtain ⟨rfl, rfl⟩ := Prod.mk.inj hkey
  refine ⟨hbacked.validated, ?_, ?_⟩
  · obtain ⟨evidence, hevidence, hsucceeded⟩ := hactive.simulated
    exact ⟨evidence, hevidence, hsucceeded, hbacked.simulated evidence hevidence⟩
  · intro hexplicit
    obtain ⟨approval, happroval, hid, hnumber, hstate, hdocument, hplan⟩ := hactive.approved hexplicit
    have hdecided := h.approvals approval happroval
    rw [DecidedBy, hid, hnumber, hstate] at hdecided
    exact ⟨approval, happroval, hdocument, hplan, hdecided⟩

theorem Supported.of_fewer (h : Supported host asked store)
    (hdrafts : ∀ draft ∈ store'.drafts.rows, draft ∈ store.drafts.rows)
    (hversions : ∀ version ∈ store'.versions.rows, version ∈ store.versions.rows)
    (happrovals : ∀ approval ∈ store'.approvals.rows, approval ∈ store.approvals.rows) :
    Supported host asked store' :=
  ⟨fun draft hmem => h.drafts draft (hdrafts draft hmem), fun version hmem => h.versions version (hversions version hmem),
    fun approval hmem => h.approvals approval (happrovals approval hmem)⟩

theorem Supported.same (h : Supported host asked store) (hdrafts : store'.drafts = store.drafts)
    (hversions : store'.versions = store.versions) (happrovals : store'.approvals = store.approvals) :
    Supported host asked store' := by
  refine h.of_fewer ?_ ?_ ?_
  · rw [hdrafts]
    exact fun _ hmem => hmem
  · rw [hversions]
    exact fun _ hmem => hmem
  · rw [happrovals]
    exact fun _ hmem => hmem

theorem Supported.retain (storeHost : StoreHost) (policy : AutomationRetention) (h : Supported host asked store) :
    Supported host asked (store.retain storeHost policy) := by
  refine h.of_fewer ?_ ?_ ?_
  · intro draft hmem
    have hrow : draft ∈ (store.drafts.filter _).rows := hmem
    exact (Table.mem_filter.mp hrow).1
  · intro version hmem
    have hrow : version ∈ (store.versions.filter _).rows := hmem
    exact (Table.mem_filter.mp hrow).1
  · intro approval hmem
    have hrow : approval ∈ (store.approvals.filter _).rows := hmem
    exact (Table.mem_filter.mp hrow).1

/-- A call that is evidenced leaves evidence behind what it stores. -/
theorem Supported.call {c : LifecycleCall} {r : c.Response} (hc : Evidenced host asked c)
    (h : Supported host asked store) (hh : lifecycleHandler host c store r store') : Supported host asked store' := by
  cases c with
  | automation c =>
    by_cases hretain : ∃ policy, c = .retain policy
    · obtain ⟨policy, rfl⟩ := hretain
      rcases Commits.cases hh with ⟨_, hresult⟩ | rfl
      · cases hresult
        exact h.retain host.store policy
      · exact h
    · have hsame := automationHandler_governance (fun policy heq => hretain ⟨policy, heq⟩) hh
      exact h.same hsame.drafts hsame.versions hsame.approvals
  | newId | loadFoundation | wakeEvents =>
    cases hh
    exact h
  | draft automationId =>
    cases hh.1
    exact h
  | storeDraft draft expectedRevision =>
    rcases Commits.cases hh with ⟨_, hresult⟩ | rfl
    · obtain ⟨hid, rfl⟩ := AutomationStore.storeDraft_spec hresult
      refine ⟨?_, ?_, ?_⟩
      · intro other hmem
        have hfind := find_eq_some.mpr ⟨hmem, rfl⟩
        rw [AutomationStore.putDraft_find] at hfind
        split at hfind
        · cases hfind
          exact hid
        · rw [AutomationStore.ensureIdentity_drafts] at hfind
          exact h.drafts other (find_eq_some.mp hfind).1
      · rw [AutomationStore.putDraft_versions, AutomationStore.ensureIdentity_versions]
        exact h.versions
      · rw [AutomationStore.putDraft_approvals, AutomationStore.ensureIdentity_approvals]
        exact h.approvals
    · exact h
  | storeVersion version =>
    rcases Commits.cases hh with ⟨_, hresult⟩ | rfl
    · obtain ⟨_, rfl | ⟨hnew, rfl⟩⟩ := AutomationStore.storeVersion_spec hresult
      · exact h.same (AutomationStore.ensureIdentity_drafts _ _) (AutomationStore.ensureIdentity_versions _ _)
          (AutomationStore.ensureIdentity_approvals _ _)
      · refine ⟨?_, ?_, ?_⟩
        · rw [AutomationStore.ensureIdentity_drafts]
          exact h.drafts
        · intro other hmem
          have hrow : other ∈ (store.versions.insert version hnew).rows := hmem
          rcases Table.mem_insert.mp hrow with hmem | rfl
          · exact h.versions other hmem
          · exact hc
        · rw [AutomationStore.ensureIdentity_approvals]
          exact h.approvals
    · exact h
  | transitionVersion version expectedState =>
    rcases Commits.cases hh with ⟨_, hresult⟩ | rfl
    · obtain ⟨_, current, hcurrent, _, _, _, _, rfl⟩ := AutomationStore.transitionVersion_spec hresult
      refine ⟨h.drafts, ?_, h.approvals⟩
      intro other hmem
      rcases (Table.mem_replace hcurrent).mp hmem with rfl | ⟨hmem, _⟩
      · exact hc
      · exact h.versions other hmem
    · exact h
  | appendApproval approval =>
    rcases Commits.cases hh with ⟨_, hresult⟩ | rfl
    · rcases AutomationStore.appendApproval_spec hresult with rfl | ⟨hnew, rfl⟩
      · exact h
      · refine ⟨h.drafts, h.versions, ?_⟩
        intro other hmem
        have hrow : other ∈ (store.approvals.insert approval hnew).rows := hmem
        rcases Table.mem_insert.mp hrow with hmem | rfl
        · exact h.approvals other hmem
        · exact hc
    · exact h
  | activate activation =>
    rcases hh with ⟨row, _, hresult⟩ | ⟨_, rfl⟩
    · obtain ⟨_, _, _, _, _, _, _, rfl, _⟩ := AutomationStore.activate_spec host.compiler hresult
      exact ⟨h.drafts, h.versions, h.approvals⟩
    · exact h
  | transitionIdentity identity expectedRevision =>
    rcases hh with ⟨row, _, hresult⟩ | ⟨_, rfl⟩
    · obtain ⟨_, _, _, _, rfl⟩ := AutomationStore.transitionIdentity_spec hresult
      exact ⟨h.drafts, h.versions, h.approvals⟩
    · exact h

theorem supported_empty : Supported host asked AutomationStore.empty :=
  ⟨fun _ hmem => absurd hmem List.not_mem_nil, fun _ hmem => absurd hmem List.not_mem_nil,
    fun _ hmem => absurd hmem List.not_mem_nil⟩

abbrev Supporting {α : Type} (host : LifecycleHost) (asked : ActorId → LifecycleRequest → Prop) (x : GovernanceM α)
    (Q : α → Prop) : Prop :=
  ∀ s, x.run.Keeps (lifecycleHandler host) (fun _ s => Supported host asked s) (fun _ _ => True)
    (Supported host asked) (OnOk (fun a _ => Q a)) s

namespace Lifecycle
variable {α β : Type} {x : GovernanceM α} {f : α → GovernanceM β} {P : α → Prop} {Q : β → Prop} {c : LifecycleCall}
  {actorId : ActorId}

theorem supporting_bind (h : Supporting host asked x P) (hf : ∀ a, P a → Supporting host asked (f a) Q) :
    Supporting host asked (x >>= f) Q := by
  intro s
  apply keeps_bind (fun _ => trivial)
  apply (h s).mono
  exact fun result s' hresult a ha => hf a (hresult a ha) s'

theorem supporting_pure {a : α} (h : P a) : Supporting host asked (pure a) P := fun _ => keeps_pure (fun _ _ => h)

theorem supporting_throw {error : AutomationLifecycleError} :
    Supporting host asked (throw error : GovernanceM α) P := fun _ => keeps_throw

theorem supporting_consult {Q : c.Response → Prop} (hc : Evidenced host asked c)
    (h : ∀ s r s', Supported host asked s → lifecycleHandler host c s r s' → Q r) (s : AutomationStore) :
    (consult c).Keeps (lifecycleHandler host) (fun _ s => Supported host asked s) (fun _ _ => True)
      (Supported host asked) (fun r _ => Q r) s :=
  fun s' _ hs r s'' hh => ⟨hs.call hc hh, fun _ _ => h s' r s'' hs hh⟩

theorem supporting_answer (hc : Evidenced host asked c) : Supporting host asked (answer c) (fun _ => True) :=
  fun _ _ _ hs _ _ hh => ⟨hs.call hc hh, fun _ _ _ _ => trivial⟩

theorem supporting_attempt {ε : Type} {wrap : ε → AutomationLifecycleError}
    {p : Program LifecycleCall LifecycleCall.Response (Except ε α)}
    (h : ∀ s, p.Keeps (lifecycleHandler host) (fun _ s => Supported host asked s) (fun _ _ => True)
      (Supported host asked) (fun r _ => ∀ a, r = .ok a → P a) s) :
    Supporting host asked (attempt wrap p) P :=
  fun s => keeps_attempt (fun _ => trivial) (h s) (fun _ _ _ _ ha => ha)

theorem supporting_ensureOwner {value : α} {document : AutomationDocument} (h : P value) :
    Supporting host asked (ensureOwner actorId document value) P := by
  unfold ensureOwner
  split
  · exact supporting_pure h
  · exact supporting_throw

theorem supporting_wake (value : α) : Supporting host asked (wake >>= fun _ => pure value) (fun _ => True) :=
  supporting_bind (supporting_attempt (supporting_consult (c := .wakeEvents) trivial (fun _ _ _ _ _ _ _ => trivial)))
    (fun _ _ => supporting_pure trivial)

theorem supporting_now : Supporting host asked now (fun _ => True) := supporting_answer trivial

theorem supporting_draft (automationId : AutomationId) :
    Supporting host asked (draft actorId automationId) (fun draft => draft.document.id = automationId) := by
  refine supporting_bind (P := fun found => ∀ draft ∈ found, draft.document.id = automationId)
    (supporting_attempt (supporting_consult trivial ?_)) ?_
  · rintro s r s' hs ⟨_, hanswer⟩ found hfound draft hdraft
    have hstored := hanswer found hfound
    rw [Option.mem_def.mp hdraft] at hstored
    obtain ⟨hmem, hkey⟩ := find_eq_some.mp hstored.symm
    exact (hs.drafts draft hmem).symm.trans hkey
  · intro found hfound
    cases found with
    | none => exact supporting_throw
    | some draft => exact supporting_ensureOwner (hfound draft rfl)

theorem supporting_version (automationId : AutomationId) (number : ℕ) :
    Supporting host asked (version actorId automationId number) (fun loaded =>
      loaded.document.id = automationId ∧ loaded.document.version = number ∧ Backed host asked loaded) := by
  refine supporting_bind (P := fun found => ∀ loaded ∈ found, loaded.document.id = automationId ∧
    loaded.document.version = number ∧ Backed host asked loaded) (supporting_attempt (supporting_consult trivial ?_)) ?_
  · rintro s r s' hs ⟨_, hanswer⟩ found hfound loaded hloaded
    have hstored := hanswer found hfound
    rw [Option.mem_def.mp hloaded] at hstored
    obtain ⟨hmem, hkey⟩ := find_eq_some.mp hstored.symm
    obtain ⟨hid, hnumber⟩ := Prod.mk.inj hkey
    exact ⟨hid, hnumber, hs.versions loaded hmem⟩
  · intro found hfound
    cases found with
    | none => exact supporting_throw
    | some loaded => exact supporting_ensureOwner (hfound loaded rfl)

theorem supporting_putDraft (document : AutomationDocument) (expectedRevision : Option ℕ) :
    Supporting host asked (putDraft actorId document expectedRevision) (fun _ => True) := by
  refine supporting_bind (P := fun _ => True) (supporting_ensureOwner trivial) (fun _ _ => ?_)
  refine supporting_bind supporting_now (fun updatedAt _ => ?_)
  refine supporting_bind (P := fun _ => True)
    (supporting_attempt (supporting_consult trivial (fun _ _ _ _ _ _ _ => trivial))) (fun _ _ => ?_)
  exact supporting_pure trivial

/-- The plan of the version that is stored was compiled here. -/
theorem supporting_validate (automationId : AutomationId) (h : asked actorId (.validate automationId)) :
    Supporting host asked (validate host actorId automationId) (fun _ => True) := by
  refine supporting_bind (supporting_draft automationId) (fun draft hid => ?_)
  refine supporting_bind (P := fun _ => True)
    (supporting_attempt (supporting_consult trivial (fun _ _ _ _ _ _ _ => trivial))) (fun snapshot _ => ?_)
  split
  · exact supporting_throw
  next plan hplan =>
    refine supporting_bind supporting_now (fun validatedAt _ => ?_)
    refine supporting_bind (P := fun _ => True)
      (supporting_attempt (supporting_consult ?_ (fun _ _ _ _ _ _ _ => trivial))) (fun _ _ => supporting_wake _)
    exact ⟨⟨actorId, snapshot, hid ▸ h, hplan⟩, fun _ hnone => nomatch hnone⟩

theorem supporting_simulate (automationId : AutomationId) (number : ℕ) (input : AutomationSimulationInput)
    (h : asked actorId (.simulate automationId number input)) :
    Supporting host asked (simulate host actorId automationId number input) (fun _ => True) := by
  refine supporting_bind (supporting_version automationId number) (fun loaded hloaded => ?_)
  obtain ⟨rfl, rfl, hbacked⟩ := hloaded
  split
  · exact supporting_throw
  split
  · exact supporting_throw
  next inputHash hhash =>
    split
    · exact supporting_throw
    next result hresult =>
      refine supporting_bind supporting_now (fun simulatedAt _ => ?_)
      have hsimulated : ∀ evidence, (simulatedVersion loaded result simulatedAt).simulation = some evidence →
          SimulatedBy host asked loaded evidence := by
        intro evidence hevidence
        cases hevidence
        exact ⟨actorId, input, inputHash, result, h, hhash, hresult, rfl, rfl⟩
      refine supporting_bind (P := fun _ => True) (supporting_attempt
        (supporting_consult ⟨hbacked.validated, hsimulated⟩ (fun _ _ _ _ _ _ _ => trivial))) (fun _ _ => ?_)
      split
      · refine supporting_bind (P := fun _ => True) (supporting_attempt
          (supporting_consult ⟨hbacked.validated, hsimulated⟩ (fun _ _ _ _ _ _ _ => trivial))) (fun _ _ => ?_)
        exact supporting_wake _
      · exact supporting_wake _

/-- The record of the decision says what was decided, by whom. -/
theorem supporting_decide (automationId : AutomationId) (number : ℕ) (approved : Bool) (rationale : Option String)
    (h : asked actorId (.decide automationId number approved rationale)) :
    Supporting host asked (Lifecycle.decide actorId automationId number approved rationale) (fun _ => True) := by
  refine supporting_bind (supporting_version automationId number) (fun loaded hloaded => ?_)
  split
  · exact supporting_throw
  refine supporting_bind (supporting_answer trivial) (fun id _ => ?_)
  refine supporting_bind supporting_now (fun decidedAt _ => ?_)
  refine supporting_bind (P := fun _ => True)
    (supporting_attempt (supporting_consult ?_ (fun _ _ _ _ _ _ _ => trivial))) (fun _ _ => ?_)
  · cases approved <;> exact h
  · refine supporting_bind (P := fun _ => True)
      (supporting_attempt (supporting_consult ?_ (fun _ _ _ _ _ _ _ => trivial))) (fun _ _ => supporting_wake _)
    exact ⟨hloaded.2.2.validated, hloaded.2.2.simulated⟩

theorem supporting_activate (automationId : AutomationId) (number expectedRevision : ℕ) :
    Supporting host asked (activate actorId automationId number expectedRevision) (fun _ => True) := by
  refine supporting_bind (supporting_version automationId number) (fun loaded _ => ?_)
  split
  · exact supporting_throw
  refine supporting_bind supporting_now (fun activatedAt _ => ?_)
  exact supporting_bind (P := fun _ => True)
    (supporting_attempt (supporting_consult trivial (fun _ _ _ _ _ _ _ => trivial))) (fun _ _ => supporting_wake _)

theorem supporting_ensureIdentityOwner (automationId : AutomationId) (identity : AutomationIdentityState) :
    Supporting host asked (ensureIdentityOwner actorId automationId identity) (fun _ => True) := by
  unfold ensureIdentityOwner
  split
  · exact supporting_bind (supporting_version automationId _) (fun _ _ => supporting_pure trivial)
  · exact supporting_bind (supporting_draft automationId) (fun _ _ => supporting_pure trivial)

theorem supporting_transitionOperational (automationId : AutomationId) (expectedRevision : ℕ)
    (state : AutomationOperationalState) :
    Supporting host asked (transitionOperational actorId automationId expectedRevision state) (fun _ => True) := by
  refine supporting_bind (P := fun _ => True)
    (supporting_attempt (supporting_consult trivial (fun _ _ _ _ _ _ _ => trivial))) (fun found _ => ?_)
  cases found with
  | none => exact supporting_throw
  | some identity =>
    refine supporting_bind (supporting_ensureIdentityOwner automationId identity) (fun _ _ => ?_)
    split
    · exact supporting_throw
    refine supporting_bind supporting_now (fun updatedAt _ => ?_)
    exact supporting_bind (P := fun _ => True)
      (supporting_attempt (supporting_consult trivial (fun _ _ _ _ _ _ _ => trivial))) (fun _ _ => supporting_wake _)

end Lifecycle

theorem supports_embed {α : Type} (service : Program AutomationCall AutomationCall.Response α) (s : AutomationStore) :
    service.embed.Keeps (lifecycleHandler host) (fun _ s => Supported host asked s) (fun _ _ => True)
      (Supported host asked) (fun _ _ => True) s :=
  .of_each (P := Evidenced host asked) (fun _ _ _ _ hc hs hh => hs.call hc hh)
    (Program.calls_embed (P := fun _ => True) (fun _ _ => trivial) service.calls_true) s

/-- Every operation that is asked for writes only rows with a request behind them. -/
theorem LifecycleRequest.supports {actorId : ActorId} {request : LifecycleRequest} (h : asked actorId request)
    (s : AutomationStore) :
    (request.program host actorId).Keeps (lifecycleHandler host) (fun _ s => Supported host asked s) (fun _ _ => True)
      (Supported host asked) (fun _ _ => True) s := by
  have hoperation : ∀ {α : Type} {x : GovernanceM α}, Supporting host asked x (fun _ => True) →
      (asOperation x).Keeps (lifecycleHandler host) (fun _ s => Supported host asked s) (fun _ _ => True)
        (Supported host asked) (fun _ _ => True) s :=
    fun hx => Program.Keeps.bind (fun _ => trivial) ((hx s).mono (fun _ _ _ _ _ => trivial))
  cases request with
  | createDraft input =>
    refine hoperation (Lifecycle.supporting_bind Lifecycle.supporting_now (fun createdAt _ => ?_))
    exact Lifecycle.supporting_bind (Lifecycle.supporting_answer trivial)
      (fun id _ => Lifecycle.supporting_putDraft _ none)
  | putDraft document expectedRevision =>
    exact hoperation (Lifecycle.supporting_putDraft document expectedRevision)
  | validate automationId => exact hoperation (Lifecycle.supporting_validate automationId h)
  | simulate automationId number input =>
    exact hoperation (Lifecycle.supporting_simulate automationId number input h)
  | decide automationId number approved rationale =>
    exact hoperation (Lifecycle.supporting_decide automationId number approved rationale h)
  | activate automationId number expectedRevision =>
    exact hoperation (Lifecycle.supporting_activate automationId number expectedRevision)
  | disable automationId expectedRevision | retire automationId expectedRevision =>
    exact hoperation (Lifecycle.supporting_transitionOperational automationId expectedRevision _)
  | cancelRun runId fuel => exact supports_embed _ s

end HomeMagic
