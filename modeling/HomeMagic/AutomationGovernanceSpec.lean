import HomeMagic.AutomationLifecycle
import HomeMagic.AutomationRunLinks

/-! What each successful governance write does to the store. -/
namespace HomeMagic

structure SameGovernance (store store' : AutomationStore) : Prop where
  identities : store'.identities = store.identities
  drafts : store'.drafts = store.drafts
  versions : store'.versions = store.versions
  approvals : store'.approvals = store.approvals

theorem SameGovernance.refl (store : AutomationStore) : SameGovernance store store :=
  ⟨rfl, rfl, rfl, rfl⟩

theorem SameWork.governance {store store' : AutomationStore} (h : SameWork store store') :
    SameGovernance store store' :=
  ⟨h.identities, h.drafts, h.versions, h.approvals⟩

namespace AutomationStore
variable {compiler : CompilerHost} {store store' : AutomationStore}
variable {version : StoredAutomationVersion} {activation : AutomationActivation} {draft : AutomationDraft}
  {identity : AutomationIdentityState}

theorem commitStep_governance {write : AutomationStepWrite}
    (h : store.commitStep write = .ok store') : SameGovernance store store' := by
  obtain ⟨_, s1, s2, s3, hrun, hcreate, hmove, hfold⟩ := commitStep_stages h
  obtain ⟨current, _, _, rfl⟩ := transitionRun_spec hrun
  obtain ⟨hw2, _⟩ := foldlM_sameWork (fun _ _ _ => createTimer_sameWork) _ hcreate
  obtain ⟨hw3, _⟩ := foldlM_sameWork (fun _ _ _ => transitionTimer_sameWork) _ hmove
  have hw := (hw2.trans hw3).trans (appendTrace_sameWork _ hfold)
  exact ⟨hw.identities, hw.drafts, hw.versions, hw.approvals⟩

theorem ensureIdentity_find {automationId : AutomationId} {createdAt : Instant} (id : AutomationId) :
    (store.ensureIdentity automationId createdAt).identities.find id =
      if automationId = id then some ((store.identities.find id).getD
        ⟨automationId, .inactive, none, 0, createdAt, createdAt⟩)
      else store.identities.find id := by
  unfold ensureIdentity
  split
  · rename_i identity hfound
    split
    · rename_i hid
      subst hid
      rw [hfound]
      rfl
    · rfl
  · rename_i hnew
    rw [Table.find_insert]
    split
    · rename_i hid
      rw [← hid, hnew]
      rfl
    · rfl

@[simp] theorem ensureIdentity_drafts (automationId : AutomationId) (createdAt : Instant) :
    (store.ensureIdentity automationId createdAt).drafts = store.drafts := by
  unfold ensureIdentity
  split <;> rfl

@[simp] theorem ensureIdentity_versions (automationId : AutomationId) (createdAt : Instant) :
    (store.ensureIdentity automationId createdAt).versions = store.versions := by
  unfold ensureIdentity
  split <;> rfl

@[simp] theorem ensureIdentity_approvals (automationId : AutomationId) (createdAt : Instant) :
    (store.ensureIdentity automationId createdAt).approvals = store.approvals := by
  unfold ensureIdentity
  split <;> rfl

@[simp] theorem putDraft_identities (draft : AutomationDraft) :
    (store.putDraft draft).identities = store.identities := by
  unfold putDraft
  split <;> rfl

@[simp] theorem putDraft_versions (draft : AutomationDraft) :
    (store.putDraft draft).versions = store.versions := by
  unfold putDraft
  split <;> rfl

@[simp] theorem putDraft_approvals (draft : AutomationDraft) :
    (store.putDraft draft).approvals = store.approvals := by
  unfold putDraft
  split <;> rfl

theorem putDraft_find (id : AutomationId) :
    (store.putDraft draft).drafts.find id =
      if draft.automationId = id then some draft else store.drafts.find id := by
  unfold putDraft
  split
  · rename_i old hfound
    exact Table.find_replace hfound
  · rename_i hnew
    show (store.drafts.insert draft hnew).find id = _
    rw [Table.find_insert]

theorem storeDraft_spec {expectedRevision : Option ℕ} (h : store.storeDraft draft expectedRevision = .ok store') :
    draft.automationId = draft.document.id ∧
      store' = (store.ensureIdentity draft.automationId draft.document.createdAt).putDraft draft := by
  unfold storeDraft at h
  dsimp only at h
  split at h
  · cases h
  rename_i hid
  split at h
  · cases h
  split at h
  · cases h
  · cases h
    exact ⟨not_not.mp hid, rfl⟩

theorem validateVersion_ok (h : validateVersion compiler version = .ok ()) : ValidVersion compiler version := by
  unfold validateVersion at h
  dsimp only at h
  split at h
  · cases h
  rename_i documentHash hdocument
  split at h
  · cases h
  rename_i planHash hplan
  split at h
  · cases h
  rename_i hsame
  split at h
  · cases h
  rename_i hsimulation
  simp only [not_or, not_not] at hsame
  obtain ⟨hid, hversion, hd, hp, hvd, hvp, hvr⟩ := hsame
  refine ⟨hid, hversion, hd ▸ hdocument, hp ▸ hplan, hvd, hvp, hvr, ?_⟩
  intro evidence hevidence
  rw [hevidence] at hsimulation
  simp only [Option.any_some, Bool.or_eq_true, bne_iff_ne, not_or, not_not] at hsimulation
  exact ⟨hsimulation.1.1, hsimulation.1.2, hsimulation.2⟩

theorem storeVersion_spec (h : store.storeVersion compiler version = .ok store') :
    ValidVersion compiler version ∧
      (store' = store.ensureIdentity version.document.id version.document.createdAt ∨
        ∃ hnew, store' = { store.ensureIdentity version.document.id version.document.createdAt with
          versions := store.versions.insert version hnew }) := by
  unfold storeVersion at h
  cases hvalid : validateVersion compiler version with
  | error error =>
    rw [hvalid] at h
    cases h
  | ok u =>
    refine ⟨validateVersion_ok hvalid, ?_⟩
    rw [hvalid] at h
    replace h : (if 2^63 ≤ version.document.version ∨ 2^63 ≤ version.plan.registryRevision then
      Except.error StorageError.numericOverflow else _) = Except.ok store' := h
    split at h
    · cases h
    split at h
    · rename_i existing hfound
      split at h
      · cases h
        exact .inl rfl
      · cases h
    · rename_i hnew
      split at h
      · cases h
      · cases h
        rw [ensureIdentity_versions] at hnew
        refine .inr ⟨hnew, ?_⟩
        simp only [ensureIdentity_versions]

theorem transitionVersion_spec {expectedState : AutomationVersionState}
    (h : store.transitionVersion compiler version expectedState = .ok store') :
    ValidVersion compiler version ∧ ∃ current,
      store.versions.find (version.document.id, version.document.version) = some current ∧
      current.document = version.document ∧ current.plan = version.plan ∧
      current.validation = version.validation ∧
      (∀ evidence, current.simulation = some evidence → version.simulation = some evidence) ∧
      store' = { store with versions := store.versions.replace version } := by
  unfold transitionVersion at h
  cases hvalid : validateVersion compiler version with
  | error error =>
    rw [hvalid] at h
    cases h
  | ok u =>
    refine ⟨validateVersion_ok hvalid, ?_⟩
    rw [hvalid] at h
    dsimp only [bind, Except.bind] at h
    split at h
    · cases h
    rename_i current hfound
    split at h
    · cases h
    rename_i hok
    cases h
    simp only [not_or, not_not, not_and] at hok
    obtain ⟨_, _, hdocument, hplan, hvalidation, hsimulation⟩ := hok
    refine ⟨current, hfound, hdocument, hplan, hvalidation, ?_, rfl⟩
    intro evidence hevidence
    rw [← hsimulation (by rw [hevidence]; rfl)]
    exact hevidence

theorem appendApproval_spec {approval : AutomationApprovalRecord}
    (h : store.appendApproval approval = .ok store') :
    store' = store ∨ ∃ hnew, store' = { store with approvals := store.approvals.insert approval hnew } := by
  unfold appendApproval at h
  split at h
  · cases h
  split at h
  · cases h
  split at h
  · split at h
    · cases h
      exact .inl rfl
    · cases h
  · rename_i hnew
    cases h
    exact .inr ⟨hnew, rfl⟩

structure Activatable (compiler : CompilerHost) (store : AutomationStore) (automationId : AutomationId)
    (number : ℕ) (version : StoredAutomationVersion) : Prop where
  stored : store.versions.find (automationId, number) = some version
  valid : ValidVersion compiler version
  simulated : ∃ evidence, version.simulation = some evidence ∧ evidence.succeeded = true
  approved : version.plan.approval = .explicitUserApproval → ∃ approval ∈ store.approvals.rows,
    approval.automationId = automationId ∧ approval.version = number ∧ approval.state = .approved ∧
    approval.documentHash = version.plan.documentHash ∧ approval.planHash = version.plan.planHash

theorem hasExactApproval_iff :
    store.hasExactApproval activation = true ↔ ∃ approval ∈ store.approvals.rows,
      approval.automationId = activation.automationId ∧ approval.version = activation.version ∧
      approval.state = .approved ∧ approval.documentHash = activation.documentHash ∧
      approval.planHash = activation.planHash := by
  unfold hasExactApproval
  rw [List.any_eq_true]
  constructor
  · rintro ⟨approval, hmem, h⟩
    simp only [Bool.and_eq_true, beq_iff_eq] at h
    exact ⟨approval, hmem, h.1.1.1.1, h.1.1.1.2, h.1.1.2, h.1.2, h.2⟩
  · rintro ⟨approval, hmem, h1, h2, h3, h4, h5⟩
    refine ⟨approval, hmem, ?_⟩
    simp [h1, h2, h3, h4, h5]

variable (compiler) in
/-- What an activation checks and writes. -/
theorem activate_spec (h : store.activate activation = .ok (identity, store')) :
    ∃ version current, store.versions.find (activation.automationId, activation.version) = some version ∧
      store.identities.find activation.automationId = some current ∧ current.state ≠ .retired ∧
      identity.id = current.id ∧ identity.activeVersion = some activation.version ∧
      store' = { store with identities := store.identities.replace identity } ∧
      (ValidVersion compiler version →
        Activatable compiler store activation.automationId activation.version version) := by
  unfold activate at h
  split at h
  · cases h
  rename_i version hversion
  split at h
  · cases h
  rename_i hevidence
  split at h
  · cases h
  rename_i simulation hsimulation
  split at h
  · cases h
  split at h
  · cases h
  rename_i happroval
  split at h
  · cases h
  rename_i current hidentity
  split at h
  · cases h
  rename_i hretired
  split at h
  · cases h
  simp only at h
  split at h
  · cases h
  cases h
  simp only [not_or, not_not] at hevidence
  refine ⟨version, current, hversion, hidentity, hretired, rfl, rfl, rfl, ?_⟩
  intro hvalid
  refine ⟨hversion, hvalid, ⟨simulation, ?_⟩, ?_⟩
  · exact Option.filter_eq_some_iff.mp hsimulation
  · intro hexplicit
    have hexact : store.hasExactApproval activation = true := by
      rw [← Bool.not_eq_false]
      exact fun hno => happroval ⟨hexplicit, hno⟩
    obtain ⟨approval, hmem, h1, h2, h3, h4, h5⟩ := hasExactApproval_iff.mp hexact
    exact ⟨approval, hmem, h1, h2, h3, h4.trans hevidence.1, h5.trans hevidence.2.1⟩

theorem transitionIdentity_spec {written : AutomationIdentityState} {expectedRevision : ℕ}
    (h : store.transitionIdentity identity expectedRevision = .ok (written, store')) :
    ∃ current, store.identities.find identity.id = some current ∧
      current.state.allowsTransitionTo identity.state = true ∧
      identity.activeVersion = current.activeVersion ∧
      store' = { store with identities := store.identities.replace identity } := by
  unfold transitionIdentity at h
  split at h
  · cases h
  rename_i current hfound
  split at h
  · cases h
  split at h
  · cases h
  rename_i hok
  split at h
  · cases h
  cases h
  simp only [not_or, not_not, Bool.not_eq_false] at hok
  exact ⟨current, hfound, hok.2.1, hok.2.2.1.symm, rfl⟩

end AutomationStore

theorem automationHandler_governance {host : StoreHost} {c : AutomationCall}
    {store store' : AutomationStore} {r : c.Response} (hc : ∀ policy, c ≠ .retain policy)
    (h : automationHandler host c store r store') : SameGovernance store store' := by
  rcases automationHandler_wrote h with rfl | hwrote
  · exact .refl _
  cases hwrote with
  | retain hok => exact absurd rfl (hc _)
  | createOccurrence hok =>
    rcases AutomationStore.createOccurrence_spec hok with ⟨rfl, _⟩ | ⟨_, rfl, _⟩
    · exact .refl _
    · exact ⟨rfl, rfl, rfl, rfl⟩
  | transitionOccurrence hok =>
    obtain ⟨_, _, _, _, rfl⟩ := AutomationStore.transitionOccurrence_spec hok
    exact ⟨rfl, rfl, rfl, rfl⟩
  | createRun hok =>
    rcases AutomationStore.createRun_spec hok with ⟨rfl, _⟩ | ⟨_, rfl, _⟩
    · exact .refl _
    · exact ⟨rfl, rfl, rfl, rfl⟩
  | transitionTimer hok => exact (AutomationStore.transitionTimer_sameWork hok).1.governance
  | commitStep hok => exact AutomationStore.commitStep_governance hok
  | advanceEventCursor advanced hok =>
    subst hok
    exact ⟨rfl, rfl, rfl, rfl⟩

end HomeMagic
