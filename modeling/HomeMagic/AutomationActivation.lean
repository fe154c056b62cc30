import HomeMagic.AutomationAdmission
import HomeMagic.AutomationEvidence

/-! What the active version of an automation rests on, after any interleaving of
lifecycle operations with the other automation services. -/
namespace HomeMagic
open Table

structure ActivationGoverned (compiler : CompilerHost) (store : AutomationStore) : Prop where
  valid : ∀ version ∈ store.versions.rows, AutomationStore.ValidVersion compiler version
  active : ∀ identity ∈ store.identities.rows, ∀ number, identity.activeVersion = some number →
    ∃ version, AutomationStore.Activatable compiler store identity.id number version

def KeepsRetired (store store' : AutomationStore) : Prop :=
  ∀ id identity, store.identities.find id = some identity → identity.state = .retired →
    store'.identities.find id = some identity

structure EvidencePersists (keep : AutomationId × ℕ → Prop) (store store' : AutomationStore) :
    Prop where
  versions : ∀ key version, keep key → store.versions.find key = some version →
    ∃ version', store'.versions.find key = some version' ∧ version'.plan = version.plan ∧
      ∀ evidence, version.simulation = some evidence → version'.simulation = some evidence
  approvals : ∀ approval ∈ store.approvals.rows, keep (approval.automationId, approval.version) →
    approval ∈ store'.approvals.rows

def IdentitiesFrom (store store' : AutomationStore) : Prop :=
  ∀ identity ∈ store'.identities.rows, ∀ number, identity.activeVersion = some number →
    ∃ old ∈ store.identities.rows, old.id = identity.id ∧ old.activeVersion = some number

section
variable {compiler : CompilerHost} {store store' : AutomationStore}
variable {version : StoredAutomationVersion} {automationId : AutomationId} {createdAt : Instant}
  {identity : AutomationIdentityState} {keep : AutomationId × ℕ → Prop}

theorem EvidencePersists.of_eq (hversions : store'.versions = store.versions)
    (happrovals : store'.approvals = store.approvals) :
    EvidencePersists keep store store' where
  versions := by
    intro key version _ hfound
    rw [hversions]
    exact ⟨version, hfound, rfl, fun _ h => h⟩
  approvals := by
    intro approval hmem _
    rw [happrovals]
    exact hmem

theorem activatable_mono {id : AutomationId} {number : ℕ} (h : EvidencePersists keep store store')
    (hkeep : keep (id, number))
    (hvalid : ∀ version ∈ store'.versions.rows, AutomationStore.ValidVersion compiler version)
    (hactive : AutomationStore.Activatable compiler store id number version) :
    ∃ version', AutomationStore.Activatable compiler store' id number version' := by
  obtain ⟨version', hfound, hplan, hsimulation⟩ := h.versions _ _ hkeep hactive.stored
  obtain ⟨evidence, hevidence, hsucceeded⟩ := hactive.simulated
  refine ⟨version', hfound, hvalid version' (find_eq_some.mp hfound).1,
    ⟨evidence, hsimulation evidence hevidence, hsucceeded⟩, ?_⟩
  intro hexplicit
  rw [hplan] at hexplicit
  obtain ⟨approval, hmem, hid, hnumber, hstate, hdocument, hhash⟩ := hactive.approved hexplicit
  have hrow : keep (approval.automationId, approval.version) := by rwa [hid, hnumber]
  rw [hplan]
  exact ⟨approval, h.approvals approval hmem hrow, hid, hnumber, hstate, hdocument, hhash⟩

def ActiveKey (store : AutomationStore) (key : AutomationId × ℕ) : Prop :=
  ∃ identity ∈ store.identities.rows, identity.id = key.1 ∧ identity.activeVersion = some key.2

theorem ActivationGoverned.persists (h : ActivationGoverned compiler store)
    (hvalid : ∀ version ∈ store'.versions.rows, AutomationStore.ValidVersion compiler version)
    (hpersists : EvidencePersists (ActiveKey store) store store')
    (hidentities : IdentitiesFrom store store') : ActivationGoverned compiler store' where
  valid := hvalid
  active := by
    intro identity hmem number hnumber
    obtain ⟨old, hold, hid, hpointer⟩ := hidentities identity hmem number hnumber
    obtain ⟨version, hversion⟩ := h.active old hold number hpointer
    rw [hid] at hversion
    exact activatable_mono hpersists ⟨old, hold, hid, hpointer⟩ hvalid hversion

theorem identitiesFrom_of_eq (h : store'.identities = store.identities) : IdentitiesFrom store store' := by
  intro identity hmem number hnumber
  rw [h] at hmem
  exact ⟨identity, hmem, rfl, hnumber⟩

theorem ActivationGoverned.same (h : ActivationGoverned compiler store)
    (hsame : SameGovernance store store') : ActivationGoverned compiler store' := by
  refine h.persists ?_ (.of_eq hsame.versions hsame.approvals) (identitiesFrom_of_eq hsame.identities)
  rw [hsame.versions]
  exact h.valid

theorem KeepsRetired.of_eq (h : store'.identities = store.identities) : KeepsRetired store store' := by
  intro id identity hfound _
  rw [h]
  exact hfound

theorem KeepsRetired.trans {a b c : AutomationStore} (h : KeepsRetired a b) (h' : KeepsRetired b c) :
    KeepsRetired a c :=
  fun id identity hfound hretired => h' id identity (h id identity hfound hretired) hretired

namespace AutomationStore

theorem ensureIdentity_identitiesFrom :
    IdentitiesFrom store (store.ensureIdentity automationId createdAt) := by
  intro identity hmem number hnumber
  unfold ensureIdentity at hmem
  split at hmem
  · exact ⟨identity, hmem, rfl, hnumber⟩
  · rename_i hnew
    have hrow : identity ∈ (store.identities.insert _ hnew).rows := hmem
    rcases mem_insert.mp hrow with hmem | rfl
    · exact ⟨identity, hmem, rfl, hnumber⟩
    · cases hnumber

theorem ensureIdentity_keepsRetired :
    KeepsRetired store (store.ensureIdentity automationId createdAt) := by
  intro id identity hfound _
  rw [ensureIdentity_find]
  split
  · rw [hfound]
    rfl
  · exact hfound

theorem storeDraft_governed {draft : AutomationDraft} {expectedRevision : Option ℕ}
    (h : store.storeDraft draft expectedRevision = .ok store')
    (hgoverned : ActivationGoverned compiler store) :
    ActivationGoverned compiler store' ∧ KeepsRetired store store' := by
  obtain ⟨_, rfl⟩ := storeDraft_spec h
  refine ⟨hgoverned.persists ?_ (.of_eq ?_ ?_) ?_, ?_⟩
  · simp only [putDraft_versions, ensureIdentity_versions]
    exact hgoverned.valid
  · simp only [putDraft_versions, ensureIdentity_versions]
  · simp only [putDraft_approvals, ensureIdentity_approvals]
  · intro identity hmem number hnumber
    rw [putDraft_identities] at hmem
    exact ensureIdentity_identitiesFrom identity hmem number hnumber
  · intro id identity hfound hretired
    rw [putDraft_identities]
    exact ensureIdentity_keepsRetired id identity hfound hretired

theorem storeVersion_governed (h : store.storeVersion compiler version = .ok store')
    (hgoverned : ActivationGoverned compiler store) :
    ActivationGoverned compiler store' ∧ KeepsRetired store store' := by
  obtain ⟨hvalid, rfl | ⟨hnew, rfl⟩⟩ := storeVersion_spec h
  · refine ⟨hgoverned.persists ?_ (.of_eq ?_ ?_) ensureIdentity_identitiesFrom,
      ensureIdentity_keepsRetired⟩
    · rw [ensureIdentity_versions]
      exact hgoverned.valid
    · rw [ensureIdentity_versions]
    · rw [ensureIdentity_approvals]
  · refine ⟨hgoverned.persists ?_ ⟨?_, ?_⟩ ensureIdentity_identitiesFrom, ensureIdentity_keepsRetired⟩
    · intro other hmem
      have hrow : other ∈ (store.versions.insert version hnew).rows := hmem
      rcases mem_insert.mp hrow with hmem | rfl
      · exact hgoverned.valid other hmem
      · exact hvalid
    · intro key other _ hfound
      have hkey : (version.document.id, version.document.version) ≠ key := by
        intro hkey
        rw [← hkey, hnew] at hfound
        cases hfound
      refine ⟨other, ?_, rfl, fun _ h => h⟩
      show (store.versions.insert version hnew).find key = _
      rw [find_insert, if_neg hkey]
      exact hfound
    · intro approval hmem _
      show approval ∈ (store.ensureIdentity _ _).approvals.rows
      rw [ensureIdentity_approvals]
      exact hmem

theorem transitionVersion_governed {expectedState : AutomationVersionState}
    (h : store.transitionVersion compiler version expectedState = .ok store')
    (hgoverned : ActivationGoverned compiler store) :
    ActivationGoverned compiler store' ∧ KeepsRetired store store' := by
  obtain ⟨hvalid, current, hfound, hdocument, hplan, _, hsimulation, rfl⟩ := transitionVersion_spec h
  refine ⟨hgoverned.persists ?_ ⟨?_, fun _ hmem _ => hmem⟩ (identitiesFrom_of_eq rfl), .of_eq rfl⟩
  · intro other hmem
    rcases (mem_replace hfound).mp hmem with rfl | ⟨hmem, _⟩
    · exact hvalid
    · exact hgoverned.valid other hmem
  · intro key other _ hother
    show ∃ version', (store.versions.replace version).find key = some version' ∧ _
    rw [find_replace hfound]
    split
    · rename_i hkey
      rw [← hkey, hfound, Option.some.injEq] at hother
      subst hother
      exact ⟨version, rfl, hplan.symm, hsimulation⟩
    · exact ⟨other, hother, rfl, fun _ h => h⟩

theorem appendApproval_governed {approval : AutomationApprovalRecord}
    (h : store.appendApproval approval = .ok store') (hgoverned : ActivationGoverned compiler store) :
    ActivationGoverned compiler store' ∧ KeepsRetired store store' := by
  rcases appendApproval_spec h with rfl | ⟨hnew, rfl⟩
  · exact ⟨hgoverned, .of_eq rfl⟩
  · refine ⟨hgoverned.persists hgoverned.valid ⟨?_, ?_⟩ (identitiesFrom_of_eq rfl), .of_eq rfl⟩
    · exact fun _ version _ hfound => ⟨version, hfound, rfl, fun _ h => h⟩
    · intro other hmem _
      show other ∈ (store.approvals.insert approval hnew).rows
      exact mem_insert.mpr (.inl hmem)

theorem activate_governed {activation : AutomationActivation}
    (h : store.activate activation = .ok (identity, store')) (hgoverned : ActivationGoverned compiler store) :
    ActivationGoverned compiler store' ∧ KeepsRetired store store' := by
  obtain ⟨version, current, hversion, hcurrent, hretired, hid, hnumber, rfl, hactive⟩ :=
    activate_spec compiler h
  have hvalid := hgoverned.valid version (find_eq_some.mp hversion).1
  have hkey := (find_eq_some.mp hcurrent).2
  rw [hkey] at hid
  have hfound : store.identities.find identity.id = some current := by rw [hid]; exact hcurrent
  -- nothing but the identity row changes, so evidence carries over as it is
  have hsame : EvidencePersists (fun _ => True) store
      { store with identities := store.identities.replace identity } := .of_eq rfl rfl
  refine ⟨⟨hgoverned.valid, ?_⟩, ?_⟩
  · intro other hmem number hpointer
    rcases (mem_replace hfound).mp hmem with rfl | ⟨hmem, _⟩
    · rw [hnumber, Option.some.injEq] at hpointer
      subst hpointer
      rw [hid]
      exact activatable_mono hsame trivial hgoverned.valid (hactive hvalid)
    · obtain ⟨old, hold⟩ := hgoverned.active other hmem number hpointer
      exact activatable_mono hsame trivial hgoverned.valid hold
  · intro id other hother hretired'
    show (store.identities.replace identity).find id = _
    rw [find_replace hfound]
    split
    · rename_i hsameId
      rw [← hsameId, hfound, Option.some.injEq] at hother
      rw [← hother] at hretired'
      exact absurd hretired' hretired
    · exact hother

theorem transitionIdentity_governed {written : AutomationIdentityState} {expectedRevision : ℕ}
    (h : store.transitionIdentity identity expectedRevision = .ok (written, store'))
    (hgoverned : ActivationGoverned compiler store) :
    ActivationGoverned compiler store' ∧ KeepsRetired store store' := by
  obtain ⟨current, hfound, hallowed, hpointer, rfl⟩ := transitionIdentity_spec h
  refine ⟨hgoverned.persists hgoverned.valid (.of_eq rfl rfl) ?_, ?_⟩
  · intro other hmem number hnumber
    rcases (mem_replace hfound).mp hmem with rfl | ⟨hmem, _⟩
    · obtain ⟨hrow, hid⟩ := find_eq_some.mp hfound
      exact ⟨current, hrow, hid, hpointer.symm.trans hnumber⟩
    · exact ⟨other, hmem, rfl, hnumber⟩
  · intro id other hother hretired
    show (store.identities.replace identity).find id = _
    rw [find_replace hfound]
    split
    · rename_i hsameId
      rw [← hsameId, hfound, Option.some.injEq] at hother
      rw [hother, hretired, AutomationOperationalState.allowsTransitionTo_retired] at hallowed
      cases hallowed
    · exact hother

def versionRowKey (version : StoredAutomationVersion) : AutomationId × ℕ :=
  (version.document.id, version.document.version)

theorem retained_of_activeKey (host : StoreHost) (store : AutomationStore) (cutoff : Instant)
    (limit : ℕ) {key : AutomationId × ℕ} (hkey : ActiveKey store key) :
    (store.versions.page (fun version => version.state == .retired &&
      host.before version.document.createdAt cutoff &&
      (store.identities.find version.document.id).all (fun identity =>
        identity.activeVersion != some version.document.version) &&
      !store.occurrences.rows.any (fun occurrence =>
        (occurrence.automationId, occurrence.version) == versionRowKey version))
      (fun version : StoredAutomationVersion =>
        toLex (host.timestampText version.document.createdAt,
          toLex (host.automationIdText version.document.id, version.document.version))) limit).any
      (fun other => versionRowKey other == key) = false := by
  rw [List.any_eq_false]
  intro other hother heq
  obtain ⟨identity, hmem, hid, hpointer⟩ := hkey
  have hother' := (mem_of_mem_page hother).2
  simp only [Bool.and_eq_true] at hother'
  have hfree := hother'.1.2
  rw [beq_iff_eq] at heq
  have hfound : store.identities.find other.document.id = some identity := by
    refine find_eq_some.mpr ⟨hmem, ?_⟩
    rw [hid, ← heq]
    rfl
  rw [hfound, Option.all_some, bne_iff_ne, hpointer, ← heq] at hfree
  exact hfree rfl

theorem retain_governed {host : StoreHost} (policy : AutomationRetention)
    (hgoverned : ActivationGoverned compiler store) :
    ActivationGoverned compiler (store.retain host policy) ∧
      KeepsRetired store (store.retain host policy) := by
  -- only the last deletion looks at versions, in a store with the identities of this one
  let limit := max policy.limitPerCategory 1
  let before := (((((store.retainDrafts host policy.draftsBefore limit).retainTrace host
    policy.runtimeBefore limit).retainTimers host policy.runtimeBefore limit).retainRuns host
    policy.runtimeBefore limit).retainOccurrences host policy.runtimeBefore limit)
  refine ⟨hgoverned.persists ?_ ⟨?_, ?_⟩ (identitiesFrom_of_eq rfl), .of_eq rfl⟩
  · intro version hmem
    have hrow : version ∈ (store.versions.filter _).rows := hmem
    exact hgoverned.valid version (Table.mem_filter.mp hrow).1
  · intro key version hkey hfound
    obtain ⟨hmem, hrow⟩ := find_eq_some.mp hfound
    have hkept := retained_of_activeKey host before policy.versionsBefore limit hkey
    refine ⟨version, find_eq_some.mpr ⟨?_, hrow⟩, rfl, fun _ h => h⟩
    refine Table.mem_filter.mpr ⟨hmem, ?_⟩
    rw [← hrow] at hkept
    exact congrArg (fun deleted => !deleted) hkept
  · intro approval hmem hkey
    have hkept := retained_of_activeKey host before policy.versionsBefore limit hkey
    refine Table.mem_filter.mpr ⟨hmem, ?_⟩
    exact congrArg (fun deleted => !deleted) hkept

end AutomationStore
end

def governanceRules (host : LifecycleHost) (asked : ActorId → LifecycleRequest → Prop) :
    Rules LifecycleCall LifecycleCall.Response AutomationStore Unit where
  handler := lifecycleHandler host
  main := fun _ => False
  client := fun p => (∃ actorId request, asked actorId request ∧ p = request.program host actorId) ∨
    ∃ service : Program AutomationCall AutomationCall.Response Unit, p = service.embed
  mainAllowed := fun _ _ => False
  clientAllowed := fun _ _ => True

/-- No call brings a version to activation past the evidence for it. -/
theorem lifecycleHandler_governed {host : LifecycleHost} {c : LifecycleCall}
    {store store' : AutomationStore} {r : c.Response} (h : lifecycleHandler host c store r store')
    (hgoverned : ActivationGoverned host.compiler store) :
    ActivationGoverned host.compiler store' ∧ KeepsRetired store store' := by
  have hsame : ∀ {s : AutomationStore}, SameGovernance store s →
      ActivationGoverned host.compiler s ∧ KeepsRetired store s :=
    fun hs => ⟨hgoverned.same hs, .of_eq hs.identities⟩
  cases c with
  | automation c =>
    by_cases hretain : ∃ policy, c = .retain policy
    · obtain ⟨policy, rfl⟩ := hretain
      rcases Commits.cases h with ⟨_, hresult⟩ | rfl
      · cases hresult
        exact AutomationStore.retain_governed policy hgoverned
      · exact hsame (.refl _)
    · exact hsame (automationHandler_governance (fun policy heq => hretain ⟨policy, heq⟩) h)
  | newId | loadFoundation | wakeEvents =>
    cases h
    exact hsame (.refl _)
  | draft automationId =>
    cases h.1
    exact hsame (.refl _)
  | storeDraft draft expectedRevision =>
    rcases Commits.cases h with ⟨_, hresult⟩ | rfl
    · exact AutomationStore.storeDraft_governed hresult hgoverned
    · exact hsame (.refl _)
  | storeVersion version =>
    rcases Commits.cases h with ⟨_, hresult⟩ | rfl
    · exact AutomationStore.storeVersion_governed hresult hgoverned
    · exact hsame (.refl _)
  | transitionVersion version expectedState =>
    rcases Commits.cases h with ⟨_, hresult⟩ | rfl
    · exact AutomationStore.transitionVersion_governed hresult hgoverned
    · exact hsame (.refl _)
  | appendApproval approval =>
    rcases Commits.cases h with ⟨_, hresult⟩ | rfl
    · exact AutomationStore.appendApproval_governed hresult hgoverned
    · exact hsame (.refl _)
  | activate activation =>
    rcases h with ⟨row, _, hresult⟩ | ⟨_, rfl⟩
    · exact AutomationStore.activate_governed hresult hgoverned
    · exact hsame (.refl _)
  | transitionIdentity identity expectedRevision =>
    rcases h with ⟨row, _, hresult⟩ | ⟨_, rfl⟩
    · exact AutomationStore.transitionIdentity_governed hresult hgoverned
    · exact hsame (.refl _)

theorem activationGoverned_empty (compiler : CompilerHost) :
    ActivationGoverned compiler AutomationStore.empty where
  valid := fun _ hmem => absurd hmem List.not_mem_nil
  active := fun _ hmem => absurd hmem List.not_mem_nil

theorem supported_of_run {host : LifecycleHost} {asked : ActorId → LifecycleRequest → Prop}
    {reached : Processes LifecycleCall LifecycleCall.Response AutomationStore Unit}
    (hrun : Relation.ReflTransGen (Interleaves (governanceRules host asked)) ⟨AutomationStore.empty, none, []⟩ reached) :
    Supported host asked reached.state := by
  refine Interleaves.rely_guarantee (P := fun _ => True) (R := fun _ _ => True) (fun _ => trivial)
    (fun _ _ _ _ _ => trivial) (fun p _ => p.calls_true) (fun p _ => p.calls_true) (fun _ _ _ _ _ _ _ => trivial)
    ?_ ?_ hrun supported_empty rfl rfl
  · exact fun p s hp _ => False.elim hp
  · rintro p s (⟨actorId, request, hasked, rfl⟩ | ⟨service, rfl⟩) _
    · have hkeeps : (request.program host actorId).Keeps (lifecycleHandler host) _ _ _ _ s :=
        LifecycleRequest.supports hasked s
      exact hkeeps.allowed (fun _ _ h => h.2)
    · exact (supports_embed service s).allowed (fun _ _ h => h.2)

/-- Whatever lifecycle operations, service calls and crashes interleave, an active pointer names a stored version
whose validation, simulation and approval evidence is the one of its own document and plan. A validation of the
automation compiled that plan, a simulation of the version that was asked for completed, and where the plan needs an
approval, the actor of the approving record asked to approve this version. A retired identity never changes again. -/
theorem active_version_governed (host : LifecycleHost) (asked : ActorId → LifecycleRequest → Prop)
    {middle reached : Processes LifecycleCall LifecycleCall.Response AutomationStore Unit}
    (hmiddle : Relation.ReflTransGen (Interleaves (governanceRules host asked))
      ⟨AutomationStore.empty, none, []⟩ middle)
    (hreached : Relation.ReflTransGen (Interleaves (governanceRules host asked)) middle reached) :
    (∀ identity ∈ reached.state.identities.rows, ∀ number, identity.activeVersion = some number →
      ∃ version, AutomationStore.Activatable host.compiler reached.state identity.id number version ∧
        Substantiated host asked reached.state version) ∧
    ∀ id identity, middle.state.identities.find id = some identity → identity.state = .retired →
      reached.state.identities.find id = some identity := by
  let R := fun s s' : AutomationStore => ActivationGoverned host.compiler s →
    ActivationGoverned host.compiler s' ∧ KeepsRetired s s'
  have hrefl : ∀ s, R s s := fun s hs => ⟨hs, .of_eq rfl⟩
  have htrans : ∀ a b c, R a b → R b c → R a c := by
    intro a b c hab hbc ha
    obtain ⟨hb, hkeep⟩ := hab ha
    obtain ⟨hc, hkeep'⟩ := hbc hb
    exact ⟨hc, hkeep.trans hkeep'⟩
  have hrun : ∀ start last : Processes LifecycleCall LifecycleCall.Response AutomationStore Unit,
      Relation.ReflTransGen (Interleaves (governanceRules host asked)) start last →
      R start.state last.state := by
    intro start last h
    exact (Interleaves.guarantee hrefl htrans (fun p _ => p.calls_true) (fun p _ => p.calls_true)
      (fun c s r s' _ hh => lifecycleHandler_governed hh)
      ⟨fun p _ => p.calls_true, fun p _ => p.calls_true⟩ h).2
  obtain ⟨hgoverned, _⟩ := hrun _ _ hmiddle (activationGoverned_empty host.compiler)
  obtain ⟨hlast, hkeeps⟩ := hrun _ _ hreached hgoverned
  refine ⟨?_, hkeeps⟩
  intro identity hidentity number hnumber
  obtain ⟨version, hactive⟩ := hlast.active identity hidentity number hnumber
  exact ⟨version, hactive, (supported_of_run (hmiddle.trans hreached)).substantiated hactive⟩

def armedRecord : DeviceRecord :=
  { lampRecord with
    snapshot := { lampRecord.snapshot with endpoints := [⟨"switch:0", none, [.onOff false .security]⟩] }
    capabilityDescriptors := [("switch:0", [⟨"on_off", 1, .security⟩])] }

def alarmHost : LifecycleHost where
  store := minuteStoreHost
  compiler := { lampHost with
    documentHash := fun document => .ok ("document " ++ toString document.version)
    planHash := fun plan => .ok ("plan " ++ toString plan.automationVersion) }
  evaluator := lampEvaluator
  inputHash := fun _ => some "input"
  traceHash := fun _ => some "trace"

def alarmInput : AutomationSimulationInput where
  trigger := ⟨.schedule, 0, 0, minute 1, false, 0, 0, none, false⟩
  initialState := []
  stateChanges := []
  commandOutcomes := []

def alarmApply : (c : LifecycleCall) → AutomationStore → c.Response × AutomationStore :=
  lifecycleApply alarmHost (minutePorts 0) 5 ⟨[armedRecord], [], none⟩

def activating (document : AutomationDocument) (draftRevision : Option ℕ) (identityRevision : ℕ) :
    List LifecycleRequest :=
  [.putDraft document draftRevision, .validate document.id, .simulate document.id document.version alarmInput,
   .decide document.id document.version true none, .activate document.id document.version identityRevision]

def alarmOperations (actorId : ActorId) (requests : List LifecycleRequest) :
    List (Program LifecycleCall LifecycleCall.Response Unit) :=
  requests.map (LifecycleRequest.program alarmHost actorId)

theorem alarmOperations_asked {actorId : ActorId} {requests : List LifecycleRequest}
    {p : Program LifecycleCall LifecycleCall.Response Unit} (h : p ∈ alarmOperations actorId requests) :
    ∃ request ∈ requests, p = request.program alarmHost actorId := by
  obtain ⟨request, hrequest, rfl⟩ := List.mem_map.mp h
  exact ⟨request, hrequest, rfl⟩

def retiredAlarm : AutomationStore :=
  (alarmOperations 1 (activating (lampDocument [switchLamp true]) none 0 ++ [.retire 1 1])).foldl
    (fun store p => (p.run alarmApply store).2) .empty

def reactivatedAlarm : AutomationStore :=
  (alarmOperations 1 [.activate 1 1 2]).foldl (fun store p => (p.run alarmApply store).2) retiredAlarm

def alarmAsked (actorId : ActorId) (request : LifecycleRequest) : Prop :=
  actorId = 1 ∧ request ∈ activating (lampDocument [switchLamp true]) none 0 ++ [.retire 1 1, .activate 1 1 2]

theorem active_version_governed_alarm :
    (∃ version, AutomationStore.Activatable alarmHost.compiler reactivatedAlarm 1 1 version ∧
      Substantiated alarmHost alarmAsked reactivatedAlarm version) ∧
      reactivatedAlarm.identities.find 1 = some ⟨1, .retired, some 1, 2, 0, 0⟩ := by
  have hhandles := lifecycleApply_handles alarmHost (minutePorts 0) 5 ⟨[armedRecord], [], none⟩
  have hretired : Relation.ReflTransGen (Interleaves (governanceRules alarmHost alarmAsked))
      ⟨AutomationStore.empty, none, []⟩ ⟨retiredAlarm, none, List.replicate 6 (.done ()) ++ []⟩ := by
    refine Interleaves.of_run_clients hhandles (fun _ _ => trivial) _ ?_ _ _ _
    intro p hp
    obtain ⟨request, hrequest, rfl⟩ := alarmOperations_asked hp
    refine .inl ⟨1, request, ⟨rfl, ?_⟩, rfl⟩
    rcases List.mem_append.mp hrequest with hrequest | hrequest
    · exact List.mem_append_left _ hrequest
    · exact List.mem_append_right _ (List.mem_cons.mpr (.inl (List.mem_singleton.mp hrequest)))
  have hagain : Relation.ReflTransGen (Interleaves (governanceRules alarmHost alarmAsked))
      ⟨retiredAlarm, none, List.replicate 6 (.done ()) ++ []⟩
      ⟨reactivatedAlarm, none, [.done ()] ++ (List.replicate 6 (.done ()) ++ [])⟩ := by
    refine Interleaves.of_run_clients hhandles (fun _ _ => trivial) _ ?_ _ _ _
    intro p hp
    obtain ⟨request, hrequest, rfl⟩ := alarmOperations_asked hp
    refine .inl ⟨1, request, ⟨rfl, List.mem_append_right _ (List.mem_cons_of_mem _ hrequest)⟩, rfl⟩
  obtain ⟨hactive, hkeeps⟩ := active_version_governed alarmHost alarmAsked hretired hagain
  have hstate : retiredAlarm.identities.find 1 = some ⟨1, .retired, some 1, 2, 0, 0⟩ := by
    decide +kernel
  have hlast := hkeeps 1 _ hstate rfl
  exact ⟨hactive _ (Table.find_eq_some.mp hlast).1 1 rfl, hlast⟩

end HomeMagic
