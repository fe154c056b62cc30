import HomeMagic.AutomationActivation
import HomeMagic.AutomationRetention

/-! Who may change an automation. Every lifecycle operation checks the author of a
stored document before it writes, except that storing a draft looks only at the
document that comes in. -/
namespace HomeMagic
open Table AutomationStore Fallible

variable {α β : Type} {c : LifecycleCall} {written id : AutomationId} {P : LifecycleCall → Prop}
  {Q : β → AutomationStore → Prop} {document : AutomationDocument} {r : c.Response} {a b : AutomationStore}
  {createdAt : Instant} {f : α → GovernanceM β} {p : Program LifecycleCall LifecycleCall.Response Unit}

def AutomationDocument.authorId (document : AutomationDocument) : ActorId :=
  document.provenance.authorId

def StoredDocument (store : AutomationStore) (automationId : AutomationId)
    (document : AutomationDocument) : Prop :=
  (∃ draft, store.drafts.find automationId = some draft ∧ draft.document = document) ∨
  ∃ number version, store.versions.find (automationId, number) = some version ∧
    version.document = document

def Owned (actorId : ActorId) (store : AutomationStore) (automationId : AutomationId) : Prop :=
  ∃ document, StoredDocument store automationId document ∧ document.authorId = actorId

/-- All stored documents of an automation have one author, and drafts name their own
automation. -/
structure OneAuthor (store : AutomationStore) : Prop where
  labelled : ∀ draft ∈ store.drafts.rows, draft.document.id = draft.automationId
  same : ∀ automationId document other, StoredDocument store automationId document →
    StoredDocument store automationId other → document.authorId = other.authorId

def documentsOwn (c : LifecycleCall) (store : AutomationStore) : Prop :=
  match c with
  | .storeDraft draft _ => ∀ document, StoredDocument store draft.automationId document →
      document.authorId = draft.document.authorId
  | .storeVersion version => ∀ document, StoredDocument store version.document.id document →
      document.authorId = version.document.authorId
  | _ => True

structure SameAutomation (automationId : AutomationId) (store store' : AutomationStore) : Prop where
  draft : store'.drafts.find automationId = store.drafts.find automationId
  identity : store'.identities.find automationId = store.identities.find automationId
  versions : ∀ number, store'.versions.find (automationId, number) =
    store.versions.find (automationId, number)

def AuthorsPersist (store store' : AutomationStore) : Prop :=
  ∀ automationId actorId, Owned actorId store automationId → Owned actorId store' automationId

/-- What an actor's operations may do to a store: read, and write about automations of
which the actor has authored a stored document. -/
def OwnedCall (actorId : ActorId) : LifecycleCall → AutomationStore → Prop
  | .automation c, _ => ∀ policy, c ≠ .retain policy
  | .newId, _ | .loadFoundation, _ | .wakeEvents, _ | .draft _, _ | .appendApproval _, _ => True
  | .storeDraft draft expectedRevision, store =>
    draft.document.authorId = actorId ∧ documentsOwn (.storeDraft draft expectedRevision) store
  | .storeVersion version, store =>
    version.document.authorId = actorId ∧ Owned actorId store version.document.id
  | .transitionVersion version _, store => Owned actorId store version.document.id
  | .activate activation, store => Owned actorId store activation.automationId
  | .transitionIdentity identity _, store => Owned actorId store identity.id

variable {compiler : CompilerHost} {expectedState : AutomationVersionState}

variable {host : LifecycleHost}

section
variable {store store' : AutomationStore} {actorId : ActorId} {automationId : AutomationId}

theorem AuthorsPersist.refl (store : AutomationStore) : AuthorsPersist store store := fun _ _ h => h

theorem AuthorsPersist.trans {c : AutomationStore} (h : AuthorsPersist a b) (h' : AuthorsPersist b c) :
    AuthorsPersist a c :=
  fun id actor hown => h' id actor (h id actor hown)

theorem SameAutomation.refl (automationId : AutomationId) (store : AutomationStore) :
    SameAutomation automationId store store := ⟨rfl, rfl, fun _ => rfl⟩

theorem SameAutomation.trans {c : AutomationStore} (h : SameAutomation automationId a b)
    (h' : SameAutomation automationId b c) : SameAutomation automationId a c :=
  ⟨h'.draft.trans h.draft, h'.identity.trans h.identity,
    fun number => (h'.versions number).trans (h.versions number)⟩

theorem SameGovernance.automation (h : SameGovernance store store') (automationId : AutomationId) :
    SameAutomation automationId store store' :=
  ⟨by rw [h.drafts], by rw [h.identities], fun _ => by rw [h.versions]⟩

theorem SameAutomation.storedDocument (h : SameAutomation automationId store store') :
    StoredDocument store' automationId document ↔ StoredDocument store automationId document := by
  unfold StoredDocument
  simp only [h.draft, h.versions]

theorem OneAuthor.author (h : OneAuthor store) (hown : Owned actorId store automationId)
    (hdocument : StoredDocument store automationId document) :
    document.authorId = actorId := by
  obtain ⟨other, hother, hauthor⟩ := hown
  exact (h.same automationId document other hdocument hother).trans hauthor

theorem StoredDocument.draft {draft : AutomationDraft}
    (h : store.drafts.find automationId = some draft) :
    StoredDocument store automationId draft.document := .inl ⟨draft, h, rfl⟩

theorem StoredDocument.version (number : ℕ) {version : StoredAutomationVersion}
    (h : store.versions.find (automationId, number) = some version) :
    StoredDocument store automationId version.document := .inr ⟨number, version, h, rfl⟩

structure WritesOwn (actorId : ActorId) (written : AutomationId) (store store' : AutomationStore) :
    Prop where
  others : ∀ automationId, automationId ≠ written → SameAutomation automationId store store'
  documents : ∀ document, StoredDocument store' written document →
    StoredDocument store written document ∨ document.authorId = actorId
  keeps : ∀ document, StoredDocument store written document →
    ∃ document', StoredDocument store' written document' ∧ document'.authorId = document.authorId
  labelled : (∀ draft ∈ store.drafts.rows, draft.document.id = draft.automationId) →
    ∀ draft ∈ store'.drafts.rows, draft.document.id = draft.automationId

theorem WritesOwn.authorsPersist (h : WritesOwn actorId written store store') : AuthorsPersist store store' := by
  intro id actor hown
  obtain ⟨document, hdocument, hauthor⟩ := hown
  by_cases hid : id = written
  · subst hid
    obtain ⟨document', hstored, hsame⟩ := h.keeps document hdocument
    exact ⟨document', hstored, hsame.trans hauthor⟩
  · exact ⟨document, (h.others id hid).storedDocument.mpr hdocument, hauthor⟩

theorem WritesOwn.oneAuthor (h : WritesOwn actorId written store store') (hone : OneAuthor store)
    (howned : ∀ document, StoredDocument store written document → document.authorId = actorId) :
    OneAuthor store' where
  labelled := h.labelled hone.labelled
  same := by
    intro id document other hdocument hother
    by_cases hid : id = written
    · subst hid
      have hauthor : ∀ d, StoredDocument store' id d → d.authorId = actorId := by
        intro d hd
        rcases h.documents d hd with hold | hnew
        · exact howned d hold
        · exact hnew
      rw [hauthor document hdocument, hauthor other hother]
    · have hsame := h.others id hid
      exact hone.same id document other (hsame.storedDocument.mp hdocument)
        (hsame.storedDocument.mp hother)

namespace AutomationStore

theorem ensureIdentity_same (h : id ≠ written) :
    SameAutomation id store (store.ensureIdentity written createdAt) where
  draft := by rw [ensureIdentity_drafts]
  identity := by rw [ensureIdentity_find, if_neg h.symm]
  versions := fun _ => by rw [ensureIdentity_versions]

theorem putDraft_same {draft : AutomationDraft} (h : id ≠ draft.automationId) :
    SameAutomation id store (store.putDraft draft) where
  draft := by rw [putDraft_find, if_neg h.symm]
  identity := by rw [putDraft_identities]
  versions := fun _ => by rw [putDraft_versions]

theorem ensureIdentity_storedDocument :
    StoredDocument (store.ensureIdentity written createdAt) id document ↔
      StoredDocument store id document := by
  unfold StoredDocument
  simp only [ensureIdentity_drafts, ensureIdentity_versions]

theorem storeDraft_writesOwn {draft : AutomationDraft} {expectedRevision : Option ℕ}
    (h : store.storeDraft draft expectedRevision = .ok store')
    (hown : documentsOwn (.storeDraft draft expectedRevision) store) :
    WritesOwn draft.document.authorId draft.automationId store store' := by
  obtain ⟨hlabel, rfl⟩ := storeDraft_spec h
  have hdraft : ((store.ensureIdentity draft.automationId draft.document.createdAt).putDraft
      draft).drafts.find draft.automationId = some draft := by
    rw [putDraft_find, if_pos rfl]
  refine ⟨?_, ?_, ?_, ?_⟩
  · intro id hid
    exact (ensureIdentity_same hid).trans (putDraft_same hid)
  · rintro document (⟨stored, hfound, rfl⟩ | ⟨number, version, hfound, rfl⟩)
    · rw [hdraft, Option.some.injEq] at hfound
      subst hfound
      exact .inr rfl
    · rw [putDraft_versions, ensureIdentity_versions] at hfound
      exact .inl (.version number hfound)
  · intro document hdocument
    exact ⟨draft.document, .draft hdraft, (hown document hdocument).symm⟩
  · intro hall stored hmem
    have hfound : ((store.ensureIdentity draft.automationId draft.document.createdAt).putDraft
        draft).drafts.find stored.automationId = some stored := find_eq_some.mpr ⟨hmem, rfl⟩
    rw [putDraft_find] at hfound
    split at hfound
    · cases hfound
      exact hlabel.symm
    · rw [ensureIdentity_drafts] at hfound
      exact hall stored (find_eq_some.mp hfound).1

/-- A stored version is a write about its automation. -/
theorem storeVersion_writesOwn {version : StoredAutomationVersion}
    (h : store.storeVersion compiler version = .ok store') :
    WritesOwn version.document.authorId version.document.id store store' := by
  obtain ⟨_, rfl | ⟨hnew, rfl⟩⟩ := storeVersion_spec h
  · refine ⟨fun id hid => ensureIdentity_same hid, ?_, ?_, ?_⟩
    · exact fun document hdocument => .inl (ensureIdentity_storedDocument.mp hdocument)
    · exact fun document hdocument => ⟨document, ensureIdentity_storedDocument.mpr hdocument, rfl⟩
    · intro hall
      rw [ensureIdentity_drafts]
      exact hall
  · have hfind : ∀ key, (store.versions.insert version hnew).find key =
        if (version.document.id, version.document.version) = key then some version
        else store.versions.find key := fun key => find_insert
    refine ⟨?_, ?_, ?_, ?_⟩
    · intro id hid
      have hsame : SameAutomation id store
          (store.ensureIdentity version.document.id version.document.createdAt) :=
        ensureIdentity_same hid
      refine ⟨hsame.draft, hsame.identity, ?_⟩
      intro number
      show (store.versions.insert version hnew).find (id, number) = _
      rw [hfind, if_neg]
      exact fun heq => hid (congrArg Prod.fst heq).symm
    · rintro document (⟨stored, hfound, rfl⟩ | ⟨number, stored, hfound, rfl⟩)
      · have hold : (store.ensureIdentity version.document.id version.document.createdAt).drafts.find
            version.document.id = some stored := hfound
        rw [ensureIdentity_drafts] at hold
        exact .inl (.draft hold)
      · have hrow : (store.versions.insert version hnew).find (version.document.id, number) =
            some stored := hfound
        rw [hfind] at hrow
        split at hrow
        · cases hrow
          exact .inr rfl
        · exact .inl (.version number hrow)
    · rintro document (⟨stored, hfound, rfl⟩ | ⟨number, stored, hfound, rfl⟩)
      · refine ⟨stored.document, .draft ?_, rfl⟩
        show (store.ensureIdentity version.document.id version.document.createdAt).drafts.find _ = _
        rw [ensureIdentity_drafts]
        exact hfound
      · refine ⟨stored.document, .version number ?_, rfl⟩
        show (store.versions.insert version hnew).find (version.document.id, number) = _
        rw [hfind, if_neg]
        · exact hfound
        · intro heq
          rw [← heq, hnew] at hfound
          cases hfound
    · intro hall
      show ∀ draft ∈ (store.ensureIdentity _ _).drafts.rows, _
      rw [ensureIdentity_drafts]
      exact hall

theorem transitionVersion_writesOwn {version : StoredAutomationVersion} (actorId : ActorId)
    (h : store.transitionVersion compiler version expectedState = .ok store') :
    WritesOwn actorId version.document.id store store' := by
  obtain ⟨_, current, hcurrent, hdocument, _, _, _, rfl⟩ := transitionVersion_spec h
  have hfind : ∀ key, (store.versions.replace version).find key =
      if (version.document.id, version.document.version) = key then some version
      else store.versions.find key := fun key => find_replace hcurrent
  refine ⟨?_, ?_, ?_, fun hall => hall⟩
  · intro id hid
    refine ⟨rfl, rfl, ?_⟩
    intro number
    show (store.versions.replace version).find (id, number) = _
    rw [hfind, if_neg]
    exact fun heq => hid (congrArg Prod.fst heq).symm
  · rintro document (⟨stored, hfound, rfl⟩ | ⟨number, stored, hfound, rfl⟩)
    · exact .inl (.draft hfound)
    · have hrow : (store.versions.replace version).find (version.document.id, number) =
          some stored := hfound
      rw [hfind] at hrow
      split at hrow
      · cases hrow
        exact .inl (.inr ⟨_, current, hcurrent, hdocument⟩)
      · exact .inl (.version number hrow)
  · rintro document (⟨stored, hfound, rfl⟩ | ⟨number, stored, hfound, rfl⟩)
    · exact ⟨stored.document, .draft hfound, rfl⟩
    · have hrow := hfind (version.document.id, number)
      split at hrow
      · rename_i heq
        rw [← heq, hcurrent, Option.some.injEq] at hfound
        subst hfound
        rw [hdocument]
        exact ⟨version.document, .version number hrow, rfl⟩
      · exact ⟨stored.document, .version number (hrow.trans hfound), rfl⟩

theorem replaceIdentity_writesOwn (actorId : ActorId) {identity current : AutomationIdentityState}
    (hcurrent : store.identities.find identity.id = some current) :
    WritesOwn actorId identity.id store
      { store with identities := store.identities.replace identity } := by
  refine ⟨?_, fun _ h => .inl h, fun document h => ⟨document, h, rfl⟩, fun hall => hall⟩
  intro id hid
  refine ⟨rfl, ?_, fun _ => rfl⟩
  show (store.identities.replace identity).find id = _
  rw [find_replace hcurrent, if_neg hid.symm]

end AutomationStore

structure Confined (actorId : ActorId) (store store' : AutomationStore) : Prop where
  oneAuthor : OneAuthor store'
  persists : AuthorsPersist store store'
  others : ∀ automationId document, StoredDocument store automationId document →
    document.authorId ≠ actorId → SameAutomation automationId store store'

theorem WritesOwn.confined (h : WritesOwn actorId written store store') (hone : OneAuthor store)
    (howned : ∀ document, StoredDocument store written document → document.authorId = actorId) :
    Confined actorId store store' where
  oneAuthor := h.oneAuthor hone howned
  persists := h.authorsPersist
  others := by
    intro id document hdocument hother
    refine h.others id ?_
    rintro rfl
    exact hother (howned document hdocument)

theorem SameGovernance.confined (h : SameGovernance store store') (hone : OneAuthor store) :
    Confined actorId store store' where
  oneAuthor := by
    refine ⟨?_, ?_⟩
    · rw [h.drafts]
      exact hone.labelled
    · intro id document other hdocument hother
      have hsame := h.automation id
      exact hone.same id document other (hsame.storedDocument.mp hdocument)
        (hsame.storedDocument.mp hother)
  persists := by
    intro id actor hown
    obtain ⟨document, hdocument, hauthor⟩ := hown
    exact ⟨document, (h.automation id).storedDocument.mpr hdocument, hauthor⟩
  others := fun id _ _ _ => h.automation id

theorem Confined.refl (hone : OneAuthor store) : Confined actorId store store :=
  (SameGovernance.refl store).confined hone

/-- What an owned call does is confined to the actor's automations. -/
theorem OwnedCall.confined (hcall : OwnedCall actorId c store) (hone : OneAuthor store)
    (h : lifecycleHandler host c store r store') : Confined actorId store store' := by
  cases c with
  | automation c => exact (automationHandler_governance hcall h).confined hone
  | newId | loadFoundation | wakeEvents =>
    cases h
    exact .refl hone
  | draft automationId =>
    cases h.1
    exact .refl hone
  | storeDraft draft expectedRevision =>
    rcases Commits.cases h with ⟨_, hresult⟩ | rfl
    · obtain ⟨rfl, hown⟩ := hcall
      exact (AutomationStore.storeDraft_writesOwn hresult hown).confined hone hown
    · exact .refl hone
  | storeVersion version =>
    rcases Commits.cases h with ⟨_, hresult⟩ | rfl
    · obtain ⟨rfl, hown⟩ := hcall
      exact (AutomationStore.storeVersion_writesOwn hresult).confined hone
        (fun _ hdocument => hone.author hown hdocument)
    · exact .refl hone
  | transitionVersion version expectedState =>
    rcases Commits.cases h with ⟨_, hresult⟩ | rfl
    · exact (AutomationStore.transitionVersion_writesOwn actorId hresult).confined hone
        (fun _ hdocument => hone.author hcall hdocument)
    · exact .refl hone
  | appendApproval approval =>
    rcases Commits.cases h with ⟨_, hresult⟩ | rfl
    · rcases appendApproval_spec hresult with rfl | ⟨_, rfl⟩
      · exact .refl hone
      · have hsame : ∀ id, SameAutomation id store { store with
            approvals := store.approvals.insert approval ‹_› } := fun id => ⟨rfl, rfl, fun _ => rfl⟩
        exact ⟨⟨hone.labelled, hone.same⟩, fun _ _ hown => hown, fun id _ _ _ => hsame id⟩
    · exact .refl hone
  | activate activation =>
    rcases h with ⟨row, _, hresult⟩ | ⟨_, rfl⟩
    · obtain ⟨version, current, _, hcurrent, _, hid, _, rfl, _⟩ :=
        activate_spec host.compiler hresult
      have hrow : row.id = activation.automationId := hid.trans (find_eq_some.mp hcurrent).2
      rw [← hrow] at hcurrent
      refine (AutomationStore.replaceIdentity_writesOwn actorId hcurrent).confined hone ?_
      rw [hrow]
      exact fun _ hdocument => hone.author hcall hdocument
    · exact .refl hone
  | transitionIdentity identity expectedRevision =>
    rcases h with ⟨row, _, hresult⟩ | ⟨_, rfl⟩
    · obtain ⟨current, hcurrent, _, _, rfl⟩ := transitionIdentity_spec hresult
      exact (AutomationStore.replaceIdentity_writesOwn actorId hcurrent).confined hone
        (fun _ hdocument => hone.author hcall hdocument)
    · exact .refl hone

def KeepsRows : LifecycleCall → Prop
  | .automation (.retain _) => False
  | _ => True

/-- Authors of stored documents stay. -/
theorem authorsPersist_of_handler (hrows : KeepsRows c) (hown : documentsOwn c store)
    (h : lifecycleHandler host c store r store') : AuthorsPersist store store' := by
  have hsame : SameGovernance store store' → AuthorsPersist store store' := by
    rintro hs id actor ⟨document, hdocument, hauthor⟩
    exact ⟨document, (hs.automation id).storedDocument.mpr hdocument, hauthor⟩
  cases c with
  | automation c =>
    refine hsame (automationHandler_governance ?_ h)
    rintro policy rfl
    exact hrows
  | newId | loadFoundation | wakeEvents =>
    cases h
    exact .refl _
  | draft automationId =>
    cases h.1
    exact .refl _
  | storeDraft draft expectedRevision =>
    rcases Commits.cases h with ⟨_, hresult⟩ | rfl
    · exact (AutomationStore.storeDraft_writesOwn hresult hown).authorsPersist
    · exact .refl _
  | storeVersion version =>
    rcases Commits.cases h with ⟨_, hresult⟩ | rfl
    · exact (AutomationStore.storeVersion_writesOwn hresult).authorsPersist
    · exact .refl _
  | transitionVersion version expectedState =>
    rcases Commits.cases h with ⟨_, hresult⟩ | rfl
    · exact (AutomationStore.transitionVersion_writesOwn 0 hresult).authorsPersist
    · exact .refl _
  | appendApproval approval =>
    rcases Commits.cases h with ⟨_, hresult⟩ | rfl
    · rcases appendApproval_spec hresult with rfl | ⟨_, rfl⟩
      · exact .refl _
      · exact fun _ _ howned => howned
    · exact .refl _
  | activate activation =>
    rcases h with ⟨row, _, hresult⟩ | ⟨_, rfl⟩
    · obtain ⟨_, _, _, _, _, _, _, rfl, _⟩ := activate_spec host.compiler hresult
      exact fun _ _ howned => howned
    · exact .refl _
  | transitionIdentity identity expectedRevision =>
    rcases h with ⟨row, _, hresult⟩ | ⟨_, rfl⟩
    · obtain ⟨_, _, _, _, rfl⟩ := transitionIdentity_spec hresult
      exact fun _ _ howned => howned
    · exact .refl _

end

namespace Lifecycle

theorem calls_consult (h : P c) : (consult c).Calls P :=
  ⟨h, fun _ => trivial⟩

theorem calls_stored {p : Program LifecycleCall LifecycleCall.Response (Except StorageError α)} (h : p.Calls P) :
    (stored p).run.Calls P := calls_attempt h

theorem calls_answer (h : P c) :
    (answer c).run.Calls P := ⟨h, fun _ => trivial⟩

theorem calls_ensureOwner (actorId : ActorId) (document : AutomationDocument) (value : α) :
    (ensureOwner actorId document value).run.Calls P := by
  unfold ensureOwner
  split <;> trivial

theorem calls_wake : wake.run.Calls KeepsRows :=
  calls_attempt (calls_consult trivial)

theorem calls_now : now.run.Calls KeepsRows := calls_answer trivial

theorem calls_draft (actorId : ActorId) (automationId : AutomationId) :
    (draft actorId automationId).run.Calls KeepsRows := by
  refine calls_bind (calls_stored (calls_consult trivial)) ?_
  intro found
  cases found with
  | none => trivial
  | some draft => exact calls_ensureOwner _ _ _

theorem calls_version (actorId : ActorId) (automationId : AutomationId) (number : ℕ) :
    (version actorId automationId number).run.Calls KeepsRows := by
  refine calls_bind (calls_stored (calls_consult trivial)) ?_
  intro found
  cases found with
  | none => trivial
  | some version => exact calls_ensureOwner _ _ _

theorem calls_putDraft (actorId : ActorId) (document : AutomationDocument)
    (expectedRevision : Option ℕ) :
    (putDraft actorId document expectedRevision).run.Calls KeepsRows := by
  refine calls_bind (calls_ensureOwner _ _ _) ?_
  intro _
  refine calls_bind calls_now ?_
  intro updatedAt
  refine calls_bind (calls_stored (calls_consult trivial)) ?_
  exact fun _ => trivial

theorem calls_createDraft (actorId : ActorId) (input : AutomationDraftCreateInput) :
    (createDraft actorId input).run.Calls KeepsRows := by
  refine calls_bind calls_now ?_
  intro createdAt
  refine calls_bind (calls_answer trivial) ?_
  exact fun id => calls_putDraft _ _ _

theorem calls_validate (host : LifecycleHost) (actorId : ActorId) (automationId : AutomationId) :
    (validate host actorId automationId).run.Calls KeepsRows := by
  refine calls_bind (calls_draft _ _) ?_
  intro draft
  refine calls_bind (calls_attempt (calls_consult trivial)) ?_
  intro snapshot
  split
  · trivial
  · refine calls_bind calls_now ?_
    intro validatedAt
    refine calls_bind (calls_stored (calls_consult trivial)) ?_
    intro _
    exact calls_bind calls_wake (fun _ => trivial)

theorem calls_simulate (host : LifecycleHost) (actorId : ActorId) (automationId : AutomationId)
    (number : ℕ) (input : AutomationSimulationInput) :
    (simulate host actorId automationId number input).run.Calls KeepsRows := by
  refine calls_bind (calls_version _ _ _) ?_
  intro loaded
  split
  · trivial
  split
  · trivial
  split
  · trivial
  refine calls_bind calls_now ?_
  intro simulatedAt
  refine calls_bind (calls_stored (calls_consult trivial)) ?_
  intro _
  split
  · refine calls_bind (calls_stored (calls_consult trivial)) ?_
    intro _
    exact calls_bind calls_wake (fun _ => trivial)
  · exact calls_bind calls_wake (fun _ => trivial)

theorem calls_decide (actorId : ActorId) (automationId : AutomationId) (number : ℕ) (approved : Bool)
    (rationale : Option String) :
    (Lifecycle.decide actorId automationId number approved rationale).run.Calls KeepsRows := by
  refine calls_bind (calls_version _ _ _) ?_
  intro loaded
  split
  · trivial
  refine calls_bind (calls_answer trivial) ?_
  intro id
  refine calls_bind calls_now ?_
  intro decidedAt
  refine calls_bind (calls_stored (calls_consult trivial)) ?_
  intro _
  refine calls_bind (calls_stored (calls_consult trivial)) ?_
  intro _
  exact calls_bind calls_wake (fun _ => trivial)

theorem calls_activate (actorId : ActorId) (automationId : AutomationId)
    (number expectedRevision : ℕ) :
    (activate actorId automationId number expectedRevision).run.Calls KeepsRows := by
  refine calls_bind (calls_version _ _ _) ?_
  intro loaded
  split
  · trivial
  refine calls_bind calls_now ?_
  intro activatedAt
  refine calls_bind (calls_stored (calls_consult trivial)) ?_
  intro identity
  exact calls_bind calls_wake (fun _ => trivial)

theorem calls_ensureIdentityOwner (actorId : ActorId) (automationId : AutomationId)
    (identity : AutomationIdentityState) :
    (ensureIdentityOwner actorId automationId identity).run.Calls KeepsRows := by
  unfold ensureIdentityOwner
  split
  · exact calls_bind (calls_version _ _ _) (fun _ => trivial)
  · exact calls_bind (calls_draft _ _) (fun _ => trivial)

theorem calls_transitionOperational (actorId : ActorId) (automationId : AutomationId)
    (expectedRevision : ℕ) (state : AutomationOperationalState) :
    (transitionOperational actorId automationId expectedRevision state).run.Calls KeepsRows := by
  refine calls_bind (calls_stored (calls_consult trivial)) ?_
  intro found
  cases found with
  | none => trivial
  | some identity =>
    refine calls_bind (calls_ensureIdentityOwner _ _ _) ?_
    intro _
    split
    · trivial
    refine calls_bind calls_now ?_
    intro updatedAt
    refine calls_bind (calls_stored (calls_consult trivial)) ?_
    intro identity
    exact calls_bind calls_wake (fun _ => trivial)

end Lifecycle

structure Guards (host : LifecycleHost) (actorId : ActorId) (I : AutomationStore → Prop) : Prop where
  oneAuthor : ∀ s, I s → OneAuthor s
  call : ∀ c s r s', I s → OwnedCall actorId c s → lifecycleHandler host c s r s' → I s'

abbrev Owning {α : Type} (host : LifecycleHost) (I : AutomationStore → Prop) (x : GovernanceM α)
    (Q : α → AutomationStore → Prop) (store : AutomationStore) : Prop :=
  x.run.Keeps (lifecycleHandler host) (fun c s => documentsOwn c s ∧ I s) AuthorsPersist I
    (Fallible.OnOk Q) store

namespace Lifecycle
variable {host : LifecycleHost} {actorId : ActorId} {I : AutomationStore → Prop}
  {store : AutomationStore}

theorem owning_bind {x : GovernanceM α} (h : Owning host I x (fun a s => Owning host I (f a) Q s) store) :
    Owning host I (x >>= f) Q store :=
  keeps_bind AuthorsPersist.refl h

theorem owning_call {ε : Type} {wrap : ε → AutomationLifecycleError}
    {p : Program LifecycleCall LifecycleCall.Response (Except ε α)}
    (h : p.Keeps (lifecycleHandler host) (fun c s => documentsOwn c s ∧ I s) AuthorsPersist I
      (Fallible.OnOk (fun a s => Owning host I (f a) Q s)) store) :
    Owning host I (Fallible.attempt wrap p >>= f) Q store :=
  keeps_attempt_bind AuthorsPersist.refl (fun _ _ _ => AuthorsPersist.trans) h

theorem owning_ensureOwner {value : α} {Q : α → AutomationStore → Prop}
    (h : document.authorId = actorId → ∀ s, AuthorsPersist store s → Q value s) :
    Owning host I (ensureOwner actorId document value) Q store := by
  unfold ensureOwner
  split
  · rename_i howner
    exact keeps_pure (h howner)
  · exact keeps_throw

section
variable (hguards : Guards host actorId I)
include hguards

theorem owning_read {Q : c.Response → AutomationStore → Prop} (hcall : ∀ s, OwnedCall actorId c s)
    (h : ∀ s r s', AuthorsPersist store s → I s → lifecycleHandler host c s r s' →
      ∀ s₁, AuthorsPersist s' s₁ → Q r s₁) :
    (consult c).Keeps (lifecycleHandler host) (fun c s => documentsOwn c s ∧ I s) AuthorsPersist I Q
      store := by
  intro s hr ha r s' hh
  exact ⟨hguards.call c s r s' ha.2 (hcall s) hh, fun s₁ hr₁ => h s r s' hr ha.2 hh s₁ hr₁⟩

theorem owning_write {Q : c.Response → AutomationStore → Prop} (hrows : KeepsRows c)
    (hcall : ∀ s, AuthorsPersist store s → documentsOwn c s → OwnedCall actorId c s)
    (h : ∀ r s, AuthorsPersist store s → Q r s) :
    (consult c).Keeps (lifecycleHandler host) (fun c s => documentsOwn c s ∧ I s) AuthorsPersist I Q
      store := by
  intro s hr ha r s' hh
  have hpersists := authorsPersist_of_handler hrows ha.1 hh
  refine ⟨hguards.call c s r s' ha.2 (hcall s hr ha.1) hh, ?_⟩
  intro s₁ hr₁
  exact h r s₁ (hr.trans (hpersists.trans hr₁))

theorem owning_draft (automationId : AutomationId) :
    Owning host I (draft actorId automationId) (fun draft s => draft.document.id = automationId ∧
      draft.document.authorId = actorId ∧ Owned actorId s automationId) store := by
  apply owning_call
  refine owning_read hguards (fun _ => trivial) ?_
  intro s r s' _ hi hh s₁ hr₁ found hfound
  obtain ⟨rfl, hanswer⟩ := hh
  cases found with
  | none => exact keeps_throw
  | some draft =>
    have hstored := (hanswer _ hfound).symm
    obtain ⟨hrow, hkey⟩ := find_eq_some.mp hstored
    refine owning_ensureOwner ?_
    intro hauthor s₂ hr₂
    have howned : Owned actorId s' automationId := ⟨draft.document, .draft hstored, hauthor⟩
    exact ⟨((hguards.oneAuthor s' hi).labelled draft hrow).trans hkey, hauthor,
      hr₂ _ _ (hr₁ _ _ howned)⟩

theorem owning_version (automationId : AutomationId) (number : ℕ) :
    Owning host I (version actorId automationId number) (fun version s =>
      version.document.id = automationId ∧ Owned actorId s automationId) store := by
  apply owning_call
  refine owning_read hguards (fun _ => nofun) ?_
  intro s r s' _ hi hh s₁ hr₁ found hfound
  obtain ⟨rfl, hanswer⟩ := hh
  cases found with
  | none => exact keeps_throw
  | some version =>
    have hstored := (hanswer _ hfound).symm
    obtain ⟨_, hkey⟩ := find_eq_some.mp hstored
    refine owning_ensureOwner ?_
    intro hauthor s₂ hr₂
    have howned : Owned actorId s' automationId := ⟨version.document, .version number hstored, hauthor⟩
    exact ⟨congrArg Prod.fst hkey, hr₂ _ _ (hr₁ _ _ howned)⟩

theorem owning_now {f : Instant → GovernanceM β}
    (h : ∀ instant s, AuthorsPersist store s → Owning host I (f instant) Q s) :
    Owning host I (now >>= f) Q store := by
  refine keeps_answer_bind ?_
  intro s hr ha r s' hh
  have hsame : s' = s := hh
  refine ⟨hguards.call _ s r s' ha.2 nofun hh, ?_⟩
  rw [hsame]
  exact h r s hr

theorem owning_newId {f : ℕ → GovernanceM β} (h : ∀ id s, AuthorsPersist store s → Owning host I (f id) Q s) :
    Owning host I (answer .newId >>= f) Q store := by
  refine keeps_answer_bind ?_
  intro s hr ha r s' hh
  have hsame : s' = s := hh
  refine ⟨hguards.call _ s r s' ha.2 trivial hh, ?_⟩
  rw [hsame]
  exact h r s hr

theorem owning_wake (value : α) :
    Owning host I (wake >>= fun _ => pure value) (fun _ _ => True) store := by
  apply owning_call
  refine owning_read hguards (fun _ => trivial) ?_
  intro s r s' _ _ _ s₁ _ _ _
  exact keeps_pure (fun _ _ => trivial)

theorem owning_putDraft (document : AutomationDocument) (expectedRevision : Option ℕ) :
    Owning host I (putDraft actorId document expectedRevision) (fun _ _ => True) store := by
  refine owning_bind (owning_ensureOwner ?_)
  intro hauthor s _
  refine owning_now hguards ?_
  intro updatedAt s₁ _
  apply owning_call
  refine owning_write hguards trivial (fun _ _ hown => ⟨hauthor, hown⟩) ?_
  intro r s₂ _ _ _
  exact keeps_pure (fun _ _ => trivial)

theorem owning_createDraft (input : AutomationDraftCreateInput) :
    Owning host I (createDraft actorId input) (fun _ _ => True) store := by
  refine owning_now hguards ?_
  intro createdAt s _
  refine owning_newId hguards ?_
  intro id s₁ _
  exact owning_putDraft hguards _ none

theorem owning_validate (automationId : AutomationId) :
    Owning host I (validate host actorId automationId) (fun _ _ => True) store := by
  refine owning_bind ((owning_draft hguards automationId).mono ?_)
  intro result s hresult draft hdraft
  obtain ⟨hid, hauthor, howned⟩ := hresult draft hdraft
  apply owning_call
  refine owning_read hguards (fun _ => trivial) ?_
  intro s₁ r s₂ hr₁ _ hh s₃ hr₃ snapshot _
  have hsame : s₂ = s₁ := hh
  rw [hsame] at hr₃
  split
  · exact keeps_throw
  refine owning_now hguards ?_
  intro validatedAt s₄ hr₄
  apply owning_call
  refine owning_write hguards trivial ?_ ?_
  · intro s₅ hr₅ _
    refine ⟨hauthor, ?_⟩
    rw [hid]
    exact hr₅ _ _ (hr₄ _ _ (hr₃ _ _ (hr₁ _ _ howned)))
  · exact fun r s₅ _ _ _ => owning_wake hguards _

theorem owning_transition {version : StoredAutomationVersion} {f : Unit → GovernanceM α}
    {Q : α → AutomationStore → Prop} (howned : Owned actorId store version.document.id)
    (h : ∀ s, Owned actorId s version.document.id → Owning host I (f ()) Q s) :
    Owning host I (stored (consult (.transitionVersion version expectedState)) >>= f) Q store := by
  apply owning_call
  refine owning_write hguards trivial (fun s hr _ => hr _ _ howned) ?_
  exact fun r s hr _ _ => h s (hr _ _ howned)

theorem owning_simulate (automationId : AutomationId) (number : ℕ) (input : AutomationSimulationInput) :
    Owning host I (simulate host actorId automationId number input) (fun _ _ => True) store := by
  refine owning_bind ((owning_version hguards automationId number).mono ?_)
  intro result s hresult loaded hloaded
  obtain ⟨hid, howned⟩ := hresult loaded hloaded
  split
  · exact keeps_throw
  split
  · exact keeps_throw
  split
  · exact keeps_throw
  rename_i simulation hsimulation
  refine owning_now hguards ?_
  intro simulatedAt s₁ hr₁
  have howned' : Owned actorId s₁ (simulatedVersion loaded simulation simulatedAt).document.id := by
    show Owned actorId s₁ loaded.document.id
    rw [hid]
    exact hr₁ _ _ howned
  refine owning_transition hguards howned' ?_
  intro s₂ howned₂
  split
  · exact owning_transition hguards howned₂ (fun s₃ _ => owning_wake hguards _)
  · exact owning_wake hguards _

theorem owning_decide (automationId : AutomationId) (number : ℕ) (approved : Bool)
    (rationale : Option String) :
    Owning host I (Lifecycle.decide actorId automationId number approved rationale) (fun _ _ => True)
      store := by
  refine owning_bind ((owning_version hguards automationId number).mono ?_)
  intro result s hresult loaded hloaded
  obtain ⟨hid, howned⟩ := hresult loaded hloaded
  split
  · exact keeps_throw
  refine owning_newId hguards ?_
  intro id s₁ hr₁
  refine owning_now hguards ?_
  intro decidedAt s₂ hr₂
  apply owning_call
  refine owning_write hguards trivial (fun _ _ _ => trivial) ?_
  intro r s₃ hr₃ _ _
  have howned₃ : Owned actorId s₃ loaded.document.id := by
    rw [hid]
    exact hr₃ _ _ (hr₂ _ _ (hr₁ _ _ howned))
  exact owning_transition hguards howned₃ (fun s₄ _ => owning_wake hguards _)

theorem owning_activate (automationId : AutomationId) (number expectedRevision : ℕ) :
    Owning host I (activate actorId automationId number expectedRevision) (fun _ _ => True) store := by
  refine owning_bind ((owning_version hguards automationId number).mono ?_)
  intro result s hresult loaded hloaded
  obtain ⟨_, howned⟩ := hresult loaded hloaded
  split
  · exact keeps_throw
  refine owning_now hguards ?_
  intro activatedAt s₁ hr₁
  apply owning_call
  refine owning_write hguards trivial (fun s₂ hr₂ _ => hr₂ _ _ (hr₁ _ _ howned)) ?_
  exact fun r s₂ _ identity _ => owning_wake hguards _

theorem owning_ensureIdentityOwner (automationId : AutomationId) (identity : AutomationIdentityState) :
    Owning host I (ensureIdentityOwner actorId automationId identity)
      (fun _ s => Owned actorId s automationId) store := by
  unfold ensureIdentityOwner
  split
  · refine owning_bind ((owning_version hguards automationId _).mono ?_)
    intro result s hresult loaded hloaded
    exact keeps_pure (fun s' hr => hr _ _ (hresult loaded hloaded).2)
  · refine owning_bind ((owning_draft hguards automationId).mono ?_)
    intro result s hresult draft hdraft
    exact keeps_pure (fun s' hr => hr _ _ (hresult draft hdraft).2.2)

theorem owning_transitionOperational (automationId : AutomationId) (expectedRevision : ℕ)
    (state : AutomationOperationalState) :
    Owning host I (transitionOperational actorId automationId expectedRevision state)
      (fun _ _ => True) store := by
  apply owning_call
  refine owning_read hguards (fun _ => nofun) ?_
  intro s r s' _ _ hh s₁ hr₁ found hfound
  obtain ⟨rfl, hanswer⟩ := hh
  cases found with
  | none => exact keeps_throw
  | some identity =>
    have hkey := (find_eq_some.mp (hanswer _ hfound).symm).2
    refine owning_bind ((owning_ensureIdentityOwner hguards automationId identity).mono ?_)
    intro result s₂ hresult checked hchecked
    have howned := hresult checked hchecked
    split
    · exact keeps_throw
    refine owning_now hguards ?_
    intro updatedAt s₃ hr₃
    apply owning_call
    refine owning_write hguards trivial ?_ ?_
    · intro s₄ hr₄ _
      show Owned actorId s₄ identity.id
      rw [hkey]
      exact hr₄ _ _ (hr₃ _ _ howned)
    · exact fun r s₄ _ written _ => owning_wake hguards _

end
end Lifecycle


theorem OneAuthor.of_fewer {store store' : AutomationStore} (h : OneAuthor store)
    (hdrafts : ∀ draft ∈ store'.drafts.rows, draft ∈ store.drafts.rows)
    (hversions : ∀ version ∈ store'.versions.rows, version ∈ store.versions.rows) :
    OneAuthor store' := by
  have hstored : ∀ id document, StoredDocument store' id document →
      StoredDocument store id document := by
    rintro id document (⟨draft, hfound, rfl⟩ | ⟨number, version, hfound, rfl⟩)
    · obtain ⟨hmem, hkey⟩ := find_eq_some.mp hfound
      exact .draft (find_eq_some.mpr ⟨hdrafts draft hmem, hkey⟩)
    · obtain ⟨hmem, hkey⟩ := find_eq_some.mp hfound
      exact .version number (find_eq_some.mpr ⟨hversions version hmem, hkey⟩)
  refine ⟨fun draft hmem => h.labelled draft (hdrafts draft hmem), ?_⟩
  intro id document other hdocument hother
  exact h.same id document other (hstored id document hdocument) (hstored id other hother)

theorem retain_oneAuthor {store : AutomationStore} {host : StoreHost}
    (policy : AutomationRetention) (h : OneAuthor store) : OneAuthor (store.retain host policy) := by
  refine h.of_fewer ?_ ?_
  · intro draft hmem
    have hrow : draft ∈ (store.drafts.filter _).rows := hmem
    exact (Table.mem_filter.mp hrow).1
  · intro version hmem
    have hrow : version ∈ (store.versions.filter _).rows := hmem
    exact (Table.mem_filter.mp hrow).1

/-- Writes that respect documents keep one author for each automation. -/
theorem oneAuthor_of_handler {store store' : AutomationStore} (hown : documentsOwn c store)
    (hone : OneAuthor store) (h : lifecycleHandler host c store r store') : OneAuthor store' := by
  cases c with
  | automation c =>
    by_cases hretain : ∃ policy, c = .retain policy
    · obtain ⟨policy, rfl⟩ := hretain
      rcases Commits.cases h with ⟨_, hresult⟩ | rfl
      · cases hresult
        exact retain_oneAuthor policy hone
      · exact hone
    · have hsame := automationHandler_governance (fun policy heq => hretain ⟨policy, heq⟩) h
      have hconfined : Confined 0 store store' := hsame.confined hone
      exact hconfined.oneAuthor
  | newId | loadFoundation | wakeEvents =>
    cases h
    exact hone
  | draft automationId =>
    cases h.1
    exact hone
  | storeDraft draft expectedRevision =>
    rcases Commits.cases h with ⟨_, hresult⟩ | rfl
    · exact (AutomationStore.storeDraft_writesOwn hresult hown).oneAuthor hone hown
    · exact hone
  | storeVersion version =>
    rcases Commits.cases h with ⟨_, hresult⟩ | rfl
    · exact (AutomationStore.storeVersion_writesOwn hresult).oneAuthor hone hown
    · exact hone
  | transitionVersion version expectedState =>
    rcases Commits.cases h with ⟨_, hresult⟩ | rfl
    · -- the document in the row stays, so its author is that of every other document
      obtain ⟨_, current, hcurrent, hdocument, _⟩ := AutomationStore.transitionVersion_spec hresult
      have hstored : StoredDocument store version.document.id version.document :=
        .inr ⟨_, current, hcurrent, hdocument⟩
      refine (AutomationStore.transitionVersion_writesOwn version.document.authorId hresult).oneAuthor
        hone ?_
      exact fun other hother => hone.same _ other _ hother hstored
    · exact hone
  | appendApproval approval =>
    rcases Commits.cases h with ⟨_, hresult⟩ | rfl
    · rcases appendApproval_spec hresult with rfl | ⟨_, rfl⟩
      · exact hone
      · exact ⟨hone.labelled, hone.same⟩
    · exact hone
  | activate activation =>
    rcases h with ⟨row, _, hresult⟩ | ⟨_, rfl⟩
    · obtain ⟨_, _, _, _, _, _, _, rfl, _⟩ := activate_spec host.compiler hresult
      exact ⟨hone.labelled, hone.same⟩
    · exact hone
  | transitionIdentity identity expectedRevision =>
    rcases h with ⟨row, _, hresult⟩ | ⟨_, rfl⟩
    · obtain ⟨_, _, _, _, rfl⟩ := transitionIdentity_spec hresult
      exact ⟨hone.labelled, hone.same⟩
    · exact hone

theorem AutomationCall.IsQuiet.ne_retain {c : AutomationCall} (h : c.IsQuiet)
    (policy : AutomationRetention) : c ≠ .retain policy := by
  rintro rfl
  exact h

variable {actorId : ActorId}

theorem LifecycleOperation.calls (h : LifecycleOperation host actorId p) : p.Calls KeepsRows := by
  have hoperation : ∀ {α : Type} {x : GovernanceM α}, x.run.Calls KeepsRows →
      (asOperation x).Calls KeepsRows := fun hx => Program.calls_bind hx (fun _ => trivial)
  obtain ⟨request, rfl⟩ := h
  cases request with
  | createDraft input => exact hoperation (Lifecycle.calls_createDraft actorId input)
  | putDraft document expectedRevision =>
    exact hoperation (Lifecycle.calls_putDraft actorId document expectedRevision)
  | validate automationId => exact hoperation (Lifecycle.calls_validate host actorId automationId)
  | simulate automationId number input =>
    exact hoperation (Lifecycle.calls_simulate host actorId automationId number input)
  | decide automationId number approved rationale =>
    exact hoperation (Lifecycle.calls_decide actorId automationId number approved rationale)
  | activate automationId number expectedRevision =>
    exact hoperation (Lifecycle.calls_activate actorId automationId number expectedRevision)
  | disable automationId expectedRevision | retire automationId expectedRevision =>
    exact hoperation (Lifecycle.calls_transitionOperational actorId automationId expectedRevision _)
  | cancelRun runId fuel =>
    refine Program.calls_embed ?_ (calls_asClient (cancelRun_quiet actorId runId fuel))
    intro c hc
    cases c with
    | retain policy => exact hc
    | _ => trivial

theorem LifecycleOperation.keeps {I : AutomationStore → Prop}
    (hguards : Guards host actorId I) (h : LifecycleOperation host actorId p) (store : AutomationStore) :
    p.Keeps (lifecycleHandler host) (fun c s => documentsOwn c s ∧ I s) AuthorsPersist I
      (fun _ _ => True) store := by
  have hoperation : ∀ {α : Type} {x : GovernanceM α}, Owning host I x (fun _ _ => True) store →
      (asOperation x).Keeps (lifecycleHandler host) (fun c s => documentsOwn c s ∧ I s)
        AuthorsPersist I (fun _ _ => True) store :=
    fun hx => Program.Keeps.bind AuthorsPersist.refl (hx.mono (fun _ _ _ _ _ => trivial))
  obtain ⟨request, rfl⟩ := h
  cases request with
  | createDraft input => exact hoperation (Lifecycle.owning_createDraft hguards input)
  | putDraft document expectedRevision =>
    exact hoperation (Lifecycle.owning_putDraft hguards document expectedRevision)
  | validate automationId => exact hoperation (Lifecycle.owning_validate hguards automationId)
  | simulate automationId number input =>
    exact hoperation (Lifecycle.owning_simulate hguards automationId number input)
  | decide automationId number approved rationale =>
    exact hoperation (Lifecycle.owning_decide hguards automationId number approved rationale)
  | activate automationId number expectedRevision =>
    exact hoperation (Lifecycle.owning_activate hguards automationId number expectedRevision)
  | disable automationId expectedRevision | retire automationId expectedRevision =>
    exact hoperation
      (Lifecycle.owning_transitionOperational hguards automationId expectedRevision _)
  | cancelRun runId fuel =>
    refine Program.Keeps.of_each (P := fun c => ∀ s, OwnedCall actorId c s) ?_
      (Program.calls_embed (fun c hc s => hc.ne_retain)
        (calls_asClient (cancelRun_quiet actorId runId fuel))) store
    exact fun c s r s' hcall ha hh => hguards.call c s r s' ha.2 (hcall s) hh

def actorRules (host : LifecycleHost) (actorId : ActorId)
    (allowed : LifecycleCall → AutomationStore → Prop) :
    Rules LifecycleCall LifecycleCall.Response AutomationStore Unit where
  handler := lifecycleHandler host
  main := fun _ => False
  client := LifecycleOperation host actorId
  mainAllowed := fun _ _ => False
  clientAllowed := allowed

def everyoneRules (host : LifecycleHost) (allowed : LifecycleCall → AutomationStore → Prop) :
    Rules LifecycleCall LifecycleCall.Response AutomationStore Unit :=
  { governanceRules host (fun _ _ => True) with clientAllowed := allowed }

theorem oneAuthor_empty : OneAuthor AutomationStore.empty where
  labelled := fun _ hmem => absurd hmem List.not_mem_nil
  same := by
    rintro id document other (⟨draft, hfound, _⟩ | ⟨number, version, hfound, _⟩) _
    · cases hfound
    · cases hfound

theorem oneAuthor_of_history {reached : Processes LifecycleCall LifecycleCall.Response AutomationStore Unit}
    (h : Relation.ReflTransGen (Interleaves (everyoneRules host documentsOwn))
      ⟨AutomationStore.empty, none, []⟩ reached) : OneAuthor reached.state := by
  refine Interleaves.invariant_of_calls (P := fun _ => True) (fun p _ => p.calls_true)
    (fun p _ => p.calls_true) ?_ h oneAuthor_empty rfl rfl
  rintro c s r s' _ (hmain | hown) hone hh
  · exact hmain.elim
  · exact oneAuthor_of_handler hown hone hh

/-- What an actor's operations keep of a store: one author for each automation, and the
automations of others. -/
structure SparesOthers (actorId : ActorId) (before store : AutomationStore) : Prop where
  oneAuthor : OneAuthor store
  others : ∀ automationId document, StoredDocument before automationId document →
    document.authorId ≠ actorId → SameAutomation automationId before store

theorem sparesOthers_guards (host : LifecycleHost) (actorId : ActorId) (before : AutomationStore) :
    Guards host actorId (SparesOthers actorId before) where
  oneAuthor := fun _ h => h.oneAuthor
  call := by
    intro c s r s' hs hcall hh
    have hconfined := hcall.confined hs.oneAuthor hh
    refine ⟨hconfined.oneAuthor, ?_⟩
    intro id document hdocument hauthor
    -- the document is still there, so the call leaves its automation alone
    have hsame := hs.others id document hdocument hauthor
    exact hsame.trans (hconfined.others id document (hsame.storedDocument.mpr hdocument) hauthor)

/-- After any history of all services, whatever one actor then issues leaves the draft,
the active pointer and the operational state of other actors' automations as they are,
as long as documents are stored only next to documents of the same author. -/
theorem automations_owned (host : LifecycleHost) (actorId : ActorId)
    {before after : Processes LifecycleCall LifecycleCall.Response AutomationStore Unit}
    (hbefore : Relation.ReflTransGen (Interleaves (everyoneRules host documentsOwn))
      ⟨AutomationStore.empty, none, []⟩ before)
    (hafter : Relation.ReflTransGen (Interleaves (actorRules host actorId documentsOwn))
      ⟨before.state, none, []⟩ after)
    {automationId : AutomationId} {document : AutomationDocument}
    (hstored : StoredDocument before.state automationId document)
    (hother : document.provenance.authorId ≠ actorId) :
    after.state.drafts.find automationId = before.state.drafts.find automationId ∧
      after.state.identities.find automationId = before.state.identities.find automationId := by
  have hone : OneAuthor before.state := oneAuthor_of_history hbefore
  have hguards := sparesOthers_guards host actorId before.state
  have hleaves : SparesOthers actorId before.state after.state := by
    refine Interleaves.rely_guarantee (P := KeepsRows) AuthorsPersist.refl
      (fun _ _ _ => AuthorsPersist.trans) ?_ ?_ ?_ ?_ ?_ hafter
      ⟨hone, fun id _ _ _ => .refl id _⟩ rfl rfl
    · exact fun p hp => False.elim hp
    · exact fun p hp => LifecycleOperation.calls hp
    · rintro c s r s' hrows (hmain | hown) hh
      · exact False.elim hmain
      · exact authorsPersist_of_handler hrows hown hh
    · exact fun p s hp _ => False.elim hp
    · exact fun p s hp _ => LifecycleOperation.keeps hguards hp s
  have hsame := hleaves.others automationId document hstored hother
  exact ⟨hsame.draft, hsame.identity⟩

theorem storedDocument_forall {store : AutomationStore} {automationId : AutomationId}
    {Q : AutomationDocument → Prop} :
    (∀ document, StoredDocument store automationId document → Q document) ↔
      (∀ draft ∈ store.drafts.rows, draft.automationId = automationId → Q draft.document) ∧
      ∀ version ∈ store.versions.rows, version.document.id = automationId → Q version.document := by
  constructor
  · intro h
    refine ⟨?_, ?_⟩
    · intro draft hmem hkey
      exact h _ (.draft (find_eq_some.mpr ⟨hmem, hkey⟩))
    · intro version hmem hkey
      refine h _ (.version version.document.version (find_eq_some.mpr ⟨hmem, ?_⟩))
      rw [← hkey]
  · rintro ⟨hdrafts, hversions⟩ document (⟨draft, hfound, rfl⟩ | ⟨number, version, hfound, rfl⟩)
    · obtain ⟨hmem, hkey⟩ := find_eq_some.mp hfound
      exact hdrafts draft hmem hkey
    · obtain ⟨hmem, hkey⟩ := find_eq_some.mp hfound
      exact hversions version hmem (congrArg Prod.fst hkey)

instance documentsOwn.decidable : ∀ (c : LifecycleCall) (store : AutomationStore),
    Decidable (documentsOwn c store)
  | .storeDraft _ _, _ | .storeVersion _, _ => decidable_of_iff _ storedDocument_forall.symm
  | .automation _, _ | .newId, _ | .loadFoundation, _ | .wakeEvents, _ | .draft _, _
  | .transitionVersion _ _, _ | .appendApproval _, _ | .activate _, _ | .transitionIdentity _ _, _ =>
    inferInstanceAs (Decidable True)

def performing (newId : ℕ) (programs : List (Program LifecycleCall LifecycleCall.Response Unit))
    (store : AutomationStore) : AutomationStore :=
  programs.foldl (fun store p =>
    (p.run (lifecycleApply alarmHost (minutePorts 0) newId ⟨[armedRecord], [], none⟩) store).2) store

def ownedAlarm : AutomationStore :=
  performing 5 (alarmOperations 1 (activating (lampDocument [switchLamp true]) none 0)) .empty

def secondDocument (id : AutomationId) (number : ℕ) : AutomationDocument :=
  { lampDocument [switchLamp false] with
    id := id
    version := number
    provenance := ⟨2, none, "Switch the lamp off", "Requested by a guest"⟩ }

def neighbourOperations : List (Program LifecycleCall LifecycleCall.Response Unit) :=
  alarmOperations 2 (activating (secondDocument 2 1) none 0 ++ [.disable 1 1])

theorem performing_clients
    (rules : Rules LifecycleCall LifecycleCall.Response AutomationStore Unit)
    (hhandler : rules.handler = lifecycleHandler alarmHost) (newId : ℕ)
    (programs : List (Program LifecycleCall LifecycleCall.Response Unit)) (store : AutomationStore)
    (hprograms : ∀ p ∈ programs, rules.client p)
    (hallowed : Program.PermittedAll
      (lifecycleApply alarmHost (minutePorts 0) newId ⟨[armedRecord], [], none⟩)
      rules.clientAllowed programs store) :
    Relation.ReflTransGen (Interleaves rules) ⟨store, none, []⟩
      ⟨performing newId programs store, none, List.replicate programs.length (.done ()) ++ []⟩ := by
  refine Interleaves.of_permitted_clients ?_ programs hprograms store hallowed none []
  rw [hhandler]
  exact lifecycleApply_handles alarmHost (minutePorts 0) newId ⟨[armedRecord], [], none⟩

theorem alarm_operation {requests : List LifecycleRequest} :
    ∀ p ∈ alarmOperations actorId requests, LifecycleOperation alarmHost actorId p := by
  intro p hp
  obtain ⟨request, _, rfl⟩ := alarmOperations_asked hp
  exact ⟨request, rfl⟩

theorem everyone {requests : List LifecycleRequest} {allowed : LifecycleCall → AutomationStore → Prop} :
    ∀ p ∈ alarmOperations actorId requests, (everyoneRules alarmHost allowed).client p := by
  intro p hp
  obtain ⟨request, _, rfl⟩ := alarmOperations_asked hp
  exact .inl ⟨actorId, request, trivial, rfl⟩

/-- The second actor's own automation leaves the first one's alone. -/
theorem automations_owned_alarm :
    (performing 6 neighbourOperations ownedAlarm).drafts.find 1 = ownedAlarm.drafts.find 1 ∧
      (performing 6 neighbourOperations ownedAlarm).identities.find 1 =
        some ⟨1, .active, some 1, 1, 0, 0⟩ := by
  have hfirst : Program.PermittedAll
      (lifecycleApply alarmHost (minutePorts 0) 5 ⟨[armedRecord], [], none⟩) documentsOwn
      (alarmOperations 1 (activating (lampDocument [switchLamp true]) none 0)) .empty := by
    decide +kernel
  have hsecond : Program.PermittedAll
      (lifecycleApply alarmHost (minutePorts 0) 6 ⟨[armedRecord], [], none⟩) documentsOwn
      neighbourOperations ownedAlarm := by
    decide +kernel
  have hbefore : Relation.ReflTransGen (Interleaves (everyoneRules alarmHost documentsOwn))
      ⟨AutomationStore.empty, none, []⟩ ⟨ownedAlarm, none, List.replicate 5 (.done ()) ++ []⟩ :=
    performing_clients _ rfl 5 _ _ everyone hfirst
  have hafter : Relation.ReflTransGen (Interleaves (actorRules alarmHost 2 documentsOwn))
      ⟨ownedAlarm, none, []⟩
      ⟨performing 6 neighbourOperations ownedAlarm, none, List.replicate 6 (.done ()) ++ []⟩ :=
    performing_clients _ rfl 6 _ _ alarm_operation hsecond
  have hdraft : ownedAlarm.drafts.find 1 = some ⟨1, 0, lampDocument [switchLamp true], 1, 0⟩ := by
    decide +kernel
  obtain ⟨hsame, hidentity⟩ := automations_owned alarmHost 2 hbefore hafter (.draft hdraft)
    (by decide)
  exact ⟨hsame, hidentity.trans (by decide +kernel)⟩

/-- The second actor overwrites the first one's draft and activates it: nothing asks
for the author of the stored document. -/
theorem automation_taken_over :
    ∃ before after : Processes LifecycleCall LifecycleCall.Response AutomationStore Unit,
      Relation.ReflTransGen (Interleaves (everyoneRules alarmHost (fun _ _ => True)))
        ⟨AutomationStore.empty, none, []⟩ before ∧
      Relation.ReflTransGen (Interleaves (actorRules alarmHost 2 (fun _ _ => True)))
        ⟨before.state, none, []⟩ after ∧
      (∃ document, StoredDocument before.state 1 document ∧ document.provenance.authorId ≠ 2) ∧
      after.state.drafts.find 1 ≠ before.state.drafts.find 1 ∧
      before.state.identities.find 1 = some ⟨1, .active, some 1, 1, 0, 0⟩ ∧
      after.state.identities.find 1 = some ⟨1, .active, some 2, 2, 0, 0⟩ := by
  have hbefore := performing_clients (everyoneRules alarmHost (fun _ _ => True)) rfl 5
    (alarmOperations 1 (activating (lampDocument [switchLamp true]) none 0)) .empty everyone
    (Program.permittedAll_of_forall (fun _ _ => trivial) _ _)
  have hafter := performing_clients (actorRules alarmHost 2 (fun _ _ => True)) rfl 6
    (alarmOperations 2 (activating (secondDocument 1 2) (some 0) 1)) ownedAlarm alarm_operation
    (Program.permittedAll_of_forall (fun _ _ => trivial) _ _)
  have hdraft : ownedAlarm.drafts.find 1 = some ⟨1, 0, lampDocument [switchLamp true], 1, 0⟩ := by
    decide +kernel
  have htaken : (performing 6 (alarmOperations 2 (activating (secondDocument 1 2) (some 0) 1)) ownedAlarm).drafts.find
      1 = some ⟨1, 1, secondDocument 1 2, 2, 0⟩ := by
    decide +kernel
  refine ⟨_, _, hbefore, hafter, ⟨_, .draft hdraft, by decide⟩, ?_, ?_, ?_⟩
  · intro hsame
    have heq := htaken.symm.trans (hsame.trans hdraft)
    revert heq
    decide +kernel
  · decide +kernel
  · decide +kernel

end HomeMagic
