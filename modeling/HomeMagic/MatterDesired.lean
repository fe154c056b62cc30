import HomeMagic.CommandDispatch

/-! The desired slot of a Matter projection and the state it stands for: what each
repository call does to them, and when a validated command becomes the next holder
of the slot. -/
namespace HomeMagic
open Table

variable {slot current : MatterDesiredCommandSlot} {closed : CommandStore} {projection : StoredMatterProjection}
  {write : MatterDesiredStateWrite}

namespace CommandStore
variable {store store' : CommandStore}

structure SlotDispatched (store store' : CommandStore) (slot : MatterDesiredCommandSlot)
    (now : Instant) : Prop where
  found : store.slots.find slot.projectionId = some slot
  open_ : slot.dispatchedAt = none
  slots : store'.slots = store.slots.replace { slot with dispatchedAt := some now, updatedAt := now }
  projections : store'.projections = store.projections
  supersessions : store'.supersessions = store.supersessions

inductive DesiredEffect (store store' : CommandStore) : Prop
  | quiet (hprojections : store'.projections = store.projections) (hslots : store'.slots = store.slots)
      (hsupersessions : store'.supersessions = store.supersessions)
  | matter (h : MatterWritten store store')
  | registered (write : MatterDesiredStateWrite) (h : Registered store store' write)
  | dispatched (slot : MatterDesiredCommandSlot) (now : Instant) (h : SlotDispatched store store' slot now)

theorem Dispatches.marked {write : MatterDispatchWrite} {current : StoredCommand}
    (h : Dispatches store store' write slot current) : SlotDispatched store store' slot write.dispatchedAt where
  found := h.mem_slot.2.symm ▸ h.found
  open_ := h.open_
  slots := by rw [h.rest]
  projections := by rw [h.rest]
  supersessions := by rw [h.rest]

section Handler
variable {host : StoreHost} {commandIdText : CommandId → String}

theorem commandHandler_desired {c : CommandCall} {r : c.Response}
    (hslot : ∀ slot superseded, c ≠ .replaceMatterDesiredSlot slot superseded)
    (h : commandHandler host commandIdText c store r store') : DesiredEffect store store' := by
  rcases commandHandler_wrote h with rfl | hwrote
  · exact .quiet rfl rfl rfl
  cases hwrote with
  | foundationWrite hok => exact .quiet (by rw [hok.only]) (by rw [hok.only]) (by rw [hok.only])
  | matterWrite hok => exact .matter hok
  | storeActor hok =>
    have hrest := storeActor_ok hok
    exact .quiet (by rw [hrest]) (by rw [hrest]) (by rw [hrest])
  | replaceActorGrants hok =>
    have hrest := replaceActorGrants_ok hok
    exact .quiet (by rw [hrest]) (by rw [hrest]) (by rw [hrest])
  | createCommand _ hrest => exact .quiet (by rw [hrest]) (by rw [hrest]) (by rw [hrest])
  | transitionCommand hok =>
    obtain ⟨current, _, _, hrest⟩ := transitionCommand_ok hok
    exact .quiet (by rw [hrest]) (by rw [hrest]) (by rw [hrest])
  | replaceMatterDesiredSlot hok => exact absurd rfl (hslot _ _)
  | replaceMatterDesiredState hok => exact .registered _ (replaceMatterDesiredState_cases hok)
  | recordMatterDispatch hok =>
    obtain ⟨slot, _, hdispatches, _⟩ := recordDispatch_cases hok
    exact .dispatched slot _ hdispatches.marked
  | createUnlockAuthorization hrest | consumeUnlockAuthorization hrest =>
    exact .quiet (by rw [hrest]) (by rw [hrest]) (by rw [hrest])
  | authorizeAndRecordUnlockDispatch hok =>
    obtain ⟨_, _, _, hconsumes⟩ := authorizeAndRecordUnlockDispatch_consumed hok
    obtain ⟨slot, hdispatches⟩ := hconsumes.dispatches
    exact .dispatched slot _ hdispatches.marked

end Handler

/-- The slot of a projection carries the revision of its desired state, slots belong to
projections, and a superseded command is a cancelled one. -/
structure Coordinated (store : CommandStore) : Prop where
  identified : ∀ projection ∈ store.projections.rows,
    projection.state.projectionId = projection.projectionId
  aligned : ∀ projection ∈ store.projections.rows,
    projection.state.desired.map MatterDesiredState.revision =
      (store.slots.find projection.projectionId).map MatterDesiredCommandSlot.desiredRevision
  owned : ∀ slot ∈ store.slots.rows, (store.projections.find slot.projectionId).isSome
  superseded : ∀ supersession ∈ store.supersessions.rows, ∃ row ∈ store.commands.rows,
    row.command.envelope.id = supersession.oldCommandId ∧ row.command.state = .cancelled

theorem Observes.desired_eq {state state' : MatterProjectedState} (h : Observes state state') :
    state'.projectionId = state.projectionId ∧ state'.desired = state.desired := by
  cases h with
  | kept h => exact h ▸ ⟨rfl, rfl⟩
  | reported reported causation h =>
    obtain ⟨hid, hdesired, _⟩ := advanceMatterProjectedState_ok h
    exact ⟨hid, hdesired⟩
  | stale uncertainty h =>
    obtain ⟨hid, hdesired, _⟩ := markMatterProjectionStale_ok h
    exact ⟨hid, hdesired⟩

theorem ProjectionWritten.cases (h : ProjectionWritten store projection) :
    (∃ stored ∈ store.projections.rows, stored.projectionId = projection.projectionId ∧
      projection.state.projectionId = stored.state.projectionId ∧
      projection.state.desired = stored.state.desired) ∨
    store.projections.find projection.projectionId = none ∧
      projection.state = initialMatterProjectedState projection.projectionId := by
  rcases h with h | ⟨stored, hstored, hmoved⟩ | h
  · exact .inl ⟨projection, h, rfl, rfl, rfl⟩
  · obtain ⟨hid, hdesired⟩ := hmoved.observes.desired_eq
    refine .inl ⟨stored, hstored, ?_, hid, hdesired⟩
    rw [hmoved.only]
  · exact .inr h

/-- Removing a projection removes its slot. -/
theorem Coordinated.matter (h : Coordinated store) (hwritten : MatterWritten store store') :
    Coordinated store' := by
  have hcommands : store'.commands = store.commands := by rw [hwritten.only]
  have hslot : ∀ projection ∈ store'.projections.rows,
      store'.slots.find projection.projectionId = store.slots.find projection.projectionId := by
    intro projection hprojection
    have hpresent : (store'.projections.find projection.projectionId).isSome :=
      Option.isSome_of_eq_some (find_eq_some.mpr ⟨hprojection, rfl⟩)
    cases hfound : store.slots.find projection.projectionId with
    | none =>
      apply find_eq_none.mpr
      intro slot hin
      exact find_eq_none.mp hfound slot (hwritten.slots.subset hin)
    | some slot =>
      obtain ⟨hin, hid⟩ := find_eq_some.mp hfound
      exact find_eq_some.mpr ⟨(hwritten.removed slot hin).mpr (hid ▸ hpresent), hid⟩
  refine ⟨?_, ?_, ?_, ?_⟩
  · intro projection hprojection
    rcases (hwritten.projections projection hprojection).cases with
      ⟨stored, hstored, hid, hsame, _⟩ | ⟨_, hstate⟩
    · rw [hsame, h.identified stored hstored, hid]
    · rw [hstate]
      rfl
  · intro projection hprojection
    rw [hslot projection hprojection]
    rcases (hwritten.projections projection hprojection).cases with
      ⟨stored, hstored, hid, _, hdesired⟩ | ⟨habsent, hstate⟩
    · rw [hdesired, h.aligned stored hstored, hid]
    · -- a projection that was not there had no slot either
      have hnone : store.slots.find projection.projectionId = none := by
        apply find_eq_none.mpr
        intro slot hin hid
        have howned := h.owned slot hin
        rw [hid, habsent] at howned
        cases howned
      rw [hstate, hnone]
      rfl
  · intro slot hin
    exact (hwritten.removed slot (hwritten.slots.subset hin)).mp hin
  · rw [hcommands]
    intro supersession hin
    exact h.superseded supersession (hwritten.supersessions.subset hin)

theorem Persists.cancelled (hp : Persists store store') {id : CommandId}
    (h : ∃ row ∈ store.commands.rows, row.command.envelope.id = id ∧ row.command.state = .cancelled) :
    ∃ row ∈ store'.commands.rows, row.command.envelope.id = id ∧ row.command.state = .cancelled := by
  obtain ⟨row, hrow, hid, hstate⟩ := h
  obtain ⟨row', hrow', hkept⟩ := hp row hrow
  have hterminal : row.command.state.isTerminal = true := by
    rw [hstate]
    rfl
  obtain ⟨rfl, _⟩ := hkept.terminal hterminal
  exact ⟨row', hrow', hid, hstate⟩

theorem SlotTaken.superseded {superseded : Option MatterSupersededCommand}
    (h : SlotTaken store store' slot superseded) :
    ∀ supersession ∈ store'.supersessions.rows, supersession ∈ store.supersessions.rows ∨
      ∃ row ∈ store'.commands.rows, row.command.envelope.id = supersession.oldCommandId ∧
        row.command.state = .cancelled := by
  intro supersession hin
  cases h with
  | first _ hstore | again _ _ _ hstore =>
    rw [hstore] at hin
    exact .inl hin
  | replaced _ _ _ hclosed hstore =>
    rw [hstore] at hin ⊢
    cases hclosed with
    | dispatched _ hsame =>
      rw [hsame] at hin
      exact .inl hin
    | @cancelled replacement row _ hid hstate hmoved hsupersessions _ =>
      rcases hsupersessions supersession hin with hin | hold
      · exact .inl hin
      · refine .inr ⟨⟨replacement.command, row.requestHash⟩, ?_, hid.trans hold.symm, hstate⟩
        show _ ∈ Table.rows _
        rw [hmoved.commands]
        exact (mem_replace hmoved.found).mpr (.inl rfl)

/-- A registration moves slot and desired state together. -/
theorem Coordinated.registered (h : Coordinated store) (hpersists : Persists store store')
    (hwritten : Registered store store' write) :
    Coordinated store' := by
  obtain ⟨replaced, htaken, hstore⟩ := hwritten.taken
  obtain ⟨stored, hstores⟩ := hwritten.stores
  have hfound : store.projections.find write.projection.projectionId = some stored := hstores.found
  have hprojections : store'.projections = store.projections.replace write.projection := by
    rw [hstore, ← htaken.projections]
  have hslots : ∀ k, store'.slots.find k =
      if write.slot.projectionId = k then some write.slot else store.slots.find k := by
    rw [hstore]
    exact htaken.find_slot
  refine ⟨?_, ?_, ?_, ?_⟩
  · intro projection hprojection
    rw [hprojections] at hprojection
    rcases (mem_replace hfound).mp hprojection with rfl | ⟨hprojection, _⟩
    · exact hstores.identified
    · exact h.identified projection hprojection
  · intro projection hprojection
    rw [hprojections] at hprojection
    rw [hslots]
    rcases (mem_replace hfound).mp hprojection with rfl | ⟨hprojection, hother⟩
    · rw [if_pos hwritten.target.symm, hwritten.desired]
      rfl
    · rw [if_neg (fun heq => hother (heq.symm.trans hwritten.target.symm))]
      exact h.aligned projection hprojection
  · intro slot hin
    have hslot : store'.slots.find slot.projectionId = some slot :=
      find_eq_some.mpr ⟨hin, rfl⟩
    rw [hprojections, find_replace hfound]
    split
    · rfl
    · rename_i hother
      rw [hslots, if_neg (fun heq => hother (hwritten.target.trans heq))] at hslot
      exact h.owned slot (find_eq_some.mp hslot).1
  · intro supersession hin
    have hin' : supersession ∈ replaced.supersessions.rows := by
      rw [hstore] at hin
      exact hin
    rcases htaken.superseded supersession hin' with hin' | hcancelled
    · exact hpersists.cancelled (h.superseded supersession hin')
    · rw [hstore]
      exact hcancelled

theorem Coordinated.dispatched {now : Instant} (h : Coordinated store) (hpersists : Persists store store')
    (hmarked : SlotDispatched store store' slot now) :
    Coordinated store' := by
  have hslots : ∀ k, (store'.slots.find k).map MatterDesiredCommandSlot.desiredRevision =
      (store.slots.find k).map MatterDesiredCommandSlot.desiredRevision := by
    intro k
    let marked : MatterDesiredCommandSlot := { slot with dispatchedAt := some now, updatedAt := now }
    have hfound : store.slots.find marked.projectionId = some slot := hmarked.found
    rw [hmarked.slots, find_replace hfound]
    split
    · rename_i hk
      rw [← hk, hfound]
      rfl
    · rfl
  refine ⟨?_, ?_, ?_, ?_⟩
  · rw [hmarked.projections]
    exact h.identified
  · rw [hmarked.projections]
    intro projection hprojection
    rw [hslots]
    exact h.aligned projection hprojection
  · intro other hin
    rw [hmarked.projections]
    rw [hmarked.slots] at hin
    let marked : MatterDesiredCommandSlot := { slot with dispatchedAt := some now, updatedAt := now }
    have hfound : store.slots.find marked.projectionId = some slot := hmarked.found
    rcases (mem_replace hfound).mp hin with rfl | ⟨hin, _⟩
    · exact h.owned slot (find_eq_some.mp hmarked.found).1
    · exact h.owned other hin
  · rw [hmarked.supersessions]
    exact fun supersession hin => hpersists.cancelled (h.superseded supersession hin)

theorem Coordinated.effect (h : Coordinated store) (hpersists : Persists store store')
    (heffect : DesiredEffect store store') : Coordinated store' := by
  cases heffect with
  | quiet hprojections hslots hsupersessions =>
    refine ⟨?_, ?_, ?_, ?_⟩
    · rw [hprojections]
      exact h.identified
    · rw [hprojections, hslots]
      exact h.aligned
    · rw [hprojections, hslots]
      exact h.owned
    · rw [hsupersessions]
      exact fun supersession hin => hpersists.cancelled (h.superseded supersession hin)
  | matter hwritten => exact h.matter hwritten
  | registered write hwritten => exact h.registered hpersists hwritten
  | dispatched slot now hmarked => exact h.dispatched hpersists hmarked

theorem coordinated_of_run {host : CommandHost} {storeHost : StoreHost}
    {commandIdText : CommandId → String}
    {start reached : Processes CommandCall CommandCall.Response (CommandStore × List Sent) Unit}
    (hrun : Relation.ReflTransGen (Interleaves (commandRules host storeHost commandIdText)) start reached)
    (hstart : Coordinated start.state.1) (hidle : start.main = none) (hquiet : start.clients = []) :
    Coordinated reached.state.1 := by
  let inv : CommandStore × List Sent → List CommandGhost → Prop := fun s _ => Coordinated s.1
  have hcall : ∀ c s r s' before after g, commandDiscipline.allows g c →
      (commandRules host storeHost commandIdText).handler c s r s' → inv s (before ++ g :: after) →
      inv s' (before ++ commandDiscipline.move g c r :: after) := by
    intro c s r s' _ _ g hallows hh h
    have hslot : ∀ slot superseded, c ≠ .replaceMatterDesiredSlot slot superseded := by
      rintro slot superseded rfl
      exact hallows
    exact Coordinated.effect h (commandHandler_changes hh.1).persists (commandHandler_desired hslot hh.1)
  have hclient : ∀ p, (commandRules host storeHost commandIdText).client p →
      ∃ g : CommandGhost, g.Initial ∧ p.Obeys commandDiscipline (fun _ _ => True) g :=
    fun _ hp => CommandRequested.obeys hp
  have hinv : inv start.state [] := hstart
  obtain ⟨_, _, hcoordinated, _⟩ := Interleaves.disciplined (fun _ hp => hp) hclient
    (fun _ _ _ _ hh => commandHandler_valid hh.1) (fun _ _ _ _ h => h) hcall (fun _ _ h => h) hrun hinv
    hidle hquiet
  exact hcoordinated

end CommandStore
end HomeMagic
