import HomeMagic.ActorAuthentication

/-! What disabling and rotating an actor guarantee, however the calls on it interleave. -/
namespace HomeMagic
open List

def rotationAfter (actorId : ActorId) (last : Option (ActorRun × TokenHash)) :
    ActorEvent → Option (ActorRun × TokenHash)
  | .rotated run rotatedId tokenHash => if rotatedId = actorId then some (run, tokenHash) else last
  | _ => last

def lastRotation (actorId : ActorId) (events : List ActorEvent) : Option (ActorRun × TokenHash) :=
  events.foldl (rotationAfter actorId) none

/-- A run that reads the actor after these events may authenticate it with the secret: nobody has
disabled it, and the secret is the one that the last rotation hashed. -/
structure Authentic (actorId : ActorId) (secret : ActorSecret) (events : List ActorEvent) : Prop where
  enabled : ∀ run, .disabled run actorId ∉ events
  latest : ∀ rotation tokenHash, lastRotation actorId events = some (rotation, tokenHash) →
    .hashed rotation secret tokenHash ∈ events

/-- A disabled actor stays disabled, and what is authenticated was authentic when its run read the
actor. -/
structure SecureActors (state : ActorState) : Prop where
  disabled : ∀ run actorId, .disabled run actorId ∈ state.2 →
    ∃ actor, state.1.actors.find actorId = some actor ∧ actor.enabled = false
  authenticated : ∀ before run secret after, state.2 = before ++ .authenticated run secret :: after →
    ∃ earlier actorId later, before = earlier ++ .read run actorId :: later ∧ (∀ other, .read run other ∉ later) ∧
      Authentic actorId secret earlier

/-- No rotation writes an enabled actor over a disabled one: nobody has disabled the actor between
the read of the rotation and its write. -/
def Current (_run : ActorRun) : ActorCall → ActorState → Prop
  | .storeActor actor (some _), state =>
    (state.1.actors.find actor.id).all (fun row => row.enabled || !actor.enabled) = true
  | _, _ => True

instance Current.decidable (run : ActorRun) : ∀ (c : ActorCall) (state : ActorState), Decidable (Current run c state)
  | .storeActor actor (some _), state =>
    inferInstanceAs (Decidable ((state.1.actors.find actor.id).all (fun row => row.enabled || !actor.enabled) = true))
  | .storeActor _ none, _ | .actorSecurity _, _ | .replaceActorGrants _ _, _ | .random, _ | .hash _ _, _
  | .verify _ _, _ | .now, _ => inferInstanceAs (Decidable True)

variable {run : ActorRun} {state state' : ActorState}

namespace ActorAuthentication

open Fallible

structure ActorInvariant (host : TokenHost) (state : ActorState) : Prop where
  secure : SecureActors state
  credential : ∀ actorId rotation tokenHash, lastRotation actorId state.2 = some (rotation, tokenHash) →
    (∃ credential, state.1.credentials.find actorId = some credential ∧ credential.tokenHash = tokenHash) ∧
      ∃ secret, .hashed rotation secret tokenHash ∈ state.2
  hashed : ∀ run secret tokenHash, .hashed run secret tokenHash ∈ state.2 →
    ∃ salt, host.hash secret salt = some tokenHash

def Rely (run : ActorRun) (state state' : ActorState) : Prop :=
  ∃ more, state'.2 = state.2 ++ more ∧ ∀ event ∈ more, event.run ≠ run

def Guarantee (run : ActorRun) (state state' : ActorState) : Prop :=
  ∃ more, state'.2 = state.2 ++ more ∧ ∀ event ∈ more, event.run = run

theorem Rely.refl (run : ActorRun) (state : ActorState) : Rely run state state :=
  ⟨[], (append_nil _).symm, fun _ h => absurd h not_mem_nil⟩

theorem Rely.trans {first second third : ActorState} (h : Rely run first second)
    (h' : Rely run second third) : Rely run first third := by
  obtain ⟨more, hmore, hothers⟩ := h
  obtain ⟨more', hmore', hothers'⟩ := h'
  refine ⟨more ++ more', ?_, ?_⟩
  · rw [hmore', hmore, append_assoc]
  · intro event hevent
    rcases mem_append.mp hevent with hevent | hevent
    · exact hothers event hevent
    · exact hothers' event hevent

theorem rely_of_guarantee {other : ActorRun} (hne : run ≠ other)
    (h : Guarantee other state state') : Rely run state state' := by
  obtain ⟨more, hmore, hown⟩ := h
  refine ⟨more, hmore, ?_⟩
  intro event hevent hsame
  exact hne (hsame.symm.trans (hown event hevent))

theorem lastRotation_append (actorId : ActorId) (events : List ActorEvent) (event : ActorEvent) :
    lastRotation actorId (events ++ [event]) = rotationAfter actorId (lastRotation actorId events) event := by
  unfold lastRotation
  rw [foldl_append]
  rfl

def Read (run : ActorRun) (actorId : ActorId) (security : StoredActorSecurity) (state : ActorState) : Prop :=
  ∃ earlier later, state.2 = earlier ++ .read run actorId :: later ∧ (∀ other, .read run other ∉ later) ∧
    (security.actor.enabled = true → ∀ other, .disabled other actorId ∉ earlier) ∧
    ∀ rotation tokenHash, lastRotation actorId earlier = some (rotation, tokenHash) →
      (∃ credential, security.credential = some credential ∧ credential.tokenHash = tokenHash) ∧
        ∃ secret, .hashed rotation secret tokenHash ∈ earlier

theorem Read.stable {actorId : ActorId} {security : StoredActorSecurity}
    (h : Read run actorId security state) (hrely : Rely run state state') : Read run actorId security state' := by
  obtain ⟨earlier, later, hevents, hlast, hknown⟩ := h
  obtain ⟨more, hmore, hothers⟩ := hrely
  refine ⟨earlier, later ++ more, ?_, ?_, hknown⟩
  · rw [hmore, hevents, append_assoc, cons_append]
  · intro other hmem
    rcases mem_append.mp hmem with hmem | hmem
    · exact hlast other hmem
    · exact hothers _ hmem rfl

theorem hashed_stable {event : ActorEvent} (h : event ∈ state.2)
    (hrely : Rely run state state') : event ∈ state'.2 := by
  obtain ⟨more, hmore, -⟩ := hrely
  rw [hmore]
  exact mem_append_left _ h

section Steps
variable {host : TokenHost} {store store' : ActorStore} {events : List ActorEvent} {event : ActorEvent}
variable {actor : Actor}

theorem authenticated_append (h : SecureActors (store, events))
    (hlast : ∀ run secret, event = .authenticated run secret → ∃ earlier actorId later,
      events = earlier ++ .read run actorId :: later ∧ (∀ other, .read run other ∉ later) ∧
        Authentic actorId secret earlier) :
    ∀ before run secret after, events ++ [event] = before ++ .authenticated run secret :: after →
      ∃ earlier actorId later, before = earlier ++ .read run actorId :: later ∧
        (∀ other, .read run other ∉ later) ∧ Authentic actorId secret earlier := by
  intro before run secret after hsplit
  rcases eq_nil_or_concat after with rfl | ⟨rest, last, rfl⟩
  · obtain ⟨rfl, hevent⟩ := append_inj' hsplit rfl
    exact hlast run secret (singleton_inj.mp hevent)
  · have hparts : events ++ [event] = (before ++ .authenticated run secret :: rest) ++ [last] := by
      rw [hsplit, concat_eq_append]
      simp
    obtain ⟨hevents, -⟩ := append_inj' hparts rfl
    exact h.authenticated before run secret rest hevents

theorem ActorInvariant.quiet (h : ActorInvariant host (store, events))
    (hrotated : ∀ run actorId tokenHash, event ≠ .rotated run actorId tokenHash)
    (hdisabled : ∀ run actorId, event ≠ .disabled run actorId)
    (hauthenticated : ∀ run secret, event = .authenticated run secret → ∃ earlier actorId later,
      events = earlier ++ .read run actorId :: later ∧ (∀ other, .read run other ∉ later) ∧
        Authentic actorId secret earlier)
    (hhashed : ∀ run secret tokenHash, event = .hashed run secret tokenHash →
      ∃ salt, host.hash secret salt = some tokenHash) :
    ActorInvariant host (store, events ++ [event]) := by
  refine ⟨⟨?_, authenticated_append h.secure hauthenticated⟩, ?_, ?_⟩
  · intro run actorId hmem
    rcases mem_append.mp hmem with hmem | hmem
    · exact h.secure.disabled run actorId hmem
    · exact absurd (mem_singleton.mp hmem).symm (hdisabled run actorId)
  · intro actorId rotation tokenHash hlast
    rw [lastRotation_append] at hlast
    have hsame : rotationAfter actorId (lastRotation actorId events) event = lastRotation actorId events := by
      cases event with
      | rotated run rotatedId rotatedHash => exact absurd rfl (hrotated run rotatedId rotatedHash)
      | _ => rfl
    rw [hsame] at hlast
    obtain ⟨hcredential, secret, hsecret⟩ := h.credential actorId rotation tokenHash hlast
    exact ⟨hcredential, secret, mem_append_left _ hsecret⟩
  · intro run secret tokenHash hmem
    rcases mem_append.mp hmem with hmem | hmem
    · exact h.hashed run secret tokenHash hmem
    · exact hhashed run secret tokenHash (mem_singleton.mp hmem).symm

theorem storeActor_ok {credential : Option ActorCredential} (h : store.storeActor actor credential = .ok store') :
    store'.actors = store.actors.upsert actor ∧
      store'.credentials = credential.elim store.credentials store.credentials.upsert ∧
      ∀ written, credential = some written → written.actorId = actor.id := by
  unfold ActorStore.storeActor at h
  split at h
  · cases h
  next hmatch =>
    split at h
    · cases h
    · cases h
      refine ⟨rfl, rfl, ?_⟩
      rintro written rfl
      simpa using hmatch

theorem disabled_upsert (h : SecureActors (store, events)) (hactors : store'.actors = store.actors.upsert actor)
    (hkept : (∃ run, .disabled run actor.id ∈ events) → actor.enabled = false) :
    ∀ run actorId, .disabled run actorId ∈ events →
      ∃ row, store'.actors.find actorId = some row ∧ row.enabled = false := by
  intro run actorId hmem
  rw [hactors, Table.find_upsert]
  split
  next hid =>
    refine ⟨actor, rfl, hkept ⟨run, ?_⟩⟩
    rw [hid]
    exact hmem
  · exact h.disabled run actorId hmem

theorem ActorInvariant.disable_step (h : ActorInvariant host (store, events)) (run : ActorRun)
    (hwritten : store.storeActor actor none = .ok store') (hoff : actor.enabled = false) :
    ActorInvariant host (store', events ++ [.disabled run actor.id]) := by
  obtain ⟨hactors, hcredentials, -⟩ := storeActor_ok hwritten
  refine ⟨⟨?_, authenticated_append h.secure (fun _ _ heq => nomatch heq)⟩, ?_, ?_⟩
  · intro other actorId hmem
    rcases mem_append.mp hmem with hmem | hmem
    · exact disabled_upsert h.secure hactors (fun _ => hoff) other actorId hmem
    · cases mem_singleton.mp hmem
      refine ⟨actor, ?_, hoff⟩
      show store'.actors.find actor.id = some actor
      rw [hactors, Table.find_upsert]
      exact if_pos rfl
  · intro actorId rotation tokenHash hlast
    rw [lastRotation_append] at hlast
    obtain ⟨hcredential, secret, hsecret⟩ := h.credential actorId rotation tokenHash hlast
    refine ⟨?_, secret, mem_append_left _ hsecret⟩
    rw [show store'.credentials = store.credentials from hcredentials]
    exact hcredential
  · intro other secret tokenHash hmem
    rcases mem_append.mp hmem with hmem | hmem
    · exact h.hashed other secret tokenHash hmem
    · cases mem_singleton.mp hmem

/-- A rotation replaces the token hash of an actor that is as it was read. -/
theorem ActorInvariant.rotate_step (h : ActorInvariant host (store, events)) {credential : ActorCredential}
    {secret : ActorSecret} (hwritten : store.storeActor actor (some credential) = .ok store')
    (hcurrent : Current run (.storeActor actor (some credential)) (store, events))
    (hhashed : .hashed run secret credential.tokenHash ∈ events) :
    ActorInvariant host (store', events ++ [.rotated run actor.id credential.tokenHash]) := by
  obtain ⟨hactors, hcredentials, hmatch⟩ := storeActor_ok hwritten
  have hkept : (∃ other, .disabled other actor.id ∈ events) → actor.enabled = false := by
    rintro ⟨other, hmem⟩
    obtain ⟨row, hrow, hoff⟩ := h.secure.disabled other actor.id hmem
    have hall : (store.actors.find actor.id).all (fun row => row.enabled || !actor.enabled) = true := hcurrent
    have hfound : store.actors.find actor.id = some row := hrow
    rw [hfound] at hall
    simpa [hoff] using hall
  refine ⟨⟨?_, authenticated_append h.secure (fun _ _ heq => nomatch heq)⟩, ?_, ?_⟩
  · intro other actorId hmem
    rcases mem_append.mp hmem with hmem | hmem
    · exact disabled_upsert h.secure hactors hkept other actorId hmem
    · cases mem_singleton.mp hmem
  · intro actorId rotation tokenHash hlast
    rw [lastRotation_append] at hlast
    have hid : credential.actorId = actor.id := hmatch credential rfl
    have hfind : store'.credentials.find actorId =
        if actor.id = actorId then some credential else store.credentials.find actorId := by
      rw [hcredentials, ← hid]
      exact Table.find_upsert
    by_cases hsame : actor.id = actorId
    · rw [show rotationAfter actorId (lastRotation actorId events) (.rotated run actor.id credential.tokenHash) =
        some (run, credential.tokenHash) from if_pos hsame] at hlast
      cases hlast
      refine ⟨⟨credential, ?_, rfl⟩, secret, mem_append_left _ hhashed⟩
      show store'.credentials.find actorId = some credential
      rw [hfind]
      exact if_pos hsame
    · rw [show rotationAfter actorId (lastRotation actorId events) (.rotated run actor.id credential.tokenHash) =
        lastRotation actorId events from if_neg hsame] at hlast
      obtain ⟨hcredential, secret, hsecret⟩ := h.credential actorId rotation tokenHash hlast
      refine ⟨?_, secret, mem_append_left _ hsecret⟩
      show ∃ found, store'.credentials.find actorId = some found ∧ found.tokenHash = tokenHash
      rw [hfind, if_neg hsame]
      exact hcredential
  · intro other hashedSecret tokenHash hmem
    rcases mem_append.mp hmem with hmem | hmem
    · exact h.hashed other hashedSecret tokenHash hmem
    · cases mem_singleton.mp hmem

end Steps

section Runs
variable {host : TokenHost} {run : ActorRun} {ε α β : Type} {state : ActorState}

def Safe (host : TokenHost) (run : ActorRun) (p : Program ActorCall ActorCall.Response α)
    (Q : α → ActorState → Prop) (state : ActorState) : Prop :=
  p.Guards ((actorHandler host).tracking (observeActor run)) (Current run) (Rely run) (Guarantee run)
    (ActorInvariant host) Q state

theorem Safe.bind {x : ActorM α} {f : α → ActorM β} {P : α → ActorState → Prop} {Q : β → ActorState → Prop}
    (hx : Safe host run x.run (OnOk P) state) (hs : ActorInvariant host state)
    (hf : ∀ a state, ActorInvariant host state → P a state → Safe host run (f a).run (OnOk Q) state) :
    Safe host run (x >>= f).run (OnOk Q) state := by
  apply guards_bind (Rely.refl run) hs
  apply Program.Guards.mono hx
  intro result state' hs' hresult a ha
  exact hf a state' hs' (hresult a ha)

theorem safe_throw {error : ActorAuthenticationError} {Q : α → ActorState → Prop} :
    Safe host run (throw error : ActorM α).run (OnOk Q) state := guards_throw

theorem safe_attempt {wrap : ε → ActorAuthenticationError} {p : Program ActorCall ActorCall.Response (Except ε α)}
    {Q : α → ActorState → Prop} (hs : ActorInvariant host state)
    (hstable : ∀ a state state', Rely run state state' → Q a state → Q a state')
    (h : Safe host run p (OnOk Q) state) : Safe host run (attempt wrap p : ActorM α).run (OnOk Q) state :=
  guards_attempt (Rely.refl run) hs (fun a state state' hr _ hq => hstable a state state' hr hq) h

theorem safe_call {c : ActorCall} {Q : c.Response → ActorState → Prop}
    (hstable : ∀ r state state', Rely run state state' → Q r state → Q r state')
    (h : ∀ store events r store', Rely run state (store, events) → ActorInvariant host (store, events) →
      Current run c (store, events) → actorHandler host c store r store' →
      (∃ event, observeActor run c r store store' = [event] ∧ event.run = run ∧
        ActorInvariant host (store', events ++ [event]) ∧ Q r (store', events ++ [event])) ∨
      (observeActor run c r store store' = [] ∧ store' = store ∧ Q r (store, events))) :
    Safe host run (Program.perform c) Q state := by
  rintro ⟨store, events⟩ hr hi ha r ⟨store', events'⟩ ⟨hhandler, hevents⟩
  have hadded : events' = events ++ observeActor run c r store store' := hevents
  rcases h store events r store' hr hi ha hhandler with ⟨event, hobserved, hown, hi', hq⟩ | ⟨hobserved, rfl, hq⟩
  · rw [hobserved] at hadded
    rw [hadded]
    refine ⟨hi', ⟨[event], rfl, ?_⟩, ?_⟩
    · intro added hmem
      rw [mem_singleton.mp hmem]
      exact hown
    · intro state' hr' _
      exact hstable r _ state' hr' hq
  · rw [hobserved, append_nil] at hadded
    rw [hadded]
    refine ⟨hi, ⟨[], (append_nil _).symm, fun _ hmem => absurd hmem not_mem_nil⟩, ?_⟩
    intro state' hr' _
    exact hstable r _ state' hr' hq

theorem read_safe (actorId : ActorId) :
    Safe host run (Program.perform (ActorCall.actorSecurity actorId))
      (OnOk (fun found state => ∀ security, found = some security → Read run actorId security state)) state := by
  refine safe_call ?_ ?_
  · intro r state state' hr h found hfound security hsome
    exact (h found hfound security hsome).stable hr
  · intro store events r store' _ hi _ hhandler
    obtain ⟨rfl, hresponse⟩ := hhandler
    refine Or.inl ⟨.read run actorId, rfl, rfl, ?_, ?_⟩
    · exact hi.quiet (fun _ _ _ h => nomatch h) (fun _ _ h => nomatch h) (fun _ _ h => nomatch h)
        (fun _ _ _ h => nomatch h)
    · rintro found rfl security rfl
      rcases hresponse with hread | ⟨error, herror⟩
      · have hsecurity : store'.actorSecurity actorId = some security := (Except.ok.inj hread).symm
        unfold ActorStore.actorSecurity at hsecurity
        obtain ⟨actor, hactor, rfl⟩ := Option.map_eq_some_iff.mp hsecurity
        refine ⟨events, [], rfl, fun _ hmem => absurd hmem not_mem_nil, ?_, ?_⟩
        · intro henabled other hdisabled
          obtain ⟨row, hrow, hoff⟩ := hi.secure.disabled other actorId hdisabled
          obtain rfl : actor = row := Option.some.inj (hactor.symm.trans hrow)
          rw [hoff] at henabled
          cases henabled
        · exact fun rotation tokenHash hlast => hi.credential actorId rotation tokenHash hlast
      · cases herror

theorem actorSecurity_safe (actorId : ActorId) (hs : ActorInvariant host state) :
    Safe host run (actorSecurity actorId).run (OnOk (fun _ _ => True)) state := by
  have hread : Safe host run (attempt .repository (Program.perform (ActorCall.actorSecurity actorId)) :
      ActorM (Option StoredActorSecurity)).run (OnOk (fun _ _ => True)) state := by
    refine safe_attempt hs (fun _ _ _ _ h => h) ?_
    exact Program.Guards.mono (read_safe actorId) (fun _ _ _ _ _ _ => trivial)
  refine Safe.bind hread hs ?_
  intro found state _ _
  cases found with
  | none => exact safe_throw
  | some security => exact guards_pure (fun _ _ _ => trivial)

/-- A credential is issued for a secret that was hashed in this run. -/
theorem issueCredential_safe (actor : Actor) (hs : ActorInvariant host state) :
    Safe host run (issueCredential host actor).run
      (OnOk (fun issued state => ∃ secret, .hashed run secret issued.2.tokenHash ∈ state.2)) state := by
  have hrandom : Safe host run (answer ActorCall.random : ActorM (ActorSecret × ActorSalt)).run
      (OnOk (fun _ _ => True)) state := by
    rintro ⟨store, events⟩ _ hi _ r ⟨store', events'⟩ ⟨rfl, hevents⟩
    have hsame : events' = events := hevents.trans (append_nil _)
    rw [hsame]
    exact ⟨hi, ⟨[], (append_nil _).symm, fun _ hmem => absurd hmem not_mem_nil⟩, fun _ _ _ _ _ => trivial⟩
  refine Safe.bind hrandom hs ?_
  rintro ⟨secret, salt⟩ state hs _
  have hhash : Safe host run (attempt (fun _ => .hashing) (Program.perform (ActorCall.hash secret salt)) :
      ActorM TokenHash).run (OnOk (fun tokenHash state => .hashed run secret tokenHash ∈ state.2)) state := by
    refine safe_attempt hs (fun _ _ _ hr h => hashed_stable h hr) (safe_call ?_ ?_)
    · intro r state state' hr h tokenHash hok
      exact hashed_stable (h tokenHash hok) hr
    · intro store events r store' _ hi _ hhandler
      obtain ⟨rfl, ⟨tokenHash, hmade, rfl⟩ | rfl⟩ := hhandler
      · refine Or.inl ⟨.hashed run secret tokenHash, rfl, rfl, ?_, ?_⟩
        · refine hi.quiet (fun _ _ _ h => nomatch h) (fun _ _ h => nomatch h) (fun _ _ h => nomatch h) ?_
          rintro _ _ _ ⟨⟩
          exact ⟨salt, hmade⟩
        · rintro _ ⟨⟩
          exact mem_append_right _ mem_cons_self
      · exact Or.inr ⟨rfl, rfl, fun _ h => nomatch h⟩
  refine Safe.bind hhash hs ?_
  intro tokenHash state hs hhashed
  have hnow : Safe host run (answer ActorCall.now : ActorM Instant).run
      (OnOk (fun _ state => .hashed run secret tokenHash ∈ state.2)) state := by
    rintro ⟨store, events⟩ hr hi _ r ⟨store', events'⟩ ⟨rfl, hevents⟩
    have hsame : events' = events := hevents.trans (append_nil _)
    rw [hsame]
    refine ⟨hi, ⟨[], (append_nil _).symm, fun _ hmem => absurd hmem not_mem_nil⟩, ?_⟩
    intro state' hr' _ _ _
    exact hashed_stable (hashed_stable hhashed hr) hr'
  refine Safe.bind hnow hs ?_
  intro rotatedAt state _ hhashed
  exact guards_pure (fun state' hr _ => ⟨secret, hashed_stable hhashed hr⟩)

theorem rotate_safe (actorId : ActorId) (hs : ActorInvariant host state) :
    Safe host run (rotate host actorId).run (OnOk (fun _ _ => True)) state := by
  refine Safe.bind (actorSecurity_safe actorId hs) hs ?_
  intro security state hs _
  refine Safe.bind (issueCredential_safe security.actor hs) hs ?_
  rintro ⟨token, credential⟩ state hs ⟨secret, hhashed⟩
  have hstore : Safe host run (storeActor security.actor (some credential)).run (OnOk (fun _ _ => True)) state := by
    refine safe_attempt hs (fun _ _ _ _ h => h)
      (safe_call (fun _ _ _ _ h => h) ?_)
    intro store events r store' hr hi ha hhandler
    rcases hhandler with ⟨hwritten, rfl⟩ | ⟨rfl, error, rfl⟩
    · exact Or.inl ⟨_, rfl, rfl, hi.rotate_step hwritten ha (hashed_stable hhashed hr), fun _ _ => trivial⟩
    · exact Or.inr ⟨rfl, rfl, fun _ h => nomatch h⟩
  refine Safe.bind hstore hs ?_
  intro _ state _ _
  exact guards_pure (fun _ _ _ => trivial)

theorem disable_safe (actorId : ActorId) (hs : ActorInvariant host state) :
    Safe host run (disable actorId).run (OnOk (fun _ _ => True)) state := by
  refine Safe.bind (actorSecurity_safe actorId hs) hs ?_
  intro security state hs _
  refine safe_attempt hs (fun _ _ _ _ h => h)
    (safe_call (fun _ _ _ _ h => h) ?_)
  intro store events r store' _ hi _ hhandler
  rcases hhandler with ⟨hwritten, rfl⟩ | ⟨rfl, error, rfl⟩
  · exact Or.inl ⟨_, rfl, rfl, hi.disable_step run hwritten rfl, fun _ _ => trivial⟩
  · exact Or.inr ⟨rfl, rfl, fun _ h => nomatch h⟩

theorem replaceGrants_safe (actorId : ActorId) (grants : List ActorGrant) (hs : ActorInvariant host state) :
    Safe host run (replaceGrants actorId grants).run (OnOk (fun _ _ => True)) state := by
  refine guards_attempt (Rely.refl run) hs (fun _ _ _ _ _ h => h) ?_
  rintro ⟨store, events⟩ _ hi _ r ⟨store', events'⟩ ⟨hhandler, hevents⟩
  have hsame : events' = events := hevents.trans (append_nil _)
  have hkept : store'.actors = store.actors ∧ store'.credentials = store.credentials := by
    rcases hhandler with ⟨hwritten, -⟩ | ⟨heq, -⟩
    · have hreplaced : store.replaceActorGrants actorId grants = .ok store' := hwritten
      unfold ActorStore.replaceActorGrants at hreplaced
      split at hreplaced
      · cases hreplaced
      · split at hreplaced
        · cases hreplaced
        · cases hreplaced
          exact ⟨rfl, rfl⟩
    · have hstore : store' = store := heq
      rw [hstore]
      exact ⟨rfl, rfl⟩
  rw [hsame]
  refine ⟨⟨⟨?_, hi.secure.authenticated⟩, ?_, hi.hashed⟩, ⟨[], (append_nil _).symm,
    fun _ hmem => absurd hmem not_mem_nil⟩, fun _ _ _ _ _ => trivial⟩
  · intro other disabledId hmem
    rw [show store'.actors = store.actors from hkept.1]
    exact hi.secure.disabled other disabledId hmem
  · intro rotatedId rotation tokenHash hlast
    rw [show store'.credentials = store.credentials from hkept.2]
    exact hi.credential rotatedId rotation tokenHash hlast

theorem verify_safe (hrejects : host.Rejects) {actorId : ActorId} {security : StoredActorSecurity}
    {credential : ActorCredential} {secret : ActorSecret} (henabled : security.actor.enabled = true)
    (hcredential : security.credential = some credential) (hread : Read run actorId security state) :
    Safe host run (Program.perform (ActorCall.verify secret credential.tokenHash)) (OnOk (fun _ _ => True)) state := by
  refine safe_call (fun _ _ _ _ h => h) ?_
  intro store events r store' hr hi _ hhandler
  obtain ⟨rfl, rfl | rfl⟩ := hhandler
  · cases hverified : host.verify secret credential.tokenHash with
    | false => exact Or.inr ⟨rfl, rfl, fun _ _ => trivial⟩
    | true =>
      refine Or.inl ⟨.authenticated run secret, rfl, rfl, ?_, fun _ _ => trivial⟩
      refine hi.quiet (fun _ _ _ h => nomatch h) (fun _ _ h => nomatch h) ?_ (fun _ _ _ h => nomatch h)
      rintro _ _ ⟨⟩
      obtain ⟨earlier, later, hevents, hlast, hdisabled, hrotated⟩ := hread.stable hr
      refine ⟨earlier, actorId, later, hevents, hlast, hdisabled henabled, ?_⟩
      intro rotation tokenHash hlatest
      obtain ⟨⟨stored, hstored, rfl⟩, secret', hmade⟩ := hrotated rotation tokenHash hlatest
      obtain rfl : credential = stored := Option.some.inj (hcredential.symm.trans hstored)
      -- the secret is the one that was hashed, since no other verifies
      have hmem : .hashed rotation secret' credential.tokenHash ∈ events := by
        rw [show events = earlier ++ .read run actorId :: later from hevents]
        exact mem_append_left _ hmade
      obtain ⟨salt, hhash⟩ := hi.hashed rotation secret' _ hmem
      rw [hrejects secret secret' salt _ hhash hverified]
      exact hmade
  · exact Or.inr ⟨rfl, rfl, fun _ h => nomatch h⟩

theorem authenticate_safe (hrejects : host.Rejects) (bearer : String) (hs : ActorInvariant host state) :
    Safe host run (authenticate host bearer).run (OnOk (fun _ _ => True)) state := by
  unfold authenticate
  split
  · exact safe_throw
  next parsed _ =>
    have hload : Safe host run (attempt (fun _ => .invalidCredentials)
        (Program.perform (ActorCall.actorSecurity parsed.actorId)) : ActorM (Option StoredActorSecurity)).run
        (OnOk (fun found state => ∀ security, found = some security → Read run parsed.actorId security state))
        state := by
      refine safe_attempt hs ?_ (read_safe parsed.actorId)
      intro found state state' hr h security hsome
      exact (h security hsome).stable hr
    refine Safe.bind hload hs ?_
    intro found state hs hfound
    cases found with
    | none => exact safe_throw
    | some security =>
      simp only
      split
      · exact safe_throw
      next henabled =>
        split
        · exact safe_throw
        next credential hcredential =>
          have hverify := @verify_safe _ _ _ hrejects _ _ _ parsed.secret (Bool.eq_true_of_not_eq_false henabled)
            hcredential (hfound security rfl)
          refine Safe.bind (safe_attempt hs (fun _ _ _ _ h => h)
            hverify) hs ?_
          intro verified state _ _
          split
          · exact guards_pure (fun _ _ _ => trivial)
          · exact safe_throw

theorem serviceCall_safe (hrejects : host.Rejects) {p : Program ActorCall ActorCall.Response Unit}
    (hp : ActorServiceCall host p) (hs : ActorInvariant host state) :
    Safe host run p (fun _ _ => True) state := by
  have hunit : ∀ {α : Type} {x : ActorM α}, Safe host run x.run (OnOk (fun _ _ => True)) state →
      Safe host run (x.run.bind (fun _ => .done ())) (fun _ _ => True) state := by
    intro α x hx
    refine Program.Guards.bind (Rely.refl run) hs (Program.Guards.mono hx ?_)
    exact fun _ _ _ _ _ _ _ => trivial
  cases hp with
  | rotate actorId => exact hunit (rotate_safe actorId hs)
  | disable actorId => exact hunit (disable_safe actorId hs)
  | replaceGrants actorId grants => exact hunit (replaceGrants_safe actorId grants hs)
  | authenticate bearer => exact hunit (authenticate_safe hrejects bearer hs)

end Runs

/-- Where no rotation writes over a disable, disabled actors stay disabled and only the token of the
last rotation is accepted. -/
theorem disabled_actors_stay_disabled (host : TokenHost) (hrejects : host.Rejects) (store : ActorStore)
    {reached : Parties ActorCall ActorCall.Response ActorState ActorRun Unit}
    (hrun : Relation.ReflTransGen (Parties.Acts (actorDuties host Current)) ⟨(store, []), []⟩ reached) :
    SecureActors reached.state := by
  have hstart : ActorInvariant host (store, []) := by
    refine ⟨⟨fun _ _ h => (nomatch h), ?_⟩, fun _ _ _ h => (nomatch h), fun _ _ _ h => (nomatch h)⟩
    intro before run secret after hsplit
    cases before <;> cases hsplit
  have hinvariant : ActorInvariant host reached.state := by
    refine Parties.invariant (R := Rely) (G := Guarantee) (I := ActorInvariant host) (fun _ _ _ _ h h' => h.trans h')
      (fun _ _ _ _ hne _ h => rely_of_guarantee hne h) (fun run state => Rely.refl run state) ?_ hrun hstart rfl
    intro run program state hprogram hi
    exact serviceCall_safe hrejects hprogram hi
  exact hinvariant.secure

def plainTokens : TokenHost where
  actorIdText := fun _ => "7"
  parseActorId := fun text => if text = "7" then some 7 else none
  hash := fun secret _ => some secret
  verify := fun secret tokenHash => secret == tokenHash

theorem plainTokens_rejects : plainTokens.Rejects := by
  intro secret secret' salt tokenHash hhash hverify
  have hsecret : secret' = tokenHash := Option.some.inj hhash
  have hsame : secret = tokenHash := by simpa [plainTokens] using hverify
  rw [hsame, hsecret]

def actorApply (host : TokenHost) (secret : ActorSecret) : (c : ActorCall) → ActorStore → c.Response × ActorStore
  | .actorSecurity actorId, store => (.ok (store.actorSecurity actorId), store)
  | .storeActor actor credential, store =>
    match store.storeActor actor credential with
    | .ok store' => (.ok (), store')
    | .error error => (.error error, store)
  | .replaceActorGrants actorId grants, store =>
    match store.replaceActorGrants actorId grants with
    | .ok store' => (.ok (), store')
    | .error error => (.error error, store)
  | .random, store => ((secret, ""), store)
  | .hash secret salt, store =>
    match host.hash secret salt with
    | some tokenHash => (.ok tokenHash, store)
    | none => (.error (), store)
  | .verify secret tokenHash, store => (.ok (host.verify secret tokenHash), store)
  | .now, store => (0, store)

theorem actorApply_handles (host : TokenHost) (secret : ActorSecret) (c : ActorCall) (store : ActorStore) :
    actorHandler host c store (actorApply host secret c store).1 (actorApply host secret c store).2 := by
  cases c with
  | actorSecurity actorId => exact ⟨rfl, Or.inl rfl⟩
  | storeActor actor credential =>
    cases hwritten : store.storeActor actor credential with
    | ok store' =>
      simp only [actorApply, hwritten]
      exact Or.inl ⟨hwritten, rfl⟩
    | error error =>
      simp only [actorApply, hwritten]
      exact Or.inr ⟨rfl, error, rfl⟩
  | replaceActorGrants actorId grants =>
    cases hwritten : store.replaceActorGrants actorId grants with
    | ok store' =>
      simp only [actorApply, hwritten]
      exact Or.inl ⟨hwritten, rfl⟩
    | error error =>
      simp only [actorApply, hwritten]
      exact Or.inr ⟨rfl, error, rfl⟩
  | hash hashedSecret salt =>
    cases hmade : host.hash hashedSecret salt with
    | some tokenHash =>
      simp only [actorApply, hmade]
      exact ⟨rfl, Or.inl ⟨tokenHash, hmade, rfl⟩⟩
    | none =>
      simp only [actorApply, hmade]
      exact ⟨rfl, Or.inr rfl⟩
  | verify verifiedSecret tokenHash => exact ⟨rfl, Or.inl rfl⟩
  | _ => rfl

def firstSecret : ActorSecret := String.ofList (List.replicate 64 'a')
def nextSecret : ActorSecret := String.ofList (List.replicate 64 'b')

def plainActors : ActorStore :=
  ⟨⟨[⟨7, 1, .user, true⟩], by decide⟩, ⟨[⟨7, firstSecret, 0⟩], by decide⟩, .empty⟩

abbrev ActorProgram := Program ActorCall ActorCall.Response Unit

def rotation : ActorProgram := (rotate plainTokens 7).run.bind (fun _ => .done ())
def disabling : ActorProgram := (disable 7).run.bind (fun _ => .done ())
def authentication : ActorProgram :=
  (authenticate plainTokens (actorToken plainTokens 7 nextSecret)).run.bind (fun _ => .done ())

def plainRunFor (run : ActorRun) (p : ActorProgram) (calls : ℕ) (state : ActorState) : ActorProgram × ActorState :=
  p.runFor (trackingApply (actorApply plainTokens nextSecret) (observeActor run)) calls state

def plainEnd : ActorState :=
  (plainRunFor 3 disabling 9 (plainRunFor 2 authentication 9 (plainRunFor 1 rotation 9 (plainActors, [])).2).2).2

theorem plain_stays_disabled : SecureActors plainEnd := by
  have hall : ∀ (run : ActorRun) (p : ActorProgram) (state : ActorState), ActorServiceCall plainTokens p →
      p.PermittedFor (trackingApply (actorApply plainTokens nextSecret) (observeActor run)) (Current run) 9 state →
      Relation.ReflTransGen (Parties.Acts (actorDuties plainTokens Current)) ⟨state, []⟩
        ⟨(plainRunFor run p 9 state).2, []⟩ :=
    fun run p state hp ha => @Parties.of_runFor _ _ _ _ _ (actorDuties plainTokens Current) _ _
      (trackingApply_handles (actorApply_handles plainTokens nextSecret) (observeActor run)) _ hp []
      (fun _ hmember => absurd hmember List.not_mem_nil) 9 state ha
  exact disabled_actors_stay_disabled plainTokens plainTokens_rejects plainActors
    (((hall 1 rotation _ (.rotate 7) (by decide +kernel)).trans
      (hall 2 authentication _ (.authenticate _) (by decide +kernel))).trans
      (hall 3 disabling _ (.disable 7) (by decide +kernel)))

def rotationHeld : ActorProgram × ActorState := plainRunFor 1 rotation 4 (plainActors, [])

def disabledMeanwhile : ActorState := (plainRunFor 2 disabling 9 rotationHeld.2).2

def authenticatedAfter : ActorState :=
  (plainRunFor 3 authentication 9 (plainRunFor 1 rotationHeld.1 1 disabledMeanwhile).2).2

/-- A disable between the read and the write of a rotation is lost: the actor is enabled again, and
the token of the rotation is accepted. -/
theorem disable_lost :
    Relation.ReflTransGen (Parties.Acts (actorDuties plainTokens (fun _ _ _ => True))) ⟨(plainActors, []), []⟩
        ⟨authenticatedAfter, []⟩ ∧
      authenticatedAfter.2 = [.read 1 7, .hashed 1 nextSecret nextSecret, .read 2 7, .disabled 2 7,
        .rotated 1 7 nextSecret, .read 3 7, .authenticated 3 nextSecret] ∧
      authenticatedAfter.1.actors.find 7 = some ⟨7, 1, .user, true⟩ ∧ ¬ SecureActors authenticatedAfter := by
  have hevents : authenticatedAfter.2 = [.read 1 7, .hashed 1 nextSecret nextSecret, .read 2 7, .disabled 2 7,
      .rotated 1 7 nextSecret, .read 3 7, .authenticated 3 nextSecret] := by
    decide +kernel
  have henabled : authenticatedAfter.1.actors.find 7 = some ⟨7, 1, .user, true⟩ := by
    decide +kernel
  refine ⟨?_, hevents, henabled, ?_⟩
  · have hh : ∀ run, ∀ c s, (actorDuties plainTokens (fun _ _ _ => True)).handler run c s
        (trackingApply (actorApply plainTokens nextSecret) (observeActor run) c s).1
        (trackingApply (actorApply plainTokens nextSecret) (observeActor run) c s).2 :=
      fun run => trackingApply_handles (actorApply_handles plainTokens nextSecret) (observeActor run)
    have hjoin : Parties.Acts (actorDuties plainTokens (fun _ _ _ => True)) ⟨(plainActors, []), []⟩
        ⟨(plainActors, []), [] ++ [(1, rotation)]⟩ :=
      .join (fun _ hmember => absurd hmember List.not_mem_nil) (.rotate 7)
    have hread := @Parties.runFor_acts _ _ _ _ _ (actorDuties plainTokens (fun _ _ _ => True)) _ _ (hh 1) [] [] 4 rotation
      (plainActors, []) (Program.permittedFor_of_forall (fun _ _ => trivial) 4 _ _)
    have hdisable := @Parties.of_runFor _ _ _ _ _ (actorDuties plainTokens (fun _ _ _ => True)) _ _ (hh 2) _ (.disable 7)
      [(1, rotationHeld.1)] (fun member hmember => by rw [List.mem_singleton.mp hmember]; decide) 9 rotationHeld.2
      (Program.permittedFor_of_forall (fun _ _ => trivial) 9 _ _)
    have hwrite := @Parties.runFor_acts _ _ _ _ _ (actorDuties plainTokens (fun _ _ _ => True)) _ _ (hh 1) [] [] 1
      rotationHeld.1 disabledMeanwhile (Program.permittedFor_of_forall (fun _ _ => trivial) 1 _ _)
    have hstop : Parties.Acts (actorDuties plainTokens (fun _ _ _ => True))
        ⟨(plainRunFor 1 rotationHeld.1 1 disabledMeanwhile).2,
          [] ++ [(1, (plainRunFor 1 rotationHeld.1 1 disabledMeanwhile).1)]⟩
        ⟨(plainRunFor 1 rotationHeld.1 1 disabledMeanwhile).2, [] ++ []⟩ := .stop
    have hauthenticate := @Parties.of_runFor _ _ _ _ _ (actorDuties plainTokens (fun _ _ _ => True)) _ _ (hh 3) _
      (.authenticate (actorToken plainTokens 7 nextSecret)) [] (fun _ hmember => absurd hmember List.not_mem_nil) 9
      (plainRunFor 1 rotationHeld.1 1 disabledMeanwhile).2 (Program.permittedFor_of_forall (fun _ _ => trivial) 9 _ _)
    exact ((((Relation.ReflTransGen.head hjoin hread).trans hdisable).trans hwrite).tail hstop).trans hauthenticate
  · intro hsecure
    have hmem : .disabled 2 7 ∈ authenticatedAfter.2 := by
      rw [hevents]
      simp
    obtain ⟨actor, hactor, hoff⟩ := hsecure.disabled 2 7 hmem
    rw [henabled] at hactor
    cases hactor
    cases hoff

end ActorAuthentication
end HomeMagic
