import HomeMagic.CommandDomain
import HomeMagic.Parties

/-! Actor credentials: how tokens are issued, rotated, disabled and verified. Every management call
reads the actor and writes it back whole; between its steps the other calls may act. -/
namespace HomeMagic

abbrev ActorSecret := String
abbrev ActorSalt := String
abbrev TokenHash := String

structure ActorCredential where
  actorId : ActorId
  tokenHash : TokenHash
  rotatedAt : Instant
  deriving DecidableEq

structure StoredActorSecurity where
  actor : Actor
  credential : Option ActorCredential
  grants : List ActorGrant
  deriving DecidableEq

structure ActorStore where
  actors : Table ActorId Actor Actor.id
  credentials : Table ActorId ActorCredential ActorCredential.actorId
  grants : Table GrantId ActorGrant ActorGrant.id

namespace ActorStore

def storeActor (store : ActorStore) (actor : Actor) (credential : Option ActorCredential) :
    Except StorageError ActorStore :=
  if credential.any (fun credential => credential.actorId != actor.id) then
    .error (.invalidCommand "credential actor mismatch")
  else if (store.actors.find actor.id).any (fun row => row.installationId != actor.installationId) then
    .error (.invalidCommand "actor installation is immutable")
  else .ok { store with
    actors := store.actors.upsert actor
    credentials := credential.elim store.credentials store.credentials.upsert }

def replaceActorGrants (store : ActorStore) (actorId : ActorId) (grants : List ActorGrant) :
    Except StorageError ActorStore :=
  if grants.any (fun grant => grant.actorId != actorId) then .error (.invalidCommand "grant actor mismatch")
  else match (store.grants.filter (fun grant => grant.actorId != actorId)).insertAll grants with
    | none => .error .constraint
    | some table => .ok { store with grants := table }

def actorSecurity (store : ActorStore) (actorId : ActorId) : Option StoredActorSecurity :=
  (store.actors.find actorId).map (fun actor => ⟨actor, store.credentials.find actorId,
    store.grants.page (fun grant => grant.actorId == actorId) ActorGrant.id store.grants.rows.length⟩)

end ActorStore

structure TokenHost where
  actorIdText : ActorId → String
  parseActorId : String → Option ActorId
  hash : ActorSecret → ActorSalt → Option TokenHash
  verify : ActorSecret → TokenHash → Bool

def TokenHost.Rejects (host : TokenHost) : Prop :=
  ∀ secret secret' salt tokenHash, host.hash secret' salt = some tokenHash →
    host.verify secret tokenHash = true → secret = secret'

structure ParsedToken where
  actorId : ActorId
  secret : ActorSecret
  deriving DecidableEq

def tokenPrefix : String := "hm1"

def secretLength : ℕ := 64

def isSecretDigit (c : Char) : Bool := ('0' ≤ c ∧ c ≤ '9') ∨ ('a' ≤ c ∧ c ≤ 'f')

def parseToken (host : TokenHost) (value : String) : Option ParsedToken :=
  match value.toList.splitOn '.' with
  | [leading, actor, secret] =>
    if leading ≠ tokenPrefix.toList ∨ secret.length ≠ secretLength ∨ secret.all isSecretDigit = false then none
    else (host.parseActorId (String.ofList actor)).map (fun actorId => ⟨actorId, String.ofList secret⟩)
  | _ => none

def actorToken (host : TokenHost) (actorId : ActorId) (secret : ActorSecret) : String :=
  tokenPrefix ++ "." ++ host.actorIdText actorId ++ "." ++ secret

inductive ActorCall
  | actorSecurity (actorId : ActorId)
  | storeActor (actor : Actor) (credential : Option ActorCredential)
  | replaceActorGrants (actorId : ActorId) (grants : List ActorGrant)
  | random
  | hash (secret : ActorSecret) (salt : ActorSalt)
  | verify (secret : ActorSecret) (tokenHash : TokenHash)
  | now

abbrev ActorCall.Response : ActorCall → Type
  | actorSecurity _ => Except StorageError (Option StoredActorSecurity)
  | storeActor _ _ | replaceActorGrants _ _ => Except StorageError Unit
  | random => ActorSecret × ActorSalt
  | hash _ _ => Except Unit TokenHash
  | verify _ _ => Except Unit Bool
  | now => Instant

inductive ActorAuthenticationError
  | repository (error : StorageError)
  | notFound | hashing | invalidCredentials
  deriving DecidableEq

abbrev ActorM (α : Type) := ExceptT ActorAuthenticationError (Program ActorCall ActorCall.Response) α

namespace ActorAuthentication

open Fallible

def actorSecurity (actorId : ActorId) : ActorM StoredActorSecurity := do
  let found ← attempt .repository (Program.perform (ActorCall.actorSecurity actorId))
  match found with
  | none => throw .notFound
  | some security => pure security

def issueCredential (host : TokenHost) (actor : Actor) : ActorM (String × ActorCredential) := do
  let issued : ActorSecret × ActorSalt ← answer ActorCall.random
  let tokenHash ← attempt (fun _ => .hashing) (Program.perform (ActorCall.hash issued.1 issued.2))
  let rotatedAt : Instant ← answer ActorCall.now
  pure (actorToken host actor.id issued.1, ⟨actor.id, tokenHash, rotatedAt⟩)

def storeActor (actor : Actor) (credential : Option ActorCredential) : ActorM Unit :=
  attempt .repository (Program.perform (ActorCall.storeActor actor credential))

def rotate (host : TokenHost) (actorId : ActorId) : ActorM String := do
  let security ← actorSecurity actorId
  let (token, credential) ← issueCredential host security.actor
  storeActor security.actor (some credential)
  pure token

def disable (actorId : ActorId) : ActorM Unit := do
  let security ← actorSecurity actorId
  storeActor { security.actor with enabled := false } none

def replaceGrants (actorId : ActorId) (grants : List ActorGrant) : ActorM Unit :=
  attempt .repository (Program.perform (ActorCall.replaceActorGrants actorId grants))

def authenticate (host : TokenHost) (bearer : String) : ActorM Actor :=
  match parseToken host bearer with
  | none => throw .invalidCredentials
  | some parsed => do
    let found ← attempt (fun _ => .invalidCredentials) (Program.perform (ActorCall.actorSecurity parsed.actorId))
    match found with
    | none => throw .invalidCredentials
    | some security =>
      if security.actor.enabled = false then throw .invalidCredentials
      else match security.credential with
        | none => throw .invalidCredentials
        | some credential => do
          let verified ← attempt (fun _ => .invalidCredentials)
            (Program.perform (ActorCall.verify parsed.secret credential.tokenHash))
          if verified then pure security.actor else throw .invalidCredentials

end ActorAuthentication

def actorHandler (host : TokenHost) : Handler ActorCall ActorCall.Response ActorStore
  | .actorSecurity actorId, store, response, store' =>
    store' = store ∧ (response = .ok (store.actorSecurity actorId) ∨ ∃ error, response = .error error)
  | .storeActor actor credential, store, response, store' =>
    (store.storeActor actor credential = .ok store' ∧ response = .ok ()) ∨
      (store' = store ∧ ∃ error, response = .error error)
  | .replaceActorGrants actorId grants, store, response, store' =>
    (store.replaceActorGrants actorId grants = .ok store' ∧ response = .ok ()) ∨
      (store' = store ∧ ∃ error, response = .error error)
  | .hash secret salt, store, response, store' =>
    store' = store ∧ ((∃ tokenHash, host.hash secret salt = some tokenHash ∧ response = .ok tokenHash) ∨
      response = .error ())
  | .verify secret tokenHash, store, response, store' =>
    store' = store ∧ (response = .ok (host.verify secret tokenHash) ∨ response = .error ())
  | .random, store, _, store' | .now, store, _, store' => store' = store

abbrev ActorRun := ℕ

inductive ActorEvent
  /-- The actor is read. -/
  | read (run : ActorRun) (actorId : ActorId)
  /-- A new secret is hashed. -/
  | hashed (run : ActorRun) (secret : ActorSecret) (tokenHash : TokenHash)
  /-- A rotation stores the actor with a new credential and is done. -/
  | rotated (run : ActorRun) (actorId : ActorId) (tokenHash : TokenHash)
  /-- A disable stores the actor and is done. -/
  | disabled (run : ActorRun) (actorId : ActorId)
  /-- An authentication succeeds. -/
  | authenticated (run : ActorRun) (secret : ActorSecret)
  deriving DecidableEq

def ActorEvent.run : ActorEvent → ActorRun
  | read run _ | hashed run _ _ | rotated run _ _ | disabled run _ | authenticated run _ => run

abbrev ActorState := ActorStore × List ActorEvent

def observeActor (run : ActorRun) : (c : ActorCall) → c.Response → ActorStore → ActorStore → List ActorEvent
  | .actorSecurity actorId, _, _, _ => [.read run actorId]
  | .hash secret _, .ok tokenHash, _, _ => [.hashed run secret tokenHash]
  | .storeActor actor (some credential), .ok _, _, _ => [.rotated run actor.id credential.tokenHash]
  | .storeActor actor none, .ok _, _, _ => [.disabled run actor.id]
  | .verify secret _, .ok true, _, _ => [.authenticated run secret]
  | _, _, _, _ => []

inductive ActorServiceCall (host : TokenHost) : Program ActorCall ActorCall.Response Unit → Prop
  | rotate (actorId : ActorId) :
      ActorServiceCall host ((ActorAuthentication.rotate host actorId).run.bind (fun _ => .done ()))
  | disable (actorId : ActorId) :
      ActorServiceCall host ((ActorAuthentication.disable actorId).run.bind (fun _ => .done ()))
  | replaceGrants (actorId : ActorId) (grants : List ActorGrant) :
      ActorServiceCall host ((ActorAuthentication.replaceGrants actorId grants).run.bind (fun _ => .done ()))
  | authenticate (bearer : String) :
      ActorServiceCall host ((ActorAuthentication.authenticate host bearer).run.bind (fun _ => .done ()))

def actorDuties (host : TokenHost) (allowed : ActorRun → ActorCall → ActorState → Prop) :
    Duties ActorCall ActorCall.Response ActorState ActorRun Unit where
  handler := fun run => (actorHandler host).tracking (observeActor run)
  starts := fun _ program => ActorServiceCall host program
  allowed := allowed

end HomeMagic
