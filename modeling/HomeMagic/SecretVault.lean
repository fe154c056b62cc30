import HomeMagic.AtomicMap

/-! The encrypted file vault: put, get and delete as the file-system steps that they take, any of which may fail, and
between any two of which other calls take theirs. -/
namespace HomeMagic

structure SecretStoreError where
  backend : String
  operation : String
  code : String
  deriving DecidableEq

def fileError (operation code : String) : SecretStoreError := ⟨"encrypted-file", operation, code⟩

def envelopeVersion : UInt8 := 1

structure Envelope where
  version : UInt8
  nonce : List UInt8
  ciphertext : List UInt8
  deriving DecidableEq

structure VaultHost (ν : Type) where
  encrypt : List UInt8 → String → List UInt8 → Option (List UInt8)
  decrypt : List UInt8 → String → List UInt8 → Option (List UInt8)
  toVec : Envelope → List UInt8
  fromSlice : List UInt8 → Option Envelope
  resolve : String → ν

def secretPath (reference : String) : String := reference ++ ".json"

def temporaryPath (reference : String) : String :=
  if reference = "" ∨ reference.toList.getLast? = some '/' then secretPath reference ++ ".json.tmp"
  else secretPath reference ++ ".tmp"

abbrev VaultOp := MapOp String (List UInt8)
abbrev VaultReply := MapReply (List UInt8) SecretStoreError
abbrev VaultEvent := MapEvent String (List UInt8) SecretStoreError

/-- Where a call stands. A put writes its payload to an open file and renames it when it is closed; a get collects
what it reads. -/
inductive VaultCall
  | putReady (reference : String) (value : List UInt8) (nonce : Vector UInt8 24)
  | putOpening (reference : String) (value payload : List UInt8)
  | putWriting (reference : String) (value payload : List UInt8) (file offset : ℕ)
  | putRenaming (reference : String) (value : List UInt8)
  | getReady (reference : String)
  | getReading (reference : String) (file : ℕ) (bytes : List UInt8)
  | getDecrypting (reference : String) (envelope : Envelope)
  | deleteReady (reference : String)

namespace VaultCall

def op : VaultCall → VaultOp
  | putReady reference value _ => .put reference value
  | putOpening reference value _ => .put reference value
  | putWriting reference value _ _ _ => .put reference value
  | putRenaming reference value => .put reference value
  | getReady reference => .get reference
  | getReading reference _ _ => .get reference
  | getDecrypting reference _ => .get reference
  | deleteReady reference => .delete reference

def failures : VaultCall → List String
  | putReady .. => ["key_unavailable", "invalid_key_length", "encoding_failed"]
  | putOpening .. => ["write_failed"]
  | putWriting .. => ["write_failed"]
  | putRenaming .. => ["commit_failed"]
  | getReady _ => ["read_failed"]
  | getReading .. => ["read_failed"]
  | getDecrypting .. => ["key_unavailable", "invalid_key_length"]
  | deleteReady _ => ["delete_failed"]

end VaultCall

def MapOp.operation : VaultOp → String
  | .put .. => "put"
  | .get _ => "get"
  | .delete _ => "delete"

/-- Directory entries name files, and an open file keeps its bytes without a name. -/
structure Vault (ν : Type) where
  names : ν → Option ℕ
  contents : ℕ → List UInt8
  files : ℕ
  calls : ℕ → Option VaultCall
  started : ℕ

inductive VaultAction
  | put (reference : String) (value : List UInt8) (nonce : Vector UInt8 24)
  | get (reference : String)
  | delete (reference : String)
  | advance (id amount : ℕ)
  | fail (id : ℕ) (code : String)
  | crash

def writeAt (bytes : List UInt8) (offset : ℕ) (chunk : List UInt8) : List UInt8 :=
  (bytes ++ List.replicate (offset - bytes.length) 0).take offset ++ chunk ++ bytes.drop (offset + chunk.length)

section
variable {ν : Type} (host : VaultHost ν)

def VaultHost.target (reference : String) : ν := host.resolve (secretPath reference)

def VaultHost.temporary (reference : String) : ν := host.resolve (temporaryPath reference)

def VaultHost.openEnvelope (bytes : List UInt8) : Except String Envelope :=
  match host.fromSlice bytes with
  | none => .error "invalid_envelope"
  | some envelope =>
    if envelope.version ≠ envelopeVersion ∨ envelope.nonce.length ≠ 24 then .error "unsupported_envelope"
    else .ok envelope

namespace Vault
variable [DecidableEq ν]

def empty : Vault ν := ⟨fun _ => none, fun _ => [], 0, fun _ => none, 0⟩

def setCall (vault : Vault ν) (id : ℕ) (call : Option VaultCall) : Vault ν :=
  { vault with calls := Function.update vault.calls id call }

def setName (vault : Vault ν) (place : ν) (file : Option ℕ) : Vault ν :=
  { vault with names := Function.update vault.names place file }

def setContents (vault : Vault ν) (file : ℕ) (bytes : List UInt8) : Vault ν :=
  { vault with contents := Function.update vault.contents file bytes }

def start (vault : Vault ν) (call : VaultCall) : Vault ν × List VaultEvent :=
  ({ vault.setCall vault.started (some call) with started := vault.started + 1 }, [.called vault.started call.op])

def reply (vault : Vault ν) (id : ℕ) (call : VaultCall) (reply : VaultReply) : Vault ν × List VaultEvent :=
  (vault.setCall id none, [.returned id call.op reply])

def refuse (vault : Vault ν) (id : ℕ) (call : VaultCall) (code : String) : Vault ν × List VaultEvent :=
  vault.reply id call (.error (fileError call.op.operation code))

def advance (vault : Vault ν) (id amount : ℕ) (call : VaultCall) : Vault ν × List VaultEvent :=
  match call with
  | .putReady reference value nonce =>
    match host.encrypt nonce.toList reference value with
    | none => vault.refuse id call "encryption_failed"
    | some ciphertext =>
      (vault.setCall id (some (.putOpening reference value
        (host.toVec ⟨envelopeVersion, nonce.toList, ciphertext⟩))), [])
  | .putOpening reference value payload =>
    match vault.names (host.temporary reference) with
    | some file => ((vault.setContents file []).setCall id (some (.putWriting reference value payload file 0)), [])
    | none =>
      ({ ((vault.setName (host.temporary reference) (some vault.files)).setContents vault.files []).setCall id
          (some (.putWriting reference value payload vault.files 0)) with files := vault.files + 1 }, [])
  | .putWriting reference value payload file offset =>
    if payload.length ≤ offset then (vault.setCall id (some (.putRenaming reference value)), [])
    else
      let chunk := (payload.drop offset).take (amount + 1)
      ((vault.setContents file (writeAt (vault.contents file) offset chunk)).setCall id
        (some (.putWriting reference value payload file (offset + chunk.length))), [])
  | .putRenaming reference _ =>
    match vault.names (host.temporary reference) with
    | none => vault.refuse id call "commit_failed"
    | some file =>
      ((vault.setName (host.temporary reference) none).setName (host.target reference) (some file)).reply id call
        .stored
  | .getReady reference =>
    match vault.names (host.target reference) with
    | none => vault.refuse id call "not_found"
    | some file => (vault.setCall id (some (.getReading reference file [])), [])
  | .getReading reference file bytes =>
    match ((vault.contents file).drop bytes.length).take (amount + 1) with
    | [] =>
      match host.openEnvelope bytes with
      | .error code => vault.refuse id call code
      | .ok envelope => (vault.setCall id (some (.getDecrypting reference envelope)), [])
    | chunk => (vault.setCall id (some (.getReading reference file (bytes ++ chunk))), [])
  | .getDecrypting reference envelope =>
    match host.decrypt envelope.nonce reference envelope.ciphertext with
    | none => vault.refuse id call "decryption_failed"
    | some value => vault.reply id call (.found value)
  | .deleteReady reference =>
    match vault.names (host.target reference) with
    | none => vault.refuse id call "not_found"
    | some _ => (vault.setName (host.target reference) none).reply id call .removed

def act (vault : Vault ν) : VaultAction → Option (Vault ν × List VaultEvent)
  | .put reference value nonce => some (vault.start (.putReady reference value nonce))
  | .get reference => some (vault.start (.getReady reference))
  | .delete reference => some (vault.start (.deleteReady reference))
  | .advance id amount => (vault.calls id).map (vault.advance host id amount)
  | .fail id code => (vault.calls id).bind (fun call =>
      if code ∈ call.failures then some (vault.refuse id call code) else none)
  | .crash => some ({ vault with calls := fun _ => none }, [.crashed])

inductive Run (permitted : Vault ν → VaultAction → Prop) : List VaultEvent → Vault ν → Prop
  | start : Run permitted [] Vault.empty
  | step {events new : List VaultEvent} {vault vault' : Vault ν} {action : VaultAction}
      (h : Run permitted events vault) (hpermitted : permitted vault action)
      (hact : vault.act host action = some (vault', new)) : Run permitted (events ++ new) vault'

def perform (allowed : Vault ν → VaultAction → Bool) : Vault ν → List VaultAction → Option (Vault ν × List VaultEvent)
  | vault, [] => some (vault, [])
  | vault, action :: rest =>
    if allowed vault action then
      (vault.act host action).bind (fun (next, new) =>
        (perform allowed next rest).map (fun (last, later) => (last, new ++ later)))
    else none

end Vault

end

end HomeMagic
