import HomeMagic.SecretVault

/-! The file vault against an atomic map: puts that share a temporary file must not overlap, and then every run of the
vault looks like one of the map. -/
namespace HomeMagic

section
variable {ν : Type} (host : VaultHost ν)

structure VaultHost.Lawful : Prop where
  decrypts : ∀ nonce reference value ciphertext, host.encrypt nonce reference value = some ciphertext →
    host.decrypt nonce reference ciphertext = some value
  decodes : ∀ envelope, envelope.version = envelopeVersion → envelope.nonce.length = 24 →
    host.fromSlice (host.toVec envelope) = some envelope

def VaultHost.Opens (reference : String) (bytes value : List UInt8) : Prop :=
  ∃ envelope, host.openEnvelope bytes = .ok envelope ∧
    host.decrypt envelope.nonce reference envelope.ciphertext = some value

/-- References that lead to different files, none of which is a temporary file. -/
structure VaultHost.Separate (refs : Set String) : Prop where
  targets : ∀ r ∈ refs, ∀ r' ∈ refs, host.target r = host.target r' → r = r'
  temporaries : ∀ r ∈ refs, ∀ r' ∈ refs, host.target r ≠ host.temporary r'

def VaultCall.writes : VaultCall → Option ν
  | .putWriting reference _ _ _ _ => some (host.temporary reference)
  | .putRenaming reference _ => some (host.temporary reference)
  | _ => none

/-- Calls are for the given references, and a put opens its temporary file only when no other put is writing it. -/
def VaultHost.Careful (refs : Set String) (vault : Vault ν) : VaultAction → Prop
  | .put reference _ _ => reference ∈ refs
  | .get reference => reference ∈ refs
  | .delete reference => reference ∈ refs
  | .advance id _ => ∀ reference value payload, vault.calls id = some (.putOpening reference value payload) →
      ∀ id' call, vault.calls id' = some call → call.writes host ≠ some (host.temporary reference)
  | .fail _ _ => True
  | .crash => True

end

def vaultErrors : MapErrors String (List UInt8) SecretStoreError where
  absent op := fileError op.operation "not_found"
  own op error := ∃ code, error = fileError op.operation code ∧ match op with
    | .put .. => code ∈ ["key_unavailable", "invalid_key_length", "encryption_failed", "encoding_failed",
        "write_failed", "commit_failed"]
    | .get _ => code ∈ ["read_failed", "key_unavailable", "invalid_key_length"]
    | .delete _ => code = "delete_failed"

theorem own_of_failures {call : VaultCall} {code : String} (h : code ∈ call.failures) :
    vaultErrors.own call.op (fileError call.op.operation code) := by
  refine ⟨code, rfl, ?_⟩
  cases call <;> simp [VaultCall.failures, VaultCall.op] at h ⊢ <;> grind

section
variable {ν : Type} (host : VaultHost ν) (refs : Set String)
variable {r : String} {value bytes payload read : List UInt8} {file offset : ℕ} {vault' : Vault ν}
  {action : VaultAction} {call : VaultCall} {new : List VaultEvent} {nonce : Vector UInt8 24}
  {pending : Option (PendingCall String (List UInt8) SecretStoreError)}

def Vault.Finished (vault : Vault ν) (file : ℕ) : Prop :=
  file < vault.files ∧ ∀ r ∈ refs, vault.names (host.temporary r) ≠ some file

inductive CallSim (vault : Vault ν) :
    Option VaultCall → Option (PendingCall String (List UInt8) SecretStoreError) → Prop
  | none : CallSim vault none none
  | putReady {r : String} {value : List UInt8} {nonce : Vector UInt8 24} (hr : r ∈ refs) :
    CallSim vault (some (.putReady r value nonce)) (some (.waiting (.put r value)))
  | putOpening {r : String} {value payload : List UInt8} (hr : r ∈ refs) (hopens : host.Opens r payload value) :
    CallSim vault (some (.putOpening r value payload)) (some (.waiting (.put r value)))
  | putWriting {r : String} {value payload : List UInt8} {file offset : ℕ} (hr : r ∈ refs)
      (hname : vault.names (host.temporary r) = some file) (hoffset : offset ≤ payload.length)
      (hwritten : vault.contents file = payload.take offset) (hopens : host.Opens r payload value) :
    CallSim vault (some (.putWriting r value payload file offset)) (some (.waiting (.put r value)))
  | putRenaming {r : String} {value : List UInt8} {file : ℕ} (hr : r ∈ refs)
      (hname : vault.names (host.temporary r) = some file) (hopens : host.Opens r (vault.contents file) value) :
    CallSim vault (some (.putRenaming r value)) (some (.waiting (.put r value)))
  | getReady {r : String} (hr : r ∈ refs) : CallSim vault (some (.getReady r)) (some (.waiting (.get r)))
  | getReading {r : String} {file : ℕ} {bytes value : List UInt8} (hfinished : vault.Finished host refs file)
      (hread : bytes = (vault.contents file).take bytes.length) (hopens : host.Opens r (vault.contents file) value) :
    CallSim vault (some (.getReading r file bytes)) (some (.settled (.get r) (.found value)))
  | getDecrypting {r : String} {envelope : Envelope} {value : List UInt8}
      (hdecrypts : host.decrypt envelope.nonce r envelope.ciphertext = some value) :
    CallSim vault (some (.getDecrypting r envelope)) (some (.settled (.get r) (.found value)))
  | deleteReady {r : String} (hr : r ∈ refs) : CallSim vault (some (.deleteReady r)) (some (.waiting (.delete r)))

variable {host refs}

theorem CallSim.frame {vault : Vault ν} {call : Option VaultCall} (h : CallSim host refs vault call pending)
    (place : Option ν) (hother : ∀ c, call = some c → ∀ p, c.writes host = some p → place ≠ some p)
    (hnames : ∀ r ∈ refs, place ≠ some (host.temporary r) →
      vault'.names (host.temporary r) = vault.names (host.temporary r))
    (hnamed : ∀ r ∈ refs, place ≠ some (host.temporary r) → ∀ file, vault.names (host.temporary r) = some file →
      vault'.contents file = vault.contents file) (hfinished : ∀ file, vault.Finished host refs file →
      vault'.Finished host refs file ∧ vault'.contents file = vault.contents file) :
    CallSim host refs vault' call pending := by
  cases h with
  | none => exact .none
  | putReady hr => exact .putReady hr
  | putOpening hr hopens => exact .putOpening hr hopens
  | @putWriting r value payload file offset hr hname hoffset hwritten hopens =>
    have hplace : place ≠ some (host.temporary r) := hother _ rfl _ rfl
    exact .putWriting hr ((hnames r hr hplace).trans hname) hoffset
      ((hnamed r hr hplace file hname).trans hwritten) hopens
  | @putRenaming r value file hr hname hopens =>
    have hplace : place ≠ some (host.temporary r) := hother _ rfl _ rfl
    refine .putRenaming hr ((hnames r hr hplace).trans hname) ?_
    rw [hnamed r hr hplace file hname]
    exact hopens
  | getReady hr => exact .getReady hr
  | @getReading r file bytes value hfile hread hopens =>
    obtain ⟨hfile', hsame⟩ := hfinished file hfile
    rw [← hsame] at hread hopens
    exact .getReading hfile' hread hopens
  | getDecrypting hdecrypts => exact .getDecrypting hdecrypts
  | deleteReady hr => exact .deleteReady hr

variable (host refs)

def StoredSim (vault : Vault ν) (r : String) : Option (List UInt8) → Prop
  | none => vault.names (host.target r) = none
  | some value => ∃ file, vault.names (host.target r) = some file ∧ host.Opens r (vault.contents file) value

structure VaultSim (vault : Vault ν) (s : AtomicState String (List UInt8) SecretStoreError) : Prop where
  started : vault.started = s.started
  files : ∀ place file, vault.names place = some file → file < vault.files
  distinct : ∀ place place' file, vault.names place = some file → vault.names place' = some file → place = place'
  stored : ∀ r ∈ refs, StoredSim host vault r (s.map r)
  calls : ∀ id, CallSim host refs vault (vault.calls id) (s.calls id)
  apart : ∀ id id' call call' place, vault.calls id = some call → vault.calls id' = some call' →
    call.writes host = some place → call'.writes host = some place → id = id'

variable {host refs}
variable {vault : Vault ν} {s : AtomicState String (List UInt8) SecretStoreError}

theorem VaultSim.setCall [DecidableEq ν] (h : VaultSim host refs vault s) (id : ℕ) {call : Option VaultCall}
    (hcall : CallSim host refs vault call pending)
    (hapart : ∀ c, call = some c → ∀ place, c.writes host = some place → ∀ id' call', id' ≠ id →
      vault.calls id' = some call' → call'.writes host ≠ some place) :
    VaultSim host refs (vault.setCall id call) (s.setCall id pending) := by
  constructor
  case started => exact h.started
  case files => exact h.files
  case distinct => exact h.distinct
  case stored => exact h.stored
  case calls =>
    intro id'
    have hsame : CallSim host refs vault ((vault.setCall id call).calls id') ((s.setCall id pending).calls id') := by
      change CallSim host refs vault (Function.update vault.calls id call id') (Function.update s.calls id pending id')
      rw [Function.update_apply, Function.update_apply]
      split_ifs
      · exact hcall
      · exact h.calls id'
    exact hsame.frame none (fun _ _ _ _ heq => nomatch heq) (fun _ _ _ => rfl) (fun _ _ _ _ _ => rfl)
      (fun _ hfile => ⟨hfile, rfl⟩)
  case apart =>
    intro id₁ id₂ call₁ call₂ place h₁ h₂ hw₁ hw₂
    change Function.update vault.calls id call id₁ = _ at h₁
    change Function.update vault.calls id call id₂ = _ at h₂
    rw [Function.update_apply] at h₁ h₂
    split_ifs at h₁ h₂ with heq₁ heq₂ heq₂
    · rw [heq₁, heq₂]
    · exact absurd hw₂ (hapart call₁ h₁ place hw₁ id₂ call₂ heq₂ h₂)
    · exact absurd hw₁ (hapart call₂ h₂ place hw₂ id₁ call₁ heq₁ h₁)
    · exact h.apart id₁ id₂ call₁ call₂ place h₁ h₂ hw₁ hw₂

theorem VaultSim.change {s' : AtomicState String (List UInt8) SecretStoreError} (h : VaultSim host refs vault s)
    (hvault : vault'.calls = vault.calls) (hstarted : vault'.started = vault.started) (hs : s'.calls = s.calls)
    (hs' : s'.started = s.started) (place : Option ν)
    (hfree : ∀ id call, vault.calls id = some call → ∀ p, call.writes host = some p → place ≠ some p)
    (hnames : ∀ r ∈ refs, place ≠ some (host.temporary r) →
      vault'.names (host.temporary r) = vault.names (host.temporary r))
    (hnamed : ∀ r ∈ refs, place ≠ some (host.temporary r) → ∀ file, vault.names (host.temporary r) = some file →
      vault'.contents file = vault.contents file) (hfinished : ∀ file, vault.Finished host refs file →
      vault'.Finished host refs file ∧ vault'.contents file = vault.contents file)
    (hfiles : ∀ place file, vault'.names place = some file → file < vault'.files)
    (hdistinct : ∀ place place' file, vault'.names place = some file → vault'.names place' = some file → place = place')
    (hstored : ∀ r ∈ refs, StoredSim host vault' r (s'.map r)) : VaultSim host refs vault' s' := by
  constructor
  case started => rw [hstarted, hs', h.started]
  case files => exact hfiles
  case distinct => exact hdistinct
  case stored => exact hstored
  case calls =>
    intro id
    rw [hvault, hs]
    exact (h.calls id).frame place (fun call hcall p hp => hfree id call hcall p hp) hnames hnamed hfinished
  case apart =>
    rw [hvault]
    exact h.apart

theorem VaultSim.target_finished (h : VaultSim host refs vault s) (hrefs : host.Separate refs) (hr : r ∈ refs)
    (hname : vault.names (host.target r) = some file) : vault.Finished host refs file := by
  refine ⟨h.files _ _ hname, fun r' hr' htemporary => ?_⟩
  exact hrefs.temporaries r hr r' hr' (h.distinct _ _ _ hname htemporary)

theorem VaultSim.setContents (h : VaultSim host refs vault s) (hrefs : host.Separate refs) (hr : r ∈ refs)
    (hname : vault.names (host.temporary r) = some file)
    (hfree : ∀ id call, vault.calls id = some call → call.writes host ≠ some (host.temporary r))
    (bytes : List UInt8) :
    VaultSim host refs (vault.setContents file bytes) s := by
  have hother : ∀ other, other ≠ file → (vault.setContents file bytes).contents other = vault.contents other :=
    fun other hne => Function.update_of_ne hne _ _
  have hkept : ∀ other, vault.Finished host refs other →
      (vault.setContents file bytes).contents other = vault.contents other := by
    intro other hfinished
    exact hother other (fun heq => hfinished.2 r hr (by rw [hname, heq]))
  refine h.change rfl rfl rfl rfl (some (host.temporary r)) ?_ (fun _ _ _ => rfl) ?_
    (fun other hfinished => ⟨hfinished, hkept other hfinished⟩) h.files h.distinct ?_
  · intro id call hcall p hp heq
    exact hfree id call hcall (hp.trans heq.symm)
  · intro r' hr' hplace other hname'
    refine hother other (fun heq => hplace ?_)
    rw [heq] at hname'
    rw [h.distinct _ _ _ hname hname']
  · intro r' hr'
    have hstored := h.stored r' hr'
    cases hvalue : s.map r' with
    | none =>
      rw [hvalue] at hstored
      exact hstored
    | some value =>
      rw [hvalue] at hstored
      obtain ⟨target, htarget, hopens⟩ := hstored
      refine ⟨target, htarget, ?_⟩
      rw [hkept target (h.target_finished hrefs hr' htarget)]
      exact hopens

/-- A put opens a fresh temporary file, which no other call writes. -/
theorem VaultSim.create [DecidableEq ν] (h : VaultSim host refs vault s) (hrefs : host.Separate refs)
    (hr : r ∈ refs) (hfree : ∀ id call, vault.calls id = some call → call.writes host ≠ some (host.temporary r)) :
    VaultSim host refs { (vault.setName (host.temporary r) (some vault.files)).setContents vault.files [] with
      files := vault.files + 1 } s := by
  have hnames : ∀ place, place ≠ host.temporary r →
      Function.update vault.names (host.temporary r) (some vault.files) place = vault.names place :=
    fun place hne => Function.update_of_ne hne _ _
  have hcontents : ∀ file, file < vault.files →
      Function.update vault.contents vault.files [] file = vault.contents file :=
    fun file hless => Function.update_of_ne (Nat.ne_of_lt hless) _ _
  have hcases : ∀ place file, Function.update vault.names (host.temporary r) (some vault.files) place = some file →
      place = host.temporary r ∧ file = vault.files ∨ vault.names place = some file := by
    intro place file hname
    rw [Function.update_apply] at hname
    split_ifs at hname with heq
    · exact .inl ⟨heq, (Option.some.inj hname).symm⟩
    · exact .inr hname
  refine h.change rfl rfl rfl rfl (some (host.temporary r)) ?_ ?_ ?_ ?_ ?_ ?_ ?_
  · intro id call hcall p hp heq
    exact hfree id call hcall (hp.trans heq.symm)
  · intro r' _ hplace
    exact hnames _ (fun heq => hplace (by rw [heq]))
  · intro r' _ _ file hname
    exact hcontents file (h.files _ _ hname)
  · intro file hfinished
    refine ⟨⟨Nat.lt_succ_of_lt hfinished.1, fun r' hr' hname => ?_⟩, hcontents file hfinished.1⟩
    rcases hcases _ _ hname with ⟨_, hfile⟩ | hold
    · exact Nat.ne_of_lt hfinished.1 hfile
    · exact hfinished.2 r' hr' hold
  · intro place file hname
    rcases hcases place file hname with ⟨_, hfile⟩ | hold
    · rw [hfile]; exact Nat.lt_succ_self _
    · exact Nat.lt_succ_of_lt (h.files place file hold)
  · intro place place' file hname hname'
    rcases hcases place file hname with ⟨hplace, hfile⟩ | hold
    · rcases hcases place' file hname' with ⟨hplace', _⟩ | hold'
      · rw [hplace, hplace']
      · exact absurd hfile (Nat.ne_of_lt (h.files place' file hold'))
    · rcases hcases place' file hname' with ⟨_, hfile'⟩ | hold'
      · exact absurd hfile' (Nat.ne_of_lt (h.files place file hold))
      · exact h.distinct place place' file hold hold'
  · intro r' hr'
    have hstored := h.stored r' hr'
    have htarget := hnames (host.target r') (hrefs.temporaries r' hr' r hr)
    cases hvalue : s.map r' with
    | none =>
      rw [hvalue] at hstored
      exact htarget.trans hstored
    | some value =>
      rw [hvalue] at hstored
      obtain ⟨file, hname, hopens⟩ := hstored
      refine ⟨file, htarget.trans hname, ?_⟩
      change host.Opens r' (Function.update vault.contents vault.files [] file) value
      rw [hcontents file (h.files _ _ hname)]
      exact hopens

/-- The place of a reference changes, and the map with it. -/
theorem VaultSim.setTarget [DecidableEq ν] (h : VaultSim host refs vault s) (hrefs : host.Separate refs)
    (hr : r ∈ refs) (vault' : Vault ν) (hvault : vault'.calls = vault.calls)
    (hstarted : vault'.started = vault.started) (hcontents : vault'.contents = vault.contents)
    (hcount : vault'.files = vault.files) (value : Option (List UInt8))
    (hnames : ∀ place, place ≠ host.target r → vault'.names place = vault.names place ∨
      place = host.temporary r ∧ vault'.names place = none)
    (htarget : ∀ file, vault'.names (host.target r) = some file → vault.names (host.temporary r) = some file ∧
      vault'.names (host.temporary r) = none)
    (hfree : vault'.names (host.temporary r) = vault.names (host.temporary r) ∨
      ∀ id call, vault.calls id = some call → call.writes host ≠ some (host.temporary r))
    (hstored : StoredSim host vault' r value) : VaultSim host refs vault' (s.setValue r value) := by
  have hsome : ∀ place file, place ≠ host.target r → vault'.names place = some file →
      vault.names place = some file := by
    intro place file hplace hname
    rcases hnames place hplace with hsame | ⟨_, hnone⟩
    · rw [← hsame]; exact hname
    · rw [hnone] at hname; cases hname
  have htemporary : ∀ r' ∈ refs, ∀ file, vault'.names (host.temporary r') = some file →
      vault.names (host.temporary r') = some file :=
    fun r' hr' file hname => hsome _ file (fun heq => hrefs.temporaries r hr r' hr' heq.symm) hname
  have hkept : ∀ r' ∈ refs, host.temporary r' ≠ host.temporary r →
      vault'.names (host.temporary r') = vault.names (host.temporary r') := by
    intro r' hr' hne
    rcases hnames _ (fun heq => hrefs.temporaries r hr r' hr' heq.symm) with hsame | ⟨heq, _⟩
    · exact hsame
    · exact absurd heq hne
  -- besides the target only the temporary name of the same reference may change
  refine h.change hvault hstarted rfl rfl
    (if vault'.names (host.temporary r) = vault.names (host.temporary r) then none
      else some (host.temporary r)) ?_ ?_ (fun _ _ _ _ _ => by rw [hcontents]) ?_ ?_ ?_ ?_
  · intro id call hcall p hp
    split_ifs with hsame
    · exact fun heq => nomatch heq
    · intro heq
      exact hfree.resolve_left hsame id call hcall (hp.trans heq.symm)
  · intro r' hr' hplace
    split_ifs at hplace with hsame
    · by_cases heq : host.temporary r' = host.temporary r
      · rw [heq]; exact hsame
      · exact hkept r' hr' heq
    · exact hkept r' hr' (fun heq => hplace (by rw [heq]))
  · intro file hfinished
    refine ⟨⟨by rw [hcount]; exact hfinished.1, fun r' hr' hname => ?_⟩, by rw [hcontents]⟩
    exact hfinished.2 r' hr' (htemporary r' hr' file hname)
  · intro place file hname
    rw [hcount]
    by_cases hplace : place = host.target r
    · rw [hplace] at hname
      exact h.files _ _ (htarget file hname).1
    · exact h.files _ _ (hsome place file hplace hname)
  · -- the file that the target has got is under no other name
    have hone : ∀ place file, place ≠ host.target r → vault'.names (host.target r) = some file →
        vault'.names place ≠ some file := by
      intro place file hplace hfile hname
      obtain ⟨hold, hnone⟩ := htarget file hfile
      have heq := h.distinct _ _ _ hold (hsome place file hplace hname)
      rw [← heq, hnone] at hname
      cases hname
    intro place place' file hname hname'
    by_cases hplace : place = host.target r
    · by_cases hplace' : place' = host.target r
      · rw [hplace, hplace']
      · rw [hplace] at hname
        exact absurd hname' (hone place' file hplace' hname)
    · by_cases hplace' : place' = host.target r
      · rw [hplace'] at hname'
        exact absurd hname (hone place file hplace hname')
      · exact h.distinct place place' file (hsome _ _ hplace hname) (hsome _ _ hplace' hname')
  · intro r' hr'
    change StoredSim host vault' r' (Function.update s.map r value r')
    rw [Function.update_apply]
    split_ifs with heq
    · rw [heq]; exact hstored
    · have hne : host.target r' ≠ host.target r := fun hsame => heq (hrefs.targets r' hr' r hr hsame)
      have hsame : vault'.names (host.target r') = vault.names (host.target r') := by
        rcases hnames _ hne with hsame | ⟨htemp, _⟩
        · exact hsame
        · exact absurd htemp (hrefs.temporaries r' hr' r hr)
      have hstored' := h.stored r' hr'
      cases hvalue : s.map r' with
      | none =>
        rw [hvalue] at hstored'
        exact hsame.trans hstored'
      | some other =>
        rw [hvalue] at hstored'
        obtain ⟨file, hname, hopens⟩ := hstored'
        refine ⟨file, hsame.trans hname, ?_⟩
        rw [hcontents]
        exact hopens

theorem take_of_drop_eq_nil (hread : read = bytes.take read.length) {amount : ℕ}
    (hend : (bytes.drop read.length).take (amount + 1) = []) : read = bytes := by
  rcases List.take_eq_nil_iff.mp hend with hzero | hdrop
  · cases hzero
  · rw [hread, List.take_of_length_le (List.drop_eq_nil_iff.mp hdrop)]

theorem take_read_on (hread : read = bytes.take read.length) (amount : ℕ) :
    read ++ (bytes.drop read.length).take amount =
      bytes.take (read ++ (bytes.drop read.length).take amount).length := by
  have htake : read ++ (bytes.drop read.length).take amount = bytes.take (read.length + amount) := by
    rw [List.take_add, ← hread]
  rw [htake, List.length_take, List.take_eq_take_iff]
  omega

theorem writeAt_take (h : offset ≤ payload.length) (amount : ℕ) :
    writeAt (payload.take offset) offset ((payload.drop offset).take amount) =
      payload.take (offset + ((payload.drop offset).take amount).length) := by
  have hlength : (payload.take offset).length = offset := by rw [List.length_take]; omega
  have htake : payload.take (offset + ((payload.drop offset).take amount).length) =
      payload.take offset ++ (payload.drop offset).take amount := by
    rw [List.take_add]
    congr 1
    rw [List.length_take, List.take_eq_take_iff]
    omega
  have hdrop : (payload.take offset).drop (offset + ((payload.drop offset).take amount).length) = [] :=
    List.drop_eq_nil_of_le (by rw [hlength]; omega)
  unfold writeAt
  rw [htake, hlength, hdrop, Nat.sub_self, List.replicate_zero, List.append_nil, List.append_nil, List.take_take,
    Nat.min_self]

theorem opens_sealed (hlawful : host.Lawful) {ciphertext : List UInt8}
    (h : host.encrypt nonce.toList r value = some ciphertext) :
    host.Opens r (host.toVec ⟨envelopeVersion, nonce.toList, ciphertext⟩) value := by
  have hlength : nonce.toList.length = 24 := by simp
  refine ⟨⟨envelopeVersion, nonce.toList, ciphertext⟩, ?_, hlawful.decrypts _ _ _ _ h⟩
  unfold VaultHost.openEnvelope
  rw [hlawful.decodes _ rfl hlength]
  simp [hlength]

variable [DecidableEq ν]

/-- A run of the map that has shown the events, to a state that the vault simulates. -/
def Simulated (host : VaultHost ν) (refs : Set String) (events : List VaultEvent) (vault : Vault ν) : Prop :=
  ∃ s, AtomicTrace vaultErrors .empty events s ∧ VaultSim host refs vault s

section
variable {events : List VaultEvent} (htrace : AtomicTrace vaultErrors .empty events s)
  (h : VaultSim host refs vault s)
include htrace h

theorem Simulated.start (hcall : CallSim host refs vault (some call) (some (.waiting call.op)))
    (hwrites : call.writes host = none) :
    Simulated host refs (events ++ (vault.start call).2) (vault.start call).1 := by
  refine ⟨{ s.setCall s.started (some (.waiting call.op)) with started := s.started + 1 }, ?_, ?_⟩
  · have hstep := htrace.step (.call call.op)
    rw [← h.started] at hstep ⊢
    exact hstep
  · have hnext := h.setCall vault.started hcall (fun c hc place hplace => by
      rw [← Option.some.inj hc, hwrites] at hplace
      cases hplace)
    rw [h.started] at hnext
    constructor
    case started => change vault.started + 1 = s.started + 1; rw [h.started]
    case files => exact hnext.files
    case distinct => exact hnext.distinct
    case stored => exact hnext.stored
    case calls =>
      intro id
      have hsame := hnext.calls id
      rw [← h.started] at hsame ⊢
      exact hsame.frame none (fun _ _ _ _ heq => nomatch heq) (fun _ _ _ => rfl) (fun _ _ _ _ _ => rfl)
        (fun _ hfile => ⟨hfile, rfl⟩)
    case apart =>
      rw [← h.started] at hnext
      exact hnext.apart

theorem Simulated.goOn {id : ℕ} (hcall : CallSim host refs vault (some call) (s.calls id))
    (hapart : ∀ place, call.writes host = some place → ∀ id' call', id' ≠ id →
      vault.calls id' = some call' → call'.writes host ≠ some place) :
    Simulated host refs events (vault.setCall id (some call)) := by
  refine ⟨s, htrace, ?_⟩
  have hnext := h.setCall id hcall (fun c hc => by rw [← Option.some.inj hc]; exact hapart)
  have hself : s.setCall id (s.calls id) = s := by
    unfold AtomicState.setCall
    rw [Function.update_eq_self]
  rwa [hself] at hnext

end

theorem AtomicState.setCall_same {id : ℕ} {pending : PendingCall String (List UInt8) SecretStoreError}
    (h : s.calls id = some pending) : s.setCall id (some pending) = s := by
  unfold AtomicState.setCall
  rw [← h, Function.update_eq_self]

section
variable {events : List VaultEvent} (htrace : AtomicTrace vaultErrors .empty events s)
  (h : VaultSim host refs vault s) {id amount : ℕ}
include htrace h

theorem Simulated.putReady (hlawful : host.Lawful) (hpending : s.calls id = some (.waiting (.put r value)))
    (hr : r ∈ refs) :
    Simulated host refs (events ++ (vault.advance host id amount (.putReady r value nonce)).2)
      (vault.advance host id amount (.putReady r value nonce)).1 := by
  cases hseal : host.encrypt nonce.toList r value with
  | none =>
    have hadvance : vault.advance host id amount (.putReady r value nonce) =
        vault.refuse id (.putReady r value nonce) "encryption_failed" := by simp only [Vault.advance, hseal]
    rw [hadvance]
    have hown : vaultErrors.own (.put r value) (fileError "put" "encryption_failed") := ⟨_, rfl, by simp⟩
    exact ⟨_, htrace.failed hpending hown, h.setCall id .none (fun _ hc => nomatch hc)⟩
  | some ciphertext =>
    have hadvance : vault.advance host id amount (.putReady r value nonce) =
        (vault.setCall id (some (.putOpening r value
          (host.toVec ⟨envelopeVersion, nonce.toList, ciphertext⟩))), []) := by
      simp only [Vault.advance, hseal]
    rw [hadvance, List.append_nil]
    refine Simulated.goOn htrace h ?_ (fun place hplace => nomatch hplace)
    rw [hpending]
    exact .putOpening hr (opens_sealed hlawful hseal)

/-- A put opens its temporary file; the map has not changed yet. -/
theorem Simulated.putOpening (hrefs : host.Separate refs) (hpending : s.calls id = some (.waiting (.put r value)))
    (hr : r ∈ refs) (hopens : host.Opens r payload value)
    (hfree : ∀ id' call', vault.calls id' = some call' → call'.writes host ≠ some (host.temporary r)) :
    Simulated host refs (events ++ (vault.advance host id amount (.putOpening r value payload)).2)
      (vault.advance host id amount (.putOpening r value payload)).1 := by
  cases hname : vault.names (host.temporary r) with
  | some file =>
    have hadvance : vault.advance host id amount (.putOpening r value payload) =
        ((vault.setContents file []).setCall id (some (.putWriting r value payload file 0)), []) := by
      simp only [Vault.advance, hname]
    rw [hadvance, List.append_nil]
    refine Simulated.goOn htrace (h.setContents hrefs hr hname hfree []) ?_ (fun place hplace id' call' _ hcall' => ?_)
    · rw [hpending]
      exact .putWriting hr hname (Nat.zero_le _) (Function.update_self _ _ _) hopens
    · rw [← hplace]
      exact hfree id' call' hcall'
  | none =>
    have hadvance : vault.advance host id amount (.putOpening r value payload) =
        (({ (vault.setName (host.temporary r) (some vault.files)).setContents vault.files [] with
          files := vault.files + 1 } : Vault ν).setCall id (some (.putWriting r value payload vault.files 0)), []) := by
      simp only [Vault.advance, hname]
      rfl
    rw [hadvance, List.append_nil]
    refine Simulated.goOn htrace (h.create hrefs hr hfree) ?_ (fun place hplace id' call' _ hcall' => ?_)
    · rw [hpending]
      exact .putWriting hr (Function.update_self _ _ _) (Nat.zero_le _) (Function.update_self _ _ _) hopens
    · rw [← hplace]
      exact hfree id' call' hcall'

/-- A put writes on, fails, or closes its file with the whole payload in it. -/
theorem Simulated.putWriting (hrefs : host.Separate refs) (hpending : s.calls id = some (.waiting (.put r value)))
    (hr : r ∈ refs) (hname : vault.names (host.temporary r) = some file) (hoffset : offset ≤ payload.length)
    (hwritten : vault.contents file = payload.take offset) (hopens : host.Opens r payload value)
    (hothers : ∀ id' call', id' ≠ id → vault.calls id' = some call' → call'.writes host ≠ some (host.temporary r)) :
    Simulated host refs (events ++ (vault.advance host id amount (.putWriting r value payload file offset)).2)
      (vault.advance host id amount (.putWriting r value payload file offset)).1 := by
  by_cases hdone : payload.length ≤ offset
  · have hadvance : vault.advance host id amount (.putWriting r value payload file offset) =
        (vault.setCall id (some (.putRenaming r value)), []) := by simp only [Vault.advance, if_pos hdone]
    rw [hadvance, List.append_nil]
    refine Simulated.goOn htrace h ?_ (fun place hplace id' call' hne hcall' => ?_)
    · rw [hpending]
      refine .putRenaming hr hname ?_
      rw [hwritten, List.take_of_length_le hdone]
      exact hopens
    · rw [← hplace]
      exact hothers id' call' hne hcall'
  · let chunk := (payload.drop offset).take (amount + 1)
    have hadvance : vault.advance host id amount (.putWriting r value payload file offset) =
        ((vault.setContents file (writeAt (vault.contents file) offset chunk)).setCall id
          (some (.putWriting r value payload file (offset + chunk.length))), []) := by
      simp only [Vault.advance, if_neg hdone]
      rfl
    rw [hadvance, List.append_nil]
    -- the call itself is put back to where it had written nothing
    have hback : VaultSim host refs (vault.setCall id (some (.putOpening r value payload))) s := by
      have hset := h.setCall id (.putOpening hr hopens) (fun c hc place hplace => by
        rw [← Option.some.inj hc] at hplace
        cases hplace)
      rwa [AtomicState.setCall_same hpending] at hset
    have hfree : ∀ id' call', (vault.setCall id (some (.putOpening r value payload))).calls id' = some call' →
        call'.writes host ≠ some (host.temporary r) := by
      intro id' call' hcall'
      change Function.update vault.calls id _ id' = some call' at hcall'
      rw [Function.update_apply] at hcall'
      split_ifs at hcall' with heq
      · rw [← Option.some.inj hcall']
        exact fun hplace => nomatch hplace
      · exact hothers id' call' heq hcall'
    have hwrite := hback.setContents hrefs hr hname hfree (writeAt (vault.contents file) offset chunk)
    have hlength : offset + chunk.length ≤ payload.length := by
      simp only [chunk, List.length_take, List.length_drop]
      omega
    have hcontents : Function.update vault.contents file (writeAt (vault.contents file) offset chunk) file =
        payload.take (offset + chunk.length) := by
      rw [Function.update_self, hwritten]
      exact writeAt_take hoffset _
    have hsim : CallSim host refs ((vault.setCall id (some (.putOpening r value payload))).setContents file
        (writeAt (vault.contents file) offset chunk))
        (some (.putWriting r value payload file (offset + chunk.length))) (s.calls id) := by
      rw [hpending]
      exact .putWriting hr hname hlength hcontents hopens
    have hnext := Simulated.goOn htrace hwrite hsim
      (fun place hplace id' call' _ hcall' => by rw [← hplace]; exact hfree id' call' hcall')
    have heq : ((vault.setCall id (some (.putOpening r value payload))).setContents file
        (writeAt (vault.contents file) offset chunk)).setCall id
          (some (.putWriting r value payload file (offset + chunk.length))) =
        (vault.setContents file (writeAt (vault.contents file) offset chunk)).setCall id
          (some (.putWriting r value payload file (offset + chunk.length))) := by
      simp [Vault.setCall, Vault.setContents]
    rwa [heq] at hnext

/-- The rename is the moment at which a put takes effect. -/
theorem Simulated.putRenaming (hrefs : host.Separate refs) (hpending : s.calls id = some (.waiting (.put r value)))
    (hr : r ∈ refs) (hname : vault.names (host.temporary r) = some file)
    (hopens : host.Opens r (vault.contents file) value)
    (hothers : ∀ id' call', id' ≠ id → vault.calls id' = some call' → call'.writes host ≠ some (host.temporary r)) :
    Simulated host refs (events ++ (vault.advance host id amount (.putRenaming r value)).2)
      (vault.advance host id amount (.putRenaming r value)).1 := by
  have hadvance : vault.advance host id amount (.putRenaming r value) =
      (((vault.setName (host.temporary r) none).setName (host.target r) (some file)).setCall id none,
        [.returned id (.put r value) .stored]) := by
    simp only [Vault.advance, hname]
    rfl
  have hfree : ∀ id' call', (vault.setCall id none).calls id' = some call' →
      call'.writes host ≠ some (host.temporary r) := by
    intro id' call' hcall'
    change Function.update vault.calls id _ id' = some call' at hcall'
    rw [Function.update_apply] at hcall'
    split_ifs at hcall' with heq
    exact hothers id' call' heq hcall'
  have hne : host.target r ≠ host.temporary r := hrefs.temporaries r hr r hr
  have hgone := h.setCall id .none (fun _ hc => nomatch hc)
  have hsettled : ((s.setValue r (some value)).setCall id (some (.settled (.put r value) .stored))).calls id =
      some (.settled (.put r value) .stored) := Function.update_self _ _ _
  have hreturned := (htrace.silent (.put hpending)).step (.ret hsettled)
  have hstate : ((s.setValue r (some value)).setCall id (some (.settled (.put r value) .stored))).setCall id none =
      (s.setCall id none).setValue r (some value) := by simp [AtomicState.setCall, AtomicState.setValue]
  rw [hstate] at hreturned
  rw [hadvance]
  refine ⟨_, hreturned, ?_⟩
  refine hgone.setTarget hrefs hr
    (((vault.setName (host.temporary r) none).setName (host.target r) (some file)).setCall id none)
    rfl rfl rfl rfl (some value) ?_ ?_ (.inr hfree) ?_
  · intro place hplace
    change Function.update (Function.update vault.names _ none) _ (some file) place = _ ∨ _ ∧
      Function.update (Function.update vault.names _ none) _ (some file) place = _
    rw [Function.update_of_ne hplace, Function.update_apply]
    split_ifs with heq
    · exact .inr ⟨heq, rfl⟩
    · exact .inl rfl
  · intro other hother
    change Function.update (Function.update vault.names _ none) _ (some file) _ = _ at hother
    rw [Function.update_self] at hother
    refine ⟨hname.trans hother, ?_⟩
    change Function.update (Function.update vault.names _ none) _ (some file) _ = _
    rw [Function.update_of_ne hne.symm, Function.update_self]
  · exact ⟨file, Function.update_self _ _ _, hopens⟩

omit [DecidableEq ν] htrace in
theorem VaultSim.value_of_name (hr : r ∈ refs) :
    (vault.names (host.target r) = none ∧ s.map r = none) ∨
      ∃ file value, vault.names (host.target r) = some file ∧ s.map r = some value ∧
        host.Opens r (vault.contents file) value := by
  have hstored := h.stored r hr
  cases hvalue : s.map r with
  | none =>
    rw [hvalue] at hstored
    exact .inl ⟨hstored, rfl⟩
  | some value =>
    rw [hvalue] at hstored
    obtain ⟨file, hname, hopens⟩ := hstored
    exact .inr ⟨file, value, hname, rfl, hopens⟩

theorem Simulated.getReady (hrefs : host.Separate refs) (hpending : s.calls id = some (.waiting (.get r)))
    (hr : r ∈ refs) :
    Simulated host refs (events ++ (vault.advance host id amount (.getReady r)).2)
      (vault.advance host id amount (.getReady r)).1 := by
  rcases h.value_of_name hr with ⟨hname, habsent⟩ | ⟨file, value, hname, hvalue, hopens⟩
  · have hadvance : vault.advance host id amount (.getReady r) = (vault.setCall id none,
        [.returned id (.get r) (.error (fileError "get" "not_found"))]) := by
      simp only [Vault.advance, hname]
      rfl
    have hsettled : (s.setCall id (some (.settled (.get r) (.error (vaultErrors.absent (.get r)))))).calls id =
        some (.settled (.get r) (.error (vaultErrors.absent (.get r)))) := Function.update_self _ _ _
    have hreturned := (htrace.silent (.getAbsent hpending habsent)).step (.ret hsettled)
    have hstate : (s.setCall id (some (.settled (.get r) (.error (vaultErrors.absent (.get r)))))).setCall id none =
        s.setCall id none := by simp [AtomicState.setCall]
    rw [hstate] at hreturned
    rw [hadvance]
    exact ⟨_, hreturned, h.setCall id .none (fun _ hc => by cases hc)⟩
  · have hadvance : vault.advance host id amount (.getReady r) =
        (vault.setCall id (some (.getReading r file [])), []) := by simp only [Vault.advance, hname]
    rw [hadvance, List.append_nil]
    refine ⟨_, htrace.silent (.get hpending hvalue), h.setCall id ?_ (fun c hc place hplace => ?_)⟩
    · exact .getReading (h.target_finished hrefs hr hname) rfl hopens
    · rw [← Option.some.inj hc] at hplace
      cases hplace

theorem Simulated.getReading (hpending : s.calls id = some (.settled (.get r) (.found value)))
    (hfinished : vault.Finished host refs file) (hread : bytes = (vault.contents file).take bytes.length)
    (hopens : host.Opens r (vault.contents file) value) :
    Simulated host refs (events ++ (vault.advance host id amount (.getReading r file bytes)).2)
      (vault.advance host id amount (.getReading r file bytes)).1 := by
  cases hchunk : ((vault.contents file).drop bytes.length).take (amount + 1) with
  | nil =>
    have hall := take_of_drop_eq_nil hread hchunk
    obtain ⟨envelope, henvelope, hdecrypts⟩ := hopens
    rw [← hall] at henvelope
    have hadvance : vault.advance host id amount (.getReading r file bytes) =
        (vault.setCall id (some (.getDecrypting r envelope)), []) := by
      simp only [Vault.advance, hchunk, henvelope]
    rw [hadvance, List.append_nil]
    refine Simulated.goOn htrace h ?_ (fun place hplace => nomatch hplace)
    rw [hpending]
    exact .getDecrypting hdecrypts
  | cons byte rest =>
    have hadvance : vault.advance host id amount (.getReading r file bytes) =
        (vault.setCall id (some (.getReading r file (bytes ++ byte :: rest))), []) := by
      simp only [Vault.advance, hchunk]
    rw [hadvance, List.append_nil, ← hchunk]
    refine Simulated.goOn htrace h ?_ (fun place hplace => nomatch hplace)
    rw [hpending]
    exact .getReading hfinished (take_read_on hread (amount + 1)) hopens

theorem Simulated.getDecrypting {envelope : Envelope}
    (hpending : s.calls id = some (.settled (.get r) (.found value)))
    (hdecrypts : host.decrypt envelope.nonce r envelope.ciphertext = some value) :
    Simulated host refs (events ++ (vault.advance host id amount (.getDecrypting r envelope)).2)
      (vault.advance host id amount (.getDecrypting r envelope)).1 := by
  have hadvance : vault.advance host id amount (.getDecrypting r envelope) =
      (vault.setCall id none, [.returned id (.get r) (.found value)]) := by
    simp only [Vault.advance, hdecrypts]
    rfl
  rw [hadvance]
  exact ⟨_, htrace.step (.ret hpending), h.setCall id .none (fun _ hc => nomatch hc)⟩

/-- The removal of the file is the moment at which a delete takes effect. -/
theorem Simulated.deleteReady (hrefs : host.Separate refs) (hpending : s.calls id = some (.waiting (.delete r)))
    (hr : r ∈ refs) :
    Simulated host refs (events ++ (vault.advance host id amount (.deleteReady r)).2)
      (vault.advance host id amount (.deleteReady r)).1 := by
  have hgone := h.setCall id .none (fun _ hc => nomatch hc)
  rcases h.value_of_name hr with ⟨hname, habsent⟩ | ⟨file, value, hname, hvalue, _⟩
  · have hadvance : vault.advance host id amount (.deleteReady r) = (vault.setCall id none,
        [.returned id (.delete r) (.error (fileError "delete" "not_found"))]) := by
      simp only [Vault.advance, hname]
      rfl
    have hsettled : (s.setCall id (some (.settled (.delete r) (.error (vaultErrors.absent (.delete r)))))).calls id =
        some (.settled (.delete r) (.error (vaultErrors.absent (.delete r)))) := Function.update_self _ _ _
    have hreturned := (htrace.silent (.deleteAbsent hpending habsent)).step (.ret hsettled)
    have hstate : (s.setCall id (some (.settled (.delete r) (.error (vaultErrors.absent (.delete r)))))).setCall id
        none = s.setCall id none := by simp [AtomicState.setCall]
    rw [hstate] at hreturned
    rw [hadvance]
    exact ⟨_, hreturned, hgone⟩
  · have hadvance : vault.advance host id amount (.deleteReady r) =
        ((vault.setName (host.target r) none).setCall id none, [.returned id (.delete r) .removed]) := by
      simp only [Vault.advance, hname]
      rfl
    have hsettled : ((s.setValue r none).setCall id (some (.settled (.delete r) .removed))).calls id =
        some (.settled (.delete r) .removed) := Function.update_self _ _ _
    have hreturned := (htrace.silent (.delete hpending hvalue)).step (.ret hsettled)
    have hstate : ((s.setValue r none).setCall id (some (.settled (.delete r) .removed))).setCall id none =
        (s.setCall id none).setValue r none := by simp [AtomicState.setCall, AtomicState.setValue]
    rw [hstate] at hreturned
    have hne : host.temporary r ≠ host.target r := (hrefs.temporaries r hr r hr).symm
    rw [hadvance]
    refine ⟨_, hreturned, ?_⟩
    refine hgone.setTarget hrefs hr ((vault.setName (host.target r) none).setCall id none)
      rfl rfl rfl rfl none ?_ ?_ (.inl ?_) ?_
    · intro place hplace
      exact .inl (Function.update_of_ne hplace _ _)
    · intro other hother
      change Function.update vault.names _ none _ = _ at hother
      rw [Function.update_self] at hother
      cases hother
    · exact Function.update_of_ne hne _ _
    · exact Function.update_self _ _ _

end

theorem Simulated.advance (hlawful : host.Lawful) (hrefs : host.Separate refs) {events : List VaultEvent}
    (htrace : AtomicTrace vaultErrors .empty events s) (h : VaultSim host refs vault s) {id amount : ℕ}
    (hcall : vault.calls id = some call) (hcareful : host.Careful refs vault (.advance id amount)) :
    Simulated host refs (events ++ (vault.advance host id amount call).2) (vault.advance host id amount call).1 := by
  have hsim := h.calls id
  rw [hcall] at hsim
  have hothers : ∀ place, call.writes host = some place → ∀ id' call', id' ≠ id → vault.calls id' = some call' →
      call'.writes host ≠ some place :=
    fun place hplace id' call' hne hcall' hplace' => hne (h.apart id' id call' call place hcall' hcall hplace' hplace)
  generalize hpending : s.calls id = pending at hsim
  cases hsim with
  | putReady hr => exact Simulated.putReady htrace h hlawful hpending hr
  | putOpening hr hopens =>
    exact Simulated.putOpening htrace h hrefs hpending hr hopens (hcareful _ _ _ hcall)
  | putWriting hr hname hoffset hwritten hopens =>
    exact Simulated.putWriting htrace h hrefs hpending hr hname hoffset hwritten hopens (hothers _ rfl)
  | putRenaming hr hname hopens =>
    exact Simulated.putRenaming htrace h hrefs hpending hr hname hopens (hothers _ rfl)
  | getReady hr => exact Simulated.getReady htrace h hrefs hpending hr
  | getReading hfinished hread hopens => exact Simulated.getReading htrace h hpending hfinished hread hopens
  | getDecrypting hdecrypts => exact Simulated.getDecrypting htrace h hpending hdecrypts
  | deleteReady hr => exact Simulated.deleteReady htrace h hrefs hpending hr

/-- Whatever happens to the vault, the map can follow. -/
theorem Simulated.act (hlawful : host.Lawful) (hrefs : host.Separate refs) {events : List VaultEvent}
    (hsimulated : Simulated host refs events vault) (hcareful : host.Careful refs vault action)
    (hact : vault.act host action = some (vault', new)) :
    Simulated host refs (events ++ new) vault' := by
  obtain ⟨s, htrace, h⟩ := hsimulated
  cases action with
  | put r value nonce =>
    cases hact
    exact Simulated.start htrace h (.putReady hcareful) rfl
  | get r =>
    cases hact
    exact Simulated.start htrace h (.getReady hcareful) rfl
  | delete r =>
    cases hact
    exact Simulated.start htrace h (.deleteReady hcareful) rfl
  | advance id amount =>
    obtain ⟨call, hcall, hresult⟩ := Option.map_eq_some_iff.mp hact
    have hnext := Simulated.advance hlawful hrefs htrace h hcall hcareful
    rw [hresult] at hnext
    exact hnext
  | fail id code =>
    obtain ⟨call, hcall, hresult⟩ := Option.bind_eq_some_iff.mp hact
    split_ifs at hresult with hcode
    cases hresult
    have hown := own_of_failures hcode
    have hsim := h.calls id
    rw [hcall] at hsim
    have hgone := h.setCall id .none (fun _ hc => nomatch hc)
    generalize hpending : s.calls id = pending at hsim
    cases hsim with
    | putReady _ | putOpening _ _ | putWriting _ _ _ _ _ | putRenaming _ _ _ | getReady _ =>
      exact ⟨_, htrace.failed hpending hown, hgone⟩
    | getReading _ _ _ | getDecrypting _ => exact ⟨_, htrace.failedGet hpending hown, hgone⟩
    | deleteReady _ => exact ⟨_, htrace.failed hpending hown, hgone⟩
  | crash =>
    cases hact
    refine ⟨_, htrace.step .crash, ?_⟩
    constructor
    case started => exact h.started
    case files => exact h.files
    case distinct => exact h.distinct
    case stored => exact h.stored
    case calls => exact fun _ => .none
    case apart => intro _ _ _ _ _ hcall; cases hcall

/-- Every run of the vault in which no two puts write the same temporary file at once, on references that lead to
different files, shows its callers what an atomic map would show them. -/
theorem vault_is_atomic_map (hlawful : host.Lawful) (hrefs : host.Separate refs) {events : List VaultEvent}
    {vault : Vault ν} (h : Vault.Run host (host.Careful refs) events vault) :
    ∃ s, AtomicTrace vaultErrors .empty events s := by
  have hsimulated : Simulated host refs events vault := by
    induction h with
    | start =>
      refine ⟨.empty, .start, ?_⟩
      constructor
      case started => rfl
      case files => intro _ _ hname; cases hname
      case distinct => intro _ _ _ hname; cases hname
      case stored => exact fun _ _ => rfl
      case calls => exact fun _ => .none
      case apart => intro _ _ _ _ _ hcall; cases hcall
    | step _ hcareful hact ih => exact ih.act hlawful hrefs hcareful hact
  obtain ⟨s, htrace, _⟩ := hsimulated
  exact ⟨s, htrace⟩

def Vault.Fresh (vault : Vault ν) : Prop := ∀ id, vault.started ≤ id → vault.calls id = none

theorem advance_calls (vault : Vault ν) (id amount : ℕ) (call : VaultCall) :
    (vault.advance host id amount call).1.started = vault.started ∧
      ∃ next, (vault.advance host id amount call).1.calls = Function.update vault.calls id next := by
  cases call <;> unfold Vault.advance <;> dsimp only <;> repeat' split
  all_goals exact ⟨rfl, _, rfl⟩

theorem Vault.Fresh.act (h : vault.Fresh) (hact : vault.act host action = some (vault', new)) : vault'.Fresh := by
  have hstart : ∀ call, (vault.start call).1.Fresh := by
    intro call id hid
    have hless : vault.started + 1 ≤ id := hid
    change Function.update vault.calls vault.started _ id = none
    rw [Function.update_of_ne (by omega)]
    exact h id (by omega)
  have hset : ∀ {id : ℕ} {call : VaultCall} {next : Option VaultCall}, vault.calls id = some call →
      ∀ id', vault.started ≤ id' → Function.update vault.calls id next id' = none := by
    intro id call next hcall id' hid'
    rw [Function.update_apply]
    split_ifs with heq
    · rw [← heq, h id' hid'] at hcall
      cases hcall
    · exact h id' hid'
  cases action with
  | put r value nonce | get r | delete r => cases hact; exact hstart _
  | advance id amount =>
    obtain ⟨call, hcall, hresult⟩ := Option.map_eq_some_iff.mp hact
    obtain ⟨hstarted, next, hcalls⟩ := advance_calls vault id amount call
    rw [hresult] at hstarted hcalls
    intro id' hid'
    dsimp only at hcalls hstarted
    rw [hcalls]
    exact hset hcall id' (hstarted ▸ hid')
  | fail id code =>
    obtain ⟨call, hcall, hresult⟩ := Option.bind_eq_some_iff.mp hact
    split_ifs at hresult
    cases hresult
    exact hset hcall
  | crash => cases hact; exact fun _ _ => rfl

theorem Vault.Run.of_perform {permitted : Vault ν → VaultAction → Prop} {allowed : Vault ν → VaultAction → Bool}
    (hallowed : ∀ vault action, Vault.Fresh vault → allowed vault action = true → permitted vault action)
    {events : List VaultEvent} {actions : List VaultAction} (h : Vault.Run host permitted events vault)
    (hfresh : vault.Fresh) (hperform : vault.perform host allowed actions = some (vault', new)) :
    Vault.Run host permitted (events ++ new) vault' := by
  induction actions generalizing vault events new with
  | nil =>
    cases hperform
    rwa [List.append_nil]
  | cons action rest ih =>
    unfold Vault.perform at hperform
    split_ifs at hperform with hallow
    obtain ⟨⟨next, first⟩, hact, hrest⟩ := Option.bind_eq_some_iff.mp hperform
    obtain ⟨⟨last, later⟩, hlater, hresult⟩ := Option.map_eq_some_iff.mp hrest
    cases hresult
    rw [← List.append_assoc]
    exact ih (h.step (hallowed vault action hfresh hallow) hact) (hfresh.act hact) hlater

def Vault.opensAlone (host : VaultHost ν) (vault : Vault ν) : VaultAction → Bool
  | .advance id _ =>
    match vault.calls id with
    | some (.putOpening reference _ _) => (List.range vault.started).all (fun id' =>
        ((vault.calls id').bind (VaultCall.writes host)) != some (host.temporary reference))
    | _ => true
  | _ => true

theorem careful_of_opensAlone (hfresh : vault.Fresh) (h : vault.opensAlone host action = true) :
    host.Careful Set.univ vault action := by
  cases action with
  | advance id amount =>
    intro reference value payload hcall id' call hcall'
    have hless : id' < vault.started := by
      by_contra hge
      rw [hfresh id' (not_lt.mp hge)] at hcall'
      cases hcall'
    simp only [Vault.opensAlone, hcall] at h
    have hother := List.all_eq_true.mp h id' (List.mem_range.mpr hless)
    rw [hcall'] at hother
    exact bne_iff_ne.mp hother
  | fail id code | crash => trivial
  | _ => exact Set.mem_univ _

end

def plainVaultHost : VaultHost String where
  encrypt _ _ value := some value
  decrypt _ _ ciphertext := some ciphertext
  toVec envelope := envelope.nonce ++ envelope.ciphertext
  fromSlice bytes := if 24 ≤ bytes.length then some ⟨envelopeVersion, bytes.take 24, bytes.drop 24⟩ else none
  resolve path := path

theorem plainVaultHost_lawful : plainVaultHost.Lawful := by
  constructor
  case decrypts =>
    intro nonce reference value ciphertext h
    exact congrArg some (Option.some.inj h).symm
  case decodes =>
    rintro ⟨version, nonce, ciphertext⟩ hversion hnonce
    dsimp only at hversion hnonce
    have hlength : 24 ≤ (nonce ++ ciphertext).length := by rw [List.length_append]; omega
    change (if 24 ≤ (nonce ++ ciphertext).length then
      some (Envelope.mk envelopeVersion ((nonce ++ ciphertext).take 24) ((nonce ++ ciphertext).drop 24)) else none) = _
    rw [if_pos hlength, ← hnonce, List.take_left, List.drop_left, hversion]

theorem plainVaultHost_separate : plainVaultHost.Separate Set.univ := by
  have hlast : ∀ path suffix : String, suffix ≠ "" →
      (path ++ suffix).toList.getLast? = suffix.toList.getLast? := by
    intro path suffix hne
    rw [String.toList_append]
    exact List.getLast?_append_of_ne_nil _ (fun hnil => hne (String.toList_eq_nil_iff.mp hnil))
  constructor
  case targets =>
    intro r _ r' _ h
    have hlists := congrArg String.toList h
    change (r ++ ".json").toList = (r' ++ ".json").toList at hlists
    rw [String.toList_append, String.toList_append] at hlists
    exact String.toList_inj.mp (List.append_cancel_right hlists)
  case temporaries =>
    intro r _ r' _ h
    have hlists := congrArg (fun path => path.toList.getLast?) h
    change (r ++ ".json").toList.getLast? = (temporaryPath r').toList.getLast? at hlists
    rw [hlast r ".json" (by decide)] at hlists
    unfold temporaryPath at hlists
    split_ifs at hlists
    · rw [hlast _ ".json.tmp" (by decide)] at hlists
      exact absurd hlists (by decide +kernel)
    · rw [hlast _ ".tmp" (by decide)] at hlists
      exact absurd hlists (by decide +kernel)

def zeroNonce : Vector UInt8 24 := Vector.replicate 24 0

def overwriteActions : List VaultAction :=
  [.put "fixture" [1] zeroNonce, .advance 0 0, .advance 0 0, .advance 0 30, .advance 0 0, .advance 0 0,
    .put "fixture" [2] zeroNonce, .get "fixture", .advance 1 0, .advance 1 0, .advance 2 0, .advance 1 30, .advance 1 0,
    .advance 1 0, .advance 2 30, .advance 2 0, .advance 2 0]

def overwriteEvents : List VaultEvent :=
  [.called 0 (.put "fixture" [1]), .returned 0 (.put "fixture" [1]) .stored, .called 1 (.put "fixture" [2]),
    .called 2 (.get "fixture"), .returned 1 (.put "fixture" [2]) .stored, .returned 2 (.get "fixture") (.found [1])]

theorem vault_overwrite : ∃ s, AtomicTrace vaultErrors .empty overwriteEvents s := by
  have hevents : (Vault.empty.perform plainVaultHost (Vault.opensAlone plainVaultHost) overwriteActions).map
      Prod.snd = some overwriteEvents := by decide +kernel
  obtain ⟨⟨vault, events⟩, hperform, hsame⟩ := Option.map_eq_some_iff.mp hevents
  have hrun : Vault.Run plainVaultHost (plainVaultHost.Careful Set.univ) ([] ++ events) vault :=
    Vault.Run.of_perform (fun _ _ hfresh hallow => careful_of_opensAlone hfresh hallow) .start (fun _ _ => rfl) hperform
  rw [List.nil_append, show events = overwriteEvents from hsame] at hrun
  exact vault_is_atomic_map plainVaultHost_lawful plainVaultHost_separate hrun

def collidingActions : List VaultAction :=
  [.put "fixture" [1] zeroNonce, .put "fixture" [2] zeroNonce, .advance 0 0, .advance 0 0, .advance 0 30, .advance 0 0,
    .advance 1 0, .advance 1 0, .advance 1 30, .advance 1 0, .advance 0 0, .advance 1 0, .get "fixture", .advance 2 0,
    .advance 2 30, .advance 2 0, .advance 2 0]

def collidingEvents : List VaultEvent :=
  [.called 0 (.put "fixture" [1]), .called 1 (.put "fixture" [2]), .returned 0 (.put "fixture" [1]) .stored,
    .returned 1 (.put "fixture" [2]) (.error (fileError "put" "commit_failed")), .called 2 (.get "fixture"),
    .returned 2 (.get "fixture") (.found [2])]

/-- The put that returns success is lost, and the value of the one that fails is read. -/
theorem failed_put_read : ¬ ∀ (events : List VaultEvent) (vault : Vault String),
    Vault.Run plainVaultHost (fun _ _ => True) events vault → ∃ s, AtomicTrace vaultErrors .empty events s := by
  intro hall
  have hevents : (Vault.empty.perform plainVaultHost (fun _ _ => true) collidingActions).map Prod.snd =
      some collidingEvents := by decide +kernel
  obtain ⟨⟨vault, events⟩, hperform, hsame⟩ := Option.map_eq_some_iff.mp hevents
  have hrun : Vault.Run plainVaultHost (fun _ _ => True) ([] ++ events) vault :=
    Vault.Run.of_perform (fun _ _ _ _ => trivial) .start (fun _ _ => rfl) hperform
  rw [List.nil_append, show events = collidingEvents from hsame] at hrun
  obtain ⟨s, htrace⟩ := hall collidingEvents vault hrun
  -- when the get is called, the only put of its value has failed
  obtain ⟨middle, hbefore, hlater⟩ := htrace.split (show collidingEvents =
    collidingEvents.take 4 ++ collidingEvents.drop 4 from rfl)
  have hstarted : middle.started ≤ 2 := hlater.called_from.2 2 (.get "fixture") (by decide +kernel)
  obtain ⟨id, hcalled, hfine⟩ := (hbefore.found_of_put hlater).2.2 2 "fixture" [2] hstarted (by decide +kernel)
  have hid : id = 1 := by
    rw [List.take_append_drop] at hcalled
    simpa [collidingEvents] using hcalled
  subst hid
  exact hfine (fileError "put" "commit_failed") (by decide +kernel)

end HomeMagic
