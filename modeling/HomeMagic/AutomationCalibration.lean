import HomeMagic.AutomationEmission

/-! Absolute positions. The compiler looks for one calibrated device behind the authored
reference; the targets it resolves may be several. -/
namespace HomeMagic

variable {e : CompilerEnv} {resolved : List ResolvedAutomationTarget} {target : AutomationTargetReference}

def calibrated (e : CompilerEnv) (target : ResolvedAutomationTarget) : Bool :=
  e.snapshot.devices.any (fun device =>
    device.snapshot.id == target.deviceId &&
    device.snapshot.endpoints.any (fun endpoint =>
      endpoint.id == target.endpointId && endpoint.capabilities.any (fun capability =>
        match capability with
        | .position (some _) _ _ => true
        | _ => false)))

def PositionsCalibrated (e : CompilerEnv) (plan : AutomationExecutionPlan) : Prop :=
  ∀ node ∈ plan.nodes, ∀ command, node.kind = .command command →
    ∀ percent, command.payload = .position (.goTo percent) →
      ∀ target ∈ command.targets, calibrated e target

def AutomationDeviceReference.isSpace : AutomationDeviceReference → Bool
  | .space _ => true
  | _ => false

structure ResolvedFrom (target : AutomationTargetReference) (device : DeviceRecord)
    (resolved : ResolvedAutomationTarget) : Prop where
  deviceId : resolved.deviceId = device.snapshot.id
  endpointId : ∀ endpoint, target.endpointId = some endpoint → resolved.endpointId = endpoint

theorem resolveEndpoints_mem {path : String} {devices : List DeviceRecord} {c : Compiler}
    (h : (resolveEndpoints target path devices c).1 = some resolved) :
    ∀ one ∈ resolved, ∃ device ∈ devices, ResolvedFrom target device one := by
  induction devices generalizing resolved with
  | nil =>
    cases h
    exact fun one hone => absurd hone List.not_mem_nil
  | cons device rest ih =>
    simp only [resolveEndpoints] at h
    split at h
    · cases h
    split at h
    · cases h
    obtain ⟨tail, htail, rfl⟩ := Option.map_eq_some_iff.mp h
    intro one hone
    rcases List.mem_append.mp hone with hone | hone
    · obtain ⟨endpoint, hendpoint, rfl⟩ := List.mem_map.mp hone
      refine ⟨device, List.mem_cons_self, rfl, ?_⟩
      -- an authored endpoint leaves only entries with its identifier
      intro authored hauthored
      obtain ⟨entry, hentry, rfl⟩ := List.mem_map.mp hendpoint
      have hselected := (List.mem_filter.mp hentry).2
      simp only [hauthored, Option.isNone_some, Bool.false_or, Bool.and_eq_true, beq_iff_eq,
        Option.some.injEq] at hselected
      exact hselected.1.symm
    · obtain ⟨other, hother, hfrom⟩ := ih htail one hone
      exact ⟨other, List.mem_cons_of_mem _ hother, hfrom⟩

theorem targetsOf_mem (h : targetsOf e target = some resolved) :
    (∀ one ∈ resolved, ∃ device ∈ e.snapshot.devices, selects device target.device ∧
      ResolvedFrom target device one) ∧
    (target.device.isAlias →
      (e.snapshot.devices.filter (fun device => selects device target.device)).length ≤ 1) := by
  simp only [targetsOf, resolveTarget] at h
  split at h
  · cases h
  split at h
  · cases h
  rename_i halias
  split at h
  · cases h
  obtain ⟨unsorted, hunsorted, rfl⟩ := Option.map_eq_some_iff.mp h
  refine ⟨?_, fun hisAlias => ?_⟩
  · intro one hone
    obtain ⟨device, hdevice, hfrom⟩ :=
      resolveEndpoints_mem hunsorted one ((List.mem_insertionSort _).mp hone)
    obtain ⟨hmem, hselects⟩ := List.mem_filter.mp hdevice
    exact ⟨device, hmem, hselects, hfrom⟩
  · by_contra hlength
    exact halias ⟨hisAlias, Nat.not_le.mp hlength⟩

/-- For anything but a space, the device that was checked is every target's. -/
theorem calibrated_of_check (hspace : target.device.isSpace = false) (hcheck : positionIsCalibrated e target)
    (h : targetsOf e target = some resolved) :
    ∀ one ∈ resolved, calibrated e one := by
  intro one hone
  obtain ⟨hmem, hsingle⟩ := targetsOf_mem h
  obtain ⟨device, hdevice, hselects, hid, hendpoint⟩ := hmem one hone
  unfold positionIsCalibrated at hcheck
  split at hcheck
  · cases hcheck
  rename_i endpointId hauthored
  obtain ⟨checked, hchecked, hboth⟩ := List.any_eq_true.mp hcheck
  obtain ⟨hselected, hreports⟩ := Bool.and_eq_true_iff.mp hboth
  -- the checked device and the device of the target have one identifier
  have hsame : checked.snapshot.id = one.deviceId := by
    cases hdevicereference : target.device with
    | device deviceId =>
      rw [hdevicereference] at hselects hselected
      simp only [selects, beq_iff_eq] at hselects hselected
      rw [hid, hselects, hselected]
    | «alias» name =>
      have hlength := hsingle (by rw [hdevicereference]; rfl)
      have hin : ∀ d ∈ e.snapshot.devices, selects d target.device →
          d ∈ e.snapshot.devices.filter (fun device => selects device target.device) :=
        fun d hd hs => List.mem_filter.mpr ⟨hd, hs⟩
      have hfirst := hin checked hchecked hselected
      have hsecond := hin device hdevice hselects
      cases hfilter : e.snapshot.devices.filter (fun device => selects device target.device) with
      | nil =>
        rw [hfilter] at hfirst
        exact absurd hfirst List.not_mem_nil
      | cons only others =>
        cases others with
        | nil =>
          rw [hfilter, List.mem_singleton] at hfirst hsecond
          rw [hid, hfirst, hsecond]
        | cons second rest =>
          rw [hfilter, List.length_cons, List.length_cons] at hlength
          omega
    | space spaceId =>
      rw [hdevicereference] at hspace
      cases hspace
  refine List.any_eq_true.mpr ⟨checked, hchecked, ?_⟩
  rw [hsame, beq_self_eq_true, Bool.true_and, hendpoint endpointId hauthored]
  exact hreports

theorem flagged_position {command : EmittedCommand} {percent : ℕ} (hchecked : CommandChecked e command)
    (hpayload : command.payload = .position (.goTo percent)) (hflagged : flagged e command.target) :
    leadsSecurity e command.target := by
  have hname : sensitiveName command.target.capability = false := by
    rw [← hchecked.schema, hpayload]
    show sensitiveName "position.v1" = false
    decide +kernel
  unfold flagged at hflagged
  rwa [hname, Bool.false_or] at hflagged

/-- Absolute positions reach calibrated devices only, exactly when the commands the check
does not cover do: those to a space, of which one calibrated member is enough, and those
whose leading target has a security risk, which are classified without a look at the payload. -/
theorem positions_calibrated_iff (e : CompilerEnv) {plan : AutomationExecutionPlan}
    (h : compile e = .ok plan) :
    PositionsCalibrated e plan ↔
      ∀ command ∈ e.document.emitted, ∀ percent, command.payload = .position (.goTo percent) →
        command.target.device.isSpace ∨ leadsSecurity e command.target →
          ∀ resolved, targetsOf e command.target = some resolved →
            ∀ target ∈ resolved, calibrated e target := by
  obtain ⟨hforall, hchecked, _⟩ := compile_emits h
  constructor
  · intro hall command hcommand percent hpayload _ resolved hresolved target htarget
    obtain ⟨emitted, hemitted, has⟩ := forall₂_left hforall hcommand
    obtain ⟨node, hnode, hkind⟩ := mem_commandNodes.mp hemitted
    rw [has.targets, Option.some.injEq] at hresolved
    exact hall node hnode emitted hkind percent (has.payload.trans hpayload) target (hresolved ▸ htarget)
  · intro huncovered node hnode emitted hkind percent hpayload target htarget
    obtain ⟨command, hcommand, has⟩ :=
      forall₂_right hforall (mem_commandNodes.mpr ⟨node, hnode, hkind⟩)
    have hposition : command.payload = .position (.goTo percent) := has.payload.symm.trans hpayload
    by_cases hkinds : command.target.device.isSpace ∨ leadsSecurity e command.target
    · exact huncovered command hcommand percent hposition hkinds _ has.targets target htarget
    · obtain ⟨hspace, hrisk⟩ := not_or.mp hkinds
      rcases (hchecked command hcommand).position percent hposition with hflagged | hcheck
      · exact absurd (flagged_position (hchecked command hcommand) hposition hflagged) hrisk
      · exact calibrated_of_check (by simpa using hspace) hcheck has.targets target htarget

def coverRecord (id : DeviceId) (percent : Option ℚ) : DeviceRecord :=
  ⟨1, 1, ⟨id, "cover", "Cover", [⟨"cover:0", none, [.position percent none .mechanical]⟩], 0⟩, .enrolled,
    ⟨.online, 0, none⟩, ⟨0, 0, some 0⟩, [], [3], [("cover:0", [⟨"position", 1, .mechanical⟩])]⟩

def coversEnv (device : AutomationDeviceReference) : CompilerEnv :=
  ⟨lampHost, lampDocument [.command ⟨device, some "cover:0", "position.v1"⟩ (.position (.goTo 42))
    ⟨0, 0, []⟩ .stopRun], ⟨[coverRecord 7 (some 10), coverRecord 8 none], [], none⟩⟩

theorem positions_calibrated_cover :
    ∃ plan, compile (coversEnv (.device 7)) = .ok plan ∧ PositionsCalibrated (coversEnv (.device 7)) plan := by
  have hok : (compile (coversEnv (.device 7))).toOption.any (fun _ => true) = true := by decide +kernel
  obtain ⟨plan, hc, _⟩ := compile_of_any hok
  refine ⟨plan, hc, (positions_calibrated_iff (coversEnv (.device 7)) hc).mpr ?_⟩
  have hemitted : (coversEnv (.device 7)).document.emitted =
      [⟨0, ⟨.device 7, some "cover:0", "position.v1"⟩, .position (.goTo 42)⟩] := by decide +kernel
  intro command hcommand percent _ hkinds
  rw [hemitted, List.mem_singleton] at hcommand
  subst hcommand
  have hneither : ¬((AutomationDeviceReference.device 7).isSpace ∨
      leadsSecurity (coversEnv (.device 7)) ⟨.device 7, some "cover:0", "position.v1"⟩) := by
    decide +kernel
  exact absurd hkinds hneither

/-- The calibrated cover lets the command to the whole room through. -/
theorem room_moves_uncalibrated_cover :
    ∃ plan, compile (coversEnv (.space 3)) = .ok plan ∧
      ∃ node ∈ plan.nodes, ∃ command, node.kind = .command command ∧
        command.payload = .position (.goTo 42) ∧
        ∃ target ∈ command.targets, target.deviceId = 8 ∧ calibrated (coversEnv (.space 3)) target = false := by
  have hok : (compile (coversEnv (.space 3))).toOption.any (fun _ => true) = true := by decide +kernel
  obtain ⟨plan, hc, _⟩ := compile_of_any hok
  have hemitted : (coversEnv (.space 3)).document.emitted =
      [⟨0, ⟨.space 3, some "cover:0", "position.v1"⟩, .position (.goTo 42)⟩] := by decide +kernel
  have htargets : targetsOf (coversEnv (.space 3)) ⟨.space 3, some "cover:0", "position.v1"⟩ =
      some [⟨7, "cover:0", "position.v1"⟩, ⟨8, "cover:0", "position.v1"⟩] := by decide +kernel
  obtain ⟨emitted, hmem, has⟩ := forall₂_left (compile_emits hc).1
    (hemitted ▸ List.mem_singleton.mpr rfl)
  obtain ⟨node, hnode, hkind⟩ := mem_commandNodes.mp hmem
  have heq : emitted.targets = [⟨7, "cover:0", "position.v1"⟩, ⟨8, "cover:0", "position.v1"⟩] :=
    Option.some.inj (has.targets.symm.trans htargets)
  refine ⟨plan, hc, node, hnode, emitted, hkind, has.payload, ⟨8, "cover:0", "position.v1"⟩, ?_, rfl, ?_⟩
  · rw [heq]
    decide
  · decide +kernel

end HomeMagic
