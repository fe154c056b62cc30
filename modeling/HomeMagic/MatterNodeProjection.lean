import HomeMagic.DeviceOperations
import HomeMagic.MatterNodeWorkflow
import HomeMagic.NumberText

/-! The projection of a node: every server cluster becomes a capability or a diagnostic, every client cluster a
diagnostic. -/
namespace HomeMagic
open List

inductive MatterDescriptorCollection
  | endpoints | deviceTypes | serverClusters | clientClusters | commands | attributes
  deriving DecidableEq

inductive MatterDescriptorError
  | zeroNodeId | zeroRevision
  | tooManyItems (collection : MatterDescriptorCollection) (maximum : ℕ)
  | duplicateIdentifier (collection : MatterDescriptorCollection)
  deriving DecidableEq

def meetsAgain {κ : Type} [DecidableEq κ] (seen : List κ) : List κ → Bool
  | [] => false
  | key :: rest => seen.contains key || meetsAgain (key :: seen) rest

def ensureBoundedUniqueBy {α κ : Type} [DecidableEq κ] (items : List α) (maximum : ℕ)
    (collection : MatterDescriptorCollection) (key : α → κ) : Except MatterDescriptorError Unit :=
  if maximum < items.length then .error (.tooManyItems collection maximum)
  else if meetsAgain [] (items.map key) then .error (.duplicateIdentifier collection)
  else .ok ()

def MatterDeviceType.new (id revision : ℕ) : Except MatterDescriptorError MatterDeviceType :=
  if revision = 0 then .error .zeroRevision else .ok ⟨id, revision⟩

def MatterClusterDescriptor.withAttributes (id revision featureMap : ℕ) (acceptedCommands attributes : List ℕ) :
    Except MatterDescriptorError MatterClusterDescriptor := do
  if revision = 0 then throw .zeroRevision
  ensureBoundedUniqueBy acceptedCommands 128 .commands (fun id => id)
  ensureBoundedUniqueBy attributes 256 .attributes (fun id => id)
  return ⟨id, revision, featureMap, acceptedCommands, attributes⟩

def MatterEndpointDescriptor.new (number : MatterEndpointNumber) (deviceTypes : List MatterDeviceType)
    (serverClusters clientClusters : List MatterClusterDescriptor) :
    Except MatterDescriptorError MatterEndpointDescriptor := do
  ensureBoundedUniqueBy deviceTypes 16 .deviceTypes MatterDeviceType.id
  ensureBoundedUniqueBy serverClusters 128 .serverClusters MatterClusterDescriptor.id
  ensureBoundedUniqueBy clientClusters 128 .clientClusters MatterClusterDescriptor.id
  return ⟨number, deviceTypes, serverClusters, clientClusters⟩

@[mk_iff]
structure MatterDeviceType.Accepted (deviceType : MatterDeviceType) : Prop where
  id_lt : deviceType.id < 2^32
  revision_lt : deviceType.revision < 2^16
  made : MatterDeviceType.new deviceType.id deviceType.revision = .ok deviceType

instance (deviceType : MatterDeviceType) : Decidable deviceType.Accepted :=
  decidable_of_iff _ (MatterDeviceType.accepted_iff deviceType).symm

@[mk_iff]
structure MatterClusterDescriptor.Accepted (cluster : MatterClusterDescriptor) : Prop where
  id_lt : cluster.id < 2^32
  revision_lt : cluster.revision < 2^16
  features_lt : cluster.featureMap < 2^32
  commands_lt : ∀ id ∈ cluster.acceptedCommands, id < 2^32
  attributes_lt : ∀ id ∈ cluster.attributes, id < 2^32
  made : MatterClusterDescriptor.withAttributes cluster.id cluster.revision cluster.featureMap
    cluster.acceptedCommands cluster.attributes = .ok cluster

instance (cluster : MatterClusterDescriptor) : Decidable cluster.Accepted :=
  decidable_of_iff _ (MatterClusterDescriptor.accepted_iff cluster).symm

@[mk_iff]
structure MatterEndpointDescriptor.Accepted (endpoint : MatterEndpointDescriptor) : Prop where
  number_lt : endpoint.number < 2^16
  deviceTypes : ∀ deviceType ∈ endpoint.deviceTypes, deviceType.Accepted
  servers : ∀ cluster ∈ endpoint.serverClusters, cluster.Accepted
  clients : ∀ cluster ∈ endpoint.clientClusters, cluster.Accepted
  made : MatterEndpointDescriptor.new endpoint.number endpoint.deviceTypes endpoint.serverClusters
    endpoint.clientClusters = .ok endpoint

instance (endpoint : MatterEndpointDescriptor) : Decidable endpoint.Accepted :=
  decidable_of_iff _ (MatterEndpointDescriptor.accepted_iff endpoint).symm

/-- The node's own numbers, and what is checked of its list of endpoints, are part of every `MatterNodeDescriptor`. -/
structure MatterNodeDescriptor.Accepted (node : MatterNodeDescriptor) : Prop where
  endpoints : ∀ endpoint ∈ node.endpoints, endpoint.Accepted
  made : ensureBoundedUniqueBy node.endpoints 256 .endpoints MatterEndpointDescriptor.number = .ok ()

variable {clusterId count fabricId nodeId : ℕ} {other : MatterEndpointDescriptor} {κ : Type}
  {cluster' : MatterClusterDescriptor} {rule : MatterProjectionRule}

theorem meetsAgain_eq_false [DecidableEq κ] {keys seen : List κ} :
    meetsAgain seen keys = false ↔ keys.Nodup ∧ ∀ key ∈ keys, key ∉ seen := by
  induction keys generalizing seen with
  | nil => simp [meetsAgain]
  | cons key rest ih =>
    have hcontains : seen.contains key = false ↔ key ∉ seen := by
      simp
    simp only [meetsAgain, Bool.or_eq_false_iff, ih, hcontains, nodup_cons, mem_cons]
    constructor
    · rintro ⟨hseen, hrest, hnot⟩
      refine ⟨⟨fun hmem => hnot key hmem (.inl rfl), hrest⟩, ?_⟩
      rintro other (rfl | hother)
      · exact hseen
      · exact fun hmem => hnot other hother (.inr hmem)
    · rintro ⟨⟨hnew, hrest⟩, hnot⟩
      refine ⟨hnot key (.inl rfl), hrest, ?_⟩
      rintro other hother (rfl | hmem)
      · exact hnew hother
      · exact hnot other (.inr hother) hmem

theorem ensureBoundedUniqueBy_ok {α : Type} [DecidableEq κ] {items : List α} {maximum : ℕ}
    {collection : MatterDescriptorCollection} {key : α → κ} :
    ensureBoundedUniqueBy items maximum collection key = .ok () ↔
      items.length ≤ maximum ∧ (items.map key).Nodup := by
  have hnodup : meetsAgain [] (items.map key) = false ↔ (items.map key).Nodup := by
    simp [meetsAgain_eq_false]
  unfold ensureBoundedUniqueBy
  split
  next h => simpa using fun hle => absurd h (by omega)
  next h =>
    rw [← hnodup]
    cases meetsAgain [] (items.map key) <;> simp; omega

theorem MatterNodeDescriptor.accepted {node : MatterNodeDescriptor}
    (h : ∀ endpoint ∈ node.endpoints, endpoint.Accepted) : node.Accepted :=
  ⟨h, ensureBoundedUniqueBy_ok.mpr ⟨node.bounded, node.distinct⟩⟩

theorem MatterEndpointDescriptor.Accepted.distinct {endpoint : MatterEndpointDescriptor} (h : endpoint.Accepted) :
    (endpoint.serverClusters.map MatterClusterDescriptor.id).Nodup ∧
      (endpoint.clientClusters.map MatterClusterDescriptor.id).Nodup := by
  have hmade := h.made
  simp only [MatterEndpointDescriptor.new, bind, Except.bind] at hmade
  split at hmade
  · cases hmade
  · split at hmade
    · cases hmade
    · rename_i hservers
      split at hmade
      · cases hmade
      · rename_i hclients
        exact ⟨(ensureBoundedUniqueBy_ok.mp hservers).2, (ensureBoundedUniqueBy_ok.mp hclients).2⟩

inductive UuidNamespace
  | integration | device | matterProjection | matterSubscription
  deriving DecidableEq

structure UuidNames where
  text : ℕ → String
  newV5 : UuidNamespace → String → ℕ

/-- Identifiers are written apart, in hexadecimal digits and hyphens, and names are hashed apart. -/
structure UuidNames.Faithful (names : UuidNames) : Prop where
  text_inj : ∀ id id', names.text id = names.text id' → id = id'
  plain : ∀ id, ':' ∉ (names.text id).toList
  newV5_inj : ∀ namespace_ name name', names.newV5 namespace_ name = names.newV5 namespace_ name' → name = name'

def MatterProjectionRule.key : MatterProjectionRule → String
  | .onOffV1 => "on_off"
  | .accessControlV1 => "access_control"
  | .levelV1LaterFixture => "level"
  | .positionV1LaterFixture => "position"

def MatterProjectionRule.capabilitySchema : MatterProjectionRule → Option String
  | .onOffV1 => some "on_off.v1"
  | .accessControlV1 => some "access_control.v1"
  | .levelV1LaterFixture | .positionV1LaterFixture => none

def UuidNames.identities (names : UuidNames) : MatterIdentities where
  integration installationId fabricId :=
    names.newV5 .integration (names.text installationId ++ ":matter:" ++ names.text fabricId)
  device integrationId nodeId := names.newV5 .device (names.text integrationId ++ ":node:" ++ toString nodeId)
  projection fabricId nodeId endpoint rule :=
    names.newV5 .matterProjection (names.text fabricId ++ ":" ++ toString nodeId ++ ":" ++ toString endpoint ++
      ":" ++ rule.key ++ ":1")
  subscription fabricId nodeId := names.newV5 .matterSubscription (names.text fabricId ++ ":" ++ toString nodeId)
  fabricText := names.text

def stripSuffix (text suffix : String) : Option String :=
  if suffix.toList <:+ text.toList then
    some (String.ofList (text.toList.take (text.toList.length - suffix.toList.length)))
  else none

def CapabilityDescriptor.new (name : String) (version : ℕ) (risk : RiskClass) : Option CapabilityDescriptor :=
  if blankText name then none else if version = 0 then none else some ⟨name, version, risk⟩

inductive MatterClusterRole
  | server | client
  deriving DecidableEq

structure MatterDiagnosticProjection where
  namespace_ : String
  role : MatterClusterRole
  revision : ℕ
  featureMap : ℕ
  attributes : List ℕ
  acceptedCommands : List ℕ
  deriving DecidableEq

structure MatterClusterCapability extends MatterNodeCapability where
  integrationId : IntegrationId
  projectionRevision : ℕ
  clusterRevision : ℕ
  featureMap : ℕ
  deriving DecidableEq

structure MatterNodeProjection where
  deviceId : DeviceId
  capabilities : List MatterClusterCapability
  diagnostics : List MatterDiagnosticProjection
  deriving DecidableEq

namespace MatterNodeProjection

section
variable (ids : MatterIdentities) (integrationId : IntegrationId) (deviceId : DeviceId) (node : MatterNodeDescriptor)

def projection (endpoint : MatterEndpointDescriptor) (cluster : MatterClusterDescriptor) (rule : MatterProjectionRule)
    (attributeId : ℕ) (risk : RiskClass) : Option MatterClusterCapability := do
  let schema ← rule.capabilitySchema
  let name ← stripSuffix schema ".v1"
  let capability ← CapabilityDescriptor.new name 1 risk
  return {
    projectionId := ids.projection node.fabricId node.nodeId endpoint.number rule
    rule := rule
    reportPath := ⟨node.nodeId, endpoint.number, cluster.id, attributeId⟩
    deviceId := deviceId
    endpointId := s!"matter:{endpoint.number}"
    capability := capability
    integrationId := integrationId
    projectionRevision := node.descriptorRevision
    clusterRevision := cluster.revision
    featureMap := cluster.featureMap }

def projectOnOff (endpoint : MatterEndpointDescriptor) : Option MatterClusterCapability := do
  guard (hasDeviceType endpoint.deviceTypes [0x0100, 0x0101])
  let cluster ← eligibleServerCluster endpoint 0x0006 [0x0000] [0x0000, 0x0001]
  projection ids integrationId deviceId node endpoint cluster .onOffV1 0x0000 .comfort

def projectAccessControl (endpoint : MatterEndpointDescriptor) : Option MatterClusterCapability := do
  guard (hasDeviceType endpoint.deviceTypes [0x000A])
  let cluster ← eligibleServerCluster endpoint 0x0101 [0x0000] [0x0000, 0x0001]
  projection ids integrationId deviceId node endpoint cluster .accessControlV1 0x0000 .security

structure Found where
  capabilities : List MatterClusterCapability
  mappedClusters : List (MatterEndpointNumber × ℕ)

def Found.note (found : Found) (endpoint : MatterEndpointDescriptor) (clusterId : ℕ) :
    Option MatterClusterCapability → Found
  | some projection => ⟨found.capabilities ++ [projection], found.mappedClusters ++ [(endpoint.number, clusterId)]⟩
  | none => found

def visitEndpoint (found : Found) (endpoint : MatterEndpointDescriptor) : Found :=
  let found := found.note endpoint 0x0006 (projectOnOff ids integrationId deviceId node endpoint)
  found.note endpoint 0x0101 (projectAccessControl ids integrationId deviceId node endpoint)

end

def diagnosticNamespace (endpoint : MatterEndpointNumber) (clusterId : ℕ) : String :=
  "matter.diagnostics.v1.endpoint." ++ toString endpoint ++ ".cluster." ++ String.ofList (hexDigits 8 clusterId)

def diagnostic (endpoint : MatterEndpointDescriptor) (cluster : MatterClusterDescriptor) (role : MatterClusterRole) :
    MatterDiagnosticProjection where
  namespace_ := diagnosticNamespace endpoint.number cluster.id
  role := role
  revision := cluster.revision
  featureMap := cluster.featureMap
  attributes := cluster.attributes
  acceptedCommands := cluster.acceptedCommands

def endpointDiagnostics (mappedClusters : List (MatterEndpointNumber × ℕ)) (endpoint : MatterEndpointDescriptor) :
    List MatterDiagnosticProjection :=
  (endpoint.serverClusters.filter (fun cluster => !mappedClusters.contains (endpoint.number, cluster.id))).map
      (fun cluster => diagnostic endpoint cluster .server) ++
    endpoint.clientClusters.map (fun cluster => diagnostic endpoint cluster .client)

end MatterNodeProjection

open MatterNodeProjection

def projectMatterNode (ids : MatterIdentities) (installationId : InstallationId) (node : MatterNodeDescriptor) :
    MatterNodeProjection :=
  let integrationId := ids.integration installationId node.fabricId
  let deviceId := ids.device integrationId node.nodeId
  let found := node.endpoints.foldl (visitEndpoint ids integrationId deviceId node) ⟨[], []⟩
  ⟨deviceId, found.capabilities, node.endpoints.flatMap (endpointDiagnostics found.mappedClusters)⟩

structure Eligible (endpoint : MatterEndpointDescriptor) (deviceTypes : List ℕ) (clusterId : ℕ)
    (cluster : MatterClusterDescriptor) : Prop where
  device : ∃ deviceType ∈ endpoint.deviceTypes, deviceType.id ∈ deviceTypes
  server : cluster ∈ endpoint.serverClusters
  id : cluster.id = clusterId
  attributes : 0x0000 ∈ cluster.attributes
  commands : 0x0000 ∈ cluster.acceptedCommands ∧ 0x0001 ∈ cluster.acceptedCommands

def MatterEndpointDescriptor.Offers (endpoint : MatterEndpointDescriptor) (cluster : MatterClusterDescriptor) :
    MatterProjectionRule → Prop
  | .onOffV1 => Eligible endpoint [0x0100, 0x0101] 0x0006 cluster
  | .accessControlV1 => Eligible endpoint [0x000A] 0x0101 cluster
  | .levelV1LaterFixture | .positionV1LaterFixture => False

/-- The projection of a node partitions its clusters, and says of each capability where it comes from. -/
structure ExactProjection (ids : MatterIdentities) (installationId : InstallationId) (node : MatterNodeDescriptor)
    (projected : MatterNodeProjection) : Prop where
  server : ∀ endpoint ∈ node.endpoints, ∀ cluster ∈ endpoint.serverClusters,
    projected.capabilities.countP (fun capability =>
        capability.reportPath.endpoint = endpoint.number ∧ capability.reportPath.clusterId = cluster.id) +
      projected.diagnostics.count (diagnostic endpoint cluster .server) = 1
  client : ∀ endpoint ∈ node.endpoints, ∀ cluster ∈ endpoint.clientClusters,
    projected.diagnostics.count (diagnostic endpoint cluster .client) = 1
  diagnosed : ∀ found ∈ projected.diagnostics, ∃ endpoint ∈ node.endpoints,
    (∃ cluster ∈ endpoint.serverClusters, found = diagnostic endpoint cluster .server) ∨
      ∃ cluster ∈ endpoint.clientClusters, found = diagnostic endpoint cluster .client
  reported : ∀ capability ∈ projected.capabilities, ∃ endpoint ∈ node.endpoints, ∃ cluster,
    endpoint.Offers cluster capability.rule ∧
      capability.reportPath = ⟨node.nodeId, endpoint.number, cluster.id, 0x0000⟩
  appears : ∀ rule, ∀ endpoint ∈ node.endpoints, (∃ capability ∈ projected.capabilities,
    capability.rule = rule ∧ capability.reportPath.endpoint = endpoint.number) ↔
      ∃ cluster, endpoint.Offers cluster rule
  projectionIds : (projected.capabilities.map (fun capability => capability.projectionId)).Nodup
  reportPaths : (projected.capabilities.map (fun capability => capability.reportPath)).Nodup
  devices : ∀ (installationId' : InstallationId) (other : MatterNodeDescriptor),
    (projectMatterNode ids installationId' other).deviceId = projected.deviceId →
      other.fabricId = node.fabricId ∧ other.nodeId = node.nodeId
  permuted : ∀ other : MatterNodeDescriptor, other.fabricId = node.fabricId → other.nodeId = node.nodeId →
    other.descriptorRevision = node.descriptorRevision → other.endpoints.Perm node.endpoints →
      (projectMatterNode ids installationId other).deviceId = projected.deviceId ∧
        (projectMatterNode ids installationId other).capabilities.Perm projected.capabilities ∧
        (projectMatterNode ids installationId other).diagnostics.Perm projected.diagnostics
  selection : (attributeSelection (projected.capabilities.map (fun capability => capability.reportPath))).isSome ↔
    projected.capabilities ≠ [] ∧ projected.capabilities.length ≤ 256

variable {capability : MatterClusterCapability} {found : Found} {role : MatterClusterRole}

namespace MatterNodeProjection

section
variable {ids : MatterIdentities} {integrationId : IntegrationId} {deviceId : DeviceId} {node : MatterNodeDescriptor}
  {endpoint : MatterEndpointDescriptor} {cluster : MatterClusterDescriptor}

theorem eligibleServerCluster_eq_some (h : (endpoint.serverClusters.map MatterClusterDescriptor.id).Nodup)
    {attributes commands : List ℕ} :
    eligibleServerCluster endpoint clusterId attributes commands = some cluster ↔
      cluster ∈ endpoint.serverClusters ∧ cluster.id = clusterId ∧ (∀ id ∈ attributes, id ∈ cluster.attributes) ∧
        ∀ id ∈ commands, id ∈ cluster.acceptedCommands := by
  constructor
  · intro hfound
    have hmem := List.mem_of_find?_eq_some hfound
    have hsome := List.find?_some hfound
    simp only [Bool.and_eq_true, beq_iff_eq, List.all_eq_true, contains_iff_mem] at hsome
    exact ⟨hmem, hsome.1.1, hsome.1.2, hsome.2⟩
  · rintro ⟨hmem, hid, hattributes, hcommands⟩
    cases hfound : eligibleServerCluster endpoint clusterId attributes commands with
    | none =>
      have hnone := List.find?_eq_none.mp hfound cluster hmem
      simp [hid] at hnone
      obtain ⟨id, hlisted, hlacking⟩ := hnone (fun id hlisted => hattributes id hlisted)
      exact absurd (hcommands id hlisted) hlacking
    | some found =>
      -- clusters of one endpoint have different numbers
      have hmem' := List.mem_of_find?_eq_some hfound
      have hsome := List.find?_some hfound
      simp only [Bool.and_eq_true, beq_iff_eq] at hsome
      rw [inj_on_of_nodup_map h hmem' hmem (hsome.1.1.trans hid.symm)]

def clusterCapability (ids : MatterIdentities) (integrationId : IntegrationId) (deviceId : DeviceId)
    (node : MatterNodeDescriptor) (endpoint : MatterEndpointDescriptor) (cluster : MatterClusterDescriptor)
    (rule : MatterProjectionRule) (name : String) (risk : RiskClass) : MatterClusterCapability :=
  ⟨node.capability ids deviceId endpoint cluster rule 0x0000 name risk, integrationId, node.descriptorRevision,
    cluster.revision, cluster.featureMap⟩

theorem projection_onOff : projection ids integrationId deviceId node endpoint cluster .onOffV1 0x0000 .comfort =
    some (clusterCapability ids integrationId deviceId node endpoint cluster .onOffV1 "on_off" .comfort) := by
  have hname : stripSuffix "on_off.v1" ".v1" = some "on_off" := rfl
  have hdescriptor : CapabilityDescriptor.new "on_off" 1 .comfort = some ⟨"on_off", 1, .comfort⟩ := rfl
  simp [projection, MatterProjectionRule.capabilitySchema, hname, hdescriptor, clusterCapability,
    MatterNodeDescriptor.capability]

theorem projection_accessControl :
    projection ids integrationId deviceId node endpoint cluster .accessControlV1 0x0000 .security =
      some (clusterCapability ids integrationId deviceId node endpoint cluster .accessControlV1 "access_control"
        .security) := by
  have hname : stripSuffix "access_control.v1" ".v1" = some "access_control" := rfl
  have hdescriptor : CapabilityDescriptor.new "access_control" 1 .security = some ⟨"access_control", 1, .security⟩ := rfl
  simp [projection, MatterProjectionRule.capabilitySchema, hname, hdescriptor, clusterCapability,
    MatterNodeDescriptor.capability]

theorem hasDeviceType_iff {deviceTypes : List MatterDeviceType} {eligible : List ℕ} :
    hasDeviceType deviceTypes eligible = true ↔ ∃ deviceType ∈ deviceTypes, deviceType.id ∈ eligible := by
  simp [hasDeviceType]

theorem rule_eq_some (h : (endpoint.serverClusters.map MatterClusterDescriptor.id).Nodup) {deviceTypes : List ℕ}
    {rule : MatterClusterDescriptor → Option MatterClusterCapability} :
    (do
      guard (hasDeviceType endpoint.deviceTypes deviceTypes)
      let cluster ← eligibleServerCluster endpoint clusterId [0x0000] [0x0000, 0x0001]
      rule cluster) = some capability ↔
      ∃ cluster, Eligible endpoint deviceTypes clusterId cluster ∧ rule cluster = some capability := by
  by_cases htype : hasDeviceType endpoint.deviceTypes deviceTypes = true
  · simp only [htype, guard, if_true, Option.bind_eq_bind, Option.pure_def, Option.bind_some,
      Option.bind_eq_some_iff, eligibleServerCluster_eq_some h]
    constructor
    · rintro ⟨cluster, ⟨hmem, hid, hattributes, hcommands⟩, hrule⟩
      exact ⟨cluster, ⟨hasDeviceType_iff.mp htype, hmem, hid, hattributes _ (by simp),
        hcommands _ (by simp), hcommands _ (by simp)⟩, hrule⟩
    · rintro ⟨cluster, heligible, hrule⟩
      refine ⟨cluster, ⟨heligible.server, heligible.id, ?_, ?_⟩, hrule⟩
      · simpa using heligible.attributes
      · simpa using heligible.commands
  · simp only [htype, guard]
    constructor
    · intro hnone
      cases hnone
    · rintro ⟨cluster, heligible, _⟩
      exact absurd (hasDeviceType_iff.mpr heligible.device) htype

theorem projectOnOff_eq_some (h : (endpoint.serverClusters.map MatterClusterDescriptor.id).Nodup) :
    projectOnOff ids integrationId deviceId node endpoint = some capability ↔
      ∃ cluster, endpoint.Offers cluster .onOffV1 ∧
        clusterCapability ids integrationId deviceId node endpoint cluster .onOffV1 "on_off" .comfort = capability := by
  unfold projectOnOff
  rw [rule_eq_some h]
  simp only [projection_onOff, Option.some.injEq, MatterEndpointDescriptor.Offers]

theorem projectAccessControl_eq_some (h : (endpoint.serverClusters.map MatterClusterDescriptor.id).Nodup) :
    projectAccessControl ids integrationId deviceId node endpoint = some capability ↔
      ∃ cluster, endpoint.Offers cluster .accessControlV1 ∧ clusterCapability ids integrationId deviceId node endpoint
        cluster .accessControlV1 "access_control" .security = capability := by
  unfold projectAccessControl
  rw [rule_eq_some h]
  simp only [projection_accessControl, Option.some.injEq, MatterEndpointDescriptor.Offers]

def endpointCapabilities (ids : MatterIdentities) (integrationId : IntegrationId) (deviceId : DeviceId)
    (node : MatterNodeDescriptor) (endpoint : MatterEndpointDescriptor) : List MatterClusterCapability :=
  (projectOnOff ids integrationId deviceId node endpoint).toList ++
    (projectAccessControl ids integrationId deviceId node endpoint).toList

def place (capability : MatterClusterCapability) : MatterEndpointNumber × ℕ :=
  (capability.reportPath.endpoint, capability.reportPath.clusterId)

theorem mem_endpointCapabilities (h : (endpoint.serverClusters.map MatterClusterDescriptor.id).Nodup)
    {capability : MatterClusterCapability} :
    capability ∈ endpointCapabilities ids integrationId deviceId node endpoint ↔
      (∃ cluster, endpoint.Offers cluster .onOffV1 ∧ clusterCapability ids integrationId deviceId node endpoint
        cluster .onOffV1 "on_off" .comfort = capability) ∨
      ∃ cluster, endpoint.Offers cluster .accessControlV1 ∧ clusterCapability ids integrationId deviceId node endpoint
        cluster .accessControlV1 "access_control" .security = capability := by
  simp only [endpointCapabilities, mem_append, Option.mem_toList, projectOnOff_eq_some h,
    projectAccessControl_eq_some h]

theorem note_capabilities (found : Found) (clusterId : ℕ) (capability : Option MatterClusterCapability) :
    (found.note endpoint clusterId capability).capabilities = found.capabilities ++ capability.toList := by
  cases capability <;> simp [Found.note]

theorem note_mapped {capability : Option MatterClusterCapability}
    (hplace : ∀ projected, capability = some projected → place projected = (endpoint.number, clusterId))
    (hfound : found.mappedClusters = found.capabilities.map place) :
    (found.note endpoint clusterId capability).mappedClusters =
      (found.note endpoint clusterId capability).capabilities.map place := by
  cases capability with
  | none => exact hfound
  | some projected => simp [Found.note, hfound, hplace projected rfl]

theorem visitEndpoint_eq (h : (endpoint.serverClusters.map MatterClusterDescriptor.id).Nodup)
    (hfound : found.mappedClusters = found.capabilities.map place) :
    (visitEndpoint ids integrationId deviceId node found endpoint).capabilities =
        found.capabilities ++ endpointCapabilities ids integrationId deviceId node endpoint ∧
      (visitEndpoint ids integrationId deviceId node found endpoint).mappedClusters =
        (visitEndpoint ids integrationId deviceId node found endpoint).capabilities.map place := by
  constructor
  · simp only [visitEndpoint, note_capabilities, endpointCapabilities, append_assoc]
  · apply note_mapped
    · intro projected hprojected
      obtain ⟨cluster, hoffers, rfl⟩ := (projectAccessControl_eq_some h).mp hprojected
      exact congrArg (Prod.mk endpoint.number) (Eligible.id hoffers)
    · apply note_mapped _ hfound
      intro projected hprojected
      obtain ⟨cluster, hoffers, rfl⟩ := (projectOnOff_eq_some h).mp hprojected
      exact congrArg (Prod.mk endpoint.number) (Eligible.id hoffers)

theorem visitEndpoints_eq {endpoints : List MatterEndpointDescriptor}
    (h : ∀ endpoint ∈ endpoints, (endpoint.serverClusters.map MatterClusterDescriptor.id).Nodup)
    (hfound : found.mappedClusters = found.capabilities.map place) :
    (endpoints.foldl (visitEndpoint ids integrationId deviceId node) found).capabilities =
        found.capabilities ++ endpoints.flatMap (endpointCapabilities ids integrationId deviceId node) ∧
      (endpoints.foldl (visitEndpoint ids integrationId deviceId node) found).mappedClusters =
        (endpoints.foldl (visitEndpoint ids integrationId deviceId node) found).capabilities.map place := by
  induction endpoints generalizing found with
  | nil => exact ⟨by simp, hfound⟩
  | cons endpoint endpoints ih =>
    obtain ⟨hcapabilities, hmapped⟩ : (visitEndpoint ids integrationId deviceId node found endpoint).capabilities =
        found.capabilities ++ endpointCapabilities ids integrationId deviceId node endpoint ∧ _ :=
      visitEndpoint_eq (h endpoint mem_cons_self) hfound
    obtain ⟨hall, hallMapped⟩ := ih (fun other hother => h other (mem_cons_of_mem _ hother)) hmapped
    refine ⟨?_, hallMapped⟩
    rw [foldl_cons, hall, hcapabilities, flatMap_cons, append_assoc]

theorem places_nodup_of_endpoint (h : (endpoint.serverClusters.map MatterClusterDescriptor.id).Nodup) :
    ((endpointCapabilities ids integrationId deviceId node endpoint).map place).Nodup := by
  have hplace : ∀ {projected : Option MatterClusterCapability} {clusterId : ℕ},
      (∀ capability, projected = some capability → place capability = (endpoint.number, clusterId)) →
        (projected.toList.map place).Sublist [(endpoint.number, clusterId)] := by
    intro projected clusterId hall
    cases projected with
    | none => exact nil_sublist _
    | some capability =>
      simp [hall capability rfl]
  have honOff := hplace (fun capability (hcapability : projectOnOff ids integrationId deviceId node endpoint =
      some capability) => by
    obtain ⟨cluster, hoffers, rfl⟩ := (projectOnOff_eq_some h).mp hcapability
    exact congrArg (Prod.mk endpoint.number) (Eligible.id hoffers))
  have haccess := hplace (fun capability (hcapability : projectAccessControl ids integrationId deviceId node endpoint =
      some capability) => by
    obtain ⟨cluster, hoffers, rfl⟩ := (projectAccessControl_eq_some h).mp hcapability
    exact congrArg (Prod.mk endpoint.number) (Eligible.id hoffers))
  rw [endpointCapabilities, map_append]
  exact (honOff.append haccess).nodup (by simp)

theorem place_fst (h : (endpoint.serverClusters.map MatterClusterDescriptor.id).Nodup)
    (hcapability : capability ∈ endpointCapabilities ids integrationId deviceId node endpoint) :
    (place capability).1 = endpoint.number := by
  obtain ⟨cluster, _, rfl⟩ | ⟨cluster, _, rfl⟩ := (mem_endpointCapabilities h).mp hcapability <;> rfl

theorem places_nodup (h : node.Accepted) :
    ((node.endpoints.flatMap (endpointCapabilities ids integrationId deviceId node)).map place).Nodup := by
  rw [map_flatMap, nodup_flatMap]
  refine ⟨fun endpoint hendpoint => places_nodup_of_endpoint (h.endpoints endpoint hendpoint).distinct.1, ?_⟩
  apply (pairwise_map.mp node.distinct).imp_of_mem
  intro endpoint other hendpoint hother hne key hkey hkey'
  obtain ⟨capability, hcapability, rfl⟩ := List.mem_map.mp hkey
  obtain ⟨capability', hcapability', hplace⟩ := List.mem_map.mp hkey'
  -- the number of the endpoint can be read off the place
  have hnumber := place_fst (h.endpoints endpoint hendpoint).distinct.1 hcapability
  have hnumber' := place_fst (h.endpoints other hother).distinct.1 hcapability'
  exact hne (hnumber.symm.trans ((congrArg Prod.fst hplace).symm.trans hnumber'))

theorem diagnosticNamespace_toList (n clusterId : ℕ) : (diagnosticNamespace n clusterId).toList =
    "matter.diagnostics.v1.endpoint.".toList ++
      ((toString n).toList ++ '.' :: ("cluster.".toList ++ hexDigits 8 clusterId)) := by
  have hdot : ".cluster.".toList = '.' :: "cluster.".toList := rfl
  unfold diagnosticNamespace
  simp only [String.toList_append, String.toList_ofList, append_assoc, hdot, cons_append]

theorem diagnosticNamespace_inj {n n' clusterId' : ℕ} (h : clusterId < 2^32) (h' : clusterId' < 2^32)
    (heq : diagnosticNamespace n clusterId = diagnosticNamespace n' clusterId') :
    n = n' ∧ clusterId = clusterId' := by
  have htext := congrArg String.toList heq
  rw [diagnosticNamespace_toList, diagnosticNamespace_toList] at htext
  obtain ⟨hnumber, hrest⟩ := decimal_cons_inj (by decide) (append_cancel_left htext)
  have hdigits : hexDigits 8 clusterId = hexDigits 8 clusterId' := append_cancel_left hrest
  exact ⟨hnumber, hexDigits_inj (by omega) (by omega) hdigits⟩

theorem diagnostic_inj {role' : MatterClusterRole} (h : cluster.Accepted) (h' : cluster'.Accepted)
    (heq : diagnostic endpoint cluster role = diagnostic other cluster' role') :
    endpoint.number = other.number ∧ cluster.id = cluster'.id ∧ role = role' := by
  have hnamespace := diagnosticNamespace_inj h.id_lt h'.id_lt (congrArg MatterDiagnosticProjection.namespace_ heq)
  exact ⟨hnamespace.1, hnamespace.2, congrArg MatterDiagnosticProjection.role heq⟩

theorem mem_endpointDiagnostics {mappedClusters : List (MatterEndpointNumber × ℕ)}
    {found : MatterDiagnosticProjection} : found ∈ endpointDiagnostics mappedClusters endpoint ↔
      (∃ cluster ∈ endpoint.serverClusters, (endpoint.number, cluster.id) ∉ mappedClusters ∧
        diagnostic endpoint cluster .server = found) ∨
      ∃ cluster ∈ endpoint.clientClusters, diagnostic endpoint cluster .client = found := by
  simp [endpointDiagnostics, and_assoc]

theorem diagnostics_nodup_of_clusters {clusters : List MatterClusterDescriptor}
    (h : ∀ cluster ∈ clusters, cluster.Accepted) (hdistinct : (clusters.map MatterClusterDescriptor.id).Nodup) :
    (clusters.map (fun cluster => diagnostic endpoint cluster role)).Nodup := by
  rw [List.Nodup, pairwise_map] at hdistinct ⊢
  apply hdistinct.imp_of_mem
  intro cluster other hcluster hother hne heq
  exact hne (diagnostic_inj (h cluster hcluster) (h other hother) heq).2.1

theorem diagnostics_nodup (h : node.Accepted) (mappedClusters : List (MatterEndpointNumber × ℕ)) :
    (node.endpoints.flatMap (endpointDiagnostics mappedClusters)).Nodup := by
  rw [nodup_flatMap]
  constructor
  · intro endpoint hendpoint
    have haccepted := h.endpoints endpoint hendpoint
    apply List.Nodup.append
    · apply diagnostics_nodup_of_clusters
      · exact fun cluster hcluster => haccepted.servers cluster (mem_of_mem_filter hcluster)
      · exact haccepted.distinct.1.sublist (filter_sublist.map _)
    · exact diagnostics_nodup_of_clusters haccepted.clients haccepted.distinct.2
    · intro found hserver hclient
      obtain ⟨cluster, _, rfl⟩ := List.mem_map.mp hserver
      obtain ⟨cluster', _, heq⟩ := List.mem_map.mp hclient
      exact absurd (congrArg MatterDiagnosticProjection.role heq) (by simp [diagnostic])
  · apply (pairwise_map.mp node.distinct).imp_of_mem
    intro endpoint other hendpoint hother hne found hfound hfound'
    have hat : ∀ {at_ : MatterEndpointDescriptor}, at_ ∈ node.endpoints →
        found ∈ endpointDiagnostics mappedClusters at_ →
          ∃ cluster role, MatterClusterDescriptor.Accepted cluster ∧ diagnostic at_ cluster role = found := by
      intro at_ hat hmem
      obtain ⟨cluster, hcluster, _, heq⟩ | ⟨cluster, hcluster, heq⟩ := mem_endpointDiagnostics.mp hmem
      · exact ⟨cluster, .server, (h.endpoints at_ hat).servers cluster hcluster, heq⟩
      · exact ⟨cluster, .client, (h.endpoints at_ hat).clients cluster hcluster, heq⟩
    obtain ⟨cluster, role, haccepted, heq⟩ := hat hendpoint hfound
    obtain ⟨cluster', role', haccepted', heq'⟩ := hat hother hfound'
    exact hne (diagnostic_inj haccepted haccepted' (heq.trans heq'.symm)).1

section
variable {names : UuidNames}

theorem identified_inj (hnames : names.Faithful) {id id' : ℕ} {rest rest' : List Char}
    (h : (names.text id).toList ++ ':' :: rest = (names.text id').toList ++ ':' :: rest') :
    id = id' ∧ rest = rest' := by
  obtain ⟨htext, hrest⟩ := append_separator_inj (hnames.plain id) (hnames.plain id') h
  exact ⟨hnames.text_inj id id' (String.toList_inj.mp htext), hrest⟩

theorem integration_inj (hnames : names.Faithful) {installationId installationId' fabricId' : ℕ}
    (h : names.identities.integration installationId fabricId =
      names.identities.integration installationId' fabricId') :
    fabricId = fabricId' := by
  have htext := congrArg String.toList (hnames.newV5_inj _ _ _ h)
  have hcolon : ":matter:".toList = ':' :: "matter:".toList := rfl
  simp only [String.toList_append, append_assoc, hcolon, cons_append] at htext
  obtain ⟨_, hrest⟩ := identified_inj hnames htext
  exact hnames.text_inj _ _ (String.toList_inj.mp (append_cancel_left hrest))

theorem device_inj (hnames : names.Faithful) {integrationId integrationId' nodeId' : ℕ}
    (h : names.identities.device integrationId nodeId = names.identities.device integrationId' nodeId') :
    integrationId = integrationId' ∧ nodeId = nodeId' := by
  have htext := congrArg String.toList (hnames.newV5_inj _ _ _ h)
  have hcolon : ":node:".toList = ':' :: "node:".toList := rfl
  simp only [String.toList_append, append_assoc, hcolon, cons_append] at htext
  obtain ⟨hintegration, hrest⟩ := identified_inj hnames htext
  exact ⟨hintegration, decimal_inj (append_cancel_left hrest)⟩

theorem projection_inj (hnames : names.Faithful) {endpoint endpoint' : ℕ} {rule' : MatterProjectionRule}
    (h : names.identities.projection fabricId nodeId endpoint rule =
      names.identities.projection fabricId nodeId endpoint' rule') :
    endpoint = endpoint' ∧ rule = rule' := by
  have htext := congrArg String.toList (hnames.newV5_inj _ _ _ h)
  have hcolon : ":".toList = [':'] := rfl
  simp only [String.toList_append, append_assoc, hcolon, singleton_append] at htext
  have hendpoint := append_cancel_left (List.cons.inj (append_cancel_left htext)).2
  obtain ⟨hnumber, hrule⟩ := decimal_cons_inj (by decide) (List.cons.inj hendpoint).2
  have hkey := String.toList_inj.mp (append_cancel_right hrule)
  refine ⟨hnumber, ?_⟩
  revert hkey
  cases rule <;> cases rule' <;> simp [MatterProjectionRule.key]

end

theorem projectMatterNode_eq (ids : MatterIdentities) (installationId : InstallationId) (h : node.Accepted) :
    (projectMatterNode ids installationId node).capabilities =
        node.endpoints.flatMap (endpointCapabilities ids (ids.integration installationId node.fabricId)
          (ids.device (ids.integration installationId node.fabricId) node.nodeId) node) ∧
      (projectMatterNode ids installationId node).diagnostics = node.endpoints.flatMap
        (endpointDiagnostics ((projectMatterNode ids installationId node).capabilities.map place)) := by
  let integrationId := ids.integration installationId node.fabricId
  let deviceId := ids.device integrationId node.nodeId
  obtain ⟨hcapabilities, hmapped⟩ :
      (node.endpoints.foldl (visitEndpoint ids integrationId deviceId node) ⟨[], []⟩).capabilities =
        [] ++ node.endpoints.flatMap (endpointCapabilities ids integrationId deviceId node) ∧ _ :=
    visitEndpoints_eq (fun endpoint hendpoint => (h.endpoints endpoint hendpoint).distinct.1) rfl
  constructor
  · exact hcapabilities
  · exact congrArg (fun mapped => node.endpoints.flatMap (endpointDiagnostics mapped)) hmapped

/-- A server cluster is projected to one capability or one diagnostic. -/
theorem server_placed_once (installationId : InstallationId) (h : node.Accepted) (hendpoint : endpoint ∈ node.endpoints)
    (hcluster : cluster ∈ endpoint.serverClusters) :
    (projectMatterNode ids installationId node).capabilities.countP (fun capability =>
        capability.reportPath.endpoint = endpoint.number ∧ capability.reportPath.clusterId = cluster.id) +
      (projectMatterNode ids installationId node).diagnostics.count (diagnostic endpoint cluster .server) = 1 := by
  obtain ⟨hcapabilities, hdiagnostics⟩ := projectMatterNode_eq ids installationId h
  have haccepted := h.endpoints endpoint hendpoint
  -- capabilities of the cluster are counted by their places
  have hcount : (projectMatterNode ids installationId node).capabilities.countP (fun capability =>
        capability.reportPath.endpoint = endpoint.number ∧ capability.reportPath.clusterId = cluster.id) =
      ((projectMatterNode ids installationId node).capabilities.map place).count (endpoint.number, cluster.id) := by
    rw [List.count, countP_map]
    apply countP_congr
    intro capability _
    simp [place]
  have hplaces : ((projectMatterNode ids installationId node).capabilities.map place).Nodup := by
    rw [hcapabilities]
    exact places_nodup h
  have hnodup : (projectMatterNode ids installationId node).diagnostics.Nodup := by
    rw [hdiagnostics]
    exact diagnostics_nodup h _
  have hdiagnostic : diagnostic endpoint cluster .server ∈ (projectMatterNode ids installationId node).diagnostics ↔
      (endpoint.number, cluster.id) ∉ (projectMatterNode ids installationId node).capabilities.map place := by
    rw [hdiagnostics, mem_flatMap]
    constructor
    · rintro ⟨other, hother, hmem⟩
      obtain ⟨cluster', hcluster', hnot, heq⟩ | ⟨cluster', hcluster', heq⟩ := mem_endpointDiagnostics.mp hmem
      · obtain ⟨hnumber, hid, _⟩ := diagnostic_inj ((h.endpoints other hother).servers cluster' hcluster')
          (haccepted.servers cluster hcluster) heq
        rwa [hnumber, hid] at hnot
      · exact absurd (congrArg MatterDiagnosticProjection.role heq) (by simp [diagnostic])
    · intro hnot
      exact ⟨endpoint, hendpoint, mem_endpointDiagnostics.mpr (.inl ⟨cluster, hcluster, hnot, rfl⟩)⟩
  rw [hcount]
  by_cases hmapped : (endpoint.number, cluster.id) ∈ (projectMatterNode ids installationId node).capabilities.map place
  · have hnot := fun hmem => hdiagnostic.mp hmem hmapped
    rw [count_eq_one_of_mem hplaces hmapped, count_eq_zero_of_not_mem hnot]
  · rw [count_eq_zero_of_not_mem hmapped, count_eq_one_of_mem hnodup (hdiagnostic.mpr hmapped)]

theorem client_diagnosed_once (installationId : InstallationId) (h : node.Accepted)
    (hendpoint : endpoint ∈ node.endpoints) (hcluster : cluster ∈ endpoint.clientClusters) :
    (projectMatterNode ids installationId node).diagnostics.count (diagnostic endpoint cluster .client) = 1 := by
  have hdiagnostics := (projectMatterNode_eq ids installationId h).2
  rw [hdiagnostics]
  apply count_eq_one_of_mem (diagnostics_nodup h _)
  exact mem_flatMap.mpr ⟨endpoint, hendpoint, mem_endpointDiagnostics.mpr (.inr ⟨cluster, hcluster, rfl⟩)⟩

theorem diagnosed_of_mem (installationId : InstallationId) (h : node.Accepted) {found : MatterDiagnosticProjection}
    (hfound : found ∈ (projectMatterNode ids installationId node).diagnostics) : ∃ endpoint ∈ node.endpoints,
      (∃ cluster ∈ endpoint.serverClusters, found = diagnostic endpoint cluster .server) ∨
        ∃ cluster ∈ endpoint.clientClusters, found = diagnostic endpoint cluster .client := by
  rw [(projectMatterNode_eq ids installationId h).2] at hfound
  obtain ⟨endpoint, hendpoint, hmem⟩ := mem_flatMap.mp hfound
  obtain ⟨cluster, hcluster, _, heq⟩ | ⟨cluster, hcluster, heq⟩ := mem_endpointDiagnostics.mp hmem
  · exact ⟨endpoint, hendpoint, .inl ⟨cluster, hcluster, heq.symm⟩⟩
  · exact ⟨endpoint, hendpoint, .inr ⟨cluster, hcluster, heq.symm⟩⟩

theorem offered_of_mem (installationId : InstallationId) (h : node.Accepted)
    (hcapability : capability ∈ (projectMatterNode ids installationId node).capabilities) :
    ∃ endpoint ∈ node.endpoints, ∃ cluster, endpoint.Offers cluster capability.rule ∧
      capability.reportPath = ⟨node.nodeId, endpoint.number, cluster.id, 0x0000⟩ ∧
      capability.projectionId = ids.projection node.fabricId node.nodeId endpoint.number capability.rule := by
  rw [(projectMatterNode_eq ids installationId h).1] at hcapability
  obtain ⟨endpoint, hendpoint, hmem⟩ := mem_flatMap.mp hcapability
  obtain ⟨cluster, hoffers, rfl⟩ | ⟨cluster, hoffers, rfl⟩ :=
    (mem_endpointCapabilities (h.endpoints endpoint hendpoint).distinct.1).mp hmem
  · exact ⟨endpoint, hendpoint, cluster, hoffers, rfl, rfl⟩
  · exact ⟨endpoint, hendpoint, cluster, hoffers, rfl, rfl⟩

theorem endpoint_eq (hendpoint : endpoint ∈ node.endpoints) (hother : other ∈ node.endpoints)
    (hnumber : other.number = endpoint.number) : other = endpoint :=
  inj_on_of_nodup_map node.distinct hother hendpoint hnumber

theorem appears_iff (installationId : InstallationId) (h : node.Accepted) (rule : MatterProjectionRule)
    (hendpoint : endpoint ∈ node.endpoints) :
    (∃ capability ∈ (projectMatterNode ids installationId node).capabilities,
      capability.rule = rule ∧ capability.reportPath.endpoint = endpoint.number) ↔
        ∃ cluster, endpoint.Offers cluster rule := by
  constructor
  · rintro ⟨capability, hcapability, rfl, hnumber⟩
    obtain ⟨other, hother, cluster, hoffers, hpath, _⟩ := offered_of_mem installationId h hcapability
    rw [hpath] at hnumber
    obtain rfl := endpoint_eq hendpoint hother hnumber
    exact ⟨cluster, hoffers⟩
  · rintro ⟨cluster, hoffers⟩
    rw [(projectMatterNode_eq ids installationId h).1]
    have hmem {capability : MatterClusterCapability} := @mem_endpointCapabilities ids
      (ids.integration installationId node.fabricId)
      (ids.device (ids.integration installationId node.fabricId) node.nodeId) node endpoint
      (h.endpoints endpoint hendpoint).distinct.1 capability
    cases rule with
    | onOffV1 =>
      exact ⟨_, mem_flatMap.mpr ⟨endpoint, hendpoint, hmem.mpr (.inl ⟨cluster, hoffers, rfl⟩)⟩, rfl, rfl⟩
    | accessControlV1 =>
      exact ⟨_, mem_flatMap.mpr ⟨endpoint, hendpoint, hmem.mpr (.inr ⟨cluster, hoffers, rfl⟩)⟩, rfl, rfl⟩
    | levelV1LaterFixture | positionV1LaterFixture => exact hoffers.elim

theorem map_nodup (installationId : InstallationId) (h : node.Accepted) (key : MatterClusterCapability → κ)
    (hkey : ∀ capability ∈ (projectMatterNode ids installationId node).capabilities,
      ∀ other ∈ (projectMatterNode ids installationId node).capabilities,
        key capability = key other → place capability = place other) :
    ((projectMatterNode ids installationId node).capabilities.map key).Nodup := by
  have hplaces : ((projectMatterNode ids installationId node).capabilities.map place).Nodup := by
    rw [(projectMatterNode_eq ids installationId h).1]
    exact places_nodup h
  rw [List.Nodup, pairwise_map] at hplaces ⊢
  apply hplaces.imp_of_mem
  intro capability other hcapability hother hne heq
  exact hne (hkey capability hcapability other hother heq)

theorem offers_id (h : endpoint.Offers cluster rule) (h' : other.Offers cluster' rule) :
    cluster.id = cluster'.id := by
  cases rule with
  | onOffV1 | accessControlV1 => exact (Eligible.id h).trans (Eligible.id h').symm
  | levelV1LaterFixture | positionV1LaterFixture => exact h.elim

theorem projectionIds_nodup {names : UuidNames} (hnames : names.Faithful) (installationId : InstallationId)
    (h : node.Accepted) : ((projectMatterNode names.identities installationId node).capabilities.map
      (fun capability => capability.projectionId)).Nodup := by
  apply map_nodup installationId h
  intro capability hcapability other hother heq
  obtain ⟨endpoint, _, cluster, hoffers, hpath, hid⟩ := offered_of_mem installationId h hcapability
  obtain ⟨endpoint', _, cluster', hoffers', hpath', hid'⟩ := offered_of_mem installationId h hother
  obtain ⟨hnumber, hrule⟩ := projection_inj hnames (hid.symm.trans (heq.trans hid'))
  rw [← hrule] at hoffers'
  simp only [place, hpath, hpath', hnumber, offers_id hoffers hoffers']

theorem capabilities_perm {other : MatterNodeDescriptor} (hfabric : other.fabricId = node.fabricId)
    (hnode : other.nodeId = node.nodeId) (hrevision : other.descriptorRevision = node.descriptorRevision)
    (hperm : other.endpoints.Perm node.endpoints) :
    (other.endpoints.flatMap (endpointCapabilities ids integrationId deviceId other)).Perm
      (node.endpoints.flatMap (endpointCapabilities ids integrationId deviceId node)) := by
  have hsame : endpointCapabilities ids integrationId deviceId other =
      endpointCapabilities ids integrationId deviceId node := by
    funext endpoint
    simp only [endpointCapabilities, projectOnOff, projectAccessControl, projection, hfabric, hnode, hrevision]
  rw [hsame]
  exact hperm.flatMap_right _

theorem projection_perm (installationId : InstallationId) (h : node.Accepted) {other : MatterNodeDescriptor}
    (hfabric : other.fabricId = node.fabricId) (hnode : other.nodeId = node.nodeId)
    (hrevision : other.descriptorRevision = node.descriptorRevision) (hperm : other.endpoints.Perm node.endpoints) :
    (projectMatterNode ids installationId other).deviceId = (projectMatterNode ids installationId node).deviceId ∧
      (projectMatterNode ids installationId other).capabilities.Perm
        (projectMatterNode ids installationId node).capabilities ∧
      (projectMatterNode ids installationId other).diagnostics.Perm
        (projectMatterNode ids installationId node).diagnostics := by
  have hother : other.Accepted :=
    MatterNodeDescriptor.accepted (fun endpoint hendpoint => h.endpoints endpoint (hperm.mem_iff.mp hendpoint))
  obtain ⟨hcapabilities, hdiagnostics⟩ := projectMatterNode_eq ids installationId h
  obtain ⟨hcapabilities', hdiagnostics'⟩ := projectMatterNode_eq ids installationId hother
  have hfound : (projectMatterNode ids installationId other).capabilities.Perm
      (projectMatterNode ids installationId node).capabilities := by
    rw [hcapabilities, hcapabilities', hfabric, hnode]
    exact capabilities_perm hfabric hnode hrevision hperm
  -- the mapped clusters are asked only for membership
  have hsame : endpointDiagnostics ((projectMatterNode ids installationId other).capabilities.map place) =
      endpointDiagnostics ((projectMatterNode ids installationId node).capabilities.map place) := by
    funext endpoint
    simp only [endpointDiagnostics, contains_eq_mem, (hfound.map place).mem_iff]
  refine ⟨?_, hfound, ?_⟩
  · simp only [projectMatterNode, hfabric, hnode]
  · rw [hdiagnostics, hdiagnostics', hsame]
    exact hperm.flatMap_right _

end

end MatterNodeProjection

theorem attributeSelection_isSome (paths : List MatterAttributePath) :
    (attributeSelection paths).isSome ↔ paths ≠ [] ∧ paths.length ≤ 256 ∧ paths.Nodup := by
  unfold attributeSelection
  split
  next hrefused =>
    constructor
    · intro hsome
      cases hsome
    · rintro ⟨hne, hle, hnodup⟩
      obtain hnil | hmany | hrepeated := hrefused
      · exact absurd hnil hne
      · exact absurd hmany (not_lt.mpr hle)
      · exact absurd hnodup hrepeated
  next hselected =>
    simp only [not_or, not_lt, not_not] at hselected
    exact ⟨fun _ => hselected, fun _ => rfl⟩

/-- The projection of every node that the domain accepts is an exact partition, and its report paths can be selected
if there is a capability and there are not more than a selection may have. -/
theorem project_matter_node_exact {names : UuidNames} (hnames : names.Faithful) (installationId : InstallationId)
    {node : MatterNodeDescriptor} (h : node.Accepted) :
    ExactProjection names.identities installationId node (projectMatterNode names.identities installationId node) := by
  have hpaths : ((projectMatterNode names.identities installationId node).capabilities.map
      (fun capability => capability.reportPath)).Nodup := by
    apply map_nodup installationId h
    intro capability _ other _ heq
    rw [place, place, heq]
  constructor
  case server => exact fun _ hendpoint _ hcluster => server_placed_once installationId h hendpoint hcluster
  case client => exact fun _ hendpoint _ hcluster => client_diagnosed_once installationId h hendpoint hcluster
  case diagnosed => exact fun _ hfound => diagnosed_of_mem installationId h hfound
  case reported =>
    intro capability hcapability
    obtain ⟨endpoint, hendpoint, cluster, hoffers, hpath, _⟩ := offered_of_mem installationId h hcapability
    exact ⟨endpoint, hendpoint, cluster, hoffers, hpath⟩
  case appears => exact fun rule _ hendpoint => appears_iff installationId h rule hendpoint
  case projectionIds => exact projectionIds_nodup hnames installationId h
  case reportPaths => exact hpaths
  case devices =>
    intro installationId' other heq
    obtain ⟨hintegration, hnode⟩ := device_inj hnames heq
    exact ⟨integration_inj hnames hintegration, hnode⟩
  case permuted => exact fun other hfabric hnode hrevision hperm =>
    projection_perm installationId h hfabric hnode hrevision hperm
  case selection =>
    rw [attributeSelection_isSome, List.length_map, ne_eq, List.map_eq_nil_iff]
    constructor
    · exact fun hselected => ⟨hselected.1, hselected.2.1⟩
    · exact fun hfits => ⟨hfits.1, hfits.2, hpaths⟩

def plainNames : UuidNames := ⟨fun id => toString id, fun _ name => DeviceWorld.spelled name.toList⟩

theorem plainNames_faithful : plainNames.Faithful := by
  constructor
  case text_inj =>
    intro id id' h
    exact decimal_inj (congrArg String.toList h)
  case plain =>
    intro id hcolon
    exact absurd (isDigit_of_mem_decimal hcolon) (by decide)
  case newV5_inj =>
    intro _ name name' h
    exact String.toList_inj.mp (DeviceWorld.spelled_injective h)

def lightAndLock (number : MatterEndpointNumber) : MatterEndpointDescriptor :=
  ⟨number, [⟨0x0100, 1⟩, ⟨0x000A, 1⟩], [⟨0x0006, 1, 0, [0, 1], [0]⟩, ⟨0x0101, 1, 0, [0, 1], [0]⟩], []⟩

theorem lightAndLock_accepted {number : MatterEndpointNumber} (h : number < 2^16) : (lightAndLock number).Accepted := by
  have hcluster : ∀ cluster ∈ (lightAndLock number).serverClusters, cluster.Accepted := by
    intro cluster hcluster
    obtain rfl | rfl : cluster = ⟨0x0006, 1, 0, [0, 1], [0]⟩ ∨ cluster = ⟨0x0101, 1, 0, [0, 1], [0]⟩ := by
      simpa [lightAndLock] using hcluster
    · exact ⟨by decide, by decide, by decide, by decide, by decide, rfl⟩
    · exact ⟨by decide, by decide, by decide, by decide, by decide, rfl⟩
  have hdevice : ∀ deviceType ∈ (lightAndLock number).deviceTypes, deviceType.Accepted := by
    intro deviceType hdevice
    obtain rfl | rfl : deviceType = ⟨0x0100, 1⟩ ∨ deviceType = ⟨0x000A, 1⟩ := by
      simpa [lightAndLock] using hdevice
    · exact ⟨by decide, by decide, rfl⟩
    · exact ⟨by decide, by decide, rfl⟩
  exact ⟨h, hdevice, hcluster, fun _ hclient => (nomatch hclient), rfl⟩

theorem lightsNodeId_pos : 0 < 4 := by decide

theorem lightsNodeId_lt : 4 < 2^64 := by decide

theorem lightsRevision_lt : 1 < 2^64 := by decide

def lightsAndLocks (count : ℕ) (h : count ≤ 256) : MatterNodeDescriptor where
  fabricId := 1
  nodeId := 4
  endpoints := (List.range count).map lightAndLock
  descriptorRevision := 1
  nodeId_pos := lightsNodeId_pos
  nodeId_lt := lightsNodeId_lt
  revision_pos := Nat.one_pos
  revision_lt := lightsRevision_lt
  bounded := by simpa using h
  distinct := by
    have hnumbers : ((List.range count).map lightAndLock).map MatterEndpointDescriptor.number = List.range count := by
      rw [List.map_map]
      exact List.map_id _
    rw [hnumbers]
    exact List.nodup_range

theorem lightsAndLocks_accepted (h : count ≤ 256) : (lightsAndLocks count h).Accepted := by
  apply MatterNodeDescriptor.accepted
  intro endpoint hendpoint
  obtain ⟨number, hnumber, rfl⟩ := List.mem_map.mp hendpoint
  have hlt := mem_range.mp hnumber
  exact lightAndLock_accepted (lt_of_lt_of_le hlt (h.trans (by decide)))

def dimmerEndpoint : MatterEndpointDescriptor :=
  ⟨2, [⟨0x0101, 1⟩], [⟨0x0006, 1, 0, [0, 1], [0]⟩, ⟨0x0008, 1, 0, [0], [0]⟩], [⟨0x0006, 1, 0, [], []⟩]⟩

theorem mixedEndpoints_distinct :
    ([⟨0, [⟨0x0016, 1⟩], [⟨0x0028, 1, 0, [], [0]⟩], []⟩, lightAndLock 1, dimmerEndpoint].map
      MatterEndpointDescriptor.number).Nodup := by decide

def mixedNode : MatterNodeDescriptor where
  fabricId := 1
  nodeId := 4
  endpoints := [⟨0, [⟨0x0016, 1⟩], [⟨0x0028, 1, 0, [], [0]⟩], []⟩, lightAndLock 1, dimmerEndpoint]
  descriptorRevision := 1
  nodeId_pos := lightsNodeId_pos
  nodeId_lt := lightsNodeId_lt
  revision_pos := Nat.one_pos
  revision_lt := lightsRevision_lt
  bounded := Nat.le_of_ble_eq_true rfl
  distinct := mixedEndpoints_distinct

/-- Three capabilities, and diagnostics for the three clusters that have none. -/
theorem mixed_node_exact : ExactProjection plainNames.identities 1 mixedNode
    (projectMatterNode plainNames.identities 1 mixedNode) ∧
      (projectMatterNode plainNames.identities 1 mixedNode).capabilities.length = 3 ∧
      (projectMatterNode plainNames.identities 1 mixedNode).diagnostics.map (fun found => found.role) =
        [.server, .server, .client] := by
  have haccepted : ∀ endpoint ∈ mixedNode.endpoints, endpoint.Accepted := by decide
  exact ⟨project_matter_node_exact plainNames_faithful 1 (MatterNodeDescriptor.accepted haccepted),
    by decide +kernel, by decide +kernel⟩

theorem lightsAndLocks_length (ids : MatterIdentities) (installationId : InstallationId) (h : count ≤ 256) :
    (projectMatterNode ids installationId (lightsAndLocks count h)).capabilities.length = 2 * count := by
  rw [(projectMatterNode_eq ids installationId (lightsAndLocks_accepted h)).1, length_flatMap]
  have htwo : ∀ endpoint ∈ (lightsAndLocks count h).endpoints, (endpointCapabilities ids
      (ids.integration installationId (lightsAndLocks count h).fabricId) (ids.device (ids.integration installationId
        (lightsAndLocks count h).fabricId) (lightsAndLocks count h).nodeId) (lightsAndLocks count h) endpoint).length =
        2 := by
    intro endpoint hendpoint
    have hdistinct := ((lightsAndLocks_accepted h).endpoints endpoint hendpoint).distinct.1
    obtain ⟨number, _, rfl⟩ := List.mem_map.mp hendpoint
    rw [endpointCapabilities, (projectOnOff_eq_some hdistinct).mpr ⟨⟨0x0006, 1, 0, [0, 1], [0]⟩,
        ⟨⟨_, mem_cons_self, by decide⟩, by simp [lightAndLock], rfl, by decide, by decide⟩, rfl⟩,
      (projectAccessControl_eq_some hdistinct).mpr ⟨⟨0x0101, 1, 0, [0, 1], [0]⟩,
        ⟨⟨⟨0x000A, 1⟩, by simp [lightAndLock], by decide⟩, by simp [lightAndLock], rfl, by decide, by decide⟩, rfl⟩]
    rfl
  rw [map_congr_left htwo, map_const', sum_replicate_nat]
  simp [lightsAndLocks, Nat.mul_comm]

/-- A node with 129 lights and locks is accepted, and its capabilities cannot be selected. -/
theorem wide_node_not_selectable : ¬ ∀ (names : UuidNames) (installationId : InstallationId)
    (node : MatterNodeDescriptor), names.Faithful → node.Accepted →
      (projectMatterNode names.identities installationId node).capabilities ≠ [] →
        (attributeSelection ((projectMatterNode names.identities installationId node).capabilities.map
          (fun capability => capability.reportPath))).isSome := by
  intro hall
  have hlength := lightsAndLocks_length plainNames.identities 1 (show 129 ≤ 256 by decide)
  have hsome := hall plainNames 1 (lightsAndLocks 129 (by decide)) plainNames_faithful
    (lightsAndLocks_accepted (by decide)) (fun hnone => by rw [hnone] at hlength; cases hlength)
  have hfits := ((attributeSelection_isSome _).mp hsome).2.1
  rw [List.length_map, hlength] at hfits
  exact absurd hfits (by decide)

end HomeMagic
