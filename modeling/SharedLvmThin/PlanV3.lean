import SharedLvmThin.PlanAdapter

/-! Composition of version 2 executor plans of several volume groups into one version 3 plan.
All scopes describe one VM, one configuration, one node and one boot; identities must not
occur in two scopes, and the order of the envelopes must not matter. -/

namespace SharedLvmThin.Compose
open Perl KeyedLists StoragePlan PlanAdapter

structure Envelope where
  collectorSid : Scalar
  executorV2 : PlanV2
  foreignEvidence : Json
  foreignEvidenceSha256 : Scalar

structure PhysicalId where
  vgUuid : Scalar
  pvUuid : Scalar
  wwid : String
deriving DecidableEq

structure Physical extends PhysicalId where
  vgName : String
deriving DecidableEq

/-- What all scopes have to share. -/
structure Common where
  vmid : String
  rawConfig : String
  configSha256 : String
  parsedConfigSha256 : String
  storecfgSha256 : String
  node : Scalar
  bootId : Scalar
  scopeConfigSha256 : Scalar
deriving DecidableEq

structure GlobalRoot where
  id : String
  scopeId : String
  sourceId : Scalar
  kind : Scalar
  ownerVmid : String
deriving DecidableEq

structure GlobalVolume where
  volid : Scalar
  scopeId : String
  rootId : String
deriving DecidableEq

structure ScopeEntry where
  scopeId : String
  physical : Physical
  storageIds : List Scalar
  collectorSid : Scalar
  volids : List Scalar
  executorV2 : PlanV2
  adapterSha256 : String
  storagePlanSha256 : String
  foreignEvidence : Json
  foreignEvidenceSha256 : Scalar

structure PlanV3Body where
  schema : String
  authority : String
  vmid : String
  rawConfig : String
  configSha256 : String
  parsedConfigSha256 : String
  storecfgSha256 : String
  node : Scalar
  bootId : Scalar
  volids : List String
  scopeIds : List String
  scopes : List ScopeEntry
  roots : List GlobalRoot
  volumes : List GlobalVolume
  objectIds : List String

structure PlanV3 extends PlanV3Body where
  planSha256 : String

/-! ## JSON forms -/

instance : Encodes PhysicalId where
  value p := .hash [("pv_uuid", Encodes.value p.pvUuid), ("vg_uuid", Encodes.value p.vgUuid),
    ("wwid", Encodes.value p.wwid)]
  plain p := .record (by simp only [List.map]; decide +kernel) (by simp [Encodes.plain])
  inj a b h := by
    cases a
    cases b
    simp_all

instance : Encodes Physical where
  value p := .hash [("pv_uuid", Encodes.value p.pvUuid), ("vg_name", Encodes.value p.vgName),
    ("vg_uuid", Encodes.value p.vgUuid), ("wwid", Encodes.value p.wwid)]
  plain p := .record (by simp only [List.map]; decide +kernel) (by simp [Encodes.plain])
  inj a b h := by
    obtain ⟨⟨⟩, _⟩ := a
    obtain ⟨⟨⟩, _⟩ := b
    simp_all

instance : Encodes Common where
  value c := .hash [("boot_id", Encodes.value c.bootId),
    ("config_sha256", Encodes.value c.configSha256), ("node", Encodes.value c.node),
    ("parsed_config_sha256", Encodes.value c.parsedConfigSha256),
    ("raw_config", Encodes.value c.rawConfig),
    ("scope_config_sha256", Encodes.value c.scopeConfigSha256),
    ("storecfg_sha256", Encodes.value c.storecfgSha256), ("vmid", Encodes.value c.vmid)]
  plain c := .record (by simp only [List.map]; decide +kernel) (by simp [Encodes.plain])
  inj a b h := by
    cases a
    cases b
    simp_all

instance : Encodes GlobalRoot where
  value r := .hash [("id", Encodes.value r.id), ("kind", Encodes.value r.kind),
    ("owner_vmid", Encodes.value r.ownerVmid), ("scope_id", Encodes.value r.scopeId),
    ("source_id", Encodes.value r.sourceId)]
  plain r := .record (by simp only [List.map]; decide +kernel) (by simp [Encodes.plain])
  inj a b h := by
    cases a
    cases b
    simp_all

instance : Encodes GlobalVolume where
  value v := .hash [("root_id", Encodes.value v.rootId), ("scope_id", Encodes.value v.scopeId),
    ("volid", Encodes.value v.volid)]
  plain v := .record (by simp only [List.map]; decide +kernel) (by simp [Encodes.plain])
  inj a b h := by
    cases a
    cases b
    simp_all

instance : Encodes ScopeEntry where
  value e := .hash [("adapter_sha256", Encodes.value e.adapterSha256),
    ("collector_sid", Encodes.value e.collectorSid), ("executor_v2", Encodes.value e.executorV2),
    ("foreign_evidence", Encodes.value e.foreignEvidence),
    ("foreign_evidence_sha256", Encodes.value e.foreignEvidenceSha256),
    ("physical", Encodes.value e.physical), ("scope_id", Encodes.value e.scopeId),
    ("storage_ids", Encodes.value e.storageIds),
    ("storage_plan_sha256", Encodes.value e.storagePlanSha256),
    ("volids", Encodes.value e.volids)]
  plain e := .record (by simp only [List.map]; decide +kernel) (by simp [Encodes.plain])
  inj a b h := by
    cases a
    cases b
    simp_all

def PlanV3Body.head (p : PlanV3Body) : List (String × Value) :=
  [("authority", Encodes.value p.authority), ("boot_id", Encodes.value p.bootId),
    ("config_sha256", Encodes.value p.configSha256), ("node", Encodes.value p.node),
    ("object_ids", Encodes.value p.objectIds),
    ("parsed_config_sha256", Encodes.value p.parsedConfigSha256)]

def PlanV3Body.tail (p : PlanV3Body) : List (String × Value) :=
  [("raw_config", Encodes.value p.rawConfig), ("roots", Encodes.value p.roots),
    ("schema", Encodes.value p.schema), ("scope_ids", Encodes.value p.scopeIds),
    ("scopes", Encodes.value p.scopes), ("storecfg_sha256", Encodes.value p.storecfgSha256),
    ("vmid", Encodes.value p.vmid), ("volids", Encodes.value p.volids),
    ("volumes", Encodes.value p.volumes)]

instance : Encodes PlanV3Body where
  value p := .hash (p.head ++ p.tail)
  plain p := .record
    (by simp only [PlanV3Body.head, PlanV3Body.tail, List.cons_append, List.nil_append, List.map]
        decide +kernel)
    (by simp [PlanV3Body.head, PlanV3Body.tail, Encodes.plain])
  inj a b h := by
    cases a
    cases b
    simp_all [PlanV3Body.head, PlanV3Body.tail]

instance : Encodes PlanV3 where
  value p := .hash (p.head ++ [("plan_sha256", Encodes.value p.planSha256)] ++ p.tail)
  plain p := .record
    (by simp only [PlanV3Body.head, PlanV3Body.tail, List.cons_append, List.nil_append, List.map]
        decide +kernel)
    (by simp [PlanV3Body.head, PlanV3Body.tail, Encodes.plain])
  inj a b h := by
    obtain ⟨⟨⟩, _⟩ := a
    obtain ⟨⟨⟩, _⟩ := b
    simp_all [PlanV3Body.head, PlanV3Body.tail]

/-! ## One scope -/

/-- `_need` -/
def demand (holds : Bool) (label : String) : Except String Unit :=
  dieIf (!holds) ("VM_DESTROY_V3_UNKNOWN: " ++ label)

@[simp] theorem demand_eq_ok {holds : Bool} {label : String} {u : Unit} :
    demand holds label = .ok u ↔ holds = true := by
  simp [demand]

/-- What the loop keeps of a scope: its entry, its context and its global records. -/
structure Scoped where
  entry : ScopeEntry
  common : Common
  roots : List GlobalRoot
  volumes : List GlobalVolume

namespace Scoped

def plan (s : Scoped) : PlanV2 := s.entry.executorV2

def members (s : Scoped) : List Member := s.plan.roots.flatMap NormalizedRoot.members

/-- `"$type:$scope_id:$member->{name}"` -/
def physicalName (scopeId : String) (m : Member) : String :=
  m.type.text ++ ":" ++ scopeId ++ ":" ++ m.name.text

def physicalNames (s : Scoped) : List String := s.members.map (physicalName s.entry.scopeId)

end Scoped

/-- `/^[A-Za-z0-9][A-Za-z0-9_.-]*$/` -/
def isStorageId (s : Scalar) : Bool :=
  match (body s.text).toList with
  | [] => false
  | c :: rest => c.isAlphanum && rest.all fun d => d.isAlphanum || d ∈ ['_', '.', '-']

/-- `_sha256` -/
def isSha256 (s : Scalar) : Bool := !s.isRef && exactly 64 isLowerHex s.text

def checkEvidence (env : Envelope) : Except String Unit := do
  let label := "invalid collector or foreign evidence identity"
  demand (isStorageId env.collectorSid && env.foreignEvidence.1.isHash &&
    isSha256 env.foreignEvidenceSha256) label
  let digest ← textDigest env.foreignEvidence
  demand (digest = env.foreignEvidenceSha256.text) label

def checkRebuild (plan : PlanV2) : Except String Unit := do
  demand (plan.schema = "sharedlvmthin-vm-destroy-executor-plan/v2" && plan.authority = "NONE")
    "input is not an exact v2 plan"
  let rebuilt ← adaptPlan plan.adapterInputs
  let lossless ← same rebuilt (.v2 plan)
  demand lossless "v2 plan failed lossless rebuild"

/-- The one VG name of a plan. -/
def vgNameOf (plan : PlanV2) : Except String String :=
  match (plan.roots.map fun r => PlanAdapter.vgName r.vg).dedup with
  | [name] => do
    demand (plus isNameChar (body name)) "scope has inconsistent VG names"
    return name
  | _ => .error "VM_DESTROY_V3_UNKNOWN: scope has inconsistent VG names"

def physicalOf (plan : PlanV2) : Except String Physical := do
  let scope := plan.adapterInputs.expectedScope
  demand (scope.storageIds ≠ []) "empty scope aliases"
  let name ← vgNameOf plan
  let wwid := lc scope.wwid.text
  demand (plus isLowerHex (body wwid) && plus isUuidChar (body scope.vgUuid.text) &&
    plus isUuidChar (body scope.pvUuid.text)) "invalid physical scope"
  return { vgUuid := scope.vgUuid, pvUuid := scope.pvUuid, wwid := wwid, vgName := name }

def checkPhysicalFresh (seen : List Scoped) (scopeId : String) (physical : Physical) :
    Except String Unit := do
  demand (seen.all fun s => s.entry.scopeId ≠ scopeId) "same physical scope supplied twice"
  demand (seen.all fun s => s.entry.physical.wwid ≠ physical.wwid)
    "same WWID appears in multiple physical scopes"
  demand (seen.all fun s => s.entry.physical.vgUuid.text ≠ physical.vgUuid.text)
    "same VG UUID appears in multiple physical scopes"
  demand (seen.all fun s => s.entry.physical.pvUuid.text ≠ physical.pvUuid.text)
    "same PV UUID appears in multiple physical scopes"

def checkAlias (plan : PlanV2) (physical : Physical) (seen : List Scoped) (earlier : List Scalar)
    (sid : Scalar) : Except String Unit := do
  demand (isStorageId sid && (earlier.all fun s => s.text ≠ sid.text) &&
      seen.all fun s => s.entry.storageIds.all fun s => s.text ≠ sid.text)
    "duplicate or invalid cross-scope storage alias"
  let scfg := (plan.adapterInputs.storecfg.1.get "ids").get sid.text
  demand (scfg.isHash && (scfg.get "type").text = "sharedlvmthin" &&
      (scfg.get "slt-vgname").text = physical.vgName &&
      (scfg.get "slt-expected-vg-uuid").text = physical.vgUuid.text &&
      (scfg.get "slt-expected-pv-uuid").text = physical.pvUuid.text &&
      lc (scfg.get "slt-expected-wwid").text = physical.wwid) "alias physical identity mismatch"

def commonOf (plan : PlanV2) : Except String Common := do
  let scope := plan.adapterInputs.expectedScope
  let storecfgSha256 ← textDigest plan.adapterInputs.storecfg
  return { vmid := plan.vmid
           rawConfig := plan.rawConfig
           configSha256 := plan.configSha256
           parsedConfigSha256 := plan.parsedConfigSha256
           storecfgSha256 := storecfgSha256
           node := scope.node
           bootId := scope.bootId
           scopeConfigSha256 := scope.configSha256 }

/-- `$first //= $common` and the comparison with it. -/
def checkCommon (first : Option Common) (common : Common) : Except String Unit := do
  let shared ← same common (first.getD common)
  demand shared "VM/config/runtime/storecfg differs across scopes"

def checkVolid (aliases : List Scalar) (seen : List Scoped) (earlier : List Scalar) (volid : Scalar) :
    Except String Unit :=
  demand ((aliases.any fun s => s.text = storageOf volid) &&
      (earlier.all fun v => v.text ≠ volid.text) &&
      seen.all fun s => s.entry.volids.all fun v => v.text ≠ volid.text)
    "volume outside scope or duplicated"

def checkMember (scopeId : String) (seen : List Scoped) (earlier : List Member) (m : Member) :
    Except String Unit := do
  demand ((earlier.all fun e => e.id ≠ m.id) &&
      seen.all fun s => s.members.all fun e => e.id ≠ m.id)
    "duplicate cross-scope object/runtime identity"
  demand (m.type = .lvmLv || m.type = .dm) "unknown member type"
  demand ((earlier.all fun e => Scoped.physicalName scopeId e ≠ Scoped.physicalName scopeId m) &&
      seen.all fun s => s.physicalNames.all fun name => name ≠ Scoped.physicalName scopeId m)
    "duplicate physical name in scope"

/-- `"root:$scope_id:$root->{id}"` -/
def globalId (scopeId : String) (id : Scalar) : String := "root:" ++ scopeId ++ ":" ++ id.text

def checkRoot (scopeId : String) (physical : Physical) (seen : List Scoped)
    (earlier : List NormalizedRoot) (root : NormalizedRoot) : Except String Unit := do
  demand (PlanAdapter.vgName root.vg = physical.vgName &&
    PlanAdapter.vgUuid root.vg = physical.vgUuid.text) "root physical identity mismatch"
  demand ((earlier.all fun e => globalId scopeId e.id ≠ globalId scopeId root.id) &&
      seen.all fun s => s.roots.all fun e => e.id ≠ globalId scopeId root.id)
    "duplicate global root identity"
  forEachSeen (checkMember scopeId seen) (earlier.flatMap NormalizedRoot.members) root.members

def globalRoot (scopeId : String) (root : NormalizedRoot) : GlobalRoot :=
  ⟨globalId scopeId root.id, scopeId, root.id, root.kind, root.ownerVmid.text⟩

def globalVolume (scopeId : String) (volume : VolumeLeaves) : GlobalVolume :=
  ⟨volume.volid, scopeId, globalId scopeId volume.rootId⟩

def checkVolumeRoot (plan : PlanV2) (volume : VolumeLeaves) : Except String Unit :=
  demand (plan.roots.any fun r => r.id.text = volume.rootId.text) "volume root outside scope"

def composeScope (first : Option Common) (seen : List Scoped) (env : Envelope) :
    Except String Scoped := do
  checkEvidence env
  let plan := env.executorV2
  checkRebuild plan
  let physical ← physicalOf plan
  let scopeId ← textDigest physical.toPhysicalId
  checkPhysicalFresh seen scopeId physical
  let aliases := sortBy Scalar.text plan.adapterInputs.expectedScope.storageIds
  forEachSeen (checkAlias plan physical seen) [] aliases
  demand (aliases.any fun s => s.text = env.collectorSid.text)
    "collector SID is outside exact scope aliases"
  let common ← commonOf plan
  checkCommon first common
  let volids := sortBy Scalar.text plan.volids
  forEachSeen (checkVolid aliases seen) [] volids
  forEachSeen (checkRoot scopeId physical seen) [] plan.roots
  forEach plan.volumes (checkVolumeRoot plan)
  return { entry :=
             { scopeId := scopeId
               physical := physical
               storageIds := aliases
               collectorSid := env.collectorSid
               volids := volids
               executorV2 := plan
               adapterSha256 := plan.adapterSha256
               storagePlanSha256 := plan.storagePlanSha256
               foreignEvidence := env.foreignEvidence
               foreignEvidenceSha256 := env.foreignEvidenceSha256 }
           common := common
           roots := plan.roots.map (globalRoot scopeId)
           volumes := plan.volumes.map (globalVolume scopeId) }

/-- The loop over the envelopes; `seen` holds the accepted scopes, latest first. -/
def composeScopes (first : Option Common) (seen : List Scoped) :
    List Envelope → Except String (List Scoped)
  | [] => .ok []
  | env :: rest => do
    let accepted ← composeScope first seen env
    let others ← composeScopes (some (first.getD accepted.common)) (accepted :: seen) rest
    return accepted :: others

/-! ## The plan -/

def maxBytes : Nat := 768 * 1024

def bodyOf (first : Common) (accepted : List Scoped) : PlanV3Body where
  schema := "sharedlvmthin-vm-destroy-executor-plan/v3"
  authority := "NONE"
  vmid := first.vmid
  rawConfig := first.rawConfig
  configSha256 := first.configSha256
  parsedConfigSha256 := first.parsedConfigSha256
  storecfgSha256 := first.storecfgSha256
  node := first.node
  bootId := first.bootId
  volids := sortTexts ((accepted.flatMap fun s => s.entry.volids).map Scalar.text)
  scopeIds := sortTexts (accepted.map fun s => s.entry.scopeId)
  scopes := sortBy ScopeEntry.scopeId (accepted.map Scoped.entry)
  roots := sortBy GlobalRoot.id (accepted.flatMap Scoped.roots)
  volumes := sortBy (fun v => v.volid.text) (accepted.flatMap Scoped.volumes)
  objectIds := sortTexts ((accepted.flatMap Scoped.members).map Member.id)

def assemble (first : Common) (accepted : List Scoped) : Except String PlanV3 := do
  let body := bodyOf first accepted
  let planSha256 ← textDigest body
  let output : PlanV3 := { toPlanV3Body := body, planSha256 := planSha256 }
  let text ← (Encodes.value output).canonical
  demand (text.toList.length ≤ maxBytes) "canonical v3 plan exceeds journal budget"
  return output

def compose (scopes : List Envelope) : Except String PlanV3 := do
  let accepted ← composeScopes none [] scopes
  match accepted with
  | [] => .error "VM_DESTROY_V3_UNKNOWN: one or more exact scope envelopes required"
  | first :: _ => assemble first.common accepted

def ScopeEntry.envelope (e : ScopeEntry) : Envelope :=
  ⟨e.collectorSid, e.executorV2, e.foreignEvidence, e.foreignEvidenceSha256⟩

def validate (plan : PlanV3) : Except String PlanV3 := do
  demand (plan.schema = "sharedlvmthin-vm-destroy-executor-plan/v3") "invalid v3 plan"
  let rebuilt ← compose (plan.scopes.map ScopeEntry.envelope)
  let unchanged ← same rebuilt plan
  demand unchanged "v3 plan changed"
  return rebuilt

end SharedLvmThin.Compose
