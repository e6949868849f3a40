import SharedLvmThin.Sha1
import SharedLvmThin.StoragePlan

/-! The translation of a storage plan into an executor plan. Bindings give every planned
member its physical name and UUID; version 1 refuses shared roots, version 2 stores each root
closure once. The result is diagnostic data and carries its inputs. -/

namespace SharedLvmThin.PlanAdapter
open Perl KeyedLists StoragePlan

structure Binding where
  name : Scalar
  uuid : Scalar
deriving DecidableEq

structure Bindings where
  objects : Dict Binding
  runtimes : Dict Binding

structure Input where
  storagePlan : Plan
  rawConfig : String
  lockedConfig : Json
  storecfg : Json
  bindings : Bindings
  expectedScope : Scope
  planVersion : Option Scalar

inductive MemberType
  | lvmLv
  | dm
deriving DecidableEq

def MemberType.text : MemberType → String
  | lvmLv => "lvm-lv"
  | dm => "dm"

/-- What only a logical volume carries over from its object. -/
structure Details where
  kind : Scalar
  volid : Scalar
  originUuid : Scalar
deriving DecidableEq

structure Member where
  type : MemberType
  id : String
  name : Scalar
  uuid : Scalar
  sourceId : Scalar
  details : Option Details
deriving DecidableEq

structure VgIdentity where
  name : Scalar
  uuid : Scalar
deriving DecidableEq

structure NormalizedRoot where
  id : Scalar
  kind : Scalar
  phase : Scalar
  ownerVmid : Scalar
  namespaceName : Scalar
  volids : List Scalar
  vg : Option VgIdentity
  objects : List Member
  runtimeIds : List Member
deriving DecidableEq

structure VolumeLeaves where
  volid : Scalar
  rootId : Scalar
  objectIds : List String
deriving DecidableEq

structure PlanV2Body where
  schema : String
  authority : String
  vmid : String
  rawConfig : String
  configSha256 : String
  parsedConfigSha256 : String
  volids : List Scalar
  volumes : List VolumeLeaves
  roots : List NormalizedRoot
  objectIds : List String
  storagePlanSha256 : String
  adapterInputs : Input

structure PlanV2 extends PlanV2Body where
  adapterSha256 : String

/-- A member of a version 1 plan belongs to its volume. -/
structure VolumeMember where
  type : MemberType
  id : String
  name : Scalar
  uuid : Scalar
  volid : Scalar
deriving DecidableEq

structure VolumePlan where
  volid : Scalar
  kind : Scalar
  root : VgIdentity
  objects : List VolumeMember
  runtimeIds : List VolumeMember
deriving DecidableEq

structure PlanV1Body where
  schema : String
  authority : String
  vmid : String
  rawConfig : String
  configSha256 : String
  parsedConfigSha256 : String
  volids : List Scalar
  volumes : List VolumePlan
  objectIds : List String
  storagePlanSha256 : String
  adapterInputs : Input

structure PlanV1 extends PlanV1Body where
  adapterSha256 : String

inductive ExecutorPlan
  | v1 (plan : PlanV1)
  | v2 (plan : PlanV2)

/-! ## JSON forms -/

instance : Encodes Binding where
  value b := .hash [("name", Encodes.value b.name), ("uuid", Encodes.value b.uuid)]
  plain b := .record (by simp only [List.map]; decide +kernel) (by simp [Encodes.plain])
  inj a b h := by
    cases a
    cases b
    simp_all

instance : Encodes Bindings where
  value b := .hash [("objects", Encodes.value b.objects), ("runtimes", Encodes.value b.runtimes)]
  plain b := .record (by simp only [List.map]; decide +kernel) (by simp [Encodes.plain])
  inj a b h := by
    cases a
    cases b
    simp_all

instance : Encodes Input where
  value i := .hash ([("bindings", Encodes.value i.bindings),
      ("expected_scope", Encodes.value i.expectedScope),
      ("locked_config", Encodes.value i.lockedConfig)] ++
    optionalField "plan_version" i.planVersion ++
    [("raw_config", Encodes.value i.rawConfig), ("storage_plan", Encodes.value i.storagePlan),
      ("storecfg", Encodes.value i.storecfg)])
  plain i := by
    cases i.planVersion with
    | none =>
      refine .record ?_ (by simp [optionalField, Encodes.plain])
      simp only [optionalField, List.cons_append, List.nil_append, List.map]
      decide +kernel
    | some version =>
      refine .record ?_ (by simp [optionalField, Encodes.plain])
      simp only [optionalField, List.cons_append, List.nil_append, List.map]
      decide +kernel
  inj a b h := by
    obtain ⟨_, _, _, _, _, _, version⟩ := a
    obtain ⟨_, _, _, _, _, _, version'⟩ := b
    cases version <;> cases version' <;> simp_all [optionalField]

instance : Encodes MemberType where
  value t := .str t.text
  plain t := .str t.text
  inj a b h := by
    have htext := Value.str.inj h
    revert htext
    cases a <;> cases b <;> decide

/-- A field that only logical volumes have. -/
def Details.fields (details : Option Details) (field : Details → Scalar) (name : String) :
    List (String × Value) := optionalField name (details.map field)

instance : Encodes Member where
  value m := .hash ([("id", Encodes.value m.id)] ++ Details.fields m.details Details.kind "kind" ++
    [("name", Encodes.value m.name)] ++
    Details.fields m.details Details.originUuid "origin_uuid" ++
    [("source_id", Encodes.value m.sourceId), ("type", Encodes.value m.type),
      ("uuid", Encodes.value m.uuid)] ++ Details.fields m.details Details.volid "volid")
  plain m := by
    cases m.details with
    | none =>
      refine .record ?_ (by simp [Details.fields, optionalField, Encodes.plain])
      simp only [Details.fields, optionalField, Option.map_none, List.cons_append, List.nil_append,
        List.append_nil, List.map]
      decide +kernel
    | some details =>
      refine .record ?_ (by simp [Details.fields, optionalField, Encodes.plain])
      simp only [Details.fields, optionalField, Option.map_some, List.cons_append, List.nil_append,
        List.map]
      decide +kernel
  inj a b h := by
    obtain ⟨_, _, _, _, _, details⟩ := a
    obtain ⟨_, _, _, _, _, details'⟩ := b
    cases details with
    | none => cases details' <;> simp_all [Details.fields, optionalField]
    | some d =>
      cases details' with
      | none => simp_all [Details.fields, optionalField]
      | some d' =>
        cases d
        cases d'
        simp_all [Details.fields, optionalField]

instance : Encodes VgIdentity where
  value v := .hash [("name", Encodes.value v.name), ("type", Encodes.value "lvm-vg"),
    ("uuid", Encodes.value v.uuid)]
  plain v := .record (by simp only [List.map]; decide +kernel) (by simp [Encodes.plain])
  inj a b h := by
    cases a
    cases b
    simp_all

instance : Encodes NormalizedRoot where
  value r := .hash ([("id", Encodes.value r.id), ("kind", Encodes.value r.kind),
      ("namespace", Encodes.value r.namespaceName), ("objects", Encodes.value r.objects),
      ("owner_vmid", Encodes.value r.ownerVmid), ("phase", Encodes.value r.phase),
      ("runtime_ids", Encodes.value r.runtimeIds)] ++ optionalField "vg" r.vg ++
    [("volids", Encodes.value r.volids)])
  plain r := by
    cases r.vg with
    | none =>
      refine .record ?_ (by simp [optionalField, Encodes.plain])
      simp only [optionalField, List.cons_append, List.nil_append, List.map]
      decide +kernel
    | some vg =>
      refine .record ?_ (by simp [optionalField, Encodes.plain])
      simp only [optionalField, List.cons_append, List.nil_append, List.map]
      decide +kernel
  inj a b h := by
    obtain ⟨_, _, _, _, _, _, vg, _, _⟩ := a
    obtain ⟨_, _, _, _, _, _, vg', _, _⟩ := b
    cases vg <;> cases vg' <;> simp_all [optionalField]

instance : Encodes VolumeLeaves where
  value v := .hash [("object_ids", Encodes.value v.objectIds), ("root_id", Encodes.value v.rootId),
    ("volid", Encodes.value v.volid)]
  plain v := .record (by simp only [List.map]; decide +kernel) (by simp [Encodes.plain])
  inj a b h := by
    cases a
    cases b
    simp_all

def PlanV2Body.fields (p : PlanV2Body) : List (String × Value) :=
  [("authority", Encodes.value p.authority), ("config_sha256", Encodes.value p.configSha256),
    ("object_ids", Encodes.value p.objectIds),
    ("parsed_config_sha256", Encodes.value p.parsedConfigSha256),
    ("raw_config", Encodes.value p.rawConfig), ("roots", Encodes.value p.roots),
    ("schema", Encodes.value p.schema),
    ("storage_plan_sha256", Encodes.value p.storagePlanSha256),
    ("vmid", Encodes.value p.vmid), ("volids", Encodes.value p.volids),
    ("volumes", Encodes.value p.volumes)]

instance : Encodes PlanV2Body where
  value p := .hash (("adapter_inputs", Encodes.value p.adapterInputs) :: p.fields)
  plain p := .record (by simp only [PlanV2Body.fields, List.map]; decide +kernel)
    (by simp [PlanV2Body.fields, Encodes.plain])
  inj a b h := by
    cases a
    cases b
    simp_all [PlanV2Body.fields]

instance : Encodes PlanV2 where
  value p := .hash (("adapter_inputs", Encodes.value p.adapterInputs) ::
    ("adapter_sha256", Encodes.value p.adapterSha256) :: p.fields)
  plain p := .record (by simp only [PlanV2Body.fields, List.map]; decide +kernel)
    (by simp [PlanV2Body.fields, Encodes.plain])
  inj a b h := by
    obtain ⟨⟨⟩, _⟩ := a
    obtain ⟨⟨⟩, _⟩ := b
    simp_all [PlanV2Body.fields]

instance : Encodes VolumeMember where
  value m := .hash [("id", Encodes.value m.id), ("name", Encodes.value m.name),
    ("type", Encodes.value m.type), ("uuid", Encodes.value m.uuid),
    ("volid", Encodes.value m.volid)]
  plain m := .record (by simp only [List.map]; decide +kernel) (by simp [Encodes.plain])
  inj a b h := by
    cases a
    cases b
    simp_all

instance : Encodes VolumePlan where
  value v := .hash [("kind", Encodes.value v.kind), ("objects", Encodes.value v.objects),
    ("root", Encodes.value v.root), ("runtime_ids", Encodes.value v.runtimeIds),
    ("volid", Encodes.value v.volid)]
  plain v := .record (by simp only [List.map]; decide +kernel) (by simp [Encodes.plain])
  inj a b h := by
    cases a
    cases b
    simp_all

def PlanV1Body.fields (p : PlanV1Body) : List (String × Value) :=
  [("authority", Encodes.value p.authority), ("config_sha256", Encodes.value p.configSha256),
    ("object_ids", Encodes.value p.objectIds),
    ("parsed_config_sha256", Encodes.value p.parsedConfigSha256),
    ("raw_config", Encodes.value p.rawConfig), ("schema", Encodes.value p.schema),
    ("storage_plan_sha256", Encodes.value p.storagePlanSha256),
    ("vmid", Encodes.value p.vmid), ("volids", Encodes.value p.volids),
    ("volumes", Encodes.value p.volumes)]

instance : Encodes PlanV1Body where
  value p := .hash (("adapter_inputs", Encodes.value p.adapterInputs) :: p.fields)
  plain p := .record (by simp only [PlanV1Body.fields, List.map]; decide +kernel)
    (by simp [PlanV1Body.fields, Encodes.plain])
  inj a b h := by
    cases a
    cases b
    simp_all [PlanV1Body.fields]

instance : Encodes PlanV1 where
  value p := .hash (("adapter_inputs", Encodes.value p.adapterInputs) ::
    ("adapter_sha256", Encodes.value p.adapterSha256) :: p.fields)
  plain p := .record (by simp only [PlanV1Body.fields, List.map]; decide +kernel)
    (by simp [PlanV1Body.fields, Encodes.plain])
  inj a b h := by
    obtain ⟨⟨⟩, _⟩ := a
    obtain ⟨⟨⟩, _⟩ := b
    simp_all [PlanV1Body.fields]

instance : Encodes ExecutorPlan where
  value
    | .v1 p => Encodes.value p
    | .v2 p => Encodes.value p
  plain
    | .v1 p => Encodes.plain p
    | .v2 p => Encodes.plain p
  inj a b h := by
    cases a with
    | v1 p =>
      cases b with
      | v1 q => exact congrArg _ (Encodes.inj p q h)
      | v2 q => simp [Encodes.value, PlanV1Body.fields, PlanV2Body.fields] at h
    | v2 p =>
      cases b with
      | v1 q => simp [Encodes.value, PlanV1Body.fields, PlanV2Body.fields] at h
      | v2 q => exact congrArg _ (Encodes.inj p q h)

/-! ## Checks -/

/-- `_need` -/
def need (holds : Bool) (label : String) : Except String Unit :=
  dieIf (!holds) ("VM_DESTROY_ADAPTER_UNKNOWN: " ++ label)

@[simp] theorem need_eq_ok {holds : Bool} {label : String} {u : Unit} :
    need holds label = .ok u ↔ holds = true := by
  simp [need]

@[simp] theorem same_need_eq_ok {α β : Type} [Encodes α] {a b : α} {label : String}
    {next : Except String β} {r : β} :
    (same a b >>= fun answer => need answer label >>= fun _ => next) = .ok r ↔
      a = b ∧ next = .ok r := by
  rw [same_bind_eq_ok (by simp [need, dieIf, bind, Except.bind])]
  simp

abbrev sortTexts (texts : List String) : List String := sortBy id texts

/-- `(split /:/, $volid, 2)[0]` -/
def storageOf (volid : Scalar) : String := String.ofList (volid.text.toList.takeWhile (· ≠ ':'))

def isNameChar (c : Char) : Bool := c.isAlphanum || c ∈ ['+', '_', '.', '-']

def isUuidChar (c : Char) : Bool := c.isAlphanum || c = '-'

/-- The volume group a volume lies in, by its storage configuration. -/
def vgOf (input : Input) (volid : Scalar) : Except String VgIdentity := do
  let scfg := (input.storecfg.1.get "ids").get (storageOf volid)
  need (scfg.isHash && (scfg.get "type").text = "sharedlvmthin") "unknown storage"
  let scope := input.storagePlan.scope
  need ((scfg.get "slt-expected-vg-uuid").text = scope.vgUuid.text) "storage scope identity mismatch"
  need ((scfg.get "slt-expected-pv-uuid").text = scope.pvUuid.text) "storage scope identity mismatch"
  need ((scfg.get "slt-expected-wwid").text = scope.wwid.text) "storage scope identity mismatch"
  let vg := Scalar.ofValue (scfg.get "slt-vgname")
  need (plus isNameChar vg.text) "VG name missing"
  return ⟨vg, scope.vgUuid⟩

/-- A member of the inventory as both groups of the loop see it. -/
structure Source where
  id : Scalar
  uuid : Scalar
  details : Option Details

def StorageObject.source (o : StorageObject) : Source :=
  ⟨o.id, o.uuid, some ⟨o.kind, o.volumeId, o.originUuid⟩⟩

def Runtime.source (r : Runtime) : Source := ⟨r.id, r.dmUuid, none⟩

/-- The keys of `%seen` and `%names`. -/
structure PhysicalKey where
  id : String
  name : String
deriving DecidableEq

def memberId (type : MemberType) (vgUuid uuid : String) : String :=
  match type with
  | .lvmLv => "lvm:" ++ vgUuid ++ ":" ++ uuid
  | .dm => "dm:" ++ uuid

def nameKey (type : MemberType) (vgName name : String) : String :=
  type.text ++ ":" ++ vgName ++ ":" ++ name

def findBinding (bindings : Dict Binding) (source : Source) : Except String Binding :=
  match bindings.get? source.id.text with
  | none => .error "VM_DESTROY_ADAPTER_UNKNOWN: missing or inconsistent physical name/UUID binding"
  | some binding => do
    need (plus isNameChar (body binding.name.text) && plus isUuidChar (body binding.uuid.text) &&
        binding.uuid.text = source.uuid.text) "missing or inconsistent physical name/UUID binding"
    return binding

def checkFresh (seen : List PhysicalKey) (key : PhysicalKey) : Except String Unit :=
  need (seen.all fun k => k.id ≠ key.id && k.name ≠ key.name) "duplicate physical identity"

/-! ## Version 2 -/

section
variable (vgName vgUuid : String) (type : MemberType)

def Member.key (m : Member) : PhysicalKey := ⟨m.id, nameKey m.type vgName m.name.text⟩

def bindMember (bindings : Dict Binding) (seen : List PhysicalKey) (source : Source) :
    Except String Member := do
  let binding ← findBinding bindings source
  let member : Member := ⟨type, memberId type vgUuid binding.uuid.text, binding.name, binding.uuid,
    source.id, source.details⟩
  checkFresh seen (member.key vgName)
  return member

def bindMembers (bindings : Dict Binding) (seen : List PhysicalKey) (sources : List Source) :
    Except String (List Member) :=
  mapSeen (Member.key vgName) (bindMember vgName vgUuid type bindings) seen sources

end

/-- Every volume of a root names the same volume group. -/
def rootVg (input : Input) : Option VgIdentity → List Scalar → Except String (Option VgIdentity)
  | vg, [] => .ok vg
  | none, volid :: rest => do
    let identity ← vgOf input volid
    rootVg input (some identity) rest
  | some vg, volid :: rest => do
    let identity ← vgOf input volid
    let consistent ← same vg identity
    need consistent "root spans inconsistent VG aliases"
    rootVg input (some identity) rest

def vgName (vg : Option VgIdentity) : String := (vg.map fun v => v.name.text).getD ""

def vgUuid (vg : Option VgIdentity) : String := (vg.map fun v => v.uuid.text).getD ""

namespace NormalizedRoot

def members (r : NormalizedRoot) : List Member := r.objects ++ r.runtimeIds

def keys (r : NormalizedRoot) : List PhysicalKey := r.members.map (Member.key (vgName r.vg))

/-- The leaf members of one volume. -/
def leaves (r : NormalizedRoot) (volid : Scalar) : List String :=
  sortTexts ((r.objects.filter fun m => m.details.any fun d => d.volid.text = volid.text).map
    Member.id)

def volumes (r : NormalizedRoot) : List VolumeLeaves :=
  r.volids.map fun volid => ⟨volid, r.id, r.leaves volid⟩

end NormalizedRoot

def normalizeRoot (input : Input) (seen : List PhysicalKey) (root : Root) :
    Except String NormalizedRoot := do
  let before := input.storagePlan.before
  let vg ← rootVg input none root.volumeIds
  let objects ← bindMembers (vgName vg) (vgUuid vg) .lvmLv input.bindings.objects seen
    ((before.objects.filter fun o => o.rootId.text = root.id.text).map StorageObject.source)
  let runtimeIds ← bindMembers (vgName vg) (vgUuid vg) .dm input.bindings.runtimes
    (objects.map (Member.key (vgName vg)) ++ seen)
    ((before.runtimes.filter fun r => r.rootId.text = root.id.text).map Runtime.source)
  let normalized : NormalizedRoot :=
    ⟨root.id, root.mode, root.phase, root.ownerVmid, root.namespaceName, root.volumeIds, vg, objects,
      runtimeIds⟩
  forEach normalized.volids fun volid =>
    need (normalized.leaves volid ≠ []) "volume has no exact leaf members"
  return normalized

/-- The loop over the selected roots. -/
def normalizeRoots (input : Input) (seen : List PhysicalKey) :
    List Root → Except String (List NormalizedRoot)
  | [] => .ok []
  | root :: rest => do
    let normalized ← normalizeRoot input seen root
    let others ← normalizeRoots input (normalized.keys ++ seen) rest
    return normalized :: others

def selectedRoots (plan : Plan) : List Root :=
  plan.before.roots.filter fun r => r.id.text ∈ plan.rootIds

/-- `sort keys` of the source ids that were bound. -/
def boundKeys (members : List Member) : List String :=
  sortTexts (members.map fun m => m.sourceId.text).dedup

def volumesOf (roots : List NormalizedRoot) : List VolumeLeaves :=
  roots.flatMap NormalizedRoot.volumes

def objectIdsOf (roots : List NormalizedRoot) : List String :=
  (roots.flatMap NormalizedRoot.members).map Member.id

/-- `_normalized_roots` -/
def normalizedRoots (input : Input) : Except String PlanV2 := do
  let roots ← normalizeRoots input [] (selectedRoots input.storagePlan)
  let objectsComplete ← same (boundKeys (roots.flatMap NormalizedRoot.objects))
    (sortTexts input.bindings.objects.keys)
  let runtimesComplete ← same (boundKeys (roots.flatMap NormalizedRoot.runtimeIds))
    (sortTexts input.bindings.runtimes.keys)
  need (objectsComplete && runtimesComplete) "extra or omitted bindings"
  let configSha256 ← Sha256.sha256Hex input.rawConfig
  let parsedConfigSha256 ← textDigest input.lockedConfig
  let body : PlanV2Body :=
    { schema := "sharedlvmthin-vm-destroy-executor-plan/v2"
      authority := "NONE"
      vmid := input.storagePlan.vmid
      rawConfig := input.rawConfig
      configSha256 := configSha256
      parsedConfigSha256 := parsedConfigSha256
      volids := sortBy Scalar.text ((volumesOf roots).map VolumeLeaves.volid)
      volumes := sortBy (fun v => v.volid.text) (volumesOf roots)
      roots := roots
      objectIds := sortTexts (objectIdsOf roots)
      storagePlanSha256 := input.storagePlan.planSha256
      adapterInputs := input }
  let adapterSha256 ← textDigest body
  return { toPlanV2Body := body, adapterSha256 := adapterSha256 }

/-! ## Version 1 -/

def VolumeMember.key (vgName : String) (m : VolumeMember) : PhysicalKey :=
  ⟨m.id, nameKey m.type vgName m.name.text⟩

def bindVolumeMember (vg : VgIdentity) (type : MemberType) (volid : Scalar) (bindings : Dict Binding)
    (seen : List PhysicalKey) (source : Source) : Except String VolumeMember := do
  let binding ← findBinding bindings source
  need (source.details.all fun d => d.volid.text = "" || d.volid.text = volid.text)
    "foreign member volume binding"
  let member : VolumeMember :=
    ⟨type, memberId type vg.uuid.text binding.uuid.text, binding.name, binding.uuid, volid⟩
  checkFresh seen (member.key vg.name.text)
  return member

def adaptVolume (input : Input) (seen : List PhysicalKey) (volume : PlannedVolume) :
    Except String VolumePlan := do
  need (volume.completeRootVolumeIds.map Scalar.text = [volume.volid.text])
    "shared multi-volume root unsupported"
  let vg ← vgOf input volume.volid
  let key := VolumeMember.key vg.name.text
  let objects ← mapSeen key (bindVolumeMember vg .lvmLv volume.volid input.bindings.objects) seen
    (volume.persistentObjects.map StorageObject.source)
  let runtimeIds ← mapSeen key (bindVolumeMember vg .dm volume.volid input.bindings.runtimes)
    (objects.map key ++ seen) (volume.runtimeObjects.map Runtime.source)
  return ⟨volume.volid, volume.mode, vg, objects, runtimeIds⟩

def VolumePlan.members (v : VolumePlan) : List VolumeMember := v.objects ++ v.runtimeIds

def adaptVolumes (input : Input) (seen : List PhysicalKey) :
    List PlannedVolume → Except String (List VolumePlan)
  | [] => .ok []
  | volume :: rest => do
    let adapted ← adaptVolume input seen volume
    let others ← adaptVolumes input
      (adapted.members.map (VolumeMember.key adapted.root.name.text) ++ seen) rest
    return adapted :: others

def singleRoots (input : Input) : Except String PlanV1 := do
  let planned := input.storagePlan.volumes
  let volumes ← adaptVolumes input [] planned
  let objectsComplete ← same
    (sortTexts ((planned.flatMap PlannedVolume.persistentObjects).map fun o => o.id.text).dedup)
    (sortTexts input.bindings.objects.keys)
  let runtimesComplete ← same
    (sortTexts ((planned.flatMap PlannedVolume.runtimeObjects).map fun r => r.id.text).dedup)
    (sortTexts input.bindings.runtimes.keys)
  need (objectsComplete && runtimesComplete) "extra or omitted bindings"
  let configSha256 ← Sha256.sha256Hex input.rawConfig
  let parsedConfigSha256 ← textDigest input.lockedConfig
  let body : PlanV1Body :=
    { schema := "sharedlvmthin-vm-destroy-executor-plan/v1"
      authority := "NONE"
      vmid := input.storagePlan.vmid
      rawConfig := input.rawConfig
      configSha256 := configSha256
      parsedConfigSha256 := parsedConfigSha256
      volids := sortBy Scalar.text (volumes.map VolumePlan.volid)
      volumes := volumes
      objectIds := sortTexts ((volumes.flatMap VolumePlan.members).map VolumeMember.id)
      storagePlanSha256 := input.storagePlan.planSha256
      adapterInputs := input }
  let adapterSha256 ← textDigest body
  return { toPlanV1Body := body, adapterSha256 := adapterSha256 }

/-! ## Entry points -/

def checkInput (input : Input) : Except String Unit := do
  let source := input.storagePlan
  need (source.authority = "NONE") "source authority must be NONE"
  let rebuilt ← plan (.ok source.before) source.vmid (source.volumes.map PlannedVolume.volid)
  let unchanged ← same rebuilt source
  need unchanged "source plan changed"
  let pinned ← same source.scope input.expectedScope
  need pinned "scope not independently pinned"
  let length := input.rawConfig.toList.length
  let conf := input.lockedConfig.1
  let digest ← Sha1.sha1Hex input.rawConfig
  need (length ≠ 0 && length ≤ 4 * 1024 * 1024 && conf.isHash && (conf.get "digest").text = digest)
    "raw/locked digest mismatch"
  let cfg := input.storecfg.1
  need (cfg.isHash && (cfg.get "ids").isHash) "storage configuration missing"

def adaptPlan (input : Input) : Except String ExecutorPlan := do
  let version := (input.planVersion.map Scalar.text).getD "1"
  need (!(input.planVersion.any Scalar.isRef) && (version = "1" || version = "2"))
    "unsupported executor plan version"
  checkInput input
  if version = "2" then
    let adapted ← normalizedRoots input
    return .v2 adapted
  else
    let adapted ← singleRoots input
    return .v1 adapted

structure Proof where
  authority : String
  status : String
  foreignUnchanged : String
  objectIds : List String
  sourceObservation : Observation
  adapterSha256 : String

def observe (collected : Except String Inventory) (adapted : PlanV2) : Except String Proof := do
  let rebuilt ← adaptPlan adapted.adapterInputs
  let unchanged ← same rebuilt (.v2 adapted)
  need unchanged "adapted plan changed"
  let proof ← StoragePlan.observe collected adapted.adapterInputs.storagePlan
  need (proof.authority = "NONE" && proof.result = "EXACT_PLANNED_STORAGE_ABSENT" &&
      proof.planSha256 = adapted.storagePlanSha256) "observation does not bind source plan"
  return { authority := "NONE"
           status := "ABSENT"
           foreignUnchanged := "YES"
           objectIds := adapted.objectIds
           sourceObservation := proof
           adapterSha256 := adapted.adapterSha256 }

end SharedLvmThin.PlanAdapter
