import SharedLvmThin.StoragePlanAccepted

/-! The storage plan of one VM and the observation that exactly the planned storage is gone.
A plan is diagnostic data: it is rebuilt from its own inventory before it is believed. -/

namespace SharedLvmThin.StoragePlan
open Perl KeyedLists

structure PlannedVolume where
  volid : Scalar
  mode : Scalar
  rootId : Scalar
  persistentObjects : List StorageObject
  runtimeObjects : List Runtime
  completeRootVolumeIds : List Scalar
deriving DecidableEq

structure Baseline where
  roots : List Root
  objects : List StorageObject
  runtimes : List Runtime
  opaqueForeignObjects : Option (List ForeignObject)
deriving DecidableEq

structure PlanBody where
  schema : String
  authority : String
  vmid : String
  scope : Scope
  before : Inventory
  rootIds : List String
  volumes : List PlannedVolume
  foreignBaseline : Baseline
  foreignSha256 : String
deriving DecidableEq

structure Plan extends PlanBody where
  planSha256 : String
deriving DecidableEq

structure Observation where
  schema : String
  authority : String
  result : String
  planSha256 : String
  foreignSha256 : String
  observedSha256 : String
deriving DecidableEq

instance : Encodes PlannedVolume where
  value v := .hash [("complete_root_volume_ids", Encodes.value v.completeRootVolumeIds),
    ("mode", Encodes.value v.mode), ("persistent_objects", Encodes.value v.persistentObjects),
    ("root_id", Encodes.value v.rootId), ("runtime_objects", Encodes.value v.runtimeObjects),
    ("volid", Encodes.value v.volid)]
  plain v := .record (by simp only [List.map]; decide +kernel) (by simp [Encodes.plain])
  inj a b h := by
    cases a
    cases b
    simp_all

instance : Encodes Baseline where
  value b := .hash ([("objects", Encodes.value b.objects)] ++
    optionalField "opaque_foreign_objects" b.opaqueForeignObjects ++
    [("roots", Encodes.value b.roots), ("runtimes", Encodes.value b.runtimes)])
  plain b := by
    cases b.opaqueForeignObjects with
    | none =>
      refine .record ?_ (by simp [optionalField, Encodes.plain])
      simp only [optionalField, List.cons_append, List.nil_append, List.map]
      decide +kernel
    | some foreign =>
      refine .record ?_ (by simp [optionalField, Encodes.plain])
      simp only [optionalField, List.cons_append, List.nil_append, List.map]
      decide +kernel
  inj a b h := by
    obtain ⟨_, _, _, foreign⟩ := a
    obtain ⟨_, _, _, foreign'⟩ := b
    cases foreign <;> cases foreign' <;> simp_all [optionalField]

instance : Encodes PlanBody where
  value p := .hash [("authority", Encodes.value p.authority), ("before", Encodes.value p.before),
    ("foreign_baseline", Encodes.value p.foreignBaseline),
    ("foreign_sha256", Encodes.value p.foreignSha256), ("root_ids", Encodes.value p.rootIds),
    ("schema", Encodes.value p.schema), ("scope", Encodes.value p.scope),
    ("vmid", Encodes.value p.vmid), ("volumes", Encodes.value p.volumes)]
  plain p := .record (by simp only [List.map]; decide +kernel) (by simp [Encodes.plain])
  inj a b h := by
    cases a
    cases b
    simp_all

instance : Encodes Plan where
  value p := .hash [("authority", Encodes.value p.authority), ("before", Encodes.value p.before),
    ("foreign_baseline", Encodes.value p.foreignBaseline),
    ("foreign_sha256", Encodes.value p.foreignSha256),
    ("plan_sha256", Encodes.value p.planSha256), ("root_ids", Encodes.value p.rootIds),
    ("schema", Encodes.value p.schema), ("scope", Encodes.value p.scope),
    ("vmid", Encodes.value p.vmid), ("volumes", Encodes.value p.volumes)]
  plain p := .record (by simp only [List.map]; decide +kernel) (by simp [Encodes.plain])
  inj a b h := by
    obtain ⟨⟨⟩, _⟩ := a
    obtain ⟨⟨⟩, _⟩ := b
    simp_all

/-! ## Building a plan -/

namespace Inventory
variable (before : Inventory) (vmid : String)

def owned : List Root := before.roots.filter fun r => r.ownerVmid.text = vmid

def ownedVolumes : List Scalar := (before.owned vmid).flatMap Root.volumeIds

/-- `%selected` -/
def selected : List String := (before.owned vmid).map fun r => r.id.text

/-- Shared Thin pool members and snapshots belong to the root closure, not just to one disk. -/
def plannedVolume (root : Root) (volume : Scalar) : PlannedVolume where
  volid := volume
  mode := root.mode
  rootId := root.id
  persistentObjects := before.objects.filter fun o => o.rootId.text = root.id.text
  runtimeObjects := before.runtimes.filter fun r => r.rootId.text = root.id.text
  completeRootVolumeIds := root.volumeIds

def plannedVolumes : List PlannedVolume :=
  (before.owned vmid).flatMap fun root => root.volumeIds.map (before.plannedVolume root)

def foreign : Baseline where
  roots := before.roots.filter fun r => r.id.text ∉ before.selected vmid
  objects := before.objects.filter fun o => o.rootId.text ∉ before.selected vmid
  runtimes := before.runtimes.filter fun r => r.rootId.text ∉ before.selected vmid
  opaqueForeignObjects := before.opaqueForeignObjects

def planBody (foreignSha256 : String) : PlanBody where
  schema := "sharedlvmthin-vm-destroy-storage-plan/v1"
  authority := "NONE"
  vmid := vmid
  scope := before.scope
  before := before
  rootIds := sortBy id (before.selected vmid).dedup
  volumes := sortBy (fun v => v.volid.text) (before.plannedVolumes vmid)
  foreignBaseline := before.foreign vmid
  foreignSha256 := foreignSha256

def derivePlan : Except String Plan := do
  let foreignSha256 ← jsonDigest (before.foreign vmid)
  let body := before.planBody vmid foreignSha256
  let planSha256 ← jsonDigest body
  return { toPlanBody := body, planSha256 := planSha256 }

end Inventory

/-- `_build` -/
def build (before : Inventory) (vmid : String) (requested : List Scalar) : Except String Plan := do
  required (isVmid vmid) "invalid VMID"
  checkIds requested "requested volumes"
  required (requested ≠ []) "empty destroy plan"
  let exact ← same (sortBy Scalar.text (before.ownedVolumes vmid)) (sortBy Scalar.text requested)
  required exact "requested set omits/adds owned volume"
  before.derivePlan vmid

/-- `_inventory`: what the collector returned, or its death. -/
def inventory (collected : Except String Inventory) : Except String Inventory :=
  match collected with
  | .error _ => .error "VM_DESTROY_STORAGE_UNKNOWN: scoped collector failed"
  | .ok raw => validateInventory raw

def plan (collected : Except String Inventory) (vmid : String) (volumes : List Scalar) :
    Except String Plan := do
  let before ← inventory collected
  build before vmid volumes

/-! ## Observing absence -/

def Inventory.remaining (after : Inventory) : Baseline :=
  ⟨after.roots, after.objects, after.runtimes, after.opaqueForeignObjects⟩

def checkObjectGone (planned : List StorageObject) (object : StorageObject) : Except String Unit :=
  required (planned.all fun o => o.id.text ≠ object.id.text && o.uuid.text ≠ object.uuid.text)
    "planned object remains, name reused or UUID alias exists"

def checkRuntimeGone (planned : List Runtime) (runtime : Runtime) : Except String Unit :=
  required (planned.all fun r => r.id.text ≠ runtime.id.text && r.dmUuid.text ≠ runtime.dmUuid.text)
    "planned runtime remains, name reused or DM UUID alias exists"

/-- The part of `observe` after the plan was rebuilt. -/
def observeAfter (before : Inventory) (plan : Plan) (after : Inventory) :
    Except String Observation := do
  let sameScope ← same plan.scope after.scope
  required sameScope "observation scope/boot/config drift"
  forEach after.objects
    (checkObjectGone (before.objects.filter fun o => o.rootId.text ∈ plan.rootIds))
  forEach after.runtimes
    (checkRuntimeGone (before.runtimes.filter fun r => r.rootId.text ∈ plan.rootIds))
  let sameBaseline ← same after.remaining plan.foreignBaseline
  required sameBaseline "foreign baseline drift or extra object"
  let observedSha256 ← jsonDigest after
  return { schema := "sharedlvmthin-vm-destroy-storage-observation/v1"
           authority := "NONE"
           result := "EXACT_PLANNED_STORAGE_ABSENT"
           planSha256 := plan.planSha256
           foreignSha256 := plan.foreignSha256
           observedSha256 := observedSha256 }

def observe (collected : Except String Inventory) (plan : Plan) : Except String Observation := do
  let before ← validateInventory plan.before
  let rebuilt ← build before plan.vmid (plan.volumes.map PlannedVolume.volid)
  let unchanged ← same plan rebuilt
  required unchanged "plan digest/schema/derived closure changed"
  let after ← inventory collected
  observeAfter before plan after

end SharedLvmThin.StoragePlan
