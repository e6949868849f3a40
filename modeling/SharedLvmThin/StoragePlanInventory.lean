import SharedLvmThin.KeyedLists
import SharedLvmThin.PerlJson

/-! The scoped storage inventory of guarded VM destroy and its validation. A document is given
with its records and arrays in place; a scalar remembers how JSON prints it, since data is
compared through its canonical JSON. -/

namespace SharedLvmThin.StoragePlan
open Perl KeyedLists

structure Scope where
  node : Scalar
  bootId : Scalar
  vgUuid : Scalar
  pvUuid : Scalar
  wwid : Scalar
  storageIds : List Scalar
  configSha256 : Scalar
deriving DecidableEq

structure Root where
  id : Scalar
  mode : Scalar
  phase : Scalar
  ownerVmid : Scalar
  namespaceName : Scalar
  objectIds : List Scalar
  runtimeIds : List Scalar
  volumeIds : List Scalar
deriving DecidableEq

structure StorageObject where
  id : Scalar
  uuid : Scalar
  rootId : Scalar
  kind : Scalar
  ownerVmid : Scalar
  namespaceName : Scalar
  volumeId : Scalar
  originUuid : Scalar
deriving DecidableEq

structure Runtime where
  id : Scalar
  dmUuid : Scalar
  rootId : Scalar
deriving DecidableEq

structure ForeignObject where
  type : Scalar
  name : Scalar
  uuid : Scalar
  scopeUuid : Scalar
  evidenceSha256 : Scalar
deriving DecidableEq

structure Inventory where
  schema : Scalar
  complete : Scalar
  scope : Scope
  roots : List Root
  objects : List StorageObject
  runtimes : List Runtime
  opaqueForeignObjects : Option (List ForeignObject)
deriving DecidableEq

/-! ## JSON forms -/

instance : Encodes Scope where
  value s := .hash [("boot_id", Encodes.value s.bootId),
    ("config_sha256", Encodes.value s.configSha256), ("node", Encodes.value s.node),
    ("pv_uuid", Encodes.value s.pvUuid), ("storage_ids", Encodes.value s.storageIds),
    ("vg_uuid", Encodes.value s.vgUuid), ("wwid", Encodes.value s.wwid)]
  plain s := .record (by simp only [List.map]; decide +kernel) (by simp [Encodes.plain])
  inj a b h := by
    cases a
    cases b
    simp_all

instance : Encodes Root where
  value r := .hash [("id", Encodes.value r.id), ("mode", Encodes.value r.mode),
    ("namespace", Encodes.value r.namespaceName), ("object_ids", Encodes.value r.objectIds),
    ("owner_vmid", Encodes.value r.ownerVmid), ("phase", Encodes.value r.phase),
    ("runtime_ids", Encodes.value r.runtimeIds), ("volume_ids", Encodes.value r.volumeIds)]
  plain r := .record (by simp only [List.map]; decide +kernel) (by simp [Encodes.plain])
  inj a b h := by
    cases a
    cases b
    simp_all

instance : Encodes StorageObject where
  value o := .hash [("id", Encodes.value o.id), ("kind", Encodes.value o.kind),
    ("namespace", Encodes.value o.namespaceName), ("origin_uuid", Encodes.value o.originUuid),
    ("owner_vmid", Encodes.value o.ownerVmid), ("root_id", Encodes.value o.rootId),
    ("uuid", Encodes.value o.uuid), ("volume_id", Encodes.value o.volumeId)]
  plain o := .record (by simp only [List.map]; decide +kernel) (by simp [Encodes.plain])
  inj a b h := by
    cases a
    cases b
    simp_all

instance : Encodes Runtime where
  value r := .hash [("dm_uuid", Encodes.value r.dmUuid), ("id", Encodes.value r.id),
    ("root_id", Encodes.value r.rootId)]
  plain r := .record (by simp only [List.map]; decide +kernel) (by simp [Encodes.plain])
  inj a b h := by
    cases a
    cases b
    simp_all

instance : Encodes ForeignObject where
  value f := .hash [("evidence_sha256", Encodes.value f.evidenceSha256),
    ("name", Encodes.value f.name), ("scope_uuid", Encodes.value f.scopeUuid),
    ("type", Encodes.value f.type), ("uuid", Encodes.value f.uuid)]
  plain f := .record (by simp only [List.map]; decide +kernel) (by simp [Encodes.plain])
  inj a b h := by
    cases a
    cases b
    simp_all

instance : Encodes Inventory where
  value d := .hash ([("complete", Encodes.value d.complete), ("objects", Encodes.value d.objects)] ++
    optionalField "opaque_foreign_objects" d.opaqueForeignObjects ++
    [("roots", Encodes.value d.roots), ("runtimes", Encodes.value d.runtimes),
      ("schema", Encodes.value d.schema), ("scope", Encodes.value d.scope)])
  plain d := by
    cases d.opaqueForeignObjects with
    | none =>
      refine .record ?_ (by simp [optionalField, Encodes.plain])
      simp only [optionalField, List.cons_append, List.nil_append, List.map]
      decide +kernel
    | some foreign =>
      refine .record ?_ (by simp [optionalField, Encodes.plain])
      simp only [optionalField, List.cons_append, List.nil_append, List.map]
      decide +kernel
  inj a b h := by
    obtain ⟨_, _, _, _, _, _, foreign⟩ := a
    obtain ⟨_, _, _, _, _, _, foreign'⟩ := b
    cases foreign <;> cases foreign' <;> simp_all [optionalField]

/-! ## Checks -/

/-- `_require` -/
def required (holds : Bool) (label : String) : Except String Unit :=
  dieIf (!holds) ("VM_DESTROY_STORAGE_UNKNOWN: " ++ label)

@[simp] theorem required_eq_ok {holds : Bool} {label : String} {u : Unit} :
    required holds label = .ok u ↔ holds = true := by
  simp [required]

@[simp] theorem same_required_eq_ok {α β : Type} [Encodes α] {a b : α} {label : String}
    {next : Except String β} {r : β} :
    (same a b >>= fun answer => required answer label >>= fun _ => next) = .ok r ↔
      a = b ∧ next = .ok r := by
  rw [same_bind_eq_ok (by simp [required, dieIf, bind, Except.bind])]
  simp

/-- `_id` -/
def isId (s : Scalar) : Bool :=
  match (body s.text).toList with
  | [] => false
  | c :: rest => !s.isRef && c.isAlphanum && rest.length ≤ 255 &&
      rest.all fun d => d.isAlphanum || d ∈ ['_', '.', ':', '+', '/', '-']

/-- `_ids` -/
def checkIds (values : List Scalar) (label : String) : Except String Unit :=
  forEachSeen (fun seen id => required (isId id && seen.all fun s => s.text ≠ id.text)
    (label ++ " has invalid/duplicate identity")) [] values

/-! ## Tables -/

def phaseOf (mode : String) : Option String :=
  [("thin", "OWNED_INACTIVE"), ("thick", "MATERIALIZED"), ("lazy", "LAZY_DORMANT")].lookup mode

def rootKind (mode : String) : String := if mode = "thin" then "thin_pool" else "anchor"

def kindsOf (mode : String) : List String :=
  if mode = "thin" then ["thin_pool", "thin_data", "thin_metadata", "thin_lv", "snapshot"]
  else if mode = "thick" then ["anchor", "generation", "snapshot"]
  else if mode = "lazy" then ["anchor", "lazy_data", "lazy_metadata"]
  else []

def requiredKinds (mode : String) : List String :=
  if mode = "thin" then ["thin_pool", "thin_data", "thin_metadata", "thin_lv"]
  else if mode = "lazy" then ["anchor", "lazy_data", "lazy_metadata"]
  else ["anchor", "generation"]

def singleKinds (mode : String) : List String :=
  if mode = "thin" then ["thin_data", "thin_metadata"]
  else if mode = "lazy" then ["lazy_data", "lazy_metadata"]
  else []

/-! ## Rows -/

/-- `/\A[1-9][0-9]*\z/` -/
def isVmid (text : String) : Bool :=
  match text.toList with
  | [] => false
  | c :: rest => '1' ≤ c && c ≤ '9' && rest.all Char.isDigit

def checkScope (scope : Scope) : Except String Unit := do
  required (isId scope.node) "scope node invalid"
  required (isId scope.bootId) "scope boot_id invalid"
  required (isId scope.vgUuid) "scope vg_uuid invalid"
  required (isId scope.pvUuid) "scope pv_uuid invalid"
  required (isId scope.wwid) "scope wwid invalid"
  required (exactly 64 isLowerHex scope.configSha256.text) "scope config digest invalid"
  checkIds scope.storageIds "scope storages"
  required (scope.storageIds ≠ []) "empty storage scope"

/-- A volume `storage:name` of a storage in scope. -/
def inScope (storageIds : List Scalar) (volume : Scalar) : Bool :=
  match volume.text.toList.dropWhile (· ≠ ':') with
  | _ :: _ :: _ =>
    storageIds.any fun sid => sid.text = String.ofList (volume.text.toList.takeWhile (· ≠ ':'))
  | _ => false

def checkRoot (storageIds : List Scalar) (seen : List Root) (root : Root) :
    Except String Unit := do
  required (isId root.id && seen.all fun r => r.id.text ≠ root.id.text)
    "duplicate/invalid root ID"
  required (phaseOf root.mode.text = some root.phase.text) "unsupported root mode/phase"
  required (isVmid root.ownerVmid.text && isId root.namespaceName) "root ownership unknown"
  checkIds root.objectIds "root objects"
  checkIds root.runtimeIds "root runtimes"
  checkIds root.volumeIds "root volumes"
  required (root.objectIds ≠ [] && root.volumeIds ≠ []) "empty root closure"
  forEach root.volumeIds fun volume =>
    required (inScope storageIds volume &&
        seen.all fun r => r.volumeIds.all fun v => v.text ≠ volume.text)
      "volume outside scope or assigned to multiple roots"

def findRoot (roots : List Root) (id : String) : Option Root := findBy (fun r => r.id.text) roots id

/-- What an object owes its root. -/
def checkMembership (root : Root) (object : StorageObject) : Except String Unit := do
  required (object.kind.text ∈ kindsOf root.mode.text) "unknown object root/kind"
  required (object.ownerVmid.text = root.ownerVmid.text &&
      object.namespaceName.text = root.namespaceName.text) "foreign root member ownership"
  required (object.volumeId.text = "" || root.volumeIds.any fun v => v.text = object.volumeId.text)
    "object volume ownership unknown"
  required (object.originUuid.text = "" || isId object.originUuid) "invalid snapshot origin"
  if object.kind.text = "snapshot" then
    required ((root.mode.text ≠ "thin" || object.originUuid.text ≠ "") && object.volumeId.text ≠ "")
      "snapshot ownership/origin omitted"
  else required (object.originUuid.text = "") "unexpected origin on non-snapshot"

def checkObject (roots : List Root) (seen : List StorageObject) (object : StorageObject) :
    Except String Unit := do
  required (isId object.id && seen.all fun o => o.id.text ≠ object.id.text)
    "duplicate/invalid object ID"
  required (isId object.uuid && seen.all fun o => o.uuid.text ≠ object.uuid.text)
    "duplicate/invalid persistent UUID"
  match findRoot roots object.rootId.text with
  | none => required false "unknown object root/kind"
  | some root => checkMembership root object

def checkRuntime (roots : List Root) (seen : List Runtime) (runtime : Runtime) :
    Except String Unit := do
  required (isId runtime.id && seen.all fun r => r.id.text ≠ runtime.id.text)
    "duplicate runtime ID"
  required (isId runtime.dmUuid && seen.all fun r => r.dmUuid.text ≠ runtime.dmUuid.text)
    "duplicate/invalid DM UUID"
  required (findRoot roots runtime.rootId.text).isSome "runtime root unknown"

def withoutDashes (text : String) : String := String.ofList (text.toList.filter (· ≠ '-'))

def checkForeign (vgUuid : Scalar) (objects : List StorageObject) (seen : List ForeignObject)
    (foreign : ForeignObject) : Except String Unit := do
  required (foreign.type.text = "lvm-lv" &&
      plus (fun c => c.isAlphanum || c ∈ ['+', '_', '.', '-']) (body foreign.name.text) &&
      plus (fun c => c.isAlphanum || c = '-') (body foreign.uuid.text) &&
      foreign.scopeUuid.text = vgUuid.text &&
      exactly 64 isLowerHex (body foreign.evidenceSha256.text))
    "opaque foreign identity invalid"
  required ((seen.all fun f => f.name.text ≠ foreign.name.text) &&
      (objects.all fun o => withoutDashes o.uuid.text ≠ withoutDashes foreign.uuid.text) &&
      seen.all fun f => withoutDashes f.uuid.text ≠ withoutDashes foreign.uuid.text)
    "opaque foreign duplicate name or UUID alias"

/-! ## Root closures -/

def membersOf (objects : List StorageObject) (root : Root) : List StorageObject :=
  sortBy (fun o => o.id.text) (objects.filter fun o => o.rootId.text = root.id.text)

def runtimesOf (runtimes : List Runtime) (root : Root) : List Runtime :=
  sortBy (fun r => r.id.text) (runtimes.filter fun r => r.rootId.text = root.id.text)

def countKind (members : List StorageObject) (kind : String) : ℕ :=
  (members.filter fun o => o.kind.text = kind).length

/-- The `while` loop over snapshot origins. The members bound the number of rounds, since no
UUID is visited twice. -/
def walkOrigin (members : List StorageObject) (volume : String) :
    ℕ → List String → StorageObject → Except String Unit
  | 0, _, _ => required false "snapshot origin cycle"
  | rounds + 1, visited, cursor =>
    if cursor.kind.text = "snapshot" then do
      required (cursor.uuid.text ∉ visited) "snapshot origin cycle"
      match findBy (fun o => o.uuid.text) members cursor.originUuid.text with
      | none => required false "snapshot origin ownership mismatch"
      | some next => do
        required (next.volumeId.text = volume) "snapshot origin ownership mismatch"
        walkOrigin members volume rounds (cursor.uuid.text :: visited) next
    else required (cursor.kind.text = "thin_lv") "snapshot origin is not a Thin disk"

def checkOrigin (root : Root) (members : List StorageObject) (member : StorageObject) :
    Except String Unit :=
  if member.originUuid.text = "" then .ok ()
  else do
    required (members.any fun o => o.uuid.text = member.originUuid.text && o.id.text ≠ member.id.text)
      "snapshot origin outside complete root"
    if root.mode.text = "thin" then
      walkOrigin members member.volumeId.text (members.length + 2) [] member
    else .ok ()

/-- The closure of one root over its members and runtimes, each sorted by its id. -/
def checkClosure (rootObject : Option StorageObject) (members : List StorageObject)
    (runtimes : List Runtime) (root : Root) : Except String Unit := do
  required (rootObject.any fun o => o.rootId.text = root.id.text && o.kind.text = rootKind root.mode.text)
    "persistent root object missing"
  let sameObjects ← same (members.map fun o => Scalar.string o.id.text)
    (sortBy Scalar.text root.objectIds)
  let sameRuntimes ← same (runtimes.map fun r => Scalar.string r.id.text)
    (sortBy Scalar.text root.runtimeIds)
  required (sameObjects && sameRuntimes) "incomplete root member closure"
  forEach (requiredKinds root.mode.text) fun kind =>
    required (countKind members kind ≠ 0) ("required root member kind " ++ kind ++ " omitted")
  required (countKind members (rootKind root.mode.text) = 1) "ambiguous root object count"
  forEach (singleKinds root.mode.text) fun kind =>
    required (countKind members kind = 1) ("ambiguous structural member " ++ kind)
  forEach root.volumeIds fun volume =>
    required (members.any fun o => o.volumeId.text = volume.text) "volume has no persistent member"
  forEach members (checkOrigin root members)

def Inventory.checkRootClosure (doc : Inventory) (root : Root) : Except String Unit :=
  checkClosure (findBy (fun o => o.id.text) doc.objects root.id.text) (membersOf doc.objects root)
    (runtimesOf doc.runtimes root) root

/-! ## Validation -/

def Root.normal (root : Root) : Root :=
  { root with
    objectIds := sortBy Scalar.text root.objectIds
    runtimeIds := sortBy Scalar.text root.runtimeIds
    volumeIds := sortBy Scalar.text root.volumeIds }

def Scope.normal (scope : Scope) : Scope :=
  { scope with storageIds := sortBy Scalar.text scope.storageIds }

/-- Canonical order makes harmless ordering differences immaterial. -/
def Inventory.normal (doc : Inventory) : Inventory :=
  { doc with
    scope := doc.scope.normal
    roots := sortBy (fun r => r.id.text) (doc.roots.map Root.normal)
    objects := sortBy (fun o => o.id.text) doc.objects
    runtimes := sortBy (fun r => r.id.text) doc.runtimes
    opaqueForeignObjects := doc.opaqueForeignObjects.map (sortBy fun f => f.name.text) }

def Inventory.checkOpaque (doc : Inventory) : Except String Unit :=
  match doc.opaqueForeignObjects with
  | none => .ok ()
  | some foreign => forEachSeen (checkForeign doc.scope.vgUuid doc.objects) [] foreign

/-- `_validate_inventory` -/
def validateInventory (doc : Inventory) : Except String Inventory := do
  required (doc.schema.text = "sharedlvmthin-destroy-inventory/v1" && !doc.complete.isRef &&
      doc.complete.text = "1")
    "inventory completeness unproven"
  checkScope doc.scope
  forEachSeen (checkRoot doc.scope.storageIds) [] doc.roots
  forEachSeen (checkObject doc.roots) [] doc.objects
  forEachSeen (checkRuntime doc.roots) [] doc.runtimes
  doc.checkOpaque
  forEach doc.roots doc.checkRootClosure
  return doc.normal

end SharedLvmThin.StoragePlan
