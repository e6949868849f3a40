import SharedLvmThin.PerlShuffle
import SharedLvmThin.StoragePlanExact

/-! The order of an inventory is immaterial. A document is any JSON data; one whose arrays are
permuted, at any depth, is accepted exactly like the original, with the same normal form, and
therefore plans and observes alike. -/

namespace SharedLvmThin.StoragePlan
open Perl KeyedLists

/-! ## Reading a document -/

def readScope (v : Value) : Option Scope := do
  guard (v.hasFields ["node", "boot_id", "vg_uuid", "pv_uuid", "wwid", "storage_ids",
    "config_sha256"])
  let node ← (v.get "node").readScalar
  let bootId ← (v.get "boot_id").readScalar
  let vgUuid ← (v.get "vg_uuid").readScalar
  let pvUuid ← (v.get "pv_uuid").readScalar
  let wwid ← (v.get "wwid").readScalar
  let configSha256 ← (v.get "config_sha256").readScalar
  let storageIds ← (v.get "storage_ids").readArray Value.readScalar
  return ⟨node, bootId, vgUuid, pvUuid, wwid, storageIds, configSha256⟩

def readRoot (v : Value) : Option Root := do
  guard (v.hasFields ["id", "mode", "phase", "owner_vmid", "namespace", "object_ids", "runtime_ids",
    "volume_ids"])
  let id ← (v.get "id").readScalar
  let mode ← (v.get "mode").readScalar
  let phase ← (v.get "phase").readScalar
  let ownerVmid ← (v.get "owner_vmid").readScalar
  let namespaceName ← (v.get "namespace").readScalar
  let objectIds ← (v.get "object_ids").readArray Value.readScalar
  let runtimeIds ← (v.get "runtime_ids").readArray Value.readScalar
  let volumeIds ← (v.get "volume_ids").readArray Value.readScalar
  return ⟨id, mode, phase, ownerVmid, namespaceName, objectIds, runtimeIds, volumeIds⟩

def readObject (v : Value) : Option StorageObject := do
  guard (v.hasFields ["id", "uuid", "root_id", "kind", "owner_vmid", "namespace", "volume_id",
    "origin_uuid"])
  let id ← (v.get "id").readScalar
  let uuid ← (v.get "uuid").readScalar
  let rootId ← (v.get "root_id").readScalar
  let kind ← (v.get "kind").readScalar
  let ownerVmid ← (v.get "owner_vmid").readScalar
  let namespaceName ← (v.get "namespace").readScalar
  let volumeId ← (v.get "volume_id").readScalar
  let originUuid ← (v.get "origin_uuid").readScalar
  return ⟨id, uuid, rootId, kind, ownerVmid, namespaceName, volumeId, originUuid⟩

def readRuntime (v : Value) : Option Runtime := do
  guard (v.hasFields ["id", "dm_uuid", "root_id"])
  let id ← (v.get "id").readScalar
  let dmUuid ← (v.get "dm_uuid").readScalar
  let rootId ← (v.get "root_id").readScalar
  return ⟨id, dmUuid, rootId⟩

def readForeign (v : Value) : Option ForeignObject := do
  guard (v.hasFields ["type", "name", "uuid", "scope_uuid", "evidence_sha256"])
  let type ← (v.get "type").readScalar
  let name ← (v.get "name").readScalar
  let uuid ← (v.get "uuid").readScalar
  let scopeUuid ← (v.get "scope_uuid").readScalar
  let evidenceSha256 ← (v.get "evidence_sha256").readScalar
  return ⟨type, name, uuid, scopeUuid, evidenceSha256⟩

def documentFields (v : Value) : List String :=
  ["schema", "complete", "scope", "roots", "objects", "runtimes"] ++
    if v.has "opaque_foreign_objects" then ["opaque_foreign_objects"] else []

def readOpaque (v : Value) : Option (Option (List ForeignObject)) :=
  if v.has "opaque_foreign_objects" then
    ((v.get "opaque_foreign_objects").readArray readForeign).map some
  else some none

def readInventory (v : Value) : Option Inventory := do
  guard (v.hasFields (documentFields v))
  let schema ← (v.get "schema").readScalar
  let complete ← (v.get "complete").readScalar
  let scope ← readScope (v.get "scope")
  let roots ← (v.get "roots").readArray readRoot
  let objects ← (v.get "objects").readArray readObject
  let runtimes ← (v.get "runtimes").readArray readRuntime
  let opaqueForeignObjects ← readOpaque v
  return ⟨schema, complete, scope, roots, objects, runtimes, opaqueForeignObjects⟩

/-- What the collector hands over. A document with a field missing, added or of another kind
than the checks admit is refused. -/
def collect (v : Value) : Except String Inventory :=
  match readInventory v with
  | some doc => .ok doc
  | none => .error "VM_DESTROY_STORAGE_UNKNOWN: unexpected record fields"

def validateDocument (v : Value) : Except String Inventory := do
  let doc ← collect v
  validateInventory doc

/-! ## Typed inventories up to order -/

structure Inventory.SameUpToOrder (a b : Inventory) : Prop where
  schema : a.schema = b.schema
  complete : a.complete = b.complete
  scope : a.scope.SameUpToOrder b.scope
  content : a.SameContent b

theorem normal_eq_of_sameUpToOrder {a b : Inventory} (h : Accepted a) (hsame : a.SameUpToOrder b) :
    a.normal = b.normal := by
  have hscope : a.scope.normal = b.scope.normal := (scope_normal_eq_iff h.scope).mpr hsame.scope
  have hremaining := (remaining_eq_iff h).mpr hsame.content
  simp only [Inventory.remaining, Baseline.mk.injEq] at hremaining
  obtain ⟨hroots, hobjects, hruntimes, hforeign⟩ := hremaining
  have hinventory : ∀ x y : Inventory, x.schema = y.schema → x.complete = y.complete →
      x.scope = y.scope → x.roots = y.roots → x.objects = y.objects → x.runtimes = y.runtimes →
      x.opaqueForeignObjects = y.opaqueForeignObjects → x = y := by
    intro x y h₁ h₂ h₃ h₄ h₅ h₆ h₇
    cases x
    cases y
    simp_all
  exact hinventory _ _ hsame.schema hsame.complete hscope hroots hobjects hruntimes hforeign

/-- An accepted inventory stays accepted in any order, with the same normal form. -/
theorem validateInventory_of_sameUpToOrder {a b n : Inventory} (hsame : a.SameUpToOrder b)
    (h : validateInventory a = .ok n) : validateInventory b = .ok n := by
  obtain ⟨hacc, rfl⟩ := validateInventory_eq_ok.mp h
  have hnormal := normal_eq_of_sameUpToOrder hacc hsame
  have hacc' : Accepted b.normal := hnormal ▸ accepted_normal.mpr hacc
  exact validateInventory_eq_ok.mpr ⟨accepted_normal.mp hacc', hnormal⟩

/-! ## Shuffled documents -/

variable {v w : Value}

theorem readObject_shuffled (h : v.Shuffled w) : readObject v = readObject w := by
  simp only [readObject, h.hasFields, (h.get _).readScalar]

theorem readRuntime_shuffled (h : v.Shuffled w) : readRuntime v = readRuntime w := by
  simp only [readRuntime, h.hasFields, (h.get _).readScalar]

theorem readForeign_shuffled (h : v.Shuffled w) : readForeign v = readForeign w := by
  simp only [readForeign, h.hasFields, (h.get _).readScalar]

theorem readScalars_shuffled (h : v.Shuffled w) {l : List Scalar}
    (hl : v.readArray Value.readScalar = some l) :
    ∃ l', w.readArray Value.readScalar = some l' ∧ l.Perm l' :=
  h.readArray_perm (fun _ _ hitem => hitem.readScalar) hl

theorem readScope_shuffled (h : v.Shuffled w) {s : Scope} (hs : readScope v = some s) :
    ∃ s', readScope w = some s' ∧ s.SameUpToOrder s' := by
  simp only [readScope, h.hasFields, (h.get _).readScalar, Option.bind_eq_bind,
    Option.bind_eq_some_iff, Option.pure_def, Option.some.injEq] at hs ⊢
  obtain ⟨u, hu, node, hnode, bootId, hbootId, vgUuid, hvgUuid, pvUuid, hpvUuid, wwid, hwwid,
    configSha256, hconfigSha256, storageIds, hstorageIds, rfl⟩ := hs
  obtain ⟨storageIds', hstorageIds', hperm⟩ := readScalars_shuffled (h.get _) hstorageIds
  exact ⟨_, ⟨u, hu, node, hnode, bootId, hbootId, vgUuid, hvgUuid, pvUuid, hpvUuid, wwid, hwwid,
    configSha256, hconfigSha256, storageIds', hstorageIds', rfl⟩, ⟨hperm, rfl⟩⟩

theorem readRoot_shuffled (h : v.Shuffled w) {r : Root} (hr : readRoot v = some r) :
    ∃ r', readRoot w = some r' ∧ r.SameUpToOrder r' := by
  simp only [readRoot, h.hasFields, (h.get _).readScalar, Option.bind_eq_bind,
    Option.bind_eq_some_iff, Option.pure_def, Option.some.injEq] at hr ⊢
  obtain ⟨u, hu, id, hid, mode, hmode, phase, hphase, ownerVmid, hownerVmid, namespaceName,
    hnamespaceName, objectIds, hobjectIds, runtimeIds, hruntimeIds, volumeIds, hvolumeIds,
    rfl⟩ := hr
  obtain ⟨objectIds', hobjectIds', hobjects⟩ := readScalars_shuffled (h.get _) hobjectIds
  obtain ⟨runtimeIds', hruntimeIds', hruntimes⟩ := readScalars_shuffled (h.get _) hruntimeIds
  obtain ⟨volumeIds', hvolumeIds', hvolumes⟩ := readScalars_shuffled (h.get _) hvolumeIds
  exact ⟨_, ⟨u, hu, id, hid, mode, hmode, phase, hphase, ownerVmid, hownerVmid, namespaceName,
    hnamespaceName, objectIds', hobjectIds', runtimeIds', hruntimeIds', volumeIds', hvolumeIds',
    rfl⟩,
    ⟨hobjects, hruntimes, hvolumes, rfl⟩⟩

theorem readOpaque_shuffled (h : v.Shuffled w) {o : Option (List ForeignObject)}
    (ho : readOpaque v = some o) : ∃ o', readOpaque w = some o' ∧ Option.Rel List.Perm o o' := by
  unfold readOpaque at ho ⊢
  rw [← h.has]
  split_ifs at ho ⊢
  · obtain ⟨list, hlist, rfl⟩ := Option.map_eq_some_iff.mp ho
    obtain ⟨list', hlist', hperm⟩ :=
      (h.get _).readArray_perm (fun _ _ hitem => readForeign_shuffled hitem) hlist
    exact ⟨some list', by rw [hlist']; rfl, .some hperm⟩
  · cases ho
    exact ⟨none, rfl, .none⟩

theorem documentFields_shuffled (h : v.Shuffled w) : documentFields v = documentFields w := by
  simp only [documentFields, h.has]

theorem readInventory_shuffled (h : v.Shuffled w) {doc : Inventory}
    (hdoc : readInventory v = some doc) :
    ∃ doc', readInventory w = some doc' ∧ doc.SameUpToOrder doc' := by
  simp only [readInventory, documentFields_shuffled h, h.hasFields, (h.get _).readScalar,
    Option.bind_eq_bind, Option.bind_eq_some_iff, Option.pure_def, Option.some.injEq] at hdoc ⊢
  obtain ⟨u, hu, schema, hschema, complete, hcomplete, scope, hscope, roots, hroots, objects,
    hobjects, runtimes, hruntimes, foreign, hforeign, rfl⟩ := hdoc
  obtain ⟨scope', hscope', hsame⟩ := readScope_shuffled (h.get _) hscope
  obtain ⟨roots', hroots', reordered, hforall, hperm⟩ :=
    (h.get _).readArray (fun _ _ _ hitem hr => readRoot_shuffled hitem hr) hroots
  obtain ⟨objects', hobjects', hobjectsPerm⟩ :=
    (h.get _).readArray_perm (fun _ _ hitem => readObject_shuffled hitem) hobjects
  obtain ⟨runtimes', hruntimes', hruntimesPerm⟩ :=
    (h.get _).readArray_perm (fun _ _ hitem => readRuntime_shuffled hitem) hruntimes
  obtain ⟨foreign', hforeign', hrel⟩ := readOpaque_shuffled h hforeign
  -- the same content asks for the permutation first and the members' order after it
  have hcomp : Relation.Comp (List.Forall₂ Root.SameUpToOrder) List.Perm roots roots' :=
    ⟨reordered, hforall, hperm⟩
  rw [List.forall₂_comp_perm_eq_perm_comp_forall₂] at hcomp
  exact ⟨_, ⟨u, hu, schema, hschema, complete, hcomplete, scope', hscope', roots', hroots',
    objects', hobjects', runtimes', hruntimes', foreign', hforeign', rfl⟩,
    ⟨rfl, rfl, hsame, ⟨hcomp, hobjectsPerm, hruntimesPerm, hrel⟩⟩⟩

/-! ## Order is immaterial -/

theorem validateDocument_of_shuffled (h : v.Shuffled w) {n : Inventory}
    (hv : validateDocument v = .ok n) : validateDocument w = .ok n := by
  unfold validateDocument collect at hv ⊢
  cases hread : readInventory v with
  | none =>
    rw [hread] at hv
    cases hv
  | some doc =>
    obtain ⟨doc', hread', hsame⟩ := readInventory_shuffled h hread
    rw [hread] at hv
    rw [hread']
    exact validateInventory_of_sameUpToOrder hsame hv

theorem toOption_eq {ε α : Type} {x y : Except ε α} (h : ∀ a, x = .ok a ↔ y = .ok a) :
    x.toOption = y.toOption := by
  cases x with
  | ok a =>
    rw [(h a).mp rfl]
  | error e =>
    cases y with
    | ok b => cases (h b).mpr rfl
    | error e' => rfl

theorem validateDocument_shuffled (h : v.Shuffled w) (n : Inventory) :
    validateDocument v = .ok n ↔ validateDocument w = .ok n :=
  ⟨validateDocument_of_shuffled h, validateDocument_of_shuffled h.symm⟩

/-- The collected inventory enters a plan or an observation through its validation alone. -/
theorem inventory_collect (n : Inventory) :
    inventory (collect v) = .ok n ↔ validateDocument v = .ok n := by
  unfold validateDocument inventory
  cases collect v with
  | error message => exact iff_of_false nofun nofun
  | ok doc => exact Iff.rfl

theorem plan_shuffled (h : v.Shuffled w) (vmid : String) (volumes : List Scalar) (p : Plan) :
    plan (collect v) vmid volumes = .ok p ↔ plan (collect w) vmid volumes = .ok p := by
  simp only [plan, bind_eq_ok, inventory_collect, validateDocument_shuffled h]

theorem observe_shuffled (h : v.Shuffled w) (p : Plan) (o : Observation) :
    observe (collect v) p = .ok o ↔ observe (collect w) p = .ok o := by
  simp only [observe, bind_eq_ok, inventory_collect, validateDocument_shuffled h]

/-- Permuting any arrays of an inventory document, at any depth, changes neither whether it is
accepted nor its normal form, and hence no plan with its digests and no observation. -/
theorem order_immaterial (v w : Value) (h : v.Shuffled w) :
    (validateDocument v).toOption = (validateDocument w).toOption ∧
      (∀ vmid volumes, (plan (collect v) vmid volumes).toOption =
        (plan (collect w) vmid volumes).toOption) ∧
      ∀ p, (observe (collect v) p).toOption = (observe (collect w) p).toOption :=
  ⟨toOption_eq (validateDocument_shuffled h),
    fun vmid volumes => toOption_eq (plan_shuffled h vmid volumes),
    fun p => toOption_eq (observe_shuffled h p)⟩

/-- The two VMs with their roots, objects and runtimes listed the other way round. -/
def reversedVms : Inventory :=
  { twoVms with
    roots := twoVms.roots.reverse
    objects := twoVms.objects.reverse
    runtimes := twoVms.runtimes.reverse }

theorem shuffled_reverse {α : Type} [Encodes α] (l : List α) :
    (Encodes.value l).Shuffled (Encodes.value l.reverse) :=
  ⟨_, l.map Encodes.value, rfl, (List.reverse_perm l).map _, Value.ShuffledItems.refl _⟩

theorem reversedVms_shuffled : (Encodes.value twoVms).Shuffled (Encodes.value reversedVms) := by
  refine ⟨_, rfl, _, _, rfl, .refl _, ?_⟩
  refine ⟨_, _, rfl, shuffled_reverse twoVms.objects, ?_⟩
  refine ⟨_, _, rfl, shuffled_reverse twoVms.roots, ?_⟩
  refine ⟨_, _, rfl, shuffled_reverse twoVms.runtimes, ?_⟩
  exact ⟨_, _, rfl, .refl _, _, _, rfl, .refl _, rfl⟩

-- An instance is evaluated before what follows it.
instance twoVms_validated :
    Fact (validateDocument (Encodes.value twoVms) = .ok twoVms.normal) :=
  ⟨by decide +kernel⟩

theorem order_immaterial_two_vms :
    validateDocument (Encodes.value twoVms) = .ok twoVms.normal ∧
      (validateDocument (Encodes.value twoVms)).toOption =
        (validateDocument (Encodes.value reversedVms)).toOption :=
  ⟨twoVms_validated.out, (order_immaterial _ _ reversedVms_shuffled).1⟩

end SharedLvmThin.StoragePlan
