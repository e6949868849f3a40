import SharedLvmThin.StoragePlanInventory

/-! What an accepted inventory satisfies, without reference to the order of its rows: every
row passes alone, identities are pairwise distinct and every root is closed. Reordering an
accepted inventory keeps it accepted and does not change its normal form. -/

namespace SharedLvmThin.StoragePlan
open Perl KeyedLists

structure Accepted (doc : Inventory) : Prop where
  header : (doc.schema.text = "sharedlvmthin-destroy-inventory/v1" ∧ doc.complete.isRef = false) ∧
    doc.complete.text = "1"
  scope : checkScope doc.scope = .ok ()
  root : ∀ r ∈ doc.roots, checkRoot doc.scope.storageIds [] r = .ok ()
  rootIds : (doc.roots.map fun r => r.id.text).Nodup
  volumes : doc.roots.Pairwise fun a b => ∀ v ∈ a.volumeIds, ∀ w ∈ b.volumeIds, v.text ≠ w.text
  object : ∀ o ∈ doc.objects, checkObject doc.roots [] o = .ok ()
  objectIds : (doc.objects.map fun o => o.id.text).Nodup
  objectUuids : (doc.objects.map fun o => o.uuid.text).Nodup
  runtime : ∀ r ∈ doc.runtimes, checkRuntime doc.roots [] r = .ok ()
  runtimeIds : (doc.runtimes.map fun r => r.id.text).Nodup
  dmUuids : (doc.runtimes.map fun r => r.dmUuid.text).Nodup
  foreign : ∀ list, doc.opaqueForeignObjects = some list →
    (∀ f ∈ list, checkForeign doc.scope.vgUuid doc.objects [] f = .ok ()) ∧
      (list.map fun f => f.name.text).Nodup ∧
      (list.map fun f => withoutDashes f.uuid.text).Nodup
  closure : ∀ r ∈ doc.roots, doc.checkRootClosure r = .ok ()

/-! ## The loops -/

theorem checkIds_eq_ok {values : List Scalar} {label : String} :
    checkIds values label = .ok () ↔
      (∀ v ∈ values, isId v = true) ∧ (values.map Scalar.text).Nodup := by
  unfold checkIds
  rw [forEachSeen_eq_ok (R := fun b a => b.text ≠ a.text)]
  · simp [List.Nodup, List.pairwise_map]
  · intro seen a
    simp

theorem checkRoot_seen {storageIds : List Scalar} (seen : List Root) (root : Root) :
    checkRoot storageIds seen root = .ok () ↔
      checkRoot storageIds [] root = .ok () ∧ ∀ r ∈ seen, r.id.text ≠ root.id.text ∧
        ∀ v ∈ r.volumeIds, ∀ w ∈ root.volumeIds, v.text ≠ w.text := by
  simp only [checkRoot, bind_unit_eq_ok, required_eq_ok, forEach_eq_ok, Bool.and_eq_true,
    List.all_eq_true, decide_eq_true_eq, List.not_mem_nil, false_implies, implies_true, and_true]
  constructor
  · intro h
    obtain ⟨⟨hid, hids⟩, hphase, howner, ho, hr, hv, hne, hvolumes⟩ := h
    exact ⟨⟨hid, hphase, howner, ho, hr, hv, hne, fun w hw => (hvolumes w hw).1⟩,
      fun r hmem => ⟨hids r hmem, fun v hmv w hw => (hvolumes w hw).2 r hmem v hmv⟩⟩
  · intro h
    obtain ⟨⟨hid, hphase, howner, ho, hr, hv, hne, hvolumes⟩, hseen⟩ := h
    exact ⟨⟨hid, fun r hmem => (hseen r hmem).1⟩, hphase, howner, ho, hr, hv, hne,
      fun w hw => ⟨hvolumes w hw, fun r hmem v hmv => (hseen r hmem).2 v hmv w hw⟩⟩

theorem checkObject_seen {roots : List Root} (seen : List StorageObject) (object : StorageObject) :
    checkObject roots seen object = .ok () ↔
      checkObject roots [] object = .ok () ∧
        ∀ o ∈ seen, o.id.text ≠ object.id.text ∧ o.uuid.text ≠ object.uuid.text := by
  simp only [checkObject, bind_unit_eq_ok, required_eq_ok, Bool.and_eq_true,
    List.all_eq_true, decide_eq_true_eq, List.not_mem_nil, false_implies, implies_true, and_true]
  constructor
  · intro h
    obtain ⟨⟨hid, hids⟩, ⟨huuid, huuids⟩, hroot⟩ := h
    exact ⟨⟨hid, huuid, hroot⟩, fun o ho => ⟨hids o ho, huuids o ho⟩⟩
  · intro h
    obtain ⟨⟨hid, huuid, hroot⟩, hseen⟩ := h
    exact ⟨⟨hid, fun o ho => (hseen o ho).1⟩, ⟨huuid, fun o ho => (hseen o ho).2⟩, hroot⟩

theorem checkRuntime_seen {roots : List Root} (seen : List Runtime) (runtime : Runtime) :
    checkRuntime roots seen runtime = .ok () ↔
      checkRuntime roots [] runtime = .ok () ∧
        ∀ r ∈ seen, r.id.text ≠ runtime.id.text ∧ r.dmUuid.text ≠ runtime.dmUuid.text := by
  simp only [checkRuntime, bind_unit_eq_ok, required_eq_ok, Bool.and_eq_true,
    List.all_eq_true, decide_eq_true_eq, List.not_mem_nil, false_implies, implies_true, and_true]
  constructor
  · intro h
    obtain ⟨⟨hid, hids⟩, ⟨huuid, huuids⟩, hroot⟩ := h
    exact ⟨⟨hid, huuid, hroot⟩, fun o ho => ⟨hids o ho, huuids o ho⟩⟩
  · intro h
    obtain ⟨⟨hid, huuid, hroot⟩, hseen⟩ := h
    exact ⟨⟨hid, fun o ho => (hseen o ho).1⟩, ⟨huuid, fun o ho => (hseen o ho).2⟩, hroot⟩

theorem checkForeign_seen {vgUuid : Scalar} {objects : List StorageObject}
    (seen : List ForeignObject) (foreign : ForeignObject) :
    checkForeign vgUuid objects seen foreign = .ok () ↔
      checkForeign vgUuid objects [] foreign = .ok () ∧ ∀ f ∈ seen, f.name.text ≠ foreign.name.text ∧
        withoutDashes f.uuid.text ≠ withoutDashes foreign.uuid.text := by
  simp only [checkForeign, bind_unit_eq_ok, required_eq_ok, Bool.and_eq_true,
    List.all_eq_true, decide_eq_true_eq, List.not_mem_nil, false_implies, implies_true, and_true,
    true_and]
  constructor
  · intro h
    obtain ⟨hidentity, ⟨hnames, hobjects⟩, huuids⟩ := h
    exact ⟨⟨hidentity, hobjects⟩, fun f hf => ⟨hnames f hf, huuids f hf⟩⟩
  · intro h
    obtain ⟨⟨hidentity, hobjects⟩, hseen⟩ := h
    exact ⟨hidentity, ⟨fun f hf => (hseen f hf).1, hobjects⟩, fun f hf => (hseen f hf).2⟩

theorem nodup_map_and {α β γ : Type} {f : α → β} {g : α → γ} {l : List α} :
    (l.Pairwise fun a b => f a ≠ f b ∧ g a ≠ g b) ↔ (l.map f).Nodup ∧ (l.map g).Nodup := by
  simp only [List.Nodup, List.pairwise_map, List.pairwise_and_iff]

theorem checkRoots_eq_ok {storageIds : List Scalar} {roots : List Root} :
    forEachSeen (checkRoot storageIds) [] roots = .ok () ↔
      (∀ r ∈ roots, checkRoot storageIds [] r = .ok ()) ∧ (roots.map fun r => r.id.text).Nodup ∧
        roots.Pairwise fun a b => ∀ v ∈ a.volumeIds, ∀ w ∈ b.volumeIds, v.text ≠ w.text := by
  rw [forEachSeen_eq_ok checkRoot_seen]
  simp only [List.pairwise_and_iff, List.not_mem_nil, false_implies, implies_true, and_true,
    List.Nodup, List.pairwise_map]

theorem checkObjects_eq_ok {roots : List Root} {objects : List StorageObject} :
    forEachSeen (checkObject roots) [] objects = .ok () ↔
      (∀ o ∈ objects, checkObject roots [] o = .ok ()) ∧ (objects.map fun o => o.id.text).Nodup ∧
        (objects.map fun o => o.uuid.text).Nodup := by
  rw [forEachSeen_eq_ok checkObject_seen, nodup_map_and]
  simp only [List.not_mem_nil, false_implies, implies_true, and_true]

theorem checkRuntimes_eq_ok {roots : List Root} {runtimes : List Runtime} :
    forEachSeen (checkRuntime roots) [] runtimes = .ok () ↔
      (∀ r ∈ runtimes, checkRuntime roots [] r = .ok ()) ∧
        (runtimes.map fun r => r.id.text).Nodup ∧ (runtimes.map fun r => r.dmUuid.text).Nodup := by
  rw [forEachSeen_eq_ok checkRuntime_seen, nodup_map_and]
  simp only [List.not_mem_nil, false_implies, implies_true, and_true]

theorem checkForeigns_eq_ok {vgUuid : Scalar} {objects : List StorageObject}
    {list : List ForeignObject} :
    forEachSeen (checkForeign vgUuid objects) [] list = .ok () ↔
      (∀ f ∈ list, checkForeign vgUuid objects [] f = .ok ()) ∧
        (list.map fun f => f.name.text).Nodup ∧
        (list.map fun f => withoutDashes f.uuid.text).Nodup := by
  rw [forEachSeen_eq_ok checkForeign_seen, nodup_map_and]
  simp only [List.not_mem_nil, false_implies, implies_true, and_true]

theorem checkOpaque_eq_ok {doc : Inventory} :
    doc.checkOpaque = .ok () ↔
      ∀ list, doc.opaqueForeignObjects = some list →
        (∀ f ∈ list, checkForeign doc.scope.vgUuid doc.objects [] f = .ok ()) ∧
          (list.map fun f => f.name.text).Nodup ∧
          (list.map fun f => withoutDashes f.uuid.text).Nodup := by
  unfold Inventory.checkOpaque
  cases doc.opaqueForeignObjects with
  | none => simp
  | some list => simp only [checkForeigns_eq_ok, Option.some.injEq, forall_eq']

theorem validateInventory_eq_ok {doc inventory : Inventory} :
    validateInventory doc = .ok inventory ↔ Accepted doc ∧ inventory = doc.normal := by
  unfold validateInventory
  simp only [bind_unit_eq_ok, required_eq_ok, Bool.and_eq_true, Bool.not_eq_true', decide_eq_true_eq,
    checkRoots_eq_ok, checkObjects_eq_ok, checkRuntimes_eq_ok, forEach_eq_ok, pure_eq_ok]
  constructor
  · intro h
    obtain ⟨hheader, hscope, ⟨hroot, hrootIds, hvolumes⟩, ⟨hobject, hobjectIds, hobjectUuids⟩,
      ⟨hruntime, hruntimeIds, hdmUuids⟩, hforeign, hclosure, rfl⟩ := h
    exact ⟨⟨hheader, hscope, hroot, hrootIds, hvolumes, hobject, hobjectIds, hobjectUuids, hruntime,
      hruntimeIds, hdmUuids, checkOpaque_eq_ok.mp hforeign, hclosure⟩, rfl⟩
  · intro h
    obtain ⟨hacc, rfl⟩ := h
    exact ⟨hacc.header, hacc.scope, ⟨hacc.root, hacc.rootIds, hacc.volumes⟩,
      ⟨hacc.object, hacc.objectIds, hacc.objectUuids⟩,
      ⟨hacc.runtime, hacc.runtimeIds, hacc.dmUuids⟩, checkOpaque_eq_ok.mpr hacc.foreign,
      hacc.closure, rfl⟩

/-! ## Normal forms -/

section
variable (r : Root)

@[simp] theorem Root.normal_id : r.normal.id = r.id := rfl
@[simp] theorem Root.normal_mode : r.normal.mode = r.mode := rfl
@[simp] theorem Root.normal_phase : r.normal.phase = r.phase := rfl
@[simp] theorem Root.normal_ownerVmid : r.normal.ownerVmid = r.ownerVmid := rfl
@[simp] theorem Root.normal_namespaceName : r.normal.namespaceName = r.namespaceName := rfl
@[simp] theorem Root.normal_objectIds : r.normal.objectIds = sortBy Scalar.text r.objectIds := rfl
@[simp] theorem Root.normal_runtimeIds :
    r.normal.runtimeIds = sortBy Scalar.text r.runtimeIds := rfl
@[simp] theorem Root.normal_volumeIds : r.normal.volumeIds = sortBy Scalar.text r.volumeIds := rfl

end

@[simp] theorem checkIds_sortBy {ids : List Scalar} {label : String} :
    checkIds (sortBy Scalar.text ids) label = .ok () ↔ checkIds ids label = .ok () := by
  simp [checkIds_eq_ok]

theorem checkScope_normal {scope : Scope} :
    checkScope scope.normal = .ok () ↔ checkScope scope = .ok () := by
  simp only [checkScope, Scope.normal, bind_unit_eq_ok, checkIds_sortBy, required_eq_ok, ne_eq,
    decide_eq_true_eq, sortBy_eq_nil]

@[simp] theorem inScope_sortBy (ids : List Scalar) (volume : Scalar) :
    inScope (sortBy Scalar.text ids) volume = inScope ids volume := by
  simp only [inScope, any_sortBy]

theorem checkRoot_normal {ids : List Scalar} {root : Root} :
    checkRoot (sortBy Scalar.text ids) [] root.normal = .ok () ↔ checkRoot ids [] root = .ok () := by
  have hclosed : (decide (root.normal.objectIds ≠ []) && decide (root.normal.volumeIds ≠ [])) = true ↔
      (decide (root.objectIds ≠ []) && decide (root.volumeIds ≠ [])) = true := by
    simp
  simp only [checkRoot, bind_unit_eq_ok, required_eq_ok, forEach_eq_ok]
  rw [hclosed]
  simp only [Root.normal_volumeIds, Root.normal_objectIds, Root.normal_runtimeIds, checkIds_sortBy,
    inScope_sortBy, mem_sortBy]
  rfl

theorem roots_normal (doc : Inventory) :
    doc.normal.roots = (sortBy (fun r => r.id.text) doc.roots).map Root.normal :=
  sortBy_map (f := Root.normal) (fun _ => rfl) doc.roots

theorem mem_roots_normal {doc : Inventory} {r : Root} :
    r ∈ doc.normal.roots ↔ ∃ root ∈ doc.roots, root.normal = r := by
  simp [roots_normal]

theorem rootIds_normal {doc : Inventory} :
    (doc.normal.roots.map fun r => r.id.text).Nodup ↔ (doc.roots.map fun r => r.id.text).Nodup := by
  rw [roots_normal, List.map_map]
  exact nodup_map_sortBy _

theorem findRoot_normal {doc : Inventory} (hids : (doc.roots.map fun r => r.id.text).Nodup)
    (id : String) : findRoot doc.normal.roots id = (findRoot doc.roots id).map Root.normal := by
  apply Option.ext
  intro r
  rw [findRoot, findBy_eq_some (rootIds_normal.mpr hids), mem_roots_normal, Option.map_eq_some_iff]
  simp only [findRoot, findBy_eq_some hids]
  constructor
  · intro h
    obtain ⟨⟨root, hroot, rfl⟩, hid⟩ := h
    exact ⟨root, ⟨hroot, hid⟩, rfl⟩
  · intro h
    obtain ⟨root, ⟨hroot, hid⟩, rfl⟩ := h
    exact ⟨⟨root, hroot, rfl⟩, hid⟩

theorem checkMembership_normal (root : Root) (object : StorageObject) :
    checkMembership root.normal object = checkMembership root object := by
  simp only [checkMembership, Root.normal, any_sortBy]
  rfl

theorem checkObject_normal {doc : Inventory} (hids : (doc.roots.map fun r => r.id.text).Nodup)
    (object : StorageObject) :
    checkObject doc.normal.roots [] object = checkObject doc.roots [] object := by
  simp only [checkObject, findRoot_normal hids]
  cases findRoot doc.roots object.rootId.text with
  | none => rfl
  | some root => simp only [Option.map_some, checkMembership_normal]

theorem checkRuntime_normal {doc : Inventory} (hids : (doc.roots.map fun r => r.id.text).Nodup)
    (runtime : Runtime) :
    checkRuntime doc.normal.roots [] runtime = checkRuntime doc.roots [] runtime := by
  simp only [checkRuntime, findRoot_normal hids, Option.isSome_map]

theorem checkForeign_normal (doc : Inventory) (foreign : ForeignObject) :
    checkForeign doc.normal.scope.vgUuid doc.normal.objects [] foreign =
      checkForeign doc.scope.vgUuid doc.objects [] foreign := by
  simp only [checkForeign, Inventory.normal, Scope.normal, all_sortBy]
  rfl

theorem membersOf_normal {doc : Inventory} (hids : (doc.objects.map fun o => o.id.text).Nodup)
    (root : Root) : membersOf doc.normal.objects root.normal = membersOf doc.objects root := by
  have hfilter := filter_sortBy hids fun o => o.rootId.text = root.id.text
  have hsorted := congrArg (sortBy fun o => o.id.text) hfilter
  rw [sortBy_sortBy] at hsorted
  exact hsorted

theorem runtimesOf_normal {doc : Inventory} (hids : (doc.runtimes.map fun r => r.id.text).Nodup)
    (root : Root) : runtimesOf doc.normal.runtimes root.normal = runtimesOf doc.runtimes root := by
  have hfilter := filter_sortBy hids fun r => r.rootId.text = root.id.text
  have hsorted := congrArg (sortBy fun r => r.id.text) hfilter
  rw [sortBy_sortBy] at hsorted
  exact hsorted

theorem checkClosure_normal {rootObject : Option StorageObject} {members : List StorageObject}
    {runtimes : List Runtime} {root : Root} :
    checkClosure rootObject members runtimes root.normal = .ok () ↔
      checkClosure rootObject members runtimes root = .ok () := by
  simp only [checkClosure, Root.normal, sortBy_sortBy, bind_eq_ok, forEach_eq_ok, mem_sortBy]
  rfl

theorem checkRootClosure_normal {doc : Inventory}
    (hobjects : (doc.objects.map fun o => o.id.text).Nodup)
    (hruntimes : (doc.runtimes.map fun r => r.id.text).Nodup) {root : Root} :
    doc.normal.checkRootClosure root.normal = .ok () ↔ doc.checkRootClosure root = .ok () := by
  have hfind : findBy (fun o => o.id.text) doc.normal.objects root.normal.id.text =
      findBy (fun o => o.id.text) doc.objects root.id.text :=
    (findBy_perm hobjects (sortBy_perm _ _).symm _).symm
  rw [Inventory.checkRootClosure, Inventory.checkRootClosure, hfind, membersOf_normal hobjects,
    runtimesOf_normal hruntimes, checkClosure_normal]

theorem volumes_normal {doc : Inventory} :
    (doc.normal.roots.Pairwise fun a b => ∀ v ∈ a.volumeIds, ∀ w ∈ b.volumeIds, v.text ≠ w.text) ↔
      doc.roots.Pairwise fun a b => ∀ v ∈ a.volumeIds, ∀ w ∈ b.volumeIds, v.text ≠ w.text := by
  rw [roots_normal, List.pairwise_map]
  simp only [Root.normal, mem_sortBy]
  apply (sortBy_perm _ doc.roots).pairwise_iff
  intro a b h v hv w hw
  exact (h w hw v hv).symm

theorem foreign_normal {doc : Inventory} :
    (∀ list, doc.normal.opaqueForeignObjects = some list →
      (∀ f ∈ list, checkForeign doc.normal.scope.vgUuid doc.normal.objects [] f = .ok ()) ∧
        (list.map fun f => f.name.text).Nodup ∧
        (list.map fun f => withoutDashes f.uuid.text).Nodup) ↔
    ∀ list, doc.opaqueForeignObjects = some list →
      (∀ f ∈ list, checkForeign doc.scope.vgUuid doc.objects [] f = .ok ()) ∧
        (list.map fun f => f.name.text).Nodup ∧
        (list.map fun f => withoutDashes f.uuid.text).Nodup := by
  simp only [checkForeign_normal]
  cases hlist : doc.opaqueForeignObjects with
  | none => simp [Inventory.normal, hlist]
  | some list =>
    have hnormal : doc.normal.opaqueForeignObjects = some (sortBy (fun f => f.name.text) list) := by
      simp [Inventory.normal, hlist]
    simp only [hnormal, Option.some.injEq, forall_eq', mem_sortBy, nodup_map_sortBy]

/-- An inventory is accepted exactly when its normal form is. -/
theorem accepted_normal {doc : Inventory} : Accepted doc.normal ↔ Accepted doc := by
  have hobject : (∀ o ∈ doc.normal.objects, checkObject doc.normal.roots [] o = .ok ()) ↔
      ∀ o ∈ doc.objects, checkObject doc.normal.roots [] o = .ok () := by
    simp only [Inventory.normal, mem_sortBy]
  have hruntime : (∀ r ∈ doc.normal.runtimes, checkRuntime doc.normal.roots [] r = .ok ()) ↔
      ∀ r ∈ doc.runtimes, checkRuntime doc.normal.roots [] r = .ok () := by
    simp only [Inventory.normal, mem_sortBy]
  constructor
  · intro h
    have hroots := rootIds_normal.mp h.rootIds
    have hobjects := (nodup_map_sortBy _).mp h.objectIds
    have hruntimes := (nodup_map_sortBy _).mp h.runtimeIds
    refine ⟨h.header, checkScope_normal.mp h.scope, ?_, hroots, volumes_normal.mp h.volumes, ?_,
      hobjects, (nodup_map_sortBy _).mp h.objectUuids, ?_, hruntimes,
      (nodup_map_sortBy _).mp h.dmUuids, ?_, ?_⟩
    · intro r hr
      exact checkRoot_normal.mp (h.root r.normal (mem_roots_normal.mpr ⟨r, hr, rfl⟩))
    · intro o ho
      rw [← checkObject_normal hroots]
      exact hobject.mp h.object o ho
    · intro r hr
      rw [← checkRuntime_normal hroots]
      exact hruntime.mp h.runtime r hr
    · exact foreign_normal.mp h.foreign
    · intro r hr
      exact (checkRootClosure_normal hobjects hruntimes).mp
        (h.closure r.normal (mem_roots_normal.mpr ⟨r, hr, rfl⟩))
  · intro h
    refine ⟨h.header, checkScope_normal.mpr h.scope, ?_, rootIds_normal.mpr h.rootIds,
      volumes_normal.mpr h.volumes, ?_, (nodup_map_sortBy _).mpr h.objectIds,
      (nodup_map_sortBy _).mpr h.objectUuids, ?_, (nodup_map_sortBy _).mpr h.runtimeIds,
      (nodup_map_sortBy _).mpr h.dmUuids, foreign_normal.mpr h.foreign, ?_⟩
    · intro r hr
      obtain ⟨root, hroot, rfl⟩ := mem_roots_normal.mp hr
      exact checkRoot_normal.mpr (h.root root hroot)
    · refine hobject.mpr fun o ho => ?_
      rw [checkObject_normal h.rootIds]
      exact h.object o ho
    · refine hruntime.mpr fun r hr => ?_
      rw [checkRuntime_normal h.rootIds]
      exact h.runtime r hr
    · intro r hr
      obtain ⟨root, hroot, rfl⟩ := mem_roots_normal.mp hr
      exact (checkRootClosure_normal h.objectIds h.runtimeIds).mpr (h.closure root hroot)

theorem normal_normal {doc : Inventory} : doc.normal.normal = doc.normal := by
  have hroot : ∀ r : Root, r.normal.normal = r.normal := by
    intro r
    simp [Root.normal]
  have hroots : doc.normal.roots.map Root.normal = doc.normal.roots := by
    rw [roots_normal, List.map_map]
    exact List.map_congr_left fun r _ => hroot r
  have hforeign : (doc.opaqueForeignObjects.map (sortBy fun f => f.name.text)).map
      (sortBy fun f => f.name.text) = doc.opaqueForeignObjects.map (sortBy fun f => f.name.text) := by
    cases doc.opaqueForeignObjects <;> simp
  rw [Inventory.normal, hroots]
  simp [Inventory.normal, Scope.normal, hforeign]

/-- A validated inventory passes validation again, unchanged. -/
theorem validateInventory_idem {doc : Inventory} (h : Accepted doc) :
    validateInventory doc.normal = .ok doc.normal :=
  validateInventory_eq_ok.mpr ⟨accepted_normal.mpr h, normal_normal.symm⟩

end SharedLvmThin.StoragePlan
