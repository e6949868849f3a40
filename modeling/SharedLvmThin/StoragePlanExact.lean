import Mathlib.Data.List.Forall2
import SharedLvmThin.StoragePlan

/-! A plan is exact: it exists exactly for the complete set of volumes its VM owns, its members
and the foreign baseline partition the inventory, and absence is observed exactly when the
later inventory is the earlier one without the planned roots, up to order. -/

namespace SharedLvmThin.StoragePlan
open Perl KeyedLists

/-! ## Equality up to order -/

structure Scope.SameUpToOrder (a b : Scope) : Prop where
  storageIds : a.storageIds.Perm b.storageIds
  others : { a with storageIds := [] } = { b with storageIds := [] }

structure Root.SameUpToOrder (a b : Root) : Prop where
  objectIds : a.objectIds.Perm b.objectIds
  runtimeIds : a.runtimeIds.Perm b.runtimeIds
  volumeIds : a.volumeIds.Perm b.volumeIds
  others : { a with objectIds := [], runtimeIds := [], volumeIds := [] } =
    { b with objectIds := [], runtimeIds := [], volumeIds := [] }

structure Inventory.SameContent (a b : Inventory) : Prop where
  roots : ∃ reordered, a.roots.Perm reordered ∧
    List.Forall₂ Root.SameUpToOrder reordered b.roots
  objects : a.objects.Perm b.objects
  runtimes : a.runtimes.Perm b.runtimes
  opaqueForeignObjects : Option.Rel List.Perm a.opaqueForeignObjects b.opaqueForeignObjects

/-- The inventory without the given roots and their members. -/
def Inventory.without (doc : Inventory) (rootIds : List String) : Inventory :=
  { doc with
    roots := doc.roots.filter fun r => r.id.text ∉ rootIds
    objects := doc.objects.filter fun o => o.rootId.text ∉ rootIds
    runtimes := doc.runtimes.filter fun r => r.rootId.text ∉ rootIds }

theorem checkRoot_ids {storageIds : List Scalar} {root : Root}
    (h : checkRoot storageIds [] root = .ok ()) :
    checkIds root.objectIds "root objects" = .ok () ∧
      checkIds root.runtimeIds "root runtimes" = .ok () ∧
      checkIds root.volumeIds "root volumes" = .ok () := by
  simp only [checkRoot, bind_unit_eq_ok] at h
  obtain ⟨-, -, -, hobjects, hruntimes, hvolumes, -⟩ := h
  exact ⟨hobjects, hruntimes, hvolumes⟩

theorem nodup_of_checkIds {ids : List Scalar} {label : String} (h : checkIds ids label = .ok ()) :
    (ids.map Scalar.text).Nodup :=
  (checkIds_eq_ok.mp h).2

theorem scope_normal_eq_iff {a b : Scope} (h : checkScope a = .ok ()) :
    a.normal = b.normal ↔ a.SameUpToOrder b := by
  have hids : (a.storageIds.map Scalar.text).Nodup := by
    simp only [checkScope, bind_unit_eq_ok] at h
    exact nodup_of_checkIds h.2.2.2.2.2.2.1
  simp only [Scope.normal, Scope.mk.injEq, sortBy_eq_iff hids]
  constructor
  · intro heq
    obtain ⟨h1, h2, h3, h4, h5, hperm, h6⟩ := heq
    exact ⟨hperm, by simp only [h1, h2, h3, h4, h5, h6]⟩
  · intro hsame
    obtain ⟨hperm, hothers⟩ := hsame
    simp only [Scope.mk.injEq, true_and] at hothers
    obtain ⟨h1, h2, h3, h4, h5, h6⟩ := hothers
    exact ⟨h1, h2, h3, h4, h5, hperm, h6⟩

theorem root_normal_eq_iff {storageIds : List Scalar} {a b : Root}
    (h : checkRoot storageIds [] a = .ok ()) : a.normal = b.normal ↔ a.SameUpToOrder b := by
  obtain ⟨hobjects, hruntimes, hvolumes⟩ := checkRoot_ids h
  simp only [Root.normal, Root.mk.injEq, sortBy_eq_iff (nodup_of_checkIds hobjects),
    sortBy_eq_iff (nodup_of_checkIds hruntimes), sortBy_eq_iff (nodup_of_checkIds hvolumes)]
  constructor
  · intro heq
    obtain ⟨h1, h2, h3, h4, h5, ho, hr, hv⟩ := heq
    exact ⟨ho, hr, hv, by simp only [h1, h2, h3, h4, h5]⟩
  · intro hsame
    obtain ⟨ho, hr, hv, hothers⟩ := hsame
    simp only [Root.mk.injEq, and_true] at hothers
    obtain ⟨h1, h2, h3, h4, h5⟩ := hothers
    exact ⟨h1, h2, h3, h4, h5, ho, hr, hv⟩

theorem map_perm_map_iff {α β : Type} {f : α → β} {l l' : List α} :
    (l.map f).Perm (l'.map f) ↔ ∃ m, l.Perm m ∧ List.Forall₂ (fun a b => f a = f b) m l' := by
  constructor
  · intro h
    have hcomp : Relation.Comp (List.Forall₂ fun a b => f a = b) List.Perm l (l'.map f) :=
      ⟨l.map f, by simp [List.forall₂_map_right_iff, List.forall₂_same], h⟩
    rw [List.forall₂_comp_perm_eq_perm_comp_forall₂] at hcomp
    obtain ⟨m, hperm, hforall⟩ := hcomp
    exact ⟨m, hperm, List.forall₂_map_right_iff.mp hforall⟩
  · intro h
    obtain ⟨m, hperm, hforall⟩ := h
    have hmap : m.map f = l'.map f := by
      rw [← List.forall₂_eq_eq_eq, List.forall₂_map_left_iff, List.forall₂_map_right_iff]
      exact hforall
    rw [← hmap]
    exact hperm.map f

theorem forall₂_congr_left {α β : Type} {R S : α → β → Prop} {l : List α} {l' : List β}
    (h : ∀ a ∈ l, ∀ b, R a b ↔ S a b) : List.Forall₂ R l l' ↔ List.Forall₂ S l l' := by
  induction l generalizing l' with
  | nil => simp
  | cons a l ih =>
    cases l' with
    | nil => simp
    | cons b l' =>
      rw [List.forall₂_cons, List.forall₂_cons, h a (by simp) b, ih fun c hc => h c (by simp [hc])]

theorem sameRoots_iff {storageIds : List Scalar} {l l' : List Root}
    (h : ∀ r ∈ l, checkRoot storageIds [] r = .ok ()) :
    (l.map Root.normal).Perm (l'.map Root.normal) ↔
      ∃ reordered, l.Perm reordered ∧ List.Forall₂ Root.SameUpToOrder reordered l' := by
  rw [map_perm_map_iff]
  refine exists_congr fun m => and_congr_right fun hperm => forall₂_congr_left ?_
  intro r hr b
  exact root_normal_eq_iff (h r (hperm.mem_iff.mpr hr))

/-! ## When a plan exists -/

section
variable {doc : Inventory} (h : Accepted doc) (vmid : String)
include h

theorem volumes_nodup : ((doc.roots.flatMap Root.volumeIds).map Scalar.text).Nodup := by
  rw [List.map_flatMap, List.nodup_flatMap]
  constructor
  · intro r hr
    exact nodup_of_checkIds (checkRoot_ids (h.root r hr)).2.2
  · refine h.volumes.imp ?_
    intro a b hab t ha hb
    obtain ⟨v, hv, rfl⟩ := List.mem_map.mp ha
    obtain ⟨w, hw, htext⟩ := List.mem_map.mp hb
    exact hab v hv w hw htext.symm

theorem ownedVolumes_nodup : ((doc.ownedVolumes vmid).map Scalar.text).Nodup :=
  (volumes_nodup h).sublist ((List.filter_sublist.flatMap _).map _)

theorem isId_of_mem_ownedVolumes {v : Scalar} (hv : v ∈ doc.ownedVolumes vmid) : isId v = true := by
  obtain ⟨r, hr, hmem⟩ := List.mem_flatMap.mp hv
  have hids := (checkRoot_ids (h.root r (List.mem_of_mem_filter hr))).2.2
  exact (checkIds_eq_ok.mp hids).1 v hmem

theorem isVmid_of_mem_ownedVolumes {v : Scalar} (hv : v ∈ doc.ownedVolumes vmid) :
    isVmid vmid = true := by
  obtain ⟨r, hr, -⟩ := List.mem_flatMap.mp hv
  obtain ⟨hroot, howner⟩ := List.mem_filter.mp hr
  have hcheck := h.root r hroot
  simp only [checkRoot, bind_unit_eq_ok, required_eq_ok, Bool.and_eq_true] at hcheck
  rw [← of_decide_eq_true howner]
  exact hcheck.2.2.1.1

end

theorem build_eq_ok {before : Inventory} {vmid : String} {requested : List Scalar} {p : Plan} :
    build before vmid requested = .ok p ↔ isVmid vmid = true ∧
      checkIds requested "requested volumes" = .ok () ∧ requested ≠ [] ∧
      sortBy Scalar.text (before.ownedVolumes vmid) = sortBy Scalar.text requested ∧
      before.derivePlan vmid = .ok p := by
  simp only [build, bind_unit_eq_ok, required_eq_ok, same_required_eq_ok, decide_eq_true_eq]

/-- On an accepted inventory the request only has to be the owned volumes in some order. -/
theorem build_accepted {doc : Inventory} (h : Accepted doc) {vmid : String}
    {requested : List Scalar} {p : Plan} :
    build doc vmid requested = .ok p ↔ requested ≠ [] ∧ (doc.ownedVolumes vmid).Perm requested ∧
      doc.derivePlan vmid = .ok p := by
  rw [build_eq_ok, sortBy_eq_iff (ownedVolumes_nodup h vmid)]
  constructor
  · intro hbuild
    exact hbuild.2.2
  · intro hbuild
    obtain ⟨hne, hperm, hplan⟩ := hbuild
    obtain ⟨v, rest, rfl⟩ := List.exists_cons_of_ne_nil hne
    have hv : v ∈ doc.ownedVolumes vmid := hperm.mem_iff.mpr (by simp)
    refine ⟨isVmid_of_mem_ownedVolumes h vmid hv, checkIds_eq_ok.mpr ⟨?_, ?_⟩, hne, hperm, hplan⟩
    · intro w hw
      exact isId_of_mem_ownedVolumes h vmid (hperm.mem_iff.mpr hw)
    · exact (hperm.map _).nodup_iff.mp (ownedVolumes_nodup h vmid)

theorem derivePlan_eq_ok {before : Inventory} {vmid : String} {p : Plan}
    (h : before.derivePlan vmid = .ok p) :
    ∃ foreignSha256, p.toPlanBody = before.planBody vmid foreignSha256 := by
  simp only [Inventory.derivePlan, bind_eq_ok, pure_eq_ok] at h
  obtain ⟨foreignSha256, -, planSha256, -, rfl⟩ := h
  exact ⟨foreignSha256, rfl⟩

theorem derivePlan_isOk (before : Inventory) (vmid : String) :
    ∃ p, before.derivePlan vmid = .ok p := by
  obtain ⟨foreignSha256, hforeign⟩ := jsonDigest_isOk (before.foreign vmid)
  obtain ⟨planSha256, hplan⟩ := jsonDigest_isOk (before.planBody vmid foreignSha256)
  exact ⟨⟨before.planBody vmid foreignSha256, planSha256⟩, by
    simp only [Inventory.derivePlan, hforeign, bind_eq_ok, pure_eq_ok, Except.ok.injEq,
      exists_eq_left', hplan]⟩

theorem plan_eq_ok {doc : Inventory} (h : Accepted doc) {vmid : String} {requested : List Scalar}
    {p : Plan} : plan (.ok doc) vmid requested = .ok p ↔ requested ≠ [] ∧
      (doc.normal.ownedVolumes vmid).Perm requested ∧ doc.normal.derivePlan vmid = .ok p := by
  have hvalid : validateInventory doc = .ok doc.normal := validateInventory_eq_ok.mpr ⟨h, rfl⟩
  simp only [plan, inventory, hvalid, bind_eq_ok, Except.ok.injEq, exists_eq_left']
  exact build_accepted (accepted_normal.mpr h)

theorem mem_ownedVolumes_normal {doc : Inventory} {vmid : String} {v : Scalar} :
    v ∈ doc.normal.ownedVolumes vmid ↔
      ∃ r ∈ doc.roots, r.ownerVmid.text = vmid ∧ v ∈ r.volumeIds := by
  simp only [Inventory.ownedVolumes, Inventory.owned, List.mem_flatMap, List.mem_filter,
    mem_roots_normal, decide_eq_true_eq]
  constructor
  · intro hv
    obtain ⟨-, ⟨⟨r, hr, rfl⟩, howner⟩, hmem⟩ := hv
    exact ⟨r, hr, howner, mem_sortBy.mp hmem⟩
  · intro hv
    obtain ⟨r, hr, howner, hmem⟩ := hv
    exact ⟨r.normal, ⟨⟨r, hr, rfl⟩, howner⟩, mem_sortBy.mpr hmem⟩

/-- The request is duplicate-free, not empty and the set of all volumes of owned roots. -/
def CompleteRequest (doc : Inventory) (vmid : String) (requested : List Scalar) : Prop :=
  requested ≠ [] ∧ requested.Nodup ∧
    ∀ v, v ∈ requested ↔ ∃ r ∈ doc.roots, r.ownerVmid.text = vmid ∧ v ∈ r.volumeIds

theorem plan_exists_iff {doc : Inventory} (h : Accepted doc) (vmid : String)
    (requested : List Scalar) :
    (∃ p, plan (.ok doc) vmid requested = .ok p) ↔ CompleteRequest doc vmid requested := by
  have hnodup : (doc.normal.ownedVolumes vmid).Nodup :=
    (ownedVolumes_nodup (accepted_normal.mpr h) vmid).of_map
  constructor
  · intro hplan
    obtain ⟨p, hp⟩ := hplan
    obtain ⟨hne, hperm, -⟩ := (plan_eq_ok h).mp hp
    refine ⟨hne, hperm.nodup_iff.mp hnodup, ?_⟩
    intro v
    rw [← hperm.mem_iff, mem_ownedVolumes_normal]
  · intro hcomplete
    obtain ⟨hne, hdup, hmem⟩ := hcomplete
    obtain ⟨p, hp⟩ := derivePlan_isOk doc.normal vmid
    refine ⟨p, (plan_eq_ok h).mpr ⟨hne, ?_, hp⟩⟩
    rw [List.perm_ext_iff_of_nodup hnodup hdup]
    intro v
    rw [hmem, mem_ownedVolumes_normal]

/-! ## What a plan holds -/

/-- All persistent members named by a plan. -/
def Plan.objects (p : Plan) : List StorageObject :=
  (p.volumes.flatMap PlannedVolume.persistentObjects).dedup

def Plan.runtimes (p : Plan) : List Runtime :=
  (p.volumes.flatMap PlannedVolume.runtimeObjects).dedup

/-- The planned members are those of the owned roots, and what the plan names and its foreign
baseline partition the inventory. -/
structure Plan.Partitions (p : Plan) (doc : Inventory) (vmid : String) : Prop where
  rootIds : p.rootIds.Perm ((doc.roots.filter fun r => r.ownerVmid.text = vmid).map fun r => r.id.text)
  objects : ∀ o, o ∈ p.objects ↔
    o ∈ doc.objects ∧ ∃ r ∈ doc.roots, r.ownerVmid.text = vmid ∧ o.rootId.text = r.id.text
  runtimes : ∀ t, t ∈ p.runtimes ↔
    t ∈ doc.runtimes ∧ ∃ r ∈ doc.roots, r.ownerVmid.text = vmid ∧ t.rootId.text = r.id.text
  allRoots : (doc.roots.map Root.normal).Perm
    ((doc.roots.filter fun r => r.ownerVmid.text = vmid).map Root.normal ++ p.foreignBaseline.roots)
  allObjects : doc.objects.Perm (p.objects ++ p.foreignBaseline.objects)
  allRuntimes : doc.runtimes.Perm (p.runtimes ++ p.foreignBaseline.runtimes)
  opaqueForeignObjects :
    Option.Rel List.Perm p.foreignBaseline.opaqueForeignObjects doc.opaqueForeignObjects

theorem mem_selected_normal {doc : Inventory} {vmid id : String} :
    id ∈ doc.normal.selected vmid ↔ ∃ r ∈ doc.roots, r.ownerVmid.text = vmid ∧ id = r.id.text := by
  simp only [Inventory.selected, Inventory.owned, List.mem_map, List.mem_filter, mem_roots_normal,
    decide_eq_true_eq]
  constructor
  · intro hid
    obtain ⟨-, ⟨⟨r, hr, rfl⟩, howner⟩, rfl⟩ := hid
    exact ⟨r, hr, howner, rfl⟩
  · intro hid
    obtain ⟨r, hr, howner, rfl⟩ := hid
    exact ⟨r.normal, ⟨⟨r, hr, rfl⟩, howner⟩, rfl⟩

theorem selected_nodup {doc : Inventory} (h : Accepted doc) (vmid : String) :
    (doc.selected vmid).Nodup :=
  h.rootIds.sublist (List.filter_sublist.map _)

theorem mem_objects_normal {doc : Inventory} {o : StorageObject} :
    o ∈ doc.normal.objects ↔ o ∈ doc.objects := mem_sortBy

theorem mem_runtimes_normal {doc : Inventory} {t : Runtime} :
    t ∈ doc.normal.runtimes ↔ t ∈ doc.runtimes := mem_sortBy

section
variable {doc : Inventory} {vmid foreignSha256 : String} {p : Plan}
  (hp : p.toPlanBody = doc.normal.planBody vmid foreignSha256)
include hp

theorem mem_rootIds {id : String} : id ∈ p.rootIds ↔ id ∈ doc.normal.selected vmid := by
  rw [hp]
  simp [Inventory.planBody]

theorem mem_volumes {volume : PlannedVolume} : volume ∈ p.volumes ↔
    ∃ r ∈ doc.normal.owned vmid, ∃ v ∈ r.volumeIds, doc.normal.plannedVolume r v = volume := by
  rw [hp]
  simp [Inventory.planBody, Inventory.plannedVolumes]

theorem mem_foreign_objects {o : StorageObject} : o ∈ p.foreignBaseline.objects ↔
    o ∈ doc.objects ∧ o.rootId.text ∉ doc.normal.selected vmid := by
  rw [hp]
  simp [Inventory.planBody, Inventory.foreign, mem_objects_normal]

theorem mem_foreign_runtimes {t : Runtime} : t ∈ p.foreignBaseline.runtimes ↔
    t ∈ doc.runtimes ∧ t.rootId.text ∉ doc.normal.selected vmid := by
  rw [hp]
  simp [Inventory.planBody, Inventory.foreign, mem_runtimes_normal]

end

theorem exists_volume {doc : Inventory} (h : Accepted doc) {vmid id : String} (hid : id ∈ doc.normal.selected vmid) :
    ∃ r ∈ doc.normal.owned vmid, r.id.text = id ∧ ∃ v, v ∈ r.volumeIds := by
  obtain ⟨r, hr, rfl⟩ := List.mem_map.mp hid
  have hcheck := (accepted_normal.mpr h).root r (List.mem_of_mem_filter hr)
  simp only [checkRoot, bind_unit_eq_ok, required_eq_ok, Bool.and_eq_true, decide_eq_true_eq]
    at hcheck
  exact ⟨r, hr, rfl, List.exists_mem_of_ne_nil _ hcheck.2.2.2.2.2.2.1.2⟩

section
variable {doc : Inventory} {vmid foreignSha256 : String} {p : Plan} (h : Accepted doc)
  (hp : p.toPlanBody = doc.normal.planBody vmid foreignSha256)
include h hp

theorem mem_objects {o : StorageObject} :
    o ∈ p.objects ↔ o ∈ doc.objects ∧ o.rootId.text ∈ doc.normal.selected vmid := by
  simp only [Plan.objects, List.mem_dedup, List.mem_flatMap]
  constructor
  · intro ho
    obtain ⟨volume, hvolume, hmem⟩ := ho
    obtain ⟨r, hr, v, -, rfl⟩ := (mem_volumes hp).mp hvolume
    obtain ⟨hmem, hroot⟩ := List.mem_filter.mp hmem
    exact ⟨mem_objects_normal.mp hmem, List.mem_map.mpr ⟨r, hr, (of_decide_eq_true hroot).symm⟩⟩
  · intro ho
    obtain ⟨hmem, hroot⟩ := ho
    obtain ⟨r, hr, hid, v, hv⟩ := exists_volume h hroot
    refine ⟨_, (mem_volumes hp).mpr ⟨r, hr, v, hv, rfl⟩, ?_⟩
    exact List.mem_filter.mpr ⟨mem_objects_normal.mpr hmem, decide_eq_true hid.symm⟩

theorem mem_runtimes {t : Runtime} :
    t ∈ p.runtimes ↔ t ∈ doc.runtimes ∧ t.rootId.text ∈ doc.normal.selected vmid := by
  simp only [Plan.runtimes, List.mem_dedup, List.mem_flatMap]
  constructor
  · intro ht
    obtain ⟨volume, hvolume, hmem⟩ := ht
    obtain ⟨r, hr, v, -, rfl⟩ := (mem_volumes hp).mp hvolume
    obtain ⟨hmem, hroot⟩ := List.mem_filter.mp hmem
    exact ⟨mem_runtimes_normal.mp hmem, List.mem_map.mpr ⟨r, hr, (of_decide_eq_true hroot).symm⟩⟩
  · intro ht
    obtain ⟨hmem, hroot⟩ := ht
    obtain ⟨r, hr, hid, v, hv⟩ := exists_volume h hroot
    refine ⟨_, (mem_volumes hp).mpr ⟨r, hr, v, hv, rfl⟩, ?_⟩
    exact List.mem_filter.mpr ⟨mem_runtimes_normal.mpr hmem, decide_eq_true hid.symm⟩

/-- Distinct roots have distinct ids, so an unselected id is an unowned root. -/
theorem foreign_roots : p.foreignBaseline.roots.Perm
    ((doc.roots.filter fun r => r.ownerVmid.text ≠ vmid).map Root.normal) := by
  have hroots : p.foreignBaseline.roots =
      doc.normal.roots.filter fun r => r.id.text ∉ doc.normal.selected vmid := by
    rw [hp]
    rfl
  have hfilter : (doc.normal.roots.filter fun r => r.id.text ∉ doc.normal.selected vmid) =
      doc.normal.roots.filter fun r => r.ownerVmid.text ≠ vmid := by
    apply List.filter_congr
    intro r hr
    rw [decide_eq_decide]
    obtain ⟨root, hroot, rfl⟩ := mem_roots_normal.mp hr
    rw [not_iff_not, mem_selected_normal]
    constructor
    · intro hsel
      obtain ⟨other, hother, howner, hid⟩ := hsel
      rw [List.inj_on_of_nodup_map h.rootIds hroot hother hid]
      exact howner
    · intro howner
      exact ⟨root, hroot, howner, rfl⟩
  rw [hroots, hfilter, roots_normal, List.filter_map]
  exact ((sortBy_perm _ doc.roots).filter _).map _

end

theorem perm_partition {α : Type} {l planned foreign : List α} {p : α → Prop} (hl : l.Nodup)
    (hplanned : planned.Nodup) (hforeign : foreign.Nodup) (hp : ∀ a, a ∈ planned ↔ a ∈ l ∧ p a)
    (hf : ∀ a, a ∈ foreign ↔ a ∈ l ∧ ¬ p a) : l.Perm (planned ++ foreign) := by
  have hdisjoint : planned.Disjoint foreign := by
    intro a ha hb
    exact ((hf a).mp hb).2 ((hp a).mp ha).2
  rw [List.perm_ext_iff_of_nodup hl (hplanned.append hforeign hdisjoint)]
  intro a
  rw [List.mem_append, hp, hf]
  by_cases hpa : p a <;> simp [hpa]

theorem opaque_normal (doc : Inventory) :
    Option.Rel List.Perm doc.normal.opaqueForeignObjects doc.opaqueForeignObjects := by
  change Option.Rel List.Perm (doc.opaqueForeignObjects.map _) _
  cases doc.opaqueForeignObjects with
  | none => exact .none
  | some list => exact .some (sortBy_perm _ list)

theorem plan_partitions {doc : Inventory} (h : Accepted doc) {vmid foreignSha256 : String}
    {p : Plan} (hp : p.toPlanBody = doc.normal.planBody vmid foreignSha256) :
    p.Partitions doc vmid where
  rootIds := by
    have hids : p.rootIds = sortBy id (doc.normal.selected vmid).dedup := by rw [hp]; rfl
    rw [hids, (selected_nodup (accepted_normal.mpr h) vmid).dedup]
    refine (sortBy_perm _ _).trans ?_
    rw [Inventory.selected, Inventory.owned, roots_normal, List.filter_map, List.map_map]
    exact ((sortBy_perm _ doc.roots).filter _).map _
  objects := by
    intro o
    rw [mem_objects h hp, mem_selected_normal]
  runtimes := by
    intro t
    rw [mem_runtimes h hp, mem_selected_normal]
  allRoots := by
    refine List.Perm.trans ?_ ((foreign_roots h hp).symm.append_left _)
    rw [← List.map_append]
    have hsplit := List.filter_append_perm (fun r : Root => r.ownerVmid.text = vmid) doc.roots
    refine (hsplit.symm.map Root.normal).trans (List.Perm.of_eq ?_)
    simp
  allObjects := by
    refine perm_partition h.objectIds.of_map (List.nodup_dedup _) ?_ (fun o => mem_objects h hp)
      fun o => mem_foreign_objects hp
    rw [hp]
    exact ((nodup_map_sortBy _).mpr h.objectIds).of_map.filter _
  allRuntimes := by
    refine perm_partition h.runtimeIds.of_map (List.nodup_dedup _) ?_ (fun o => mem_runtimes h hp)
      fun o => mem_foreign_runtimes hp
    rw [hp]
    exact ((nodup_map_sortBy _).mpr h.runtimeIds).of_map.filter _
  opaqueForeignObjects := by
    rw [hp]
    exact opaque_normal doc

/-! ## When absence is observed -/

theorem volids_perm {doc : Inventory} {vmid foreignSha256 : String} {p : Plan}
    (hp : p.toPlanBody = doc.normal.planBody vmid foreignSha256) :
    (doc.normal.ownedVolumes vmid).Perm (p.volumes.map PlannedVolume.volid) := by
  have hvolids : (doc.normal.plannedVolumes vmid).map PlannedVolume.volid =
      doc.normal.ownedVolumes vmid := by
    simp [Inventory.plannedVolumes, Inventory.ownedVolumes, List.map_flatMap, Function.comp_def,
      Inventory.plannedVolume]
  rw [hp, ← hvolids]
  exact ((sortBy_perm _ _).map _).symm

/-- A plan that was just built is rebuilt as it is. -/
theorem build_rebuilt {doc : Inventory} (h : Accepted doc) {vmid : String} {requested : List Scalar}
    {p : Plan} (hplan : plan (.ok doc) vmid requested = .ok p) :
    build doc.normal p.vmid (p.volumes.map PlannedVolume.volid) = .ok p := by
  obtain ⟨hne, hperm, hderive⟩ := (plan_eq_ok h).mp hplan
  obtain ⟨foreignSha256, hp⟩ := derivePlan_eq_ok hderive
  have hvmid : p.vmid = vmid := by
    rw [hp]
    rfl
  rw [hvmid]
  refine (build_accepted (accepted_normal.mpr h)).mpr ⟨?_, volids_perm hp, hderive⟩
  intro hnil
  have hlength := (hperm.symm.trans (volids_perm hp)).length_eq
  rw [hnil, List.length_nil, List.length_eq_zero_iff] at hlength
  exact hne hlength

theorem observeAfter_isOk {before : Inventory} {p : Plan} {after : Inventory} :
    (∃ o, observeAfter before p after = .ok o ∧ o.result = "EXACT_PLANNED_STORAGE_ABSENT") ↔
      p.scope = after.scope ∧
      (∀ o ∈ after.objects, checkObjectGone
        (before.objects.filter fun o => o.rootId.text ∈ p.rootIds) o = .ok ()) ∧
      (∀ t ∈ after.runtimes, checkRuntimeGone
        (before.runtimes.filter fun r => r.rootId.text ∈ p.rootIds) t = .ok ()) ∧
      after.remaining = p.foreignBaseline := by
  obtain ⟨observed, hobserved⟩ := jsonDigest_isOk after
  simp only [observeAfter, same_required_eq_ok, bind_unit_eq_ok, forEach_eq_ok, hobserved]
  constructor
  · intro hex
    obtain ⟨o, ⟨hscope, hobjects, hruntimes, hbase, -⟩, -⟩ := hex
    exact ⟨hscope, hobjects, hruntimes, hbase⟩
  · intro hall
    obtain ⟨hscope, hobjects, hruntimes, hbase⟩ := hall
    exact ⟨_, ⟨hscope, hobjects, hruntimes, hbase, rfl⟩, rfl⟩

section
variable {doc : Inventory} {vmid foreignSha256 : String} {p : Plan} (h : Accepted doc)
  (hp : p.toPlanBody = doc.normal.planBody vmid foreignSha256)
include h hp

/-- The foreign baseline reuses no identity of a planned object. -/
theorem foreign_objects_gone {o : StorageObject} (ho : o ∈ p.foreignBaseline.objects) :
    checkObjectGone (doc.normal.objects.filter fun o => o.rootId.text ∈ p.rootIds) o = .ok () := by
  obtain ⟨hmem, hroot⟩ := (mem_foreign_objects hp).mp ho
  simp only [checkObjectGone, required_eq_ok, List.all_eq_true, List.mem_filter, Bool.and_eq_true,
    decide_eq_true_eq, mem_objects_normal, mem_rootIds hp]
  intro planned hplanned
  obtain ⟨hmem', hroot'⟩ := hplanned
  refine ⟨fun hid => ?_, fun huuid => ?_⟩
  · rw [List.inj_on_of_nodup_map h.objectIds hmem' hmem hid] at hroot'
    exact hroot hroot'
  · rw [List.inj_on_of_nodup_map h.objectUuids hmem' hmem huuid] at hroot'
    exact hroot hroot'

theorem foreign_runtimes_gone {t : Runtime} (ht : t ∈ p.foreignBaseline.runtimes) :
    checkRuntimeGone (doc.normal.runtimes.filter fun r => r.rootId.text ∈ p.rootIds) t = .ok () := by
  obtain ⟨hmem, hroot⟩ := (mem_foreign_runtimes hp).mp ht
  simp only [checkRuntimeGone, required_eq_ok, List.all_eq_true, List.mem_filter, Bool.and_eq_true,
    decide_eq_true_eq, mem_runtimes_normal, mem_rootIds hp]
  intro planned hplanned
  obtain ⟨hmem', hroot'⟩ := hplanned
  refine ⟨fun hid => ?_, fun huuid => ?_⟩
  · rw [List.inj_on_of_nodup_map h.runtimeIds hmem' hmem hid] at hroot'
    exact hroot hroot'
  · rw [List.inj_on_of_nodup_map h.dmUuids hmem' hmem huuid] at hroot'
    exact hroot hroot'

end

theorem foreignBaseline_eq {doc : Inventory} {vmid foreignSha256 : String} {p : Plan}
    (hp : p.toPlanBody = doc.normal.planBody vmid foreignSha256) :
    p.foreignBaseline = (doc.normal.without p.rootIds).remaining := by
  have hids : ∀ id, id ∉ doc.normal.selected vmid ↔ id ∉ p.rootIds := by
    intro id
    rw [mem_rootIds hp]
  have hforeign : p.foreignBaseline = doc.normal.foreign vmid := by
    rw [hp]
    rfl
  rw [hforeign]
  simp only [Inventory.foreign, Inventory.without, Inventory.remaining, hids]

theorem without_normal {doc : Inventory} (h : Accepted doc) (rootIds : List String) :
    doc.normal.without rootIds = (doc.without rootIds).normal := by
  have hroots : (doc.roots.map Root.normal).map (fun r => r.id.text) =
      doc.roots.map fun r => r.id.text := by
    rw [List.map_map]
    rfl
  simp only [Inventory.without, Inventory.normal, filter_sortBy h.objectIds,
    filter_sortBy h.runtimeIds, filter_sortBy (hroots ▸ h.rootIds), List.filter_map]
  rfl

theorem opaque_eq_iff {a b : Option (List ForeignObject)}
    (h : ∀ list, a = some list → (list.map fun f => f.name.text).Nodup) :
    a.map (sortBy fun f => f.name.text) = b.map (sortBy fun f => f.name.text) ↔
      Option.Rel List.Perm a b := by
  cases a with
  | none =>
    cases b with
    | none => simp
    | some list =>
      simp only [Option.map_none, Option.map_some, reduceCtorEq, false_iff]
      intro hrel
      cases hrel
  | some list =>
    cases b with
    | none =>
      simp only [Option.map_none, Option.map_some, reduceCtorEq, false_iff]
      intro hrel
      cases hrel
    | some list' =>
      simp only [Option.map_some, Option.some.injEq, sortBy_eq_iff (h list rfl)]
      constructor
      · intro hperm
        exact .some hperm
      · intro hrel
        cases hrel with
        | some hperm => exact hperm

/-- With distinct keys, equal normal forms are the same content up to order. -/
theorem remaining_eq_iff {a b : Inventory} (h : Accepted a) :
    a.normal.remaining = b.normal.remaining ↔ a.SameContent b := by
  have hroots : ((a.roots.map Root.normal).map fun r => r.id.text).Nodup := by
    rw [List.map_map]
    exact h.rootIds
  simp only [Inventory.remaining, Inventory.normal, Baseline.mk.injEq, sortBy_eq_iff hroots,
    sortBy_eq_iff h.objectIds, sortBy_eq_iff h.runtimeIds, sameRoots_iff h.root,
    opaque_eq_iff fun list hlist => (h.foreign list hlist).2.1]
  constructor
  · intro heq
    obtain ⟨hr, ho, ht, hf⟩ := heq
    exact ⟨hr, ho, ht, hf⟩
  · intro hsame
    exact ⟨hsame.roots, hsame.objects, hsame.runtimes, hsame.opaqueForeignObjects⟩

theorem observe_exact {doc later : Inventory} (h : Accepted doc) (hlater : Accepted later)
    {vmid : String} {requested : List Scalar} {p : Plan}
    (hplan : plan (.ok doc) vmid requested = .ok p) :
    (∃ o, observe (.ok later) p = .ok o ∧ o.result = "EXACT_PLANNED_STORAGE_ABSENT") ↔
      later.scope.SameUpToOrder doc.scope ∧ later.SameContent (doc.without p.rootIds) := by
  obtain ⟨-, -, hderive⟩ := (plan_eq_ok h).mp hplan
  obtain ⟨foreignSha256, hp⟩ := derivePlan_eq_ok hderive
  have hbefore : validateInventory p.before = .ok doc.normal := by
    rw [hp]
    exact validateInventory_idem h
  have hvalid : validateInventory later = .ok later.normal :=
    validateInventory_eq_ok.mpr ⟨hlater, rfl⟩
  have hscope : p.scope = doc.scope.normal := by
    rw [hp]
    rfl
  have hunfold : ∀ o, observe (.ok later) p = .ok o ↔
      observeAfter doc.normal p later.normal = .ok o := by
    intro o
    simp only [observe, hbefore, build_rebuilt h hplan, inventory, hvalid, bind_eq_ok,
      Except.ok.injEq, exists_eq_left', same_eq_ok, required_eq_ok, iff_true, exists_const,
      true_and, exists_eq_left]
  simp only [hunfold, observeAfter_isOk, hscope]
  rw [← scope_normal_eq_iff hlater.scope, ← remaining_eq_iff hlater, ← without_normal h,
    ← foreignBaseline_eq hp]
  constructor
  · intro hall
    exact ⟨hall.1.symm, hall.2.2.2⟩
  · intro hall
    obtain ⟨hsame, hremaining⟩ := hall
    have hobjects : later.normal.objects = p.foreignBaseline.objects :=
      congrArg Baseline.objects hremaining
    have hruntimes : later.normal.runtimes = p.foreignBaseline.runtimes :=
      congrArg Baseline.runtimes hremaining
    refine ⟨hsame.symm, ?_, ?_, hremaining⟩
    · intro o ho
      exact foreign_objects_gone h hp (hobjects ▸ ho)
    · intro t ht
      exact foreign_runtimes_gone h hp (hruntimes ▸ ht)

/-- For an accepted inventory a plan exists exactly for the complete request, it partitions the
inventory, and a later accepted inventory shows absence exactly when it is the earlier one
without the planned roots, objects and runtimes. -/
theorem plan_and_observation_exact {doc before : Inventory}
    (hdoc : validateInventory doc = .ok before) (vmid : String) (requested : List Scalar) :
    ((∃ p, plan (.ok doc) vmid requested = .ok p) ↔ CompleteRequest doc vmid requested) ∧
      ∀ p, plan (.ok doc) vmid requested = .ok p →
        p.Partitions doc vmid ∧
        ∀ later after, validateInventory later = .ok after →
          ((∃ o, observe (.ok later) p = .ok o ∧ o.result = "EXACT_PLANNED_STORAGE_ABSENT") ↔
            later.scope.SameUpToOrder doc.scope ∧ later.SameContent (doc.without p.rootIds)) := by
  have h : Accepted doc := (validateInventory_eq_ok.mp hdoc).1
  refine ⟨plan_exists_iff h vmid requested, ?_⟩
  intro p hplan
  obtain ⟨-, -, hderive⟩ := (plan_eq_ok h).mp hplan
  obtain ⟨foreignSha256, hp⟩ := derivePlan_eq_ok hderive
  refine ⟨plan_partitions h hp, ?_⟩
  intro later after hlater
  exact observe_exact h (validateInventory_eq_ok.mp hlater).1 hplan

/-- A Thick volume of one VM with its anchor and HEAD generation. -/
def thickRoot (vmid : String) : Root where
  id := .string ("root-" ++ vmid)
  mode := .string "thick"
  phase := .string "MATERIALIZED"
  ownerVmid := .string vmid
  namespaceName := .string ("ns-" ++ vmid)
  objectIds := [.string ("root-" ++ vmid), .string ("head-" ++ vmid)]
  runtimeIds := [.string ("dm-" ++ vmid)]
  volumeIds := [.string ("store:vm-" ++ vmid ++ "-disk-0")]

def thickMember (vmid name kind volume : String) : StorageObject where
  id := .string name
  uuid := .string ("uuid-" ++ name)
  rootId := .string ("root-" ++ vmid)
  kind := .string kind
  ownerVmid := .string vmid
  namespaceName := .string ("ns-" ++ vmid)
  volumeId := .string volume
  originUuid := .string ""

def twoVms : Inventory where
  schema := .string "sharedlvmthin-destroy-inventory/v1"
  complete := .number ⟨"1", one_numeral⟩
  scope :=
    { node := .string "node-a"
      bootId := .string "boot-a"
      vgUuid := .string "vg-1"
      pvUuid := .string "pv-1"
      wwid := .string "60001"
      storageIds := [.string "store"]
      configSha256 := .string (String.ofList (List.replicate 64 'a')) }
  roots := [thickRoot "202", thickRoot "101"]
  objects := ["202", "101"].flatMap fun vmid =>
    [thickMember vmid ("root-" ++ vmid) "anchor" "",
      thickMember vmid ("head-" ++ vmid) "generation" ("store:vm-" ++ vmid ++ "-disk-0")]
  runtimes := ["202", "101"].map fun vmid =>
    ⟨.string ("dm-" ++ vmid), .string ("DM-UUID-" ++ vmid), .string ("root-" ++ vmid)⟩
  opaqueForeignObjects := none

theorem plan_exact_two_vms : ∃ p,
    plan (.ok twoVms) "101" [.string "store:vm-101-disk-0"] = .ok p ∧ p.Partitions twoVms "101" := by
  have hexact := plan_and_observation_exact (show validateInventory twoVms = .ok twoVms.normal by
    decide +kernel) "101" [.string "store:vm-101-disk-0"]
  have hcomplete : CompleteRequest twoVms "101" [.string "store:vm-101-disk-0"] := by
    refine ⟨by simp, by simp, ?_⟩
    intro v
    have hroots : ∀ r ∈ twoVms.roots, r.ownerVmid.text = "101" → r = thickRoot "101" := by
      decide +kernel
    constructor
    · intro hv
      rw [List.mem_singleton] at hv
      exact ⟨thickRoot "101", by simp [twoVms], rfl, by rw [hv]; decide +kernel⟩
    · intro hv
      obtain ⟨r, hr, howner, hmem⟩ := hv
      rw [hroots r hr howner] at hmem
      have hvolumes : (thickRoot "101").volumeIds = [.string "store:vm-101-disk-0"] := by
        decide +kernel
      rwa [hvolumes] at hmem
  obtain ⟨p, hp⟩ := hexact.1.mpr hcomplete
  exact ⟨p, hp, (hexact.2 p hp).1⟩

end SharedLvmThin.StoragePlan
