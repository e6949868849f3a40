import SharedLvmThin.PlanAdapter
import SharedLvmThin.StoragePlanExact

/-! A version 2 executor plan names exactly the members of the storage plan it was made from:
every selected root once, every persistent and runtime member once under its UUID, every
volume with leaves of its own root, and no binding that is not such a member. -/

namespace SharedLvmThin.PlanAdapter
open Perl KeyedLists StoragePlan

/-! ## Binding members -/

/-- The member a source and its binding give. -/
structure Binds (type : MemberType) (vgUuid : String) (bindings : Dict Binding) (source : Source)
    (m : Member) : Prop where
  bound : ∃ binding, bindings.get? source.id.text = some binding ∧ m.name = binding.name
  type_eq : m.type = type
  id_eq : m.id = memberId type vgUuid m.uuid.text
  uuid_eq : m.uuid.text = source.uuid.text
  source_eq : m.sourceId = source.id
  details_eq : m.details = source.details

def Fresh (a b : PhysicalKey) : Prop := a.id ≠ b.id ∧ a.name ≠ b.name

theorem checkFresh_eq_ok {seen : List PhysicalKey} {key : PhysicalKey} {u : Unit} :
    checkFresh seen key = .ok u ↔ ∀ k ∈ seen, Fresh k key := by
  simp [checkFresh, Fresh]

theorem findBinding_eq_ok {bindings : Dict Binding} {source : Source} {binding : Binding}
    (h : findBinding bindings source = .ok binding) :
    bindings.get? source.id.text = some binding ∧ binding.uuid.text = source.uuid.text := by
  unfold findBinding at h
  split at h
  · cases h
  · rename_i found hfound
    simp only [bind_unit_eq_ok, need_eq_ok, Bool.and_eq_true, decide_eq_true_eq, pure_eq_ok] at h
    obtain ⟨⟨-, huuid⟩, rfl⟩ := h
    exact ⟨hfound, huuid⟩

section
variable {vgName vgUuid : String} {type : MemberType} {bindings : Dict Binding}

theorem bindMember_seen (seen : List PhysicalKey) (source : Source) (m : Member) :
    bindMember vgName vgUuid type bindings seen source = .ok m ↔
      bindMember vgName vgUuid type bindings [] source = .ok m ∧
        ∀ k ∈ seen, Fresh k (m.key vgName) := by
  simp only [bindMember, bind_eq_ok, checkFresh_eq_ok, pure_eq_ok, List.not_mem_nil,
    false_implies, implies_true, exists_const, true_and]
  constructor
  · intro h
    obtain ⟨binding, hbinding, hfresh, rfl⟩ := h
    exact ⟨⟨binding, hbinding, rfl⟩, hfresh⟩
  · intro h
    obtain ⟨⟨binding, hbinding, rfl⟩, hfresh⟩ := h
    exact ⟨binding, hbinding, hfresh, rfl⟩

theorem binds_of_bindMember {source : Source} {m : Member}
    (h : bindMember vgName vgUuid type bindings [] source = .ok m) :
    Binds type vgUuid bindings source m := by
  simp only [bindMember, bind_eq_ok, pure_eq_ok] at h
  obtain ⟨binding, hbinding, -, -, rfl⟩ := h
  obtain ⟨hbound, huuid⟩ := findBinding_eq_ok hbinding
  exact ⟨⟨binding, hbound, rfl⟩, rfl, rfl, huuid, rfl, rfl⟩

theorem bindMembers_spec {seen : List PhysicalKey} {sources : List Source} {ms : List Member}
    (h : bindMembers vgName vgUuid type bindings seen sources = .ok ms) :
    List.Forall₂ (Binds type vgUuid bindings) sources ms ∧
      (ms.map (Member.key vgName)).Pairwise Fresh ∧
      ∀ k ∈ seen, ∀ k' ∈ ms.map (Member.key vgName), Fresh k k' := by
  obtain ⟨hall, hpair, hseen⟩ := (mapSeen_eq_ok bindMember_seen).mp h
  refine ⟨hall.imp fun _ _ => binds_of_bindMember, hpair, ?_⟩
  intro k hk k' hk'
  obtain ⟨m, hm, rfl⟩ := List.mem_map.mp hk'
  exact hseen k hk m hm

end

/-! ## Roots -/

theorem vgOf_uuid {input : Input} {volid : Scalar} {vg : VgIdentity}
    (h : vgOf input volid = .ok vg) : vg.uuid = input.storagePlan.scope.vgUuid := by
  simp only [vgOf, bind_unit_eq_ok, pure_eq_ok] at h
  obtain ⟨-, -, -, -, -, rfl⟩ := h
  rfl

theorem rootVg_uuid {input : Input} {volids : List Scalar} :
    ∀ {vg vg' : Option VgIdentity}, (∀ v, vg = some v → v.uuid = input.storagePlan.scope.vgUuid) →
      rootVg input vg volids = .ok vg' → (vg = none → volids ≠ []) →
      ∃ v, vg' = some v ∧ v.uuid = input.storagePlan.scope.vgUuid := by
  induction volids with
  | nil =>
    intro vg vg' hvg h hne
    cases vg with
    | none => exact absurd rfl (hne rfl)
    | some v =>
      simp only [rootVg, Except.ok.injEq] at h
      exact ⟨v, h.symm, hvg v rfl⟩
  | cons volid rest ih =>
    intro vg vg' hvg h hne
    cases vg with
    | none =>
      simp only [rootVg, bind_eq_ok] at h
      obtain ⟨identity, hidentity, hrest⟩ := h
      refine ih ?_ hrest (by simp)
      intro v hv
      cases hv
      exact vgOf_uuid hidentity
    | some v =>
      simp only [rootVg, bind_eq_ok] at h
      obtain ⟨identity, hidentity, -, -, -, -, hrest⟩ := h
      refine ih ?_ hrest (by simp)
      intro v hv
      cases hv
      exact vgOf_uuid hidentity

/-- A normalized root is its source root with its members bound. -/
structure RootMatches (input : Input) (root : Root) (r : NormalizedRoot) : Prop where
  id_eq : r.id = root.id
  kind_eq : r.kind = root.mode
  phase_eq : r.phase = root.phase
  ownerVmid_eq : r.ownerVmid = root.ownerVmid
  namespaceName_eq : r.namespaceName = root.namespaceName
  volids_eq : r.volids = root.volumeIds
  objects : List.Forall₂ (Binds .lvmLv input.storagePlan.scope.vgUuid.text input.bindings.objects)
    ((input.storagePlan.before.objects.filter fun o => o.rootId.text = root.id.text).map
      StorageObject.source) r.objects
  runtimeIds : List.Forall₂ (Binds .dm input.storagePlan.scope.vgUuid.text input.bindings.runtimes)
    ((input.storagePlan.before.runtimes.filter fun t => t.rootId.text = root.id.text).map
      Runtime.source) r.runtimeIds
  leaves : ∀ volid ∈ r.volids, r.leaves volid ≠ []

theorem normalizeRoot_spec {input : Input} {seen : List PhysicalKey} {root : Root}
    {r : NormalizedRoot} (hvolumes : root.volumeIds ≠ [])
    (h : normalizeRoot input seen root = .ok r) :
    RootMatches input root r ∧ r.keys.Pairwise Fresh ∧ ∀ k ∈ seen, ∀ k' ∈ r.keys, Fresh k k' := by
  simp only [normalizeRoot, bind_eq_ok, pure_eq_ok, forEach_eq_ok, need_eq_ok, exists_const,
    decide_eq_true_eq] at h
  obtain ⟨vg, hvg, objects, hobjects, runtimes, hruntimes, hleaves, rfl⟩ := h
  obtain ⟨v, rfl, huuid⟩ := rootVg_uuid (by simp) hvg fun _ => hvolumes
  obtain ⟨hbound, hpair, hseen⟩ := bindMembers_spec hobjects
  obtain ⟨hbound', hpair', hseen'⟩ := bindMembers_spec hruntimes
  have hvgUuid : vgUuid (some v) = input.storagePlan.scope.vgUuid.text := by
    simp [vgUuid, huuid]
  rw [hvgUuid] at hbound hbound'
  refine ⟨⟨rfl, rfl, rfl, rfl, rfl, rfl, hbound, hbound', hleaves⟩, ?_, ?_⟩
  · simp only [NormalizedRoot.keys, NormalizedRoot.members, List.map_append]
    refine List.pairwise_append.mpr ⟨hpair, hpair', ?_⟩
    intro k hk k' hk'
    exact hseen' k (List.mem_append_left _ hk) k' hk'
  · intro k hk k' hk'
    simp only [NormalizedRoot.keys, NormalizedRoot.members, List.map_append, List.mem_append] at hk'
    rcases hk' with hk' | hk'
    · exact hseen k hk k' hk'
    · exact hseen' k (List.mem_append_right _ hk) k' hk'

theorem normalizeRoots_spec {input : Input} {roots : List Root}
    (hvolumes : ∀ root ∈ roots, root.volumeIds ≠ []) :
    ∀ {seen : List PhysicalKey} {rs : List NormalizedRoot},
      normalizeRoots input seen roots = .ok rs →
      List.Forall₂ (RootMatches input) roots rs ∧ (rs.flatMap NormalizedRoot.keys).Pairwise Fresh ∧
        ∀ k ∈ seen, ∀ k' ∈ rs.flatMap NormalizedRoot.keys, Fresh k k' := by
  induction roots with
  | nil =>
    intro seen rs h
    simp only [normalizeRoots, Except.ok.injEq] at h
    subst h
    simp
  | cons root rest ih =>
    intro seen rs h
    simp only [normalizeRoots, bind_eq_ok, pure_eq_ok] at h
    obtain ⟨r, hr, others, hothers, rfl⟩ := h
    obtain ⟨hmatch, hpair, hseen⟩ := normalizeRoot_spec (hvolumes root (by simp)) hr
    obtain ⟨hall, hpair', hseen'⟩ := ih (fun x hx => hvolumes x (by simp [hx])) hothers
    refine ⟨.cons hmatch hall, ?_, ?_⟩
    · rw [List.flatMap_cons]
      refine List.pairwise_append.mpr ⟨hpair, hpair', ?_⟩
      intro k hk k' hk'
      exact hseen' k (List.mem_append_left _ hk) k' hk'
    · intro k hk k' hk'
      rw [List.flatMap_cons, List.mem_append] at hk'
      rcases hk' with hk' | hk'
      · exact hseen k hk k' hk'
      · exact hseen' k (List.mem_append_right _ hk) k' hk'

/-! ## The accepted storage plan -/

/-- A storage plan that was rebuilt from its own inventory. -/
structure Rebuilt (source : Plan) : Prop where
  accepted : Accepted source.before
  normal : source.before = source.before.normal
  body : ∃ foreignSha256,
    source.toPlanBody = source.before.normal.planBody source.vmid foreignSha256
  plan : plan (.ok source.before) source.vmid (source.volumes.map PlannedVolume.volid) = .ok source

theorem rebuilt_of_checkInput {input : Input} (h : checkInput input = .ok ()) :
    Rebuilt input.storagePlan := by
  simp only [checkInput, bind_eq_ok] at h
  obtain ⟨-, -, rebuilt, hplan, answer, hsame, _, hanswer, -⟩ := h
  obtain rfl : rebuilt = input.storagePlan := (same_eq_ok.mp hsame).mp (need_eq_ok.mp hanswer)
  have hvalid : ∃ before, validateInventory input.storagePlan.before = .ok before := by
    simp only [StoragePlan.plan, inventory, bind_eq_ok] at hplan
    obtain ⟨before, hbefore, -⟩ := hplan
    exact ⟨before, hbefore⟩
  obtain ⟨before, hbefore⟩ := hvalid
  have haccepted := (validateInventory_eq_ok.mp hbefore).1
  obtain ⟨-, -, hderive⟩ := (plan_eq_ok haccepted).mp hplan
  obtain ⟨foreignSha256, hbody⟩ := derivePlan_eq_ok hderive
  exact ⟨haccepted, congrArg PlanBody.before hbody, ⟨foreignSha256, hbody⟩, hplan⟩

section
variable {source : Plan} (h : Rebuilt source)
include h

theorem mem_rootIds_iff {id : String} :
    id ∈ source.rootIds ↔ ∃ r ∈ source.before.roots, r.ownerVmid.text = source.vmid ∧ id = r.id.text := by
  obtain ⟨foreignSha256, hbody⟩ := h.body
  rw [mem_rootIds hbody, mem_selected_normal]

theorem selectedRoots_eq : selectedRoots source = source.before.owned source.vmid := by
  apply List.filter_congr
  intro r hr
  rw [decide_eq_decide, mem_rootIds_iff h]
  constructor
  · intro hid
    obtain ⟨other, hother, howner, hid⟩ := hid
    rw [List.inj_on_of_nodup_map h.accepted.rootIds hr hother hid]
    exact howner
  · intro howner
    exact ⟨r, hr, howner, rfl⟩

theorem selectedRoots_volumeIds : ∀ r ∈ selectedRoots source, r.volumeIds ≠ [] := by
  intro r hr
  have hcheck := h.accepted.root r (List.mem_of_mem_filter hr)
  simp only [checkRoot, bind_unit_eq_ok, required_eq_ok, Bool.and_eq_true, decide_eq_true_eq]
    at hcheck
  exact hcheck.2.2.2.2.2.2.1.2

theorem selectedRoots_ids_nodup : ((selectedRoots source).map fun r => r.id.text).Nodup :=
  h.accepted.rootIds.sublist (List.filter_sublist.map _)

theorem mem_selectedRoots_ids {id : String} :
    id ∈ (selectedRoots source).map (fun r => r.id.text) ↔ id ∈ source.rootIds := by
  rw [mem_rootIds_iff h, selectedRoots_eq h]
  simp only [Inventory.owned, List.mem_map, List.mem_filter, decide_eq_true_eq]
  constructor
  · intro hid
    obtain ⟨r, ⟨hr, howner⟩, rfl⟩ := hid
    exact ⟨r, hr, howner, rfl⟩
  · intro hid
    obtain ⟨r, hr, howner, rfl⟩ := hid
    exact ⟨r, ⟨hr, howner⟩, rfl⟩

theorem mem_planObjects {o : StorageObject} :
    o ∈ source.objects ↔ o ∈ source.before.objects ∧ o.rootId.text ∈ source.rootIds := by
  obtain ⟨foreignSha256, hbody⟩ := h.body
  rw [mem_objects h.accepted hbody, mem_rootIds hbody]

theorem mem_planRuntimes {t : Runtime} :
    t ∈ source.runtimes ↔ t ∈ source.before.runtimes ∧ t.rootId.text ∈ source.rootIds := by
  obtain ⟨foreignSha256, hbody⟩ := h.body
  rw [mem_runtimes h.accepted hbody, mem_rootIds hbody]

/-- Going through the selected roots one by one meets every member of theirs once. -/
theorem flatMap_members_perm {α : Type} {rootId : α → String} {l planned : List α} (hl : l.Nodup)
    (hnodup : planned.Nodup) (hplanned : ∀ a, a ∈ planned ↔ a ∈ l ∧ rootId a ∈ source.rootIds) :
    ((selectedRoots source).flatMap fun r => l.filter fun a => rootId a = r.id.text).Perm planned := by
  have hflat : ((selectedRoots source).flatMap fun r =>
      l.filter fun a => rootId a = r.id.text).Nodup := by
    rw [List.nodup_flatMap]
    refine ⟨fun r _ => hl.filter _, ?_⟩
    refine (List.pairwise_map.mp (selectedRoots_ids_nodup h)).imp ?_
    intro r r' hne a ha ha'
    have hr := of_decide_eq_true (List.mem_filter.mp ha).2
    have hr' := of_decide_eq_true (List.mem_filter.mp ha').2
    exact hne (hr.symm.trans hr')
  rw [List.perm_ext_iff_of_nodup hflat hnodup]
  intro a
  rw [hplanned, ← mem_selectedRoots_ids h]
  simp only [List.mem_flatMap, List.mem_filter, List.mem_map, decide_eq_true_eq]
  constructor
  · intro ha
    obtain ⟨r, hr, hmem, hid⟩ := ha
    exact ⟨hmem, r, hr, hid.symm⟩
  · intro ha
    obtain ⟨hmem, r, hr, hid⟩ := ha
    exact ⟨r, hr, hmem, hid.symm⟩

end

/-! ## The translation -/

/-- What an executor plan of version 2 owes the storage plan and the bindings. -/
structure Lossless (source : Plan) (bindings : Bindings) (p : PlanV2) : Prop where
  roots : (p.roots.map fun r => r.id.text).Perm source.rootIds
  objectIds_nodup : p.objectIds.Nodup
  objectIds : p.objectIds.Perm ((p.roots.flatMap NormalizedRoot.members).map Member.id)
  memberIds : ∀ r ∈ p.roots, ∀ m ∈ r.members,
    m.id = memberId m.type source.scope.vgUuid.text m.uuid.text
  objects : ((p.roots.flatMap NormalizedRoot.objects).map fun m => (m.sourceId, m.uuid.text)).Perm
    (source.objects.map fun o => (o.id, o.uuid.text))
  runtimes : ((p.roots.flatMap NormalizedRoot.runtimeIds).map fun m => (m.sourceId, m.uuid.text)).Perm
    (source.runtimes.map fun t => (t.id, t.dmUuid.text))
  types : ∀ r ∈ p.roots, (∀ m ∈ r.objects, m.type = .lvmLv) ∧ ∀ m ∈ r.runtimeIds, m.type = .dm
  volumes : (p.volumes.map VolumeLeaves.volid).Perm (source.volumes.map PlannedVolume.volid)
  volumes_nodup : (p.volumes.map VolumeLeaves.volid).Nodup
  leaves : ∀ v ∈ p.volumes, v.objectIds ≠ [] ∧ ∃ r ∈ p.roots, r.id = v.rootId ∧ v.volid ∈ r.volids ∧
    ∀ id ∈ v.objectIds, ∃ m ∈ r.objects, m.id = id
  objectBindings : ∀ k, k ∈ bindings.objects.keys ↔ ∃ o ∈ source.objects, o.id.text = k
  runtimeBindings : ∀ k, k ∈ bindings.runtimes.keys ↔ ∃ t ∈ source.runtimes, t.id.text = k

theorem normalizedRoots_eq_ok {input : Input} {p : PlanV2} (h : normalizedRoots input = .ok p) :
    normalizeRoots input [] (selectedRoots input.storagePlan) = .ok p.roots ∧
      boundKeys (p.roots.flatMap NormalizedRoot.objects) =
        sortTexts input.bindings.objects.keys ∧
      boundKeys (p.roots.flatMap NormalizedRoot.runtimeIds) =
        sortTexts input.bindings.runtimes.keys ∧
      p.volids = sortBy Scalar.text ((volumesOf p.roots).map VolumeLeaves.volid) ∧
      p.volumes = sortBy (fun v => v.volid.text) (volumesOf p.roots) ∧
      p.objectIds = sortTexts (objectIdsOf p.roots) ∧ p.adapterInputs = input ∧
      p.storagePlanSha256 = input.storagePlan.planSha256 := by
  simp only [normalizedRoots, bind_eq_ok, pure_eq_ok, need_eq_ok, Bool.and_eq_true] at h
  obtain ⟨roots, hroots, first, hfirst, second, hsecond, -, ⟨rfl, rfl⟩, -, -, -, -, -, -, rfl⟩ := h
  exact ⟨hroots, (same_eq_ok.mp hfirst).mp rfl, (same_eq_ok.mp hsecond).mp rfl, rfl, rfl, rfl,
    rfl, rfl⟩

theorem forall₂_flatMap {α β γ : Type} {R : α → β → Prop} {f : α → List γ} {g : β → List γ}
    {l : List α} {l' : List β} (h : List.Forall₂ R l l') (hfg : ∀ a b, R a b → f a = g b) :
    l.flatMap f = l'.flatMap g := by
  induction h with
  | nil => rfl
  | cons hab _ ih => rw [List.flatMap_cons, List.flatMap_cons, hfg _ _ hab, ih]

theorem forall₂_map_eq {α β γ : Type} {R : α → β → Prop} {f : α → γ} {g : β → γ} {l : List α}
    {l' : List β} (h : List.Forall₂ R l l') (hfg : ∀ a b, R a b → f a = g b) :
    l.map f = l'.map g := by
  induction h with
  | nil => rfl
  | cons hab _ ih => rw [List.map_cons, List.map_cons, hfg _ _ hab, ih]

theorem forall₂_right {α β : Type} {R : α → β → Prop} {l : List α} {l' : List β}
    (h : List.Forall₂ R l l') {b : β} (hb : b ∈ l') : ∃ a ∈ l, R a b := by
  induction h with
  | nil => cases hb
  | cons hab _ ih =>
    rcases List.mem_cons.mp hb with rfl | hb
    · exact ⟨_, by simp, hab⟩
    · obtain ⟨a, ha, hr⟩ := ih hb
      exact ⟨a, by simp [ha], hr⟩

/-- Keys that sort alike after removing duplicates are the same set. -/
theorem mem_of_boundKeys {members : List Member} {keys : List String}
    (h : boundKeys members = sortTexts keys) (k : String) :
    k ∈ keys ↔ ∃ m ∈ members, m.sourceId.text = k := by
  have hmem : k ∈ boundKeys members ↔ k ∈ sortTexts keys := by rw [h]
  simp only [boundKeys, sortTexts, mem_sortBy, List.mem_dedup, List.mem_map] at hmem
  exact hmem.symm

theorem boundMembers_iff {α : Type} {members : List Member} {planned : List α} {id : α → Scalar}
    {uuid : α → String}
    (h : (members.map fun m => (m.sourceId, m.uuid.text)).Perm (planned.map fun a => (id a, uuid a)))
    (k : String) : (∃ m ∈ members, m.sourceId.text = k) ↔ ∃ a ∈ planned, (id a).text = k := by
  have hids : (members.map Member.sourceId).Perm (planned.map id) := by
    have hfst := h.map Prod.fst
    rwa [List.map_map, List.map_map] at hfst
  constructor
  · intro hm
    obtain ⟨m, hm, rfl⟩ := hm
    obtain ⟨a, ha, heq⟩ := List.mem_map.mp (hids.mem_iff.mp (List.mem_map_of_mem hm))
    exact ⟨a, ha, by rw [heq]⟩
  · intro ha
    obtain ⟨a, ha, rfl⟩ := ha
    obtain ⟨m, hm, heq⟩ := List.mem_map.mp (hids.mem_iff.mpr (List.mem_map_of_mem ha))
    exact ⟨m, hm, by rw [heq]⟩

section
variable {input : Input} {rs : List NormalizedRoot} (hsource : Rebuilt input.storagePlan)
  (hmatch : List.Forall₂ (RootMatches input) (selectedRoots input.storagePlan) rs)
include hsource hmatch

theorem objects_perm :
    ((rs.flatMap NormalizedRoot.objects).map fun m => (m.sourceId, m.uuid.text)).Perm
      (input.storagePlan.objects.map fun o => (o.id, o.uuid.text)) := by
  have hperm := flatMap_members_perm hsource hsource.accepted.objectIds.of_map
    (List.nodup_dedup _) fun o => mem_planObjects hsource
  refine List.Perm.trans (List.Perm.of_eq ?_) (hperm.map _)
  rw [List.map_flatMap, List.map_flatMap]
  refine (forall₂_flatMap hmatch ?_).symm
  intro root r hr
  have heq := forall₂_map_eq hr.objects (f := fun s => (s.id, s.uuid.text))
    (g := fun m => (m.sourceId, m.uuid.text)) (fun s m hb => by rw [hb.source_eq, hb.uuid_eq])
  rw [← heq, List.map_map]
  rfl

theorem runtimes_perm :
    ((rs.flatMap NormalizedRoot.runtimeIds).map fun m => (m.sourceId, m.uuid.text)).Perm
      (input.storagePlan.runtimes.map fun t => (t.id, t.dmUuid.text)) := by
  have hperm := flatMap_members_perm hsource hsource.accepted.runtimeIds.of_map
    (List.nodup_dedup _) fun t => mem_planRuntimes hsource
  refine List.Perm.trans (List.Perm.of_eq ?_) (hperm.map _)
  rw [List.map_flatMap, List.map_flatMap]
  refine (forall₂_flatMap hmatch ?_).symm
  intro root r hr
  have heq := forall₂_map_eq hr.runtimeIds (f := fun s => (s.id, s.uuid.text))
    (g := fun m => (m.sourceId, m.uuid.text)) (fun s m hb => by rw [hb.source_eq, hb.uuid_eq])
  rw [← heq, List.map_map]
  rfl

theorem volids_perm_planned : ((volumesOf rs).map VolumeLeaves.volid).Perm
    (input.storagePlan.volumes.map PlannedVolume.volid) := by
  obtain ⟨foreignSha256, hbody⟩ := hsource.body
  refine List.Perm.trans (List.Perm.of_eq ?_) (volids_perm hbody)
  rw [← hsource.normal, Inventory.ownedVolumes, ← selectedRoots_eq hsource, volumesOf,
    List.map_flatMap]
  refine (forall₂_flatMap hmatch ?_).symm
  intro root r hr
  simp [NormalizedRoot.volumes, hr.volids_eq, Function.comp_def]

end

theorem planned_volids_nodup {source : Plan} (h : Rebuilt source) :
    (source.volumes.map PlannedVolume.volid).Nodup := by
  obtain ⟨foreignSha256, hbody⟩ := h.body
  refine (volids_perm hbody).nodup_iff.mp ?_
  exact (ownedVolumes_nodup (accepted_normal.mpr h.accepted) _).of_map

theorem fresh_ids_nodup {rs : List NormalizedRoot}
    (h : (rs.flatMap NormalizedRoot.keys).Pairwise Fresh) : (objectIdsOf rs).Nodup := by
  have hkeys : (rs.flatMap NormalizedRoot.keys).map PhysicalKey.id = objectIdsOf rs := by
    simp [objectIdsOf, List.map_flatMap, NormalizedRoot.keys, Member.key, Function.comp_def]
  rw [← hkeys, List.Nodup, List.pairwise_map]
  exact h.imp fun hfresh => hfresh.1

theorem lossless_of_normalizedRoots {input : Input} {p : PlanV2} (hsource : Rebuilt input.storagePlan)
    (h : normalizedRoots input = .ok p) : Lossless input.storagePlan input.bindings p := by
  obtain ⟨hroots, hobjectKeys, hruntimeKeys, -, hvolumes, hids, -⟩ := normalizedRoots_eq_ok h
  obtain ⟨hmatch, hfresh, -⟩ := normalizeRoots_spec (selectedRoots_volumeIds hsource) hroots
  have hvolids : (p.volumes.map VolumeLeaves.volid).Perm
      (input.storagePlan.volumes.map PlannedVolume.volid) := by
    rw [hvolumes]
    exact ((sortBy_perm _ _).map _).trans (volids_perm_planned hsource hmatch)
  have hobjects := objects_perm hsource hmatch
  have hruntimes := runtimes_perm hsource hmatch
  refine ⟨?_, ?_, ?_, ?_, hobjects, hruntimes, ?_, hvolids,
    hvolids.nodup_iff.mpr (planned_volids_nodup hsource), ?_, ?_, ?_⟩
  · have hmap := forall₂_map_eq hmatch (f := fun r => r.id.text) (g := fun r => r.id.text)
      fun root r hr => by rw [hr.id_eq]
    rw [← hmap]
    have hnodup : input.storagePlan.rootIds.Nodup := by
      obtain ⟨foreignSha256, hbody⟩ := hsource.body
      rw [hbody]
      exact (sortBy_perm _ _).nodup_iff.mpr (List.nodup_dedup _)
    rw [List.perm_ext_iff_of_nodup (selectedRoots_ids_nodup hsource) hnodup]
    intro id
    exact mem_selectedRoots_ids hsource
  · rw [hids]
    exact (sortBy_perm _ _).nodup_iff.mpr (fresh_ids_nodup hfresh)
  · rw [hids]
    exact sortBy_perm _ _
  · intro r hr m hm
    obtain ⟨root, -, hroot⟩ := forall₂_right hmatch hr
    rcases List.mem_append.mp hm with hm | hm
    · obtain ⟨s, -, hb⟩ := forall₂_right hroot.objects hm
      rw [hb.type_eq, hb.id_eq]
    · obtain ⟨s, -, hb⟩ := forall₂_right hroot.runtimeIds hm
      rw [hb.type_eq, hb.id_eq]
  · intro r hr
    obtain ⟨root, -, hroot⟩ := forall₂_right hmatch hr
    refine ⟨fun m hm => ?_, fun m hm => ?_⟩
    · obtain ⟨s, -, hb⟩ := forall₂_right hroot.objects hm
      exact hb.type_eq
    · obtain ⟨s, -, hb⟩ := forall₂_right hroot.runtimeIds hm
      exact hb.type_eq
  · intro v hv
    rw [hvolumes, mem_sortBy, volumesOf, List.mem_flatMap] at hv
    obtain ⟨r, hr, hv⟩ := hv
    obtain ⟨volid, hvolid, rfl⟩ := List.mem_map.mp hv
    obtain ⟨root, -, hroot⟩ := forall₂_right hmatch hr
    refine ⟨hroot.leaves volid hvolid, r, hr, rfl, hvolid, ?_⟩
    intro id hid
    simp only [NormalizedRoot.leaves, sortTexts, mem_sortBy, List.mem_map, List.mem_filter] at hid
    obtain ⟨m, ⟨hm, -⟩, hmid⟩ := hid
    exact ⟨m, hm, hmid⟩
  · intro k
    rw [mem_of_boundKeys hobjectKeys, boundMembers_iff hobjects]
  · intro k
    rw [mem_of_boundKeys hruntimeKeys, boundMembers_iff hruntimes]

theorem adaptPlan_v2 {input : Input} {p : PlanV2} (h : adaptPlan input = .ok (.v2 p)) :
    checkInput input = .ok () ∧ normalizedRoots input = .ok p := by
  simp only [adaptPlan, bind_unit_eq_ok] at h
  obtain ⟨-, hinput, hplan⟩ := h
  split at hplan
  · simp only [bind_eq_ok, pure_eq_ok, ExecutorPlan.v2.injEq] at hplan
    obtain ⟨adapted, hadapted, rfl⟩ := hplan
    exact ⟨hinput, hadapted⟩
  · simp only [bind_eq_ok, pure_eq_ok, reduceCtorEq, and_false, exists_false] at hplan

/-- The runtime members carry exactly the bound names. -/
theorem runtimeNames_iff {input : Input} {p : PlanV2} (h : adaptPlan input = .ok (.v2 p))
    (name : String) : (∃ r ∈ p.roots, ∃ m ∈ r.runtimeIds, m.name.text = name) ↔
      ∃ field ∈ input.bindings.runtimes.fields, field.2.name.text = name := by
  obtain ⟨hinput, hplan⟩ := adaptPlan_v2 h
  have hsource := rebuilt_of_checkInput hinput
  obtain ⟨hroots, -, hkeys, -⟩ := normalizedRoots_eq_ok hplan
  obtain ⟨hmatch, -⟩ := normalizeRoots_spec (selectedRoots_volumeIds hsource) hroots
  have hbound : ∀ r ∈ p.roots, ∀ m ∈ r.runtimeIds, ∃ binding,
      input.bindings.runtimes.get? m.sourceId.text = some binding ∧ m.name = binding.name := by
    intro r hr m hm
    obtain ⟨root, -, hroot⟩ := forall₂_right hmatch hr
    obtain ⟨source, -, hb⟩ := forall₂_right hroot.runtimeIds hm
    rw [hb.source_eq]
    exact hb.bound
  constructor
  · intro hm
    obtain ⟨r, hr, m, hm, rfl⟩ := hm
    obtain ⟨binding, hget, hname⟩ := hbound r hr m hm
    exact ⟨_, Dict.get?_eq_some.mp hget, by rw [hname]⟩
  · intro hfield
    obtain ⟨field, hfield, rfl⟩ := hfield
    obtain ⟨m, hm, hid⟩ := (mem_of_boundKeys hkeys field.1).mp (List.mem_map_of_mem hfield)
    obtain ⟨r, hr, hm⟩ := List.mem_flatMap.mp hm
    obtain ⟨binding, hget, hname⟩ := hbound r hr m hm
    rw [hid, Dict.get?_eq_some.mpr hfield] at hget
    refine ⟨r, hr, m, hm, ?_⟩
    rw [hname, ← Option.some.inj hget]

/-! ## What an observation covers -/

/-- None of the plan's members is left in the inventory, and everything else is. -/
structure Covers (source : Plan) (p : PlanV2) (later : Inventory) : Prop where
  objects : ∀ r ∈ p.roots, ∀ m ∈ r.objects, ∀ o ∈ later.objects,
    o.id.text ≠ m.sourceId.text ∧ o.uuid.text ≠ m.uuid.text
  runtimes : ∀ r ∈ p.roots, ∀ m ∈ r.runtimeIds, ∀ t ∈ later.runtimes,
    t.id.text ≠ m.sourceId.text ∧ t.dmUuid.text ≠ m.uuid.text
  otherObjects : ∀ o ∈ source.before.objects,
    (∀ r ∈ p.roots, ∀ m ∈ r.objects, m.sourceId ≠ o.id) ↔ o ∈ later.objects
  otherRuntimes : ∀ t ∈ source.before.runtimes,
    (∀ r ∈ p.roots, ∀ m ∈ r.runtimeIds, m.sourceId ≠ t.id) ↔ t ∈ later.runtimes

theorem observe_absent {later : Inventory} {p : Plan} {o : Observation}
    (h : StoragePlan.observe (.ok later) p = .ok o) :
    Accepted later ∧ o.result = "EXACT_PLANNED_STORAGE_ABSENT" := by
  simp only [StoragePlan.observe, bind_eq_ok] at h
  obtain ⟨before, -, rebuilt, -, answer, -, _, -, after, hafter, hobserve⟩ := h
  refine ⟨(validateInventory_eq_ok.mp hafter).1, ?_⟩
  simp only [observeAfter, bind_eq_ok, pure_eq_ok] at hobserve
  obtain ⟨-, -, -, -, -, -, -, -, -, -, -, -, -, -, rfl⟩ := hobserve
  rfl

/-- A member of the translated plan stands for one planned member, and each has one. -/
theorem exists_planned {α : Type} {members : List Member} {planned : List α} {id : α → Scalar}
    {uuid : α → String}
    (h : (members.map fun m => (m.sourceId, m.uuid.text)).Perm (planned.map fun a => (id a, uuid a))) :
    (∀ m ∈ members, ∃ a ∈ planned, id a = m.sourceId ∧ uuid a = m.uuid.text) ∧
      ∀ a ∈ planned, ∃ m ∈ members, m.sourceId = id a := by
  constructor
  · intro m hm
    obtain ⟨a, ha, heq⟩ := List.mem_map.mp
      (h.mem_iff.mp (List.mem_map_of_mem (f := fun m => (m.sourceId, m.uuid.text)) hm))
    exact ⟨a, ha, (Prod.mk.inj heq).1, (Prod.mk.inj heq).2⟩
  · intro a ha
    obtain ⟨m, hm, heq⟩ := List.mem_map.mp
      (h.mem_iff.mpr (List.mem_map_of_mem (f := fun a => (id a, uuid a)) ha))
    exact ⟨m, hm, (Prod.mk.inj heq).1⟩

section
variable {α : Type} {rootId : α → String} {id : α → Scalar} {uuid : α → String}
  {l planned later : List α} {rootIds : List String} {members : List Member}
  (hids : (l.map fun a => (id a).text).Nodup) (huuids : (l.map uuid).Nodup)
  (hplanned : ∀ a, a ∈ planned ↔ a ∈ l ∧ rootId a ∈ rootIds)
  (hlater : later.Perm (l.filter fun a => rootId a ∉ rootIds))
  (hmembers : (members.map fun m => (m.sourceId, m.uuid.text)).Perm
    (planned.map fun a => (id a, uuid a)))
include hids huuids hplanned hlater hmembers

theorem covers_absent {m : Member} (hm : m ∈ members) {a : α} (ha : a ∈ later) :
    (id a).text ≠ m.sourceId.text ∧ uuid a ≠ m.uuid.text := by
  obtain ⟨b, hb, hid, huuid⟩ := (exists_planned hmembers).1 m hm
  obtain ⟨hbl, hbroot⟩ := (hplanned b).mp hb
  obtain ⟨hal, haroot⟩ := List.mem_filter.mp (hlater.mem_iff.mp ha)
  have haroot := of_decide_eq_true haroot
  constructor
  · intro heq
    rw [← hid] at heq
    rw [List.inj_on_of_nodup_map hids hal hbl heq] at haroot
    exact haroot hbroot
  · intro heq
    rw [← huuid] at heq
    rw [List.inj_on_of_nodup_map huuids hal hbl heq] at haroot
    exact haroot hbroot

theorem covers_other {a : α} (ha : a ∈ l) :
    (∀ m ∈ members, m.sourceId ≠ id a) ↔ a ∈ later := by
  constructor
  · intro hnone
    refine hlater.mem_iff.mpr (List.mem_filter.mpr ⟨ha, decide_eq_true ?_⟩)
    intro hroot
    obtain ⟨m, hm, heq⟩ := (exists_planned hmembers).2 a ((hplanned a).mpr ⟨ha, hroot⟩)
    exact hnone m hm heq
  · intro hmem m hm heq
    exact (covers_absent hids huuids hplanned hlater hmembers hm hmem).1 (by rw [heq])

end

theorem covers_of_observe {source : Plan} {bindings : Bindings} {p : PlanV2} {later : Inventory}
    {o : Observation} (hsource : Rebuilt source) (hlossless : Lossless source bindings p)
    (h : StoragePlan.observe (.ok later) source = .ok o) : Covers source p later := by
  obtain ⟨hlater, hresult⟩ := observe_absent h
  obtain ⟨-, hcontent⟩ := (observe_exact hsource.accepted hlater hsource.plan).mp ⟨o, h, hresult⟩
  have hobjects : ∀ r ∈ p.roots, ∀ m ∈ r.objects, m ∈ p.roots.flatMap NormalizedRoot.objects :=
    fun r hr m hm => List.mem_flatMap.mpr ⟨r, hr, hm⟩
  have hruntimes : ∀ r ∈ p.roots, ∀ m ∈ r.runtimeIds, m ∈ p.roots.flatMap NormalizedRoot.runtimeIds :=
    fun r hr m hm => List.mem_flatMap.mpr ⟨r, hr, hm⟩
  refine ⟨?_, ?_, ?_, ?_⟩
  · intro r hr m hm x hx
    exact covers_absent hsource.accepted.objectIds hsource.accepted.objectUuids
      (fun a => mem_planObjects hsource) hcontent.objects hlossless.objects (hobjects r hr m hm) hx
  · intro r hr m hm x hx
    exact covers_absent hsource.accepted.runtimeIds hsource.accepted.dmUuids
      (fun a => mem_planRuntimes hsource) hcontent.runtimes hlossless.runtimes
      (hruntimes r hr m hm) hx
  · intro x hx
    rw [← covers_other hsource.accepted.objectIds hsource.accepted.objectUuids
      (fun a => mem_planObjects hsource) hcontent.objects hlossless.objects hx]
    simp only [List.mem_flatMap, forall_exists_index, and_imp]
    exact ⟨fun hall m r hr hm => hall r hr m hm, fun hall r hr m hm => hall m r hr hm⟩
  · intro x hx
    rw [← covers_other hsource.accepted.runtimeIds hsource.accepted.dmUuids
      (fun a => mem_planRuntimes hsource) hcontent.runtimes hlossless.runtimes hx]
    simp only [List.mem_flatMap, forall_exists_index, and_imp]
    exact ⟨fun hall m r hr hm => hall r hr m hm, fun hall r hr m hm => hall m r hr hm⟩

/-- Every accepted version 2 translation is lossless, and an observation of absence covers its
members and nothing else. -/
theorem adaptation_lossless {input : Input} {p : PlanV2} (h : adaptPlan input = .ok (.v2 p)) :
    Lossless input.storagePlan input.bindings p ∧
      (∀ later o, StoragePlan.observe (.ok later) input.storagePlan = .ok o →
        Covers input.storagePlan p later) ∧
      ∀ later proof, observe (.ok later) p = .ok proof →
        proof.objectIds = p.objectIds ∧ Covers input.storagePlan p later := by
  obtain ⟨hinput, hplan⟩ := adaptPlan_v2 h
  have hsource := rebuilt_of_checkInput hinput
  have hlossless := lossless_of_normalizedRoots hsource hplan
  refine ⟨hlossless, fun later o ho => covers_of_observe hsource hlossless ho, ?_⟩
  intro later proof hproof
  obtain ⟨-, -, -, -, -, -, hadapter, -⟩ := normalizedRoots_eq_ok hplan
  simp only [observe, bind_eq_ok, pure_eq_ok, hadapter] at hproof
  obtain ⟨-, -, -, -, -, -, o, ho, -, -, rfl⟩ := hproof
  exact ⟨rfl, covers_of_observe hsource hlossless ho⟩

/-! ## Acceptance -/

/-- The input without the digests of its storage plan, which the roots do not depend on. -/
def Input.bare (input : Input) : Input :=
  { input with storagePlan := { input.storagePlan with foreignSha256 := "", planSha256 := "" } }

theorem rootVg_bare (input : Input) (volids : List Scalar) :
    ∀ vg, rootVg input.bare vg volids = rootVg input vg volids := by
  have hvg : vgOf input.bare = vgOf input := rfl
  induction volids with
  | nil =>
    intro vg
    rw [rootVg, rootVg]
  | cons volid rest ih =>
    intro vg
    cases vg with
    | none => simp only [rootVg, hvg, ih]
    | some v => simp only [rootVg, hvg, ih]

theorem normalizeRoots_bare (input : Input) (roots : List Root) :
    ∀ seen, normalizeRoots input.bare seen roots = normalizeRoots input seen roots := by
  have hroot : ∀ seen root, normalizeRoot input.bare seen root = normalizeRoot input seen root := by
    intro seen root
    simp only [normalizeRoot, rootVg_bare]
    rfl
  induction roots with
  | nil =>
    intro seen
    rfl
  | cons root rest ih =>
    intro seen
    simp only [normalizeRoots, hroot, ih]

def bodyOf (input : Input) (roots : List NormalizedRoot) (configSha256 parsedConfigSha256 : String) :
    PlanV2Body where
  schema := "sharedlvmthin-vm-destroy-executor-plan/v2"
  authority := "NONE"
  vmid := input.storagePlan.vmid
  rawConfig := input.rawConfig
  configSha256 := configSha256
  parsedConfigSha256 := parsedConfigSha256
  volids := sortBy Scalar.text ((volumesOf roots).map VolumeLeaves.volid)
  volumes := sortBy (fun v => v.volid.text) (volumesOf roots)
  roots := roots
  objectIds := sortTexts (objectIdsOf roots)
  storagePlanSha256 := input.storagePlan.planSha256
  adapterInputs := input

theorem normalizedRoots_isOk {input : Input} {roots : List NormalizedRoot}
    (hroots : normalizeRoots input [] (selectedRoots input.storagePlan) = .ok roots)
    (hobjects : boundKeys (roots.flatMap NormalizedRoot.objects) =
      sortTexts input.bindings.objects.keys)
    (hruntimes : boundKeys (roots.flatMap NormalizedRoot.runtimeIds) =
      sortTexts input.bindings.runtimes.keys)
    {configSha256 parsedConfigSha256 adapterSha256 : String}
    (hconfig : Sha256.sha256Hex input.rawConfig = .ok configSha256)
    (hparsed : textDigest input.lockedConfig = .ok parsedConfigSha256)
    (hadapter : textDigest (bodyOf input roots configSha256 parsedConfigSha256) = .ok adapterSha256) :
    normalizedRoots input = .ok ⟨bodyOf input roots configSha256 parsedConfigSha256, adapterSha256⟩ := by
  simp only [normalizedRoots, bind_eq_ok, pure_eq_ok, need_eq_ok, Bool.and_eq_true]
  exact ⟨roots, hroots, true, same_eq_ok.mpr (by simp [hobjects]), true,
    same_eq_ok.mpr (by simp [hruntimes]), (), ⟨rfl, rfl⟩, configSha256, hconfig,
    parsedConfigSha256, hparsed, adapterSha256, hadapter, rfl⟩


theorem adaptPlan_isOk {input : Input} {p : PlanV2} (hversion : input.planVersion = some (.string "2"))
    (hinput : checkInput input = .ok ()) (hplan : normalizedRoots input = .ok p) :
    adaptPlan input = .ok (.v2 p) := by
  have htext : ((some (Scalar.string "2")).map Scalar.text).getD "1" = "2" := rfl
  simp only [adaptPlan, hversion, bind_eq_ok, need_eq_ok, hinput, exists_unit, htext, hplan,
    if_true, pure_eq_ok, Except.ok.injEq, exists_eq_left', and_true]
  decide

/-! ## A sample -/

/-- The letter of one of two scopes. -/
def letter (second : Bool) : String := if second then "b" else "a"

section
variable (second : Bool)

def sampleVolume : Scalar := .string ("store-" ++ letter second ++ ":vm-101-disk-0")

def sampleObject (name kind : String) (volume : Scalar) : StorageObject where
  id := .string (name ++ "-" ++ letter second)
  uuid := .string ("uuid-" ++ name ++ "-" ++ letter second)
  rootId := .string ("anchor-" ++ letter second)
  kind := .string kind
  ownerVmid := .string "101"
  namespaceName := .string ("ns-" ++ letter second)
  volumeId := volume
  originUuid := .string ""

/-- One Thick volume of one VM on the volume group of a scope. -/
def sampleInventory : Inventory where
  schema := .string "sharedlvmthin-destroy-inventory/v1"
  complete := .number ⟨"1", one_numeral⟩
  scope :=
    { node := .string "node-a"
      bootId := .string "boot-a"
      vgUuid := .string (letter second)
      pvUuid := .string (letter second)
      wwid := .string (letter second)
      storageIds := [.string ("store-" ++ letter second)]
      configSha256 := .string (String.ofList (List.replicate 64 'a')) }
  roots := [{ id := .string ("anchor-" ++ letter second)
              mode := .string "thick"
              phase := .string "MATERIALIZED"
              ownerVmid := .string "101"
              namespaceName := .string ("ns-" ++ letter second)
              objectIds := [.string ("anchor-" ++ letter second), .string ("head-" ++ letter second)]
              runtimeIds := [.string ("dm-" ++ letter second)]
              volumeIds := [sampleVolume second] }]
  objects := [sampleObject second "anchor" "anchor" (.string ""),
    sampleObject second "head" "generation" (sampleVolume second)]
  runtimes := [⟨.string ("dm-" ++ letter second), .string ("DM-" ++ letter second),
    .string ("anchor-" ++ letter second)⟩]
  opaqueForeignObjects := none

def samplePlan (foreignSha256 planSha256 : String) : Plan :=
  ⟨(sampleInventory second).planBody "101" foreignSha256, planSha256⟩

def sampleStorage : String × Value :=
  ("store-" ++ letter second, .hash [("slt-expected-pv-uuid", .str (letter second)),
    ("slt-expected-vg-uuid", .str (letter second)), ("slt-expected-wwid", .str (letter second)),
    ("slt-vgname", .str ("vg-" ++ letter second)), ("type", .str "sharedlvmthin")])

theorem sampleStorage_plain : (sampleStorage second).2.Plain :=
  .record (by simp only [List.map]; decide +kernel) (by simp [Value.Plain.str])

def sampleConfig : String := "cores: 1\n"

def sampleLocked : Json :=
  ⟨.hash [("digest", .str "12cc9e08fbbf7f0dce8e2c1f86d0f764d251285a")],
    .record (by simp) (by simp [Value.Plain.str])⟩

def sampleStorecfg : Json :=
  ⟨.hash [("ids", .hash [sampleStorage false, sampleStorage true])], .record (by simp) (by
    simp only [List.mem_singleton, forall_eq]
    exact .record (by decide +kernel) (by simp [sampleStorage_plain]))⟩

def sampleBindings : Bindings where
  objects := ⟨[("anchor-" ++ letter second,
        ⟨.string "anchor", .string ("uuid-anchor-" ++ letter second)⟩),
      ("head-" ++ letter second, ⟨.string "head", .string ("uuid-head-" ++ letter second)⟩)], by
    revert second
    decide +kernel⟩
  runtimes := ⟨[("dm-" ++ letter second, ⟨.string "disk", .string ("DM-" ++ letter second)⟩)], by simp⟩

def sampleInput (source : Plan) : Input where
  storagePlan := source
  rawConfig := sampleConfig
  lockedConfig := sampleLocked
  storecfg := sampleStorecfg
  bindings := sampleBindings second
  expectedScope := (sampleInventory second).scope
  planVersion := some (.string "2")

def sampleMember (type : MemberType) (uuid name : String) (source : Source) : Member :=
  ⟨type, memberId type (letter second) uuid, .string name, .string uuid, source.id, source.details⟩

def sampleRoot : NormalizedRoot where
  id := .string ("anchor-" ++ letter second)
  kind := .string "thick"
  phase := .string "MATERIALIZED"
  ownerVmid := .string "101"
  namespaceName := .string ("ns-" ++ letter second)
  volids := [sampleVolume second]
  vg := some ⟨.string ("vg-" ++ letter second), .string (letter second)⟩
  objects := [sampleMember second .lvmLv ("uuid-anchor-" ++ letter second) "anchor"
      (StorageObject.source (sampleObject second "anchor" "anchor" (.string ""))),
    sampleMember second .lvmLv ("uuid-head-" ++ letter second) "head"
      (StorageObject.source (sampleObject second "head" "generation" (sampleVolume second)))]
  runtimeIds := [⟨.dm, "dm:DM-" ++ letter second, .string "disk",
    .string ("DM-" ++ letter second), .string ("dm-" ++ letter second), none⟩]

def sampleBody (source : Plan) : PlanV2Body :=
  bodyOf (sampleInput second source) [sampleRoot second]
    "c72ee789ce99a68d0ce056f0e0cc857ee59394817c1aa2522908bda9a7af5345"
    "d0789187f634eb1c8cd77fba18a7c548f0de0049a4fc6d3f2ee83071e15db4ca"

def sampleV2 (source : Plan) (adapterSha256 : String) : PlanV2 :=
  ⟨sampleBody second source, adapterSha256⟩

end

theorem sampleInventory_valid : ∀ second,
    validateInventory (sampleInventory second) = .ok (sampleInventory second) ∧
      (sampleInventory second).normal = sampleInventory second ∧
      (sampleInventory second).ownedVolumes "101" = [sampleVolume second] := by
  decide +kernel

theorem sampleInput_roots : ∀ second,
    normalizeRoots (sampleInput second (samplePlan second "" "")) []
        (selectedRoots (samplePlan second "" "")) = .ok [sampleRoot second] ∧
      boundKeys ([sampleRoot second].flatMap NormalizedRoot.objects) =
        sortTexts (sampleBindings second).objects.keys ∧
      boundKeys ([sampleRoot second].flatMap NormalizedRoot.runtimeIds) =
        sortTexts (sampleBindings second).runtimes.keys := by
  decide +kernel

theorem accepted_sample (second : Bool) : Accepted (sampleInventory second) :=
  (validateInventory_eq_ok.mp (sampleInventory_valid second).1).1

theorem samplePlan_exists (second : Bool) : ∃ foreignSha256 planSha256,
    IsDigest foreignSha256 ∧ IsDigest planSha256 ∧
      plan (.ok (sampleInventory second)) "101" [sampleVolume second] =
        .ok (samplePlan second foreignSha256 planSha256) := by
  obtain ⟨-, hnormal, howned⟩ := sampleInventory_valid second
  obtain ⟨foreignSha256, hforeign⟩ := jsonDigest_isOk ((sampleInventory second).foreign "101")
  obtain ⟨planSha256, hplan⟩ := jsonDigest_isOk ((sampleInventory second).planBody "101" foreignSha256)
  refine ⟨foreignSha256, planSha256, jsonDigest_isDigest hforeign, jsonDigest_isDigest hplan, ?_⟩
  refine (plan_eq_ok (accepted_sample second)).mpr ⟨by simp, ?_, ?_⟩
  · rw [hnormal, howned]
  · simp [hnormal, Inventory.derivePlan, hforeign, hplan, samplePlan]

theorem sampleInput_checked {second : Bool} {foreignSha256 planSha256 : String}
    (h : plan (.ok (sampleInventory second)) "101" [sampleVolume second] =
      .ok (samplePlan second foreignSha256 planSha256)) :
    checkInput (sampleInput second (samplePlan second foreignSha256 planSha256)) = .ok () := by
  have hvolumes : ∀ second, ((sampleInventory second).planBody "101" "").volumes.map
      PlannedVolume.volid = [sampleVolume second] := by
    decide +kernel
  have hdigest : Sha1.sha1Hex sampleConfig = .ok "12cc9e08fbbf7f0dce8e2c1f86d0f764d251285a" := by
    decide +kernel
  have hconfig : (decide (sampleConfig.toList.length ≠ 0) &&
      decide (sampleConfig.toList.length ≤ 4 * 1024 * 1024) && sampleLocked.1.isHash &&
      decide ((sampleLocked.1.get "digest").text = "12cc9e08fbbf7f0dce8e2c1f86d0f764d251285a")) =
        true := by
    decide +kernel
  have hstorecfg : (sampleStorecfg.1.isHash && (sampleStorecfg.1.get "ids").isHash) = true := by
    decide +kernel
  simp only [checkInput, bind_eq_ok, need_eq_ok]
  refine ⟨(), ?_, samplePlan second foreignSha256 planSha256, ?_, true,
    same_eq_ok.mpr (by simp [sampleInput]), (), rfl, true,
    same_eq_ok.mpr (by simp [sampleInput, samplePlan, Inventory.planBody]), (), rfl, _, hdigest, (),
    hconfig, hstorecfg⟩
  · rfl
  · rw [← h, ← hvolumes second]
    rfl

/-! ### Texts -/

mutual

/-- The texts of the data, and an empty one for each node that has none of its own. -/
def texts : Value → List String
  | .str s => [s]
  | .num s => [s]
  | .array items => "" :: textsOfItems items
  | .hash fields => "" :: textsOfFields fields
  | .undef => [""]
  | .bool _ => [""]
  | .otherRef => [""]

def textsOfItems : List Value → List String
  | [] => []
  | v :: rest => texts v ++ textsOfItems rest

def textsOfFields : List (String × Value) → List String
  | [] => []
  | (name, v) :: rest => name :: texts v ++ textsOfFields rest

end

theorem textsOfItems_eq (items : List Value) : textsOfItems items = items.flatMap texts := by
  induction items with
  | nil => rfl
  | cons v rest ih => simp [textsOfItems, ih]

theorem textsOfFields_eq (fields : List (String × Value)) :
    textsOfFields fields = fields.flatMap fun f => f.1 :: texts f.2 := by
  induction fields with
  | nil => rfl
  | cons field rest ih =>
    obtain ⟨name, v⟩ := field
    simp [textsOfFields, ih]

/-- Only ASCII, read off the bytes: the kernel is slow to decode them. -/
def isAscii (s : String) : Bool := s.toByteArray.data.toList.all (· < 128)

theorem bytes_eq (s : String) :
    s.toByteArray.data.toList = s.toList.flatMap String.utf8EncodeChar := by
  rw [← String.utf8Encode_toList, List.utf8Encode, List.toList_data_toByteArray]

theorem lt_of_utf8EncodeChar {c : Char} (h : ∀ b ∈ String.utf8EncodeChar c, b < 128) :
    c.toNat < 256 := by
  by_contra hc
  have hlarge : ¬ c.val.toNat ≤ 127 := fun hle => hc (lt_of_le_of_lt hle (by decide))
  unfold String.utf8EncodeChar at h
  simp only [hlarge, if_false] at h
  split_ifs at h <;>
    · have hfirst := h _ List.mem_cons_self
      rw [UInt8.lt_iff_toNat_lt, UInt8.toNat_ofNat'] at hfirst
      simp at hfirst
      omega

theorem isBytes_of_isAscii {s : String} (h : isAscii s = true) : Value.isBytes s = true := by
  rw [Value.isBytes_iff]
  intro c hc
  refine lt_of_utf8EncodeChar fun b hb => ?_
  have hmem : b ∈ s.toByteArray.data.toList := by
    rw [bytes_eq]
    exact List.mem_flatMap.mpr ⟨c, hc, hb⟩
  simpa using List.all_eq_true.mp h b hmem

theorem length_le_size (s : String) : s.toList.length ≤ s.utf8ByteSize := by
  have hsize : s.utf8ByteSize = (s.toList.flatMap String.utf8EncodeChar).length := by
    rw [← bytes_eq]
    rfl
  rw [hsize, List.length_flatMap]
  generalize s.toList = chars
  induction chars with
  | nil => simp
  | cons c rest ih =>
    have hc := List.length_pos_iff.mpr (String.utf8EncodeChar_ne_nil (c := c))
    simp only [List.length_cons, List.map_cons, List.sum_cons]
    omega

theorem narrow_of_texts {v : Value} (hv : v.Plain) (h : (texts v).all isAscii = true) :
    v.narrow = true := by
  rw [List.all_eq_true] at h
  induction hv with
  | undef => rfl
  | bool _ => rfl
  | str s => exact isBytes_of_isAscii (h s (by simp [texts]))
  | @num s _ => exact isBytes_of_isAscii (h s (by simp [texts]))
  | @array items _ ih =>
    refine Value.narrowItems_iff.mpr fun v hv => ih v hv fun s hs => h s ?_
    simp only [texts, textsOfItems_eq, List.mem_cons, List.mem_flatMap]
    exact .inr ⟨v, hv, hs⟩
  | @hash fields _ _ ih =>
    refine Value.narrowFields_iff.mpr fun field hf => ⟨isBytes_of_isAscii (h _ ?_),
      ih field hf fun s hs => h s ?_⟩
    · simp only [texts, textsOfFields_eq, List.mem_cons, List.mem_flatMap]
      exact .inr ⟨field, hf, .inl rfl⟩
    · simp only [texts, textsOfFields_eq, List.mem_cons, List.mem_flatMap]
      exact .inr ⟨field, hf, .inr hs⟩

/-- A bound on the length of the texts, escaped, with their marks. -/
def textsBound (all : List String) : Nat := (all.map fun s => 6 * s.utf8ByteSize + 12).sum

theorem textsBound_flatMap {α : Type} (f : α → List String) (l : List α) :
    textsBound (l.flatMap f) = (l.map fun a => textsBound (f a)).sum := by
  induction l with
  | nil => rfl
  | cons a rest ih =>
    rw [List.flatMap_cons, List.map_cons, List.sum_cons, ← ih]
    simp [textsBound]

theorem bound_of_texts {v : Value} (hv : v.Plain) : v.bound + 5 ≤ textsBound (texts v) := by
  induction hv with
  | undef => simp [Value.bound, texts, textsBound]
  | bool _ => simp [Value.bound, texts, textsBound]
  | str s =>
    have hlength := length_le_size s
    simp only [Value.bound, texts, textsBound, List.map_cons, List.map_nil, List.sum_cons,
      List.sum_nil]
    omega
  | @num s _ =>
    have hlength := length_le_size s
    simp only [Value.bound, texts, textsBound, List.map_cons, List.map_nil, List.sum_cons,
      List.sum_nil]
    omega
  | @array items _ ih =>
    have hsum : (items.map fun v => v.bound + 1).sum ≤ textsBound (items.flatMap texts) := by
      rw [textsBound_flatMap]
      exact List.sum_le_sum fun v hv => (Nat.add_le_add_left (by decide) _).trans (ih v hv)
    simp only [Value.bound, Value.boundItems_eq, texts, textsOfItems_eq]
    rw [textsBound, List.map_cons, List.sum_cons, ← textsBound]
    omega
  | @hash fields _ _ ih =>
    have hsum : (fields.map fun f => 6 * f.1.toList.length + f.2.bound + 4).sum ≤
        textsBound (fields.flatMap fun f => f.1 :: texts f.2) := by
      rw [textsBound_flatMap]
      refine List.sum_le_sum fun f hf => ?_
      have hlength := length_le_size f.1
      have hvalue := ih f hf
      rw [textsBound, List.map_cons, List.sum_cons, ← textsBound]
      omega
    simp only [Value.bound, Value.boundFields_eq, texts, textsOfFields_eq]
    rw [textsBound, List.map_cons, List.sum_cons, ← textsBound]
    omega

/-! ### Digests -/

def zeros : String := String.ofList (List.replicate 64 '0')

theorem zeros_isDigest : IsDigest zeros := by
  have hlength : zeros.toList.length = 64 := by decide +kernel
  have hall : zeros.toList.all isLowerHex = true := by decide +kernel
  exact ⟨hlength, List.all_eq_true.mp hall⟩

section
variable {second : Bool} {foreignSha256 planSha256 : String}

theorem samplePlan_alike (hforeign : IsDigest foreignSha256) (hplan : IsDigest planSha256) :
    Alike (samplePlan second foreignSha256 planSha256) (samplePlan second zeros zeros) := by
  have hf := hforeign.alike zeros_isDigest
  have hp := hplan.alike zeros_isDigest
  refine Value.shape_hash ?_
  simp [samplePlan, Inventory.planBody]
  exact ⟨hf, hp⟩

theorem sampleInput_alike {source other : Plan} (h : Alike source other) :
    Alike (sampleInput second source) (sampleInput second other) := by
  refine Value.shape_hash ?_
  simp [sampleInput, optionalField]
  exact h

theorem sampleBody_alike {source other : Plan} (h : Alike source other)
    (hplan : Alike source.planSha256 other.planSha256) (hvmid : source.vmid = other.vmid) :
    Alike (sampleBody second source) (sampleBody second other) := by
  refine Value.shape_hash ?_
  have hinput : Alike (sampleInput second source) (sampleInput second other) := sampleInput_alike h
  simp [sampleBody, bodyOf, PlanV2Body.fields, sampleInput, hvmid]
  exact ⟨hinput, hplan⟩

end

theorem sampleBody_ascii : ∀ second,
    (texts (Encodes.value (sampleBody second (samplePlan second zeros zeros)))).all isAscii =
      true := by
  decide +kernel

theorem sampleBody_narrow (second : Bool) :
    (Encodes.value (sampleBody second (samplePlan second zeros zeros))).narrow = true :=
  narrow_of_texts (Encodes.plain _) (sampleBody_ascii second)

theorem sample_adapted (second : Bool) : ∃ foreignSha256 planSha256 adapterSha256,
    IsDigest foreignSha256 ∧ IsDigest planSha256 ∧ IsDigest adapterSha256 ∧
      adaptPlan (sampleInput second (samplePlan second foreignSha256 planSha256)) =
        .ok (.v2 (sampleV2 second (samplePlan second foreignSha256 planSha256)
          adapterSha256)) := by
  obtain ⟨foreignSha256, planSha256, hforeign, hplan, hsource⟩ := samplePlan_exists second
  have halike : Alike (sampleBody second (samplePlan second foreignSha256 planSha256))
      (sampleBody second (samplePlan second zeros zeros)) :=
    sampleBody_alike (samplePlan_alike hforeign hplan) (hplan.alike zeros_isDigest) rfl
  have hnarrow := (Value.shape_eq.mp halike).1.trans (sampleBody_narrow second)
  obtain ⟨adapterSha256, hadapter⟩ := textDigest_isOk hnarrow
  refine ⟨foreignSha256, planSha256, adapterSha256, hforeign, hplan, textDigest_isDigest hadapter, ?_⟩
  obtain ⟨hroots, hobjects, hruntimes⟩ := sampleInput_roots second
  have hbound : normalizeRoots (sampleInput second (samplePlan second foreignSha256 planSha256)) []
      (selectedRoots (samplePlan second foreignSha256 planSha256)) = .ok [sampleRoot second] := by
    have hbare : (sampleInput second (samplePlan second foreignSha256 planSha256)).bare =
        sampleInput second (samplePlan second "" "") := rfl
    have hselected : selectedRoots (samplePlan second foreignSha256 planSha256) =
        selectedRoots (samplePlan second "" "") := rfl
    rw [← normalizeRoots_bare, hbare, hselected, hroots]
  have hconfig : Sha256.sha256Hex sampleConfig =
      .ok "c72ee789ce99a68d0ce056f0e0cc857ee59394817c1aa2522908bda9a7af5345" := by
    decide +kernel
  have hlocked : textDigest sampleLocked =
      .ok "d0789187f634eb1c8cd77fba18a7c548f0de0049a4fc6d3f2ee83071e15db4ca" := by
    decide +kernel
  have hplan := normalizedRoots_isOk hbound hobjects hruntimes hconfig hlocked hadapter
  exact adaptPlan_isOk rfl (sampleInput_checked hsource) hplan

theorem adaptation_lossless_sample : ∃ source p,
    adaptPlan (sampleInput false source) = .ok (.v2 p) ∧
      Lossless source (sampleBindings false) p := by
  obtain ⟨foreignSha256, planSha256, adapterSha256, -, -, -, h⟩ := sample_adapted false
  exact ⟨_, _, h, (adaptation_lossless h).1⟩

end SharedLvmThin.PlanAdapter
