import SharedLvmThin.PlanV3Scopes

/-! What composition guarantees: the order of the envelopes is immaterial, a composed plan
validates as it is and is the disjoint union of its scopes. Mapper names are only compared
inside one scope, although all scopes describe one node. -/

namespace SharedLvmThin.Compose
open Perl KeyedLists StoragePlan PlanAdapter

/-! ## One accepted scope -/

/-- The mapper names of a plan's runtime members. -/
def mapperNames (p : PlanV2) : List String :=
  ((p.roots.flatMap NormalizedRoot.members).filter fun m => m.type = .dm).map fun m => m.name.text

/-- A scope by itself names nothing twice and leaves nothing of its plan out. -/
structure Sound (env : Envelope) (s : Scoped) : Prop where
  envelope : s.entry.envelope = env
  storageIds : (s.entry.storageIds.map Scalar.text).Nodup
  volids : (s.entry.volids.map Scalar.text).Nodup
  volids_perm : s.entry.volids.Perm env.executorV2.volids
  volumes : (s.volumes.map fun v => v.volid.text).Perm (s.entry.volids.map Scalar.text)
  roots : (s.roots.map GlobalRoot.id).Nodup
  members : (s.members.map Member.id).Nodup
  members_perm : (s.members.map Member.id).Perm env.executorV2.objectIds
  mapperNames : (mapperNames env.executorV2).Nodup
  bindings : ∀ name, name ∈ Compose.mapperNames env.executorV2 ↔
    ∃ field ∈ env.executorV2.adapterInputs.bindings.runtimes.fields, field.2.name.text = name

theorem checkAlias_nodup {plan : PlanV2} {physical : Physical} {sids : List Scalar}
    (h : forEachSeen (checkAlias plan physical []) [] sids = .ok ()) :
    (sids.map Scalar.text).Nodup := by
  have hstep : ∀ earlier sid, checkAlias plan physical [] earlier sid = .ok () ↔
      checkAlias plan physical [] [] sid = .ok () ∧ ∀ s ∈ earlier, s.text ≠ sid.text := by
    intro earlier sid
    simp only [checkAlias, bind_unit_eq_ok, demand_eq_ok, Bool.and_eq_true, List.all_eq_true,
      decide_eq_true_eq, List.not_mem_nil, false_implies, implies_true, and_true]
    exact ⟨fun h => ⟨⟨h.1.1, h.2⟩, h.1.2⟩, fun h => ⟨⟨h.1.1, h.2⟩, h.1.2⟩⟩
  exact List.pairwise_map.mpr ((forEachSeen_eq_ok hstep).mp h).2.1

theorem checkVolid_nodup {aliases volids : List Scalar}
    (h : forEachSeen (checkVolid aliases []) [] volids = .ok ()) :
    (volids.map Scalar.text).Nodup := by
  have hstep : ∀ earlier volid, checkVolid aliases [] earlier volid = .ok () ↔
      checkVolid aliases [] [] volid = .ok () ∧ ∀ v ∈ earlier, v.text ≠ volid.text := by
    intro earlier volid
    simp [checkVolid]
  exact List.pairwise_map.mpr ((forEachSeen_eq_ok hstep).mp h).2.1

/-- What the loop over the members compares two of them by. -/
def MembersApart (scopeId : String) (m n : Member) : Prop :=
  m.id ≠ n.id ∧ Scoped.physicalName scopeId m ≠ Scoped.physicalName scopeId n

theorem checkMember_earlier {scopeId : String} (earlier : List Member) (m : Member) :
    checkMember scopeId [] earlier m = .ok () ↔
      checkMember scopeId [] [] m = .ok () ∧ ∀ e ∈ earlier, MembersApart scopeId e m := by
  simp only [checkMember, bind_unit_eq_ok, demand_eq_ok, Bool.and_eq_true, List.all_eq_true,
    decide_eq_true_eq, List.not_mem_nil, false_implies, implies_true, and_true, true_and,
    MembersApart]
  constructor
  · intro h
    exact ⟨h.2.1, fun e he => ⟨h.1 e he, h.2.2 e he⟩⟩
  · intro h
    exact ⟨fun e he => (h.2 e he).1, h.1, fun e he => (h.2 e he).2⟩

/-- What the loop over the roots compares two of them by. -/
def RootsApart (scopeId : String) (a b : NormalizedRoot) : Prop :=
  globalId scopeId a.id ≠ globalId scopeId b.id ∧
    ∀ m ∈ a.members, ∀ n ∈ b.members, MembersApart scopeId m n

theorem checkRoot_earlier {scopeId : String} {physical : Physical} (earlier : List NormalizedRoot)
    (root : NormalizedRoot) :
    checkRoot scopeId physical [] earlier root = .ok () ↔
      checkRoot scopeId physical [] [] root = .ok () ∧
        ∀ e ∈ earlier, RootsApart scopeId e root := by
  simp only [checkRoot, bind_unit_eq_ok, demand_eq_ok, Bool.and_eq_true, List.all_eq_true,
    decide_eq_true_eq, forEachSeen_eq_ok checkMember_earlier, List.not_mem_nil, false_implies,
    implies_true, and_true, true_and, List.flatMap_nil, List.mem_flatMap, RootsApart]
  constructor
  · intro h
    obtain ⟨hvg, hids, hmembers, hpair, hseen⟩ := h
    exact ⟨⟨hvg, hmembers, hpair⟩, fun e he => ⟨hids e he, fun m hm => hseen m ⟨e, he, hm⟩⟩⟩
  · intro h
    obtain ⟨⟨hvg, hmembers, hpair⟩, hearlier⟩ := h
    refine ⟨hvg, fun e he => (hearlier e he).1, hmembers, hpair, ?_⟩
    intro m hm
    obtain ⟨e, he, hm⟩ := hm
    exact (hearlier e he).2 m hm

theorem checkRoots_pairwise {scopeId : String} {physical : Physical} {roots : List NormalizedRoot}
    (h : forEachSeen (checkRoot scopeId physical []) [] roots = .ok ()) :
    (roots.map fun r => globalId scopeId r.id).Nodup ∧
      (roots.flatMap NormalizedRoot.members).Pairwise (MembersApart scopeId) := by
  obtain ⟨heach, hpair, -⟩ := (forEachSeen_eq_ok checkRoot_earlier).mp h
  refine ⟨List.pairwise_map.mpr (hpair.imp fun hab => hab.1), ?_⟩
  rw [List.pairwise_flatMap]
  refine ⟨?_, hpair.imp fun hab => hab.2⟩
  intro root hroot
  have hroot := heach root hroot
  simp only [checkRoot, bind_unit_eq_ok, List.flatMap_nil, forEachSeen_eq_ok checkMember_earlier]
    at hroot
  exact hroot.2.2.2.1

theorem checkRebuild_eq_ok {plan : PlanV2} {u : Unit} (h : checkRebuild plan = .ok u) :
    adaptPlan plan.adapterInputs = .ok (.v2 plan) := by
  simp only [checkRebuild, bind_eq_ok, demand_eq_ok] at h
  obtain ⟨-, -, rebuilt, hrebuilt, answer, hsame, rfl⟩ := h
  rw [hrebuilt, (same_eq_ok.mp hsame).mp rfl]

theorem mapperNames_nodup {scopeId : String} {p : PlanV2}
    (h : (p.roots.flatMap NormalizedRoot.members).Pairwise (MembersApart scopeId)) :
    (mapperNames p).Nodup := by
  rw [mapperNames, List.Nodup, List.pairwise_map]
  refine (List.pairwise_filter.mpr (h.imp ?_))
  intro m n hmn hm hn heq
  apply hmn.2
  rw [Scoped.physicalName, Scoped.physicalName, of_decide_eq_true hm, of_decide_eq_true hn, heq]

theorem mem_mapperNames {p : PlanV2}
    (htypes : ∀ r ∈ p.roots, (∀ m ∈ r.objects, m.type = .lvmLv) ∧ ∀ m ∈ r.runtimeIds, m.type = .dm)
    (name : String) :
    name ∈ mapperNames p ↔ ∃ r ∈ p.roots, ∃ m ∈ r.runtimeIds, m.name.text = name := by
  simp only [mapperNames, List.mem_map, List.mem_filter, List.mem_flatMap, NormalizedRoot.members,
    List.mem_append, decide_eq_true_eq]
  constructor
  · intro h
    obtain ⟨m, ⟨⟨r, hr, hm⟩, htype⟩, hname⟩ := h
    rcases hm with hm | hm
    · rw [(htypes r hr).1 m hm] at htype
      cases htype
    · exact ⟨r, hr, m, hm, hname⟩
  · intro h
    obtain ⟨r, hr, m, hm, hname⟩ := h
    exact ⟨m, ⟨⟨r, hr, .inr hm⟩, (htypes r hr).2 m hm⟩, hname⟩

theorem sound_of_local {env : Envelope} {s : Scoped} (h : Local env s) : Sound env s := by
  obtain ⟨physical, scopeId, common, hc, rfl⟩ := composeScope_eq_ok.mp h
  have hadapt := checkRebuild_eq_ok hc.rebuild
  obtain ⟨hinput, hplan⟩ := adaptPlan_v2 hadapt
  have hlossless := lossless_of_normalizedRoots (rebuilt_of_checkInput hinput) hplan
  obtain ⟨-, -, -, hvolids, hvolumes, hids, -⟩ := normalizedRoots_eq_ok hplan
  obtain ⟨hroots, hmembers⟩ := checkRoots_pairwise hc.roots
  refine ⟨rfl, checkAlias_nodup hc.aliases, checkVolid_nodup hc.volids, sortBy_perm _ _, ?_, ?_, ?_,
    ?_, mapperNames_nodup hmembers, ?_⟩
  · have hperm : (env.executorV2.volumes.map VolumeLeaves.volid).Perm env.executorV2.volids := by
      rw [hvolids, hvolumes]
      exact ((sortBy_perm _ _).map _).trans (sortBy_perm _ _).symm
    have htexts := (hperm.trans (sortBy_perm Scalar.text env.executorV2.volids).symm).map Scalar.text
    simpa only [scopedOf, List.map_map, Function.comp_def, globalVolume] using htexts
  · simpa only [scopedOf, List.map_map, Function.comp_def, globalRoot] using hroots
  · exact List.pairwise_map.mpr (hmembers.imp fun hab => hab.1)
  · exact hlossless.objectIds.symm
  · intro name
    rw [mem_mapperNames hlossless.types, runtimeNames_iff hadapt]

/-! ## All scopes -/

section
variable {α β κ : Type} {l : List α} {f : α → List β} {key : β → κ}

theorem nodup_map_flatMap (heach : ∀ a ∈ l, ((f a).map key).Nodup)
    (hpair : l.Pairwise fun a b => ∀ x ∈ f a, ∀ y ∈ f b, key x ≠ key y) :
    ((l.flatMap f).map key).Nodup := by
  rw [List.map_flatMap, List.nodup_flatMap]
  refine ⟨heach, hpair.imp ?_⟩
  intro a b hab k hk hk'
  obtain ⟨x, hx, rfl⟩ := List.mem_map.mp hk
  obtain ⟨y, hy, heq⟩ := List.mem_map.mp hk'
  exact hab x hx y hy heq.symm

end

theorem sortTexts_perm {l l' : List String} (hl : l.Nodup) (hperm : l.Perm l') :
    sortTexts l = sortTexts l' := by
  refine (sortBy_eq_iff ?_).mpr hperm
  rw [List.map_id]
  exact hl

section
variable {envs : List Envelope} {accepted : List Scoped} (h : Together envs accepted)
include h

theorem Together.sound : List.Forall₂ Sound envs accepted :=
  h.each.imp fun _ _ => sound_of_local

theorem Together.sound_mem {s : Scoped} (hs : s ∈ accepted) : ∃ env ∈ envs, Sound env s :=
  forall₂_right h.sound hs

theorem Together.scopeIds_nodup : (accepted.map fun s => s.entry.scopeId).Nodup :=
  List.pairwise_map.mpr (h.apart.imp fun hab => hab.scopeId)

theorem Together.volids_nodup : ((accepted.flatMap fun s => s.entry.volids).map Scalar.text).Nodup := by
  refine nodup_map_flatMap ?_ (h.apart.imp fun hab => hab.volids)
  intro s hs
  obtain ⟨env, -, hsound⟩ := h.sound_mem hs
  exact hsound.volids

theorem Together.roots_nodup : ((accepted.flatMap Scoped.roots).map GlobalRoot.id).Nodup := by
  refine nodup_map_flatMap ?_ (h.apart.imp fun hab => hab.roots)
  intro s hs
  obtain ⟨env, -, hsound⟩ := h.sound_mem hs
  exact hsound.roots

theorem Together.members_nodup : ((accepted.flatMap Scoped.members).map Member.id).Nodup := by
  refine nodup_map_flatMap ?_ (h.apart.imp fun hab => hab.members)
  intro s hs
  obtain ⟨env, -, hsound⟩ := h.sound_mem hs
  exact hsound.members

theorem Together.volumes_nodup :
    ((accepted.flatMap Scoped.volumes).map fun v => v.volid.text).Nodup := by
  have hmem : ∀ s ∈ accepted, ∀ v ∈ s.volumes, ∃ volid ∈ s.entry.volids, volid.text = v.volid.text := by
    intro s hs v hv
    obtain ⟨env, -, hsound⟩ := h.sound_mem hs
    exact List.mem_map.mp (hsound.volumes.mem_iff.mp (List.mem_map_of_mem hv))
  refine nodup_map_flatMap ?_ (h.apart.imp_of_mem ?_)
  · intro s hs
    obtain ⟨env, -, hsound⟩ := h.sound_mem hs
    exact hsound.volumes.nodup_iff.mpr hsound.volids
  · intro s t hs ht hab v hv w hw
    obtain ⟨volid, hvolid, hv⟩ := hmem s hs v hv
    obtain ⟨volid', hvolid', hw⟩ := hmem t ht w hw
    rw [← hv, ← hw]
    exact hab.volids volid hvolid volid' hvolid'

theorem Together.envelopes : accepted.map (fun s => s.entry.envelope) = envs := by
  have heq : envs.map id = accepted.map fun s => s.entry.envelope :=
    forall₂_map_eq h.sound fun env s hs => hs.envelope.symm
  rw [← heq, List.map_id]

/-- The plan does not depend on the order of its scopes. -/
theorem Together.body_perm {reordered : List Scoped} (hperm : accepted.Perm reordered)
    (first : Common) : bodyOf first accepted = bodyOf first reordered := by
  have hvolids := sortTexts_perm h.volids_nodup
    ((hperm.flatMap_right fun s => s.entry.volids).map Scalar.text)
  have hscopeIds := sortTexts_perm h.scopeIds_nodup (hperm.map fun s => s.entry.scopeId)
  have hscopes : sortBy ScopeEntry.scopeId (accepted.map Scoped.entry) =
      sortBy ScopeEntry.scopeId (reordered.map Scoped.entry) := by
    refine (sortBy_eq_iff ?_).mpr (hperm.map Scoped.entry)
    rw [List.map_map]
    exact h.scopeIds_nodup
  have hroots := (sortBy_eq_iff h.roots_nodup).mpr (hperm.flatMap_right Scoped.roots)
  have hvolumes := (sortBy_eq_iff h.volumes_nodup).mpr (hperm.flatMap_right Scoped.volumes)
  have hobjects := sortTexts_perm h.members_nodup
    ((hperm.flatMap_right Scoped.members).map Member.id)
  simp only [bodyOf, hvolids, hscopeIds, hscopes, hroots, hvolumes, hobjects]

end

theorem compose_eq_ok {scopes : List Envelope} {p : PlanV3} : compose scopes = .ok p ↔
    ∃ first rest, Together scopes (first :: rest) ∧ assemble first.common (first :: rest) = .ok p := by
  simp only [compose, bind_eq_ok, composeScopes_together]
  constructor
  · intro h
    obtain ⟨accepted, htogether, h⟩ := h
    cases accepted with
    | nil => cases h
    | cons first rest => exact ⟨first, rest, htogether, h⟩
  · intro h
    obtain ⟨first, rest, htogether, h⟩ := h
    exact ⟨first :: rest, htogether, h⟩

theorem compose_perm {scopes others : List Envelope} {p : PlanV3} (h : compose scopes = .ok p)
    (hperm : scopes.Perm others) : compose others = .ok p := by
  obtain ⟨first, rest, htogether, hp⟩ := compose_eq_ok.mp h
  obtain ⟨reordered, hothers, hre⟩ := htogether.perm hperm
  cases reordered with
  | nil => exact absurd hre.length_eq (by simp)
  | cons first' rest' =>
    refine compose_eq_ok.mpr ⟨first', rest', hothers, ?_⟩
    have hcommon : first'.common = first.common :=
      htogether.common first' (hre.mem_iff.mpr (by simp)) first (by simp)
    rw [hcommon]
    simp only [assemble, ← htogether.body_perm hre]
    exact hp

/-! ## The composed plan -/

/-- Two scopes of one plan share no identity. -/
structure EntriesApart (a b : ScopeEntry) : Prop where
  wwid : a.physical.wwid ≠ b.physical.wwid
  vgUuid : a.physical.vgUuid.text ≠ b.physical.vgUuid.text
  pvUuid : a.physical.pvUuid.text ≠ b.physical.pvUuid.text
  storageIds : ∀ s ∈ a.storageIds, ∀ t ∈ b.storageIds, s.text ≠ t.text
  volids : ∀ v ∈ a.volids, ∀ w ∈ b.volids, v.text ≠ w.text
  objectIds : ∀ x ∈ a.executorV2.objectIds, ∀ y ∈ b.executorV2.objectIds, x ≠ y

theorem EntriesApart.symm {a b : ScopeEntry} (h : EntriesApart a b) : EntriesApart b a where
  wwid := h.wwid.symm
  vgUuid := h.vgUuid.symm
  pvUuid := h.pvUuid.symm
  storageIds s hs t ht := (h.storageIds t ht s hs).symm
  volids v hv w hw := (h.volids w hw v hv).symm
  objectIds x hx y hy := (h.objectIds y hy x hx).symm

/-- What a composed plan owes the envelopes it was composed of. -/
structure Composed (scopes : List Envelope) (p : PlanV3) : Prop where
  permuted : ∀ others, scopes.Perm others → compose others = .ok p
  validated : validate p = .ok p
  envelopes : (p.scopes.map ScopeEntry.envelope).Perm scopes
  apart : p.scopes.Pairwise EntriesApart
  mapperNames : (p.scopes.flatMap fun e => Compose.mapperNames e.executorV2).Nodup
  volids : p.volids.Perm (scopes.flatMap fun env => env.executorV2.volids.map Scalar.text)
  volids_nodup : p.volids.Nodup
  objectIds : p.objectIds.Perm (scopes.flatMap fun env => env.executorV2.objectIds)
  objectIds_nodup : p.objectIds.Nodup

/-- No mapper name is bound in two scopes. -/
def MapperNamesApart (scopes : List Envelope) : Prop :=
  scopes.Pairwise fun a b => ∀ x ∈ a.executorV2.adapterInputs.bindings.runtimes.fields,
    ∀ y ∈ b.executorV2.adapterInputs.bindings.runtimes.fields, x.2.name.text ≠ y.2.name.text

theorem assemble_eq_ok {first : Common} {accepted : List Scoped} {p : PlanV3}
    (h : assemble first accepted = .ok p) : p.toPlanV3Body = bodyOf first accepted := by
  simp only [assemble, bind_eq_ok, pure_eq_ok] at h
  obtain ⟨-, -, -, -, -, -, rfl⟩ := h
  rfl

theorem validate_eq_ok {p : PlanV3} (hschema : p.schema = "sharedlvmthin-vm-destroy-executor-plan/v3")
    (h : compose (p.scopes.map ScopeEntry.envelope) = .ok p) : validate p = .ok p := by
  have hsame : same p p = .ok true := same_eq_ok.mpr (by simp)
  simp only [validate, bind_eq_ok, demand_eq_ok, decide_eq_true_eq, pure_eq_ok]
  exact ⟨(), hschema, p, h, true, hsame, (), rfl, rfl⟩

theorem forall₂_flatMap_perm {α β γ : Type} {R : α → β → Prop} {f : α → List γ} {g : β → List γ}
    {l : List α} {l' : List β} (h : List.Forall₂ R l l') (hfg : ∀ a b, R a b → (g b).Perm (f a)) :
    (l'.flatMap g).Perm (l.flatMap f) := by
  induction h with
  | nil => exact .refl _
  | cons hab _ ih =>
    rw [List.flatMap_cons, List.flatMap_cons]
    exact (hfg _ _ hab).append ih

section
variable {envs : List Envelope} {accepted : List Scoped} (h : Together envs accepted)
include h

theorem Together.entries_apart : (accepted.map Scoped.entry).Pairwise EntriesApart := by
  rw [List.pairwise_map]
  refine h.apart.imp_of_mem ?_
  intro s t hs ht hab
  refine ⟨hab.wwid, hab.vgUuid, hab.pvUuid, hab.storageIds, hab.volids, ?_⟩
  have hmem : ∀ u ∈ accepted, ∀ x ∈ u.entry.executorV2.objectIds, ∃ m ∈ u.members, m.id = x := by
    intro u hu x hx
    obtain ⟨env, -, hsound⟩ := h.sound_mem hu
    have hplan : u.entry.executorV2 = env.executorV2 := congrArg Envelope.executorV2 hsound.envelope
    rw [hplan] at hx
    exact List.mem_map.mp (hsound.members_perm.mem_iff.mpr hx)
  intro x hx y hy
  obtain ⟨m, hm, rfl⟩ := hmem s hs x hx
  obtain ⟨n, hn, rfl⟩ := hmem t ht y hy
  exact hab.members m hm n hn

theorem Together.volids_perm : ((accepted.flatMap fun s => s.entry.volids).map Scalar.text).Perm
    (envs.flatMap fun env => env.executorV2.volids.map Scalar.text) := by
  rw [List.map_flatMap]
  exact forall₂_flatMap_perm h.sound fun env s hs => hs.volids_perm.map _

theorem Together.objectIds_perm : ((accepted.flatMap Scoped.members).map Member.id).Perm
    (envs.flatMap fun env => env.executorV2.objectIds) := by
  rw [List.map_flatMap]
  exact forall₂_flatMap_perm h.sound fun env s hs => hs.members_perm

/-- Names are distinct inside each scope, so only two scopes can share one. -/
theorem Together.mapperNames_nodup_iff :
    (envs.flatMap fun env => mapperNames env.executorV2).Nodup ↔ MapperNamesApart envs := by
  have hsound : ∀ env ∈ envs, ∃ s, Sound env s := by
    intro env henv
    obtain ⟨s, -, hs⟩ := forall₂_right h.sound.flip henv
    exact ⟨s, hs⟩
  rw [List.nodup_flatMap, MapperNamesApart]
  constructor
  · intro hnodup
    refine hnodup.2.imp_of_mem ?_
    intro a b ha hb hdisjoint x hx y hy heq
    obtain ⟨s, hs⟩ := hsound a ha
    obtain ⟨t, ht⟩ := hsound b hb
    exact hdisjoint ((hs.bindings _).mpr ⟨x, hx, rfl⟩) ((ht.bindings _).mpr ⟨y, hy, heq.symm⟩)
  · intro hapart
    refine ⟨?_, hapart.imp_of_mem ?_⟩
    · intro env henv
      obtain ⟨s, hs⟩ := hsound env henv
      exact hs.mapperNames
    · intro a b ha hb hab name hname hname'
      obtain ⟨s, hs⟩ := hsound a ha
      obtain ⟨t, ht⟩ := hsound b hb
      obtain ⟨x, hx, rfl⟩ := (hs.bindings name).mp hname
      obtain ⟨y, hy, heq⟩ := (ht.bindings _).mp hname'
      exact hab x hx y hy heq.symm

end

section
variable {scopes : List Envelope} {p : PlanV3} (h : compose scopes = .ok p)
include h

theorem envelopes_perm : (p.scopes.map ScopeEntry.envelope).Perm scopes := by
  obtain ⟨first, rest, htogether, hassemble⟩ := compose_eq_ok.mp h
  rw [assemble_eq_ok hassemble]
  refine ((sortBy_perm _ _).map _).trans (List.Perm.of_eq ?_)
  rw [List.map_map]
  exact htogether.envelopes

theorem mapperNames_nodup_iff :
    (p.scopes.flatMap fun e => mapperNames e.executorV2).Nodup ↔ MapperNamesApart scopes := by
  obtain ⟨first, rest, htogether, -⟩ := compose_eq_ok.mp h
  rw [← htogether.mapperNames_nodup_iff]
  refine List.Perm.nodup_iff ?_
  have hflat := (envelopes_perm h).flatMap_right fun env => mapperNames env.executorV2
  rwa [List.flatMap_map] at hflat

end

/-- An accepted composition is order-free, validates as it is and is the disjoint union of its
scopes; its mapper names are distinct exactly when no two scopes bind the same one. -/
theorem compose_exact_iff {scopes : List Envelope} {p : PlanV3} (h : compose scopes = .ok p) :
    Composed scopes p ↔ MapperNamesApart scopes := by
  obtain ⟨first, rest, htogether, hassemble⟩ := compose_eq_ok.mp h
  have hbody := assemble_eq_ok hassemble
  have hscopes : p.scopes.Perm ((first :: rest).map Scoped.entry) := by
    rw [hbody]
    exact sortBy_perm _ _
  constructor
  · intro hcomposed
    exact (mapperNames_nodup_iff h).mp hcomposed.mapperNames
  · intro hapart
    refine ⟨fun others hperm => compose_perm h hperm, ?_, envelopes_perm h, ?_,
      (mapperNames_nodup_iff h).mpr hapart, ?_, ?_, ?_, ?_⟩
    · exact validate_eq_ok (by rw [hbody]; rfl) (compose_perm h (envelopes_perm h).symm)
    · exact (hscopes.pairwise_iff fun hab => EntriesApart.symm hab).mpr htogether.entries_apart
    · rw [hbody]
      exact (sortBy_perm _ _).trans htogether.volids_perm
    · rw [hbody]
      exact (sortBy_perm _ _).nodup_iff.mpr htogether.volids_nodup
    · rw [hbody]
      exact (sortBy_perm _ _).trans htogether.objectIds_perm
    · rw [hbody]
      exact (sortBy_perm _ _).nodup_iff.mpr htogether.members_nodup

/-! ## Acceptance -/

/-- A composition inside the budget is accepted. -/
theorem compose_isOk {scopes : List Envelope} {first : Scoped} {rest : List Scoped}
    (h : Together scopes (first :: rest))
    (hnarrow : (Encodes.value (bodyOf first.common (first :: rest))).narrow = true)
    (hbound : (Encodes.value (bodyOf first.common (first :: rest))).bound ≤ 700000) :
    ∃ p, compose scopes = .ok p := by
  obtain ⟨planSha256, hdigest⟩ := textDigest_isOk hnarrow
  have hhex := textDigest_isDigest hdigest
  generalize hbody : bodyOf first.common (first :: rest) = body at hbound hdigest
  obtain ⟨text, htext⟩ := (Encodes.plain (⟨body, planSha256⟩ : PlanV3)).canonical_ok
  have hlength : text.toList.length ≤ maxBytes := by
    have hle := (Encodes.plain (⟨body, planSha256⟩ : PlanV3)).length_le_bound
    rw [Value.chars_of_canonical htext] at hle
    have hname : "plan_sha256".toList.length = 11 := by decide
    simp only [Encodes.value, Value.bound, Value.boundFields_append, Value.boundFields, hhex.1, hname]
      at hle hbound
    simp only [maxBytes]
    omega
  refine ⟨⟨body, planSha256⟩, compose_eq_ok.mpr ⟨first, rest, h, ?_⟩⟩
  simp only [assemble, hbody, bind_eq_ok, demand_eq_ok, decide_eq_true_eq, pure_eq_ok]
  exact ⟨planSha256, hdigest, text, htext, (), hlength, rfl⟩

/-! ## Two scopes with one mapper name -/

def samplePhysical (second : Bool) : Physical :=
  ⟨⟨.string (letter second), .string (letter second), letter second⟩, "vg-" ++ letter second⟩

def sampleScopeId (second : Bool) : String :=
  if second then "d9f9688ce06b77cf77aa83a97e3198d5a4612c2c6121b70762a0b6c8a3b01cd8"
  else "ad137fb9e865b3eecc1a814a11f264753f2979fff2a88441230bfc99f3ee9936"

/-- The envelope of a scope around its executor plan. -/
def sampleEnvelope (second : Bool) (source : Plan) (adapterSha256 : String) : Envelope where
  collectorSid := .string ("store-" ++ letter second)
  executorV2 := sampleV2 second source adapterSha256
  foreignEvidence := ⟨.hash [], .record (by simp) (by simp)⟩
  foreignEvidenceSha256 := .string "44136fa355b3678a1146ad16f7e8649e94fb4fc21fe77e8310c060f61caaff8a"

def sampleCommon (storecfgSha256 : String) : Common where
  vmid := "101"
  rawConfig := sampleConfig
  configSha256 := "c72ee789ce99a68d0ce056f0e0cc857ee59394817c1aa2522908bda9a7af5345"
  parsedConfigSha256 := "d0789187f634eb1c8cd77fba18a7c548f0de0049a4fc6d3f2ee83071e15db4ca"
  storecfgSha256 := storecfgSha256
  node := .string "node-a"
  bootId := .string "boot-a"
  scopeConfigSha256 := .string (String.ofList (List.replicate 64 'a'))

def sampleScoped (second : Bool) (source : Plan) (adapterSha256 storecfgSha256 : String) : Scoped :=
  scopedOf (sampleEnvelope second source adapterSha256) (samplePhysical second)
    (sampleScopeId second) (sampleCommon storecfgSha256)

/-- The checks of a sample scope do not depend on the digests of its plan. -/
theorem sampleScope_checks : ∀ second,
    physicalOf (sampleV2 second (samplePlan second "" "") "") = .ok (samplePhysical second) ∧
      forEachSeen (checkAlias (sampleV2 second (samplePlan second "" "") "")
        (samplePhysical second) []) [] (sortBy Scalar.text (sampleInventory second).scope.storageIds) =
          .ok () ∧
      ((sortBy Scalar.text (sampleInventory second).scope.storageIds).any
        fun s => s.text = "store-" ++ letter second) = true ∧
      forEachSeen (checkVolid (sortBy Scalar.text (sampleInventory second).scope.storageIds) []) []
        (sortBy Scalar.text (sampleV2 second (samplePlan second "" "") "").volids) = .ok () ∧
      forEachSeen (checkRoot (sampleScopeId second) (samplePhysical second) []) [] [sampleRoot second] =
        .ok () ∧
      ∀ v ∈ (sampleV2 second (samplePlan second "" "") "").volumes,
        checkVolumeRoot (sampleV2 second (samplePlan second "" "") "") v = .ok () := by
  decide +kernel

instance sampleScopeId_digest : Fact (∀ second,
    textDigest (samplePhysical second).toPhysicalId = .ok (sampleScopeId second)) :=
  ⟨by decide +kernel⟩

theorem sampleEvidence : ∀ second,
    checkEvidence (sampleEnvelope second (samplePlan second "" "") "") = .ok () := by
  decide +kernel

theorem sample_local {second : Bool} {foreignSha256 planSha256 adapterSha256 storecfgSha256 : String}
    (hadapted : adaptPlan (sampleInput second (samplePlan second foreignSha256 planSha256)) =
      .ok (.v2 (sampleV2 second (samplePlan second foreignSha256 planSha256) adapterSha256)))
    (hstorecfg : textDigest sampleStorecfg = .ok storecfgSha256) :
    Local (sampleEnvelope second (samplePlan second foreignSha256 planSha256) adapterSha256)
      (sampleScoped second (samplePlan second foreignSha256 planSha256) adapterSha256
        storecfgSha256) := by
  obtain ⟨hphysical, haliases, hcollector, hvolids, hroots, hvolumes⟩ := sampleScope_checks second
  have hrebuild : checkRebuild
      (sampleV2 second (samplePlan second foreignSha256 planSha256) adapterSha256) = .ok () := by
    simp only [checkRebuild, bind_eq_ok, demand_eq_ok]
    exact ⟨(), rfl, _, hadapted, true, same_eq_ok.mpr (by simp), rfl⟩
  have hcommon : commonOf
      (sampleV2 second (samplePlan second foreignSha256 planSha256) adapterSha256) =
        .ok (sampleCommon storecfgSha256) := by
    simp only [commonOf, bind_eq_ok, pure_eq_ok]
    exact ⟨storecfgSha256, hstorecfg, rfl⟩
  refine composeScope_eq_ok.mpr ⟨samplePhysical second, sampleScopeId second,
    sampleCommon storecfgSha256, ?_, rfl⟩
  exact ⟨sampleEvidence second, hrebuild, hphysical, sampleScopeId_digest.out second,
    checkPhysicalFresh_eq_ok.mpr (by simp), haliases, hcollector, hcommon,
    checkCommon_eq_ok.mpr (by simp), hvolids, hroots, hvolumes⟩

/-- The digests of one sample scope. -/
structure SampleDigests where
  foreign : String
  plan : String
  adapter : String

structure SampleDigests.Valid (d : SampleDigests) : Prop where
  foreign : IsDigest d.foreign
  plan : IsDigest d.plan
  adapter : IsDigest d.adapter

section
variable (storecfgSha256 : String) (digests : Bool → SampleDigests)

def scopedWith (second : Bool) : Scoped :=
  sampleScoped second (samplePlan second (digests second).foreign (digests second).plan)
    (digests second).adapter storecfgSha256

def envelopeWith (second : Bool) : Envelope :=
  sampleEnvelope second (samplePlan second (digests second).foreign (digests second).plan)
    (digests second).adapter

end

/-- The sample with all digests zero. -/
def zeroScoped (second : Bool) : Scoped := scopedWith zeros (fun _ => ⟨zeros, zeros, zeros⟩) second

section
variable {storecfgSha256 : String} {digests : Bool → SampleDigests}
  (hvalid : ∀ second, (digests second).Valid)
include hvalid

theorem sampleEntry_alike (second : Bool) :
    Alike (scopedWith storecfgSha256 digests second).entry (zeroScoped second).entry := by
  have hplan := (hvalid second).plan.alike zeros_isDigest
  have hadapter := (hvalid second).adapter.alike zeros_isDigest
  have hinput : Alike (sampleInput second
      (samplePlan second (digests second).foreign (digests second).plan))
      (sampleInput second (samplePlan second zeros zeros)) :=
    sampleInput_alike (samplePlan_alike (hvalid second).foreign (hvalid second).plan)
  have hv2 : Alike (scopedWith storecfgSha256 digests second).entry.executorV2
      (zeroScoped second).entry.executorV2 := by
    refine Value.shape_hash ?_
    simp [scopedWith, zeroScoped, sampleScoped, scopedOf, sampleEnvelope, sampleV2, sampleBody,
      PlanAdapter.bodyOf, PlanV2Body.fields, sampleInput]
    exact ⟨hinput, hadapter, hplan, rfl⟩
  refine Value.shape_hash ?_
  simp only [List.forall₂_cons, List.forall₂_nil_left_iff, true_and, and_true]
  exact ⟨hadapter, rfl, hv2, rfl, rfl, rfl, rfl, rfl, hplan, rfl⟩

theorem sampleScopes_alike (sides : List Bool) (hstorecfg : IsDigest storecfgSha256) :
    Alike (bodyOf (sampleCommon storecfgSha256) (sides.map (scopedWith storecfgSha256 digests)))
      (bodyOf (sampleCommon zeros) (sides.map zeroScoped)) := by
  have hsort : ∀ f : Bool → Scoped, (∀ second, (f second).entry.scopeId = sampleScopeId second) →
      sortBy ScopeEntry.scopeId ((sides.map f).map Scoped.entry) =
        (sortBy sampleScopeId sides).map fun second => (f second).entry := by
    intro f hf
    rw [List.map_map]
    exact sortBy_map hf sides
  have hscopes : Alike
      (bodyOf (sampleCommon storecfgSha256) (sides.map (scopedWith storecfgSha256 digests))).scopes
      (bodyOf (sampleCommon zeros) (sides.map zeroScoped)).scopes := by
    refine Alike.list ?_
    simp only [bodyOf]
    rw [hsort _ fun _ => rfl, hsort _ fun _ => rfl]
    induction sortBy sampleScopeId sides with
    | nil => exact .nil
    | cons second rest ih => exact .cons (sampleEntry_alike hvalid second) ih
  refine Value.shape_hash ?_
  simp only [PlanV3Body.head, PlanV3Body.tail, List.cons_append, List.nil_append, List.forall₂_cons,
    List.forall₂_nil_left_iff, true_and, and_true]
  refine ⟨rfl, rfl, rfl, rfl, ?_, rfl, rfl, ?_, rfl, ?_, hscopes, hstorecfg.alike zeros_isDigest, rfl,
    ?_, ?_⟩
  · simp only [bodyOf, List.flatMap_map]
    rfl
  · simp only [bodyOf, List.flatMap_map]
    rfl
  · simp only [bodyOf, List.map_map]
    rfl
  · simp only [bodyOf, List.flatMap_map]
    rfl
  · simp only [bodyOf, List.flatMap_map]
    rfl

end

-- An instance is evaluated before what follows it.
instance zeroScoped_texts : Fact (∀ sides ∈ [[false], [false, true]],
    (texts (Encodes.value (bodyOf (sampleCommon zeros) (sides.map zeroScoped)))).all isAscii = true ∧
      textsBound (texts (Encodes.value (bodyOf (sampleCommon zeros) (sides.map zeroScoped)))) ≤
        700000) :=
  ⟨by decide +kernel⟩

theorem zeroScoped_fits (sides : List Bool) (hsides : sides ∈ [[false], [false, true]]) :
    (Encodes.value (bodyOf (sampleCommon zeros) (sides.map zeroScoped))).narrow = true ∧
      (Encodes.value (bodyOf (sampleCommon zeros) (sides.map zeroScoped))).bound ≤ 700000 := by
  obtain ⟨hascii, hbound⟩ := zeroScoped_texts.out sides hsides
  exact ⟨narrow_of_texts (Encodes.plain _) hascii,
    (Nat.le_of_add_right_le (bound_of_texts (Encodes.plain _))).trans hbound⟩

theorem zeroScoped_apart : Apart (zeroScoped false) (zeroScoped true) := by
  constructor
  case scopeId => decide +kernel
  case wwid => decide +kernel
  case vgUuid => decide +kernel
  case pvUuid => decide +kernel
  case storageIds => decide +kernel
  case volids => decide +kernel
  case roots => decide +kernel
  case members => decide +kernel
  case names => decide +kernel

theorem sample_composed : ∃ digests, ∀ sides ∈ [[false], [false, true]],
    ∃ p, compose (sides.map (envelopeWith digests)) = .ok p := by
  have hdigests : ∀ second, ∃ d : SampleDigests, d.Valid ∧
      adaptPlan (sampleInput second (samplePlan second d.foreign d.plan)) =
        .ok (.v2 (sampleV2 second (samplePlan second d.foreign d.plan) d.adapter)) := by
    intro second
    obtain ⟨foreignSha256, planSha256, adapterSha256, hf, hp, ha, h⟩ := sample_adapted second
    exact ⟨⟨foreignSha256, planSha256, adapterSha256⟩, ⟨hf, hp, ha⟩, h⟩
  choose digests hvalid hadapted using hdigests
  obtain ⟨storecfgSha256, hstorecfg⟩ := textDigest_isOk (a := sampleStorecfg) (by decide +kernel)
  have hlocal : ∀ second, Local (envelopeWith digests second)
      (scopedWith storecfgSha256 digests second) := fun second => sample_local (hadapted second) hstorecfg
  have hapart : Apart (scopedWith storecfgSha256 digests false)
      (scopedWith storecfgSha256 digests true) :=
    ⟨zeroScoped_apart.scopeId, zeroScoped_apart.wwid, zeroScoped_apart.vgUuid,
      zeroScoped_apart.pvUuid, zeroScoped_apart.storageIds, zeroScoped_apart.volids,
      zeroScoped_apart.roots, zeroScoped_apart.members, zeroScoped_apart.names⟩
  refine ⟨digests, ?_⟩
  intro sides hsides
  obtain ⟨hnarrow, hbound⟩ := Value.shape_eq.mp
    (sampleScopes_alike hvalid sides (textDigest_isDigest hstorecfg))
  obtain ⟨hzero, hle⟩ := zeroScoped_fits sides hsides
  have htogether : Together (sides.map (envelopeWith digests))
      (sides.map (scopedWith storecfgSha256 digests)) := by
    refine ⟨?_, ?_, ?_⟩
    · rw [List.forall₂_map_left_iff, List.forall₂_map_right_iff, List.forall₂_same]
      exact fun second _ => hlocal second
    · simp only [List.mem_cons, List.not_mem_nil, or_false] at hsides
      rcases hsides with rfl | rfl
      · simp
      · simpa using hapart
    · intro s hs t ht
      obtain ⟨second, -, rfl⟩ := List.mem_map.mp hs
      obtain ⟨third, -, rfl⟩ := List.mem_map.mp ht
      rfl
  cases sides with
  | nil => exact absurd hsides (by decide)
  | cons second rest =>
    exact compose_isOk htogether (hnarrow.trans hzero) (hbound.le.trans hle)

theorem compose_exact_one_scope : ∃ env p, compose [env] = .ok p ∧ Composed [env] p := by
  obtain ⟨digests, h⟩ := sample_composed
  obtain ⟨p, hp⟩ := h [false] (by simp)
  exact ⟨_, p, hp, (compose_exact_iff hp).mpr (by simp [MapperNamesApart])⟩

/-- Both scopes bind the mapper name `disk`, and the composition accepts them. -/
theorem compose_shared_mapper_name :
    ¬ ∀ scopes p, compose scopes = .ok p → Composed scopes p := by
  intro hall
  obtain ⟨digests, h⟩ := sample_composed
  obtain ⟨p, hp⟩ := h [false, true] (by simp)
  have hapart := (mapperNames_nodup_iff hp).mp (hall _ p hp).mapperNames
  simp only [MapperNamesApart, List.map_cons, List.map_nil, List.pairwise_cons, List.mem_singleton,
    forall_eq] at hapart
  exact hapart.1 _ (List.mem_singleton_self _) _ (List.mem_singleton_self _) rfl

end SharedLvmThin.Compose
