import SharedLvmThin.PlanAdapterLossless
import SharedLvmThin.PlanV3

/-! The loop over the envelopes. A scope is accepted by itself and against every earlier scope,
and the second condition is symmetric, so that the loop decides a property of the set of
envelopes. -/

namespace SharedLvmThin.Compose
open Perl KeyedLists StoragePlan PlanAdapter

/-- Two accepted scopes share no identity that the composition compares. -/
structure Apart (s t : Scoped) : Prop where
  scopeId : s.entry.scopeId ≠ t.entry.scopeId
  wwid : s.entry.physical.wwid ≠ t.entry.physical.wwid
  vgUuid : s.entry.physical.vgUuid.text ≠ t.entry.physical.vgUuid.text
  pvUuid : s.entry.physical.pvUuid.text ≠ t.entry.physical.pvUuid.text
  storageIds : ∀ a ∈ s.entry.storageIds, ∀ b ∈ t.entry.storageIds, a.text ≠ b.text
  volids : ∀ v ∈ s.entry.volids, ∀ w ∈ t.entry.volids, v.text ≠ w.text
  roots : ∀ r ∈ s.roots, ∀ r' ∈ t.roots, r.id ≠ r'.id
  members : ∀ m ∈ s.members, ∀ n ∈ t.members, m.id ≠ n.id
  names : ∀ x ∈ s.physicalNames, ∀ y ∈ t.physicalNames, x ≠ y

theorem Apart.symm {s t : Scoped} (h : Apart s t) : Apart t s where
  scopeId := h.scopeId.symm
  wwid := h.wwid.symm
  vgUuid := h.vgUuid.symm
  pvUuid := h.pvUuid.symm
  storageIds a ha b hb := (h.storageIds b hb a ha).symm
  volids v hv w hw := (h.volids w hw v hv).symm
  roots r hr r' hr' := (h.roots r' hr' r hr).symm
  members m hm n hn := (h.members n hn m hm).symm
  names x hx y hy := (h.names y hy x hx).symm

/-! ## One scope against the earlier ones -/

section
variable {seen : List Scoped}

theorem checkPhysicalFresh_eq_ok {scopeId : String} {physical : Physical} :
    checkPhysicalFresh seen scopeId physical = .ok () ↔ ∀ s ∈ seen,
      s.entry.scopeId ≠ scopeId ∧ s.entry.physical.wwid ≠ physical.wwid ∧
        s.entry.physical.vgUuid.text ≠ physical.vgUuid.text ∧
        s.entry.physical.pvUuid.text ≠ physical.pvUuid.text := by
  simp only [checkPhysicalFresh, bind_unit_eq_ok, demand_eq_ok, List.all_eq_true,
    decide_eq_true_eq]
  constructor
  · intro h s hs
    exact ⟨h.1 s hs, h.2.1 s hs, h.2.2.1 s hs, h.2.2.2 s hs⟩
  · intro h
    exact ⟨fun s hs => (h s hs).1, fun s hs => (h s hs).2.1, fun s hs => (h s hs).2.2.1,
      fun s hs => (h s hs).2.2.2⟩

theorem checkAlias_seen {plan : PlanV2} {physical : Physical} (earlier : List Scalar)
    (sid : Scalar) :
    checkAlias plan physical seen earlier sid = .ok () ↔
      checkAlias plan physical [] earlier sid = .ok () ∧
        ∀ s ∈ seen, ∀ a ∈ s.entry.storageIds, a.text ≠ sid.text := by
  simp only [checkAlias, bind_unit_eq_ok, demand_eq_ok, Bool.and_eq_true, List.all_eq_true,
    decide_eq_true_eq, List.not_mem_nil, false_implies, implies_true, and_true]
  constructor
  · intro h
    exact ⟨⟨h.1.1, h.2⟩, h.1.2⟩
  · intro h
    exact ⟨⟨h.1.1, h.2⟩, h.1.2⟩

theorem checkVolid_seen {aliases : List Scalar} (earlier : List Scalar) (volid : Scalar) :
    checkVolid aliases seen earlier volid = .ok () ↔
      checkVolid aliases [] earlier volid = .ok () ∧
        ∀ s ∈ seen, ∀ v ∈ s.entry.volids, v.text ≠ volid.text := by
  simp only [checkVolid, demand_eq_ok, Bool.and_eq_true, List.all_eq_true, decide_eq_true_eq,
    List.not_mem_nil, false_implies, implies_true, and_true]

theorem checkMember_seen {scopeId : String} (earlier : List Member) (m : Member) :
    checkMember scopeId seen earlier m = .ok () ↔
      checkMember scopeId [] earlier m = .ok () ∧
        ∀ s ∈ seen, (∀ e ∈ s.members, e.id ≠ m.id) ∧
          ∀ x ∈ s.physicalNames, x ≠ Scoped.physicalName scopeId m := by
  simp only [checkMember, bind_unit_eq_ok, demand_eq_ok, Bool.and_eq_true, List.all_eq_true,
    decide_eq_true_eq, List.not_mem_nil, false_implies, implies_true, and_true]
  constructor
  · intro h
    obtain ⟨⟨hids, hseen⟩, htype, hnames, hseen'⟩ := h
    exact ⟨⟨hids, htype, hnames⟩, fun s hs => ⟨hseen s hs, hseen' s hs⟩⟩
  · intro h
    obtain ⟨⟨hids, htype, hnames⟩, hseen⟩ := h
    exact ⟨⟨hids, fun s hs => (hseen s hs).1⟩, htype, hnames, fun s hs => (hseen s hs).2⟩

theorem checkRoot_seen {scopeId : String} {physical : Physical} (earlier : List NormalizedRoot)
    (root : NormalizedRoot) :
    checkRoot scopeId physical seen earlier root = .ok () ↔
      checkRoot scopeId physical [] earlier root = .ok () ∧
        ∀ s ∈ seen, (∀ e ∈ s.roots, e.id ≠ globalId scopeId root.id) ∧
          ∀ m ∈ root.members, (∀ e ∈ s.members, e.id ≠ m.id) ∧
            ∀ x ∈ s.physicalNames, x ≠ Scoped.physicalName scopeId m := by
  have hloop : forEachSeen (checkMember scopeId seen) (earlier.flatMap NormalizedRoot.members)
      root.members = .ok () ↔ forEachSeen (checkMember scopeId [])
        (earlier.flatMap NormalizedRoot.members) root.members = .ok () ∧ _ :=
    forEachSeen_and checkMember_seen
  simp only [checkRoot, bind_unit_eq_ok, hloop, demand_eq_ok, Bool.and_eq_true, List.all_eq_true,
    decide_eq_true_eq, List.not_mem_nil, false_implies, implies_true, and_true]
  constructor
  · intro h
    obtain ⟨hvg, ⟨hids, hseen⟩, hmembers, hseen'⟩ := h
    exact ⟨⟨hvg, hids, hmembers⟩, fun s hs => ⟨hseen s hs, fun m hm => hseen' m hm s hs⟩⟩
  · intro h
    obtain ⟨⟨hvg, hids, hmembers⟩, hseen⟩ := h
    exact ⟨hvg, ⟨hids, fun s hs => (hseen s hs).1⟩, hmembers, fun m hm s hs => (hseen s hs).2 m hm⟩

end

theorem checkCommon_eq_ok {first : Option Common} {common : Common} :
    checkCommon first common = .ok () ↔ ∀ f, first = some f → common = f := by
  simp only [checkCommon, bind_eq_ok, same_eq_ok, demand_eq_ok]
  cases first with
  | none => simp
  | some f => simp

/-- The record a scope leaves behind. -/
def scopedOf (env : Envelope) (physical : Physical) (scopeId : String) (common : Common) :
    Scoped where
  entry :=
    { scopeId := scopeId
      physical := physical
      storageIds := sortBy Scalar.text env.executorV2.adapterInputs.expectedScope.storageIds
      collectorSid := env.collectorSid
      volids := sortBy Scalar.text env.executorV2.volids
      executorV2 := env.executorV2
      adapterSha256 := env.executorV2.adapterSha256
      storagePlanSha256 := env.executorV2.storagePlanSha256
      foreignEvidence := env.foreignEvidence
      foreignEvidenceSha256 := env.foreignEvidenceSha256 }
  common := common
  roots := env.executorV2.roots.map (globalRoot scopeId)
  volumes := env.executorV2.volumes.map (globalVolume scopeId)

/-- The checks of one scope, those against the earlier scopes included. -/
structure ScopeChecks (first : Option Common) (seen : List Scoped) (env : Envelope)
    (physical : Physical) (scopeId : String) (common : Common) : Prop where
  evidence : checkEvidence env = .ok ()
  rebuild : checkRebuild env.executorV2 = .ok ()
  physical_ok : physicalOf env.executorV2 = .ok physical
  scopeId_ok : textDigest physical.toPhysicalId = .ok scopeId
  fresh : checkPhysicalFresh seen scopeId physical = .ok ()
  aliases : forEachSeen (checkAlias env.executorV2 physical seen) []
    (sortBy Scalar.text env.executorV2.adapterInputs.expectedScope.storageIds) = .ok ()
  collector : ((sortBy Scalar.text env.executorV2.adapterInputs.expectedScope.storageIds).any
    fun s => s.text = env.collectorSid.text) = true
  common_ok : commonOf env.executorV2 = .ok common
  shared : checkCommon first common = .ok ()
  volids : forEachSeen (checkVolid
      (sortBy Scalar.text env.executorV2.adapterInputs.expectedScope.storageIds) seen) []
    (sortBy Scalar.text env.executorV2.volids) = .ok ()
  roots : forEachSeen (checkRoot scopeId physical seen) [] env.executorV2.roots = .ok ()
  volumes : ∀ v ∈ env.executorV2.volumes, checkVolumeRoot env.executorV2 v = .ok ()

theorem composeScope_eq_ok {first : Option Common} {seen : List Scoped} {env : Envelope}
    {t : Scoped} : composeScope first seen env = .ok t ↔ ∃ physical scopeId common,
      ScopeChecks first seen env physical scopeId common ∧
        t = scopedOf env physical scopeId common := by
  simp only [composeScope, bind_eq_ok, exists_unit, demand_eq_ok, forEach_eq_ok, pure_eq_ok]
  constructor
  · intro h
    obtain ⟨hevidence, hrebuild, physical, hphysical, scopeId, hid, hfresh, haliases, hcollector,
      common, hcommon, hshared, hvolids, hroots, hvolumes, rfl⟩ := h
    exact ⟨physical, scopeId, common, ⟨hevidence, hrebuild, hphysical, hid, hfresh, haliases,
      hcollector, hcommon, hshared, hvolids, hroots, hvolumes⟩, rfl⟩
  · intro h
    obtain ⟨physical, scopeId, common, hc, rfl⟩ := h
    exact ⟨hc.evidence, hc.rebuild, physical, hc.physical_ok, scopeId, hc.scopeId_ok, hc.fresh,
      hc.aliases, hc.collector, common, hc.common_ok, hc.shared, hc.volids, hc.roots, hc.volumes,
      rfl⟩

/-- A scope is accepted by itself, with the common context, and apart from every earlier one. -/
theorem composeScope_seen {first : Option Common} {seen : List Scoped} {env : Envelope}
    {t : Scoped} : composeScope first seen env = .ok t ↔ composeScope none [] env = .ok t ∧
      (∀ f, first = some f → t.common = f) ∧ ∀ s ∈ seen, Apart s t := by
  simp only [composeScope_eq_ok]
  constructor
  · intro h
    obtain ⟨physical, scopeId, common, hc, rfl⟩ := h
    have hphysical := checkPhysicalFresh_eq_ok.mp hc.fresh
    obtain ⟨haliases, hseenAliases⟩ := (forEachSeen_and checkAlias_seen).mp hc.aliases
    obtain ⟨hvolids, hseenVolids⟩ := (forEachSeen_and checkVolid_seen).mp hc.volids
    obtain ⟨hroots, hseenRoots⟩ := (forEachSeen_and checkRoot_seen).mp hc.roots
    refine ⟨⟨physical, scopeId, common, ⟨hc.evidence, hc.rebuild, hc.physical_ok, hc.scopeId_ok,
      checkPhysicalFresh_eq_ok.mpr (by simp), haliases, hc.collector, hc.common_ok,
      checkCommon_eq_ok.mpr (by simp), hvolids, hroots, hc.volumes⟩, rfl⟩,
      checkCommon_eq_ok.mp hc.shared, ?_⟩
    intro s hs
    obtain ⟨hid, hwwid, hvg, hpv⟩ := hphysical s hs
    refine ⟨hid, hwwid, hvg, hpv, fun a ha b hb => hseenAliases b hb s hs a ha,
      fun v hv w hw => hseenVolids w hw s hs v hv, ?_, ?_, ?_⟩
    · intro r hr r' hr'
      obtain ⟨root, hroot, rfl⟩ := List.mem_map.mp hr'
      exact (hseenRoots root hroot s hs).1 r hr
    · intro m hm n hn
      obtain ⟨root, hroot, hn⟩ := List.mem_flatMap.mp hn
      exact ((hseenRoots root hroot s hs).2 n hn).1 m hm
    · intro x hx y hy
      obtain ⟨n, hn, rfl⟩ := List.mem_map.mp hy
      obtain ⟨root, hroot, hn⟩ := List.mem_flatMap.mp hn
      exact ((hseenRoots root hroot s hs).2 n hn).2 x hx
  · intro h
    obtain ⟨⟨physical, scopeId, common, hc, rfl⟩, hfirst, hapart⟩ := h
    have haliases := (forEachSeen_and checkAlias_seen).mpr
      ⟨hc.aliases, fun b hb s hs a ha => (hapart s hs).storageIds a ha b hb⟩
    have hvolids := (forEachSeen_and checkVolid_seen).mpr
      ⟨hc.volids, fun w hw s hs v hv => (hapart s hs).volids v hv w hw⟩
    have hroots := (forEachSeen_and checkRoot_seen).mpr ⟨hc.roots, fun root hroot s hs =>
      ⟨fun e he => (hapart s hs).roots e he _ (List.mem_map_of_mem hroot), fun m hm => by
        have hm := List.mem_flatMap.mpr ⟨root, hroot, hm⟩
        exact ⟨fun e he => (hapart s hs).members e he m hm,
          fun x hx => (hapart s hs).names x hx _ (List.mem_map_of_mem hm)⟩⟩⟩
    refine ⟨physical, scopeId, common, ⟨hc.evidence, hc.rebuild, hc.physical_ok, hc.scopeId_ok,
      checkPhysicalFresh_eq_ok.mpr ?_, haliases, hc.collector, hc.common_ok,
      checkCommon_eq_ok.mpr hfirst, hvolids, hroots, hc.volumes⟩, rfl⟩
    intro s hs
    exact ⟨(hapart s hs).scopeId, (hapart s hs).wwid, (hapart s hs).vgUuid, (hapart s hs).pvUuid⟩

/-! ## The loop -/

def Local (env : Envelope) (t : Scoped) : Prop := composeScope none [] env = .ok t

/-- What the loop over the envelopes decides, without reference to their order. -/
structure Together (envs : List Envelope) (accepted : List Scoped) : Prop where
  each : List.Forall₂ Local envs accepted
  apart : accepted.Pairwise Apart
  common : ∀ s ∈ accepted, ∀ t ∈ accepted, s.common = t.common

theorem composeScopes_eq_ok {envs : List Envelope} : ∀ {first : Option Common} {seen : List Scoped}
    {accepted : List Scoped}, composeScopes first seen envs = .ok accepted ↔
      Together envs accepted ∧ (∀ s ∈ seen, ∀ t ∈ accepted, Apart s t) ∧
        ∀ f, first = some f → ∀ t ∈ accepted, t.common = f := by
  induction envs with
  | nil =>
    intro first seen accepted
    simp only [composeScopes, Except.ok.injEq]
    constructor
    · intro h
      subst h
      exact ⟨⟨.nil, .nil, by simp⟩, by simp, by simp⟩
    · intro h
      cases h.1.each
      rfl
  | cons env rest ih =>
    intro first seen accepted
    simp only [composeScopes, bind_eq_ok, pure_eq_ok]
    constructor
    · intro h
      obtain ⟨t, ht, others, hothers, rfl⟩ := h
      obtain ⟨hlocal, hfirst, hseen⟩ := composeScope_seen.mp ht
      obtain ⟨htogether, hapart, hcommon⟩ := ih.mp hothers
      have hsame : ∀ u ∈ others, u.common = t.common := by
        intro u hu
        rw [hcommon _ rfl u hu]
        cases hf : first with
        | none => rfl
        | some f => exact (hfirst f hf).symm
      refine ⟨⟨.cons hlocal htogether.each, .cons (hapart t (by simp)) htogether.apart, ?_⟩, ?_, ?_⟩
      · intro u hu v hv
        have hall : ∀ w ∈ t :: others, w.common = t.common := by
          intro w hw
          rcases List.mem_cons.mp hw with rfl | hothers
          · rfl
          · exact hsame w hothers
        rw [hall u hu, hall v hv]
      · intro s hs u hu
        rcases List.mem_cons.mp hu with rfl | hu
        · exact hseen s hs
        · exact hapart s (by simp [hs]) u hu
      · intro f hf u hu
        rcases List.mem_cons.mp hu with rfl | hu
        · exact hfirst f hf
        · rw [hsame u hu]
          exact hfirst f hf
    · intro h
      obtain ⟨⟨heach, hpair, hcommon⟩, hseen, hfirst⟩ := h
      cases heach with
      | cons hlocal heach =>
        rename_i t others
        rw [List.pairwise_cons] at hpair
        refine ⟨t, composeScope_seen.mpr ⟨hlocal, fun f hf => hfirst f hf t (by simp),
          fun s hs => hseen s hs t (by simp)⟩, others, ih.mpr ⟨⟨heach, hpair.2, ?_⟩, ?_, ?_⟩, rfl⟩
        · intro u hu v hv
          exact hcommon u (by simp [hu]) v (by simp [hv])
        · intro s hs u hu
          rcases List.mem_cons.mp hs with rfl | hs
          · exact hpair.1 u hu
          · exact hseen s hs u (by simp [hu])
        · intro f hf u hu
          cases hfst : first with
          | none =>
            rw [hfst] at hf
            cases hf
            exact hcommon u (by simp [hu]) t (by simp)
          | some g =>
            rw [hfst] at hf
            cases hf
            exact hfirst g hfst u (by simp [hu])

theorem composeScopes_together {envs : List Envelope} {accepted : List Scoped} :
    composeScopes none [] envs = .ok accepted ↔ Together envs accepted := by
  rw [composeScopes_eq_ok]
  simp

theorem Together.perm {envs others : List Envelope} {accepted : List Scoped}
    (h : Together envs accepted) (hperm : envs.Perm others) :
    ∃ reordered, Together others reordered ∧ accepted.Perm reordered := by
  obtain ⟨reordered, heach, hre⟩ := List.perm_comp_forall₂ hperm.symm h.each
  refine ⟨reordered, ⟨heach, ?_, ?_⟩, hre.symm⟩
  · exact (hre.pairwise_iff fun h => Apart.symm h).mpr h.apart
  · intro s hs t ht
    exact h.common s (hre.mem_iff.mp hs) t (hre.mem_iff.mp ht)

end SharedLvmThin.Compose
