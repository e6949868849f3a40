import Mathlib.Data.Finset.Card
import SharedLvmThin.Loops
import SharedLvmThin.StoragePlanAccepted

/-! The walk over snapshot origins. The loop of the validation is given round by round; the
bounded walk of the inventory model is what this loop ends with. -/

namespace SharedLvmThin.StoragePlan
open Perl KeyedLists Loops

/-- One round of the `while` loop: the UUIDs visited so far and the cursor. -/
def originRound (members : List StorageObject) (volume : String) :
    List String × StorageObject → Except String Unit ⊕ (List String × StorageObject)
  | (visited, cursor) =>
    if cursor.kind.text = "snapshot" then
      if cursor.uuid.text ∈ visited then .inl (required false "snapshot origin cycle")
      else
        match findBy (fun o => o.uuid.text) members cursor.originUuid.text with
        | none => .inl (required false "snapshot origin ownership mismatch")
        | some next =>
          if next.volumeId.text = volume then .inr (cursor.uuid.text :: visited, next)
          else .inl (required false "snapshot origin ownership mismatch")
    else .inl (required (cursor.kind.text = "thin_lv") "snapshot origin is not a Thin disk")

/-- The origins of a snapshot lead through snapshots of its volume to a disk of its volume, all
inside the members and without repeating a UUID. -/
def ReachesDisk (members : List StorageObject) (member : StorageObject) : Prop :=
  ∃ (snapshots : List StorageObject) (disk : StorageObject),
    (member :: snapshots ++ [disk]).IsChain (fun a b => b.uuid.text = a.originUuid.text) ∧
    (∀ o ∈ snapshots, o ∈ members ∧ o.kind.text = "snapshot" ∧
      o.volumeId.text = member.volumeId.text) ∧
    (disk ∈ members ∧ disk.kind.text = "thin_lv" ∧ disk.volumeId.text = member.volumeId.text) ∧
    ((member :: snapshots ++ [disk]).map fun o => o.uuid.text).Nodup

section
variable {members : List StorageObject} {volume : String} {visited : List String}
  {cursor : StorageObject}

/-- The UUIDs of members that were not visited yet. -/
def unvisited (members : List StorageObject) (visited : List String) : Finset String :=
  (members.map fun o => o.uuid.text).toFinset \ visited.toFinset

theorem unvisited_lt (hmem : cursor ∈ members) (hfresh : cursor.uuid.text ∉ visited) :
    (unvisited members (cursor.uuid.text :: visited)).card < (unvisited members visited).card := by
  refine Finset.card_lt_card ⟨?_, ?_⟩
  · intro u hu
    simp only [unvisited, Finset.mem_sdiff, List.toFinset_cons, Finset.mem_insert, not_or] at hu ⊢
    exact ⟨hu.1, hu.2.2⟩
  · intro hsub
    have hin : cursor.uuid.text ∈ unvisited members visited := by
      simp only [unvisited, Finset.mem_sdiff, List.mem_toFinset]
      exact ⟨List.mem_map_of_mem (f := fun o : StorageObject => o.uuid.text) hmem, hfresh⟩
    have hout := hsub hin
    simp [unvisited] at hout

@[simp] theorem required_true_bind {α : Type} {label : String} {next : Unit → Except String α} :
    required true label >>= next = next () :=
  rfl

/-- With more rounds than members left to visit, the bounded walk is what the loop ends with. -/
theorem walkOrigin_ends {rounds : ℕ} (hmem : cursor ∈ members)
    (hrounds : (unvisited members visited).card < rounds) :
    Ends (originRound members volume) (visited, cursor)
      (walkOrigin members volume rounds visited cursor) := by
  induction rounds generalizing visited cursor with
  | zero => omega
  | succ rounds ih =>
    rw [walkOrigin]
    by_cases hkind : cursor.kind.text = "snapshot"
    · rw [if_pos hkind]
      by_cases hvisited : cursor.uuid.text ∈ visited
      · refine .stop ?_
        rw [originRound, if_pos hkind, if_pos hvisited, decide_eq_false (not_not.mpr hvisited)]
        rfl
      · rw [decide_eq_true hvisited, required_true_bind]
        cases hnext : findBy (fun o => o.uuid.text) members cursor.originUuid.text with
        | none =>
          refine .stop ?_
          rw [originRound, if_pos hkind, if_neg hvisited, hnext]
        | some next =>
          by_cases hvolume : next.volumeId.text = volume
          · have hagain : originRound members volume (visited, cursor) =
                .inr (cursor.uuid.text :: visited, next) := by
              simp only [originRound, if_pos hkind, if_neg hvisited, hnext, if_pos hvolume]
            have hless := unvisited_lt hmem hvisited
            refine .again hagain ?_
            simpa only [hvolume, decide_true, required_true_bind] using
              ih (mem_of_findBy hnext).1 (by omega)
          · refine .stop ?_
            simp only [originRound, if_pos hkind, if_neg hvisited, hnext, if_neg hvolume,
              decide_eq_false hvolume]
            rfl
    · rw [if_neg hkind]
      refine .stop ?_
      rw [originRound, if_neg hkind]

/-- The origins after the cursor: snapshots and then a disk, none of them visited before. -/
structure Leads (members : List StorageObject) (volume : String) (visited : List String)
    (cursor : StorageObject) (snapshots : List StorageObject) (disk : StorageObject) : Prop where
  chain : (cursor :: snapshots ++ [disk]).IsChain fun a b => b.uuid.text = a.originUuid.text
  between : ∀ o ∈ snapshots, o ∈ members ∧ o.kind.text = "snapshot" ∧ o.volumeId.text = volume
  target : disk ∈ members ∧ disk.kind.text = "thin_lv" ∧ disk.volumeId.text = volume
  nodup : ((cursor :: snapshots).map fun o => o.uuid.text).Nodup
  fresh : ∀ o ∈ cursor :: snapshots, o.uuid.text ∉ visited

theorem Leads.step {next disk : StorageObject} {snapshots : List StorageObject}
    (h : Leads members volume visited cursor (next :: snapshots) disk) :
    Leads members volume (cursor.uuid.text :: visited) next snapshots disk := by
  have hnodup := List.nodup_cons.mp h.nodup
  refine ⟨(List.isChain_cons_cons.mp h.chain).2, ?_, h.target, hnodup.2, ?_⟩
  · intro o ho
    exact h.between o (List.mem_cons_of_mem _ ho)
  · intro o ho hvisited
    cases List.mem_cons.mp hvisited with
    | inl heq => exact hnodup.1 (List.mem_map.mpr ⟨o, ho, heq⟩)
    | inr hin => exact h.fresh o (List.mem_cons_of_mem _ ho) hin

theorem Leads.back {next disk : StorageObject} {snapshots : List StorageObject}
    (h : Leads members volume (cursor.uuid.text :: visited) next snapshots disk)
    (hnext : next ∈ members ∧ next.kind.text = "snapshot" ∧ next.volumeId.text = volume)
    (horigin : next.uuid.text = cursor.originUuid.text) (hfresh : cursor.uuid.text ∉ visited) :
    Leads members volume visited cursor (next :: snapshots) disk := by
  refine ⟨List.isChain_cons_cons.mpr ⟨horigin, h.chain⟩, ?_, h.target, ?_, ?_⟩
  · intro o ho
    cases List.mem_cons.mp ho with
    | inl heq => exact heq ▸ hnext
    | inr hin => exact h.between o hin
  · refine List.nodup_cons.mpr ⟨?_, h.nodup⟩
    intro hin
    obtain ⟨o, ho, huuid⟩ := List.mem_map.mp hin
    exact h.fresh o ho (List.mem_cons.mpr (.inl huuid))
  · intro o ho
    cases List.mem_cons.mp ho with
    | inl heq => exact heq ▸ hfresh
    | inr hin => exact fun hvisited => h.fresh o hin (List.mem_cons_of_mem _ hvisited)

/-- The loop goes on with the member that the origin names. -/
theorem originRound_next {next : StorageObject}
    (hnodup : (members.map fun o => o.uuid.text).Nodup) (hkind : cursor.kind.text = "snapshot")
    (hfresh : cursor.uuid.text ∉ visited) (hnext : next ∈ members)
    (horigin : next.uuid.text = cursor.originUuid.text) (hvolume : next.volumeId.text = volume) :
    originRound members volume (visited, cursor) = .inr (cursor.uuid.text :: visited, next) := by
  have hfind : findBy (fun o => o.uuid.text) members cursor.originUuid.text = some next :=
    (findBy_eq_some hnodup).mpr ⟨hnext, horigin⟩
  simp only [originRound, if_pos hkind, if_neg hfresh, hfind, if_pos hvolume]

theorem ends_of_leads (hnodup : (members.map fun o => o.uuid.text).Nodup)
    {snapshots : List StorageObject} {disk : StorageObject} (hkind : cursor.kind.text = "snapshot")
    (h : Leads members volume visited cursor snapshots disk) :
    Ends (originRound members volume) (visited, cursor) (.ok ()) := by
  induction snapshots generalizing visited cursor with
  | nil =>
    obtain ⟨hmem, hdisk, hvolume⟩ := h.target
    have horigin := (List.isChain_cons_cons.mp h.chain).1
    refine .again (originRound_next hnodup hkind (h.fresh _ List.mem_cons_self) hmem horigin
      hvolume) (.stop ?_)
    simp only [originRound, hdisk]
    rfl
  | cons next snapshots ih =>
    obtain ⟨hmem, hnext, hvolume⟩ := h.between next List.mem_cons_self
    have horigin := (List.isChain_cons_cons.mp h.chain).1
    exact .again (originRound_next hnodup hkind (h.fresh _ List.mem_cons_self) hmem horigin
      hvolume) (ih hnext h.step)

/-- The round that went on: the cursor is an unvisited snapshot and its origin a member. -/
theorem originRound_again {after : List String × StorageObject}
    (h : originRound members volume (visited, cursor) = .inr after) :
    cursor.uuid.text ∉ visited ∧ after.1 = cursor.uuid.text :: visited ∧
      after.2 ∈ members ∧ after.2.uuid.text = cursor.originUuid.text ∧
      after.2.volumeId.text = volume := by
  rw [originRound] at h
  split at h
  · split at h
    · cases h
    · rename_i hfresh
      split at h
      · cases h
      · rename_i next hnext
        split at h
        · rename_i hvolume
          cases h
          obtain ⟨hmem, huuid⟩ := mem_of_findBy hnext
          exact ⟨hfresh, rfl, hmem, huuid, hvolume⟩
        · cases h
  · cases h

theorem originRound_stop (h : originRound members volume (visited, cursor) = .inl (.ok ())) :
    cursor.kind.text = "thin_lv" := by
  rw [originRound] at h
  split at h
  · split at h
    · cases h
    · split at h
      · cases h
      · split at h <;> cases h
  · exact of_decide_eq_true (required_eq_ok.mp (Sum.inl.inj h))

theorem leads_of_ends (hkind : cursor.kind.text = "snapshot")
    (h : Ends (originRound members volume) (visited, cursor) (.ok ())) :
    ∃ snapshots disk, Leads members volume visited cursor snapshots disk := by
  generalize hstate : (visited, cursor) = state at h
  generalize hresult : (.ok () : Except String Unit) = result at h
  induction h generalizing visited cursor with
  | stop hstop =>
    subst hstate hresult
    exact absurd (hkind.symm.trans (originRound_stop hstop)) (by decide)
  | @again _ after _ hround hrest ih =>
    subst hstate
    obtain ⟨hfresh, hvisited, hmem, horigin, hvolume⟩ := originRound_again hround
    obtain ⟨visited', next⟩ := after
    subst hvisited
    by_cases hnext : next.kind.text = "snapshot"
    · obtain ⟨snapshots, disk, hleads⟩ := ih hnext rfl hresult
      exact ⟨next :: snapshots, disk, hleads.back ⟨hmem, hnext, hvolume⟩ horigin hfresh⟩
    · have hdisk : next.kind.text = "thin_lv" := by
        subst hresult
        cases hrest with
        | stop hstop => exact originRound_stop hstop
        | again hagain _ =>
          rw [originRound, if_neg hnext] at hagain
          cases hagain
      refine ⟨[], next, List.isChain_cons_cons.mpr ⟨horigin, .singleton _⟩, ?_,
        ⟨hmem, hdisk, hvolume⟩, List.nodup_singleton _, ?_⟩
      · intro o ho
        cases ho
      · intro o ho
        rw [List.mem_singleton.mp ho]
        exact hfresh

/-- A snapshot passes exactly when its origins lead to a disk. -/
theorem ends_ok_iff (hnodup : (members.map fun o => o.uuid.text).Nodup) (hmem : cursor ∈ members)
    (hkind : cursor.kind.text = "snapshot") :
    Ends (originRound members cursor.volumeId.text) ([], cursor) (.ok ()) ↔
      ReachesDisk members cursor := by
  constructor
  · intro h
    obtain ⟨snapshots, disk, hleads⟩ := leads_of_ends hkind h
    refine ⟨snapshots, disk, hleads.chain, hleads.between, hleads.target, ?_⟩
    rw [List.map_append, List.nodup_append]
    refine ⟨hleads.nodup, List.nodup_singleton _, ?_⟩
    intro u hu w hw heq
    obtain ⟨o, ho, rfl⟩ := List.mem_map.mp hu
    have hsnapshot : o ∈ members ∧ o.kind.text = "snapshot" := by
      cases List.mem_cons.mp ho with
      | inl hcursor => exact hcursor ▸ ⟨hmem, hkind⟩
      | inr hin => exact ⟨(hleads.between o hin).1, (hleads.between o hin).2.1⟩
    have hdisk : o = disk := by
      refine List.inj_on_of_nodup_map hnodup hsnapshot.1 hleads.target.1 ?_
      exact heq.trans (List.mem_singleton.mp hw)
    have hclash := hleads.target.2.1
    rw [← hdisk, hsnapshot.2] at hclash
    exact absurd hclash (by decide)
  · intro h
    obtain ⟨snapshots, disk, hchain, hbetween, htarget, hdistinct⟩ := h
    rw [List.map_append, List.nodup_append] at hdistinct
    exact ends_of_leads hnodup hkind
      ⟨hchain, hbetween, htarget, hdistinct.1, fun o _ => List.not_mem_nil⟩

end

section
variable {doc : Inventory} {root : Root} {member : StorageObject}

theorem mem_membersOf {objects : List StorageObject} :
    member ∈ membersOf objects root ↔ member ∈ objects ∧ member.rootId.text = root.id.text := by
  simp [membersOf]

theorem membersOf_nodup {key : StorageObject → String} (hnodup : (doc.objects.map key).Nodup) :
    ((membersOf doc.objects root).map key).Nodup := by
  rw [membersOf, nodup_map_sortBy]
  exact hnodup.sublist (List.filter_sublist.map _)

/-- Of the members of a Thin root exactly the snapshots carry an origin. -/
theorem origin_iff_snapshot (hmember : checkMembership root member = .ok ())
    (hthin : root.mode.text = "thin") :
    member.originUuid.text ≠ "" ↔ member.kind.text = "snapshot" := by
  unfold checkMembership at hmember
  simp only [bind_unit_eq_ok, required_eq_ok] at hmember
  obtain ⟨_, _, _, _, horigin⟩ := hmember
  by_cases hkind : member.kind.text = "snapshot"
  · rw [if_pos hkind, required_eq_ok, hthin] at horigin
    simp only [ne_eq, not_true, decide_false, Bool.false_or, Bool.and_eq_true,
      decide_eq_true_eq] at horigin
    exact iff_of_true horigin.1 hkind
  · rw [if_neg hkind, required_eq_ok, decide_eq_true_eq] at horigin
    exact iff_of_false (not_not.mpr horigin) hkind

theorem membership_of_checks (hroots : (doc.roots.map fun r => r.id.text).Nodup)
    (hobject : checkObject doc.roots [] member = .ok ()) (hroot : root ∈ doc.roots)
    (hid : member.rootId.text = root.id.text) : checkMembership root member = .ok () := by
  have hfind : findRoot doc.roots member.rootId.text = some root :=
    (findBy_eq_some hroots).mpr ⟨hroot, hid.symm⟩
  simp only [checkObject, bind_unit_eq_ok, hfind] at hobject
  exact hobject.2.2

/-- The bounded walk has rounds enough for its members. -/
theorem walkOrigin_settles {members : List StorageObject} (hmem : member ∈ members)
    (volume : String) :
    Ends (originRound members volume) ([], member)
      (walkOrigin members volume (members.length + 2) [] member) := by
  refine walkOrigin_ends hmem ?_
  have hcard : (unvisited members []).card ≤ members.length := by
    have hle := (members.map fun o => o.uuid.text).toFinset_card_le
    simpa [unvisited] using hle
  omega

theorem checkOrigin_eq_ok {members : List StorageObject}
    (hids : (members.map fun o => o.id.text).Nodup)
    (huuids : (members.map fun o => o.uuid.text).Nodup) (hmem : member ∈ members)
    (hmember : checkMembership root member = .ok ()) (hthin : root.mode.text = "thin") :
    checkOrigin root members member = .ok () ↔
      (member.kind.text = "snapshot" → ReachesDisk members member) := by
  unfold checkOrigin
  by_cases hkind : member.kind.text = "snapshot"
  · rw [if_neg ((origin_iff_snapshot hmember hthin).mpr hkind), bind_unit_eq_ok, required_eq_ok,
      if_pos hthin, ← ends_ok_iff huuids hmem hkind]
    have hsettles := walkOrigin_settles hmem member.volumeId.text
    constructor
    · intro h _
      exact h.2 ▸ hsettles
    · intro h
      refine ⟨?_, hsettles.unique (h hkind)⟩
      obtain ⟨snapshots, disk, hchain, hbetween, htarget, hdistinct⟩ :=
        (ends_ok_iff huuids hmem hkind).mp (h hkind)
      -- the first origin is a member, and not the snapshot itself
      have hfirst : ∃ o ∈ members, o.uuid.text = member.originUuid.text ∧
          o.uuid.text ≠ member.uuid.text := by
        have hnot := (List.nodup_cons.mp hdistinct).1
        cases snapshots with
        | nil =>
          refine ⟨disk, htarget.1, (List.isChain_cons_cons.mp hchain).1, ?_⟩
          exact fun heq => hnot (List.mem_map.mpr ⟨disk, List.mem_cons_self, heq⟩)
        | cons next snapshots =>
          refine ⟨next, (hbetween next List.mem_cons_self).1,
            (List.isChain_cons_cons.mp hchain).1, ?_⟩
          exact fun heq => hnot (List.mem_map.mpr ⟨next, List.mem_cons_self, heq⟩)
      obtain ⟨o, ho, huuid, hother⟩ := hfirst
      have hid : o.id.text ≠ member.id.text := by
        intro heq
        exact hother (congrArg (fun a => a.uuid.text) (List.inj_on_of_nodup_map hids ho hmem heq))
      rw [List.any_eq_true]
      exact ⟨o, ho, by simp only [huuid, decide_true, ne_eq, hid, not_false_iff, Bool.and_true]⟩
  · have hempty : member.originUuid.text = "" :=
      not_not.mp (mt (origin_iff_snapshot hmember hthin).mp hkind)
    rw [if_pos hempty]
    exact iff_of_true rfl fun h => absurd h hkind

/-- Once the rows of roots and objects have passed, the loop ends for every snapshot of a Thin
root, and the root passes exactly when every snapshot reaches its disk. -/
theorem snapshot_origins_settled
    (hroots : forEachSeen (checkRoot doc.scope.storageIds) [] doc.roots = .ok ())
    (hobjects : forEachSeen (checkObject doc.roots) [] doc.objects = .ok ())
    (hroot : root ∈ doc.roots) (hthin : root.mode.text = "thin") :
    (∀ member ∈ membersOf doc.objects root, member.kind.text = "snapshot" →
      Ends (originRound (membersOf doc.objects root) member.volumeId.text) ([], member)
        (walkOrigin (membersOf doc.objects root) member.volumeId.text
          ((membersOf doc.objects root).length + 2) [] member)) ∧
    (forEach (membersOf doc.objects root) (checkOrigin root (membersOf doc.objects root)) = .ok () ↔
      ∀ member ∈ membersOf doc.objects root, member.kind.text = "snapshot" →
        ReachesDisk (membersOf doc.objects root) member) := by
  obtain ⟨_, hrootIds, _⟩ := checkRoots_eq_ok.mp hroots
  obtain ⟨hobject, hids, huuids⟩ := checkObjects_eq_ok.mp hobjects
  refine ⟨fun member hmem _ => walkOrigin_settles hmem member.volumeId.text, ?_⟩
  rw [forEach_eq_ok]
  refine forall₂_congr fun member hmem => ?_
  obtain ⟨hin, hid⟩ := mem_membersOf.mp hmem
  exact checkOrigin_eq_ok (membersOf_nodup hids) (membersOf_nodup huuids) hmem
    (membership_of_checks hrootIds (hobject member hin) hroot hid) hthin

end

/-- A Thin pool with one disk, a snapshot of it and a snapshot of that snapshot. -/
def poolRoot : Root where
  id := .string "pool-101"
  mode := .string "thin"
  phase := .string "OWNED_INACTIVE"
  ownerVmid := .string "101"
  namespaceName := .string "ns-101"
  objectIds := ["pool-101", "data", "meta", "disk", "first", "second"].map .string
  runtimeIds := []
  volumeIds := [.string "store:vm-101-disk-0"]

def poolMember (name kind volume origin : String) : StorageObject where
  id := .string name
  uuid := .string ("uuid-" ++ name)
  rootId := .string "pool-101"
  kind := .string kind
  ownerVmid := .string "101"
  namespaceName := .string "ns-101"
  volumeId := .string volume
  originUuid := .string origin

def snapshottedPool : Inventory where
  schema := .string "sharedlvmthin-destroy-inventory/v1"
  complete := .number ⟨"1", one_numeral⟩
  scope :=
    { node := .string "node-a"
      bootId := .string "boot-a"
      vgUuid := .string "vg-1"
      pvUuid := .string "pv-1"
      wwid := .string "60001"
      storageIds := [.string "store"]
      configSha256 := .string (String.ofList (List.replicate 64 'a')) }
  roots := [poolRoot]
  objects := [poolMember "pool-101" "thin_pool" "" "", poolMember "data" "thin_data" "" "",
    poolMember "meta" "thin_metadata" "" "",
    poolMember "disk" "thin_lv" "store:vm-101-disk-0" "",
    poolMember "first" "snapshot" "store:vm-101-disk-0" "uuid-disk",
    poolMember "second" "snapshot" "store:vm-101-disk-0" "uuid-first"]
  runtimes := []
  opaqueForeignObjects := none

theorem snapshot_origins_settled_pool :
    validateInventory snapshottedPool = .ok snapshottedPool.normal ∧
      ∀ member ∈ membersOf snapshottedPool.objects poolRoot, member.kind.text = "snapshot" →
        ReachesDisk (membersOf snapshottedPool.objects poolRoot) member :=
  ⟨by decide +kernel, (snapshot_origins_settled (by decide +kernel) (by decide +kernel)
    List.mem_cons_self rfl).2.mp (by decide +kernel)⟩

end SharedLvmThin.StoragePlan
