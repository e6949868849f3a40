import SharedLvmThin.ThickVolumeDeleteRecovery

/-! Where an interrupted free can be recovered. Given that every probe answers and every command
works, the recovery completes the free unless another object bears the volume's names, the anchor
is not canonical, or HEAD has outlived it; then it changes nothing. -/

namespace SharedLvmThin.ThickVolume
open Perl TagCodec Effects KeyedLists
open Thick (Record decodeAnchorTags vgIntentTags decodeVgIntentTags)

variable {env env' : Env} {volname other : String} {s t u : Session} {r : Removal}
variable {head anchor : Bool}

/-- The key of the volume, as its anchor is named after it. -/
def Removal.key (r : Removal) : String := (stripPrefix? "sltg-a-" r.anchor.name).getD ""

def Removal.mapper (r : Removal) : String := "sltg-" ++ r.key

/-- Nothing else bears a name of the volume, the anchor is canonical where it is left, and HEAD is
not left without it. -/
structure Removal.Recoverable (r : Removal) (volname : String) (X : Store) : Prop where
  alone : ∀ name, isRelated r.key r.anchor.name volname name = true → (X.find name).isSome →
    name = r.anchor.name ∨ name = r.head
  canonical : (X.find r.anchor.name).isSome → isCanonicalAlloc r.anchor.state = true
  anchored : (X.find r.head).isSome → (X.find r.anchor.name).isSome

/-- What the kernel has of the volume is the volume's, and nothing holds it. -/
structure Removal.Idle (r : Removal) (vg : String) (S : Store) (k : Kernel) : Prop where
  frontend : k.lookup r.mapper = none
  mapped : ∀ lv info mapping, lv = r.head ∨ lv = r.anchor.name → S.find lv = some info →
    k.lookup (lvMapperName vg lv) = some mapping →
      mapping.opens = 0 ∧ mapping.uuid = "LVM-" ++ dense S.uuid ++ dense info.uuid

theorem related_any {X : Store} : ((relatedTo r.key r.anchor.name volname X.lvs).any fun name =>
      decide (name ≠ r.anchor.name) && decide (name ≠ r.head)) = false ↔
    ∀ name, isRelated r.key r.anchor.name volname name = true → (X.find name).isSome →
      name = r.anchor.name ∨ name = r.head := by
  rw [relatedTo, any_sortBy, List.any_eq_false]
  constructor
  · intro hall name hrelated hsome
    have hmem : name ∈ X.lvs.keys := AList.mem_keys.mp (AList.lookup_isSome.mp hsome)
    have := hall name (List.mem_filter.mpr ⟨hmem, hrelated⟩)
    by_contra hno
    rw [not_or] at hno
    simp [hno.1, hno.2] at this
  · intro hall name hmem
    obtain ⟨hmem, hrelated⟩ := List.mem_filter.mp hmem
    rcases hall name hrelated (AList.lookup_isSome.mpr (AList.mem_keys.mpr hmem)) with rfl | rfl <;>
      simp

/-- Once HEAD and anchor are gone nothing bears a name of the volume. -/
theorem related_final (halone : r.Recoverable volname (r.opened (r.left head anchor s.store))) :
    relatedTo r.key r.anchor.name volname (r.opened (r.final s.store)).lvs = [] := by
  refine relatedTo_eq_nil.mpr fun name hrelated => ?_
  change (r.opened (r.left false false s.store)).find name = none
  have hfinal := @Removal.find_opened r false false s.store name
  rw [hfinal]
  split_ifs with hgone
  · rfl
  · rw [not_or] at hgone
    simp only [true_and] at hgone
    by_contra hsome
    have hsame : (r.opened (r.left head anchor s.store)).find name = s.store.find name := by
      rw [r.find_opened]
      exact if_neg fun hno => hno.elim (fun hno => hgone.1 hno.2) fun hno => hgone.2 hno.2
    rcases halone.alone name hrelated (by rw [hsame]; exact Option.isSome_iff_ne_none.mpr hsome)
      with heq | heq
    · exact hgone.1 heq
    · exact hgone.2 heq

section
variable (h : r.Admitted env volname s)
include h

/-- The names of the volume that the free has derived. -/
theorem Removal.Admitted.names : ∃ space, thickNamespace env.storage = .ok space ∧
    anchorName space volname = .ok r.anchor.name ∧ objectKey space volname = .ok r.key ∧
    mapperName space volname = .ok r.mapper := by
  obtain ⟨space, hspace, hname⟩ := h.read.named
  refine ⟨space, hspace, hname, ?_⟩
  simp only [anchorName, bind_eq_ok, pure_eq_ok] at hname
  obtain ⟨key, hkey, hname⟩ := hname
  have hstrip : stripPrefix? "sltg-a-" r.anchor.name = some key :=
    stripPrefix?_eq_some.mpr hname.symm
  have hsame : r.key = key := by rw [Removal.key, hstrip]; rfl
  rw [Removal.mapper, hsame]
  exact ⟨hkey, bind_eq_ok.mpr ⟨key, hkey, rfl⟩⟩

theorem Removal.Admitted.head_digits : ∃ digits, generationDigits? r.key r.head = some digits := by
  obtain ⟨space, hspace, -, hkey, -⟩ := h.names
  exact h.related_head hspace hkey

theorem Removal.Admitted.head_tags : validateGenerationTags r.anchor.head.tags
    (headRecord env.storage.storeid volname r.anchor.state) = .ok () := by
  obtain ⟨space, hspace, -, hkey, -⟩ := h.names
  have honly := h.only
  simp only [checkOnlyHead, hspace, hkey, bind_eq_ok, Except.ok.injEq, exists_eq_left', dieIf_eq_ok,
    exists_const] at honly
  exact honly.2

theorem Removal.Admitted.phase : text r.anchor.state .phase = "MATERIALIZED" :=
  (thickAnchor_eq_ok.mp h.anchor).2

/-- The recovery finds what is left exactly where the free can be recovered. -/
theorem remainingHead_iff :
    (∃ named, remainingHead env.storage volname r.key r.anchor.name
      (r.opened (r.left head anchor s.store)).lvs = .ok named) ↔
      r.Recoverable volname (r.opened (r.left head anchor s.store)) := by
  have hfind := @Removal.Admitted.find_open_anchor _ _ _ _ head anchor h
  have hfindHead := @Removal.Admitted.find_open_head _ _ _ _ head anchor h
  obtain ⟨digits, hdigits⟩ := h.head_digits
  have hlookup : (r.opened (r.left head anchor s.store)).lvs.lookup r.anchor.name = _ := hfind
  have hlookupHead : (r.opened (r.left head anchor s.store)).lvs.lookup r.head = _ := hfindHead
  rw [remainingHead, hlookup]
  cases anchor with
  | true =>
    have hvalid : (decide (text r.anchor.state .sid ≠ env.storage.storeid) ||
        decide (text r.anchor.state .vol ≠ volname) ||
        decide (text r.anchor.state .phase ≠ "MATERIALIZED") ||
        !isCanonicalAlloc r.anchor.state) = false ↔ isCanonicalAlloc r.anchor.state = true := by
      simp [h.read.sid, h.read.vol, h.phase]
    simp only [if_true, h.read.decoded, bind_eq_ok, Except.ok.injEq, exists_eq_left', dieIf_eq_ok,
      exists_const, hvalid]
    constructor
    · intro hok
      obtain ⟨named, hcanonical, halone, -⟩ := hok
      refine ⟨related_any.mp halone, fun _ => hcanonical, fun _ => ?_⟩
      rw [hfind]
      rfl
    · intro hok
      refine ⟨some r.head, hok.canonical (by rw [hfind]; rfl), related_any.mpr hok.alone, ?_⟩
      rw [show text r.anchor.state .head = r.head from rfl, hlookupHead]
      cases head with
      | false => rfl
      | true => exact bind_eq_ok.mpr ⟨(), h.head_tags, rfl⟩
  | false =>
    simp only [Bool.false_eq_true, if_false, bind_eq_ok, dieIf_eq_ok, exists_const, pure_eq_ok,
      decide_eq_false_iff_not, ne_eq, not_not, relatedTo_eq_nil]
    have hnone : ∀ name, Store.find (r.opened (r.left head false s.store)) name = none ↔
        ¬ (Store.find (r.opened (r.left head false s.store)) name).isSome := by
      intro name
      simp
    constructor
    · intro hok
      obtain ⟨named, hgone, -⟩ := hok
      refine ⟨fun name hrelated hsome => ?_, fun hsome => ?_, fun hsome => ?_⟩
      · exact absurd hsome ((hnone name).mp (hgone name hrelated))
      · rw [hfind] at hsome
        cases hsome
      · exact absurd hsome ((hnone r.head).mp (hgone r.head (isRelated_head hdigits)))
    · intro hok
      refine ⟨none, fun name hrelated => ?_, rfl⟩
      refine (hnone name).mpr fun hsome => ?_
      rcases hok.alone name hrelated hsome with rfl | rfl
      · rw [hfind] at hsome
        cases hsome
      · have := hok.anchored hsome
        rw [hfind] at this
        cases this

/-! ## The recovery that runs to its end -/

variable (hh : Healthy env') (hs : env'.storage = env.storage)
include hh hs

omit h hs in
theorem Healthy.verifyMapperAbsent {mapper : String} (hnone : u.kernel.lookup mapper = none)
    (message : String) : verifyMapperAbsent env' mapper message u = (u, .ok ()) := by
  rw [ThickVolume.verifyMapperAbsent, prog_bind_of_ok (hh.kernelInventory u)]
  exact refuse_eq_ok.mpr ⟨rfl, by simp [hnone]⟩

/-- Up to the inventory a recovery of the volume only looks. -/
theorem recoverVolumeDelete_eq {i : Record} (hi : r.IntentAt s.store i)
    (hstore : u.store = r.opened (r.left head anchor s.store))
    (hidle : r.Idle env.storage.vgname u.store u.kernel) :
    recoverVolumeDelete env' volname u = (do
      let named ← lift (remainingHead env'.storage volname r.key r.anchor.name u.store.lvs)
      let remaining := (named.toList ++ [r.anchor.name]).filter fun name =>
        (u.store.lvs.lookup name).isSome
      each remaining (verifyAutoactivationDisabled env')
      whenever (remaining ≠ [])
        (deactivateExactLvs env' ("deactivating remaining volume-delete objects for '" ++
          lvPath env' volname ++ "' failed") remaining)
      let result ← attempt (removeRemaining env' u.store.lvs named r.anchor.name)
      finishVolumeRecovery env' volname r.key r.anchor.name i result) u := by
  obtain ⟨space, hspace, hname, hkey, hmapper⟩ := h.names
  have hread : decodeVgIntentTags (.array u.store.vgTags) = .ok (some i) := hstore ▸ hi.read
  rw [recoverVolumeDelete, lift_bind (hs ▸ h.config), prog_bind_of_ok (hh.ask _ _),
    lift_bind (hs ▸ hspace), lift_bind hname, lift_bind hkey, lift_bind hmapper, hh.withVgLock,
    prog_bind_of_ok (hh.readVgIntent hread)]
  simp only
  rw [recoverOpenVolumeDelete, refuse_bind (by simp [hi.state, hi.op, hi.object]),
    prog_bind_of_ok (hh.requireExactVgIntent hread (sameIntent_self i)),
    prog_bind_of_ok (hh.ask _ _), prog_bind_of_ok (hh.verifyMapperAbsent hidle.frontend _),
    prog_bind_of_ok (hh.listVolumes u)]

theorem recover_refuses {i : Record} (hi : r.IntentAt s.store i)
    (hstore : u.store = r.opened (r.left head anchor s.store))
    (hidle : r.Idle env.storage.vgname u.store u.kernel)
    (hno : ¬ r.Recoverable volname u.store) :
    ∃ message, recoverVolumeDelete env' volname u = (u, .error message) := by
  rw [recoverVolumeDelete_eq h hh hs hi hstore hidle]
  cases hread : remainingHead env'.storage volname r.key r.anchor.name u.store.lvs with
  | ok named =>
    rw [hstore, hs] at hread
    rw [hstore] at hno
    exact absurd ((remainingHead_iff h).mp ⟨named, hread⟩) hno
  | error message => exact ⟨message, prog_bind_of_error rfl⟩

omit h hs in
theorem finish_completes {i : Record} (hi : r.IntentAt s.store i)
    (halone : r.Recoverable volname (r.opened (r.left head anchor s.store)))
    (ht : t.store = r.opened (r.final s.store)) (result : Except String Unit) :
    ∃ v, finishVolumeRecovery env' volname r.key r.anchor.name i result t =
      (v, .ok "VOLUME_DELETE_RECOVERED") ∧ v.store = r.final s.store := by
  have hread : decodeVgIntentTags (.array t.store.vgTags) = .ok (some i) := ht ▸ hi.read
  have hback : retag r.written [] t.store.vgTags = s.store.vgTags := by rw [ht]; exact hi.back
  have hclear := hh.clearVgIntent hread (sameIntent_self i) hi.again (hback ▸ hi.closed)
  refine ⟨t.after env'.storage.vgname (.changeVgTags r.written []), ?_, ?_⟩
  · unfold finishVolumeRecovery
    rw [prog_bind_of_ok (orDie_eq_ok.mpr (hh.ask _ _)),
      prog_bind_of_ok (hh.listVolumes t), ht, related_final halone]
    rw [refuse_bind (by simp), prog_bind_of_ok hclear]
    rfl
  · rw [Session.after, Command.store, hback, ht]
    rfl

omit h hs in
theorem run_whenever {command : Command} (present : Bool) :
    whenever present (runCommand env' command) t =
      (if present then t.after env'.storage.vgname command else t, .ok ()) := by
  cases present with
  | false => rfl
  | true => exact hh.runCommand command t

omit hs in
/-- The commands of the recovery remove what is left. -/
theorem removes_remaining (ht : t.store = r.opened (r.left head true s.store)) :
    ∃ v, removeRemaining env' (r.opened (r.left head true s.store)).lvs (some r.head) r.anchor.name t =
      (v, .ok ()) ∧ v.store = r.opened (r.final s.store) := by
  have hanchor : (r.opened (r.left head true s.store)).lvs.lookup r.anchor.name = some r.info :=
    h.find_open_anchor
  have hhead : (r.opened (r.left head true s.store)).lvs.lookup r.head =
    if head then some r.anchor.head else none := h.find_open_head
  unfold removeRemaining
  simp only
  rw [prog_bind_of_ok (run_whenever hh _), hanchor, hhead]
  refine ⟨_, run_whenever hh _, ?_⟩
  cases head with
  | false => simp [Session.after, Command.store, ht]; rfl
  | true => simp [Session.after, Command.store, ht]; rfl

omit hs in
theorem deactivates_remaining {lvs : List String} (hne : lvs ≠ []) (hnodup : lvs.Nodup)
    (hidle : r.Idle env'.storage.vgname u.store u.kernel)
    (hlvs : ∀ lv ∈ lvs, (lv = r.head ∨ lv = r.anchor.name) ∧ (u.store.find lv).isSome)
    (message : String) : deactivateExactLvs env' message lvs u =
      (u.after env'.storage.vgname (.deactivate lvs), .ok ()) := by
  obtain ⟨space, hspace, hname, hkey, -⟩ := h.names
  obtain ⟨digits, hdigits⟩ := h.head_digits
  refine hh.deactivateExactLvs hne (fun lv hmem => ?_) hnodup (fun lv hmem mapping hmapping => ?_) _
  · rcases (hlvs lv hmem).1 with rfl | rfl
    · exact isLvName_generation hkey hdigits
    · exact isLvName_anchor hname
  · obtain ⟨hlv, hsome⟩ := hlvs lv hmem
    obtain ⟨info, hinfo⟩ := Option.isSome_iff_exists.mp hsome
    obtain ⟨hopens, huuid⟩ := hidle.mapped lv info mapping hlv hinfo hmapping
    exact ⟨hopens, info, hinfo, huuid⟩

theorem recover_completes {i : Record} (hi : r.IntentAt s.store i)
    (hstore : u.store = r.opened (r.left head anchor s.store))
    (hidle : r.Idle env.storage.vgname u.store u.kernel)
    (hok : r.Recoverable volname u.store) :
    ∃ t, recoverVolumeDelete env' volname u = (t, .ok "VOLUME_DELETE_RECOVERED") ∧
      t.store = r.final s.store := by
  rw [recoverVolumeDelete_eq h hh hs hi hstore hidle]
  obtain ⟨named, hread⟩ := (remainingHead_iff h).mpr (hstore ▸ hok)
  obtain ⟨space, hspace, hname, hkey, -⟩ := h.names
  have hnamed := remainingHead_eq_ok h rfl hspace hkey hname hread
  rw [← hs, ← hstore] at hread
  rw [lift_bind hread]
  have hanchor : u.store.lvs.lookup r.anchor.name = if anchor then some r.info else none := by
    rw [hstore]
    exact h.find_open_anchor
  have hhead : u.store.lvs.lookup r.head = if head then some r.anchor.head else none := by
    rw [hstore]
    exact h.find_open_head
  rw [← hs] at hidle
  have halone := hok
  rw [hstore] at halone
  rcases hnamed with ⟨rfl, rfl⟩ | ⟨rfl, rfl, rfl⟩
  · simp only [if_true] at hanchor
    generalize hrem : ((some r.head).toList ++ [r.anchor.name]).filter
      (fun name => (u.store.lvs.lookup name).isSome) = remaining
    have hmem : ∀ lv ∈ remaining, (lv = r.head ∨ lv = r.anchor.name) ∧
        (u.store.find lv).isSome := by
      intro lv hlv
      rw [← hrem, List.mem_filter] at hlv
      exact ⟨by simpa using hlv.1, hlv.2⟩
    have hne : remaining ≠ [] := by
      refine List.ne_nil_of_mem (a := r.anchor.name) ?_
      rw [← hrem, List.mem_filter, hanchor]
      exact ⟨by simp, rfl⟩
    have hnodup : remaining.Nodup := by
      rw [← hrem]
      exact List.Nodup.filter _ (by simpa using h.head_ne)
    have hdisabled : ∀ lv ∈ remaining, verifyAutoactivationDisabled env' lv u = (u, .ok ()) := by
      intro lv hlv
      obtain ⟨hname, hsome⟩ := hmem lv hlv
      rcases hname with rfl | rfl
      · cases head with
        | false => simp [Store.find, hhead] at hsome
        | true => exact hh.verifyAutoactivationDisabled hhead h.headDisabled
      · exact hh.verifyAutoactivationDisabled hanchor h.anchorDisabled
    have hdeactivate := deactivates_remaining h hh hne hnodup hidle hmem
      ("deactivating remaining volume-delete objects for '" ++ lvPath env' volname ++ "' failed")
    obtain ⟨v, hremove, hv⟩ := removes_remaining h hh
      (t := u.after env'.storage.vgname (.deactivate remaining)) (by rw [Session.after]; exact hstore)
    obtain ⟨w, hfinish, hw⟩ := finish_completes hh hi halone hv (.ok ())
    refine ⟨w, ?_, hw⟩
    rw [prog_bind_of_ok (each_eq_ok hdisabled), Effects.whenever,
      if_pos (by simpa using hne), prog_bind_of_ok hdeactivate, attempt_bind, hstore, hremove]
    exact hfinish
  · simp only [Bool.false_eq_true, if_false] at hanchor
    obtain ⟨w, hfinish, hw⟩ := finish_completes hh hi halone hstore (.ok ())
    refine ⟨w, ?_, hw⟩
    simp only [Option.toList_none, List.nil_append, List.filter_cons, hanchor, Option.isSome_none,
      Bool.false_eq_true, if_false, List.filter_nil]
    rw [prog_bind_of_ok (each_eq_ok (by simp)), Effects.whenever, if_neg (by simp),
      prog_bind_of_ok (prog_pure_eq_ok.mpr ⟨rfl, rfl⟩), attempt_bind]
    unfold removeRemaining
    simp only [hanchor, Option.isSome_none, Effects.whenever, Bool.false_eq_true, if_false]
    exact hfinish

end

end SharedLvmThin.ThickVolume
