import SharedLvmThin.ThickSnapshotRuns

/-!
# Recovering an interrupted snapshot delete

At each stage of a delete the recovery sees which volume the intent belongs to and how far
the delete has come. For that volume it does what is left; for any other volume it dies with
everything as it was.
-/

namespace SharedLvmThin.ThickVolume
open Perl TagCodec Effects
open Thick (Field Record TagFamily TagInput hashOf anchorTags decodeAnchorTags generationTags
  decodeGenerationTags vgIntentTags decodeVgIntentTags materializedRebaseState numberOf)

variable {env : Env} {volname snap : String} {s : Session} {d : Deletion}

/-! ## The anchor at each stage -/

section
variable {storage : Storage} {lvs lvs' : Inventory} {a : Anchor} {info info' : Lv} {r : Record}

/-- An eager anchor is read the same wherever its own logical volumes are. -/
theorem AnchorRead.transfer (h : AnchorRead storage volname lvs a info)
    (hv : versionNumber a.state ≠ 6) (hinfo : lvs'.lookup a.name = some info')
    (hr : decodeAnchorTags (.array info'.tags) = .ok r)
    (hsame : ∀ f ∈ [Field.v, .sid, .vol, .head, .generation], r f = a.state f)
    (hhead : lvs'.lookup (text a.state .head) = some a.head) :
    AnchorRead storage volname lvs' ⟨r, a.head, a.name⟩ info' := by
  have htext (f : Field) (hf : f ∈ [Field.v, .sid, .vol, .head, .generation]) :
      text r f = text a.state f := by
    rw [text, hsame f hf, text]
  have hversion : versionNumber r = versionNumber a.state := by
    rw [versionNumber, hsame .v (by simp), versionNumber]
  have hobjects := h.objects
  rw [if_neg hv] at hobjects
  exact
    { named := h.named
      present := hinfo
      decoded := hr
      sid := (htext .sid (by simp)).trans h.sid
      vol := (htext .vol (by simp)).trans h.vol
      head := by rw [htext .head (by simp)]; exact hhead
      objects := by
        have hrecord : headRecord storage.storeid volname r =
            headRecord storage.storeid volname a.state := by
          rw [headRecord, hsame .generation (by simp), headRecord]
        rw [hversion, if_neg hv, hrecord]
        exact hobjects }

/-- Tags of one family are not read as tags of another. -/
theorem anchor_not_generation {t : String} (h : Thick.anchorFamily.leads t = true) :
    Thick.generationFamily.leads t = false := by
  apply Bool.eq_false_iff.mpr
  intro hgen
  obtain ⟨r, hr⟩ := List.isPrefixOf_iff_prefix.mp h
  obtain ⟨r', hr'⟩ := List.isPrefixOf_iff_prefix.mp hgen
  have := congrArg (fun l => l[6]?) (hr.trans hr'.symm)
  simp [Thick.anchorFamily, Thick.generationFamily] at this

theorem not_generation_of_exact (h : ExactTags info a.state)
    (hstate : decodeAnchorTags (.array info.tags) = .ok a.state)
    (hv : Thick.versionOf a.state = "5") (owned : Record) :
    decodeGenerationTags (.array info.tags) ≠ .ok owned := by
  intro hdecode
  obtain ⟨hcollect, fields, n, hs⟩ := Thick.decodeGenerationTags_eq_ok.mp hdecode
  obtain ⟨written, hwritten, hperm⟩ := h
  have hread := readable_eager hv fun f _ => decoded_no_newline hstate f
  have hown : TagFamily.anchor.family.own written = written := Thick.own_written hwritten hread
  obtain ⟨v, hv⟩ := Option.isSome_iff_exists.mp ((hs.complete .sha256).mpr (Or.inr rfl))
  have hmem := ((collect_sound Thick.generationFamily hcollect).2 _).mpr ⟨.sha256, v, rfl, hv⟩
  have hmem := (own_perm Thick.generationFamily hperm).mem_iff.mp hmem
  obtain ⟨htrim, hgen⟩ := List.mem_filter.mp hmem
  rw [trim_written hown, ← hown] at htrim
  rw [anchor_not_generation (List.mem_filter.mp htrim).2] at hgen
  cases hgen

/-- The head of an exact anchor is another logical volume. -/
theorem AnchorRead.head_ne (h : AnchorRead storage volname lvs a info)
    (hexact : ExactTags info a.state) (hv : Thick.versionOf a.state = "5")
    (hv' : versionNumber a.state ≠ 6) : text a.state .head ≠ a.name := by
  intro heq
  have hhead := h.head
  rw [heq, h.present] at hhead
  obtain rfl := Option.some.inj hhead
  have hobjects := h.objects
  rw [if_neg hv', validateGenerationTags] at hobjects
  obtain ⟨owned, howned, -⟩ := bind_eq_ok.mp hobjects
  exact not_generation_of_exact hexact h.decoded hv owned howned

theorem versionNumber_eager (hv : Thick.versionOf a.state = "5") : versionNumber a.state ≠ 6 := by
  rw [versionNumber]
  cases hw : a.state .v with
  | none => decide
  | some w =>
    have : w = "5" := by simpa [Thick.versionOf, hw] using hv
    subst this
    decide

end

/-- What the anchor's tags say after the rebase. -/
structure Deletion.Rebased (d : Deletion) (r : Record) : Prop where
  tx : text r .tx = d.tx
  canonical : isCanonicalAlloc r = true
  head : text r .head = text d.anchor.state .head
  generation : r .generation = d.anchor.state .generation
  phase : text r .phase = "MATERIALIZED"

/-- The anchor's logical volume after the rebase. -/
def Deletion.movedInfo (d : Deletion) : Lv :=
  let tags := retag (d.delete.filter (· ∉ d.add)) (d.add.filter (· ∉ d.delete)) d.info.tags
  { d.info with tags := tags }

theorem Deletion.find_final (d : Deletion) (S : Store) (lv : String) : (d.final S).find lv =
    if lv = d.hit.name then none else (d.moved S).find lv :=
  find_erase (d.moved S) d.hit.name lv

namespace Deletion.Admitted
variable (h : d.Admitted env volname snap s)
include h

theorem read : AnchorRead env.storage volname s.store.lvs d.anchor d.info := by
  obtain ⟨⟨info, hread⟩, -⟩ := thickAnchor_eq_ok.mp h.anchor
  obtain rfl := Option.some.inj (hread.present.symm.trans h.info)
  exact hread

theorem version : Thick.versionOf d.anchor.state = "5" :=
  (Thick.materializedRebaseState_eq_ok.mp h.rebase).2.1

theorem hitRead : ∃ key digits owned,
    SnapshotRead env.storage volname snap s.store.lvs d.hit key digits owned :=
  findSnapshot_eq_ok h.hit

theorem hit_ne_anchor : d.hit.name ≠ d.anchor.name := by
  obtain ⟨key, digits, owned, hhit⟩ := h.hitRead
  obtain ⟨space, -, hname⟩ := h.read.named
  exact generation_ne_anchor hhit.named hname

theorem find_hit : s.store.find d.hit.name = some d.hit.info := by
  obtain ⟨key, digits, owned, hhit⟩ := h.hitRead
  exact hhit.present

theorem find_moved (lv : String) : (d.moved s.store).find lv =
    if lv = d.anchor.name then some d.movedInfo else s.store.find lv := by
  rw [moved, find_setTags, h.info]
  rfl

theorem tx_no_newline : ¬ EndsInNewline d.tx := by
  intro hend
  have hlower := (exactly_iff.mp h.hex).2 '\n' (List.mem_of_getLast? hend)
  revert hlower
  decide

variable (hexact : ExactTags d.info d.anchor.state)
include hexact

theorem head_ne_anchor : text d.anchor.state .head ≠ d.anchor.name :=
  h.read.head_ne hexact h.version (versionNumber_eager h.version)

theorem rebased_tags : d.movedInfo.tags.Perm d.add ∧
    ∃ r, decodeAnchorTags (.array d.movedInfo.tags) = .ok r ∧
      ∀ f, f ≠ .sha256 → r f = d.rebased f :=
  decode_rebased hexact h.read.decoded h.rebase h.tx_no_newline h.delete h.add

/-- After the rebase the anchor is read with or without the snapshot. -/
theorem anchor_moved : ∃ r, d.Rebased r ∧
    thickAnchor env.storage volname (d.moved s.store).lvs = .ok ⟨r, d.anchor.head, d.anchor.name⟩ ∧
    thickAnchor env.storage volname (d.final s.store).lvs =
      .ok ⟨r, d.anchor.head, d.anchor.name⟩ := by
  obtain ⟨-, r, hr, hfields⟩ := h.rebased_tags hexact
  obtain ⟨-, -, hphase, -, -, -, hrebased⟩ := Thick.materializedRebaseState_eq_ok.mp h.rebase
  have hkept (f : Field) (hf : f ∉ [Field.tx, .op, .snapshot, .source, .old, .new, .sha256]) :
      r f = d.anchor.state f := by
    simp only [List.mem_cons, List.not_mem_nil, or_false, not_or] at hf
    rw [hfields f (by tauto), hrebased]
    exact rebased_of_ne (by simp; tauto)
  have hr' : d.Rebased r :=
    { tx := by
        rw [text, hfields .tx (by decide), hrebased]
        rfl
      canonical := by
        have hop : text r .op = "ALLOC" := by
          rw [text, hfields .op (by decide), hrebased]
          rfl
        have hsnapshot : text r .snapshot = "none" := by
          rw [text, hfields .snapshot (by decide), hrebased]
          rfl
        have hone (f : Field) (hf : f ∈ [Field.source, .old, .new]) :
            text r f = text r .head := by
          rw [text, hfields f (by rintro rfl; simp at hf), hrebased, text, hkept .head (by decide)]
          exact text_rebased hf
        simp [isCanonicalAlloc, hone .source (by simp), hone .old (by simp), hone .new (by simp),
          hop, hsnapshot]
      head := by rw [text, hkept .head (by decide), text]
      generation := hkept .generation (by decide)
      phase := by rw [text, hkept .phase (by decide), ← hphase, text] }
  have hread {lvs' : Inventory} (hinfo : lvs'.lookup d.anchor.name = some d.movedInfo)
      (hhead : lvs'.lookup (text d.anchor.state .head) = some d.anchor.head) :
      thickAnchor env.storage volname lvs' = .ok ⟨r, d.anchor.head, d.anchor.name⟩ := by
    refine thickAnchor_eq_ok.mpr ⟨⟨d.movedInfo, ?_⟩, hr'.phase⟩
    refine h.read.transfer (versionNumber_eager h.version) hinfo hr (fun f hf => hkept f ?_) hhead
    simp only [List.mem_cons, List.not_mem_nil, or_false] at hf
    rcases hf with rfl | rfl | rfl | rfl | rfl <;> decide
  have hmoved := h.find_moved d.anchor.name
  rw [if_pos rfl] at hmoved
  have hhead := h.find_moved (text d.anchor.state .head)
  rw [if_neg (h.head_ne_anchor hexact)] at hhead
  have hhead : (d.moved s.store).find (text d.anchor.state .head) = some d.anchor.head :=
    hhead.trans h.read.head
  refine ⟨r, hr', hread hmoved hhead, hread ?_ ?_⟩
  . have hfinal := d.find_final s.store d.anchor.name
    rw [if_neg h.hit_ne_anchor.symm] at hfinal
    exact hfinal.trans hmoved
  . have hfinal := d.find_final s.store (text d.anchor.state .head)
    rw [if_neg h.notHead.symm] at hfinal
    exact hfinal.trans hhead

end Deletion.Admitted

/-! ## Parts of the recovery -/

theorem SnapshotRead.verified {storage : Storage} {lvs lvs' : Inventory} {hit : Snapshot}
    {key digits : String} {owned : Record}
    (h : SnapshotRead storage volname snap lvs hit key digits owned)
    (hpresent : lvs'.lookup hit.name = some hit.info) :
    verifySnapshot storage volname lvs' hit.name = .ok (some owned) := by
  obtain ⟨space, hspace, hkey⟩ := h.keyed
  obtain ⟨hname, hdigits⟩ := generationDigits?_eq_some.mp h.named
  obtain ⟨-, fields, n, hs⟩ := Thick.decodeGenerationTags_eq_ok.mp h.decoded
  have hgen := (Thick.generationValues_eq_ok.mp hs.values).1.generation
  have hvalue : pad8 (numify ((owned .generation).getD "")).value = digits := by
    have := h.generation
    rw [Thick.numberOf, text] at this
    rw [this, pad8_digits hdigits]
  have hnamed : generationName space volname (owned .generation) = .ok hit.name := by
    simp only [generationName, bind_eq_ok, dieIf_eq_ok, exists_const, pure_eq_ok]
    exact ⟨hgen, key, hkey, by rw [hvalue, hname]⟩
  simp [verifySnapshot, hpresent, h.decoded, h.sid, h.vol, h.role, hspace, hnamed, bind, Except.bind,
    pure, Except.pure, dieIf]

theorem exact_tags_clean {state : Record} {written tags : List String}
    (hwritten : anchorTags state = .ok written) (hread : Thick.Readable .anchor state)
    (hperm : tags.Perm written) : tags.map trim = tags ∧ tags.Nodup ∧ "" ∉ tags := by
  have hown : TagFamily.anchor.family.own written = written := Thick.own_written hwritten hread
  have htrim := trim_written hown
  have hall : ∀ t ∈ written, trim t = t :=
    List.map_inj_left.mp (htrim.trans (List.map_id _).symm)
  refine ⟨?_, hperm.nodup_iff.mpr (written_nodup (t := .anchor) hwritten), fun hempty => ?_⟩
  . refine (List.map_inj_left.mpr fun t ht => ?_).trans (List.map_id _)
    exact hall t (hperm.mem_iff.mp ht)
  . have hmem := hperm.mem_iff.mp hempty
    rw [← hown] at hmem
    have := (List.mem_filter.mp hmem).2
    revert this
    decide

theorem Deletion.Admitted.exact_before (h : d.Admitted env volname snap s)
    (hexact : ExactTags d.info d.anchor.state) : d.info.tags.Perm d.delete ∧
      d.info.tags.map trim = d.info.tags ∧ d.info.tags.Nodup ∧ "" ∉ d.info.tags := by
  obtain ⟨written, hwritten, hperm⟩ := hexact
  obtain rfl := Except.ok.inj (hwritten.symm.trans h.delete)
  refine ⟨hperm, exact_tags_clean h.delete ?_ hperm⟩
  exact readable_eager h.version fun f _ => decoded_no_newline h.read.decoded f

namespace Healthy
variable (h : Healthy env)
include h

theorem changeExactTags {lv message : String} {info : Lv} {delete add : List String}
    (hinfo : s.store.find lv = some info)
    (hbefore : info.tags.map trim = info.tags ∧ info.tags.Nodup ∧ "" ∉ info.tags)
    (hdelete : info.tags.Perm delete) (hnodup : add.Nodup)
    {tags : List String} (htags : tags =
      retag (delete.filter (· ∉ add)) (add.filter (· ∉ delete)) info.tags)
    (hafter : tags.map trim = tags ∧ tags.Nodup ∧ "" ∉ tags) (hadd : tags.Perm add) :
    changeExactTags env lv delete add message s = (s.after env.storage.vgname
      (.changeTags lv (delete.filter (· ∉ add)) (add.filter (· ∉ delete))), .ok ()) := by
  have hsame : sameTags info.tags delete = true :=
    (sameTags_iff (hdelete.nodup_iff.mp hbefore.2.1)).mpr hdelete
  rw [ThickVolume.changeExactTags,
    prog_bind_of_ok (h.readExactTags hinfo hbefore.1 hbefore.2.1 hbefore.2.2)]
  rw [refuse_bind (by simpa using hsame)]
  apply h.runProven
  . exact (silent_readExactTags env lv).bind fun _ => silent_refuse _ _
  . have hfind : Store.find (s.after env.storage.vgname (.changeTags lv
        (delete.filter (· ∉ add)) (add.filter (· ∉ delete)))).store lv =
          some { info with tags := tags } := by
      rw [Session.after, Command.store, find_setTags, if_pos rfl, hinfo, htags]
      rfl
    rw [prog_bind_of_ok (h.readExactTags hfind hafter.1 hafter.2.1 hafter.2.2)]
    exact refuse_eq_ok.mpr ⟨rfl, by simpa using (sameTags_iff hnodup).mpr hadd⟩

theorem verifySnapshotInactive {lv : String} {info : Lv} (hinfo : s.store.find lv = some info)
    (hreadonly : info.readonly = true) (hdisabled : info.disabled)
    (hclosed : Closed env.storage.vgname s lv) :
    verifySnapshotInactive env lv s = (s, .ok ()) := by
  rw [ThickVolume.verifySnapshotInactive, prog_bind_of_ok (h.verifySnapshotReadonly hinfo hreadonly),
    prog_bind_of_ok (h.verifyAutoactivationDisabled hinfo hdisabled)]
  exact h.refuseOpen (fun mapping hmapping => (hclosed mapping hmapping).1) _

theorem recoverRemove {lv : String} {info : Lv} (hinfo : s.store.find lv = some info)
    (hreadonly : info.readonly = true) (hdisabled : info.disabled)
    (hclosed : Closed env.storage.vgname s lv) (hname : isLvName lv = true) :
    ∃ t, recoverRemove env lv s = (t, .ok ()) ∧
      t.store = { s.store with lvs := s.store.lvs.erase lv } := by
  have hnames : ∀ name ∈ [lv], isLvName name = true := by simpa using hname
  have hdeactivate := h.deactivateExactLvs (by simp) hnames (by simp) (by simpa using hclosed)
    ("deactivating snapshot '" ++ lvPath env lv ++ "' during recovery failed")
  refine ⟨(s.after env.storage.vgname (.deactivate [lv])).after env.storage.vgname (.remove lv),
    ?_, rfl⟩
  rw [ThickVolume.recoverRemove,
    prog_bind_of_ok (h.verifySnapshotInactive hinfo hreadonly hdisabled hclosed),
    prog_bind_of_ok hdeactivate]
  exact h.runCommand _ _

end Healthy

/-! ## The open intent -/

/-- The intent of a delete as it is read back while it is open. -/
structure Deletion.IntentAt (d : Deletion) (X : Store) (intent : Record) : Prop where
  read : decodeVgIntentTags (.array (d.opened X).vgTags) = .ok (some intent)
  tx : text intent .tx = d.tx
  state : text intent .state = "OPEN"
  op : text intent .op = "REMOVE_SNAPSHOT"
  object : text intent .object = d.hit.name
  again : vgIntentTags intent = .ok d.written
  back : retag d.written [] (d.opened X).vgTags = X.vgTags
  closed : decodeVgIntentTags (.array X.vgTags) = .ok none

theorem Deletion.IntentAt.congr {X Y : Store} {intent : Record} (h : d.IntentAt X intent)
    (hXY : X.vgTags = Y.vgTags) : d.IntentAt Y intent := by
  have hopened : (d.opened X).vgTags = (d.opened Y).vgTags := by
    rw [Deletion.opened, Deletion.opened, hXY]
  exact ⟨hopened ▸ h.read, h.tx, h.state, h.op, h.object, h.again, hopened ▸ hXY ▸ h.back,
    hXY ▸ h.closed⟩

theorem sameIntent_self (intent : Record) : sameIntent intent intent = true := by
  simp [sameIntent]

section
variable (h : d.Admitted env volname snap s)
include h

theorem Deletion.Admitted.isLvName_hit : isLvName d.hit.name = true := by
  obtain ⟨key, digits, owned, hhit⟩ := h.hitRead
  obtain ⟨space, -, hkey⟩ := hhit.keyed
  exact isLvName_generation hkey hhit.named

theorem Deletion.Admitted.intentAt {X : Store} (hX : X.vgTags = s.store.vgTags) :
    ∃ intent, d.IntentAt X intent := by
  obtain ⟨hback, intent, hread, hi⟩ := intent_written h.noIntent h.written
  have hopened : (d.opened X).vgTags = retag [] d.written s.store.vgTags := by
    rw [Deletion.opened, hX]
  have hobject : body d.hit.name = d.hit.name := Thick.body_of_plus h.isLvName_hit
  refine ⟨intent, by rw [hopened]; exact hread, ?_, ?_, ?_, ?_, hi.again, ?_, ?_⟩
  . rw [hi.fields .tx (by simp)]
    exact body_eq_self h.tx_no_newline
  . rw [hi.fields .state (by simp)]
    exact (by decide : body "OPEN" = "OPEN")
  . rw [hi.fields .op (by simp)]
    exact (by decide : body "REMOVE_SNAPSHOT" = "REMOVE_SNAPSHOT")
  . rw [hi.fields .object (by simp)]
    exact hobject
  . rw [hopened, hback, hX]
  . rw [hX]
    exact h.noIntent

end

/-- Nothing is recovered where no intent is open. -/
theorem recover_without_intent {env : Env} {s : Session} (volname : String)
    (h : decodeVgIntentTags (.array s.store.vgTags) = .ok none) :
    ∃ message, recoverSnapshotDelete env volname s = (s, .error message) := by
  apply Outcome.refused
  apply outcome_bind
  refine (silent_lift _).outcome rfl fun _ _ => ?_
  refine outcome_withVgLock rfl ?_
  apply outcome_bind
  refine (silent_readVgIntent env).outcome rfl fun intent hread => ?_
  obtain rfl := Except.ok.inj (h.symm.trans (readVgIntent_eq_ok hread))
  exact outcome_throwMessage rfl

/-! ## The volume the intent belongs to -/

/-- What the kernel has under the name of the snapshot is the snapshot, and nothing holds it. -/
def Deletion.Idle (d : Deletion) (vg : String) (S : Store) (k : Kernel) : Prop :=
  ∀ mapping, k.lookup (lvMapperName vg d.hit.name) = some mapping → mapping.opens = 0 ∧
    mapping.uuid = "LVM-" ++ dense S.uuid ++ dense d.hit.info.uuid

section
variable {env' : Env} {r : Session} {intent : Record} {X : Store}
variable (hh : Healthy env') (hs : env'.storage = env.storage)
variable (h : d.Admitted env volname snap s) (hexact : ExactTags d.info d.anchor.state)
include hh hs h

theorem recover_open (hr : r.store = d.opened X) (hi : d.IntentAt X intent) :
    recoverSnapshotDelete env' volname r = recoverOpenDelete env' volname intent r := by
  rw [recoverSnapshotDelete, lift_bind (hs ▸ h.config), hh.withVgLock,
    prog_bind_of_ok (hh.readVgIntent (hr ▸ hi.read))]

/-- Once the snapshot is gone and the anchor is rebased, only the intent is left. -/
theorem Healthy.finishSnapshotRecovery (hexact : ExactTags d.info d.anchor.state)
    (hr : r.store = d.opened (d.final s.store)) (hi : d.IntentAt (d.final s.store) intent)
    {state : Record} (hhead : text state .head = text d.anchor.state .head)
    (hgen : numberOf state .generation = numberOf d.anchor.state .generation) :
    ∃ t, finishSnapshotRecovery env' volname state intent r =
      (t, .ok "SNAPSHOT_DELETE_RECOVERED") ∧ t.store = d.final s.store := by
  obtain ⟨final, hfinal, -, hread⟩ := h.anchor_moved hexact
  have hgone : (d.final s.store).find d.hit.name = none := by
    rw [d.find_final, if_pos rfl]
  have hlvs : r.store.lvs = (d.final s.store).lvs := by rw [hr, Deletion.opened]
  have hgen' : numberOf final .generation = numberOf state .generation := by
    rw [hgen, numberOf, text, hfinal.generation, numberOf, text]
  have hclear := hh.clearVgIntent (s := r) (hr ▸ hi.read) (sameIntent_self intent) hi.again (by
    rw [hr, hi.back]
    exact hi.closed)
  rw [← hs, ← hlvs] at hread
  refine ⟨r.after env'.storage.vgname (.changeVgTags d.written []), ?_, ?_⟩
  . rw [ThickVolume.finishSnapshotRecovery, prog_bind_of_ok (hh.ask _ _),
      prog_bind_of_ok (hh.listVolumes r), refuse_bind, lift_bind hread, refuse_bind,
      prog_bind_of_ok hclear]
    . rfl
    . simp [hi.tx, hfinal.tx, hfinal.head, hhead, hgen', hfinal.canonical]
    . rw [hlvs, hi.object]
      simpa [Store.find] using hgone
  . have hback := hi.back
    simp only [Session.after, Command.store, hr]
    rw [hback]
    rfl

/-- The snapshot is gone: the recovery only confirms and clears the intent. -/
theorem recover_removed (hexact : ExactTags d.info d.anchor.state)
    (hr : r.store = d.opened (d.final s.store)) :
    ∃ t, recoverSnapshotDelete env' volname r = (t, .ok "SNAPSHOT_DELETE_RECOVERED") ∧
      t.store = d.final s.store := by
  obtain ⟨intent, hi⟩ := h.intentAt (X := d.final s.store) (by simp)
  obtain ⟨a, ha, -, hread⟩ := h.anchor_moved hexact
  have hlvs : r.store.lvs = (d.final s.store).lvs := by rw [hr, Deletion.opened]
  have hgone : (d.final s.store).lvs.lookup d.hit.name = none := by
    have := d.find_final s.store d.hit.name
    rwa [if_pos rfl] at this
  have hnone : verifySnapshot env'.storage volname (d.final s.store).lvs d.hit.name = .ok none := by
    simp only [verifySnapshot, hgone]
  obtain ⟨t, hfinish, ht⟩ := hh.finishSnapshotRecovery hs h hexact hr hi ha.head
    (by rw [numberOf, text, ha.generation, numberOf, text])
  refine ⟨t, ?_, ht⟩
  rw [recover_open hh hs h hr hi, recoverOpenDelete, refuse_bind,
    prog_bind_of_ok (hh.requireExactVgIntent (hr ▸ hi.read) (sameIntent_self intent)),
    prog_bind_of_ok (hh.listVolumes r), hlvs, lift_bind (hs ▸ hread), refuse_bind,
    lift_bind (hi.object.symm ▸ hnone)]
  . simp only [Option.isSome_none, Effects.whenever, Bool.false_eq_true, if_false]
    rw [prog_bind_of_ok (prog_pure_eq_ok.mpr ⟨rfl, rfl⟩), recoverRebase,
      if_neg (by simp [ha.tx, hi.tx]), prog_bind_of_ok (t := r) (a := a),
      prog_bind_of_ok (prog_pure_eq_ok.mpr ⟨rfl, rfl⟩), hfinish]
    rw [refuse_bind (by simp [ha.canonical])]
    rfl
  . rw [hi.object, ha.head]
    simpa using h.notHead
  . simp [hi.state, hi.op]

omit hh hs h in
theorem Deletion.closed_of_idle {r : Session} (hidle : d.Idle env.storage.vgname s.store
    r.kernel) (huuid : r.store.uuid = s.store.uuid)
    (hfind : r.store.find d.hit.name = some d.hit.info) :
    Closed env.storage.vgname r d.hit.name := by
  intro mapping hmapping
  obtain ⟨hopens, hid⟩ := hidle mapping hmapping
  exact ⟨hopens, d.hit.info, hfind, by rw [huuid, hid]⟩

/-- From the rebased anchor on, the recovery removes the snapshot and clears the intent. -/
theorem recover_rest (hexact : ExactTags d.info d.anchor.state)
    (hr : r.store = d.opened (d.moved s.store)) (hidle : d.Idle env.storage.vgname s.store r.kernel)
    (hi : d.IntentAt (d.final s.store) intent) {state : Record}
    (hhead : text state .head = text d.anchor.state .head)
    (hgen : numberOf state .generation = numberOf d.anchor.state .generation) :
    ∃ t, (recoverRemove env' d.hit.name >>= fun _ =>
        finishSnapshotRecovery env' volname state intent) r =
      (t, .ok "SNAPSHOT_DELETE_RECOVERED") ∧ t.store = d.final s.store := by
  have hfind : r.store.find d.hit.name = some d.hit.info := by
    rw [hr]
    exact (h.find_moved d.hit.name).trans (by rw [if_neg h.hit_ne_anchor, h.find_hit])
  have huuid : r.store.uuid = s.store.uuid := by
    rw [hr]
    exact setTags_uuid _ _ _ _
  obtain ⟨u, hremove, hu⟩ := hh.recoverRemove hfind h.readonly h.disabled
    (hs ▸ Deletion.closed_of_idle hidle huuid hfind) h.isLvName_hit
  have hustore : u.store = d.opened (d.final s.store) := by
    rw [hu, hr]
    rfl
  obtain ⟨t, hfinish, ht⟩ := hh.finishSnapshotRecovery hs h hexact hustore hi hhead hgen
  exact ⟨t, by rw [prog_bind_of_ok hremove, hfinish], ht⟩

/-- While the snapshot is there, the recovery has it to remove and may have the anchor to
rebase. -/
theorem recover_present (hr : r.store = d.opened X) (hi : d.IntentAt X intent) {a : Anchor}
    (ha : thickAnchor env.storage volname X.lvs = .ok a)
    (hhead : text a.state .head = text d.anchor.state .head)
    (hfind : X.find d.hit.name = some d.hit.info) (huuid : X.uuid = s.store.uuid)
    (hidle : d.Idle env.storage.vgname s.store r.kernel) :
    recoverSnapshotDelete env' volname r =
      (recoverRebase env' a d.tx true >>= fun state => recoverRemove env' d.hit.name >>= fun _ =>
        finishSnapshotRecovery env' volname state intent) r := by
  obtain ⟨key, digits, owned, hhit⟩ := h.hitRead
  have hlvs : r.store.lvs = X.lvs := by rw [hr, Deletion.opened]
  have hfind' : r.store.find d.hit.name = some d.hit.info := by
    rw [hr]
    exact hfind
  have huuid' : r.store.uuid = s.store.uuid := by
    rw [hr]
    exact huuid
  have hverified : verifySnapshot env'.storage volname X.lvs d.hit.name = .ok (some owned) := by
    rw [hs]
    exact hhit.verified hfind
  have hinactive := hh.verifySnapshotInactive hfind' h.readonly h.disabled
    (hs ▸ Deletion.closed_of_idle hidle huuid' hfind')
  rw [recover_open hh hs h hr hi, recoverOpenDelete, refuse_bind,
    prog_bind_of_ok (hh.requireExactVgIntent (hr ▸ hi.read) (sameIntent_self intent)),
    prog_bind_of_ok (hh.listVolumes r), hlvs, lift_bind (hs ▸ ha), refuse_bind,
    lift_bind (hi.object.symm ▸ hverified)]
  . simp only [Option.isSome_some, Effects.whenever, if_true, hi.object, hi.tx]
    rw [prog_bind_of_ok hinactive]
  . rw [hi.object, hhead]
    simpa using h.notHead
  . simp [hi.state, hi.op]

/-- The anchor is rebased: the recovery removes the snapshot. -/
theorem recover_moved (hexact : ExactTags d.info d.anchor.state)
    (hr : r.store = d.opened (d.moved s.store))
    (hidle : d.Idle env.storage.vgname s.store r.kernel) :
    ∃ t, recoverSnapshotDelete env' volname r = (t, .ok "SNAPSHOT_DELETE_RECOVERED") ∧
      t.store = d.final s.store := by
  obtain ⟨intent, hi⟩ := h.intentAt (X := d.final s.store) (by simp)
  obtain ⟨a, ha, hread, -⟩ := h.anchor_moved hexact
  have hfind := h.find_moved d.hit.name
  rw [if_neg h.hit_ne_anchor, h.find_hit] at hfind
  obtain ⟨t, hrest, ht⟩ := recover_rest hh hs h hexact hr hidle hi ha.head
    (by rw [numberOf, text, ha.generation, numberOf, text])
  refine ⟨t, ?_, ht⟩
  rw [recover_present hh hs h hr (hi.congr (by simp)) hread ha.head hfind (setTags_uuid _ _ _ _)
    hidle, recoverRebase, if_neg (by simp [ha.tx]), prog_bind_of_ok (t := r) (a := a), hrest]
  rw [refuse_bind (by simp [ha.canonical])]
  rfl

/-- Only the intent is there: the recovery does all of the delete. -/
theorem recover_opened (hexact : ExactTags d.info d.anchor.state)
    (hr : r.store = d.opened s.store)
    (hidle : d.Idle env.storage.vgname s.store r.kernel) :
    ∃ t, recoverSnapshotDelete env' volname r = (t, .ok "SNAPSHOT_DELETE_RECOVERED") ∧
      t.store = d.final s.store := by
  obtain ⟨intent, hi⟩ := h.intentAt (X := d.final s.store) (by simp)
  obtain ⟨-, -, -, -, hne, -, hrebased⟩ := Thick.materializedRebaseState_eq_ok.mp h.rebase
  obtain ⟨hperm, -⟩ := h.rebased_tags hexact
  obtain ⟨hdelete, hbefore⟩ := h.exact_before hexact
  have hafter : d.movedInfo.tags.map trim = d.movedInfo.tags ∧ d.movedInfo.tags.Nodup ∧
      "" ∉ d.movedInfo.tags := by
    refine exact_tags_clean h.add ?_ hperm
    rw [hrebased]
    exact readable_rebased h.read.decoded h.version h.tx_no_newline
  have hfind : r.store.find d.anchor.name = some d.info := by
    rw [hr]
    exact h.info
  have hmove : changeExactTags env' d.anchor.name d.delete d.add
      ("recovering materialized anchor '" ++ lvPath env' d.anchor.name ++
        "' before snapshot delete failed") r = _ :=
    hh.changeExactTags hfind hbefore hdelete (written_nodup (t := .anchor) h.add) rfl hafter hperm
  have hanchor : moveAnchor env' d.anchor.name d.anchor.state d.rebased
      ("recovering materialized anchor '" ++ lvPath env' d.anchor.name ++
        "' before snapshot delete failed") r = (r.after env'.storage.vgname
      (.changeTags d.anchor.name (d.delete.filter (· ∉ d.add)) (d.add.filter (· ∉ d.delete))),
        .ok ()) := by
    rw [moveAnchor, lift_bind h.delete, lift_bind h.add, hmove]
  have hrebase : recoverRebase env' d.anchor d.tx true r = (r.after env'.storage.vgname
      (.changeTags d.anchor.name (d.delete.filter (· ∉ d.add)) (d.add.filter (· ∉ d.delete))),
        .ok d.rebased) := by
    rw [recoverRebase, if_pos (fun heq => hne heq.symm), refuse_bind (by simp),
      lift_bind h.rebase, prog_bind_of_ok hanchor]
    rfl
  have hmstore : (r.after env'.storage.vgname (.changeTags d.anchor.name
      (d.delete.filter (· ∉ d.add)) (d.add.filter (· ∉ d.delete)))).store =
        d.opened (d.moved s.store) := by
    rw [Session.after, Command.store, hr, Deletion.moved_opened]
  have hhead : text d.rebased .head = text d.anchor.state .head := by
    rw [hrebased, text, rebased_of_ne (by decide), text]
  have hgeneration : numberOf d.rebased .generation = numberOf d.anchor.state .generation := by
    rw [hrebased, numberOf, text, rebased_of_ne (by decide), numberOf, text]
  obtain ⟨t, hrest, ht⟩ := recover_rest hh hs h hexact hmstore hidle hi hhead hgeneration
  refine ⟨t, ?_, ht⟩
  rw [recover_present hh hs h hr (hi.congr (by simp)) h.anchor rfl h.find_hit rfl hidle,
    prog_bind_of_ok hrebase, hrest]

end

/-! ## Any other volume -/

/-- No anchor carries a transaction the kernel has yet to draw. -/
def FreshTx (S : Store) (tx : String) : Prop :=
  ∀ lv info state, S.find lv = some info → decodeAnchorTags (.array info.tags) = .ok state →
    text state .tx ≠ tx

theorem other_not_verified {storage : Storage} {lvs lvs' : Inventory} {hit : Snapshot}
    {key digits other : String} {owned : Record} {result : Option Record}
    (h : SnapshotRead storage volname snap lvs hit key digits owned) (hother : other ≠ volname)
    (hpresent : lvs'.lookup hit.name = some hit.info)
    (hok : verifySnapshot storage other lvs' hit.name = .ok result) : False := by
  simp only [verifySnapshot, hpresent, bind_eq_ok, dieIf_eq_ok, h.decoded, Except.ok.injEq] at hok
  obtain ⟨_, rfl, _, hbad, -⟩ := hok
  simp [h.vol, hother.symm] at hbad

section
variable {env' : Env} {r : Session} {X : Store} {other : String}

/-- The recovery of another volume dies before its first command. -/
theorem recover_other (h : d.Admitted env volname snap s)
    (hexact : ExactTags d.info d.anchor.state) (hfresh : FreshTx s.store d.tx)
    (hs : env'.storage = env.storage) (hother : other ≠ volname)
    (hr : r.store = d.opened X)
    (hX : X = s.store ∨ X = d.moved s.store ∨ X = d.final s.store) :
    ∃ message, recoverSnapshotDelete env' other r = (r, .error message) := by
  obtain ⟨key, digits, owned, hhit⟩ := h.hitRead
  have hvg : X.vgTags = s.store.vgTags := by
    rcases hX with rfl | rfl | rfl <;> simp
  obtain ⟨intent, hi⟩ := h.intentAt hvg
  have hlvs : r.store.lvs = X.lvs := by rw [hr, Deletion.opened]
  apply Outcome.refused
  apply outcome_bind
  refine (silent_lift _).outcome rfl fun _ _ => ?_
  refine outcome_withVgLock rfl ?_
  apply outcome_bind
  refine (silent_readVgIntent env').outcome rfl fun read hread => ?_
  have hread := readVgIntent_eq_ok hread
  rw [hr, hi.read] at hread
  obtain rfl := Except.ok.inj hread
  apply outcome_bind
  refine (silent_refuse _ _).outcome rfl fun _ _ => ?_
  apply outcome_bind
  refine (silent_requireExactVgIntent env' _).outcome rfl fun _ _ => ?_
  apply outcome_bind
  refine (silent_listVolumes env').outcome rfl fun lvs hl => ?_
  obtain rfl := listVolumes_eq_ok hl
  apply outcome_bind
  refine (silent_lift _).outcome rfl fun a ha => ?_
  obtain ⟨⟨info, haread⟩, -⟩ := thickAnchor_eq_ok.mp (lift_eq_ok.mp ha).2
  apply outcome_bind
  refine (silent_refuse _ _).outcome rfl fun _ _ => ?_
  apply outcome_bind
  refine (silent_lift _).outcome rfl fun result hresult => ?_
  replace hresult := (lift_eq_ok.mp hresult).2
  rw [hs, hlvs, hi.object] at hresult
  rw [hs, hlvs] at haread
  -- with the snapshot in place its signed volume is not this one
  have hgone : X = d.final s.store := by
    rcases hX with rfl | rfl | hX
    . exact (other_not_verified hhit hother h.find_hit hresult).elim
    . have hfind := h.find_moved d.hit.name
      rw [if_neg h.hit_ne_anchor, h.find_hit] at hfind
      exact (other_not_verified hhit hother hfind hresult).elim
    . exact hX
  subst hgone
  have hnone : (d.final s.store).lvs.lookup d.hit.name = none := by
    have := d.find_final s.store d.hit.name
    rwa [if_pos rfl] at this
  simp only [verifySnapshot, hnone, Except.ok.injEq] at hresult
  subst hresult
  have hne : text a.state .tx ≠ text intent .tx := by
    rw [hi.tx]
    have hlookup : (d.final s.store).find a.name = some info := haread.present
    have hname : a.name ≠ d.hit.name := by
      intro heq
      rw [d.find_final, if_pos heq] at hlookup
      cases hlookup
    rw [d.find_final, if_neg hname, h.find_moved] at hlookup
    split_ifs at hlookup with hanchor
    . obtain rfl := Option.some.inj hlookup
      obtain ⟨-, r', hr', hfields⟩ := h.rebased_tags hexact
      have hstate := Except.ok.inj (haread.decoded.symm.trans hr')
      obtain ⟨-, -, -, -, -, -, hrebased⟩ := Thick.materializedRebaseState_eq_ok.mp h.rebase
      have hvol : text a.state .vol = volname := by
        rw [hstate, text, hfields .vol (by decide), hrebased, rebased_of_ne (by decide)]
        exact h.read.vol
      exact absurd (haread.vol.symm.trans hvol) hother
    . exact hfresh _ _ _ hlookup haread.decoded
  apply outcome_bind
  simp only [Option.isSome_none, Effects.whenever, Bool.false_eq_true, if_false]
  apply outcome_pure
  apply outcome_bind
  rw [recoverRebase, if_pos hne]
  apply outcome_bind
  refine (silent_refuse _ _).outcome rfl fun _ hno => ?_
  have := (refuse_eq_ok.mp hno).2
  simp at this

end

end SharedLvmThin.ThickVolume
