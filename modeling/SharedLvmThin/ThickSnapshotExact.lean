import SharedLvmThin.ThickSnapshotRecovery

/-!
# Every crash point of a snapshot delete

An anchor that carries exactly its written tags can be recovered wherever the delete stopped.
Tags of other tools on the anchor stop the delete and its recovery alike.
-/

namespace SharedLvmThin.ThickVolume
open Perl TagCodec Effects
open Thick (Field Record TagFamily TagInput hashOf anchorTags decodeAnchorTags generationTags
  decodeGenerationTags vgIntentTags decodeVgIntentTags materializedRebaseState numberOf)

variable {env : Env} {volname snap : String} {s : Session} {d : Deletion}

/-! ## Completed deletes -/

/-- What a completed delete leaves of the volume group it started from. -/
structure Deletion.Completed (d : Deletion) (before after : Store) : Prop where
  gone : after.find d.hit.name = none
  anchor : ∃ state, after.find d.anchor.name = some d.movedInfo ∧
    decodeAnchorTags (.array d.movedInfo.tags) = .ok state ∧ d.Rebased state
  others : ∀ lv, lv ≠ d.anchor.name → lv ≠ d.hit.name → after.find lv = before.find lv
  vgTags : after.vgTags = before.vgTags

theorem Deletion.Admitted.completed (h : d.Admitted env volname snap s)
    (hexact : ExactTags d.info d.anchor.state) : d.Completed s.store (d.final s.store) := by
  obtain ⟨r, hr, -, hread⟩ := h.anchor_moved hexact
  obtain ⟨⟨info, hinfo⟩, -⟩ := thickAnchor_eq_ok.mp hread
  have hanchor : (d.final s.store).find d.anchor.name = some d.movedInfo := by
    rw [d.find_final, if_neg h.hit_ne_anchor.symm, h.find_moved, if_pos rfl]
  have hsame : info = d.movedInfo := Option.some.inj (hinfo.present.symm.trans hanchor)
  refine ⟨?_, ⟨r, hanchor, hsame ▸ hinfo.decoded, hr⟩, fun lv hlv hhit => ?_, by simp⟩
  . rw [d.find_final, if_pos rfl]
  . rw [d.find_final, if_neg hhit, h.find_moved, if_neg hlv]

/-- Two deletes of one snapshot under one transaction end alike. -/
theorem Deletion.Admitted.final_eq {env₁ : Env} {d₁ : Deletion} (h : d.Admitted env volname snap s)
    (h₁ : d₁.Admitted env₁ volname snap s) (hs : env₁.storage = env.storage)
    (hu : env₁.randomUuid = env.randomUuid) : d₁.final s.store = d.final s.store := by
  have hanchor : d₁.anchor = d.anchor :=
    Except.ok.inj (h₁.anchor.symm.trans (by rw [hs]; exact h.anchor))
  have hhit : d₁.hit = d.hit := Except.ok.inj (h₁.hit.symm.trans (by rw [hs]; exact h.hit))
  have htx : d₁.tx = d.tx := by rw [h₁.tx, h.tx, hu]
  have hrebased : d₁.rebased = d.rebased :=
    Except.ok.inj (h₁.rebase.symm.trans (by rw [hanchor, htx]; exact h.rebase))
  have hdelete : d₁.delete = d.delete :=
    Except.ok.inj (h₁.delete.symm.trans (by rw [hanchor]; exact h.delete))
  have hadd : d₁.add = d.add := Except.ok.inj (h₁.add.symm.trans (by rw [hrebased]; exact h.add))
  rw [final, final, removed, removed, moved, moved, hanchor, hhit, hdelete, hadd]

/-- Wherever a snapshot delete stopped with its intent open, recovery for its volume ends where
the uninterrupted delete does, recovery for any other volume dies with everything as it was, and
so does a second recovery. -/
theorem snapshot_delete_recovery {env : Env} {volname : String} {snap : Option String}
    {requireOrphan : Bool} {admission : Option SnapshotAdmission} {s : Session}
    (hexact : ∀ a info, AnchorRead env.storage volname s.store.lvs a info → ExactTags info a.state)
    (hfresh : FreshTx s.store (transactionText (env.randomUuid s.issued.length)))
    {crash : Issued} (hcrash : crash ∈ (snapshotDeleteLocked env volname snap requireOrphan
      admission s).1.issued.drop s.issued.length)
    {intent : Record} (hopen : decodeVgIntentTags (.array crash.store.vgTags) = .ok (some intent)) :
    ∃ d : Deletion, d.Admitted env volname (snap.getD "") s ∧
      (∀ env' r, Healthy env' → env'.storage = env.storage → r.store = crash.store →
        d.Idle env.storage.vgname s.store r.kernel →
        ∃ t, recoverSnapshotDelete env' volname r = (t, .ok "SNAPSHOT_DELETE_RECOVERED") ∧
          d.Completed s.store t.store ∧
          (∀ env₁ t₁, env₁.storage = env.storage → env₁.randomUuid = env.randomUuid →
            snapshotDeleteLocked env₁ volname snap requireOrphan admission s = (t₁, .ok ()) →
              t.store = t₁.store) ∧
          ∀ env₂ name u, u.store = t.store →
            ∃ message, recoverSnapshotDelete env₂ name u = (u, .error message)) ∧
      ∀ env' other r, other ≠ volname → env'.storage = env.storage → r.store = crash.store →
        ∃ message, recoverSnapshotDelete env' other r = (r, .error message) := by
  have hrun := (outcome_snapshotDelete env volname snap requireOrphan admission s).final
    (P := fun t => t = s ∨ ∃ d : Deletion, d.Admitted env volname (snap.getD "") s ∧
      Within (d.Stage s.store) s t)
    (fun _ t ht => Or.inr (ht.imp fun d hd => ⟨hd.1, hd.2.1⟩)) fun t ht => ht
  rcases hrun with hnothing | ⟨d, hd, -, new, hnew, hstages⟩
  . rw [hnothing] at hcrash
    simp at hcrash
  rw [hnew, List.drop_left] at hcrash
  have hexact' := hexact _ _ hd.read
  have hfresh' : FreshTx s.store d.tx := hd.tx ▸ hfresh
  have hnone (S : Store) (hS : S.vgTags = s.store.vgTags) : crash.store ≠ S := by
    intro heq
    rw [heq, hS, hd.noIntent] at hopen
    cases hopen
  have hcase : ∃ X, crash.store = d.opened X ∧
      (X = s.store ∨ X = d.moved s.store ∨ X = d.final s.store) := by
    have hstage := hstages crash hcrash
    generalize crash.store = C at hstage hnone
    cases hstage with
    | before => exact absurd rfl (hnone s.store rfl)
    | opened => exact ⟨_, rfl, Or.inl rfl⟩
    | moved => exact ⟨_, rfl, Or.inr (Or.inl rfl)⟩
    | removed => exact ⟨_, rfl, Or.inr (Or.inr rfl)⟩
    | cleared => exact absurd rfl (hnone (d.final s.store) (by simp))
  obtain ⟨X, hX, hwhich⟩ := hcase
  refine ⟨d, hd, fun env' r hh hs hr hidle => ?_, fun env' other r hother hs hr =>
    recover_other hd hexact' hfresh' hs hother (hr.trans hX) hwhich⟩
  have hrecover : ∃ t, recoverSnapshotDelete env' volname r =
      (t, .ok "SNAPSHOT_DELETE_RECOVERED") ∧ t.store = d.final s.store := by
    rcases hwhich with rfl | rfl | rfl
    . exact recover_opened hh hs hd hexact' (hr.trans hX) hidle
    . exact recover_moved hh hs hd hexact' (hr.trans hX) hidle
    . exact recover_removed hh hs hd hexact' (hr.trans hX)
  obtain ⟨t, ht, hstore⟩ := hrecover
  refine ⟨t, ht, hstore ▸ hd.completed hexact', fun env₁ t₁ hs₁ hu hok => ?_,
    fun env₂ name u hu => ?_⟩
  . have hrun₁ := outcome_snapshotDelete env₁ volname snap requireOrphan admission s
    unfold Effects.Outcome at hrun₁
    rw [hok] at hrun₁
    obtain ⟨d₁, hd₁, -, hfinal⟩ := hrun₁
    rw [hstore, hfinal, hd.final_eq hd₁ hs₁ hu]
  . apply recover_without_intent
    rw [hu, hstore, d.final_vgTags]
    exact hd.noIntent

/-! ## Other tags on the anchor -/

/-- With tags beyond its state on the anchor, the recovery cannot rebase it. -/
theorem recover_inexact (h : d.Admitted env volname snap s)
    (hinexact : sameTags (d.info.tags.map trim) d.delete = false) {env' : Env} {r : Session}
    (hs : env'.storage = env.storage) (hr : r.store = d.opened s.store) :
    ∃ message, recoverSnapshotDelete env' volname r = (r, .error message) := by
  obtain ⟨-, -, -, -, hne, -, -⟩ := Thick.materializedRebaseState_eq_ok.mp h.rebase
  rw [Option.getD_some] at hne
  obtain ⟨intent, hi⟩ := h.intentAt (X := s.store) rfl
  apply Outcome.refused
  apply outcome_bind
  refine (silent_lift _).outcome rfl fun _ _ => ?_
  refine outcome_withVgLock rfl ?_
  apply outcome_bind
  refine (silent_readVgIntent env').outcome rfl fun read hread => ?_
  have hread := readVgIntent_eq_ok hread
  rw [hr, hi.read] at hread
  obtain rfl := Except.ok.inj hread
  apply outcome_bind
  refine (silent_refuse _ _).outcome rfl fun _ _ => ?_
  apply outcome_bind
  refine (silent_requireExactVgIntent env' _).outcome rfl fun _ _ => ?_
  apply outcome_bind
  refine (silent_listVolumes env').outcome rfl fun lvs hl => ?_
  obtain rfl := listVolumes_eq_ok hl
  apply outcome_bind
  refine (silent_lift _).outcome rfl fun a ha => ?_
  replace ha := (lift_eq_ok.mp ha).2
  rw [hs, hr] at ha
  obtain rfl := Except.ok.inj (ha.symm.trans h.anchor)
  apply outcome_bind
  refine (silent_refuse _ _).outcome rfl fun _ _ => ?_
  apply outcome_bind
  refine (silent_lift _).outcome rfl fun owned _ => ?_
  apply outcome_bind
  refine ((show Silent (verifySnapshotInactive env' _) from ?_).whenever _).outcome rfl fun _ _ => ?_
  . refine (silent_verifySnapshotReadonly env' _).bind fun _ => ?_
    refine (silent_verifyAutoactivationDisabled env' _).bind fun _ => ?_
    exact silent_refuseOpen env' _ _
  apply outcome_bind
  rw [recoverRebase, hi.tx, if_pos hne.symm]
  apply outcome_bind
  refine (silent_refuse _ _).outcome rfl fun _ _ => ?_
  apply outcome_bind
  refine (silent_lift _).outcome rfl fun rebased _ => ?_
  apply outcome_bind
  apply outcome_bind
  refine (silent_lift _).outcome rfl fun delete hdelete => ?_
  obtain rfl := Except.ok.inj (h.delete.symm.trans (lift_eq_ok.mp hdelete).2)
  apply outcome_bind
  refine (silent_lift _).outcome rfl fun add _ => ?_
  refine outcome_changeExactTags rfl fun info hinfo _ hsame t _ => ?_
  rw [hr] at hinfo
  obtain rfl := Option.some.inj (h.info.symm.trans hinfo)
  rw [hinexact] at hsame
  cases hsame

/-! ## Deletes that get as far as their intent -/

theorem keeps_runCommand (before : List Issued) (env : Env) (command : Command) :
    Keeps (fun t => before <+: t.issued) (runCommand env command) := by
  intro s hs
  refine outcome_runCommand fun t ht => ?_
  have hextends : before <+: t.issued := by
    rw [ht.issued]
    exact hs.trans (List.prefix_append _ _)
  exact ⟨hextends, hextends⟩

theorem keeps_runProven (before : List Issued) (env : Env) (command : Command) (unknown : String)
    {verify : Op Unit} (h : Silent verify) :
    Keeps (fun t => before <+: t.issued) (runProven env command unknown verify) := by
  intro s hs
  have hextends (t : Session) (ht : Ran command s t) : before <+: t.issued := by
    rw [ht.issued]
    exact hs.trans (List.prefix_append _ _)
  exact outcome_runProven h (fun t ht _ => hextends t ht) hextends

theorem keeps_changeExactTags (before : List Issued) (env : Env) (lv : String)
    (delete add : List String) (message : String) :
    Keeps (fun t => before <+: t.issued) (changeExactTags env lv delete add message) := by
  refine (silent_readExactTags env lv).keeps.bind fun _ => ?_
  refine (silent_refuse _ _).keeps.bind fun _ => ?_
  exact keeps_runProven _ _ _ _ ((silent_readExactTags env lv).bind fun _ => silent_refuse _ _)

theorem keeps_deactivateExactLvs (before : List Issued) (env : Env) (message : String)
    (lvs : List String) :
    Keeps (fun t => before <+: t.issued) (deactivateExactLvs env message lvs) := by
  refine (silent_refuse _ _).keeps.bind fun _ => (silent_refuse _ _).keeps.bind fun _ => ?_
  refine (silent_kernelInventory env).keeps.bind fun _ => ?_
  refine (Silent.each (fun lv => silent_verifyMapped env _ lv) lvs).keeps.bind fun _ => ?_
  refine keeps_runProven _ _ _ _ ((silent_kernelInventory env).bind fun after => ?_)
  exact Silent.each (fun lv => silent_refuse _ _) _

theorem keeps_clearVgIntent (before : List Issued) (env : Env) (expected : Record) :
    Keeps (fun t => before <+: t.issued) (clearVgIntent env expected) := by
  refine (silent_readVgIntent env).keeps.bind fun current => ?_
  split
  . exact (silent_throwMessage _).keeps
  . refine (silent_refuse _ _).keeps.bind fun _ => (silent_lift _).keeps.bind fun _ => ?_
    exact keeps_runProven _ _ _ _ (silent_clearCheck env _)

theorem keeps_afterIntent (before : List Issued) (env : Env) (volname snap anchor snapshot : String)
    (state rebased intent : Record) : Keeps (fun t => before <+: t.issued)
      (attempt (rebaseAndRemove env anchor state rebased snapshot) >>=
        finishSnapshotDelete env volname snap state intent) := by
  refine Keeps.bind (Keeps.attempt ?_) fun result => ?_
  . refine Keeps.bind ?_ fun _ => (keeps_deactivateExactLvs _ _ _ _).bind fun _ =>
      keeps_runCommand _ _ _
    refine (silent_lift _).keeps.bind fun _ => (silent_lift _).keeps.bind fun _ => ?_
    exact keeps_changeExactTags _ _ _ _ _ _
  . refine ((silent_ask env _).orDie _).keeps.bind fun _ => ?_
    refine (silent_listVolumes env).keeps.bind fun _ => ?_
    refine (silent_refuse _ _).keeps.bind fun _ => ((silent_lift _).orDie _).keeps.bind fun _ => ?_
    refine (silent_lift _).keeps.bind fun _ => (silent_refuse _ _).keeps.bind fun _ => ?_
    exact (silent_refuse _ _).keeps.bind fun _ => keeps_clearVgIntent _ _ _

/-- Where every probe answers, a delete that decides commits its intent. -/
theorem Healthy.opens (hh : Healthy env) {requireOrphan : Bool}
    {admission : Option SnapshotAdmission} (h : d.Admitted env volname snap s)
    (hsnap : snapshotName (some snap) = .ok snap)
    (hadmission : checkAdmission requireOrphan admission (admissionOf d.anchor d.info d.hit) = .ok ())
    (hkernel : s.kernel = ∅)
    (hbefore : (vgStateDigest env s).2 = .ok d.before) (hbody : body d.before = d.before) :
    ∃ crash ∈ (snapshotDeleteLocked env volname (some snap) requireOrphan
      admission s).1.issued.drop s.issued.length, crash.store = d.opened s.store := by
  have hdigest : vgStateDigest env s = (s, .ok d.before) :=
    Prod.ext (silent_vgStateDigest env s) hbefore
  obtain ⟨-, intent, hread, hi⟩ := intent_written h.noIntent h.written
  have hsame : sameIntent intent d.intent = true := by
    have hplain : ∀ f ∈ [Field.tx, .state, .op, .object, .before],
        body (text d.intent f) = text d.intent f := by
      intro f hf
      simp only [List.mem_cons, List.not_mem_nil, or_false] at hf
      rcases hf with rfl | rfl | rfl | rfl | rfl
      . exact body_eq_self h.tx_no_newline
      . exact (by decide : body "OPEN" = "OPEN")
      . exact (by decide : body "REMOVE_SNAPSHOT" = "REMOVE_SNAPSHOT")
      . exact Thick.body_of_plus h.isLvName_hit
      . exact hbody
    rw [sameIntent, List.all_eq_true]
    intro f hf
    rw [decide_eq_true_eq, hi.fields f hf, hplain f hf]
  have hnone : requireNoVgIntent env s = (s, .ok ()) := by
    rw [requireNoVgIntent, prog_bind_of_ok (hh.readVgIntent h.noIntent)]
    rfl
  have hset : setVgIntent env d.intent s =
      (s.after env.storage.vgname (.changeVgTags [] d.written), .ok ()) := by
    have hunchanged : decide (d.before ≠ text d.intent .before) = false :=
      decide_eq_false (not_not.mpr rfl)
    rw [setVgIntent, prog_bind_of_ok hnone, prog_bind_of_ok hdigest, refuse_bind hunchanged,
      lift_bind h.written]
    apply hh.runProven
    . exact (silent_readVgIntent env).bind fun _ => silent_refuse _ _
    . rw [prog_bind_of_ok (hh.readVgIntent hread)]
      exact refuse_eq_ok.mpr ⟨rfl, by simp [hsame]⟩
  have htx : newTransactionId env s = (s, .ok d.tx) := by
    rw [newTransactionId, read_bind, ← h.tx, refuse_bind (by simp [h.hex])]
    rfl
  have horphan : whenever requireOrphan (ThickVolume.ask env .references) s = (s, .ok ()) := by
    cases requireOrphan with
    | false => rfl
    | true => exact hh.ask _ _
  have hinfo : s.store.lvs.lookup d.anchor.name = some d.info := h.info
  have hrun : snapshotDeleteLocked env volname (some snap) requireOrphan admission s =
      (attempt (rebaseAndRemove env d.anchor.name d.anchor.state d.rebased d.hit.name) >>=
        finishSnapshotDelete env volname snap d.anchor.state d.intent)
          (s.after env.storage.vgname (.changeVgTags [] d.written)) := by
    rw [snapshotDeleteLocked, lift_bind hsnap, lift_bind h.config, prog_bind_of_ok hnone,
      prog_bind_of_ok (hh.listVolumes s), lift_bind h.anchor,
      lift_bind (found_eq_ok.mpr hinfo), prog_bind_of_ok horphan, lift_bind h.hit,
      lift_bind hadmission, refuse_bind (by simpa using h.notHead),
      prog_bind_of_ok (hh.verifySnapshotReadonly h.find_hit h.readonly),
      prog_bind_of_ok (hh.verifyAutoactivationDisabled h.find_hit h.disabled),
      prog_bind_of_ok (hh.refuseOpen (by simp [hkernel]) _), prog_bind_of_ok htx,
      prog_bind_of_ok hdigest]
    rw [lift_bind h.rebase]
    exact prog_bind_of_ok hset
  have hextends := (keeps_afterIntent (s.after env.storage.vgname
    (.changeVgTags [] d.written)).issued env volname snap d.anchor.name d.hit.name d.anchor.state
      d.rebased d.intent).final (List.prefix_refl _)
  obtain ⟨rest, hrest⟩ := hextends
  refine ⟨⟨.changeVgTags [] d.written, d.opened s.store⟩, ?_, rfl⟩
  rw [hrun, ← hrest, Session.after, List.append_assoc, List.drop_left]
  exact List.mem_append_left _ (List.mem_singleton.mpr rfl)

/-! ## A volume with one snapshot -/

section
variable {t : TagFamily} {h : Record} {written e : List String}

theorem encode_of_values (hok : (t.values h).toOption.any (fun p => p.1.all fun f =>
    (text p.2 f).toList.all fun c => c.toNat < 256) = true) : ∃ written, t.encode h = .ok written := by
  cases hval : t.values h with
  | error message => simp [hval, Except.toOption] at hok
  | ok p =>
    obtain ⟨fields, n⟩ := p
    simp only [hval, Except.toOption, Option.any_some, List.all_eq_true, decide_eq_true_eq] at hok
    obtain ⟨tags, htags⟩ := Thick.signedTags_isOk (S := t.family) hok
    have hdef : t.encode h = (t.values h >>= fun p => t.family.signedTags .sha256 p.1 p.2) := by
      cases t <;> rfl
    exact ⟨tags, by rw [hdef, hval]; exact htags⟩

/-- Values that are spelled as they are written are read back as they are. -/
theorem decode_spelled (hok : t.encode h = .ok written) (hread : Thick.Readable t h)
    (hextra : t.family.own e = [])
    (hspelled : ∀ f ∈ t.fieldsOf h, h f = some ((t.treatment f).apply (t.given h f))) :
    ∃ r, t.decode (.array (written ++ e)) = .ok (some r) ∧ t.encode r = .ok written ∧
      ∀ f ∈ t.fieldsOf h, r f = h f := by
  have hown : (t.family.own (TagInput.array (written ++ e)).tags).Perm written := by
    change (t.family.own (written ++ e)).Perm written
    rw [own_append, hextra, List.append_nil, Thick.own_written hok hread]
  obtain ⟨fields, n, digest, hval, -, hdec, hagain⟩ := Thick.decode_written hok hread hown
  refine ⟨_, hdec, hagain, fun f hf => ?_⟩
  rw [← Thick.fieldsOf_values hval] at hf
  rw [Thick.signedRecord, if_pos hf, Thick.text_normal hval hf]
  exact (hspelled f (Thick.fieldsOf_values hval ▸ hf)).symm

end

def sampleHead : String := "sltg-g-f1cfb400fb61dfea0445f0e0-00000001"

def sampleState : Record :=
  hashOf [(.v, "5"), (.sid, "thick"), (.vol, "vm-100-disk-0"), (.phase, "MATERIALIZED"),
    (.tx, "00000000000000000000000000000001"), (.op, "ALLOC"), (.snapshot, "none"),
    (.source, sampleHead), (.old, sampleHead), (.new, sampleHead), (.head, sampleHead),
    (.generation, "1"), (.region, "128")]

def sampleHeadRecord : Record := Thick.put (headRecord "thick" "vm-100-disk-0" sampleState) .v "1"

/-- Generation tags are always written in version 1. -/
theorem generationTags_version (h : Record) :
    generationTags (Thick.put h .v "1") = generationTags h := by
  simp [generationTags, Thick.generationValues, Thick.put, text, Function.update, forEach]

def sampleSnapshotRecord : Record :=
  hashOf [(.v, "1"), (.sid, "thick"), (.vol, "vm-100-disk-0"), (.role, "snapshot"),
    (.generation, "0"), (.snapshot, "before")]

def tagsOf (t : TagFamily) (h : Record) : List String := (t.encode h).toOption.getD []

theorem tagsOf_eq {t : TagFamily} {h : Record} {written : List String}
    (hok : t.encode h = .ok written) : tagsOf t h = written := by
  rw [tagsOf, hok]
  rfl

def sampleAnchorName : String := "sltg-a-f1cfb400fb61dfea0445f0e0"

def sampleSnapshotName : String := "sltg-g-f1cfb400fb61dfea0445f0e0-00000000"

def sampleAnchorLv (extra : List String) : Lv :=
  ⟨"anchor-uuid", 4194304, false, "0", tagsOf .anchor sampleState ++ extra⟩

def sampleHeadLv : Lv := ⟨"head-uuid", 4194304, false, "0", tagsOf .generation sampleHeadRecord⟩

def sampleSnapshotLv : Lv :=
  ⟨"snapshot-uuid", 4194304, true, "0", tagsOf .generation sampleSnapshotRecord⟩

/-- One volume with one snapshot; `extra` are tags on its anchor beyond the written ones. -/
def sampleStore (extra : List String) : Store where
  uuid := "Vg-1"
  lvs := ⟨[⟨sampleAnchorName, sampleAnchorLv extra⟩, ⟨sampleSnapshotName, sampleSnapshotLv⟩,
    ⟨sampleHead, sampleHeadLv⟩],
    (by decide : [sampleAnchorName, sampleSnapshotName, sampleHead].Nodup)⟩
  vgTags := []

def sampleSession (extra : List String) : Session := ⟨sampleStore extra, ∅, []⟩

def sampleEnv : Env where
  storage := ⟨"thick", "vg0", true, some "Vg-1", some "Pv-1", some "3600", some "10", none⟩
  check := fun _ _ => .ok ()
  outcome := fun _ => ⟨true, .ok ()⟩
  randomUuid := fun _ => "01234567-89ab-cdef-0123-456789abcdef"
  vgState := fun _ => "Vg-1|7|100|200"

theorem sampleEnv_healthy : Healthy sampleEnv := ⟨fun _ _ => rfl, fun _ => rfl⟩

theorem find_sample (extra : List String) (lv : String) : (sampleStore extra).find lv =
    if lv = sampleAnchorName then some (sampleAnchorLv extra) else
      if lv = sampleSnapshotName then some sampleSnapshotLv else
        if lv = sampleHead then some sampleHeadLv else none := by
  rw [Store.find, sampleStore, AList.lookup]
  split_ifs with h1 h2 h3
  . rw [h1, List.dlookup_cons_eq]
  . rw [List.dlookup_cons_ne _ _ h1, h2, List.dlookup_cons_eq]
  . rw [List.dlookup_cons_ne _ _ h1, List.dlookup_cons_ne _ _ h2, h3, List.dlookup_cons_eq]
  . rw [List.dlookup_cons_ne _ _ h1, List.dlookup_cons_ne _ _ h2, List.dlookup_cons_ne _ _ h3,
      List.dlookup_nil]

instance sample_values : Fact ((TagFamily.anchor.values sampleState).toOption.any (fun p =>
    p.1.all fun f => (text p.2 f).toList.all fun c => c.toNat < 256) = true) :=
  ⟨by decide +kernel⟩

theorem sample_anchor {extra : List String} (hextra : Thick.anchorFamily.own extra = []) :
    ∃ a, thickAnchor sampleEnv.storage "vm-100-disk-0" (sampleStore extra).lvs = .ok a ∧
      a.name = sampleAnchorName ∧ anchorTags a.state = .ok (tagsOf .anchor sampleState) ∧
      ∀ f ∈ TagFamily.anchor.fieldsOf sampleState, a.state f = sampleState f := by
  obtain ⟨written, hw⟩ := encode_of_values (t := .anchor) (h := sampleState) sample_values.out
  obtain ⟨head, hh⟩ := encode_of_values (t := .generation) (h := sampleHeadRecord)
    (by decide +kernel)
  obtain ⟨r, hr, hagain, hfields⟩ := decode_spelled hw
    (by unfold Thick.Readable; decide +kernel) hextra (by decide +kernel)
  obtain ⟨o, ho, -⟩ := decode_spelled (e := []) hh
    (by unfold Thick.Readable; decide +kernel) rfl (by decide +kernel)
  rw [List.append_nil] at ho
  replace ho := Thick.map_some_eq_ok.mp ho
  have hrecord : headRecord "thick" "vm-100-disk-0" r =
      headRecord "thick" "vm-100-disk-0" sampleState := by
    rw [headRecord, hfields .generation (by decide +kernel), headRecord]
  have hwritten : generationTags (headRecord "thick" "vm-100-disk-0" r) = .ok head := by
    rw [hrecord, ← generationTags_version]
    exact hh
  have hname : anchorName "vg-1" "vm-100-disk-0" = .ok sampleAnchorName := by decide +kernel
  have hvalue (f : Field) (hf : f ∈ TagFamily.anchor.fieldsOf sampleState) :
      text r f = text sampleState f := by
    rw [text, hfields f hf, text]
  have hanchor := find_sample extra sampleAnchorName
  have hhead := find_sample extra sampleHead
  rw [if_pos rfl] at hanchor
  rw [if_neg (by decide), if_neg (by decide), if_pos rfl] at hhead
  have hversion : versionNumber r ≠ 6 := by
    rw [versionNumber, hfields .v (by decide +kernel)]
    decide +kernel
  have hobjects : validateGenerationTags sampleHeadLv.tags
      (headRecord "thick" "vm-100-disk-0" r) = .ok () := by
    rw [validateGenerationTags, sampleHeadLv, tagsOf_eq hh, ho, hwritten]
    simp only [bind, Except.bind, ho, sameProof]
    exact forEach_eq_ok.mpr fun f _ => by simp [dieIf]
  have hread : AnchorRead sampleEnv.storage "vm-100-disk-0" (sampleStore extra).lvs
      ⟨r, sampleHeadLv, sampleAnchorName⟩ (sampleAnchorLv extra) :=
    { named := ⟨"vg-1", by decide +kernel, hname⟩
      present := hanchor
      decoded := by
        rw [sampleAnchorLv, tagsOf_eq hw]
        exact Thick.map_some_eq_ok.mp hr
      sid := hvalue .sid (by decide +kernel)
      vol := hvalue .vol (by decide +kernel)
      head := (congrArg _ (hvalue .head (by decide +kernel))).trans hhead
      objects := by rw [if_neg hversion]; exact hobjects }
  refine ⟨_, thickAnchor_eq_ok.mpr ⟨⟨_, hread⟩, hvalue .phase (by decide +kernel)⟩, rfl, ?_, hfields⟩
  rw [tagsOf_eq hw]
  exact hagain

theorem sample_hit (extra : List String) :
    ∃ hit, findSnapshot sampleEnv.storage "vm-100-disk-0" "before" (sampleStore extra).lvs =
      .ok hit ∧ hit.name = sampleSnapshotName ∧ hit.info = sampleSnapshotLv := by
  obtain ⟨head, hh⟩ := encode_of_values (t := .generation) (h := sampleHeadRecord)
    (by decide +kernel)
  obtain ⟨written, hw⟩ := encode_of_values (t := .generation) (h := sampleSnapshotRecord)
    (by decide +kernel)
  obtain ⟨o, ho, -, hofields⟩ := decode_spelled (e := []) hh
    (by unfold Thick.Readable; decide +kernel) rfl (by decide +kernel)
  obtain ⟨r, hr, -, hfields⟩ := decode_spelled (e := []) hw
    (by unfold Thick.Readable; decide +kernel) rfl (by decide +kernel)
  rw [List.append_nil] at ho hr
  replace ho := Thick.map_some_eq_ok.mp ho
  replace hr := Thick.map_some_eq_ok.mp hr
  have hvalue (f : Field) (hf : f ∈ TagFamily.generation.fieldsOf sampleSnapshotRecord) :
      text r f = text sampleSnapshotRecord f := by
    rw [text, hfields f hf, text]
  have hkey : objectKey "vg-1" "vm-100-disk-0" = .ok "f1cfb400fb61dfea0445f0e0" := by
    decide +kernel
  have hkeys : (sampleStore extra).lvs.keys = [sampleAnchorName, sampleSnapshotName, sampleHead] :=
    rfl
  have hnames : generationsOf "f1cfb400fb61dfea0445f0e0" (sampleStore extra).lvs =
      [sampleSnapshotName, sampleHead] := by
    rw [generationsOf, hkeys]
    decide +kernel
  have hsnapshot := find_sample extra sampleSnapshotName
  have hhead := find_sample extra sampleHead
  rw [if_neg (by decide), if_pos rfl] at hsnapshot
  rw [if_neg (by decide), if_neg (by decide), if_pos rfl] at hhead
  have hhit : snapshotOf? sampleEnv.storage "vm-100-disk-0" "before" "f1cfb400fb61dfea0445f0e0"
      (sampleStore extra).lvs sampleSnapshotName = some ⟨sampleSnapshotName, 0, sampleSnapshotLv⟩ := by
    refine snapshotOf?_eq_some.mpr ⟨rfl, "00000000", r, by decide +kernel, hsnapshot, ?_, ?_⟩
    . rw [sampleSnapshotLv, tagsOf_eq hw]
      exact hr
    . refine ⟨hvalue .sid (by decide +kernel), hvalue .vol (by decide +kernel),
        hvalue .role (by decide +kernel), ?_, hvalue .snapshot (by decide +kernel), by decide +kernel⟩
      rw [numberOf, hvalue .generation (by decide +kernel)]
      decide +kernel
  have hnone : snapshotOf? sampleEnv.storage "vm-100-disk-0" "before" "f1cfb400fb61dfea0445f0e0"
      (sampleStore extra).lvs sampleHead = none := by
    refine Option.eq_none_iff_forall_ne_some.mpr fun hit hhit => ?_
    obtain ⟨hname, digits, owned, -, hpresent, hdecoded, -, -, hrole, -⟩ := snapshotOf?_eq_some.mp hhit
    replace hpresent : (sampleStore extra).find sampleHead = some hit.info := hname ▸ hpresent
    rw [hhead] at hpresent
    rw [← Option.some.inj hpresent, sampleHeadLv, tagsOf_eq hh, ho] at hdecoded
    rw [← Except.ok.inj hdecoded, text, hofields .role (by decide +kernel)] at hrole
    revert hrole
    decide
  refine ⟨⟨sampleSnapshotName, 0, sampleSnapshotLv⟩, ?_, rfl, rfl⟩
  have hsnap : snapshotName (some "before") = .ok "before" := by decide +kernel
  have hspace : thickNamespace sampleEnv.storage = .ok "vg-1" := by decide +kernel
  refine findSnapshot_of_hits hsnap hspace hkey ?_
  rw [hnames, List.filterMap_cons_some hhit, List.filterMap_cons_none hnone, List.filterMap_nil]

/-- What the delete of the sample's snapshot decides, whatever else is on the anchor. -/
theorem sample_admitted {extra : List String} (hextra : Thick.anchorFamily.own extra = []) :
    ∃ d : Deletion, d.Admitted sampleEnv "vm-100-disk-0" "before" (sampleSession extra) ∧
      d.info = sampleAnchorLv extra ∧ d.delete = tagsOf .anchor sampleState ∧
      (vgStateDigest sampleEnv (sampleSession extra)).2 = .ok d.before ∧ body d.before = d.before := by
  obtain ⟨a, ha, hname, htags, hfields⟩ := sample_anchor hextra
  obtain ⟨hit, hhit, hhitName, hhitLv⟩ := sample_hit extra
  have hvalue (f : Field) (hf : f ∈ TagFamily.anchor.fieldsOf sampleState) :
      text a.state f = text sampleState f := by
    rw [text, hfields f hf, text]
  have hv : Thick.versionOf a.state = "5" := by
    rw [Thick.versionOf, hfields .v (by decide +kernel)]
    decide
  have hrebased : Thick.Accepted (Thick.rebased a.state "0123456789abcdef0123456789abcdef") :=
    accepted_rebased ⟨_, htags⟩ hv (hvalue .phase (by decide +kernel)) (by decide +kernel)
  obtain ⟨add, hadd⟩ := hrebased
  have hrebase : materializedRebaseState a.state (some "0123456789abcdef0123456789abcdef") =
      .ok (Thick.rebased a.state "0123456789abcdef0123456789abcdef") := by
    refine Thick.materializedRebaseState_eq_ok.mpr ⟨⟨_, htags⟩, hv,
      hvalue .phase (by decide +kernel), by decide +kernel, ?_, ⟨add, hadd⟩, rfl⟩
    rw [hvalue .tx (by decide +kernel)]
    decide +kernel
  have hdigest : (vgStateDigest sampleEnv (sampleSession extra)).2 =
      .ok "ea34aea617ba2094b97dc59de03e584d" := by
    have hhex : Sha256.sha256Hex (sampleEnv.vgState (sampleSession extra).issued.length) =
        .ok "ea34aea617ba2094b97dc59de03e584d51479fb337c8fff72c42e5eada5f38cf" := by
      change Sha256.sha256Hex "Vg-1|7|100|200" = _
      decide +kernel
    rw [vgStateDigest, prog_bind_of_ok (sampleEnv_healthy.ask _ _), read_bind, lift_bind hhex]
    rfl
  obtain ⟨written, hw⟩ := encode_of_values (t := .vgIntent)
    (h := intentOf "0123456789abcdef0123456789abcdef" "REMOVE_SNAPSHOT" sampleSnapshotName
      "ea34aea617ba2094b97dc59de03e584d") (by decide +kernel)
  have htx : "0123456789abcdef0123456789abcdef" =
      transactionText "01234567-89ab-cdef-0123-456789abcdef" := by decide +kernel
  have hhex : exactly 32 isLowerHex "0123456789abcdef0123456789abcdef" = true := by decide +kernel
  have hbody : body "ea34aea617ba2094b97dc59de03e584d" = "ea34aea617ba2094b97dc59de03e584d" := by
    decide +kernel
  refine ⟨⟨a, sampleAnchorLv extra, hit, "0123456789abcdef0123456789abcdef",
    "ea34aea617ba2094b97dc59de03e584d",
    Thick.rebased a.state "0123456789abcdef0123456789abcdef", tagsOf .anchor sampleState, add,
    written⟩, ?_, rfl, by dsimp only, hdigest, hbody⟩
  exact {
    config := by decide +kernel
    noIntent := rfl
    anchor := ha
    info := by
      rw [hname]
      exact (find_sample extra sampleAnchorName).trans (if_pos rfl)
    hit := hhit
    notHead := by
      rw [hhitName, hvalue .head (by decide +kernel)]
      decide
    readonly := by rw [hhitLv]; rfl
    disabled := by
      rw [hhitLv]
      exact (by decide +kernel : trim (lc "0") = "0")
    tx := htx
    hex := hhex
    rebase := hrebase
    delete := by
      dsimp only
      exact htags
    add := hadd
    written := by
      rw [Deletion.intent]
      dsimp only
      rw [hhitName]
      exact hw }

theorem sample_opens {extra : List String} (hextra : Thick.anchorFamily.own extra = []) :
    ∃ d : Deletion, d.Admitted sampleEnv "vm-100-disk-0" "before" (sampleSession extra) ∧
      d.info = sampleAnchorLv extra ∧ d.delete = tagsOf .anchor sampleState ∧
      ∃ crash ∈ (snapshotDeleteLocked sampleEnv "vm-100-disk-0" (some "before") true none
        (sampleSession extra)).1.issued.drop (sampleSession extra).issued.length,
        crash.store = d.opened (sampleStore extra) := by
  obtain ⟨d, hd, hinfo, hdelete, hdigest, hbody⟩ := sample_admitted hextra
  have hadmission : checkAdmission true none (admissionOf d.anchor d.info d.hit) = .ok () := by
    simp [checkAdmission, found, dieIf, bind, Except.bind]
  exact ⟨d, hd, hinfo, hdelete, sampleEnv_healthy.opens hd (by decide +kernel) hadmission rfl
    hdigest hbody⟩

theorem not_anchor_of_generation {h : Record} {written : List String}
    (hok : generationTags h = .ok written) (hread : Thick.Readable .generation h) (state : Record) :
    decodeAnchorTags (.array written) ≠ .ok state := by
  intro hdecode
  obtain ⟨hcollect, fields, n, hs⟩ := Thick.decodeAnchorTags_eq_ok.mp hdecode
  have hown : TagFamily.generation.family.own written = written :=
    Thick.own_written (t := .generation) hok hread
  obtain ⟨v, hv⟩ := Option.isSome_iff_exists.mp ((hs.complete .sha256).mpr (Or.inr rfl))
  have hmem := ((collect_sound Thick.anchorFamily hcollect).2 _).mpr ⟨.sha256, v, rfl, hv⟩
  obtain ⟨htrim, hleads⟩ := List.mem_filter.mp hmem
  have hwritten : Thick.anchorFamily.tag .sha256 v ∈ written := by
    have := trim_written (t := .generation) hown
    rwa [show (TagInput.array written).tags = written from rfl, this] at htrim
  rw [← hown] at hwritten
  have hnot := anchor_not_generation hleads
  rw [show Thick.generationFamily.leads _ = true from (List.mem_filter.mp hwritten).2] at hnot
  cases hnot

theorem sample_fresh {extra : List String} (hextra : Thick.anchorFamily.own extra = []) :
    FreshTx (sampleStore extra)
      (transactionText (sampleEnv.randomUuid (sampleSession extra).issued.length)) := by
  obtain ⟨a, ha, hname, -, hfields⟩ := sample_anchor hextra
  obtain ⟨⟨info, hread⟩, -⟩ := thickAnchor_eq_ok.mp ha
  obtain ⟨head, hh⟩ := encode_of_values (t := .generation) (h := sampleHeadRecord)
    (by decide +kernel)
  obtain ⟨written, hw⟩ := encode_of_values (t := .generation) (h := sampleSnapshotRecord)
    (by decide +kernel)
  intro lv info' state hfind hdecoded
  rw [find_sample] at hfind
  split_ifs at hfind with h1 h2 h3
  . have hanchor : (sampleStore extra).find a.name = some info := hread.present
    rw [find_sample, if_pos hname, hfind] at hanchor
    have hstate := hread.decoded
    rw [← Option.some.inj hanchor, hdecoded] at hstate
    rw [Except.ok.inj hstate, text, hfields .tx (by decide +kernel)]
    change "00000000000000000000000000000001" ≠
      transactionText "01234567-89ab-cdef-0123-456789abcdef"
    decide +kernel
  . rw [← Option.some.inj hfind, sampleSnapshotLv, tagsOf_eq hw] at hdecoded
    exact (not_anchor_of_generation hw (by unfold Thick.Readable; decide +kernel) _ hdecoded).elim
  . rw [← Option.some.inj hfind, sampleHeadLv, tagsOf_eq hh] at hdecoded
    exact (not_anchor_of_generation hh (by unfold Thick.Readable; decide +kernel) _ hdecoded).elim

/-- A delete stopped right after its intent: the recovery of its volume completes it, and that of
another volume is refused. -/
theorem sample_recovered : ∃ (crash : Issued) (d : Deletion),
    crash ∈ (snapshotDeleteLocked sampleEnv "vm-100-disk-0" (some "before") true none
      (sampleSession [])).1.issued.drop (sampleSession []).issued.length ∧
    (∃ t, recoverSnapshotDelete sampleEnv "vm-100-disk-0" ⟨crash.store, ∅, []⟩ =
      (t, .ok "SNAPSHOT_DELETE_RECOVERED") ∧ d.Completed (sampleStore []) t.store) ∧
    ∃ message, recoverSnapshotDelete sampleEnv "vm-200-disk-0" ⟨crash.store, ∅, []⟩ =
      (⟨crash.store, ∅, []⟩, .error message) := by
  obtain ⟨d, hd, hinfo, hdelete, crash, hcrash, hstore⟩ := sample_opens (show Thick.anchorFamily.own [] = [] from rfl)
  obtain ⟨intent, hi⟩ := hd.intentAt (X := sampleStore []) rfl
  have hexact : ∀ a info, AnchorRead sampleEnv.storage "vm-100-disk-0" (sampleStore []).lvs a info →
      ExactTags info a.state := by
    intro a info hread
    obtain ⟨a', ha', hname, htags, -⟩ := sample_anchor (show Thick.anchorFamily.own [] = [] from rfl)
    obtain ⟨⟨info', hread'⟩, -⟩ := thickAnchor_eq_ok.mp ha'
    obtain rfl : a = a' := Except.ok.inj ((readAnchor_eq_ok.mpr ⟨info, hread⟩).symm.trans
      (readAnchor_eq_ok.mpr ⟨info', hread'⟩))
    have hfind : (sampleStore []).find a.name = some info := hread.present
    rw [find_sample, if_pos hname] at hfind
    rw [← Option.some.inj hfind, sampleAnchorLv, List.append_nil]
    refine ⟨tagsOf .anchor sampleState, htags, ?_⟩
    dsimp only
    exact List.Perm.refl _
  obtain ⟨d', hd', hright, hother⟩ := @snapshot_delete_recovery sampleEnv _ _ _ _ _ hexact
    (sample_fresh rfl) _ hcrash _ (hstore ▸ hi.read)
  obtain ⟨t, ht, hdone, -⟩ := hright sampleEnv ⟨crash.store, ∅, []⟩ sampleEnv_healthy rfl rfl
    (fun mapping hmapping => by simp at hmapping)
  exact ⟨crash, d', hcrash, ⟨t, ht, hdone⟩, hother sampleEnv "vm-200-disk-0" ⟨crash.store, ∅, []⟩
    (by decide) rfl rfl⟩

/-- With one foreign tag on the anchor, the same delete stopped at the same point cannot be
recovered for its own volume. -/
theorem foreign_tag_not_recovered : ¬ ∀ (env : Env) (volname : String) (snap : Option String)
    (requireOrphan : Bool) (admission : Option SnapshotAdmission) (s : Session) (crash : Issued)
    (intent : Record), FreshTx s.store (transactionText (env.randomUuid s.issued.length)) →
      crash ∈ (snapshotDeleteLocked env volname snap requireOrphan
        admission s).1.issued.drop s.issued.length →
      decodeVgIntentTags (.array crash.store.vgTags) = .ok (some intent) →
      ∀ env' r, Healthy env' → env'.storage = env.storage → r.store = crash.store → r.kernel = ∅ →
        ∃ t, recoverSnapshotDelete env' volname r = (t, .ok "SNAPSHOT_DELETE_RECOVERED") := by
  intro hall
  have hextra : Thick.anchorFamily.own ["backup"] = [] := by decide +kernel
  obtain ⟨d, hd, hinfo, hdelete, crash, hcrash, hstore⟩ := sample_opens hextra
  obtain ⟨intent, hi⟩ := hd.intentAt (X := sampleStore ["backup"]) rfl
  obtain ⟨t, ht⟩ := hall sampleEnv _ _ _ _ _ crash intent (sample_fresh hextra) hcrash
    (hstore ▸ hi.read) sampleEnv ⟨crash.store, ∅, []⟩ sampleEnv_healthy rfl rfl rfl
  have hinexact : sameTags (d.info.tags.map trim) d.delete = false := by
    rw [hinfo, hdelete, sampleAnchorLv]
    simp [sameTags]
  have hrefused : ∃ message, recoverSnapshotDelete sampleEnv "vm-100-disk-0" ⟨crash.store, ∅, []⟩ =
      (⟨crash.store, ∅, []⟩, .error message) := recover_inexact hd hinexact rfl hstore
  obtain ⟨message, hdies⟩ := hrefused
  rw [ht] at hdies
  cases hdies

end SharedLvmThin.ThickVolume
