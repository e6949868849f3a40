import SharedLvmThin.ThickSnapshotSteps

/-!
# Runs of a snapshot delete

What a delete has decided before its first command, the states it can leave behind, and the
one state it leaves behind when it returns.
-/

namespace SharedLvmThin.ThickVolume
open Perl TagCodec Effects
open Thick (Field Record TagFamily TagInput hashOf anchorTags decodeAnchorTags
  decodeGenerationTags vgIntentTags decodeVgIntentTags materializedRebaseState numberOf)

/-! ## Decisions and stages -/

/-- What a snapshot delete has decided before its first command. -/
structure Deletion where
  anchor : Anchor
  info : Lv
  hit : Snapshot
  tx : String
  before : String
  rebased : Record
  delete : List String
  add : List String
  written : List String

namespace Deletion
variable (d : Deletion)

def intent : Record := intentOf d.tx "REMOVE_SNAPSHOT" d.hit.name d.before

@[simp] theorem object_intent : text d.intent .object = d.hit.name := rfl

@[simp] theorem tx_intent : text d.intent .tx = d.tx := rfl

def opened (S : Store) : Store := { S with vgTags := retag [] d.written S.vgTags }

def moved (S : Store) : Store :=
  S.setTags d.anchor.name (d.delete.filter (· ∉ d.add)) (d.add.filter (· ∉ d.delete))

def removed (S : Store) : Store := { S with lvs := S.lvs.erase d.hit.name }

/-- The uninterrupted delete. -/
def final (S : Store) : Store := d.removed (d.moved S)

structure Admitted (env : Env) (volname snap : String) (s : Session) : Prop where
  config : requireThickIdentityConfig env.storage = .ok ()
  noIntent : decodeVgIntentTags (.array s.store.vgTags) = .ok none
  anchor : thickAnchor env.storage volname s.store.lvs = .ok d.anchor
  info : s.store.find d.anchor.name = some d.info
  hit : findSnapshot env.storage volname snap s.store.lvs = .ok d.hit
  notHead : d.hit.name ≠ text d.anchor.state .head
  readonly : d.hit.info.readonly = true
  disabled : d.hit.info.disabled
  tx : d.tx = transactionText (env.randomUuid s.issued.length)
  hex : exactly 32 isLowerHex d.tx = true
  rebase : materializedRebaseState d.anchor.state (some d.tx) = .ok d.rebased
  delete : anchorTags d.anchor.state = .ok d.delete
  add : anchorTags d.rebased = .ok d.add
  written : vgIntentTags d.intent = .ok d.written

/-- The states between the first command of a delete and its last. -/
inductive Stage (S : Store) : Store → Prop
  | before : Stage S S
  | opened : Stage S (d.opened S)
  | moved : Stage S (d.opened (d.moved S))
  | removed : Stage S (d.opened (d.final S))
  | cleared : Stage S (d.final S)

end Deletion

/-! ## Updates of the volume group -/

theorem setTags_of_find {S : Store} {lv : String} {info : Lv} (h : S.find lv = some info)
    (delete add : List String) : S.setTags lv delete add =
      { S with lvs := S.lvs.insert lv { info with tags := retag delete add info.tags } } := by
  rw [Store.setTags, h]

theorem setTags_of_missing {S : Store} {lv : String} (h : S.find lv = none)
    (delete add : List String) : S.setTags lv delete add = S := by
  rw [Store.setTags, h]

@[simp] theorem setTags_vgTags (S : Store) (lv : String) (delete add : List String) :
    (S.setTags lv delete add).vgTags = S.vgTags := by
  unfold Store.setTags
  split <;> rfl

@[simp] theorem setTags_uuid (S : Store) (lv : String) (delete add : List String) :
    (S.setTags lv delete add).uuid = S.uuid := by
  unfold Store.setTags
  split <;> rfl

theorem find_setTags (S : Store) (lv other : String) (delete add : List String) :
    (S.setTags lv delete add).find other = if other = lv then
      (S.find lv).map fun info => { info with tags := retag delete add info.tags }
    else S.find other := by
  cases h : S.find lv with
  | none =>
    rw [setTags_of_missing h]
    split_ifs with heq
    . rw [heq, h]
      rfl
    . rfl
  | some info =>
    rw [setTags_of_find h, Store.find, Store.find]
    split_ifs with heq
    . rw [heq, AList.lookup_insert]
      rfl
    . exact AList.lookup_insert_ne heq

theorem find_erase (S : Store) (lv other : String) :
    Store.find { S with lvs := S.lvs.erase lv } other = if other = lv then none else S.find other := by
  simp only [Store.find]
  split_ifs with heq
  . rw [heq, AList.lookup_erase]
  . exact AList.lookup_erase_ne heq

theorem setTags_with_vgTags (S : Store) (lv : String) (delete add tags : List String) :
    Store.setTags { S with vgTags := tags } lv delete add =
      { S.setTags lv delete add with vgTags := tags } := by
  have hfind : Store.find { S with vgTags := tags } lv = S.find lv := rfl
  unfold Store.setTags
  rw [hfind]
  split <;> rfl

namespace Deletion
variable {d : Deletion} {S : Store}

theorem moved_opened : (d.opened S).setTags d.anchor.name (d.delete.filter (· ∉ d.add))
    (d.add.filter (· ∉ d.delete)) = d.opened (d.moved S) := by
  rw [opened, setTags_with_vgTags, opened, moved, setTags_vgTags]

theorem find_moved_hit (h : (S.find d.hit.name).isSome) : (d.moved S).find d.hit.name ≠ none := by
  rw [moved, find_setTags]
  split_ifs with heq
  . rw [heq] at h
    intro hnone
    rw [Option.map_eq_none_iff.mp hnone] at h
    cases h
  . intro hnone
    rw [hnone] at h
    cases h

/-- The rebased transaction is a new one, so the anchor's tags change. -/
theorem Admitted.not_perm {env : Env} {volname snap : String} {s : Session}
    (h : d.Admitted env volname snap s) : ¬ d.delete.Perm d.add := by
  intro hperm
  obtain ⟨-, -, -, -, hne, -, hrebased⟩ := Thick.materializedRebaseState_eq_ok.mp h.rebase
  have htx : text d.rebased .tx = d.tx := by
    rw [hrebased]
    rfl
  have hmem := hperm.mem_iff.mpr ((tx_written h.add (text d.rebased .tx)).mpr rfl)
  exact hne (htx.symm.trans ((tx_written h.delete _).mp hmem))

end Deletion

/-! ## The run -/

section
variable {env : Env} {volname snap : String} {s t : Session} {d : Deletion}

-- The outcome of a long program is taken apart by its rules, never by running it.
attribute [local irreducible] Effects.Outcome

theorem outcome_rebaseAndRemove (h : d.Admitted env volname snap s)
    (hwithin : Within (d.Stage s.store) s t) (hstore : t.store = d.opened s.store) :
    Outcome (rebaseAndRemove env d.anchor.name d.anchor.state d.rebased d.hit.name)
      (fun _ u => Within (d.Stage s.store) s u ∧
        (u.store = d.opened (d.moved s.store) ∨ u.store = d.opened (d.final s.store)))
      (Within (d.Stage s.store) s) t := by
  have hfind : t.store.find d.anchor.name = some d.info := by
    rw [hstore]
    exact h.info
  apply outcome_bind
  apply outcome_bind
  refine (silent_lift _).outcome hwithin fun delete hdelete => ?_
  obtain rfl := Except.ok.inj (h.delete.symm.trans (lift_eq_ok.mp hdelete).2)
  apply outcome_bind
  refine (silent_lift _).outcome hwithin fun add hadd => ?_
  obtain rfl := Except.ok.inj (h.add.symm.trans (lift_eq_ok.mp hadd).2)
  refine outcome_changeExactTags hwithin fun info hinfo _ hbefore u hu => ?_
  obtain rfl := Option.some.inj (hfind.symm.trans hinfo)
  have hustore : u.store = d.opened (d.moved s.store) ∨ u.store = d.opened s.store := by
    rcases hu.store with hu' | hu'
    . left
      rw [hu', Command.store, hstore, Deletion.moved_opened]
    . exact Or.inr (hu'.trans hstore)
  have hu' : Within (d.Stage s.store) s u := by
    refine hwithin.ran hu ?_
    rcases hustore with h' | h' <;> rw [h']
    . exact .moved
    . exact .opened
  refine ⟨hu', fun after hafter hsame => ?_⟩
  have hmoved : u.store = d.opened (d.moved s.store) := by
    refine hustore.resolve_right fun hno => h.not_perm ?_
    rw [hno] at hafter
    obtain rfl := Option.some.inj (h.info.symm.trans hafter)
    have h1 := (sameTags_iff (written_nodup (t := .anchor) h.delete)).mp hbefore
    have h2 := (sameTags_iff (written_nodup (t := .anchor) h.add)).mp hsame
    exact h1.symm.trans h2
  apply outcome_bind
  refine outcome_deactivateExactLvs hu' fun v hv => ?_
  have hvstore : v.store = d.opened (d.moved s.store) := by
    rcases hv.store with hv' | hv' <;> exact hv'.trans hmoved
  have hv' : Within (d.Stage s.store) s v := hu'.ran hv (hvstore ▸ .moved)
  refine ⟨?_, hv'⟩
  refine outcome_runCommand fun w hw => ?_
  have hwstore : w.store = d.opened (d.moved s.store) ∨ w.store = d.opened (d.final s.store) := by
    rcases hw.store with hw' | hw'
    . right
      rw [hw', Command.store, hvstore]
      rfl
    . exact Or.inl (hw'.trans hvstore)
  have hw' : Within (d.Stage s.store) s w := by
    refine hv'.ran hw ?_
    rcases hwstore with h' | h' <;> rw [h']
    . exact .moved
    . exact .removed
  exact ⟨⟨hw', hwstore⟩, hw'⟩

/-- Clearing the intent gives back the tags the volume group had before. -/
theorem Deletion.Admitted.cleared (h : d.Admitted env volname snap s) {S : Store}
    (hS : S.vgTags = s.store.vgTags) {current : Record} {tags : List String}
    (hcurrent : decodeVgIntentTags (.array (d.opened S).vgTags) = .ok (some current))
    (htags : vgIntentTags current = .ok tags) :
    (Command.changeVgTags tags []).store (d.opened S) = S := by
  obtain ⟨hback, r, hr, hread⟩ := intent_written h.noIntent h.written
  rw [← hS] at hback hr
  obtain rfl := Option.some.inj (Except.ok.inj (hr.symm.trans hcurrent))
  obtain rfl := Except.ok.inj (hread.again.symm.trans htags)
  rw [Command.store, Deletion.opened, hback]

@[simp] theorem Deletion.moved_vgTags (d : Deletion) (S : Store) :
    (d.moved S).vgTags = S.vgTags := by
  rw [Deletion.moved, setTags_vgTags]

@[simp] theorem Deletion.final_vgTags (d : Deletion) (S : Store) :
    (d.final S).vgTags = S.vgTags := d.moved_vgTags S

theorem outcome_finishSnapshotDelete (h : d.Admitted env volname snap s)
    (hwithin : Within (d.Stage s.store) s t) {result : Except String Unit}
    (hresult : result = .ok () →
      t.store = d.opened (d.moved s.store) ∨ t.store = d.opened (d.final s.store)) :
    Outcome (finishSnapshotDelete env volname snap d.anchor.state d.intent result)
      (fun _ u => Within (d.Stage s.store) s u ∧ u.store = d.final s.store)
      (Within (d.Stage s.store) s) t := by
  obtain ⟨key, digits, owned, hhit⟩ := findSnapshot_eq_ok h.hit
  apply outcome_bind
  refine ((silent_ask env _).orDie _).outcome hwithin fun _ _ => ?_
  apply outcome_bind
  refine (silent_listVolumes env).outcome hwithin fun after hafter => ?_
  obtain rfl := listVolumes_eq_ok hafter
  apply outcome_bind
  refine (silent_refuse _ _).outcome hwithin fun _ hgone => ?_
  apply outcome_bind
  refine ((silent_lift _).orDie _).outcome hwithin fun _ hok => ?_
  have hstore : t.store = d.opened (d.final s.store) := by
    refine (hresult (lift_eq_ok.mp (orDie_eq_ok.mp hok)).2).resolve_left fun hmoved => ?_
    have hnone : (d.opened (d.moved s.store)).find d.hit.name = none := by
      rw [← hmoved]
      simpa [Store.find] using (refuse_eq_ok.mp hgone).2
    refine Deletion.find_moved_hit ?_ hnone
    rw [Store.find, hhit.present]
    rfl
  apply outcome_bind
  refine (silent_lift _).outcome hwithin fun final _ => ?_
  apply outcome_bind
  refine (silent_refuse _ _).outcome hwithin fun _ _ => ?_
  apply outcome_bind
  refine (silent_refuse _ _).outcome hwithin fun _ _ => ?_
  refine outcome_clearVgIntent hwithin fun current tags hcurrent htags u hu => ?_
  have hclear : (Command.changeVgTags tags []).store t.store = d.final s.store := by
    rw [hstore] at hcurrent ⊢
    exact h.cleared (by simp) hcurrent htags
  have hu' : Within (d.Stage s.store) s u := by
    refine hwithin.ran hu ?_
    rcases hu.store with h' | h' <;> rw [h']
    . exact hclear ▸ .cleared
    . exact hstore ▸ .removed
  exact ⟨hu', fun hustore => ⟨hu', hustore.trans hclear⟩⟩

/-- Everything up to the intent only decides. -/
theorem outcome_admitDelete {snap : Option String} {requireOrphan : Bool}
    {admission : Option SnapshotAdmission} {Q : Unit → Session → Prop} {E : Session → Prop}
    (hE : E s)
    (h : ∀ d : Deletion, d.Admitted env volname (snap.getD "") s →
      ∀ t, Ran (.changeVgTags [] d.written) s t → E t ∧ (t.store = d.opened s.store →
        Outcome (attempt (rebaseAndRemove env d.anchor.name d.anchor.state d.rebased d.hit.name) >>=
          finishSnapshotDelete env volname (snap.getD "") d.anchor.state d.intent) Q E t)) :
    Outcome (snapshotDeleteLocked env volname snap requireOrphan admission) Q E s := by
  apply outcome_bind
  refine (silent_lift _).outcome hE fun name hname => ?_
  obtain rfl : name = snap.getD "" := by
    have := (lift_eq_ok.mp hname).2
    simp only [snapshotName, bind_eq_ok, dieIf_eq_ok, pure_eq_ok, exists_const] at this
    exact this.2.2.symm
  apply outcome_bind
  refine (silent_lift _).outcome hE fun _ hconfig => ?_
  apply outcome_bind
  refine (silent_requireNoVgIntent env).outcome hE fun _ hnone => ?_
  apply outcome_bind
  refine (silent_listVolumes env).outcome hE fun lvs hlvs => ?_
  obtain rfl := listVolumes_eq_ok hlvs
  apply outcome_bind
  refine (silent_lift _).outcome hE fun anchor hanchor => ?_
  apply outcome_bind
  refine (silent_lift _).outcome hE fun info hinfo => ?_
  apply outcome_bind
  refine ((silent_ask env _).whenever _).outcome hE fun _ _ => ?_
  apply outcome_bind
  refine (silent_lift _).outcome hE fun hit hhit => ?_
  apply outcome_bind
  refine (silent_lift _).outcome hE fun _ _ => ?_
  apply outcome_bind
  refine (silent_refuse _ _).outcome hE fun _ hnotHead => ?_
  apply outcome_bind
  refine (silent_verifySnapshotReadonly env _).outcome hE fun _ hreadonly => ?_
  apply outcome_bind
  refine (silent_verifyAutoactivationDisabled env _).outcome hE fun _ hdisabled => ?_
  apply outcome_bind
  refine (silent_refuseOpen env _ _).outcome hE fun _ _ => ?_
  apply outcome_bind
  refine (silent_newTransactionId env).outcome hE fun tx htx => ?_
  apply outcome_bind
  refine (silent_vgStateDigest env).outcome hE fun before _ => ?_
  apply outcome_bind
  refine (silent_lift _).outcome hE fun rebased hrebased => ?_
  replace hrebased := (lift_eq_ok.mp hrebased).2
  replace hhit := (lift_eq_ok.mp hhit).2
  obtain ⟨⟨delete, hdelete⟩, -, -, -, -, ⟨add, hadd⟩, -⟩ :=
    Thick.materializedRebaseState_eq_ok.mp hrebased
  have hpresent : s.store.find hit.name = some hit.info := by
    obtain ⟨_, _, _, hread⟩ := findSnapshot_eq_ok hhit
    exact hread.present
  obtain ⟨i, hi, hro⟩ := verifySnapshotReadonly_eq_ok hreadonly
  obtain rfl := Option.some.inj (hpresent.symm.trans hi)
  obtain ⟨j, hj, hoff⟩ := verifyAutoactivationDisabled_eq_ok hdisabled
  obtain rfl := Option.some.inj (hpresent.symm.trans hj)
  apply outcome_bind
  refine outcome_setVgIntent hE fun written hnone' hwritten => ?_
  exact h ⟨anchor, info, hit, tx, before, rebased, delete, add, written⟩
    { config := (lift_eq_ok.mp hconfig).2
      noIntent := hnone'
      anchor := (lift_eq_ok.mp hanchor).2
      info := found_eq_ok.mp (lift_eq_ok.mp hinfo).2
      hit := hhit
      notHead := by simpa using (refuse_eq_ok.mp hnotHead).2
      readonly := hro
      disabled := hoff
      tx := (newTransactionId_eq_ok htx).1
      hex := (newTransactionId_eq_ok htx).2
      rebase := hrebased
      delete := hdelete
      add := hadd
      written := hwritten }

/-- A delete that returns has decided on one snapshot and removed it; one that dies has decided
on nothing or has left the volume group at one of the stages. -/
theorem outcome_snapshotDelete (env : Env) (volname : String) (snap : Option String)
    (requireOrphan : Bool) (admission : Option SnapshotAdmission) (s : Session) :
    Outcome (snapshotDeleteLocked env volname snap requireOrphan admission)
      (fun _ t => ∃ d : Deletion, d.Admitted env volname (snap.getD "") s ∧
        Within (d.Stage s.store) s t ∧ t.store = d.final s.store)
      (fun t => t = s ∨ ∃ d : Deletion, d.Admitted env volname (snap.getD "") s ∧
        Within (d.Stage s.store) s t) s := by
  refine outcome_admitDelete (Or.inl rfl) fun d hd t ht => ?_
  have hstart : Within (d.Stage s.store) s s := Within.refl .before
  have ht' : Within (d.Stage s.store) s t := by
    refine hstart.ran ht ?_
    rcases ht.store with h' | h' <;> rw [h']
    . exact .opened
    . exact .before
  refine ⟨Or.inr ⟨d, hd, ht'⟩, fun htstore => ?_⟩
  apply outcome_bind
  apply outcome_attempt
  refine (outcome_rebaseAndRemove hd ht' htstore).weaken ?_ ?_
  . intro _ u hu
    exact (outcome_finishSnapshotDelete hd hu.1 fun _ => hu.2).weaken
      (fun _ v hv => ⟨d, hd, hv⟩) fun v hv => Or.inr ⟨d, hd, hv⟩
  . intro u hu message
    have hdied : (.error message : Except String Unit) = .ok () → u.store =
        d.opened (d.moved s.store) ∨ u.store = d.opened (d.final s.store) := fun h => by cases h
    exact (outcome_finishSnapshotDelete hd hu hdied).weaken
      (fun _ v hv => ⟨d, hd, hv⟩) fun v hv => Or.inr ⟨d, hd, hv⟩

end

end SharedLvmThin.ThickVolume
