import SharedLvmThin.BridgeAdmissionSteps
import SharedLvmThin.ThickVolumeDelete

/-! The deletes of Thick volumes and snapshots and their recoveries change no tag of a group but
those of an intent. They are mutations as the admission of a bridge takes them, so that none of
them issues a command while a bridge of another caller holds the group. -/

namespace SharedLvmThin.Bridge
open Perl TagCodec Effects ThickVolume
open Thick (Record TagFamily vgIntentTags)

/-! ## Commands -/

/-- The commands of the Thick mutations. -/
inductive ThickCommand : Command → Prop
  | setIntent (intent : Record) (tags : List String) : vgIntentTags intent = .ok tags →
      ThickCommand (.changeVgTags [] tags)
  | clearIntent (intent : Record) (tags : List String) : vgIntentTags intent = .ok tags →
      ThickCommand (.changeVgTags tags [])
  | changeTags (lv : String) (delete add : List String) : ThickCommand (.changeTags lv delete add)
  | deactivate (lvs : List String) : ThickCommand (.deactivate lvs)
  | removeMapper (mapper : String) : ThickCommand (.removeMapper mapper)
  | remove (lv : String) : ThickCommand (.remove lv)

theorem isBridgeTag_intent {intent : Record} {tags : List String}
    (hok : vgIntentTags intent = .ok tags) : ∀ tag ∈ tags, isBridgeTag tag = false := by
  intro tag hmem
  obtain ⟨fields, n, digest, -, -, rfl⟩ := (Thick.encode_eq_ok (t := .vgIntent)).mp hok
  obtain ⟨f, v, rfl⟩ : ∃ f v, tag = Thick.vgIntentFamily.tag f v := by
    rcases List.mem_append.mp hmem with hfield | hdigest
    · obtain ⟨f, -, rfl⟩ := List.mem_map.mp hfield
      exact ⟨f, _, rfl⟩
    · exact ⟨_, _, List.mem_singleton.mp hdigest⟩
  refine Bool.eq_false_iff.mpr fun hbridge => ?_
  obtain ⟨rest, hrest⟩ := isBridgeTag_iff.mp hbridge
  have hfirst := congrArg (fun t => t.toList[0]?) hrest
  simp [Family.tag, Thick.vgIntentFamily] at hfirst

theorem ThickCommand.keepsBridge {command : Command} (h : ThickCommand command) :
    KeepsBridge command := by
  cases h with
  | setIntent _ _ hok => exact keepsBridge_changeVgTags (by simp) (isBridgeTag_intent hok)
  | clearIntent _ _ hok => exact keepsBridge_changeVgTags (isBridgeTag_intent hok) (by simp)
  | changeTags lv delete add => exact keepsBridge_changeTags lv delete add
  | deactivate _ => exact fun _ => rfl
  | removeMapper _ => exact fun _ => rfl
  | remove _ => exact fun _ => rfl

/-! ## Snapshots -/

variable {env : Env}

theorem issues_setIntent (intent : Record) : Issues ThickCommand (setVgIntent env intent) :=
  issues_setVgIntent fun tags hok => .setIntent intent tags hok

theorem issues_clearIntent (intent : Record) : Issues ThickCommand (clearVgIntent env intent) :=
  issues_clearVgIntent fun current tags hok => .clearIntent current tags hok

theorem issues_moveAnchor (anchor : String) (before after : Record) (message : String) :
    Issues ThickCommand (moveAnchor env anchor before after message) := by
  refine issues_silent (silent_lift _) fun delete => issues_silent (silent_lift _) fun add => ?_
  exact issues_changeExactTags (.changeTags _ _ _)

theorem issues_finishSnapshotDelete (volname snap : String) (state intent : Record)
    (result : Except String Unit) :
    Issues ThickCommand (finishSnapshotDelete env volname snap state intent result) := by
  refine issues_silent ((silent_ask _ _).orDie _) fun _ => ?_
  refine issues_silent (silent_listVolumes env) fun after => ?_
  refine issues_silent (silent_refuse _ _) fun _ => ?_
  refine issues_silent ((silent_lift _).orDie _) fun _ => ?_
  refine issues_silent (silent_lift _) fun final => ?_
  refine issues_silent (silent_refuse _ _) fun _ => issues_silent (silent_refuse _ _) fun _ => ?_
  exact issues_clearIntent intent

theorem issues_snapshotDeleteLocked (volname : String) (snap : Option String)
    (requireOrphan : Bool) (admission : Option SnapshotAdmission) :
    Issues ThickCommand (snapshotDeleteLocked env volname snap requireOrphan admission) := by
  refine issues_silent (silent_lift _) fun snap => issues_silent (silent_lift _) fun _ => ?_
  refine issues_silent (silent_requireNoVgIntent env) fun _ => ?_
  refine issues_silent (silent_listVolumes env) fun lvs => ?_
  refine issues_silent (silent_lift _) fun anchor => issues_silent (silent_lift _) fun info => ?_
  refine issues_silent ((silent_ask env _).whenever _) fun _ => ?_
  refine issues_silent (silent_lift _) fun hit => issues_silent (silent_lift _) fun _ => ?_
  refine issues_silent (silent_refuse _ _) fun _ => ?_
  refine issues_silent (silent_verifySnapshotReadonly env _) fun _ => ?_
  refine issues_silent (silent_verifyAutoactivationDisabled env _) fun _ => ?_
  refine issues_silent (silent_refuseOpen env _ _) fun _ => ?_
  refine issues_silent (silent_newTransactionId env) fun tx => ?_
  refine issues_silent (silent_vgStateDigest env) fun before => ?_
  refine issues_silent (silent_lift _) fun rebased => ?_
  refine (issues_setIntent _).bind fun _ => Issues.bind (Issues.attempt ?_) fun result => ?_
  · refine (issues_moveAnchor _ _ _ _).bind fun _ => ?_
    refine (issues_deactivateExactLvs (.deactivate _)).bind fun _ => ?_
    exact issues_runCommand (.remove _)
  · exact issues_finishSnapshotDelete _ _ _ _ _

theorem issues_recoverRebase (anchor : Anchor) (tx : String) (present : Bool) :
    Issues ThickCommand (recoverRebase env anchor tx present) := by
  unfold recoverRebase
  split_ifs
  · refine issues_silent (silent_refuse _ _) fun _ => issues_silent (silent_lift _) fun rebased => ?_
    exact (issues_moveAnchor _ _ _ _).bind fun _ => silent_issues (silent_pure _)
  · exact issues_silent (silent_refuse _ _) fun _ => silent_issues (silent_pure _)

theorem silent_verifySnapshotInactive (snapshot : String) :
    Silent (verifySnapshotInactive env snapshot) := by
  refine (silent_verifySnapshotReadonly env _).bind fun _ => ?_
  exact (silent_verifyAutoactivationDisabled env _).bind fun _ => silent_refuseOpen env _ _

theorem issues_recoverRemove (snapshot : String) :
    Issues ThickCommand (recoverRemove env snapshot) := by
  refine issues_silent (silent_verifySnapshotInactive snapshot) fun _ => ?_
  refine (issues_deactivateExactLvs (.deactivate _)).bind fun _ => ?_
  exact issues_runCommand (.remove _)

theorem issues_recoverOpenDelete (volname : String) (intent : Record) :
    Issues ThickCommand (recoverOpenDelete env volname intent) := by
  refine issues_silent (silent_refuse _ _) fun _ => ?_
  refine issues_silent (silent_requireExactVgIntent env _) fun _ => ?_
  refine issues_silent (silent_listVolumes env) fun lvs => ?_
  refine issues_silent (silent_lift _) fun anchor => issues_silent (silent_refuse _ _) fun _ => ?_
  refine issues_silent (silent_lift _) fun owned => ?_
  refine issues_silent ((silent_verifySnapshotInactive _).whenever _) fun _ => ?_
  refine (issues_recoverRebase _ _ _).bind fun state => ?_
  refine ((issues_recoverRemove _).whenever _).bind fun _ => ?_
  refine issues_silent (silent_ask env _) fun _ => ?_
  refine issues_silent (silent_listVolumes env) fun after => ?_
  refine issues_silent (silent_refuse _ _) fun _ => issues_silent (silent_lift _) fun final => ?_
  refine issues_silent (silent_refuse _ _) fun _ => ?_
  exact (issues_clearIntent _).bind fun _ => silent_issues (silent_pure _)

/-! ## Volumes -/

theorem silent_frontendPresent (volname : String) : Silent (frontendPresent env volname) := by
  refine (silent_lift _).bind fun space => (silent_lift _).bind fun mapper => ?_
  refine (silent_lift _).bind fun key => (silent_kernelInventory env).bind fun kernel => ?_
  split
  · exact silent_pure _
  · exact (silent_refuse _ _).bind fun _ => silent_pure _

theorem silent_frontendOpenCount (mapper : String) : Silent (frontendOpenCount env mapper) := by
  refine (silent_kernelInventory env).bind fun kernel => ?_
  exact (silent_lift _).bind fun mapping => silent_pure _

theorem issues_removeIdleFrontend (volname mapper : String) :
    Issues ThickCommand (removeIdleFrontend env volname mapper) := by
  refine issues_silent (silent_ask env _) fun _ => ?_
  refine issues_silent (silent_frontendOpenCount _) fun opens => ?_
  refine issues_silent (silent_refuse _ _) fun _ => ?_
  exact issues_runProven (silent_verifyMapperAbsent env _ _) (.removeMapper _)

theorem issues_finishVolumeDelete (volname head anchor : String) (intent : Record) :
    Issues ThickCommand (finishVolumeDelete env volname head anchor intent) := by
  refine issues_silent (silent_listVolumes env) fun after => ?_
  refine issues_silent ((silent_ask _ _).orDie _) fun _ => ?_
  refine issues_silent (silent_refuse _ _) fun _ => ?_
  exact issues_clearIntent intent

theorem issues_freeImageSingleLocked (volname : String) (orphanAlloc orphanTree : Bool) :
    Issues ThickCommand (freeImageSingleLocked env volname orphanAlloc orphanTree) := by
  refine issues_silent (silent_lift _) fun _ => issues_silent (silent_lift _) fun space => ?_
  refine issues_silent (silent_lift _) fun mapper => ?_
  refine issues_silent (silent_requireNoVgIntent env) fun _ => ?_
  refine issues_silent (silent_listVolumes env) fun lvs => ?_
  refine issues_silent (silent_lift _) fun anchor => issues_silent (silent_lift _) fun _ => ?_
  refine issues_silent ((silent_ask env _).whenever _) fun _ => ?_
  refine issues_silent (silent_lift _) fun _ => ?_
  refine issues_silent (silent_verifyAutoactivationDisabled env _) fun _ => ?_
  refine issues_silent (silent_verifyAutoactivationDisabled env _) fun _ => ?_
  refine issues_silent (silent_frontendPresent _) fun present => ?_
  refine ((issues_removeIdleFrontend _ _).whenever _).bind fun _ => ?_
  refine (issues_deactivateExactLvs (.deactivate _)).bind fun _ => ?_
  refine issues_silent (silent_newTransactionId env) fun tx => ?_
  refine issues_silent (silent_vgStateDigest env) fun before => ?_
  refine (issues_setIntent _).bind fun _ => Issues.bind (Issues.attempt ?_) fun result => ?_
  · exact (issues_runCommand (.remove _)).bind fun _ => issues_runCommand (.remove _)
  · exact issues_finishVolumeDelete _ _ _ _

theorem issues_removeRemaining (lvs : Inventory) (head : Option String) (anchor : String) :
    Issues ThickCommand (removeRemaining env lvs head anchor) := by
  have hremove (present : Bool) (lv : String) :
      Issues ThickCommand (whenever present (runCommand env (.remove lv))) :=
    Issues.whenever (issues_runCommand (.remove lv)) present
  unfold removeRemaining
  cases head with
  | none => exact hremove _ _
  | some name => exact (hremove _ _).bind fun _ => hremove _ _

theorem issues_recoverOpenVolumeDelete (volname key anchor mapper : String) (intent : Record) :
    Issues ThickCommand (recoverOpenVolumeDelete env volname key anchor mapper intent) := by
  refine issues_silent (silent_refuse _ _) fun _ => ?_
  refine issues_silent (silent_requireExactVgIntent env _) fun _ => ?_
  refine issues_silent (silent_ask env _) fun _ => ?_
  refine issues_silent (silent_verifyMapperAbsent env _ _) fun _ => ?_
  refine issues_silent (silent_listVolumes env) fun lvs => ?_
  refine issues_silent (silent_lift _) fun head => ?_
  refine issues_silent (Silent.each (fun lv => silent_verifyAutoactivationDisabled env lv) _)
    fun _ => ?_
  refine ((issues_deactivateExactLvs (.deactivate _)).whenever _).bind fun _ => ?_
  refine (issues_removeRemaining _ _ _).attempt.bind fun result => ?_
  refine issues_silent ((silent_ask _ _).orDie _) fun _ => ?_
  refine issues_silent (silent_listVolumes env) fun after => ?_
  refine issues_silent (silent_refuse _ _) fun _ => ?_
  exact (issues_clearIntent _).bind fun _ => silent_issues (silent_pure _)

/-! ## Mutations -/

def snapshotDelete (volname : String) (snap : Option String) (requireOrphan : Bool)
    (admission : Option SnapshotAdmission) : Mutation where
  code env := snapshotDeleteLocked env volname snap requireOrphan admission
  keeps _ := (issues_snapshotDeleteLocked _ _ _ _).weaken fun _ h => h.keepsBridge

def freeImage (volname : String) (orphanAlloc orphanTree : Bool) : Mutation where
  code env := freeImageSingleLocked env volname orphanAlloc orphanTree
  keeps _ := (issues_freeImageSingleLocked _ _ _).weaken fun _ h => h.keepsBridge

/-- What a recovery does under the lock; without an intent there is nothing to recover. -/
def recovery (missing : Env → String) (recover : Env → Record → Op String)
    (h : ∀ env intent, Issues ThickCommand (recover env intent)) : Mutation where
  code env := do
    let intent ← readVgIntent env
    match intent with
    | none => throwMessage (missing env)
    | some intent => do
      let _ ← recover env intent
  keeps env := by
    refine issues_silent (silent_readVgIntent env) fun intent => ?_
    cases intent with
    | none => exact silent_issues (silent_throwMessage _)
    | some intent =>
      refine Issues.bind ((h env intent).weaken fun _ h => h.keepsBridge) fun _ => ?_
      exact silent_issues (silent_pure _)

def snapshotRecovery (volname : String) : Mutation :=
  recovery (fun env => "VG '" ++ env.storage.vgname ++
    "' has no snapshot-delete transaction to recover\n")
    (fun env intent => recoverOpenDelete env volname intent) fun _ _ => issues_recoverOpenDelete _ _

def volumeRecovery (volname key anchor mapper : String) : Mutation :=
  recovery (fun env => "VG '" ++ env.storage.vgname ++
    "' has no volume-delete transaction to recover\n")
    (fun env intent => recoverOpenVolumeDelete env volname key anchor mapper intent)
    fun _ _ => issues_recoverOpenVolumeDelete _ _ _ _ _

end SharedLvmThin.Bridge
