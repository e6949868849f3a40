import SharedLvmThin.ThickVolume

/-!
# Deleting a snapshot of a Thick volume

The delete commits an intent that names the snapshot, moves the anchor to a fresh
transaction, removes the snapshot and clears the intent. The recovery is given a volume name
by its caller; it binds the open intent to that volume and completes what is left.
-/

namespace SharedLvmThin.ThickVolume
open Perl TagCodec Effects
open Thick (Field Record numberOf anchorTags decodeGenerationTags materializedRebaseState)

structure SnapshotAdmission where
  anchor : String
  anchorUuid : String
  tx : String
  head : String
  generation : Nat
  snapshot : String
  snapshotGeneration : Nat
  snapshotUuid : String
deriving DecidableEq

def admissionOf (anchor : Anchor) (info : Lv) (hit : Snapshot) : SnapshotAdmission where
  anchor := anchor.name
  anchorUuid := info.uuid
  tx := text anchor.state .tx
  head := text anchor.state .head
  generation := numberOf anchor.state .generation
  snapshot := hit.name
  snapshotGeneration := hit.generation
  snapshotUuid := hit.info.uuid

-- Only an orphan delete may admit itself.
def checkAdmission (requireOrphan : Bool) (admission : Option SnapshotAdmission)
    (now : SnapshotAdmission) : Except String Unit := do
  let admitted ← found (if requireOrphan then some (admission.getD now) else admission)
    "snapshot-delete admission changed before the VG-locked delete\n"
  dieIf (now.anchor ≠ admitted.anchor || now.anchorUuid ≠ admitted.anchorUuid ||
      now.tx ≠ admitted.tx || now.head ≠ admitted.head || now.generation ≠ admitted.generation)
    "snapshot-delete admission changed before the VG-locked delete\n"
  dieIf (now.snapshot ≠ admitted.snapshot ||
      now.snapshotGeneration ≠ admitted.snapshotGeneration ||
      now.snapshotUuid ≠ admitted.snapshotUuid)
    "snapshot-delete snapshot identity changed after admission\n"

/-- One generation is source, old, new and HEAD of an allocation. -/
def isCanonicalAlloc (state : Record) : Bool :=
  text state .op = "ALLOC" && text state .snapshot = "none" &&
    text state .source = text state .head && text state .old = text state .head &&
    text state .new = text state .head

/-- Retags the anchor from one state to another. -/
def moveAnchor (env : Env) (anchor : String) (before after : Record) (message : String) :
    Op Unit := do
  let delete ← lift (anchorTags before)
  let add ← lift (anchorTags after)
  changeExactTags env anchor delete add message

/-- The `eval` between setting the intent and looking at the result. -/
def rebaseAndRemove (env : Env) (anchor : String) (before after : Record) (snapshot : String) :
    Op Unit := do
  moveAnchor env anchor before after ("rebasing materialized anchor '" ++ lvPath env anchor ++
    "' before snapshot delete failed")
  deactivateExactLvs env ("deactivating snapshot '" ++ lvPath env snapshot ++
    "' before delete failed") [snapshot]
  runCommand env (.remove snapshot)

def partialDelete (env : Env) (volname snap : String) : String :=
  "PARTIAL SNAPSHOT DELETE for '" ++ env.storage.storeid ++ ":" ++ volname ++ "@" ++ snap ++ "': "

/-- What the delete still has to see before it clears its intent. -/
def finishSnapshotDelete (env : Env) (volname snap : String) (state intent : Record)
    (result : Except String Unit) : Op Unit := do
  let lead := partialDelete env volname snap
  let snapshot := text intent .object
  orDie (ask env .storageIdentity)
    (lead ++ "identity is uncertain; OPEN intent preserved and no retry attempted: ")
  let after ← listVolumes env
  refuse (after.lookup snapshot).isSome (lead ++ "exact object remains; OPEN intent preserved " ++
    "and no retry attempted" ++ match result with
      | .ok () => "\n"
      | .error message => ": " ++ message)
  orDie (lift result) (lead ++ "command failed after the exact object disappeared; OPEN intent " ++
    "preserved for manual classification: ")
  let final ← lift (thickAnchor env.storage volname after)
  refuse (text final.state .head ≠ text state .head ||
      numberOf final.state .generation ≠ numberOf state .generation)
    "snapshot delete changed authoritative HEAD or generation\n"
  refuse (text final.state .tx ≠ text intent .tx || !isCanonicalAlloc final.state)
    "snapshot delete did not leave a canonical materialized anchor\n"
  clearVgIntent env intent

/-- `_thick_volume_snapshot_delete_locked` -/
def snapshotDeleteLocked (env : Env) (volname : String) (snap : Option String)
    (requireOrphan : Bool) (admission : Option SnapshotAdmission) : Op Unit := do
  let snap ← lift (snapshotName snap)
  lift (requireThickIdentityConfig env.storage)
  requireNoVgIntent env
  let lvs ← listVolumes env
  let anchor ← lift (thickAnchor env.storage volname lvs)
  let info ← lift (found (lvs.lookup anchor.name)
    "snapshot-delete anchor disappeared after admission\n")
  whenever requireOrphan (ask env .references)
  let hit ← lift (findSnapshot env.storage volname snap lvs)
  lift (checkAdmission requireOrphan admission (admissionOf anchor info hit))
  refuse (hit.name = text anchor.state .head) "refusing to delete authoritative HEAD as a snapshot\n"
  verifySnapshotReadonly env hit.name
  verifyAutoactivationDisabled env hit.name
  refuseOpen env (lvMapperName env.storage.vgname hit.name)
    ("refusing to delete open snapshot '" ++ lvPath env hit.name ++ "'\n")
  let tx ← newTransactionId env
  let before ← vgStateDigest env
  let intent := intentOf tx "REMOVE_SNAPSHOT" hit.name before
  let rebased ← lift (materializedRebaseState anchor.state (some tx))
  setVgIntent env intent
  let result ← attempt (rebaseAndRemove env anchor.name anchor.state rebased hit.name)
  finishSnapshotDelete env volname snap anchor.state intent result

/-! ## Recovery -/

/-- `$verify_snapshot`: the intent's object, if it is still there, is this volume's snapshot. -/
def verifySnapshot (storage : Storage) (volname : String) (lvs : Inventory) (snapshot : String) :
    Except String (Option Record) :=
  match lvs.lookup snapshot with
  | none => .ok none
  | some info => do
    let owned ← decodeGenerationTags (.array info.tags)
    dieIf (text owned .sid ≠ storage.storeid || text owned .vol ≠ volname ||
        text owned .role ≠ "snapshot")
      "snapshot-delete intent object is not an owned snapshot generation\n"
    let space ← thickNamespace storage
    let name ← generationName space volname (owned .generation)
    dieIf (name ≠ snapshot)
      "snapshot-delete intent object name does not match its signed generation\n"
    return some owned

/-- `$verify_snapshot_inactive` -/
def verifySnapshotInactive (env : Env) (snapshot : String) : Op Unit := do
  verifySnapshotReadonly env snapshot
  verifyAutoactivationDisabled env snapshot
  refuseOpen env (lvMapperName env.storage.vgname snapshot)
    ("refusing to recover deletion of open snapshot '" ++ lvPath env snapshot ++ "'\n")

/-- Rebases the anchor unless the interrupted delete has. -/
def recoverRebase (env : Env) (anchor : Anchor) (tx : String) (present : Bool) : Op Record :=
  if text anchor.state .tx ≠ tx then do
    refuse (!present) "snapshot-delete recovery cannot rebase after the exact object disappeared\n"
    let rebased ← lift (materializedRebaseState anchor.state (some tx))
    moveAnchor env anchor.name anchor.state rebased ("recovering materialized anchor '" ++
      lvPath env anchor.name ++ "' before snapshot delete failed")
    return rebased
  else do
    refuse (!isCanonicalAlloc anchor.state)
      "snapshot-delete recovery found a non-canonical rebased anchor\n"
    return anchor.state

def recoverRemove (env : Env) (snapshot : String) : Op Unit := do
  verifySnapshotInactive env snapshot
  deactivateExactLvs env ("deactivating snapshot '" ++ lvPath env snapshot ++
    "' during recovery failed") [snapshot]
  runCommand env (.remove snapshot)

def finishSnapshotRecovery (env : Env) (volname : String) (state intent : Record) : Op String := do
  ask env .storageIdentity
  let after ← listVolumes env
  refuse (after.lookup (text intent .object)).isSome
    "snapshot-delete recovery did not remove the exact snapshot object\n"
  let final ← lift (thickAnchor env.storage volname after)
  refuse (text final.state .tx ≠ text intent .tx || text final.state .head ≠ text state .head ||
      numberOf final.state .generation ≠ numberOf state .generation ||
      !isCanonicalAlloc final.state)
    "snapshot-delete recovery did not preserve the canonical HEAD\n"
  clearVgIntent env intent
  return "SNAPSHOT_DELETE_RECOVERED"

def recoverOpenDelete (env : Env) (volname : String) (intent : Record) : Op String := do
  refuse (text intent .state ≠ "OPEN" || text intent .op ≠ "REMOVE_SNAPSHOT")
    ("VG '" ++ env.storage.vgname ++ "' intent is not an OPEN snapshot-delete transaction\n")
  requireExactVgIntent env intent
  let lvs ← listVolumes env
  let anchor ← lift (thickAnchor env.storage volname lvs)
  let snapshot := text intent .object
  refuse (snapshot = text anchor.state .head)
    "snapshot-delete intent targets the authoritative HEAD\n"
  let owned ← lift (verifySnapshot env.storage volname lvs snapshot)
  whenever owned.isSome (verifySnapshotInactive env snapshot)
  let state ← recoverRebase env anchor (text intent .tx) owned.isSome
  whenever owned.isSome (recoverRemove env snapshot)
  finishSnapshotRecovery env volname state intent

/-- `_thick_recover_snapshot_delete` -/
def recoverSnapshotDelete (env : Env) (volname : String) : Op String := do
  lift (requireThickIdentityConfig env.storage)
  withVgLock env do
    let intent ← readVgIntent env
    match intent with
    | none => throwMessage ("VG '" ++ env.storage.vgname ++
        "' has no snapshot-delete transaction to recover\n")
    | some intent => recoverOpenDelete env volname intent

end SharedLvmThin.ThickVolume
