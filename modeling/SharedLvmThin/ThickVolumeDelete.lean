import SharedLvmThin.ThickSnapshotDelete

/-! Freeing a Thick volume. The volume must be its anchor and its HEAD alone; the intent names the
anchor, then HEAD and anchor are removed and the intent is cleared. The recovery is given a volume
name by its caller and removes what an interrupted free has left. -/

namespace SharedLvmThin.ThickVolume
open Perl TagCodec Effects KeyedLists
open Thick (Field Record numberOf decodeAnchorTags)

/-! ## The frontend -/

/-- `_thick_frontend_present` -/
def frontendPresent (env : Env) (volname : String) : Op Bool := do
  let space ← lift (thickNamespace env.storage)
  let mapper ← lift (mapperName space volname)
  let key ← lift (objectKey space volname)
  let kernel ← kernelInventory env
  match kernel.lookup mapper with
  | none => return false
  | some mapping =>
    refuse (mapping.uuid ≠ "SLT-TG2-" ++ key)
      ("thick-generations frontend '" ++ mapper ++ "' kernel UUID mismatch\n")
    return true

/-- `_thick_frontend_open_count` -/
def frontendOpenCount (env : Env) (mapper : String) : Op Nat := do
  let kernel ← kernelInventory env
  let mapping ← lift (found (kernel.lookup mapper)
    ("reading thick-generations frontend open count '" ++ mapper ++ "' failed"))
  return mapping.opens

/-- `_thick_remove_mapper_exact` -/
def removeMapperExact (env : Env) (mapper message : String) (verifyAbsent : Op Unit) : Op Unit :=
  runProven env (.removeMapper mapper)
    (message ++ "; removal result is UNKNOWN because exact absence is unproven: ") verifyAbsent

/-- The stable frontend of a volume that nothing holds is dismantled. -/
def removeIdleFrontend (env : Env) (volname mapper : String) : Op Unit := do
  ask env .frontend
  let opens ← frontendOpenCount env mapper
  refuse (opens ≠ 0) ("refusing to delete open thick-generations volume '" ++ volname ++ "'\n")
  removeMapperExact env mapper
    ("removing idle thick-generations frontend '" ++ mapper ++ "' before delete failed")
    (verifyMapperAbsent env mapper ("refusing thick-generations delete: frontend '" ++ mapper ++
      "' removal is unconfirmed"))

/-! ## The free -/

/-- What a caller that recovers an orphan asks of the anchor. -/
def checkOrphan (state : Record) (orphanAlloc orphanTree : Bool) : Except String Unit := do
  dieIf ((orphanAlloc || orphanTree) && (text state .phase ≠ "MATERIALIZED" ||
      text state .op ≠ "ALLOC" || text state .snapshot ≠ "none"))
    "orphan recovery requires a canonical materialized ALLOC state\n"
  dieIf (orphanAlloc && numberOf state .generation ≠ 0)
    "orphan-allocation recovery requires generation zero\n"

/-- HEAD is the one generation under the volume's key, and it carries the volume's proof. -/
def checkOnlyHead (storage : Storage) (volname : String) (lvs : Inventory) (anchor : Anchor) :
    Except String Unit := do
  let space ← thickNamespace storage
  let key ← objectKey space volname
  dieIf (generationsOf key lvs ≠ [text anchor.state .head])
    ("refusing to delete thick-generations volume '" ++ volname ++
      "': owned snapshots or ambiguous generations remain\n")
  validateGenerationTags anchor.head.tags (headRecord storage.storeid volname anchor.state)

/-- The `eval` after the intent. -/
def removeObjects (env : Env) (head anchor : String) : Op Unit := do
  runCommand env (.remove head)
  runCommand env (.remove anchor)

def flag (b : Bool) : String := if b then "1" else ""

/-- What the free still has to see before it clears its intent; the commands' own status is only
warned about. -/
def finishVolumeDelete (env : Env) (volname head anchor : String) (intent : Record) : Op Unit := do
  let after ← listVolumes env
  let volid := env.storage.storeid ++ ":" ++ volname
  orDie (ask env .storageIdentity)
    ("PARTIAL DELETE for '" ++ volid ++ "': storage identity/availability could not be " ++
      "revalidated; OPEN REMOVE intent preserved and no retry attempted. After restoring " ++
      "authoritative storage visibility run sharedlvmthin thick-recover-volume-delete '" ++
      env.storage.storeid ++ "' '" ++ volname ++ "': ")
  let headRemains := (after.lookup head).isSome
  let anchorRemains := (after.lookup anchor).isSome
  refuse (headRemains || anchorRemains)
    ("PARTIAL DELETE for '" ++ volid ++ "': head=" ++ flag headRemains ++ " anchor=" ++
      flag anchorRemains ++ "; OPEN REMOVE intent preserved and no retry attempted. Run " ++
      "sharedlvmthin thick-recover-volume-delete '" ++ env.storage.storeid ++ "' '" ++ volname ++
      "'\n")
  clearVgIntent env intent

/-- `_thick_free_image_single_locked` -/
def freeImageSingleLocked (env : Env) (volname : String) (orphanAlloc orphanTree : Bool) :
    Op Unit := do
  lift (requireThickIdentityConfig env.storage)
  let space ← lift (thickNamespace env.storage)
  let mapper ← lift (mapperName space volname)
  requireNoVgIntent env
  let lvs ← listVolumes env
  let anchor ← lift (thickAnchor env.storage volname lvs)
  lift (checkOrphan anchor.state orphanAlloc orphanTree)
  whenever (orphanAlloc || orphanTree) (ask env .references)
  lift (checkOnlyHead env.storage volname lvs anchor)
  let head := text anchor.state .head
  verifyAutoactivationDisabled env head
  verifyAutoactivationDisabled env anchor.name
  let present ← frontendPresent env volname
  whenever present (removeIdleFrontend env volname mapper)
  deactivateExactLvs env ("deactivating thick-generations state for '" ++ lvPath env volname ++
    "' before delete failed") [anchor.name, head]
  let tx ← newTransactionId env
  let before ← vgStateDigest env
  let intent := intentOf tx "REMOVE" anchor.name before
  setVgIntent env intent
  let _ ← attempt (removeObjects env head anchor.name)
  finishVolumeDelete env volname head anchor.name intent

/-! ## Recovery -/

/-- The names of the volume, of its anchor and of its generations and metadata. -/
def isRelated (key anchor volname name : String) : Bool :=
  name = volname || name = anchor || (stripPrefix? ("sltg-g-" ++ key ++ "-") name).isSome ||
    (stripPrefix? ("sltg-m-" ++ key ++ "-") name).isSome

def relatedTo (key anchor volname : String) (lvs : Inventory) : List String :=
  sortBy id (lvs.keys.filter (isRelated key anchor volname))

/-- The signed HEAD while the anchor is there; without it nothing else of the volume may be. -/
def remainingHead (storage : Storage) (volname key anchor : String) (lvs : Inventory) :
    Except String (Option String) :=
  let related := relatedTo key anchor volname lvs
  match lvs.lookup anchor with
  | none => do
    dieIf (related ≠ [])
      "volume-delete recovery found owned-looking objects without the signed anchor\n"
    return none
  | some info => do
    let state ← decodeAnchorTags (.array info.tags)
    dieIf (text state .sid ≠ storage.storeid || text state .vol ≠ volname ||
        text state .phase ≠ "MATERIALIZED" || !isCanonicalAlloc state)
      "volume-delete recovery anchor is not a canonical materialized allocation\n"
    let head := text state .head
    dieIf (related.any fun name => name ≠ anchor && name ≠ head)
      "volume-delete recovery found objects outside the signed HEAD and anchor\n"
    match lvs.lookup head with
    | none => return some head
    | some info => do
      validateGenerationTags info.tags (headRecord storage.storeid volname state)
      return some head

/-- The `eval` of the recovery. -/
def removeRemaining (env : Env) (lvs : Inventory) (head : Option String) (anchor : String) :
    Op Unit := do
  match head with
  | none => pure ()
  | some name => whenever (lvs.lookup name).isSome (runCommand env (.remove name))
  whenever (lvs.lookup anchor).isSome (runCommand env (.remove anchor))

def finishVolumeRecovery (env : Env) (volname key anchor : String) (intent : Record)
    (result : Except String Unit) : Op String := do
  orDie (ask env .storageIdentity)
    ("VOLUME DELETE RECOVERY: storage identity could not be revalidated; " ++
      "OPEN REMOVE intent preserved: ")
  let after ← listVolumes env
  refuse (relatedTo key anchor volname after ≠ [])
    ("VOLUME DELETE RECOVERY: exact or ambiguous objects remain; OPEN REMOVE intent preserved" ++
      match result with
      | .ok () => "\n"
      | .error message => ": " ++ message)
  clearVgIntent env intent
  return "VOLUME_DELETE_RECOVERED"

def recoverOpenVolumeDelete (env : Env) (volname key anchor mapper : String) (intent : Record) :
    Op String := do
  refuse (text intent .state ≠ "OPEN" || text intent .op ≠ "REMOVE" ||
      text intent .object ≠ anchor)
    ("VG '" ++ env.storage.vgname ++ "' intent is not the exact OPEN REMOVE transaction for '" ++
      volname ++ "'\n")
  requireExactVgIntent env intent
  ask env .references
  verifyMapperAbsent env mapper
    ("volume-delete recovery refused: transaction frontend '" ++ mapper ++ "' exists")
  let lvs ← listVolumes env
  let head ← lift (remainingHead env.storage volname key anchor lvs)
  let remaining := (head.toList ++ [anchor]).filter fun name => (lvs.lookup name).isSome
  each remaining (verifyAutoactivationDisabled env)
  whenever (remaining ≠ [])
    (deactivateExactLvs env ("deactivating remaining volume-delete objects for '" ++
      lvPath env volname ++ "' failed") remaining)
  let result ← attempt (removeRemaining env lvs head anchor)
  finishVolumeRecovery env volname key anchor intent result

/-- `_thick_recover_volume_delete` -/
def recoverVolumeDelete (env : Env) (volname : String) : Op String := do
  lift (requireThickIdentityConfig env.storage)
  ask env .volumeName
  let space ← lift (thickNamespace env.storage)
  let anchor ← lift (anchorName space volname)
  let key ← lift (objectKey space volname)
  let mapper ← lift (mapperName space volname)
  withVgLock env do
    let intent ← readVgIntent env
    match intent with
    | none => throwMessage ("VG '" ++ env.storage.vgname ++
        "' has no volume-delete transaction to recover\n")
    | some intent => recoverOpenVolumeDelete env volname key anchor mapper intent

end SharedLvmThin.ThickVolume
