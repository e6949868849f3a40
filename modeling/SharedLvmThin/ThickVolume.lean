import SharedLvmThin.Effects
import SharedLvmThin.KeyedLists
import SharedLvmThin.ThickTransition
import Mathlib.Data.List.AList

/-!
# Thick volumes in a volume group

The logical volumes of one volume group with their tags, the group's own tags, and the
device mapper of the node that runs an operation. A volume is an anchor, whose tags record
its state, and one logical volume for each generation. An operation reads the inventory,
asks its environment what a read-only probe answers, and issues LVM commands. A command may
take effect or not and may report success or not; after a crash the volume group is in one
of the states its commands left.
-/

namespace SharedLvmThin.ThickVolume
open Perl TagCodec Effects KeyedLists
open Thick (Field Record TagInput hashOf token badGeneration badBytes badRegion numberOf anchorTags
  decodeAnchorTags generationTags decodeGenerationTags lazyObjectTags decodeLazyObjectTags
  vgIntentTags decodeVgIntentTags materializedRebaseState)

/-! ## State -/

/-- One row of the inventory. The tags of a logical volume hold no commas. -/
structure Lv where
  uuid : String
  bytes : Nat
  readonly : Bool
  autoactivation : String
  tags : List String
deriving DecidableEq

abbrev Inventory := AList fun _ : String => Lv

structure Store where
  uuid : String
  lvs : Inventory
  vgTags : List String

def Store.find (s : Store) (lv : String) : Option Lv := s.lvs.lookup lv

/-- A device-mapper device of the local kernel. -/
structure Mapping where
  uuid : String
  opens : Nat

abbrev Kernel := AList fun _ : String => Mapping

inductive Command
  | changeVgTags (delete add : List String)
  | changeTags (lv : String) (delete add : List String)
  | deactivate (lvs : List String)
  | removeMapper (mapper : String)
  | remove (lv : String)
deriving DecidableEq

structure Answer where
  applied : Bool
  reported : Except String Unit

/-- One `--deltag`/`--addtag` command line. -/
def retag (delete add tags : List String) : List String :=
  let kept := tags.filter (· ∉ delete)
  kept ++ add.filter (· ∉ kept)

def Store.setTags (s : Store) (lv : String) (delete add : List String) : Store :=
  match s.find lv with
  | none => s
  | some info => { s with lvs := s.lvs.insert lv { info with tags := retag delete add info.tags } }

/-- The effect of a command on the volume group. -/
def Command.store : Command → Store → Store
  | .changeVgTags delete add, s => { s with vgTags := retag delete add s.vgTags }
  | .changeTags lv delete add, s => s.setTags lv delete add
  | .remove lv, s => { s with lvs := s.lvs.erase lv }
  | .deactivate _, s | .removeMapper _, s => s

/-- Device mapper names double every hyphen. -/
def escapeDm (name : String) : String :=
  String.ofList (name.toList.flatMap fun c => if c = '-' then ['-', '-'] else [c])

/-- `_thick_lv_mapper_name` -/
def lvMapperName (vg lv : String) : String := escapeDm vg ++ "-" ++ escapeDm lv

/-- An open device stays. -/
def Kernel.close (k : Kernel) (mapper : String) : Kernel :=
  match k.lookup mapper with
  | some ⟨_, 0⟩ => k.erase mapper
  | _ => k

/-- The effect of a command on the local kernel. -/
def Command.kernel (vg : String) : Command → Kernel → Kernel
  | .changeVgTags .., k | .changeTags .., k => k
  | .deactivate lvs, k => lvs.foldl (fun k lv => k.close (lvMapperName vg lv)) k
  | .removeMapper mapper, k => k.close mapper
  | .remove lv, k => k.close (lvMapperName vg lv)

/-! ## Configuration and environment -/

structure Storage where
  storeid : String
  vgname : String
  shared : Bool
  expectedVgUuid : Option String
  expectedPvUuid : Option String
  expectedWwid : Option String
  reservePercent : Option String
  reserveGib : Option String

/-- `_require_thick_identity_config` -/
def requireThickIdentityConfig (storage : Storage) : Except String Unit := do
  dieIf (!storage.shared)
    ("thick-generations storage '" ++ storage.storeid ++ "' must be configured as shared\n")
  forEach [(storage.expectedVgUuid, "slt-expected-vg-uuid"),
      (storage.expectedPvUuid, "slt-expected-pv-uuid"),
      (storage.expectedWwid, "slt-expected-wwid")] fun p =>
    dieIf (p.1.getD "" = "")
      ("thick-generations storage '" ++ storage.storeid ++ "' requires '" ++ p.2 ++ "'\n")
  dieIf (storage.reservePercent.isNone && storage.reserveGib.isNone)
    ("thick-generations storage '" ++ storage.storeid ++ "' requires a protected VG reserve\n")

/-- `_thick_namespace` -/
def thickNamespace (storage : Storage) : Except String String := do
  dieIf (storage.expectedVgUuid.getD "" = "")
    "thick-generations requires a pinned VG UUID before path resolution\n"
  return lc (storage.expectedVgUuid.getD "")

/-- What an operation asks of its environment without changing the volume group. -/
inductive Check
  | quorum | clusterLock | storageIdentity | aliasConfiguration | failureDomain
  | bridgeAdmission | noWorker
  | inventory | vgTags | vgState | tags (lv : String) | attributes (lv : String)
  | autoactivation (lv : String) | kernel
  | references | volumeName | frontend | peers
deriving DecidableEq

/-- The environment answers by how many commands were issued before. -/
structure Env where
  storage : Storage
  check : Check → Nat → Except String Unit
  outcome : Nat → Answer
  -- /proc/sys/kernel/random/uuid
  randomUuid : Nat → String
  -- uuid, sequence number, free and total extents of the volume group
  vgState : Nat → String

structure Issued where
  command : Command
  store : Store

/-- The state, and every command so far with the volume group it left. -/
structure Session where
  store : Store
  kernel : Kernel
  issued : List Issued

abbrev Op := Prog Session

def ask (env : Env) (check : Check) : Op Unit := fun s => (s, env.check check s.issued.length)

/-- `run_command` -/
def runCommand (env : Env) (command : Command) : Op Unit := fun s =>
  let answer := env.outcome s.issued.length
  let store := if answer.applied then command.store s.store else s.store
  let kernel := if answer.applied then command.kernel env.storage.vgname s.kernel else s.kernel
  (⟨store, kernel, s.issued ++ [⟨command, store⟩]⟩, answer.reported)

/-- A command whose outcome a reread decides; its own status is only told in the message. -/
def runProven (env : Env) (command : Command) (unknown : String) (verify : Op Unit) :
    Op Unit := do
  let reported ← attempt (runCommand env command)
  let verified ← attempt verify
  match verified, reported with
  | .ok (), _ => pure ()
  | .error evidence, .ok () => throwMessage evidence
  | .error evidence, .error message => throwMessage (unknown ++ message ++ evidence)

/-- `_with_vg_lock` -/
def withVgLock {α : Type} (env : Env) (code : Op α) : Op α := do
  ask env .quorum
  ask env .clusterLock
  ask env .quorum
  ask env .storageIdentity
  ask env .aliasConfiguration
  ask env .failureDomain
  ask env .bridgeAdmission
  ask env .noWorker
  code

/-- `_thick_list_volumes_scoped` -/
def listVolumes (env : Env) : Op Inventory := do
  ask env .inventory
  let s ← read
  return s.store.lvs

def isHexDigit (c : Char) : Bool := c.isDigit || ('a' ≤ c && c ≤ 'f') || ('A' ≤ c && c ≤ 'F')

/-- `s/[^0-9A-Fa-f]//g` and `lc` on what the kernel returned. -/
def transactionText (raw : String) : String := lc (String.ofList (raw.toList.filter isHexDigit))

/-- `_new_transaction_id` -/
def newTransactionId (env : Env) : Op String := do
  let s ← read
  refuse (!exactly 32 isLowerHex (transactionText (env.randomUuid s.issued.length)))
    "kernel returned an invalid transaction UUID\n"
  return transactionText (env.randomUuid s.issued.length)

/-- `_vg_state_digest` -/
def vgStateDigest (env : Env) : Op String := do
  ask env .vgState
  let s ← read
  let hex ← lift (Sha256.sha256Hex (env.vgState s.issued.length))
  return String.ofList (hex.toList.take 32)

/-! ## Names -/

/-- `object_key` -/
def objectKey (storeid volname : String) : Except String String := do
  let storeid ← token "storage ID" (some storeid)
  let volname ← token "volume name" (some volname)
  let hex ← Sha256.sha256Hex (lc storeid ++ "\x00" ++ volname)
  return String.ofList (hex.toList.take 24)

def anchorName (storeid volname : String) : Except String String := do
  let key ← objectKey storeid volname
  return "sltg-a-" ++ key

def mapperName (storeid volname : String) : Except String String := do
  let key ← objectKey storeid volname
  return "sltg-" ++ key

/-- `%08d` -/
def pad8 (n : Nat) : String :=
  String.ofList (List.replicate (8 - (Nat.repr n).length) '0' ++ (Nat.repr n).toList)

def generationName (storeid volname : String) (generation : Option String) :
    Except String String := do
  dieIf (badGeneration generation) "generation must be an integer from 0 through 99999999\n"
  let key ← objectKey storeid volname
  return "sltg-g-" ++ key ++ "-" ++ pad8 (numify (generation.getD "")).value

/-- The part of a name after a prefix. -/
def stripPrefix? (lead name : String) : Option String :=
  if lead.toList.isPrefixOf name.toList
  then some (String.ofList (name.toList.drop lead.toList.length)) else none

/-- The digits of `/^sltg-g-\Q$key\E-(\d{8})$/`; names hold ASCII characters only. -/
def generationDigits? (key name : String) : Option String :=
  (stripPrefix? ("sltg-g-" ++ key ++ "-") name).filter (exactly 8 Char.isDigit)

/-- `grep { /^sltg-g-\Q$key\E-\d{8}$/ } keys %$objects`, sorted -/
def generationsOf (key : String) (lvs : Inventory) : List String :=
  sortBy id (lvs.keys.filter fun name => (generationDigits? key name).isSome)

/-- `_thick_snapshot_name` -/
def snapshotName (snap : Option String) : Except String String := do
  dieIf (snap.getD "" = "") "snapshot name is missing\n"
  dieIf (!Thick.isToken (snap.getD ""))
    "snapshot name contains characters unsafe for persistent LVM metadata\n"
  return snap.getD ""

/-! ## Anchors -/

/-- The loop of `validate_generation_tags` and `validate_lazy_object_tags`. -/
def sameProof (message : String) (observed wanted : Record) : Except String Unit :=
  forEach (Field.all.filter fun f => (wanted f).isSome) fun f =>
    dieIf (observed f ≠ wanted f) message

def validateGenerationTags (tags : List String) (expected : Record) : Except String Unit := do
  let observed ← decodeGenerationTags (.array tags)
  let written ← generationTags expected
  let wanted ← decodeGenerationTags (.array written)
  sameProof "generation ownership proof mismatch\n" observed wanted

def validateLazyObjectTags (tags : List String) (expected : Record) : Except String Unit := do
  let observed ← decodeLazyObjectTags (.array tags)
  let written ← lazyObjectTags expected
  let wanted ← decodeLazyObjectTags (.array written)
  sameProof "Lazy Thick object ownership proof mismatch\n" observed wanted

def maxRegions : Nat := 134217728

/-- `clone_geometry` for a persisted region: the size of the metadata. -/
def metadataBytes (bytes region : Nat) : Except String Nat := do
  dieIf (bytes < 512 || bytes % 512 ≠ 0) "clone size must be a positive sector-aligned integer\n"
  dieIf (region < 8 || region > 2097152 || (region &&& (region - 1)) ≠ 0)
    "persisted dm-clone region size is invalid\n"
  let regions := (bytes / 512 + region - 1) / region
  dieIf (regions > maxRegions) "persisted dm-clone geometry exceeds the supported region bound\n"
  let extent := 4 * 1024 * 1024
  let metadata := (16 * 1024 * 1024 + regions + extent - 1) / extent * extent
  dieIf (metadata > 16 * 1024 * 1024 * 1024)
    "calculated dm-clone metadata exceeds the supported 16 GiB limit\n"
  return metadata

structure Anchor where
  state : Record
  head : Lv
  name : String

def found {α : Type} (entry : Option α) (message : String) : Except String α :=
  match entry with
  | some a => .ok a
  | none => .error message

def headRecord (storeid volname : String) (state : Record) : Record :=
  Function.update (hashOf [(.sid, storeid), (.vol, volname), (.role, "head")]) .generation
    (state .generation)

/-- The version 6 part of `_thick_read_anchor`: both objects of a Lazy volume. -/
def checkLazyObjects (storage : Storage) (volname : String) (lvs : Inventory) (state : Record)
    (head : Lv) : Except String Unit := do
  let expected := hashOf [(.sid, storage.storeid), (.vol, volname), (.tx, text state .tx),
    (.kind, "data"), (.bytes, text state .bytes), (.region, text state .region)]
  validateLazyObjectTags head.tags expected
  dieIf (head.bytes ≠ numberOf state .bytes) "Lazy Thick data size differs from its signed anchor\n"
  dieIf (head.uuid ≠ text state .dataUuid) "Lazy Thick data UUID differs from its signed anchor\n"
  let metadata ← found (lvs.lookup (text state .metadata)) ("Lazy Thick metadata '" ++
    storage.vgname ++ "/" ++ text state .metadata ++ "' is missing\n")
  let size ← metadataBytes (numberOf state .bytes) (numberOf state .region)
  let expected := hashOf [(.sid, storage.storeid), (.vol, volname), (.tx, text state .tx),
    (.kind, "metadata"), (.bytes, Nat.repr size), (.region, text state .region)]
  validateLazyObjectTags metadata.tags expected
  dieIf (metadata.bytes < size) "Lazy Thick metadata LV is smaller than its signed geometry\n"
  dieIf (metadata.uuid ≠ text state .metadataUuid)
    "Lazy Thick metadata UUID differs from its signed anchor\n"

def versionNumber (state : Record) : Nat := (numify ((state .v).getD "0")).value

/-- `_thick_read_anchor` -/
def readAnchor (storage : Storage) (volname : String) (lvs : Inventory) :
    Except String Anchor := do
  let space ← thickNamespace storage
  let name ← anchorName space volname
  let path := storage.vgname ++ "/" ++ name
  let info ← found (lvs.lookup name) ("thick-generations anchor '" ++ path ++ "' is missing\n")
  let state ← decodeAnchorTags (.array info.tags)
  dieIf (text state .sid ≠ storage.storeid || text state .vol ≠ volname)
    ("thick-generations anchor '" ++ path ++ "' belongs to another storage or volume\n")
  let head ← found (lvs.lookup (text state .head)) ("thick-generations head '" ++
    storage.vgname ++ "/" ++ text state .head ++ "' is missing\n")
  if versionNumber state = 6 then checkLazyObjects storage volname lvs state head
  else validateGenerationTags head.tags (headRecord storage.storeid volname state)
  return ⟨state, head, name⟩

/-- `_thick_anchor` -/
def thickAnchor (storage : Storage) (volname : String) (lvs : Inventory) :
    Except String Anchor := do
  let anchor ← readAnchor storage volname lvs
  dieIf (text anchor.state .phase ≠ "MATERIALIZED") ("thick-generations anchor '" ++
    storage.vgname ++ "/" ++ anchor.name ++ "' is not materialized; recovery required\n")
  return anchor

structure Snapshot where
  name : String
  generation : Nat
  info : Lv

/-- The `eval` of `_thick_find_snapshot` on one generation. -/
def snapshotOf? (storage : Storage) (volname snap key : String) (lvs : Inventory) (name : String) :
    Option Snapshot := do
  let digits ← generationDigits? key name
  let info ← lvs.lookup name
  let decoded ← (decodeGenerationTags (.array info.tags)).toOption
  guard (text decoded .sid = storage.storeid)
  guard (text decoded .vol = volname ∧ text decoded .role = "snapshot" ∧
    numberOf decoded .generation = (numify digits).value ∧ text decoded .snapshot = snap)
  return ⟨name, (numify digits).value, info⟩

/-- `_thick_find_snapshot` -/
def findSnapshot (storage : Storage) (volname snap : String) (lvs : Inventory) :
    Except String Snapshot := do
  let snap ← snapshotName (some snap)
  let space ← thickNamespace storage
  let key ← objectKey space volname
  let hits := (generationsOf key lvs).filterMap (snapshotOf? storage volname snap key lvs)
  match hits with
  | [hit] => return hit
  | _ => .error ("snapshot '" ++ snap ++ "' for '" ++ volname ++ "' is missing or ambiguous\n")

/-! ## Probes of one logical volume -/

def lvPath (env : Env) (lv : String) : String := env.storage.vgname ++ "/" ++ lv

/-- A report on one logical volume; LVM refuses a name that does not exist. -/
def report (env : Env) (check : Check) (lv message : String) : Op Lv := do
  ask env check
  let s ← read
  lift (found (s.store.find lv) message)

/-- `_thick_verify_snapshot_readonly` -/
def verifySnapshotReadonly (env : Env) (lv : String) : Op Unit := do
  let info ← report env (.attributes lv) lv
    ("reading snapshot permissions of '" ++ lvPath env lv ++ "' failed")
  refuse (!info.readonly) ("snapshot '" ++ lvPath env lv ++ "' is not read-only\n")

/-- `_thick_verify_autoactivation_disabled` -/
def verifyAutoactivationDisabled (env : Env) (lv : String) : Op Unit := do
  let info ← report env (.autoactivation lv) lv
    ("reading Thick autoactivation state of '" ++ lvPath env lv ++ "' failed")
  let state := trim (lc info.autoactivation)
  refuse (state ≠ "0") ("Thick autoactivation postcondition failed: '" ++ lvPath env lv ++
    "' has lv_autoactivation='" ++ state ++ "', expected '0'\n")

/-- `_dm_kernel_inventory` -/
def kernelInventory (env : Env) : Op Kernel := do
  ask env .kernel
  let s ← read
  return s.kernel

/-- `_block_device_exists`, and `_thick_frontend_open_count` where it does. -/
def refuseOpen (env : Env) (mapper message : String) : Op Unit := do
  let kernel ← kernelInventory env
  match kernel.lookup mapper with
  | none => pure ()
  | some mapping => refuse (mapping.opens ≠ 0) message

/-- `_thick_verify_mapper_absent` -/
def verifyMapperAbsent (env : Env) (mapper message : String) : Op Unit := do
  let kernel ← kernelInventory env
  refuse (kernel.lookup mapper).isSome (message ++ "\n")

/-- A UUID without its hyphens. -/
def dense (uuid : String) : String := String.ofList (uuid.toList.filter (· ≠ '-'))

/-- `_thick_verify_active_lv_identity` -/
def verifyActiveLvIdentity (env : Env) (lv : String) (mapping : Mapping) : Op Unit := do
  let info ← report env (.attributes lv) lv
    ("reading active Thick LV identity of '" ++ lvPath env lv ++ "' failed")
  let s ← read
  refuse (mapping.uuid ≠ "LVM-" ++ dense s.store.uuid ++ dense info.uuid)
    ("kernel identity of active Thick LV '" ++ lvPath env lv ++
      "' does not match its scoped LVM UUID\n")

def verifyMapped (env : Env) (kernel : Kernel) (lv : String) : Op Unit :=
  match kernel.lookup (lvMapperName env.storage.vgname lv) with
  | none => pure ()
  | some mapping => verifyActiveLvIdentity env lv mapping

/-- `/^[A-Za-z0-9+_.-]+$/` on the name of a logical volume. -/
def isLvName (lv : String) : Bool := plus Thick.isTokenChar lv

/-- `_thick_deactivate_exact_lvs` -/
def deactivateExactLvs (env : Env) (message : String) (lvs : List String) : Op Unit := do
  refuse (lvs = []) "exact Thick deactivation requires at least one LV\n"
  refuse (!lvs.all isLvName || !lvs.Nodup)
    "exact Thick deactivation contains an invalid or duplicate LV name\n"
  let before ← kernelInventory env
  each lvs (verifyMapped env before)
  runProven env (.deactivate lvs)
    (message ++ "; deactivation result is UNKNOWN because exact kernel absence is unproven; " ++
      "no retry attempted: ") do
    let after ← kernelInventory env
    each lvs fun lv =>
      refuse (after.lookup (lvMapperName env.storage.vgname lv)).isSome
        ("exact Thick LV '" ++ lvPath env lv ++ "' remains active after deactivation\n")

/-! ## Intents and tags -/

/-- `_read_vg_intent` -/
def readVgIntent (env : Env) : Op (Option Record) := do
  ask env .vgTags
  let s ← read
  lift (decodeVgIntentTags (.array s.store.vgTags))

/-- `_require_no_vg_intent` -/
def requireNoVgIntent (env : Env) : Op Unit := do
  let intent ← readVgIntent env
  match intent with
  | none => pure ()
  | some intent => throwMessage ("VG '" ++ env.storage.vgname ++ "' has unresolved transaction '" ++
      text intent .tx ++ "' (" ++ text intent .op ++ " " ++ text intent .object ++
      "); mutation refused\n")

def sameIntent (intent expected : Record) : Bool :=
  [Field.tx, .state, .op, .object, .before].all fun f => text intent f = text expected f

/-- `_require_exact_vg_intent` -/
def requireExactVgIntent (env : Env) (expected : Record) : Op Unit := do
  let intent ← readVgIntent env
  match intent with
  | none => throwMessage ("VG '" ++ env.storage.vgname ++ "' has no recoverable mutation intent\n")
  | some intent => refuse (!sameIntent intent expected) ("VG '" ++ env.storage.vgname ++
      "' mutation intent does not match the requested transaction\n")

def intentOf (tx op object before : String) : Record :=
  hashOf [(.tx, tx), (.state, "OPEN"), (.op, op), (.object, object), (.before, before)]

/-- `_set_vg_intent` -/
def setVgIntent (env : Env) (intent : Record) : Op Unit := do
  requireNoVgIntent env
  let observed ← vgStateDigest env
  refuse (observed ≠ text intent .before)
    ("VG '" ++ env.storage.vgname ++ "' changed before mutation intent could be committed\n")
  let tags ← lift (vgIntentTags intent)
  runProven env (.changeVgTags [] tags)
    ("setting mutation intent on VG '" ++ env.storage.vgname ++ "' failed; outcome is UNKNOWN " ++
      "because the exact persisted postcondition is unproven; no retry attempted: ") do
    let after ← readVgIntent env
    refuse (!(after.map fun after => sameIntent after intent).getD false)
      ("VG '" ++ env.storage.vgname ++ "' mutation-intent postcondition failed\n")

/-- `_clear_vg_intent` -/
def clearVgIntent (env : Env) (expected : Record) : Op Unit := do
  let current ← readVgIntent env
  match current with
  | none => throwMessage ("VG '" ++ env.storage.vgname ++
      "' mutation-intent clear precondition failed\n")
  | some current =>
    refuse (!sameIntent current expected) ("VG '" ++ env.storage.vgname ++
      "' mutation-intent clear precondition failed\n")
    let tags ← lift (vgIntentTags current)
    runProven env (.changeVgTags tags [])
      ("clearing mutation intent on VG '" ++ env.storage.vgname ++ "' failed; outcome is " ++
        "UNKNOWN because exact absence is unproven; no retry attempted: ") do
      let after ← readVgIntent env
      refuse after.isSome
        ("VG '" ++ env.storage.vgname ++ "' mutation-intent clear postcondition failed\n")

/-- The reader inside `_change_exact_tags`. -/
def readExactTags (env : Env) (lv : String) : Op (List String) := do
  let info ← report env (.tags lv) lv
    ("reading exact tag state of '" ++ lvPath env lv ++ "' failed")
  let tags := info.tags.map trim
  refuse ("" ∈ tags || !tags.Nodup)
    ("tag state of '" ++ lvPath env lv ++ "' contains an empty or duplicate tag\n")
  return tags

/-- Equal sizes, and nothing on the right that is not on the left. -/
def sameTags (left right : List String) : Bool :=
  left.length = right.length && right.all (· ∈ left)

/-- `_change_exact_tags` -/
def changeExactTags (env : Env) (lv : String) (delete add : List String) (message : String) :
    Op Unit := do
  let before ← readExactTags env lv
  refuse (!sameTags before delete)
    ("tag mutation precondition failed for '" ++ lvPath env lv ++ "'\n")
  runProven env
    (.changeTags lv (delete.filter (· ∉ add)) (add.filter (· ∉ delete)))
    (message ++ "; tag mutation outcome is UNKNOWN because the exact postcondition is unproven; " ++
      "no retry attempted: ") do
    let after ← readExactTags env lv
    refuse (!sameTags after add) ("tag mutation postcondition failed for '" ++ lvPath env lv ++
      "'; state preserved for recovery\n")

end SharedLvmThin.ThickVolume
