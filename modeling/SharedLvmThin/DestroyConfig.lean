import SharedLvmThin.PerlData
import SharedLvmThin.Sha256

/-! What guarded VM destroy reads from a VM configuration and from an observation of the
remaining VM-scoped state. The qemu-server parsers are given as functions. -/

namespace SharedLvmThin.VMDestroy
open Perl

structure ConfigParsers where
  parseVolume : String → Value → Except String Value
  driveIsCdrom : Value → Except String Bool

/-- What follows a literal at the start of a text. -/
def after (word s : String) : Option String :=
  if word.toList.isPrefixOf s.toList then some (String.ofList (s.toList.drop word.length)) else none

def numbered (word s : String) : Bool := (after word s).any (plus isDigit)

/-- `/^net\d+$/` -/
def isNetKey (key : String) : Bool := numbered "net" (body key)

/-- `/^(?:(?:ide|sata|scsi|virtio|unused)\d+|efidisk0|tpmstate0|vmstate)$/` -/
def isVolumeKey (key : String) : Bool :=
  ["ide", "sata", "scsi", "virtio", "unused"].any (fun bus => numbered bus (body key)) ||
    body key ∈ ["efidisk0", "tpmstate0", "vmstate"]

def containsFleec (key : String) : Bool :=
  "fleec".toList <:+: key.toList.map Char.toLower

def isSpecialKey (key : String) : Bool := (after "special:" key).isSome

/-- `[A-Za-z0-9][A-Za-z0-9_.-]*` -/
def isSimpleName (s : String) : Bool :=
  match s.toList with
  | [] => false
  | c :: rest => c.isAlphanum && rest.all fun d => d.isAlphanum || d ∈ ['_', '.', '-']

/-- `/^vm-$vmid-state-.../` -/
def isStateName (vmid name : String) : Bool :=
  (after ("vm-" ++ vmid ++ "-state-") (body name)).any isSimpleName

def isOwnVolumeName (vmid name : String) : Bool :=
  (after ("vm-" ++ vmid ++ "-disk-") (body name)).any (plus isDigit) || isStateName vmid name ||
    body name = "vm-" ++ vmid ++ "-cloudinit"

/-- `/^([A-Za-z0-9][A-Za-z0-9_.-]*):([^\s,]+)$/` -/
def splitVolid (file : String) : Option (String × String) :=
  let storage := String.ofList (file.toList.takeWhile (· ≠ ':'))
  match file.toList.dropWhile (· ≠ ':') with
  | [] => none
  | _ :: rest =>
    let name := body (String.ofList rest)
    if isSimpleName storage && plus (fun c => !isSpace c && c ≠ ',') name then
      some (storage, name)
    else none

/-- A non-empty `special-sections`, or one that is no hash. -/
def nonEmptySection (v : Value) : Bool := !v.isHash || !v.fields.isEmpty

def checkSectionKey (key : String) (value : Value) : Except String Unit := do
  dieIf (isNetKey key) "VM destroy refuses unjournalled network/IPAM side effects"
  dieIf (key = "snapstate" || key = "lock" || containsFleec key || isSpecialKey key)
    "VM destroy refuses unfinished/special/fleecing configuration"
  dieIf (key = "special-sections" && nonEmptySection value)
    "VM destroy refuses special configuration"

/-- The volume a section entry owns, if it has an effect at all. -/
def entryVolid (parsers : ConfigParsers) (vmid : String) (storecfg : Value) (key : String)
    (value : Value) : Except String (Option String) := do
  checkSectionKey key value
  if !isVolumeKey key then return none
  let drive ← parsers.parseVolume key value
  dieIf (!drive.isHash || !(drive.get "file").isDefined)
    ("VM destroy volume parse is ambiguous for '" ++ key ++ "'")
  let file := (drive.get "file").text
  let cdrom ← parsers.driveIsCdrom drive
  if cdrom || (after "/" file).isSome then return none
  match splitVolid file with
  | none => .error "VM destroy refuses unknown storage or foreign volume"
  | some (sid, name) =>
    let scfg := (storecfg.get "ids").get sid
    dieIf (!scfg.isHash || (scfg.get "type").text ≠ "sharedlvmthin" || !isOwnVolumeName vmid name)
      "VM destroy refuses unknown storage or foreign volume"
    dieIf (key = "vmstate" && !isStateName vmid name) "VM destroy vmstate identity is not exact"
    return some file

def sectionVolids (parsers : ConfigParsers) (vmid : String) (storecfg : Value) :
    List (String × Value) → Except String (List String)
  | [] => .ok []
  | (key, value) :: rest => do
    let volid ← entryVolid parsers vmid storecfg key value
    let volids ← sectionVolids parsers vmid storecfg rest
    return volid.toList ++ volids

def allVolids (parsers : ConfigParsers) (vmid : String) (storecfg : Value) :
    List Value → Except String (List String)
  | [] => .ok []
  | «section» :: rest => do
    dieIf (!«section».isHash) "VM destroy section is unknown"
    let volids ← sectionVolids parsers vmid storecfg «section».fields
    let others ← allVolids parsers vmid storecfg rest
    return volids ++ others

/-- `_config_volids` -/
def configVolids (parsers : ConfigParsers) (vmid : String) (conf storecfg : Value) :
    Except String (List String) := do
  dieIf (!conf.isHash) "VM destroy config inventory is unknown"
  dieIf ((conf.get "template").truthy || (conf.get "protection").truthy)
    "VM destroy refuses template/protection"
  dieIf (conf.has "lock") "VM destroy refuses config lock"
  dieIf (conf.has "pending" && nonEmptySection (conf.get "pending"))
    "VM destroy refuses pending configuration"
  dieIf (conf.has "snapshots" && !(conf.get "snapshots").isHash)
    "VM destroy snapshot inventory is unknown"
  let snapshots := (conf.get "snapshots").fields
  let volids ← allVolids parsers vmid storecfg (conf :: snapshots.map Prod.snd)
  dieIf (snapshots.any fun snapshot => (after "PENDING" snapshot.1).isSome || isSpecialKey snapshot.1)
    "VM destroy refuses special snapshot section"
  return (volids.dedup).insertionSort (· ≤ ·)

def derivedSections : List String := ["snapshots", "pending", "special-sections"]

/-- `_is_zombie`: nothing but the lock, next to fields the parser derives. -/
def isZombie (conf : Value) : Except String Bool :=
  if !conf.isHash then .ok false
  else if conf.has "digest" && !exactly 40 isLowerHex (body (conf.get "digest").text) then .ok false
  else if derivedSections.any fun key => conf.has key && nonEmptySection (conf.get key) then
    .ok false
  else do
    let stored := conf.fields.filter fun field => field.1 ∉ "digest" :: derivedSections
    let text ← (Value.hash stored).canonical
    let expected ← (Value.hash [("lock", .str "destroyed")]).canonical
    return text = expected

/-! ## Observed finalization state -/

def isPresence (v : Value) : Bool := body v.text ∈ ["ABSENT", "PRESENT"]

def isSha256 (v : Value) : Bool := exactly 64 isLowerHex (body v.text)

/-- `_validate_finalization_state` -/
def validateFinalizationState (vmid : String) (state : Value) : Except String Unit := do
  dieIf (!state.isHash || (state.get "vmid").text ≠ vmid) "VM destroy finalization state is UNKNOWN"
  forEach ["acl", "firewall", "config"] fun name =>
    dieIf (!isPresence (state.get name)) ("VM destroy " ++ name ++ " postcondition is UNKNOWN")
  dieIf ((state.get "config").text = "PRESENT" && !isSha256 (state.get "config_sha256"))
    "VM destroy present config identity is UNKNOWN"

/-- `sha256_hex(_canonical($v))` -/
def digestOf (v : Value) : Except String String := do
  let text ← v.canonical
  Sha256.sha256Hex text

/-- `_assert_finalization_identity` -/
def assertFinalizationIdentity (state zombie : Value) : Except String Unit :=
  if (state.get "config").text = "PRESENT" then do
    let digest ← digestOf zombie
    dieIf ((state.get "config_sha256").text ≠ digest)
      "VM destroy zombie identity changed during finalization"
  else
    dieIf ((state.get "acl").text ≠ "ABSENT" || (state.get "firewall").text ≠ "ABSENT")
      "VM destroy config absent with remaining VM-scoped state; VMID reuse is ambiguous"

end SharedLvmThin.VMDestroy
