import SharedLvmThin.ThickVolumeSteps
import SharedLvmThin.ThinOwner

/-! The admission of a migration bridge. A bridge run reserves a volume group by three tags that
name its transaction and its node; every other mutation of the group reads them under the lock of
the group before its first command. -/

namespace SharedLvmThin.Bridge
open Perl Effects ThickVolume
open Thin (isNodeName)

/-! ## Tags -/

structure Holder where
  tx : String
  node : String
deriving DecidableEq

def schemaTag : String := "pve-slt-bridge-v1"
def txTag (tx : String) : String := "pve-slt-bridge-tx-" ++ tx
def nodeTag (node : String) : String := "pve-slt-bridge-node-" ++ node

def Holder.tags (h : Holder) : List String := [schemaTag, txTag h.tx, nodeTag h.node]

def isTx (s : String) : Bool := exactly 32 isLowerHex s

-- A reported line ends before its line feed, so that `$` is the end of a tag.
def txOf? (tag : String) : Option String := (stripPrefix? "pve-slt-bridge-tx-" tag).filter isTx

def nodeOf? (tag : String) : Option String :=
  (stripPrefix? "pve-slt-bridge-node-" tag).filter isNodeName

def isBridgeTag (tag : String) : Bool := (stripPrefix? "pve-slt-bridge-" tag).isSome

/-- `_bridge_admission_state`: the holder, if the admission is active. -/
def bridgeAdmissionState (vg : String) (tags : List String) : Except String (Option Holder) := do
  forEach tags fun tag =>
    dieIf (isBridgeTag tag && tag ≠ schemaTag && (txOf? tag).isNone && (nodeOf? tag).isNone)
      ("malformed migration-bridge admission tag '" ++ tag ++ "'\n")
  let message := "ambiguous migration-bridge admission state on VG '" ++ vg ++ "'\n"
  match tags.count schemaTag, tags.filterMap txOf?, tags.filterMap nodeOf? with
  | 0, [], [] => return none
  | 1, [tx], [node] => return some ⟨tx, node⟩
  | _, _, _ => .error message

/-! ## The command -/

inductive Action
  | acquire
  | release
deriving DecidableEq

/-- `_thin_local_node` and the transaction and node of the caller's environment. -/
structure Context where
  localNode : Except String String
  tx : Option String
  node : Option String

def readAdmission (env : Env) : Op (Option Holder) := do
  ask env .vgTags
  let s ← read
  lift (bridgeAdmissionState env.storage.vgname s.store.vgTags)

def refusedFor (h : Holder) : String :=
  "migration-bridge admission is held by node '" ++ h.node ++ "' transaction '" ++ h.tx ++ "'\n"

def acquire (env : Env) (h : Holder) : Op String := do
  let before ← readAdmission env
  match before with
  | some held =>
    refuse (held ≠ h) (refusedFor held)
    return "BRIDGE_ADMISSION_ALREADY_HELD"
  | none =>
    runCommand env (.changeVgTags [] h.tags)
    let after ← readAdmission env
    refuse (after ≠ some h) "migration-bridge admission acquire postcondition failed\n"
    return "BRIDGE_ADMISSION_ACQUIRED"

def release (env : Env) (h : Holder) : Op String := do
  let before ← readAdmission env
  match before with
  | none => throwMessage "migration-bridge admission release refused: no admission is held\n"
  | some held =>
    refuse (held ≠ h) "migration-bridge admission release refused: exact owner mismatch\n"
    runCommand env (.changeVgTags h.tags [])
    let after ← readAdmission env
    refuse after.isSome "migration-bridge admission release postcondition failed\n"
    return "BRIDGE_ADMISSION_RELEASED"

/-- `_with_vg_lock` where the admission is bypassed. -/
def withVgLockBypass {α : Type} (env : Env) (code : Op α) : Op α := do
  ask env .quorum
  ask env .clusterLock
  ask env .quorum
  ask env .storageIdentity
  ask env .aliasConfiguration
  ask env .failureDomain
  ask env .noWorker
  code

/-- `_bridge_admission` -/
def bridgeAdmission (env : Env) (context : Context) (action : Action) (tx node : String) :
    Op String := do
  refuse (!isTx (body tx)) "invalid migration-bridge transaction ID\n"
  refuse (!isNodeName (body node)) "invalid migration-bridge node\n"
  let h : Holder := ⟨body tx, body node⟩
  let localNode ← lift context.localNode
  refuse (h.node ≠ localNode) ("migration-bridge admission node '" ++ h.node ++
    "' is not local node '" ++ localNode ++ "'\n")
  withVgLockBypass env do
    requireNoVgIntent env
    match action with
    | .acquire => acquire env h
    | .release => release env h

/-! ## The gate -/

/-- `_require_bridge_admission_compatible` -/
def requireBridgeAdmissionCompatible (env : Env) (context : Context) : Op Unit := do
  let state ← readAdmission env
  match state with
  | none => pure ()
  | some h =>
    let tx := context.tx.getD ""
    let node := context.node.getD ""
    refuse (!isTx (body tx) || !isNodeName (body node) || tx ≠ h.tx || node ≠ h.node)
      ("VG '" ++ env.storage.vgname ++ "' is reserved by migration bridge transaction '" ++ h.tx ++
        "' on node '" ++ h.node ++ "'; unrelated mutation refused\n")
    let localNode ← lift context.localNode
    refuse (node ≠ localNode)
      ("migration-bridge mutation context node '" ++ node ++ "' is not local\n")

/-- `_with_vg_lock` -/
def withVgLock {α : Type} (env : Env) (context : Context) (code : Op α) : Op α := do
  ask env .quorum
  ask env .clusterLock
  ask env .quorum
  ask env .storageIdentity
  ask env .aliasConfiguration
  ask env .failureDomain
  requireBridgeAdmissionCompatible env context
  ask env .noWorker
  code

end SharedLvmThin.Bridge
