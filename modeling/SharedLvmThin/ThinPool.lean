import SharedLvmThin.Effects
import SharedLvmThin.ThinOwner

/-!
# Operations on a shared thin pool

One VM's thin pool, as the volume group records it and as the kernels of the nodes hold it.
An operation runs on one node. It reads the shared state, asks its environment for what a
read-only check or a helper answers, and issues LVM commands. A command may take effect or
not and may report success or not, so an operation stopped half way is a run in which no
later command takes effect.
-/

namespace SharedLvmThin.Thin
open Perl KeyedLists Effects

/-! ## The shared state -/

/-- The pool in one kernel: its own mapper, and the volumes mapped over it. -/
structure Kernel where
  pool : Bool
  children : List String
deriving DecidableEq

structure PoolInfo where
  lvType : String
  tags : List String

structure Cluster where
  pool : Option PoolInfo
  -- the other logical volumes of the volume group, each with the pool it lives in
  volumes : List (String × Option String)
  kernel : String → Kernel

def Cluster.tags (c : Cluster) : List String := (c.pool.map PoolInfo.tags).getD []

def Cluster.has (c : Cluster) (lv : String) : Bool := (c.volumes.lookup lv).isSome

def Cluster.poolOf (c : Cluster) (lv : String) : Option String := (c.volumes.lookup lv).getD none

def Cluster.setKernel (c : Cluster) (node : String) (k : Kernel) : Cluster :=
  { c with kernel := Function.update c.kernel node k }

def Cluster.setTags (c : Cluster) (f : List String → List String) : Cluster :=
  { c with pool := c.pool.map fun p => { p with tags := f p.tags } }

def Cluster.setLvType (c : Cluster) (lvType : String) : Cluster :=
  { c with pool := c.pool.map fun p => { p with lvType } }

def Cluster.addVolume (c : Cluster) (lv pool : String) : Cluster :=
  { c with volumes := c.volumes ++ [(lv, some pool)] }

def Cluster.dropVolume (c : Cluster) (lv : String) : Cluster :=
  { c with volumes := c.volumes.filter fun v => v.1 ≠ lv }

inductive Command
  -- lvchange
  | addTags (tags : List String)
  | delTags (tags : List String)
  | activate (lv : String)
  | deactivate (lv : String)
  | deactivatePool
  | unmonitorPool
  | disableAutoactivation (lv : String)
  -- lvcreate, lvconvert, lvextend, lvremove, lvrename
  | createPool
  | convertPool
  | create (lv : String)
  | snapshot (lv origin : String)
  | extend (lv : String)
  | extendPool
  | remove (lv : String)
  | removePool
  | rename (lv name : String)
deriving DecidableEq

/-- The commands that change the pool or one of its volumes. -/
def Command.mutates : Command → Bool
  | .createPool | .convertPool | .create _ | .snapshot .. | .extend _ | .extendPool | .remove _
  | .removePool | .rename .. => true
  | _ => false

/-- How LVM answers one command. After the last child is gone the pool mapper may stay. -/
structure Answer where
  applied : Bool
  keepsPool : Bool
  reported : Except String Unit

def Kernel.map (k : Kernel) (lv : String) : Kernel := ⟨true, (k.children.filter (· ≠ lv)) ++ [lv]⟩

def Kernel.unmap (k : Kernel) (lv : String) (keepsPool : Bool) : Kernel :=
  let children := k.children.filter (· ≠ lv)
  ⟨k.pool && (keepsPool || !children.isEmpty), children⟩

/-- The effect of a command issued on `node`, for the pool of the given name. -/
def Command.apply (pool node : String) (keepsPool : Bool) : Command → Cluster → Cluster
  | .addTags tags, c => c.setTags fun old => old ++ tags.filter (· ∉ old)
  | .delTags tags, c => c.setTags fun old => old.filter (· ∉ tags)
  | .activate lv, c => c.setKernel node ((c.kernel node).map lv)
  | .deactivate lv, c => c.setKernel node ((c.kernel node).unmap lv keepsPool)
  | .deactivatePool, c =>
    if (c.kernel node).children.isEmpty then c.setKernel node ⟨false, []⟩ else c
  | .unmonitorPool, c | .disableAutoactivation _, c | .extend _, c | .extendPool, c => c
  | .createPool, c => { c with pool := some ⟨"-", []⟩ }
  | .convertPool, c => (c.setLvType "t").setKernel node { c.kernel node with pool := true }
  -- lvcreate into an inactive pool maps the pool and the new volume
  | .create lv, c => (c.addVolume lv pool).setKernel node ((c.kernel node).map lv)
  | .snapshot lv _, c => (c.addVolume lv pool).setKernel node ((c.kernel node).map lv)
  | .remove lv, c => (c.dropVolume lv).setKernel node ((c.kernel node).unmap lv keepsPool)
  | .removePool, c => Cluster.setKernel { c with pool := none } node ⟨false, []⟩
  | .rename lv name, c =>
    { c with volumes := c.volumes.map fun v => if v.1 = lv then (name, v.2) else v }

/-! ## One operation -/

structure Storage where
  storeid : String
  vg : String
  leaseguard : String
  haTakeover : String
  nodes : Value
  initialPoolMode : String

/-- The checks and helpers that an operation asks without changing the shared state. -/
inductive Check
  | released | lock | quorum | identity | parseName | localNode | inventory
  | poolHealth (allowCapacityTeardown : Bool)
  | autoactivation (lv : String)
  | snapshotFlags (lv : String)
  | resized (lv : String)
  | poolTags | dmIdentity | runtime
  | peerTiming | peerAnswer (node : String)
  | guard (op : String)
  | headroom | grown | reserve
  | stillActive (lv : String)
deriving DecidableEq

/-- The environment answers by how many commands were issued before. -/
structure Env where
  node : String
  storage : Storage
  vmid : String
  check : Check → Nat → Except String Unit
  outcome : Nat → Answer
  members : Option (List (String × Member))
  ha : HaStatus
  transactionId : String
  growth : Bool
  freeDiskname : Except String String
  pid : String

def Env.pool (env : Env) : String := "sltp-" ++ env.vmid

/-- A command with the pool's tags at the moment it is issued. -/
structure Issued where
  command : Command
  tags : List String
deriving DecidableEq

structure Session where
  cluster : Cluster
  issued : List Issued

abbrev Op := Prog Session

/-- `run_command` -/
def runCommand (env : Env) (command : Command) : Op Unit := fun s =>
  let outcome := env.outcome s.issued.length
  let cluster := if outcome.applied
    then command.apply env.pool env.node outcome.keepsPool s.cluster else s.cluster
  (⟨cluster, s.issued ++ [⟨command, s.cluster.tags⟩]⟩, outcome.reported)

def ask (env : Env) (check : Check) : Op Unit := fun s => (s, env.check check s.issued.length)

def cluster : Op Cluster := fun s => (s, .ok s.cluster)

/-! ## Ownership -/

/-- `_thin_owner_state_from_tags($class->_thin_pool_tags(...))` -/
def readOwner (env : Env) : Op OwnerState := do
  ask env .poolTags
  let c ← cluster
  lift (ownerStateFromTags c.tags)

structure RuntimeState where
  poolActive : Bool
  activeChildren : List String

/-- `_thin_pool_runtime_state` -/
def poolRuntimeState (env : Env) : Op RuntimeState := do
  ask env .runtime
  let c ← cluster
  refuse c.pool.isNone ("runtime thin-pool inventory is missing '" ++ env.storage.vg ++ "/" ++
    env.pool ++ "'\n")
  let children := (c.volumes.filter fun v => v.2 = some env.pool).map Prod.fst
  let kernel := c.kernel env.node
  return ⟨kernel.pool, children.filter (· ∈ kernel.children)⟩

def askPeer (env : Env) (node : String) : Op Evidence := do
  ask env (.peerAnswer node)
  let c ← cluster
  return ⟨node, (c.kernel node).pool⟩

def askPeers (env : Env) : List String → Op (List Evidence)
  | [] => pure []
  | node :: rest => do
    let item ← askPeer env node
    let items ← askPeers env rest
    return item :: items

/-- `_thin_remote_mapper_audit_locked` -/
def remoteMapperAudit (env : Env) (fenced : Option String) : Op Unit := do
  let mode := env.storage.leaseguard
  refuse (mode ∉ ["disabled", "remote-audit", "runtime-guard"])
    ("invalid slt-thin-leaseguard mode '" ++ mode ++ "'\n")
  if mode = "disabled" then pure ()
  else do
    ask env .peerTiming
    ask env .dmIdentity
    let peers ← lift (configuredPeerNodes env.members env.node env.storage.nodes fenced)
    let evidence ← askPeers env peers
    let decision ← lift (evaluatePeerMapperEvidence evidence)
    match decision with
    | .allPeersAbsent => pure ()
    | .remoteConflict node =>
      throwMessage ("UNSAFE shared LVM-thin activation refused: remote thin-pool mapper is " ++
        "present on peer '" ++ node ++ "'\n")

def poolPath (env : Env) : String := env.storage.vg ++ "/" ++ env.pool

/-- The fenced former owner gives way; the audit comes before its tags go. -/
def takeOver (env : Env) (owner : String) (state : OwnerState) : Op Unit := do
  refuse (env.storage.leaseguard = "disabled")
    "automatic PVE HA Thin takeover requires remote-audit or runtime-guard\n"
  lift (haTakeoverEvidence env.ha env.vmid owner env.node)
  remoteMapperAudit env (some owner)
  runCommand env (.delTags [ownerTag owner, epochTag (state.epoch.getD "")])
  let after ← readOwner env
  refuse (!after.schema || after.owner.isSome || after.epoch.isSome)
    ("PVE HA fenced Thin owner clear postcondition failed for '" ++ poolPath env ++ "'\n")

/-- An unowned pool is claimed once it is mapped neither here nor, unless a takeover has
audited the peers already, anywhere else. -/
def claimUnowned (env : Env) (audited : Bool) : Op String := do
  let runtime ← poolRuntimeState env
  refuse (runtime.poolActive || !runtime.activeChildren.isEmpty)
    ("UNSAFE shared LVM-thin activation refused: unowned pool '" ++ poolPath env ++
      "' already has local runtime mappings; concurrent or automatic metadata activation is " ++
      "possible; run the explicit ALL-NODES-INACTIVE hardening procedure\n")
  whenever (!audited) (remoteMapperAudit env none)
  let epoch := env.transactionId
  runCommand env (.addTags [ownerTag env.node, epochTag epoch])
  let after ← readOwner env
  refuse (!after.schema || after.owner ≠ some env.node || after.epoch ≠ some epoch)
    ("shared thin-pool ownership claim postcondition failed for '" ++ poolPath env ++ "'\n")
  return epoch

/-- `_thin_claim_pool_owner_locked` -/
def claimPoolOwner (env : Env) : Op String := do
  ask env .localNode
  let state ← readOwner env
  refuse (!state.schema)
    ("UNSAFE shared LVM-thin activation refused: pool '" ++ poolPath env ++
      "' predates the exclusive-owner schema; stop/deactivate it on every node and run the " ++
      "explicit thin-adopt-owner-model procedure\n")
  match state.owner with
  | none => claimUnowned env false
  | some owner =>
    if owner = env.node then do
      remoteMapperAudit env none
      return state.epoch.getD ""
    else if env.storage.haTakeover = "pve-ha" then do
      takeOver env owner state
      claimUnowned env true
    else
      throwMessage ("UNSAFE shared LVM-thin activation refused: pool '" ++ poolPath env ++
        "' is owned by node '" ++ owner ++ "', not '" ++ env.node ++ "'; concurrent dm-thin " ++
        "activation can corrupt metadata; direct in-place Thin live migration is unsupported " ++
        "(use the Materialized Migration Bridge for online VM migration)\n")

/-- `_thin_activation_commit_barrier_locked` -/
def activationCommitBarrier (env : Env) (epoch : String) : Op Unit := do
  refuse (!isEpoch (body epoch)) "Thin activation commit barrier received a malformed owner epoch\n"
  remoteMapperAudit env none
  let commit ← readOwner env
  refuse (!commit.schema || commit.owner ≠ some env.node || commit.epoch ≠ some epoch)
    ("UNSAFE shared LVM-thin activation refused: owner epoch changed before local activation of '" ++
      poolPath env ++ "'\n")

/-- `_thin_release_pool_owner_locked` -/
def releasePoolOwner (env : Env) (foreignCleanupOk : Bool) : Op Unit := do
  ask env .localNode
  let state ← readOwner env
  if !state.schema && state.owner.isNone && state.epoch.isNone then pure ()
  else do
    refuse (!state.schema)
      ("refusing to release shared thin-pool ownership of '" ++ poolPath env ++
        "': owner schema is absent\n")
    match state.owner with
    | none => pure ()
    | some owner =>
      if owner ≠ env.node then
        if foreignCleanupOk then pure ()
        else throwMessage ("refusing to release shared thin-pool ownership of '" ++ poolPath env ++
          "': owner is '" ++ owner ++ "', local node is '" ++ env.node ++ "'\n")
      else do
        runCommand env (.delTags [ownerTag env.node, epochTag (state.epoch.getD "")])
        let after ← readOwner env
        refuse (!after.schema || after.owner.isSome || after.epoch.isSome)
          ("shared thin-pool ownership release postcondition failed for '" ++ poolPath env ++ "'\n")

/-! ## Checks of a volume -/

def lvPath (env : Env) (lv : String) : String := env.storage.vg ++ "/" ++ lv

/-- `_verify_owned_volume` -/
def verifyOwnedVolume (env : Env) (volname : String) (allowCapacityTeardown : Bool) : Op Unit := do
  ask env .inventory
  let c ← cluster
  let start := "refusing to mutate '" ++ lvPath env volname ++ "': "
  match c.pool with
  | none => throwMessage (start ++ "ownership pool '" ++ env.pool ++ "' is missing\n")
  | some pool => do
    refuse (pool.lvType ≠ "t") (start ++ "'" ++ env.pool ++ "' is not a thin pool\n")
    ask env (.poolHealth allowCapacityTeardown)
    refuse (sidTag env.storage.storeid ∉ pool.tags)
      (start ++ "pool ownership is not positively proven for storage '" ++ env.storage.storeid ++ "'\n")
    refuse (!c.has volname) (start ++ "volume is missing\n")
    refuse (c.poolOf volname ≠ some env.pool)
      (start ++ "volume is not in expected pool '" ++ env.pool ++ "'\n")

/-- `_verify_snapshot_postcondition` -/
def verifySnapshotPostcondition (env : Env) (snapvol : String) (mustExist : Bool) : Op Unit := do
  ask env .inventory
  let c ← cluster
  if mustExist then do
    refuse (!c.has snapvol)
      ("snapshot postcondition failed: '" ++ lvPath env snapvol ++ "' is missing\n")
    refuse (c.poolOf snapvol ≠ some env.pool)
      ("snapshot postcondition failed: '" ++ lvPath env snapvol ++ "' is not in pool '" ++
        env.pool ++ "'\n")
    ask env (.snapshotFlags snapvol)
  else
    refuse (c.has snapvol)
      ("snapshot delete postcondition failed: '" ++ lvPath env snapvol ++ "' still exists\n")

/-- `_disable_and_verify_autoactivation` -/
def disableAutoactivation (env : Env) (lv : String) : Op Unit := do
  runCommand env (.disableAutoactivation lv)
  ask env (.autoactivation lv)

def snapName (volname snap : String) : String := "snap_" ++ volname ++ "_" ++ snap

/-- `$snapname ? "snap_${volname}_${snapname}" : $volname` -/
def lvOf (volname : String) (snapname : Option String) : String :=
  if Perl.truthy snapname then snapName volname (snapname.getD "") else volname

/-! ## Activation and deactivation -/

def guarded (env : Env) : Bool := env.storage.leaseguard = "runtime-guard"

def prepareGuard (env : Env) : Op Unit := do
  ask env .dmIdentity
  let answer ← attempt (ask env (.guard "PREPARE"))
  match answer with
  | .ok _ => pure ()
  | .error message => do
    -- no local mapper exists yet: giving the fresh epoch back is a bounded rollback
    releasePoolOwner env false
    throwMessage ("ThinGuard refused activation before lvchange: " ++ message)

def runtimeBefore (env : Env) : Op RuntimeState :=
  if guarded env then poolRuntimeState env else pure ⟨false, []⟩

/-- `_activate_thin_volume_locked` -/
def activateThinVolumeLocked (env : Env) (volname : String) (snapname : Option String) :
    Op Unit := do
  let lv := lvOf volname snapname
  ask env .parseName
  verifyOwnedVolume env volname false
  ask env (.autoactivation env.pool)
  ask env (.autoactivation lv)
  let before ← runtimeBefore env
  let epoch ← claimPoolOwner env
  whenever (guarded env && !before.poolActive) (prepareGuard env)
  activationCommitBarrier env epoch
  runCommand env (.activate lv)

/-- The bounded wait for the requested volume, never for a sibling. -/
def waitGone (env : Env) (lv : String) : Nat → RuntimeState → Op RuntimeState
  | 0, state => pure state
  | n + 1, state =>
    if lv ∈ state.activeChildren then do
      let state ← poolRuntimeState env
      waitGone env lv n state
    else pure state

def releaseGuard (env : Env) (owner : OwnerState) : Op Unit :=
  whenever (guarded env && owner.owner = some env.node) (ask env (.guard "RELEASE"))

def deactivateIdlePool (env : Env) (owner : OwnerState) (state : RuntimeState) : Op Unit := do
  whenever state.poolActive (runCommand env .deactivatePool)
  let after ← poolRuntimeState env
  refuse after.poolActive
    ("thin-pool deactivation postcondition failed: '" ++ poolPath env ++ "' remains active\n")
  refuse (!after.activeChildren.isEmpty)
    ("thin-pool deactivation postcondition failed: active children remain in '" ++ poolPath env ++
      "'\n")
  releasePoolOwner env true
  releaseGuard env owner

def guardOwner (env : Env) : Op OwnerState :=
  if guarded env then readOwner env else pure ⟨false, none, none⟩

/-- `_deactivate_thin_volume_locked` -/
def deactivateThinVolumeLocked (env : Env) (volname : String) (snapname : Option String) :
    Op Unit := do
  let lv := lvOf volname snapname
  ask env .parseName
  ask env .identity
  verifyOwnedVolume env volname true
  let owner ← guardOwner env
  whenever (guarded env) (ask env .dmIdentity)
  let state ← poolRuntimeState env
  whenever ((state.activeChildren.filter (· ≠ lv)).isEmpty && state.poolActive)
    (runCommand env .unmonitorPool)
  runCommand env (.deactivate lv)
  let state ← poolRuntimeState env
  let state ← waitGone env lv 20 state
  refuse (lv ∈ state.activeChildren)
    ("thin LV deactivation postcondition failed: '" ++ lvPath env lv ++ "' remains active\n")
  whenever state.activeChildren.isEmpty (deactivateIdlePool env owner state)

/-- `activate_volume` and the other entry points for a Thin storage. -/
def admitted (env : Env) (op : Op Unit) : Op Unit := do
  ask env .released
  ask env .lock
  op

def activateVolume (env : Env) (volname : String) (snapname : Option String) : Op Unit :=
  admitted env (activateThinVolumeLocked env volname snapname)

-- Teardown is not closed by a package transaction.
def deactivateVolume (env : Env) (volname : String) (snapname : Option String) : Op Unit := do
  ask env .lock
  deactivateThinVolumeLocked env volname snapname

/-! ## Allocation -/

def isGuestDisk (vmid name : String) : Bool :=
  (after? ("vm-" ++ vmid ++ "-disk-") name).any (plus isDigit)

def isAuxiliary (vmid name : String) : Bool :=
  (after? ("vm-" ++ vmid ++ "-state-") name).any isNodeName ||
    (after? ("vm-" ++ vmid ++ "-fleece-") name).any (plus isDigit) ||
    name = "vm-" ++ vmid ++ "-cloudinit"

/-- `_partial_allocation_error` -/
def partialAllocationError (env : Env) (name reason objectState : String) : String :=
  "\n".intercalate
    ["PARTIAL ALLOCATION", "Storage: " ++ env.storage.storeid, "VMID: " ++ env.vmid,
      "Object: " ++ name, "Pool: " ++ env.pool, "Preserved state: " ++ objectState,
      "Automatic cleanup was intentionally NOT performed.", "Reason: " ++ reason]

/-- `eval { ... }` whose failure is reported as a partial allocation. -/
def orPartial (env : Env) (name objectState : String) (op : Op Unit) : Op Unit := do
  let answer ← attempt op
  match answer with
  | .ok _ => pure ()
  | .error reason => throwMessage (partialAllocationError env name reason objectState)

def createPool (env : Env) (name : String) : Op Unit := do
  orPartial env name "no created object was confirmed" (runCommand env .createPool)
  orPartial env name ("backing object '" ++ poolPath env ++ "' may exist") do
    runCommand env .convertPool
    runCommand env (.addTags [sidTag env.storage.storeid, schemaTag])
    disableAutoactivation env env.pool
    ask env .reserve

/-- An existing pool is adopted only for its own storage and by its own or no owner. -/
def checkExistingPool (env : Env) (c : Cluster) (pool : PoolInfo) (name : String) :
    Except String (OwnerState × ImportState) := do
  let path := poolPath env
  dieIf (pool.lvType ≠ "t") ("existing pool '" ++ path ++ "' is not a thin pool\n")
  dieIf (sidTag env.storage.storeid ∉ pool.tags)
    ("existing pool '" ++ path ++ "' does not belong to storage '" ++ env.storage.storeid ++ "'\n")
  let owner ← ownerStateFromTags pool.tags
  dieIf (!owner.schema)
    ("existing pool '" ++ path ++ "' predates the exclusive-owner schema; allocation is blocked " ++
      "until explicit offline adoption\n")
  dieIf (owner.owner.any fun node => node ≠ env.node)
    ("refusing allocation in '" ++ path ++ "': persistent owner is '" ++ owner.owner.getD "" ++
      "', local node is '" ++ env.node ++ "'\n")
  let imported ← importStateFromTags pool.tags
  let ownedDisks := c.volumes.filter fun v => isGuestDisk env.vmid v.1 && v.2 = some env.pool
  dieIf (ownedDisks.isEmpty && !imported.active)
    ("VMID reuse requires recovery review: owned pool '" ++ path ++
      "' exists without an active owned disk; automatic adoption is disabled\n")
  dieIf (imported.active && !isGuestDisk env.vmid name)
    ("prepared Thin import pool '" ++ path ++ "' may allocate only a guest disk\n")
  return (owner, imported)

/-- `_grow_pool_for_allocation` -/
def growPool (env : Env) : Op Unit :=
  whenever env.growth do
    let _ ← attempt (runCommand env .extendPool)
    ask env .grown

def growExistingPool (env : Env) : Op Unit :=
  whenever (env.storage.initialPoolMode ≠ "fixed") do
    growPool env
    ask env (.poolHealth false)
    ask env .reserve

/-- `_deactivate_new_thin_pool_after_allocation` -/
def publishInactive (env : Env) (name : String) : Op Unit := do
  runCommand env .unmonitorPool
  runCommand env (.deactivate name)
  let c ← cluster
  whenever (c.kernel env.node).pool (runCommand env .deactivatePool)
  let c ← cluster
  refuse ((c.kernel env.node).pool || name ∈ (c.kernel env.node).children)
    ("new thin allocation publication failed: '" ++ poolPath env ++ "' remains active\n")

def ImportState.tags (imported : ImportState) : List String :=
  [importTag, "pve-slt-import-tx-" ++ imported.tx.getD "",
    "pve-slt-import-bytes-" ++ imported.bytes.getD ""]

def clearImport (env : Env) (imported : ImportState) : Op Unit := do
  runCommand env (.delTags imported.tags)
  ask env .poolTags
  let c ← cluster
  let after ← lift (importStateFromTags c.tags)
  refuse after.active
    ("prepared Thin import state clear postcondition failed for '" ++ poolPath env ++ "'\n")

/-- What the pool is when the guest volume is created. -/
structure AllocationPlan where
  createdPool : Bool
  publishInactive : Bool
  imported : ImportState

def preparePool (env : Env) (c : Cluster) (name : String) : Op AllocationPlan := do
  match c.pool with
  | none => do
    refuse (isAuxiliary env.vmid name)
      ("refusing auxiliary allocation '" ++ lvPath env name ++ "': owned VM pool '" ++
        poolPath env ++ "' does not exist\n")
    ask env .headroom
    createPool env name
    ask env (.poolHealth false)
    return ⟨true, true, ⟨false, none, none⟩⟩
  | some pool => do
    ask env .headroom
    let (owner, imported) ← lift (checkExistingPool env c pool name)
    ask env (.poolHealth false)
    growExistingPool env
    return ⟨false, owner.owner.isNone, imported⟩

def diskName (env : Env) (name : Option String) : Op String :=
  if Perl.truthy name then pure (name.getD "") else lift env.freeDiskname

/-- `_alloc_image_locked` -/
def allocImageLocked (env : Env) (fmt name : Option String) : Op Unit := do
  refuse (fmt.any fun f => f ≠ "raw") ("unsupported format '" ++ fmt.getD "" ++ "'\n")
  ask env .quorum
  ask env .identity
  let name ← diskName env name
  refuse (!isGuestDisk env.vmid name && !isAuxiliary env.vmid name)
    ("illegal volume name '" ++ name ++ "'\n")
  ask env .inventory
  let c ← cluster
  refuse (c.has name)
    ("refusing VMID reuse for " ++ env.vmid ++ ": object '" ++ lvPath env name ++
      "' already exists; naming is not ownership proof\n")
  let plan ← preparePool env c name
  ask env .inventory
  let c ← cluster
  refuse (c.has name)
    ("volume '" ++ lvPath env name ++ "' appeared during allocation; preserving all objects\n")
  orPartial env name
    (if plan.createdPool
      then "owned pool '" ++ poolPath env ++ "' exists; guest LV completion is unknown"
      else "pre-existing owned pool '" ++ poolPath env ++ "' preserved")
    (runCommand env (.create name))
  orPartial env name
    ("guest LV '" ++ lvPath env name ++
      "' exists but safe shared-storage autoactivation state is unconfirmed")
    (disableAutoactivation env name)
  whenever (plan.createdPool || plan.imported.active || plan.publishInactive)
    (orPartial env name
      ("new thin LV '" ++ lvPath env name ++ "' exists, but inactive publication is unproven")
      (publishInactive env name))
  whenever plan.imported.active (clearImport env plan.imported)

def allocImage (env : Env) (fmt name : Option String) : Op Unit :=
  admitted env (allocImageLocked env fmt name)

/-! ## Removal -/

/-- The pool a removal may touch: none, or one of this storage with its own or no owner. -/
def checkRemovalPool (env : Env) (pool : PoolInfo) : Op Unit := do
  let path := poolPath env
  refuse (pool.lvType ≠ "t") ("refusing to modify foreign pool '" ++ path ++ "': not a thin pool\n")
  ask env (.poolHealth false)
  refuse (sidTag env.storage.storeid ∉ pool.tags && pool.tags.any isSidTag)
    ("refusing to modify foreign pool '" ++ path ++ "': owned by another storage\n")
  refuse (sidTag env.storage.storeid ∉ pool.tags)
    ("refusing to modify legacy pool '" ++ path ++ "': ownership is not positively proven\n")
  let owner ← lift (ownerStateFromTags pool.tags)
  refuse (!owner.schema)
    ("refusing to remove from '" ++ path ++ "': pool predates the exclusive-owner schema; " ++
      "explicit offline adoption is required\n")
  refuse (owner.owner.any fun node => node ≠ env.node)
    ("refusing to remove from '" ++ path ++ "': persistent owner is '" ++ owner.owner.getD "" ++
      "', local node is '" ++ env.node ++ "'\n")

def checkRemoval (env : Env) (c : Cluster) : Op Unit :=
  match c.pool with
  | none => pure ()
  | some pool => checkRemovalPool env pool

def checkMember (env : Env) (c : Cluster) (lv : String) : Op Unit := do
  refuse c.pool.isNone
    ("refusing to remove '" ++ lvPath env lv ++ "': expected pool '" ++ env.pool ++
      "' is missing\n")
  refuse (c.poolOf lv ≠ some env.pool)
    ("refusing to remove '" ++ lvPath env lv ++ "': it is not in expected pool '" ++ env.pool ++
      "'\n")

def removeSnapshotOf (env : Env) (c : Cluster) (lv : String) : Op Unit := do
  checkMember env c lv
  verifySnapshotPostcondition env lv true
  runCommand env (.remove lv)

/-- A volume that keeps the per-VM pool alive. -/
def keepsPoolInUse (env : Env) (v : String × Option String) : Bool :=
  v.2 = some env.pool || isGuestDisk env.vmid v.1 ||
    ((after? ("snap_vm-" ++ env.vmid ++ "-disk-") v.1).any fun rest =>
      let digits := rest.toList.takeWhile isDigit
      digits ≠ [] && (rest.toList.drop digits.length).head? = some '_')

def removeIdlePool (env : Env) : Op Unit := do
  ask env .inventory
  let c ← cluster
  match c.pool with
  | none => pure ()
  | some pool =>
    whenever (!c.volumes.any (keepsPoolInUse env)) do
      refuse (pool.lvType ≠ "t")
        ("refusing to remove foreign pool '" ++ poolPath env ++ "': not a thin pool\n")
      ask env (.poolHealth false)
      runCommand env .removePool

/-- `_free_image_locked` -/
def freeImageLocked (env : Env) (volname : String) : Op Unit := do
  ask env .quorum
  ask env .identity
  ask env .parseName
  ask env .inventory
  let c ← cluster
  checkRemoval env c
  whenever (c.has volname) (checkMember env c volname)
  let snapshots := (c.volumes.map Prod.fst).filter fun lv =>
    (after? (snapName volname "") lv).isSome
  each snapshots (removeSnapshotOf env c)
  ask env .inventory
  let c ← cluster
  whenever (c.has volname) (runCommand env (.remove volname))
  removeIdlePool env

def freeImage (env : Env) (volname : String) : Op Unit :=
  admitted env (freeImageLocked env volname)

/-! ## Resize and snapshots -/

/-- A command whose report is settled by an exact postcondition. -/
def settled (env : Env) (command : Command) (postcondition : Op Unit) (outcome : String) :
    Op Unit := do
  let reported ← attempt (runCommand env command)
  let post ← attempt postcondition
  match post with
  | .ok _ => pure ()
  | .error reason =>
    let report := match reported with
      | .ok _ => ""
      | .error message => message
    throwMessage (report ++ outcome ++ reason)

def resizeChecks (env : Env) (volname : String) (size : Nat) (snapname : Option String) :
    Op Unit := do
  refuse (Perl.truthy snapname) "resizing snapshots is not supported\n"
  ask env .quorum
  ask env .identity
  ask env .parseName
  verifyOwnedVolume env volname false
  ask env (.autoactivation volname)
  refuse (size = 0) "invalid resize size\n"

/-- `_volume_resize_locked` -/
def volumeResizeLocked (env : Env) (volname : String) (size : Nat) (snapname : Option String) :
    Op Unit := do
  resizeChecks env volname size snapname
  settled env (.extend volname) (ask env (.resized volname))
    ("Thin resize outcome is UNKNOWN; exact requested-size postcondition was not proven; " ++
      "no retry or shrink was attempted: ")
  ask env (.autoactivation volname)

def volumeResize (env : Env) (volname : String) (size : Nat) (snapname : Option String) :
    Op Unit :=
  admitted env (volumeResizeLocked env volname size snapname)

/-- The checks before a snapshot is created or, when it has to exist already, deleted. -/
def snapshotChecks (env : Env) (volname snap : String) (present : Bool) : Op Unit := do
  ask env .quorum
  ask env .identity
  ask env .parseName
  verifyOwnedVolume env volname false
  verifySnapshotPostcondition env (snapName volname snap) present

/-- `_volume_snapshot_locked` -/
def volumeSnapshotLocked (env : Env) (volname snap : String) : Op Unit := do
  snapshotChecks env volname snap false
  let snapvol := snapName volname snap
  settled env (.snapshot snapvol volname) (verifySnapshotPostcondition env snapvol true)
    ("Thin snapshot create outcome is UNKNOWN; exact new snapshot postcondition was not proven; " ++
      "no retry or cleanup was attempted: ")
  disableAutoactivation env snapvol
  verifySnapshotPostcondition env snapvol true

def volumeSnapshot (env : Env) (volname snap : String) : Op Unit :=
  admitted env (volumeSnapshotLocked env volname snap)

/-- `_volume_snapshot_delete_locked` -/
def volumeSnapshotDeleteLocked (env : Env) (volname snap : String) : Op Unit := do
  snapshotChecks env volname snap true
  let snapvol := snapName volname snap
  settled env (.remove snapvol) (verifySnapshotPostcondition env snapvol false)
    ("Thin snapshot delete outcome is UNKNOWN; exact absence was not proven; " ++
      "no retry was attempted: ")

def volumeSnapshotDelete (env : Env) (volname snap : String) : Op Unit :=
  admitted env (volumeSnapshotDeleteLocked env volname snap)

/-! ## Rollback -/

def checkRollbackPool (env : Env) (c : Cluster) (volname snapvol : String) : Op Unit := do
  match c.pool with
  | none => throwMessage ("rollback pool '" ++ poolPath env ++ "' is missing\n")
  | some pool => do
    refuse (pool.lvType ≠ "t") ("rollback pool '" ++ poolPath env ++ "' is not a thin pool\n")
    refuse (pool.tags.any isSidTag && sidTag env.storage.storeid ∉ pool.tags)
      ("rollback pool '" ++ poolPath env ++ "' belongs to another storage\n")
    each [volname, snapvol] fun lv => do
      refuse (!c.has lv) ("rollback volume '" ++ lvPath env lv ++ "' is missing\n")
      refuse (c.poolOf lv ≠ some env.pool)
        ("rollback volume '" ++ lvPath env lv ++ "' is not in expected pool '" ++ env.pool ++ "'\n")

/-- The exact reread after a failed rollback command; only a rename may have succeeded. -/
def rollbackFailed (env : Env) (message volname temporary : String) (atRename : Bool) :
    Op Unit := do
  ask env .inventory
  let c ← cluster
  each [volname, temporary] fun lv =>
    refuse (c.has lv && c.poolOf lv ≠ some env.pool)
      (message ++ "rollback outcome is UNKNOWN: '" ++ lvPath env lv ++
        "' is not in expected pool '" ++ env.pool ++ "'; no retry or cleanup was attempted\n")
  if atRename && c.has volname && !c.has temporary then pure ()
  else throwMessage (message ++
    (match c.has volname, c.has temporary with
    | true, true => "exact reread proves original '" ++ lvPath env volname ++
        "' and prepared replacement '" ++ lvPath env temporary ++
        "' both remain; automatic cleanup and retry were NOT performed\n"
    | false, true => "exact reread proves rollback data is preserved as '" ++
        lvPath env temporary ++ "' while the canonical origin is absent; manual recovery is " ++
        "required and no retry was attempted\n"
    | true, false => "exact reread proves '" ++ lvPath env volname ++ "' remains and no " ++
        "prepared " ++
        "replacement exists; no retry or cleanup was attempted\n"
    | false, false => "CRITICAL rollback state: both canonical origin and prepared replacement " ++
        "are absent; no automated action is safe\n"))

/-- The replacement is created before the current origin is removed. -/
def replaceOrigin (env : Env) (volname snapvol temporary : String) : Op Unit := do
  let prepared ← attempt do
    runCommand env (.snapshot temporary snapvol)
    disableAutoactivation env temporary
    runCommand env (.remove volname)
  match prepared with
  | .error message => rollbackFailed env message volname temporary false
  | .ok _ => do
    let renamed ← attempt (runCommand env (.rename temporary volname))
    match renamed with
    | .error message => rollbackFailed env message volname temporary true
    | .ok _ => pure ()

/-- `_volume_snapshot_rollback_locked` -/
def volumeSnapshotRollbackLocked (env : Env) (volname snap : String) : Op Unit := do
  ask env .quorum
  ask env .identity
  verifyOwnedVolume env volname false
  let snapvol := snapName volname snap
  ask env .parseName
  ask env .inventory
  let c ← cluster
  checkRollbackPool env c volname snapvol
  verifySnapshotPostcondition env snapvol true
  let temporary := "slt-rb-" ++ volname ++ "-" ++ env.pid
  ask env .parseName
  refuse (c.has temporary)
    ("temporary rollback LV '" ++ lvPath env temporary ++ "' already exists\n")
  -- lvcreate can map the pool: the exclusive ownership is established before it
  activateThinVolumeLocked env volname (some snap)
  replaceOrigin env volname snapvol temporary
  ask env .inventory
  let c ← cluster
  refuse (!c.has volname)
    ("rollback postcondition failed: '" ++ lvPath env volname ++ "' is missing\n")
  refuse (c.poolOf volname ≠ some env.pool)
    ("rollback postcondition failed: '" ++ lvPath env volname ++ "' is not in pool '" ++
      env.pool ++ "'\n")
  ask env (.autoactivation volname)
  deactivateThinVolumeLocked env volname (some snap)
  deactivateThinVolumeLocked env volname none

def volumeSnapshotRollback (env : Env) (volname snap : String) : Op Unit :=
  admitted env (volumeSnapshotRollbackLocked env volname snap)

end SharedLvmThin.Thin
