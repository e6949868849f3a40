import SharedLvmThin.Watchdog

/-! The guard engine: one state machine, one watchdog client and the storage and mapper
bindings of the prepared pools. Each call is given the inventory provider and the socket
answers it meets; a call that dies half-way keeps what it had already changed. -/

namespace SharedLvmThin.Guard
open Perl

structure TeardownProof where
  qemuAbsent : Option String
  mapperAbsent : Option String
  ownerReleased : Option String

structure Inventory where
  inventoryOk : Option String
  pools : PoolList
  admission : Option Evidence
  quorum : Option String
  localNode : Option String
  releaseProof : Option TeardownProof

inductive InventoryQuery
  | prepare (storageId poolUuid ownerEpoch mapperUuid : Option String)
  | observe (storageIds : List String)
  | release (poolUuid ownerEpoch : Option String) (storageId mapperUuid : String)

/-- The provider dies, returns something that is no hash, or an inventory. -/
abbrev InventoryProvider := InventoryQuery → Except String (Option Inventory)

structure EngineRequest where
  storageId : Option String
  poolUuid : Option String
  ownerEpoch : Option String
  mapperUuid : Option String

structure Engine (Time : Type) where
  state : GuardState Time
  watchdog : Watchdog
  storageByPool : AList fun _ : String => Option String
  mapperByPool : AList fun _ : String => String

def newEngine {Time : Type} (pendingTimeout : Option String) (watchdog : Watchdog) :
    Except String (Engine Time) := do
  let state ← newGuardState (some (pendingTimeout.getD "45"))
  return ⟨state, watchdog, ∅, ∅⟩

/-- `_inventory` -/
def positiveInventory (provider : InventoryProvider) (query : InventoryQuery) :
    Except String Inventory := do
  match ← provider query with
  | none => .error "guardian inventory provider returned no positive inventory"
  | some inventory =>
    dieIf (!truthy inventory.inventoryOk)
      "guardian inventory provider returned no positive inventory"
    return inventory

/-- An undefined entry springs into an empty hash when its field is read. -/
def PoolEntry.read : PoolEntry → Except String Pool
  | .hash pool => .ok pool
  | .undef => .ok ⟨none, none, none, none, none, none⟩
  | .other => .error "Not a HASH reference"

def PoolList.read : PoolList → Except String (List Pool)
  | .undef => .ok []
  | .notArray => .error "Not an ARRAY reference"
  | .array entries => entries.mapM PoolEntry.read

def exactlyOne (pools : List Pool) : Except String Pool :=
  match pools with
  | [pool] => .ok pool
  | _ => .error "guardian PREPARE needs exactly one inventory pool"

def preparePool (request : EngineRequest) (inventory : Inventory) : Except String Pool := do
  let pools ← inventory.pools.read
  let pool ← exactlyOne
    (pools.filter fun pool => pool.poolUuid.getD "" = request.poolUuid.getD "")
  dieIf (pool.ownerEpoch.getD "" ≠ request.ownerEpoch.getD "")
    "guardian PREPARE owner epoch mismatch"
  dieIf (pool.mapperUuid.getD "" ≠ request.mapperUuid.getD "")
    "guardian PREPARE mapper UUID mismatch"
  dieIf (truthy pool.locallyActive || truthy pool.qemuReferenceExact)
    "guardian PREPARE requires an inactive local mapper and no QEMU reference"
  return pool

/-- The daemon's own facts replace whatever the inventory said about them. -/
def ownEvidence (mode : GuardMode) (evidence : Evidence) : Evidence :=
  Function.update
    (Function.update evidence .journalIntegrity (some (if mode ≠ .fencing then "1" else "0")))
    .watchdogArmed (some "1")

def admissionDecision (mode : GuardMode) (inventory : Inventory) : Except String Decision :=
  match inventory.admission with
  | none => .error "guardian PREPARE lacks independently collected admission evidence"
  | some evidence => do
    let decision := evaluateGuardActivation (ownEvidence mode evidence)
    dieIf (!decision.safe) ("guardian PREPARE refused: " ++ decision.reason)
    return decision

def requireRequest (op : String) (request : Option EngineRequest) : Except String EngineRequest :=
  match request with
  | none => .error ("guardian " ++ op ++ " request is malformed")
  | some r => .ok r

/-- A true value of a binding. -/
def requireBinding (name : String) (value : Option String) : Except String String := do
  dieIf (!truthy value) ("guardian RELEASE has no " ++ name ++ " binding for pool")
  return value.getD ""

def requireTeardown (proof : Option TeardownProof) : Except String TeardownProof :=
  match proof with
  | none => .error "guardian RELEASE lacks independently collected teardown proof"
  | some p => .ok p

/-- The watchdog client is armed once and shared by all epochs. -/
def ensureArmed (decision : Decision) (io : SocketAnswers) (w : Watchdog) :
    Watchdog × Except String Unit :=
  if w.state = .disarmed then
    match w.arm (some decision) io with
    | (w', .error message) =>
      (w', .error ("guardian watchdog arm failed after epoch registration: " ++ message))
    | (w', .ok ()) => (w', .ok ())
  else if w.state ≠ .armed then (w, .error "guardian watchdog is not in an armable state")
  else (w, .ok ())

namespace Engine
variable {Time : Type}

/-- Everything `prepare` checks before it changes anything. -/
def admission (request : Option EngineRequest) (provider : InventoryProvider) (g : Engine Time) :
    Except String (EngineRequest × Pool × Decision) := do
  let request ← requireRequest "PREPARE" request
  let inventory ← positiveInventory provider
    (.prepare request.storageId request.poolUuid request.ownerEpoch request.mapperUuid)
  let pool ← preparePool request inventory
  let decision ← admissionDecision g.state.state inventory
  return (request, pool, decision)

variable [LinearOrder Time] [HAdd Time ℕ Time]

def prepare (request : Option EngineRequest) (now : Option Time) (provider : InventoryProvider)
    (io : SocketAnswers) (g : Engine Time) : Engine Time × Except String Reply :=
  match g.admission request provider with
  | .error message => (g, .error message)
  | .ok (request, pool, decision) =>
    match Guard.prepare ⟨some decision, pool.poolUuid, pool.ownerEpoch, pool.mapperUuid, now⟩
        g.state with
    | .error message => (g, .error message)
    | .ok (state, reply) =>
      match ensureArmed decision io g.watchdog with
      | (watchdog, .error message) =>
        ({ g with state := state, watchdog := watchdog }, .error message)
      | (watchdog, .ok ()) =>
        ({ state := state
           watchdog := watchdog
           storageByPool := g.storageByPool.insert (pool.poolUuid.getD "") request.storageId
           mapperByPool :=
             g.mapperByPool.insert (pool.poolUuid.getD "") (pool.mapperUuid.getD "") },
          .ok reply)

def storageIds (g : Engine Time) : List String :=
  ((g.storageByPool.entries.map fun entry => entry.2.getD "").dedup).mergeSort

def observe (keys : List String) (now : Option Time) (provider : InventoryProvider)
    (io : SocketAnswers) (g : Engine Time) : Engine Time × Except String Reply :=
  match positiveInventory provider (.observe g.storageIds) with
  | .error message => (g, .error message)
  | .ok inventory =>
    match Guard.observe keys ⟨inventory.pools, now, inventory.quorum, inventory.localNode⟩
        g.state with
    | (state, decision) =>
      if decision.action = .refreshWatchdog then
        match g.watchdog.refresh (some ⟨true, .refreshWatchdog⟩) io with
        | (watchdog, ok) => ({ g with state := state, watchdog := watchdog },
            if ok then .ok decision else .error "guardian watchdog refresh failed")
      else if decision.action = .stopWatchdogRefresh then
        match g.watchdog.refresh (some ⟨false, .stopWatchdogRefresh⟩) io with
        | (watchdog, _) => ({ g with state := state, watchdog := watchdog }, .ok decision)
      else ({ g with state := state }, .ok decision)

/-- The proof `release` hands to the state machine: the request's pair, the inventory's evidence. -/
def releaseProof (request : Option EngineRequest) (provider : InventoryProvider)
    (g : Engine Time) : Except String ReleaseProof := do
  let request ← requireRequest "RELEASE" request
  let storageId ← requireBinding "storage"
    (g.storageByPool.lookup (request.poolUuid.getD "")).join
  let mapperUuid ← requireBinding "mapper" (g.mapperByPool.lookup (request.poolUuid.getD ""))
  let inventory ← positiveInventory provider
    (.release request.poolUuid request.ownerEpoch storageId mapperUuid)
  let proof ← requireTeardown inventory.releaseProof
  return ⟨request.poolUuid, request.ownerEpoch, proof.qemuAbsent, proof.mapperAbsent,
    proof.ownerReleased⟩

def unbind (poolUuid : String) (g : Engine Time) : Engine Time :=
  { g with
    storageByPool := g.storageByPool.erase poolUuid
    mapperByPool := g.mapperByPool.erase poolUuid }

def release (request : Option EngineRequest) (provider : InventoryProvider) (io : SocketAnswers)
    (g : Engine Time) : Engine Time × Except String Reply :=
  match g.releaseProof request provider with
  | .error message => (g, .error message)
  | .ok proof =>
    match Guard.release proof g.state with
    | .error message => (g, .error message)
    | .ok (state, decision) =>
      if decision.action = .cleanDisarm then
        match g.watchdog.cleanDisarm ⟨some "1", some "1", some "1"⟩ io with
        | (watchdog, .error message) =>
          ({ g with state := state, watchdog := watchdog }, .error message)
        | (watchdog, .ok ()) =>
          (unbind (proof.poolUuid.getD "") { g with state := state, watchdog := watchdog },
            .ok decision)
      else (unbind (proof.poolUuid.getD "") { g with state := state }, .ok decision)

end Engine
end SharedLvmThin.Guard
