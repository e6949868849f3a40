import Mathlib.Data.List.AList
import SharedLvmThin.GuardActivation

/-! The runtime state of the Thin guard: one epoch per protected pool, a bounded wait for
the QEMU attach and an uncertainty latch that nothing clears. The clock is any ordered
type with the machine's own addition. A Perl hash has no order, so `observe` is given the
order in which it visits the registered pools. -/

namespace SharedLvmThin.Guard
open Perl

inductive EpochPhase
  | pendingAttach | protectedRuntime
deriving DecidableEq

inductive GuardMode
  | idle | armedPending | protectedRuntime | fencing
deriving DecidableEq

inductive ReplyAction
  | none | ackPrepared | refreshWatchdog | stopWatchdogRefresh | cleanDisarm
deriving DecidableEq

structure Reply where
  action : ReplyAction
  state : GuardMode
  reason : Option String

structure Epoch (Time : Type) where
  ownerEpoch : String
  mapperUuid : String
  phase : EpochPhase
  deadline : Time

structure GuardState (Time : Type) where
  state : GuardMode
  pendingTimeout : ℕ
  timeoutBounds : 10 ≤ pendingTimeout ∧ pendingTimeout ≤ 300
  epochs : AList fun _ : String => Epoch Time
  uncertaintyLatched : Bool
  reason : String

structure PrepareRequest (Time : Type) where
  admission : Option Decision
  poolUuid : Option String
  ownerEpoch : Option String
  mapperUuid : Option String
  now : Option Time

structure Pool where
  poolUuid : Option String
  ownerEpoch : Option String
  mapperUuid : Option String
  ownerNode : Option String
  locallyActive : Option String
  qemuReferenceExact : Option String

/-- An element of the inventory's pool list: a hash, `undef` or anything else. -/
inductive PoolEntry
  | hash (pool : Pool)
  | undef
  | other

inductive PoolList
  | undef
  | notArray
  | array (entries : List PoolEntry)

structure Sample (Time : Type) where
  pools : PoolList
  now : Option Time
  quorum : Option String
  localNode : Option String

structure ReleaseProof where
  poolUuid : Option String
  ownerEpoch : Option String
  qemuAbsent : Option String
  mapperAbsent : Option String
  ownerReleased : Option String

/-- `/^[A-Za-z0-9_.:+-]+$/` on a defined scalar. -/
def isGuardName (value : Option String) : Bool :=
  match value with
  | none => false
  | some s => plus (fun c => c.isAlphanum || c ∈ ['_', '.', ':', '+', '-']) (body s)

section
variable {Time : Type}

theorem pendingTimeout_default : 10 ≤ 45 ∧ 45 ≤ 300 := by decide

/-- `new`: the pending timeout is a scalar checked before it becomes a number. -/
def newGuardState (pendingTimeout : Option String) : Except String (GuardState Time) :=
  match pendingTimeout with
  | none => .error "pending deadline must be between 10 and 300 seconds"
  | some s =>
    if h : isDigits s = true ∧ 10 ≤ (numify s).value ∧ (numify s).value ≤ 300 then
      .ok ⟨.idle, (numify s).value, h.2, ∅, false, "no protected Thin epochs"⟩
    else .error "pending deadline must be between 10 and 300 seconds"

def fence (reason : String) (s : GuardState Time) : GuardState Time × Reply :=
  ({ s with state := .fencing, uncertaintyLatched := true, reason := reason },
    ⟨.stopWatchdogRefresh, .fencing, some reason⟩)

def checkAdmission (admission : Option Decision) : Except String Unit :=
  dieIf (match admission with
    | none => true
    | some d => !d.safe || d.action ≠ .activateExclusive) "guardian admission is malformed"

def checkGuardName (name : String) (value : Option String) : Except String String := do
  dieIf (!isGuardName value) ("guardian request field '" ++ name ++ "' is malformed")
  return value.getD ""

def requireTime (now : Option Time) : Except String Time :=
  match now with
  | none => .error "guardian time is malformed"
  | some t => .ok t

variable [LinearOrder Time] [HAdd Time ℕ Time]

def prepare (request : PrepareRequest Time) (s : GuardState Time) :
    Except String (GuardState Time × Reply) := do
  dieIf s.uncertaintyLatched "guardian is irreversibly fencing"
  checkAdmission request.admission
  let poolUuid ← checkGuardName "pool_uuid" request.poolUuid
  let ownerEpoch ← checkGuardName "owner_epoch" request.ownerEpoch
  let mapperUuid ← checkGuardName "mapper_uuid" request.mapperUuid
  let now ← requireTime request.now
  dieIf ((s.epochs.lookup poolUuid).any fun e => e.ownerEpoch ≠ ownerEpoch)
    "pool already has a different protected epoch"
  let epoch : Epoch Time := ⟨ownerEpoch, mapperUuid, .pendingAttach, now + s.pendingTimeout⟩
  return ({ s with
      epochs := s.epochs.insert poolUuid epoch
      state := .armedPending
      reason := "watchdog armed before local thin-pool activation" },
    ⟨.ackPrepared, .armedPending, none⟩)

def checkSample (sample : Sample Time) : Except String (List PoolEntry × Time) :=
  match sample.pools, sample.now with
  | .array entries, some now =>
    if isOneOf ["0", "1"] sample.quorum then .ok (entries, now)
    else .error "runtime sample is malformed"
  | _, _ => .error "runtime sample is malformed"

/-- A pool entry that is no hash, has no UUID or repeats one. -/
def hasMalformedPool : List String → List PoolEntry → Bool
  | _, [] => false
  | seen, .hash pool :: entries =>
    match pool.poolUuid with
    | none => true
    | some uuid => uuid ∈ seen || hasMalformedPool (uuid :: seen) entries
  | _, .undef :: _ => true
  | _, .other :: _ => true

def findPool (entries : List PoolEntry) (poolUuid : String) : Option Pool :=
  (entries.filterMap fun entry => match entry with
    | .hash pool => if pool.poolUuid.getD "" = poolUuid then some pool else none
    | _ => none).head?

def Pool.attached (pool : Pool) : Bool :=
  truthy pool.locallyActive && truthy pool.qemuReferenceExact

def advancePhase (pool : Pool) (now : Time) (poolUuid : String) (epoch : Epoch Time) :
    Except String (Epoch Time) :=
  if epoch.phase = .pendingAttach then
    if pool.attached then .ok { epoch with phase := .protectedRuntime }
    else if epoch.deadline ≤ now then
      .error ("QEMU attach deadline expired for pool " ++ poolUuid)
    else if truthy pool.qemuReferenceExact && !truthy pool.locallyActive then
      .error ("QEMU references pool " ++ poolUuid ++ " without its exact mapper")
    else .ok epoch
  else .ok epoch

/-- One iteration of the loop over the registered epochs. -/
def checkEpoch (entries : List PoolEntry) (now : Time) (localNode : Option String)
    (poolUuid : String) (epoch : Epoch Time) : Except String (Epoch Time) :=
  match findPool entries poolUuid with
  | none => .error ("protected pool " ++ poolUuid ++ " disappeared from inventory")
  | some pool => do
    dieIf (pool.ownerEpoch.getD "" ≠ epoch.ownerEpoch)
      ("owner epoch changed for pool " ++ poolUuid)
    dieIf (pool.mapperUuid.getD "" ≠ epoch.mapperUuid)
      ("mapper UUID changed for pool " ++ poolUuid)
    dieIf (pool.ownerNode.getD "" ≠ localNode.getD "")
      ("pool " ++ poolUuid ++ " is owned by another node")
    let epoch ← advancePhase pool now poolUuid epoch
    dieIf (epoch.phase = .protectedRuntime ∧ !pool.attached)
      ("protected runtime disappeared for pool " ++ poolUuid)
    return epoch

/-- The loop: an attach found before a fence stays recorded. -/
def observeEpochs (entries : List PoolEntry) (now : Time) (localNode : Option String) :
    List String → (AList fun _ : String => Epoch Time) → Bool →
    Except ((AList fun _ : String => Epoch Time) × String)
      ((AList fun _ : String => Epoch Time) × Bool)
  | [], epochs, allProtected => .ok (epochs, allProtected)
  | poolUuid :: keys, epochs, allProtected =>
    match epochs.lookup poolUuid with
    | none => observeEpochs entries now localNode keys epochs allProtected
    | some epoch =>
      match checkEpoch entries now localNode poolUuid epoch with
      | .error reason => .error (epochs, reason)
      | .ok epoch => observeEpochs entries now localNode keys (epochs.insert poolUuid epoch)
          (allProtected && epoch.phase = .protectedRuntime)

def settle (epochs : AList fun _ : String => Epoch Time) (allProtected : Bool)
    (s : GuardState Time) : GuardState Time × Reply :=
  let mode : GuardMode :=
    if epochs.keys = [] then .idle else if allProtected then .protectedRuntime else .armedPending
  let reason :=
    if mode = .protectedRuntime then "all Thin epochs have exact mapper and QEMU evidence"
    else if mode = .armedPending then "waiting for bounded QEMU attach"
    else "no protected Thin epochs"
  ({ s with epochs := epochs, state := mode, reason := reason },
    ⟨if epochs.keys = [] then .none else .refreshWatchdog, mode, none⟩)

def observe (keys : List String) (sample : Sample Time) (s : GuardState Time) :
    GuardState Time × Reply :=
  match checkSample sample with
  | .error reason => fence reason s
  | .ok (entries, now) =>
    if !truthy sample.quorum then fence "cluster quorum was lost" s
    else if s.uncertaintyLatched then fence "guardian was already marked uncertain" s
    else if hasMalformedPool [] entries then fence "runtime pool sample is malformed" s
    else
      match observeEpochs entries now sample.localNode keys s.epochs true with
      | .error (epochs, reason) => fence reason { s with epochs := epochs }
      | .ok (epochs, allProtected) => settle epochs allProtected s

def requireProof (name : String) (value : Option String) : Except String Unit :=
  dieIf (value ≠ some "1") ("guardian release lacks positive " ++ name ++ " proof")

def requireEpoch (epoch : Option (Epoch Time)) : Except String (Epoch Time) :=
  match epoch with
  | none => .error "guardian has no exact protected pool epoch"
  | some e => .ok e

def release (proof : ReleaseProof) (s : GuardState Time) :
    Except String (GuardState Time × Reply) := do
  dieIf s.uncertaintyLatched "guardian cannot release while fencing"
  let epoch ← requireEpoch (s.epochs.lookup (proof.poolUuid.getD ""))
  dieIf (proof.ownerEpoch.getD "" ≠ epoch.ownerEpoch) "guardian release epoch mismatch"
  requireProof "qemu_absent" proof.qemuAbsent
  requireProof "mapper_absent" proof.mapperAbsent
  requireProof "owner_released" proof.ownerReleased
  let epochs := s.epochs.erase (proof.poolUuid.getD "")
  let mode : GuardMode := if epochs.keys = [] then .idle else .protectedRuntime
  return ({ s with
      epochs := epochs
      state := mode
      reason := if epochs.keys = [] then "all Thin epochs released"
        else "other Thin epochs remain protected" },
    ⟨if epochs.keys = [] then .cleanDisarm else .refreshWatchdog, mode, none⟩)

end
end SharedLvmThin.Guard
