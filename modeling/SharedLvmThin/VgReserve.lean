import Mathlib.Algebra.Order.Floor.Div
import Mathlib.Tactic
import SharedLvmThin.PerlText

/-! The protected reserve of a volume group under pool allocation and automatic growth. LVM hands
out whole extents; the allocation evaluator counts them, the percentage evaluator counts bytes,
so that a growth may end inside the extent that the reserve cuts. -/

namespace SharedLvmThin.VgReserve
open Perl

def gib : Nat := 1024 * 1024 * 1024

/-! ## Evaluators -/

def reserveBytes (vgSize reservePercent reserveGib : Nat) : Nat :=
  let percentBytes := (vgSize * reservePercent + 99) / 100
  let fixedBytes := reserveGib * gib
  if percentBytes > fixedBytes then percentBytes else fixedBytes

structure AllocationReserve where
  reserveBytes : Nat
  requiredPhysicalBytes : Nat
  requiredExtents : Nat
  freeAfterBytes : Int
  allowed : Bool
deriving DecidableEq

/-- `evaluate_allocation_reserve` -/
def evaluateAllocationReserve (vgSize vgFree growthBytes overheadBytes extentBytes reservePercent
    reserveGib : Nat) : Except String AllocationReserve := do
  dieIf (extentBytes = 0) "invalid extent_bytes\n"
  let reserve := reserveBytes vgSize reservePercent reserveGib
  let rawRequired := growthBytes + overheadBytes
  let requiredExtents := (rawRequired + extentBytes - 1) / extentBytes
  let required := requiredExtents * extentBytes
  let after : Int := vgFree - required
  return { reserveBytes := reserve
           requiredPhysicalBytes := required
           requiredExtents := requiredExtents
           freeAfterBytes := after
           allowed := after ≥ reserve }

structure AutogrowReserve where
  reserveBytes : Nat
  growthBytes : Nat
  freeAfterBytes : Int
  usableFreeBytes : Nat
  allowed : Bool
deriving DecidableEq

/-- `evaluate_autogrow_reserve` -/
def evaluateAutogrowReserve (vgSize vgFree poolSize growthPercent reservePercent reserveGib : Nat) :
    AutogrowReserve :=
  let reserve := reserveBytes vgSize reservePercent reserveGib
  let growth := (poolSize * growthPercent + 99) / 100
  let after : Int := vgFree - growth
  { reserveBytes := reserve
    growthBytes := growth
    freeAfterBytes := after
    usableFreeBytes := if vgFree > reserve then vgFree - reserve else 0
    allowed := after ≥ reserve }

/-- `minimum_pool_bytes_for_used` with its default ceiling of 94 percent. -/
def minimumPoolBytesForUsed (used : Nat) : Except String Nat := do
  let target := used / 94 * 100 + (used % 94 * 100 + 94 - 1) / 94
  dieIf (target > 9000000000000000000)
    "capacity-safe allocation target exceeds signed 64-bit arithmetic\n"
  return target

/-- The size that elastic growth aims at, a whole number of GiB. -/
def elasticTarget (storeid : String) (used headroomGib : Nat) : Except String Nat := do
  dieIf (headroomGib < 1) ("invalid elastic burst headroom for storage '" ++ storeid ++ "'\n")
  let rawTarget := used + headroomGib * gib
  let capacitySafe ← minimumPoolBytesForUsed used
  let rawTarget := if capacitySafe > rawTarget then capacitySafe else rawTarget
  return (rawTarget + gib - 1) / gib * gib

/-! ## The volume group -/

/-- What does not change: sizes in bytes and the reserve policy. -/
structure Vg where
  storeid : String
  size : Nat
  extent : Nat
  extent_pos : 0 < extent
  reservePercent : Nat
  reserveGib : Nat

/-- The protected bytes: the larger of the percentage, rounded up, and the fixed amount. -/
def Vg.reserve (vg : Vg) : Nat := max (vg.size * vg.reservePercent ⌈/⌉ 100) (vg.reserveGib * gib)

/-- Free extents and the extents of every pool. -/
structure State where
  free : Nat
  pools : List Nat
deriving DecidableEq

section
variable (vg : Vg) (s : State)

/-- `vg_free` -/
def vgFree : Nat := s.free * vg.extent

def extentsFor (bytes : Nat) : Nat := (bytes + vg.extent - 1) / vg.extent

/-- A new pool; its overhead takes extents as well. Without enough of them nothing happens. -/
def lvcreate (growth overhead : Nat) : State :=
  let needed := extentsFor vg (growth + overhead)
  if needed ≤ s.free then ⟨s.free - needed, s.pools ++ [extentsFor vg growth]⟩ else s

/-- A pool grown to a size in bytes; it never shrinks. -/
def lvextend (pool target : Nat) : State :=
  match s.pools[pool]? with
  | none => s
  | some extents =>
    let needed := extentsFor vg target - extents
    if needed ≤ s.free then ⟨s.free - needed, s.pools.set pool (extents + needed)⟩ else s

end

inductive Event
  | allocate (growth overhead : Nat)
  | pregrow (pool growth : Nat)
  | elastic (pool used headroomGib : Nat)
  | percentage (pool growthPercent : Nat)

section
variable (vg : Vg) (s : State)

/-- The allocation evaluator on the current free space. -/
def admits (growth overhead : Nat) : Bool :=
  ((evaluateAllocationReserve vg.size (vgFree vg s) growth overhead vg.extent vg.reservePercent
    vg.reserveGib).toOption.map AllocationReserve.allowed).getD false

def elasticStep (pool poolSize used headroomGib : Nat) : State :=
  match elasticTarget vg.storeid used headroomGib with
  | .error _ => s
  | .ok target =>
    if target ≤ poolSize then s
    else if admits vg s (target - poolSize) 0 then lvextend vg s pool target
    else s

def percentageStep (pool poolSize growthPercent : Nat) : State :=
  let decision := evaluateAutogrowReserve vg.size (vgFree vg s) poolSize growthPercent
    vg.reservePercent vg.reserveGib
  if decision.allowed then lvextend vg s pool (poolSize + decision.growthBytes) else s

/-- An event runs only when its evaluator allows it. -/
def step (event : Event) : State :=
  match event with
  | .allocate growth overhead => if admits vg s growth overhead then lvcreate vg s growth overhead else s
  | .pregrow pool growth =>
    match s.pools[pool]? with
    | none => s
    | some extents =>
      if admits vg s growth 0 then lvextend vg s pool (extents * vg.extent + growth) else s
  | .elastic pool used headroomGib =>
    match s.pools[pool]? with
    | none => s
    | some extents => elasticStep vg s pool (extents * vg.extent) used headroomGib
  | .percentage pool growthPercent =>
    match s.pools[pool]? with
    | none => s
    | some extents => percentageStep vg s pool (extents * vg.extent) growthPercent

def run (events : List Event) : State := events.foldl (step vg) s

end

/-! ## Extents -/

section
variable {vg : Vg}

end

/-! ## One event -/

/-- The reserve is intact. -/
def Intact (vg : Vg) (s : State) : Prop := vg.reserve ≤ vgFree vg s

section
variable {vg : Vg} {s : State}

end

/-! ## Runs -/

end SharedLvmThin.VgReserve
