import Mathlib.Algebra.Order.Floor.Div
import Mathlib.Order.Bounds.Basic
import SharedLvmThin.PerlNumber

/-!
# The size of a thin pool at admission

A request for space is admitted against a target size of its pool. In the modes that promise a
burst the target keeps the promised bytes within 94 percent of the pool.
-/

namespace SharedLvmThin.ThinSafety
open Perl

def gib : Nat := 1024 * 1024 * 1024

def signedLimit : Nat := 9000000000000000000

structure Args where
  mode : Option String
  fixedGib : Option String
  requestedKib : Option String
  usedBytes : Option String
  currentPoolBytes : Option String
  percent : Option String
  headroomGib : Option String
  maxGib : Option String
  usageKnown : Option String
  guardProjectedWrite : Option String

structure Plan where
  targetBytes : Perl.Num
  growthBytes : Int
  requestedBytes : Perl.Num
  burstGuarantee : String
  headroomBytes : Option Int
  usageKnown : Bool
deriving DecidableEq

/-- A scalar that is not a digit string of at least 1. -/
def notPositive (value : String) : Bool := !isDigits value || (numify value).lt 1

/-! ## The capacity floor -/

/-- The sum before its bound; `none` is NaN. -/
def splitCeiling (used : Perl.Num) (percent : Nat) : Option Perl.Num :=
  match used.remainder percent with
  | none => none
  | some remainder => some (((used.intDiv percent).times 100).add
      ((Perl.Num.int (remainder * 100 + percent - 1)).intDiv percent))

/-- `minimum_pool_bytes_for_used` -/
def minimumPoolBytesForUsed (usedBytes maximumDataPercent : Option String) :
    Except String (Option Perl.Num) := do
  let percent := maximumDataPercent.getD "94"
  dieIf (!usedBytes.any isDigits) "invalid used_bytes\n"
  dieIf (notPositive percent || (numify percent).gt 94) "invalid maximum_data_percent\n"
  let target := splitCeiling (numify (usedBytes.getD "")) (numify percent).value
  dieIf (target.any (·.gt signedLimit))
    "capacity-safe allocation target exceeds signed 64-bit arithmetic\n"
  return target

/-! ## The modes -/

def percentOf (args : Args) : Except String Nat := do
  let percent := args.percent.getD ""
  dieIf args.percent.isNone "missing percent\n"
  dieIf (notPositive percent || (numify percent).gt 100) "invalid percent\n"
  return (numify percent).value

def headroomGibOf (args : Args) : Except String Perl.Num := do
  let headroomGib := args.headroomGib.getD "64"
  dieIf (notPositive headroomGib) "invalid headroom_gib\n"
  return numify headroomGib

/-- `$target = $safe if $safe > $target`, which NaN never is. -/
def raised (target : Perl.Num) : Option Perl.Num → Perl.Num
  | none => target
  | some safe => if target.less safe then safe else target

def proportionalTarget (percent : Nat) (requested fixed used : Perl.Num) : Perl.Num :=
  let proportional := ((requested.times percent).add (.int 99)).intDiv 100
  let headroom := if fixed.less proportional then proportional else fixed
  used.add headroom

def elasticHeadroom (headroom requested : Perl.Num) : Perl.Num :=
  let headroom := if requested.less headroom then requested else headroom
  if headroom.less (.int gib) then .int gib else headroom

/-- A guarded burst is counted as used already. -/
def projectedTarget (args : Args) (target : Perl.Num) : Except String Perl.Num :=
  if truthy args.guardProjectedWrite then do
    let projectedSafe ← minimumPoolBytesForUsed (some target.text) none
    return raised target projectedSafe
  else return target

def elasticTarget (args : Args) (headroom requested used : Perl.Num) : Except String Perl.Num := do
  let target ← projectedTarget args (used.add (elasticHeadroom headroom requested))
  let capacitySafe ← minimumPoolBytesForUsed args.usedBytes none
  return raised target capacitySafe

def fullHeadroom (requested fixed current : Perl.Num) : Perl.Num :=
  if current = .int 0 ∧ requested.less fixed then fixed else requested

def fullTarget (args : Args) (target : Perl.Num) : Except String Perl.Num :=
  if truthy args.guardProjectedWrite then do
    let projectedSafe ← minimumPoolBytesForUsed (some target.text) none
    -- Never NaN: the text of an infinite count is refused.
    return projectedSafe.getD target
  else return target

/-- The target of a mode; the pattern that admits a mode lets a final line feed pass, and
such a mode is sized like `full`. -/
def modeTarget (args : Args) (mode : String) (requested fixed used current : Perl.Num) :
    Except String Perl.Num :=
  if mode = "fixed" then return fixed
  else if mode = "proportional" then do
    let percent ← percentOf args
    return proportionalTarget percent requested fixed used
  else if mode = "elastic" then do
    let headroomGib ← headroomGibOf args
    elasticTarget args (headroomGib.times gib) requested used
  else fullTarget args (used.add (fullHeadroom requested fixed current))

/-- `max_gib` -/
def cappedTarget (args : Args) (mode : String) (fixed target : Perl.Num) : Except String Perl.Num :=
  match args.maxGib with
  | none => return target
  | some maxGib => do
    dieIf (notPositive maxGib) "invalid max_gib\n"
    let maximum := (numify maxGib).times gib
    dieIf (mode = "proportional" && maximum.less fixed)
      ("configured maximum " ++ maximum.text ++ " bytes is below fixed minimum " ++ fixed.text ++
        " bytes\n")
    dieIf (mode = "full" && maximum.less target)
      ("full allocation target " ++ target.text ++ " bytes exceeds configured maximum " ++
        maximum.text ++ " bytes\n")
    return if mode = "proportional" && maximum.less target then maximum else target

/-! ## The evaluator -/

def missing (args : Args) : List (String × Option String) :=
  [("mode", args.mode), ("fixed_gib", args.fixedGib), ("requested_kib", args.requestedKib),
    ("used_bytes", args.usedBytes), ("current_pool_bytes", args.currentPoolBytes)]

def numeric (args : Args) : List (String × Option String) :=
  [("fixed_gib", args.fixedGib), ("requested_kib", args.requestedKib),
    ("used_bytes", args.usedBytes), ("current_pool_bytes", args.currentPoolBytes)]

def checkArgs (args : Args) : Except String Unit := do
  forEach (missing args) fun arg => dieIf arg.2.isNone ("missing " ++ arg.1 ++ "\n")
  dieIf (!isOneOf ["fixed", "proportional", "elastic", "full"] args.mode)
    ("invalid allocation mode '" ++ args.mode.getD "" ++ "'\n")
  forEach (numeric args) fun arg => dieIf (!arg.2.any isDigits) ("invalid " ++ arg.1 ++ "\n")
  dieIf ((numify (args.fixedGib.getD "")).lt 1) "invalid fixed_gib\n"
  dieIf (!isOneOf ["0", "1"] (some (args.usageKnown.getD "1"))) "invalid usage_known\n"

def number (value : Option String) : Perl.Num := numify (value.getD "")

def checkHeadroomArgs (args : Args) (mode : String) : Except String Unit :=
  if mode = "proportional" then discard (percentOf args)
  else if mode = "elastic" then discard (headroomGibOf args)
  else return ()

/-- An existing pool whose usage is unknown is left as it is. -/
def unknownUsagePlan (args : Args) (mode : String) (requested : Perl.Num) : Except String Plan := do
  dieIf (mode = "full") "full allocation requires known thin-pool usage\n"
  checkHeadroomArgs args mode
  return { targetBytes := number args.currentPoolBytes
           growthBytes := 0
           requestedBytes := requested
           burstGuarantee := if mode = "fixed" then "NONE" else "UNKNOWN_INACTIVE_NO_GROWTH"
           headroomBytes := none
           usageKnown := false }

def knownUsagePlan (args : Args) (mode : String) (usageKnown : Bool) : Except String Plan := do
  let requested := (number args.requestedKib).times 1024
  let fixed := (number args.fixedGib).times gib
  let used := number args.usedBytes
  let current := number args.currentPoolBytes
  let target ← modeTarget args mode requested fixed used current
  let target ← cappedTarget args mode fixed target
  let target := if target.less current then current else target
  dieIf (target.gt signedLimit) "allocation target exceeds safe signed 64-bit arithmetic\n"
  -- Within the limit the target is an integer scalar, and so is all it was made of.
  return { targetBytes := target
           growthBytes := (target.value : Int) - current.value
           requestedBytes := requested
           burstGuarantee :=
             if mode = "full" then "FULL_AT_ADMISSION"
             else if mode = "proportional" ∨ mode = "elastic" then "BOUNDED" else "NONE"
           headroomBytes :=
             if mode = "elastic" then some ((target.value : Int) - used.value) else none
           usageKnown := usageKnown }

/-- `evaluate_allocation_target` -/
def evaluateAllocationTarget (args : Args) : Except String Plan := do
  checkArgs args
  let mode := args.mode.getD ""
  let usageKnown := truthy (some (args.usageKnown.getD "1"))
  if !usageKnown && (number args.currentPoolBytes).gt 0 then
    unknownUsagePlan args mode ((number args.requestedKib).times 1024)
  else knownUsagePlan args mode usageKnown

end SharedLvmThin.ThinSafety
