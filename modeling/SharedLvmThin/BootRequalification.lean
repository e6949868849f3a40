import SharedLvmThin.Effects
import SharedLvmThin.ExecutorReservation
import SharedLvmThin.Runs
import SharedLvmThin.UpdatePolicySettlement

/-! The requalification of an unchanged payload after a reboot. The release record stays, a latch
marks that its rebinding to the current boot is under way, and an invocation may stop after any of
its four effects. -/

namespace SharedLvmThin.UpdatePolicy
open Perl Effects

/-! ## Records -/

/-- The runtime receipt; a name that a record lacks reads as `none`. -/
structure Release where
  schema : Int := 1
  qualified : Option String
  runtimeBuildId : Option String
  planDigest : Option String
  bootId : Option String
  kernelRelease : Option String
  pluginPackage : Option String
  pluginVersion : Option String
  runtimeTupleId : Option String
  runtimeTupleStatus : Option String
  runtimeManifestSha256 : Option String
  runtimeTupleSha256 : Option String
  runtimeIdentitySha256 : Option String
  verdict : Option String
  artifactSha256 : Option String
  transitionSha256 : Option String := none
  previousBootId : Option String := none
  qualificationTxid : Option String := none
deriving DecidableEq

/-- The fields that no boot changes. -/
def Release.payload (r : Release) : Release :=
  { r with bootId := none, kernelRelease := none, verdict := none, previousBootId := none,
           qualificationTxid := none }

/-- `RUNTIME_QUALIFICATION` -/
structure Latch where
  schema : Int
  state : String
  txid : String
  runtimeBuildId : Option String
  artifactSha256 : Option String
  planDigest : Option String
  bootId : String
  kernelRelease : String
  pluginPackage : Option String
  pluginVersion : Option String
  previousBootId : Option String
deriving DecidableEq

/-- A state file is created empty and then written. -/
inductive StateFile (α : Type)
  | absent
  | torn
  | whole (value : α)
deriving DecidableEq

def readJson {α : Type} : StateFile α → Except String (Option α)
  | .absent => .ok none
  | .torn => .error "Expecting value: line 1 column 1 (char 0)"
  | .whole value => .ok (some value)

structure StateFiles where
  release : StateFile Release
  latch : StateFile Latch
  postGate : Bool
  packageTransition : Bool
  freezeMigration : Bool

/-! ## The installed payload -/

structure Report where
  returncode : Int
  stdout : String
  stderr : String := ""

/-- No output but blanks. -/
def Report.isQuiet (r : Report) : Bool :=
  r.returncode = 0 && r.stdout.toList.all isSpace && r.stderr.toList.all isSpace

/-- `check.returncode or marker not in check.stdout` is false. -/
def Report.passes (marker : String) (r : Report) : Bool :=
  r.returncode = 0 && decide (marker.toList <:+: r.stdout.toList)

structure Installed where
  manifest : Manifest
  database : Database
  flavor : String
  api : Int
  runtimeBuildId : Except String String
  artifact : Except String String
  audit : Report
  verify : String → Report

def Installed.node (i : Installed) (kernel : String) : Node :=
  { database := i.database, flavor := i.flavor, api := i.api, runningKernel := kernel }

structure Identity where
  profile : String
  api : Int
  runningKernel : String
  pluginPackage : String
  pluginVersion : Option String
  versions : List (String × Option String)

/-- `digest` of the values that a release binds. -/
structure Digests where
  manifest : Manifest → String
  tuple : PackageTuple → String
  identity : Identity → String

def Installed.identity (i : Installed) (kernel : String) : Identity where
  profile := i.flavor
  api := i.api
  runningKernel := kernel
  pluginPackage := pluginPackage i.flavor
  pluginVersion := i.database.version (pluginPackage i.flavor)
  versions := i.manifest.watchedPackages.map fun name => (name, i.database.version name)

/-- What of a node stays over its boots. -/
structure Payload extends Installed where
  digests : Digests

section
variable (payload : Payload)

def assertExactInstalledRelease (release : Release) : Except String Unit := do
  let package := release.pluginPackage.getD "None"
  dieIf (package ∉ ["pve-sharedlvmthin", "pve-sharedlvmthin-thick"] ||
      release.pluginVersion = none || payload.database.version package ≠ release.pluginVersion)
    "installed release package identity changed"
  let opposite :=
    if package = "pve-sharedlvmthin" then "pve-sharedlvmthin-thick" else "pve-sharedlvmthin"
  dieIf (payload.database.version opposite ≠ none) "installed release found both package profiles"
  let build ← payload.runtimeBuildId
  dieIf (release.runtimeBuildId ≠ some build) "installed release payload identity changed"
  let artifact ← payload.artifact
  dieIf (release.artifactSha256 ≠ some artifact) "installed release payload identity changed"
  dieIf (!payload.audit.isQuiet) "dpkg audit is not clean"
  dieIf (!(payload.verify package).isQuiet) "plugin package verification failed"

/-- The bindings of a release, with what is observed for each. -/
def bindings (release : Release) (observed : PackageTuple) (kernel : String) :
    List (String × Option String × Option String) :=
  [("runtime_tuple_id", release.runtimeTupleId, some observed.id),
   ("runtime_tuple_status", release.runtimeTupleStatus, observed.status),
   ("runtime_manifest_sha256", release.runtimeManifestSha256,
     some (payload.digests.manifest payload.manifest)),
   ("runtime_tuple_sha256", release.runtimeTupleSha256, some (payload.digests.tuple observed)),
   ("runtime_identity_sha256", release.runtimeIdentitySha256,
     some (payload.digests.identity (payload.identity kernel)))]

def assertBoundRuntimeTuple (kernel : String) (release : Release) : Except String Unit := do
  let observed ← assertListedRuntimeTuple payload.manifest (payload.node kernel)
    release.pluginPackage release.pluginVersion
  forEach (bindings payload release observed kernel) fun binding =>
    dieIf (binding.2.1 ≠ binding.2.2) ("runtime tuple binding changed: " ++ binding.1)

end

/-! ## The command -/

/-- The canonical text of a kernel boot identity. -/
abbrev BootId := { s : String // ExecutorReservation.isBootId s = true }

structure Boot where
  bootId : BootId
  kernel : String

inductive Effect
  | latchCreated
  | latchWritten
  | released
  | latchRemoved
deriving DecidableEq

/-- One invocation, what its probes answer and after which effect it is cut. -/
structure Invocation where
  requested : Option String
  txid : { s : String // exactly 32 isLowerHex s = true }
  qualification : Report
  operational : Report
  killed : Option Effect

section
variable (payload : Payload) (boot : Boot) (i : Invocation)

def perform (e : Effect) (f : StateFiles → StateFiles) : Prog StateFiles Unit := do
  update f
  refuse (i.killed = some e) "killed"

/-- `create_json(RUNTIME_QUALIFICATION, latch)` -/
def createLatch (latch : Latch) : Prog StateFiles Unit := do
  perform i .latchCreated fun files => { files with latch := .torn }
  perform i .latchWritten fun files => { files with latch := .whole latch }

/-- `atomic_json(RUNTIME_RELEASE, release)` -/
def publish (release : Release) : Prog StateFiles Unit :=
  perform i .released fun files => { files with release := .whole release }

def qualificationProbe : Prog StateFiles Unit :=
  refuse (!i.qualification.passes "RUNTIME_QUALIFICATION_READY=YES")
    "direct post-reboot runtime qualification did not pass"

def Release.rebound (previous : Release) (latch : Latch) : Release :=
  { previous with
    bootId := some boot.bootId
    kernelRelease := some boot.kernel
    verdict := some "POST_REBOOT_GATE"
    previousBootId := latch.previousBootId
    qualificationTxid := some latch.txid }

def holdsBoth (latch : Latch) (release : Release) (files : StateFiles) : Except String Bool := do
  return (← readJson files.latch) = some latch ∧ (← readJson files.release) = some release

/-- The end that both ways to a rebound release share. -/
def finishBoot (latch : Latch) (release : Release) : Prog StateFiles (List String) := do
  lift (assertExactInstalledRelease payload release)
  refuse (!i.operational.passes "UPGRADE_SAFE=YES")
    "post-reboot PVE operational qualification did not pass"
  let unchanged ← lift (holdsBoth latch release (← read))
  refuse (!unchanged || boot.kernel ≠ latch.kernelRelease)
    "boot qualification CAS changed during operational probes"
  lift (assertExactInstalledRelease payload release)
  lift (assertBoundRuntimeTuple payload boot.kernel release)
  perform i .latchRemoved fun files => { files with latch := .absent }
  return ["RUNTIME_BOOT_REQUALIFICATION=PASS",
    "PREVIOUS_BOOT_ID=" ++ release.previousBootId.getD "None", "BOOT_ID=" ++ boot.bootId.val,
    "KERNEL_RELEASE=" ++ boot.kernel]

def promote (latch : Latch) (previous : Release) : Prog StateFiles (List String) := do
  qualificationProbe i
  let unchanged ← lift (holdsBoth latch previous (← read))
  refuse (!unchanged) "boot qualification CAS changed during read-only probes"
  publish i (previous.rebound boot latch)
  finishBoot payload boot i latch (previous.rebound boot latch)

def isSuccessor (latch : Latch) (previous : Release) : Bool :=
  previous.bootId = some boot.bootId.val && previous.qualificationTxid = some latch.txid &&
    previous.previousBootId = latch.previousBootId

/-- A latch was found. -/
def resume (latch : Latch) (previous : Release) : Prog StateFiles (List String) := do
  refuse (latch.schema ≠ 1 || latch.state ≠ "BOOT_QUALIFYING" || latch.bootId ≠ boot.bootId.val ||
      latch.kernelRelease ≠ boot.kernel || latch.previousBootId = none)
    "boot requalification found an ambiguous pending transaction"
  refuse (i.requested ≠ none && i.requested ≠ latch.previousBootId)
    "boot requalification predecessor request mismatch"
  lift (assertExactInstalledRelease payload previous)
  if previous.bootId = latch.previousBootId then
    promote payload boot i latch previous
  else if isSuccessor boot latch previous then
    finishBoot payload boot i latch previous
  else
    throwMessage "boot requalification found an ambiguous pending transaction"

def isReplayed (previous : Release) (files : StateFiles) : Except String Bool := do
  return (← readJson files.release) = some previous ∧ previous.kernelRelease = some boot.kernel ∧
    !files.postGate ∧ !files.packageTransition ∧ !files.freezeMigration ∧ files.latch matches .absent

/-- The release is bound to this boot and no latch was found. -/
def replay (previous : Release) : Prog StateFiles (List String) := do
  refuse (i.requested = none || i.requested = some boot.bootId.val ||
      previous.previousBootId ≠ i.requested || previous.verdict ≠ some "POST_REBOOT_GATE" ||
      !exactly 32 isLowerHex (previous.qualificationTxid.getD "") ||
      previous.kernelRelease ≠ some boot.kernel)
    "boot requalification requires a changed boot identity or exact completed predecessor"
  refuse (!i.operational.passes "UPGRADE_SAFE=YES")
    "post-reboot replay operational qualification did not pass"
  let unchanged ← lift (isReplayed boot previous (← read))
  refuse (!unchanged) "boot replay identity or pending state changed during operational probes"
  lift (assertExactInstalledRelease payload previous)
  lift (assertBoundRuntimeTuple payload boot.kernel previous)
  let unchanged ← lift (isReplayed boot previous (← read))
  refuse (!unchanged) "boot replay state changed during final identity probes"
  return ["RUNTIME_BOOT_REQUALIFICATION_ALREADY_COMPLETE=YES",
    "PREVIOUS_BOOT_ID=" ++ i.requested.getD "None", "BOOT_ID=" ++ boot.bootId.val]

def newLatch (previous : Release) : Latch where
  schema := 1
  state := "BOOT_QUALIFYING"
  txid := i.txid
  runtimeBuildId := previous.runtimeBuildId
  artifactSha256 := previous.artifactSha256
  planDigest := previous.planDigest
  bootId := boot.bootId
  kernelRelease := boot.kernel
  pluginPackage := previous.pluginPackage
  pluginVersion := previous.pluginVersion
  previousBootId := previous.bootId

/-- The release is bound to another boot and no latch was found. -/
def rebind (previous : Release) : Prog StateFiles (List String) := do
  refuse (i.requested ≠ none && i.requested ≠ previous.bootId)
    "boot requalification predecessor request mismatch"
  lift (assertExactInstalledRelease payload previous)
  let latch := newLatch boot i previous
  createLatch i latch
  qualificationProbe i
  let now ← lift (readJson (← read).latch)
  refuse (now ≠ some latch) "boot qualification CAS changed during read-only probes"
  publish i (previous.rebound boot latch)
  finishBoot payload boot i latch (previous.rebound boot latch)

/-- `previous.get("schema") == 1 and previous.get("qualified") == "QUALIFIED"` -/
def qualifiedRelease : Option Release → Except String Release
  | some previous =>
    if previous.schema = 1 ∧ previous.qualified = some "QUALIFIED" then .ok previous
    else .error "boot requalification requires a previous qualified runtime receipt"
  | none => .error "boot requalification requires a previous qualified runtime receipt"

/-- `command_requalify_boot` -/
def requalifyBoot : Prog StateFiles (List String) := do
  refuse (i.requested.any fun s => !ExecutorReservation.isBootId s)
    "boot requalification requires a canonical previous boot identity"
  let files ← read
  refuse (files.postGate || files.packageTransition || files.freezeMigration)
    "boot requalification refused while an update transaction is pending"
  let previous ← lift (readJson files.release >>= qualifiedRelease)
  lift (assertExactInstalledRelease payload previous)
  lift (assertBoundRuntimeTuple payload boot.kernel previous)
  match ← lift (readJson files.latch) with
  | some latch => resume payload boot i latch previous
  | none =>
    if previous.bootId = some boot.bootId.val then replay payload boot i previous
    else rebind payload boot i previous

end

end SharedLvmThin.UpdatePolicy
