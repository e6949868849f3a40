import SharedLvmThin.PythonLines
import SharedLvmThin.Sha256
import SharedLvmThin.SnapshotConfig

/-! The snapshot closure observer. Two samples of the VM are compared and the verdict is a chain of
refusals over what they agree on. A probe of the host is a parameter, with what it returned or the
reason it failed for. -/

namespace SharedLvmThin.SnapshotObserver
open Perl Python KeyedLists

inductive Mode
  | ram
  | diskOnly
deriving DecidableEq

structure Request where
  vmid : String
  snapname : String
  mode : Mode

/-- The exceptions that the observer reports, and the one that it does not catch. -/
inductive Raised
  | reported (reason : String)
  | typeError
deriving DecidableEq

def reported {α : Type} : Except String α → Except Raised α
  | .ok a => .ok a
  | .error reason => .error (.reported reason)

def reportIf (bad : Bool) (reason : String) : Except Raised Unit := reported (dieIf bad reason)

structure Process where
  pid : String
  starttime : String
  exe : String
  exeIdentity : String
deriving DecidableEq

def noProcess : Process := ⟨"NONE", "NONE", "NONE", "NONE"⟩

structure Qmp where
  savevm : Python.Json
  runstate : Python.Json
  jobsBefore : Python.Json
  jobsAfter : Python.Json

/-- What one sample asks the host. -/
structure SampleProbes where
  status : Except String String
  processBefore : Except String Process
  config : Except String ByteArray
  native : Except String String
  qmp : Except String Qmp
  processAfter : Except String Process

structure VmstateProbes where
  content : String → Except String (List Python.Json)
  path : String → Except String String
  kind : String → Except String Unit

structure Probes where
  isLocal : Bool
  host : Except String Unit
  task : Except String Python.Json
  first : SampleProbes
  second : SampleProbes
  vmstate : VmstateProbes

structure Sample where
  process : Process
  configSha256 : String
  nativeSha256 : String
  sectionCount : ℕ
  vmstates : List (ℕ × String)
  emptyMtu : List ℕ
  expectedMtu : List String
  recordedMtu : List String
  malformedMtu : Bool
  mtuLineCount : ℕ
  qmpStatus : String
  blockJobsBefore : ℕ
  blockJobsAfter : ℕ
deriving DecidableEq

inductive Result
  | unknown
  | inProgress
  | recoveryRequired
  | observedClosed
deriving DecidableEq

structure Verdict where
  result : Result
  reason : String
  code : ℕ
deriving DecidableEq

/-! ## Samples -/

def truthy : Python.Json → Bool
  | .null => false
  | .bool b => b
  | .int n => n ≠ 0
  | .float text => text ∉ ["0.0", "-0.0"]
  | .str text => text ≠ ""
  | .list items => !items.isEmpty
  | .dict fields => !fields.isEmpty

/-- `classify_qmp`; a container as status cannot be looked up in a set. -/
def classifyQmp (value : Python.Json) : Except Raised String :=
  if !value.isDict then .ok "UNKNOWN"
  else if (value.get "status").isList || (value.get "status").isDict then .error .typeError
  else if (value.get "status").isText "active" then .ok "ACTIVE"
  else if (value.get "status").isText "completed" then .ok "COMPLETED"
  else if (value.get "status").isText "failed" then .ok "FAILED"
  else if !truthy value || !truthy (value.get "bytes") then .ok "IDLE_OBSERVED"
  else .ok "UNKNOWN"

/-- `runstate.get("status", "UNKNOWN")` -/
def runstateOf (runstate : Python.Json) : Python.Json :=
  if runstate.isDict then (runstate.fields.lookup "status").getD (.str "UNKNOWN") else .str
    "UNKNOWN"

def digest (raw : ByteArray) : String :=
  String.ofList (Sha256.hex (Sha256.run (raw.toList.map UInt8.toNat)))

def stoppedQmp : Qmp := ⟨.null, .dict [("status", .str "stopped")], .list [], .list []⟩

def qmpStatusOf (running : Bool) (q : Qmp) : Except Raised String :=
  if running then classifyQmp q.savevm else .ok "NOT_RUNNING"

/-- A probe that is only made of a running VM. -/
def whenRunning {α : Type} (running : Bool) (probe : Except String α) (otherwise : α) :
    Except Raised α :=
  if running then reported probe else .ok otherwise

/-- The part of `stable_sample` after the configuration was unpacked. -/
def sampleOf (running : Bool) (before : Process) (p : SampleProbes) (raw : ByteArray)
    (vmstates : List (ℕ × String)) (emptyMtu : List ℕ) (expected recorded : List String)
    (malformed : Bool) (mtuLineCount : ℕ) : Except Raised (Sample × Python.Json) := do
  let native ← reported p.native
  let q ← whenRunning running p.qmp stoppedQmp
  let after ← whenRunning running p.processAfter before
  reportIf (before ≠ after) "QEMU process identity changed during observation"
  reportIf (!q.jobsBefore.isList || !q.jobsAfter.isList) "QMP block-job evidence has unknown shape"
  let qmpStatus ← qmpStatusOf running q
  return ({ process := after
            configSha256 := digest raw
            nativeSha256 := native
            sectionCount := 1
            vmstates := vmstates
            emptyMtu := emptyMtu
            expectedMtu := expected
            recordedMtu := recorded
            malformedMtu := malformed
            mtuLineCount := mtuLineCount
            qmpStatus := qmpStatus
            blockJobsBefore := q.jobsBefore.items.length
            blockJobsAfter := q.jobsAfter.items.length }, runstateOf q.runstate)

/-- The configuration is unpacked into nine names; a tuple of five fields does not fit. -/
def unpacked (running : Bool) (before : Process) (p : SampleProbes) :
    ConfigTuple → Except Raised (Sample × Python.Json)
  | .five _ _ => .error (.reported "not enough values to unpack (expected 9, got 5)")
  | .nine raw _ vmstates emptyMtu expected recorded malformed mtuLineCount =>
    sampleOf running before p raw vmstates emptyMtu expected recorded malformed mtuLineCount

/-- `stable_sample`, with the run state apart. -/
def stableSample (r : Request) (p : SampleProbes) : Except Raised (Sample × Python.Json) := do
  let status ← reported p.status
  let running : Bool := strip status = "status: running"
  reportIf (!running && r.mode ≠ .diskOnly)
    "running VM/QMP identity disappeared before closure proof"
  let before ← whenRunning running p.processBefore noProcess
  let raw ← reported p.config
  let config ← reported (readSnapshotConfig r.snapname raw)
  unpacked running before p config

/-- `vmstate_identity` -/
def vmstateIdentity (p : VmstateProbes) (volid : String) : Except String Unit := do
  dieIf (':' ∉ volid.toList) "vmstate volume ID has no storage identity"
  let rows ← p.content (String.ofList (volid.toList.takeWhile (· ≠ ':')))
  dieIf ((rows.filter fun row => row.isDict && (row.get "volid").isText volid).length ≠ 1)
    "vmstate object is absent or ambiguous in storage inventory"
  let output ← p.path volid
  dieIf ((strip output).toList.head? ≠ some '/' || '\n' ∈ (strip output).toList)
    "referenced vmstate path is malformed"
  p.kind (strip output)

def referenced (p : VmstateProbes) (vmstates : List (ℕ × String)) : Except String Unit :=
  match vmstates with
  | [(_, volid)] => vmstateIdentity p volid
  | _ => .ok ()

/-- The probes of `main`, up to the first exception. -/
def gather (r : Request) (p : Probes) : Except Raised (Python.Json × Sample) := do
  reported p.host
  let task ← reported p.task
  let first ← stableSample r p.first
  let second ← stableSample r p.second
  reportIf (first.1 ≠ second.1 || !Python.Json.same first.2 second.2)
    "two bounded snapshot observations are not stable"
  reported (referenced p.vmstate first.1.vmstates)
  return (task, first.1)

/-! ## The verdict -/

def commaSeparated (names : List String) : String := String.ofList (join ',' names)

def recovery (reason : String) : Verdict := ⟨.recoveryRequired, reason, 1⟩

def closed : Verdict :=
  ⟨.observedClosed, "task, config, QMP idle observation and requested snapshot mode agree", 0⟩

/-- `task.get(name, missing)` -/
def taskField (task : Python.Json) (name missing : String) : Python.Json :=
  (task.fields.lookup name).getD (.str missing)

/-- The checks on the MTU metadata. -/
def mtuVerdict (mode : Mode) (s : Sample) : Verdict :=
  match mode with
  | .ram =>
    if s.mtuLineCount ≠ 1 || s.malformedMtu then
      recovery "RAM snapshot MTU metadata is absent, duplicate or malformed"
    else if s.emptyMtu.length ≠ 0 || commaSeparated s.expectedMtu = "" then
      recovery "RAM snapshot has no positive VirtIO MTU proof"
    else if commaSeparated s.expectedMtu ≠ commaSeparated s.recordedMtu then
      recovery "RAM snapshot MTU set is partial or unexpected"
    else closed
  | .diskOnly =>
    if s.mtuLineCount ≠ 0 then recovery "disk-only snapshot unexpectedly contains RAM MTU metadata"
    else closed

/-- The checks on the configuration. -/
def configVerdict (mode : Mode) (s : Sample) : Verdict :=
  if s.sectionCount ≠ 1 then recovery "exact snapshot section is absent or ambiguous"
  else if mode = .ram ∧ s.vmstates.length ≠ 1 then
    recovery "RAM snapshot lacks one exact vmstate reference"
  else if mode = .diskOnly ∧ s.vmstates.length ≠ 0 then
    recovery "disk-only snapshot unexpectedly references vmstate"
  else mtuVerdict mode s

/-- The decision chain of `main`. -/
def verdictOf (r : Request) (task : Python.Json) (s : Sample) : Verdict :=
  if (taskField task "id" "UNKNOWN").text ≠ r.vmid ||
      !(taskField task "type" "UNKNOWN").isText "qmsnapshot" then
    ⟨.unknown, "exact UPID is not the requested VM snapshot task", 2⟩
  else if !(taskField task "status" "UNKNOWN").isText "stopped" then
    ⟨.inProgress, "exact PVE task is not terminal", 3⟩
  else if !(taskField task "exitstatus" "UNAVAILABLE").isText "OK" then
    recovery "exact PVE task did not terminate OK"
  else if s.qmpStatus ≠ "IDLE_OBSERVED" ∧ ¬ (r.mode = .diskOnly ∧ s.qmpStatus = "NOT_RUNNING") then
    recovery "QMP save state is not idle; completed is not finalization proof"
  else if s.blockJobsBefore ≠ 0 || s.blockJobsAfter ≠ 0 then
    recovery "active QEMU block job makes closure ambiguous"
  else configVerdict r.mode s

/-- `main`, once the arguments are parsed. -/
def observe (r : Request) (p : Probes) : Except Raised Verdict :=
  if !p.isLocal then .ok ⟨.unknown, "UPID node is not the local QMP authority", 2⟩
  else
    match gather r p with
    | .error (.reported reason) => .ok ⟨.unknown, reason, 2⟩
    | .error .typeError => .error .typeError
    | .ok (task, s) => .ok (verdictOf r task s)

end SharedLvmThin.SnapshotObserver
