import SharedLvmThin.Effects
import SharedLvmThin.DestroyConfig

/-! The guarded VM destroy executor. Every callback and native call is answered by the
environment, separately at each place where the executor makes it, with any value or a death.
The executor leaves a trace: runtime checks, publications, effects, observations and
failures, a failure being recorded where it arises, also when a caller catches it. -/

namespace SharedLvmThin.VMDestroy
open Perl Effects

inductive Stage
  | prepared | dispatched | storageAbsent | finalizing | complete | partialOrUnknown
deriving DecidableEq

def Stage.text : Stage → String
  | .prepared => "PREPARED"
  | .dispatched => "DISPATCHED"
  | .storageAbsent => "STORAGE_ABSENT"
  | .finalizing => "FINALIZING"
  | .complete => "COMPLETE"
  | .partialOrUnknown => "PARTIAL_OR_UNKNOWN"

inductive NativeEffect
  | destroyVm | removeVmAccess | removeVmfwConf | destroyConfig
deriving DecidableEq

inductive Event
  | runtime (value : Value)
  | published (stage : Stage) (receipt : Value) (acked : Bool)
  | effect (native : NativeEffect)
  | observed (state : Value)
  | failed (message : String)

/-- The native `destroy_vm` as the executor sees it: it calls the two replaced helpers when
it likes, goes on as it likes after a helper returned or died, and ends. -/
inductive NativeRun
  | done (outcome : Except String Unit)
  | cleanupFleecing (argumentsExact : Bool) (returned died : NativeRun)
  | deleteIpams (argumentsExact : Bool) (conf : Value) (returned died : NativeRun)

/-- The places where the configuration is loaded. -/
inductive LoadSite
  | locked | preflight | fresh | dispatch | helper (n : ℕ) | zombie

inductive FinalField
  | acl | firewall | config
deriving DecidableEq

def FinalField.name : FinalField → String
  | .acl => "acl"
  | .firewall => "firewall"
  | .config => "config"

structure Env where
  root : Bool
  loadPve : Except String Unit
  cfsUpdate : Except String Unit
  lockConfig : Except String Unit
  verifyRuntime : Except String Value
  verifyRuntimeAgain : Except String Value
  loadConfig : LoadSite → Except String Value
  parsers : LoadSite → ConfigParsers
  checkLock : Except String Unit
  checkProtection : Except String Unit
  checkRunning : Except String Bool
  serviceIsConfigured : Except String Bool
  checkForExistingJobs : Except String Unit
  storageConfig : Except String Value
  preparePlan : Except String Value
  validatePlan : Except String (List String)
  journal : Stage → Except String Value
  journalFailure : Except String Value
  destroyVm : NativeRun
  observePlan : Except String Value
  observeBefore : FinalField → Except String Value
  observeAfter : FinalField → Except String Value
  removeEffect : FinalField → Except String Unit

structure ExecState where
  trace : List Event
  evidence : Value
  cleanupCalls : ℕ
  ipamCalls : ℕ
  helperLoads : ℕ
  storageAbsent : Bool

abbrev Exec := Prog ExecState

def emit (event : Event) : Exec Unit := update fun s => { s with trace := s.trace ++ [event] }

def die {α : Type} (message : String) : Exec α := do
  emit (.failed message)
  throwMessage message

/-- The answer of a callback, a native call or a pure check. -/
def ask {α : Type} (answer : Except String α) : Exec α :=
  match answer with
  | .ok a => pure a
  | .error message => die message

def require (holds : Bool) (message : String) : Exec Unit :=
  if holds then pure () else die message

def note (name : String) (value : Value) : Exec Unit :=
  update fun s => { s with evidence := s.evidence.set name value }

def isAck (answer : Except String Value) : Bool :=
  match answer with
  | .ok v => v.isDefined && !v.isRef && v.text = "1"
  | .error _ => false

/-- `_record`: the journal is called with a copy and has to confirm with `1`. -/
def record (answer : Except String Value) (stage : Stage) (receipt : Value) : Exec Unit := do
  let receipt ← ask receipt.copy
  emit (.published stage receipt (isAck answer))
  let _ ← ask answer
  require (isAck answer) ("VM destroy journal did not confirm '" ++ stage.text ++ "'")

/-- `{ %$receipt, evidence => \%evidence }` -/
def withEvidence (receipt : Value) (s : ExecState) : Value := receipt.set "evidence" s.evidence

/-! ## Finalization -/

/-- `_finalization_state` -/
def finalizationState (answer : Except String Value) (vmid : String) (receipt : Value) :
    Exec Value := do
  let _ ← ask receipt.copy
  let state ← ask answer
  ask (validateFinalizationState vmid state)
  emit (.observed state)
  return state

def observeIdentity (answer : Except String Value) (vmid : String) (receipt zombie : Value) :
    Exec Value := do
  let state ← finalizationState answer vmid receipt
  ask (assertFinalizationIdentity state zombie)
  return state

/-- One effect with its intent, the re-observation and the required absence. -/
def removeVerified (env : Env) (vmid : String) (receipt zombie : Value) (field : FinalField)
    (native : NativeEffect) (evidenceName nativeName : String) : Exec Value := do
  note evidenceName (.str "INTENT")
  emit (.effect native)
  ask (env.removeEffect field)
  let state ← observeIdentity (env.observeAfter field) vmid receipt zombie
  require ((state.get field.name).text = "ABSENT")
    ("VM destroy " ++ field.name ++ " absence is UNKNOWN after " ++ nativeName)
  note evidenceName (.str "ABSENT_VERIFIED")
  return state

/-- One round of the loop over the ACL and firewall effects. -/
def removeScoped (env : Env) (vmid : String) (receipt zombie : Value) (field : FinalField)
    (native : NativeEffect) (nativeName : String) : Exec Unit := do
  let state ← observeIdentity (env.observeBefore field) vmid receipt zombie
  if (state.get field.name).text = "ABSENT" then pure ()
  else do
    let _ ← removeVerified env vmid receipt zombie field native field.name nativeName
    pure ()

/-- The configuration goes last and only as the exact zombie. -/
def removeConfig (env : Env) (vmid : String) (receipt zombie state : Value) : Exec Value :=
  if (state.get "config").text = "PRESENT" then do
    let digest ← ask (digestOf zombie)
    require ((state.get "config_sha256").text = digest)
      "VM destroy zombie identity changed during finalization"
    removeVerified env vmid receipt zombie .config .destroyConfig "config_remove" "destroy_config"
  else pure state

/-- `_run_finalization` -/
def runFinalization (env : Env) (vmid : String) (receipt zombie : Value) : Exec Unit := do
  removeScoped env vmid receipt zombie .acl .removeVmAccess "remove_vm_access"
  removeScoped env vmid receipt zombie .firewall .removeVmfwConf "remove_vmfw_conf"
  let state ← observeIdentity (env.observeBefore .config) vmid receipt zombie
  let state ← removeConfig env vmid receipt zombie state
  require ((state.get "acl").text = "ABSENT" && (state.get "firewall").text = "ABSENT")
    "VM destroy ACL/firewall absence changed before completion"

/-! ## The native call -/

/-- What the preflight fixed. -/
structure Locked where
  storecfg : Value
  before : String
  receipt : Value
  runtime : Value
  objectIds : List String

/-- The configuration, loaded again, still passes and reads as before. -/
def reloadConfig (env : Env) (site : LoadSite) (vmid : String) (locked : Locked)
    (message : String) : Exec Unit := do
  let current ← ask (env.loadConfig site)
  let _ ← ask (configVolids (env.parsers site) vmid current locked.storecfg)
  let text ← ask current.canonical
  require (text = locked.before) message

def helperReload (env : Env) (vmid : String) (locked : Locked) (message : String) :
    Exec Unit := do
  let s ← read
  update fun s => { s with helperLoads := s.helperLoads + 1 }
  reloadConfig env (.helper s.helperLoads) vmid locked message

/-- The replacement of `cleanup_fleecing_images`. -/
def cleanupHelper (env : Env) (vmid : String) (locked : Locked) (argumentsExact : Bool) :
    Exec Unit := do
  require argumentsExact "VM destroy fleecing cleanup contract drift"
  let s ← read
  update fun s => { s with cleanupCalls := s.cleanupCalls + 1 }
  require (s.cleanupCalls = 0) "VM destroy fleecing cleanup contract drift"
  helperReload env vmid locked "VM destroy config changed at fleecing boundary"

/-- The replacement of `delete_ifaces_ipams_ips`. -/
def ipamHelper (env : Env) (vmid : String) (locked : Locked) (argumentsExact : Bool)
    (conf : Value) : Exec Unit := do
  require (argumentsExact && conf.isHash) "VM destroy IPAM cleanup contract drift"
  let s ← read
  update fun s => { s with ipamCalls := s.ipamCalls + 1 }
  require (s.ipamCalls = 0) "VM destroy IPAM cleanup contract drift"
  require (!conf.fields.any fun field => isNetKey field.1)
    "VM destroy network appeared at IPAM boundary"
  helperReload env vmid locked "VM destroy config changed at IPAM boundary"

/-- The replaced helpers hand their death to the native code, which decides what follows. -/
def runNative (env : Env) (vmid : String) (locked : Locked) : NativeRun → Exec Unit
  | .done outcome => ask outcome
  | .cleanupFleecing exact returned died => do
    match ← attempt (cleanupHelper env vmid locked exact) with
    | .ok _ => runNative env vmid locked returned
    | .error _ => runNative env vmid locked died
  | .deleteIpams exact conf returned died => do
    match ← attempt (ipamHelper env vmid locked exact conf) with
    | .ok _ => runNative env vmid locked returned
    | .error _ => runNative env vmid locked died

/-! ## Execution -/

def isVmid (vmid : String) : Bool :=
  match (body vmid).toList with
  | [] => false
  | c :: rest => '1' ≤ c && c ≤ '9' && rest.all Char.isDigit

def isTxid (txid : String) : Bool := exactly 32 isLowerHex (body txid)

def isQualified (runtime : Value) : Bool :=
  runtime.isHash && (runtime.get "status").text = "QUALIFIED" && isSha256 (runtime.get "contract_sha256")

/-- `0 + $vmid` on a text that passed the pattern. -/
def numberOf (vmid : String) : Value := .num (numify vmid).text

def strings (list : List String) : Value := .array (list.map .str)

/-- Everything before the first publication. -/
def preflight (env : Env) (vmid txid : String) : Exec Locked := do
  let runtime ← ask env.verifyRuntime
  emit (.runtime runtime)
  require (isQualified runtime) "VM destroy runtime is not qualified"
  let conf ← ask (env.loadConfig .locked)
  ask env.checkLock
  ask env.checkProtection
  let running ← ask env.checkRunning
  require (!running) "VM destroy refuses running VM"
  let managed ← ask env.serviceIsConfigured
  require (!managed) "VM destroy refuses HA resource"
  ask env.checkForExistingJobs
  let storecfg ← ask env.storageConfig
  require (storecfg.isHash && (storecfg.get "ids").isHash) "VM destroy storage inventory is unknown"
  let volids ← ask (configVolids (env.parsers .locked) vmid conf storecfg)
  let before ← ask conf.canonical
  let _ ← ask (Value.array [conf, storecfg, strings volids]).copy
  let plan ← ask env.preparePlan
  let objectIds ← ask env.validatePlan
  let again ← ask (env.loadConfig .preflight)
  let text ← ask again.canonical
  require (text = before) "VM destroy config changed during preflight"
  let receipt ← ask (Value.hash [("schema", .num "1"), ("txid", .str txid), ("vmid", numberOf vmid),
    ("config", conf), ("runtime", runtime), ("plan", plan)]).copy
  let lockedDigest ← ask (Sha256.sha256Hex before)
  update fun s => { s with evidence := .hash [("locked_config_sha256", .str lockedDigest),
    ("raw_config_sha256", plan.get "config_sha256"), ("object_ids", strings objectIds),
    ("native", .str "NOT_DISPATCHED"), ("acl", .str "NOT_ATTEMPTED"),
    ("firewall", .str "NOT_ATTEMPTED"), ("config_remove", .str "NOT_ATTEMPTED")] }
  return ⟨storecfg, before, receipt, runtime, objectIds⟩

/-- The two publications before the dispatch. -/
def announce (env : Env) (vmid : String) (locked : Locked) : Exec Unit := do
  let s ← read
  record (env.journal .prepared) .prepared (withEvidence locked.receipt s)
  reloadConfig env .fresh vmid locked "VM destroy config changed before dispatch"
  note "native" (.str "DISPATCH_INTENT")
  let s ← read
  record (env.journal .dispatched) .dispatched (withEvidence locked.receipt s)

/-- The last checks and the native destroy. -/
def dispatch (env : Env) (vmid : String) (locked : Locked) : Exec Unit := do
  reloadConfig env .dispatch vmid locked "VM destroy config changed after dispatch journal"
  let runtime ← ask env.verifyRuntimeAgain
  emit (.runtime runtime)
  require runtime.isHash "VM destroy runtime/contract changed before native dispatch"
  let text ← ask runtime.canonical
  let expected ← ask locked.runtime.canonical
  require (text = expected) "VM destroy runtime/contract changed before native dispatch"
  update fun s => { s with cleanupCalls := 0, ipamCalls := 0, helperLoads := 0 }
  emit (.effect .destroyVm)
  runNative env vmid locked env.destroyVm
  note "native" (.str "RETURNED")
  let s ← read
  note "fleecing_noop_calls" (.num (toString s.cleanupCalls))
  note "ipam_noop_calls" (.num (toString s.ipamCalls))
  require (s.cleanupCalls = 1) "VM destroy fleecing callback count changed"
  require (s.ipamCalls = 1) "VM destroy IPAM callback count changed"

def isAbsenceProof (proof : Value) : Bool :=
  proof.isHash && (proof.get "status").text = "ABSENT" &&
    (proof.get "foreign_unchanged").text = "YES" && (proof.get "object_ids").isArray

/-- The storage is proven absent and the zombie is exact. -/
def proveStorageAbsent (env : Env) (locked : Locked) : Exec Value := do
  let _ ← ask locked.receipt.copy
  let proof ← ask env.observePlan
  note "storage_proof" proof
  require (isAbsenceProof proof) "VM destroy storage absence is UNKNOWN"
  let text ← ask (proof.get "object_ids").canonical
  let expected ← ask (strings locked.objectIds).canonical
  require (text = expected) "VM destroy storage absence is UNKNOWN"
  let zombie ← ask (env.loadConfig .zombie)
  let exact ← ask (isZombie zombie)
  require exact "VM destroy exact zombie config is absent"
  let digest ← ask (digestOf zombie)
  note "zombie_config_sha256" (.str digest)
  return zombie

/-- The body of the outer `eval`. -/
def guarded (env : Env) (vmid : String) (locked : Locked) : Exec Unit := do
  dispatch env vmid locked
  let zombie ← proveStorageAbsent env locked
  let s ← read
  record (env.journal .storageAbsent) .storageAbsent (withEvidence locked.receipt s)
  update fun s => { s with storageAbsent := true }
  let s ← read
  record (env.journal .finalizing) .finalizing ((withEvidence locked.receipt s).set "next_effects"
    (strings ["remove_vm_access", "remove_vmfw_conf", "destroy_config"]))
  runFinalization env vmid locked.receipt zombie
  let s ← read
  record (env.journal .complete) .complete (withEvidence locked.receipt s)

def failureStage (storageAbsent : Bool) : Stage :=
  if storageAbsent then .finalizing else .partialOrUnknown

/-- The path after a failure: one record, no effect. -/
def recordFailure (env : Env) (locked : Locked) (error : String) : Exec Value := do
  let s ← read
  let journaled ← attempt (record env.journalFailure (failureStage s.storageAbsent)
    (((withEvidence locked.receipt s).set "error" (.str error)).set "recovery_required"
      (.num (if s.storageAbsent then "1" else "0"))))
  let journalError := match journaled with
    | .ok _ => ""
    | .error message => message
  die ("VM destroy " ++
    (if s.storageAbsent then "FINALIZING recovery required" else "PARTIAL_OR_UNKNOWN") ++
    "; no redispatch: " ++ error ++ journalError)

def execute (env : Env) (vmid txid : Option String) : Exec Value := do
  require env.root "VM destroy requires root"
  require (vmid.any isVmid && txid.any isTxid) "invalid VM destroy identity"
  let vmid := vmid.getD ""
  let txid := txid.getD ""
  ask env.loadPve
  ask env.cfsUpdate
  ask env.lockConfig
  let locked ← preflight env vmid txid
  announce env vmid locked
  match ← attempt (guarded env vmid locked) with
  | .ok _ =>
    return .hash [("status", .str "COMPLETE"), ("txid", .str txid), ("vmid", numberOf vmid)]
  | .error error => recordFailure env locked error

def idle : ExecState := ⟨[], .hash [], 0, 0, 0, false⟩

/-- The trace of one whole execution. -/
def traceOf (env : Env) (vmid txid : Option String) : List Event := (execute env vmid txid idle).1.trace

end SharedLvmThin.VMDestroy
