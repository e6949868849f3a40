import SharedLvmThin.CompatPlan

/-! The bundle that the gate of a node leaves behind, and the aggregator's inspection of it. -/

namespace SharedLvmThin.Compat
open Perl KeyedLists Python

/-! ## The gate -/

/-- What became of one tool. -/
structure ToolRun where
  returncode : Option Int
  timedOut : Bool
  error : Option String
  stdout : Option String
  stderr : Option String

structure Arguments where
  phase : String
  qualification : Option String
  candidateDebs : List String

structure Machine where
  host : String
  collector : String
  bootStart : String
  bootFinish : String
  started : Int
  finished : Int
  staging : String
  tools : String → ToolRun

structure StepSpec where
  name : String
  argv : List String
  timeout : Int
  accepted : List Int

def tool (name : String) : String := "/usr/libexec/pve-sharedlvmthin/" ++ name

def inventoryStep (args : Arguments) (name : String) : StepSpec :=
  match args.qualification with
  | none => ⟨name, [tool "sharedlvmthin-upstream-inventory"], 180, [0]⟩
  | some path => ⟨name, [tool "sharedlvmthin-upstream-inventory", "--compare", path], 180, [0, 3]⟩

def candidateStep (args : Arguments) (staging : String) : StepSpec where
  name := "candidate-inspect"
  argv := [tool "sharedlvmthin-candidate-inspect", "--current-inventory",
    staging ++ "/upstream-inventory.stdout"] ++ args.candidateDebs
  timeout := 300
  accepted := [3]

/-- The steps of `main`, in their order. -/
def stepSpecs (args : Arguments) (staging : String) : List StepSpec :=
  [⟨"contract-catalogue", [tool "sharedlvmthin-contract-check", "--catalogue",
      "/usr/share/pve-sharedlvmthin/pve-compatibility-contracts.json"], 60, [0]⟩,
    ⟨"lifecycle-adapter", [tool "sharedlvmthin-lifecycle-adapter-check"], 60, [3]⟩,
    ⟨"qmdestroy-contract", [tool "sharedlvmthin-qmdestroy-contract-check"], 60, [0]⟩,
    inventoryStep args "upstream-inventory",
    ⟨"compat-check", [tool "sharedlvmthin-compat-check"], 300, [0]⟩,
    ⟨"upgrade-check", [tool "sharedlvmthin-upgrade-check", "--fail-fast"], 1200, [0]⟩] ++
  (if args.candidateDebs = [] then [] else [candidateStep args staging]) ++
  [inventoryStep args "upstream-inventory-final"]

def isTruncated (raw : String) : Bool := raw.length > sizeLimit

def kept (raw : String) : String := String.ofList (raw.toList.take sizeLimit)

/-- `_write_limited` -/
def evidenceOf : Option String → Json
  | none => .null
  | some raw => .dict [("size", .int (min raw.length sizeLimit)),
      ("truncated", .bool (isTruncated raw)),
      ("sha256", .str (sha256 (kept raw)))]

def isComplete (run : ToolRun) : Bool :=
  run.error.isNone && !run.timedOut && run.stdout.isSome && run.stderr.isSome &&
    !run.stdout.any isTruncated && !run.stderr.any isTruncated

def hasPassed (spec : StepSpec) (run : ToolRun) : Bool :=
  isComplete run && run.returncode.any (· ∈ spec.accepted)

/-- `run_step` -/
def runStep (spec : StepSpec) (run : ToolRun) : Json :=
  .dict [("name", .str spec.name), ("argv", .list (spec.argv.map .str)),
    ("timeout_sec", .int spec.timeout), ("returncode", (run.returncode.map .int).getD .null),
    ("accepted_returncodes", .list (spec.accepted.map .int)), ("timed_out", .bool run.timedOut),
    ("error", (run.error.map .str).getD .null), ("complete", .bool (isComplete run)),
    ("passed", .bool (hasPassed spec run)), ("stdout", evidenceOf run.stdout),
    ("stderr", evidenceOf run.stderr)]

/-- A bundle directory: `gate-result.json` as it reads back with the size and the digest of its
bytes, and the outputs of the steps. -/
structure Bundle where
  document : Json
  size : Nat
  digest : String
  files : List (String × Option String)

def Bundle.file (bundle : Bundle) (name : String) : Option String :=
  (bundle.files.lookup name).join

def outputs (spec : StepSpec) (run : ToolRun) : List (String × Option String) :=
  [(spec.name ++ ".stdout", run.stdout.map kept), (spec.name ++ ".stderr", run.stderr.map kept)]

def limitations : List Json :=
  [.str "node evidence does not prove all-node cluster coverage",
    .str "physical mutation and mixed-version lab contracts are not executed by this command",
    .str "RETEST_REQUIRED is expected until exact lab result manifests are aggregated"]

/-- The steps that did not pass, and a boot in between. -/
def blockingSteps (machine : Machine) (specs : List StepSpec) : List String :=
  ((specs.filter fun spec => !hasPassed spec (machine.tools spec.name)).map StepSpec.name) ++
    if machine.bootFinish = machine.bootStart then [] else ["boot-identity-changed"]

def gateDocument (lib : Library) (file : PlanFile) (args : Arguments) (machine : Machine)
    (plan node : Json) : Json :=
  let specs := stepSpecs args machine.staging
  let blocking := blockingSteps machine specs
  .dict [("kind", .str "node-compatibility-gate"), ("schema", .int 1), ("phase", .str args.phase),
    ("run_id", plan.get "run_id"), ("collection_plan_sha256", .str (sha256 file.bytes)),
    ("cluster_id_sha256", plan.get "cluster_id_sha256"),
    ("upgrade_plan_sha256", plan.get "upgrade_plan_sha256"),
    ("collector_sha256", .str machine.collector),
    ("lab_runner_sha256", plan.get "lab_runner_sha256"),
    ("plugin_artifacts", plan.get "plugin_artifacts"),
    ("class_descriptors", plan.get "class_descriptors"),
    ("expected_storage_scope_sha256", node.get "storage_scope_sha256"),
    ("started_at", .str (lib.isoformat machine.started)),
    ("collected_at", .str (lib.isoformat machine.finished)), ("host", .str machine.host),
    ("boot_id_at_start", .str machine.bootStart), ("boot_id_at_finish", .str machine.bootFinish),
    ("verdict", .str (if blocking = [] then "RETEST_REQUIRED" else "BLOCKED")),
    ("scope", .str "node"), ("upgrade_authorized", .bool false),
    ("blocking_steps", .list (blocking.map .str)),
    ("steps", .list (specs.map fun spec => runStep spec (machine.tools spec.name))),
    ("limitations", .list limitations)]

def phases : List String := ["pre-upgrade", "post-reboot"]

/-- `main` of the gate. -/
def gate (lib : Library) (file : PlanFile) (args : Arguments) (machine : Machine) :
    Except String Bundle := do
  dieIf (args.phase ∉ phases) "argument --phase: invalid choice"
  let (plan, node) ← loadPlanOfGate lib file args.phase machine.host machine.started
  dieIf (!(plan.get "collector_sha256").isText machine.collector)
    "running collector does not match collection plan"
  let document := gateDocument lib file args machine plan node
  let bytes := document.indented 0 ++ "\n"
  return {
    document := document
    size := bytes.length
    digest := sha256 bytes
    files := (stepSpecs args machine.staging).flatMap fun spec =>
      outputs spec (machine.tools spec.name) }

/-! ## Evidence of a step -/

def requiredSteps : List String :=
  ["contract-catalogue", "qmdestroy-contract", "upstream-inventory", "compat-check",
    "upgrade-check",
    "upstream-inventory-final"]

def optionalSteps : List String := ["candidate-inspect"]

def stepTools : List (String × String) :=
  [("contract-catalogue", "sharedlvmthin-contract-check"),
    ("qmdestroy-contract", "sharedlvmthin-qmdestroy-contract-check"),
    ("upstream-inventory", "sharedlvmthin-upstream-inventory"),
    ("upstream-inventory-final", "sharedlvmthin-upstream-inventory"),
    ("compat-check", "sharedlvmthin-compat-check"),
      ("upgrade-check", "sharedlvmthin-upgrade-check"),
    ("candidate-inspect", "sharedlvmthin-candidate-inspect")]

/-- `os.path.basename` -/
def basename (path : String) : String :=
  String.ofList ((path.toList.splitOn '/').getLast?.getD [])

def isSize : Json → Bool
  | .int n => 0 ≤ n && n ≤ sizeLimit
  | _ => false

/-- `read_regular` of a file of the bundle. -/
def Bundle.read (bundle : Bundle) (name : String) : Except String String :=
  match bundle.file name with
  | none => .error ("No such file or directory: " ++ name)
  | some data => do
    dieIf (data.length > sizeLimit) "input is non-regular or exceeds its size limit"
    return data

/-- `_verify_evidence` -/
def verifyEvidence (bundle : Bundle) (step : Json) (name stream : String) : Except String String :=
    do
  let evidence := step.get stream
  dieIf (!evidence.isDict || !(evidence.get "truncated").isBool false ||
      !isSize (evidence.get "size") || !hexStr (evidence.get "sha256"))
    (name ++ ": invalid " ++ stream ++ " evidence metadata")
  let data ← bundle.read (name ++ "." ++ stream)
  dieIf (!(evidence.get "size").isNumber data.length || !(evidence.get "sha256").isText
    (sha256 data))
    (name ++ ": " ++ stream ++ " evidence digest/size mismatch")
  return data

def isToolOf (name : String) (argv : Json) : Bool :=
  match argv.items with
  | .str path :: _ => stepTools.lookup name = some (basename path)
  | _ => false

def acceptedCodes (name : String) (argv : Json) : List Int :=
  if name = "candidate-inspect" then [3]
  else if name ∈ ["upstream-inventory", "upstream-inventory-final"] ∧
      argv.items.any (Json.isText "--compare") then [0, 3]
  else [0]

def isAccepted (codes : List Int) : Json → Bool
  | .int n => n ∈ codes
  | _ => false

/-! ## Contents of the outputs -/

section
variable (lib : Library) (host : String)

def catalogueContent (data : String) : Except String Json := do
  let terminal ← strictLoad lib data
  dieIf (!terminal.isDict) "object has no attribute 'get'"
  dieIf (!(terminal.get "valid").isBool true || !(terminal.get "upgrade_authorized").isBool false)
    (host ++ ": contract catalogue terminal result is invalid")
  dieIf (!(terminal.get "qualification_ready").isBool true)
    (host ++ ": contract catalogue has unexecutable required scenarios")
  dieIf (!hexStr (terminal.get "scenario_registry_sha256"))
    (host ++ ": scenario registry identity is missing or malformed")
  dieIf (!(terminal.get "blocked_scenarios").isEmptyList)
    (host ++ ": contract catalogue reports blocked scenarios")
  return terminal

def startsWith (start line : String) : Bool := start.toList.isPrefixOf line.toList

def qmdestroyMarkers : List String :=
  ["QMDestroy_CONTRACT=QUALIFIED", "NATIVE_CONFIG_CAS=ABSENT",
    "VDISK_FREE_FAILURE_POLICY=WARN_AND_CONTINUE", "FINAL_CONFIG_REMOVAL=AFTER_DESTROY_VM",
    "FLEECING_CLEANUP_CALL=PINNED", "IPAM_CLEANUP_CALL=PINNED", "MUTATION_ADAPTER=QUALIFIED"]

def isQualifiedDestroy (lines : List String) : Bool :=
  qmdestroyMarkers.all (fun marker => lines.count marker = 1) &&
    (lines.filter fun line =>
      line ∈ ["CONTRACT_VARIANT=API14", "CONTRACT_VARIANT=API15"]).length = 1 &&
    (lines.filter fun line =>
      startsWith "CONTRACT_SHA256=" line && isHex (afterFirst '=' line)).length = 1 &&
    !lines.any (startsWith "QMDestroy_CONTRACT=RETEST_REQUIRED")

/-- The content check of one output; the catalogue leaves its terminal result. -/
def checkContent (name data : String) : Except String (Option Json) :=
  if name = "contract-catalogue" then do
    let terminal ← catalogueContent lib host data
    return some terminal
  else if name = "qmdestroy-contract" then do
    let text ← lib.decode data
    dieIf (!isQualifiedDestroy (splitlines text))
      (host ++ ": qmdestroy contract terminal markers are incomplete or unsafe")
    return none
  else if name = "compat-check" then do
    let text ← lib.decode data
    let lines := splitlines text
    dieIf (lines.count "COMPATIBILITY=PASS" ≠ 1 || "COMPATIBILITY=FAIL" ∈ lines)
      (host ++ ": compatibility terminal marker is not a unique PASS")
    return none
  else if name = "upgrade-check" then do
    let text ← lib.decode data
    let lines := splitlines text
    dieIf (lines.count "UPGRADE_SAFE=YES" ≠ 1 || lines.count "UPGRADE_SCAN_COMPLETE=YES" ≠ 1 ||
        "UPGRADE_SAFE=NO" ∈ lines || "UPGRADE_STORAGE_RESULT=FAIL" ∈ lines)
      (host ++ ": upgrade terminal markers are incomplete or unsafe")
    return none
  else return none

/-! ## Checks across the outputs -/

structure NodeEvidence where
  host : String
  bootId : String
  collectedAt : String
  startedAt : String
  contractFingerprint : String
  catalogueSha256 : String
  scenarioRegistrySha256 : Json
  packageFlavor : Json
  runningKernel : Json
  pluginPayloadSha256 : Json
  candidates : List (List String)
  resultSha256 : String

def registryPath : String := "/usr/share/pve-sharedlvmthin/pve-lab-scenarios.json"

def loadOutput (bundle : Bundle) (name : String) : Except String Json := do
  let data ← bundle.read name
  strictLoad lib data

/-- The candidate rows of one inspection, unsorted. -/
def candidateRows (rows : List Json) : Except String (List (List String)) :=
  rows.mapM fun row => do
    let identity ← row.item "identity"
    let package ← identity.item "package"
    let version ← identity.item "version"
    let architecture ← identity.item "architecture"
    let digest ← row.item "deb_sha256"
    dieIf (!([package, version, architecture, digest].all Json.isStr))
      (host ++ ": inspected candidate set differs from collection plan")
    return [package.text, version.text, architecture.text, digest.text]

def inspectedCandidates (bundle : Bundle) (fingerprint : String) :
    Except String (List (List String)) := do
  let candidate ← loadOutput lib bundle "candidate-inspect.stdout"
  dieIf (!candidate.isDict) "object has no attribute 'get'"
  dieIf (!(candidate.get "kind").isText "candidate-static-inspection" ||
      !(candidate.get "verdict").isText "RETEST_REQUIRED" ||
      !(candidate.get "candidate_runtime_authorized").isBool false ||
      !(candidate.get "errors").isEmptyList ||
      !(candidate.get "current_contract_fingerprint").isText fingerprint)
    (host ++ ": candidate inspection is incomplete or misbound")
  let rows ← candidateRows host (candidate.get "packages").items
  dieIf (rows = [] || !rows.all fun row => isHex (row.getLast?.getD ""))
    (host ++ ": candidate package set is empty or malformed")
  return sortBy id rows

/-- The checks of `inspect_bundle` behind its loop over the steps. -/
def crossChecks (bundle : Bundle) (plan : Plan) (bootId scope : String) (started collected : Int)
    (terminal : Json) (hasCandidate : Bool) : Except String NodeEvidence := do
  let document ← loadOutput lib bundle "upstream-inventory.stdout"
  let inventory ← document.attr "inventory"
  dieIf (!inventory.isDict || !(inventory.get "kind").isText "inventory" ||
      !(inventory.get "collection_complete").isBool true || !(inventory.get "host").isText host)
    (host ++ ": upstream inventory is incomplete or belongs to another host")
  let fingerprint := inventory.get "contract_fingerprint"
  dieIf (!hexStr fingerprint) (host ++ ": invalid contract fingerprint")
  let bootHash := sha256 (bootId ++ "\n")
  dieIf (!(inventory.get "boot_id_file_sha256").isText bootHash)
    (host ++ ": gate and inventory boot identities differ")
  let contract ← inventory.attrOrEmpty "contract"
  let catalogue ← contract.attrOrEmpty "compatibility_contract_catalogue"
  dieIf (!catalogue.isDict || !(catalogue.get "ok").isBool true || !hexStr (catalogue.get "sha256"))
    (host ++ ": compatibility catalogue evidence is incomplete")
  let criticalFiles ← contract.attrOrEmpty "critical_files"
  let registry ← criticalFiles.attr registryPath
  dieIf (!registry.same (terminal.get "scenario_registry_sha256"))
    (host ++ ": scenario registry differs between catalogue and inventory")
  dieIf (sha256 (inventory.get "contract").dumps ≠ fingerprint.text)
    (host ++ ": contract fingerprint does not match canonical contract")
  let storage ← contract.attrOrEmpty "storage_contract"
  let observedScope ← storage.attr "canonical_sha256"
  dieIf (!observedScope.isText scope)
    (host ++ ": observed storage scope differs from collection plan")
  let finalDocument ← loadOutput lib bundle "upstream-inventory-final.stdout"
  let finalInventory ← finalDocument.attr "inventory"
  dieIf (!finalInventory.isDict || !(finalInventory.get "collection_complete").isBool true ||
      !(finalInventory.get "host").isText host ||
      !(finalInventory.get "contract_fingerprint").isText fingerprint.text ||
      !(finalInventory.get "boot_id_file_sha256").isText bootHash)
    (host ++ ": boot/configuration changed during collection")
  dieIf (sha256 (finalInventory.get "contract").dumps ≠ fingerprint.text)
    (host ++ ": final contract fingerprint is not canonical")
  let candidates ←
    (if hasCandidate then inspectedCandidates lib host bundle fingerprint.text else pure [])
  dieIf (candidates ≠ plan.candidates)
    (host ++ ": inspected candidate set differs from collection plan")
  let payload ← contract.attrOrEmpty "installed_profile_payload"
  let payloadSha256 ← payload.attr "payload_sha256"
  return {
    host := host
    bootId := bootId
    collectedAt := lib.isoformat collected
    startedAt := lib.isoformat started
    contractFingerprint := fingerprint.text
    catalogueSha256 := (catalogue.get "sha256").text
    scenarioRegistrySha256 := registry
    packageFlavor := contract.get "package_flavor"
    runningKernel := contract.get "running_kernel"
    pluginPayloadSha256 := payloadSha256
    candidates := candidates
    resultSha256 := bundle.digest }

/-! ## The inspection -/

/-- One round of the loop over the steps. -/
def inspectStep (bundle : Bundle) (step : Json) (name : String) : Except String (Option Json) := do
  dieIf (!(step.get "complete").isBool true || !(step.get "timed_out").isBool false ||
      !(step.get "error").isNull)
    (host ++ ": incomplete or failed node step: " ++ name)
  dieIf (!(step.get "argv").isList || !isToolOf name (step.get "argv"))
    (host ++ ": unexpected tool identity for " ++ name)
  let stdout ← verifyEvidence bundle step name "stdout"
  let _ ← verifyEvidence bundle step name "stderr"
  dieIf (!isAccepted (acceptedCodes name (step.get "argv")) (step.get "returncode"))
    (host ++ ": unacceptable return code for " ++ name)
  checkContent lib host name stdout

/-- The names that passed and the terminal result of the catalogue. -/
structure Passed where
  names : List String
  terminal : Option Json

def inspectSteps (bundle : Bundle) (passed : Passed) : List Json → Except String Passed
  | [] => .ok passed
  | step :: rest => do
    dieIf (!step.isDict || !(step.get "name").isStr) (host ++ ": malformed node step")
    let name := (step.get "name").text
    dieIf (name ∈ passed.names || name ∉ requiredSteps ++ optionalSteps)
      (host ++ ": duplicate or unknown node step: " ++ name)
    let terminal ← inspectStep lib host bundle step name
    inspectSteps bundle ⟨passed.names ++ [name], terminal.or passed.terminal⟩ rest

end

/-- The fields a bundle shares with its plan. -/
def planFields : List String :=
  ["run_id", "cluster_id_sha256", "upgrade_plan_sha256", "collector_sha256", "lab_runner_sha256",
    "plugin_artifacts", "class_descriptors"]

def second : Int := 1000000

def inspectBundle (lib : Library) (bundle : Bundle) (plan : Plan) (planSha256 : String)
    (now maxAgeSec : Int) : Except String NodeEvidence := do
  dieIf (bundle.size > sizeLimit) "input is non-regular or exceeds its size limit"
  let document := bundle.document
  dieIf (!(document.get "kind").isText "node-compatibility-gate" ||
      !(document.get "schema").isNumber 1) "unsupported node gate schema"
  dieIf (!(document.get "phase").same (plan.document.get "phase")) "node gate phase mismatch"
  dieIf (!(document.get "collection_plan_sha256").isText planSha256 ||
      !planFields.all fun field => (document.get field).same (plan.document.get field))
    "node gate belongs to another run or expected plan"
  let started ← parseTime lib (document.get "started_at")
  let collected ← parseTime lib (document.get "collected_at")
  dieIf (started > collected || collected - started > 1800 * second)
    "node gate collection interval is invalid or excessive"
  dieIf (now - collected < -300 * second || now - collected > maxAgeSec * second)
    "node gate evidence is stale or from the future"
  let host := document.get "host"
  let bootId := document.get "boot_id_at_start"
  dieIf (!host.isStr || !isHost host.text) "invalid node hostname"
  dieIf (!bootId.isStr || !isUuid bootId.text) (host.text ++ ": invalid boot identity")
  dieIf (!(document.get "boot_id_at_finish").isText bootId.text)
    (host.text ++ ": boot identity changed during collection")
  match plan.nodes.lookup host.text with
  | none => .error (host.text ++ ": storage eligibility/scope plan mismatch")
  | some scope => do
    dieIf (!(document.get "expected_storage_scope_sha256").isText scope)
      (host.text ++ ": storage eligibility/scope plan mismatch")
    dieIf (!(document.get "upgrade_authorized").isBool false)
      (host.text ++ ": node gate contains forbidden authorization")
    dieIf (!(document.get "verdict").isText "RETEST_REQUIRED" ||
        !(document.get "blocking_steps").isEmptyList)
      (host.text ++ ": node gate is not a complete non-blocking observation")
    dieIf (!(document.get "steps").isList) (host.text ++ ": node steps are malformed")
    let passed ← inspectSteps lib host.text bundle ⟨[], none⟩ (document.get "steps").items
    dieIf (!requiredSteps.all (· ∈ passed.names)) (host.text ++ ": required node steps are missing")
    match passed.terminal with
    | none => .error (host.text ++ ": contract catalogue evidence is missing")
    | some terminal =>
      crossChecks lib host.text bundle plan bootId.text scope started collected terminal
        ("candidate-inspect" ∈ passed.names)

end SharedLvmThin.Compat
